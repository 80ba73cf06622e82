/-
The time of secure-world calls (`OpteeRpcCmdGetTime`).

The handler turns the performance counter into seconds and nanoseconds. The product of
the counter and the number of nanoseconds in a second is kept in one machine word.

* `div_lost_word_iff`: when a quotient survives the loss of the upper word of its
  dividend.
* `getTime_exact_iff`: when the time is exact, and that exact times do not decrease.
-/
import Mathlib.Tactic.Linarith
import MuRockchip.Optee.MsgCodec

namespace MuRockchip.Optee

open MuRockchip.Base

variable {slots : Nat}

/-! ### The handler -/

def nanosPerSec : UInt64 := 1000000000

/-- `OpteeRpcCmdGetTime`, with what `GetPerformanceCounter` and
`GetPerformanceCounterProperties` return. -/
def opteeRpcCmdGetTime (msgArg : MsgArg (slots + 1)) (ticks freq : UInt64) :
    TeecResult × MsgArg (slots + 1) :=
  if msgArg.numParams ≠ 1 then (TeecResult.errorBadParameters, msgArg)
  else if msgArg.param.type ≠ msgAttrTypeValueOutput.toUInt64 then
    (TeecResult.errorBadParameters, msgArg)
  else
    let elapsedSeconds := ticks / freq
    let elapsedNanos := (ticks * nanosPerSec) / freq
    let param : MsgParam :=
      { msgArg.param with
        word0 := ticks / freq
        word1 := elapsedNanos - (elapsedSeconds * nanosPerSec) }
    (TeecResult.success, msgArg.setParam param)

/-! ### Exact time -/

/-- Seconds and nanoseconds are the exact time at a reading of the counter. -/
structure TimeExact (ticks freq : Nat) (param : MsgParam) : Prop where
  seconds : param.word0.toNat = ticks / freq
  nanos : param.word1.toNat < 10 ^ 9
  total : param.word0.toNat * 10 ^ 9 + param.word1.toNat = ticks * 10 ^ 9 / freq

/-- One time is not after another. -/
def MsgParam.NotAfter (first second : MsgParam) : Prop :=
  first.word0 < second.word0 ∨ (first.word0 = second.word0 ∧ first.word1 ≤ second.word1)

/-- What of the product of the counter and the nanoseconds in a second lies above the
machine word. -/
def lostPart (ticks : UInt64) : Nat := ticks.toNat * 10 ^ 9 / 2 ^ 64

/-- A quotient survives the loss of the upper word of its dividend exactly when the
divisor divides that word. -/
theorem div_lost_word_iff (product : Nat) {divisor word : Nat} (positive : 0 < divisor)
    (fits : divisor ≤ word) :
    product % word / divisor = product / divisor % word ↔ divisor ∣ product / word := by
  have rest := Nat.mod_lt product (positive.trans_le fits)
  have split := Nat.div_add_mod product word
  have upper := Nat.div_add_mod (product / word) divisor
  have left := Nat.mod_lt (product / word) positive
  set low := product % word
  set high := product / word
  set excess := high % divisor
  -- the quotient: whole words, and the quotient of what the divisor leaves of the upper word
  have quotient : product / divisor =
      (excess * word + low) / divisor + (high / divisor) * word := by
    have regroup : product = (excess * word + low) + divisor * ((high / divisor) * word) := by
      nlinarith
    rw [regroup, Nat.add_mul_div_left _ _ positive]
  have small : (excess * word + low) / divisor < word := by
    rw [Nat.div_lt_iff_lt_mul positive]
    nlinarith
  rw [quotient, Nat.add_mul_mod_self_right, Nat.mod_eq_of_lt small, Nat.dvd_iff_mod_eq_zero]
  constructor
  · intro same
    by_contra nonzero
    have oneWord : word ≤ excess * word := Nat.le_mul_of_pos_left word (Nat.pos_of_ne_zero nonzero)
    have more : low / divisor + 1 ≤ (excess * word + low) / divisor := by
      rw [← Nat.add_div_right low positive]
      exact Nat.div_le_div_right (by omega)
    omega
  · intro none
    have zero : excess = 0 := none
    rw [zero, Nat.zero_mul, Nat.zero_add]

/-- The nanoseconds of an exact time are below one second. -/
theorem nanos_bounds (ticks : Nat) {freq : Nat} (positive : 0 < freq) :
    ticks / freq * 10 ^ 9 ≤ ticks * 10 ^ 9 / freq ∧
      ticks * 10 ^ 9 / freq < ticks / freq * 10 ^ 9 + 10 ^ 9 := by
  constructor
  · rw [Nat.le_div_iff_mul_le positive, Nat.mul_right_comm]
    exact Nat.mul_le_mul_right (10 ^ 9) (Nat.div_mul_le_self ticks freq)
  · have whole := Nat.div_add_mod ticks freq
    have rest := Nat.mod_lt ticks positive
    rw [Nat.div_lt_iff_lt_mul positive]
    nlinarith

/-- A difference of two words has the exact value when its minuend kept it modulo the
word, and the value is below one second. -/
theorem wrapped_sub_eq_iff {whole part quotient : Nat} (lower : whole ≤ quotient)
    (upper : quotient < whole + 10 ^ 9) (small : part < 2 ^ 64) :
    whole + (2 ^ 64 - whole % 2 ^ 64 + part) % 2 ^ 64 = quotient ↔ part = quotient % 2 ^ 64 := by
  omega

theorem opteeRpcCmdGetTime_request {msgArg : MsgArg (slots + 1)} (one : msgArg.numParams = 1)
    (value : msgArg.param.type = msgAttrTypeValueOutput.toUInt64) (ticks freq : UInt64) :
    (opteeRpcCmdGetTime msgArg ticks freq).1 = TeecResult.success ∧
      (opteeRpcCmdGetTime msgArg ticks freq).2.param.word0 = ticks / freq ∧
      (opteeRpcCmdGetTime msgArg ticks freq).2.param.word1 =
        ticks * nanosPerSec / freq - ticks / freq * nanosPerSec := by
  simp only [opteeRpcCmdGetTime, one, value, ne_eq, not_true_eq_false, if_false]
  simp only [MsgArg.param_setParam, and_self]

/-- The parameter that holds what the handler computes is exact when the frequency
divides what the product loses. -/
theorem timeExact_iff {ticks freq : UInt64} (positive : 0 < freq) {param : MsgParam}
    (seconds : param.word0 = ticks / freq)
    (nanos : param.word1 = ticks * nanosPerSec / freq - ticks / freq * nanosPerSec) :
    TimeExact ticks.toNat freq.toNat param ↔ freq.toNat ∣ lostPart ticks := by
  have positive : 0 < freq.toNat := UInt64.lt_iff_toNat_lt.mp positive
  have secondsNat : param.word0.toNat = ticks.toNat / freq.toNat := by
    rw [seconds, UInt64.toNat_div]
  have nanosNat : param.word1.toNat =
      (2 ^ 64 - ticks.toNat / freq.toNat * 10 ^ 9 % 2 ^ 64 +
        ticks.toNat * 10 ^ 9 % 2 ^ 64 / freq.toNat) % 2 ^ 64 := by
    rw [nanos, UInt64.toNat_sub, UInt64.toNat_div, UInt64.toNat_mul, UInt64.toNat_mul,
      UInt64.toNat_div]
    rfl
  obtain ⟨lower, upper⟩ := nanos_bounds ticks.toNat positive
  have wrapped := div_lost_word_iff (ticks.toNat * 10 ^ 9) positive freq.toNat_lt.le
  have small : ticks.toNat * 10 ^ 9 % 2 ^ 64 / freq.toNat < 2 ^ 64 :=
    (Nat.div_le_self _ _).trans_lt (Nat.mod_lt _ (Nat.two_pow_pos 64))
  rw [lostPart, ← wrapped, ← wrapped_sub_eq_iff lower upper small, ← nanosNat, ← secondsNat]
  constructor
  · intro exact
    exact exact.total
  · intro total
    refine ⟨secondsNat, ?_, total⟩
    rw [← secondsNat] at upper
    omega

theorem TimeExact.notAfter {earlier later freq : Nat} (order : earlier ≤ later)
    {first second : MsgParam} (left : TimeExact earlier freq first)
    (right : TimeExact later freq second) : first.NotAfter second := by
  have seconds : first.word0.toNat ≤ second.word0.toNat := by
    rw [left.seconds, right.seconds]
    exact Nat.div_le_div_right order
  have total := Nat.div_le_div_right (c := freq) (Nat.mul_le_mul_right (10 ^ 9) order)
  rw [← left.total, ← right.total] at total
  rcases seconds.lt_or_eq with before | same
  · exact Or.inl (UInt64.lt_iff_toNat_lt.mpr before)
  · rw [same] at total
    exact Or.inr ⟨UInt64.toNat_inj.mp same, UInt64.le_iff_toNat_le.mpr (by omega)⟩

/-- For every reading of the counter and every frequency: the time is exact if and only if
the frequency divides what the product loses; and exact times do not decrease. -/
theorem getTime_exact_iff (msgArg : MsgArg (slots + 1)) (one : msgArg.numParams = 1)
    (value : msgArg.param.type = msgAttrTypeValueOutput.toUInt64) (freq : UInt64)
    (positive : 0 < freq) :
    (∀ ticks, TimeExact ticks.toNat freq.toNat (opteeRpcCmdGetTime msgArg ticks freq).2.param ↔
      freq.toNat ∣ lostPart ticks) ∧
    ∀ earlier later, earlier ≤ later → freq.toNat ∣ lostPart earlier →
      freq.toNat ∣ lostPart later →
      (opteeRpcCmdGetTime msgArg earlier freq).2.param.NotAfter
        (opteeRpcCmdGetTime msgArg later freq).2.param := by
  have exactAt (ticks : UInt64) : TimeExact ticks.toNat freq.toNat
      (opteeRpcCmdGetTime msgArg ticks freq).2.param ↔ freq.toNat ∣ lostPart ticks := by
    obtain ⟨-, seconds, nanos⟩ := opteeRpcCmdGetTime_request one value ticks freq
    exact timeExact_iff positive seconds nanos
  refine ⟨exactAt, fun earlier later order left right => ?_⟩
  exact TimeExact.notAfter (UInt64.le_iff_toNat_le.mp order) ((exactAt earlier).mpr left)
    ((exactAt later).mpr right)

/-- At 24 MHz, ten minutes after the counter started. -/
theorem getTime_exact_iff_tenMinutes :
    TimeExact 14400000007 24000000
      (opteeRpcCmdGetTime (⟨3, 0, 0, 0, 0, 1, #v[⟨2, 0, 0, 0⟩]⟩ : MsgArg 1) 14400000007
        24000000).2.param :=
  ((getTime_exact_iff ⟨3, 0, 0, 0, 0, 1, #v[⟨2, 0, 0, 0⟩]⟩ rfl (by decide) 24000000
    (by decide)).1 14400000007).mpr (by decide)

/-- At 24 MHz, 768 seconds and 614 milliseconds: the product no longer fits its word. -/
theorem product_overflow_not_exact :
    ¬ TimeExact 18446744074 24000000
      (opteeRpcCmdGetTime (⟨3, 0, 0, 0, 0, 1, #v[⟨2, 0, 0, 0⟩]⟩ : MsgArg 1) 18446744074
        24000000).2.param := by
  intro exact
  have nanos := exact.nanos
  revert nanos
  decide

end MuRockchip.Optee
