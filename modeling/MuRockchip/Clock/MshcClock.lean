/-
The clock of the SD card (`MshcDxe.c`, `MshcSetClock`).

The divider is the first one whose clock, in whole hertz, is not above the frequency asked
for. The fraction of a hertz that the division loses can take the card above it, and the
bypass of the divider is only taken for a frequency that is the input rate itself.

* `findDivider_some`, `findDivider_none`: what the loop finds.
* `mshcSetClock_best_iff`: for which rates and frequencies the clock is the best one.
-/
import Mathlib.Algebra.Order.Field.Basic
import Mathlib.Algebra.Order.Field.Rat
import Mathlib.Data.UInt
import Mathlib.Tactic.Linarith
import Mathlib.Tactic.NormNum
import MuRockchip.Uefi.Status

namespace MuRockchip.Clock

/-- What `MshcSetClock` does to the registers. `updateClock` is the command that takes the
divider over. -/
inductive MshcWrite
  | clkena (value : UInt32)
  | clkdiv (divider : UInt32)
  | clksrc (value : UInt32)
  | updateClock
  deriving DecidableEq, Repr

/-- The loop over the dividers, for a number of rounds. -/
def findDivider (rate : UInt32) (clockFreq : UInt64) : Nat → UInt32 → Option UInt32
  | 0, _ => none
  | rounds + 1, divider =>
    if (rate / (2 * divider)).toUInt64 ≤ clockFreq then some divider
    else findDivider rate clockFreq rounds (divider + 1)

/-- `MshcSetClock`, at the rate of the controller. Waiting for the card only reads. -/
def mshcSetClock (rate : UInt32) (clockFreq : UInt64) : EfiStatus × List MshcWrite :=
  let divider :=
    if rate.toUInt64 = clockFreq then some 0 else findDivider rate clockFreq 255 1
  match divider with
  | none => (EfiStatus.notFound, [])
  | some divider =>
    (EfiStatus.success,
      [.clkena 0, .updateClock, .clkdiv divider, .updateClock, .clkena 1, .clksrc 0,
        .updateClock])

/-! ### What the loop finds -/

/-- The loop takes a divider whose clock is not above the frequency, in whole hertz. -/
def Takes (rate : UInt32) (clockFreq : UInt64) (divider : Nat) : Prop :=
  rate.toNat < 2 * divider * (clockFreq.toNat + 1)

theorem takes_iff {rate : UInt32} {clockFreq : UInt64} {divider : UInt32}
    (positive : 1 ≤ divider.toNat) (small : divider.toNat ≤ 255) :
    (rate / (2 * divider)).toUInt64 ≤ clockFreq ↔ Takes rate clockFreq divider.toNat := by
  have double : (2 * divider).toNat = 2 * divider.toNat := by
    rw [UInt32.toNat_mul]
    show 2 * divider.toNat % 2 ^ 32 = _
    exact Nat.mod_eq_of_lt (by omega)
  rw [UInt64.le_iff_toNat_le, UInt32.toNat_toUInt64, UInt32.toNat_div, double, Takes,
    ← Nat.lt_succ_iff, Nat.div_lt_iff_lt_mul (by omega), Nat.mul_comm]

theorem succ_toNat {divider : UInt32} (small : divider.toNat ≤ 255) :
    (divider + 1).toNat = divider.toNat + 1 := by
  rw [UInt32.toNat_add]
  show (divider.toNat + 1) % 2 ^ 32 = _
  exact Nat.mod_eq_of_lt (by omega)

variable {clockFreq : UInt64} {divider rate : UInt32}

theorem findDivider_some {rounds : Nat} {found : UInt32} (range : divider.toNat + rounds = 256)
    (positive : 1 ≤ divider.toNat) (run : findDivider rate clockFreq rounds divider = some found) :
    (divider.toNat ≤ found.toNat ∧ found.toNat ≤ 255) ∧ Takes rate clockFreq found.toNat ∧
      ∀ other, divider.toNat ≤ other → other < found.toNat → ¬ Takes rate clockFreq other := by
  induction rounds generalizing divider with
  | zero => cases run
  | succ rounds ih =>
    have taken := @takes_iff rate clockFreq divider positive (by omega)
    rw [findDivider] at run
    by_cases takes : (rate / (2 * divider)).toUInt64 ≤ clockFreq
    · rw [if_pos takes] at run
      cases run
      exact ⟨⟨Nat.le_refl _, by omega⟩, taken.mp takes, fun other above below => by omega⟩
    · rw [if_neg takes] at run
      have next := @succ_toNat divider (by omega)
      obtain ⟨bounds, holds, first⟩ := ih (by omega) (by omega) run
      refine ⟨by omega, holds, fun other above below => ?_⟩
      rcases Nat.eq_or_lt_of_le above with rfl | later
      · exact mt taken.mpr takes
      · exact first other (by omega) below

/-- Without a divider found none is taken. -/
theorem findDivider_none {rounds : Nat} (range : divider.toNat + rounds = 256)
    (positive : 1 ≤ divider.toNat) (run : findDivider rate clockFreq rounds divider = none) :
    ∀ other, divider.toNat ≤ other → other ≤ 255 → ¬ Takes rate clockFreq other := by
  induction rounds generalizing divider with
  | zero => exact fun other above below => by omega
  | succ rounds ih =>
    have taken := @takes_iff rate clockFreq divider positive (by omega)
    rw [findDivider] at run
    by_cases takes : (rate / (2 * divider)).toUInt64 ≤ clockFreq
    · rw [if_pos takes] at run
      cases run
    · rw [if_neg takes] at run
      have next := @succ_toNat divider (by omega)
      intro other above below
      rcases Nat.eq_or_lt_of_le above with rfl | later
      · exact mt taken.mpr takes
      · exact ih (by omega) (by omega) run other (by omega) below

/-! ### The best clock -/

def cardClock (rate : UInt32) (divider : Nat) : Rat :=
  if divider = 0 then rate.toNat else rate.toNat / (2 * divider)

/-- The clock is programmed with a divider: taken over while it is off, and on at the end. -/
def programs (divider : UInt32) : List MshcWrite :=
  [.clkena 0, .updateClock, .clkdiv divider, .updateClock, .clkena 1, .clksrc 0, .updateClock]

/-- No clock that the register can hold is better, and one is only refused where all are too
fast. -/
structure SetsBest (rate : UInt32) (clockFreq : UInt64) (result : EfiStatus × List MshcWrite) :
    Prop where
  best : result.1 = EfiStatus.success → ∃ divider : UInt32, divider.toNat ≤ 255 ∧
    result.2 = programs divider ∧ cardClock rate divider.toNat ≤ clockFreq.toNat ∧
    ∀ other ≤ 255, cardClock rate other ≤ clockFreq.toNat →
      cardClock rate other ≤ cardClock rate divider.toNat
  refused : (∀ divider ≤ 255, clockFreq.toNat < cardClock rate divider) →
    result = (EfiStatus.notFound, [])

/-- The rate is the frequency, or above it without a fraction of a hertz that decides between
them. -/
def NoFraction (rate : UInt32) (clockFreq : UInt64) : Prop :=
  rate.toNat = clockFreq.toNat ∨ rate.toNat = 0 ∨
    clockFreq.toNat < rate.toNat ∧ ∀ divider, 1 ≤ divider → divider ≤ 255 →
      rate.toNat ≤ 2 * divider * clockFreq.toNat ∨
        2 * divider * (clockFreq.toNat + 1) ≤ rate.toNat

section CardClock

variable {rate : UInt32}

theorem cardClock_zero : cardClock rate 0 = rate.toNat := if_pos rfl

theorem cardClock_pos {divider : Nat} (positive : 1 ≤ divider) :
    cardClock rate divider = rate.toNat / (2 * divider) :=
  if_neg (by omega)

theorem cardClock_le_iff {divider : Nat} (positive : 1 ≤ divider) (freq : Nat) :
    cardClock rate divider ≤ freq ↔ rate.toNat ≤ 2 * divider * freq := by
  have some : (0 : Rat) < divider := by exact_mod_cast positive
  rw [cardClock_pos positive, div_le_iff₀ (by linarith), ← @Nat.cast_le Rat]
  push_cast
  rw [mul_comm]

theorem cardClock_le {divider other : Nat} (larger : divider ≤ other) :
    cardClock rate other ≤ cardClock rate divider := by
  have some : (0 : Rat) ≤ rate.toNat := Nat.cast_nonneg _
  rcases Nat.eq_zero_or_pos other with rfl | positive'
  · rw [Nat.le_zero.mp larger]
  have large : (1 : Rat) ≤ other := by exact_mod_cast positive'
  rw [cardClock_pos positive']
  rcases Nat.eq_zero_or_pos divider with rfl | positive
  · rw [cardClock_zero]
    exact div_le_self some (by linarith)
  · have some' : (1 : Rat) ≤ divider := by exact_mod_cast positive
    have larger' : (divider : Rat) ≤ other := by exact_mod_cast larger
    rw [cardClock_pos positive]
    exact div_le_div_of_nonneg_left some (by linarith) (by linarith)

end CardClock

theorem programs_inj {other : UInt32} (same : programs divider = programs other) :
    divider = other := by
  simp only [programs, List.cons.injEq, MshcWrite.clkdiv.injEq] at same
  exact same.2.2.1

theorem setsBest_bypass (same : rate.toNat = clockFreq.toNat) :
    SetsBest rate clockFreq (EfiStatus.success, programs 0) where
  best _ := by
    refine ⟨0, by decide, rfl, ?_, fun other _ _ => cardClock_le (Nat.zero_le other)⟩
    rw [show (0 : UInt32).toNat = 0 from rfl, cardClock_zero, same]
  refused slow := by
    have fast := slow 0 (Nat.zero_le _)
    rw [cardClock_zero, same] at fast
    exact absurd fast (lt_irrefl _)

theorem setsBest_divider_iff (different : rate.toNat ≠ clockFreq.toNat)
    (range : 1 ≤ divider.toNat ∧ divider.toNat ≤ 255) (takes : Takes rate clockFreq divider.toNat)
    (first : ∀ other, 1 ≤ other → other < divider.toNat → ¬ Takes rate clockFreq other) :
    SetsBest rate clockFreq (EfiStatus.success, programs divider) ↔
      NoFraction rate clockFreq := by
  have within := @cardClock_le_iff rate divider.toNat range.1 clockFreq.toNat
  constructor
  · intro sets
    obtain ⟨_, _, same, slow, best⟩ := sets.best rfl
    obtain rfl := programs_inj same
    rw [within] at slow
    rcases Nat.lt_or_gt_of_ne different with below | above
    · -- the bypass would be within the frequency too
      have bypass := best 0 (Nat.zero_le _) (by rw [cardClock_zero]; exact_mod_cast below.le)
      have twice : (2 : Rat) ≤ 2 * divider.toNat := by
        exact_mod_cast Nat.mul_le_mul_left 2 range.1
      rw [cardClock_zero, cardClock_pos range.1, le_div_iff₀ (by linarith)] at bypass
      have some : (0 : Rat) ≤ rate.toNat := Nat.cast_nonneg _
      have none : (rate.toNat : Rat) ≤ 0 := by nlinarith
      exact Or.inr (Or.inl (Nat.le_zero.mp (by exact_mod_cast none)))
    · refine Or.inr (Or.inr ⟨above, fun other positive small => ?_⟩)
      rcases Nat.lt_or_ge other divider.toNat with earlier | later
      · exact Or.inr (Nat.not_lt.mp (first other positive earlier))
      · have larger : 2 * divider.toNat * clockFreq.toNat ≤ 2 * other * clockFreq.toNat :=
          Nat.mul_le_mul_right _ (Nat.mul_le_mul_left 2 later)
        exact Or.inl (slow.trans larger)
  · rintro (same | zero | ⟨above, apart⟩)
    · exact absurd same different
    · have stopped (other : Nat) : cardClock rate other = 0 := by
        rw [cardClock, zero]
        simp
      refine ⟨fun _ => ⟨divider, range.2, rfl, ?_, fun other _ _ => ?_⟩, fun slow => ?_⟩
      · rw [stopped]
        exact Nat.cast_nonneg _
      · rw [stopped, stopped]
      · have fast := slow 0 (Nat.zero_le _)
        rw [stopped] at fast
        exact absurd fast (not_lt.mpr (Nat.cast_nonneg _))
    · have slow : rate.toNat ≤ 2 * divider.toNat * clockFreq.toNat := by
        rcases apart divider.toNat range.1 range.2 with slow | fast
        · exact slow
        · exact absurd takes (Nat.not_lt.mpr fast)
      refine ⟨fun _ => ⟨divider, range.2, rfl, within.mpr slow, fun other small slow' => ?_⟩,
        fun fast => ?_⟩
      · rcases Nat.eq_zero_or_pos other with rfl | positive
        · rw [cardClock_zero] at slow'
          exact absurd (Nat.cast_le.mp slow') (Nat.not_le.mpr above)
        · refine cardClock_le (Nat.not_lt.mp fun earlier => first other positive earlier ?_)
          have next : 2 * other * clockFreq.toNat < 2 * other * (clockFreq.toNat + 1) :=
            Nat.mul_lt_mul_of_pos_left (Nat.lt_succ_self _) (by omega)
          exact lt_of_le_of_lt ((cardClock_le_iff positive _).mp slow') next
      · exact absurd (fast divider.toNat range.2) (not_lt.mpr (within.mpr slow))

/-- For which rates and frequencies the clock is the best one. -/
theorem mshcSetClock_best_iff (rate : UInt32) (clockFreq : UInt64) :
    SetsBest rate clockFreq (mshcSetClock rate clockFreq) ↔ NoFraction rate clockFreq := by
  by_cases same : rate.toUInt64 = clockFreq
  · have same' : rate.toNat = clockFreq.toNat := by
      rw [← same, UInt32.toNat_toUInt64]
    have run : mshcSetClock rate clockFreq = (EfiStatus.success, programs 0) := by
      rw [mshcSetClock, if_pos same]
      rfl
    rw [run]
    exact iff_of_true (setsBest_bypass same') (Or.inl same')
  · have different : rate.toNat ≠ clockFreq.toNat := fun equal =>
      same (UInt64.toNat_inj.mp ((UInt32.toNat_toUInt64 _).trans equal))
    cases found : findDivider rate clockFreq 255 1 with
    | none =>
      have run : mshcSetClock rate clockFreq = (EfiStatus.notFound, []) := by
        rw [mshcSetClock, if_neg same, found]
      have fast (divider : Nat) (positive : 1 ≤ divider) (small : divider ≤ 255) :=
        Nat.not_lt.mp (findDivider_none rfl (by decide) found divider positive small)
      have above : 2 * 1 * (clockFreq.toNat + 1) ≤ rate.toNat := fast 1 (by decide) (by decide)
      rw [run]
      refine iff_of_true ⟨fun never => absurd never (by decide), fun _ => rfl⟩
        (Or.inr (Or.inr ⟨by omega, fun divider positive small => ?_⟩))
      exact Or.inr (fast divider positive small)
    | some divider =>
      have run : mshcSetClock rate clockFreq = (EfiStatus.success, programs divider) := by
        rw [mshcSetClock, if_neg same, found]
        rfl
      obtain ⟨range, takes, first⟩ := findDivider_some rfl (by decide) found
      rw [run]
      exact setsBest_divider_iff different range takes first

/-- From 50 MHz the card gets 25 MHz for 52 MHz, where the bypass gives 50 MHz. From 400 MHz
it gets two thirds of a hertz more than 66666666 Hz. -/
theorem mshcSetClock_misses :
    ¬ SetsBest 50000000 52000000 (mshcSetClock 50000000 52000000) ∧
      ¬ SetsBest 400000000 66666666 (mshcSetClock 400000000 66666666) := by
  constructor
  · have run : mshcSetClock 50000000 52000000 = (EfiStatus.success, programs 1) := by decide
    rw [run]
    intro sets
    obtain ⟨_, _, same, -, best⟩ := sets.best rfl
    obtain rfl := programs_inj same
    have bypass := best 0 (by decide)
    rw [cardClock_zero, cardClock_pos (by decide), show (1 : UInt32).toNat = 1 from rfl,
      show (50000000 : UInt32).toNat = 50000000 from rfl,
      show (52000000 : UInt64).toNat = 52000000 from rfl] at bypass
    norm_num at bypass
  · have run : mshcSetClock 400000000 66666666 = (EfiStatus.success, programs 3) := by decide
    rw [run]
    intro sets
    obtain ⟨_, _, same, slow, -⟩ := sets.best rfl
    obtain rfl := programs_inj same
    rw [cardClock_le_iff (by decide)] at slow
    exact absurd slow (by decide)

end MuRockchip.Clock
