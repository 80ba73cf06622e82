/-
Fixed-width integers as bytes.

Firmware structures are laid out as little-endian fields in flat buffers. This
file carries the encoder, the decoder and the laws later layouts are read with:

* `leValue_leBytes`: decoding what was encoded returns the value modulo the
  width of the field.
* `leBytes_leValue`: every byte string is the encoding of its own value.
* `alignDown_toNat`: masking the low bits of a 64-bit address rounds it down.
* `isPowerOf2_dvd`: what the power-of-two test accepts up to `2 ^ limit` divides
  `2 ^ limit`.
-/
import Mathlib.Data.Nat.Bitwise
import Mathlib.Data.Nat.Factorization.Basic
import Mathlib.Tactic.Ring

namespace MuRockchip.Base

/-! ### Little-endian fields -/

/-- The `width` bytes of a value, least significant first. -/
def leBytes : Nat → Nat → List UInt8
  | 0, _ => []
  | width + 1, value => UInt8.ofNat value :: leBytes width (value / 256)

/-- The value a little-endian byte string spells. -/
def leValue : List UInt8 → Nat
  | [] => 0
  | byte :: rest => byte.toNat + 256 * leValue rest

@[simp]
theorem leBytes_length (width value : Nat) : (leBytes width value).length = width := by
  induction width generalizing value with
  | zero => rfl
  | succ width ih => simp only [leBytes, List.length_cons, ih]

theorem leValue_leBytes (width value : Nat) :
    leValue (leBytes width value) = value % 256 ^ width := by
  induction width generalizing value with
  | zero => simp only [leBytes, leValue, pow_zero, Nat.mod_one]
  | succ width ih =>
    have low : (UInt8.ofNat value).toNat = value % 256 := by simp
    simp only [leBytes, leValue, ih, low]
    rw [pow_succ', Nat.mod_mul]

theorem leValue_leBytes_of_lt {width value : Nat} (fits : value < 256 ^ width) :
    leValue (leBytes width value) = value := by
  rw [leValue_leBytes, Nat.mod_eq_of_lt fits]

theorem leValue_zeros (width : Nat) : leValue (List.replicate width 0) = 0 := by
  induction width with
  | zero => rfl
  | succ width ih => simp [List.replicate_succ, leValue, ih]

theorem leValue_lt (bytes : List UInt8) : leValue bytes < 256 ^ bytes.length := by
  induction bytes with
  | nil => simp [leValue]
  | cons byte rest ih =>
    have below : byte.toNat < 256 := byte.toNat_lt
    simp only [leValue, List.length_cons, pow_succ]
    omega

theorem leBytes_leValue (bytes : List UInt8) :
    leBytes bytes.length (leValue bytes) = bytes := by
  induction bytes with
  | nil => rfl
  | cons byte rest ih =>
    have below : byte.toNat < 256 := byte.toNat_lt
    have high : (byte.toNat + 256 * leValue rest) / 256 = leValue rest := by omega
    have low : UInt8.ofNat (byte.toNat + 256 * leValue rest) = byte := by
      apply UInt8.toNat_inj.mp
      simp only [UInt8.toNat_ofNat']
      omega
    simp only [List.length_cons, leBytes, leValue, high, low, ih]

theorem leValue_append (low high : List UInt8) :
    leValue (low ++ high) = leValue low + 256 ^ low.length * leValue high := by
  induction low with
  | nil => simp [leValue]
  | cons byte rest ih =>
    simp only [List.cons_append, leValue, ih, List.length_cons, pow_succ]
    ring

/-! ### Sums of words -/

/-- The sum of the first `count` words. -/
def wordSum (word : Nat → Nat) (count : Nat) : Nat :=
  (List.range count).foldl (fun sum index => sum + word index) 0

theorem wordSum_succ (word : Nat → Nat) (count : Nat) :
    wordSum word (count + 1) = wordSum word count + word count := by
  simp [wordSum, List.range_succ]

theorem wordSum_congr {word other : Nat → Nat} {count : Nat}
    (same : ∀ index < count, word index = other index) :
    wordSum word count = wordSum other count := by
  induction count with
  | zero => rfl
  | succ count ih =>
    rw [wordSum_succ, wordSum_succ, ih fun index below => same index (by omega),
      same count (by omega)]

theorem wordSum_update {word other : Nat → Nat} {count changed : Nat} (inside : changed < count)
    (same : ∀ index < count, index ≠ changed → word index = other index) :
    wordSum word count + other changed = wordSum other count + word changed := by
  induction count with
  | zero => omega
  | succ count ih =>
    rw [wordSum_succ, wordSum_succ]
    rcases Nat.lt_or_eq_of_le (Nat.le_of_lt_succ inside) with before | rfl
    · have := ih before fun index below => same index (by omega)
      rw [same count (by omega) (by omega)]
      omega
    · rw [wordSum_congr fun index below => same index (by omega) (by omega)]
      omega

/-! ### Alignment in 64-bit arithmetic -/

/-- Clear the bits of an address below a power-of-two alignment. -/
def alignDown (address alignment : UInt64) : UInt64 :=
  address &&& ~~~(alignment - 1)

/-- `Num & (~Num + 1)` keeps the lowest set bit of `Num` alone. -/
def isPowerOf2 (num : UInt64) : Bool :=
  num != 0 && (num &&& (~~~num + 1)) == num

/-- Keeping only the bits from `exponent` up rounds a number down to a multiple. -/
theorem and_not_low_bits {value exponent : Nat} (range : value < 2 ^ 64) (low : exponent < 64) :
    value &&& (2 ^ 64 - (2 ^ exponent - 1 + 1)) = 2 ^ exponent * (value / 2 ^ exponent) := by
  have below : 2 ^ exponent - 1 < 2 ^ 64 :=
    lt_of_lt_of_le (Nat.sub_lt (Nat.two_pow_pos _) Nat.one_pos)
      (Nat.pow_le_pow_right (by omega) low.le)
  apply Nat.eq_of_testBit_eq
  intro index
  have rounded := Nat.testBit_two_pow_mul_add (value / 2 ^ exponent)
    (Nat.two_pow_pos exponent) index
  rw [Nat.add_zero] at rounded
  rw [Nat.testBit_and, Nat.testBit_two_pow_sub_succ below, Nat.testBit_two_pow_sub_one, rounded]
  by_cases inside : index < exponent
  · simp [inside]
  · by_cases top : index < 64
    · simp [inside, top, Nat.testBit_div_two_pow, Nat.sub_add_cancel (Nat.le_of_not_lt inside)]
    · have vanish : value.testBit index = false :=
        Nat.testBit_lt_two_pow (lt_of_lt_of_le range (Nat.pow_le_pow_right (by omega) (by omega)))
      simp [inside, Nat.testBit_div_two_pow, Nat.sub_add_cancel (Nat.le_of_not_lt inside), vanish]

theorem alignDown_toNat {address alignment : UInt64} (exponent : Nat) (low : exponent < 64)
    (power : alignment.toNat = 2 ^ exponent) :
    (alignDown address alignment).toNat = 2 ^ exponent * (address.toNat / 2 ^ exponent) := by
  have positive : 0 < alignment.toNat := by rw [power]; exact Nat.two_pow_pos _
  have mask : (~~~(alignment - 1)).toNat = 2 ^ 64 - (2 ^ exponent - 1 + 1) := by
    have bound := alignment.toNat_lt
    rw [UInt64.toNat_not, UInt64.toNat_sub, UInt64.size, ← power]
    simp only [UInt64.toNat_one]
    omega
  rw [alignDown, UInt64.toNat_and, mask]
  exact and_not_low_bits address.toNat_lt low

/-- The test accepts powers of two only: a second set bit above the lowest one
survives in `Num - 1`, hence not in `Num & (~Num + 1)`. -/
theorem isPowerOf2_power {num : UInt64} (accepted : isPowerOf2 num = true) :
    ∃ exponent < 64, num.toNat = 2 ^ exponent := by
  simp only [isPowerOf2, Bool.and_eq_true, bne_iff_ne, ne_eq, beq_iff_eq] at accepted
  obtain ⟨nonzero, fixed⟩ := accepted
  have bound := num.toNat_lt
  have positive : num.toNat ≠ 0 := fun zero => nonzero (UInt64.toNat_inj.mp (by simpa using zero))
  have negated : (~~~num + 1).toNat = 2 ^ 64 - (num.toNat - 1 + 1) := by
    rw [UInt64.toNat_add, UInt64.toNat_not, UInt64.size]
    simp only [UInt64.toNat_one]
    omega
  have kept : num.toNat &&& (2 ^ 64 - (num.toNat - 1 + 1)) = num.toNat := by
    rw [← negated, ← UInt64.toNat_and, fixed]
  obtain ⟨exponent, odd, ⟨half, rfl⟩, split⟩ := Nat.exists_eq_two_pow_mul_odd positive
  have lowest : num.toNat = 2 ^ (exponent + 1) * half + 2 ^ exponent := by rw [split]; ring
  have before : num.toNat - 1 = 2 ^ (exponent + 1) * half + (2 ^ exponent - 1) := by
    have := Nat.two_pow_pos exponent
    omega
  have single : half = 0 := by
    by_contra more
    obtain ⟨bit, set⟩ := Nat.exists_testBit_of_ne_zero more
    have wide : 2 ^ exponent < 2 ^ (exponent + 1) := Nat.pow_lt_pow_right (by omega) (by omega)
    have inNum : num.toNat.testBit (exponent + 1 + bit) = true := by
      rw [lowest, Nat.testBit_two_pow_mul_add _ wide, if_neg (by omega)]
      simpa using set
    have inBefore : (num.toNat - 1).testBit (exponent + 1 + bit) = true := by
      rw [before, Nat.testBit_two_pow_mul_add _ (by omega), if_neg (by omega)]
      simpa using set
    have cleared := congrArg (Nat.testBit · (exponent + 1 + bit)) kept
    simp only [Nat.testBit_and, Nat.testBit_two_pow_sub_succ (show num.toNat - 1 < 2 ^ 64 by omega),
      inNum, inBefore] at cleared
    simp at cleared
  subst single
  rw [mul_zero, zero_add] at lowest
  exact ⟨exponent, (Nat.pow_lt_pow_iff_right (by omega)).mp (lowest ▸ bound), lowest⟩

/-- A power of two up to `2 ^ limit` divides `2 ^ limit`. -/
theorem isPowerOf2_dvd {num : UInt64} {limit : Nat} (accepted : isPowerOf2 num = true)
    (bounded : num.toNat ≤ 2 ^ limit) : num.toNat ∣ 2 ^ limit := by
  obtain ⟨exponent, -, power⟩ := isPowerOf2_power accepted
  rw [power] at bounded ⊢
  exact Nat.pow_dvd_pow 2 ((Nat.pow_le_pow_iff_right (by omega)).mp bounded)

end MuRockchip.Base
