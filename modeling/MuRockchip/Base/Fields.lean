/-
Fields of registers.

A field is a run of bits of a 32-bit register. Where the high half of a register is its
write mask, a write changes the bits of the low half that the mask names and leaves the
others.

* `toNat_and_shiftRight`: masking and shifting reads a field.
* `field_hiwordWrite`: a masked write sets the fields it covers.
* `field_hiwordWrite_named`, `field_hiwordWrite_unnamed`: it sets the fields whose bits it
  names and keeps the others.
-/
import Mathlib.Data.Nat.Bitwise
import Mathlib.Data.UInt

namespace MuRockchip.Base

/-- The field of `width` bits from `start` on. -/
def field (reg : UInt32) (start width : Nat) : Nat := reg.toNat / 2 ^ start % 2 ^ width

theorem field_lt (reg : UInt32) (start width : Nat) : field reg start width < 2 ^ width :=
  Nat.mod_lt _ (Nat.two_pow_pos width)

theorem testBit_field (reg : UInt32) (start width bit : Nat) :
    (field reg start width).testBit bit =
      (decide (bit < width) && reg.toBitVec.getLsbD (start + bit)) := by
  rw [field, Nat.testBit_mod_two_pow, Nat.testBit_div_two_pow, Nat.add_comm bit start]
  rfl

theorem field_congr {reg other : UInt32} {start width : Nat}
    (same : ∀ bit < width, reg.toBitVec.getLsbD (start + bit) =
      other.toBitVec.getLsbD (start + bit)) : field reg start width = field other start width := by
  refine Nat.eq_of_testBit_eq fun bit => ?_
  rw [testBit_field, testBit_field]
  by_cases inside : bit < width
  · rw [same bit inside]
  · simp only [inside, decide_false, Bool.false_and]

theorem toNat_and_shiftRight (reg : UInt32) {mask shift : UInt32} {width : Nat}
    (small : shift.toNat < 32) (covers : mask.toNat = (2 ^ width - 1) <<< shift.toNat) :
    ((reg &&& mask) >>> shift).toNat = field reg shift.toNat width := by
  rw [UInt32.toNat_shiftRight, UInt32.toNat_and, covers, Nat.mod_eq_of_lt small,
    Nat.shiftRight_and_distrib, Nat.shiftLeft_shiftRight, Nat.and_two_pow_sub_one_eq_mod,
    Nat.shiftRight_eq_div_pow, field]

theorem toNat_and_mask (reg : UInt32) {mask : UInt32} {width : Nat}
    (covers : mask.toNat = 2 ^ width - 1) : (reg &&& mask).toNat = field reg 0 width := by
  rw [UInt32.toNat_and, covers, Nat.and_two_pow_sub_one_eq_mod, field, Nat.pow_zero, Nat.div_one]

theorem and_mask_eq (value start width : Nat) :
    value &&& ((2 ^ width - 1) * 2 ^ start) = value / 2 ^ start % 2 ^ width * 2 ^ start := by
  refine Nat.eq_of_testBit_eq fun bit => ?_
  rw [Nat.testBit_and, ← Nat.shiftLeft_eq, ← Nat.shiftLeft_eq, Nat.testBit_shiftLeft,
    Nat.testBit_shiftLeft, Nat.testBit_mod_two_pow, Nat.testBit_div_two_pow,
    Nat.testBit_two_pow_sub_one]
  by_cases above : start ≤ bit
  · simp [above, Bool.and_comm]
  · simp [above]

theorem toNat_and_field64 (word : UInt64) {mask : UInt64} (start width : Nat)
    (covers : mask.toNat = (2 ^ width - 1) * 2 ^ start) :
    (word &&& mask).toNat = word.toNat / 2 ^ start % 2 ^ width * 2 ^ start := by
  rw [UInt64.toNat_and, covers, and_mask_eq]

theorem or_and_mask (left right mask : UInt32) :
    (left ||| right) &&& mask = left &&& mask ||| right &&& mask := by
  refine UInt32.toBitVec_inj.mp (BitVec.eq_of_getLsbD_eq fun bit inside => ?_)
  simp [Bool.and_or_distrib_right]

theorem and_not_of_apart {word mask : UInt32} (apart : word &&& mask = 0) :
    word &&& ~~~mask = word := by
  refine UInt32.toBitVec_inj.mp (BitVec.eq_of_getLsbD_eq fun bit inside => ?_)
  have here := congrArg (fun word : UInt32 => word.toBitVec.getLsbD bit) apart
  simp at here ⊢
  intro set
  exact ⟨inside, here set⟩

/-- A write to a register whose high half is its write mask. -/
def hiwordWrite (reg value : UInt32) : UInt32 :=
  let mask := value >>> 16
  (reg &&& ~~~mask) ||| (value &&& mask)

theorem hiwordWrite_and (reg value : UInt32) {mask : UInt32}
    (covers : (value >>> 16) &&& mask = mask) :
    hiwordWrite reg value &&& mask = value &&& mask := by
  refine UInt32.toBitVec_inj.mp (BitVec.eq_of_getLsbD_eq fun bit inside => ?_)
  have named := congrArg (fun word : UInt32 => word.toBitVec.getLsbD bit) covers
  simp only [UInt32.toBitVec_and, BitVec.getLsbD_and] at named
  simp only [hiwordWrite, UInt32.toBitVec_or, UInt32.toBitVec_and, UInt32.toBitVec_not,
    BitVec.getLsbD_or, BitVec.getLsbD_and, BitVec.getLsbD_not]
  cases masked : mask.toBitVec.getLsbD bit with
  | false => simp
  | true =>
    rw [masked, Bool.and_true] at named
    simp only [named, Bool.not_true, Bool.and_false, Bool.and_true, Bool.false_or]

theorem hiwordWrite_and_of_apart (reg value : UInt32) {mask : UInt32}
    (apart : mask &&& (value >>> 16) = 0) : hiwordWrite reg value &&& mask = reg &&& mask := by
  have named : value &&& (value >>> 16) &&& mask = 0 := by
    rw [UInt32.and_assoc, UInt32.and_comm _ mask, apart, UInt32.and_zero]
  have kept : reg &&& ~~~(value >>> 16) &&& mask = reg &&& mask := by
    rw [UInt32.and_assoc, UInt32.and_comm _ mask, and_not_of_apart apart]
  rw [hiwordWrite, or_and_mask, named, kept, UInt32.or_zero]

theorem field_hiwordWrite (reg : UInt32) {clear set : UInt32} {start width : Nat}
    (low : start + width ≤ 16)
    (covers : ∀ bit < width, clear.toBitVec.getLsbD (start + bit) = true) :
    field (hiwordWrite reg (((clear ||| set) <<< 16) ||| set)) start width =
      field set start width := by
  refine field_congr fun bit inside => ?_
  have covered := covers bit inside
  have below : start + bit < 16 := by omega
  have masked :
      (((clear ||| set) <<< 16 ||| set) >>> 16).toBitVec.getLsbD (start + bit) = true := by
    simp only [UInt32.toBitVec_shiftRight, UInt32.toBitVec_or, UInt32.toBitVec_shiftLeft]
    simp [covered, show 16 + (start + bit) < 32 by omega]
  rw [hiwordWrite]
  simp only [UInt32.toBitVec_or, UInt32.toBitVec_and, UInt32.toBitVec_not, BitVec.getLsbD_or,
    BitVec.getLsbD_and, BitVec.getLsbD_not, masked]
  simp [below]

/-- Bit by bit, a masked write takes what its high half names. -/
theorem getLsbD_hiwordWrite (reg value : UInt32) {bit : Nat} (low : bit < 16) :
    (hiwordWrite reg value).toBitVec.getLsbD bit =
      if value.toBitVec.getLsbD (16 + bit) then value.toBitVec.getLsbD bit
      else reg.toBitVec.getLsbD bit := by
  have inside : bit < 32 := by omega
  rw [hiwordWrite]
  simp only [UInt32.toBitVec_or, UInt32.toBitVec_and, UInt32.toBitVec_not, BitVec.getLsbD_or,
    BitVec.getLsbD_and, BitVec.getLsbD_not, UInt32.toBitVec_shiftRight]
  cases named : value.toBitVec.getLsbD (16 + bit) <;> simp [named, inside]

section

variable {value : UInt32} {start width : Nat}

theorem field_hiwordWrite_named (reg : UInt32) (low : start + width ≤ 16)
    (named : field value (16 + start) width = 2 ^ width - 1) :
    field (hiwordWrite reg value) start width = field value start width := by
  refine field_congr fun bit inside => ?_
  have marked := congrArg (fun mask : Nat => mask.testBit bit) named
  simp only [testBit_field, Nat.testBit_two_pow_sub_one, inside, decide_true, Bool.true_and]
    at marked
  rw [getLsbD_hiwordWrite reg value (by omega), ← Nat.add_assoc, if_pos marked]

theorem field_hiwordWrite_unnamed (reg : UInt32) (low : start + width ≤ 16)
    (unnamed : field value (16 + start) width = 0) :
    field (hiwordWrite reg value) start width = field reg start width := by
  refine field_congr fun bit inside => ?_
  have marked := congrArg (fun mask : Nat => mask.testBit bit) unnamed
  simp only [testBit_field, Nat.zero_testBit, inside, decide_true, Bool.true_and] at marked
  rw [getLsbD_hiwordWrite reg value (by omega), ← Nat.add_assoc, marked]
  rfl

end

end MuRockchip.Base
