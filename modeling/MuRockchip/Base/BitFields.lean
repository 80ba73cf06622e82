/-
Bit fields of registers (`BitFieldRead32`, `BitFieldWrite32` and their like of `BaseLib.h`).

A field is the bits from its start to its end. The operations are the masks and shifts of the
library; what each of them does to a bit of the register is stated bit by bit, so that registers
of any width are read off from the bytes that hold them.

* `wordBit_fieldOr`, `wordBit_fieldAnd`, `wordBit_andThenOr`: the operations, bit by bit.
* `bitAt_leBytes`, `bitAt_leValue`: the bits of a little-endian field are those of its bytes.
-/
import MuRockchip.Base.Bytes

namespace MuRockchip.Base

def wordBit (word : UInt32) (bit : Nat) : Bool := word.toNat.testBit bit

def byteBit (byte : UInt8) (bit : Nat) : Bool := byte.toNat.testBit bit

@[simp]
theorem wordBit_and (left right : UInt32) (bit : Nat) :
    wordBit (left &&& right) bit = (wordBit left bit && wordBit right bit) := by
  rw [wordBit, UInt32.toNat_and, Nat.testBit_and]
  rfl

@[simp]
theorem wordBit_or (left right : UInt32) (bit : Nat) :
    wordBit (left ||| right) bit = (wordBit left bit || wordBit right bit) := by
  rw [wordBit, UInt32.toNat_or, Nat.testBit_or]
  rfl

variable {bit : Nat}

theorem wordBit_not (word : UInt32) (inside : bit < 32) :
    wordBit (~~~word) bit = !wordBit word bit := by
  have flipped := BitVec.getLsbD_not (x := word.toBitVec) (i := bit)
  rw [decide_eq_true inside, Bool.true_and] at flipped
  exact flipped

theorem wordBit_shiftLeft (word : UInt32) {shift : Nat} (small : shift < 32) (inside : bit < 32) :
    wordBit (word <<< UInt32.ofNat shift) bit =
      (decide (shift ≤ bit) && wordBit word (bit - shift)) := by
  have count : (UInt32.ofNat shift).toNat = shift :=
    UInt32.toNat_ofNat_of_lt' (small.trans (by decide))
  rw [wordBit, UInt32.toNat_shiftLeft, count, Nat.mod_eq_of_lt small, Nat.testBit_mod_two_pow,
    decide_eq_true inside, Bool.true_and, Nat.testBit_shiftLeft]
  rfl

/-! ### Fields -/

/-- The field of a register from one bit to another. -/
structure BitField where
  startBit : Nat
  endBit : Nat
  ordered : startBit ≤ endBit
  inside : endBit < 32

namespace BitField

variable (field : BitField)

def covers (bit : Nat) : Bool := decide (field.startBit ≤ bit) && decide (bit ≤ field.endBit)

/-- The bits up to the end of the field, as `~((UINTN)-2 << EndBit)`. -/
def upToEnd : UInt32 := ~~~(~~~1 <<< UInt32.ofNat field.endBit)

variable {bit : Nat}

theorem wordBit_upToEnd (inside : bit < 32) :
    wordBit field.upToEnd bit = decide (bit ≤ field.endBit) := by
  have last := field.inside
  rw [upToEnd, wordBit_not _ inside, wordBit_shiftLeft _ last inside]
  by_cases reached : field.endBit ≤ bit
  · have one : wordBit 1 (bit - field.endBit) = decide (bit ≤ field.endBit) := by
      rw [Bool.eq_iff_iff, decide_eq_true_eq]
      refine Nat.testBit_one_eq_true_iff_self_eq_zero.trans ?_
      rw [Nat.sub_eq_zero_iff_le]
    rw [decide_eq_true reached, Bool.true_and, wordBit_not _ (by omega), Bool.not_not, one]
  · rw [decide_eq_false reached, Bool.false_and, Bool.not_false,
      decide_eq_true (Nat.le_of_not_le reached)]

/-- `BitFieldOr32`. -/
def or (operand orData : UInt32) : UInt32 :=
  operand ||| ((orData <<< UInt32.ofNat field.startBit) &&& field.upToEnd)

/-- `BitFieldAnd32`. -/
def and (operand andData : UInt32) : UInt32 :=
  operand &&& ~~~((~~~andData <<< UInt32.ofNat field.startBit) &&& field.upToEnd)

/-- `BitFieldAndThenOr32`. -/
def andThenOr (operand andData orData : UInt32) : UInt32 :=
  field.or (field.and operand andData) orData

/-- `BitFieldWrite32`. -/
def write (operand value : UInt32) : UInt32 := field.andThenOr operand 0 value

theorem startBit_lt : field.startBit < 32 := Nat.lt_of_le_of_lt field.ordered field.inside

theorem wordBit_moved (data : UInt32) (inside : bit < 32) :
    wordBit ((data <<< UInt32.ofNat field.startBit) &&& field.upToEnd) bit =
      (field.covers bit && wordBit data (bit - field.startBit)) := by
  rw [wordBit_and, wordBit_shiftLeft _ field.startBit_lt inside, field.wordBit_upToEnd inside,
    covers]
  rw [Bool.and_right_comm]

theorem wordBit_fieldOr (operand orData : UInt32) (inside : bit < 32) :
    wordBit (field.or operand orData) bit =
      (wordBit operand bit || field.covers bit && wordBit orData (bit - field.startBit)) := by
  rw [or, wordBit_or, field.wordBit_moved orData inside]

theorem wordBit_fieldAnd (operand andData : UInt32) (inside : bit < 32) :
    wordBit (field.and operand andData) bit =
      (wordBit operand bit && (!field.covers bit || wordBit andData (bit - field.startBit))) := by
  rw [and, wordBit_and, wordBit_not _ inside, field.wordBit_moved _ inside,
    wordBit_not _ (Nat.lt_of_le_of_lt (Nat.sub_le ..) inside), Bool.not_and, Bool.not_not]

theorem wordBit_andThenOr (operand andData orData : UInt32) (inside : bit < 32) :
    wordBit (field.andThenOr operand andData orData) bit =
      if field.covers bit then
        wordBit operand bit && wordBit andData (bit - field.startBit) ||
          wordBit orData (bit - field.startBit)
      else wordBit operand bit := by
  rw [andThenOr, field.wordBit_fieldOr _ _ inside, field.wordBit_fieldAnd _ _ inside]
  cases field.covers bit with
  | true => simp
  | false => simp

end BitField

/-! ### Little-endian fields -/

theorem bitAt_leBytes (width value : Nat) {place : Nat} (inside : place < width) (own : bit < 8) :
    ((leBytes width value)[place]?.map fun byte => byteBit byte bit) =
      some (value.testBit (8 * place + bit)) := by
  induction width generalizing value place with
  | zero => exact absurd inside (Nat.not_lt_zero _)
  | succ width ih =>
    cases place with
    | zero =>
      have byte : byteBit (UInt8.ofNat value) bit = value.testBit bit := by
        rw [byteBit, UInt8.toNat_ofNat', Nat.testBit_mod_two_pow, decide_eq_true own,
          Bool.true_and]
      simp only [leBytes, List.getElem?_cons_zero, Option.map_some, byte, Nat.mul_zero,
        Nat.zero_add]
    | succ place =>
      have higher : (value / 256).testBit (8 * place + bit) =
          value.testBit (8 * (place + 1) + bit) := by
        rw [show (256 : Nat) = 2 ^ 8 from rfl, Nat.testBit_div_two_pow]
        congr 1
        ring
      simp only [leBytes, List.getElem?_cons_succ, ih (value / 256) (Nat.lt_of_succ_lt_succ inside),
        higher]

theorem bitAt_leValue (bytes : List UInt8) {place : Nat} (inside : place < bytes.length)
    (own : bit < 8) :
    (leValue bytes).testBit (8 * place + bit) = byteBit bytes[place] bit := by
  have bits := bitAt_leBytes bytes.length (leValue bytes) inside own
  rw [leBytes_leValue, List.getElem?_eq_getElem inside, Option.map_some] at bits
  exact (Option.some.inj bits).symm

end MuRockchip.Base
