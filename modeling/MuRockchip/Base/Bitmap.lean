/-
Bit arrays kept in bytes, eight bits to a byte, lowest bit first.

A walker goes over such an array by a byte index and a bit index. Here the bits are
numbered through, and setting or flipping one bit of one byte is seen as a change
of one bit of the array.

* `bitAt_modify_or`, `bitAt_modify_xor`: one bit changes, the others stay.
* `BitCursor.index_next`: stepping a cursor goes to the next bit.
-/
import Mathlib.Data.Nat.Bitwise

namespace MuRockchip.Base

/-- The byte with only this bit set. -/
def bitMask (bit : Nat) : UInt8 := UInt8.ofNat (2 ^ bit)

/-- A bit of the array; those past its end are clear. -/
def bitAt (bits : List UInt8) (index : Nat) : Bool :=
  (bits.getD (index / 8) 0).toNat.testBit (index % 8)

theorem bitMask_toNat {bit : Nat} (inByte : bit < 8) : (bitMask bit).toNat = 2 ^ bit := by
  have bound : 2 ^ bit < 2 ^ 8 := Nat.pow_lt_pow_right (by decide) inByte
  rw [bitMask, UInt8.toNat_ofNat', Nat.mod_eq_of_lt bound]

theorem bitMask_and_eq {bit : Nat} (inByte : bit < 8) (data : UInt8) :
    (data &&& bitMask bit == bitMask bit) = data.toNat.testBit bit := by
  have mask := bitMask_toNat inByte
  have same : data &&& bitMask bit = bitMask bit ↔ data.toNat.testBit bit = true := by
    rw [← UInt8.toNat_inj, UInt8.toNat_and, mask]
    constructor
    · intro masked
      have tested := congrArg (Nat.testBit · bit) masked
      simpa [Nat.testBit_and, Nat.testBit_two_pow_self] using tested
    · intro set
      apply Nat.eq_of_testBit_eq
      intro other
      rw [Nat.testBit_and, Nat.testBit_two_pow]
      by_cases here : bit = other
      · simp [← here, set]
      · simp [here]
  by_cases set : data.toNat.testBit bit = true
  · rw [set, beq_iff_eq.mpr (same.mpr set)]
  · have clear := Bool.eq_false_iff.mpr set
    rw [clear, beq_eq_false_iff_ne]
    intro masked
    exact set (same.mp masked)

section

variable {bits : List UInt8} {byte bit : Nat}

theorem getD_modify (inside : byte < bits.length) (f : UInt8 → UInt8) (other : Nat) :
    (bits.modify byte f).getD other 0 =
      if byte = other then f (bits.getD other 0) else bits.getD other 0 := by
  by_cases here : byte = other
  · subst here
    simp [List.getD_eq_getElem?_getD, List.getElem?_eq_getElem inside]
  · simp [List.getD_eq_getElem?_getD, here]

theorem bitAt_modify_or (inside : byte < bits.length) (inByte : bit < 8) (index : Nat) :
    bitAt (bits.modify byte (· ||| bitMask bit)) index =
      (bitAt bits index || decide (index = 8 * byte + bit)) := by
  rw [bitAt, getD_modify inside]
  by_cases here : byte = index / 8
  · rw [if_pos here, UInt8.toNat_or, Nat.testBit_or, bitMask_toNat inByte, Nat.testBit_two_pow,
      bitAt]
    congr 1
    rw [decide_eq_decide]
    omega
  · have apart : ¬ index = 8 * byte + bit := by omega
    simp [here, apart, bitAt]

theorem bitAt_modify_xor (inside : byte < bits.length) (inByte : bit < 8) (index : Nat) :
    bitAt (bits.modify byte (· ^^^ bitMask bit)) index =
      (bitAt bits index ^^ decide (index = 8 * byte + bit)) := by
  rw [bitAt, getD_modify inside]
  by_cases here : byte = index / 8
  · rw [if_pos here, UInt8.toNat_xor, Nat.testBit_xor, bitMask_toNat inByte, Nat.testBit_two_pow,
      bitAt]
    congr 1
    rw [decide_eq_decide]
    omega
  · have apart : ¬ index = 8 * byte + bit := by omega
    simp [here, apart, bitAt]

end

theorem bitAt_replicate_zero (length index : Nat) :
    bitAt (List.replicate length 0) index = false := by
  have zero : (List.replicate length (0 : UInt8)).getD (index / 8) 0 = 0 := by
    rw [List.getD_eq_getElem?_getD, List.getElem?_replicate]
    split <;> rfl
  rw [bitAt, zero]
  exact Nat.zero_testBit _

theorem all_zero_iff (bits : List UInt8) :
    (∀ byte ∈ bits, byte = 0) ↔ ∀ index < 8 * bits.length, bitAt bits index = false := by
  constructor
  · intro zero index inside
    have bound : index / 8 < bits.length := by omega
    rw [bitAt, List.getD_eq_getElem _ _ bound, zero _ (List.getElem_mem bound)]
    exact Nat.zero_testBit _
  · intro clear byte member
    obtain ⟨position, bound, rfl⟩ := List.getElem_of_mem member
    apply UInt8.toNat_inj.mp
    apply Nat.eq_of_testBit_eq
    intro bit
    rw [show (0 : UInt8).toNat = 0 from rfl, Nat.zero_testBit]
    by_cases inByte : bit < 8
    · have here := clear (8 * position + bit) (by omega)
      rw [bitAt, show (8 * position + bit) / 8 = position by omega,
        show (8 * position + bit) % 8 = bit by omega, List.getD_eq_getElem _ _ bound] at here
      exact here
    · have small : bits[position].toNat < 2 ^ bit :=
        lt_of_lt_of_le (bits[position]).toNat_lt (Nat.pow_le_pow_right (by decide) (by omega))
      exact Nat.testBit_lt_two_pow small

/-! ### Walking -/

/-- A position in the array. -/
structure BitCursor where
  byte : Nat
  bit : Nat
  deriving DecidableEq, Repr

namespace BitCursor

def index (cursor : BitCursor) : Nat := 8 * cursor.byte + cursor.bit

def next (cursor : BitCursor) : BitCursor :=
  if cursor.bit + 1 > 7 then ⟨cursor.byte + 1, 0⟩ else ⟨cursor.byte, cursor.bit + 1⟩

variable {cursor : BitCursor}

theorem index_next (inByte : cursor.bit < 8) : cursor.next.index = cursor.index + 1 := by
  unfold next index
  split
  · dsimp only
    omega
  · dsimp only
    omega

theorem bit_next (inByte : cursor.bit < 8) : cursor.next.bit < 8 := by
  unfold next
  split
  · exact Nat.zero_lt_succ 7
  · dsimp only
    omega

theorem bitAt_index (inByte : cursor.bit < 8) (bits : List UInt8) :
    bitAt bits cursor.index = (bits.getD cursor.byte 0).toNat.testBit cursor.bit := by
  rw [bitAt, index, show (8 * cursor.byte + cursor.bit) / 8 = cursor.byte by omega,
    show (8 * cursor.byte + cursor.bit) % 8 = cursor.bit by omega]

theorem index_lt_iff (inByte : cursor.bit < 8) (length : Nat) :
    cursor.index < 8 * length ↔ cursor.byte < length := by
  unfold index
  omega

end BitCursor

end MuRockchip.Base
