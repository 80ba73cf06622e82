/-
Cyclic redundancy checks in the reflected form.

The register moves down one bit at a time, and the polynomial is added where a one falls out. This
is linear, and invertible where the polynomial has its highest bit: what the register holds can be
told from what it held before. Eight steps at once are looked up in a table.

* `crcByte_table`: a byte by the table is a byte bit by bit.
* `crcBytes_word`: bytes that fit the register are taken in at once.
* `crcBytes_window`, `crcBytes_differ`: strings that differ in a window as wide as the register are
  told apart.
-/
import Mathlib.Logic.Function.Iterate
import MuRockchip.Base.Bytes

namespace MuRockchip.Base

variable {w : Nat} (poly : BitVec w)

/-- One step of the register. -/
def crcBit (crc : BitVec w) : BitVec w :=
  if crc.getLsbD 0 then (crc >>> 1) ^^^ poly else crc >>> 1

/-- Some steps of the register. -/
def crcBits (count : Nat) (crc : BitVec w) : BitVec w := (crcBit poly)^[count] crc

def crcByte (crc : BitVec w) (byte : UInt8) : BitVec w :=
  crcBits poly 8 (crc ^^^ byte.toBitVec.setWidth w)

def crcBytes (crc : BitVec w) (bytes : List UInt8) : BitVec w := bytes.foldl (crcByte poly) crc

section

variable {poly}

theorem crcBits_add (first second : Nat) (crc : BitVec w) :
    crcBits poly (first + second) crc = crcBits poly first (crcBits poly second crc) :=
  Function.iterate_add_apply ..

/-! ### Linearity -/

theorem crcBit_xor (left right : BitVec w) :
    crcBit poly (left ^^^ right) = crcBit poly left ^^^ crcBit poly right := by
  unfold crcBit
  rw [BitVec.getLsbD_xor, BitVec.ushiftRight_xor_distrib]
  cases left.getLsbD 0 with
  | false =>
    cases right.getLsbD 0 with
    | false => rfl
    | true => exact BitVec.xor_assoc ..
  | true =>
    cases right.getLsbD 0 with
    | false =>
      simp only [Bool.xor_false, if_true, Bool.false_eq_true, if_false]
      rw [BitVec.xor_assoc, BitVec.xor_assoc, BitVec.xor_comm poly]
    | true =>
      simp only [Bool.xor_self, Bool.false_eq_true, if_false, if_true]
      rw [BitVec.xor_assoc, BitVec.xor_comm (right >>> 1) poly, ← BitVec.xor_assoc poly,
        BitVec.xor_self, BitVec.zero_xor]

theorem crcBits_xor (count : Nat) (left right : BitVec w) :
    crcBits poly count (left ^^^ right) =
      crcBits poly count left ^^^ crcBits poly count right := by
  induction count generalizing left right with
  | zero => rfl
  | succ count ih =>
    have step (crc : BitVec w) :
        crcBits poly (count + 1) crc = crcBits poly count (crcBit poly crc) := rfl
    rw [step, step, step, crcBit_xor, ih]

/-- A register whose low bits are clear only moves down. -/
theorem crcBits_clear {count : Nat} {crc : BitVec w}
    (clear : ∀ bit < count, crc.getLsbD bit = false) : crcBits poly count crc = crc >>> count := by
  induction count generalizing crc with
  | zero => exact (BitVec.ushiftRight_zero ..).symm
  | succ count ih =>
    have here : crcBit poly crc = crc >>> 1 := by
      rw [crcBit, clear 0 (Nat.succ_pos _)]
      rfl
    have rest : ∀ bit < count, (crc >>> 1).getLsbD bit = false := by
      intro bit inside
      rw [BitVec.getLsbD_ushiftRight]
      exact clear (1 + bit) (by omega)
    calc crcBits poly (count + 1) crc
        = crcBits poly count (crcBit poly crc) := rfl
      _ = crc >>> 1 >>> count := by rw [here, ih rest]
      _ = crc >>> (count + 1) := by rw [← BitVec.shiftRight_add, Nat.add_comm]

/-! ### The table -/

theorem crcByte_table (crc : BitVec w) (byte : UInt8) :
    crcByte poly crc byte =
      (crc >>> 8) ^^^ crcBits poly 8 ((crc.setWidth 8 ^^^ byte.toBitVec).setWidth w) := by
  -- the low byte and the rest of the register are taken apart
  have split : crc ^^^ byte.toBitVec.setWidth w =
      (crc >>> 8) <<< 8 ^^^ (crc.setWidth 8 ^^^ byte.toBitVec).setWidth w := by
    apply BitVec.eq_of_getLsbD_eq
    intro bit inside
    simp only [BitVec.getLsbD_xor, BitVec.getLsbD_shiftLeft, BitVec.getLsbD_ushiftRight,
      BitVec.getLsbD_setWidth, inside, decide_true, Bool.true_and]
    rcases Nat.lt_or_ge bit 8 with low | high
    · simp [low]
    · have far : byte.toBitVec.getLsbD bit = false := BitVec.getLsbD_of_ge _ _ high
      have place : 8 + (bit - 8) = bit := by omega
      simp [far, Nat.not_lt.mpr high, place]
  have clear : ∀ bit < 8, ((crc >>> 8) <<< 8).getLsbD bit = false := by
    intro bit inside
    rw [BitVec.getLsbD_shiftLeft]
    simp [inside]
  have back : (crc >>> 8) <<< 8 >>> 8 = crc >>> 8 := by
    apply BitVec.eq_of_getLsbD_eq
    intro bit inside
    simp only [BitVec.getLsbD_ushiftRight, BitVec.getLsbD_shiftLeft]
    rcases Nat.lt_or_ge (8 + bit) w with here | beyond
    · simp [here]
    · have none := BitVec.getLsbD_of_ge crc _ beyond
      simp [none]
  rw [crcByte, split, crcBits_xor, crcBits_clear clear, back]

/-! ### Telling apart -/

/-- A polynomial with its highest bit loses nothing in a step. -/
theorem crcBit_injective (top : poly.msb = true) : Function.Injective (crcBit poly) := by
  intro left right same
  have zero : crcBit poly (left ^^^ right) = 0#w := by
    rw [crcBit_xor, same, BitVec.xor_self]
  have high : ((left ^^^ right) >>> 1).msb = false := by
    rw [BitVec.msb_ushiftRight]
    simp
  unfold crcBit at zero
  split at zero
  · have msb := congrArg BitVec.msb zero
    rw [BitVec.msb_xor, high, top] at msb
    simp at msb
  · next low =>
    have none : left ^^^ right = 0#w := by
      apply BitVec.eq_of_getLsbD_eq
      intro bit inside
      cases bit with
      | zero => simpa using low
      | succ bit =>
        have moved := congrArg (fun crc : BitVec w => crc.getLsbD bit) zero
        rw [BitVec.getLsbD_ushiftRight, Nat.add_comm, BitVec.getLsbD_zero] at moved
        rw [moved, BitVec.getLsbD_zero]
    exact BitVec.xor_eq_zero_iff.mp none

theorem crcBits_injective (top : poly.msb = true) (count : Nat) :
    Function.Injective (crcBits poly count) :=
  (crcBit_injective top).iterate count

theorem crcByte_injective (top : poly.msb = true) (byte : UInt8) :
    Function.Injective fun crc => crcByte poly crc byte := by
  intro left right same
  have moved := crcBits_injective top 8 same
  have cancelled := congrArg (· ^^^ byte.toBitVec.setWidth w) moved
  simpa only [BitVec.xor_assoc, BitVec.xor_self, BitVec.xor_zero] using cancelled

theorem crcBytes_append (crc : BitVec w) (first second : List UInt8) :
    crcBytes poly crc (first ++ second) = crcBytes poly (crcBytes poly crc first) second :=
  List.foldl_append

theorem crcBytes_injective (top : poly.msb = true) (bytes : List UInt8) :
    Function.Injective fun crc => crcBytes poly crc bytes := by
  induction bytes with
  | nil => exact fun _ _ same => same
  | cons byte bytes ih =>
    intro left right same
    exact crcByte_injective top byte (ih same)

/-- Bytes that fit the register are taken in at once. -/
theorem crcBytes_word (crc : BitVec w) {bytes : List UInt8} (fits : 8 * bytes.length ≤ w) :
    crcBytes poly crc bytes =
      crcBits poly (8 * bytes.length) (crc ^^^ BitVec.ofNat w (leValue bytes)) := by
  induction bytes generalizing crc with
  | nil =>
    have zero : BitVec.ofNat w (leValue []) = 0#w := rfl
    rw [zero, BitVec.xor_zero]
    rfl
  | cons byte bytes ih =>
    rw [List.length_cons] at fits
    have small := leValue_lt bytes
    have room : leValue bytes < 2 ^ (8 * bytes.length) := by rwa [pow_mul]
    -- the other bytes only move down while this one is taken in
    have split : BitVec.ofNat w (leValue (byte :: bytes)) =
        byte.toBitVec.setWidth w ^^^ BitVec.ofNat w (leValue bytes) <<< 8 := by
      apply BitVec.eq_of_getLsbD_eq
      intro bit inside
      have below := byte.toNat_lt
      rw [BitVec.getLsbD_xor, BitVec.getLsbD_ofNat, BitVec.getLsbD_setWidth,
        BitVec.getLsbD_shiftLeft, BitVec.getLsbD_ofNat, leValue]
      simp only [inside, decide_true, Bool.true_and]
      rw [show 256 * leValue bytes = 2 ^ 8 * leValue bytes from rfl, Nat.add_comm,
        Nat.testBit_two_pow_mul_add _ below]
      rcases Nat.lt_or_ge bit 8 with low | high
      · simp only [low, if_true, decide_true, Bool.not_true, Bool.false_and, Bool.xor_false]
        rfl
      · have far : byte.toBitVec.getLsbD bit = false := BitVec.getLsbD_of_ge _ _ high
        have near : bit - 8 < w := Nat.lt_of_le_of_lt (Nat.sub_le ..) inside
        simp only [Nat.not_lt.mpr high, if_false, decide_false, Bool.not_false, Bool.true_and, far,
          Bool.false_xor, near, decide_true]
    have clear : ∀ bit < 8, (BitVec.ofNat w (leValue bytes) <<< 8).getLsbD bit = false := by
      intro bit inside
      rw [BitVec.getLsbD_shiftLeft]
      simp [inside]
    have back : BitVec.ofNat w (leValue bytes) <<< 8 >>> 8 = BitVec.ofNat w (leValue bytes) := by
      apply BitVec.eq_of_getLsbD_eq
      intro bit inside
      rw [BitVec.getLsbD_ushiftRight, BitVec.getLsbD_shiftLeft, Nat.add_sub_cancel_left]
      rcases Nat.lt_or_ge (8 + bit) w with here | beyond
      · rw [decide_eq_true here, decide_eq_false (by omega : ¬ 8 + bit < 8), Bool.not_false,
          Bool.true_and, Bool.true_and]
      · have none : (leValue bytes).testBit bit = false := by
          refine Nat.testBit_lt_two_pow (Nat.lt_of_lt_of_le room ?_)
          exact Nat.pow_le_pow_right (by omega) (by omega)
        rw [BitVec.getLsbD_ofNat, none, Bool.and_false, Bool.and_false]
    have one : crcByte poly crc byte ^^^ BitVec.ofNat w (leValue bytes) =
        crcBits poly 8 (crc ^^^ BitVec.ofNat w (leValue (byte :: bytes))) := by
      rw [split, ← BitVec.xor_assoc, crcBits_xor, crcBits_clear clear, back]
      rfl
    have count : 8 * (byte :: bytes).length = 8 * bytes.length + 8 := by
      rw [List.length_cons]
      omega
    calc crcBytes poly crc (byte :: bytes)
        = crcBytes poly (crcByte poly crc byte) bytes := rfl
      _ = crcBits poly (8 * bytes.length)
            (crcByte poly crc byte ^^^ BitVec.ofNat w (leValue bytes)) := ih _ (by omega)
      _ = crcBits poly (8 * (byte :: bytes).length)
            (crc ^^^ BitVec.ofNat w (leValue (byte :: bytes))) := by
          rw [one, count, crcBits_add]

theorem crcBytes_window (top : poly.msb = true) (crc : BitVec w) (before after : List UInt8)
    {left right : List UInt8} (length : left.length = right.length)
    (fits : 8 * left.length ≤ w) (different : left ≠ right) :
    crcBytes poly crc (before ++ left ++ after) ≠ crcBytes poly crc (before ++ right ++ after) := by
  intro same
  rw [crcBytes_append, crcBytes_append, crcBytes_append, crcBytes_append] at same
  have window := crcBytes_injective top after same
  rw [crcBytes_word (crcBytes poly crc before) fits,
    crcBytes_word (crcBytes poly crc before) (show 8 * right.length ≤ w from length ▸ fits),
    ← length] at window
  have registers := crcBits_injective top _ window
  have words := congrArg (crcBytes poly crc before ^^^ ·) registers
  simp only [← BitVec.xor_assoc, BitVec.xor_self, BitVec.zero_xor] at words
  have values := congrArg BitVec.toNat words
  have bound {bytes : List UInt8} (same : bytes.length = left.length) :
      leValue bytes < 2 ^ w := by
    have small := leValue_lt bytes
    rw [show (256 : Nat) = 2 ^ 8 from rfl, ← pow_mul] at small
    exact Nat.lt_of_lt_of_le small (Nat.pow_le_pow_right (by omega) (by rw [same]; exact fits))
  rw [BitVec.toNat_ofNat, BitVec.toNat_ofNat, Nat.mod_eq_of_lt (bound rfl),
    Nat.mod_eq_of_lt (bound length.symm)] at values
  apply different
  rw [← leBytes_leValue left, ← leBytes_leValue right, values, length]

/-- The same for strings that agree outside a window. -/
theorem crcBytes_differ (top : poly.msb = true) (crc : BitVec w) {left right : List UInt8}
    (length : left.length = right.length) {start width : Nat} (fits : 8 * width ≤ w)
    (agree : ∀ index, index < start ∨ start + width ≤ index → left[index]? = right[index]?)
    (different : left ≠ right) : crcBytes poly crc left ≠ crcBytes poly crc right := by
  have parts (bytes : List UInt8) :
      bytes = bytes.take start ++ (bytes.drop start).take width ++ bytes.drop (start + width) := by
    rw [List.append_assoc, ← List.drop_drop, List.take_append_drop, List.take_append_drop]
  have before : left.take start = right.take start := by
    apply List.ext_getElem?
    intro index
    rw [List.getElem?_take, List.getElem?_take]
    split
    · next inside => exact agree index (Or.inl inside)
    · rfl
  have after : left.drop (start + width) = right.drop (start + width) := by
    apply List.ext_getElem?
    intro index
    rw [List.getElem?_drop, List.getElem?_drop]
    exact agree _ (Or.inr (Nat.le_add_right ..))
  have window : (left.drop start).take width ≠ (right.drop start).take width := by
    intro same
    apply different
    rw [parts left, parts right, before, same, after]
  rw [parts left, parts right, before, after]
  apply crcBytes_window top
  · rw [List.length_take, List.length_take, List.length_drop, List.length_drop, length]
  · rw [List.length_take]
    omega
  · exact window

end

end MuRockchip.Base
