/-
Words of a register file as the bytes that go through them.

Controllers hand bytes over four at a time, in little-endian words.

* `bytesOfWords_map_range`: the bytes of the words that a function gives.
* `wordBytes_wordOfBytes`: four bytes go through a word unchanged.
* `bytesOfWords_loadWord`: a block that is read in words.
-/
import Mathlib.Tactic.IntervalCases
import MuRockchip.Base.Bytes

namespace MuRockchip.Base

def wordByte (word : UInt32) (k : Nat) : UInt8 := UInt8.ofNat (word.toNat / 256 ^ k)

def wordBytes (word : UInt32) : List UInt8 := leBytes 4 word.toNat

/-- The bytes of words that follow one another. -/
def bytesOfWords (words : List UInt32) : List UInt8 := words.flatMap wordBytes

def wordOfBytes (bytes : List UInt8) : UInt32 := UInt32.ofNat (leValue bytes)

def loadWord (block : List UInt8) (word : Nat) : Option UInt32 :=
  if 4 * word + 4 ≤ block.length then some (wordOfBytes ((block.drop (4 * word)).take 4)) else none

theorem getLsbD_wordByte (word : UInt32) (k : Nat) {bit : Nat} (inside : bit < 8) :
    (wordByte word k).toBitVec.getLsbD bit = word.toBitVec.getLsbD (8 * k + bit) := by
  have split : 256 ^ k = 2 ^ (8 * k) := (pow_mul 2 8 k).symm
  have byte : (wordByte word k).toNat = word.toNat / 2 ^ (8 * k) % 2 ^ 8 := by
    rw [wordByte, UInt8.toNat_ofNat', split]
  rw [BitVec.getLsbD, UInt8.toNat_toBitVec, byte, Nat.testBit_mod_two_pow, Nat.testBit_div_two_pow,
    decide_eq_true inside, Bool.true_and, Nat.add_comm]
  rfl

theorem wordByte_eq {word : UInt32} {k : Nat} {byte : UInt8}
    (bits : ∀ bit < 8, word.toBitVec.getLsbD (8 * k + bit) = byte.toBitVec.getLsbD bit) :
    wordByte word k = byte := by
  refine UInt8.toBitVec_inj.mp (BitVec.eq_of_getLsbD_eq fun bit inside => ?_)
  rw [getLsbD_wordByte word k inside, bits bit inside]

theorem wordByte_or (left right : UInt32) (k : Nat) :
    wordByte (left ||| right) k = wordByte left k ||| wordByte right k := by
  refine wordByte_eq fun bit inside => ?_
  simp only [UInt32.toBitVec_or, UInt8.toBitVec_or, BitVec.getLsbD_or, getLsbD_wordByte _ _ inside]

theorem wordByte_zero (k : Nat) : wordByte 0 k = 0 := by
  rw [wordByte, UInt32.toNat_zero, Nat.zero_div]
  rfl

theorem toNat_byte_shiftLeft (byte : UInt8) {place : Nat} (inside : place < 4) :
    (byte.toUInt32 <<< UInt32.ofNat (place * 8)).toNat = byte.toNat * 256 ^ place := by
  have below := byte.toNat_lt
  have few : place * 8 < 32 := by omega
  have count : (UInt32.ofNat (place * 8)).toNat = place * 8 :=
    UInt32.toNat_ofNat_of_lt' (Nat.lt_of_lt_of_le few (by decide))
  have power : 2 ^ (place * 8) = 256 ^ place := (Nat.mul_comm place 8) ▸ pow_mul 2 8 place
  rw [UInt32.toNat_shiftLeft, count, Nat.mod_eq_of_lt few, UInt8.toNat_toUInt32,
    Nat.shiftLeft_eq, power]
  interval_cases place <;> omega

theorem wordByte_shiftLeft (byte : UInt8) {place k : Nat} (inside : place < 4) (other : k < 4) :
    wordByte (byte.toUInt32 <<< UInt32.ofNat (place * 8)) k = if k = place then byte else 0 := by
  have below := byte.toNat_lt
  refine UInt8.toNat_inj.mp ?_
  rw [wordByte, toNat_byte_shiftLeft byte inside, UInt8.toNat_ofNat']
  interval_cases place <;> interval_cases k <;> simp <;> omega

@[simp]
theorem wordBytes_length (word : UInt32) : (wordBytes word).length = 4 := leBytes_length _ _

theorem wordBytes_eq (word : UInt32) : wordBytes word = (List.range 4).map (wordByte word) := by
  simp only [wordBytes, leBytes, wordByte, List.range, List.range.loop, List.map_cons, List.map_nil,
    Nat.div_div_eq_div_mul, pow_zero, pow_one, Nat.div_one]
  rfl

theorem wordBytes_wordOfBytes {bytes : List UInt8} (four : bytes.length = 4) :
    wordBytes (wordOfBytes bytes) = bytes := by
  have below := leValue_lt bytes
  rw [four] at below
  have same : (wordOfBytes bytes).toNat = leValue bytes :=
    UInt32.toNat_ofNat_of_lt' (Nat.lt_of_lt_of_le below (by decide))
  have back := leBytes_leValue bytes
  rw [four] at back
  rw [wordBytes, same, back]

theorem bytesOfWords_map_range (word : Nat → UInt32) (count : Nat) :
    bytesOfWords ((List.range count).map word) =
      (List.range (4 * count)).map fun k => wordByte (word (k / 4)) (k % 4) := by
  induction count with
  | zero => rfl
  | succ count ih =>
    have last : (List.range 4).map (wordByte (word count)) =
        (List.range 4).map fun k =>
          wordByte (word ((4 * count + k) / 4)) ((4 * count + k) % 4) := by
      refine List.map_congr_left fun k below => ?_
      have small := List.mem_range.mp below
      have own : (4 * count + k) / 4 = count ∧ (4 * count + k) % 4 = k := by omega
      rw [own.1, own.2]
    rw [List.range_succ, List.map_append, bytesOfWords, List.flatMap_append, ← bytesOfWords, ih,
      Nat.mul_succ, List.range_add, List.map_append, List.map_map, List.map_singleton,
      List.flatMap_singleton, wordBytes_eq, last]
    rfl

theorem getElem?_wordBytes (word : UInt32) {k : Nat} (inside : k < 4) :
    (wordBytes word)[k]? = some (wordByte word k) := by
  rw [wordBytes_eq, List.getElem?_map, List.getElem?_range inside]
  rfl

theorem getElem?_bytesOfWords (words : List UInt32) (k : Nat) :
    (bytesOfWords words)[k]? = words[k / 4]?.map (wordByte · (k % 4)) := by
  induction words generalizing k with
  | nil => rfl
  | cons word words ih =>
    rw [bytesOfWords, List.flatMap_cons, ← bytesOfWords]
    by_cases own : k < 4
    · have first : k / 4 = 0 ∧ k % 4 = k := by omega
      rw [List.getElem?_append_left (by simpa using own), getElem?_wordBytes word own, first.1,
        first.2]
      rfl
    · have later : k / 4 = (k - 4) / 4 + 1 ∧ (k - 4) % 4 = k % 4 := by omega
      rw [List.getElem?_append_right (by simpa using own), wordBytes_length, ih, later.1, later.2]
      rfl

theorem bytesOfWords_loadWord {block : List UInt8} {count : Nat}
    (inside : 4 * count ≤ block.length) :
    ∃ words, (List.range count).mapM (loadWord block) = some words ∧
      bytesOfWords words = block.take (4 * count) := by
  induction count with
  | zero => exact ⟨[], rfl, rfl⟩
  | succ count ih =>
    obtain ⟨words, loaded, same⟩ := ih (by omega)
    have last : loadWord block count = some (wordOfBytes ((block.drop (4 * count)).take 4)) :=
      if_pos (by omega)
    have four : ((block.drop (4 * count)).take 4).length = 4 := by
      rw [List.length_take, List.length_drop]
      omega
    refine ⟨words ++ [wordOfBytes ((block.drop (4 * count)).take 4)], ?_, ?_⟩
    · rw [List.range_succ, List.mapM_append, loaded, List.mapM_cons, last]
      rfl
    · rw [bytesOfWords, List.flatMap_append, ← bytesOfWords, same, List.flatMap_singleton,
        wordBytes_wordOfBytes four, Nat.mul_succ, List.take_add]

end MuRockchip.Base
