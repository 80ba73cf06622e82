/-
The strings of an SMBIOS record (`GetOptionalStringByIndex`).

The strings of a record follow one another, and an empty one ends them; a record without strings
has two NULs. They are counted from one.

* `walkStrings_set`: where the walk over a set ends.
* `getOptionalStringByIndex_extracted_iff`: when the string that is asked for is returned, with
  its size.
-/
import MuRockchip.Base.AsciiString
import MuRockchip.Uefi.Status

namespace MuRockchip.Smbios

open Base

/-! ### Sets of strings -/

/-- The strings of a record. -/
structure StringSet where
  strings : List AsciiString
  nonempty : ∀ string ∈ strings, string.chars ≠ []

/-- Strings one after the other. -/
def stringBytes (strings : List AsciiString) : List UInt8 := strings.flatMap AsciiString.bytes

/-- A set in memory. -/
def StringSet.bytes (set : StringSet) : List UInt8 :=
  match set.strings with
  | [] => [0, 0]
  | strings => stringBytes strings ++ [0]

def idNotFound : AsciiString where
  chars := [0x4E, 0x6F, 0x74, 0x20, 0x46, 0x6F, 0x75, 0x6E, 0x64]
  noNul := by simp

def emptyString : AsciiString where
  chars := []
  noNul := nofun

def StringSet.get (set : StringSet) (index : UInt8) : AsciiString :=
  if index = 0 then emptyString else (set.strings[index.toNat - 1]?).getD idNotFound

/-! ### The walk -/

/-- The `do` loop, for a number of rounds: the start and the size of the string where it ends, and
what is left of `Index`. -/
def walkStrings : Nat → List UInt8 → UInt8 → Nat → Option (List UInt8 × UInt8 × Nat)
  | 0, _, _, _ => none
  | rounds + 1, optionalStrStart, index, strSize => do
    let index := index - 1
    let optionalStrStart := optionalStrStart.drop strSize
    let strSize ← asciiStrSize optionalStrStart
    let next ← optionalStrStart[strSize]?
    if next ≠ 0 ∧ index ≠ 0 then walkStrings rounds optionalStrStart index strSize
    else some (optionalStrStart, index, strSize)

/-- What `GetOptionalStringByIndex` returns: the block `*String` points to, and what it stores in
`*Size`. -/
structure StringOutcome where
  status : EfiStatus
  string : Option (List UInt8)
  size : Option Nat
  deriving DecidableEq, Repr

/-- `AllocatePool` and `CopyMem` of the bytes of a string, which are stored to no block if there
is no memory. -/
def copyString (allocates : Bool) (source : List UInt8) (strSize : Nat) : Option (List UInt8) :=
  if allocates ∧ strSize ≤ source.length then some (source.take strSize) else none

def getOptionalStringByIndex (allocates : Bool) (optionalStrStart : List UInt8) (index : UInt8)
    (sizeGiven : Bool) : Option StringOutcome :=
  if index = 0 then
    some ⟨EfiStatus.success, if allocates then some [0, 0] else none, none⟩
  else do
    let (start, index, strSize) ← walkStrings index.toNat optionalStrStart index 0
    let (source, strSize) :=
      if index ≠ 0 ∨ strSize = 1 then (idNotFound.bytes, idNotFound.size) else (start, strSize)
    let string ← copyString allocates source strSize
    some ⟨EfiStatus.success, some string, if sizeGiven then some strSize else none⟩

/-- A string is returned in a block of its own, and its size if that is asked for. -/
structure Extracted (string : AsciiString) (sizeGiven : Bool) (outcome : StringOutcome) : Prop where
  status : outcome.status = EfiStatus.success
  block : ∃ block, outcome.string = some block ∧ string.bytes <+: block
  size : outcome.size = if sizeGiven then some string.size else none

/-! ### Proofs -/

section

variable {string : AsciiString} {strings : List AsciiString} {rest : List UInt8}

theorem drop_size (string : AsciiString) (rest : List UInt8) :
    (string.bytes ++ rest).drop string.size = rest := by
  rw [← string.length_bytes, List.drop_left]

variable {index : UInt8}

theorem walkStrings_string {rounds : Nat} {before : List UInt8} {strSize : Nat} {next : UInt8}
    (passed : before.drop strSize = string.bytes ++ next :: rest) :
    walkStrings (rounds + 1) before index strSize =
      if next ≠ 0 ∧ index - 1 ≠ 0 then
        walkStrings rounds (string.bytes ++ next :: rest) (index - 1) string.size
      else some (string.bytes ++ next :: rest, index - 1, string.size) := by
  have look : (string.bytes ++ next :: rest)[string.size]? = some next := by
    rw [← string.length_bytes, List.getElem?_append_right (Nat.le_refl _), Nat.sub_self]
    rfl
  simp only [walkStrings, passed, string.asciiStrSize_bytes, look, Option.bind_eq_bind,
    Option.bind_some]

theorem toNat_pos (positive : index ≠ 0) : 0 < index.toNat :=
  Nat.pos_of_ne_zero fun zero => positive (UInt8.toNat_inj.mp zero)

theorem toNat_pred (positive : index ≠ 0) :
    (index - 1).toNat = index.toNat - 1 :=
  UInt8.toNat_sub_of_le index 1 (UInt8.le_iff_toNat_le.mpr (toNat_pos positive))

/-- A string that is not empty starts with a character. -/
theorem exists_head (nonempty : string.chars ≠ []) (rest : List UInt8) :
    ∃ c more, string.bytes ++ rest = c :: more ∧ c ≠ 0 := by
  obtain ⟨c, more, same⟩ := List.exists_cons_of_ne_nil nonempty
  refine ⟨c, more ++ [0] ++ rest, by rw [AsciiString.bytes, same]; rfl, ?_⟩
  exact string.noNul c (same ▸ List.mem_cons_self)

/-- Where the walk over the strings of a set ends: with the string that is asked for, or with the
last one and something left of the index. -/
theorem walkStrings_set {rounds : Nat} {before : List UInt8} {strSize : Nat}
    (nonempty : ∀ other ∈ strings, other.chars ≠ []) (positive : index ≠ 0)
    (enough : index.toNat ≤ rounds)
    (passed : before.drop strSize = string.bytes ++ (stringBytes strings ++ [0])) :
    ∃ start left size, walkStrings rounds before index strSize = some (start, left, size) ∧
      ((∃ found, (string :: strings)[index.toNat - 1]? = some found ∧ left = 0 ∧
          size = found.size ∧ found.bytes <+: start) ∨
        (string :: strings).length < index.toNat ∧ left ≠ 0) := by
  have pos := toNat_pos positive
  have pred := toNat_pred positive
  obtain ⟨rounds, rfl⟩ := Nat.exists_eq_add_one_of_ne_zero
    (Nat.ne_of_gt (Nat.lt_of_lt_of_le pos enough))
  induction strings generalizing string rounds before index strSize with
  | nil =>
    rw [walkStrings_string passed, if_neg fun both => both.1 rfl]
    refine ⟨_, _, _, rfl, ?_⟩
    by_cases last : index - 1 = 0
    · have one : index.toNat - 1 = 0 := by rw [← pred, last]; rfl
      exact .inl ⟨string, by rw [one]; rfl, last, rfl, List.prefix_append _ _⟩
    · have more := toNat_pos last
      exact .inr ⟨by rw [List.length_singleton]; omega, last⟩
  | cons next strings ih =>
    obtain ⟨own, later⟩ := List.forall_mem_cons.mp nonempty
    obtain ⟨c, more, head, char⟩ := exists_head own (stringBytes strings ++ [0])
    have split : stringBytes (next :: strings) ++ [0] =
        next.bytes ++ (stringBytes strings ++ [0]) := List.append_assoc ..
    rw [split, head] at passed
    rw [walkStrings_string passed]
    by_cases last : index - 1 = 0
    · have one : index.toNat - 1 = 0 := by rw [← pred, last]; rfl
      rw [if_neg fun both => both.2 last]
      exact ⟨_, _, _, rfl, .inl ⟨string, by rw [one]; rfl, last, rfl, List.prefix_append _ _⟩⟩
    · rw [if_pos ⟨char, last⟩]
      have nextPos := toNat_pos last
      obtain ⟨rounds, rfl⟩ := Nat.exists_eq_add_one_of_ne_zero (n := rounds) (by omega)
      have onward : (string.bytes ++ c :: more).drop string.size =
          next.bytes ++ (stringBytes strings ++ [0]) := by rw [drop_size, head]
      obtain ⟨start, left, size, walked, ends⟩ :=
        ih later last onward nextPos (toNat_pred last) rounds (by omega)
      refine ⟨start, left, size, walked, ?_⟩
      have place : index.toNat - 1 = (index - 1).toNat - 1 + 1 := by omega
      rw [place, List.getElem?_cons_succ, List.length_cons]
      exact ends.imp_right fun few => ⟨by omega, few.2⟩

theorem walkStrings_bytes (set : StringSet) (positive : index ≠ 0) :
    ∃ start left size, walkStrings index.toNat set.bytes index 0 = some (start, left, size) ∧
      ((∃ found ∈ set.strings, set.get index = found ∧ left = 0 ∧ size = found.size ∧
          found.bytes <+: start) ∨
        set.get index = idNotFound ∧ (left ≠ 0 ∨ size = 1)) := by
  have pos := toNat_pos positive
  obtain ⟨strings, nonempty⟩ := set
  cases strings with
  | nil =>
    obtain ⟨rounds, enough⟩ := Nat.exists_eq_add_one_of_ne_zero (Nat.ne_of_gt pos)
    have empty : List.drop 0 [0, 0] = emptyString.bytes ++ (0 : UInt8) :: [] := rfl
    rw [enough, StringSet.bytes, walkStrings_string empty, if_neg fun both => both.1 rfl]
    exact ⟨_, _, _, rfl, .inr ⟨by rw [StringSet.get, if_neg positive]; rfl, .inr rfl⟩⟩
  | cons string strings =>
    have later := (List.forall_mem_cons.mp nonempty).2
    have whole : (stringBytes (string :: strings) ++ [0]).drop 0 =
        string.bytes ++ (stringBytes strings ++ [0]) := List.append_assoc ..
    obtain ⟨start, left, size, walked, ends⟩ :=
      walkStrings_set later positive (Nat.le_refl _) whole
    refine ⟨start, left, size, walked, ?_⟩
    simp only [StringSet.get, if_neg positive]
    rcases ends with ⟨found, there, left0, size, copied⟩ | ⟨few, left0⟩
    · refine .inl ⟨found, List.mem_of_getElem? there, ?_, left0, size, copied⟩
      rw [there]
      rfl
    · refine .inr ⟨?_, .inl left0⟩
      rw [List.getElem?_eq_none (by omega)]
      rfl

theorem getOptionalStringByIndex_set (set : StringSet) (positive : index ≠ 0) (sizeGiven : Bool) :
    ∃ outcome, getOptionalStringByIndex true set.bytes index sizeGiven = some outcome ∧
      Extracted (set.get index) sizeGiven outcome := by
  obtain ⟨start, left, size, walked, ends⟩ := walkStrings_bytes set positive
  simp only [getOptionalStringByIndex, if_neg positive, walked, Option.bind_eq_bind,
    Option.bind_some]
  rcases ends with ⟨found, there, is, rfl, rfl, copied⟩ | ⟨is, missing⟩
  · have one : found.size ≠ 1 := fun one =>
      set.nonempty found there (List.length_eq_zero_iff.mp (Nat.succ.inj one))
    have enough : found.size ≤ start.length := found.length_bytes ▸ copied.length_le
    have taken : start.take found.size = found.bytes := by
      rw [← found.length_bytes]
      exact List.prefix_iff_eq_take.mp copied |>.symm
    rw [if_neg (not_or.mpr ⟨fun left => left rfl, one⟩), copyString, if_pos ⟨rfl, enough⟩, taken,
      is]
    exact ⟨_, rfl, rfl, ⟨_, rfl, List.prefix_refl _⟩, rfl⟩
  · rw [if_pos missing, is]
    exact ⟨_, rfl, rfl, ⟨_, rfl, List.prefix_refl _⟩, rfl⟩

end

/-- The walk stays inside the set and the string an index stands for is returned, with its size,
exactly when there is memory and not the size of the empty string is asked for. -/
theorem getOptionalStringByIndex_extracted_iff (allocates : Bool) (set : StringSet)
    (index : UInt8) (sizeGiven : Bool) :
    (∃ outcome, getOptionalStringByIndex allocates set.bytes index sizeGiven = some outcome ∧
        Extracted (set.get index) sizeGiven outcome) ↔
      allocates = true ∧ (index = 0 → sizeGiven = false) := by
  by_cases zero : index = 0
  · simp only [getOptionalStringByIndex, if_pos zero, Option.some.injEq, exists_eq_left']
    constructor
    · rintro ⟨-, ⟨block, same, -⟩, size⟩
      refine ⟨?_, fun _ => ?_⟩
      · cases allocates with
        | true => rfl
        | false => exact nomatch same
      · cases sizeGiven with
        | true => exact nomatch size
        | false => rfl
    · rintro ⟨rfl, unasked⟩
      rw [unasked zero, StringSet.get, if_pos zero]
      exact ⟨rfl, ⟨[0, 0], rfl, [0], rfl⟩, rfl⟩
  · constructor
    · rintro ⟨outcome, returned, extracted⟩
      refine ⟨?_, fun same => (zero same).elim⟩
      cases allocates with
      | true => rfl
      | false =>
        obtain ⟨start, left, size, walked, -⟩ := walkStrings_bytes set zero
        simp only [getOptionalStringByIndex, if_neg zero, walked, copyString] at returned
        exact nomatch returned
    · rintro ⟨rfl, -⟩
      exact getOptionalStringByIndex_set set zero sizeGiven

/-- The size of the empty string is not stored. -/
theorem getOptionalStringByIndex_leaves_size :
    ¬ ∃ outcome, getOptionalStringByIndex true (StringSet.bytes ⟨[], nofun⟩) 0 true = some outcome ∧
        Extracted (StringSet.get ⟨[], nofun⟩ 0) true outcome := by
  rintro ⟨outcome, returned, extracted⟩
  obtain rfl := Option.some.inj returned
  exact nomatch extracted.size

end MuRockchip.Smbios
