/-
Records that are handed to the SMBIOS driver (`LogSmbiosData`).

A record is a fixed structure with its strings behind it. Its size is computed in one pass over the
strings and they are copied in another.

* `copyStrings_fits`, `copyStrings_inside`: the strings are copied when they fit, and only then.
* `record_extracts`: what `GetOptionalStringByIndex` finds in a record.
* `logSmbiosData_exact_iff`: when the record is built as it should be.
-/
import Mathlib.Algebra.Group.Nat.Defs
import MuRockchip.Base.Blocks
import MuRockchip.Smbios.StringSet

namespace MuRockchip.Smbios

open Base

/-! ### The record -/

/-- A fixed structure, which starts with its type and its length. -/
structure SmbiosTemplate where
  type : UInt8
  rest : List UInt8
  fits : 2 + rest.length < 256

/-- `Template->Length`. -/
def SmbiosTemplate.length (template : SmbiosTemplate) : Nat := 2 + template.rest.length

/-- A template in memory. -/
def SmbiosTemplate.bytes (template : SmbiosTemplate) : List UInt8 :=
  template.type :: UInt8.ofNat template.length :: template.rest

/-- The services that `LogSmbiosData` calls: `LocateProtocol`, `AllocateZeroPool` and `Add`, with
the handle it gives. -/
structure SmbiosServices where
  locate : Option ErrorStatus
  allocates : Bool
  add : EfiStatus
  handle : UInt16

/-- What `LogSmbiosData` returns, hands to `Add` and stores in `*DataSmbiosHandle`. -/
structure LogOutcome where
  status : EfiStatus
  record : Option (List UInt8)
  dataSmbiosHandle : Option UInt16
  deriving DecidableEq, Repr

/-- The size of the fixed structure and its strings. -/
def recordSize (template : SmbiosTemplate) : Option (List AsciiString) → UInt64
  | none => UInt64.ofNat template.length + 2
  | some stringPack =>
    let size := stringPack.foldl (fun size string => size + UInt64.ofNat string.size)
      (UInt64.ofNat template.length)
    let size := if stringPack.isEmpty then size + 1 else size
    size + 1

/-- The strings are appended: the block, and the offset of `Str`. -/
def copyStrings (record : List UInt8) (str : Nat) :
    List AsciiString → Option (List UInt8 × Nat)
  | [] => some (record, str)
  | string :: strings => do
    let record ← storeBytes record str string.bytes
    copyStrings record (str + string.size) strings

/-- The copy of the template and the strings. `StringPack` is read without a check. -/
def buildRecord (template : SmbiosTemplate) (stringPack : Option (List AsciiString)) :
    Option (List UInt8) := do
  let record := List.replicate (recordSize template stringPack).toNat 0
  let record ← storeBytes record 0 template.bytes
  let recordLength ← record[1]?
  let stringPack ← stringPack
  let (record, str) ← copyStrings record recordLength.toNat stringPack
  storeBytes record str [0]

def logSmbiosData (services : SmbiosServices) (template : SmbiosTemplate)
    (stringPack : Option (List AsciiString)) (handleGiven : Bool) : Option LogOutcome :=
  match services.locate with
  | some failure => some ⟨failure.val, none, none⟩
  | none =>
    if services.allocates = false then some ⟨EfiStatus.outOfResources, none, none⟩
    else do
      let record ← buildRecord template stringPack
      let dataSmbiosHandle :=
        if services.add = EfiStatus.success ∧ handleGiven then some services.handle else none
      some ⟨services.add, some record, dataSmbiosHandle⟩

/-- A record is the template with the strings behind it, and they are found there. -/
structure RecordExact (template : SmbiosTemplate) (set : StringSet) (record : List UInt8) :
    Prop where
  bytes : record = template.bytes ++ set.bytes
  strings : ∀ index ≠ 0, ∀ sizeGiven, ∃ found,
    getOptionalStringByIndex true (record.drop template.length) index sizeGiven = some found ∧
      Extracted (set.get index) sizeGiven found

/-! ### Copying -/

section

variable {record : List UInt8} {str : Nat} {strings : List AsciiString}

theorem copyStrings_fits {before after : List UInt8}
    (fits : (stringBytes strings).length ≤ after.length) :
    copyStrings (before ++ after) before.length strings =
      some (before ++ stringBytes strings ++ after.drop (stringBytes strings).length,
        before.length + (stringBytes strings).length) := by
  induction strings generalizing before after with
  | nil => simp [copyStrings, stringBytes]
  | cons string strings ih =>
    have split : stringBytes (string :: strings) = string.bytes ++ stringBytes strings := rfl
    rw [split, List.length_append] at fits
    have next := @ih (before ++ string.bytes) (after.drop string.bytes.length)
      (by rw [List.length_drop]; omega)
    rw [copyStrings, storeBytes_append (by omega), Option.bind_eq_bind, Option.bind_some,
      ← string.length_bytes, ← List.length_append, next, List.drop_drop, split, List.length_append,
      List.length_append, ← List.append_assoc, Nat.add_assoc]

theorem copyStrings_inside {after : List UInt8} {last : Nat}
    (copied : copyStrings record str strings = some (after, last)) :
    last = str + (stringBytes strings).length ∧ after.length = record.length := by
  induction strings generalizing record str with
  | nil =>
    obtain ⟨rfl, rfl⟩ := Prod.mk.inj (Option.some.inj copied)
    exact ⟨rfl, rfl⟩
  | cons string strings ih =>
    obtain ⟨stored, there, later⟩ := Option.bind_eq_some_iff.mp copied
    obtain ⟨rfl, length⟩ := ih later
    have split : stringBytes (string :: strings) = string.bytes ++ stringBytes strings := rfl
    rw [split, List.length_append, string.length_bytes]
    exact ⟨Nat.add_assoc .., length.trans (storeBytes_inside there).2⟩

end

/-! ### Records -/

section

variable {template : SmbiosTemplate} {set : StringSet}

theorem SmbiosTemplate.length_bytes (template : SmbiosTemplate) :
    template.bytes.length = template.length := by
  simp only [bytes, SmbiosTemplate.length, List.length_cons]
  omega

theorem StringSet.length_bytes (set : StringSet) :
    set.bytes.length = (stringBytes set.strings).length + if set.strings.isEmpty then 2 else 1 := by
  obtain ⟨strings, nonempty⟩ := set
  cases strings with
  | nil => rfl
  | cons string strings => simp [bytes]

theorem foldl_size_toNat (strings : List AsciiString) (size : UInt64) :
    (strings.foldl (fun size string => size + UInt64.ofNat string.size) size).toNat =
      (size.toNat + (stringBytes strings).length) % 2 ^ 64 := by
  induction strings generalizing size with
  | nil => exact (Nat.mod_eq_of_lt size.toNat_lt).symm
  | cons string strings ih =>
    have split : stringBytes (string :: strings) = string.bytes ++ stringBytes strings := rfl
    rw [List.foldl_cons, ih, split, List.length_append, string.length_bytes, UInt64.toNat_add,
      UInt64.toNat_ofNat']
    omega

theorem recordSize_toNat (template : SmbiosTemplate) (set : StringSet) :
    (recordSize template (some set.strings)).toNat =
      (template.length + set.bytes.length) % 2 ^ 64 := by
  have small : template.length < 256 := template.fits
  have length : (UInt64.ofNat template.length).toNat = template.length :=
    UInt64.toNat_ofNat_of_lt' (Nat.lt_trans small (by decide))
  have sum := foldl_size_toNat set.strings (UInt64.ofNat template.length)
  rw [recordSize, set.length_bytes]
  cases set.strings.isEmpty <;> simp only [if_true, Bool.false_eq_true, if_false, UInt64.toNat_add,
    sum, length, UInt64.toNat_one] <;> omega

theorem StringSet.bytes_eq (set : StringSet) :
    set.bytes = stringBytes set.strings ++ [0] ++
      List.replicate (set.bytes.length - ((stringBytes set.strings).length + 1)) 0 := by
  obtain ⟨strings, nonempty⟩ := set
  cases strings with
  | nil => rfl
  | cons string strings => simp [bytes]

theorem storeBytes_template (template : SmbiosTemplate) (count : Nat) :
    storeBytes (List.replicate (template.length + count) 0) 0 template.bytes =
      some (template.bytes ++ List.replicate count 0) := by
  have length := template.length_bytes
  have stored := @storeBytes_append [] (List.replicate (template.length + count) 0) template.bytes
    (by rw [List.length_replicate, length]; exact Nat.le_add_right _ _)
  rw [List.drop_replicate, length, Nat.add_sub_cancel_left] at stored
  exact stored

theorem recordLength_template (template : SmbiosTemplate) (rest : List UInt8) :
    ∃ recordLength, (template.bytes ++ rest)[1]? = some recordLength ∧
      recordLength.toNat = template.bytes.length := by
  refine ⟨UInt8.ofNat template.length, rfl, ?_⟩
  rw [template.length_bytes]
  exact UInt8.toNat_ofNat_of_lt' template.fits

/-- A record whose size does not overflow is built. -/
theorem buildRecord_fits (fits : template.length + set.bytes.length < 2 ^ 64) :
    buildRecord template (some set.strings) = some (template.bytes ++ set.bytes) := by
  have room : (stringBytes set.strings).length + 1 ≤ set.bytes.length := by
    rw [set.length_bytes]
    split <;> omega
  obtain ⟨recordLength, read, same⟩ :=
    recordLength_template template (List.replicate set.bytes.length 0)
  have copied := @copyStrings_fits set.strings template.bytes (List.replicate set.bytes.length 0)
    (by rw [List.length_replicate]; omega)
  have ended := @storeBytes_append (template.bytes ++ stringBytes set.strings)
    (List.replicate (set.bytes.length - (stringBytes set.strings).length) 0) [0]
    (by rw [List.length_replicate, List.length_singleton]; omega)
  rw [List.drop_replicate] at copied ended
  rw [List.length_append] at ended
  simp only [buildRecord, recordSize_toNat, Nat.mod_eq_of_lt fits, storeBytes_template, read, same,
    copied, ended, Option.bind_eq_bind, Option.bind_some]
  rw [set.bytes_eq]
  simp

theorem fits_of_buildRecord {record : List UInt8}
    (built : buildRecord template (some set.strings) = some record) :
    template.length + set.bytes.length < 2 ^ 64 := by
  obtain ⟨started, stored, built⟩ := Option.bind_eq_some_iff.mp built
  obtain ⟨recordLength, read, built⟩ := Option.bind_eq_some_iff.mp built
  obtain ⟨stringPack, given, built⟩ := Option.bind_eq_some_iff.mp built
  obtain rfl := Option.some.inj given
  obtain ⟨⟨copied, last⟩, strings, ended⟩ := Option.bind_eq_some_iff.mp built
  obtain ⟨place, length⟩ := copyStrings_inside strings
  have small : template.length < 256 := template.fits
  have inside := (storeBytes_inside ended).1
  have first := (storeBytes_inside stored).2
  rw [List.length_replicate, recordSize_toNat] at first
  have bound : (template.length + set.bytes.length) % 2 ^ 64 < 2 ^ 64 := Nat.mod_lt _ (by decide)
  have same : recordLength.toNat = template.length := by
    rw [storeBytes] at stored
    split at stored
    · obtain rfl := Option.some.inj stored
      obtain rfl := Option.some.inj read
      exact UInt8.toNat_ofNat_of_lt' template.fits
    · cases stored
  rw [List.length_singleton] at inside
  rw [set.length_bytes] at bound first ⊢
  cases empty : set.strings.isEmpty with
  | true =>
    rw [List.isEmpty_iff.mp empty]
    exact Nat.lt_of_le_of_lt (Nat.add_le_add_right (Nat.le_of_lt small) 2) (by decide)
  | false =>
    rw [if_neg (by simp)]
    omega

theorem recordExact (template : SmbiosTemplate) (set : StringSet) :
    RecordExact template set (template.bytes ++ set.bytes) where
  bytes := rfl
  strings index positive sizeGiven := by
    rw [← template.length_bytes, List.drop_left]
    exact getOptionalStringByIndex_set set positive sizeGiven

end

/-- The strings of a pack; a pack that is not given has none. -/
def packSet (pack : Option StringSet) : StringSet := pack.getD ⟨[], nofun⟩

/-- A record that is built as it should be is handed to the driver, if the driver is found and
there is memory, exactly when there is a pack and the size of the record does not overflow. -/
theorem logSmbiosData_exact_iff (services : SmbiosServices) (template : SmbiosTemplate)
    (pack : Option StringSet) (handleGiven : Bool) :
    (∃ outcome, logSmbiosData services template (pack.map StringSet.strings) handleGiven =
        some outcome ∧
      if services.locate = none ∧ services.allocates then
        ∃ record, outcome.record = some record ∧ RecordExact template (packSet pack) record
      else outcome.record = none) ↔
    (services.locate = none → services.allocates = true →
      ∃ set, pack = some set ∧ template.length + set.bytes.length < 2 ^ 64) := by
  obtain ⟨locate, allocates, add, handle⟩ := services
  cases locate with
  | some failure => exact ⟨fun _ same => (nomatch same), fun _ => ⟨_, rfl, rfl⟩⟩
  | none =>
    cases allocates with
    | false => exact ⟨fun _ _ same => (nomatch same), fun _ => ⟨_, rfl, rfl⟩⟩
    | true =>
      constructor
      · rintro ⟨outcome, returned, -⟩ - -
        obtain ⟨record, built, -⟩ := Option.bind_eq_some_iff.mp returned
        cases pack with
        | none =>
          obtain ⟨started, stored, built⟩ := Option.bind_eq_some_iff.mp built
          obtain ⟨recordLength, read, built⟩ := Option.bind_eq_some_iff.mp built
          exact nomatch built
        | some set => exact ⟨set, rfl, fits_of_buildRecord built⟩
      · intro given
        obtain ⟨set, rfl, fits⟩ := given rfl rfl
        simp only [logSmbiosData, Option.map_some, buildRecord_fits fits]
        exact ⟨_, rfl, _, rfl, recordExact template set⟩

/-- Without a pack the pointers to the strings are read at address zero. -/
theorem logSmbiosData_reads_null :
    ¬ ∃ outcome, logSmbiosData ⟨none, true, EfiStatus.success, 0⟩ ⟨32, [0, 0], by decide⟩
        ((none : Option StringSet).map StringSet.strings) false = some outcome := by
  rintro ⟨outcome, returned⟩
  exact nomatch returned

end MuRockchip.Smbios
