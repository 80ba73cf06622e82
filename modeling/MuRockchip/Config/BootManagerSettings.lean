/-
The record of the boot manager's settings (`BootManagerSettings.c`).

The settings live in one variable, behind a signature and a version. At boot the record is checked:
one of an older layout is brought up to date, and any other one is deleted and written anew with
the defaults. Every access reads the whole record into a structure on the stack.

* `get_set_same`, `get_set_other`: the fields of the structure.
* `get_load_saved`: what is read back from a record that was written.
-/
import MuRockchip.Base.Bytes
import MuRockchip.Base.Layout
import MuRockchip.Uefi.Status

namespace MuRockchip.Config

open Base

/-! ### The record -/

inductive Setting where
  | ipv6
  | altBoot
  | bootOrderLock
  | enableUsbBoot
  | startNetwork
  deriving DecidableEq, Repr

inductive SettingsField where
  | signature
  | version
  | setting (setting : Setting)
  deriving DecidableEq, Repr

/-- `EFI_VARIABLE_RUNTIME_ACCESS`. -/
def runtimeAccess : UInt32 := 0x00000004

/-- `MS_BOOT_MANAGER_SETTINGS`: where its fields are, and the constants it is checked against. -/
structure SettingsFormat where
  /-- `sizeof (Settings)`. -/
  size : Nat
  range : SettingsField → Interval
  inside : ∀ field, (range field).finish ≤ size
  apart : ∀ left right, left ≠ right → (range left).Disjoint (range right)
  oneByte : ∀ setting, (range (.setting setting)).length = 1
  signature : Nat
  signatureOld : Nat
  attributes : UInt32
  version1 : Nat
  version2 : Nat
  version3 : Nat
  signature_fits : signature < 256 ^ (range .signature).length
  version_fits : version3 < 256 ^ (range .version).length
  version1_pos : 0 < version1
  version1_lt : version1 < version2
  version2_lt : version2 < version3
  notRuntime : attributes &&& runtimeAccess = 0

namespace SettingsFormat

variable (format : SettingsFormat) (settings : Nat → UInt8) (field : SettingsField)

def get : Nat :=
  leValue (slice settings (format.range field).base (format.range field).length)

def set (value : Nat) : Nat → UInt8 :=
  place settings ⟨(format.range field).base, leBytes (format.range field).length value⟩

/-- The bytes that are written to the variable. -/
def saved : List UInt8 := slice settings 0 format.size

end SettingsFormat

/-- The structure after data has been read into it. -/
def load (stack : Nat → UInt8) (data : List UInt8) : Nat → UInt8 := place stack ⟨0, data⟩

/-! ### The variable -/

structure SettingsVariable where
  attributes : UInt32
  data : List UInt8
  deriving DecidableEq, Repr

/-- The variable of the settings, if there is one. -/
abbrev SettingsStore : Type := Option SettingsVariable

/-- What a read fails with. Only a variable that does not exist is not found. -/
abbrev ReadFailure : Type :=
  { status : EfiStatus // status.isError = true ∧ status ≠ EfiStatus.notFound }

/-- `GetVariable` with a buffer of some size. -/
def getVariable (store : SettingsStore) (failure : Option ReadFailure) (size : Nat) :
    Except EfiStatus SettingsVariable :=
  match failure, store with
  | some failure, _ => .error failure.val
  | none, none => .error EfiStatus.notFound
  | none, some stored =>
    if stored.data.length ≤ size then .ok stored else .error EfiStatus.bufferTooSmall

/-- `SetVariable` with data. The attributes of a variable cannot be changed. -/
def setVariable (store : SettingsStore) (failure : Option ErrorStatus) (attributes : UInt32)
    (data : List UInt8) : EfiStatus × SettingsStore :=
  match failure, store with
  | some failure, _ => (failure.val, store)
  | none, none => (EfiStatus.success, some ⟨attributes, data⟩)
  | none, some stored =>
    if stored.attributes = attributes then (EfiStatus.success, some ⟨attributes, data⟩)
    else (EfiStatus.invalidParameter, store)

/-- `SetVariable` without data. -/
def deleteVariable (store : SettingsStore) (failure : Option ErrorStatus) :
    EfiStatus × SettingsStore :=
  match failure, store with
  | some failure, _ => (failure.val, store)
  | none, none => (EfiStatus.notFound, none)
  | none, some _ => (EfiStatus.success, none)

/-! ### Initialization -/

/-- How the reads and writes of the initialization fail. -/
structure InitAnswers where
  read : Option ReadFailure
  delete : Option ErrorStatus
  write : Option ErrorStatus

section

variable (format : SettingsFormat) (pcd : Setting → UInt8)

/-- `PcdGet8` for a setting. -/
def setDefault (settings : Nat → UInt8) (setting : Setting) : Nat → UInt8 :=
  format.set settings (.setting setting) (pcd setting).toNat

/-- A record with the old signature is brought up to date. -/
def convertOld (settings : Nat → UInt8) : Nat → UInt8 :=
  let settings := format.set settings .signature format.signature
  let settings := format.set settings (.setting .bootOrderLock) 0
  let settings := setDefault format pcd settings .enableUsbBoot
  let settings := setDefault format pcd settings .startNetwork
  format.set settings .version format.version3

/-- A record of an older version is brought up to date. -/
def upgrade (settings : Nat → UInt8) : Nat → UInt8 :=
  let version := format.get settings .version
  let settings :=
    if version = format.version1 then setDefault format pcd settings .enableUsbBoot else settings
  let settings :=
    if version ≤ format.version2 then setDefault format pcd settings .startNetwork else settings
  format.set settings .version format.version3

/-- The record of the defaults. Its version stays zero. -/
def defaults : Nat → UInt8 :=
  let settings := format.set (fun _ => 0) .signature format.signature
  let settings := setDefault format pcd settings .ipv6
  let settings := setDefault format pcd settings .altBoot
  let settings := setDefault format pcd settings .bootOrderLock
  let settings := setDefault format pcd settings .enableUsbBoot
  setDefault format pcd settings .startNetwork

/-- `EFI_COMPROMISED_DATA`. -/
def compromisedData : EfiStatus := EfiStatus.encodeError 33

/-- Step 2 of `InitializeNvVariable`: a variable that was read is checked. A write that fails is
only reported. -/
def checkVariable (answers : InitAnswers) (stack : Nat → UInt8) (stored : SettingsVariable) :
    EfiStatus × SettingsStore :=
  let settings := load stack stored.data
  if stored.data.length ≠ format.size then (compromisedData, some stored)
  else if format.get settings .signature = format.signatureOld ∧
      stored.attributes = format.attributes ||| runtimeAccess then
    let deleted := (deleteVariable (some stored) answers.delete).2
    (EfiStatus.success, (setVariable deleted answers.write format.attributes
      (format.saved (convertOld format pcd settings))).2)
  else if stored.attributes ≠ format.attributes then (compromisedData, some stored)
  else if format.get settings .signature ≠ format.signature then (compromisedData, some stored)
  else if format.version1 ≤ format.get settings .version ∧
      format.get settings .version < format.version3 then
    (EfiStatus.success, (setVariable (some stored) answers.write format.attributes
      (format.saved (upgrade format pcd settings))).2)
  else (EfiStatus.success, some stored)

/-- Step 3 of `InitializeNvVariable`. -/
def writeDefaults (answers : InitAnswers) (status : EfiStatus) (store : SettingsStore) :
    EfiStatus × SettingsStore :=
  let store :=
    if status ≠ EfiStatus.notFound then (deleteVariable store answers.delete).2 else store
  setVariable store answers.write format.attributes (format.saved (defaults format pcd))

def initializeNvVariable (answers : InitAnswers) (stack : Nat → UInt8) (store : SettingsStore) :
    EfiStatus × SettingsStore :=
  let (status, store) := match getVariable store answers.read format.size with
    | .error status => (status, store)
    | .ok stored => checkVariable format pcd answers stack stored
  if status.isError then writeDefaults format pcd answers status store else (status, store)

/-! ### Access -/

/-- `GetBootManagerSetting`, of a setting or an identifier that is not supported. -/
def getBootManagerSetting (store : SettingsStore) (read : Option ReadFailure)
    (stack : Nat → UInt8) (id : Option Setting) : EfiStatus × Option Nat :=
  match id with
  | none => (EfiStatus.unsupported, none)
  | some setting =>
    match getVariable store read format.size with
    | .error _ => (EfiStatus.success, some (pcd setting).toNat)
    | .ok stored =>
      (EfiStatus.success, some (format.get (load stack stored.data) (.setting setting)))

/-- What `SetBootManagerSetting` returns, hands to `SetVariable` and leaves behind. `alreadySet`
is whether it gives `DFCI_SETTING_FLAGS_OUT_ALREADY_SET`. -/
structure SetOutcome where
  status : EfiStatus
  request : Option (List UInt8)
  store : SettingsStore
  alreadySet : Bool
  deriving DecidableEq, Repr

def setBootManagerSetting (store : SettingsStore) (read : Option ReadFailure)
    (write : Option ErrorStatus) (stack : Nat → UInt8) (id : Option Setting) (value : UInt8)
    (flagsGiven : Bool) : SetOutcome :=
  if !flagsGiven then ⟨EfiStatus.invalidParameter, none, store, false⟩
  else
    match id with
    | none => ⟨EfiStatus.unsupported, none, store, false⟩
    | some setting =>
      match getVariable store read format.size with
      | .error status => ⟨status, none, store, false⟩
      | .ok stored =>
        let settings := load stack stored.data
        if format.get settings (.setting setting) ≠ value.toNat then
          let data := format.saved (format.set settings (.setting setting) value.toNat)
          let (status, store) := setVariable store write format.attributes data
          ⟨status, some data, store, false⟩
        else ⟨EfiStatus.success, none, store, true⟩

end

/-! ### Fields -/

section

variable {format : SettingsFormat} {settings : Nat → UInt8}

theorem get_set_same {field : SettingsField} {value : Nat}
    (fits : value < 256 ^ (format.range field).length) :
    format.get (format.set settings field value) field = value := by
  have stored := slice_place_same settings
    ⟨(format.range field).base, leBytes (format.range field).length value⟩
  rw [leBytes_length] at stored
  rw [SettingsFormat.get, SettingsFormat.set, stored, leValue_leBytes_of_lt fits]

theorem get_setDefault_same (pcd : Setting → UInt8) (setting : Setting) :
    format.get (setDefault format pcd settings setting) (.setting setting) =
      (pcd setting).toNat := by
  refine get_set_same ?_
  rw [format.oneByte]
  exact (pcd setting).toNat_lt

theorem get_set_other {field other : SettingsField} (different : other ≠ field) (value : Nat) :
    format.get (format.set settings field value) other = format.get settings other := by
  have apart := format.apart other field different
  rw [SettingsFormat.get, SettingsFormat.set, slice_place_apart]
  · rfl
  · rwa [Field.interval, leBytes_length]

theorem get_congr {other : Nat → UInt8} (same : ∀ index < format.size, settings index = other index)
    (field : SettingsField) : format.get settings field = format.get other field := by
  have inside := format.inside field
  rw [Interval.finish] at inside
  rw [SettingsFormat.get, SettingsFormat.get]
  exact congrArg leValue (slice_congr fun index within => same _ (by omega))

theorem load_inside (stack : Nat → UInt8) {data : List UInt8} {index : Nat}
    (inside : index < data.length) : load stack data index = data[index] := by
  simp [load, place, inside]

/-- A whole record leaves nothing of the stack. -/
theorem get_load_congr {data : List UInt8} (whole : format.size ≤ data.length)
    (left right : Nat → UInt8) (field : SettingsField) :
    format.get (load left data) field = format.get (load right data) field := by
  refine get_congr (fun index inside => ?_) field
  rw [load_inside left (inside.trans_le whole), load_inside right (inside.trans_le whole)]

/-- What is read back from a record that was written. -/
theorem get_load_saved (stack : Nat → UInt8) (field : SettingsField) :
    format.get (load stack (format.saved settings)) field = format.get settings field := by
  refine get_congr (fun index inside => ?_) field
  have length : (format.saved settings).length = format.size := slice_length ..
  rw [load_inside stack (length ▸ inside)]
  simp [SettingsFormat.saved, slice]

end

end MuRockchip.Config
