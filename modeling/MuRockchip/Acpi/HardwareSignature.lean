/-
The hardware signature of the FACS (`UpdateFacsHardwareSignatureLib.c`).

The signature is the check sum of a buffer that is laid out for the identifiers of the PCI devices
and the address of the DSDT, the firmware version, the settings, and the memory map. The settings
and the map are asked for twice: for their sizes, and, once the buffer is allocated, for their
contents.

A signature is represented by the bytes it is the check sum of.

* `layout_toNat`: where the parts begin.
* `measure_cases`: how the first six steps end.
* `gathered_holds`: what the buffer holds before the map is asked for.
-/
import MuRockchip.Acpi.MemoryMapScan
import MuRockchip.Uefi.Status

namespace MuRockchip.Acpi

open Base

/-! ### The firmware -/

/-- `FACS_HARDWARE_SIGNATURE_ALGORITHM`. -/
inductive FacsHwSigAlgorithm where
  | default
  | facsV2Compatible
  | other
  deriving DecidableEq, Repr

/-- What is read of an ACPI table: its signature, and two fields of the FADT. -/
structure AcpiTable where
  signature : UInt32
  firmwareCtrl : UInt32
  xDsdt : UInt64
  deriving DecidableEq, Repr

/-- `EFI_ACPI_1_0_FIXED_ACPI_DESCRIPTION_TABLE_SIGNATURE`. -/
def fadtSignature : UInt32 := 0x50434146

/-- `LocateAcpiTableBySignature`, on the tables of the ACPI protocol, if there is one. -/
def locateAcpiTableBySignature (tables : Option (List AcpiTable)) (signature : UInt32) :
    Except EfiStatus AcpiTable :=
  match tables with
  | none => .error EfiStatus.notFound
  | some tables =>
      match tables.find? fun table => table.signature == signature with
      | some table => .ok table
      | none => .error EfiStatus.notFound

/-- A handle with PCI I/O: what looking up the protocol and reading its identifier answer. -/
structure PciDevice where
  handleProtocol : EfiStatus
  read : EfiStatus
  pciId : UInt32
  deriving DecidableEq, Repr

/-- The identifier can be had. -/
def PciDevice.obtained (device : PciDevice) : Bool :=
  !device.handleProtocol.isError && !device.read.isError

/-- The data of a variable, which has some. -/
structure Settings where
  bytes : List UInt8
  nonempty : bytes ≠ []

/-- An error of the variable services, other than that there is not room enough. -/
structure VariableError where
  status : EfiStatus
  isError : status.isError = true
  other : status ≠ EfiStatus.bufferTooSmall

/-- A memory map, and the distance from one descriptor to the next. -/
structure MemoryMap where
  bytes : List UInt8
  nonempty : bytes ≠ []
  descriptorSize : UInt64

/-- The bytes of the map, and zeros after them. -/
def MemoryMap.contents (map : MemoryMap) : Nat → UInt8 := fun index => map.bytes[index]?.getD 0

def MemoryMap.count (map : MemoryMap) : Nat := map.bytes.length / map.descriptorSize.toNat

/-- What a call asks for gives back: a status, the size, and the data. -/
structure Fetched where
  status : EfiStatus
  size : UInt64
  data : List UInt8

/-- Data of which only so many bytes are taken. -/
def fetch (bytes : List UInt8) (capacity : UInt64) : Fetched :=
  if bytes.length ≤ capacity.toNat then ⟨EfiStatus.success, UInt64.ofNat bytes.length, bytes⟩
  else ⟨EfiStatus.bufferTooSmall, UInt64.ofNat bytes.length, []⟩

def getVariable (settings : Except VariableError Settings) (dataSize : UInt64) : Fetched :=
  match settings with
  | .error error => ⟨error.status, dataSize, []⟩
  | .ok settings => fetch settings.bytes dataSize

/-- `GetMemoryMap`, the descriptor size apart. -/
def getMemoryMap (map : MemoryMap) (memoryMapSize : UInt64) : Fetched :=
  fetch map.bytes memoryMapSize

/-- The sizes that are asked for, of what is there to be asked for. -/
def lengthOf {ε α : Type} (answer : Except ε α) (length : α → Nat) : Nat :=
  match answer with
  | .error _ => 0
  | .ok value => length value

/-- What a call meets. The settings and the map may have changed when they are asked for again.
What the first questions are about is in memory, so that the sum of the sizes is an address. -/
structure Firmware where
  tables : Option (List AcpiTable)
  devices : Except ErrorStatus (List PciDevice)
  settings : Except VariableError Settings
  map : MemoryMap
  allocated : Bool
  version : UInt32
  laterSettings : Except VariableError Settings
  laterMap : MemoryMap
  inMemory : 4 * lengthOf devices List.length +
    lengthOf settings (fun settings => settings.bytes.length) + map.bytes.length + 48 < 2 ^ 64

/-! ### The call -/

/-- Add one to align to 64 bits if necessary. -/
def alignWords (count : UInt64) : UInt64 := count + (count &&& 1)

/-- The indices of the parts, in words of 32 bits, and their number. -/
structure Layout where
  indexPart2 : UInt64
  indexPart3 : UInt64
  indexPart4 : UInt64
  bufferCount : UInt64

def layout (pciHandleCount settingsDataSize memoryMapSize : UInt64) : Layout :=
  let indexPart2 := alignWords pciHandleCount + 2
  let indexPart3 := alignWords (indexPart2 + 1)
  let indexPart4 := alignWords (indexPart3 + (settingsDataSize + 4 - 1) / 4)
  let bufferCount := alignWords (indexPart4 + (memoryMapSize + 4 - 1) / 4)
  ⟨indexPart2, indexPart3, indexPart4, bufferCount⟩

/-- What the first six steps find out. -/
structure Measured where
  fadt : AcpiTable
  devices : List PciDevice
  settingsDataSize : UInt64
  memoryMapSize : UInt64

def Measured.layout (measured : Measured) : Layout :=
  Acpi.layout (UInt64.ofNat measured.devices.length) measured.settingsDataSize
    measured.memoryMapSize

/-- Steps 1 to 6 of `UpdateFacsHardwareSignature`. -/
def measure (algorithm : FacsHwSigAlgorithm) (firmware : Firmware) : Except EfiStatus Measured :=
  if algorithm ≠ .default ∧ algorithm ≠ .facsV2Compatible then .error EfiStatus.unsupported
  else
    match locateAcpiTableBySignature firmware.tables fadtSignature with
    | .error status => .error status
    | .ok fadt =>
        if fadt.firmwareCtrl = 0 then .error EfiStatus.badBufferSize
        else
          match firmware.devices with
          | .error status => .error status.val
          | .ok devices =>
              let settings := getVariable firmware.settings 0
              if settings.status ≠ EfiStatus.bufferTooSmall then .error settings.status
              else
                let map := getMemoryMap firmware.map 0
                if map.status ≠ EfiStatus.bufferTooSmall then .error map.status
                else if firmware.allocated = false then .error EfiStatus.outOfResources
                else .ok ⟨fadt, devices, settings.size, map.size⟩

def Buffer.storeWord (buffer : Buffer) (index : UInt64) (word : UInt32) : Buffer :=
  buffer.store (4 * index.toNat) (leBytes 4 word.toNat)

/-- The loop of step 7: an identifier that cannot be had is passed over. -/
def storePciIds (buffer : Buffer) (index : UInt64) : List PciDevice → Buffer
  | [] => buffer
  | device :: rest =>
      storePciIds (if device.obtained then buffer.storeWord index device.pciId else buffer)
        (index + 1) rest

/-- Steps 7 and 8, up to the check for an overrun. -/
def storePart1 (measured : Measured) : Buffer :=
  let count := UInt64.ofNat measured.devices.length
  let buffer := storePciIds .zero 0 measured.devices
  let buffer := buffer.storeWord count measured.fadt.xDsdt.toUInt32
  buffer.storeWord (count + 1) (measured.fadt.xDsdt >>> 32).toUInt32

/-- Step 10: where the map ends that is kept. A map that cannot be had is passed over. -/
def storeMap (firmware : Firmware) (measured : Measured) (buffer : Buffer) : MapScan :=
  let first := 4 * measured.layout.indexPart4.toNat
  let map := getMemoryMap firmware.laterMap measured.memoryMapSize
  if map.status = EfiStatus.success then
    let buffer := buffer.store first map.data
    let descriptorSize := firmware.laterMap.descriptorSize
    if 16 ≤ descriptorSize then
      scanMap descriptorSize.toNat (map.size.toNat / descriptorSize.toNat) ⟨buffer, first, first⟩
    else ⟨buffer, first, first⟩
  else ⟨buffer, first, first⟩

/-- What a call does: the status, the size of the buffer, the accesses to it, and the bytes the new
signature is the check sum of, if there is one. -/
structure Outcome where
  status : EfiStatus
  size : Nat
  accesses : List Interval
  signed : Option (List UInt8)

def updateFacsHardwareSignature (algorithm : FacsHwSigAlgorithm) (firmware : Firmware) : Outcome :=
  match measure algorithm firmware with
  | .error status => ⟨status, 0, [], none⟩
  | .ok measured =>
      let size := (measured.layout.bufferCount * 4).toNat
      let buffer := storePart1 measured
      if UInt64.ofNat measured.devices.length + 2 > measured.layout.indexPart2 then
        ⟨EfiStatus.bufferTooSmall, size, buffer.accesses, none⟩
      else
        let buffer := buffer.storeWord measured.layout.indexPart2 firmware.version
        let settings := getVariable firmware.laterSettings measured.settingsDataSize
        if settings.status.isError then ⟨settings.status, size, buffer.accesses, none⟩
        else
          let buffer := buffer.store (4 * measured.layout.indexPart3.toNat) settings.data
          let scan := storeMap firmware measured buffer
          let signed := scan.buffer.touch 0 scan.mapState
          -- `CalculateCrc32` fails for want of arguments only
          ⟨EfiStatus.success, size, signed.accesses,
            some (slice signed.contents 0 scan.mapState)⟩

/-! ### What a call should do -/

/-- The call gets as far as the memory map. -/
structure Gathered (algorithm : FacsHwSigAlgorithm) (firmware : Firmware) (fadt : AcpiTable)
    (devices : List PciDevice) (asked settings : Settings) : Prop where
  supported : algorithm = .default ∨ algorithm = .facsV2Compatible
  located : locateAcpiTableBySignature firmware.tables fadtSignature = .ok fadt
  facs : fadt.firmwareCtrl ≠ 0
  handles : firmware.devices = .ok devices
  known : firmware.settings = .ok asked
  allocated : firmware.allocated = true
  later : firmware.laterSettings = .ok settings
  room : settings.bytes.length ≤ asked.bytes.length

/-- The identifiers, in the order of the handles, and the address of the DSDT. -/
def part1 (fadt : AcpiTable) (devices : List PciDevice) : List UInt8 :=
  devices.flatMap (fun device => leBytes 4 device.pciId.toNat) ++ leBytes 8 fadt.xDsdt.toNat

def MemoryMap.kept (map : MemoryMap) : List UInt8 :=
  keptMap map.contents 0 map.descriptorSize.toNat map.count

/-- All four parts, each where the sizes that were asked for put it. -/
def allParts (firmware : Firmware) (fadt : AcpiTable) (devices : List PciDevice)
    (asked settings : Settings) : List UInt8 :=
  padTo (8 * ((devices.length + 1) / 2) + 8) (part1 fadt devices) ++
    padTo 8 (leBytes 4 firmware.version.toNat) ++
    padTo (8 * ((asked.bytes.length + 7) / 8)) settings.bytes ++ firmware.laterMap.kept

/-- Every part could be obtained, and the signature is that of all of them. -/
def Complete (algorithm : FacsHwSigAlgorithm) (firmware : Firmware)
    (signed : Option (List UInt8)) : Prop :=
  ∃ fadt devices asked settings, Gathered algorithm firmware fadt devices asked settings ∧
    (∀ device ∈ devices, device.obtained = true) ∧
    firmware.laterMap.bytes.length ≤ firmware.map.bytes.length ∧
    signed = some (allParts firmware fadt devices asked settings)

/-- The promises of a call. -/
structure Sound (algorithm : FacsHwSigAlgorithm) (firmware : Firmware) (outcome : Outcome) :
    Prop where
  confined : ∀ access ∈ outcome.accesses, access.Within ⟨0, outcome.size⟩
  /-- However far the map is compacted, the descriptors that follow are as they were. -/
  unread : 16 ≤ firmware.laterMap.descriptorSize →
    ∀ buffer first count index, first + count * firmware.laterMap.descriptorSize.toNat ≤ index →
      (scanMap firmware.laterMap.descriptorSize.toNat count
        ⟨buffer, first, first⟩).buffer.contents index = buffer.contents index
  complete : outcome.status.isError = false → Complete algorithm firmware outcome.signed
  kept : outcome.status.isError = true → outcome.signed = none

/-- Of a call that gets as far as the memory map: every identifier can be had, the map has not
grown, and its selected descriptors are not shorter than what is kept of them and are inside the
part of the buffer that is there for the map. -/
def Meets (algorithm : FacsHwSigAlgorithm) (firmware : Firmware) : Prop :=
  ∀ fadt devices asked settings, Gathered algorithm firmware fadt devices asked settings →
    (∀ device ∈ devices, device.obtained = true) ∧
      firmware.laterMap.bytes.length ≤ firmware.map.bytes.length ∧
      ∀ index < firmware.laterMap.count,
        Selected firmware.laterMap.contents (index * firmware.laterMap.descriptorSize.toNat) →
          16 ≤ firmware.laterMap.descriptorSize ∧
            index * firmware.laterMap.descriptorSize.toNat + 32 ≤
              8 * ((firmware.map.bytes.length + 7) / 8)

/-! ### The layout -/

theorem alignWords_toNat {count : UInt64} (room : count.toNat + 1 < 2 ^ 64) :
    (alignWords count).toNat = 2 * ((count.toNat + 1) / 2) := by
  have bit : (count &&& 1).toNat = count.toNat % 2 := by
    rw [UInt64.toNat_and]
    exact Nat.and_one_is_mod _
  rw [alignWords, UInt64.toNat_add, bit]
  omega

theorem wordsOf_toNat {size : UInt64} (room : size.toNat + 4 < 2 ^ 64) :
    ((size + 4 - 1) / 4).toNat = (size.toNat + 3) / 4 := by
  rw [UInt64.toNat_div, UInt64.toNat_sub, UInt64.toNat_add]
  simp only [UInt64.reduceToNat]
  omega

theorem layout_toNat {handles settings map : UInt64}
    (room : 4 * handles.toNat + settings.toNat + map.toNat + 48 < 2 ^ 64) :
    (layout handles settings map).indexPart2.toNat = 2 * ((handles.toNat + 1) / 2) + 2 ∧
      (layout handles settings map).indexPart3.toNat = 2 * ((handles.toNat + 1) / 2) + 4 ∧
      (layout handles settings map).indexPart4.toNat =
        2 * ((handles.toNat + 1) / 2) + 4 + 2 * ((settings.toNat + 7) / 8) ∧
      ((layout handles settings map).bufferCount * 4).toNat =
        4 * (layout handles settings map).indexPart4.toNat + 8 * ((map.toNat + 7) / 8) := by
  have part2 : (alignWords handles + 2).toNat = 2 * ((handles.toNat + 1) / 2) + 2 := by
    rw [UInt64.toNat_add, alignWords_toNat (by omega)]
    simp only [UInt64.reduceToNat]
    omega
  have part3 : (alignWords (alignWords handles + 2 + 1)).toNat =
      2 * ((handles.toNat + 1) / 2) + 4 := by
    have next : (alignWords handles + 2 + 1).toNat = 2 * ((handles.toNat + 1) / 2) + 3 := by
      rw [UInt64.toNat_add, part2]
      simp only [UInt64.reduceToNat]
      omega
    rw [alignWords_toNat (by omega), next]
    omega
  have part4 : (layout handles settings map).indexPart4.toNat =
      2 * ((handles.toNat + 1) / 2) + 4 + 2 * ((settings.toNat + 7) / 8) := by
    have next : (alignWords (alignWords handles + 2 + 1) + (settings + 4 - 1) / 4).toNat =
        2 * ((handles.toNat + 1) / 2) + 4 + (settings.toNat + 3) / 4 := by
      rw [UInt64.toNat_add, part3, wordsOf_toNat (by omega)]
      omega
    rw [layout, alignWords_toNat (by omega), next]
    omega
  refine ⟨part2, part3, part4, ?_⟩
  have next : ((layout handles settings map).indexPart4 + (map + 4 - 1) / 4).toNat =
      2 * ((handles.toNat + 1) / 2) + 4 + 2 * ((settings.toNat + 7) / 8) +
        (map.toNat + 3) / 4 := by
    rw [UInt64.toNat_add, part4, wordsOf_toNat (by omega)]
    omega
  have words : (layout handles settings map).bufferCount.toNat =
      (layout handles settings map).indexPart4.toNat + 2 * ((map.toNat + 7) / 8) := by
    have aligned : (alignWords ((layout handles settings map).indexPart4 +
        (map + 4 - 1) / 4)).toNat = _ := alignWords_toNat (by omega)
    rw [next] at aligned
    refine aligned.trans ?_
    omega
  rw [UInt64.toNat_mul, words, part4]
  simp only [UInt64.reduceToNat]
  omega

/-! ### Steps 1 to 6 -/

variable {bytes : List UInt8} {buffer : Buffer} {index : UInt64} {limit : Nat}

/-- Asking for a size. -/
theorem fetch_zero (nonempty : bytes ≠ []) :
    fetch bytes 0 = ⟨EfiStatus.bufferTooSmall, UInt64.ofNat bytes.length, []⟩ := by
  rw [fetch, if_neg]
  simpa using nonempty

theorem fetch_room {capacity : UInt64} (room : bytes.length ≤ capacity.toNat) :
    fetch bytes capacity = ⟨EfiStatus.success, UInt64.ofNat bytes.length, bytes⟩ := if_pos room

theorem fetch_small {capacity : UInt64} (small : ¬ bytes.length ≤ capacity.toNat) :
    fetch bytes capacity = ⟨EfiStatus.bufferTooSmall, UInt64.ofNat bytes.length, []⟩ := if_neg small

section

variable {algorithm : FacsHwSigAlgorithm} {firmware : Firmware}

theorem locateAcpiTableBySignature_error {tables : Option (List AcpiTable)} {signature : UInt32}
    {status : EfiStatus}
    (failed : locateAcpiTableBySignature tables signature = .error status) :
    status = EfiStatus.notFound := by
  unfold locateAcpiTableBySignature at failed
  split at failed
  · exact (Except.error.inj failed).symm
  · split at failed
    · cases failed
    · exact (Except.error.inj failed).symm

/-- The first six steps fail with an error, or have found everything they look for. -/
theorem measure_cases (algorithm : FacsHwSigAlgorithm) (firmware : Firmware) :
    (∃ status, status.isError = true ∧ measure algorithm firmware = .error status) ∨
      ∃ fadt devices asked,
        (algorithm = .default ∨ algorithm = .facsV2Compatible) ∧
        locateAcpiTableBySignature firmware.tables fadtSignature = .ok fadt ∧
        fadt.firmwareCtrl ≠ 0 ∧ firmware.devices = .ok devices ∧ firmware.settings = .ok asked ∧
        firmware.allocated = true ∧
        measure algorithm firmware = .ok ⟨fadt, devices, UInt64.ofNat asked.bytes.length,
          UInt64.ofNat firmware.map.bytes.length⟩ := by
  have map : getMemoryMap firmware.map 0 = _ := fetch_zero firmware.map.nonempty
  unfold measure
  split
  · exact Or.inl ⟨_, by decide, rfl⟩
  · next supported =>
    cases located : locateAcpiTableBySignature firmware.tables fadtSignature with
    | error status =>
      rw [locateAcpiTableBySignature_error located]
      exact Or.inl ⟨_, by decide, rfl⟩
    | ok fadt =>
      by_cases facs : fadt.firmwareCtrl = 0
      · exact Or.inl ⟨_, by decide, if_pos facs⟩
      · cases handles : firmware.devices with
        | error status => exact Or.inl ⟨status.val, status.property, if_neg facs⟩
        | ok devices =>
          cases settings : firmware.settings with
          | error error =>
            refine Or.inl ⟨error.status, error.isError, ?_⟩
            simp [facs, getVariable, error.other]
          | ok asked =>
            have size : getVariable (.ok asked) 0 = _ := fetch_zero asked.nonempty
            cases allocated : firmware.allocated with
            | false => exact Or.inl ⟨EfiStatus.outOfResources, by decide, by simp [facs, size, map]⟩
            | true =>
              refine Or.inr ⟨fadt, devices, asked, ?_, rfl, facs, rfl, rfl, rfl, ?_⟩
              · by_contra neither
                exact supported (not_or.mp neither)
              · simp [facs, size, map]

theorem Gathered.measured {fadt : AcpiTable} {devices : List PciDevice} {asked settings : Settings}
    (gathered : Gathered algorithm firmware fadt devices asked settings) :
    measure algorithm firmware = .ok ⟨fadt, devices, UInt64.ofNat asked.bytes.length,
      UInt64.ofNat firmware.map.bytes.length⟩ := by
  have map : getMemoryMap firmware.map 0 = _ := fetch_zero firmware.map.nonempty
  have size : getVariable (.ok asked) 0 = _ := fetch_zero asked.nonempty
  have supported : ¬ (algorithm ≠ .default ∧ algorithm ≠ .facsV2Compatible) :=
    fun neither => (not_or.mpr neither) gathered.supported
  simp [measure, supported, gathered.located, gathered.facs, gathered.handles, gathered.known,
    gathered.allocated, map, size]

end

/-! ### Parts 1 to 3 -/

/-- The identifiers that could be had, and zero for the others. -/
def storedId (device : PciDevice) : List UInt8 :=
  if device.obtained then leBytes 4 device.pciId.toNat else List.replicate 4 0

theorem storedId_length (device : PciDevice) : (storedId device).length = 4 := by
  unfold storedId
  split <;> simp

theorem storePciIds_holds {size : Nat} (devices : List PciDevice)
    (holds : Holds buffer.contents 0 size bytes) (at_ : bytes.length = 4 * index.toNat)
    (room : index.toNat + devices.length < 2 ^ 64) :
    Holds (storePciIds buffer index devices).contents 0 size
      (bytes ++ devices.flatMap storedId) := by
  induction devices generalizing buffer index bytes with
  | nil => simpa [storePciIds] using holds
  | cons device rest ih =>
    have next : (index + 1).toNat = index.toNat + 1 := by
      rw [UInt64.toNat_add, UInt64.toNat_one]
      simp only [List.length_cons] at room
      omega
    have here : Holds (if device.obtained then buffer.storeWord index device.pciId
        else buffer).contents 0 size (bytes ++ storedId device) := by
      unfold storedId
      split
      · have stored := holds.append (leBytes 4 device.pciId.toNat)
        rw [Nat.zero_add, at_] at stored
        exact stored
      · exact holds.append_zeros 4
    have later := ih here (by rw [List.length_append, storedId_length, next, at_]; omega)
      (by rw [next]; simp only [List.length_cons] at room; omega)
    rw [List.append_assoc] at later
    exact later

/-- All accesses so far are below a limit. -/
def Buffer.Confined (buffer : Buffer) (limit : Nat) : Prop :=
  ∀ access ∈ buffer.accesses, access.Within ⟨0, limit⟩

theorem Buffer.Confined.access {after : Buffer} {offset count : Nat}
    (confined : buffer.Confined limit) (inside : offset + count ≤ limit)
    (accesses : after.accesses = buffer.accesses ++ [⟨offset, count⟩]) : after.Confined limit := by
  intro access member
  rw [accesses, List.mem_append, List.mem_singleton] at member
  rcases member with old | rfl
  · exact confined access old
  · exact ⟨Nat.zero_le offset, by simpa [Interval.finish] using inside⟩

theorem Buffer.Confined.storeWord (confined : buffer.Confined limit)
    (inside : 4 * index.toNat + 4 ≤ limit) (word : UInt32) :
    (buffer.storeWord index word).Confined limit :=
  confined.access inside (by simp [Buffer.storeWord, Buffer.store])

theorem storePciIds_confined (devices : List PciDevice) (confined : buffer.Confined limit)
    (room : 4 * (index.toNat + devices.length) ≤ limit)
    (bound : index.toNat + devices.length < 2 ^ 64) :
    (storePciIds buffer index devices).Confined limit := by
  induction devices generalizing buffer index with
  | nil => exact confined
  | cons device rest ih =>
    simp only [List.length_cons] at room bound
    have next : (index + 1).toNat = index.toNat + 1 := by
      rw [UInt64.toNat_add, UInt64.toNat_one]
      omega
    refine ih ?_ (by omega) (by omega)
    split
    · exact confined.storeWord (by omega) _
    · exact confined

/-- Two words make up a double word. -/
theorem leBytes_words (value : UInt64) :
    leBytes 4 value.toUInt32.toNat ++ leBytes 4 (value >>> 32).toUInt32.toNat =
      leBytes 8 value.toNat := by
  have bound := value.toNat_lt
  have shifted : (value >>> 32).toNat = value.toNat / 2 ^ 32 := by
    rw [UInt64.toNat_shiftRight, Nat.shiftRight_eq_div_pow]
    rfl
  have spelled := leBytes_leValue
    (leBytes 4 value.toUInt32.toNat ++ leBytes 4 (value >>> 32).toUInt32.toNat)
  rw [leValue_append, leValue_leBytes, leValue_leBytes, List.length_append, leBytes_length,
    leBytes_length, UInt64.toNat_toUInt32, UInt64.toNat_toUInt32, shifted] at spelled
  rw [UInt64.toNat_toUInt32, UInt64.toNat_toUInt32, shifted, ← spelled]
  congr 1
  omega

section

variable {measured : Measured}

/-- The indices of the address of the DSDT. -/
theorem countIndex_toNat (room : measured.devices.length + 2 < 2 ^ 64) :
    (UInt64.ofNat measured.devices.length).toNat = measured.devices.length ∧
      (UInt64.ofNat measured.devices.length + 1).toNat = measured.devices.length + 1 := by
  have count : (UInt64.ofNat measured.devices.length).toNat = measured.devices.length := by
    rw [UInt64.toNat_ofNat']
    omega
  refine ⟨count, ?_⟩
  rw [UInt64.toNat_add, count, UInt64.toNat_one]
  omega

/-- What the buffer holds after step 7. -/
theorem storePart1_holds (room : measured.devices.length + 2 < 2 ^ 64) (size : Nat) :
    Holds (storePart1 measured).contents 0 size
      (measured.devices.flatMap storedId ++ leBytes 8 measured.fadt.xDsdt.toNat) := by
  obtain ⟨count, next⟩ := countIndex_toNat room
  have lengths : (measured.devices.flatMap storedId).length = 4 * measured.devices.length := by
    simp [List.length_flatMap, storedId_length, Nat.mul_comm]
  have nothing : Holds Buffer.zero.contents 0 size [] := Holds.zero
  have zero : (0 : UInt64).toNat = 0 := rfl
  have ids := storePciIds_holds measured.devices nothing (rfl : _ = 4 * (0 : UInt64).toNat)
    (by omega)
  rw [List.nil_append] at ids
  have low := ids.append (leBytes 4 measured.fadt.xDsdt.toUInt32.toNat)
  have high := low.append (leBytes 4 (measured.fadt.xDsdt >>> 32).toUInt32.toNat)
  rw [List.append_assoc, leBytes_words] at high
  simp only [Nat.zero_add, List.length_append, lengths, leBytes_length] at high
  simp only [storePart1, Buffer.storeWord, Buffer.store, count, next, Nat.mul_add, Nat.mul_one]
  exact high

theorem storePart1_confined (room : measured.devices.length + 2 < 2 ^ 64) {limit : Nat}
    (inside : 4 * measured.devices.length + 8 ≤ limit) : (storePart1 measured).Confined limit := by
  obtain ⟨count, next⟩ := countIndex_toNat room
  have zero : (0 : UInt64).toNat = 0 := rfl
  have ids : (storePciIds .zero 0 measured.devices).Confined limit :=
    storePciIds_confined measured.devices (fun _ member => by cases member) (by omega) (by omega)
  exact (ids.storeWord (by omega) _).storeWord (by omega) _

end

def beforeMap (firmware : Firmware) (measured : Measured) (settings : Settings) : Buffer :=
  ((storePart1 measured).storeWord measured.layout.indexPart2 firmware.version).store
    (4 * measured.layout.indexPart3.toNat) settings.bytes

section

variable {algorithm : FacsHwSigAlgorithm} {firmware : Firmware} {fadt : AcpiTable}
  {devices : List PciDevice} {asked settings : Settings}

def measuredFor (firmware : Firmware) (fadt : AcpiTable) (devices : List PciDevice)
    (asked : Settings) : Measured :=
  ⟨fadt, devices, UInt64.ofNat asked.bytes.length, UInt64.ofNat firmware.map.bytes.length⟩

theorem measuredFor_room (handles : firmware.devices = .ok devices)
    (known : firmware.settings = .ok asked) :
    4 * devices.length + asked.bytes.length + firmware.map.bytes.length + 48 < 2 ^ 64 := by
  have inMemory := firmware.inMemory
  rw [handles, known] at inMemory
  exact inMemory

/-- Where the parts begin, in bytes. -/
theorem measuredFor_layout (fadt : AcpiTable) (handles : firmware.devices = .ok devices)
    (known : firmware.settings = .ok asked) :
    4 * (measuredFor firmware fadt devices asked).layout.indexPart2.toNat =
        8 * ((devices.length + 1) / 2) + 8 ∧
      4 * (measuredFor firmware fadt devices asked).layout.indexPart3.toNat =
        8 * ((devices.length + 1) / 2) + 8 + 8 ∧
      4 * (measuredFor firmware fadt devices asked).layout.indexPart4.toNat =
        8 * ((devices.length + 1) / 2) + 8 + 8 + 8 * ((asked.bytes.length + 7) / 8) ∧
      ((measuredFor firmware fadt devices asked).layout.bufferCount * 4).toNat =
        8 * ((devices.length + 1) / 2) + 8 + 8 + 8 * ((asked.bytes.length + 7) / 8) +
          8 * ((firmware.map.bytes.length + 7) / 8) := by
  have room := measuredFor_room handles known
  have count : (UInt64.ofNat devices.length).toNat = devices.length := by
    rw [UInt64.toNat_ofNat']
    omega
  have size : (UInt64.ofNat asked.bytes.length).toNat = asked.bytes.length := by
    rw [UInt64.toNat_ofNat']
    omega
  have map : (UInt64.ofNat firmware.map.bytes.length).toNat = firmware.map.bytes.length := by
    rw [UInt64.toNat_ofNat']
    omega
  have fits : 4 * (UInt64.ofNat devices.length).toNat + (UInt64.ofNat asked.bytes.length).toNat +
      (UInt64.ofNat firmware.map.bytes.length).toNat + 48 < 2 ^ 64 := by
    rw [count, size, map]
    exact room
  obtain ⟨part2, part3, part4, words⟩ := layout_toNat fits
  rw [count] at part2 part3 part4
  rw [size] at part4
  rw [part4, map] at words
  have same : (measuredFor firmware fadt devices asked).layout =
      Acpi.layout (UInt64.ofNat devices.length) (UInt64.ofNat asked.bytes.length)
        (UInt64.ofNat firmware.map.bytes.length) := rfl
  rw [same]
  omega

/-- What the buffer holds before the map is asked for: the first three parts, and zeros. -/
theorem gathered_holds (gathered : Gathered algorithm firmware fadt devices asked settings) :
    let before := beforeMap firmware (measuredFor firmware fadt devices asked) settings
    slice before.contents 0
        (4 * (measuredFor firmware fadt devices asked).layout.indexPart4.toNat) =
      padTo (8 * ((devices.length + 1) / 2) + 8)
          (devices.flatMap storedId ++ leBytes 8 fadt.xDsdt.toNat) ++
        padTo 8 (leBytes 4 firmware.version.toNat) ++
        padTo (8 * ((asked.bytes.length + 7) / 8)) settings.bytes ∧
      ∀ size, Holds before.contents
        (4 * (measuredFor firmware fadt devices asked).layout.indexPart4.toNat) size [] := by
  obtain ⟨part2, part3, part4, -⟩ :=
    measuredFor_layout fadt gathered.handles gathered.known
  have room := measuredFor_room gathered.handles gathered.known
  have later := gathered.room
  have length1 : (devices.flatMap storedId ++ leBytes 8 fadt.xDsdt.toNat).length =
      4 * devices.length + 8 := by
    simp [List.length_flatMap, storedId_length, Nat.mul_comm]
  simp only [beforeMap, Buffer.storeWord, Buffer.store, part2, part3, part4]
  generalize gap1 : 8 * ((devices.length + 1) / 2) + 8 = size1
  generalize gap3 : 8 * ((asked.bytes.length + 7) / 8) = size3
  have few : (measuredFor firmware fadt devices asked).devices.length + 2 < 2 ^ 64 := by
    change devices.length + 2 < 2 ^ 64
    omega
  have first (size : Nat) : Holds (storePart1 (measuredFor firmware fadt devices asked)).contents 0
      size (devices.flatMap storedId ++ leBytes 8 fadt.xDsdt.toNat) := storePart1_holds few size
  -- each part is stored where the part before it has left zeros
  have second (size : Nat) := ((first (size1 + size)).rest (by omega)).append
    (leBytes 4 firmware.version.toNat)
  simp only [Nat.zero_add, List.length_nil, Nat.add_zero, List.nil_append] at second
  have third (size : Nat) := ((second (8 + size)).rest (by rw [leBytes_length]; omega)).append
    settings.bytes
  simp only [List.length_nil, Nat.add_zero, List.nil_append] at third
  have apart1 := ((first size1).apart ⟨size1, leBytes 4 firmware.version.toNat⟩
    (Or.inl (Nat.zero_add size1).le)).apart ⟨size1 + 8, settings.bytes⟩
      (Or.inl (by simp [Interval.finish, Field.interval]))
  have apart2 := (second 8).apart ⟨size1 + 8, settings.bytes⟩ (Or.inl (Nat.le_refl _))
  constructor
  · rw [slice_append, slice_append, apart1.slice_eq (by omega), Nat.zero_add,
      apart2.slice_eq (by rw [leBytes_length]; omega), Nat.zero_add,
      (third size3).slice_eq (by omega)]
  · exact fun size => (third (size3 + size)).rest (by omega)

end

end MuRockchip.Acpi
