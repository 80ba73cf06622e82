/-
What the hardware signature covers (`UpdateFacsHardwareSignatureLib.c`).

The map that is scanned is the one that is had when the buffer has been allocated, if it still fits.
Everything else that is not had before the map is asked for ends the call, the identifiers of PCI
devices apart.

* `storeMap_signed`: the bytes a signature is the check sum of.
* `updateFacsHardwareSignature_gathered`, `updateFacsHardwareSignature_stopped`: the two outcomes.
* `updateFacsHardwareSignature_sound_iff`: which calls keep their promises.
-/
import MuRockchip.Acpi.HardwareSignature

namespace MuRockchip.Acpi

open Base

/-! ### Part 4 -/

theorem shift_descriptor {contents other : Nat → UInt8} {offset : Nat}
    (same : ∀ index, contents (offset + index) = other index) (entry : Nat) :
    (Selected contents (offset + entry) ↔ Selected other entry) ∧
      kept contents (offset + entry) = kept other entry := by
  have part (start count : Nat) :
      slice contents (offset + entry + start) count = slice other (entry + start) count := by
    unfold slice
    refine List.map_congr_left fun index _ => ?_
    rw [← same, Nat.add_assoc, Nat.add_assoc, Nat.add_assoc]
  have type := part 0 4
  rw [Nat.add_zero, Nat.add_zero] at type
  have selected : Selected contents (offset + entry) ↔ Selected other entry := by
    unfold Selected
    rw [type]
  refine ⟨selected, ?_⟩
  unfold kept physicalStart numberOfPages
  simp only [selected, part]

theorem shift_keptMap {contents other : Nat → UInt8} {offset : Nat}
    (same : ∀ index, contents (offset + index) = other index) (descriptorSize count : Nat) :
    keptMap contents offset descriptorSize count = keptMap other 0 descriptorSize count := by
  unfold keptMap
  refine List.flatMap_congr fun index _ => ?_
  rw [(shift_descriptor same _).2, Nat.zero_add]

section

variable {algorithm : FacsHwSigAlgorithm} {firmware : Firmware} {fadt : AcpiTable}
  {devices : List PciDevice} {asked settings : Settings}

/-- The map is had, and its descriptors are long enough for two words. -/
def Firmware.MapScanned (firmware : Firmware) : Prop :=
  firmware.laterMap.bytes.length ≤ firmware.map.bytes.length ∧
    16 ≤ firmware.laterMap.descriptorSize

instance : Decidable firmware.MapScanned := inferInstanceAs (Decidable (_ ∧ _))

def withMap (firmware : Firmware) (measured : Measured) (settings : Settings) : Buffer :=
  (beforeMap firmware measured settings).store (4 * measured.layout.indexPart4.toNat)
    firmware.laterMap.bytes

theorem storeMap_scanned (room : firmware.map.bytes.length < 2 ^ 64)
    (scanned : firmware.MapScanned) :
    storeMap firmware (measuredFor firmware fadt devices asked)
        (beforeMap firmware (measuredFor firmware fadt devices asked) settings) =
      scanMap firmware.laterMap.descriptorSize.toNat firmware.laterMap.count
        ⟨withMap firmware (measuredFor firmware fadt devices asked) settings,
          4 * (measuredFor firmware fadt devices asked).layout.indexPart4.toNat,
          4 * (measuredFor firmware fadt devices asked).layout.indexPart4.toNat⟩ := by
  obtain ⟨fits, wide⟩ := scanned
  have capacity : (UInt64.ofNat firmware.map.bytes.length).toNat = firmware.map.bytes.length := by
    rw [UInt64.toNat_ofNat']
    omega
  have size : (UInt64.ofNat firmware.laterMap.bytes.length).toNat =
      firmware.laterMap.bytes.length := by
    rw [UInt64.toNat_ofNat']
    omega
  have map : getMemoryMap firmware.laterMap (UInt64.ofNat firmware.map.bytes.length) = _ :=
    fetch_room (capacity.symm ▸ fits)
  have asked : (measuredFor firmware fadt devices asked).memoryMapSize =
      UInt64.ofNat firmware.map.bytes.length := rfl
  simp only [storeMap, asked, map, if_true, if_pos wide, size]
  rfl

/-- A map that has grown, or whose descriptors are too short, is passed over. -/
theorem storeMap_passed (fadt : AcpiTable) (devices : List PciDevice) (asked settings : Settings)
    (room : firmware.map.bytes.length < 2 ^ 64)
    (passed : ¬ firmware.MapScanned) :
    ∃ buffer, storeMap firmware (measuredFor firmware fadt devices asked)
        (beforeMap firmware (measuredFor firmware fadt devices asked) settings) =
      ⟨buffer, 4 * (measuredFor firmware fadt devices asked).layout.indexPart4.toNat,
        4 * (measuredFor firmware fadt devices asked).layout.indexPart4.toNat⟩ ∧
      (buffer = beforeMap firmware (measuredFor firmware fadt devices asked) settings ∨
        firmware.laterMap.bytes.length ≤ firmware.map.bytes.length ∧
          buffer = withMap firmware (measuredFor firmware fadt devices asked) settings) := by
  have capacity : (UInt64.ofNat firmware.map.bytes.length).toNat = firmware.map.bytes.length := by
    rw [UInt64.toNat_ofNat']
    omega
  have known : (measuredFor firmware fadt devices asked).memoryMapSize =
      UInt64.ofNat firmware.map.bytes.length := rfl
  by_cases fits : firmware.laterMap.bytes.length ≤ firmware.map.bytes.length
  · have narrow : ¬ 16 ≤ firmware.laterMap.descriptorSize := fun wide => passed ⟨fits, wide⟩
    have map : getMemoryMap firmware.laterMap (UInt64.ofNat firmware.map.bytes.length) = _ :=
      fetch_room (capacity.symm ▸ fits)
    refine ⟨_, ?_, Or.inr ⟨fits, rfl⟩⟩
    simp only [storeMap, known, map, if_true, if_neg narrow]
    rfl
  · have map : getMemoryMap firmware.laterMap (UInt64.ofNat firmware.map.bytes.length) = _ :=
      fetch_small (capacity.symm ▸ fits)
    have failed : EfiStatus.bufferTooSmall ≠ EfiStatus.success := by decide
    refine ⟨_, ?_, Or.inl rfl⟩
    simp only [storeMap, known, map, if_neg failed]

def keptOf (firmware : Firmware) : List UInt8 :=
  if firmware.MapScanned then firmware.laterMap.kept else []

/-- The map is found in the buffer, with zeros after it. -/
theorem withMap_contents (gathered : Gathered algorithm firmware fadt devices asked settings)
    (index : Nat) :
    (withMap firmware (measuredFor firmware fadt devices asked) settings).contents
        (4 * (measuredFor firmware fadt devices asked).layout.indexPart4.toNat + index) =
      firmware.laterMap.contents index := by
  have holds := ((gathered_holds gathered).2 (index + 1)).append firmware.laterMap.bytes
  rw [List.nil_append, List.length_nil, Nat.add_zero] at holds
  exact holds index (Nat.lt_succ_self index)

/-- The map is stored after the other parts. -/
theorem withMap_before (firmware : Firmware) (measured : Measured) (settings : Settings) :
    slice (withMap firmware measured settings).contents 0 (4 * measured.layout.indexPart4.toNat) =
      slice (beforeMap firmware measured settings).contents 0
        (4 * measured.layout.indexPart4.toNat) :=
  slice_place_apart _ (Or.inl (Nat.zero_add _).le)

/-- What the scan keeps, in terms of the map. -/
theorem withMap_kept (gathered : Gathered algorithm firmware fadt devices asked settings) :
    keptMap (withMap firmware (measuredFor firmware fadt devices asked) settings).contents
        (4 * (measuredFor firmware fadt devices asked).layout.indexPart4.toNat)
        firmware.laterMap.descriptorSize.toNat firmware.laterMap.count = firmware.laterMap.kept :=
  shift_keptMap (withMap_contents gathered) _ _

/-- The signature of a call that gets as far as the memory map. -/
theorem storeMap_signed (gathered : Gathered algorithm firmware fadt devices asked settings) :
    let scan := storeMap firmware (measuredFor firmware fadt devices asked)
      (beforeMap firmware (measuredFor firmware fadt devices asked) settings)
    slice scan.buffer.contents 0 scan.mapState =
      padTo (8 * ((devices.length + 1) / 2) + 8)
          (devices.flatMap storedId ++ leBytes 8 fadt.xDsdt.toNat) ++
        padTo 8 (leBytes 4 firmware.version.toNat) ++
        padTo (8 * ((asked.bytes.length + 7) / 8)) settings.bytes ++ keptOf firmware := by
  have room := measuredFor_room gathered.handles gathered.known
  have before := (gathered_holds gathered).1
  have same := withMap_before firmware (measuredFor firmware fadt devices asked) settings
  by_cases mapScanned : firmware.MapScanned
  · have wide : 16 ≤ firmware.laterMap.descriptorSize.toNat :=
      UInt64.le_iff_toNat_le.mp mapScanned.2
    have scanned := scan_entry wide
      (withMap firmware (measuredFor firmware fadt devices asked) settings)
      (4 * (measuredFor firmware fadt devices asked).layout.indexPart4.toNat)
      firmware.laterMap.count
    obtain ⟨-, mapState, stored, unread⟩ := scanned
    rw [withMap_kept gathered] at mapState stored
    rw [storeMap_scanned (by omega) mapScanned, keptOf, if_pos mapScanned]
    dsimp only
    rw [mapState, slice_append, Nat.zero_add, stored, ← before, ← same]
    congr 1
    exact slice_congr fun index inside => unread _ (Or.inl (by omega))
  · obtain ⟨buffer, passed, rfl | ⟨-, rfl⟩⟩ := storeMap_passed fadt devices asked settings
      (by omega) mapScanned
    · rw [passed, keptOf, if_neg mapScanned, List.append_nil]
      exact before
    · rw [passed, keptOf, if_neg mapScanned, List.append_nil]
      exact same.trans before

theorem part2_confined (fadt : AcpiTable) (handles : firmware.devices = .ok devices)
    (known : firmware.settings = .ok asked) :
    ((storePart1 (measuredFor firmware fadt devices asked)).storeWord
      (measuredFor firmware fadt devices asked).layout.indexPart2 firmware.version).Confined
        ((measuredFor firmware fadt devices asked).layout.bufferCount * 4).toNat := by
  have room := measuredFor_room handles known
  obtain ⟨part2, -, -, size⟩ := measuredFor_layout fadt handles known
  have few : (measuredFor firmware fadt devices asked).devices.length + 2 < 2 ^ 64 := by
    change devices.length + 2 < 2 ^ 64
    omega
  have first : (storePart1 (measuredFor firmware fadt devices asked)).Confined
      ((measuredFor firmware fadt devices asked).layout.bufferCount * 4).toNat := by
    refine storePart1_confined few ?_
    rw [size]
    change 4 * devices.length + 8 ≤ _
    omega
  exact first.storeWord (by omega) _

theorem beforeMap_confined (gathered : Gathered algorithm firmware fadt devices asked settings) :
    (beforeMap firmware (measuredFor firmware fadt devices asked) settings).Confined
      ((measuredFor firmware fadt devices asked).layout.bufferCount * 4).toNat := by
  obtain ⟨-, part3, -, size⟩ := measuredFor_layout fadt gathered.handles gathered.known
  have later := gathered.room
  exact (part2_confined fadt gathered.handles gathered.known).access (by omega) rfl

theorem withMap_confined (gathered : Gathered algorithm firmware fadt devices asked settings)
    (fits : firmware.laterMap.bytes.length ≤ firmware.map.bytes.length) :
    (withMap firmware (measuredFor firmware fadt devices asked) settings).Confined
      ((measuredFor firmware fadt devices asked).layout.bufferCount * 4).toNat := by
  obtain ⟨-, -, part4, size⟩ := measuredFor_layout fadt gathered.handles gathered.known
  exact (beforeMap_confined gathered).access (by omega) rfl

/-- All accesses of a call that meets the condition are inside its buffer. -/
theorem storeMap_confined (gathered : Gathered algorithm firmware fadt devices asked settings)
    (meets : Meets algorithm firmware) :
    let scan := storeMap firmware (measuredFor firmware fadt devices asked)
      (beforeMap firmware (measuredFor firmware fadt devices asked) settings)
    (scan.buffer.touch 0 scan.mapState).Confined
      ((measuredFor firmware fadt devices asked).layout.bufferCount * 4).toNat := by
  obtain ⟨-, fits, inside⟩ := meets _ _ _ _ gathered
  have room := measuredFor_room gathered.handles gathered.known
  obtain ⟨-, -, part4, size⟩ := measuredFor_layout fadt gathered.handles gathered.known
  by_cases mapScanned : firmware.MapScanned
  · have wide : 16 ≤ firmware.laterMap.descriptorSize.toNat :=
      UInt64.le_iff_toNat_le.mp mapScanned.2
    have descriptors : firmware.laterMap.count * firmware.laterMap.descriptorSize.toNat ≤
        firmware.laterMap.bytes.length := Nat.div_mul_le_self _ _
    rw [storeMap_scanned (by omega) mapScanned]
    have scanned := scan_entry wide
      (withMap firmware (measuredFor firmware fadt devices asked) settings)
      (4 * (measuredFor firmware fadt devices asked).layout.indexPart4.toNat)
      firmware.laterMap.count
    have behind := scanned.behind wide
    rw [scanned.entry] at behind
    refine Buffer.Confined.access ?_ (by omega) rfl
    intro access member
    have places := scan_confined wide
      (withMap firmware (measuredFor firmware fadt devices asked) settings)
      (descriptors.trans (fits.trans (by omega : _ ≤ 8 * ((firmware.map.bytes.length + 7) / 8))))
      (fun index below selected =>
        (inside index below ((shift_descriptor (withMap_contents gathered) _).1.mp selected)).2)
      access member
    rcases places with old | within
    · exact withMap_confined gathered fits access old
    · refine within.trans ⟨Nat.zero_le _, ?_⟩
      simp only [Interval.finish]
      omega
  · obtain ⟨buffer, passed, rfl | ⟨-, rfl⟩⟩ := storeMap_passed fadt devices asked settings
      (by omega) mapScanned
    · rw [passed]
      dsimp only
      exact (beforeMap_confined gathered).access (by omega) rfl
    · rw [passed]
      dsimp only
      exact (withMap_confined gathered fits).access (by omega) rfl

/-! ### The call as a whole -/

theorem no_overrun (fadt : AcpiTable) (handles : firmware.devices = .ok devices)
    (known : firmware.settings = .ok asked) :
    ¬ UInt64.ofNat devices.length + 2 >
      (measuredFor firmware fadt devices asked).layout.indexPart2 := by
  have room := measuredFor_room handles known
  obtain ⟨part2, -, -, -⟩ := measuredFor_layout fadt handles known
  have index : (UInt64.ofNat devices.length + 2).toNat = devices.length + 2 := by
    rw [UInt64.toNat_add, UInt64.toNat_ofNat']
    simp only [UInt64.reduceToNat]
    omega
  rw [gt_iff_lt, UInt64.lt_iff_toNat_lt, index]
  omega

theorem updateFacsHardwareSignature_gathered
    (gathered : Gathered algorithm firmware fadt devices asked settings) :
    let scan := storeMap firmware (measuredFor firmware fadt devices asked)
      (beforeMap firmware (measuredFor firmware fadt devices asked) settings)
    updateFacsHardwareSignature algorithm firmware =
      ⟨EfiStatus.success, ((measuredFor firmware fadt devices asked).layout.bufferCount * 4).toNat,
        (scan.buffer.touch 0 scan.mapState).accesses,
        some (slice scan.buffer.contents 0 scan.mapState)⟩ := by
  have room := measuredFor_room gathered.handles gathered.known
  have capacity : (UInt64.ofNat asked.bytes.length).toNat = asked.bytes.length := by
    rw [UInt64.toNat_ofNat']
    omega
  have later : getVariable firmware.laterSettings (UInt64.ofNat asked.bytes.length) =
      ⟨EfiStatus.success, UInt64.ofNat settings.bytes.length, settings.bytes⟩ := by
    rw [gathered.later]
    exact fetch_room (capacity.symm ▸ gathered.room)
  have measured : measure algorithm firmware = .ok (measuredFor firmware fadt devices asked) :=
    gathered.measured
  have fits := no_overrun fadt gathered.handles gathered.known
  have success : EfiStatus.success.isError = false := by decide
  have size : (measuredFor firmware fadt devices asked).settingsDataSize =
      UInt64.ofNat asked.bytes.length := rfl
  have count : (measuredFor firmware fadt devices asked).devices = devices := rfl
  simp only [updateFacsHardwareSignature, measured, count, if_neg fits, size, later, success,
    Bool.false_eq_true, if_false]
  rfl

/-- A call that does not get as far as the memory map returns an error and no signature. -/
theorem updateFacsHardwareSignature_stopped
    (stopped : ∀ fadt devices asked settings,
      ¬ Gathered algorithm firmware fadt devices asked settings) :
    (updateFacsHardwareSignature algorithm firmware).status.isError = true ∧
      (updateFacsHardwareSignature algorithm firmware).signed = none ∧
      ∀ access ∈ (updateFacsHardwareSignature algorithm firmware).accesses,
        access.Within ⟨0, (updateFacsHardwareSignature algorithm firmware).size⟩ := by
  rcases measure_cases algorithm firmware with ⟨status, error, failed⟩ |
    ⟨fadt, devices, asked, supported, located, facs, handles, known, allocated, found⟩
  · simp [updateFacsHardwareSignature, failed, error]
  · have measured : measure algorithm firmware = .ok (measuredFor firmware fadt devices asked) :=
      found
    have room := measuredFor_room handles known
    have capacity : (UInt64.ofNat asked.bytes.length).toNat = asked.bytes.length := by
      rw [UInt64.toNat_ofNat']
      omega
    have later : (getVariable firmware.laterSettings
        (UInt64.ofNat asked.bytes.length)).status.isError = true := by
      cases fetched : firmware.laterSettings with
      | error error => exact error.isError
      | ok settings =>
        have small : ¬ settings.bytes.length ≤ (UInt64.ofNat asked.bytes.length).toNat := by
          rw [capacity]
          exact fun fits => stopped fadt devices asked settings
            ⟨supported, located, facs, handles, known, allocated, fetched, fits⟩
        rw [getVariable, fetch_small small]
        exact (by decide : EfiStatus.bufferTooSmall.isError = true)
    have fits := no_overrun fadt handles known
    have size : (measuredFor firmware fadt devices asked).settingsDataSize =
        UInt64.ofNat asked.bytes.length := rfl
    have count : (measuredFor firmware fadt devices asked).devices = devices := rfl
    simp only [updateFacsHardwareSignature, measured, count, if_neg fits, size, later, if_true,
      true_and]
    exact part2_confined fadt handles known

/-- Identifiers that can all be had are what is stored. -/
theorem storedIds_of_obtained (obtained : ∀ device ∈ devices, device.obtained = true) :
    devices.flatMap storedId = devices.flatMap fun device => leBytes 4 device.pciId.toNat :=
  List.flatMap_congr fun device member => if_pos (obtained device member)

/-- A map whose selected descriptors are long enough is kept as it should be. -/
theorem keptOf_eq (gathered : Gathered algorithm firmware fadt devices asked settings)
    (meets : Meets algorithm firmware) : keptOf firmware = firmware.laterMap.kept := by
  obtain ⟨-, fits, inside⟩ := meets _ _ _ _ gathered
  by_cases wide : 16 ≤ firmware.laterMap.descriptorSize
  · exact if_pos ⟨fits, wide⟩
  · rw [keptOf, if_neg fun scanned => wide scanned.2]
    refine ((keptMap_nil_iff _ _ _ _).mpr fun index below selected => ?_).symm
    rw [Nat.zero_add] at selected
    exact wide (inside index below selected).1

theorem sound_of_meets (meets : Meets algorithm firmware) :
    Sound algorithm firmware (updateFacsHardwareSignature algorithm firmware) := by
  have unread : 16 ≤ firmware.laterMap.descriptorSize → ∀ buffer first count index,
      first + count * firmware.laterMap.descriptorSize.toNat ≤ index →
      (scanMap firmware.laterMap.descriptorSize.toNat count
        ⟨buffer, first, first⟩).buffer.contents index = buffer.contents index :=
    fun wide buffer _ count _ later =>
      scan_unread (UInt64.le_iff_toNat_le.mp wide) buffer count later
  by_cases reached : ∃ fadt devices asked settings,
      Gathered algorithm firmware fadt devices asked settings
  · obtain ⟨fadt, devices, asked, settings, gathered⟩ := reached
    obtain ⟨obtained, fits, -⟩ := meets _ _ _ _ gathered
    have outcome := updateFacsHardwareSignature_gathered gathered
    have signed := storeMap_signed gathered
    rw [storedIds_of_obtained obtained, keptOf_eq gathered meets] at signed
    rw [outcome]
    refine ⟨storeMap_confined gathered meets, unread, fun _ => ?_, fun error => ?_⟩
    · exact ⟨fadt, devices, asked, settings, gathered, obtained, fits, congrArg some signed⟩
    · exact absurd error (by simp [EfiStatus.isError_success])
  · obtain ⟨error, unsigned, confined⟩ := updateFacsHardwareSignature_stopped
      fun fadt devices asked settings gathered =>
        reached ⟨fadt, devices, asked, settings, gathered⟩
    refine ⟨confined, unread, fun success => ?_, fun _ => unsigned⟩
    rw [error] at success
    cases success

/-- What a call gets hold of is determined. -/
theorem Gathered.unique {fadt' : AcpiTable} {devices' : List PciDevice}
    {asked' settings' : Settings}
    (first : Gathered algorithm firmware fadt devices asked settings)
    (second : Gathered algorithm firmware fadt' devices' asked' settings') :
    fadt' = fadt ∧ devices' = devices ∧ asked' = asked ∧ settings' = settings :=
  ⟨Except.ok.inj (second.located.symm.trans first.located),
    Except.ok.inj (second.handles.symm.trans first.handles),
    Except.ok.inj (second.known.symm.trans first.known),
    Except.ok.inj (second.later.symm.trans first.later)⟩

theorem meets_of_sound
    (sound : Sound algorithm firmware (updateFacsHardwareSignature algorithm firmware)) :
    Meets algorithm firmware := by
  intro fadt devices asked settings gathered
  have outcome := updateFacsHardwareSignature_gathered gathered
  have signed := storeMap_signed gathered
  obtain ⟨confined, -, complete, -⟩ := sound
  rw [outcome] at confined complete
  obtain ⟨fadt', devices', asked', settings', again, obtained, fits, all⟩ :=
    complete EfiStatus.isError_success
  obtain ⟨rfl, rfl, rfl, rfl⟩ := gathered.unique again
  rw [storedIds_of_obtained obtained] at signed
  have kept : keptOf firmware = firmware.laterMap.kept :=
    List.append_cancel_left (signed.symm.trans (Option.some.inj all))
  have room := measuredFor_room gathered.handles gathered.known
  obtain ⟨-, -, part4, size⟩ := measuredFor_layout fadt' gathered.handles gathered.known
  refine ⟨obtained, fits, fun index below selected => ?_⟩
  by_cases wide : 16 ≤ firmware.laterMap.descriptorSize
  · refine ⟨wide, ?_⟩
    have reached := scan_reaches (UInt64.le_iff_toNat_le.mp wide)
      (withMap firmware (measuredFor firmware fadt' devices' asked') settings') below
      ((shift_descriptor (withMap_contents gathered) _).1.mpr selected)
    rw [← storeMap_scanned (by omega) ⟨fits, wide⟩] at reached
    have inside := confined _ (List.mem_append_left _ reached)
    simp only [Interval.Within, Interval.finish] at inside
    omega
  · rw [keptOf, if_neg fun scanned => wide scanned.2] at kept
    have none := (keptMap_nil_iff _ _ _ _).mp kept.symm index below
    rw [Nat.zero_add] at none
    exact absurd selected none

end

/-- A call keeps its promises if and only if, should it get as far as the memory map, every
identifier can be had, the map has not grown, and the selected descriptors are not too short. -/
theorem updateFacsHardwareSignature_sound_iff (algorithm : FacsHwSigAlgorithm)
    (firmware : Firmware) :
    Sound algorithm firmware (updateFacsHardwareSignature algorithm firmware) ↔
      Meets algorithm firmware :=
  ⟨meets_of_sound, sound_of_meets⟩

/-! ### Signatures of less than everything -/

def descriptor (type physicalStart numberOfPages : Nat) : List UInt8 :=
  leBytes 4 type ++ leBytes 4 0 ++ leBytes 8 physicalStart ++ leBytes 8 0 ++
    leBytes 8 numberOfPages ++ leBytes 8 0

theorem descriptor_ne_nil (type physicalStart numberOfPages : Nat) (more : List UInt8) :
    descriptor type physicalStart numberOfPages ++ more ≠ [] :=
  List.cons_ne_nil _ _

/-- A map of one descriptor, of runtime code. -/
def oneDescriptor : MemoryMap where
  bytes := descriptor 5 0x80000 16 ++ []
  nonempty := descriptor_ne_nil 5 0x80000 16 []
  descriptorSize := 40

/-- The map after an allocation has split one of its ranges. -/
def twoDescriptors : MemoryMap where
  bytes := descriptor 5 0x80000 16 ++ descriptor 4 0x90000 1
  nonempty := descriptor_ne_nil 5 0x80000 16 _
  descriptorSize := 40

theorem smallFirmware_inMemory : 4 * 1 + 1 + 40 + 48 < 2 ^ 64 := by decide

def smallFirmware (read : EfiStatus) (laterMap : MemoryMap) : Firmware where
  tables := some [⟨fadtSignature, 0x70000, 0x60000⟩]
  devices := .ok [⟨EfiStatus.success, read, 0x35881D87⟩]
  settings := .ok ⟨[1], List.cons_ne_nil _ _⟩
  map := oneDescriptor
  allocated := true
  version := 1
  laterSettings := .ok ⟨[1], List.cons_ne_nil _ _⟩
  laterMap := laterMap
  inMemory := smallFirmware_inMemory

theorem smallFirmware_gathered (read : EfiStatus) (laterMap : MemoryMap) :
    Gathered .default (smallFirmware read laterMap) ⟨fadtSignature, 0x70000, 0x60000⟩
      [⟨EfiStatus.success, read, 0x35881D87⟩] ⟨[1], List.cons_ne_nil _ _⟩
      ⟨[1], List.cons_ne_nil _ _⟩ where
  supported := Or.inl rfl
  located := rfl
  facs := by decide
  handles := rfl
  known := rfl
  allocated := rfl
  later := rfl
  room := Nat.le_refl _

/-- A map that has grown since its size was asked for, or a device that cannot be read, is left out
of the signature, and the call succeeds. -/
theorem updateFacsHardwareSignature_leaves_out :
    (updateFacsHardwareSignature .default (smallFirmware EfiStatus.success twoDescriptors)).status =
        EfiStatus.success ∧
      ¬ Sound .default (smallFirmware EfiStatus.success twoDescriptors)
        (updateFacsHardwareSignature .default (smallFirmware EfiStatus.success twoDescriptors)) ∧
      (updateFacsHardwareSignature .default
        (smallFirmware EfiStatus.deviceError oneDescriptor)).status = EfiStatus.success ∧
      ¬ Sound .default (smallFirmware EfiStatus.deviceError oneDescriptor)
        (updateFacsHardwareSignature .default
          (smallFirmware EfiStatus.deviceError oneDescriptor)) := by
  refine ⟨?_, ?_, ?_, ?_⟩
  · rw [updateFacsHardwareSignature_gathered (smallFirmware_gathered _ _)]
  · intro sound
    obtain ⟨-, fits, -⟩ := meets_of_sound sound _ _ _ _ (smallFirmware_gathered _ _)
    exact absurd fits (by decide)
  · rw [updateFacsHardwareSignature_gathered (smallFirmware_gathered _ _)]
  · intro sound
    obtain ⟨obtained, -, -⟩ := meets_of_sound sound _ _ _ _ (smallFirmware_gathered _ _)
    exact absurd (obtained _ List.mem_cons_self) (by decide)

end MuRockchip.Acpi
