/-
The variable volume at run time (`FvbVirtualAddressChangeEvent`).

When the operating system moves the firmware to virtual addresses, the event converts the
pointers of the instance. The base of the volume and the pointer to its header are the
two names of one word, which is converted under each of them.

* `runtimeFaithful_of_base`: from a base that reaches the volume, every access does.
* `runtimeFaithful_iff`: the maps under which the second conversion does no harm.
-/
import MuRockchip.Base.AddressMap
import MuRockchip.Fvb.Erase
import MuRockchip.Fvb.ReadWrite

namespace MuRockchip.Fvb

open MuRockchip.Base

/-! ### Converting the pointers -/

/-- The runtime service `ConvertPointer`, as specified: a null pointer is refused, a
pointer into a region of the map is moved with it, any other is left alone. -/
structure ConvertPointer (map : AddressMap) where
  convert : UInt64 → UInt64
  null : convert 0 = 0
  mapped : ∀ address translated, address ≠ 0 → map.toVirtual address = some translated →
    convert address = translated
  unmapped : ∀ address, map.toVirtual address = none → convert address = address

/-- A service that is nothing but its specification. -/
def ConvertPointer.specified (map : AddressMap) : ConvertPointer map where
  convert := fun address => if address = 0 then 0 else (map.toVirtual address).getD address
  null := if_pos rfl
  mapped := fun address translated holds moved => by rw [if_neg holds, moved, Option.getD_some]
  unmapped := fun address outside => by
    rw [outside, Option.getD_none]
    split
    · rename_i null
      exact null.symm
    · rfl

/-- `mFvInstance`, and the instance it points to. -/
structure FvbGlobals where
  pointer : UInt64
  fvInstance : FwVolInstance

def fvbVirtualAddressChangeEvent {map : AddressMap} (convertPointer : ConvertPointer map)
    (globals : FvbGlobals) : FvbGlobals :=
  let fvBase :=
    { globals.fvInstance with fvBase := convertPointer.convert globals.fvInstance.fvBase }
  -- `VolumeHeader` is the other name of the word.
  let volumeHeader := { fvBase with fvBase := convertPointer.convert fvBase.fvBase }
  let device := { volumeHeader with device := convertPointer.convert volumeHeader.device }
  { pointer := convertPointer.convert globals.pointer
    fvInstance := device }

/-- Memory as the processor sees it under the map; what an access outside the map yields
is not specified. -/
def viewThrough (map : AddressMap) (memory fault : Memory) : Memory := fun address =>
  match map.toPhysical address with
  | some physical => memory physical
  | none => fault address

/-! ### Accesses -/

def FvbTransfer.rebased (old new : UInt64) (transfer : FvbTransfer) : FvbTransfer :=
  { transfer with address := rebase old new transfer.address }

/-- The block is looked up, or is found to be missing, in entries that lie in the volume. -/
def FoundInside (memory : Memory) (fvInstance : FwVolInstance) (lba : UInt64)
    (located : Except EfiStatus LbaBlock) : Prop :=
  ∃ entries ≤ mapWalkLimit, blockMapOffset + 8 * entries ≤ fvInstance.fvLength.toNat ∧
    lbaSearch memory fvInstance.fvBase lba entries 0 0 0 = some located

/-- Through the converted pointers every access reaches the byte it reached before. -/
structure RuntimeFaithful (map : AddressMap) (memory fault : Memory) (before after : FvbGlobals) :
    Prop where
  pointer : map.toPhysical after.pointer = some before.pointer
  volume : ∀ address, address - before.fvInstance.fvBase < before.fvInstance.fvLength →
    map.toPhysical (rebase before.fvInstance.fvBase after.fvInstance.fvBase address) =
      some address
  attributes : blockMapOffset ≤ before.fvInstance.fvLength.toNat →
    headerAttributes (viewThrough map memory fault) after.fvInstance.fvBase =
      headerAttributes memory before.fvInstance.fvBase
  blocks : ∀ lba located, FoundInside memory before.fvInstance lba located →
    fvbGetLbaAddress (viewThrough map memory fault) after.fvInstance.fvBase lba =
      some (located.map (LbaBlock.rebased before.fvInstance.fvBase after.fvInstance.fvBase))
  transfers : ∀ enabled request located transfer,
    FoundInside memory before.fvInstance request.lba located →
    fvbCheck enabled ⟨before.fvInstance, memory⟩ request = some (.ok transfer) →
    fvbCheck enabled ⟨after.fvInstance, viewThrough map memory fault⟩ request =
      some (.ok (transfer.rebased before.fvInstance.fvBase after.fvInstance.fvBase))

section

variable {map : AddressMap} {memory fault : Memory} {before after : FvbGlobals}

/-- The same bytes are moved, seen from the other base. -/
theorem boundaryCheck_rebased {old new offset asked : UInt64} {block : LbaBlock}
    {transfer : FvbTransfer} (bound : boundaryCheck block offset asked = .ok transfer) :
    boundaryCheck (block.rebased old new) offset asked = .ok (transfer.rebased old new) := by
  obtain ⟨address, length, numOfBlocks⟩ := block
  have moved : rebase old new address + offset = rebase old new (address + offset) := by
    simp only [rebase, UInt64.sub_eq_add_neg]
    ac_rfl
  have same : LbaBlock.rebased old new ⟨address, length, numOfBlocks⟩ =
      ⟨rebase old new address, length, numOfBlocks⟩ := rfl
  rw [same, boundaryCheck]
  rw [boundaryCheck] at bound
  split at bound
  · cases bound
  · rename_i starts
    rw [if_neg starts]
    split at bound
    · rename_i crosses
      cases bound
      rw [if_pos crosses, moved]
      rfl
    · rename_i fits
      cases bound
      rw [if_neg fits, moved]
      rfl

/-- A pointer that reaches its byte shows it. -/
theorem viewThrough_of_toPhysical {address physical : UInt64}
    (reaches : map.toPhysical address = some physical) :
    viewThrough map memory fault address = memory physical := by
  rw [viewThrough, reaches]

theorem headerAgrees_of_reached
    (volume : ∀ address, address - before.fvInstance.fvBase < before.fvInstance.fvLength →
      map.toPhysical (rebase before.fvInstance.fvBase after.fvInstance.fvBase address) =
        some address) :
    HeaderAgrees (viewThrough map memory fault) after.fvInstance.fvBase memory
      before.fvInstance.fvBase before.fvInstance.fvLength.toNat := by
  intro index inside
  have distance : before.fvInstance.fvBase + UInt64.ofNat index - before.fvInstance.fvBase =
      UInt64.ofNat index := by
    rw [UInt64.add_comm, UInt64.add_sub_cancel]
  have reaches := volume (before.fvInstance.fvBase + UInt64.ofNat index) (by
    have := before.fvInstance.fvLength.toNat_lt
    rw [distance, UInt64.lt_iff_toNat_lt, UInt64.toNat_ofNat']
    omega)
  rw [rebase_add] at reaches
  exact viewThrough_of_toPhysical reaches

theorem runtimeFaithful_of_base (pointer : map.toPhysical after.pointer = some before.pointer)
    (volume : ∀ address, address - before.fvInstance.fvBase < before.fvInstance.fvLength →
      map.toPhysical (rebase before.fvInstance.fvBase after.fvInstance.fvBase address) =
        some address) :
    RuntimeFaithful map memory fault before after := by
  have agree := @headerAgrees_of_reached map memory fault before after volume
  have attributes (covers : blockMapOffset ≤ before.fvInstance.fvLength.toNat) :
      headerAttributes (viewThrough map memory fault) after.fvInstance.fvBase =
        headerAttributes memory before.fvInstance.fvBase := by
    rw [headerAttributes, headerAttributes,
      headerField_congr agree (by unfold blockMapOffset at covers; omega)]
  have blocks (lba : UInt64) (located : Except EfiStatus LbaBlock)
      (found : FoundInside memory before.fvInstance lba located) :
      fvbGetLbaAddress (viewThrough map memory fault) after.fvInstance.fvBase lba =
        some (located.map (LbaBlock.rebased before.fvInstance.fvBase after.fvInstance.fvBase)) := by
    obtain ⟨entries, limit, inside, finds⟩ := found
    refine lbaSearch_more limit ?_
    rw [lbaSearch_rebased agree (by omega), finds, Option.map_some]
  refine ⟨pointer, volume, attributes, blocks, ?_⟩
  intro enabled request located transfer found checked
  obtain ⟨block, asked, reaches, bound⟩ := fvbCheck_ok_iff.mp checked
  have rebasedBlock := blocks request.lba located found
  obtain ⟨entries, limit, inside, finds⟩ := found
  obtain rfl : located = .ok block :=
    Option.some.inj ((lbaSearch_more limit finds).symm.trans reaches.located)
  refine fvbCheck_ok_iff.mpr ⟨_, asked, ⟨reaches.numBytes, reaches.buffer, reaches.nonzero,
    rebasedBlock, ?_, reaches.starts⟩, boundaryCheck_rebased bound⟩
  have permitted := reaches.permitted
  simp only [FwVolume.attributes, FwVolume.base] at permitted ⊢
  rwa [attributes (by omega)]

end

/-! ### Converting once -/

/-- A pointer at this address is not moved again: it is null, or the regions it points
into are mapped to themselves. -/
def StaysPut (map : AddressMap) (address : UInt64) : Prop :=
  address = 0 ∨ ∀ region ∈ map.regions, region.physical.Contains address.toNat →
    region.virtualStart = region.physicalStart

/-- What start-up has set up: the instance and the volume are in regions of the map, the
volume in one piece. -/
structure Installed (map : AddressMap) (globals : FvbGlobals) (region : Region) : Prop where
  pointerSet : globals.pointer ≠ 0
  pointerMapped : ∃ home ∈ map.regions, home.physical.Contains globals.pointer.toNat
  baseSet : globals.fvInstance.fvBase ≠ 0
  nonempty : globals.fvInstance.fvLength ≠ 0
  member : region ∈ map.regions
  within : Interval.Within
    ⟨globals.fvInstance.fvBase.toNat, globals.fvInstance.fvLength.toNat⟩ region.physical

/-- The virtual address of the volume. -/
def virtualBase (globals : FvbGlobals) (region : Region) : UInt64 :=
  region.virtualStart + (globals.fvInstance.fvBase - region.physicalStart)

section

variable {map : AddressMap} {convertPointer : ConvertPointer map} {address : UInt64}

theorem convert_eq_self_iff :
    convertPointer.convert address = address ↔ StaysPut map address := by
  constructor
  · intro same
    by_cases null : address = 0
    · exact .inl null
    · refine .inr fun region member inside => ?_
      have moved := convertPointer.mapped address _ null (AddressMap.toVirtual_of_mem member inside)
      have back : region.physicalStart + (address - region.physicalStart) = address := by
        rw [UInt64.add_comm, UInt64.sub_add_cancel]
      exact (UInt64.add_left_inj _).mp ((moved.symm.trans same).trans back.symm)
  · rintro (rfl | identity)
    · exact convertPointer.null
    · by_cases null : address = 0
      · rw [null]
        exact convertPointer.null
      · cases moved : map.toVirtual address with
        | none => exact convertPointer.unmapped address moved
        | some translated =>
          rw [convertPointer.mapped address translated null moved]
          obtain ⟨region, member, inside, rfl⟩ := AddressMap.exists_of_toVirtual moved
          rw [identity region member inside, UInt64.add_comm, UInt64.sub_add_cancel]

end

section

variable {map : AddressMap} {globals : FvbGlobals} {region : Region} {memory fault : Memory}

theorem Installed.base_contains (installed : Installed map globals region) :
    region.physical.Contains globals.fvInstance.fvBase.toNat := by
  obtain ⟨begins, ends⟩ := installed.within
  have some : globals.fvInstance.fvLength.toNat ≠ 0 := fun none =>
    installed.nonempty (UInt64.toNat_inj.mp none)
  refine ⟨begins, ?_⟩
  simp only [Interval.finish] at ends ⊢
  omega

theorem convert_base (convertPointer : ConvertPointer map)
    (installed : Installed map globals region) :
    convertPointer.convert globals.fvInstance.fvBase = virtualBase globals region :=
  convertPointer.mapped _ _ installed.baseSet
    (AddressMap.toVirtual_of_mem installed.member installed.base_contains)

theorem reached_of_virtualBase (installed : Installed map globals region) (address : UInt64)
    (inside : address - globals.fvInstance.fvBase < globals.fvInstance.fvLength) :
    map.toPhysical (rebase globals.fvInstance.fvBase (virtualBase globals region) address) =
      some address := by
  have bounded := (map.bounded region installed.member).1
  have contains : region.physical.Contains address.toNat := by
    obtain ⟨begins, ends⟩ := installed.within
    rw [UInt64.lt_iff_toNat_lt, UInt64.toNat_sub] at inside
    have := address.toNat_lt
    have := globals.fvInstance.fvBase.toNat_lt
    simp only [Interval.Contains, Interval.finish] at begins ends bounded ⊢
    omega
  have direct : rebase globals.fvInstance.fvBase (virtualBase globals region) address =
      region.virtualStart + (address - region.physicalStart) := by
    have distance : globals.fvInstance.fvBase - region.physicalStart +
        (address - globals.fvInstance.fvBase) = address - region.physicalStart := by
      calc
        _ = address - globals.fvInstance.fvBase +
            globals.fvInstance.fvBase - region.physicalStart := by
          simp only [UInt64.sub_eq_add_neg]
          ac_rfl
        _ = address - region.physicalStart := by rw [UInt64.sub_add_cancel]
    rw [rebase, virtualBase, UInt64.add_assoc, distance]
  rw [direct]
  exact AddressMap.toPhysical_toVirtual (AddressMap.toVirtual_of_mem installed.member contains)

/-- The converted pointers are faithful if and only if the virtual address of the volume
is not moved by the second conversion. -/
theorem runtimeFaithful_iff (convertPointer : ConvertPointer map)
    (installed : Installed map globals region) :
    RuntimeFaithful map memory fault globals (fvbVirtualAddressChangeEvent convertPointer globals) ↔
      StaysPut map (virtualBase globals region) := by
  have base : (fvbVirtualAddressChangeEvent convertPointer globals).fvInstance.fvBase =
      convertPointer.convert (virtualBase globals region) := by
    rw [← convert_base convertPointer installed]
    rfl
  have rebaseBase (new : UInt64) : rebase globals.fvInstance.fvBase new
      globals.fvInstance.fvBase = new := by
    rw [rebase, UInt64.sub_self, UInt64.add_zero]
  rw [← @convert_eq_self_iff map convertPointer]
  constructor
  · intro faithful
    have first : globals.fvInstance.fvBase - globals.fvInstance.fvBase <
        globals.fvInstance.fvLength := by
      rw [UInt64.sub_self]
      exact UInt64.pos_iff_ne_zero.mpr installed.nonempty
    have twice := faithful.volume _ first
    have once := reached_of_virtualBase installed _ first
    rw [base, rebaseBase] at twice
    rw [rebaseBase] at once
    have same := (AddressMap.toVirtual_toPhysical twice).symm.trans
      (AddressMap.toVirtual_toPhysical once)
    exact Option.some.inj same
  · intro same
    obtain ⟨home, member, inside⟩ := installed.pointerMapped
    have moved := AddressMap.toVirtual_of_mem member inside
    refine runtimeFaithful_of_base ?_ fun address inside => ?_
    · rw [fvbVirtualAddressChangeEvent, convertPointer.mapped _ _ installed.pointerSet moved]
      exact AddressMap.toPhysical_toVirtual moved
    · rw [base, same]
      exact reached_of_virtualBase installed address inside

end

def shippedGlobals : FvbGlobals where
  pointer := 0x20001000
  fvInstance := shippedVolume.fvInstance

def highMap : AddressMap where
  regions := [⟨0xAE0000, 0xFFFF800000AE0000, 0x20000⟩, ⟨0x20000000, 0xFFFF800020000000, 0x10000⟩]
  physicalDisjoint := by decide
  virtualDisjoint := by decide
  bounded := by decide

theorem runtimeFaithful_iff_high :
    RuntimeFaithful highMap shippedVolume.memory (fun _ => 0) shippedGlobals
        (fvbVirtualAddressChangeEvent (ConvertPointer.specified highMap) shippedGlobals) ↔
      StaysPut highMap
        (virtualBase shippedGlobals ⟨0xAE0000, 0xFFFF800000AE0000, 0x20000⟩) :=
  runtimeFaithful_iff (ConvertPointer.specified highMap)
    { pointerSet := by decide
      pointerMapped := ⟨⟨0x20000000, 0xFFFF800020000000, 0x10000⟩, by decide, by decide⟩
      baseSet := by decide
      nonempty := by decide
      member := by decide
      within := by decide }

/-- A map that puts the volume where the instance is, and the instance behind it. -/
def chainedMap : AddressMap where
  regions := [⟨0xAE0000, 0x20000000, 0x20000⟩, ⟨0x20000000, 0x20020000, 0x10000⟩]
  physicalDisjoint := by decide
  virtualDisjoint := by decide
  bounded := by decide

/-- After the second conversion the base reaches the memory of the instance. -/
theorem runtimeFaithful_fails_chained :
    Installed chainedMap shippedGlobals ⟨0xAE0000, 0x20000000, 0x20000⟩ ∧
      ¬ RuntimeFaithful chainedMap shippedVolume.memory (fun _ => 0) shippedGlobals
        (fvbVirtualAddressChangeEvent (ConvertPointer.specified chainedMap) shippedGlobals) := by
  refine ⟨?_, fun faithful => ?_⟩
  · exact
      { pointerSet := by decide
        pointerMapped := ⟨⟨0x20000000, 0x20020000, 0x10000⟩, by decide, by decide⟩
        baseSet := by decide
        nonempty := by decide
        member := by decide
        within := by decide }
  · exact absurd (faithful.volume 0xAE0000 (by decide)) (by decide)

end MuRockchip.Fvb
