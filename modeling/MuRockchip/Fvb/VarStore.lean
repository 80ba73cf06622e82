/-
The variable store on disk (`VarBlockServiceDxe.c`).

The volume is edited in memory and dumped to the boot disk when the disk appears, when
the system is ready to boot, with every image loaded from then on, and at a reset. A dump
is made only if the volume was marked dirty since the last one. Writes and erasures mark
it; setting attributes does not.

* `storeSound_iff`: the other two laws of a store follow from the first.
* `installDisk_recorded`: which disk becomes the disk of the store.
* `saved_step_iff`: what one event does to the first law.
* `variableStore_kept_iff`: the runs that lose no update.
-/
import MuRockchip.Fvb.Header

namespace MuRockchip.Fvb

open MuRockchip.Base

/-! ### The disk -/

/-- The volume, the boot disk as the last dump left it, and `PcdPlatformResetDelay`. -/
structure VarStore where
  volume : FwVolume
  disk : Memory
  platformResetDelay : UInt32

/-- What the disk's services answer to a dump. A write that fails may leave anything. -/
structure DumpReply where
  locateDevicePath : EfiStatus
  handleProtocol : EfiStatus
  writeDisk : EfiStatus
  disk : Memory

namespace VarStore

def device (store : VarStore) : UInt64 := store.volume.fvInstance.device

def dirty (store : VarStore) : Bool := store.volume.fvInstance.dirty

/-- The disk with the volume's bytes at the volume's offset. -/
def image (store : VarStore) : Memory := fun address =>
  if address - store.volume.fvInstance.offset < store.volume.fvInstance.fvLength then
    store.volume.memory (store.volume.base + (address - store.volume.fvInstance.offset))
  else store.disk address

/-- `DoDump`: its status, and the disk after it. -/
def doDump (store : VarStore) (reply : DumpReply) : EfiStatus × Memory :=
  if reply.locateDevicePath.isError then (reply.locateDevicePath, store.disk)
  else if reply.handleProtocol.isError then (reply.handleProtocol, store.disk)
  else if reply.writeDisk.isError then (reply.writeDisk, reply.disk)
  else (reply.writeDisk, store.image)

end VarStore

/-- `PLATFORM_RESET_DELAY`. -/
def platformResetDelayMin : UInt32 := 3500000

def dumpVars (store : VarStore) (reply : DumpReply) : VarStore :=
  if store.device = 0 then store
  else if !store.dirty then store
  else
    let dumped := store.doDump reply
    if dumped.1.isError then { store with disk := dumped.2 }
    else
      { volume :=
          { store.volume with fvInstance := { store.volume.fvInstance with dirty := false } }
        disk := dumped.2
        platformResetDelay :=
          if store.platformResetDelay < platformResetDelayMin then platformResetDelayMin
          else store.platformResetDelay }

/-! ### Disks that appear -/

inductive SocBootDevice where
  | unknown | nand | emmc | spinor | spinand | sd | usb
  deriving DecidableEq, Repr

/-- The first node of a device path, as far as it is looked at. -/
inductive DevicePathNode where
  | memoryMapped (startingAddress : UInt64)
  | nonDiscoverable (baseAddress : UInt64)
  | other
  deriving DecidableEq, Repr

/-- `PcdMshcDxeBaseAddress`. -/
def mshcDxeBaseAddress : UInt64 := 0xFE2B0000

/-- `PcdEmmcDxeBaseAddress`. -/
def emmcDxeBaseAddress : UInt64 := 0xFE310000

def isBootDevice (bootDevice : SocBootDevice) : DevicePathNode → Bool
  | .memoryMapped startingAddress =>
    bootDevice = .sd && startingAddress = mshcDxeBaseAddress
  | .nonDiscoverable baseAddress => bootDevice = .emmc && baseAddress = emmcDxeBaseAddress
  | .other => false

/-- A handle with a new disk, its block device, and the copy made of its device path. -/
structure DiskHandle where
  node : DevicePathNode
  blockIo : EfiStatus
  device : UInt64
  mediaId : UInt32
  mediaPresent : Bool
  readOnly : Bool
  reply : DumpReply

/-- The loop of `OnDiskIoInstall` over the new handles. -/
def installDisk (bootDevice : SocBootDevice) : List DiskHandle → VarStore → VarStore
  | [], store => store
  | handle :: rest, store =>
    if !isBootDevice bootDevice handle.node then installDisk bootDevice rest store
    else if handle.blockIo.isError then installDisk bootDevice rest store
    else if !handle.mediaPresent then installDisk bootDevice rest store
    else if handle.readOnly then installDisk bootDevice rest store
    else
      let dumped := store.doDump handle.reply
      if dumped.1.isError then installDisk bootDevice rest { store with disk := dumped.2 }
      else
        { store with
          volume :=
            { store.volume with
              fvInstance :=
                { store.volume.fvInstance with
                  device := handle.device
                  mediaId := handle.mediaId } }
          disk := dumped.2 }

def onDiskIoInstall (bootDevice : SocBootDevice) (handles : List DiskHandle) (store : VarStore) :
    VarStore :=
  if store.device ≠ 0 then store else installDisk bootDevice handles store

/-! ### Events -/

/-- What can happen to the store. -/
inductive StoreEvent where
  | write (request : FvbRequest)
  | eraseBlocks (ranges : List LbaRange)
  | setAttributes (wanted : FvbAttributes2)
  | diskIoInstalled (bootDevice : SocBootDevice) (handles : List DiskHandle)
  | dumpVars (reply : DumpReply)

def VarStore.step (store : VarStore) : StoreEvent → VarStore
  | .write request => { store with volume := store.volume.after (.write request) }
  | .eraseBlocks ranges => { store with volume := store.volume.after (.eraseBlocks ranges) }
  | .setAttributes wanted => { store with volume := store.volume.after (.setAttributes wanted) }
  | .diskIoInstalled bootDevice handles => onDiskIoInstall bootDevice handles store
  | .dumpVars reply => MuRockchip.Fvb.dumpVars store reply

def VarStore.Synced (store : VarStore) : Prop :=
  ∀ index < store.volume.fvInstance.fvLength.toNat,
    store.disk (store.volume.fvInstance.offset + UInt64.ofNat index) =
      store.volume.memory (store.volume.base + UInt64.ofNat index)

/-- A store that has a disk and is not dirty is on the disk. -/
def VarStore.Saved (store : VarStore) : Prop :=
  store.device ≠ 0 → store.dirty = false → store.Synced

/-- No update is lost: the store is saved, a dump that fails leaves it dirty, and a dump
that succeeds leaves it on the disk. -/
structure StoreSound (store : VarStore) : Prop where
  saved : store.Saved
  failedDump : ∀ reply, (store.doDump reply).1.isError = true → store.dirty = true →
    (dumpVars store reply).dirty = true
  reset : ∀ reply, (store.doDump reply).1.isError = false → store.device ≠ 0 →
    (dumpVars store reply).Synced

/-! ### Dumps -/

section

variable {store : VarStore}

/-- What a dump that succeeds leaves on the disk is the volume. -/
theorem image_synced (store : VarStore) (index : Nat)
    (inside : index < store.volume.fvInstance.fvLength.toNat) :
    store.image (store.volume.fvInstance.offset + UInt64.ofNat index) =
      store.volume.memory (store.volume.base + UInt64.ofNat index) := by
  have distance : store.volume.fvInstance.offset + UInt64.ofNat index -
      store.volume.fvInstance.offset = UInt64.ofNat index := by
    rw [UInt64.add_comm, UInt64.add_sub_cancel]
  have below : UInt64.ofNat index < store.volume.fvInstance.fvLength := by
    have := store.volume.fvInstance.fvLength.toNat_lt
    rw [UInt64.lt_iff_toNat_lt, UInt64.toNat_ofNat']
    omega
  rw [VarStore.image, distance, if_pos below]

variable {reply : DumpReply} {bootDevice : SocBootDevice} {handles : List DiskHandle}

theorem doDump_disk (succeeds : (store.doDump reply).1.isError = false) :
    (store.doDump reply).2 = store.image := by
  unfold VarStore.doDump at succeeds ⊢
  split at succeeds
  · rename_i failed
    rw [failed] at succeeds
    cases succeeds
  · rename_i located
    rw [if_neg located]
    split at succeeds
    · rename_i failed
      rw [failed] at succeeds
      cases succeeds
    · rename_i opened
      rw [if_neg opened]
      split at succeeds
      · rename_i failed
        rw [failed] at succeeds
        cases succeeds
      · rename_i written
        rw [if_neg written]

theorem dumpVars_synced (succeeds : (store.doDump reply).1.isError = false)
    (found : store.device ≠ 0) (dirty : store.dirty = true) : (dumpVars store reply).Synced := by
  intro index inside
  have saves : dumpVars store reply =
      { volume :=
          { store.volume with fvInstance := { store.volume.fvInstance with dirty := false } }
        disk := store.image
        platformResetDelay :=
          if store.platformResetDelay < platformResetDelayMin then platformResetDelayMin
          else store.platformResetDelay } := by
    simp [dumpVars, found, dirty, succeeds, doDump_disk succeeds]
  rw [saves] at inside ⊢
  exact image_synced store index inside

theorem dumpVars_failed (failed : (store.doDump reply).1.isError = true) :
    (dumpVars store reply).volume = store.volume := by
  unfold dumpVars
  split
  · rfl
  · split
    · rfl
    · rw [if_pos failed]

theorem dumpVars_clean (clean : store.dirty = false) :
    dumpVars store reply = store := by
  unfold dumpVars
  split
  · rfl
  · rw [if_pos (by simp [clean])]

/-- The other two laws follow from the first. -/
theorem storeSound_iff : StoreSound store ↔ store.Saved := by
  constructor
  · exact StoreSound.saved
  · intro saved
    refine ⟨saved, fun reply failed dirty => ?_, fun reply succeeds found => ?_⟩
    · rw [VarStore.dirty, dumpVars_failed failed]
      exact dirty
    · cases dirty : store.dirty with
      | false =>
        rw [dumpVars_clean dirty]
        exact saved found dirty
      | true => exact dumpVars_synced succeeds found dirty

theorem saved_dumpVars (saved : store.Saved) (reply : DumpReply) :
    (dumpVars store reply).Saved := by
  intro found clean
  cases dirty : store.dirty with
  | false =>
    rw [dumpVars_clean dirty] at found ⊢
    exact saved found dirty
  | true =>
    cases status : (store.doDump reply).1.isError with
    | false =>
      have same : store.device ≠ 0 := by
        intro missing
        simp [dumpVars, missing] at found
      exact dumpVars_synced status same dirty
    | true =>
      rw [VarStore.dirty, dumpVars_failed status] at clean
      exact absurd (dirty.symm.trans clean) (by decide)

theorem saved_installDisk
    (missing : store.device = 0) : (installDisk bootDevice handles store).Saved := by
  induction handles generalizing store with
  | nil => exact fun found => absurd missing found
  | cons handle rest ih =>
    unfold installDisk
    split
    · exact ih missing
    · split
      · exact ih missing
      · split
        · exact ih missing
        · split
          · exact ih missing
          · dsimp only
            split
            · exact ih missing
            · rename_i succeeds
              rw [Bool.not_eq_true] at succeeds
              intro _ _ index inside
              simp only [doDump_disk succeeds]
              exact image_synced store index inside

end

/-! ### Calls -/

section

variable {volume : FwVolume}

def MarksDirty (before after : FwVolume) : Prop := after = before ∨ after.fvInstance.dirty = true

theorem MarksDirty.trans {first second third : FwVolume} (one : MarksDirty first second)
    (other : MarksDirty second third) : MarksDirty first third := by
  rcases other with same | dirty
  · rw [same]
    exact one
  · exact .inr dirty

theorem after_write (request : FvbRequest) :
    MarksDirty volume (volume.after (.write request)) := by
  simp only [FwVolume.after, fvbProtocolWrite]
  rcases fvbCheck fvb2WriteStatus volume request with _ | _ | _
  · exact .inl rfl
  · exact .inl rfl
  · exact .inr rfl

theorem after_eraseBlocks (ranges : List LbaRange) :
    MarksDirty volume (volume.after (.eraseBlocks ranges)) := by
  simp only [FwVolume.after, fvbProtocolEraseBlocks, eraseList_eq]
  split
  · cases run : eraseLbas (listedLbas ranges) volume with
    | none => exact .inl rfl
    | some erased =>
      exact @eraseLbas_preserves volume (listedLbas ranges) MarksDirty (fun _ => .inl rfl)
        MarksDirty.trans (fun _ _ => .inr rfl) erased run
  · exact .inl rfl

end

/-! ### Attributes -/

section

variable {memory : Memory} {base : UInt64}

/-- The attributes that are there can be stored again. -/
theorem withAttributes_self :
    withAttributes memory base (headerAttributes memory base) = memory := by
  have bytes : leBytes 4 (headerAttributes memory base).toNat =
      memory.read (base + attributesOffset) 4 := by
    have value : (headerAttributes memory base).toNat = headerField memory base 44 4 := by
      have := headerField_lt memory base 44 4
      rw [headerAttributes, UInt32.toNat_ofNat']
      omega
    have encoded := leBytes_leValue (memory.read (base + attributesOffset) 4)
    rw [Memory.read_length] at encoded
    rw [value]
    exact encoded
  funext address
  rw [withAttributes, bytes, Memory.write]
  by_cases inside : (address - (base + attributesOffset)).toNat < 4
  · have here : base + attributesOffset + (address - (base + attributesOffset)) = address := by
      rw [UInt64.add_comm, UInt64.sub_add_cancel]
    simp [Memory.read, inside, here]
  · rw [List.getElem?_eq_none (by rw [Memory.read_length]; omega), Option.getD_none]

theorem withAttributes_low (attributes : FvbAttributes2) :
    withAttributes memory base attributes (base + UInt64.ofNat 44) =
      UInt8.ofNat attributes.toNat := by
  have distance : base + UInt64.ofNat 44 - (base + attributesOffset) = 0 := UInt64.sub_self _
  rw [withAttributes, Memory.write, distance]
  rfl

variable {attributes : FvbAttributes2}

theorem withAttributes_before {index : Nat} (before : index < 44) :
    withAttributes memory base attributes (base + UInt64.ofNat index) =
      memory (base + UInt64.ofNat index) := by
  have far : 4 ≤ (base + UInt64.ofNat index - (base + attributesOffset)).toNat := by
    have := base.toNat_lt
    rw [UInt64.toNat_sub, UInt64.toNat_add, UInt64.toNat_add, UInt64.toNat_ofNat',
      show attributesOffset.toNat = 44 from rfl]
    omega
  rw [withAttributes, Memory.write,
    List.getElem?_eq_none (by rw [leBytes_length]; exact far), Option.getD_none]

/-- Attributes with the old upper bytes change the header's bytes unless they are the old
ones. -/
theorem withAttributes_low_iff
    (upper : attributes.toNat / 256 = (headerAttributes memory base).toNat / 256) :
    withAttributes memory base attributes (base + UInt64.ofNat 44) =
        memory (base + UInt64.ofNat 44) ↔
      attributes = headerAttributes memory base := by
  have old : memory (base + UInt64.ofNat 44) =
      UInt8.ofNat (headerAttributes memory base).toNat := by
    rw [← withAttributes_low, withAttributes_self]
  rw [withAttributes_low, old, ← UInt8.toNat_inj, ← UInt32.toNat_inj, UInt8.toNat_ofNat',
    UInt8.toNat_ofNat']
  omega

end

/-! ### Runs -/

/-- `SetAttributes` is refused or asks for the status bits that are set; or the store is
dirty, or has no disk yet, or ends before the attributes. -/
def KeepsImage (store : VarStore) : StoreEvent → Prop
  | .setAttributes wanted =>
    (∃ status, attributesCheck store.volume.attributes wanted = .error status) ∨
      wanted &&& fvb2Status = store.volume.attributes &&& fvb2Status ∨ store.dirty = true ∨
      store.device = 0 ∨ store.volume.fvInstance.fvLength.toNat ≤ 44
  | _ => True

section

variable {store : VarStore}

theorem saved_of_marked {volume : FwVolume} (saved : store.Saved)
    (marked : MarksDirty store.volume volume) :
    ({ store with volume := volume } : VarStore).Saved := by
  rcases marked with rfl | dirty
  · exact saved
  · intro _ clean
    exact absurd (dirty.symm.trans clean) (by decide)

/-- `SetAttributes` keeps a store saved if and only if it keeps the image. -/
theorem saved_setAttributes_iff (saved : store.Saved) (wanted : FvbAttributes2) :
    (store.step (.setAttributes wanted)).Saved ↔ KeepsImage store (.setAttributes wanted) := by
  cases checked : attributesCheck store.volume.attributes wanted with
  | error status =>
    have same : store.step (.setAttributes wanted) = store := by
      rw [VarStore.step, FwVolume.after, fvbSetVolumeAttributes, checked]
    rw [same]
    exact iff_of_true saved (.inl ⟨status, checked⟩)
  | ok attributes =>
    have stored : store.step (.setAttributes wanted) =
        { store with
          volume :=
            { store.volume with
              memory := withAttributes store.volume.memory store.volume.base attributes } } := by
      rw [VarStore.step, FwVolume.after, fvbSetVolumeAttributes, checked]
      rfl
    have upper := @attributes_upper store.volume.attributes wanted
    rw [← attributesCheck_ok checked, FwVolume.attributes] at upper
    have kept : attributes = headerAttributes store.volume.memory store.volume.base ↔
        wanted &&& fvb2Status = store.volume.attributes &&& fvb2Status := by
      rw [attributesCheck_ok checked]
      exact replaceBits_eq_iff
    rw [stored]
    constructor
    · intro keeps
      by_contra changes
      simp only [KeepsImage, not_or] at changes
      obtain ⟨-, differs, clean, found, covers⟩ := changes
      rw [Bool.not_eq_true] at clean
      have now := keeps found clean 44 (Nat.lt_of_not_le covers)
      have before := saved found clean 44 (Nat.lt_of_not_le covers)
      exact differs (kept.mp ((withAttributes_low_iff upper).mp (now.symm.trans before)))
    · rintro (⟨status, refused⟩ | same | dirty | missing | short)
      · rw [checked] at refused
        cases refused
      · rw [kept.mpr same, withAttributes_self]
        exact saved
      · exact fun _ clean => absurd (dirty.symm.trans clean) (by decide)
      · exact fun found => absurd missing found
      · intro found clean index inside
        have before := saved found clean index inside
        exact before.trans (withAttributes_before (Nat.lt_of_lt_of_le inside short)).symm

theorem saved_step_iff (saved : store.Saved) (event : StoreEvent) :
    (store.step event).Saved ↔ KeepsImage store event := by
  cases event with
  | write request => exact iff_of_true (saved_of_marked saved (after_write request)) trivial
  | eraseBlocks ranges =>
    exact iff_of_true (saved_of_marked saved (after_eraseBlocks ranges)) trivial
  | setAttributes wanted => exact saved_setAttributes_iff saved wanted
  | diskIoInstalled bootDevice handles =>
    refine iff_of_true ?_ trivial
    rw [VarStore.step, onDiskIoInstall]
    by_cases missing : store.device = 0
    · rw [if_neg (not_not.mpr missing)]
      exact saved_installDisk missing
    · rw [if_pos missing]
      exact saved
  | dumpVars reply => exact iff_of_true (saved_dumpVars saved reply) trivial

theorem saved_run_iff {events : List StoreEvent} (saved : store.Saved) :
    (∀ count, (run VarStore.step store (events.take count)).Saved) ↔
      AllSteps VarStore.step KeepsImage store events := by
  induction events generalizing store with
  | nil => exact iff_of_true (fun _ => by simpa using saved) trivial
  | cons event rest ih =>
    constructor
    · intro valid
      have next : (store.step event).Saved := valid 1
      exact ⟨(saved_step_iff saved event).mp next, (ih next).mp fun count => valid (count + 1)⟩
    · rintro ⟨keeps, later⟩ count
      have next := (saved_step_iff saved event).mpr keeps
      cases count with
      | zero => exact saved
      | succ count => exact (ih next).mpr later count

end

/-- From start-up on, no update is lost in any state of a run if and only if every event
keeps the image. -/
theorem variableStore_kept_iff {pcds : FvbPcds} {memory : Memory} {volume : FwVolume}
    (started : fvbInitialize pcds memory = some volume) (disk : Memory)
    (platformResetDelay : UInt32) (events : List StoreEvent) :
    (∀ count, StoreSound
        (run VarStore.step ⟨volume, disk, platformResetDelay⟩ (events.take count))) ↔
      AllSteps VarStore.step KeepsImage ⟨volume, disk, platformResetDelay⟩ events := by
  have missing : volume.fvInstance.device = 0 := by
    rw [fvbInitialize] at started
    obtain ⟨numOfBlocks, -, rfl⟩ := Option.map_eq_some_iff.mp started
    rw [openVolume]
    split
    · rfl
    · rfl
  have saved : VarStore.Saved ⟨volume, disk, platformResetDelay⟩ :=
    fun found => absurd missing found
  rw [← saved_run_iff saved]
  exact forall_congr' fun count => storeSound_iff

/-- The SD card the board has booted from, with services that work. -/
def bootCard : DiskHandle where
  node := .memoryMapped 0xFE2B0000
  blockIo := EfiStatus.success
  device := 0x7F000000
  mediaId := 1
  mediaPresent := true
  readOnly := false
  reply := ⟨EfiStatus.success, EfiStatus.success, EfiStatus.success, fun _ => 0⟩

/-- The disk appears, its second block is written, and the system resets. -/
theorem variableStore_kept_shipped :
    (∀ count, StoreSound (run VarStore.step ⟨shippedVolume, fun _ => 0, 0⟩
        ([.diskIoInstalled .sd [bootCard], .write ⟨1, 0, some 0x100, 0x80000000⟩,
          .dumpVars bootCard.reply].take count))) ↔
      AllSteps VarStore.step KeepsImage ⟨shippedVolume, fun _ => 0, 0⟩
        [.diskIoInstalled .sd [bootCard], .write ⟨1, 0, some 0x100, 0x80000000⟩,
          .dumpVars bootCard.reply] :=
  variableStore_kept_iff fvbInitialize_shipped _ _ _

/-- The disk appears, and then reading is disabled: the reset that follows does not save it. -/
theorem variableStore_loses :
    fvbInitialize rk356xPcds unlockedVolume.memory = some unlockedVolume ∧
      ¬ StoreSound (run VarStore.step ⟨unlockedVolume, fun _ => 0, 0⟩
        [.diskIoInstalled .sd [bootCard], .setAttributes 0x4FE7B]) := by
  refine ⟨rfl, fun sound => ?_⟩
  have saved := sound.reset bootCard.reply (by decide) (by decide) 44 (by decide)
  exact absurd saved (by decide)

end MuRockchip.Fvb
