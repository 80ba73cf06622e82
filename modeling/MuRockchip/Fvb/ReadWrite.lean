/-
Reads and writes of the variable volume.

A request is for bytes of one logical block; what crosses the end of the block is cut
off and reported. The cut compares the length of the block with a sum that wraps, so
a size near 2 ^ 64 escapes it.

* `boundaryCheck_iff`: the bytes moved stay in the block if and only if the sum does
  not wrap.
* `readsBack_iff_leavesReadable`: a write reads back if and only if its bytes leave the block
  readable.
* `fvbReadWrite_sound_iff`: the reads and writes that stay in their block.
-/
import MuRockchip.Fvb.BlockMap

namespace MuRockchip.Fvb

open MuRockchip.Base

/-! ### Requests -/

/-- The request passes the checks up to its boundaries: this block was found for it, and
so many bytes are asked for. -/
structure Reaches (enabled : FvbAttributes2) (volume : FwVolume) (request : FvbRequest)
    (block : LbaBlock) (asked : UInt64) : Prop where
  numBytes : request.numBytes = some asked
  buffer : request.buffer ≠ 0
  nonzero : asked ≠ 0
  located : fvbGetLbaAddress volume.memory volume.base request.lba = some (.ok block)
  permitted : volume.attributes &&& enabled ≠ 0
  starts : request.offset ≤ block.length

variable {enabled : FvbAttributes2} {request : FvbRequest} {transfer : FvbTransfer}
  {volume : FwVolume} {block : LbaBlock} {asked : UInt64}

theorem fvbCheck_ok_iff :
    fvbCheck enabled volume request = some (.ok transfer) ↔
      ∃ block asked, Reaches enabled volume request block asked ∧
        boundaryCheck block request.offset asked = .ok transfer := by
  constructor
  · intro checked
    unfold fvbCheck at checked
    split at checked
    · cases checked
    · rename_i asked numBytes
      split at checked
      · cases checked
      · rename_i buffer
        split at checked
        · cases checked
        · rename_i nonzero
          obtain ⟨located, finds, bound⟩ := Option.map_eq_some_iff.mp checked
          cases located with
          | error status => cases bound
          | ok block =>
            simp only [Except.bind] at bound
            split at bound
            · cases bound
            · rename_i permitted
              have starts : request.offset ≤ block.length := by
                by_contra behind
                rw [boundaryCheck, if_pos (UInt64.not_le.mp behind)] at bound
                cases bound
              exact ⟨block, asked, ⟨numBytes, buffer, nonzero, finds, permitted, starts⟩, bound⟩
  · rintro ⟨block, asked, reaches, bound⟩
    simp only [fvbCheck, reaches.numBytes, if_neg reaches.buffer, if_neg reaches.nonzero,
      reaches.located, Option.map_some, Except.bind, if_neg reaches.permitted, bound]

theorem located_length_lt {memory : Memory} {base lba : UInt64}
    (located : fvbGetLbaAddress memory base lba = some (.ok block)) :
    block.length.toNat < 2 ^ 32 := by
  obtain ⟨run, -, -, rfl⟩ := fvbGetLbaAddress_ok_iff.mp located
  rw [heldBlock_length, mapRun_headerBytes]
  exact UInt32.toNat_lt _

/-! ### Boundaries -/

/-- The bytes moved are those of the block from the offset on, at most to its end, they
lie in the volume, and the status says whether the end cut them off. -/
structure StaysInBlock (volume : FwVolume) (request : FvbRequest) (block : LbaBlock)
    (asked : UInt64) (transfer : FvbTransfer) : Prop where
  address : transfer.address.toNat = block.address.toNat + request.offset.toNat
  inBlock : request.offset.toNat + transfer.numBytes.toNat ≤ block.length.toNat
  inVolume : Interval.Within ⟨transfer.address.toNat, transfer.numBytes.toNat⟩
    ⟨volume.base.toNat, volume.fvInstance.fvLength.toNat⟩
  status : transfer.status = EfiStatus.badBufferSize ↔
    block.length.toNat < request.offset.toNat + asked.toNat

def permittedBytes (request : FvbRequest) (block : LbaBlock) (asked : UInt64) : Nat :=
  min asked.toNat (block.length.toNat - request.offset.toNat)

/-- The end of the request is a 64-bit number, and the bytes it is for are in the volume. -/
structure InBounds (volume : FwVolume) (request : FvbRequest) (block : LbaBlock)
    (asked : UInt64) : Prop where
  noWrap : request.offset.toNat + asked.toNat < 2 ^ 64
  inVolume : Interval.Within
    ⟨block.address.toNat + request.offset.toNat, permittedBytes request block asked⟩
    ⟨volume.base.toNat, volume.fvInstance.fvLength.toNat⟩

def FwVolume.Placed (volume : FwVolume) : Prop :=
  volume.base.toNat + volume.fvInstance.fvLength.toNat < 2 ^ 64

/-- Start-up places the volume in the first 8 GiB. -/
theorem FvbPcds.newInstance_placed (pcds : FvbPcds) (memory : Memory) :
    FwVolume.Placed ⟨pcds.newInstance, memory⟩ := by
  have := base_toNat_lt pcds
  have := length_toNat_lt pcds
  simp only [FwVolume.Placed, FwVolume.base, FvbPcds.newInstance]
  omega

section

variable {enabled : FvbAttributes2} {volume : FwVolume} {request : FvbRequest} {block : LbaBlock}
  {asked : UInt64} {transfer : FvbTransfer}

theorem boundaryCheck_of_noWrap (small : block.length.toNat < 2 ^ 32)
    (starts : request.offset ≤ block.length)
    (noWrap : request.offset.toNat + asked.toNat < 2 ^ 64)
    (bound : boundaryCheck block request.offset asked = .ok transfer) :
    transfer.address = block.address + request.offset ∧
      transfer.numBytes.toNat = permittedBytes request block asked ∧
      (transfer.status = EfiStatus.badBufferSize ↔
        block.length.toNat < request.offset.toNat + asked.toNat) ∧
      (transfer.status ≠ EfiStatus.badBufferSize → transfer.status = EfiStatus.success) := by
  have inside := UInt64.le_iff_toNat_le.mp starts
  rw [boundaryCheck, if_neg (UInt64.not_lt.mpr starts)] at bound
  have sum : (asked + request.offset).toNat = asked.toNat + request.offset.toNat := by
    rw [UInt64.toNat_add]
    omega
  split at bound
  · rename_i crosses
    rw [UInt64.lt_iff_toNat_lt, sum] at crosses
    have cut : (block.length - request.offset).toUInt32.toUInt64.toNat =
        block.length.toNat - request.offset.toNat := by
      rw [UInt32.toNat_toUInt64, UInt64.toNat_toUInt32, UInt64.toNat_sub_of_le _ _ starts]
      omega
    cases bound
    refine ⟨rfl, ?_, ⟨fun _ => by omega, fun _ => rfl⟩, fun other => absurd rfl other⟩
    rw [cut, permittedBytes]
    omega
  · rename_i fits
    rw [UInt64.lt_iff_toNat_lt, sum] at fits
    cases bound
    have other : EfiStatus.success ≠ EfiStatus.badBufferSize := by decide
    refine ⟨rfl, ?_, ⟨fun same => absurd same other, fun crosses => by omega⟩, fun _ => rfl⟩
    simp only [permittedBytes]
    omega

theorem boundaryCheck_iff (placed : volume.Placed)
    (reaches : Reaches enabled volume request block asked)
    (bound : boundaryCheck block request.offset asked = .ok transfer) :
    StaysInBlock volume request block asked transfer ↔ InBounds volume request block asked := by
  have small := located_length_lt reaches.located
  have inside := UInt64.le_iff_toNat_le.mp reaches.starts
  constructor
  · intro stays
    have noWrap : request.offset.toNat + asked.toNat < 2 ^ 64 := by
      -- A sum that wraps is below the length, and then nothing is cut off.
      by_contra wraps
      have askedBound := asked.toNat_lt
      have sum : (asked + request.offset).toNat < block.length.toNat := by
        rw [UInt64.toNat_add]
        omega
      rw [boundaryCheck, if_neg (UInt64.not_lt.mpr reaches.starts),
        if_neg (by rw [UInt64.lt_iff_toNat_lt]; omega)] at bound
      cases bound
      have := stays.inBlock
      simp only at this
      omega
    obtain ⟨-, numBytes, -⟩ := boundaryCheck_of_noWrap small reaches.starts noWrap bound
    refine ⟨noWrap, ?_⟩
    rw [← numBytes, ← stays.address]
    exact stays.inVolume
  · rintro ⟨noWrap, inVolume⟩
    obtain ⟨address, numBytes, status, -⟩ :=
      boundaryCheck_of_noWrap small reaches.starts noWrap bound
    have exact : transfer.address.toNat = block.address.toNat + request.offset.toNat := by
      have finish := inVolume.2
      simp only [Interval.finish] at finish
      rw [address, UInt64.toNat_add]
      unfold FwVolume.Placed at placed
      omega
    refine ⟨exact, ?_, ?_, status⟩
    · rw [numBytes, permittedBytes]
      omega
    · rw [exact, numBytes]
      exact inVolume

end

/-! ### Reading back -/

def FwVolume.written (volume : FwVolume) (request : FvbRequest) (transfer : FvbTransfer) :
    FwVolume :=
  volume.varStoreWrite transfer.address transfer.numBytes request.buffer

/-- The memory after a read of these bytes. -/
def FwVolume.fetched (volume : FwVolume) (request : FvbRequest) (transfer : FvbTransfer) :
    FwVolume where
  fvInstance := volume.fvInstance
  memory := volume.memory.copy request.buffer transfer.address transfer.numBytes

def readBack (request : FvbRequest) (transfer : FvbTransfer) (target : UInt64) : FvbRequest :=
  { request with numBytes := some transfer.numBytes, buffer := target }

def ReadsBack (volume : FwVolume) (request : FvbRequest) (transfer : FvbTransfer) : Prop :=
  ∀ target ≠ 0,
    fvbCheck fvb2ReadStatus (volume.written request transfer) (readBack request transfer target) =
      some (.ok ⟨transfer.address, transfer.numBytes, EfiStatus.success⟩) ∧
    ∃ outcome,
      fvbProtocolRead (volume.written request transfer) (readBack request transfer target) =
        some outcome ∧
      outcome.status = EfiStatus.success ∧ outcome.numBytes = some transfer.numBytes ∧
      ∀ index < transfer.numBytes.toNat, outcome.volume.memory (target + UInt64.ofNat index) =
        volume.memory (request.buffer + UInt64.ofNat index)

def StillReadable (volume : FwVolume) (request : FvbRequest) (block : LbaBlock) (count : UInt64) :
    Prop :=
  volume.attributes &&& fvb2ReadStatus ≠ 0 ∧
    ∃ now, fvbGetLbaAddress volume.memory volume.base request.lba = some (.ok now) ∧
      now.address = block.address ∧ request.offset.toNat + count.toNat ≤ now.length.toNat

section

variable {volume : FwVolume} {request : FvbRequest} {block : LbaBlock} {asked : UInt64}
  {transfer : FvbTransfer}

theorem readsBack_of_check
    (same : ∀ target ≠ 0, fvbCheck fvb2ReadStatus (volume.written request transfer)
      (readBack request transfer target) =
        some (.ok ⟨transfer.address, transfer.numBytes, EfiStatus.success⟩)) :
    ReadsBack volume request transfer := by
  intro target given
  refine ⟨same target given, _, by rw [fvbProtocolRead, same target given]; rfl, rfl, rfl, ?_⟩
  intro index inside
  calc
    (volume.written request transfer).memory.copy target transfer.address transfer.numBytes
        (target + UInt64.ofNat index)
      = (volume.written request transfer).memory (transfer.address + UInt64.ofNat index) :=
        Memory.copy_inside _ inside
    _ = volume.memory (request.buffer + UInt64.ofNat index) := Memory.copy_inside _ inside

theorem readsBack_iff (address : transfer.address = block.address + request.offset)
    (moved : transfer.numBytes ≠ 0)
    (noWrap : request.offset.toNat + transfer.numBytes.toNat < 2 ^ 64) :
    ReadsBack volume request transfer ↔
      StillReadable (volume.written request transfer) request block transfer.numBytes := by
  constructor
  · intro reads
    obtain ⟨checked, -⟩ := reads 1 (by decide)
    obtain ⟨now, asked, reaches, bound⟩ := fvbCheck_ok_iff.mp checked
    obtain rfl : asked = transfer.numBytes := (Option.some.inj reaches.numBytes).symm
    obtain ⟨nowAddress, numBytes, -⟩ :=
      boundaryCheck_of_noWrap (located_length_lt reaches.located) reaches.starts noWrap bound
    refine ⟨reaches.permitted, now, reaches.located, ?_, ?_⟩
    · have sums : block.address + request.offset = now.address + request.offset :=
        address.symm.trans nowAddress
      exact ((UInt64.add_left_inj _).mp sums).symm
    · have starts := UInt64.le_iff_toNat_le.mp reaches.starts
      simp only [permittedBytes, readBack] at numBytes starts
      omega
  · rintro ⟨permitted, now, located, sameAddress, fits⟩
    refine readsBack_of_check fun target given => fvbCheck_ok_iff.mpr ⟨now, transfer.numBytes,
      ⟨rfl, given, moved, located, permitted, ?_⟩, ?_⟩
    · rw [UInt64.le_iff_toNat_le]
      simp only [readBack]
      omega
    · have inside : ¬ now.length < transfer.numBytes + request.offset := by
        rw [UInt64.lt_iff_toNat_lt, UInt64.toNat_add]
        omega
      have starts : ¬ request.offset > now.length := by
        rw [gt_iff_lt, UInt64.lt_iff_toNat_lt]
        omega
      simp only [boundaryCheck, readBack, if_neg starts, if_neg inside, sameAddress, address]

end

/-! ### Soundness -/

/-- A call that is refused moves nothing, and does not blame the size of the buffer. -/
def RefusesCleanly (enabled : FvbAttributes2) (volume : FwVolume) (request : FvbRequest)
    (outcome : Option FvbOutcome) : Prop :=
  ∀ status, fvbCheck enabled volume request = some (.error status) →
    outcome = some ⟨status, request.numBytes, volume⟩ ∧ status ≠ EfiStatus.badBufferSize

def ReadSound (volume : FwVolume) (request : FvbRequest) : Prop :=
  RefusesCleanly fvb2ReadStatus volume request (fvbProtocolRead volume request) ∧
    ∀ block asked transfer, Reaches fvb2ReadStatus volume request block asked →
      fvbCheck fvb2ReadStatus volume request = some (.ok transfer) →
      fvbProtocolRead volume request = some
          ⟨transfer.status, some transfer.numBytes, volume.fetched request transfer⟩ ∧
        StaysInBlock volume request block asked transfer

/-- A write moves bytes to its block only, and they can be read back. -/
def WriteSound (volume : FwVolume) (request : FvbRequest) : Prop :=
  RefusesCleanly fvb2WriteStatus volume request (fvbProtocolWrite volume request) ∧
    ∀ block asked transfer, Reaches fvb2WriteStatus volume request block asked →
      fvbCheck fvb2WriteStatus volume request = some (.ok transfer) →
      fvbProtocolWrite volume request = some
          ⟨transfer.status, some transfer.numBytes, volume.written request transfer⟩ ∧
        StaysInBlock volume request block asked transfer ∧
        (transfer.numBytes ≠ 0 → ReadsBack volume request transfer)

/-- The read is in bounds, if it gets to its boundaries. -/
def ReadInBounds (volume : FwVolume) (request : FvbRequest) : Prop :=
  ∀ block asked, Reaches fvb2ReadStatus volume request block asked →
    InBounds volume request block asked

def FwVolume.headerWith (volume : FwVolume) (request : FvbRequest) (block : LbaBlock)
    (asked : UInt64) (offset : Nat) : UInt8 :=
  let place := volume.base + UInt64.ofNat offset - (block.address + request.offset)
  if place < UInt64.ofNat (permittedBytes request block asked) then
    volume.memory (request.buffer + place)
  else volume.memory (volume.base + UInt64.ofNat offset)

/-- With the request's bytes in it, the header has the read status set, and an entry of its map
holds the block, at the same address and with room for the bytes. -/
structure LeavesReadable (volume : FwVolume) (request : FvbRequest) (block : LbaBlock)
    (asked : UInt64) : Prop where
  enabled : UInt32.ofNat (fieldOf (volume.headerWith request block asked) 44 4) &&&
    fvb2ReadStatus ≠ 0
  held : ∃ run < mapWalkLimit,
    HoldsBlock (volume.headerWith request block asked) request.lba.toNat run ∧
    (heldBlock (volume.headerWith request block asked) volume.base request.lba.toNat run).address =
      block.address ∧
    request.offset.toNat + permittedBytes request block asked ≤
      (mapRun (volume.headerWith request block asked) run).size

/-- The write is in bounds, if it gets to its boundaries, and the bytes it puts over the header, if
any, leave the block readable. -/
def WriteInBounds (volume : FwVolume) (request : FvbRequest) : Prop :=
  ∀ block asked, Reaches fvb2WriteStatus volume request block asked →
    InBounds volume request block asked ∧
      (permittedBytes request block asked ≠ 0 → LeavesReadable volume request block asked)

theorem Reaches.transfers (reaches : Reaches enabled volume request block asked) :
    ∃ transfer, boundaryCheck block request.offset asked = .ok transfer := by
  rw [boundaryCheck, if_neg (UInt64.not_lt.mpr reaches.starts)]
  split
  · exact ⟨_, rfl⟩
  · exact ⟨_, rfl⟩

theorem Reaches.unique {other : LbaBlock} {size : UInt64}
    (one : Reaches enabled volume request block asked)
    (another : Reaches enabled volume request other size) : block = other ∧ asked = size := by
  have sameBlock := one.located.symm.trans another.located
  have sameSize := one.numBytes.symm.trans another.numBytes
  cases sameBlock
  cases sameSize
  exact ⟨rfl, rfl⟩

theorem Reaches.bound (reaches : Reaches enabled volume request block asked)
    (checked : fvbCheck enabled volume request = some (.ok transfer)) :
    boundaryCheck block request.offset asked = .ok transfer := by
  obtain ⟨other, size, again, bound⟩ := fvbCheck_ok_iff.mp checked
  obtain ⟨rfl, rfl⟩ := reaches.unique again
  exact bound

theorem fvbCheck_error {status : EfiStatus}
    (refused : fvbCheck enabled volume request = some (.error status)) :
    status = EfiStatus.invalidParameter ∨ status = EfiStatus.accessDenied := by
  unfold fvbCheck at refused
  split at refused
  · cases refused
    exact .inl rfl
  · split at refused
    · cases refused
      exact .inl rfl
    · split at refused
      · cases refused
        exact .inl rfl
      · obtain ⟨located, finds, bound⟩ := Option.map_eq_some_iff.mp refused
        cases located with
        | error failure =>
          cases bound
          exact .inl (lbaSearch_error finds)
        | ok block =>
          simp only [Except.bind] at bound
          split at bound
          · cases bound
            exact .inr rfl
          · unfold boundaryCheck at bound
            split at bound
            · cases bound
              exact .inl rfl
            · split at bound <;> cases bound

theorem refusesCleanly_of {outcome : Option FvbOutcome}
    (kept : ∀ status, fvbCheck enabled volume request = some (.error status) →
      outcome = some ⟨status, request.numBytes, volume⟩) :
    RefusesCleanly enabled volume request outcome := by
  intro status refused
  refine ⟨kept status refused, ?_⟩
  rcases fvbCheck_error refused with rfl | rfl
  · decide
  · decide

theorem readSound_iff (placed : volume.Placed) (request : FvbRequest) :
    ReadSound volume request ↔ ReadInBounds volume request := by
  constructor
  · rintro ⟨-, sound⟩ block asked reaches
    obtain ⟨transfer, bound⟩ := reaches.transfers
    obtain ⟨-, stays⟩ :=
      sound block asked transfer reaches (fvbCheck_ok_iff.mpr ⟨block, asked, reaches, bound⟩)
    exact (boundaryCheck_iff placed reaches bound).mp stays
  · intro inBounds
    refine ⟨refusesCleanly_of fun status refused => by rw [fvbProtocolRead, refused]; rfl, ?_⟩
    intro block asked transfer reaches checked
    refine ⟨by rw [fvbProtocolRead, checked]; rfl, ?_⟩
    exact (boundaryCheck_iff placed reaches (reaches.bound checked)).mpr
      (inBounds block asked reaches)

theorem transfer_of_inBounds (reaches : Reaches fvb2WriteStatus volume request block asked)
    (bound : boundaryCheck block request.offset asked = .ok transfer)
    (inBounds : InBounds volume request block asked) :
    transfer.address = block.address + request.offset ∧
      transfer.numBytes.toNat = permittedBytes request block asked := by
  obtain ⟨address, numBytes, -⟩ := boundaryCheck_of_noWrap
    (located_length_lt reaches.located) reaches.starts inBounds.noWrap bound
  exact ⟨address, numBytes⟩

theorem readsBack_iff_leavesReadable (reaches : Reaches fvb2WriteStatus volume request block asked)
    (bound : boundaryCheck block request.offset asked = .ok transfer)
    (inBounds : InBounds volume request block asked) :
    (transfer.numBytes ≠ 0 → ReadsBack volume request transfer) ↔
      (permittedBytes request block asked ≠ 0 → LeavesReadable volume request block asked) := by
  obtain ⟨address, numBytes⟩ := transfer_of_inBounds reaches bound inBounds
  have moved : transfer.numBytes ≠ 0 ↔ permittedBytes request block asked ≠ 0 := by
    rw [← numBytes, Ne, ← UInt64.toNat_inj, UInt64.toNat_zero]
  have count : transfer.numBytes = UInt64.ofNat (permittedBytes request block asked) := by
    rw [← numBytes, UInt64.ofNat_toNat]
  have noWrap : request.offset.toNat + transfer.numBytes.toNat < 2 ^ 64 := by
    have := inBounds.noWrap
    rw [numBytes, permittedBytes]
    omega
  have header : headerBytes (volume.written request transfer).memory
      (volume.written request transfer).base = volume.headerWith request block asked := by
    simp only [FwVolume.written, FwVolume.varStoreWrite, FwVolume.base, address, count]
    rfl
  rw [← moved]
  refine imp_congr_right fun some => ?_
  rw [readsBack_iff address some noWrap, StillReadable, FwVolume.attributes, headerAttributes,
    ← fieldOf_headerBytes, header, numBytes]
  constructor
  · rintro ⟨enabled, now, located, sameAddress, fits⟩
    obtain ⟨run, below, holds, rfl⟩ := fvbGetLbaAddress_ok_iff.mp located
    rw [header] at holds sameAddress fits
    exact ⟨enabled, run, below, holds, sameAddress, by rwa [heldBlock_length] at fits⟩
  · rintro ⟨enabled, run, below, holds, sameAddress, fits⟩
    refine ⟨enabled, _, fvbGetLbaAddress_ok_iff.mpr ⟨run, below, header ▸ holds, rfl⟩, ?_⟩
    rw [header, heldBlock_length]
    exact ⟨sameAddress, fits⟩

theorem writeSound_iff (placed : volume.Placed) (request : FvbRequest) :
    WriteSound volume request ↔ WriteInBounds volume request := by
  constructor
  · rintro ⟨-, sound⟩ block asked reaches
    obtain ⟨transfer, bound⟩ := reaches.transfers
    obtain ⟨-, stays, reads⟩ :=
      sound block asked transfer reaches (fvbCheck_ok_iff.mpr ⟨block, asked, reaches, bound⟩)
    have inBounds := (boundaryCheck_iff placed reaches bound).mp stays
    exact ⟨inBounds, (readsBack_iff_leavesReadable reaches bound inBounds).mp reads⟩
  · intro within
    refine ⟨refusesCleanly_of fun status refused => by rw [fvbProtocolWrite, refused]; rfl, ?_⟩
    intro block asked transfer reaches checked
    have bound := reaches.bound checked
    obtain ⟨inBounds, readable⟩ := within block asked reaches
    refine ⟨by rw [fvbProtocolWrite, checked]; rfl, ?_⟩
    exact ⟨(boundaryCheck_iff placed reaches bound).mpr inBounds,
      (readsBack_iff_leavesReadable reaches bound inBounds).mpr readable⟩

/-- Reads and writes stay in their block if and only if they are in bounds. -/
theorem fvbReadWrite_sound_iff (volume : FwVolume) (placed : volume.Placed)
    (request : FvbRequest) :
    (ReadSound volume request ↔ ReadInBounds volume request) ∧
      (WriteSound volume request ↔ WriteInBounds volume request) :=
  ⟨readSound_iff placed request, writeSound_iff placed request⟩

theorem shippedVolume_placed : shippedVolume.Placed :=
  FvbPcds.newInstance_placed rk356xPcds shippedVolume.memory

/-- A request for the first bytes of the second block. -/
theorem fvbReadWrite_sound_iff_shipped :
    shippedVolume.Placed ∧
      (ReadSound shippedVolume ⟨1, 0, some 0x100, 0x80000000⟩ ↔
        ReadInBounds shippedVolume ⟨1, 0, some 0x100, 0x80000000⟩) ∧
      (WriteSound shippedVolume ⟨1, 0, some 0x100, 0x80000000⟩ ↔
        WriteInBounds shippedVolume ⟨1, 0, some 0x100, 0x80000000⟩) :=
  ⟨shippedVolume_placed, fvbReadWrite_sound_iff shippedVolume shippedVolume_placed _⟩

/-- From the middle of the second block on, so many bytes that the end wraps to its start. -/
def wrappingRequest : FvbRequest where
  lba := 1
  offset := 0x800
  numBytes := some 0xFFFFFFFFFFFFFC00
  buffer := 0x80000000

/-- A request whose end wraps passes the boundary checks as it is. -/
theorem fvbReadWrite_escapesBlock :
    volumeAccepted rk356xPcds shippedVolume.memory = true ∧
      ¬ ReadSound shippedVolume wrappingRequest ∧ ¬ WriteSound shippedVolume wrappingRequest := by
  have reaches (enabled) (permitted : shippedVolume.attributes &&& enabled ≠ 0) :
      Reaches enabled shippedVolume wrappingRequest ⟨0xAE1000, 0x1000, 31⟩ 0xFFFFFFFFFFFFFC00 :=
    ⟨rfl, by decide, by decide, by decide, permitted, by decide⟩
  -- The sum wraps to 0x400, and the request is not cut off.
  have passes : boundaryCheck ⟨0xAE1000, 0x1000, 31⟩ wrappingRequest.offset 0xFFFFFFFFFFFFFC00 =
      .ok ⟨0xAE1800, 0xFFFFFFFFFFFFFC00, EfiStatus.success⟩ := by decide
  have leaves : ¬ StaysInBlock shippedVolume wrappingRequest ⟨0xAE1000, 0x1000, 31⟩
      0xFFFFFFFFFFFFFC00 ⟨0xAE1800, 0xFFFFFFFFFFFFFC00, EfiStatus.success⟩ :=
    fun stays => absurd stays.inBlock (by decide)
  refine ⟨by decide, fun sound => ?_, fun sound => ?_⟩
  · have read := reaches fvb2ReadStatus (by decide)
    exact leaves (sound.2 _ _ _ read (fvbCheck_ok_iff.mpr ⟨_, _, read, passes⟩)).2
  · have write := reaches fvb2WriteStatus (by decide)
    exact leaves (sound.2 _ _ _ write (fvbCheck_ok_iff.mpr ⟨_, _, write, passes⟩)).2.1

end MuRockchip.Fvb
