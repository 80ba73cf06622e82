/-
The variable volume (`VarBlockService.c`).

The variables live in a firmware volume in memory: a header, with a map of the
volume's blocks, and the variable data. The block protocol reads, writes and
erases it block by block; its instance remembers where the volume is, how many
blocks it has, and whether it was changed since it was last saved.
-/
import MuRockchip.Base.Memory
import MuRockchip.Uefi.Status

namespace MuRockchip.Fvb

open MuRockchip.Base

/-! ### The volume header -/

/-- A field of `EFI_FIRMWARE_VOLUME_HEADER`. -/
def headerField (memory : Memory) (base : UInt64) (offset width : Nat) : Nat :=
  leValue (memory.read (base + UInt64.ofNat offset) width)

def headerFvLength (memory : Memory) (base : UInt64) : UInt64 :=
  UInt64.ofNat (headerField memory base 32 8)

def headerSignature (memory : Memory) (base : UInt64) : UInt32 :=
  UInt32.ofNat (headerField memory base 40 4)

def attributesOffset : UInt64 := 44

def headerAttributes (memory : Memory) (base : UInt64) : UInt32 :=
  UInt32.ofNat (headerField memory base 44 4)

def headerLength (memory : Memory) (base : UInt64) : Nat := headerField memory base 48 2

def headerRevision (memory : Memory) (base : UInt64) : Nat := headerField memory base 55 1

/-- `EFI_FV_BLOCK_MAP_ENTRY`. -/
structure BlockMapEntry where
  numBlocks : UInt32
  length : UInt32
  deriving DecidableEq, Repr

/-- `offsetof (EFI_FIRMWARE_VOLUME_HEADER, BlockMap)`. -/
def blockMapOffset : Nat := 56

/-- `BlockMap[index]`. -/
def blockMapEntry (memory : Memory) (base : UInt64) (index : Nat) : BlockMapEntry where
  numBlocks := UInt32.ofNat (headerField memory base (blockMapOffset + 8 * index) 4)
  length := UInt32.ofNat (headerField memory base (blockMapOffset + 8 * index + 4) 4)

/-! ### Attributes -/

/-- `EFI_FVB_ATTRIBUTES_2`. -/
abbrev FvbAttributes2 := UInt32

def fvb2ReadDisabledCap : FvbAttributes2 := 0x1
def fvb2ReadEnabledCap : FvbAttributes2 := 0x2
def fvb2ReadStatus : FvbAttributes2 := 0x4
def fvb2WriteDisabledCap : FvbAttributes2 := 0x8
def fvb2WriteEnabledCap : FvbAttributes2 := 0x10
def fvb2WriteStatus : FvbAttributes2 := 0x20
def fvb2LockCap : FvbAttributes2 := 0x40
def fvb2LockStatus : FvbAttributes2 := 0x80
def fvb2StickyWrite : FvbAttributes2 := 0x200
def fvb2MemoryMapped : FvbAttributes2 := 0x400
def fvb2ErasePolarity : FvbAttributes2 := 0x800
def fvb2ReadLockCap : FvbAttributes2 := 0x1000
def fvb2WriteLockCap : FvbAttributes2 := 0x4000
def fvb2Alignment : FvbAttributes2 := 0x1F0000

/-- `EFI_FVB2_STATUS`. -/
def fvb2Status : FvbAttributes2 := fvb2ReadStatus ||| fvb2WriteStatus ||| fvb2LockStatus

/-- The attributes that cannot be set. -/
def unchangedAttributes : FvbAttributes2 :=
  fvb2ReadDisabledCap ||| fvb2ReadEnabledCap ||| fvb2WriteDisabledCap ||| fvb2WriteEnabledCap |||
    fvb2LockCap ||| fvb2StickyWrite ||| fvb2MemoryMapped ||| fvb2ErasePolarity |||
    fvb2ReadLockCap ||| fvb2WriteLockCap ||| fvb2Alignment

/-! ### The instance -/

/-- `EFI_FW_VOL_INSTANCE`. The base and the header pointer are one word, the members
of a union; a device path is null at address zero. -/
structure FwVolInstance where
  fvBase : UInt64
  fvLength : UInt64
  offset : UInt64
  numOfBlocks : UInt64
  device : UInt64
  mediaId : UInt32
  dirty : Bool
  deriving DecidableEq, Repr

/-- The instance, and the memory its volume is in. -/
structure FwVolume where
  fvInstance : FwVolInstance
  memory : Memory

namespace FwVolume

def base (volume : FwVolume) : UInt64 := volume.fvInstance.fvBase

def attributes (volume : FwVolume) : FvbAttributes2 := headerAttributes volume.memory volume.base

def varStoreWrite (volume : FwVolume) (address numBytes buffer : UInt64) : FwVolume where
  fvInstance := { volume.fvInstance with dirty := true }
  memory := volume.memory.copy address buffer numBytes

def varStoreErase (volume : FwVolume) (address lbaLength : UInt64) : FwVolume where
  fvInstance := { volume.fvInstance with dirty := true }
  memory := volume.memory.fill address lbaLength 0xFF

end FwVolume

/-! ### Blocks -/

/-- A logical block: its address, its length, and the number of blocks of this length
from it on. -/
structure LbaBlock where
  address : UInt64
  length : UInt64
  numOfBlocks : UInt64
  deriving DecidableEq, Repr

/-- The loop of `FvbGetLbaAddress` from entry `index` on, which is left undefined after
`fuel` entries. The bytes of an entry are multiplied in 32 bits. -/
def lbaSearch (memory : Memory) (base lba : UInt64) :
    Nat → Nat → UInt64 → UInt64 → Option (Except EfiStatus LbaBlock)
  | 0, _, _, _ => none
  | fuel + 1, index, startLba, offset =>
    let entry := blockMapEntry memory base index
    if entry.numBlocks = 0 ∨ entry.length = 0 then some (.error EfiStatus.invalidParameter)
    else
      let nextLba := startLba + entry.numBlocks.toUInt64
      if startLba ≤ lba ∧ lba < nextLba then
        some (.ok
          { address := base + (offset + (lba - startLba) * entry.length.toUInt64)
            length := entry.length.toUInt64
            numOfBlocks := nextLba - lba })
      else
        lbaSearch memory base lba fuel (index + 1) nextLba
          (offset + (entry.numBlocks * entry.length).toUInt64)

/-- The entries a walk of the map is followed for: 32 GiB of them, more than the
platform has memory. -/
def mapWalkLimit : Nat := 2 ^ 32

def fvbGetLbaAddress (memory : Memory) (base lba : UInt64) : Option (Except EfiStatus LbaBlock) :=
  lbaSearch memory base lba mapWalkLimit 0 0 0

/-- The loop of `FvbInitialize` that counts the blocks, from entry `index` on. -/
def countBlocks (memory : Memory) (base : UInt64) : Nat → Nat → UInt64 → Option UInt64
  | 0, _, _ => none
  | fuel + 1, index, numOfBlocks =>
    let entry := blockMapEntry memory base index
    if entry.numBlocks = 0 then some numOfBlocks
    else countBlocks memory base fuel (index + 1) (numOfBlocks + entry.numBlocks.toUInt64)

/-! ### Reading and writing -/

/-- The arguments of `FvbProtocolRead` and `FvbProtocolWrite`. A null `NumBytes` is
`none`, a null buffer has address zero. -/
structure FvbRequest where
  lba : UInt64
  offset : UInt64
  numBytes : Option UInt64
  buffer : UInt64
  deriving DecidableEq, Repr

/-- The bytes of the volume that a request is for, and the status it will return. -/
structure FvbTransfer where
  address : UInt64
  numBytes : UInt64
  status : EfiStatus
  deriving DecidableEq, Repr

def boundaryCheck (block : LbaBlock) (offset numBytes : UInt64) : Except EfiStatus FvbTransfer :=
  if offset > block.length then .error EfiStatus.invalidParameter
  else if block.length < numBytes + offset then
    .ok ⟨block.address + offset, (block.length - offset).toUInt32.toUInt64, EfiStatus.badBufferSize⟩
  else .ok ⟨block.address + offset, numBytes, EfiStatus.success⟩

/-- What reads and writes check alike, against the status bit that permits them. -/
def fvbCheck (enabled : FvbAttributes2) (volume : FwVolume) (request : FvbRequest) :
    Option (Except EfiStatus FvbTransfer) :=
  match request.numBytes with
  | none => some (.error EfiStatus.invalidParameter)
  | some numBytes =>
    if request.buffer = 0 then some (.error EfiStatus.invalidParameter)
    else if numBytes = 0 then some (.error EfiStatus.invalidParameter)
    else
      (fvbGetLbaAddress volume.memory volume.base request.lba).map fun located =>
        located.bind fun block =>
          if volume.attributes &&& enabled = 0 then .error EfiStatus.accessDenied
          else boundaryCheck block request.offset numBytes

/-- What a call returns: its status, `*NumBytes`, and the volume. -/
structure FvbOutcome where
  status : EfiStatus
  numBytes : Option UInt64
  volume : FwVolume

def fvbProtocolWrite (volume : FwVolume) (request : FvbRequest) : Option FvbOutcome :=
  (fvbCheck fvb2WriteStatus volume request).map fun checked =>
    match checked with
    | .error status => ⟨status, request.numBytes, volume⟩
    | .ok transfer =>
      ⟨transfer.status, some transfer.numBytes,
        volume.varStoreWrite transfer.address transfer.numBytes request.buffer⟩

def fvbProtocolRead (volume : FwVolume) (request : FvbRequest) : Option FvbOutcome :=
  (fvbCheck fvb2ReadStatus volume request).map fun checked =>
    match checked with
    | .error status => ⟨status, request.numBytes, volume⟩
    | .ok transfer =>
      ⟨transfer.status, some transfer.numBytes,
        { volume with
          memory := volume.memory.copy request.buffer transfer.address transfer.numBytes }⟩

/-! ### Erasing -/

/-- A pair of the argument list of `FvbProtocolEraseBlocks`. -/
structure LbaRange where
  startingLba : UInt64
  numOfLba : UInt64
  deriving DecidableEq, Repr

/-- `EFI_LBA_LIST_TERMINATOR`. -/
def lbaListTerminator : UInt64 := 0xFFFFFFFFFFFFFFFF

/-- The first pass over the arguments. The sum wraps. -/
def eraseListAccepted (numOfBlocks : UInt64) : List LbaRange → Bool
  | [] => true
  | range :: rest =>
    if range.startingLba = lbaListTerminator then true
    else if range.numOfLba = 0 ∨ range.startingLba + range.numOfLba > numOfBlocks then false
    else eraseListAccepted numOfBlocks rest

def fvbEraseBlock (volume : FwVolume) (lba : UInt64) : Option (EfiStatus × FwVolume) :=
  if volume.attributes &&& fvb2WriteStatus = 0 then some (EfiStatus.accessDenied, volume)
  else
    (fvbGetLbaAddress volume.memory volume.base lba).map fun located =>
      match located with
      | .error status => (status, volume)
      | .ok block => (EfiStatus.success, volume.varStoreErase block.address block.length)

/-- Erase `count` blocks from `lba` on, up to the first that cannot be erased. -/
def eraseRange : Nat → UInt64 → FwVolume → Option (EfiStatus × FwVolume)
  | 0, _, volume => some (EfiStatus.success, volume)
  | count + 1, lba, volume =>
    (fvbEraseBlock volume lba).bind fun erased =>
      if erased.1.isError then some erased else eraseRange count (lba + 1) erased.2

/-- The second pass over the arguments. -/
def eraseList : List LbaRange → FwVolume → Option (EfiStatus × FwVolume)
  | [], volume => some (EfiStatus.success, volume)
  | range :: rest, volume =>
    if range.startingLba = lbaListTerminator then some (EfiStatus.success, volume)
    else
      (eraseRange range.numOfLba.toNat range.startingLba volume).bind fun erased =>
        if erased.1.isError then some erased else eraseList rest erased.2

def fvbProtocolEraseBlocks (volume : FwVolume) (ranges : List LbaRange) :
    Option (EfiStatus × FwVolume) :=
  if eraseListAccepted volume.fvInstance.numOfBlocks ranges then eraseList ranges volume
  else some (EfiStatus.invalidParameter, volume)

/-! ### Setting attributes -/

/-- The status bits asked for are ones the volume allows. -/
def statusPermitted (capabilities status : FvbAttributes2) : Bool :=
  (capabilities &&& fvb2ReadDisabledCap ≠ 0 || status &&& fvb2ReadStatus ≠ 0) &&
    (capabilities &&& fvb2ReadEnabledCap ≠ 0 || status &&& fvb2ReadStatus = 0) &&
    (capabilities &&& fvb2WriteDisabledCap ≠ 0 || status &&& fvb2WriteStatus ≠ 0) &&
    (capabilities &&& fvb2WriteEnabledCap ≠ 0 || status &&& fvb2WriteStatus = 0) &&
    (capabilities &&& fvb2LockCap ≠ 0 || status &&& fvb2LockStatus = 0)

/-- What `FvbSetVolumeAttributes` checks of the old attributes and the new ones. -/
def attributesCheck (old wanted : FvbAttributes2) : Except EfiStatus FvbAttributes2 :=
  if (old &&& unchangedAttributes) ^^^ (wanted &&& unchangedAttributes) ≠ 0 then
    .error EfiStatus.invalidParameter
  else if old &&& fvb2LockStatus ≠ 0 ∧ (old &&& fvb2Status) ^^^ (wanted &&& fvb2Status) ≠ 0 then
    .error EfiStatus.accessDenied
  else if statusPermitted old (wanted &&& fvb2Status) then
    .ok ((old &&& ~~~fvb2Status) ||| (wanted &&& fvb2Status))
  else .error EfiStatus.invalidParameter

/-- `FvbSetVolumeAttributes`: the attributes are stored in the header, in memory. -/
def fvbSetVolumeAttributes (volume : FwVolume) (wanted : FvbAttributes2) :
    EfiStatus × FvbAttributes2 × FwVolume :=
  match attributesCheck volume.attributes wanted with
  | .error status => (status, wanted, volume)
  | .ok attributes =>
    (EfiStatus.success, attributes,
      { volume with
        memory := volume.memory.write (volume.base + attributesOffset)
          (leBytes 4 attributes.toNat) })

/-! ### Start-up -/

/-- `EFI_FVH_REVISION`. -/
def fvhRevision : Nat := 2

/-- `EFI_FVH_SIGNATURE`, the characters `_FVH`. -/
def fvhSignature : UInt32 := 0x4856465F

/-- `CalculateSum16`: the sum of the 16-bit words. -/
def calculateSum16 (memory : Memory) (base : UInt64) (length : Nat) : UInt16 :=
  UInt16.ofNat
    ((List.range (length / 2)).foldl
      (fun sum index => sum + headerField memory base (2 * index) 2) 0)

def validateFvHeader (memory : Memory) (base : UInt64) : EfiStatus :=
  if headerRevision memory base ≠ fvhRevision ∨ headerSignature memory base ≠ fvhSignature ∨
      headerFvLength memory base = 0xFFFFFFFFFFFFFFFF ∨ headerLength memory base % 2 ≠ 0 then
    EfiStatus.notFound
  else if calculateSum16 memory base (headerLength memory base) ≠ 0 then EfiStatus.notFound
  else EfiStatus.success

/-- The platform settings start-up reads. -/
structure FvbPcds where
  nvStorageVariableBase : UInt32
  flashNvStorageVariableSize : UInt32
  flashNvStorageFtwWorkingSize : UInt32
  flashNvStorageFtwSpareSize : UInt32
  nvStorageEventLogSize : UInt32
  fdStorageOffset : UInt32
  firmwareBlockSize : UInt32
  deriving DecidableEq, Repr

namespace FvbPcds

def base (pcds : FvbPcds) : UInt64 := pcds.nvStorageVariableBase.toUInt64

def volumeLength (pcds : FvbPcds) : UInt32 :=
  pcds.flashNvStorageVariableSize + pcds.flashNvStorageFtwWorkingSize +
    pcds.flashNvStorageFtwSpareSize + pcds.nvStorageEventLogSize

def length (pcds : FvbPcds) : UInt64 := pcds.volumeLength.toUInt64

/-- The instance start-up begins with. -/
def newInstance (pcds : FvbPcds) : FwVolInstance where
  fvBase := pcds.base
  fvLength := pcds.length
  offset := pcds.base + pcds.fdStorageOffset.toUInt64
  numOfBlocks := 0
  device := 0
  mediaId := 0
  dirty := false

end FvbPcds

/-- The volume found at start-up is taken over. -/
def volumeAccepted (pcds : FvbPcds) (memory : Memory) : Bool :=
  validateFvHeader memory pcds.base = EfiStatus.success &&
    headerFvLength memory pcds.base = pcds.length &&
    (blockMapEntry memory pcds.base 0).length = pcds.firmwareBlockSize

/-! ### The default header -/

/-- `EFI_SYSTEM_NV_DATA_FV_GUID`. -/
def systemNvDataFvGuid : List UInt8 :=
  [0x8D, 0x2B, 0xF1, 0xFF, 0x96, 0x76, 0x8B, 0x4C, 0xA9, 0x85, 0x27, 0x47, 0x07, 0x5B, 0x4F, 0x50]

/-- The attributes of the default header; its alignment is `EFI_FVB2_ALIGNMENT_16`. -/
def defaultAttributes : FvbAttributes2 :=
  fvb2MemoryMapped ||| fvb2ReadEnabledCap ||| fvb2ReadStatus ||| fvb2WriteEnabledCap |||
    fvb2WriteStatus ||| fvb2ErasePolarity ||| 0x40000

def headerImage (fvLength : UInt64) (attributes : FvbAttributes2) (checksum : UInt16)
    (blockMap : List BlockMapEntry) : List UInt8 :=
  List.replicate 16 0 ++ systemNvDataFvGuid ++ leBytes 8 fvLength.toNat ++
    leBytes 4 fvhSignature.toNat ++ leBytes 4 attributes.toNat ++
    leBytes 2 (blockMapOffset + 8 * blockMap.length) ++ leBytes 2 checksum.toNat ++ [0, 0, 0, 2] ++
    blockMap.flatMap fun entry => leBytes 4 entry.numBlocks.toNat ++ leBytes 4 entry.length.toNat

/-- The header of `mPlatformFvbMediaInfo` with this checksum. -/
def defaultHeader (pcds : FvbPcds) (checksum : UInt16) : List UInt8 :=
  headerImage pcds.length defaultAttributes checksum
    [⟨pcds.volumeLength / pcds.firmwareBlockSize, pcds.firmwareBlockSize⟩, ⟨0, 0⟩]

/-- The size of the default header: two entries of the block map. -/
def defaultHeaderLength : Nat := 72

/-- `CalculateCheckSum16` of the header without one. -/
def defaultChecksum (pcds : FvbPcds) : UInt16 :=
  0 - calculateSum16 (Memory.write (fun _ => 0) 0 (defaultHeader pcds 0)) 0 defaultHeaderLength

/-- The header `GetFvbInfo` provides. -/
def getFvbInfo (pcds : FvbPcds) : List UInt8 := defaultHeader pcds (defaultChecksum pcds)

/-- The volume after start-up has checked it, or erased it and written a new header. -/
def openVolume (pcds : FvbPcds) (memory : Memory) : FwVolume :=
  if volumeAccepted pcds memory then ⟨pcds.newInstance, memory⟩
  else
    { fvInstance := { pcds.newInstance with dirty := true }
      memory := (memory.fill pcds.base pcds.length 0xFF).write pcds.base (getFvbInfo pcds) }

/-- `FvbInitialize`, as far as the volume. -/
def fvbInitialize (pcds : FvbPcds) (memory : Memory) : Option FwVolume :=
  let volume := openVolume pcds memory
  (countBlocks volume.memory pcds.base mapWalkLimit 0 0).map fun numOfBlocks =>
    { volume with fvInstance := { volume.fvInstance with numOfBlocks := numOfBlocks } }

/-! ### The shipped volume -/

/-- The settings of `Rk356xPkg.fdf`. -/
def rk356xPcds : FvbPcds where
  nvStorageVariableBase := 0xAE0000
  flashNvStorageVariableSize := 0xE000
  flashNvStorageFtwWorkingSize := 0x1000
  flashNvStorageFtwSpareSize := 0x10000
  nvStorageEventLogSize := 0x1000
  fdStorageOffset := 0x100000
  firmwareBlockSize := 0x1000

def rk356xVolume (attributes : FvbAttributes2) (checksum : UInt16) (blockMap : List BlockMapEntry) :
    Memory :=
  Memory.write (fun _ => 0xFF) rk356xPcds.base
    (headerImage rk356xPcds.length attributes checksum blockMap)

/-- The volume of `Rk356xPkg.fdf` after start-up. -/
def shippedVolume : FwVolume where
  fvInstance := { rk356xPcds.newInstance with numOfBlocks := 32 }
  memory := rk356xVolume 0x4FEFF 0xF919 [⟨0x20, 0x1000⟩, ⟨0, 0⟩]

/-- The volume header of `Rk356xPkg.fdf` is accepted. -/
example : (fvbInitialize rk356xPcds shippedVolume.memory).map (·.fvInstance) =
    some shippedVolume.fvInstance := by decide

end MuRockchip.Fvb
