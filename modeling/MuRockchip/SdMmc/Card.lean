/-
Registers of SD and MMC cards (`SdMmcHw.h`, `SdMmc.h`).

The card status is the 32-bit word of an R1 response, the EXT_CSD the 512-byte
register block of an MMC, whose byte 179 selects the partition that data commands
reach. A card is modelled by that byte: `SWITCH` writes it, a reset to the idle
state clears its partition bits, and every other command leaves it alone.

* `partitionAccess_withAccess`: the partition bits written are those read back.
* `execute_of_otherCommand`: only two commands select a partition.
-/
import MuRockchip.SdMmc.Commands
import MuRockchip.Base.Bytes

namespace MuRockchip.SdMmc

open MuRockchip.Base

/-! ### Card status -/

inductive CardFunction where
  | unknown
  | sd
  | sdio
  | comboSdSdio
  | mmc
  deriving DecidableEq, Repr

def mmcCardStatusErrorMask : UInt32 := 0xFDFFA080

def sdCardStatusErrorMask : UInt32 := 0xFDF9A008

/-- The error bits of a card kind. -/
def CardFunction.errorMask : CardFunction → UInt32
  | .sd => sdCardStatusErrorMask
  | .mmc => mmcCardStatusErrorMask
  | _ => 0

/-- `IsCardStatusError`. The masked word is returned as a `BOOLEAN`, an 8-bit
integer, so only its low byte is seen. -/
def isCardStatusError (cardFunction : CardFunction) (cardStatus : UInt32) : Bool :=
  (cardStatus &&& cardFunction.errorMask).toUInt8 ≠ 0

def currentState (cardStatus : UInt32) : UInt32 := (cardStatus >>> 9) &&& 0xF

def readyForData (cardStatus : UInt32) : Bool := cardStatus &&& 0x100 ≠ 0

def cardStateTran : UInt32 := 4

/-! ### Long registers -/

/-- The four words of a response. -/
abbrev CmdResponse : Type := Vector UInt32 4

/-- The first word of a response, which is the card status in an R1. -/
def CmdResponse.word0 (response : CmdResponse) : UInt32 := response[0]

/-- The `width` bits from bit `low` of a response read as one 128-bit register. -/
def CmdResponse.field (response : CmdResponse) (low width : Nat) : Nat :=
  response.toList.foldr (fun word upper => word.toNat + 2 ^ 32 * upper) 0 / 2 ^ low % 2 ^ width

/-- `PSN` of `SD_CID` and `MMC_CID`. -/
def cidProductSerialNumber (cardFunction : CardFunction) (cid : CmdResponse) : UInt32 :=
  UInt32.ofNat (cid.field (if cardFunction = .sd then 16 else 8) 32)

/-- The capacity `SdhcSendCsd` computes from a `SD_CSD` or `MMC_CSD`. -/
def csdByteCapacity (csd : CmdResponse) : UInt64 :=
  let deviceSize := UInt32.ofNat (csd.field 54 12)
  let mult : UInt32 := 1 <<< UInt32.ofNat (csd.field 39 3 + 2)
  let maxBlockLen : UInt32 := 1 <<< UInt32.ofNat (csd.field 72 4)
  ((deviceSize + 1) * mult * maxBlockLen).toUInt64

/-- The capacity `SdhcSendCsd` computes from a `SD_CSD_2`. -/
def csd2ByteCapacity (csd : CmdResponse) : UInt64 :=
  UInt64.ofNat (csd.field 40 22 + 1) * 512 * 1024

def csdStructure (csd : CmdResponse) : Nat := csd.field 118 2

/-- `SPEC_VERS`. -/
def csdSpecVers (csd : CmdResponse) : Nat := csd.field 114 4

/-- `TRAN_SPEED`. -/
def csdTranSpeed (csd : CmdResponse) : Nat := csd.field 88 8

def mmcMinSupportedSpecVers : Nat := 4

/-! ### EXT_CSD -/

/-- `MMC_EXT_CSD`, the fields the driver reads. -/
structure MmcExtCsd where
  rpmbSizeMult : UInt8
  partitionConfig : UInt8
  highSpeedTiming : UInt8
  powerClass : UInt8
  powerClass52Mhz36V : UInt8
  powerClass26Mhz36V : UInt8
  sectorCount : UInt32
  reliableWriteSectorCount : UInt8
  deriving DecidableEq, Repr

/-- What `ZeroMem` leaves. -/
def MmcExtCsd.zero : MmcExtCsd := ⟨0, 0, 0, 0, 0, 0, 0, 0⟩

/-- `MmcExtCsdBitIndexPartitionConfig`. -/
def indexPartitionConfig : UInt8 := 179

/-- `MmcExtCsdBitIndexBusWidth`. -/
def indexBusWidth : UInt8 := 183

/-- `MmcExtCsdBitIndexHsTiming`. -/
def indexHsTiming : UInt8 := 185

def MmcExtCsd.ofBlock (block : List UInt8) : MmcExtCsd where
  rpmbSizeMult := block.getD 168 0
  partitionConfig := block.getD indexPartitionConfig.toNat 0
  highSpeedTiming := block.getD indexHsTiming.toNat 0
  powerClass := block.getD 187 0
  powerClass52Mhz36V := block.getD 202 0
  powerClass26Mhz36V := block.getD 203 0
  sectorCount := UInt32.ofNat (leValue ((block.drop 212).take 4))
  reliableWriteSectorCount := block.getD 222 0

/-- `MMC_EXT_CSD_PARTITION_ACCESS`. -/
inductive PartitionAccess where
  | userArea
  | bootPartition1
  | bootPartition2
  | rpmb
  | gpp1
  | gpp2
  | gpp3
  | gpp4
  deriving DecidableEq, Repr

def PartitionAccess.toUInt8 : PartitionAccess → UInt8
  | .userArea => 0
  | .bootPartition1 => 1
  | .bootPartition2 => 2
  | .rpmb => 3
  | .gpp1 => 4
  | .gpp2 => 5
  | .gpp3 => 6
  | .gpp4 => 7

/-- `PARTITION_ACCESS` of a partition configuration byte. -/
def partitionAccess (config : UInt8) : PartitionAccess :=
  let bits := config.toNat % 8
  if bits = 0 then .userArea
  else if bits = 1 then .bootPartition1
  else if bits = 2 then .bootPartition2
  else if bits = 3 then .rpmb
  else if bits = 4 then .gpp1
  else if bits = 5 then .gpp2
  else if bits = 6 then .gpp3
  else .gpp4

/-- Assign `PARTITION_ACCESS`, keeping the other fields. -/
def withAccess (config : UInt8) (access : PartitionAccess) : UInt8 :=
  UInt8.ofNat (config.toNat / 8 * 8) + access.toUInt8

@[simp]
theorem partitionAccess_withAccess (config : UInt8) (access : PartitionAccess) :
    partitionAccess (withAccess config access) = access := by
  have below := config.toNat_lt
  have bits : (withAccess config access).toNat % 8 = access.toUInt8.toNat := by
    have small : access.toUInt8.toNat < 8 := by cases access <;> decide
    simp only [withAccess, UInt8.toNat_add, UInt8.toNat_ofNat']
    omega
  unfold partitionAccess
  rw [bits]
  cases access <;> rfl

/-! ### The `SWITCH` command -/

structure MmcSwitchCmdArg where
  access : UInt8
  index : UInt8
  value : UInt8
  deriving DecidableEq, Repr

/-- `MmcSwitchCmdAccessTypeWriteByte`. -/
def accessTypeWriteByte : UInt8 := 3

def MmcSwitchCmdArg.asUint32 (arg : MmcSwitchCmdArg) : UInt32 :=
  UInt32.ofNat
    (2 ^ 24 * (arg.access.toNat % 4) + 2 ^ 16 * arg.index.toNat + 2 ^ 8 * arg.value.toNat)

def MmcSwitchCmdArg.ofUint32 (arg : UInt32) : MmcSwitchCmdArg where
  access := UInt8.ofNat (arg.toNat / 2 ^ 24 % 4)
  index := UInt8.ofNat (arg.toNat / 2 ^ 16)
  value := UInt8.ofNat (arg.toNat / 2 ^ 8)

/-- The argument that writes a byte of the EXT_CSD. -/
def writeByteArg (index value : UInt8) : UInt32 :=
  MmcSwitchCmdArg.asUint32 ⟨accessTypeWriteByte, index, value⟩

@[simp]
theorem ofUint32_writeByteArg (index value : UInt8) :
    MmcSwitchCmdArg.ofUint32 (writeByteArg index value) = ⟨accessTypeWriteByte, index, value⟩ := by
  have indexBound := index.toNat_lt
  have valueBound := value.toNat_lt
  have word : (writeByteArg index value).toNat =
      2 ^ 24 * 3 + 2 ^ 16 * index.toNat + 2 ^ 8 * value.toNat := by
    have access : accessTypeWriteByte.toNat = 3 := rfl
    simp only [writeByteArg, MmcSwitchCmdArg.asUint32, access, UInt32.toNat_ofNat']
    omega
  simp only [MmcSwitchCmdArg.ofUint32, word]
  congr 1
  · apply UInt8.toNat_inj.mp
    have access : accessTypeWriteByte.toNat = 3 := rfl
    rw [access, UInt8.toNat_ofNat']
    omega
  · apply UInt8.toNat_inj.mp
    rw [UInt8.toNat_ofNat']
    omega
  · apply UInt8.toNat_inj.mp
    rw [UInt8.toNat_ofNat']
    omega

/-! ### The card -/

/-- The card, as far as the driver's partition bookkeeping depends on it: byte
179 of its EXT_CSD. -/
structure Card where
  partitionConfig : UInt8
  deriving DecidableEq, Repr

def Card.access (card : Card) : PartitionAccess := partitionAccess card.partitionConfig

def isPartitionSwitch (cmd : SdCommand) (arg : UInt32) : Bool :=
  cmd = cmdSwitchMmc && (MmcSwitchCmdArg.ofUint32 arg).access = accessTypeWriteByte &&
    (MmcSwitchCmdArg.ofUint32 arg).index = indexPartitionConfig

def Card.execute (card : Card) (cmd : SdCommand) (arg : UInt32) : Card :=
  if cmd = cmdGoIdleState then ⟨withAccess card.partitionConfig .userArea⟩
  else if isPartitionSwitch cmd arg then ⟨(MmcSwitchCmdArg.ofUint32 arg).value⟩
  else card

theorem execute_of_otherCommand {cmd : SdCommand} {arg : UInt32} (card : Card)
    (noReset : cmd ≠ cmdGoIdleState) (noSwitch : isPartitionSwitch cmd arg = false) :
    card.execute cmd arg = card := by
  simp [Card.execute, noReset, noSwitch]

/-- Without a `SWITCH`, a card gets nowhere but to its user area. -/
theorem execute_access {cmd : SdCommand} {arg : UInt32} {card : Card}
    (noSwitch : isPartitionSwitch cmd arg = false) :
    (card.execute cmd arg).access = .userArea ∨ (card.execute cmd arg).access = card.access := by
  unfold Card.execute
  split
  · simp [Card.access]
  · simp [noSwitch]

/-- The block a card sends when its EXT_CSD is read: the register's own partition
configuration, whatever the other bytes hold. -/
def Card.extCsdBlock (card : Card) (block : List UInt8) : List UInt8 :=
  block.set indexPartitionConfig.toNat card.partitionConfig

theorem extCsdBlock_partitionConfig (card : Card) {block : List UInt8} (full : 512 ≤ block.length) :
    (MmcExtCsd.ofBlock (card.extCsdBlock block)).partitionConfig = card.partitionConfig := by
  have inside : indexPartitionConfig.toNat < block.length := by
    have : indexPartitionConfig.toNat = 179 := rfl
    omega
  simp [MmcExtCsd.ofBlock, Card.extCsdBlock, inside]

end MuRockchip.SdMmc
