/-
The host controller and the driver's instance data (`Sdhc.h`, `SDHC_INSTANCE`).

The driver acts through the callbacks of `EFI_SDHC_PROTOCOL`, a few boot services
and its own instance data. These are the operations of the interface `sdmmc`; an
environment answers them, one reply for each call, in any way at all. Whether
the card executed a command and what the host reports about it are independent:
a command can reach the card and still fail.

Every command, response and data transfer is logged, as is every assignment to
the driver's records of the last successful command and of the current partition.
-/
import MuRockchip.Base.Memory
import MuRockchip.Base.Prog
import MuRockchip.SdMmc.BlockIo
import MuRockchip.SdMmc.Card

namespace MuRockchip.SdMmc

open MuRockchip.Base

/-! ### Instance data -/

inductive CardSpeedMode where
  | undefined
  | normalSpeed
  | highSpeed
  deriving DecidableEq, Repr

/-- `CARD_INFO`. The registers of the two card kinds are a union; the fields here
are those of the kind in use. -/
structure CardInfo where
  rca : UInt32
  cardFunction : CardFunction
  hasExtendedOcr : Bool
  highCapacity : Bool
  byteCapacity : UInt64
  currentSpeedMode : CardSpeedMode
  ocr : UInt32
  cid : CmdResponse
  csd : CmdResponse
  extCsd : MmcExtCsd
  deriving DecidableEq, Repr

def CmdResponse.zero : CmdResponse := Vector.replicate 4 0

/-- What `ZeroMem` leaves. -/
def CardInfo.zero : CardInfo where
  rca := 0
  cardFunction := .unknown
  hasExtendedOcr := false
  highCapacity := false
  byteCapacity := 0
  currentSpeedMode := .undefined
  ocr := 0
  cid := CmdResponse.zero
  csd := CmdResponse.zero
  extCsd := MmcExtCsd.zero

/-- `EFI_RPMB_IO_PROTOCOL`, its data members. -/
structure RpmbIoInfo where
  cid : CmdResponse
  reliableSectorCount : UInt32
  rpmbSizeMult : UInt32
  deriving DecidableEq, Repr

/-- The protocols the driver installs on its handle. -/
inductive InstalledProtocol where
  | blockIo
  | devicePath
  | rpmbIo
  deriving DecidableEq, Repr

structure SdhcInstance where
  slotInitialized : Bool
  media : BlockIoMedia
  rpmbIo : RpmbIoInfo
  blockIoProtocolInstalled : Bool
  devicePathProtocolInstalled : Bool
  rpmbIoProtocolInstalled : Bool
  currentMmcPartition : PartitionAccess
  cardInfo : CardInfo
  blockBuffer : List UInt8
  cmdResponse : CmdResponse
  preLastSuccessfulCmd : Option SdCommand
  lastSuccessfulCmd : Option SdCommand
  errorRecoveryAttemptCount : UInt32
  deriving DecidableEq, Repr

/-- The flag that says whether a protocol is installed. -/
def SdhcInstance.installed (device : SdhcInstance) : InstalledProtocol → Bool
  | .blockIo => device.blockIoProtocolInstalled
  | .devicePath => device.devicePathProtocolInstalled
  | .rpmbIo => device.rpmbIoProtocolInstalled

def SdhcInstance.setInstalled (device : SdhcInstance) (installed : Bool) :
    InstalledProtocol → SdhcInstance
  | .blockIo => { device with blockIoProtocolInstalled := installed }
  | .devicePath => { device with devicePathProtocolInstalled := installed }
  | .rpmbIo => { device with rpmbIoProtocolInstalled := installed }

/-- The record of the last two successful commands. -/
def SdhcInstance.remember (device : SdhcInstance) (cmd : SdCommand) : SdhcInstance :=
  { device with
    preLastSuccessfulCmd := device.lastSuccessfulCmd
    lastSuccessfulCmd := some cmd }

/-- `gSdhcMediaTemplate`. -/
def sdhcMediaTemplate : BlockIoMedia where
  mediaId := 0
  mediaPresent := false
  readOnly := false
  blockSize := sdBlockLengthBytes
  ioAlign := 4
  lastBlock := 0

/-- The instance data `CreateSdhcInstance` starts from: zero, but for the media. -/
def createSdhcInstance : SdhcInstance where
  slotInitialized := false
  media := sdhcMediaTemplate
  rpmbIo := ⟨CmdResponse.zero, 0, 0⟩
  blockIoProtocolInstalled := false
  devicePathProtocolInstalled := false
  rpmbIoProtocolInstalled := false
  currentMmcPartition := .userArea
  cardInfo := CardInfo.zero
  blockBuffer := List.replicate 512 0
  cmdResponse := CmdResponse.zero
  preLastSuccessfulCmd := none
  lastSuccessfulCmd := none
  errorRecoveryAttemptCount := 0

/-! ### Data buffers -/

/-- The result-read frame of RPMB: zero except for its request type. -/
def resultRequest : List UInt8 := List.replicate 511 0 ++ [5]

/-- Where a data command's bytes come from or go to. -/
inductive TransferBuffer where
  | client (address : UInt64)
  | blockBuffer
  | resultRequest
  deriving DecidableEq, Repr

structure SdCommandXfrInfo where
  blockSize : UInt32
  blockCount : UInt32
  buffer : TransferBuffer
  deriving DecidableEq, Repr

/-! ### Operations -/

inductive SdhcResetType where
  | all
  | cmd
  | data
  deriving DecidableEq, Repr

inductive SdBusWidth where
  | bits4
  | bits8
  deriving DecidableEq, Repr

/-- The services that answer with a status: the host's callbacks and boot services. -/
inductive Service where
  | sendCommand (cmd : SdCommand) (arg : UInt32) (xfrInfo : Option SdCommandXfrInfo)
  | receiveResponse (cmd : SdCommand)
  | readBlockData (lengthInBytes : UInt32) (buffer : TransferBuffer)
  | writeBlockData (lengthInBytes : UInt32) (buffer : TransferBuffer)
  | softwareReset (resetType : SdhcResetType)
  | setClock (targetFreqHz : UInt32)
  | setBusWidth (busWidth : SdBusWidth)
  | installProtocol (protocol : InstalledProtocol)
  | uninstallProtocol (protocol : InstalledProtocol)
  | locateRpmbIo
  deriving DecidableEq, Repr

/-- What the driver calls: services, queries, its own instance data, memory, and its own error
recovery. A comparison through a null record is a query too: what address zero holds is not the
driver's. -/
inductive SdmmcOp where
  | service (service : Service)
  | isCardPresent
  | isReadOnly
  | convertDevicePathToText
  | nullCmdEquals (cmd : SdCommand)
  | instanceData
  | modifyInstance (change : SdhcInstance → SdhcInstance)
  | rememberCommand (cmd : SdCommand)
  | recordPartition (partition : PartitionAccess)
  | readMemory (address : UInt64) (length : Nat)
  | recoverFromErrors (cmd : SdCommand)

/-- What each operation answers. -/
abbrev SdmmcOp.Answer : SdmmcOp → Type
  | .service _ => EfiStatus
  | .isCardPresent => Bool
  | .isReadOnly => Bool
  | .convertDevicePathToText => Bool
  | .nullCmdEquals _ => Bool
  | .instanceData => SdhcInstance
  | .modifyInstance _ => Unit
  | .rememberCommand _ => Unit
  | .recordPartition _ => Unit
  | .readMemory _ _ => List UInt8
  | .recoverFromErrors _ => Unit

/-- The interface the driver is written against. -/
abbrev sdmmc : Interface := ⟨SdmmcOp, SdmmcOp.Answer⟩

/-- A driver function: it returns `EFI_SUCCESS` with a value, or an error. -/
abbrev Sd (α : Type) : Type := Prog sdmmc ErrorStatus α

/-- Call one operation. -/
def call (op : SdmmcOp) : Sd op.Answer := @Prog.invoke sdmmc ErrorStatus op

/-! ### The surroundings -/

/-- The reply to one call. Each call reads the parts it needs. -/
structure HostReply where
  status : EfiStatus
  executed : Bool
  response : CmdResponse
  data : Nat → UInt8
  flag : Bool

def HostReply.answering (cardStatus : UInt32) : HostReply where
  status := EfiStatus.success
  executed := true
  response := #v[cardStatus, 0, 0, 0]
  data _ := 0
  flag := true

def HostReply.failing : HostReply where
  status := EfiStatus.deviceError
  executed := false
  response := CmdResponse.zero
  data _ := 0
  flag := true

/-- The replies to all calls, by the number of the call. -/
abbrev Environment : Type := Nat → HostReply

/-- A logged event. A command and a record carry the card as it then was; a command
is accepted when it is recorded as the last successful one. -/
inductive Event where
  | command (cmd : SdCommand) (arg : UInt32) (xfrInfo : Option SdCommandXfrInfo)
      (status : EfiStatus) (executed : Bool) (card : Card)
  | response (cmd : SdCommand) (status : EfiStatus) (words : CmdResponse)
  | read (status : EfiStatus) (bytes : List UInt8)
  | written (status : EfiStatus) (bytes : List UInt8)
  | accepted (cmd : SdCommand)
  | recorded (partition : PartitionAccess) (card : Card)
  deriving DecidableEq, Repr

/-- The driver, the protocols on its handle, the card, memory, and what has
happened between them. -/
structure World where
  device : SdhcInstance
  installed : InstalledProtocol → Bool
  card : Card
  memory : Memory
  lastSent : Option SdCommand
  calls : Nat
  log : List Event

/-- A new instance, before its first call. -/
def World.start (card : Card) : World where
  device := createSdhcInstance
  installed _ := false
  card := card
  memory _ := 0
  lastSent := none
  calls := 0
  log := []

namespace World

/-- A call was made and logged. -/
def called (world : World) (events : List Event) : World :=
  { world with calls := world.calls + 1, log := world.log ++ events }

def bufferBytes (world : World) (buffer : TransferBuffer) (length : Nat) : List UInt8 :=
  match buffer with
  | .client address => world.memory.read address length
  | .blockBuffer => world.device.blockBuffer
  | .resultRequest => resultRequest

/-- Store data that the card sent. -/
def storeBuffer (world : World) (buffer : TransferBuffer) (bytes : List UInt8) : World :=
  match buffer with
  | .client address => { world with memory := world.memory.write address bytes }
  | .blockBuffer => { world with device := { world.device with blockBuffer := bytes } }
  | .resultRequest => world

/-- The data of a read: the EXT_CSD if the last command asked for it. -/
def dataBlock (world : World) (reply : HostReply) (length : Nat) : List UInt8 :=
  let block := (List.range length).map reply.data
  if world.lastSent = some cmdSendExtCsdMmc then world.card.extCsdBlock block else block

end World

/-- The protocols on the handle after a service that adds or removes one. -/
def installedAfter (installed : InstalledProtocol → Bool) (status : EfiStatus)
    (protocol : InstalledProtocol) (present : Bool) : InstalledProtocol → Bool :=
  fun other => if other = protocol ∧ status.isError = false then present else installed other

def cardAfter (card : Card) (executed : Bool) (cmd : SdCommand) (arg : UInt32) : Card :=
  if executed then card.execute cmd arg else card

/-- The effect of a service that is answered with `reply`. -/
def serviceEffect (reply : HostReply) (world : World) : Service → World
  | .sendCommand cmd arg xfrInfo =>
    { world.called [.command cmd arg xfrInfo reply.status reply.executed world.card] with
      card := cardAfter world.card reply.executed cmd arg
      lastSent := some cmd }
  | .receiveResponse cmd =>
    { world.called [.response cmd reply.status reply.response] with
      device := { world.device with cmdResponse := reply.response } }
  | .readBlockData lengthInBytes buffer =>
    let bytes := world.dataBlock reply lengthInBytes.toNat
    (world.called [.read reply.status bytes]).storeBuffer buffer bytes
  | .writeBlockData lengthInBytes buffer =>
    world.called [.written reply.status (world.bufferBytes buffer lengthInBytes.toNat)]
  | .installProtocol protocol =>
    { world.called [] with installed := installedAfter world.installed reply.status protocol true }
  | .uninstallProtocol protocol =>
    { world.called [] with installed := installedAfter world.installed reply.status protocol false }
  | _ => world.called []

/-- The effect of every operation but error recovery, which answers at once here. -/
def hostEffect (env : Environment) (op : SdmmcOp) (world : World) : op.Answer × World :=
  match op with
  | .service service =>
    ((env world.calls).status, serviceEffect (env world.calls) world service)
  | .isCardPresent => ((env world.calls).flag, world.called [])
  | .isReadOnly => ((env world.calls).flag, world.called [])
  | .convertDevicePathToText => ((env world.calls).flag, world.called [])
  | .nullCmdEquals _ => ((env world.calls).flag, world.called [])
  | .instanceData => (world.device, world)
  | .modifyInstance change => ((), { world with device := change world.device })
  | .rememberCommand cmd =>
    ((), { world with
      device := world.device.remember cmd
      log := world.log ++ [.accepted cmd] })
  | .recordPartition partition =>
    ((), { world with
      device := { world.device with currentMmcPartition := partition }
      log := world.log ++ [.recorded partition world.card] })
  | .readMemory address length => (world.memory.read address length, world)
  | .recoverFromErrors _ => ((), world)

end MuRockchip.SdMmc
