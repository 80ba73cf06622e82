/-
Commands and card initialization of the SD/MMC driver (`Protocol.c`).

A command is sent, answered and, for an R1 response, checked for card errors. A
failed command starts an error recovery whose own status is dropped; the status
of the command is what the caller sees. A data command additionally moves its
blocks, ends an open-ended transfer, and waits for the card to be ready again.
-/
import MuRockchip.SdMmc.Host

namespace MuRockchip.SdMmc

open MuRockchip.Base

/-! ### Calls -/

/-- Return the error a service answered with, if it is one. -/
def check (status : EfiStatus) : Sd Unit :=
  if failed : status.isError = true then .fail ⟨status, failed⟩ else pure ()

/-- End with this error. -/
def raise {α : Type} (status : EfiStatus) (failed : status.isError = true) : Sd α :=
  .fail ⟨status, failed⟩

/-- Call a service and return its error. -/
def callService (service : Service) : Sd Unit := do
  let status ← call (.service service)
  check status

/-- A part that is run under a condition. -/
def onlyIf (condition : Bool) (part : Sd Unit) : Sd Unit := if condition then part else pure ()

def instanceData : Sd SdhcInstance := call .instanceData

def modifyInstance (change : SdhcInstance → SdhcInstance) : Sd Unit :=
  call (.modifyInstance change)

def modifyCardInfo (change : CardInfo → CardInfo) : Sd Unit :=
  modifyInstance fun device => { device with cardInfo := change device.cardInfo }

def recoverFromErrors (cmd : SdCommand) : Sd Unit := call (.recoverFromErrors cmd)

/-- `RCA << 16`. -/
def rcaArgument : Sd UInt32 := do
  let device ← instanceData
  pure (device.cardInfo.rca <<< 16)

/-! ### Commands without data -/

/-- An application command is announced first. -/
def sendAppCmdPrefix (cmd : SdCommand) : Sd Unit :=
  if cmd.cls = .app then do
    let arg ← rcaArgument
    callService (.sendCommand cmdAppSd arg none)
  else pure ()

def checkCardStatus (cmd : SdCommand) : Sd Unit :=
  if cmd.responseType = .r1 ∨ cmd.responseType = .r1b then do
    let device ← instanceData
    if isCardStatusError device.cardInfo.cardFunction device.cmdResponse.word0 then
      raise EfiStatus.deviceError EfiStatus.isError_deviceError
    else pure ()
  else pure ()

def sdhcSendCommandHelper (cmd : SdCommand) (arg : UInt32) (xfrInfo : Option SdCommandXfrInfo) :
    Sd Unit := do
  sendAppCmdPrefix cmd
  callService (.sendCommand cmd arg xfrInfo)
  callService (.receiveResponse cmd)
  checkCardStatus cmd
  call (.rememberCommand cmd)

/-- Run a part of a command; on an error, recover from it and return it. -/
def recovering {α : Type} (cmd : SdCommand) (part : Sd α) : Sd α :=
  part.catching fun error => do
    recoverFromErrors cmd
    .fail error

/-- `SdhcSendCommand` of a command other than `SWITCH`. -/
def sdhcSendSimpleCommand (cmd : SdCommand) (arg : UInt32) : Sd Unit :=
  recovering cmd (sdhcSendCommandHelper cmd arg none)

/-- `SdhcSendStatus`: the card status. -/
def sdhcSendStatus : Sd UInt32 := do
  let arg ← rcaArgument
  sdhcSendSimpleCommand cmdSendStatus arg
  let device ← instanceData
  pure device.cmdResponse.word0

def sdmmcPollWaitCount : Nat := 200

/-- The condition that ends the polling loop. -/
def isTranAndReady (cardStatus : UInt32) : Bool :=
  readyForData cardStatus && currentState cardStatus = cardStateTran

/-- The polling loop, with `Retry` attempts left. An attempt count that reaches
zero is a time-out even if the last status was the awaited one. -/
def pollTranState : Nat → UInt32 → Sd Unit
  | 0, _ => raise EfiStatus.timeout EfiStatus.isError_timeout
  | retry + 1, cardStatus =>
    if isTranAndReady cardStatus then pure ()
    else do
      let next ← sdhcSendStatus
      pollTranState retry next

def sdhcWaitForTranStateAndReadyForData : Sd Unit := do
  let cardStatus ← sdhcSendStatus
  pollTranState sdmmcPollWaitCount cardStatus

/-- `SWITCH` can leave the card programming: wait until it is back. -/
def sdhcSendCommand (cmd : SdCommand) (arg : UInt32) : Sd Unit := do
  sdhcSendSimpleCommand cmd arg
  if cmd = cmdSwitchMmc ∨ cmd = cmdSwitchSd then sdhcWaitForTranStateAndReadyForData
  else pure ()

def sdhcStopTransmission : Sd Unit := do
  let arg ← rcaArgument
  sdhcSendSimpleCommand cmdStopTransmission arg

/-! ### Commands with data -/

def transferBlocks (cmd : SdCommand) (bufferByteSize : UInt32) (buffer : TransferBuffer) :
    Sd Unit :=
  if cmd.transferDirection = .read then callService (.readBlockData bufferByteSize buffer)
  else callService (.writeBlockData bufferByteSize buffer)

/-- `CmdsAreEqual`, whose assertion that there is a record is not compiled into a release. -/
def cmdsAreEqual (record : Option SdCommand) (cmd : SdCommand) : Sd Bool :=
  match record with
  | some recorded => pure (recorded = cmd)
  | none => call (.nullCmdEquals cmd)

def blockCountPreceded : Sd Bool := do
  let device ← instanceData
  if device.lastSuccessfulCmd = none then pure false
  else cmdsAreEqual device.preLastSuccessfulCmd cmdSetBlockCount

def endTransfer (cmd : SdCommand) : Sd Unit :=
  if cmd.isMultiBlock then do
    let preceded ← blockCountPreceded
    if preceded then pure () else sdhcStopTransmission
  else pure ()

def sdhcSendDataCommand (cmd : SdCommand) (arg : UInt32) (bufferByteSize : UInt32)
    (buffer : TransferBuffer) : Sd Unit :=
  recovering cmd do
    sdhcSendCommandHelper cmd arg
      (some ⟨sdBlockLengthBytes, bufferByteSize / sdBlockLengthBytes, buffer⟩)
    transferBlocks cmd bufferByteSize buffer
    endTransfer cmd
    sdhcWaitForTranStateAndReadyForData

/-! ### Identification -/

def sdhcGoIdleState : Sd Unit := sdhcSendCommand cmdGoIdleState 0

/-- The check pattern and supply voltage of `SEND_IF_COND`. -/
def sendIfCondArg : UInt32 := 0x1AA

def sdhcSendIfCondSd : Sd Unit := do
  sdhcSendCommand cmdSendIfCondSd sendIfCondArg
  let device ← instanceData
  if device.cmdResponse.word0 &&& 0xFFF ≠ sendIfCondArg then
    raise EfiStatus.unsupported EfiStatus.isError_unsupported
  else modifyCardInfo fun info => { info with hasExtendedOcr := true }

def sdhcSendOpCondSdio : Sd Unit := sdhcSendCommand cmdSendOpCondSdio 0

def sdOcrHighVoltageWindow : UInt32 := 0x00FF8000

/-- `PowerUp` of an OCR. -/
def ocrPowerUp (ocr : UInt32) : Bool := ocr >>> 31 ≠ 0

/-- The window and the sector access mode asked of an MMC. -/
def sendOpCondMmcArg : UInt32 := sdOcrHighVoltageWindow ||| 0x40000000

/-- The power-up loop of `SdhcSendOpCondMmc`, with `Retry` attempts left. -/
def sendOpCondMmcLoop : Nat → Sd Unit
  | 0 => raise EfiStatus.timeout EfiStatus.isError_timeout
  | retry + 1 => do
    sdhcSendCommand cmdSendOpCondMmc sendOpCondMmcArg
    let device ← instanceData
    let ocr := device.cmdResponse.word0
    modifyCardInfo fun info => { info with ocr := ocr }
    if ocrPowerUp ocr then do
      modifyCardInfo fun info => { info with highCapacity := (ocr >>> 29) &&& 3 = 2 }
      if ocr &&& sdOcrHighVoltageWindow ≠ sdOcrHighVoltageWindow then
        raise EfiStatus.unsupported EfiStatus.isError_unsupported
      else pure ()
    else sendOpCondMmcLoop retry

def sdhcSendOpCondMmc : Sd Unit := sendOpCondMmcLoop sdmmcPollWaitCount

/-- The power-up loop of `SdhcSendOpCondSd`, with `Retry` attempts left. -/
def sendOpCondSdLoop (arg : UInt32) : Nat → Sd Unit
  | 0 => raise EfiStatus.timeout EfiStatus.isError_timeout
  | retry + 1 => do
    sdhcSendCommand cmdAppSendOpCondSd arg
    let device ← instanceData
    let ocr := device.cmdResponse.word0
    if ocrPowerUp ocr then
      modifyCardInfo fun info =>
        if info.hasExtendedOcr then { info with highCapacity := (ocr >>> 30) &&& 1 = 1 } else info
    else sendOpCondSdLoop arg retry

/-- An argument of zero reads the OCR; its window is then asked for, with support
for high capacity. -/
def sdhcSendOpCondSd : Sd Unit := do
  sdhcSendCommand cmdAppSendOpCondSd 0
  let device ← instanceData
  let ocr := device.cmdResponse.word0
  modifyCardInfo fun info => { info with ocr := ocr }
  sendOpCondSdLoop ((ocr &&& 0xFFFFFF) ||| 0x40000000) sdmmcPollWaitCount

/-- Whether a command succeeds; its error is dropped. -/
def succeeds (part : Sd Unit) : Sd Bool :=
  Prog.catching (do part; pure true) fun _ => pure false

def setCardFunction (cardFunction : CardFunction) : Sd Unit :=
  modifyCardInfo fun info => { info with cardFunction := cardFunction }

/-- Is the card one of the kinds with an SD interface. -/
def CardFunction.isSdFamily (cardFunction : CardFunction) : Bool :=
  cardFunction = .sd || cardFunction = .sdio || cardFunction = .comboSdSdio

/-- The part of `SdhcQueryCardType` for a card without an SD interface. -/
def queryMmc : Sd Unit := do
  let device ← instanceData
  if device.cardInfo.cardFunction.isSdFamily then pure ()
  else do
    sdhcGoIdleState
    let answered ← succeeds sdhcSendOpCondMmc
    onlyIf answered (setCardFunction .mmc)

def sdhcQueryCardType : Sd Unit := do
  sdhcGoIdleState
  setCardFunction .unknown
  let isSd ← succeeds sdhcSendIfCondSd
  onlyIf isSd (setCardFunction .sd)
  let isSdio ← succeeds sdhcSendOpCondSdio
  onlyIf isSdio <| modifyCardInfo fun info =>
    { info with cardFunction := if info.cardFunction = .sd then .comboSdSdio else .sdio }
  queryMmc
  let device ← instanceData
  if device.cardInfo.cardFunction = .unknown then raise EfiStatus.noMedia EfiStatus.isError_noMedia
  else pure ()

/-! ### Registers -/

def sdhcSendCidAll : Sd Unit := sdhcSendCommand cmdSendCidAll 0

/-- An MMC is assigned its relative address, an SD card publishes it. -/
def sdhcSendRelativeAddr : Sd Unit := do
  let device ← instanceData
  if device.cardInfo.cardFunction = .mmc then do
    modifyCardInfo fun info => { info with rca := 0xCCCC }
    sdhcSendCommand cmdSendRelativeAddr ((0xCCCC : UInt32) <<< 16)
  else do
    sdhcSendCommand cmdSendRelativeAddr 0
    modifyInstance fun device =>
      { device with cardInfo := { device.cardInfo with rca := device.cmdResponse.word0 >>> 16 } }

def sdhcSendCid : Sd Unit := do
  let arg ← rcaArgument
  sdhcSendCommand cmdSendCid arg
  modifyInstance fun device =>
    let cid := device.cmdResponse
    if device.cardInfo.cardFunction = .sd then
      { device with cardInfo := { device.cardInfo with cid := cid } }
    else if device.cardInfo.cardFunction = .mmc then
      { device with
        cardInfo := { device.cardInfo with cid := cid }
        rpmbIo := { device.rpmbIo with cid := cid } }
    else device

/-- The capacity a CSD gives; that of a high-capacity MMC is in its EXT_CSD. -/
def CardInfo.capacityOfCsd (info : CardInfo) (csd : CmdResponse) : UInt64 :=
  if info.cardFunction = .sd then
    if csdStructure csd = 0 then csdByteCapacity csd else csd2ByteCapacity csd
  else if info.cardFunction = .mmc ∧ info.highCapacity = false then csdByteCapacity csd
  else 0

def lastBlockOfCapacity (byteCapacity : UInt64) : UInt64 :=
  let numBlocks := byteCapacity / sdBlockLengthBytes.toUInt64
  if numBlocks > 0 then numBlocks - 1 else 0

def sdhcSendCsd : Sd Unit := do
  let arg ← rcaArgument
  sdhcSendCommand cmdSendCsd arg
  modifyInstance fun device =>
    let csd := device.cmdResponse
    let byteCapacity := device.cardInfo.capacityOfCsd csd
    { device with
      cardInfo := { device.cardInfo with csd := csd, byteCapacity := byteCapacity }
      media := { device.media with
        blockSize := sdBlockLengthBytes
        lastBlock := lastBlockOfCapacity byteCapacity } }

def sdhcSelectDevice : Sd Unit := do
  let arg ← rcaArgument
  sdhcSendCommand cmdSelect arg

/-- What `SdhcSendExtCsdMmc` takes over from the EXT_CSD. -/
def SdhcInstance.takeExtCsd (device : SdhcInstance) : SdhcInstance :=
  let extCsd := MmcExtCsd.ofBlock device.blockBuffer
  { device with
    cardInfo := { device.cardInfo with
      extCsd := extCsd
      byteCapacity := extCsd.sectorCount.toUInt64 * 512 }
    media := { device.media with lastBlock := (extCsd.sectorCount - 1).toUInt64 }
    rpmbIo := { device.rpmbIo with
      reliableSectorCount := extCsd.reliableWriteSectorCount.toUInt32
      rpmbSizeMult := extCsd.rpmbSizeMult.toUInt32 } }

def sdhcSendExtCsdMmc : Sd Unit := do
  let arg ← rcaArgument
  sdhcSendDataCommand cmdSendExtCsdMmc arg sdBlockLengthBytes .blockBuffer
  modifyInstance SdhcInstance.takeExtCsd

/-! ### Bus width and speed -/

def sdhcSwitchBusWidthSd : Sd Unit := do
  sdhcSendCommand cmdAppSetBusWidthSd 2
  callService (.setBusWidth .bits4)

/-- The argument that writes the power class, as the driver spells it. -/
def powerClassArg (powerClass : UInt8) : UInt32 := powerClass.toUInt32 <<< 8 ||| 0x03BB0000

def CardInfo.powerClass8Bit (info : CardInfo) : UInt8 :=
  if info.currentSpeedMode = .highSpeed then info.extCsd.powerClass52Mhz36V >>> 4
  else info.extCsd.powerClass26Mhz36V >>> 4

/-- Raise the power class where the bus width needs more than the card allows now. -/
def switchPowerClass : Sd Unit := do
  let device ← instanceData
  let powerClass := device.cardInfo.powerClass8Bit
  if powerClass > device.cardInfo.extCsd.powerClass then do
    sdhcSendCommand cmdSwitchMmc (powerClassArg powerClass)
    sdhcSendExtCsdMmc
    let device ← instanceData
    if device.cardInfo.extCsd.powerClass ≠ powerClass then
      raise EfiStatus.protocolError EfiStatus.isError_protocolError
    else pure ()
  else pure ()

/-- The target width is always eight bits. -/
def sdhcSwitchBusWidthMmc : Sd Unit := do
  sdhcSendExtCsdMmc
  switchPowerClass
  sdhcSendCommand cmdSwitchMmc (writeByteArg indexBusWidth 2)
  callService (.setBusWidth .bits8)

def sdhcSwitchSpeedModeMmc : Sd Unit := do
  sdhcSendCommand cmdSwitchMmc (writeByteArg indexHsTiming 1)
  modifyCardInfo fun info => { info with currentSpeedMode := .highSpeed }
  sdhcSendExtCsdMmc
  let device ← instanceData
  if device.cardInfo.extCsd.highSpeedTiming = 0 then
    raise EfiStatus.protocolError EfiStatus.isError_protocolError
  else pure ()

/-- `TransferRateBitPerSecond`, for the rate units there are. -/
def transferRate (unit : Nat) : Option UInt32 :=
  [100000, 1000000, 10000000, 100000000][unit]?

/-- Ten times the `TimeValue` of a speed code; code zero is reserved. -/
def timeValue (cardFunction : CardFunction) (code : Nat) : Option UInt32 :=
  let isSd := cardFunction = .sd
  [none, some 10, some 12, some 13, some 15, some 20, some (if isSd then 25 else 26), some 30,
    some 35, some 40, some 45, some (if isSd then 50 else 52), some 55, some 60, some 70,
    some 80].getD code none

/-- `CalculateCardMaxFreq`. -/
def CardInfo.maxFreq (info : CardInfo) : Option UInt32 :=
  let tranSpeed := csdTranSpeed info.csd
  (transferRate (tranSpeed % 8)).bind fun rate =>
    (timeValue info.cardFunction (tranSpeed / 8 % 16)).map fun value => rate * value / 10

def mmcHighSpeedModeClockFreqHz : UInt32 := 52000000

def CardInfo.targetFreq (info : CardInfo) : Option UInt32 :=
  if info.cardFunction = .sd ∨ info.currentSpeedMode = .normalSpeed then info.maxFreq
  else if info.currentSpeedMode = .highSpeed then some mmcHighSpeedModeClockFreqHz
  else some 0

def setClockOrFail (freq : Option UInt32) : Sd Unit :=
  if freq.isSome then callService (.setClock (freq.getD 0))
  else raise EfiStatus.invalidParameter EfiStatus.isError_invalidParameter

def sdhcSetMaxClockFrequency : Sd Unit := do
  let device ← instanceData
  setClockOrFail device.cardInfo.targetFreq

def sdhcSetBlockLength (blockByteLength : UInt32) : Sd Unit :=
  sdhcSendCommand cmdSetBlockLength blockByteLength

/-! ### Initialization -/

def initializeSdDevice : Sd Unit := do
  sdhcSendOpCondSd
  sdhcSendCidAll
  sdhcSendRelativeAddr
  sdhcSendCid
  sdhcSendCsd
  sdhcSelectDevice
  sdhcSwitchBusWidthSd
  sdhcSetMaxClockFrequency

def checkSpecVers : Sd Unit := do
  let device ← instanceData
  if csdSpecVers device.cardInfo.csd < mmcMinSupportedSpecVers then
    raise EfiStatus.unsupported EfiStatus.isError_unsupported
  else pure ()

def initializeMmcDevice : Sd Unit := do
  sdhcSendCidAll
  sdhcSendRelativeAddr
  sdhcSendCid
  sdhcSendCsd
  checkSpecVers
  sdhcSelectDevice
  sdhcSendExtCsdMmc
  sdhcSwitchSpeedModeMmc
  sdhcSwitchBusWidthMmc
  sdhcSetMaxClockFrequency

def sdIdentModeClockFreqHz : UInt32 := 400000

/-- The card kinds with an initialization sequence. -/
def initializeByFunction : Sd Unit := do
  let device ← instanceData
  if device.cardInfo.cardFunction = .sd then initializeSdDevice
  else if device.cardInfo.cardFunction = .mmc then initializeMmcDevice
  else raise EfiStatus.unsupported EfiStatus.isError_unsupported

def initializeDevice : Sd Unit := do
  modifyCardInfo fun _ => { CardInfo.zero with currentSpeedMode := .normalSpeed }
  callService (.softwareReset .all)
  callService (.setClock sdIdentModeClockFreqHz)
  sdhcQueryCardType
  initializeByFunction
  sdhcSetBlockLength sdBlockLengthBytes
  modifyInstance fun device =>
    { device with
      media := { device.media with
        mediaId := cidProductSerialNumber device.cardInfo.cardFunction device.cardInfo.cid }
      slotInitialized := true }

/-! ### Partitions and block counts -/

def setBlockCountArg (blockCount : UInt32) (reliableWrite : Bool) : UInt32 :=
  if reliableWrite then blockCount ||| 0x80000000 else blockCount

def sdhcSetBlockCount (blockCount : UInt32) (reliableWrite : Bool) : Sd Unit :=
  sdhcSendCommand cmdSetBlockCount (setBlockCountArg blockCount reliableWrite)

/-- The SWITCH is written from the EXT_CSD last read, and the EXT_CSD is read
again to see whether the card did switch. -/
def sdhcSwitchPartitionMmc (partition : PartitionAccess) : Sd Unit := do
  let device ← instanceData
  let config := withAccess device.cardInfo.extCsd.partitionConfig partition
  sdhcSendCommand cmdSwitchMmc (writeByteArg indexPartitionConfig config)
  sdhcSendExtCsdMmc
  let device ← instanceData
  if partitionAccess device.cardInfo.extCsd.partitionConfig ≠ partition then
    raise EfiStatus.deviceError EfiStatus.isError_deviceError
  else call (.recordPartition partition)

end MuRockchip.SdMmc
