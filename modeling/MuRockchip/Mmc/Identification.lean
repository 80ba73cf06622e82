/-
Card identification of the RK3399 MMC driver (`MmcIdentification.c`).

The driver finds out what card is in a slot by the commands it answers, gives it an address
or asks it for its own, reads its size out of its registers and brings it to the transfer
state. The host controller and the card behind it answer every call as they like.

A failed call ends the identification with the instance as it is by then. The two loops that
wait for an eMMC device to leave a state have no bound of their own; they get one here, and
`Halt.polling` says that it has been reached.
-/
import MuRockchip.Base.Prog
import MuRockchip.Uefi.Status

namespace MuRockchip.Mmc

open Base

/-! ### The host -/

/-- The commands of the identification. -/
inductive CardCommand
  | cmd0
  | cmd1
  | cmd2
  | cmd3
  | cmd5
  | cmd6
  | cmd7
  | cmd8
  | cmd9
  | cmd13
  | cmd16
  | cmd23
  | cmd55
  | acmd41
  | acmd51
  deriving DecidableEq, Repr

/-- `MMC_RESPONSE_TYPE_*`. -/
inductive ResponseType
  | r1
  | r2
  | r7
  | ocr
  | cid
  | csd
  | rca
  deriving DecidableEq, Repr

/-- The words of a response; a short one has only the first. -/
structure Response where
  word0 : UInt32
  word1 : UInt32
  word2 : UInt32
  word3 : UInt32
  deriving DecidableEq, Repr

/-- `EMMCBACKWARD`, `EMMCHS26` and so on. -/
inductive TimingMode
  | backward
  | hs26
  | hs52
  | hs52Ddr1V8
  | hs52Ddr1V2
  deriving DecidableEq, Repr

/-- `MMC_STATE`, the states that the identification announces. -/
inductive CardState
  | hwInitialization
  | idle
  | ready
  | identification
  | standBy
  | transfer
  deriving DecidableEq, Repr

/-- The calls of `EFI_MMC_HOST_PROTOCOL`. -/
inductive HostOp
  | sendCommand (cmd : CardCommand) (argument : UInt32)
  | receiveResponse (type : ResponseType)
  | readBlockData (lba length : UInt64)
  | setIos (busClockFreq busWidth : UInt32) (mode : TimingMode)
  | notifyState (state : CardState)
  | isReadOnly
  deriving DecidableEq, Repr

def HostInterface : Interface where
  Op := HostOp
  Ret
    | .sendCommand _ _ => EfiStatus
    | .receiveResponse _ => EfiStatus × Response
    | .readBlockData _ _ => EfiStatus × (Nat → UInt8)
    | .setIos _ _ _ => EfiStatus
    | .notifyState _ => EfiStatus
    | .isReadOnly => Bool

/-! ### The instance -/

/-- `CARD_TYPE`, those that are used. -/
inductive CardType
  | unknown
  | mmc
  | emmc
  | sd
  | sd2
  | sd2High
  deriving DecidableEq, Repr

/-- `CARD_INFO`: of the `CID` only the serial number, which lies past the four words of a
response, and of the `ECSD` only what is read again. -/
structure CardInfo where
  rca : UInt16
  cardType : CardType
  ocrData : UInt32
  psn : UInt32
  csdData : Response
  deviceType : UInt8
  sectorCount : UInt32

/-- `EFI_BLOCK_IO_MEDIA`. -/
structure Media where
  mediaId : UInt32
  mediaPresent : Bool
  readOnly : Bool
  blockSize : UInt32
  ioAlign : UInt32
  lastBlock : UInt64
  logicalBlocksPerPhysicalBlock : UInt32

/-- `MMC_HOST_INSTANCE`, whether its host has a `SetIos`, and `mEmmcRcaCount`. -/
structure MmcDevice where
  state : CardState
  cardInfo : CardInfo
  media : Media
  hasSetIos : Bool
  emmcRcaCount : UInt32

/-- Why the identification has ended: with a status, or in a loop that is still waiting. -/
inductive Halt
  | status (status : EfiStatus) (device : MmcDevice)
  | polling (device : MmcDevice)

abbrev Ident := Prog HostInterface Halt

/-! ### Calls -/

/-- `if (EFI_ERROR (Status)) return Status`. -/
def orReturn (device : MmcDevice) (status : EfiStatus) : Ident Unit :=
  if status.isError then .fail (.status status device) else pure ()

/-- `if (condition) { steps }`. -/
def onlyIf (condition : Prop) [Decidable condition] (steps : Ident Unit) : Ident Unit :=
  if condition then steps else pure ()

def sendCommand (cmd : CardCommand) (argument : UInt32) : Ident EfiStatus :=
  @Prog.invoke HostInterface Halt (HostOp.sendCommand cmd argument)

/-- A command whose failure ends the identification. -/
def command (device : MmcDevice) (cmd : CardCommand) (argument : UInt32) : Ident Unit := do
  let status ← sendCommand cmd argument
  orReturn device status

def receiveResponse (type : ResponseType) : Ident (EfiStatus × Response) :=
  @Prog.invoke HostInterface Halt (HostOp.receiveResponse type)

/-- A response whose failure ends the identification. -/
def response (device : MmcDevice) (type : ResponseType) : Ident Response := do
  let (status, words) ← receiveResponse type
  orReturn device status
  pure words

def readBlockData (device : MmcDevice) (lba length : UInt64) : Ident (Nat → UInt8) := do
  let (status, bytes) ← @Prog.invoke HostInterface Halt (HostOp.readBlockData lba length)
  orReturn device status
  pure bytes

def setIos (busClockFreq busWidth : UInt32) (mode : TimingMode) : Ident EfiStatus :=
  @Prog.invoke HostInterface Halt (HostOp.setIos busClockFreq busWidth mode)

def notifyState (state : CardState) : Ident EfiStatus :=
  @Prog.invoke HostInterface Halt (HostOp.notifyState state)

def isReadOnly : Ident Bool :=
  @Prog.invoke HostInterface Halt HostOp.isReadOnly

def mmcNotifyState (device : MmcDevice) (state : CardState) : Ident MmcDevice := do
  let device := { device with state := state }
  let status ← notifyState state
  orReturn device status
  pure device

/-! ### eMMC devices -/

def rcaShiftOffset : UInt32 := 16
def emmcSwitchError : UInt32 := (1 : UInt32) <<< 7

def extcsdBusWidth : UInt32 := 183
def extcsdHsTiming : UInt32 := 185
def emmcTimingHs : UInt32 := 1
def emmcBusWidth1Bit : UInt32 := 0
def emmcBusWidthDdr8Bit : UInt32 := 6

def emmcDataState : UInt32 := 5
def emmcPrgState : UInt32 := 7

/-- `CardInfo.RCA << RCA_SHIFT_OFFSET`. -/
def MmcDevice.rcaArgument (device : MmcDevice) : UInt32 :=
  device.cardInfo.rca.toUInt32 <<< rcaShiftOffset

def emmcGetDeviceState (device : MmcDevice) : Ident UInt32 := do
  command device .cmd13 device.rcaArgument
  let words ← response device .r1
  if words.word0 &&& emmcSwitchError ≠ 0 then .fail (.status EfiStatus.deviceError device)
  else pure ((words.word0 >>> 9) &&& 0xf)

/-- `do { EmmcGetDeviceState } while (State == left)`. -/
def waitWhile (device : MmcDevice) (left : UInt32) : Nat → Ident Unit
  | 0 => .fail (.polling device)
  | fuel + 1 => do
    let state ← emmcGetDeviceState device
    if state = left then waitWhile device left fuel else pure ()

/-- The argument of the command that writes a byte of the extended CSD. -/
def switchArgument (extCmdIndex value : UInt32) : UInt32 :=
  ((3 : UInt32) <<< 24) ||| ((extCmdIndex &&& 0xFF) <<< 16) ||| ((value &&& 0xFF) <<< 8) ||| 1

def emmcSetEXTCSD (fuel : Nat) (device : MmcDevice) (extCmdIndex value : UInt32) :
    Ident Unit := do
  command device .cmd6 (switchArgument extCmdIndex value)
  waitWhile device emmcPrgState fuel

/-- Two bits of `CSD`: `PERM_WRITE_PROTECT`. -/
def Response.permWriteProtect (csd : Response) : Bool := csd.word0 &&& 0x2000 ≠ 0

/-- A word of a little-endian structure. -/
def wordAt (bytes : Nat → UInt8) (offset : Nat) : UInt32 :=
  (bytes offset).toUInt32 ||| ((bytes (offset + 1)).toUInt32 <<< 8) |||
    ((bytes (offset + 2)).toUInt32 <<< 16) ||| ((bytes (offset + 3)).toUInt32 <<< 24)

namespace MmcDevice

/-- The next relative address. -/
def assignRca (device : MmcDevice) : MmcDevice :=
  let count := device.emmcRcaCount + 1
  { device with
    emmcRcaCount := count
    cardInfo := { device.cardInfo with rca := count.toUInt16 } }

def setCsd (device : MmcDevice) (csd : Response) : MmcDevice :=
  { device with cardInfo := { device.cardInfo with csdData := csd } }

def setEcsd (device : MmcDevice) (ecsd : Nat → UInt8) : MmcDevice :=
  { device with
    cardInfo := { device.cardInfo with deviceType := ecsd 196, sectorCount := wordAt ecsd 212 } }

def setEmmcMedia (device : MmcDevice) : MmcDevice :=
  { device with
    media := { device.media with
      blockSize := 512
      mediaId := device.cardInfo.psn
      readOnly := device.cardInfo.csdData.permWriteProtect
      logicalBlocksPerPhysicalBlock := 1
      ioAlign := 4
      lastBlock := (device.cardInfo.sectorCount - 1).toUInt64 }
    cardInfo := { device.cardInfo with cardType := .emmc } }

end MmcDevice

/-- The steps of `EmmcIdentificationMode` once the card is selected. -/
def emmcFetch (fuel : Nat) (device : MmcDevice) : Ident MmcDevice := do
  onlyIf (device.hasSetIos = true) do
    let status ← setIos 0 1 .backward
    orReturn device status
    emmcSetEXTCSD fuel device extcsdBusWidth emmcBusWidth1Bit
  -- a command that fails is only reported
  let _ ← sendCommand .cmd8 device.rcaArgument
  let ecsd ← readBlockData device 0 512
  let device := device.setEcsd ecsd
  waitWhile device emmcDataState fuel
  pure device.setEmmcMedia

def emmcIdentificationMode (fuel : Nat) (device : MmcDevice) : Ident MmcDevice := do
  command device .cmd2 0
  let _ ← response device .r2
  let device := device.assignRca
  command device .cmd3 device.rcaArgument
  command device .cmd9 device.rcaArgument
  let csd ← response device .r2
  let device := device.setCsd csd
  -- a card that does not let itself be selected is only reported
  let _ ← sendCommand .cmd7 device.rcaArgument
  emmcFetch fuel device

/-- `EMMCBACKWARD`, as `DEVICE_TYPE` has it. -/
def emmcBackward : UInt8 := 0

/-- The modes that are tried, with their clocks. -/
def timingModes : List (UInt32 × TimingMode) :=
  [(52000000, .hs52Ddr1V2), (52000000, .hs52Ddr1V8), (52000000, .hs52), (26000000, .hs26)]

/-- The first mode that the host can be set to is set in the device too. -/
def tryModes (fuel : Nat) (device : MmcDevice) :
    EfiStatus → List (UInt32 × TimingMode) → Ident Unit
  | last, [] => orReturn device last
  | _, (busClockFreq, mode) :: rest => do
    let status ← setIos busClockFreq 8 mode
    if status.isError then tryModes fuel device status rest
    else emmcSetEXTCSD fuel device extcsdBusWidth emmcBusWidthDdr8Bit

def initializeEmmcDevice (fuel : Nat) (device : MmcDevice) : Ident Unit :=
  if device.cardInfo.deviceType = emmcBackward then pure ()
  else if device.hasSetIos = false then pure ()
  else do
    emmcSetEXTCSD fuel device extcsdHsTiming emmcTimingHs
    tryModes fuel device EfiStatus.success timingModes

/-! ### SD and MMC cards -/

def mmcStatusAppCmd : UInt32 := (1 : UInt32) <<< 5
def sdCccSwitch : UInt32 := (1 : UInt32) <<< 10
def sdBusWidth4Bit : UInt8 := (1 : UInt8) <<< 2

namespace Response

/-- `MMC_CSD_GET_CCC`. -/
def ccc (csd : Response) : UInt32 := csd.word2 >>> 20

/-- `MMC_CSD_GET_READBLLEN`. -/
def readBlLen (csd : Response) : UInt32 := (csd.word2 >>> 16) &&& 0xF

/-- `MMC_CSD_GET_DEVICESIZE`. -/
def deviceSize (csd : Response) : UInt32 :=
  let low : UInt32 := (csd.word1 >>> 30) &&& 0x3
  let high : UInt32 := csd.word2 &&& 0x3FF
  low ||| (high <<< 2)

/-- `HC_MMC_CSD_GET_DEVICESIZE`. -/
def hcDeviceSize (csd : Response) : UInt32 :=
  let high : UInt32 := csd.word2 &&& 0x40
  (csd.word1 >>> 16) ||| (high <<< 16)

/-- `MMC_CSD_GET_DEVICESIZEMULT`. -/
def deviceSizeMult (csd : Response) : UInt32 := (csd.word1 >>> 15) &&& 0x7

end Response

def cardBlocks (cardType : CardType) (csd : Response) : UInt64 × UInt64 :=
  let blockSize := (1 : UInt64) <<< csd.readBlLen.toUInt64
  if cardType = .sd2High then ((csd.hcDeviceSize.toUInt64 + 1) * 1024, blockSize)
  else
    ((csd.deviceSize.toUInt64 + 1) * ((1 : UInt64) <<< (csd.deviceSizeMult.toUInt64 + 2)),
      blockSize)

/-- For cards of 2 GB and more the blocks are cut into blocks of 512 bytes. -/
def mediaBlocks (cardType : CardType) (csd : Response) : UInt64 × UInt64 :=
  let (numBlocks, blockSize) := cardBlocks cardType csd
  if blockSize > 512 then (numBlocks * (blockSize / 512), 512) else (numBlocks, blockSize)

/-- The argument of the switch to the high-speed mode. -/
def switchFunction : UInt32 := (((1 : UInt32) <<< 31 ||| 0x00FFFFFF) &&& ~~~0xF) ||| 1

/-- The steps of `InitializeSdMmcDevice` from the SCR on. -/
def initializeBus (device : MmcDevice) (csd : Response) : Ident MmcDevice := do
  command device .acmd51 0
  let scr ← readBlockData device 0 8
  onlyIf (csd.ccc &&& sdCccSwitch ≠ 0) do
    command device .cmd6 switchFunction
    let _ ← readBlockData device 0 64
    pure ()
  onlyIf (scr 1 &&& 0xF &&& sdBusWidth4Bit ≠ 0) do
    command device .cmd55 device.rcaArgument
    -- width: 4
    command device .cmd6 2
  onlyIf (device.hasSetIos = true) do
    let status ← setIos (26 * 1000 * 1000) 4 .backward
    orReturn device status
  pure device

def MmcDevice.setMedia (device : MmcDevice) (numBlocks blockSize : UInt64) (readOnly : Bool) :
    MmcDevice :=
  { device with
    media := { device.media with
      lastBlock := numBlocks - 1
      blockSize := blockSize.toUInt32
      readOnly := readOnly
      mediaPresent := true
      mediaId := device.media.mediaId + 1 } }

def initializeSdMmcDevice (device : MmcDevice) : Ident MmcDevice := do
  command device .cmd9 device.rcaArgument
  let csd ← response device .csd
  let blocks := mediaBlocks device.cardInfo.cardType csd
  let readOnly ← isReadOnly
  let device := device.setMedia blocks.1 blocks.2 readOnly
  command device .cmd7 device.rcaArgument
  command device .cmd55 device.rcaArgument
  let status ← response device .r1
  if status.word0 &&& mmcStatusAppCmd = 0 then pure device
  else initializeBus device csd

/-! ### The identification -/

def maxRetryCount : Nat := 1000
def emmcCmd1CapacityGreaterThan2GB : UInt32 := 0x40FF8080
def emmcCmd1CapacityLessThan2GB : UInt32 := 0x00FF8080

def ocrPowerUp : UInt32 := 0x80000000
/-- `AccessMode`, bits 30 and 29. -/
def ocrAccessMode : UInt32 := 0x60000000
def bit30 : UInt32 := 0x40000000

/-- One turn of the loop that asks for the OCR with `MMC_CMD1`: the status it leaves, and the
OCR, if there is one. -/
def askEmmcOnce (device : MmcDevice) : Ident (EfiStatus × UInt32) := do
  let status ← sendCommand .cmd1 emmcCmd1CapacityGreaterThan2GB
  if status.isError then pure (status, 0)
  else do
    let (status, words) ← receiveResponse .ocr
    orReturn device status
    pure (status, words.word0)

/-- The loop, with the turns that are left after the first. -/
def askEmmc (device : MmcDevice) : Nat → Ident (EfiStatus × UInt32)
  | 0 => askEmmcOnce device
  | retries + 1 => do
    let (status, ocr) ← askEmmcOnce device
    if status.isError ∨ ocr &&& ocrPowerUp ≠ 0 then pure (status, ocr)
    else askEmmc device retries

namespace MmcDevice

def setOcr (device : MmcDevice) (ocr : UInt32) : MmcDevice :=
  { device with cardInfo := { device.cardInfo with ocrData := ocr } }

def setCardType (device : MmcDevice) (cardType : CardType) : MmcDevice :=
  { device with cardInfo := { device.cardInfo with cardType := cardType } }

def setRca (device : MmcDevice) (rca : UInt16) : MmcDevice :=
  { device with cardInfo := { device.cardInfo with rca := rca } }

def setAccessMode (device : MmcDevice) (accessMode : UInt32) : MmcDevice :=
  device.setOcr ((device.cardInfo.ocrData &&& ~~~ocrAccessMode) ||| accessMode)

end MmcDevice

/-- Ask for the OCR: whether the card has answered. -/
def askOcr (device : MmcDevice) (cmd : CardCommand) (argument : UInt32) :
    Ident (Bool × MmcDevice) := do
  let status ← sendCommand cmd argument
  if status.isError then pure (false, device)
  else do
    let words ← response device .ocr
    pure (true, device.setOcr words.word0)

/-- One turn of the loop that waits for an SD or MMC card to be ready. -/
def askCard (device : MmcDevice) (isHCS : Bool) : Ident (Bool × MmcDevice) := do
  let status ← sendCommand .cmd55 0
  if status = EfiStatus.success then do
    let device := device.setCardType (if isHCS then .sd2 else .sd)
    let ocr := device.cardInfo.ocrData
    askOcr device .acmd41 (if isHCS then ocr ||| bit30 else ocr)
  else do
    let device := device.setCardType .mmc
    askOcr device .cmd1 0x800000

/-- The loop, with the turns that are left. -/
def waitForCard (isHCS : Bool) : Nat → MmcDevice → Ident MmcDevice
  | 0, device => .fail (.status EfiStatus.noMedia device)
  | timeout + 1, device => do
    let (answered, device) ← askCard device isHCS
    if answered ∧ device.cardInfo.ocrData &&& ocrPowerUp ≠ 0 then
      if device.cardInfo.cardType = .sd2 ∧ device.cardInfo.ocrData &&& bit30 ≠ 0 then
        pure (device.setCardType .sd2High)
      else pure device
    else waitForCard isHCS timeout device

/-- The steps of `MmcIdentificationMode` once the card is ready. -/
def addressCard (device : MmcDevice) : Ident MmcDevice := do
  let device ← mmcNotifyState device .ready
  command device .cmd2 0
  let _ ← response device .cid
  let status ← notifyState .identification
  orReturn device status
  command device .cmd3 1
  let words ← response device .rca
  -- an SD card has chosen its address
  let rca := if device.cardInfo.cardType ≠ .mmc then (words.word0 >>> 16).toUInt16 else 1
  mmcNotifyState (device.setRca rca) .standBy

/-- The card sends the check pattern back. -/
def checkPattern (device : MmcDevice) : Ident Unit := do
  let words ← response device .r7
  if words.word0 ≠ 0x1CE then .fail (.status EfiStatus.unsupported device) else pure ()

/-- The steps for a card that is neither an eMMC nor an SDIO device. -/
def identifyMemoryCard (device : MmcDevice) : Ident MmcDevice := do
  let status ← sendCommand .cmd8 0x1CE
  let isHCS := decide (status = EfiStatus.success)
  onlyIf (isHCS = true) (checkPattern device)
  let device ← waitForCard isHCS maxRetryCount device
  addressCard device

/-- The steps for a card that is no eMMC. -/
def identifyCard (device : MmcDevice) : Ident MmcDevice := do
  let status ← sendCommand .cmd5 0
  if status = EfiStatus.success then .fail (.status EfiStatus.unsupported device)
  else identifyMemoryCard device

/-- The identification may be restarted, in any state. -/
def announceInitialization (device : MmcDevice) : Ident MmcDevice :=
  if device.state = .hwInitialization then mmcNotifyState device .hwInitialization
  else pure device

def mmcIdentificationMode (fuel : Nat) (device : MmcDevice) : Ident MmcDevice := do
  let device ← announceInitialization device
  command device .cmd0 0
  let device ← mmcNotifyState device .idle
  let (status, ocr) ← askEmmc device (maxRetryCount - 1)
  if status = EfiStatus.success then
    if ocr &&& ocrPowerUp = 0 then .fail (.status EfiStatus.deviceError device)
    else do
      let raw := ocr &&& ~~~ocrPowerUp
      let device := device.setAccessMode (if raw = emmcCmd1CapacityGreaterThan2GB then bit30 else 0)
      if raw = emmcCmd1CapacityGreaterThan2GB ∨ raw = emmcCmd1CapacityLessThan2GB then
        emmcIdentificationMode fuel device
      else identifyCard device
  else identifyCard device

def initializeCard (fuel : Nat) (device : MmcDevice) : Ident MmcDevice :=
  if device.cardInfo.cardType ≠ .emmc then initializeSdMmcDevice device
  else do
    initializeEmmcDevice fuel device
    pure device

def initializeMmcDevice (fuel : Nat) (device : MmcDevice) : Ident MmcDevice := do
  let device ← mmcIdentificationMode fuel device
  let device ← mmcNotifyState device .transfer
  let device ← initializeCard fuel device
  command device .cmd16 device.media.blockSize
  -- block count, which is not used and which an SD card could reject
  onlyIf (device.cardInfo.cardType = .mmc) (command device .cmd23 1)
  pure device

end MuRockchip.Mmc
