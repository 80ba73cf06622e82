/-
Soft reset and error recovery of the SD/MMC driver (`SdMmc.c`, `SdhcRecoverFromErrors`).

A soft reset withdraws the protocols, identifies and initializes the card again
and installs the protocols of what it found. Error recovery resets the host's
lines, falls back on a soft reset, and ends a multi-block transfer. Recovery is
entered again from the commands it sends itself; an attempt count cuts the nesting
off.
-/
import MuRockchip.SdMmc.Protocol

namespace MuRockchip.SdMmc

open MuRockchip.Base

/-! ### Protocols -/

def setInstalled (protocol : InstalledProtocol) (installed : Bool) : Sd Unit :=
  modifyInstance fun device => device.setInstalled installed protocol

def install (protocol : InstalledProtocol) : Sd Unit := do
  callService (.installProtocol protocol)
  setInstalled protocol true

def uninstall (protocol : InstalledProtocol) : Sd Unit := do
  callService (.uninstallProtocol protocol)
  setInstalled protocol false

def uninstallIfInstalled (protocol : InstalledProtocol) : Sd Unit := do
  let device ← instanceData
  if device.installed protocol then uninstall protocol else pure ()

def uninstallAllProtocols : Sd Unit := do
  uninstallIfInstalled .blockIo
  uninstallIfInstalled .rpmbIo
  uninstallIfInstalled .devicePath

def isRpmbInstalledOnTheSystem : Sd Bool := do
  let status ← call (.service .locateRpmbIo)
  pure !status.isError

/-! ### Soft reset -/

/-- The media settings a soft reset starts from. -/
def clearedMedia : BlockIoMedia where
  mediaId := 0
  mediaPresent := false
  readOnly := false
  blockSize := 0
  ioAlign := 4
  lastBlock := 0

def clearMedia : Sd Unit :=
  modifyInstance fun device =>
    { device with
      slotInitialized := false
      media := clearedMedia
      rpmbIo := ⟨CmdResponse.zero, 0, 0⟩ }

def setMedia (change : BlockIoMedia → BlockIoMedia) : Sd Unit :=
  modifyInstance fun device => { device with media := change device.media }

/-- Only one MMC on the system may offer RPMB. The record of the current partition
is taken over from the EXT_CSD where the protocol is installed. -/
def installRpmbIo : Sd Unit := do
  let taken ← isRpmbInstalledOnTheSystem
  if taken then pure ()
  else do
    install .rpmbIo
    let device ← instanceData
    call (.recordPartition (partitionAccess device.cardInfo.extCsd.partitionConfig))

def installCardProtocols : Sd Unit := do
  let text ← call .convertDevicePathToText
  if text then do
    install .blockIo
    install .devicePath
    let device ← instanceData
    if device.cardInfo.cardFunction = .mmc then installRpmbIo else pure ()
  else raise EfiStatus.outOfResources EfiStatus.isError_outOfResources

/-- A soft reset up to its exit. Without a card only block I/O is installed, to
say that there is none. -/
def softResetBody : Sd Unit := do
  uninstallAllProtocols
  clearMedia
  let present ← call .isCardPresent
  setMedia fun media => { media with mediaPresent := present }
  if present then do
    let readOnly ← call .isReadOnly
    setMedia fun media => { media with readOnly := readOnly }
    initializeDevice
    installCardProtocols
  else install .blockIo

/-- Uninstall a protocol on the way out: the status of the attempt replaces the
status the reset failed with. -/
def withdraw (protocol : InstalledProtocol) (status : EfiStatus) : Sd EfiStatus := do
  let device ← instanceData
  if device.installed protocol then do
    let status ← call (.service (.uninstallProtocol protocol))
    onlyIf (!status.isError) (setInstalled protocol false)
    pure status
  else pure status

def softResetExit (error : ErrorStatus) : Sd Unit := do
  let status ← withdraw .rpmbIo error.val
  let status ← withdraw .devicePath status
  check status

def softReset : Sd Unit := softResetBody.catching softResetExit

/-! ### Error recovery -/

def resetLines (cmd : SdCommand) : Sd EfiStatus := do
  let status ← call (.service (.softwareReset .cmd))
  if cmd.transferType = .none ∨ cmd.transferType = .undefined then pure status
  else call (.service (.softwareReset .data))

/-- End a multi-block transfer that the card is still in. -/
def stopIfTransferring (cmd : SdCommand) : Sd Unit :=
  if cmd.isMultiBlock then do
    let cardStatus ← sdhcSendStatus
    if currentState cardStatus ≠ cardStateTran then sdhcStopTransmission else pure ()
  else pure ()

def sdmmcErrorRecoveryAttemptThreshold : UInt32 := 3

def SdhcInstance.changeAttempts (change : UInt32 → UInt32) (device : SdhcInstance) : SdhcInstance :=
  { device with errorRecoveryAttemptCount := change device.errorRecoveryAttemptCount }

def changeAttemptCount (change : UInt32 → UInt32) : Sd Unit :=
  modifyInstance (SdhcInstance.changeAttempts change)

def recoverySteps (cmd : SdCommand) : Sd Unit := do
  let device ← instanceData
  if device.errorRecoveryAttemptCount > sdmmcErrorRecoveryAttemptThreshold then
    raise EfiStatus.protocolError EfiStatus.isError_protocolError
  else do
    let status ← resetLines cmd
    onlyIf status.isError softReset
    stopIfTransferring cmd

/-- The attempt count is raised on entry and lowered on every way out. -/
def sdhcRecoverFromErrors (cmd : SdCommand) : Sd Unit := do
  changeAttemptCount (· + 1)
  (recoverySteps cmd).catching fun error => do
    changeAttemptCount (· - 1)
    .fail error
  changeAttemptCount (· - 1)

/-! ### The driver under an environment -/

/-- The driver's interface, with recoveries nested at most `depth` deep: what would
nest deeper is left undefined. -/
def handler (env : Environment) : Nat → Handler sdmmc World
  | 0, .recoverFromErrors _, _ => none
  | depth + 1, .recoverFromErrors cmd, world =>
    ((sdhcRecoverFromErrors cmd).exec (handler env depth) world).map fun outcome => ((), outcome.2)
  | _, op, world => some (hostEffect env op world)

/-- The nesting that the attempt threshold leaves room for. -/
def recoveryDepth : Nat := sdmmcErrorRecoveryAttemptThreshold.toNat + 1

/-- The driver's interface as its callers meet it. -/
abbrev driver (env : Environment) : Handler sdmmc World := handler env recoveryDepth

/-- The status a driver function returns, and the world it leaves. -/
def statusOf {α : Type} : Except ErrorStatus α × World → EfiStatus × World
  | (.ok _, world) => (EfiStatus.success, world)
  | (.error error, world) => (error.val, world)

/-! ### Rules of the driver's interface -/

/-- The operation is the start of an error recovery. -/
def IsRecovery : SdmmcOp → Prop
  | .recoverFromErrors _ => True
  | _ => False

/-- What the interface does when it is not entered for a recovery. -/
theorem handler_eq_hostEffect {env : Environment} {depth : Nat} {op : SdmmcOp} {world : World}
    (noRecovery : ¬ IsRecovery op) :
    handler env depth op world = some (hostEffect env op world) := by
  cases op with
  | recoverFromErrors cmd => exact absurd trivial noRecovery
  | _ => cases depth <;> rfl

section

open MuRockchip.Base.Prog

variable {env : Environment} {depth : Nat} {err : ErrorStatus → World → Prop} {world : World}

theorem wp_call {op : SdmmcOp} {ok : op.Answer → World → Prop} (noRecovery : ¬ IsRecovery op) :
    wp (handler env depth) (call op) ok err world ↔
      ok (hostEffect env op world).1 (hostEffect env op world).2 := by
  rw [call, wp_invoke, handler_eq_hostEffect noRecovery]
  exact ⟨fun spec => spec _ rfl, fun holds _ answered => Option.some.inj answered ▸ holds⟩

@[simp]
theorem wp_instanceData {ok : SdhcInstance → World → Prop} :
    wp (handler env depth) instanceData ok err world ↔ ok world.device world :=
  wp_call id

variable {ok : Unit → World → Prop}

@[simp]
theorem wp_modifyInstance {change : SdhcInstance → SdhcInstance} :
    wp (handler env depth) (modifyInstance change) ok err world ↔
      ok () { world with device := change world.device } :=
  wp_call id

@[simp]
theorem wp_check {status : EfiStatus} :
    wp (handler env depth) (check status) ok err world ↔
      (status.isError = false → ok () world) ∧
        ∀ failed : status.isError = true, err ⟨status, failed⟩ world := by
  unfold check
  split
  · rename_i failed
    simp [failed]
  · rename_i passed
    simp only [Bool.not_eq_true] at passed
    simp [passed]

theorem wp_callService {service : Service} :
    wp (handler env depth) (callService service) ok err world ↔
      ((env world.calls).status.isError = false →
        ok () (serviceEffect (env world.calls) world service)) ∧
      ∀ failed : (env world.calls).status.isError = true,
        err ⟨(env world.calls).status, failed⟩ (serviceEffect (env world.calls) world service) := by
  rw [callService, wp_bind, wp_call id]
  exact wp_check

end

end MuRockchip.SdMmc
