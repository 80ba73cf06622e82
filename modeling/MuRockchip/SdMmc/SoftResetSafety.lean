/-
What a soft reset leaves published.

A soft reset threads one status through its steps, the uninstalls of its exit
included. The steps are labelled here, so that an outcome says which of them
failed; without the labels they are the reset. The flags of the instance follow
the protocols on the handle throughout.

* `softResetBody_eq`: the labelled steps are the body of the reset.
* `session_installs`: flags and protocols agree after every sequence of calls.
* `wp_softResetSteps_replies`: which flags and replies make the exit clean.
* `softReset_consistent_iff`: these are the ones with which the reset reports its failures and keeps
  what it should published.
-/
import MuRockchip.SdMmc.StopTransmission

namespace MuRockchip.SdMmc

open MuRockchip.Base
open MuRockchip.Base.Prog

/-! ### Labelled steps -/

/-- The steps of a soft reset whose status it takes over. -/
inductive ResetStep where
  | uninstallAll
  | announceAbsence
  | initializeDevice
  | devicePathText
  | installBlockIo
  | installDevicePath
  | installRpmbIo
  deriving DecidableEq, Repr

def ResetStep.run {α : Type} (step : ResetStep) (part : Sd α) :
    Prog sdmmc (ResetStep × ErrorStatus) α :=
  part.mapError fun error => (step, error)

/-- The label taken off again. -/
def unlabelled {α : Type} (program : Prog sdmmc (ResetStep × ErrorStatus) α) : Sd α :=
  program.mapError Prod.snd

def checkDevicePathText : Sd Unit := do
  let text ← call .convertDevicePathToText
  if text then pure () else raise EfiStatus.outOfResources EfiStatus.isError_outOfResources

def installRpmbIoOfMmc : Sd Unit := do
  let device ← instanceData
  if device.cardInfo.cardFunction = .mmc then installRpmbIo else pure ()

def detectCard : Sd Bool := do
  clearMedia
  let present ← call .isCardPresent
  setMedia fun media => { media with mediaPresent := present }
  pure present

def initializeCard : Sd Unit := do
  let readOnly ← call .isReadOnly
  setMedia fun media => { media with readOnly := readOnly }
  initializeDevice

/-- The labelled body of a soft reset: whether a card is present. -/
def softResetSteps : Prog sdmmc (ResetStep × ErrorStatus) Bool := do
  ResetStep.uninstallAll.run uninstallAllProtocols
  let present ← ResetStep.initializeDevice.run detectCard
  if present then do
    ResetStep.initializeDevice.run initializeCard
    ResetStep.devicePathText.run checkDevicePathText
    ResetStep.installBlockIo.run (install .blockIo)
    ResetStep.installDevicePath.run (install .devicePath)
    ResetStep.installRpmbIo.run installRpmbIoOfMmc
    pure true
  else do
    ResetStep.announceAbsence.run (install .blockIo)
    pure false

variable {α : Type}

@[simp]
theorem unlabelled_run (step : ResetStep) (part : Sd α) :
    unlabelled (step.run part) = part :=
  mapError_leftInverse (fun _ => rfl) part

@[simp]
theorem unlabelled_bind {β : Type} (program : Prog sdmmc (ResetStep × ErrorStatus) α)
    (next : α → Prog sdmmc (ResetStep × ErrorStatus) β) :
    unlabelled (program >>= next) = unlabelled program >>= fun value => unlabelled (next value) :=
  mapError_bind _ _ _

theorem unlabelled_ite (condition : Prop) [Decidable condition]
    (yes no : Prog sdmmc (ResetStep × ErrorStatus) α) :
    unlabelled (if condition then yes else no) =
      if condition then unlabelled yes else unlabelled no :=
  mapError_ite _ _ _ _

theorem unlabelled_pure (value : α) :
    unlabelled (pure value) = (pure value : Sd α) := rfl

theorem softResetBody_eq : softResetBody = unlabelled softResetSteps >>= fun _ => pure () := by
  simp only [softResetSteps, unlabelled_bind, unlabelled_run, unlabelled_ite, unlabelled_pure,
    detectCard, initializeCard, checkDevicePathText, installRpmbIoOfMmc, bind_assoc, pure_bind,
    ite_bind, raise, fail_bind, bind_pure]
  rfl

/-! ### Flags and protocols -/

/-- These protocols are on the handle, and the flags say so. -/
structure Installs (protocols : InstalledProtocol → Bool) (world : World) : Prop where
  flagged : world.device.installed = protocols
  present : world.installed = protocols

/-- The flags agree with the protocols on the handle. -/
def Synced (world : World) : Prop := ∃ protocols, Installs protocols world

theorem synced_iff (world : World) : Synced world ↔ world.device.installed = world.installed := by
  constructor
  · rintro ⟨protocols, installs⟩
    exact installs.flagged.trans installs.present.symm
  · intro same
    exact ⟨world.installed, same, rfl⟩

/-- The flags agree after if they did before. -/
def KeepsSynced (before after : World) : Prop := Synced before → Synced after

theorem KeepsSynced.refl (world : World) : KeepsSynced world world := id

theorem KeepsSynced.trans {first second third : World} (one : KeepsSynced first second)
    (other : KeepsSynced second third) : KeepsSynced first third :=
  fun synced => other (one synced)

theorem setInstalled_installed (device : SdhcInstance) (present : Bool)
    (protocol : InstalledProtocol) :
    (device.setInstalled present protocol).installed =
      Function.update device.installed protocol present := by
  funext other
  cases protocol <;> cases other <;> rfl

section

variable {env : Environment} {depth : Nat} {protocols : InstalledProtocol → Bool} {world : World}

variable {commands : SdCommand → UInt32 → Prop}

/-- A routine operation other than a recovery changes neither. -/
theorem hostEffect_installs {op : SdmmcOp} (routine : Routine commands op)
    (installs : Installs protocols world) :
    Installs protocols (hostEffect env op world).2 := by
  cases op with
  | service service =>
    have flagged := (serviceEffect_device (env world.calls) world service).2.trans installs.flagged
    cases service with
    | installProtocol protocol => exact routine.elim
    | uninstallProtocol protocol => exact routine.elim
    | readBlockData lengthInBytes buffer => cases buffer <;> exact ⟨flagged, installs.present⟩
    | _ => exact ⟨flagged, installs.present⟩
  | modifyInstance change =>
    exact ⟨(routine world.device).installed.trans installs.flagged, installs.present⟩
  | recordPartition partition => exact routine.elim
  | _ => exact ⟨installs.flagged, installs.present⟩

theorem wp_routine_synced (recovers : ∀ cmd world answered,
      handler env depth (.recoverFromErrors cmd) world = some answered →
      KeepsSynced world answered.2) {α : Type} {program : Sd α}
    (routine : program.All (Routine commands)) (synced : Synced world) :
    wp (handler env depth) program (fun _ after => Synced after) (fun _ after => Synced after)
      world := by
  have keeps (op : SdmmcOp) (before : World) (holds : Routine commands op) :
      KeepsSynced before (hostEffect env op before).2 := by
    rintro ⟨protocols, installs⟩
    exact ⟨protocols, hostEffect_installs holds installs⟩
  have spec : wp (handler env depth) program (fun _ after => KeepsSynced world after)
      (fun _ after => KeepsSynced world after) world :=
    wp_of_preserves KeepsSynced.refl KeepsSynced.trans (handler_keeps recovers keeps) routine world
  exact wp_mono spec (fun _ _ kept => kept synced) fun _ _ kept => kept synced

/-! ### Installing and uninstalling -/

theorem wp_setInstalled {protocol : InstalledProtocol} {present : Bool}
    {ok : Unit → World → Prop} {err : ErrorStatus → World → Prop} :
    wp (handler env depth) (setInstalled protocol present) ok err world ↔
      ok () { world with device := world.device.setInstalled present protocol } :=
  wp_modifyInstance

/-- A service that changes one protocol, and the flag that is set once it has. -/
theorem wp_callService_setInstalled {service : Service} {present : Bool}
    {protocol : InstalledProtocol}
    (effect : ∀ reply, serviceEffect reply world service =
      { world.called [] with
        installed := installedAfter world.installed reply.status protocol present })
    (installs : Installs protocols world) :
    wp (handler env depth) (do callService service; setInstalled protocol present)
      (fun _ after => Installs (Function.update protocols protocol present) after)
      (fun _ after => Installs protocols after) world := by
  rw [wp_bind, wp_callService, effect]
  constructor
  · intro changed
    rw [wp_setInstalled]
    refine ⟨?_, ?_⟩
    · rw [setInstalled_installed]
      exact congrArg (Function.update · protocol present) installs.flagged
    · funext other
      simp [installedAfter, changed, installs.present, Function.update_apply]
  · intro failed
    refine ⟨installs.flagged, ?_⟩
    funext other
    simp [installedAfter, failed, installs.present]

theorem wp_install (protocol : InstalledProtocol) (installs : Installs protocols world) :
    wp (handler env depth) (install protocol)
      (fun _ after => Installs (Function.update protocols protocol true) after)
      (fun _ after => Installs protocols after) world :=
  wp_callService_setInstalled (fun _ => rfl) installs

theorem wp_uninstall (protocol : InstalledProtocol) (installs : Installs protocols world) :
    wp (handler env depth) (uninstall protocol)
      (fun _ after => Installs (Function.update protocols protocol false) after)
      (fun _ after => Installs protocols after) world :=
  wp_callService_setInstalled (fun _ => rfl) installs

theorem wp_uninstallIfInstalled (protocol : InstalledProtocol)
    (installs : Installs protocols world) :
    wp (handler env depth) (uninstallIfInstalled protocol)
      (fun _ after => Installs (Function.update protocols protocol false) after)
      (fun _ after => Installs protocols after) world := by
  rw [uninstallIfInstalled, wp_bind, wp_instanceData, wp_ite]
  refine ⟨fun _ => wp_uninstall protocol installs, fun absent => ?_⟩
  have unchanged : Function.update protocols protocol false = protocols := by
    rw [Function.update_eq_self_iff, ← installs.flagged]
    exact (Bool.eq_false_iff.mpr absent).symm
  simpa [unchanged] using installs

theorem wp_uninstallAllProtocols (installs : Installs protocols world) :
    wp (handler env depth) uninstallAllProtocols
      (fun _ after => Installs (fun _ => false) after) (fun _ after => Synced after) world := by
  rw [uninstallAllProtocols, wp_bind]
  refine wp_mono (wp_uninstallIfInstalled .blockIo installs) (fun _ _ first => ?_)
    fun _ _ kept => ⟨_, kept⟩
  rw [wp_bind]
  refine wp_mono (wp_uninstallIfInstalled .rpmbIo first) (fun _ _ second => ?_)
    fun _ _ kept => ⟨_, kept⟩
  refine wp_mono (wp_uninstallIfInstalled .devicePath second) (fun _ after third => ?_)
    fun _ _ kept => ⟨_, kept⟩
  have none : Function.update (Function.update (Function.update protocols .blockIo false) .rpmbIo
      false) .devicePath false = fun _ => false := by
    funext other
    cases other <;> rfl
  exact none ▸ third

/-! ### The exit of a failed reset -/

/-- What the uninstall of the exit leaves of the protocols. -/
def withdrawn (protocols : InstalledProtocol → Bool) (protocol : InstalledProtocol)
    (status : EfiStatus) : InstalledProtocol → Bool :=
  Function.update protocols protocol (protocols protocol && status.isError)

theorem wp_withdraw (protocol : InstalledProtocol) (status : EfiStatus)
    (installs : Installs protocols world) :
    wp (handler env depth) (withdraw protocol status)
      (fun returned after =>
        Installs (withdrawn protocols protocol (env world.calls).status) after ∧
        returned = (if protocols protocol then (env world.calls).status else status) ∧
        after.calls = if protocols protocol then world.calls + 1 else world.calls)
      (fun _ _ => False) world := by
  rw [withdraw, wp_bind, wp_instanceData, wp_ite, installs.flagged]
  constructor
  · intro present
    simp only [withdrawn, present, if_true, Bool.true_and]
    rw [wp_bind, wp_call id, hostEffect, onlyIf]
    cases failed : (env world.calls).status.isError with
    | false =>
      simp only [Bool.not_false, if_true, wp_bind, wp_setInstalled, wp_pure]
      refine ⟨⟨?_, ?_⟩, trivial, rfl⟩
      · rw [setInstalled_installed]
        exact congrArg (Function.update · protocol false) installs.flagged
      · funext other
        simp [serviceEffect, World.called, installedAfter, failed, installs.present,
          Function.update_apply]
    | true =>
      have unchanged : Function.update protocols protocol true = protocols := by
        rw [Function.update_eq_self_iff, present]
      simp only [Bool.not_true, Bool.false_eq_true, if_false, wp_bind, wp_pure, unchanged]
      refine ⟨⟨installs.flagged, ?_⟩, trivial, rfl⟩
      funext other
      simp [serviceEffect, World.called, installedAfter, failed, installs.present]
  · intro absent
    have unchanged : Function.update protocols protocol false = protocols := by
      rw [Function.update_eq_self_iff, Bool.eq_false_iff.mpr absent]
    simpa [withdrawn, absent, unchanged] using installs

/-- The status of the exit's attempt to uninstall the RPMB protocol. -/
def rpmbIoStatus (env : Environment) (world : World) : EfiStatus := (env world.calls).status

/-- The status of the exit's attempt to uninstall the device path. -/
def devicePathStatus (env : Environment) (world : World) : EfiStatus :=
  (env (if world.device.installed .rpmbIo then world.calls + 1 else world.calls)).status

/-- The status a failed reset returns: the last one its exit has seen. -/
def exitStatus (env : Environment) (world : World) (error : ErrorStatus) : EfiStatus :=
  if world.device.installed .devicePath then devicePathStatus env world
  else if world.device.installed .rpmbIo then rpmbIoStatus env world
  else error.val

theorem wp_softResetExit (error : ErrorStatus) (installs : Installs protocols world) :
    wp (handler env depth) (softResetExit error)
      (fun _ after => (exitStatus env world error).isError = false ∧
        Installs (withdrawn (withdrawn protocols .rpmbIo (rpmbIoStatus env world)) .devicePath
          (devicePathStatus env world)) after)
      (fun returned after => returned.val = exitStatus env world error ∧
        Installs (withdrawn (withdrawn protocols .rpmbIo (rpmbIoStatus env world)) .devicePath
          (devicePathStatus env world)) after)
      world := by
  rw [softResetExit, wp_bind]
  refine wp_mono (wp_withdraw .rpmbIo error.val installs) (fun returned middle first => ?_)
    fun _ _ impossible => impossible.elim
  obtain ⟨installed, rfl, calls⟩ := first
  rw [wp_bind]
  refine wp_mono (wp_withdraw .devicePath _ installed) (fun returned after second => ?_)
    fun _ _ impossible => impossible.elim
  obtain ⟨installed, rfl, -⟩ := second
  have same : withdrawn protocols .rpmbIo (env world.calls).status .devicePath =
      protocols .devicePath := rfl
  rw [same, calls] at *
  rw [wp_check]
  simp only [exitStatus, rpmbIoStatus, devicePathStatus, installs.flagged] at *
  exact ⟨fun passed => ⟨passed, installed⟩, fun _ => ⟨trivial, installed⟩⟩

/-! ### The body -/

theorem wp_detectCard (installs : Installs protocols world) :
    wp (handler env depth) detectCard (fun _ after => Installs protocols after)
      (fun _ _ => False) world := by
  simp only [detectCard, clearMedia, setMedia, wp_bind, wp_modifyInstance, wp_pure]
  rw [wp_call id]
  exact ⟨installs.flagged, installs.present⟩

theorem wp_checkDevicePathText (installs : Installs protocols world) :
    wp (handler env depth) checkDevicePathText (fun _ after => Installs protocols after)
      (fun _ after => Installs protocols after) world := by
  rw [checkDevicePathText, wp_bind, wp_call id, wp_ite]
  have called : Installs protocols (world.called []) := ⟨installs.flagged, installs.present⟩
  exact ⟨fun _ => (wp_pure ()).mpr called, fun _ => (wp_fail _).mpr called⟩

theorem wp_installRpmbIoOfMmc (installs : Installs protocols world)
    (blockIo : protocols .blockIo = true) :
    wp (handler env depth) installRpmbIoOfMmc
      (fun _ after => ∃ protocols, Installs protocols after ∧ protocols .blockIo = true)
      (fun _ after => Synced after) world := by
  rw [installRpmbIoOfMmc, wp_bind, wp_instanceData, wp_ite]
  refine ⟨fun _ => ?_, fun _ => (wp_pure ()).mpr ⟨protocols, installs, blockIo⟩⟩
  rw [installRpmbIo, isRpmbInstalledOnTheSystem, wp_bind, wp_bind, wp_call id, wp_pure, wp_ite]
  have called : Installs protocols (hostEffect env (.service .locateRpmbIo) world).2 :=
    ⟨installs.flagged, installs.present⟩
  refine ⟨fun _ => (wp_pure ()).mpr ⟨protocols, called, blockIo⟩, fun _ => ?_⟩
  rw [wp_bind]
  refine wp_mono (wp_install .rpmbIo called) (fun _ after installed => ?_)
    fun _ _ kept => ⟨protocols, kept⟩
  rw [wp_bind, wp_instanceData, wp_call id]
  exact ⟨_, ⟨installed.flagged, installed.present⟩, blockIo⟩

section

variable (recovers : ∀ cmd world answered,
  handler env depth (.recoverFromErrors cmd) world = some answered → KeepsSynced world answered.2)

include recovers

theorem wp_initializeCard (installs : Installs protocols world) :
    wp (handler env depth) initializeCard (fun _ after => Synced after)
      (fun _ after => Synced after) world := by
  simp only [initializeCard, setMedia, wp_bind, wp_modifyInstance]
  rw [wp_call id]
  exact wp_routine_synced recovers initializeDevice_routine
    ⟨protocols, installs.flagged, installs.present⟩

theorem wp_softResetSteps (synced : Synced world) :
    wp (handler env depth) softResetSteps
      (fun present after => ∃ protocols, Installs protocols after ∧ protocols .blockIo = true ∧
        (present = false → protocols .rpmbIo = false ∧ protocols .devicePath = false))
      (fun _ after => Synced after) world := by
  obtain ⟨protocols, installs⟩ := synced
  simp only [softResetSteps, wp_bind, ResetStep.run, wp_mapError]
  refine wp_mono (wp_uninstallAllProtocols installs) (fun _ _ none => ?_)
    fun _ _ kept => kept
  refine wp_mono (wp_detectCard none) (fun present _ none => ?_)
    fun _ _ impossible => impossible.elim
  rw [wp_ite]
  constructor
  · rintro rfl
    simp only [wp_bind, wp_mapError, wp_pure]
    refine wp_mono (wp_initializeCard recovers none) (fun _ _ described => ?_)
      fun _ _ kept => kept
    obtain ⟨_, initialized⟩ := described
    refine wp_mono (wp_checkDevicePathText initialized) (fun _ _ text => ?_)
      fun _ _ kept => ⟨_, kept⟩
    refine wp_mono (wp_install .blockIo text) (fun _ _ blockIo => ?_)
      fun _ _ kept => ⟨_, kept⟩
    refine wp_mono (wp_install .devicePath blockIo) (fun _ _ devicePath => ?_)
      fun _ _ kept => ⟨_, kept⟩
    refine wp_mono (wp_installRpmbIoOfMmc devicePath rfl) (fun _ _ rpmbIo => ?_)
      fun _ _ kept => kept
    obtain ⟨last, kept, blockIo⟩ := rpmbIo
    exact ⟨last, kept, blockIo, fun absent => absurd absent (by decide)⟩
  · intro absent
    simp only [wp_bind, wp_mapError, wp_pure]
    refine wp_mono (wp_install .blockIo none) (fun _ _ blockIo => ?_)
      fun _ _ kept => ⟨_, kept⟩
    exact ⟨_, blockIo, rfl, fun _ => ⟨rfl, rfl⟩⟩

theorem wp_softReset_synced (synced : Synced world) :
    wp (handler env depth) softReset (fun _ after => Synced after) (fun _ after => Synced after)
      world := by
  simp only [softReset, softResetBody_eq, unlabelled, wp_catching, wp_bind, wp_mapError, wp_pure]
  refine wp_mono (wp_softResetSteps recovers synced) (fun _ _ reset => ?_) fun failed _ synced => ?_
  · obtain ⟨protocols, kept, -⟩ := reset
    exact ⟨protocols, kept⟩
  · obtain ⟨protocols, kept⟩ := synced
    exact wp_mono (wp_softResetExit failed.2 kept) (fun _ _ left => ⟨_, left.2⟩)
      fun _ _ left => ⟨_, left.2⟩

theorem wp_recoverySteps_synced (cmd : SdCommand) (synced : Synced world) :
    wp (handler env depth) (recoverySteps cmd) (fun _ after => Synced after)
      (fun _ after => Synced after) world := by
  rw [recoverySteps, wp_bind, wp_instanceData, wp_ite]
  refine ⟨fun _ => (wp_fail _).mpr synced, fun _ => ?_⟩
  rw [wp_bind]
  refine wp_mono (wp_routine_synced recovers (resetLines_routine cmd) synced)
    (fun status _ synced => ?_) fun _ _ synced => synced
  rw [wp_bind, onlyIf, wp_ite]
  have stops (after : World) (synced : Synced after) :=
    wp_routine_synced recovers (stopIfTransferring_routine cmd) synced
  refine ⟨fun _ => ?_, fun _ => (wp_pure ()).mpr (stops _ synced)⟩
  exact wp_mono (wp_softReset_synced recovers synced) (fun _ => stops) fun _ _ synced => synced

end

theorem handler_recoverFromErrors_synced (env : Environment) (depth : Nat) (cmd : SdCommand)
    (world : World) (answered : Unit × World)
    (defined : handler env depth (.recoverFromErrors cmd) world = some answered) :
    KeepsSynced world answered.2 := by
  refine handler_recovers (fun before after kept => ?_) (fun depth recovers cmd entered => ?_)
    depth cmd world answered defined
  · rintro ⟨protocols, installs⟩
    obtain ⟨protocols, kept⟩ := kept ⟨protocols, installs.flagged, installs.present⟩
    exact ⟨protocols, kept.flagged, kept.present⟩
  · by_cases synced : Synced entered
    · exact wp_mono (wp_recoverySteps_synced recovers cmd synced) (fun _ _ kept _ => kept)
        fun _ _ kept _ => kept
    · exact wp_mono (wp_logExtends _ entered) (fun _ _ _ impossible => absurd impossible synced)
        fun _ _ _ impossible => absurd impossible synced

theorem wp_call_synced (driverCall : DriverCall) (synced : Synced world) :
    wp (handler env depth) driverCall.program (fun _ after => Synced after)
      (fun _ after => Synced after) world := by
  have recovers := handler_recoverFromErrors_synced env depth
  cases driverCall with
  | sendCommand cmd arg =>
    exact wp_routine_synced recovers
      (routine_all (sdhcSendCommand_guarded commandOps_routine trivial)) synced
  | sendDataCommand cmd arg bufferByteSize buffer =>
    have guarded : (sdhcSendDataCommand cmd arg bufferByteSize buffer).Guarded
        (Routine fun _ _ => True) IsRecovery :=
      sdhcSendDataCommand_guarded commandOps_routine (fun _ => trivial) trivial trivial
    exact wp_routine_synced recovers (routine_all guarded) synced
  | recoverFromErrors cmd =>
    exact (wp_invoke _ _).mpr fun answered defined => recovers cmd world answered defined synced
  | softReset => exact wp_softReset_synced recovers synced
  | initializeDevice => exact wp_routine_synced recovers initializeDevice_routine synced

/-- Flags and protocols agree after every sequence of calls, if they did before. -/
theorem session_installs (calls : List DriverCall) (synced : Synced world) :
    wp (handler env depth) (session calls) (fun _ after => Synced after)
      (fun _ after => Synced after) world := by
  induction calls generalizing world with
  | nil => exact (wp_pure ()).mpr synced
  | cons first rest ih =>
    simp only [session, ignoringErrors, wp_bind, wp_catching, wp_pure]
    exact wp_mono (wp_call_synced first synced) (fun _ _ kept => ih kept) fun _ _ kept => ih kept

end

/-! ### Consistency -/

def failedStep : Except (ResetStep × ErrorStatus) Bool → Option ResetStep
  | .ok _ => none
  | .error (step, _) => some step

/-- The card was initialized again. -/
def reinitialized : Except (ResetStep × ErrorStatus) Bool → Bool
  | .ok present => present
  | .error (step, _) => step ∉ [.uninstallAll, .announceAbsence, .initializeDevice]

def ResetStep.IsBlockIo (step : ResetStep) : Prop :=
  step = .announceAbsence ∨ step = .installBlockIo

/-- A reset whose steps went as `result` says returns as it should: with an error if a
step failed, with flags that agree with the protocols, with block I/O unless its own
installation failed, and with the protocols of a card that was initialized only. -/
structure ResetConsistent (result : Except (ResetStep × ErrorStatus) Bool)
    (returned : EfiStatus × World) : Prop where
  reported : failedStep result ≠ none → returned.1.isError = true
  synced : returned.2.device.installed = returned.2.installed
  blockIo : (∀ step, failedStep result = some step → ¬ step.IsBlockIo) →
    returned.2.installed .blockIo = true
  ofCard : returned.2.installed .rpmbIo = true ∨ returned.2.installed .devicePath = true →
    reinitialized result = true

/-- At the exit of a failed reset: block I/O is flagged unless it could not be installed;
before the card is initialized nothing else is flagged; and after it, the exit's last
status is an error. -/
structure CleanExit (env : Environment) (step : ResetStep) (error : ErrorStatus) (exit : World) :
    Prop where
  blockIo : ¬ step.IsBlockIo → exit.device.installed .blockIo = true
  early : reinitialized (.error (step, error)) = false →
    exit.device.installed .rpmbIo = false ∧ exit.device.installed .devicePath = false
  late : reinitialized (.error (step, error)) = true →
    (exitStatus env exit error).isError = true

theorem consistent_iff_cleanExit {env : Environment} {step : ResetStep} {error : ErrorStatus}
    {exit after : World} {status : EfiStatus} {protocols : InstalledProtocol → Bool}
    (installs : Installs protocols exit)
    (left : Installs (withdrawn (withdrawn protocols .rpmbIo (rpmbIoStatus env exit)) .devicePath
      (devicePathStatus env exit)) after)
    (returned : status.isError = (exitStatus env exit error).isError) :
    ResetConsistent (.error (step, error)) (status, after) ↔ CleanExit env step error exit := by
  have blockIo : after.installed .blockIo = protocols .blockIo := by rw [left.present]; rfl
  have rpmbIo : after.installed .rpmbIo =
      (protocols .rpmbIo && (rpmbIoStatus env exit).isError) := by rw [left.present]; rfl
  have devicePath : after.installed .devicePath =
      (protocols .devicePath && (devicePathStatus env exit).isError) := by rw [left.present]; rfl
  have synced : after.device.installed = after.installed := left.flagged.trans left.present.symm
  have last := error.property
  constructor
  · rintro ⟨reported, -, hasBlockIo, ofCard⟩
    have failed : (exitStatus env exit error).isError = true := returned ▸ reported nofun
    refine ⟨fun other => ?_, fun early => ?_, fun _ => failed⟩
    · rw [installs.flagged, ← blockIo]
      exact hasBlockIo fun failing same => Option.some.inj same ▸ other
    · -- A protocol still flagged was withdrawn, and then the last status is no error.
      rw [exitStatus, installs.flagged] at failed
      rw [installs.flagged]
      rw [rpmbIo, devicePath, early] at ofCard
      grind
  · rintro ⟨hasBlockIo, early, late⟩
    rw [installs.flagged] at hasBlockIo early
    refine ⟨fun _ => ?_, synced, fun other => ?_, fun kept => ?_⟩
    · rw [returned]
      cases initialized : reinitialized (.error (step, error)) with
      | true => exact late initialized
      | false =>
        obtain ⟨noRpmbIo, noDevicePath⟩ := early initialized
        simp [exitStatus, installs.flagged, noRpmbIo, noDevicePath, last]
    · rw [blockIo]
      exact hasBlockIo (other step rfl)
    · cases initialized : reinitialized (.error (step, error)) with
      | true => rfl
      | false =>
        obtain ⟨noRpmbIo, noDevicePath⟩ := early initialized
        simp [rpmbIo, devicePath, noRpmbIo, noDevicePath] at kept

/-! ### The replies to a reset -/

def Uninstalls (env : Environment) (protocol : InstalledProtocol) (world : World) : Prop :=
  world.device.installed protocol = true → (env world.calls).status.isError = false

/-- The world behind that. -/
def uninstalled (env : Environment) (protocol : InstalledProtocol) (world : World) : World :=
  if world.device.installed protocol then
    { serviceEffect (env world.calls) world (.uninstallProtocol protocol) with
      device := world.device.setInstalled false protocol }
  else world

def readied (env : Environment) (world : World) : World :=
  { (world.called []).called [] with
    device := { world.device with
      slotInitialized := false
      media := { clearedMedia with
        mediaPresent := (env world.calls).flag
        readOnly := (env (world.calls + 1)).flag }
      rpmbIo := ⟨CmdResponse.zero, 0, 0⟩ } }

/-- The exit of a failed reset ends with an error: the device path is not uninstalled, if it is
flagged, and else RPMB is not, if that is. -/
def ExitReported (env : Environment) (flags : InstalledProtocol → Bool) (calls : Nat) : Prop :=
  if flags .devicePath then (env (if flags .rpmbIo then calls + 1 else calls)).status.isError = true
  else flags .rpmbIo = true → (env calls).status.isError = true

/-- The replies to the installations of a card that was initialized, in the world this has left. If
there is no text of the device path, block I/O is flagged already; and if there is none, or block
I/O or the device path is not installed, or RPMB is not, though there is no other on the system, the
exit ends with an error. -/
def InstallsReported (env : Environment) (world : World) : Prop :=
  let flags := world.device.installed
  let reply := fun call => env (world.calls + call)
  if (reply 0).flag = false then flags .blockIo = true ∧ ExitReported env flags (world.calls + 1)
  else if (reply 1).status.isError then ExitReported env flags (world.calls + 2)
  else if (reply 2).status.isError then ExitReported env flags (world.calls + 3)
  else world.device.cardInfo.cardFunction = .mmc → (reply 3).status.isError = true →
    (reply 4).status.isError = true →
      ExitReported env (Function.update flags .devicePath true) (world.calls + 5)

/-- A card is initialized, and its protocols are installed; or it is not, and the resets of its
recoveries have left block I/O, and nothing else, on the handle. -/
def InitializationReported (env : Environment) : Except ErrorStatus Unit → World → Prop
  | .ok _, left => InstallsReported env left
  | .error _, left => left.device.installed .blockIo = true ∧
      left.device.installed .rpmbIo = false ∧ left.device.installed .devicePath = false

def CardReported (env : Environment) (depth : Nat) (world : World) : Prop :=
  (env world.calls).flag = true → ∃ initialized left,
    initializeDevice.exec (handler env depth) (readied env world) = some (initialized, left) ∧
      InitializationReported env initialized left

/-- Either block I/O is not uninstalled, and nothing else was flagged; or all that was flagged is
uninstalled, and the card is initialized. -/
def ResetReported (env : Environment) (depth : Nat) (world : World) : Prop :=
  (¬ Uninstalls env .blockIo world ∧ world.device.installed .rpmbIo = false ∧
    world.device.installed .devicePath = false) ∨
  (Uninstalls env .blockIo world ∧
    let withoutBlockIo := uninstalled env .blockIo world
    Uninstalls env .rpmbIo withoutBlockIo ∧
      let withoutRpmbIo := uninstalled env .rpmbIo withoutBlockIo
      Uninstalls env .devicePath withoutRpmbIo ∧
        CardReported env depth (uninstalled env .devicePath withoutRpmbIo))

section

theorem uninstalled_installed (env : Environment) (protocol : InstalledProtocol) (world : World) :
    (uninstalled env protocol world).device.installed =
      Function.update world.device.installed protocol false := by
  unfold uninstalled
  split
  · exact setInstalled_installed _ _ _
  · next absent => rw [← Bool.eq_false_iff.mpr absent, Function.update_eq_self]

theorem wp_uninstallIfInstalled_replies (protocol : InstalledProtocol) :
    wp (handler env depth) (uninstallIfInstalled protocol)
      (fun _ after => Uninstalls env protocol world ∧ after = uninstalled env protocol world)
      (fun _ after => ¬ Uninstalls env protocol world ∧
        after.device.installed = world.device.installed) world := by
  rw [uninstallIfInstalled, wp_bind, wp_instanceData, wp_ite]
  constructor
  · intro flagged
    rw [uninstall, wp_bind, wp_callService, uninstalled, if_pos flagged]
    refine ⟨fun passed => wp_setInstalled.mpr ⟨fun _ => passed, rfl⟩, fun failed => ⟨?_, rfl⟩⟩
    intro uninstalls
    rw [uninstalls flagged] at failed
    cases failed
  · intro absent
    rw [uninstalled, if_neg absent, wp_pure]
    exact ⟨fun flagged => absurd flagged absent, rfl⟩

theorem wp_install_replies (protocol : InstalledProtocol) :
    wp (handler env depth) (install protocol)
      (fun _ after => (env world.calls).status.isError = false ∧ after.calls = world.calls + 1 ∧
        after.device = world.device.setInstalled true protocol)
      (fun _ after => (env world.calls).status.isError = true ∧ after.calls = world.calls + 1 ∧
        after.device = world.device) world := by
  rw [install, wp_bind, wp_callService]
  exact ⟨fun passed => wp_setInstalled.mpr ⟨passed, rfl, rfl⟩, fun failed => ⟨failed, rfl, rfl⟩⟩

theorem wp_checkDevicePathText_replies :
    wp (handler env depth) checkDevicePathText
      (fun _ after => (env world.calls).flag = true ∧ after = world.called [])
      (fun _ after => ¬ (env world.calls).flag = true ∧ after = world.called []) world := by
  rw [checkDevicePathText, wp_bind, wp_call id, wp_ite]
  exact ⟨fun text => (wp_pure ()).mpr ⟨text, rfl⟩, fun none => (wp_fail _).mpr ⟨none, rfl⟩⟩

/-- The install of the RPMB protocol is tried for an MMC, if there is no other. -/
def TriesRpmbIo (env : Environment) (world : World) : Prop :=
  world.device.cardInfo.cardFunction = .mmc ∧ (env world.calls).status.isError = true

theorem wp_installRpmbIoOfMmc_replies :
    wp (handler env depth) installRpmbIoOfMmc
      (fun _ _ => TriesRpmbIo env world → (env (world.calls + 1)).status.isError = false)
      (fun _ after => TriesRpmbIo env world ∧ (env (world.calls + 1)).status.isError = true ∧
        after.calls = world.calls + 2 ∧ after.device = world.device) world := by
  rw [installRpmbIoOfMmc, wp_bind, wp_instanceData, wp_ite]
  refine ⟨fun mmc => ?_, fun other => (wp_pure ()).mpr fun tries => absurd tries.1 other⟩
  rw [installRpmbIo, isRpmbInstalledOnTheSystem, wp_bind, wp_bind, wp_call id, wp_pure, wp_ite]
  constructor
  · intro taken
    refine (wp_pure ()).mpr fun tries => ?_
    simp [hostEffect, tries.2] at taken
  · intro free
    have tries : TriesRpmbIo env world := ⟨mmc, by simpa [hostEffect] using free⟩
    rw [wp_bind]
    refine wp_mono (wp_install_replies .rpmbIo) (fun _ after installs => ?_)
      fun _ after fails => ⟨tries, fails.1, fails.2.1, fails.2.2⟩
    rw [wp_bind, wp_instanceData, wp_call id]
    exact fun _ => installs.1

variable {step : ResetStep} {error : ErrorStatus} {exit : World}

/-- Before the card is initialized, nothing but block I/O may be flagged at the exit. -/
theorem cleanExit_early (early : reinitialized (.error (step, error)) = false) :
    CleanExit env step error exit ↔
      (¬ step.IsBlockIo → exit.device.installed .blockIo = true) ∧
        exit.device.installed .rpmbIo = false ∧ exit.device.installed .devicePath = false :=
  ⟨fun clean => ⟨clean.blockIo, clean.early early⟩, fun holds => ⟨holds.1, fun _ => holds.2,
    fun late => absurd (early.symm.trans late) (by decide)⟩⟩

/-- Behind that, the last status decides. -/
theorem cleanExit_late (late : reinitialized (.error (step, error)) = true) :
    CleanExit env step error exit ↔
      (¬ step.IsBlockIo → exit.device.installed .blockIo = true) ∧
        ExitReported env exit.device.installed exit.calls := by
  have status : (exitStatus env exit error).isError = true ↔
      ExitReported env exit.device.installed exit.calls := by
    rw [exitStatus, ExitReported]
    split
    · rfl
    · split
      · next flagged => simp [flagged, rpmbIoStatus]
      · next absent => simp [absent, error.property]
  rw [← status]
  exact ⟨fun clean => ⟨clean.blockIo, clean.late late⟩, fun holds => ⟨holds.1,
    fun early => absurd (early.symm.trans late) (by decide), fun _ => holds.2⟩⟩

theorem not_cleanExit (gone : exit.device.installed .blockIo = false) (other : ¬ step.IsBlockIo) :
    ¬ CleanExit env step error exit := by
  intro clean
  rw [clean.blockIo other] at gone
  cases gone

theorem exitReported_congr {flags others : InstalledProtocol → Bool} {calls : Nat}
    (devicePath : flags .devicePath = others .devicePath)
    (rpmbIo : flags .rpmbIo = others .rpmbIo) :
    ExitReported env flags calls ↔ ExitReported env others calls := by
  rw [ExitReported, ExitReported, devicePath, rpmbIo]

theorem wp_installs_replies :
    wp (handler env depth) (do
        ResetStep.devicePathText.run checkDevicePathText
        ResetStep.installBlockIo.run (install .blockIo)
        ResetStep.installDevicePath.run (install .devicePath)
        ResetStep.installRpmbIo.run installRpmbIoOfMmc
        pure true)
      (fun _ _ => InstallsReported env world)
      (fun failed exit => CleanExit env failed.1 failed.2 exit ↔ InstallsReported env world)
      world := by
  simp only [wp_bind, ResetStep.run, wp_mapError, wp_pure, InstallsReported, Nat.add_zero]
  refine wp_mono wp_checkDevicePathText_replies (fun _ _ text => ?_) fun error exit fails => ?_
  swap
  · obtain ⟨missing, rfl⟩ := fails
    rw [cleanExit_late rfl, if_pos (Bool.eq_false_iff.mpr missing)]
    exact and_congr_left fun _ => ⟨fun clean => clean (by simp [ResetStep.IsBlockIo]),
      fun flagged _ => flagged⟩
  obtain ⟨text, rfl⟩ := text
  rw [if_neg (by simp [text])]
  have called : (world.called []).calls = world.calls + 1 := rfl
  refine wp_mono (wp_install_replies .blockIo) (fun _ second blockIo => ?_)
    fun error exit fails => ?_
  swap
  · obtain ⟨fails, calls, same⟩ := fails
    rw [called] at fails calls
    rw [cleanExit_late rfl, if_pos fails, same, calls]
    exact and_iff_right fun other => absurd (.inr rfl) other
  obtain ⟨blockIo, calls, device⟩ := blockIo
  rw [called] at blockIo calls
  rw [if_neg (by simp [blockIo])]
  have flags : second.device.installed = Function.update world.device.installed .blockIo true := by
    rw [device, setInstalled_installed]
    rfl
  refine wp_mono (wp_install_replies .devicePath) (fun _ third devicePath => ?_)
    fun error exit fails => ?_
  swap
  · obtain ⟨fails, calls', same⟩ := fails
    rw [calls] at fails calls'
    rw [cleanExit_late rfl, if_pos fails, same, calls', flags]
    exact (and_iff_right fun _ => rfl).trans (exitReported_congr rfl rfl)
  obtain ⟨devicePath, calls', device'⟩ := devicePath
  rw [calls] at devicePath calls'
  rw [if_neg (by simp [devicePath])]
  have flags' : third.device.installed = Function.update
      (Function.update world.device.installed .blockIo true) .devicePath true := by
    rw [device', setInstalled_installed, flags]
  have function : third.device.cardInfo = world.device.cardInfo := by rw [device', device]; rfl
  refine wp_mono wp_installRpmbIoOfMmc_replies (fun _ _ installs => ?_) fun error exit fails => ?_
  · intro mmc taken failed
    have passed := installs ⟨by rw [function]; exact mmc, by rw [calls']; exact taken⟩
    rw [calls'] at passed
    exact absurd (passed.symm.trans failed) (by decide)
  · obtain ⟨⟨mmc, taken⟩, failed, calls, same⟩ := fails
    rw [calls'] at taken failed calls
    rw [function] at mmc
    rw [cleanExit_late rfl, same, calls, flags', forall_prop_of_true mmc,
      forall_prop_of_true taken, forall_prop_of_true failed]
    exact (and_iff_right fun _ => rfl).trans (exitReported_congr rfl rfl)

theorem cardReported_iff {initialized : Except ErrorStatus Unit} {left : World}
    (present : (env world.calls).flag = true)
    (executed : initializeDevice.exec (handler env depth) (readied env world) =
      some (initialized, left)) :
    CardReported env depth world ↔ InitializationReported env initialized left := by
  refine ⟨fun reported => ?_, fun holds _ => ⟨initialized, left, executed, holds⟩⟩
  obtain ⟨_, _, also, holds⟩ := reported present
  cases executed.symm.trans also
  exact holds

/-- The world in which it is known whether a card is present. -/
def detected (env : Environment) (world : World) : World :=
  { world.called [] with
    device := { world.device with
      slotInitialized := false
      media := { clearedMedia with mediaPresent := (env world.calls).flag }
      rpmbIo := ⟨CmdResponse.zero, 0, 0⟩ } }

section

variable {ok : Bool → World → Prop} {err : ErrorStatus → World → Prop}

theorem wp_detectCard_iff :
    wp (handler env depth) detectCard ok err world ↔
      ok (env world.calls).flag (detected env world) := by
  simp only [detectCard, clearMedia, setMedia, wp_bind, wp_modifyInstance, wp_pure]
  rw [wp_call id]
  rfl

theorem wp_initializeCard_iff {ok : Unit → World → Prop} :
    wp (handler env depth) initializeCard ok err (detected env world) ↔
      wp (handler env depth) initializeDevice ok err (readied env world) := by
  simp only [initializeCard, setMedia, wp_bind, wp_modifyInstance]
  rw [wp_call id]
  rfl

end

theorem wp_present_replies (present : (env world.calls).flag = true) :
    wp (handler env depth) (do
        ResetStep.initializeDevice.run initializeCard
        ResetStep.devicePathText.run checkDevicePathText
        ResetStep.installBlockIo.run (install .blockIo)
        ResetStep.installDevicePath.run (install .devicePath)
        ResetStep.installRpmbIo.run installRpmbIoOfMmc
        pure true)
      (fun _ _ => CardReported env depth world)
      (fun failed exit => CleanExit env failed.1 failed.2 exit ↔ CardReported env depth world)
      (detected env world) := by
  rw [wp_bind, ResetStep.run, wp_mapError, wp_initializeCard_iff]
  rintro ⟨error | value, left⟩ executed
  · change CleanExit env .initializeDevice error left ↔ _
    rw [cardReported_iff present executed, cleanExit_early rfl,
      forall_prop_of_true (by simp [ResetStep.IsBlockIo])]
    exact Iff.rfl
  · have reports : CardReported env depth world ↔ InstallsReported env left :=
      cardReported_iff present executed
    simp only [reports]
    exact wp_installs_replies

theorem wp_softResetSteps_replies :
    wp (handler env depth) softResetSteps (fun _ _ => ResetReported env depth world)
      (fun failed exit => CleanExit env failed.1 failed.2 exit ↔ ResetReported env depth world)
      world := by
  rw [softResetSteps, wp_bind, ResetStep.run, wp_mapError, uninstallAllProtocols, wp_bind]
  refine wp_mono (wp_uninstallIfInstalled_replies .blockIo) (fun _ _ first => ?_)
    fun error exit fails => ?_
  swap
  · obtain ⟨fails, same⟩ := fails
    have flagged : world.device.installed .blockIo = true := (Classical.not_imp.mp fails).1
    rw [cleanExit_early rfl, same, ResetReported, or_iff_left fun also => fails also.1]
    exact ⟨fun clean => ⟨fails, clean.2⟩, fun reported => ⟨fun _ => flagged, reported.2⟩⟩
  obtain ⟨blockIo, rfl⟩ := first
  -- from here on block I/O is not flagged, and only its own installation may fail
  have gone : (uninstalled env .blockIo world).device.installed .blockIo = false := by
    rw [uninstalled_installed, Function.update_self]
  have reports : ResetReported env depth world ↔ _ :=
    or_iff_right fun also => also.1 blockIo
  rw [reports, and_iff_right blockIo, wp_bind]
  generalize uninstalled env .blockIo world = one at gone
  refine wp_mono (wp_uninstallIfInstalled_replies .rpmbIo) (fun _ _ second => ?_)
    fun error exit fails => ?_
  swap
  · obtain ⟨fails, same⟩ := fails
    exact iff_of_false (not_cleanExit (by rw [same, gone]) (by simp [ResetStep.IsBlockIo]))
      fun reported => fails reported.1
  obtain ⟨rpmbIo, rfl⟩ := second
  have gone' := uninstalled_installed env .rpmbIo one
  dsimp only
  rw [and_iff_right rpmbIo]
  generalize uninstalled env .rpmbIo one = two at gone'
  refine wp_mono (wp_uninstallIfInstalled_replies .devicePath) (fun _ _ third => ?_)
    fun error exit fails => ?_
  swap
  · obtain ⟨fails, same⟩ := fails
    exact iff_of_false (not_cleanExit (by rw [same, gone']; simp [gone])
      (by simp [ResetStep.IsBlockIo])) fun reported => fails reported.1
  obtain ⟨devicePath, rfl⟩ := third
  have bare := uninstalled_installed env .devicePath two
  rw [and_iff_right devicePath]
  generalize uninstalled env .devicePath two = three at bare
  have none (protocol : InstalledProtocol) : three.device.installed protocol = false := by
    rw [bare, gone']
    cases protocol <;> simp [gone]
  rw [wp_bind, ResetStep.run, wp_mapError, wp_detectCard_iff, wp_ite]
  refine ⟨wp_present_replies, fun absent => ?_⟩
  have reports : CardReported env depth three := fun present => absurd present absent
  rw [iff_true_intro reports, wp_bind, ResetStep.run, wp_mapError]
  refine wp_mono (wp_install_replies .blockIo) (fun _ _ _ => (wp_pure false).mpr trivial)
    fun error exit fails => ?_
  rw [iff_true, cleanExit_early rfl, fails.2.2]
  exact ⟨fun other => absurd (.inl rfl) other, none .rpmbIo, none .devicePath⟩

end

/-- A soft reset is consistent if and only if the flags it starts from and the replies to it are as
`ResetReported` says. -/
theorem softReset_consistent_iff (env : Environment) {depth : Nat} {world : World}
    (room : nestingFrom world.device.errorRecoveryAttemptCount ≤ depth)
    (counts : world.device.errorRecoveryAttemptCount.toNat + 1 < 2 ^ 32)
    (synced : world.device.installed = world.installed) :
    ∃ result exit outcome,
      softResetSteps.exec (handler env depth) world = some (result, exit) ∧
      softReset.exec (handler env depth) world = some outcome ∧
      (ResetConsistent result (statusOf outcome) ↔ ResetReported env depth world) := by
  obtain ⟨outcome, ended, -⟩ :=
    exec_of_room env (softReset_resetting.mono Resetting.recording) room counts
  have whole := ended
  rw [softReset, exec_catching, softResetBody_eq, exec_bind, unlabelled, exec_mapError] at ended
  obtain ⟨body, bodyEnded, rest⟩ := Option.bind_eq_some_iff.mp ended
  obtain ⟨labelled, stepsEnded, bodyRest⟩ := Option.bind_eq_some_iff.mp bodyEnded
  obtain ⟨⟨result, exit⟩, steps, rfl⟩ := Option.map_eq_some_iff.mp stepsEnded
  refine ⟨result, exit, outcome, steps, whole, ?_⟩
  have spec := wp_softResetSteps (handler_recoverFromErrors_synced env depth)
    ((synced_iff world).mpr synced) _ steps
  have replies := wp_softResetSteps_replies _ steps
  cases result with
  | ok present =>
    obtain rfl := Option.some.inj bodyRest
    obtain rfl := Option.some.inj rest
    obtain ⟨protocols, installs, blockIo, absent⟩ := spec
    refine iff_of_true ⟨nofun, ?_, fun _ => ?_, fun kept => ?_⟩ replies
    · exact installs.flagged.trans installs.present.symm
    · exact installs.present ▸ blockIo
    · cases present with
      | true => rfl
      | false => simp [statusOf, installs.present, absent rfl] at kept
  | error failed =>
    obtain ⟨step, error⟩ := failed
    obtain rfl := Option.some.inj bodyRest
    obtain ⟨protocols, installs⟩ := spec
    have exits := wp_softResetExit error installs outcome rest
    rcases outcome with ⟨returned | value, after⟩
    · obtain ⟨same, left⟩ := exits
      rw [statusOf, consistent_iff_cleanExit installs left (congrArg EfiStatus.isError same)]
      exact replies
    · obtain ⟨passed, left⟩ := exits
      have returned : EfiStatus.success.isError = (exitStatus env exit error).isError := by
        rw [passed, EfiStatus.isError_success]
      rw [statusOf, consistent_iff_cleanExit installs left returned]
      exact replies

def World.allInstalled : World :=
  { World.start ⟨0⟩ with
    device := { createSdhcInstance with
      blockIoProtocolInstalled := true
      devicePathProtocolInstalled := true
      rpmbIoProtocolInstalled := true }
    installed := fun _ => true }

theorem World.allInstalled_synced :
    World.allInstalled.device.installed = World.allInstalled.installed := by
  funext protocol
  cases protocol <;> rfl

/-- The reset of an instance with everything installed, on a host that fails. -/
theorem softReset_consistent_deadHost :
    ∃ result exit outcome,
      softResetSteps.exec (handler (fun _ => HostReply.failing) 4) World.allInstalled =
        some (result, exit) ∧
      softReset.exec (handler (fun _ => HostReply.failing) 4) World.allInstalled = some outcome ∧
      (ResetConsistent result (statusOf outcome) ↔
        ResetReported (fun _ => HostReply.failing) 4 World.allInstalled) :=
  softReset_consistent_iff (fun _ => HostReply.failing) (by decide) (by decide)
    World.allInstalled_synced

/-- Block I/O cannot be uninstalled: the exit uninstalls the other protocols, and the
reset returns success. -/
theorem softReset_swallowsError :
    ∃ result exit outcome,
      softResetSteps.exec (handler
        (fun call => if call = 0 then HostReply.failing else HostReply.answering 0x900) 4)
        World.allInstalled = some (result, exit) ∧
      softReset.exec (handler
        (fun call => if call = 0 then HostReply.failing else HostReply.answering 0x900) 4)
        World.allInstalled = some outcome ∧
      ¬ ResetConsistent result (statusOf outcome) := by
  refine ⟨_, _, _, rfl, rfl, fun consistent => ?_⟩
  exact absurd (consistent.reported nofun) (by decide)

end MuRockchip.SdMmc
