/-
The partition the card is left on.

The driver records the partition it has switched the card to, and an RPMB request
switches back to the record. A partition is recorded only where the EXT_CSD read
back from the card shows it. A switch whose later steps fail, or a soft reset that
does not get as far as its record, moves the card without a record.

* `wp_sdhcSendExtCsdMmc`: a successful read of the EXT_CSD shows the card's partition.
* `handler_recoverFromErrors_tracked`: no recovery records a wrong partition.
* `givesUpInPlace_sdhcSwitchPartitionMmc`: a switch whose steps fail only where the card is on the
  recorded partition ends there.
* `partition_kept`: so in every run, requests and block I/O keep apart.
-/
import MuRockchip.SdMmc.SoftResetSafety
import MuRockchip.SdMmc.Transcript

namespace MuRockchip.SdMmc

open MuRockchip.Base
open MuRockchip.Base.Prog

/-! ### Moves and records -/

/-- The record is the partition the card is switched to. -/
def Agrees (world : World) : Prop := world.device.currentMmcPartition = world.card.access
  deriving Decidable

def Event.Moves : Event → Prop
  | .command cmd arg _ _ executed card => (cardAfter card executed cmd arg).access ≠ card.access
  | _ => False

instance : DecidablePred Event.Moves := fun event => by
  unfold Event.Moves
  split <;> infer_instance

/-- A record of the partition settles all moves before it. -/
def Event.settle (moved : Bool) : Event → Bool
  | .command cmd arg _ _ executed card =>
    moved || (cardAfter card executed cmd arg).access ≠ card.access
  | .recorded _ _ => false
  | _ => moved

theorem settle_of_not_moves (events : List Event) (still : ∀ event ∈ events, ¬ event.Moves) :
    events.foldl Event.settle false = false := by
  induction events with
  | nil => rfl
  | cons event rest ih =>
    obtain ⟨here, later⟩ := List.forall_mem_cons.mp still
    have settled : event.settle false = false := by
      cases event with
      | command cmd arg xfrInfo status executed card =>
        simpa [Event.settle, Event.Moves] using here
      | _ => rfl
    rw [List.foldl_cons, settled]
    exact ih later

/-- Wherever the card is first, or if it has been moved (`moved`), the record is its partition in
the end, unless it has been moved since the record was written last. -/
def KeepsTracked (before after : World) : Prop :=
  ∃ events, after.log = before.log ++ events ∧
    ∀ moved, (moved = false → Agrees before) → events.foldl Event.settle moved = false →
      Agrees after

theorem KeepsTracked.refl (world : World) : KeepsTracked world world :=
  ⟨[], (List.append_nil _).symm, fun _ agreed => agreed⟩

theorem KeepsTracked.trans {first second third : World} (one : KeepsTracked first second)
    (other : KeepsTracked second third) : KeepsTracked first third := by
  obtain ⟨events, grown, tracks⟩ := one
  obtain ⟨more, grownMore, tracksMore⟩ := other
  refine ⟨events ++ more, by rw [grownMore, grown, List.append_assoc], fun moved agreed => ?_⟩
  rw [List.foldl_append]
  exact tracksMore _ (tracks moved agreed)

theorem KeepsTracked.of_event {before after : World} {event : Event}
    (log : after.log = before.log ++ [event]) (quiet : ∀ moved, event.settle moved = moved)
    (partition : after.device.currentMmcPartition = before.device.currentMmcPartition)
    (card : after.card = before.card) : KeepsTracked before after := by
  refine ⟨[event], log, fun moved agreed settled => ?_⟩
  rw [Agrees, partition, card]
  exact agreed ((quiet moved).symm.trans settled)

theorem KeepsTracked.of_same {before after : World} (log : after.log = before.log)
    (partition : after.device.currentMmcPartition = before.device.currentMmcPartition)
    (card : after.card = before.card) : KeepsTracked before after := by
  refine ⟨[], by rw [log, List.append_nil], fun moved agreed settled => ?_⟩
  rw [Agrees, partition, card]
  exact agreed settled

/-- Where nothing moves the card, a record that was right stays right. -/
theorem KeepsTracked.agrees {before after : World} (kept : KeepsTracked before after)
    (agreed : Agrees before)
    (still : ∀ event ∈ after.log.drop before.log.length, ¬ event.Moves) : Agrees after := by
  obtain ⟨events, grown, tracks⟩ := kept
  rw [grown, List.drop_left] at still
  exact tracks false (fun _ => agreed) (settle_of_not_moves events still)

section

variable {env : Environment} {depth : Nat} {start world : World}

theorem sendCommand_tracked (reply : HostReply) (cmd : SdCommand) (arg : UInt32)
    (xfrInfo : Option SdCommandXfrInfo) :
    KeepsTracked world (serviceEffect reply world (.sendCommand cmd arg xfrInfo)) := by
  refine ⟨_, rfl, fun moved agreed settled => ?_⟩
  simp only [List.foldl_cons, List.foldl_nil, Event.settle, Bool.or_eq_false_iff,
    decide_eq_false_iff_not, not_not] at settled
  exact (agreed settled.1).trans settled.2.symm

theorem serviceEffect_tracked (reply : HostReply) (service : Service) :
    KeepsTracked world (serviceEffect reply world service) := by
  cases service with
  | sendCommand cmd arg xfrInfo => exact sendCommand_tracked reply cmd arg xfrInfo
  | readBlockData lengthInBytes buffer =>
    cases buffer <;> exact .of_event rfl (fun _ => rfl) rfl rfl
  | receiveResponse | writeBlockData => exact .of_event rfl (fun _ => rfl) rfl rfl
  | _ => exact .of_same (List.append_nil _) rfl rfl

variable {op : SdmmcOp} {after before : World} {maximumBlockCount : UInt32}

theorem hostEffect_tracked (recordless : Recordless op) (world : World) :
    KeepsTracked world (hostEffect env op world).2 := by
  cases op with
  | service service => exact serviceEffect_tracked _ service
  | modifyInstance change => exact .of_same rfl (recordless world.device).partition rfl
  | rememberCommand cmd => exact .of_event rfl (fun _ => rfl) rfl rfl
  | recordPartition partition => exact recordless.elim
  | isCardPresent | nullCmdEquals | isReadOnly | convertDevicePathToText =>
    exact .of_same (List.append_nil _) rfl rfl
  | _ => exact KeepsTracked.refl world

theorem wp_recordPartition {partition : PartitionAccess} (tracked : KeepsTracked start world)
    (right : partition = world.card.access) :
    wp (handler env depth) (call (.recordPartition partition))
      (fun _ after => KeepsTracked start after ∧ after.device.currentMmcPartition = partition ∧
        after.card.access = partition)
      (fun _ after => KeepsTracked start after) world := by
  rw [wp_call id]
  refine ⟨tracked.trans ⟨[.recorded partition world.card], rfl, fun _ _ _ => right⟩, rfl, ?_⟩
  exact right.symm

section

variable (recovers : ∀ cmd world answered,
  handler env depth (.recoverFromErrors cmd) world = some answered → KeepsTracked world answered.2)

include recovers

/-- Where recoveries keep the record right, programs that write no record do. -/
theorem wp_keepsTracked {α : Type} {program : Sd α} (recordless : program.All Recordless)
    (world : World) :
    wp (handler env depth) program (fun _ after => KeepsTracked world after)
      (fun _ after => KeepsTracked world after) world :=
  wp_of_preserves KeepsTracked.refl KeepsTracked.trans
    (handler_keeps recovers fun _ world holds => hostEffect_tracked holds world) recordless world

theorem wp_tracked {α : Type} {program : Sd α} (recordless : program.All Recordless)
    (tracked : KeepsTracked start world) :
    wp (handler env depth) program (fun _ after => KeepsTracked start after)
      (fun _ after => KeepsTracked start after) world :=
  wp_mono (wp_keepsTracked recovers recordless world) (fun _ _ kept => tracked.trans kept)
    fun _ _ kept => tracked.trans kept

end

/-! ### The EXT_CSD -/

/-- The EXT_CSD the driver holds shows the card's partition. -/
def Fresh (world : World) : Prop :=
  partitionAccess world.device.cardInfo.extCsd.partitionConfig = world.card.access

theorem Unmoved.fresh (unmoved : Unmoved before after) (fresh : Fresh before) : Fresh after := by
  unfold Fresh
  rw [unmoved.card, unmoved.extCsd]
  exact fresh

/-- The operation keeps the card and what the driver holds of it. -/
def Steady : SdmmcOp → Prop
  | .service (.sendCommand cmd arg _) => cmd ≠ cmdGoIdleState ∧ NoSwitch cmd arg
  | .service (.readBlockData _ buffer) => buffer ≠ .blockBuffer
  | .modifyInstance change => ∀ device,
    (change device).cardInfo.extCsd = device.cardInfo.extCsd ∧
      (change device).cardInfo.cardFunction = device.cardInfo.cardFunction ∧
      (change device).blockBuffer = device.blockBuffer
  | .recoverFromErrors _ => False
  | _ => True

theorem Quiet.steady (op : SdmmcOp) (quiet : Quiet op) : Steady op := by
  cases op with
  | service service =>
    cases service with
    | sendCommand | readBlockData => exact quiet
    | _ => trivial
  | modifyInstance change =>
    intro device
    exact ⟨(quiet device).extCsd, (quiet device).cardFunction, (quiet device).blockBuffer⟩
  | recoverFromErrors cmd => exact quiet
  | _ => trivial

theorem hostEffect_unmoved (steady : Steady op) (world : World) :
    Unmoved world (hostEffect env op world).2 := by
  cases op with
  | service service =>
    cases service with
    | sendCommand cmd arg xfrInfo =>
      refine ⟨?_, rfl, rfl, rfl⟩
      have same : world.card.execute cmd arg = world.card :=
        execute_of_otherCommand world.card steady.1 steady.2
      simp [hostEffect, serviceEffect, cardAfter, same]
    | readBlockData lengthInBytes buffer =>
      cases buffer with
      | blockBuffer => exact absurd rfl steady
      | _ => exact ⟨rfl, rfl, rfl, rfl⟩
    | _ => exact ⟨rfl, rfl, rfl, rfl⟩
  | modifyInstance change =>
    obtain ⟨extCsd, cardFunction, blockBuffer⟩ := steady world.device
    exact ⟨rfl, extCsd, cardFunction, blockBuffer⟩
  | recoverFromErrors cmd => exact steady.elim
  | _ => exact ⟨rfl, rfl, rfl, rfl⟩

/-- A program that stays steady until it gives up leaves the card where it is when it
succeeds. -/
theorem wp_steady {α : Type} {program : Sd α} (steady : program.Guarded Steady IsRecovery)
    (world : World) :
    wp (handler env depth) program (fun _ after => Unmoved world after) (fun _ _ => True)
      world := by
  refine steady.wp Unmoved.refl Unmoved.trans (fun op before answered holds defined => ?_) world
  have noRecovery : ¬ IsRecovery op := by
    cases op with
    | recoverFromErrors cmd => exact holds.elim
    | _ => exact id
  rw [handler_eq_hostEffect noRecovery] at defined
  exact Option.some.inj defined ▸ hostEffect_unmoved holds before

theorem wp_quiet {α : Type} {program : Sd α} (quiet : program.Guarded Quiet IsRecovery)
    (world : World) :
    wp (handler env depth) program (fun _ after => Unmoved world after) (fun _ _ => True) world :=
  wp_steady (quiet.mono Quiet.steady) world

theorem readBlockData_extCsd {sent : World} (reply : HostReply)
    (asked : sent.lastSent = some cmdSendExtCsdMmc) :
    (MmcExtCsd.ofBlock (serviceEffect reply sent (.readBlockData sdBlockLengthBytes
      .blockBuffer)).device.blockBuffer).partitionConfig = sent.card.partitionConfig := by
  have full : 512 ≤ ((List.range sdBlockLengthBytes.toNat).map reply.data).length := by
    simp [sdBlockLengthBytes]
  simp only [serviceEffect, World.storeBuffer, World.dataBlock, asked, if_true]
  exact extCsdBlock_partitionConfig sent.card full

theorem wp_sdhcSendExtCsdMmc_config (world : World) :
    wp (handler env depth) sdhcSendExtCsdMmc
      (fun _ after =>
        after.device.cardInfo.extCsd.partitionConfig = after.card.partitionConfig ∧
          after.card = world.card ∧
          after.device.currentMmcPartition = world.device.currentMmcPartition)
      (fun _ _ => True) world := by
  simp only [sdhcSendExtCsdMmc, rcaArgument, wp_bind, wp_instanceData, wp_pure]
  refine wp_mono (wp_sdhcSendDataCommand (by decide) _ _ _ (.inl (by decide)))
    (fun _ after spec => ?_) fun _ _ _ => trivial
  have read : transferService cmdSendExtCsdMmc sdBlockLengthBytes .blockBuffer =
      .readBlockData sdBlockLengthBytes .blockBuffer := if_pos (by decide)
  have kept := spec.2.2.unmoved
  have sent := announced_unmoved env sdBlockLengthBytes .blockBuffer world
    (show cmdSendExtCsdMmc ≠ cmdGoIdleState by decide)
    (noSwitch_of_ne (world.device.cardInfo.rca <<< 16) (by decide))
  have asked := announced_lastSent env cmdSendExtCsdMmc (world.device.cardInfo.rca <<< 16)
    sdBlockLengthBytes .blockBuffer world
  have same : after.device.currentMmcPartition = world.device.currentMmcPartition :=
    spec.2.2.partition.trans (serviceEffect_device _ _ _).1.partition
  rw [read] at kept
  generalize world.announced env cmdSendExtCsdMmc (world.device.cardInfo.rca <<< 16)
    sdBlockLengthBytes .blockBuffer = announced at kept sent asked
  have card : after.card = announced.card := kept.card
  rw [wp_modifyInstance]
  refine ⟨?_, card.trans sent.card, same⟩
  simp only [SdhcInstance.takeExtCsd, card, kept.blockBuffer]
  exact readBlockData_extCsd _ asked

theorem wp_sdhcSendExtCsdMmc (world : World) :
    wp (handler env depth) sdhcSendExtCsdMmc
      (fun _ after => Fresh after ∧ after.card = world.card ∧
        after.device.currentMmcPartition = world.device.currentMmcPartition) (fun _ _ => True)
      world :=
  wp_mono (wp_sdhcSendExtCsdMmc_config world)
    (fun _ _ read => ⟨congrArg partitionAccess read.1, read.2⟩) fun _ _ _ => trivial

/-! ### Initialization -/

theorem wp_switchPowerClass_fresh (fresh : Fresh world) :
    wp (handler env depth) switchPowerClass (fun _ after => Fresh after) (fun _ _ => True)
      world := by
  rw [switchPowerClass, wp_bind, wp_instanceData, wp_ite]
  refine ⟨fun _ => wp_after fun _ switched => ?_, fun _ => (wp_pure ()).mpr fresh⟩
  rw [wp_bind]
  refine wp_mono (wp_sdhcSendExtCsdMmc switched) (fun _ _ read => ?_) fun _ _ _ => trivial
  rw [wp_bind, wp_instanceData, wp_ite]
  exact ⟨fun _ => (wp_fail _).mpr trivial, fun _ => (wp_pure ()).mpr read.1⟩

theorem wp_sdhcSwitchBusWidthMmc_fresh (world : World) :
    wp (handler env depth) sdhcSwitchBusWidthMmc (fun _ after => Fresh after) (fun _ _ => True)
      world := by
  rw [sdhcSwitchBusWidthMmc, wp_bind]
  refine wp_mono (wp_sdhcSendExtCsdMmc world) (fun _ _ read => ?_) fun _ _ _ => trivial
  rw [wp_bind]
  refine wp_mono (wp_switchPowerClass_fresh read.1) (fun _ powered fresh => ?_) fun _ _ _ => trivial
  have rest : (do
      sdhcSendCommand cmdSwitchMmc (writeByteArg indexBusWidth 2)
      callService (.setBusWidth .bits8)).Guarded Quiet IsRecovery :=
    guarded_bind (sdhcSendCommand_quiet (by decide) (noSwitch_writeByte 2 (by decide))) fun _ =>
      callService_guarded trivial
  exact wp_mono (wp_quiet rest powered) (fun _ _ kept => kept.fresh fresh) fun _ _ _ => trivial

theorem wp_initializeMmcDevice_fresh (world : World) :
    wp (handler env depth) initializeMmcDevice (fun _ after => Fresh after) (fun _ _ => True)
      world := by
  refine wp_after fun _ _ => wp_after fun _ _ => wp_after fun _ _ => wp_after fun _ _ =>
    wp_after fun _ _ => wp_after fun _ _ => wp_after fun _ _ => wp_after fun _ speed => ?_
  rw [wp_bind]
  refine wp_mono (wp_sdhcSwitchBusWidthMmc_fresh speed) (fun _ wide fresh => ?_)
    fun _ _ _ => trivial
  exact wp_mono (wp_quiet sdhcSetMaxClockFrequency_quiet wide) (fun _ _ kept => kept.fresh fresh)
    fun _ _ _ => trivial

/-- The EXT_CSD the driver holds of an MMC shows the card's partition. -/
def MmcFresh (world : World) : Prop := world.device.cardInfo.cardFunction = .mmc → Fresh world

theorem Unmoved.mmcFresh (unmoved : Unmoved before after)
    (fresh : MmcFresh before) : MmcFresh after :=
  fun mmc => unmoved.fresh (fresh (unmoved.cardFunction ▸ mmc))

theorem wp_initializeByFunction_fresh (world : World) :
    wp (handler env depth) initializeByFunction (fun _ after => MmcFresh after) (fun _ _ => True)
      world := by
  rw [initializeByFunction, wp_bind, wp_instanceData, wp_ite]
  constructor
  · intro sd
    refine wp_mono (wp_quiet initializeSdDevice_quiet world) (fun _ _ kept mmc => ?_)
      fun _ _ _ => trivial
    rw [kept.cardFunction, sd] at mmc
    cases mmc
  · intro _
    rw [wp_ite]
    exact ⟨fun _ => wp_mono (wp_initializeMmcDevice_fresh world) (fun _ _ fresh _ => fresh)
      fun _ _ _ => trivial, fun _ => (wp_fail _).mpr trivial⟩

/-- A card that was initialized has shown its partition. -/
theorem wp_initializeDevice_fresh (world : World) :
    wp (handler env depth) initializeDevice (fun _ after => MmcFresh after) (fun _ _ => True)
      world := by
  refine wp_after fun _ _ => wp_after fun _ _ => wp_after fun _ _ => wp_after fun _ known => ?_
  rw [wp_bind]
  refine wp_mono (wp_initializeByFunction_fresh known) (fun _ initialized fresh => ?_)
    fun _ _ _ => trivial
  rw [wp_bind]
  refine wp_mono (wp_quiet (sdhcSetBlockLength_quiet _) initialized) (fun _ _ kept => ?_)
    fun _ _ _ => trivial
  rw [wp_modifyInstance]
  exact kept.mmcFresh fresh

/-! ### Soft reset and recovery -/

theorem setInstalled_steady (protocol : InstalledProtocol) (installed : Bool) :
    (setInstalled protocol installed).Guarded Steady IsRecovery :=
  guarded_invoke fun _ => by cases protocol <;> exact ⟨rfl, rfl, rfl⟩

theorem install_steady (protocol : InstalledProtocol) :
    (install protocol).Guarded Steady IsRecovery :=
  guarded_bind (callService_guarded trivial) fun _ => setInstalled_steady _ _

theorem detectCard_publishing : detectCard.All Publishing :=
  all_bind clearMedia_publishing fun _ =>
    all_bind ((all_invoke _).mpr trivial) fun _ =>
      all_bind (setMedia_publishing _) fun _ => all_pure _

theorem checkDevicePathText_publishing : checkDevicePathText.All Publishing :=
  all_bind ((all_invoke _).mpr trivial) fun _ => all_ite (all_pure _) (raise_all _ _)

theorem checkDevicePathText_steady : checkDevicePathText.Guarded Steady IsRecovery :=
  guarded_bind (guarded_invoke trivial) fun _ => guarded_ite (guarded_pure _) (raise_guarded _ _)

theorem isRpmbInstalled_steady : isRpmbInstalledOnTheSystem.Guarded Steady IsRecovery :=
  guarded_bind (guarded_invoke trivial) fun _ => guarded_pure _

section

variable (recovers : ∀ cmd world answered,
  handler env depth (.recoverFromErrors cmd) world = some answered → KeepsTracked world answered.2)

include recovers

/-- Publishing protocols moves nothing and records nothing. -/
theorem wp_publish {α : Type} {program : Sd α} (publishing : program.All Publishing)
    (steady : program.Guarded Steady IsRecovery) (tracked : KeepsTracked start world) :
    wp (handler env depth) program (fun _ after => KeepsTracked start after ∧ Unmoved world after)
      (fun _ after => KeepsTracked start after) world := by
  have both := wp_and (wp_tracked recovers (publishing.mono Publishing.recordless) tracked)
    (wp_steady steady world)
  exact wp_mono both (fun _ _ kept => kept) fun _ _ kept => kept.1

/-- The record of an MMC is taken over from an EXT_CSD that shows its partition. -/
theorem wp_installRpmbIo_tracked (tracked : KeepsTracked start world) (fresh : Fresh world) :
    wp (handler env depth) installRpmbIo (fun _ after => KeepsTracked start after)
      (fun _ after => KeepsTracked start after) world := by
  rw [installRpmbIo, wp_bind]
  refine wp_mono (wp_publish recovers isRpmbInstalled_publishing isRpmbInstalled_steady tracked)
    (fun _ located asked => ?_) fun _ _ kept => kept
  rw [wp_ite]
  refine ⟨fun _ => (wp_pure ()).mpr asked.1, fun _ => ?_⟩
  rw [wp_bind]
  refine wp_mono (wp_publish recovers (install_publishing .rpmbIo) (install_steady .rpmbIo) asked.1)
    (fun _ installed kept => ?_) fun _ _ kept => kept
  rw [wp_bind, wp_instanceData]
  exact wp_mono (wp_recordPartition kept.1 (kept.2.fresh (asked.2.fresh fresh)))
    (fun _ _ recorded => recorded.1) fun _ _ kept => kept

theorem wp_installRpmbIoOfMmc_tracked (tracked : KeepsTracked start world)
    (fresh : MmcFresh world) :
    wp (handler env depth) installRpmbIoOfMmc (fun _ after => KeepsTracked start after)
      (fun _ after => KeepsTracked start after) world := by
  rw [installRpmbIoOfMmc, wp_bind, wp_instanceData, wp_ite]
  exact ⟨fun mmc => wp_installRpmbIo_tracked recovers tracked (fresh mmc),
    fun _ => (wp_pure ()).mpr tracked⟩

theorem wp_initializeCard_tracked (tracked : KeepsTracked start world) :
    wp (handler env depth) initializeCard (fun _ after => KeepsTracked start after ∧ MmcFresh after)
      (fun _ after => KeepsTracked start after) world := by
  have described : initializeCard.All Recordless :=
    all_bind ((all_invoke _).mpr trivial) fun _ =>
      all_bind ((setMedia_publishing _).mono Publishing.recordless) fun _ =>
        initializeDevice_routine.mono Routine.recordless
  have shown : wp (handler env depth) initializeCard (fun _ after => MmcFresh after)
      (fun _ _ => True) world :=
    wp_after fun _ _ => wp_after fun _ _ => wp_initializeDevice_fresh _
  exact wp_mono (wp_and (wp_tracked recovers described tracked) shown) (fun _ _ kept => kept)
    fun _ _ kept => kept.1

theorem wp_softResetSteps_tracked (tracked : KeepsTracked start world) :
    wp (handler env depth) softResetSteps (fun _ after => KeepsTracked start after)
      (fun _ after => KeepsTracked start after) world := by
  simp only [softResetSteps, wp_bind, ResetStep.run, wp_mapError]
  have uninstalled := wp_tracked recovers
    (uninstallAllProtocols_publishing.mono Publishing.recordless) tracked
  refine wp_mono uninstalled (fun _ _ tracked => ?_) fun _ _ kept => kept
  refine wp_mono (wp_tracked recovers (detectCard_publishing.mono Publishing.recordless) tracked)
    (fun present _ tracked => ?_) fun _ _ kept => kept
  rw [wp_ite]
  constructor
  · rintro rfl
    simp only [wp_bind, wp_mapError, wp_pure]
    refine wp_mono (wp_initializeCard_tracked recovers tracked) (fun _ _ initialized => ?_)
      fun _ _ kept => kept
    refine wp_mono (wp_publish recovers checkDevicePathText_publishing checkDevicePathText_steady
      initialized.1) (fun _ _ text => ?_) fun _ _ kept => kept
    refine wp_mono (wp_publish recovers (install_publishing _) (install_steady _) text.1)
      (fun _ _ blockIo => ?_) fun _ _ kept => kept
    refine wp_mono (wp_publish recovers (install_publishing _) (install_steady _) blockIo.1)
      (fun _ _ devicePath => ?_) fun _ _ kept => kept
    have unmoved := (text.2.trans blockIo.2).trans devicePath.2
    exact wp_installRpmbIoOfMmc_tracked recovers devicePath.1 (unmoved.mmcFresh initialized.2)
  · intro absent
    simp only [wp_bind, wp_mapError, wp_pure]
    exact wp_tracked recovers ((install_publishing _).mono Publishing.recordless) tracked

theorem wp_softReset_tracked (tracked : KeepsTracked start world) :
    wp (handler env depth) softReset (fun _ after => KeepsTracked start after)
      (fun _ after => KeepsTracked start after) world := by
  simp only [softReset, softResetBody_eq, unlabelled, wp_catching, wp_bind, wp_mapError, wp_pure]
  refine wp_mono (wp_softResetSteps_tracked recovers tracked) (fun _ _ kept => kept)
    fun failed _ kept => ?_
  exact wp_tracked recovers ((softResetExit_publishing _).mono Publishing.recordless) kept

theorem wp_recoverySteps_tracked (cmd : SdCommand) (tracked : KeepsTracked start world) :
    wp (handler env depth) (recoverySteps cmd) (fun _ after => KeepsTracked start after)
      (fun _ after => KeepsTracked start after) world := by
  rw [recoverySteps, wp_bind, wp_instanceData, wp_ite]
  refine ⟨fun _ => (wp_fail _).mpr tracked, fun _ => ?_⟩
  rw [wp_bind]
  refine wp_mono (wp_tracked recovers ((resetLines_routine cmd).mono Routine.recordless) tracked)
    (fun status _ tracked => ?_) fun _ _ kept => kept
  have stops (after : World) (tracked : KeepsTracked start after) :=
    wp_tracked recovers ((stopIfTransferring_routine cmd).mono Routine.recordless) tracked
  rw [wp_bind, onlyIf, wp_ite]
  refine ⟨fun _ => ?_, fun _ => (wp_pure ()).mpr (stops _ tracked)⟩
  exact wp_mono (wp_softReset_tracked recovers tracked) (fun _ => stops) fun _ _ kept => kept

end

/-- No recovery records a wrong partition. -/
theorem handler_recoverFromErrors_tracked (env : Environment) (depth : Nat) (cmd : SdCommand)
    (world : World) (answered : Unit × World)
    (defined : handler env depth (.recoverFromErrors cmd) world = some answered) :
    KeepsTracked world answered.2 :=
  handler_recovers (fun _ _ kept => kept)
    (fun _ recovers cmd entered =>
      wp_recoverySteps_tracked recovers cmd (KeepsTracked.refl entered))
    depth cmd world answered defined

/-! ### Requests -/

theorem wp_sdhcSwitchPartitionMmc (partition : PartitionAccess)
    (tracked : KeepsTracked start world) :
    wp (handler env depth) (sdhcSwitchPartitionMmc partition)
      (fun _ after => KeepsTracked start after ∧ after.device.currentMmcPartition = partition ∧
        after.card.access = partition)
      (fun _ after => KeepsTracked start after) world := by
  have recovers := handler_recoverFromErrors_tracked env depth
  have switches (arg : UInt32) : (sdhcSendCommand cmdSwitchMmc arg).All Recordless :=
    (routine_all (sdhcSendCommand_guarded commandOps_routine trivial)).mono Routine.recordless
  have reads := sdhcSendExtCsdMmc_routine.mono Routine.recordless
  rw [sdhcSwitchPartitionMmc, wp_bind, wp_instanceData, wp_bind]
  refine wp_mono (wp_tracked recovers (switches _) tracked) (fun _ switched tracked => ?_)
    fun _ _ kept => kept
  rw [wp_bind]
  refine wp_mono (wp_and (wp_tracked recovers reads tracked) (wp_sdhcSendExtCsdMmc switched))
    (fun _ shown read => ?_) fun _ _ kept => kept.1
  rw [wp_bind, wp_instanceData, wp_ite]
  refine ⟨fun _ => (wp_fail _).mpr read.1, fun same => ?_⟩
  rw [not_not] at same
  exact wp_recordPartition read.1 (same.symm.trans read.2.1)

theorem sdhcSetBlockCount_routine (blockCount : UInt32) (reliableWrite : Bool) :
    (sdhcSetBlockCount blockCount reliableWrite).All (Routine NoSwitch) :=
  sdhcSendCommand_routine (noSwitch_of_ne _ (by decide))

theorem rpmbRead_routine (request : TransferBuffer) (response : RpmbDataBuffer) :
    (rpmbRead request response).All (Routine NoSwitch) :=
  all_bind (sdhcSetBlockCount_routine _ _) fun _ =>
    all_bind (sdhcSendDataCommand_routine (by decide) _ _ _) fun _ =>
      all_bind (sdhcSetBlockCount_routine _ _) fun _ =>
        sdhcSendDataCommand_routine (by decide) _ _ _

theorem rpmbWrite_routine (request : RpmbDataBuffer) :
    (rpmbWrite request).All (Routine NoSwitch) :=
  all_bind (sdhcSetBlockCount_routine _ _) fun _ => sdhcSendDataCommand_routine (by decide) _ _ _

theorem rpmbDispatch_routine (request response : RpmbDataBuffer) :
    (rpmbDispatch request response).All (Routine NoSwitch) :=
  all_bind (all_bind ((all_invoke _).mpr trivial) fun _ => all_pure _) fun _ =>
    all_ite (all_bind (rpmbWrite_routine _) fun _ => rpmbRead_routine _ _)
      (all_ite (rpmbRead_routine _ _)
        (all_ite (rpmbRead_routine _ _)
          (all_ite (all_bind (rpmbWrite_routine _) fun _ => rpmbRead_routine _ _) (all_pure _))))

theorem wp_rpmbRequest (request response : RpmbDataBuffer) (tracked : KeepsTracked start world) :
    wp (handler env depth) (rpmbRequest request response)
      (fun _ after => KeepsTracked start after ∧
        after.card.access = world.device.currentMmcPartition)
      (fun _ after => KeepsTracked start after) world := by
  have recovers := handler_recoverFromErrors_tracked env depth
  rw [rpmbRequest, wp_bind, wp_instanceData, wp_bind]
  refine wp_mono (wp_sdhcSwitchPartitionMmc .rpmb tracked) (fun _ _ switched => ?_)
    fun _ _ kept => kept
  rw [wp_bind, wp_catching]
  refine wp_mono (wp_tracked recovers ((rpmbDispatch_routine request response).mono
    Routine.recordless) switched.1) (fun _ _ tracked => ?_) fun _ _ tracked => ?_
  · exact wp_mono (wp_sdhcSwitchPartitionMmc _ tracked) (fun _ _ back => ⟨back.1, back.2.2⟩)
      fun _ _ kept => kept
  · simp only [ignoringErrors, wp_bind, wp_catching, wp_pure, wp_fail]
    exact wp_mono (wp_sdhcSwitchPartitionMmc _ tracked) (fun _ _ back => back.1)
      fun _ _ kept => kept

/-! ### Steps that fail -/

/-- The `SEND_STATUS` commands in a row that the log ends with. -/
def statusPolls (log : List Event) : Nat :=
  log.foldl
    (fun polls event =>
      match event with
      | .command cmd _ _ _ _ _ => if cmd = cmdSendStatus then polls + 1 else 0
      | _ => polls)
    0

/-- A step of a switch fails with the answer to the call: the host reports a failure, or the card an
error that is seen; a `SWITCH` is not executed; or the card is polled once too often. -/
def StepFails (env : Environment) (op : SdmmcOp) (world : World) : Prop :=
  match op with
  | .service (.sendCommand cmd arg _) =>
    (env world.calls).status.isError = true ∨
      (isPartitionSwitch cmd arg = true ∧ (env world.calls).executed = false) ∨
      (cmd = cmdSendStatus ∧ sdmmcPollWaitCount ≤ statusPolls world.log)
  | .service (.receiveResponse cmd) =>
    (env world.calls).status.isError = true ∨ (cmd.HasCardStatus ∧
      isCardStatusError world.device.cardInfo.cardFunction (env world.calls).response.word0 = true)
  | .service _ => (env world.calls).status.isError = true
  | _ => False

instance (env : Environment) (op : SdmmcOp) (world : World) :
    Decidable (StepFails env op world) := by
  unfold StepFails
  split <;> infer_instance

/-- Where a step fails, the card is then on the recorded partition; and no command of a recovery
moves it. -/
structure FailsInPlace (env : Environment) (op : SdmmcOp) (world : World) : Prop where
  step : StepFails env op world → Agrees (hostEffect env op world).2
  recovery : IsRecovery op → ∀ answered ∈ driver env op world,
    ∀ event ∈ answered.2.log.drop world.log.length, ¬ event.Moves

instance : DecidablePred IsRecovery := fun op => by
  unfold IsRecovery
  split <;> infer_instance

instance (env : Environment) (op : SdmmcOp) (world : World) :
    Decidable (FailsInPlace env op world) :=
  decidable_of_iff ((StepFails env op world → Agrees (hostEffect env op world).2) ∧
      (IsRecovery op → ∀ answered ∈ driver env op world,
        ∀ event ∈ answered.2.log.drop world.log.length, ¬ event.Moves))
    ⟨fun both => ⟨both.1, both.2⟩, fun inPlace => ⟨inPlace.step, inPlace.recovery⟩⟩

/-- If all steps that fail do so in place, an error finds the card in place. -/
def GivesUpInPlace (env : Environment) {α : Type} (program : Sd α) (world : World) : Prop :=
  program.Along (driver env) (FailsInPlace env) world →
    wp (driver env) program (fun _ _ => True) (fun _ after => Agrees after) world

section

variable {α β : Type} {part : Sd α} {cmd : SdCommand} {arg : UInt32}

theorem givesUpInPlace_pure (value : α) : GivesUpInPlace env (pure value) world :=
  fun _ => (wp_pure value).mpr trivial

theorem givesUpInPlace_bind {next : α → Sd β} (first : GivesUpInPlace env part world)
    (later : wp (driver env) part (fun value after => GivesUpInPlace env (next value) after)
      (fun _ _ => True) world) :
    GivesUpInPlace env (part >>= next) world := by
  intro along
  obtain ⟨here, onward⟩ := along_bind.mp along
  rw [wp_bind]
  exact wp_mono (wp_and (first here) (wp_and later onward)) (fun _ _ both => both.2.1 both.2.2)
    fun _ _ both => both.1

theorem givesUpInPlace_callService (service : Service) (world : World) :
    GivesUpInPlace env (callService service) world := by
  intro along
  have inPlace := along_invoke.mp (along_bind.mp along).1
  rw [wp_callService]
  refine ⟨fun _ => trivial, fun failed => inPlace.step ?_⟩
  cases service with
  | sendCommand cmd arg xfrInfo => exact .inl failed
  | receiveResponse cmd => exact .inl failed
  | _ => exact failed

theorem givesUpInPlace_sdhcSendCommandHelper (standard : cmd.cls ≠ .app) (arg : UInt32)
    (xfrInfo : Option SdCommandXfrInfo) (world : World) :
    GivesUpInPlace env (sdhcSendCommandHelper cmd arg xfrInfo) world := by
  rw [sdhcSendCommandHelper, sendAppCmdPrefix, if_neg standard]
  refine givesUpInPlace_bind (givesUpInPlace_pure ()) ((wp_pure ()).mpr ?_)
  refine givesUpInPlace_bind (givesUpInPlace_callService _ world)
    (wp_callService.mpr ⟨fun _ along => ?_, fun _ => trivial⟩)
  -- the check of the response reads what has just been received
  obtain ⟨received, -⟩ := along_bind.mp along
  have inPlace := along_invoke.mp (along_bind.mp received).1
  rw [wp_bind, wp_callService]
  refine ⟨fun _ => ?_, fun failed => inPlace.step (.inl failed)⟩
  rw [wp_bind, checkCardStatus, wp_ite]
  constructor
  · intro checked
    rw [wp_bind, wp_instanceData, wp_ite]
    refine ⟨fun error => (wp_fail _).mpr (inPlace.step (.inr ⟨checked, error⟩)), fun _ => ?_⟩
    rw [wp_pure, wp_call id]
    trivial
  · intro _
    rw [wp_pure, wp_call id]
    trivial

theorem givesUpInPlace_recovering (inPlace : GivesUpInPlace env part world) :
    GivesUpInPlace env (recovering cmd part) world := by
  intro along
  obtain ⟨here, onward⟩ := along_catching.mp along
  rw [recovering, wp_catching]
  refine wp_mono (wp_and (inPlace here) onward) (fun _ _ _ => trivial) fun error after both => ?_
  obtain ⟨agreed, later⟩ := both
  have still := (along_invoke.mp (along_bind.mp later).1).recovery trivial
  rw [wp_bind, recoverFromErrors, call, wp_invoke]
  intro answered defined
  have tracked := handler_recoverFromErrors_tracked env _ cmd after answered defined
  exact (wp_fail _).mpr (tracked.agrees agreed (still answered defined))

theorem givesUpInPlace_sdhcSendSimpleCommand (standard : cmd.cls ≠ .app) (arg : UInt32)
    (world : World) : GivesUpInPlace env (sdhcSendSimpleCommand cmd arg) world :=
  givesUpInPlace_recovering (givesUpInPlace_sdhcSendCommandHelper standard arg none world)

theorem along_sdhcSendSimpleCommand {holds : SdmmcOp → World → Prop} (standard : cmd.cls ≠ .app)
    (along : (sdhcSendSimpleCommand cmd arg).Along (handler env depth) holds world) :
    holds (.service (.sendCommand cmd arg none)) world := by
  have helper := (along_catching.mp along).1
  rw [sdhcSendCommandHelper, sendAppCmdPrefix, if_neg standard] at helper
  have sends := (wp_pure ()).mp (along_bind.mp helper).2
  exact along_invoke.mp (along_bind.mp (along_bind.mp sends).1).1

theorem exchanged_statusPolls (xfrInfo : Option SdCommandXfrInfo) (world : World) :
    statusPolls (world.exchanged env cmd arg xfrInfo).log =
      if cmd = cmdSendStatus then statusPolls world.log + 1 else 0 := by
  simp [World.exchanged, World.remembered, serviceEffect, World.called, statusPolls]

theorem wp_sdhcSendStatus_inPlace
    (along : sdhcSendStatus.Along (driver env) (FailsInPlace env) world) :
    wp (driver env) sdhcSendStatus
      (fun _ polled => statusPolls polled.log = statusPolls world.log + 1 ∧
        (sdmmcPollWaitCount ≤ statusPolls world.log → Agrees polled))
      (fun _ after => Agrees after) world := by
  have standard : cmdSendStatus.cls ≠ .app := by decide
  have onward := (along_bind.mp along).2
  simp only [rcaArgument, wp_bind, wp_instanceData, wp_pure] at onward
  have sends := (along_bind.mp onward).1
  simp only [sdhcSendStatus, rcaArgument, wp_bind, wp_instanceData, wp_pure]
  refine wp_mono (wp_and (givesUpInPlace_sdhcSendSimpleCommand standard _ world sends)
    (wp_sdhcSendSimpleCommand standard _ world)) (fun _ polled both => ?_) fun _ _ both => both.1
  obtain ⟨-, -, rfl⟩ := both
  refine ⟨(exchanged_statusPolls none world).trans (if_pos rfl), fun many => ?_⟩
  exact (along_sdhcSendSimpleCommand standard sends).step (.inr (.inr ⟨rfl, many⟩))

/-- By the time the polls are over, the last of them has found the card in place. -/
theorem givesUpInPlace_pollTranState (retry : Nat) (cardStatus : UInt32) (world : World)
    (ended : retry = 0 → Agrees world)
    (counted : statusPolls world.log + retry = sdmmcPollWaitCount + 1) :
    GivesUpInPlace env (pollTranState retry cardStatus) world := by
  induction retry generalizing cardStatus world with
  | zero => exact fun _ => (wp_fail _).mpr (ended rfl)
  | succ retry ih =>
    rw [pollTranState]
    split
    · exact givesUpInPlace_pure ()
    · intro along
      obtain ⟨asked, onward⟩ := along_bind.mp along
      rw [wp_bind]
      refine wp_mono (wp_and (wp_sdhcSendStatus_inPlace asked) onward) (fun next polled both => ?_)
        fun _ _ both => both.1
      obtain ⟨⟨polls, late⟩, later⟩ := both
      exact ih next polled (fun last => late (by omega)) (by omega) later

theorem givesUpInPlace_sdhcWaitForTranState (first : statusPolls world.log = 0) :
    GivesUpInPlace env sdhcWaitForTranStateAndReadyForData world := by
  intro along
  obtain ⟨asked, onward⟩ := along_bind.mp along
  rw [sdhcWaitForTranStateAndReadyForData, wp_bind]
  refine wp_mono (wp_and (wp_sdhcSendStatus_inPlace asked) onward) (fun status polled both => ?_)
    fun _ _ both => both.1
  obtain ⟨⟨polls, -⟩, later⟩ := both
  exact givesUpInPlace_pollTranState _ status polled (fun none => absurd none (by decide))
    (by rw [polls, first, Nat.zero_add, Nat.add_comm]) later

theorem givesUpInPlace_sdhcSendExtCsdMmc (world : World) :
    GivesUpInPlace env sdhcSendExtCsdMmc world := by
  have single : cmdSendExtCsdMmc.isMultiBlock = false := by decide
  have reads (arg : UInt32) : GivesUpInPlace env
      (sdhcSendDataCommand cmdSendExtCsdMmc arg sdBlockLengthBytes .blockBuffer) world := by
    refine givesUpInPlace_recovering (givesUpInPlace_bind
      (givesUpInPlace_sdhcSendCommandHelper (by decide) _ _ world) ?_)
    refine wp_mono (wp_sdhcSendCommandHelper (by decide) _ _ world) (fun _ sent spec => ?_)
      fun _ _ _ => trivial
    obtain ⟨-, rfl⟩ := spec
    rw [transferBlocks_eq]
    refine givesUpInPlace_bind (givesUpInPlace_callService _ _)
      (wp_callService.mpr ⟨fun _ => ?_, fun _ => trivial⟩)
    refine givesUpInPlace_bind (fun _ => (wp_endTransfer (.inl single)).mpr trivial)
      ((wp_endTransfer (.inl single)).mpr (givesUpInPlace_sdhcWaitForTranState ?_))
    have read : transferService cmdSendExtCsdMmc sdBlockLengthBytes .blockBuffer =
        .readBlockData sdBlockLengthBytes .blockBuffer := if_pos (by decide)
    have polls := @exchanged_statusPolls env cmdSendExtCsdMmc arg
      (some ⟨sdBlockLengthBytes, sdBlockLengthBytes / sdBlockLengthBytes, .blockBuffer⟩) world
    rw [if_neg (by decide)] at polls
    simpa [read, serviceEffect, World.called, World.storeBuffer, statusPolls] using polls
  intro along
  have onward := (along_bind.mp along).2
  simp only [sdhcSendExtCsdMmc, rcaArgument, wp_bind, wp_instanceData, wp_pure] at onward ⊢
  refine wp_mono (reads _ (along_bind.mp onward).1) (fun _ _ _ => ?_) fun _ _ agreed => agreed
  rw [wp_modifyInstance]
  trivial

/-- A `SWITCH` that is executed moves the card to the partition asked for. -/
theorem exchanged_switch_access {config : UInt8} {partition : PartitionAccess}
    (executed : (env world.calls).executed = true) :
    (world.exchanged env cmdSwitchMmc
      (writeByteArg indexPartitionConfig (withAccess config partition)) none).card.access =
        partition := by
  have other : cmdSwitchMmc ≠ cmdGoIdleState := by decide
  simp [World.exchanged, World.remembered, serviceEffect, World.called, cardAfter, executed,
    Card.execute, Card.access, isPartitionSwitch, other]

/-- A partition that was asked for but is not shown is not the one the card is on. -/
theorem givesUpInPlace_sdhcSwitchPartitionMmc (partition : PartitionAccess) (world : World) :
    GivesUpInPlace env (sdhcSwitchPartitionMmc partition) world := by
  have standard : cmdSwitchMmc.cls ≠ .app := by decide
  intro along
  obtain ⟨switches, later⟩ := along_bind.mp (wp_instanceData.mp (along_bind.mp along).2)
  have executes := (along_sdhcSendSimpleCommand standard (along_bind.mp switches).1).step
  have first : GivesUpInPlace env (sdhcSendCommand cmdSwitchMmc (writeByteArg indexPartitionConfig
      (withAccess world.device.cardInfo.extCsd.partitionConfig partition))) world := by
    refine givesUpInPlace_bind (givesUpInPlace_sdhcSendSimpleCommand standard _ world)
      (wp_mono (wp_sdhcSendSimpleCommand standard _ world) (fun _ sent spec => ?_)
        fun _ _ _ => trivial)
    rw [if_pos (.inl rfl)]
    apply givesUpInPlace_sdhcWaitForTranState
    rw [spec.2, exchanged_statusPolls, if_neg (by decide)]
  have reaches : wp (driver env) (sdhcSendCommand cmdSwitchMmc (writeByteArg indexPartitionConfig
      (withAccess world.device.cardInfo.extCsd.partitionConfig partition)))
      (fun _ ready => ready.card.access = partition ∨ Agrees ready) (fun _ _ => True) world := by
    rw [sdhcSendCommand, wp_bind]
    refine wp_mono (wp_sdhcSendSimpleCommand standard _ world) (fun _ sent spec => ?_)
      fun _ _ _ => trivial
    obtain ⟨-, rfl⟩ := spec
    rw [if_pos (.inl rfl)]
    refine wp_mono (wp_sdhcWaitForTranState _) (fun _ ready polled => ?_) fun _ _ _ => trivial
    rw [Agrees, polled.unmoved.card, polled.partition]
    cases executed : (env world.calls).executed with
    | true => exact .inl (exchanged_switch_access executed)
    | false => exact .inr (executes (.inr (.inl ⟨by simp [isPartitionSwitch], executed⟩)))
  rw [sdhcSwitchPartitionMmc, wp_bind, wp_instanceData, wp_bind]
  refine wp_mono (wp_and (first switches) (wp_and later reaches)) (fun _ ready both => ?_)
    fun _ _ both => both.1
  obtain ⟨-, along, reached⟩ := both
  rw [wp_bind]
  refine wp_mono (wp_and (givesUpInPlace_sdhcSendExtCsdMmc ready (along_bind.mp along).1)
    (wp_sdhcSendExtCsdMmc ready)) (fun _ shown read => ?_) fun _ _ read => read.1
  obtain ⟨-, fresh, card, record⟩ := read
  rw [wp_bind, wp_instanceData, wp_ite]
  refine ⟨fun other => (wp_fail _).mpr ?_, fun _ => (wp_call id).mpr trivial⟩
  rcases reached with reached | agreed
  · exact absurd (fresh.trans ((congrArg Card.access card).trans reached)) other
  · rw [Agrees, record, card]
    exact agreed

end

theorem wp_sdhcSwitchPartitionMmc_agrees {partition : PartitionAccess}
    (along : (sdhcSwitchPartitionMmc partition).Along (driver env) (FailsInPlace env) world) :
    wp (driver env) (sdhcSwitchPartitionMmc partition) (fun _ after => Agrees after)
      (fun _ after => Agrees after) world :=
  wp_mono (wp_and (givesUpInPlace_sdhcSwitchPartitionMmc partition world along)
      (wp_sdhcSwitchPartitionMmc partition (KeepsTracked.refl world)))
    (fun _ _ both => both.2.2.1.trans both.2.2.2.symm) fun _ _ both => both.1

/-- Both switches of a request fail only in place: the one to the RPMB partition, and the one back
from wherever the frames have left the card. -/
def RequestInPlace (env : Environment) (request response : RpmbDataBuffer) (world : World) : Prop :=
  (sdhcSwitchPartitionMmc .rpmb).Along (driver env) (FailsInPlace env) world ∧
    ∀ switched ∈ (sdhcSwitchPartitionMmc .rpmb).exec (driver env) world, switched.1.isOk = true →
      ∀ served ∈ (rpmbDispatch request response).exec (driver env) switched.2,
        (sdhcSwitchPartitionMmc world.device.currentMmcPartition).Along (driver env)
          (FailsInPlace env) served.2
  deriving Decidable

theorem wp_rpmbRequest_agrees {request response : RpmbDataBuffer}
    (inPlace : RequestInPlace env request response world) :
    wp (driver env) (rpmbRequest request response) (fun _ after => Agrees after)
      (fun _ after => Agrees after) world := by
  obtain ⟨there, back⟩ := inPlace
  rw [rpmbRequest, wp_bind, wp_instanceData, wp_bind]
  rintro ⟨error | switched, mid⟩ first
  · exact wp_sdhcSwitchPartitionMmc_agrees there _ first
  change wp (driver env) _ _ _ mid
  rw [wp_bind, wp_catching]
  rintro ⟨error | served, reached⟩ dispatched
  · have returns := wp_sdhcSwitchPartitionMmc_agrees (back _ first rfl _ dispatched)
    change wp (driver env) _ _ _ reached
    simp only [ignoringErrors, wp_bind, wp_catching, wp_pure, wp_fail]
    exact wp_mono returns (fun _ _ agreed => agreed) fun _ _ agreed => agreed
  · exact wp_sdhcSwitchPartitionMmc_agrees (back _ first rfl _ dispatched)

/-! ### Block I/O -/

def Event.Within (area : PartitionAccess → Prop) : Event → Prop
  | .command cmd arg _ _ executed card =>
    executed = true → area card.access ∧ area (card.execute cmd arg).access
  | _ => True

def Event.OffRpmb : Event → Prop
  | .command _ _ _ _ executed card => executed = true → card.access ≠ .rpmb
  | _ => True

theorem Event.Within.offRpmb {event : Event} (within : event.Within (· ≠ .rpmb)) :
    event.OffRpmb := by
  cases event with
  | command cmd arg xfrInfo status executed card => exact fun executes => (within executes).1
  | _ => trivial

theorem Event.Within.not_moves {event : Event} (within : event.Within (· = .userArea)) :
    ¬ event.Moves := by
  cases event with
  | command cmd arg xfrInfo status executed card =>
    refine not_not.mpr ?_
    cases executed with
    | true => exact (within rfl).2.trans (within rfl).1.symm
    | false => rfl
  | _ => exact id

/-- A card in the area stays there, and executes nothing outside. -/
def StaysIn (area : PartitionAccess → Prop) (before after : World) : Prop :=
  ∃ events, after.log = before.log ++ events ∧
    (area before.card.access → area after.card.access ∧ ∀ event ∈ events, event.Within area)

variable {area : PartitionAccess → Prop}

theorem StaysIn.refl (world : World) : StaysIn area world world :=
  ⟨[], (List.append_nil _).symm, fun inside => ⟨inside, List.forall_mem_nil _⟩⟩

theorem StaysIn.trans {first second third : World} (one : StaysIn area first second)
    (other : StaysIn area second third) : StaysIn area first third := by
  obtain ⟨events, grown, stays⟩ := one
  obtain ⟨more, grownMore, staysMore⟩ := other
  refine ⟨events ++ more, by rw [grownMore, grown, List.append_assoc], fun inside => ?_⟩
  obtain ⟨between, early⟩ := stays inside
  obtain ⟨last, late⟩ := staysMore between
  exact ⟨last, List.forall_mem_append.mpr ⟨early, late⟩⟩

/-- An operation that neither moves the card nor logs a command. -/
theorem StaysIn.of_event {event : Event} (card : after.card = before.card)
    (log : after.log = before.log ++ [event]) (within : event.Within area) :
    StaysIn area before after :=
  ⟨[event], log, fun inside => ⟨card ▸ inside, List.forall_mem_singleton.mpr within⟩⟩

theorem StaysIn.of_same (card : after.card = before.card)
    (log : after.log = before.log) : StaysIn area before after :=
  ⟨[], log.trans (List.append_nil _).symm, fun inside => ⟨card ▸ inside, List.forall_mem_nil _⟩⟩

section

variable (user : area .userArea)

include user

theorem serviceEffect_staysIn {service : Service} (resetting : Resetting (.service service))
    (reply : HostReply) (world : World) :
    StaysIn area world (serviceEffect reply world service) := by
  cases service with
  | sendCommand cmd arg xfrInfo =>
    refine ⟨_, rfl, fun inside => ?_⟩
    have executes : area (world.card.execute cmd arg).access := by
      rcases execute_access resetting with atUser | same
      · rwa [atUser]
      · rwa [same]
    refine ⟨?_, List.forall_mem_singleton.mpr fun _ => ⟨inside, executes⟩⟩
    simp only [serviceEffect, cardAfter]
    split
    · exact executes
    · exact inside
  | readBlockData lengthInBytes buffer => cases buffer <;> exact .of_event rfl rfl trivial
  | receiveResponse | writeBlockData => exact .of_event rfl rfl trivial
  | _ => exact .of_same rfl (List.append_nil _)

theorem hostEffect_staysIn (resetting : Resetting op) (world : World) :
    StaysIn area world (hostEffect env op world).2 := by
  cases op with
  | service service => exact serviceEffect_staysIn user resetting _ world
  | rememberCommand cmd => exact .of_event rfl rfl trivial
  | recordPartition partition => exact .of_event rfl rfl trivial
  | isCardPresent | nullCmdEquals | isReadOnly | convertDevicePathToText =>
    exact .of_same rfl (List.append_nil _)
  | _ => exact .of_same rfl rfl

/-- A program that switches no partition, its recoveries included, leaves the card in every area
that the user area belongs to. -/
theorem wp_staysIn {α : Type} {program : Sd α} (resetting : program.All Resetting)
    (world : World) :
    wp (handler env depth) program (fun _ after => StaysIn area world after)
      (fun _ after => StaysIn area world after) world :=
  wp_of_preserves StaysIn.refl StaysIn.trans
    (handler_preserves StaysIn.refl StaysIn.trans (fun _ holds => holds)
      (fun _ world holds => hostEffect_staysIn user holds world)
      (fun _ _ => .of_same rfl rfl) depth)
    resetting world

end

/-- Block I/O by the driver's own data commands, each of which returns (`driverPort_returns`). -/
def driverPort (env : Environment) (maximumBlockCount : UInt32) : DataPort World where
  media world := world.device.media
  maximumBlockCount := maximumBlockCount
  sendDataCommand command world :=
    ((sdhcSendDataCommand command.cmd command.lba command.size (.client command.buffer)).exec
      (driver env) world).elim (EfiStatus.deviceError, world) statusOf

theorem driverPort_returns (maximumBlockCount : UInt32) (command : DataCommand) {world : World}
    (idle : world.Idle) :
    ∃ outcome, (sdhcSendDataCommand command.cmd command.lba command.size
        (.client command.buffer)).exec (driver env) world = some outcome ∧
      (driverPort env maximumBlockCount).sendDataCommand command world = statusOf outcome ∧
      outcome.2.Idle := by
  obtain ⟨outcome, ended, idle⟩ := exec_idle
    (sdhcSendDataCommand_recording command.cmd command.lba command.size (.client command.buffer))
    idle
  refine ⟨outcome, ended, ?_, idle⟩
  simp [driverPort, ended]

theorem driverPort_keeps {relation : World → World → Prop} (refl : ∀ world, relation world world)
    (maximumBlockCount : UInt32) {command : DataCommand}
    (spec : wp (driver env) (sdhcSendDataCommand command.cmd command.lba command.size
        (.client command.buffer)) (fun _ after => relation world after)
      (fun _ after => relation world after) world) :
    relation world ((driverPort env maximumBlockCount).sendDataCommand command world).2 := by
  simp only [driverPort]
  cases ended : (sdhcSendDataCommand command.cmd command.lba command.size
      (.client command.buffer)).exec (driver env) world with
  | none => exact refl world
  | some outcome =>
    have ends := spec outcome ended
    rcases outcome with ⟨error | value, after⟩ <;> exact ends

theorem ne_cmdSwitchMmc_of_mem {cmd : SdCommand} (member : cmd ∈ blockIoCommands) :
    cmd ≠ cmdSwitchMmc := by
  rintro rfl
  exact absurd member (by decide)

/-! ### Calls of clients -/

/-- A call that a client of the driver makes. -/
inductive ClientCall where
  | rpmbRequest (request response : RpmbDataBuffer)
  | ioBlocks (request : BlockRequest) (uninitialized : EfiStatus)
  deriving DecidableEq, Repr

def ClientCall.IsRpmbRequest : ClientCall → Prop
  | .rpmbRequest _ _ => True
  | .ioBlocks _ _ => False

def ClientCall.Returns (env : Environment) (maximumBlockCount : UInt32) (world : World)
    (result : EfiStatus × World) : ClientCall → Prop
  | .rpmbRequest request response =>
    ((SdMmc.rpmbRequest request response).exec (driver env) world).map statusOf = some result
  | .ioBlocks request uninitialized =>
    SdMmc.Returns (driverPort env maximumBlockCount) request uninitialized world result

theorem sdhcSwitchPartitionMmc_recording (partition : PartitionAccess) :
    (sdhcSwitchPartitionMmc partition).All Recording :=
  all_bind (instanceData_all trivial) fun _ =>
    all_bind (sdhcSendCommand_recording _ _) fun _ =>
      all_bind (sdhcSendExtCsdMmc_routine.mono Routine.recording) fun _ =>
        all_bind (instanceData_all trivial) fun _ =>
          all_ite (raise_all _ _) ((all_invoke _).mpr trivial)

theorem rpmbRequest_recording (request response : RpmbDataBuffer) :
    (rpmbRequest request response).All Recording :=
  all_bind (instanceData_all trivial) fun _ =>
    all_bind (sdhcSwitchPartitionMmc_recording _) fun _ =>
      all_bind
        (all_catching ((rpmbDispatch_routine request response).mono Routine.recording) fun _ =>
          all_bind (all_catching (sdhcSwitchPartitionMmc_recording _) fun _ => all_pure _) fun _ =>
            all_fail _)
        fun _ => sdhcSwitchPartitionMmc_recording _

theorem rpmbRequest_returns (maximumBlockCount : UInt32) (request response : RpmbDataBuffer)
    (idle : world.Idle) :
    ∃ result, (ClientCall.rpmbRequest request response).Returns env maximumBlockCount world result ∧
      result.2.Idle := by
  obtain ⟨outcome, ended, idle⟩ := exec_idle (rpmbRequest_recording request response) idle
  refine ⟨statusOf outcome, Option.map_eq_some_iff.mpr ⟨outcome, ended, rfl⟩, ?_⟩
  rcases outcome with ⟨error | value, after⟩ <;> exact idle

section

variable {request : BlockRequest} {uninitialized : EfiStatus} {result : EfiStatus × World}

theorem ioBlocks_staysIn (user : area .userArea)
    (returned : Returns (driverPort env maximumBlockCount) request uninitialized world result) :
    StaysIn area world result.2 := by
  obtain ⟨fuel, ended⟩ := returned
  refine ioBlocks_preserves _ (StaysIn area) StaysIn.refl StaysIn.trans
    (fun command before member => ?_) ended
  have routine := sdhcSendDataCommand_routine (ne_cmdSwitchMmc_of_mem member) command.lba
    command.size (.client command.buffer)
  exact driverPort_keeps StaysIn.refl maximumBlockCount
    (wp_staysIn user (routine.mono Routine.resetting) before)

theorem ioBlocks_tracked
    (returned : Returns (driverPort env maximumBlockCount) request uninitialized world result) :
    KeepsTracked world result.2 := by
  obtain ⟨fuel, ended⟩ := returned
  refine ioBlocks_preserves _ KeepsTracked KeepsTracked.refl KeepsTracked.trans
    (fun command before member => ?_) ended
  have routine := sdhcSendDataCommand_routine (ne_cmdSwitchMmc_of_mem member) command.lba
    command.size (.client command.buffer)
  exact driverPort_keeps KeepsTracked.refl maximumBlockCount
    (wp_keepsTracked (handler_recoverFromErrors_tracked env _)
      (routine.mono Routine.recordless) before)

end

/-! ### Runs -/

/-- The switches of a request fail only in place; and block I/O is asked for where the recorded
partition is the user area, to which a reset takes the card. -/
def ClientCall.InPlace (env : Environment) (world : World) : ClientCall → Prop
  | .rpmbRequest request response => RequestInPlace env request response world
  | .ioBlocks _ _ => world.device.currentMmcPartition = .userArea

/-- A call in place leaves the record right. -/
theorem ClientCall.returns_agrees {call : ClientCall} {result : EfiStatus × World}
    (returned : call.Returns env maximumBlockCount world result)
    (inPlace : call.InPlace env world) (agreed : Agrees world) : Agrees result.2 := by
  cases call with
  | rpmbRequest request response =>
    obtain ⟨outcome, ended, rfl⟩ := Option.map_eq_some_iff.mp returned
    have ends := wp_rpmbRequest_agrees inPlace outcome ended
    rcases outcome with ⟨error | value, after⟩ <;> exact ends
  | ioBlocks request uninitialized =>
    have inside : world.card.access = .userArea := agreed.symm.trans inPlace
    obtain ⟨events, grown, stays⟩ : StaysIn (· = .userArea) _ _ := ioBlocks_staysIn rfl returned
    refine (ioBlocks_tracked returned).agrees agreed ?_
    rw [grown, List.drop_left]
    exact fun event member => ((stays inside).2 event member).not_moves

/-- The worlds that calls in place lead to. -/
inductive InPlaceRun (env : Environment) (maximumBlockCount : UInt32) (first : World) :
    World → Prop where
  | start : InPlaceRun env maximumBlockCount first first
  | step {before after : World} {call : ClientCall} {status : EfiStatus} :
      InPlaceRun env maximumBlockCount first before →
      call.Returns env maximumBlockCount before (status, after) → call.InPlace env before →
      InPlaceRun env maximumBlockCount first after

/-- A call leaves the card on the recorded partition; a request that succeeds leaves it
where it found it; and block I/O executes nothing on the RPMB partition. -/
structure PartitionKept (call : ClientCall) (before : World) (status : EfiStatus) (after : World) :
    Prop where
  agrees : Agrees after
  restored : call.IsRpmbRequest → status.isError = false → after.card.access = before.card.access
  apart : ¬ call.IsRpmbRequest → ∀ event ∈ after.log.drop before.log.length, event.OffRpmb

theorem InPlaceRun.agrees {first last : World} (run : InPlaceRun env maximumBlockCount first last)
    (initial : Agrees first) : Agrees last := by
  induction run with
  | start => exact initial
  | step _ returned inPlace ih => exact ClientCall.returns_agrees returned inPlace ih

end

/-- In every run of RPMB requests and block I/O whose calls are in place, under every
pattern of failures, every call keeps the partition. -/
theorem partition_kept (env : Environment) (maximumBlockCount : UInt32) {first before after : World}
    {call : ClientCall} {status : EfiStatus} (initial : Agrees first)
    (run : InPlaceRun env maximumBlockCount first before)
    (returned : call.Returns env maximumBlockCount before (status, after))
    (inPlace : call.InPlace env before) : PartitionKept call before status after := by
  have agreed : Agrees before := run.agrees initial
  refine ⟨ClientCall.returns_agrees returned inPlace agreed, fun isRequest succeeded => ?_,
    fun isBlockIo event member => ?_⟩
  · cases call with
    | rpmbRequest request response =>
      obtain ⟨⟨error | value, world⟩, ended, same⟩ := Option.map_eq_some_iff.mp returned
      · cases same
        exact absurd error.property (by rw [succeeded]; decide)
      · cases same
        have spec := wp_rpmbRequest request response (KeepsTracked.refl before) _ ended
        exact spec.2.trans agreed
    | ioBlocks request uninitialized => exact isRequest.elim
  · cases call with
    | rpmbRequest request response => exact absurd trivial isBlockIo
    | ioBlocks request uninitialized =>
      obtain ⟨events, grown, off⟩ : StaysIn (· ≠ .rpmb) _ _ :=
        ioBlocks_staysIn (by decide) returned
      have outside : before.card.access ≠ .rpmb := by
        rw [← agreed, show before.device.currentMmcPartition = .userArea from inPlace]
        decide
      rw [grown, List.drop_left] at member
      exact ((off outside).2 event member).offRpmb

/-- An initialized MMC in its user area, and a frame at `0x1000` that asks for the write counter. -/
def World.readCounter : World :=
  { World.startMmc with
    device := { World.startMmc.device with
      media := { sdhcMediaTemplate with mediaPresent := true, lastBlock := 7 } }
    memory := fun address => if address = 0x11FF then 2 else 0 }

/-- The write counter is read without failures. -/
theorem partition_kept_readCounter :
    ∃ after, PartitionKept (.rpmbRequest ⟨0x1000, 1⟩ ⟨0x2000, 1⟩) World.readCounter
      EfiStatus.success after := by
  have run : ((rpmbRequest ⟨0x1000, 1⟩ ⟨0x2000, 1⟩).exec (driver fun _ => HostReply.answering 0x900)
      World.readCounter).map (fun outcome => (statusOf outcome).1) = some EfiStatus.success := by
    decide +kernel
  have inPlace : RequestInPlace (fun _ => HostReply.answering 0x900) ⟨0x1000, 1⟩ ⟨0x2000, 1⟩
      World.readCounter := by
    decide +kernel
  obtain ⟨⟨returned, after⟩, ended, succeeded⟩ := Option.map_eq_some_iff.mp run
  have same : statusOf (returned, after) = (EfiStatus.success, after) := by
    rw [← succeeded]
    cases returned <;> rfl
  have agreed : Agrees World.readCounter := rfl
  exact ⟨after, partition_kept (fun _ => HostReply.answering 0x900) 8 agreed .start
    (Option.map_eq_some_iff.mpr ⟨_, ended, same⟩) inPlace⟩

/-- The card executes the `SWITCH` to its RPMB partition, but the host reports a failure of
the command. -/
def switchCutOff : Environment := fun call =>
  if call = 0 then { HostReply.failing with executed := true } else HostReply.answering 0x900

/-- The request ends with an error and the card on its RPMB partition, and the next block
is read there. -/
theorem partition_lost :
    ∃ between after,
      (ClientCall.rpmbRequest ⟨0x1000, 1⟩ ⟨0x2000, 1⟩).Returns switchCutOff 8 World.readCounter
        (EfiStatus.deviceError, between) ∧
      ¬ PartitionKept (.rpmbRequest ⟨0x1000, 1⟩ ⟨0x2000, 1⟩) World.readCounter EfiStatus.deviceError
        between ∧
      (ClientCall.ioBlocks ⟨.read, 0, 0, 512, 0x3000⟩ EfiStatus.success).Returns switchCutOff 8
        between (EfiStatus.success, after) ∧
      .command cmdReadSingleBlock 0 (some ⟨512, 1, .client 0x3000⟩) EfiStatus.success true
        ⟨PartitionAccess.rpmb.toUInt8⟩ ∈ after.log.drop between.log.length := by
  refine ⟨_, _, rfl, fun kept => ?_, ⟨1, rfl⟩, .head _⟩
  exact absurd kept.agrees (by decide)

end MuRockchip.SdMmc
