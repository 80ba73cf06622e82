/-
The boot configuration of the card.

The partition configuration byte holds the boot partition next to the partition the
card is switched to, and a switch writes the whole byte, from the EXT_CSD the driver
holds. Between the start of an initialization and its first read of the EXT_CSD the
driver holds zeros. A switch sent then clears the boot configuration.

* `sdhcSendExtCsdMmc_keepsBoot`: what is read from the card is the card's.
* `handler_recoverFromErrors_boot`: no recovery changes the boot configuration, though
  it may leave the driver with zeros.
* `bootConfig_kept`: where no switch is sent from zeros, the boot configuration stays.
-/
import MuRockchip.SdMmc.PartitionSafety

namespace MuRockchip.SdMmc

open MuRockchip.Base
open MuRockchip.Base.Prog

/-! ### The boot configuration -/

/-- `BOOT_PARTITION_ENABLE`, `BOOT_ACK` and the reserved bit: all of a partition
configuration byte but `PARTITION_ACCESS`. -/
def bootConfig (config : UInt8) : Nat := config.toNat / 8

@[simp]
theorem bootConfig_withAccess (config : UInt8) (access : PartitionAccess) :
    bootConfig (withAccess config access) = bootConfig config := by
  have below := config.toNat_lt
  have small : access.toUInt8.toNat < 8 := by cases access <;> decide
  simp only [bootConfig, withAccess, UInt8.toNat_add, UInt8.toNat_ofNat']
  omega

/-- A `SWITCH` of the partition writes the boot configuration the card has. -/
def Event.KeepsBoot : Event → Prop
  | .command cmd arg _ _ _ card =>
    isPartitionSwitch cmd arg = true →
      bootConfig (MmcSwitchCmdArg.ofUint32 arg).value = bootConfig card.partitionConfig
  | _ => True

/-- The driver holds an EXT_CSD, not the zeros an initialization starts from. -/
def World.HoldsExtCsd (world : World) : Prop := world.device.cardInfo.extCsd ≠ MmcExtCsd.zero

instance (world : World) : Decidable world.HoldsExtCsd := inferInstanceAs (Decidable (_ ≠ _))

/-- The operation sends a `SWITCH` of the partition. -/
def SdmmcOp.switchesPartition : SdmmcOp → Bool
  | .service (.sendCommand cmd arg _) => isPartitionSwitch cmd arg
  | _ => false

/-- If the operation switches the partition, it is called while the driver holds an
EXT_CSD, or the card has no boot configuration to lose. -/
def SentKnown (op : SdmmcOp) (world : World) : Prop :=
  op.switchesPartition = true → world.HoldsExtCsd ∨ bootConfig world.card.partitionConfig = 0

instance (op : SdmmcOp) (world : World) : Decidable (SentKnown op world) :=
  inferInstanceAs (Decidable (_ → _))

/-- The card has this boot configuration, and so has the EXT_CSD the driver holds. -/
structure BootIntact (boot : Nat) (world : World) : Prop where
  card : bootConfig world.card.partitionConfig = boot
  held : world.HoldsExtCsd → bootConfig world.device.cardInfo.extCsd.partitionConfig = boot

/-- The boot configuration is intact after if it was before, and no `SWITCH` between
would change it. -/
def BootKept (boot : Nat) (before after : World) : Prop :=
  BootIntact boot before → BootIntact boot after ∧
    ∃ events, after.log = before.log ++ events ∧ ∀ event ∈ events, event.KeepsBoot

section

variable {boot : Nat}

theorem BootKept.refl (world : World) : BootKept boot world world :=
  fun intact => ⟨intact, [], (List.append_nil _).symm, List.forall_mem_nil _⟩

theorem BootKept.trans {first second third : World} (one : BootKept boot first second)
    (other : BootKept boot second third) : BootKept boot first third := by
  intro intact
  obtain ⟨between, events, grown, keeps⟩ := one intact
  obtain ⟨last, more, grownMore, keepsMore⟩ := other between
  exact ⟨last, events ++ more, by rw [grownMore, grown, List.append_assoc],
    List.forall_mem_append.mpr ⟨keeps, keepsMore⟩⟩

theorem BootKept.of_events {before after : World} {events : List Event}
    (card : after.card = before.card)
    (extCsd : after.device.cardInfo.extCsd = before.device.cardInfo.extCsd)
    (log : after.log = before.log ++ events) (keeps : ∀ event ∈ events, event.KeepsBoot) :
    BootKept boot before after := by
  rintro ⟨intact, held⟩
  refine ⟨⟨by rw [card]; exact intact, ?_⟩, events, log, keeps⟩
  unfold World.HoldsExtCsd
  rw [extCsd]
  exact held

end

/-! ### Operations -/

/-- The operation writes this boot configuration if it switches the partition, and leaves
the driver with the EXT_CSD it holds or with zeros. -/
def BootSafe (boot : Nat) : SdmmcOp → Prop
  | .service (.sendCommand cmd arg _) =>
    isPartitionSwitch cmd arg = true → bootConfig (MmcSwitchCmdArg.ofUint32 arg).value = boot
  | .modifyInstance change => ∀ device,
    (change device).cardInfo.extCsd = device.cardInfo.extCsd ∨
      (change device).cardInfo.extCsd = MmcExtCsd.zero
  | _ => True

section

variable {env : Environment} {depth boot : Nat}

variable {arg : UInt32} {cmd : SdCommand}

theorem sendCommand_bootKept (safe : isPartitionSwitch cmd arg = true →
      bootConfig (MmcSwitchCmdArg.ofUint32 arg).value = boot) (xfrInfo : Option SdCommandXfrInfo)
    (reply : HostReply) (world : World) :
    BootKept boot world (serviceEffect reply world (.sendCommand cmd arg xfrInfo)) := by
  rintro ⟨card, held⟩
  refine ⟨⟨?_, held⟩, _, rfl, List.forall_mem_singleton.mpr ?_⟩
  · simp only [serviceEffect, cardAfter, Card.execute]
    split
    · split
      · rw [bootConfig_withAccess]
        exact card
      · split
        · rename_i switch
          exact safe switch
        · exact card
    · exact card
  · intro switch
    rw [safe switch, card]

theorem hostEffect_bootKept {op : SdmmcOp} (safe : BootSafe boot op) (world : World) :
    BootKept boot world (hostEffect env op world).2 := by
  cases op with
  | service service =>
    cases service with
    | sendCommand cmd arg xfrInfo => exact sendCommand_bootKept safe xfrInfo _ world
    | readBlockData lengthInBytes buffer =>
      cases buffer <;> exact .of_events rfl rfl rfl (List.forall_mem_singleton.mpr trivial)
    | receiveResponse cmd => exact .of_events rfl rfl rfl (List.forall_mem_singleton.mpr trivial)
    | writeBlockData lengthInBytes buffer =>
      exact .of_events rfl rfl rfl (List.forall_mem_singleton.mpr trivial)
    | _ => exact .of_events rfl rfl rfl (List.forall_mem_nil _)
  | modifyInstance change =>
    rintro ⟨card, held⟩
    refine ⟨⟨card, fun holds => ?_⟩, [], (List.append_nil _).symm, List.forall_mem_nil _⟩
    rcases safe world.device with same | zeroed
    · have before : world.HoldsExtCsd := fun zero => holds (same.trans zero)
      exact (congrArg (fun extCsd => bootConfig extCsd.partitionConfig) same).trans (held before)
    · exact absurd zeroed holds
  | rememberCommand cmd => exact .of_events rfl rfl rfl (List.forall_mem_singleton.mpr trivial)
  | recordPartition partition =>
    exact .of_events rfl rfl rfl (List.forall_mem_singleton.mpr trivial)
  | isCardPresent | isReadOnly | convertDevicePathToText | nullCmdEquals =>
    exact .of_events rfl rfl rfl (List.forall_mem_nil _)
  | _ => exact BootKept.refl world

theorem bootSafe_of_noSwitch (noSwitch : NoSwitch cmd arg) (xfrInfo : Option SdCommandXfrInfo) :
    BootSafe boot (.service (.sendCommand cmd arg xfrInfo)) := by
  intro switch
  rw [noSwitch] at switch
  cases switch

theorem Quiet.bootSafe (op : SdmmcOp) (quiet : Quiet op) : BootSafe boot op := by
  cases op with
  | service service =>
    cases service with
    | sendCommand cmd arg xfrInfo => exact bootSafe_of_noSwitch quiet.2 xfrInfo
    | _ => trivial
  | modifyInstance change => exact fun device => .inl (quiet device).extCsd
  | _ => trivial

theorem IsRecovery.bootSafe (op : SdmmcOp) (recovery : IsRecovery op) : BootSafe boot op := by
  cases op with
  | recoverFromErrors cmd => trivial
  | _ => exact recovery.elim

theorem bootSafe_of_quiet {α : Type} {program : Sd α}
    (guarded : program.Guarded Quiet IsRecovery) : program.All (BootSafe boot) :=
  guarded.all Quiet.bootSafe IsRecovery.bootSafe

theorem commandOps_bootSafe : CommandOps (BootSafe boot) where
  instanceData := trivial
  receive _ := trivial
  remember _ := trivial
  nullCmd _ := trivial
  auxiliary cmd arg member :=
    bootSafe_of_noSwitch (commandOps_quiet.auxiliary cmd arg member).2 none

theorem sdhcSendCommand_bootSafe (safe : BootSafe boot (.service (.sendCommand cmd arg none))) :
    (sdhcSendCommand cmd arg).All (BootSafe boot) :=
  (sdhcSendCommand_guarded commandOps_bootSafe safe).all (fun _ safe => safe) IsRecovery.bootSafe

theorem sdhcSendDataCommand_bootSafe {cmd : SdCommand} (other : cmd ≠ cmdSwitchMmc)
    (arg bufferByteSize : UInt32) (buffer : TransferBuffer) :
    (sdhcSendDataCommand cmd arg bufferByteSize buffer).All (BootSafe boot) :=
  (sdhcSendDataCommand_guarded commandOps_bootSafe
    (bootSafe_of_noSwitch (noSwitch_of_ne arg other)) trivial trivial).all
      (fun _ safe => safe) IsRecovery.bootSafe

theorem modifyCardInfo_bootSafe {change : CardInfo → CardInfo}
    (extCsd : ∀ info, (change info).extCsd = info.extCsd ∨ (change info).extCsd = MmcExtCsd.zero) :
    (modifyCardInfo change).All (BootSafe boot) :=
  (all_invoke _).mpr fun device => extCsd device.cardInfo

theorem sdhcGoIdleState_bootSafe : sdhcGoIdleState.All (BootSafe boot) :=
  sdhcSendCommand_bootSafe (bootSafe_of_noSwitch (noSwitch_of_ne _ (by decide)) none)

theorem succeeds_bootSafe {part : Sd Unit} (safe : part.All (BootSafe boot)) :
    (succeeds part).All (BootSafe boot) :=
  all_catching (all_bind safe fun _ => all_pure _) fun _ => all_pure _

theorem queryMmc_bootSafe : queryMmc.All (BootSafe boot) :=
  all_bind (instanceData_all trivial) fun _ =>
    all_ite (all_pure _)
      (all_bind sdhcGoIdleState_bootSafe fun _ =>
        all_bind (succeeds_bootSafe (bootSafe_of_quiet (sendOpCondMmcLoop_quiet _))) fun _ =>
          onlyIf_all (modifyCardInfo_bootSafe fun _ => .inl rfl))

theorem sdhcQueryCardType_bootSafe : sdhcQueryCardType.All (BootSafe boot) :=
  all_bind sdhcGoIdleState_bootSafe fun _ =>
    all_bind (modifyCardInfo_bootSafe fun _ => .inl rfl) fun _ =>
      all_bind (succeeds_bootSafe (bootSafe_of_quiet sdhcSendIfCondSd_quiet)) fun _ =>
        all_bind (onlyIf_all (modifyCardInfo_bootSafe fun _ => .inl rfl)) fun _ =>
          all_bind (succeeds_bootSafe (bootSafe_of_quiet sdhcSendOpCondSdio_quiet)) fun _ =>
            all_bind (onlyIf_all (modifyCardInfo_bootSafe fun _ => .inl rfl)) fun _ =>
              all_bind queryMmc_bootSafe fun _ =>
                all_bind (instanceData_all trivial) fun _ => all_ite (raise_all _ _) (all_pure _)

theorem setInstalled_bootSafe (protocol : InstalledProtocol) (installed : Bool) :
    (setInstalled protocol installed).All (BootSafe boot) :=
  (all_invoke _).mpr fun _ => by cases protocol <;> exact .inl rfl

theorem install_bootSafe (protocol : InstalledProtocol) :
    (install protocol).All (BootSafe boot) :=
  all_bind (callService_all trivial) fun _ => setInstalled_bootSafe _ _

theorem uninstallIfInstalled_bootSafe (protocol : InstalledProtocol) :
    (uninstallIfInstalled protocol).All (BootSafe boot) :=
  all_bind (instanceData_all trivial) fun _ =>
    all_ite (all_bind (callService_all trivial) fun _ => setInstalled_bootSafe _ _) (all_pure _)

theorem uninstallAllProtocols_bootSafe : uninstallAllProtocols.All (BootSafe boot) :=
  all_bind (uninstallIfInstalled_bootSafe _) fun _ =>
    all_bind (uninstallIfInstalled_bootSafe _) fun _ => uninstallIfInstalled_bootSafe _

theorem setMedia_bootSafe (change : BlockIoMedia → BlockIoMedia) :
    (setMedia change).All (BootSafe boot) :=
  (all_invoke _).mpr fun _ => .inl rfl

theorem installCardProtocols_bootSafe : installCardProtocols.All (BootSafe boot) :=
  all_bind ((all_invoke _).mpr trivial) fun _ =>
    all_ite
      (all_bind (install_bootSafe _) fun _ =>
        all_bind (install_bootSafe _) fun _ =>
          all_bind (instanceData_all trivial) fun _ =>
            all_ite
              (all_bind (all_bind ((all_invoke _).mpr trivial) fun _ => all_pure _) fun _ =>
                all_ite (all_pure _)
                  (all_bind (install_bootSafe _) fun _ =>
                    all_bind (instanceData_all trivial) fun _ => (all_invoke _).mpr trivial))
              (all_pure _))
      (raise_all _ _)

theorem withdraw_bootSafe (protocol : InstalledProtocol) (status : EfiStatus) :
    (withdraw protocol status).All (BootSafe boot) :=
  all_bind (instanceData_all trivial) fun _ =>
    all_ite
      (all_bind ((all_invoke _).mpr trivial) fun _ =>
        all_bind (onlyIf_all (setInstalled_bootSafe _ _)) fun _ => all_pure _)
      (all_pure _)

theorem softResetExit_bootSafe (error : ErrorStatus) : (softResetExit error).All (BootSafe boot) :=
  all_bind (withdraw_bootSafe _ _) fun _ =>
    all_bind (withdraw_bootSafe _ _) fun _ => check_all _

theorem resetLines_bootSafe (cmd : SdCommand) : (resetLines cmd).All (BootSafe boot) :=
  all_bind ((all_invoke _).mpr trivial) fun _ => all_ite (all_pure _) ((all_invoke _).mpr trivial)

theorem stopIfTransferring_bootSafe (cmd : SdCommand) :
    (stopIfTransferring cmd).All (BootSafe boot) :=
  all_ite
    (all_bind (bootSafe_of_quiet (sdhcSendStatus_guarded commandOps_quiet)) fun _ =>
      all_ite (bootSafe_of_quiet (sdhcStopTransmission_guarded commandOps_quiet)) (all_pure _))
    (all_pure _)

end

/-! ### Programs -/

theorem along_of_resetting {ε α : Type} {handles : Handler sdmmc World} {program : Prog sdmmc ε α}
    (resetting : program.All Resetting) (world : World) :
    program.Along handles SentKnown world := by
  refine resetting.along (fun op state holds switches => ?_) world
  have none : op.switchesPartition = false := by
    cases op with
    | service service =>
      cases service with
      | sendCommand cmd arg xfrInfo => exact holds
      | _ => rfl
    | _ => rfl
  rw [none] at switches
  cases switches

section

variable {env : Environment} {depth boot : Nat}

/-- Runs of the program that send no switch from zeros keep the boot configuration. -/
abbrev KeepsBoot {ε α : Type} (env : Environment) (depth boot : Nat)
    (program : Prog sdmmc ε α) : Prop :=
  program.Keeps (handler env depth) SentKnown (BootKept boot)

theorem keepsBoot_bind {α β : Type} {program : Sd α} {next : α → Sd β}
    (first : KeepsBoot env depth boot program)
    (later : ∀ value, KeepsBoot env depth boot (next value)) :
    KeepsBoot env depth boot (program >>= next) :=
  keeps_bind first later BootKept.trans

theorem keepsBoot_catching {α : Type} {program : Sd α} {recovery : ErrorStatus → Sd α}
    (first : KeepsBoot env depth boot program)
    (later : ∀ error, KeepsBoot env depth boot (recovery error)) :
    KeepsBoot env depth boot (program.catching recovery) :=
  keeps_catching first later BootKept.trans

theorem keepsBoot_pure {α : Type} (value : α) : KeepsBoot env depth boot (pure value : Sd α) :=
  keeps_pure BootKept.refl value

theorem keepsBoot_raise {α : Type} (status : EfiStatus) (failed : status.isError = true) :
    KeepsBoot env depth boot (raise status failed : Sd α) :=
  keeps_fail BootKept.refl _

variable (recovers : ∀ cmd world answered,
  handler env depth (.recoverFromErrors cmd) world = some answered →
    BootKept boot world answered.2)

include recovers

theorem keepsBoot_of_all {α : Type} {program : Sd α} (safe : program.All (BootSafe boot)) :
    KeepsBoot env depth boot program :=
  fun world _ => wp_of_preserves BootKept.refl BootKept.trans
    (handler_keeps recovers fun _ world holds => hostEffect_bootKept holds world) safe world

theorem keepsBoot_of_quiet {α : Type} {program : Sd α}
    (quiet : program.Guarded Quiet IsRecovery) : KeepsBoot env depth boot program :=
  keepsBoot_of_all recovers (bootSafe_of_quiet quiet)

theorem sdhcSendExtCsdMmc_keepsBoot : KeepsBoot env depth boot sdhcSendExtCsdMmc := by
  intro world along
  have parts : wp (handler env depth) sdhcSendExtCsdMmc
      (fun _ after => ∃ read, BootKept boot world read ∧ after.card = read.card ∧
        after.log = read.log)
      (fun _ after => BootKept boot world after) world := by
    have sends : KeepsBoot env depth boot (rcaArgument >>= fun arg =>
        sdhcSendDataCommand cmdSendExtCsdMmc arg sdBlockLengthBytes .blockBuffer) :=
      keepsBoot_bind (keepsBoot_of_quiet recovers rcaArgument_quiet) fun _ =>
        keepsBoot_of_all recovers (sdhcSendDataCommand_bootSafe (by decide) _ _ _)
    have whole : sdhcSendExtCsdMmc = (rcaArgument >>= fun arg =>
        sdhcSendDataCommand cmdSendExtCsdMmc arg sdBlockLengthBytes .blockBuffer) >>= fun _ =>
          modifyInstance SdhcInstance.takeExtCsd := by
      rw [Prog.bind_assoc, sdhcSendExtCsdMmc]
    rw [whole] at along ⊢
    rw [wp_bind]
    refine wp_mono (sends world (along_bind.mp along).1) (fun _ read kept => ?_)
      fun _ _ kept => kept
    rw [wp_modifyInstance]
    exact ⟨read, kept, rfl, rfl⟩
  refine wp_mono (wp_and parts (wp_sdhcSendExtCsdMmc_config world)) (fun _ after both => ?_)
    fun _ _ both => both.1
  obtain ⟨⟨read, kept, card, log⟩, shown, -⟩ := both
  intro intact
  obtain ⟨readIntact, events, grown, keeps⟩ := kept intact
  have same : bootConfig after.card.partitionConfig = boot := by
    rw [card]
    exact readIntact.card
  refine ⟨⟨same, fun _ => ?_⟩, events, log.trans grown, keeps⟩
  rw [shown]
  exact same

/-! ### Initialization -/

theorem sdhcSendCommand_keepsBoot {cmd : SdCommand} {arg : UInt32} (noSwitch : NoSwitch cmd arg) :
    KeepsBoot env depth boot (sdhcSendCommand cmd arg) :=
  keepsBoot_of_all recovers (sdhcSendCommand_bootSafe (bootSafe_of_noSwitch noSwitch none))

theorem callService_keepsBoot {service : Service} (safe : BootSafe boot (.service service)) :
    KeepsBoot env depth boot (callService service) :=
  keepsBoot_of_all recovers (callService_all safe)

theorem switchPowerClass_keepsBoot : KeepsBoot env depth boot switchPowerClass :=
  keepsBoot_bind (keepsBoot_of_quiet recovers instanceData_quiet) fun _ =>
    keeps_ite
      (keepsBoot_bind (sdhcSendCommand_keepsBoot recovers (noSwitch_powerClass _)) fun _ =>
        keepsBoot_bind (sdhcSendExtCsdMmc_keepsBoot recovers) fun _ =>
          keepsBoot_bind (keepsBoot_of_quiet recovers instanceData_quiet) fun _ =>
            keeps_ite (keepsBoot_raise _ _) (keepsBoot_pure _))
      (keepsBoot_pure _)

theorem sdhcSwitchBusWidthMmc_keepsBoot : KeepsBoot env depth boot sdhcSwitchBusWidthMmc :=
  keepsBoot_bind (sdhcSendExtCsdMmc_keepsBoot recovers) fun _ =>
    keepsBoot_bind (switchPowerClass_keepsBoot recovers) fun _ =>
      keepsBoot_bind
        (sdhcSendCommand_keepsBoot recovers (noSwitch_writeByte 2 (by decide))) fun _ =>
          callService_keepsBoot recovers trivial

theorem sdhcSwitchSpeedModeMmc_keepsBoot : KeepsBoot env depth boot sdhcSwitchSpeedModeMmc :=
  keepsBoot_bind (sdhcSendCommand_keepsBoot recovers (noSwitch_writeByte 1 (by decide))) fun _ =>
    keepsBoot_bind
      (keepsBoot_of_all recovers (modifyCardInfo_bootSafe fun _ => .inl rfl)) fun _ =>
        keepsBoot_bind (sdhcSendExtCsdMmc_keepsBoot recovers) fun _ =>
          keepsBoot_bind (keepsBoot_of_quiet recovers instanceData_quiet) fun _ =>
            keeps_ite (keepsBoot_raise _ _) (keepsBoot_pure _)

theorem initializeMmcDevice_keepsBoot : KeepsBoot env depth boot initializeMmcDevice :=
  keepsBoot_bind (keepsBoot_of_quiet recovers sdhcSendCidAll_quiet) fun _ =>
    keepsBoot_bind (keepsBoot_of_quiet recovers sdhcSendRelativeAddr_quiet) fun _ =>
      keepsBoot_bind (keepsBoot_of_quiet recovers sdhcSendCid_quiet) fun _ =>
        keepsBoot_bind (keepsBoot_of_quiet recovers sdhcSendCsd_quiet) fun _ =>
          keepsBoot_bind (keepsBoot_of_quiet recovers checkSpecVers_quiet) fun _ =>
            keepsBoot_bind (keepsBoot_of_quiet recovers sdhcSelectDevice_quiet) fun _ =>
              keepsBoot_bind (sdhcSendExtCsdMmc_keepsBoot recovers) fun _ =>
                keepsBoot_bind (sdhcSwitchSpeedModeMmc_keepsBoot recovers) fun _ =>
                  keepsBoot_bind (sdhcSwitchBusWidthMmc_keepsBoot recovers) fun _ =>
                    keepsBoot_of_quiet recovers sdhcSetMaxClockFrequency_quiet

theorem initializeByFunction_keepsBoot : KeepsBoot env depth boot initializeByFunction :=
  keepsBoot_bind (keepsBoot_of_quiet recovers instanceData_quiet) fun _ =>
    keeps_ite (keepsBoot_of_quiet recovers initializeSdDevice_quiet)
      (keeps_ite (initializeMmcDevice_keepsBoot recovers) (keepsBoot_raise _ _))

/-- An initialization drops the EXT_CSD the driver holds before it reads the card's. -/
theorem initializeDevice_keepsBoot : KeepsBoot env depth boot initializeDevice :=
  keepsBoot_bind
    (keepsBoot_of_all recovers (modifyCardInfo_bootSafe fun _ => .inr rfl)) fun _ =>
      keepsBoot_bind (callService_keepsBoot recovers trivial) fun _ =>
        keepsBoot_bind (callService_keepsBoot recovers trivial) fun _ =>
          keepsBoot_bind (keepsBoot_of_all recovers sdhcQueryCardType_bootSafe) fun _ =>
            keepsBoot_bind (initializeByFunction_keepsBoot recovers) fun _ =>
              keepsBoot_bind (keepsBoot_of_quiet recovers (sdhcSetBlockLength_quiet _)) fun _ =>
                keepsBoot_of_all recovers ((all_invoke _).mpr fun _ => .inl rfl)

/-! ### Soft reset and recovery -/

theorem softReset_keepsBoot : KeepsBoot env depth boot softReset :=
  keepsBoot_catching
    (keepsBoot_bind (keepsBoot_of_all recovers uninstallAllProtocols_bootSafe) fun _ =>
      keepsBoot_bind (keepsBoot_of_all recovers ((all_invoke _).mpr fun _ => .inl rfl)) fun _ =>
        keepsBoot_bind (keepsBoot_of_all recovers ((all_invoke _).mpr trivial)) fun _ =>
          keepsBoot_bind (keepsBoot_of_all recovers (setMedia_bootSafe _)) fun _ =>
            keeps_ite
              (keepsBoot_bind (keepsBoot_of_all recovers ((all_invoke _).mpr trivial)) fun _ =>
                keepsBoot_bind (keepsBoot_of_all recovers (setMedia_bootSafe _)) fun _ =>
                  keepsBoot_bind (initializeDevice_keepsBoot recovers) fun _ =>
                    keepsBoot_of_all recovers installCardProtocols_bootSafe)
              (keepsBoot_of_all recovers (install_bootSafe _)))
    fun error => keepsBoot_of_all recovers (softResetExit_bootSafe error)

theorem recoverySteps_keepsBoot (cmd : SdCommand) (world : World) :
    wp (handler env depth) (recoverySteps cmd) (fun _ after => BootKept boot world after)
      (fun _ after => BootKept boot world after) world := by
  have keeps : KeepsBoot env depth boot (recoverySteps cmd) :=
    keepsBoot_bind (keepsBoot_of_quiet recovers instanceData_quiet) fun _ =>
      keeps_ite (keepsBoot_raise _ _)
        (keepsBoot_bind (keepsBoot_of_all recovers (resetLines_bootSafe cmd)) fun _ =>
          keepsBoot_bind (keeps_ite (softReset_keepsBoot recovers) (keepsBoot_pure _)) fun _ =>
            keepsBoot_of_all recovers (stopIfTransferring_bootSafe cmd))
  exact keeps world (along_of_resetting (recoverySteps_resetting cmd) world)

end

theorem handler_recoverFromErrors_boot (env : Environment) (depth boot : Nat) (cmd : SdCommand)
    (world : World) (answered : Unit × World)
    (defined : handler env depth (.recoverFromErrors cmd) world = some answered) :
    BootKept boot world answered.2 := by
  have counted (change : UInt32 → UInt32) (world : World) :
      BootKept boot world { world with device := world.device.changeAttempts change } :=
    .of_events rfl rfl (List.append_nil _).symm (List.forall_mem_nil _)
  refine handler_recovers (fun before after kept => ?_)
    (fun _ recovers => recoverySteps_keepsBoot recovers) depth cmd world answered defined
  exact ((counted _ before).trans kept).trans (counted _ after)

/-! ### Switches -/

section

variable {env : Environment} {depth boot : Nat}

/-- The `SWITCH` of the partition is the first thing the driver sends. -/
theorem sdhcSwitchPartitionMmc_sentKnown {partition : PartitionAccess} {world : World}
    (along : (sdhcSwitchPartitionMmc partition).Along (handler env depth) SentKnown world) :
    world.HoldsExtCsd ∨ bootConfig world.card.partitionConfig = 0 := by
  rw [sdhcSwitchPartitionMmc, along_bind, wp_instanceData, along_bind, sdhcSendCommand, along_bind,
    sdhcSendSimpleCommand, recovering, along_catching, sdhcSendCommandHelper, sendAppCmdPrefix,
    if_neg (by decide), along_bind, wp_pure, along_bind, callService, along_bind] at along
  have sent := along_invoke.mp along.2.1.1.1.2.1.1
  exact sent (by simp [SdmmcOp.switchesPartition, isPartitionSwitch])

/-- The byte written is the one held, with another partition. -/
theorem sdhcSwitchPartitionMmc_keepsBoot (partition : PartitionAccess) :
    KeepsBoot env depth boot (sdhcSwitchPartitionMmc partition) := by
  intro world along
  have recovers := handler_recoverFromErrors_boot env depth boot
  by_cases intact : BootIntact boot world
  · have known := sdhcSwitchPartitionMmc_sentKnown along
    have written : bootConfig
        (withAccess world.device.cardInfo.extCsd.partitionConfig partition) = boot := by
      rw [bootConfig_withAccess]
      by_cases holds : world.HoldsExtCsd
      · exact intact.held holds
      · rw [← intact.card, known.resolve_left holds, not_not.mp holds]
        rfl
    have safe : BootSafe boot (.service (.sendCommand cmdSwitchMmc
        (writeByteArg indexPartitionConfig
          (withAccess world.device.cardInfo.extCsd.partitionConfig partition)) none)) := by
      intro _
      rw [ofUint32_writeByteArg]
      exact written
    rw [sdhcSwitchPartitionMmc, along_bind, wp_instanceData] at along
    rw [sdhcSwitchPartitionMmc, wp_bind, wp_instanceData]
    have records : (call (.recordPartition partition)).All (BootSafe boot) :=
      (all_invoke _).mpr trivial
    have sends := @keepsBoot_of_all env depth boot recovers _ _ (sdhcSendCommand_bootSafe safe)
    exact keepsBoot_bind sends
      (fun _ => keepsBoot_bind (sdhcSendExtCsdMmc_keepsBoot recovers) fun _ =>
        keepsBoot_bind (keepsBoot_of_quiet recovers instanceData_quiet) fun _ =>
          keeps_ite (keepsBoot_raise _ _) (keepsBoot_of_all recovers records))
      world along.2
  · exact wp_mono (wp_trivial _) (fun _ _ _ broken => absurd broken intact)
      fun _ _ _ broken => absurd broken intact

theorem rpmbDispatch_bootSafe (request response : RpmbDataBuffer) :
    (rpmbDispatch request response).All (BootSafe boot) := by
  have count (blockCount : UInt32) (reliableWrite : Bool) :
      (sdhcSetBlockCount blockCount reliableWrite).All (BootSafe boot) :=
    sdhcSendCommand_bootSafe (bootSafe_of_noSwitch (noSwitch_of_ne _ (by decide)) none)
  have writes (byteSize : UInt32) (buffer : TransferBuffer) :
      (writeFrames byteSize buffer).All (BootSafe boot) :=
    sdhcSendDataCommand_bootSafe (by decide) _ _ _
  have reads (byteSize : UInt32) (buffer : TransferBuffer) :
      (readFrames byteSize buffer).All (BootSafe boot) :=
    sdhcSendDataCommand_bootSafe (by decide) _ _ _
  have write (request : RpmbDataBuffer) : (rpmbWrite request).All (BootSafe boot) :=
    all_bind (count _ _) fun _ => writes _ _
  have read (request : TransferBuffer) (response : RpmbDataBuffer) :
      (rpmbRead request response).All (BootSafe boot) :=
    all_bind (count _ _) fun _ => all_bind (writes _ _) fun _ =>
      all_bind (count _ _) fun _ => reads _ _
  exact all_bind (all_bind ((all_invoke _).mpr trivial) fun _ => all_pure _) fun _ =>
    all_ite (all_bind (write _) fun _ => read _ _)
      (all_ite (read _ _)
        (all_ite (read _ _) (all_ite (all_bind (write _) fun _ => read _ _) (all_pure _))))

theorem rpmbRequest_keepsBoot (request response : RpmbDataBuffer) :
    KeepsBoot env depth boot (rpmbRequest request response) := by
  have recovers := handler_recoverFromErrors_boot env depth boot
  exact keepsBoot_bind (keepsBoot_of_quiet recovers instanceData_quiet) fun _ =>
    keepsBoot_bind (sdhcSwitchPartitionMmc_keepsBoot .rpmb) fun _ =>
      keepsBoot_bind
        (keepsBoot_catching
          (keepsBoot_of_all recovers (rpmbDispatch_bootSafe request response)) fun error =>
            keepsBoot_bind
              (keepsBoot_catching (sdhcSwitchPartitionMmc_keepsBoot _) fun _ => keepsBoot_pure ())
              fun _ => keeps_fail BootKept.refl error)
        fun _ => sdhcSwitchPartitionMmc_keepsBoot _

end

/-! ### Runs -/

/-- A call that reaches the card: an initialization, a soft reset, or a client's call. -/
inductive BootCall where
  | initializeDevice
  | softReset
  | client (call : ClientCall)
  deriving DecidableEq, Repr

def BootCall.Returns (env : Environment) (maximumBlockCount : UInt32) (world : World)
    (result : EfiStatus × World) : BootCall → Prop
  | .initializeDevice =>
    (SdMmc.initializeDevice.exec (driver env) world).map statusOf = some result
  | .softReset => (SdMmc.softReset.exec (driver env) world).map statusOf = some result
  | .client call => call.Returns env maximumBlockCount world result

/-- Every `SWITCH` of the partition that the call sends, it sends while the driver holds
an EXT_CSD or the card has no boot configuration. Only requests send one. -/
def BootCall.SwitchesKnown (env : Environment) (world : World) : BootCall → Prop
  | .client (.rpmbRequest request response) =>
    (SdMmc.rpmbRequest request response).Along (driver env) SentKnown world
  | _ => True

/-- The worlds that calls with known switches lead to, from a new instance. Clients may
store to memory between the calls. -/
inductive BootRun (env : Environment) (maximumBlockCount : UInt32) (card : Card) :
    World → Prop where
  | start : BootRun env maximumBlockCount card (World.start card)
  | step {before after : World} {status : EfiStatus} (memory : Memory) (call : BootCall) :
      BootRun env maximumBlockCount card before →
      call.SwitchesKnown env { before with memory := memory } →
      call.Returns env maximumBlockCount { before with memory := memory } (status, after) →
      BootRun env maximumBlockCount card after

section

variable {env : Environment} {maximumBlockCount : UInt32} {boot : Nat}

variable {result : EfiStatus × World}

theorem keepsBoot_returns {α : Type} {program : Sd α} {world : World}
    (keeps : KeepsBoot env recoveryDepth boot program)
    (along : program.Along (driver env) SentKnown world)
    (returned : (program.exec (driver env) world).map statusOf = some result) :
    BootKept boot world result.2 := by
  obtain ⟨outcome, ended, rfl⟩ := Option.map_eq_some_iff.mp returned
  have ends := keeps world along outcome ended
  rcases outcome with ⟨error | value, after⟩ <;> exact ends

theorem BootCall.returns_bootKept {call : BootCall} {world : World}
    (known : call.SwitchesKnown env world)
    (returned : call.Returns env maximumBlockCount world result) :
    BootKept boot world result.2 := by
  have recovers := handler_recoverFromErrors_boot env recoveryDepth boot
  cases call with
  | initializeDevice =>
    exact keepsBoot_returns (initializeDevice_keepsBoot recovers)
      (along_of_resetting (initializeDevice_routine.mono Routine.resetting) world) returned
  | softReset =>
    exact keepsBoot_returns (softReset_keepsBoot recovers)
      (along_of_resetting softReset_resetting world) returned
  | client call =>
    cases call with
    | rpmbRequest request response =>
      exact keepsBoot_returns (rpmbRequest_keepsBoot request response) known returned
    | ioBlocks request uninitialized =>
      obtain ⟨fuel, ended⟩ := returned
      refine ioBlocks_preserves _ (BootKept boot) BootKept.refl BootKept.trans
        (fun command before member => ?_) ended
      have safe := @sdhcSendDataCommand_bootSafe boot _ (ne_cmdSwitchMmc_of_mem member) command.lba
        command.size (.client command.buffer)
      have routine := sdhcSendDataCommand_routine (ne_cmdSwitchMmc_of_mem member) command.lba
        command.size (.client command.buffer)
      exact driverPort_keeps BootKept.refl maximumBlockCount
        (keepsBoot_of_all recovers safe before
          (along_of_resetting (routine.mono Routine.resetting) before))

/-- A new instance holds zeros. -/
theorem start_bootIntact (card : Card) :
    BootIntact (bootConfig card.partitionConfig) (World.start card) :=
  ⟨rfl, fun holds => absurd rfl holds⟩

theorem BootRun.kept {card : Card} {last : World} (run : BootRun env maximumBlockCount card last) :
    BootIntact (bootConfig card.partitionConfig) last ∧ ∀ event ∈ last.log, event.KeepsBoot := by
  induction run with
  | start => exact ⟨start_bootIntact card, List.forall_mem_nil _⟩
  | step _ _ _ known returned ih =>
    obtain ⟨intact, events, grown, keeps⟩ := BootCall.returns_bootKept known returned
      (show BootIntact (bootConfig card.partitionConfig) _ from ⟨ih.1.card, ih.1.held⟩)
    refine ⟨intact, ?_⟩
    rw [grown]
    exact List.forall_mem_append.mpr ⟨ih.2, keeps⟩

end

/-- In every run of initializations, soft resets, RPMB requests and block I/O from a new
instance, under every pattern of failures, in which no `SWITCH` of the partition is sent
from the zeros of an unfinished initialization to a card with a boot configuration: every
such `SWITCH` writes the boot configuration the card has, and the card keeps it. -/
theorem bootConfig_kept (env : Environment) (maximumBlockCount : UInt32) (card : Card)
    {last : World} (run : BootRun env maximumBlockCount card last) :
    bootConfig last.card.partitionConfig = bootConfig card.partitionConfig ∧
      ∀ event ∈ last.log, event.KeepsBoot :=
  ⟨run.kept.1.card, run.kept.2⟩

/-! ### An MMC that boots from its first boot partition -/

/-- `BOOT_ACK` and the first boot partition. -/
def bootCard : Card := ⟨0x48⟩

/-- An MMC in its transfer state answers every call, but no SDIO card does, and no RPMB
protocol is on the system. The calls listed fail besides. -/
def mmcFailing (failures : List Nat) : Environment := fun number =>
  if number = 8 ∨ number = 54 ∨ number ∈ failures then HostReply.failing
  else { HostReply.answering 0xC0FF8900 with
    response := #v[0xC0FF8900, 0, 0, 0x100000]
    data := fun _ => 1 }

/-- A frame at `0x1000` that asks for the write counter. -/
def counterFrame : Memory := fun address => if address = 0x11FF then 2 else 0

def started (failures : List Nat) : Option (EfiStatus × World) :=
  (SdMmc.softReset.exec (driver (mmcFailing failures)) (World.start bootCard)).map statusOf

def requested (failures : List Nat) (world : World) : Option (EfiStatus × World) :=
  ((SdMmc.rpmbRequest ⟨0x1000, 1⟩ ⟨0x2000, 1⟩).exec (driver (mmcFailing failures))
    { world with memory := counterFrame }).map statusOf

/-- Without failures the write counter is read. -/
theorem bootConfig_kept_readCounter :
    ∃ between last, started [] = some (EfiStatus.success, between) ∧
      requested [] between = some (EfiStatus.success, last) ∧
      bootConfig last.card.partitionConfig = bootConfig bootCard.partitionConfig ∧
      ∀ event ∈ last.log, event.KeepsBoot := by
  have ends : ((started []).bind fun reset => (requested [] reset.2).map fun result =>
      (reset.1, result.1)) = some (EfiStatus.success, EfiStatus.success) := by
    decide +kernel
  have known : ∀ reset ∈ started [], (SdMmc.rpmbRequest ⟨0x1000, 1⟩ ⟨0x2000, 1⟩).Along
      (driver (mmcFailing [])) SentKnown { reset.2 with memory := counterFrame } := by
    decide +kernel
  obtain ⟨⟨status, between⟩, reset, later⟩ := Option.bind_eq_some_iff.mp ends
  obtain ⟨⟨answer, last⟩, request, same⟩ := Option.map_eq_some_iff.mp later
  obtain ⟨rfl, rfl⟩ := Prod.mk.inj same
  have first : BootRun (mmcFailing []) 8 bootCard between :=
    .step (fun _ => 0) .softReset .start trivial reset
  exact ⟨between, last, reset, request, bootConfig_kept (mmcFailing []) 8 bootCard
    (.step counterFrame (.client (.rpmbRequest ⟨0x1000, 1⟩ ⟨0x2000, 1⟩)) first (known _ reset)
      request)⟩

/-- The block count of the request fails, so does resetting the command line after it,
and so does resetting the host in the soft reset that follows. The request then
switches back from zeros, and the card has lost its boot configuration. -/
theorem bootConfig_lost :
    ∃ between last, started [65, 66, 72] = some (EfiStatus.success, between) ∧
      requested [65, 66, 72] between = some (EfiStatus.deviceError, last) ∧
      bootConfig between.card.partitionConfig = 9 ∧ bootConfig last.card.partitionConfig = 0 ∧
      .command cmdSwitchMmc (writeByteArg indexPartitionConfig 0) none EfiStatus.success true
        ⟨0x4B⟩ ∈ last.log := by
  have ends : ((started [65, 66, 72]).bind fun reset =>
      (requested [65, 66, 72] reset.2).map fun result =>
        (reset.1, result.1, bootConfig reset.2.card.partitionConfig,
          bootConfig result.2.card.partitionConfig,
          decide (.command cmdSwitchMmc (writeByteArg indexPartitionConfig 0) none
            EfiStatus.success true ⟨0x4B⟩ ∈ result.2.log))) =
      some (EfiStatus.success, EfiStatus.deviceError, 9, 0, true) := by
    decide +kernel
  obtain ⟨⟨status, between⟩, reset, later⟩ := Option.bind_eq_some_iff.mp ends
  obtain ⟨⟨answer, last⟩, request, same⟩ := Option.map_eq_some_iff.mp later
  simp only [Prod.mk.injEq, decide_eq_true_eq] at same
  obtain ⟨rfl, rfl, intact, cleared, sent⟩ := same
  exact ⟨between, last, reset, request, intact, cleared, sent⟩

end MuRockchip.SdMmc
