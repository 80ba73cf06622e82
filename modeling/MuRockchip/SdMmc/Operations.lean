/-
The operations the driver's functions call.

Sets of operations matter to the driver's bookkeeping. `Routine` ones leave its
records and its installed protocols alone, `Quiet` ones also keep what the driver
knows of the card's EXT_CSD true, `Publishing` ones install protocols and write no
record, and `Resetting` ones are those of a soft reset, which writes no record other
than the partition's.
A command that succeeds has called no error recovery: outside of recovery it
calls what its program text shows.

* `sdhcSendCommand_guarded`, `sdhcSendDataCommand_guarded`: a command calls its
  own operations, and error recovery on its way to an error.
* `initializeDevice_routine`, `softReset_resetting`, `recoverySteps_resetting`: the
  sets of the longer functions.
-/
import MuRockchip.SdMmc.Rpmb

namespace MuRockchip.SdMmc

open MuRockchip.Base
open MuRockchip.Base.Prog

/-! ### Sets of operations -/

/-- The driver's records: the current partition, the last commands and the count
of recoveries under way. -/
structure SameRecords (before after : SdhcInstance) : Prop where
  partition : after.currentMmcPartition = before.currentMmcPartition
  last : after.lastSuccessfulCmd = before.lastSuccessfulCmd
  preLast : after.preLastSuccessfulCmd = before.preLastSuccessfulCmd
  attempts : after.errorRecoveryAttemptCount = before.errorRecoveryAttemptCount

/-- The records and the flags of the installed protocols. -/
structure SameBooks (before after : SdhcInstance) : Prop extends SameRecords before after where
  installed : after.installed = before.installed

/-- The books, and what is known of the card. -/
structure SameKnowledge (before after : SdhcInstance) : Prop extends SameBooks before after where
  extCsd : after.cardInfo.extCsd = before.cardInfo.extCsd
  cardFunction : after.cardInfo.cardFunction = before.cardInfo.cardFunction
  blockBuffer : after.blockBuffer = before.blockBuffer

/-- The operation sends such commands only, and leaves the books alone. -/
def Routine (commands : SdCommand → UInt32 → Prop) : SdmmcOp → Prop
  | .service (.sendCommand cmd arg _) => commands cmd arg
  | .service (.installProtocol _) => False
  | .service (.uninstallProtocol _) => False
  | .modifyInstance change => ∀ device, SameBooks device (change device)
  | .recordPartition _ => False
  | _ => True

def NoSwitch (cmd : SdCommand) (arg : UInt32) : Prop := isPartitionSwitch cmd arg = false

/-- The operation keeps the card's partition and what the driver knows of it. -/
def Quiet : SdmmcOp → Prop
  | .service (.sendCommand cmd arg _) => cmd ≠ cmdGoIdleState ∧ NoSwitch cmd arg
  | .service (.readBlockData _ buffer) => buffer ≠ .blockBuffer
  | .service (.installProtocol _) => False
  | .service (.uninstallProtocol _) => False
  | .modifyInstance change => ∀ device, SameKnowledge device (change device)
  | .recordPartition _ => False
  | .recoverFromErrors _ => False
  | _ => True

/-- The operation switches no partition and writes no record but the partition's. -/
def Resetting : SdmmcOp → Prop
  | .service (.sendCommand cmd arg _) => NoSwitch cmd arg
  | .modifyInstance change => ∀ device, SameRecords device (change device)
  | _ => True

/-- The operation writes no record but the partition's. -/
def Recording : SdmmcOp → Prop
  | .modifyInstance change => ∀ device, SameRecords device (change device)
  | _ => True

/-- The operation is one of a soft reset, and writes no record at all. -/
def Publishing : SdmmcOp → Prop
  | .service (.sendCommand cmd arg _) => NoSwitch cmd arg
  | .modifyInstance change => ∀ device, SameRecords device (change device)
  | .recordPartition _ => False
  | _ => True

/-- The operation writes no record. -/
def Recordless : SdmmcOp → Prop
  | .modifyInstance change => ∀ device, SameRecords device (change device)
  | .recordPartition _ => False
  | _ => True

theorem Quiet.routine (op : SdmmcOp) (quiet : Quiet op) : Routine NoSwitch op := by
  cases op with
  | service service =>
    cases service with
    | sendCommand cmd arg xfrInfo => exact quiet.2
    | installProtocol protocol => exact quiet
    | uninstallProtocol protocol => exact quiet
    | _ => trivial
  | modifyInstance change => exact fun device => (quiet device).toSameBooks
  | recordPartition partition => exact quiet
  | _ => trivial

theorem Routine.resetting (op : SdmmcOp) (routine : Routine NoSwitch op) : Resetting op := by
  cases op with
  | service service =>
    cases service with
    | sendCommand cmd arg xfrInfo => exact routine
    | _ => trivial
  | modifyInstance change => exact fun device => (routine device).toSameRecords
  | _ => trivial

variable {commands : SdCommand → UInt32 → Prop} {α : Type} {cmd : SdCommand}
  {change : CardInfo → CardInfo} {allowed : SdmmcOp → Prop}

theorem Routine.recording (op : SdmmcOp) (routine : Routine commands op) : Recording op := by
  cases op with
  | modifyInstance change => exact fun device => (routine device).toSameRecords
  | _ => trivial

theorem Resetting.recording (op : SdmmcOp) (resetting : Resetting op) : Recording op := by
  cases op with
  | modifyInstance change => exact resetting
  | _ => trivial

theorem Publishing.resetting (op : SdmmcOp) (publishing : Publishing op) : Resetting op := by
  cases op with
  | service service =>
    cases service with
    | sendCommand cmd arg xfrInfo => exact publishing
    | _ => trivial
  | modifyInstance change => exact publishing
  | _ => trivial

theorem Publishing.recordless (op : SdmmcOp) (publishing : Publishing op) : Recordless op := by
  cases op with
  | modifyInstance change => exact publishing
  | recordPartition partition => exact publishing
  | _ => trivial

theorem Routine.recordless (op : SdmmcOp) (routine : Routine commands op) : Recordless op := by
  cases op with
  | modifyInstance change => exact fun device => (routine device).toSameRecords
  | recordPartition partition => exact routine
  | _ => trivial

theorem IsRecovery.routine (op : SdmmcOp) (recovery : IsRecovery op) : Routine commands op := by
  cases op with
  | recoverFromErrors cmd => trivial
  | _ => exact recovery.elim

theorem routine_of_guarded {program : Sd α}
    (guarded : program.Guarded Quiet IsRecovery) : program.All (Routine NoSwitch) :=
  guarded.all Quiet.routine IsRecovery.routine

/-- What every command calls besides sending itself. -/
structure CommandOps (allowed : SdmmcOp → Prop) : Prop where
  instanceData : allowed .instanceData
  receive : ∀ cmd, allowed (.service (.receiveResponse cmd))
  remember : ∀ cmd, allowed (.rememberCommand cmd)
  nullCmd : ∀ cmd, allowed (.nullCmdEquals cmd)
  auxiliary : ∀ cmd arg, cmd ∈ [cmdAppSd, cmdSendStatus, cmdStopTransmission] →
    allowed (.service (.sendCommand cmd arg none))

theorem noSwitch_of_ne (arg : UInt32) (other : cmd ≠ cmdSwitchMmc) :
    NoSwitch cmd arg := by
  simp [NoSwitch, isPartitionSwitch, other]

theorem commandOps_quiet : CommandOps Quiet where
  instanceData := trivial
  receive _ := trivial
  remember _ := trivial
  nullCmd _ := trivial
  auxiliary cmd arg member := by
    simp only [List.mem_cons, List.not_mem_nil, or_false] at member
    rcases member with rfl | rfl | rfl
    · exact ⟨by decide, noSwitch_of_ne arg (by decide)⟩
    · exact ⟨by decide, noSwitch_of_ne arg (by decide)⟩
    · exact ⟨by decide, noSwitch_of_ne arg (by decide)⟩

theorem commandOps_routine : CommandOps (Routine fun _ _ => True) where
  instanceData := trivial
  receive _ := trivial
  remember _ := trivial
  nullCmd _ := trivial
  auxiliary _ _ _ := trivial

/-! ### Commands -/

section

variable {allowed : SdmmcOp → Prop}

theorem check_guarded (status : EfiStatus) : (check status).Guarded allowed IsRecovery := by
  unfold check
  split <;> trivial

theorem callService_guarded {service : Service} (permitted : allowed (.service service)) :
    (callService service).Guarded allowed IsRecovery :=
  guarded_bind (guarded_invoke permitted) check_guarded

variable (ops : CommandOps allowed)

include ops

theorem instanceData_guarded : instanceData.Guarded allowed IsRecovery :=
  guarded_invoke ops.instanceData

theorem rcaArgument_guarded : rcaArgument.Guarded allowed IsRecovery :=
  guarded_bind (instanceData_guarded ops) fun _ => guarded_pure _

theorem sendAppCmdPrefix_guarded (cmd : SdCommand) :
    (sendAppCmdPrefix cmd).Guarded allowed IsRecovery :=
  guarded_ite
    (guarded_bind (rcaArgument_guarded ops) fun arg =>
      callService_guarded (ops.auxiliary cmdAppSd arg (by decide)))
    (guarded_pure _)

theorem checkCardStatus_guarded (cmd : SdCommand) :
    (checkCardStatus cmd).Guarded allowed IsRecovery :=
  guarded_ite
    (guarded_bind (instanceData_guarded ops) fun _ => guarded_ite (guarded_fail _) (guarded_pure _))
    (guarded_pure _)

variable {arg bufferByteSize : UInt32} {cmd : SdCommand} {buffer : TransferBuffer}

theorem sdhcSendCommandHelper_guarded {xfrInfo : Option SdCommandXfrInfo}
    (permitted : allowed (.service (.sendCommand cmd arg xfrInfo))) :
    (sdhcSendCommandHelper cmd arg xfrInfo).Guarded allowed IsRecovery :=
  guarded_bind (sendAppCmdPrefix_guarded ops cmd) fun _ =>
    guarded_bind (callService_guarded permitted) fun _ =>
      guarded_bind (callService_guarded (ops.receive cmd)) fun _ =>
        guarded_bind (checkCardStatus_guarded ops cmd) fun _ => guarded_invoke (ops.remember cmd)

omit ops in
theorem recovering_guarded {α : Type} {part : Sd α} (cmd : SdCommand)
    (guarded : part.Guarded allowed IsRecovery) :
    (recovering cmd part).Guarded allowed IsRecovery :=
  guarded_catching guarded fun _ => ⟨trivial, fun _ => trivial⟩

theorem sdhcSendSimpleCommand_guarded (permitted : allowed (.service (.sendCommand cmd arg none))) :
    (sdhcSendSimpleCommand cmd arg).Guarded allowed IsRecovery :=
  recovering_guarded cmd (sdhcSendCommandHelper_guarded ops permitted)

theorem sdhcSendStatus_guarded : sdhcSendStatus.Guarded allowed IsRecovery :=
  guarded_bind (rcaArgument_guarded ops) fun arg =>
    guarded_bind (sdhcSendSimpleCommand_guarded ops (ops.auxiliary cmdSendStatus arg (by decide)))
      fun _ => guarded_bind (instanceData_guarded ops) fun _ => guarded_pure _

theorem pollTranState_guarded (retry : Nat) (cardStatus : UInt32) :
    (pollTranState retry cardStatus).Guarded allowed IsRecovery := by
  induction retry generalizing cardStatus with
  | zero => trivial
  | succ retry ih =>
    exact guarded_ite (guarded_pure _) (guarded_bind (sdhcSendStatus_guarded ops) ih)

theorem sdhcWaitForTranState_guarded :
    sdhcWaitForTranStateAndReadyForData.Guarded allowed IsRecovery :=
  guarded_bind (sdhcSendStatus_guarded ops) (pollTranState_guarded ops _)

theorem sdhcSendCommand_guarded (permitted : allowed (.service (.sendCommand cmd arg none))) :
    (sdhcSendCommand cmd arg).Guarded allowed IsRecovery :=
  guarded_bind (sdhcSendSimpleCommand_guarded ops permitted) fun _ =>
    guarded_ite (sdhcWaitForTranState_guarded ops) (guarded_pure _)

theorem sdhcStopTransmission_guarded : sdhcStopTransmission.Guarded allowed IsRecovery :=
  guarded_bind (rcaArgument_guarded ops) fun arg =>
    sdhcSendSimpleCommand_guarded ops (ops.auxiliary cmdStopTransmission arg (by decide))

omit ops in
theorem transferBlocks_guarded (reads : allowed (.service (.readBlockData bufferByteSize buffer)))
    (writes : allowed (.service (.writeBlockData bufferByteSize buffer))) :
    (transferBlocks cmd bufferByteSize buffer).Guarded allowed IsRecovery :=
  guarded_ite (callService_guarded reads) (callService_guarded writes)

theorem cmdsAreEqual_guarded (record : Option SdCommand) (cmd : SdCommand) :
    (cmdsAreEqual record cmd).Guarded allowed IsRecovery := by
  cases record with
  | some recorded => exact guarded_pure _
  | none => exact guarded_invoke (ops.nullCmd cmd)

theorem blockCountPreceded_guarded : blockCountPreceded.Guarded allowed IsRecovery :=
  guarded_bind (instanceData_guarded ops) fun _ =>
    guarded_ite (guarded_pure _) (cmdsAreEqual_guarded ops _ _)

theorem endTransfer_guarded (cmd : SdCommand) : (endTransfer cmd).Guarded allowed IsRecovery :=
  guarded_ite
    (guarded_bind (blockCountPreceded_guarded ops) fun _ =>
      guarded_ite (guarded_pure _) (sdhcStopTransmission_guarded ops))
    (guarded_pure _)

theorem sdhcSendDataCommand_guarded
    (permitted : ∀ xfrInfo, allowed (.service (.sendCommand cmd arg xfrInfo)))
    (reads : allowed (.service (.readBlockData bufferByteSize buffer)))
    (writes : allowed (.service (.writeBlockData bufferByteSize buffer))) :
    (sdhcSendDataCommand cmd arg bufferByteSize buffer).Guarded allowed IsRecovery :=
  recovering_guarded cmd
    (guarded_bind (sdhcSendCommandHelper_guarded ops (permitted _)) fun _ =>
      guarded_bind (transferBlocks_guarded reads writes) fun _ =>
        guarded_bind (endTransfer_guarded ops cmd) fun _ => sdhcWaitForTranState_guarded ops)

end

/-! ### Identification and registers -/

theorem instanceData_quiet : instanceData.Guarded Quiet IsRecovery :=
  instanceData_guarded commandOps_quiet

theorem rcaArgument_quiet : rcaArgument.Guarded Quiet IsRecovery :=
  rcaArgument_guarded commandOps_quiet

theorem sdhcSendCommand_quiet {arg : UInt32} (noReset : cmd ≠ cmdGoIdleState)
    (noSwitch : NoSwitch cmd arg) : (sdhcSendCommand cmd arg).Guarded Quiet IsRecovery :=
  sdhcSendCommand_guarded commandOps_quiet ⟨noReset, noSwitch⟩

/-- A command that is neither a reset nor a `SWITCH` is quiet. -/
theorem sdhcSendCommand_plain (arg : UInt32) (plain : cmd ≠ cmdGoIdleState ∧ cmd ≠ cmdSwitchMmc) :
    (sdhcSendCommand cmd arg).Guarded Quiet IsRecovery :=
  sdhcSendCommand_quiet plain.1 (noSwitch_of_ne arg plain.2)

theorem modifyInstance_quiet {change : SdhcInstance → SdhcInstance}
    (keeps : ∀ device, SameKnowledge device (change device)) :
    (modifyInstance change).Guarded Quiet IsRecovery :=
  guarded_invoke keeps

theorem modifyCardInfo_quiet (extCsd : ∀ info, (change info).extCsd = info.extCsd)
    (cardFunction : ∀ info, (change info).cardFunction = info.cardFunction) :
    (modifyCardInfo change).Guarded Quiet IsRecovery :=
  modifyInstance_quiet fun _ => ⟨⟨⟨rfl, rfl, rfl, rfl⟩, rfl⟩, extCsd _, cardFunction _, rfl⟩

theorem modifyCardInfo_all :
    (modifyCardInfo change).All (Routine NoSwitch) :=
  (all_invoke _).mpr fun _ => ⟨⟨rfl, rfl, rfl, rfl⟩, rfl⟩

theorem raise_guarded (status : EfiStatus)
    (failed : status.isError = true) : (raise status failed : Sd α).Guarded allowed IsRecovery :=
  guarded_fail _

theorem sdhcSendIfCondSd_quiet : sdhcSendIfCondSd.Guarded Quiet IsRecovery :=
  guarded_bind (sdhcSendCommand_plain _ (by decide)) fun _ =>
    guarded_bind instanceData_quiet fun _ =>
      guarded_ite (raise_guarded _ _) (modifyCardInfo_quiet (fun _ => rfl) (fun _ => rfl))

theorem sdhcSendOpCondSdio_quiet : sdhcSendOpCondSdio.Guarded Quiet IsRecovery :=
  sdhcSendCommand_plain _ (by decide)

theorem sendOpCondMmcLoop_quiet (retry : Nat) :
    (sendOpCondMmcLoop retry).Guarded Quiet IsRecovery := by
  induction retry with
  | zero => trivial
  | succ retry ih =>
    exact guarded_bind (sdhcSendCommand_plain _ (by decide)) fun _ =>
      guarded_bind instanceData_quiet fun _ =>
        guarded_bind (modifyCardInfo_quiet (fun _ => rfl) (fun _ => rfl)) fun _ =>
          guarded_ite
            (guarded_bind (modifyCardInfo_quiet (fun _ => rfl) (fun _ => rfl)) fun _ =>
              guarded_ite (raise_guarded _ _) (guarded_pure _))
            ih

theorem sendOpCondSdLoop_quiet (arg : UInt32) (retry : Nat) :
    (sendOpCondSdLoop arg retry).Guarded Quiet IsRecovery := by
  induction retry with
  | zero => trivial
  | succ retry ih =>
    exact guarded_bind (sdhcSendCommand_plain _ (by decide)) fun _ =>
      guarded_bind instanceData_quiet fun _ =>
        guarded_ite
          (modifyCardInfo_quiet (fun info => by split <;> rfl) (fun info => by split <;> rfl)) ih

theorem sdhcSendOpCondSd_quiet : sdhcSendOpCondSd.Guarded Quiet IsRecovery :=
  guarded_bind (sdhcSendCommand_plain _ (by decide)) fun _ =>
    guarded_bind instanceData_quiet fun _ =>
      guarded_bind (modifyCardInfo_quiet (fun _ => rfl) (fun _ => rfl)) fun _ =>
        sendOpCondSdLoop_quiet _ _

theorem sdhcSendCidAll_quiet : sdhcSendCidAll.Guarded Quiet IsRecovery :=
  sdhcSendCommand_plain _ (by decide)

theorem sdhcSendRelativeAddr_quiet : sdhcSendRelativeAddr.Guarded Quiet IsRecovery :=
  guarded_bind instanceData_quiet fun _ =>
    guarded_ite
      (guarded_bind (modifyCardInfo_quiet (fun _ => rfl) (fun _ => rfl)) fun _ =>
        sdhcSendCommand_plain _ (by decide))
      (guarded_bind (sdhcSendCommand_plain _ (by decide)) fun _ =>
        modifyInstance_quiet fun _ => ⟨⟨⟨rfl, rfl, rfl, rfl⟩, rfl⟩, rfl, rfl, rfl⟩)

theorem sdhcSendCid_quiet : sdhcSendCid.Guarded Quiet IsRecovery :=
  guarded_bind rcaArgument_quiet fun _ =>
    guarded_bind (sdhcSendCommand_plain _ (by decide)) fun _ =>
      modifyInstance_quiet fun device => by
        split
        · exact ⟨⟨⟨rfl, rfl, rfl, rfl⟩, rfl⟩, rfl, rfl, rfl⟩
        · split <;> exact ⟨⟨⟨rfl, rfl, rfl, rfl⟩, rfl⟩, rfl, rfl, rfl⟩

theorem sdhcSendCsd_quiet : sdhcSendCsd.Guarded Quiet IsRecovery :=
  guarded_bind rcaArgument_quiet fun _ =>
    guarded_bind (sdhcSendCommand_plain _ (by decide)) fun _ =>
      modifyInstance_quiet fun _ => ⟨⟨⟨rfl, rfl, rfl, rfl⟩, rfl⟩, rfl, rfl, rfl⟩

theorem sdhcSelectDevice_quiet : sdhcSelectDevice.Guarded Quiet IsRecovery :=
  guarded_bind rcaArgument_quiet fun _ => sdhcSendCommand_plain _ (by decide)

theorem sdhcSwitchBusWidthSd_quiet : sdhcSwitchBusWidthSd.Guarded Quiet IsRecovery :=
  guarded_bind (sdhcSendCommand_plain _ (by decide)) fun _ => callService_guarded trivial

theorem sdhcSetMaxClockFrequency_quiet : sdhcSetMaxClockFrequency.Guarded Quiet IsRecovery :=
  guarded_bind instanceData_quiet fun _ =>
    guarded_ite (callService_guarded trivial) (raise_guarded _ _)

theorem sdhcSetBlockLength_quiet (length : UInt32) :
    (sdhcSetBlockLength length).Guarded Quiet IsRecovery :=
  sdhcSendCommand_plain _ (by decide)

theorem initializeSdDevice_quiet : initializeSdDevice.Guarded Quiet IsRecovery :=
  guarded_bind sdhcSendOpCondSd_quiet fun _ =>
    guarded_bind sdhcSendCidAll_quiet fun _ =>
      guarded_bind sdhcSendRelativeAddr_quiet fun _ =>
        guarded_bind sdhcSendCid_quiet fun _ =>
          guarded_bind sdhcSendCsd_quiet fun _ =>
            guarded_bind sdhcSelectDevice_quiet fun _ =>
              guarded_bind sdhcSwitchBusWidthSd_quiet fun _ => sdhcSetMaxClockFrequency_quiet

/-- The part of the MMC initialization before the EXT_CSD is read. -/
theorem checkSpecVers_quiet : checkSpecVers.Guarded Quiet IsRecovery :=
  guarded_bind instanceData_quiet fun _ => guarded_ite (raise_guarded _ _) (guarded_pure _)

/-! ### Routine functions -/

theorem instanceData_all (holds : allowed .instanceData) :
    instanceData.All allowed :=
  (all_invoke _).mpr holds

theorem raise_all (status : EfiStatus)
    (failed : status.isError = true) : (raise status failed : Sd α).All allowed :=
  all_fail _

theorem check_all (status : EfiStatus) : (check status).All allowed := by
  unfold check
  split <;> trivial

theorem callService_all {service : Service}
    (holds : allowed (.service service)) : (callService service).All allowed :=
  all_bind ((all_invoke _).mpr holds) check_all

theorem routine_all {program : Sd α}
    (guarded : program.Guarded (Routine commands) IsRecovery) : program.All (Routine commands) :=
  guarded.all (fun _ holds => holds) IsRecovery.routine

theorem commandOps_noSwitch : CommandOps (Routine NoSwitch) where
  instanceData := trivial
  receive _ := trivial
  remember _ := trivial
  nullCmd _ := trivial
  auxiliary cmd arg member := (commandOps_quiet.auxiliary cmd arg member).2

theorem sdhcSendExtCsdMmc_all (ops : CommandOps (Routine commands))
    (permitted : ∀ arg, commands cmdSendExtCsdMmc arg) :
    sdhcSendExtCsdMmc.All (Routine commands) := by
  have data (arg : UInt32) :
      (sdhcSendDataCommand cmdSendExtCsdMmc arg sdBlockLengthBytes .blockBuffer).Guarded
        (Routine commands) IsRecovery :=
    sdhcSendDataCommand_guarded ops (fun _ => permitted arg) trivial trivial
  exact all_bind (routine_all (rcaArgument_guarded ops)) fun arg =>
    all_bind (routine_all (data arg)) fun _ =>
      (all_invoke _).mpr fun _ => ⟨⟨rfl, rfl, rfl, rfl⟩, rfl⟩

theorem sdhcSendExtCsdMmc_routine : sdhcSendExtCsdMmc.All (Routine NoSwitch) :=
  sdhcSendExtCsdMmc_all commandOps_noSwitch fun arg => noSwitch_of_ne arg (by decide)

theorem sdhcSendCommand_routine {arg : UInt32} (noSwitch : NoSwitch cmd arg) :
    (sdhcSendCommand cmd arg).All (Routine NoSwitch) :=
  routine_all (sdhcSendCommand_guarded commandOps_noSwitch noSwitch)

theorem sdhcSendDataCommand_routine (other : cmd ≠ cmdSwitchMmc) (arg bufferByteSize : UInt32)
    (buffer : TransferBuffer) :
    (sdhcSendDataCommand cmd arg bufferByteSize buffer).All (Routine NoSwitch) :=
  routine_all (sdhcSendDataCommand_guarded commandOps_noSwitch (fun _ => noSwitch_of_ne arg other)
    trivial trivial)

theorem noSwitch_writeByte {index : UInt8} (value : UInt8) (other : index ≠ indexPartitionConfig) :
    NoSwitch cmdSwitchMmc (writeByteArg index value) := by
  simp [NoSwitch, isPartitionSwitch, other]

theorem noSwitch_powerClass (powerClass : UInt8) :
    NoSwitch cmdSwitchMmc (powerClassArg powerClass) := by
  have bound := powerClass.toNat_lt
  have low : powerClass.toNat <<< 8 = powerClass.toNat * 256 := by
    rw [Nat.shiftLeft_eq]
  have word : (powerClassArg powerClass).toNat = 0x03BB0000 + powerClass.toNat * 256 := by
    have joined := Nat.shiftLeft_add_eq_or_of_lt
      (show powerClass.toNat * 256 < 2 ^ 16 by omega) 0x03BB
    have shifted : (powerClass.toUInt32 <<< 8).toNat = powerClass.toNat * 256 := by
      rw [UInt32.toNat_shiftLeft, UInt8.toNat_toUInt32]
      simp only [UInt32.reduceToNat, Nat.reduceMod, low]
      omega
    rw [powerClassArg, UInt32.toNat_or, shifted, Nat.or_comm]
    exact joined.symm
  have index : (MmcSwitchCmdArg.ofUint32 (powerClassArg powerClass)).index = 187 := by
    apply UInt8.toNat_inj.mp
    rw [MmcSwitchCmdArg.ofUint32, UInt8.toNat_ofNat', word]
    have : (187 : UInt8).toNat = 187 := rfl
    omega
  have other : (187 : UInt8) ≠ indexPartitionConfig := by decide
  simp [NoSwitch, isPartitionSwitch, index, other]

theorem switchPowerClass_routine : switchPowerClass.All (Routine NoSwitch) :=
  all_bind (instanceData_all trivial) fun _ =>
    all_ite
      (all_bind (sdhcSendCommand_routine (noSwitch_powerClass _)) fun _ =>
        all_bind sdhcSendExtCsdMmc_routine fun _ =>
          all_bind (instanceData_all trivial) fun _ => all_ite (raise_all _ _) (all_pure _))
      (all_pure _)

theorem sdhcSwitchBusWidthMmc_routine : sdhcSwitchBusWidthMmc.All (Routine NoSwitch) :=
  all_bind sdhcSendExtCsdMmc_routine fun _ =>
    all_bind switchPowerClass_routine fun _ =>
      all_bind (sdhcSendCommand_routine (noSwitch_writeByte 2 (by decide))) fun _ =>
        callService_all trivial

theorem sdhcSwitchSpeedModeMmc_routine : sdhcSwitchSpeedModeMmc.All (Routine NoSwitch) :=
  all_bind (sdhcSendCommand_routine (noSwitch_writeByte 1 (by decide))) fun _ =>
    all_bind modifyCardInfo_all fun _ =>
      all_bind sdhcSendExtCsdMmc_routine fun _ =>
        all_bind (instanceData_all trivial) fun _ => all_ite (raise_all _ _) (all_pure _)

theorem initializeMmcDevice_routine : initializeMmcDevice.All (Routine NoSwitch) :=
  all_bind (routine_of_guarded sdhcSendCidAll_quiet) fun _ =>
    all_bind (routine_of_guarded sdhcSendRelativeAddr_quiet) fun _ =>
      all_bind (routine_of_guarded sdhcSendCid_quiet) fun _ =>
        all_bind (routine_of_guarded sdhcSendCsd_quiet) fun _ =>
          all_bind (routine_of_guarded checkSpecVers_quiet) fun _ =>
            all_bind (routine_of_guarded sdhcSelectDevice_quiet) fun _ =>
              all_bind sdhcSendExtCsdMmc_routine fun _ =>
                all_bind sdhcSwitchSpeedModeMmc_routine fun _ =>
                  all_bind sdhcSwitchBusWidthMmc_routine fun _ =>
                    routine_of_guarded sdhcSetMaxClockFrequency_quiet

theorem sdhcGoIdleState_routine : sdhcGoIdleState.All (Routine NoSwitch) :=
  sdhcSendCommand_routine (noSwitch_of_ne _ (by decide))

theorem succeeds_routine {part : Sd Unit} (routine : part.All (Routine NoSwitch)) :
    (succeeds part).All (Routine NoSwitch) :=
  all_catching (all_bind routine fun _ => all_pure _) fun _ => all_pure _

theorem onlyIf_all {condition : Bool} {part : Sd Unit}
    (holds : part.All allowed) : (onlyIf condition part).All allowed :=
  all_ite holds (all_pure _)

theorem queryMmc_routine : queryMmc.All (Routine NoSwitch) :=
  all_bind (instanceData_all trivial) fun _ =>
    all_ite (all_pure _)
      (all_bind sdhcGoIdleState_routine fun _ =>
        all_bind (succeeds_routine (routine_of_guarded (sendOpCondMmcLoop_quiet _))) fun _ =>
          onlyIf_all modifyCardInfo_all)

theorem sdhcQueryCardType_routine : sdhcQueryCardType.All (Routine NoSwitch) :=
  all_bind sdhcGoIdleState_routine fun _ =>
    all_bind modifyCardInfo_all fun _ =>
      all_bind (succeeds_routine (routine_of_guarded sdhcSendIfCondSd_quiet)) fun _ =>
        all_bind (onlyIf_all modifyCardInfo_all) fun _ =>
          all_bind (succeeds_routine (routine_of_guarded sdhcSendOpCondSdio_quiet)) fun _ =>
            all_bind (onlyIf_all modifyCardInfo_all) fun _ =>
              all_bind queryMmc_routine fun _ =>
                all_bind (instanceData_all trivial) fun _ => all_ite (raise_all _ _) (all_pure _)

theorem initializeByFunction_routine : initializeByFunction.All (Routine NoSwitch) :=
  all_bind (instanceData_all trivial) fun _ =>
    all_ite (routine_of_guarded initializeSdDevice_quiet)
      (all_ite initializeMmcDevice_routine (raise_all _ _))

theorem initializeDevice_routine : initializeDevice.All (Routine NoSwitch) :=
  all_bind modifyCardInfo_all fun _ =>
    all_bind (callService_all trivial) fun _ =>
      all_bind (callService_all trivial) fun _ =>
        all_bind sdhcQueryCardType_routine fun _ =>
          all_bind initializeByFunction_routine fun _ =>
            all_bind (routine_of_guarded (sdhcSetBlockLength_quiet _)) fun _ =>
              (all_invoke _).mpr fun _ => ⟨⟨rfl, rfl, rfl, rfl⟩, rfl⟩

/-! ### Soft reset and recovery -/

theorem setInstalled_publishing (protocol : InstalledProtocol) (installed : Bool) :
    (setInstalled protocol installed).All Publishing :=
  (all_invoke _).mpr fun _ => by cases protocol <;> exact ⟨rfl, rfl, rfl, rfl⟩

theorem install_publishing (protocol : InstalledProtocol) : (install protocol).All Publishing :=
  all_bind (callService_all trivial) fun _ => setInstalled_publishing _ _

theorem uninstall_publishing (protocol : InstalledProtocol) : (uninstall protocol).All Publishing :=
  all_bind (callService_all trivial) fun _ => setInstalled_publishing _ _

theorem uninstallIfInstalled_publishing (protocol : InstalledProtocol) :
    (uninstallIfInstalled protocol).All Publishing :=
  all_bind (instanceData_all trivial) fun _ => all_ite (uninstall_publishing _) (all_pure _)

theorem uninstallAllProtocols_publishing : uninstallAllProtocols.All Publishing :=
  all_bind (uninstallIfInstalled_publishing _) fun _ =>
    all_bind (uninstallIfInstalled_publishing _) fun _ => uninstallIfInstalled_publishing _

theorem setMedia_publishing (change : BlockIoMedia → BlockIoMedia) :
    (setMedia change).All Publishing :=
  (all_invoke _).mpr fun _ => ⟨rfl, rfl, rfl, rfl⟩

theorem clearMedia_publishing : clearMedia.All Publishing :=
  (all_invoke _).mpr fun _ => ⟨rfl, rfl, rfl, rfl⟩

theorem withdraw_publishing (protocol : InstalledProtocol) (status : EfiStatus) :
    (withdraw protocol status).All Publishing :=
  all_bind (instanceData_all trivial) fun _ =>
    all_ite
      (all_bind ((all_invoke _).mpr trivial) fun _ =>
        all_bind (onlyIf_all (setInstalled_publishing _ _)) fun _ => all_pure _)
      (all_pure _)

theorem softResetExit_publishing (error : ErrorStatus) : (softResetExit error).All Publishing :=
  all_bind (withdraw_publishing _ _) fun _ =>
    all_bind (withdraw_publishing _ _) fun _ => check_all _

theorem isRpmbInstalled_publishing : isRpmbInstalledOnTheSystem.All Publishing :=
  all_bind ((all_invoke _).mpr trivial) fun _ => all_pure _

theorem install_resetting (protocol : InstalledProtocol) : (install protocol).All Resetting :=
  (install_publishing protocol).mono Publishing.resetting

theorem setMedia_resetting (change : BlockIoMedia → BlockIoMedia) :
    (setMedia change).All Resetting :=
  (setMedia_publishing change).mono Publishing.resetting

theorem installRpmbIo_resetting : installRpmbIo.All Resetting :=
  all_bind (isRpmbInstalled_publishing.mono Publishing.resetting) fun _ =>
    all_ite (all_pure _)
      (all_bind (install_resetting _) fun _ =>
        all_bind (instanceData_all trivial) fun _ => (all_invoke _).mpr trivial)

theorem installCardProtocols_resetting : installCardProtocols.All Resetting :=
  all_bind ((all_invoke _).mpr trivial) fun _ =>
    all_ite
      (all_bind (install_resetting _) fun _ =>
        all_bind (install_resetting _) fun _ =>
          all_bind (instanceData_all trivial) fun _ =>
            all_ite installRpmbIo_resetting (all_pure _))
      (raise_all _ _)

theorem softResetBody_resetting : softResetBody.All Resetting :=
  all_bind (uninstallAllProtocols_publishing.mono Publishing.resetting) fun _ =>
    all_bind (clearMedia_publishing.mono Publishing.resetting) fun _ =>
      all_bind ((all_invoke _).mpr trivial) fun _ =>
        all_bind (setMedia_resetting _) fun _ =>
          all_ite
            (all_bind ((all_invoke _).mpr trivial) fun _ =>
              all_bind (setMedia_resetting _) fun _ =>
                all_bind (initializeDevice_routine.mono Routine.resetting) fun _ =>
                  installCardProtocols_resetting)
            (install_resetting _)

theorem softReset_resetting : softReset.All Resetting :=
  all_catching softResetBody_resetting fun error =>
    (softResetExit_publishing error).mono Publishing.resetting

theorem resetLines_routine (cmd : SdCommand) : (resetLines cmd).All (Routine NoSwitch) :=
  all_bind ((all_invoke _).mpr trivial) fun _ => all_ite (all_pure _) ((all_invoke _).mpr trivial)

theorem stopIfTransferring_routine (cmd : SdCommand) :
    (stopIfTransferring cmd).All (Routine NoSwitch) :=
  all_ite
    (all_bind (routine_of_guarded (sdhcSendStatus_guarded commandOps_quiet)) fun _ =>
      all_ite (routine_of_guarded (sdhcStopTransmission_guarded commandOps_quiet)) (all_pure _))
    (all_pure _)

theorem recoverySteps_resetting (cmd : SdCommand) : (recoverySteps cmd).All Resetting :=
  all_bind (instanceData_all trivial) fun _ =>
    all_ite (raise_all _ _)
      (all_bind ((resetLines_routine cmd).mono Routine.resetting) fun _ =>
        all_bind (onlyIf_all softReset_resetting) fun _ =>
          (stopIfTransferring_routine cmd).mono Routine.resetting)

/-! ### Sequences of calls -/

/-- A call into the driver. -/
inductive DriverCall where
  | sendCommand (cmd : SdCommand) (arg : UInt32)
  | sendDataCommand (cmd : SdCommand) (arg bufferByteSize : UInt32) (buffer : TransferBuffer)
  | recoverFromErrors (cmd : SdCommand)
  | softReset
  | initializeDevice
  deriving DecidableEq, Repr

def DriverCall.program : DriverCall → Sd Unit
  | .sendCommand cmd arg => sdhcSendCommand cmd arg
  | .sendDataCommand cmd arg bufferByteSize buffer =>
    sdhcSendDataCommand cmd arg bufferByteSize buffer
  | .recoverFromErrors cmd => SdMmc.recoverFromErrors cmd
  | .softReset => SdMmc.softReset
  | .initializeDevice => SdMmc.initializeDevice

/-- Calls made one after the other, whatever they return. -/
def session : List DriverCall → Sd Unit
  | [] => pure ()
  | first :: rest => do
    ignoringErrors first.program
    session rest

theorem sdhcSendCommand_recording (cmd : SdCommand) (arg : UInt32) :
    (sdhcSendCommand cmd arg).All Recording :=
  (routine_all (sdhcSendCommand_guarded commandOps_routine trivial)).mono Routine.recording

theorem sdhcSendDataCommand_recording (cmd : SdCommand) (arg bufferByteSize : UInt32)
    (buffer : TransferBuffer) :
    (sdhcSendDataCommand cmd arg bufferByteSize buffer).All Recording := by
  have guarded : (sdhcSendDataCommand cmd arg bufferByteSize buffer).Guarded
      (Routine fun _ _ => True) IsRecovery :=
    sdhcSendDataCommand_guarded commandOps_routine (fun _ => trivial) trivial trivial
  exact (routine_all guarded).mono Routine.recording

theorem DriverCall.program_recording (call : DriverCall) : call.program.All Recording := by
  cases call with
  | sendCommand cmd arg => exact sdhcSendCommand_recording cmd arg
  | sendDataCommand cmd arg bufferByteSize buffer =>
    exact sdhcSendDataCommand_recording cmd arg bufferByteSize buffer
  | recoverFromErrors cmd => exact (all_invoke _).mpr trivial
  | softReset => exact softReset_resetting.mono Resetting.recording
  | initializeDevice => exact initializeDevice_routine.mono Routine.recording

theorem session_recording (calls : List DriverCall) : (session calls).All Recording := by
  induction calls with
  | nil => trivial
  | cons first rest ih =>
    exact all_bind (all_catching first.program_recording fun _ => all_pure _) fun _ => ih

end MuRockchip.SdMmc
