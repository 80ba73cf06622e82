/-
How multi-block transfers are ended.

A transfer whose block count was set before ends by itself; one without is ended
with `STOP_TRANSMISSION`. The driver tells them apart by the last command it
recorded as successful before the transfer. A command that fails in between is not
recorded, and then the record is stale; and where no command has succeeded before, the record is
null, and is read all the same.

* `exec_idle`: between calls, the record is the last accepted command.
* `stopTransmission_paired_iff`: when `STOP_TRANSMISSION` is sent as it should be.
-/
import MuRockchip.SdMmc.CommandSafety

namespace MuRockchip.SdMmc

open MuRockchip.Base
open MuRockchip.Base.Prog

/-! ### Logs -/

def lastOutcome (log : List Event) : Option (SdCommand × Bool) :=
  log.foldl
    (fun last event =>
      match event with
      | .command cmd _ _ _ _ _ => some (cmd, false)
      | .accepted cmd => some (cmd, true)
      | _ => last)
    none

def lastAccepted (log : List Event) : Option SdCommand :=
  log.foldl
    (fun last event =>
      match event with
      | .accepted cmd => some cmd
      | _ => last)
    none

def firstCommand (log : List Event) : Option SdCommand :=
  log.findSome? fun event =>
    match event with
    | .command cmd _ _ _ _ _ => some cmd
    | _ => none

/-- A command that succeeded is the last successful one, and no command was
successful where none was sent. -/
theorem lastAccepted_of_lastOutcome (log : List Event) :
    (∀ cmd, lastOutcome log = some (cmd, true) → lastAccepted log = some cmd) ∧
      (lastOutcome log = none → lastAccepted log = none) := by
  induction log using List.reverseRecOn with
  | nil => simp [lastOutcome, lastAccepted]
  | append_singleton log event ih =>
    cases event with
    | command cmd arg xfrInfo status executed card => simp [lastOutcome]
    | accepted cmd => simp [lastOutcome, lastAccepted]
    | _ => simpa [lastOutcome, lastAccepted] using ih

theorem lastAccepted_ne_iff (log : List Event) (cmd : SdCommand) :
    (lastAccepted log ≠ some cmd ↔ lastOutcome log ≠ some (cmd, true)) ↔
      ¬ (lastAccepted log = some cmd ∧ ∃ failed, lastOutcome log = some (failed, false)) := by
  obtain ⟨ofSuccess, ofNone⟩ := lastAccepted_of_lastOutcome log
  cases outcome : lastOutcome log with
  | none => simp [ofNone outcome]
  | some last =>
    obtain ⟨sent, succeeded⟩ := last
    cases succeeded with
    | true => simp [ofSuccess sent outcome]
    | false => simp

/-! ### What a program sends first -/

/-- The log has only grown. -/
def LogExtends (before after : World) : Prop := before.log <+: after.log

theorem LogExtends.refl (world : World) : LogExtends world world := List.prefix_rfl

theorem LogExtends.trans {first second third : World} (one : LogExtends first second)
    (other : LogExtends second third) : LogExtends first third :=
  List.IsPrefix.trans one other

/-- The log has grown, first by this command. -/
def Opens (cmd : SdCommand) (before after : World) : Prop :=
  ∃ arg xfrInfo status executed card,
    before.log ++ [.command cmd arg xfrInfo status executed card] <+: after.log

theorem Opens.trans {cmd : SdCommand} {first second third : World} (opens : Opens cmd first second)
    (later : LogExtends second third) : Opens cmd first third := by
  obtain ⟨arg, xfrInfo, status, executed, card, grown⟩ := opens
  exact ⟨arg, xfrInfo, status, executed, card, grown.trans later⟩

theorem Opens.firstCommand {cmd : SdCommand} {before after : World}
    (opens : Opens cmd before after) :
    firstCommand (after.log.drop before.log.length) = some cmd := by
  obtain ⟨arg, xfrInfo, status, executed, card, rest, grown⟩ := opens
  rw [← grown, List.append_assoc, List.drop_left]
  rfl

section

variable {env : Environment} {depth : Nat}

theorem hostEffect_log (op : SdmmcOp) (world : World) :
    LogExtends world (hostEffect env op world).2 := by
  cases op with
  | service service =>
    cases service with
    | readBlockData lengthInBytes buffer => cases buffer <;> exact List.prefix_append _ _
    | _ => exact List.prefix_append _ _
  | isCardPresent | isReadOnly | convertDevicePathToText | nullCmdEquals | rememberCommand
  | recordPartition => exact List.prefix_append _ _
  | _ => exact LogExtends.refl world

variable {α : Type} {cmd : SdCommand} {program : Sd α} {world : World}

theorem wp_logExtends (program : Sd α) (world : World) :
    wp (handler env depth) program (fun _ after => LogExtends world after)
      (fun _ after => LogExtends world after) world := by
  have every : program.All fun _ => True := by
    induction program with
    | done value => trivial
    | fail error => trivial
    | call op rest ih => exact ⟨trivial, ih⟩
  exact wp_of_preserves LogExtends.refl LogExtends.trans
    (handler_preserves LogExtends.refl LogExtends.trans (fun _ _ => trivial)
      (fun op world _ => hostEffect_log op world) (fun _ => LogExtends.refl) depth)
    every world

theorem wp_opens_bind {β : Type}
    (opens : wp (handler env depth) program (fun _ after => Opens cmd world after)
      (fun _ after => Opens cmd world after) world) (next : α → Sd β) :
    wp (handler env depth) (program >>= next) (fun _ after => Opens cmd world after)
      (fun _ after => Opens cmd world after) world := by
  rw [wp_bind]
  refine wp_mono opens (fun value after opened => ?_) fun _ _ opened => opened
  exact wp_mono (wp_logExtends (next value) after) (fun _ _ => opened.trans)
    fun _ _ => opened.trans

theorem wp_opens_catching
    (opens : wp (handler env depth) program (fun _ after => Opens cmd world after)
      (fun _ after => Opens cmd world after) world) (recovery : ErrorStatus → Sd α) :
    wp (handler env depth) (program.catching recovery) (fun _ after => Opens cmd world after)
      (fun _ after => Opens cmd world after) world := by
  rw [wp_catching]
  refine wp_mono opens (fun _ _ opened => opened) fun error after opened => ?_
  exact wp_mono (wp_logExtends (recovery error) after) (fun _ _ => opened.trans)
    fun _ _ => opened.trans

/-- A command without data that needs no announcement is the first thing sent. -/
theorem sdhcSendSimpleCommand_opens (arg : UInt32) (standard : cmd.cls ≠ .app) (world : World) :
    wp (handler env depth) (sdhcSendSimpleCommand cmd arg) (fun _ after => Opens cmd world after)
      (fun _ after => Opens cmd world after) world := by
  apply wp_opens_catching
  rw [sdhcSendCommandHelper, sendAppCmdPrefix, if_neg standard, wp_bind, wp_pure]
  apply wp_opens_bind
  rw [wp_callService]
  have sent : Opens cmd world
      (serviceEffect (env world.calls) world (.sendCommand cmd arg none)) :=
    ⟨arg, none, _, _, _, List.prefix_rfl⟩
  exact ⟨fun _ => sent, fun _ => sent⟩

theorem rcaArgument_bind_opens {next : UInt32 → Sd α}
    (opens : ∀ arg, wp (handler env depth) (next arg) (fun _ after => Opens cmd world after)
      (fun _ after => Opens cmd world after) world) :
    wp (handler env depth) (rcaArgument >>= next) (fun _ after => Opens cmd world after)
      (fun _ after => Opens cmd world after) world := by
  simp only [rcaArgument, wp_bind, wp_instanceData, wp_pure]
  exact opens _

theorem sdhcStopTransmission_opens (world : World) :
    wp (handler env depth) sdhcStopTransmission
      (fun _ after => Opens cmdStopTransmission world after)
      (fun _ after => Opens cmdStopTransmission world after) world :=
  rcaArgument_bind_opens fun arg => sdhcSendSimpleCommand_opens arg (by decide) world

theorem sdhcSendStatus_opens (world : World) :
    wp (handler env depth) sdhcSendStatus (fun _ after => Opens cmdSendStatus world after)
      (fun _ after => Opens cmdSendStatus world after) world :=
  rcaArgument_bind_opens fun arg =>
    wp_opens_bind (sdhcSendSimpleCommand_opens arg (by decide) world) _

/-! ### The record of the last command -/

/-- The driver's record of the last successful command is what the log says. -/
def Recorded (world : World) : Prop :=
  world.device.lastSuccessfulCmd = lastAccepted world.log

/-- The record is right after if it was right before. -/
def KeepsRecorded (before after : World) : Prop := Recorded before → Recorded after

theorem KeepsRecorded.refl (world : World) : KeepsRecorded world world := id

theorem KeepsRecorded.trans {first second third : World} (one : KeepsRecorded first second)
    (other : KeepsRecorded second third) : KeepsRecorded first third :=
  fun recorded => other (one recorded)

theorem serviceEffect_lastAccepted (reply : HostReply) (world : World) (service : Service) :
    lastAccepted (serviceEffect reply world service).log = lastAccepted world.log := by
  cases service with
  | readBlockData lengthInBytes buffer =>
    cases buffer <;> simp [serviceEffect, World.called, World.storeBuffer, lastAccepted]
  | _ => simp [serviceEffect, World.called, lastAccepted]

theorem hostEffect_recorded {op : SdmmcOp} (recording : Recording op) (world : World) :
    KeepsRecorded world (hostEffect env op world).2 := by
  intro recorded
  cases op with
  | service service =>
    have last := (serviceEffect_device (env world.calls) world service).1.last
    have log := serviceEffect_lastAccepted (env world.calls) world service
    exact last.trans (recorded.trans log.symm)
  | modifyInstance change => exact (recording world.device).last.trans recorded
  | rememberCommand cmd =>
    simp [Recorded, hostEffect, SdhcInstance.remember, lastAccepted]
  | recordPartition partition =>
    simpa [Recorded, hostEffect, lastAccepted] using recorded
  | isCardPresent | isReadOnly | convertDevicePathToText | nullCmdEquals =>
    simpa [Recorded, hostEffect, World.called] using recorded
  | _ => exact recorded

theorem wp_recorded (recording : program.All Recording) (recorded : Recorded world) :
    wp (handler env depth) program (fun _ after => Recorded after) (fun _ after => Recorded after)
      world := by
  have keeps : wp (handler env depth) program (fun _ after => KeepsRecorded world after)
      (fun _ after => KeepsRecorded world after) world :=
    wp_of_preserves KeepsRecorded.refl KeepsRecorded.trans
      (handler_preserves KeepsRecorded.refl KeepsRecorded.trans Resetting.recording
        (fun op world holds => hostEffect_recorded holds world) (fun _ _ holds => holds) depth)
      recording world
  exact wp_mono keeps (fun _ _ kept => kept recorded) fun _ _ kept => kept recorded

/-- Between calls no recovery is under way, and the record is right. -/
structure World.Idle (world : World) : Prop where
  attempts : world.device.errorRecoveryAttemptCount = 0
  recorded : Recorded world

theorem World.start_idle (card : Card) : (World.start card).Idle := ⟨rfl, rfl⟩

theorem exec_idle (recording : program.All Recording) (idle : world.Idle) :
    ∃ outcome, program.exec (driver env) world = some outcome ∧ outcome.2.Idle := by
  obtain ⟨outcome, ended, attempts⟩ := exec_of_room env recording
    (show nestingFrom world.device.errorRecoveryAttemptCount ≤ recoveryDepth by
      rw [idle.attempts]; decide)
    (show world.device.errorRecoveryAttemptCount.toNat + 1 < 2 ^ 32 by rw [idle.attempts]; decide)
  have recorded := wp_recorded recording idle.recorded outcome ended
  refine ⟨outcome, ended, attempts.trans idle.attempts, ?_⟩
  rcases outcome with ⟨error | value, after⟩ <;> exact recorded

/-! ### Ending a transfer -/

/-- A transfer that succeeded: the command and its blocks. -/
def commandAndBlocks (cmd : SdCommand) (arg bufferByteSize : UInt32) (buffer : TransferBuffer) :
    Sd Unit := do
  sdhcSendCommandHelper cmd arg
    (some ⟨sdBlockLengthBytes, bufferByteSize / sdBlockLengthBytes, buffer⟩)
  transferBlocks cmd bufferByteSize buffer

theorem wp_commandAndBlocks (cmd : SdCommand) (arg bufferByteSize : UInt32)
    (buffer : TransferBuffer) (world : World) :
    wp (handler env depth) (commandAndBlocks cmd arg bufferByteSize buffer)
      (fun _ after => after.device.lastSuccessfulCmd = some cmd ∧
        after.device.preLastSuccessfulCmd = world.device.lastSuccessfulCmd) (fun _ _ => True)
      world := by
  have checks : (checkCardStatus cmd).All Serving :=
    all_ite (all_bind (instanceData_all trivial) fun _ => all_ite (raise_all _ _) (all_pure _))
      (all_pure _)
  rw [commandAndBlocks, sdhcSendCommandHelper_eq]
  simp only [wp_bind]
  refine wp_mono (wp_serving (exchange_serving cmd arg _) world) (fun _ answered sent => ?_)
    fun _ _ _ => trivial
  refine wp_mono (wp_serving checks answered) (fun _ checked passed => ?_) fun _ _ _ => trivial
  rw [wp_call id]
  refine wp_mono (wp_serving (transferBlocks_serving cmd bufferByteSize buffer) _)
    (fun _ after moved => ?_) fun _ _ _ => trivial
  exact ⟨moved.last, moved.preLast.trans (passed.last.trans sent.last)⟩

/-- Where commands are on record, the last but one tells whether a block count was set. -/
theorem wp_blockCountPreceded {ok : Bool → World → Prop} {err : ErrorStatus → World → Prop}
    {recorded : SdCommand} (last : world.device.lastSuccessfulCmd ≠ none)
    (preLast : world.device.preLastSuccessfulCmd = some recorded) :
    wp (handler env depth) blockCountPreceded ok err world ↔
      ok (decide (recorded = cmdSetBlockCount)) world := by
  rw [blockCountPreceded, wp_bind, wp_instanceData, if_neg last, preLast, cmdsAreEqual, wp_pure]

theorem afterBlocks_opens {recorded : SdCommand} (multiBlock : cmd.isMultiBlock = true)
    (last : world.device.lastSuccessfulCmd ≠ none)
    (preLast : world.device.preLastSuccessfulCmd = some recorded) :
    wp (handler env depth) (recovering cmd do endTransfer cmd; sdhcWaitForTranStateAndReadyForData)
      (fun _ after => Opens (if recorded = cmdSetBlockCount then cmdSendStatus
        else cmdStopTransmission) world after)
      (fun _ after => Opens (if recorded = cmdSetBlockCount then cmdSendStatus
        else cmdStopTransmission) world after) world := by
  apply wp_opens_catching
  rw [endTransfer, if_pos multiBlock, bind_assoc, wp_bind, wp_blockCountPreceded last preLast]
  by_cases counted : recorded = cmdSetBlockCount
  · rw [if_pos (by simp [counted]), if_pos counted, wp_bind, wp_pure]
    exact wp_opens_bind (sdhcSendStatus_opens world) _
  · rw [if_neg (by simp [counted]), if_neg counted]
    exact wp_opens_bind (sdhcStopTransmission_opens world) _

/-- The record that tells how a transfer is to be ended is not null where it is read. -/
def StopDecided (moved : World) : Prop := moved.device.preLastSuccessfulCmd ≠ none

/-- `STOP_TRANSMISSION` is the next command after the blocks if and only if the command
sent before the transfer was not a successful `SET_BLOCK_COUNT`; and nothing is read through a null
pointer to tell. -/
def StopPaired (before moved after : World) : Prop :=
  StopDecided moved ∧
    (firstCommand (after.log.drop moved.log.length) = some cmdStopTransmission ↔
      lastOutcome before.log ≠ some (cmdSetBlockCount, true))

/-- After any sequence of calls, a multi-block transfer is ended as the command before
it asks, unless no command has succeeded before, or that command failed and the last one that
succeeded is `SET_BLOCK_COUNT`. -/
theorem stopTransmission_paired_iff (env : Environment) (calls : List DriverCall)
    {start before moved : World} {cmd : SdCommand} {arg bufferByteSize : UInt32}
    {buffer : TransferBuffer} {returned : Except ErrorStatus Unit}
    (idle : start.Idle)
    (reached : (session calls).exec (driver env) start = some (returned, before))
    (multiBlock : cmd.isMultiBlock = true)
    (transferred : (commandAndBlocks cmd arg bufferByteSize buffer).exec (driver env) before =
      some (.ok (), moved)) :
    ∃ outcome, (sdhcSendDataCommand cmd arg bufferByteSize buffer).exec (driver env) before =
        some outcome ∧ moved.log <+: outcome.2.log ∧
      (StopPaired before moved outcome.2 ↔ lastAccepted before.log ≠ none ∧
        ¬ (lastAccepted before.log = some cmdSetBlockCount ∧
          ∃ failed, lastOutcome before.log = some (failed, false))) := by
  obtain ⟨reachedOutcome, ended, idleBefore⟩ := exec_idle (session_recording calls) idle
  obtain rfl : reachedOutcome = (returned, before) := Option.some.inj (ended.symm.trans reached)
  obtain ⟨outcome, ended, -⟩ := exec_idle
    (sdhcSendDataCommand_recording cmd arg bufferByteSize buffer) idleBefore
  refine ⟨outcome, ended, ?_⟩
  -- The blocks have moved: what is left is to end the transfer.
  have rest : (recovering cmd do endTransfer cmd; sdhcWaitForTranStateAndReadyForData).exec
      (driver env) moved = some outcome := by
    have parts : sdhcSendDataCommand cmd arg bufferByteSize buffer = recovering cmd (do
        commandAndBlocks cmd arg bufferByteSize buffer
        endTransfer cmd
        sdhcWaitForTranStateAndReadyForData) := by
      simp only [sdhcSendDataCommand, commandAndBlocks, bind_assoc]
    rw [← ended, parts, recovering, recovering, exec_catching, exec_catching,
      exec_bind_ok transferred]
  obtain ⟨last, preLast⟩ : moved.device.lastSuccessfulCmd = some cmd ∧
      moved.device.preLastSuccessfulCmd = before.device.lastSuccessfulCmd :=
    wp_commandAndBlocks cmd arg bufferByteSize buffer before _ transferred
  have grown : LogExtends moved outcome.2 := by
    have spec := wp_logExtends _ moved outcome rest
    rcases outcome with ⟨error | value, after⟩ <;> exact spec
  refine ⟨grown, ?_⟩
  rw [idleBefore.recorded] at preLast
  rw [StopPaired, StopDecided, preLast]
  refine and_congr_right fun some => ?_
  obtain ⟨recorded, accepted⟩ := Option.ne_none_iff_exists'.mp some
  rw [accepted] at preLast
  have opens : Opens (if recorded = cmdSetBlockCount then cmdSendStatus else cmdStopTransmission)
      moved outcome.2 := by
    have spec := afterBlocks_opens multiBlock (by simp [last]) preLast outcome rest
    rcases outcome with ⟨error | value, after⟩ <;> exact spec
  rw [opens.firstCommand, ← lastAccepted_ne_iff, accepted]
  have other : cmdSendStatus ≠ cmdStopTransmission := by decide
  split <;> simp_all

end

/-- A read without a block count is stopped. -/
theorem stopTransmission_paired_openEnded :
    ∃ before moved outcome,
      (sdhcSendDataCommand cmdReadMultiBlock 0 512 .blockBuffer).exec
        (driver fun _ => HostReply.answering 0x900) before = some outcome ∧
      moved.log <+: outcome.2.log ∧
      (StopPaired before moved outcome.2 ↔ lastAccepted before.log ≠ none ∧
        ¬ (lastAccepted before.log = some cmdSetBlockCount ∧
          ∃ failed, lastOutcome before.log = some (failed, false))) :=
  ⟨_, _, stopTransmission_paired_iff _ [.sendCommand cmdSetBlockLength 512]
    (World.start_idle ⟨0⟩) rfl rfl rfl⟩

/-- `SET_BLOCK_COUNT` succeeds, the next command fails, and the host recovers: the read
that follows is not stopped, though no block count was set for it. -/
theorem stopTransmission_staleRecord :
    ∃ before moved outcome,
      (session [.sendCommand cmdSetBlockCount 1, .sendCommand cmdSetBlockLength 512]).exec
        (driver fun call => if call = 2 then HostReply.failing else HostReply.answering 0x900)
        (World.start ⟨0⟩) = some (.ok (), before) ∧
      (commandAndBlocks cmdReadMultiBlock 0 512 .blockBuffer).exec
        (driver fun call => if call = 2 then HostReply.failing else HostReply.answering 0x900)
        before = some (.ok (), moved) ∧
      (sdhcSendDataCommand cmdReadMultiBlock 0 512 .blockBuffer).exec
        (driver fun call => if call = 2 then HostReply.failing else HostReply.answering 0x900)
        before = some outcome ∧
      ¬ StopPaired before moved outcome.2 := by
  refine ⟨_, _, _, rfl, rfl, rfl, fun paired => absurd paired.2 ?_⟩
  decide

end MuRockchip.SdMmc
