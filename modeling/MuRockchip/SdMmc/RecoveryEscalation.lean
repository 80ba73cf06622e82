/-
When error recovery escalates (`SdhcRecoverFromErrors`).

Recovery is written here over its parts: the line resets, the soft reset, the
status poll and the stop command, each a program of its own. With the programs in
their places it is the driver's function. What a recovery did is the list of the
parts it performed and of how each of them ended.

* `inline_recovery`: the recovery over parts is the driver's.
* `softReset_performed_iff`, `lineReset_failed_iff`: what decides the two sides of
  the escalation.
* `sdhcRecoverFromErrors_escalates_iff`: recovery escalates on every failed line
  reset except where a data reset hides that of the command line.
-/
import MuRockchip.Base.ProgCalls
import MuRockchip.SdMmc.SoftReset

namespace MuRockchip.SdMmc

open MuRockchip.Base
open MuRockchip.Base.Prog

/-! ### Recovery over its parts -/

/-- What a recovery performs. -/
inductive RecoveryPart where
  | changeAttempts (change : UInt32 → UInt32)
  | attempts
  | softwareReset (resetType : SdhcResetType)
  | softReset
  | sendStatus
  | stopTransmission

/-- What each part answers. -/
abbrev RecoveryPart.Result : RecoveryPart → Type
  | .changeAttempts _ => Unit
  | .attempts => UInt32
  | .softwareReset _ => EfiStatus
  | .softReset => Unit
  | .sendStatus => UInt32
  | .stopTransmission => Unit

def RecoveryPart.program : (part : RecoveryPart) → Sd part.Result
  | .changeAttempts change => changeAttemptCount change
  | .attempts => do
    let device ← instanceData
    pure device.errorRecoveryAttemptCount
  | .softwareReset resetType => call (.service (.softwareReset resetType))
  | .softReset => SdMmc.softReset
  | .sendStatus => sdhcSendStatus
  | .stopTransmission => sdhcStopTransmission

/-- The interface of the parts. -/
abbrev recoveryParts : Interface := Parts RecoveryPart ErrorStatus RecoveryPart.Result

/-- A program over the parts. -/
abbrev Recovery (α : Type) : Type := Prog recoveryParts ErrorStatus α

def performPart (part : RecoveryPart) : Recovery part.Result := perform part

/-- The command moves data, so that the data lines are reset as well. -/
def SdCommand.hasData (cmd : SdCommand) : Prop :=
  ¬ (cmd.transferType = .none ∨ cmd.transferType = .undefined)

instance (cmd : SdCommand) : Decidable cmd.hasData :=
  inferInstanceAs (Decidable (¬ _))

def performLineResets (cmd : SdCommand) : Recovery EfiStatus := do
  let status ← performPart (.softwareReset .cmd)
  if cmd.transferType = .none ∨ cmd.transferType = .undefined then pure status
  else performPart (.softwareReset .data)

def performIf (condition : Bool) (part : Recovery Unit) : Recovery Unit :=
  if condition then part else pure ()

def performStop (cmd : SdCommand) : Recovery Unit :=
  if cmd.isMultiBlock then do
    let cardStatus ← performPart .sendStatus
    if currentState cardStatus ≠ cardStateTran then performPart .stopTransmission else pure ()
  else pure ()

def performRecoverySteps (cmd : SdCommand) : Recovery Unit := do
  let attempts ← performPart .attempts
  if attempts > sdmmcErrorRecoveryAttemptThreshold then
    .fail ⟨EfiStatus.protocolError, EfiStatus.isError_protocolError⟩
  else do
    let status ← performLineResets cmd
    performIf status.isError (performPart .softReset)
    performStop cmd

def performRecovery (cmd : SdCommand) : Recovery Unit := do
  performPart (.changeAttempts (· + 1))
  (performRecoverySteps cmd).catching fun error => do
    performPart (.changeAttempts (· - 1))
    .fail error
  performPart (.changeAttempts (· - 1))

theorem inline_performPart (part : RecoveryPart) :
    (performPart part).inline RecoveryPart.program = part.program :=
  inline_perform part

theorem inline_performIf (condition : Bool) (part : Recovery Unit) :
    (performIf condition part).inline RecoveryPart.program =
      onlyIf condition (part.inline RecoveryPart.program) :=
  inline_ite _ _ _

theorem inline_performLineResets (cmd : SdCommand) :
    (performLineResets cmd).inline RecoveryPart.program = resetLines cmd := by
  simp only [performLineResets, inline_bind, inline_ite, inline_performPart (.softwareReset _)]
  rfl

theorem inline_performStop (cmd : SdCommand) :
    (performStop cmd).inline RecoveryPart.program = stopIfTransferring cmd := by
  simp only [performStop, inline_bind, inline_ite, inline_performPart .sendStatus,
    inline_performPart .stopTransmission]
  rfl

theorem inline_performRecoverySteps (cmd : SdCommand) :
    (performRecoverySteps cmd).inline RecoveryPart.program = recoverySteps cmd := by
  simp only [performRecoverySteps, inline_bind, inline_ite, inline_performPart .attempts,
    inline_performPart .softReset, inline_performIf, inline_performLineResets, inline_performStop]
  rfl

theorem inline_recovery (cmd : SdCommand) :
    (performRecovery cmd).inline RecoveryPart.program = sdhcRecoverFromErrors cmd := by
  simp only [performRecovery, inline_bind, inline_catching,
    inline_performPart (.changeAttempts _), inline_performRecoverySteps]
  rfl

/-! ### What a recovery did -/

/-- The parts are run by the driver. -/
abbrev partsOf (env : Environment) (depth : Nat) : Handler recoveryParts World :=
  partsHandler (handler env depth) RecoveryPart.program

def recoveryCalls (env : Environment) (depth : Nat) (cmd : SdCommand) (world : World) :
    List (Made recoveryParts) :=
  (performRecovery cmd).made (partsOf env depth) world

def World.raised (world : World) : World :=
  { world with device := world.device.changeAttempts (· + 1) }

/-- The recovery is not turned away for the attempts under way. -/
def WithinThreshold (world : World) : Prop :=
  ¬ world.raised.device.errorRecoveryAttemptCount > sdmmcErrorRecoveryAttemptThreshold

/-- The status of the last line reset. -/
def lineStatus (env : Environment) (cmd : SdCommand) (world : World) : EfiStatus :=
  if cmd.hasData then (env (world.calls + 1)).status else (env world.calls).status

def World.linesReset (cmd : SdCommand) (world : World) : World :=
  if cmd.hasData then (world.called []).called [] else world.called []

section

variable {env : Environment} {depth : Nat} {cmd : SdCommand} {world : World}

theorem exec_performPart (part : RecoveryPart) :
    (performPart part).exec (partsOf env depth) world =
      part.program.exec (handler env depth) world :=
  exec_perform part world

variable {call : Made recoveryParts} {part : RecoveryPart} {after : World}

theorem mem_performPart :
    call ∈ (performPart part).made (partsOf env depth) world ↔
      call = ⟨part, (part.program.exec (handler env depth) world).map Prod.fst⟩ := by
  rw [performPart, made_perform, List.mem_singleton]

theorem exec_changeAttempts (change : UInt32 → UInt32) :
    (RecoveryPart.changeAttempts change).program.exec (handler env depth) world =
      some (.ok (), { world with device := world.device.changeAttempts change }) := by
  cases depth <;> rfl

theorem exec_attempts :
    RecoveryPart.attempts.program.exec (handler env depth) world =
      some (.ok world.device.errorRecoveryAttemptCount, world) := by
  cases depth <;> rfl

theorem exec_softwareReset (resetType : SdhcResetType) :
    (RecoveryPart.softwareReset resetType).program.exec (handler env depth) world =
      some (.ok (env world.calls).status, world.called []) := by
  cases depth <;> rfl

theorem exec_performLineResets :
    (performLineResets cmd).exec (partsOf env depth) world =
      some (.ok (lineStatus env cmd world), world.linesReset cmd) := by
  rw [performLineResets, exec_bind_ok (exec_performPart (.softwareReset .cmd) ▸
    exec_softwareReset .cmd), lineStatus, World.linesReset]
  by_cases noData : cmd.transferType = .none ∨ cmd.transferType = .undefined
  · have without : ¬ cmd.hasData := not_not_intro noData
    rw [if_pos noData, if_neg without, if_neg without]
    rfl
  · have data : cmd.hasData := noData
    rw [if_neg noData, if_pos data, if_pos data, exec_performPart, exec_softwareReset]
    rfl

theorem mem_performLineResets :
    call ∈ (performLineResets cmd).made (partsOf env depth) world ↔
      call = ⟨.softwareReset .cmd, some (.ok (env world.calls).status)⟩ ∨
        cmd.hasData ∧ call = ⟨.softwareReset .data, some (.ok (env (world.calls + 1)).status)⟩ := by
  rw [performLineResets, mem_made_bind, mem_performPart, exec_softwareReset]
  refine or_congr Iff.rfl ?_
  constructor
  · rintro ⟨status, after, ended, mem⟩
    rw [exec_performPart, exec_softwareReset] at ended
    cases ended
    split at mem
    · cases mem
    · rename_i data
      rw [mem_performPart, exec_softwareReset] at mem
      exact ⟨data, mem⟩
  · rintro ⟨data, rfl⟩
    refine ⟨_, _, exec_performPart _ ▸ exec_softwareReset .cmd, ?_⟩
    rw [if_neg data, mem_performPart, exec_softwareReset]
    rfl

theorem performStop_all :
    (performStop cmd).All fun part : RecoveryPart =>
      part = .sendStatus ∨ part = .stopTransmission := by
  refine all_ite (all_bind ?_ fun _ => all_ite ?_ (all_pure _)) (all_pure _)
  · exact ⟨.inl rfl, fun answer => by cases answer <;> trivial⟩
  · exact ⟨.inr rfl, fun answer => by cases answer <;> trivial⟩

theorem mem_steps_of_turnedAway
    (away : world.device.errorRecoveryAttemptCount > sdmmcErrorRecoveryAttemptThreshold) :
    call ∈ (performRecoverySteps cmd).made (partsOf env depth) world ↔
      call = ⟨.attempts, some (.ok world.device.errorRecoveryAttemptCount)⟩ := by
  rw [performRecoverySteps, mem_made_bind, mem_performPart, exec_attempts]
  refine ⟨?_, .inl⟩
  rintro (first | ⟨attempts, after, ended, mem⟩)
  · exact first
  · rw [exec_performPart, exec_attempts] at ended
    cases ended
    rw [if_pos away] at mem
    cases mem

theorem mem_steps_of_within
    (within : ¬ world.device.errorRecoveryAttemptCount > sdmmcErrorRecoveryAttemptThreshold) :
    call ∈ (performRecoverySteps cmd).made (partsOf env depth) world ↔
      call = ⟨.attempts, some (.ok world.device.errorRecoveryAttemptCount)⟩ ∨
      call ∈ (performLineResets cmd).made (partsOf env depth) world ∨
      call ∈ (performIf (lineStatus env cmd world).isError (performPart .softReset)).made
        (partsOf env depth) (world.linesReset cmd) ∨
      ∃ after, (performIf (lineStatus env cmd world).isError (performPart .softReset)).exec
          (partsOf env depth) (world.linesReset cmd) = some (.ok (), after) ∧
        call ∈ (performStop cmd).made (partsOf env depth) after := by
  rw [performRecoverySteps, mem_made_bind, mem_performPart, exec_attempts]
  refine or_congr Iff.rfl ?_
  constructor
  · rintro ⟨attempts, after, ended, mem⟩
    rw [exec_performPart, exec_attempts] at ended
    cases ended
    rw [if_neg within, mem_made_bind] at mem
    rcases mem with mem | ⟨status, after, ended, mem⟩
    · exact .inl mem
    · rw [exec_performLineResets] at ended
      cases ended
      rw [mem_made_bind] at mem
      rcases mem with mem | ⟨_, after, ended, mem⟩
      · exact .inr (.inl mem)
      · exact .inr (.inr ⟨after, ended, mem⟩)
  · intro mem
    refine ⟨_, world, exec_performPart _ ▸ exec_attempts, ?_⟩
    rw [if_neg within, mem_made_bind]
    rcases mem with mem | mem
    · exact .inl mem
    · refine .inr ⟨_, _, exec_performLineResets, ?_⟩
      rw [mem_made_bind]
      rcases mem with mem | ⟨after, ended, mem⟩
      · exact .inl mem
      · exact .inr ⟨(), after, ended, mem⟩

theorem mem_recoveryCalls {answer : Option (Except ErrorStatus part.Result)}
    (uncounted : ∀ change, part ≠ .changeAttempts change) :
    ⟨part, answer⟩ ∈ recoveryCalls env depth cmd world ↔
      ⟨part, answer⟩ ∈ (performRecoverySteps cmd).made (partsOf env depth) world.raised := by
  have counts : ∀ {change : UInt32 → UInt32} {state : World}
      (_ : (⟨part, answer⟩ : Made recoveryParts) ∈
        (performPart (.changeAttempts change)).made (partsOf env depth) state), False :=
    fun mem => uncounted _ (congrArg Made.op (mem_performPart.mp mem))
  rw [recoveryCalls, performRecovery, mem_made_bind]
  constructor
  · rintro (mem | ⟨_, after, ended, mem⟩)
    · exact (counts mem).elim
    · rw [exec_performPart, exec_changeAttempts] at ended
      cases ended
      rw [mem_made_bind, mem_made_catching] at mem
      rcases mem with (mem | ⟨error, after, _, mem⟩) | ⟨_, after, _, mem⟩
      · exact mem
      · rw [mem_made_bind] at mem
        rcases mem with mem | ⟨_, _, _, mem⟩
        · exact (counts mem).elim
        · cases mem
      · exact (counts mem).elim
  · intro mem
    refine .inr ⟨(), world.raised, exec_performPart _ ▸ exec_changeAttempts _, ?_⟩
    rw [mem_made_bind, mem_made_catching]
    exact .inl (.inl mem)

theorem exec_steps_of_ok
    (ended : (performRecovery cmd).exec (partsOf env depth) world = some (.ok (), after)) :
    ∃ after, (performRecoverySteps cmd).exec (partsOf env depth) world.raised =
      some (.ok (), after) := by
  obtain ⟨_, _, raises, ended⟩ := exec_bind_eq_ok ended
  rw [exec_performPart, exec_changeAttempts] at raises
  cases raises
  obtain ⟨_, middle, ended, _⟩ := exec_bind_eq_ok ended
  rw [exec_catching] at ended
  obtain ⟨⟨error | _, before⟩, steps, ended⟩ := Option.bind_eq_some_iff.mp ended
  · obtain ⟨_, _, _, impossible⟩ := exec_bind_eq_ok ended
    cases impossible
  · exact ⟨before, steps⟩

theorem exec_steps_inv
    (ended : (performRecoverySteps cmd).exec (partsOf env depth) world = some (.ok (), after)) :
    ¬ world.device.errorRecoveryAttemptCount > sdmmcErrorRecoveryAttemptThreshold ∧
      ∃ middle, (performIf (lineStatus env cmd world).isError (performPart .softReset)).exec
          (partsOf env depth) (world.linesReset cmd) = some (.ok (), middle) ∧
        (performStop cmd).exec (partsOf env depth) middle = some (.ok (), after) := by
  obtain ⟨_, _, counts, ended⟩ := exec_bind_eq_ok ended
  rw [exec_performPart, exec_attempts] at counts
  cases counts
  split at ended
  · cases ended
  · rename_i within
    obtain ⟨_, _, lines, ended⟩ := exec_bind_eq_ok ended
    rw [exec_performLineResets] at lines
    cases lines
    obtain ⟨_, middle, reset, ended⟩ := exec_bind_eq_ok ended
    exact ⟨within, middle, reset, ended⟩

theorem mem_of_exec_performPart {value : part.Result}
    (ended : (performPart part).exec (partsOf env depth) world = some (.ok value, after)) :
    ⟨part, some (.ok value)⟩ ∈ (performPart part).made (partsOf env depth) world := by
  rw [exec_performPart] at ended
  rw [mem_performPart, ended]
  rfl

theorem performStop_success
    (ended : (performStop cmd).exec (partsOf env depth) world = some (.ok (), after))
    (multi : cmd.isMultiBlock = true) :
    ∃ cardStatus, ⟨.sendStatus, some (.ok cardStatus)⟩ ∈
        (performStop cmd).made (partsOf env depth) world ∧
      (currentState cardStatus ≠ cardStateTran →
        ⟨.stopTransmission, some (.ok ())⟩ ∈
          (performStop cmd).made (partsOf env depth) world) := by
  rw [performStop, if_pos multi] at ended ⊢
  obtain ⟨cardStatus, middle, polled, ended⟩ := exec_bind_eq_ok ended
  refine ⟨cardStatus, mem_made_bind.mpr (.inl (mem_of_exec_performPart polled)), fun busy => ?_⟩
  refine mem_made_bind.mpr (.inr ⟨cardStatus, middle, polled, ?_⟩)
  rw [if_pos busy] at ended ⊢
  exact mem_of_exec_performPart ended

end

/-! ### Escalation -/

def LineResetFailed (calls : List (Made recoveryParts)) : Prop :=
  ∃ resetType status, ⟨.softwareReset resetType, some (.ok status)⟩ ∈ calls ∧
    status.isError = true

def LineResetSucceeded (resetType : SdhcResetType) (calls : List (Made recoveryParts)) : Prop :=
  ∃ status, ⟨.softwareReset resetType, some (.ok status)⟩ ∈ calls ∧ status.isError = false

def SoftResetPerformed (calls : List (Made recoveryParts)) : Prop :=
  ∃ answer, ⟨.softReset, answer⟩ ∈ calls

/-- The last recovery action that was needed has succeeded: the line resets or else
the soft reset, and for a multi-block command the status poll and the stop. -/
structure LastActionSucceeded (cmd : SdCommand) (calls : List (Made recoveryParts)) : Prop where
  reset : (LineResetSucceeded .cmd calls ∧ (cmd.hasData → LineResetSucceeded .data calls)) ∨
    ⟨.softReset, some (.ok ())⟩ ∈ calls
  stopped : cmd.isMultiBlock = true →
    ∃ cardStatus, ⟨.sendStatus, some (.ok cardStatus)⟩ ∈ calls ∧
      (currentState cardStatus ≠ cardStateTran → ⟨.stopTransmission, some (.ok ())⟩ ∈ calls)

/-- The recovery of a command escalates on any failed line reset. -/
structure Escalates (env : Environment) (depth : Nat) (cmd : SdCommand) (world : World) : Prop where
  performed_iff : SoftResetPerformed (recoveryCalls env depth cmd world) ↔
    LineResetFailed (recoveryCalls env depth cmd world)
  succeeds : ∀ after,
    (sdhcRecoverFromErrors cmd).exec (handler env depth) world = some (.ok (), after) →
      LastActionSucceeded cmd (recoveryCalls env depth cmd world)

/-- The reset of the data lines succeeds where that of the command line has failed. -/
def CmdFailureMasked (env : Environment) (cmd : SdCommand) (world : World) : Prop :=
  WithinThreshold world ∧ cmd.hasData ∧
    (env world.calls).status.isError = true ∧ (env (world.calls + 1)).status.isError = false

section

variable {env : Environment} {depth : Nat} {cmd : SdCommand} {world : World}

theorem mem_recoveryCalls_of_within {part : RecoveryPart}
    {answer : Option (Except ErrorStatus part.Result)}
    (uncounted : ∀ change, part ≠ .changeAttempts change) (within : WithinThreshold world)
    (later : ⟨part, answer⟩ ∈ (performIf (lineStatus env cmd world).isError
        (performPart .softReset)).made (partsOf env depth) (world.raised.linesReset cmd) ∨
      ∃ after, (performIf (lineStatus env cmd world).isError (performPart .softReset)).exec
          (partsOf env depth) (world.raised.linesReset cmd) = some (.ok (), after) ∧
        ⟨part, answer⟩ ∈ (performStop cmd).made (partsOf env depth) after) :
    ⟨part, answer⟩ ∈ recoveryCalls env depth cmd world := by
  rw [mem_recoveryCalls uncounted, mem_steps_of_within within]
  exact .inr (.inr later)

theorem softReset_performed_iff :
    SoftResetPerformed (recoveryCalls env depth cmd world) ↔
      WithinThreshold world ∧ (lineStatus env cmd world).isError = true := by
  have uncounted : ∀ change, RecoveryPart.softReset ≠ .changeAttempts change := nofun
  unfold SoftResetPerformed
  by_cases within : WithinThreshold world
  · constructor
    · rintro ⟨answer, mem⟩
      rw [mem_recoveryCalls uncounted, mem_steps_of_within within] at mem
      refine ⟨within, ?_⟩
      rcases mem with first | lines | reset | ⟨_, _, stop⟩
      · cases first
      · rcases mem_performLineResets.mp lines with same | ⟨_, same⟩ <;> cases same
      · rw [performIf] at reset
        split at reset
        · assumption
        · cases reset
      · rcases performStop_all.made _ _ stop with same | same <;> cases same
    · rintro ⟨-, failed⟩
      refine ⟨(softReset.exec (handler env depth) (world.raised.linesReset cmd)).map Prod.fst, ?_⟩
      rw [mem_recoveryCalls uncounted, mem_steps_of_within within, performIf,
        if_pos (show (lineStatus env cmd world.raised).isError = true from failed)]
      exact .inr (.inr (.inl (mem_performPart.mpr rfl)))
  · refine ⟨?_, fun both => absurd both.1 within⟩
    rintro ⟨answer, mem⟩
    rw [mem_recoveryCalls uncounted, mem_steps_of_turnedAway (not_not.mp within)] at mem
    cases mem

theorem mem_lineReset_iff {resetType : SdhcResetType} {status : EfiStatus} :
    ⟨.softwareReset resetType, some (.ok status)⟩ ∈ recoveryCalls env depth cmd world ↔
      WithinThreshold world ∧
        (resetType = .cmd ∧ status = (env world.calls).status ∨
          cmd.hasData ∧ resetType = .data ∧ status = (env (world.calls + 1)).status) := by
  have uncounted : ∀ change, RecoveryPart.softwareReset resetType ≠ .changeAttempts change := nofun
  by_cases within : WithinThreshold world
  · rw [mem_recoveryCalls uncounted, mem_steps_of_within within]
    constructor
    · intro mem
      refine ⟨within, ?_⟩
      rcases mem with first | lines | reset | ⟨_, _, stop⟩
      · cases first
      · rcases mem_performLineResets.mp lines with same | ⟨data, same⟩
        · cases same
          exact .inl ⟨rfl, rfl⟩
        · cases same
          exact .inr ⟨data, rfl, rfl⟩
      · rw [performIf] at reset
        split at reset
        · cases mem_performPart.mp reset
        · cases reset
      · rcases performStop_all.made _ _ stop with same | same <;> cases same
    · rintro ⟨-, lines⟩
      refine .inr (.inl (mem_performLineResets.mpr ?_))
      rcases lines with ⟨rfl, rfl⟩ | ⟨data, rfl, rfl⟩
      · exact .inl rfl
      · exact .inr ⟨data, rfl⟩
  · rw [mem_recoveryCalls uncounted, mem_steps_of_turnedAway (not_not.mp within)]
    refine ⟨fun same => ?_, fun both => absurd both.1 within⟩
    cases same

theorem lineReset_failed_iff :
    LineResetFailed (recoveryCalls env depth cmd world) ↔
      WithinThreshold world ∧ ((env world.calls).status.isError = true ∨
        cmd.hasData ∧ (env (world.calls + 1)).status.isError = true) := by
  constructor
  · rintro ⟨resetType, status, mem, failed⟩
    obtain ⟨within, ⟨-, rfl⟩ | ⟨data, -, rfl⟩⟩ := mem_lineReset_iff.mp mem
    · exact ⟨within, .inl failed⟩
    · exact ⟨within, .inr ⟨data, failed⟩⟩
  · rintro ⟨within, failed | ⟨data, failed⟩⟩
    · exact ⟨.cmd, _, mem_lineReset_iff.mpr ⟨within, .inl ⟨rfl, rfl⟩⟩, failed⟩
    · exact ⟨.data, _, mem_lineReset_iff.mpr ⟨within, .inr ⟨data, rfl, rfl⟩⟩, failed⟩

theorem lastAction_of_success (unmasked : ¬ CmdFailureMasked env cmd world) {after : World}
    (ended : (sdhcRecoverFromErrors cmd).exec (handler env depth) world = some (.ok (), after)) :
    LastActionSucceeded cmd (recoveryCalls env depth cmd world) := by
  rw [← inline_recovery, exec_inline] at ended
  obtain ⟨after, steps⟩ := exec_steps_of_ok ended
  obtain ⟨within, middle, reset, stop⟩ := exec_steps_inv steps
  refine ⟨?_, fun multi => ?_⟩
  · cases failed : (lineStatus env cmd world).isError with
    | true =>
      refine .inr (mem_recoveryCalls_of_within nofun within (.inl ?_))
      rw [performIf, if_pos failed]
      rw [performIf, if_pos (show (lineStatus env cmd world.raised).isError = true from failed)]
        at reset
      exact mem_of_exec_performPart reset
    | false =>
      left
      by_cases data : cmd.hasData
      · rw [lineStatus, if_pos data] at failed
        have first : (env world.calls).status.isError = false := by
          by_contra error
          exact unmasked ⟨within, data, by simpa using error, failed⟩
        exact ⟨⟨_, mem_lineReset_iff.mpr ⟨within, .inl ⟨rfl, rfl⟩⟩, first⟩,
          fun _ => ⟨_, mem_lineReset_iff.mpr ⟨within, .inr ⟨data, rfl, rfl⟩⟩, failed⟩⟩
      · rw [lineStatus, if_neg data] at failed
        exact ⟨⟨_, mem_lineReset_iff.mpr ⟨within, .inl ⟨rfl, rfl⟩⟩, failed⟩,
          fun has => absurd has data⟩
  · obtain ⟨cardStatus, polled, stopped⟩ := performStop_success stop multi
    exact ⟨cardStatus, mem_recoveryCalls_of_within nofun within (.inr ⟨middle, reset, polled⟩),
      fun busy => mem_recoveryCalls_of_within nofun within (.inr ⟨middle, reset, stopped busy⟩)⟩

end

/-- Recovery escalates on any failed line reset, but for a failure of the command
line that the success of the data lines replaces. -/
theorem sdhcRecoverFromErrors_escalates_iff (env : Environment) (depth : Nat) (cmd : SdCommand)
    (world : World) :
    Escalates env depth cmd world ↔ ¬ CmdFailureMasked env cmd world := by
  constructor
  · rintro escalates ⟨within, data, failed, passed⟩
    have performed := escalates.performed_iff.mpr (lineReset_failed_iff.mpr ⟨within, .inl failed⟩)
    have last := (softReset_performed_iff.mp performed).2
    rw [lineStatus, if_pos data, passed] at last
    cases last
  · intro unmasked
    refine ⟨?_, fun after ended => lastAction_of_success unmasked ended⟩
    rw [softReset_performed_iff, lineReset_failed_iff]
    refine and_congr_right fun within => ?_
    by_cases data : cmd.hasData
    · rw [lineStatus, if_pos data]
      refine ⟨fun failed => .inr ⟨data, failed⟩, ?_⟩
      rintro (first | ⟨-, second⟩)
      · by_contra passed
        exact unmasked ⟨within, data, first, by simpa using passed⟩
      · exact second
    · rw [lineStatus, if_neg data]
      exact ⟨.inl, fun either => either.resolve_right fun both => data both.1⟩

/-- The host answers the first call with an error, and the others with success. -/
def firstCallFails (call : Nat) : HostReply :=
  if call = 0 then HostReply.failing else HostReply.answering 0

/-- A single-block read whose command line could not be reset: no soft reset. -/
theorem sdhcRecoverFromErrors_masked :
    ¬ Escalates firstCallFails recoveryDepth cmdReadSingleBlock (World.start ⟨0x48⟩) := by
  intro escalates
  have within : WithinThreshold (World.start ⟨0x48⟩) := by
    unfold WithinThreshold
    decide
  have failed : LineResetFailed
      (recoveryCalls firstCallFails recoveryDepth cmdReadSingleBlock (World.start ⟨0x48⟩)) :=
    lineReset_failed_iff.mpr ⟨within, .inl rfl⟩
  have passed := (softReset_performed_iff.mp (escalates.performed_iff.mpr failed)).2
  revert passed
  decide

end MuRockchip.SdMmc
