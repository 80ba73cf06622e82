/-
The end of the boot services (`OpteeRuntimeOnExitBootServices`, `AuthVarsDxe.c`).

When the boot services end, the driver tells the application, closes the session and
releases its transport buffers. If the application cannot be told, the system is reset.
A buffer that `OpteeClientMemFree` refuses to free stays with the driver.

* `run_plain`: the services themselves never send the signal.
* `run_ended`: without a session they send nothing.
* `session_ends`: the signal is the last command of a run, and is sent once, in the session
  in use; whatever is called afterwards, the application is not reached again.
-/
import MuRockchip.AuthVar.Marshalling
import MuRockchip.Optee.FtpmSession

namespace MuRockchip.AuthVar

open MuRockchip.Base MuRockchip.Optee

/-! ### The notification -/

/-- How the notification ends: the system is reset, or the driver has ended its session,
with the message that closed it. -/
inductive ExitOutcome where
  | reset (state : DriverState)
  | closed (state : DriverState) (message : Option (MsgArg 0))

/-- `TEEC_ReleaseSharedMemory`, where `OpteeClientMemFree` ends with `freed`: a buffer
that was not freed is kept. The size of one that was is not read any more. -/
def teecReleaseSharedMemory (mem : TransportMem) (freed : EfiStatus) : TransportMem :=
  if mem.buffer = 0 then mem
  else if freed.isError then mem
  else { mem with buffer := 0 }

/-- How `OpteeClientMemFree` ends for the two transport buffers. -/
structure Releases where
  param : EfiStatus
  result : EfiStatus

/-- `OpteeRuntimeOnExitBootServices`, where the parameter buffer holds what is left in
it. -/
def opteeRuntimeOnExitBootServices (env : Environment) (state : DriverState)
    (left : VariableParam) (freed : Releases) : ExitOutcome :=
  let (invoked, after) :=
    opteeRuntimeVariableInvokeCommand env state .signalExitBootServices left 4 none
  if invoked.status ≠ EfiStatus.success then .reset after
  else .closed
    { after with
      sessionOpened := false
      paramMem := teecReleaseSharedMemory after.paramMem freed.param
      resultMem := teecReleaseSharedMemory after.resultMem freed.result }
    (if after.sessionOpened then some (closeSessionMessage after.session) else none)

/-- What may happen after it: a service is called, or the system is told that it is at
runtime (`EfiAtRuntime`). -/
inductive LateEvent where
  | call (call : VariableCall)
  | atRuntime

def lateStep (env : Environment) (state : DriverState) : LateEvent → DriverState
  | .call call => serviceStep env state call
  | .atRuntime => { state with atRuntime := true }

/-! ### Services without a session -/

/-- The services are not in use any more. -/
def DriverState.Ended (state : DriverState) : Prop :=
  state.sessionOpened = false ∨ state.atRuntime = true

section

variable {env : Environment} {state : DriverState}

theorem getVariableRequest_ended (ended : state.Ended) (args : GetVariableArgs) :
    ∃ outcome, getVariableRequest state args = .error outcome := by
  unfold getVariableRequest
  rcases ended with closed | runtime
  · simp only [closed, Bool.not_false, if_true]
    repeat' split
    all_goals exact ⟨_, rfl⟩
  · exact ⟨_, if_pos runtime⟩

theorem getNextVariableNameRequest_ended (ended : state.Ended) (args : GetNextVariableNameArgs) :
    ∃ outcome, getNextVariableNameRequest state args = .error outcome := by
  unfold getNextVariableNameRequest
  rcases ended with closed | runtime
  · simp only [closed, Bool.not_false, if_true]
    repeat' split
    all_goals exact ⟨_, rfl⟩
  · exact ⟨_, if_pos runtime⟩

theorem setVariableRequest_ended (ended : state.Ended) (args : SetVariableArgs) :
    ∃ refused, setVariableRequest state args = .error refused := by
  unfold setVariableRequest
  rcases ended with closed | runtime
  · simp only [closed, Bool.not_false, if_true]
    repeat' split
    all_goals exact ⟨_, rfl⟩
  · exact ⟨_, if_pos runtime⟩

theorem queryVariableInfoRequest_ended (ended : state.Ended) (args : QueryVariableInfoArgs) :
    ∃ status, queryVariableInfoRequest state args = .error status := by
  unfold queryVariableInfoRequest
  rcases ended with closed | runtime
  · simp only [closed, Bool.not_false, if_true]
    repeat' split
    all_goals exact ⟨_, rfl⟩
  · exact ⟨_, if_pos runtime⟩

/-- Without a session a service sends nothing, and does not open one. -/
theorem serviceStep_ended (env : Environment) (ended : state.Ended) (call : VariableCall) :
    (serviceStep env state call).exchanges = state.exchanges ∧
      (serviceStep env state call).Ended := by
  cases call with
  | getVariable args =>
    obtain ⟨outcome, refused⟩ := getVariableRequest_ended ended args
    simp only [serviceStep, serve, opteeRuntimeGetVariable, refused]
    exact ⟨trivial, ended⟩
  | getNextVariableName args =>
    obtain ⟨outcome, refused⟩ := getNextVariableNameRequest_ended ended args
    simp only [serviceStep, serve, opteeRuntimeGetNextVariableName, refused]
    exact ⟨trivial, ended⟩
  | setVariable args =>
    obtain ⟨outcome, refused⟩ := setVariableRequest_ended ended args
    simp only [serviceStep, serve, opteeRuntimeSetVariable, refused]
    exact ⟨trivial, ended⟩
  | queryVariableInfo args =>
    obtain ⟨status, refused⟩ := queryVariableInfoRequest_ended ended args
    simp only [serviceStep, serve, opteeRuntimeQueryVariableInfo, refused]
    exact ⟨trivial, ended⟩

theorem lateStep_ended (env : Environment) (ended : state.Ended) (event : LateEvent) :
    (lateStep env state event).exchanges = state.exchanges ∧ (lateStep env state event).Ended := by
  cases event with
  | call call => exact serviceStep_ended env ended call
  | atRuntime => exact ⟨rfl, Or.inr rfl⟩

/-- Whatever happens after the session has ended, nothing is sent. -/
theorem run_ended (env : Environment) (ended : state.Ended) (events : List LateEvent) :
    (run (lateStep env) state events).exchanges = state.exchanges ∧
      (run (lateStep env) state events).Ended := by
  induction events generalizing state with
  | nil => exact ⟨rfl, ended⟩
  | cons event events ih =>
    obtain ⟨same, still⟩ := lateStep_ended env ended event
    obtain ⟨later, last⟩ := ih still
    exact ⟨later.trans same, last⟩

/-! ### The signal -/

def PlainCommands (before after : DriverState) : Prop :=
  ∃ sent, after.exchanges = before.exchanges ++ sent ∧
    ∀ exchange ∈ sent, exchange.message.func ≠ VariableServiceOp.signalExitBootServices.code

theorem PlainCommands.nothing {before after : DriverState}
    (same : after.exchanges = before.exchanges) : PlainCommands before after :=
  ⟨[], by rw [same, List.append_nil], fun _ member => nomatch member⟩

theorem PlainCommands.trans {first second third : DriverState}
    (earlier : PlainCommands first second) (later : PlainCommands second third) :
    PlainCommands first third := by
  obtain ⟨one, oneSent, onePlain⟩ := earlier
  obtain ⟨other, otherSent, otherPlain⟩ := later
  refine ⟨one ++ other, by rw [otherSent, oneSent, List.append_assoc], fun exchange member => ?_⟩
  rcases List.mem_append.mp member with first | second
  · exact onePlain exchange first
  · exact otherPlain exchange second

variable (env : Environment)

theorem invoked_plain (state : DriverState) {command : VariableServiceOp}
    (plain : command.code ≠ VariableServiceOp.signalExitBootServices.code) (param : VariableParam)
    (paramSize : UInt32) (resultSize : Option UInt32) :
    PlainCommands state
      (opteeRuntimeVariableInvokeCommand env state command param paramSize resultSize).2 := by
  unfold opteeRuntimeVariableInvokeCommand
  dsimp only
  split
  · refine ⟨[_], rfl, fun exchange member => ?_⟩
    rw [List.mem_singleton.mp member]
    exact plain
  · exact PlainCommands.nothing rfl

theorem getVariable_plain (state : DriverState) (args : GetVariableArgs) :
    PlainCommands state (opteeRuntimeGetVariable env state args).2 := by
  unfold opteeRuntimeGetVariable
  split
  · exact PlainCommands.nothing rfl
  · exact invoked_plain env state (by decide) _ _ _

theorem secureBootHook_plain (state : DriverState) (variableName : Str16)
    (vendorGuid : EfiGuid) :
    PlainCommands state (secureBootHook env state variableName vendorGuid).2 := by
  unfold secureBootHook
  dsimp only
  split
  · exact PlainCommands.nothing rfl
  · split
    · exact PlainCommands.nothing rfl
    · have turned : PlainCommands state { state with position := state.position + 1 } :=
        PlainCommands.nothing rfl
      refine turned.trans ?_
      unfold internalGetVariable
      dsimp only
      have sized := getVariable_plain env { state with position := state.position + 1 }
        ⟨some variableName, some vendorGuid, false, some 0, true⟩
      split
      · exact sized
      split
      · exact sized
      split
      · exact sized.trans (PlainCommands.nothing rfl)
      · exact (sized.trans (PlainCommands.nothing rfl)).trans (getVariable_plain env _ _)

theorem serviceStep_plain (state : DriverState) (call : VariableCall) :
    PlainCommands state (serviceStep env state call) := by
  cases call with
  | getVariable args => exact getVariable_plain env state args
  | getNextVariableName args =>
    unfold serviceStep serve opteeRuntimeGetNextVariableName
    dsimp only
    split
    · exact PlainCommands.nothing rfl
    · exact invoked_plain env state (by decide) _ _ _
  | setVariable args =>
    unfold serviceStep serve opteeRuntimeSetVariable
    dsimp only
    split
    · exact PlainCommands.nothing rfl
    · next param paramSize variableName vendorGuid _ =>
      have plain : VariableServiceOp.set.code ≠
          VariableServiceOp.signalExitBootServices.code := by decide
      have invoked := invoked_plain env state plain (.set param) paramSize none
      split
      · exact invoked
      · exact invoked.trans (secureBootHook_plain env _ variableName vendorGuid)
  | queryVariableInfo args =>
    unfold serviceStep serve opteeRuntimeQueryVariableInfo
    dsimp only
    split
    · exact PlainCommands.nothing rfl
    · exact invoked_plain env state (by decide) _ _ _

theorem run_plain (state : DriverState) (calls : List VariableCall) :
    PlainCommands state (run (serviceStep env) state calls) := by
  induction calls generalizing state with
  | nil => exact PlainCommands.nothing rfl
  | cons call calls ih => exact (serviceStep_plain env state call).trans (ih _)

end

/-! ### The end of the session -/

variable {state : DriverState} {mVariableType : List (Str16 × EfiGuid)}

theorem run_ready (env : Environment) (ready : state.Ready)
    (calls : List VariableCall) : (run (serviceStep env) state calls).Ready := by
  induction calls generalizing state with
  | nil => exact ready
  | cons call calls ih => exact ih (serviceStep_session env ready call).1

theorem exchanges_of_taOpenSession {opening : Opening}
    (opened : taOpenSession opening mVariableType = .ok state) :
    state.exchanges = [] := by
  unfold taOpenSession at opened
  dsimp only at opened
  repeat' split at opened
  all_goals cases opened
  rfl

/-- The signal the application has executed. -/
def exitSignal (before : DriverState) (left : VariableParam) : Exchange :=
  ⟨invokeCommandMessage before.session VariableServiceOp.signalExitBootServices.code
    (commandOperation before 4 4), left, TeecResult.success⟩

/-- A transport buffer is given back exactly if it was freed, and is kept as it was
otherwise. -/
def Released (before after : TransportMem) (freed : EfiStatus) : Prop :=
  (after.buffer = 0 ↔ freed.isError = false) ∧ (freed.isError = true → after = before)

theorem teecReleaseSharedMemory_released {mem : TransportMem} (allocated : mem.buffer ≠ 0)
    (freed : EfiStatus) : Released mem (teecReleaseSharedMemory mem freed) freed := by
  unfold Released teecReleaseSharedMemory
  rw [if_neg allocated]
  cases freed.isError with
  | true => exact ⟨⟨fun cleared => absurd cleared allocated, nofun⟩, fun _ => rfl⟩
  | false => exact ⟨⟨fun _ => rfl, fun _ => rfl⟩, nofun⟩

/-- What a notification that did not reset the system leaves. -/
structure SessionEnded (before : DriverState) (left : VariableParam) (freed : Releases)
    (after : DriverState) (message : Option (MsgArg 0)) : Prop where
  message : message =
    if before.sessionOpened then some (closeSessionMessage before.session) else none
  closed : after.sessionOpened = false
  paramMem : after.paramMem = teecReleaseSharedMemory before.paramMem freed.param
  resultMem : after.resultMem = teecReleaseSharedMemory before.resultMem freed.result
  signal : after.exchanges = before.exchanges ++ [exitSignal before left]

theorem opteeRuntimeOnExitBootServices_closed {env : Environment} {after : DriverState}
    {left : VariableParam} {freed : Releases} {message : Option (MsgArg 0)}
    (ended : opteeRuntimeOnExitBootServices env state left freed = .closed after message) :
    SessionEnded state left freed after message := by
  obtain ⟨sent, sends, -⟩ := invoked_sends env state .signalExitBootServices left 4 none
  have status := invoked_status env state .signalExitBootServices left 4 none
  have answered := invoked_result env state .signalExitBootServices (commandOperation state 4 4)
  unfold opteeRuntimeOnExitBootServices at ended
  dsimp only at ended
  split at ended
  · cases ended
  · next success =>
    have answer : (env state.position).answer = TeecResult.success := by
      rw [← invokeStatus_success_iff, ← status]
      exact not_not.mp success
    cases ended
    exact
      { message := by rw [sends.state]
        closed := rfl
        paramMem := by rw [sends.state]
        resultMem := by rw [sends.state]
        signal := by
          rw [answer] at answered
          have allocated := allocated_of_success answer
          rw [allocated] at answered
          simp only [opteeRuntimeVariableInvokeCommand, allocated, if_true, Option.getD_none,
            answered, exitSignal] }

theorem run_buffers (env : Environment) (state : DriverState) (calls : List VariableCall) :
    SameBuffers state (run (serviceStep env) state calls) := by
  induction calls generalizing state with
  | nil => exact ⟨rfl, rfl⟩
  | cons call calls ih =>
    have step := serviceStep_buffers env state call
    have later := ih (serviceStep env state call)
    exact ⟨later.1.trans step.1, later.2.trans step.2⟩

theorem allocated_of_taOpenSession {opening : Opening}
    (opened : taOpenSession opening mVariableType = .ok state) :
    state.paramMem.buffer ≠ 0 ∧ state.resultMem.buffer ≠ 0 := by
  unfold taOpenSession at opened
  dsimp only at opened
  split at opened
  · cases opened
  split at opened
  · cases opened
  rename_i param
  split at opened
  · cases opened
  rename_i result
  cases opened
  exact ⟨param, result⟩

/-- The commands a session has sent when it has ended: plain ones, then the signal. -/
def SessionRecord (session : TeecSession) (exchanges : List Exchange) : Prop :=
  ∃ commands signal, exchanges = commands ++ [signal] ∧
    signal.message.func = VariableServiceOp.signalExitBootServices.code ∧
    signal.message.session = session.sessionId ∧ signal.result = TeecResult.success ∧
    ∀ exchange ∈ commands,
      exchange.message.func ≠ VariableServiceOp.signalExitBootServices.code

/-- In every run from the opening of the session over the notification to any later calls:
the application is told once, by the last command it ever sees, in the session in use then,
and the message that closes the session names the same one. Each transport buffer is given
back exactly if it can be freed. -/
theorem session_ends (opening : Opening) (mVariableType : List (Str16 × EfiGuid))
    {state : DriverState} (opened : taOpenSession opening mVariableType = .ok state)
    (env : Environment) (calls : List VariableCall) (left : VariableParam) (freed : Releases)
    {after : DriverState} {message : Option (MsgArg 0)}
    (ended : opteeRuntimeOnExitBootServices env (run (serviceStep env) state calls) left freed =
      .closed after message) (events : List LateEvent) :
    message = some (closeSessionMessage (sessionAfter state.session calls)) ∧
      SessionRecord (sessionAfter state.session calls)
        (run (lateStep env) after events).exchanges ∧
      Released state.paramMem after.paramMem freed.param ∧
      Released state.resultMem after.resultMem freed.result := by
  have ready := ready_of_taOpenSession opened
  have inUse := run_session env ready calls
  have still := run_ready env ready calls
  have same := run_buffers env state calls
  have allocated := allocated_of_taOpenSession opened
  have closing := opteeRuntimeOnExitBootServices_closed ended
  obtain ⟨silent, -⟩ := run_ended env (Or.inl closing.closed) events
  obtain ⟨commands, sent, plain⟩ := run_plain env state calls
  have fresh := exchanges_of_taOpenSession opened
  rw [fresh, List.nil_append] at sent
  refine ⟨?_, ⟨commands,
    exitSignal (run (serviceStep env) state calls) left, ?_, rfl, ?_, rfl, plain⟩, ?_, ?_⟩
  · rw [closing.message, still.opened, if_pos rfl, inUse.1]
  · rw [silent, closing.signal, sent]
  · exact congrArg TeecSession.sessionId inUse.1
  · rw [closing.paramMem, same.1]
    exact teecReleaseSharedMemory_released allocated.1 freed.param
  · rw [closing.resultMem, same.2]
    exact teecReleaseSharedMemory_released allocated.2 freed.result

/-- The platform's driver, whose identifier a test hook replaced, is told of the end by an
application that serves. The result buffer is not freed, and stays; a variable stored
afterwards is not sent. -/
theorem session_ends_hooked :
    ∃ after message,
      opteeRuntimeOnExitBootServices (fun _ => servingTurn)
        (run (serviceStep fun _ => servingTurn) openedDriver [hookCall]) (.query ⟨0, 0⟩)
        ⟨EfiStatus.success, EfiStatus.notFound⟩ = .closed after message ∧
      message = some (closeSessionMessage ⟨42⟩) ∧
      SessionRecord ⟨42⟩
        (run (lateStep fun _ => servingTurn) after [.call storeCall, .atRuntime]).exchanges ∧
      after.paramMem.buffer = 0 ∧ after.resultMem = openedDriver.resultMem := by
  obtain ⟨told, record, param, result⟩ := session_ends platformOpening [] taOpenSession_platform
    (fun _ => servingTurn) [hookCall] (.query ⟨0, 0⟩) ⟨EfiStatus.success, EfiStatus.notFound⟩ rfl
    [.call storeCall, .atRuntime]
  exact ⟨_, _, rfl, told, record, param.1.mpr rfl, result.2 rfl⟩

end MuRockchip.AuthVar
