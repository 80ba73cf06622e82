/-
The session with the variable application (`AuthVarsDxe.c`).

Between opening the session and the end of the boot services any caller may use
the four services. Two test hooks, reached by a name that starts with the
character 1, a namespace that starts with the word 1 and eight bytes of data,
read and replace the session's identifier.

* `session_run`: the identifier in use is the opened one or the last one a test
  hook stored; every command carries it; a call succeeds as a test hook or
  because its request was executed; only the test hook tells the identifier.
-/
import MuRockchip.AuthVar.Services
import MuRockchip.Base.Run

namespace MuRockchip.AuthVar

open MuRockchip.Base MuRockchip.Optee

/-! ### Calls -/

/-- A call of one of the four services. -/
inductive VariableCall where
  | getVariable (args : GetVariableArgs)
  | getNextVariableName (args : GetNextVariableNameArgs)
  | setVariable (args : SetVariableArgs)
  | queryVariableInfo (args : QueryVariableInfoArgs)

/-- What a call hands back; none where it reads past the end of the result
buffer. -/
inductive ServiceOutcome where
  | getVariable (outcome : Option GetVariableOutcome)
  | getNextVariableName (outcome : Option GetNextVariableNameOutcome)
  | setVariable (status : EfiStatus)
  | queryVariableInfo (outcome : Option QueryVariableInfoOutcome)
  deriving DecidableEq, Repr

def ServiceOutcome.status : ServiceOutcome → Option EfiStatus
  | getVariable outcome => outcome.map GetVariableOutcome.status
  | getNextVariableName outcome => outcome.map GetNextVariableNameOutcome.status
  | setVariable status => some status
  | queryVariableInfo outcome => outcome.map QueryVariableInfoOutcome.status

def serve (env : Environment) (state : DriverState) : VariableCall → ServiceOutcome × DriverState
  | .getVariable args =>
    let (outcome, after) := opteeRuntimeGetVariable env state args
    (.getVariable outcome, after)
  | .getNextVariableName args =>
    let (outcome, after) := opteeRuntimeGetNextVariableName env state args
    (.getNextVariableName outcome, after)
  | .setVariable args =>
    let (status, after) := opteeRuntimeSetVariable env state args
    (.setVariable status, after)
  | .queryVariableInfo args =>
    let (outcome, after) := opteeRuntimeQueryVariableInfo env state args
    (.queryVariableInfo outcome, after)

def serviceStep (env : Environment) (state : DriverState) (call : VariableCall) : DriverState :=
  (serve env state call).2

namespace VariableCall

/-- The identifier a call stores through the test hook. -/
def injectedSession : VariableCall → Option TeecSession
  | setVariable args => if args.isSessionHook then some args.sessionValue else none
  | _ => none

/-- The call reaches a test hook. -/
def isHook : VariableCall → Bool
  | getVariable args => args.isSessionHook
  | setVariable args => args.isSessionHook
  | _ => false

/-- The command and the parameter block the driver makes of a call. -/
def Requests (state : DriverState) (op : VariableServiceOp) (param : VariableParam) :
    VariableCall → Prop
  | getVariable args => ∃ request, getVariableRequest state args = .ok request ∧
      op = .get ∧ param = .get request.param
  | getNextVariableName args => ∃ request, getNextVariableNameRequest state args = .ok request ∧
      op = .getNextVar ∧ param = .getNext request.param
  | setVariable args => ∃ request, setVariableRequest state args = .ok request ∧
      op = .set ∧ param = .set request.1
  | queryVariableInfo args => ∃ request, queryVariableInfoRequest state args = .ok request ∧
      op = .queryInfo ∧ param = .query request

end VariableCall

/-- The request of a call was executed in the session: a command with its
parameter block and this session's identifier was answered with success. -/
def Executed (state : DriverState) (call : VariableCall) (sent : List Exchange) : Prop :=
  ∃ exchange ∈ sent, ∃ op, call.Requests state op exchange.param ∧
    exchange.message.func = op.code ∧ exchange.message.session = state.session.sessionId ∧
    exchange.result = TeecResult.success

/-- What one call does with the session. -/
structure CallFaithful (env : Environment) (state : DriverState) (call : VariableCall) : Prop where
  /-- Every command carries the identifier in use. -/
  session : ∃ sent, (serve env state call).2.exchanges = state.exchanges ++ sent ∧
    (∀ exchange ∈ sent, exchange.message.session = state.session.sessionId) ∧
    ((serve env state call).1.status = some EfiStatus.success → call.isHook = true ∨
      Executed state call sent)
  /-- What a call other than the test hook hands back does not depend on the
  identifier. -/
  blind : call.isHook = false → ∀ other : TeecSession,
    (serve env { state with session := other } call).1 = (serve env state call).1

/-! ### Commands -/

/-- The driver has sent these commands, all in the session it is in, and changed
nothing else. -/
structure Sends (before after : DriverState) (sent : List Exchange) : Prop where
  state : after =
    { before with exchanges := before.exchanges ++ sent, position := after.position }
  session : ∀ exchange ∈ sent, exchange.message.session = before.session.sessionId

theorem Sends.nothing (state : DriverState) (position : Nat) :
    Sends state { state with position } [] :=
  ⟨by rw [List.append_nil], fun _ member => nomatch member⟩

theorem Sends.trans {first second third : DriverState} {one other : List Exchange}
    (before : Sends first second one) (after : Sends second third other) :
    Sends first third (one ++ other) := by
  have state := before.state
  refine ⟨?_, ?_⟩
  · have later := after.state
    rw [state] at later
    rw [later, List.append_assoc]
  · intro exchange member
    rcases List.mem_append.mp member with here | there
    · exact before.session exchange here
    · have same := after.session exchange there
      rw [state] at same
      exact same

section

variable (env : Environment) (state : DriverState)

/-- A command is sent in the session the driver is in. One that succeeded was
executed. -/
theorem invoked_sends (command : VariableServiceOp) (param : VariableParam) (paramSize : UInt32)
    (resultSize : Option UInt32) :
    ∃ sent, Sends state
        (opteeRuntimeVariableInvokeCommand env state command param paramSize resultSize).2 sent ∧
      ((opteeRuntimeVariableInvokeCommand env state command param paramSize resultSize).1.status =
          EfiStatus.success →
        ∃ exchange ∈ sent, exchange.param = param ∧ exchange.message.func = command.code ∧
          exchange.message.session = state.session.sessionId ∧
          exchange.result = TeecResult.success) := by
  rw [invoked_status, invokeStatus_success_iff]
  cases allocated : (env state.position).messageAllocated with
  | false =>
    refine ⟨[], ⟨?_, fun _ member => nomatch member⟩, ?_⟩
    · simp only [opteeRuntimeVariableInvokeCommand, allocated, Bool.false_eq_true, if_false,
        List.append_nil]
    · intro success
      rw [allocated_of_success success] at allocated
      cases allocated
  | true =>
    refine ⟨[⟨invokeCommandMessage state.session command.code
      (commandOperation state paramSize (resultSize.getD 4)), param, (env state.position).answer⟩],
      ⟨?_, ?_⟩, ?_⟩
    · have answered := invoked_result env state command
        (commandOperation state paramSize (resultSize.getD 4))
      rw [allocated] at answered
      simp only [opteeRuntimeVariableInvokeCommand, allocated, if_true, answered]
    · intro exchange member
      rw [List.mem_singleton.mp member]
      rfl
    · intro success
      exact ⟨_, List.mem_singleton_self _, rfl, rfl, rfl, success⟩

theorem queryVariableInfoRequest_error {state : DriverState} {args : QueryVariableInfoArgs}
    {status : EfiStatus} (ended : queryVariableInfoRequest state args = .error status) :
    status.isError = true := by
  unfold queryVariableInfoRequest at ended
  repeat' split at ended
  all_goals cases ended
  all_goals decide

theorem getVariable_sends (args : GetVariableArgs) :
    ∃ sent, Sends state (opteeRuntimeGetVariable env state args).2 sent ∧
      ∀ outcome, (opteeRuntimeGetVariable env state args).1 = some outcome →
        outcome.status = EfiStatus.success → args.isSessionHook = true ∨
          Executed state (.getVariable args) sent := by
  unfold opteeRuntimeGetVariable
  rcases getVariableRequest_cases state args with ⟨status, refused, ended⟩ |
    ⟨hooked, ended⟩ | ⟨request, requested, _, _⟩
  · rw [ended]
    refine ⟨[], Sends.nothing state state.position, ?_⟩
    rintro outcome ⟨⟩ success
    exact absurd success (refusal_ne_success refused)
  · exact ⟨[], by rw [ended]; exact Sends.nothing state state.position, fun _ _ _ => .inl hooked⟩
  · obtain ⟨sent, sends, executed⟩ := invoked_sends env state .get (.get request.param)
      request.paramSize (some request.resultSize)
    rw [requested]
    refine ⟨sent, sends, fun outcome finished success => .inr ?_⟩
    obtain ⟨exchange, member, same, func, session, done⟩ :=
      executed (finishGetVariable_success finished success)
    exact ⟨exchange, member, .get, ⟨request, requested, rfl, same⟩, func, session, done⟩

theorem getNextVariableName_sends (args : GetNextVariableNameArgs) :
    ∃ sent, Sends state (opteeRuntimeGetNextVariableName env state args).2 sent ∧
      ∀ outcome, (opteeRuntimeGetNextVariableName env state args).1 = some outcome →
        outcome.status = EfiStatus.success → Executed state (.getNextVariableName args) sent := by
  unfold opteeRuntimeGetNextVariableName
  rcases getNextVariableNameRequest_cases state args with ⟨status, refused, ended⟩ |
    ⟨request, requested, _, _, _, _⟩
  · rw [ended]
    refine ⟨[], Sends.nothing state state.position, ?_⟩
    rintro outcome ⟨⟩ success
    exact absurd success (refusal_ne_success refused)
  · obtain ⟨sent, sends, executed⟩ := invoked_sends env state .getNextVar
      (.getNext request.param) request.paramSize (some request.resultSize)
    rw [requested]
    refine ⟨sent, sends, fun outcome finished success => ?_⟩
    obtain ⟨exchange, member, same, func, session, done⟩ :=
      executed (finishGetNextVariableName_success finished success)
    exact ⟨exchange, member, .getNextVar, ⟨request, requested, rfl, same⟩, func, session, done⟩

theorem queryVariableInfo_sends (args : QueryVariableInfoArgs) :
    ∃ sent, Sends state (opteeRuntimeQueryVariableInfo env state args).2 sent ∧
      ∀ outcome, (opteeRuntimeQueryVariableInfo env state args).1 = some outcome →
        outcome.status = EfiStatus.success → Executed state (.queryVariableInfo args) sent := by
  unfold opteeRuntimeQueryVariableInfo
  cases requested : queryVariableInfoRequest state args with
  | error status =>
    refine ⟨[], Sends.nothing state state.position, ?_⟩
    rintro outcome ⟨⟩ success
    have failed := queryVariableInfoRequest_error requested
    rw [show status = EfiStatus.success from success] at failed
    cases failed
  | ok param =>
    obtain ⟨sent, sends, executed⟩ := invoked_sends env state .queryInfo (.query param)
      sizeofVariableQueryParam (some sizeofVariableQueryResult)
    refine ⟨sent, sends, fun outcome finished success => ?_⟩
    rw [finishQueryVariableInfo_status finished] at success
    obtain ⟨exchange, member, same, func, session, done⟩ := executed success
    exact ⟨exchange, member, .queryInfo, ⟨param, requested, rfl, same⟩, func, session, done⟩

theorem internalGetVariable_sends (variableName : Str16) (vendorGuid : EfiGuid) :
    ∃ sent, Sends state (internalGetVariable env state variableName vendorGuid).2 sent := by
  unfold internalGetVariable
  obtain ⟨sized, sends, _⟩ := getVariable_sends env state
    ⟨some variableName, some vendorGuid, false, some 0, true⟩
  dsimp only
  split
  · exact ⟨sized, sends⟩
  split
  · exact ⟨sized, sends⟩
  split
  · exact ⟨_, sends.trans (Sends.nothing _ _)⟩
  · obtain ⟨read, reads, _⟩ := getVariable_sends env _ _
    exact ⟨_, (sends.trans (Sends.nothing _ _)).trans reads⟩

theorem secureBootHook_sends (variableName : Str16) (vendorGuid : EfiGuid) :
    ∃ sent, Sends state (secureBootHook env state variableName vendorGuid).2 sent := by
  unfold secureBootHook
  dsimp only
  have located := Sends.nothing state (state.position + 1)
  split
  · exact ⟨_, located⟩
  split
  · exact ⟨_, located⟩
  · obtain ⟨sent, sends⟩ := internalGetVariable_sends env _ variableName vendorGuid
    exact ⟨_, located.trans sends⟩

variable {args : SetVariableArgs}

theorem setVariable_sends (plain : args.isSessionHook = false) :
    ∃ sent, Sends state (opteeRuntimeSetVariable env state args).2 sent ∧
      ((opteeRuntimeSetVariable env state args).1 = EfiStatus.success →
        Executed state (.setVariable args) sent) := by
  unfold opteeRuntimeSetVariable
  rcases setVariableRequest_cases state args with ⟨status, refused, ended, _⟩ |
    ⟨hooked, _⟩ | ⟨⟨param, paramSize, variableName, vendorGuid⟩, requested, _⟩
  · rw [ended]
    refine ⟨[], Sends.nothing state state.position, fun success => ?_⟩
    exact absurd success (refusal_ne_success refused)
  · rw [hooked] at plain
    cases plain
  · obtain ⟨sent, sends, executed⟩ := invoked_sends env state .set (.set param) paramSize none
    rw [requested]
    dsimp only
    split
    · rename_i failed
      refine ⟨sent, sends, fun success => ?_⟩
      have status : (opteeRuntimeVariableInvokeCommand env state .set (.set param) paramSize
        none).1.status = EfiStatus.success := success
      rw [status] at failed
      cases failed
    · obtain ⟨measured, measures⟩ := secureBootHook_sends env
        (opteeRuntimeVariableInvokeCommand env state .set (.set param) paramSize none).2
        variableName vendorGuid
      refine ⟨sent ++ measured, sends.trans measures, fun success => ?_⟩
      obtain ⟨exchange, member, same, func, session, done⟩ := executed success
      exact ⟨exchange, List.mem_append_left _ member, .set, ⟨_, requested, rfl, same⟩, func,
        session, done⟩

/-- The test hook stores the identifier, and does nothing else. -/
theorem setVariable_hook (ready : state.Ready) (hooked : args.isSessionHook = true) :
    (opteeRuntimeSetVariable env state args).2 = { state with session := args.sessionValue } := by
  unfold opteeRuntimeSetVariable
  rcases setVariableRequest_cases state args with ⟨status, _, _, plain⟩ | ⟨_, ended⟩ |
    ⟨_, _, plain⟩
  · rw [plain ready] at hooked
    cases hooked
  · rw [ended]
    rfl
  · rw [plain] at hooked
    cases hooked

/-! ### Blindness -/

/-- What a command hands back does not depend on the identifier it carries. -/
theorem invoked_blind (other : TeecSession) (command : VariableServiceOp) (param : VariableParam)
    (paramSize : UInt32) (resultSize : Option UInt32) :
    (opteeRuntimeVariableInvokeCommand env { state with session := other } command param paramSize
      resultSize).1 =
    (opteeRuntimeVariableInvokeCommand env state command param paramSize resultSize).1 := by
  unfold opteeRuntimeVariableInvokeCommand teecSmcInvokeCommand
  dsimp only
  cases (env state.position).messageAllocated with
  | false => rfl
  | true =>
    by_cases returned : smcResult (env state.position).reply.arg0 = TeecResult.success
    · simp only [returned, ne_eq, not_true_eq_false, if_false, if_true]
      rfl
    · simp only [returned, ne_eq, not_false_eq_true, if_true]
      rfl

theorem getVariable_blind (other : TeecSession) {args : GetVariableArgs}
    (plain : args.isSessionHook = false) :
    (opteeRuntimeGetVariable env { state with session := other } args).1 =
      (opteeRuntimeGetVariable env state args).1 := by
  have same : getVariableRequest { state with session := other } args =
      getVariableRequest state args := by
    unfold GetVariableArgs.isSessionHook at plain
    unfold getVariableRequest
    dsimp only
    split
    · rfl
    split
    · rename_i variableName vendorGuid dataSize named spaced sized
      rw [named, spaced, sized] at plain
      dsimp only at plain
      rw [plain]
      rfl
    · rfl
  unfold opteeRuntimeGetVariable
  rw [same]
  cases getVariableRequest state args with
  | error outcome => rfl
  | ok request =>
    dsimp only
    rw [invoked_blind]

theorem getNextVariableName_blind (other : TeecSession) (args : GetNextVariableNameArgs) :
    (opteeRuntimeGetNextVariableName env { state with session := other } args).1 =
      (opteeRuntimeGetNextVariableName env state args).1 := by
  have same : getNextVariableNameRequest { state with session := other } args =
      getNextVariableNameRequest state args := rfl
  unfold opteeRuntimeGetNextVariableName
  rw [same]
  cases getNextVariableNameRequest state args with
  | error outcome => rfl
  | ok request =>
    dsimp only
    rw [invoked_blind]

theorem queryVariableInfo_blind (other : TeecSession) (args : QueryVariableInfoArgs) :
    (opteeRuntimeQueryVariableInfo env { state with session := other } args).1 =
      (opteeRuntimeQueryVariableInfo env state args).1 := by
  have same : queryVariableInfoRequest { state with session := other } args =
      queryVariableInfoRequest state args := rfl
  unfold opteeRuntimeQueryVariableInfo
  rw [same]
  cases queryVariableInfoRequest state args with
  | error status => rfl
  | ok param =>
    dsimp only
    rw [invoked_blind]

theorem setVariable_blind (other : TeecSession) (args : SetVariableArgs) :
    (opteeRuntimeSetVariable env { state with session := other } args).1 =
      (opteeRuntimeSetVariable env state args).1 := by
  have same : setVariableRequest { state with session := other } args =
      setVariableRequest state args := rfl
  unfold opteeRuntimeSetVariable
  rw [same]
  cases setVariableRequest state args with
  | error ended => rfl
  | ok request =>
    dsimp only
    rw [invoked_blind]
    split <;> rfl

end

/-! ### Runs -/

theorem serve_blind (env : Environment) (state : DriverState) (other : TeecSession)
    {call : VariableCall} (plain : call.isHook = false) :
    (serve env { state with session := other } call).1 = (serve env state call).1 := by
  cases call with
  | getVariable args =>
    exact congrArg ServiceOutcome.getVariable (getVariable_blind env state other plain)
  | getNextVariableName args =>
    exact congrArg ServiceOutcome.getNextVariableName
      (getNextVariableName_blind env state other args)
  | setVariable args =>
    exact congrArg ServiceOutcome.setVariable (setVariable_blind env state other args)
  | queryVariableInfo args =>
    exact congrArg ServiceOutcome.queryVariableInfo (queryVariableInfo_blind env state other args)

variable {state : DriverState}

/-- A call in use sends all its commands in the session, succeeds only as the test
hook or because it was executed, and otherwise does not tell the session. -/
theorem serve_faithful (env : Environment) (ready : state.Ready)
    (call : VariableCall) : CallFaithful env state call := by
  refine ⟨?_, fun plain other => serve_blind env state other plain⟩
  cases call with
  | getVariable args =>
    obtain ⟨sent, sends, success⟩ := getVariable_sends env state args
    refine ⟨sent, congrArg DriverState.exchanges sends.state, sends.session, fun done => ?_⟩
    obtain ⟨outcome, finished, status⟩ := Option.map_eq_some_iff.mp done
    exact success outcome finished status
  | getNextVariableName args =>
    obtain ⟨sent, sends, success⟩ := getNextVariableName_sends env state args
    refine ⟨sent, congrArg DriverState.exchanges sends.state, sends.session, fun done => .inr ?_⟩
    obtain ⟨outcome, finished, status⟩ := Option.map_eq_some_iff.mp done
    exact success outcome finished status
  | setVariable args =>
    cases hooked : args.isSessionHook with
    | true =>
      have stored := congrArg DriverState.exchanges (setVariable_hook env state ready hooked)
      exact ⟨[], stored.trans (List.append_nil _).symm, by simp, fun _ => .inl hooked⟩
    | false =>
      obtain ⟨sent, sends, success⟩ := setVariable_sends env state hooked
      exact ⟨sent, congrArg DriverState.exchanges sends.state, sends.session, fun done =>
        .inr (success (Option.some.inj done))⟩
  | queryVariableInfo args =>
    obtain ⟨sent, sends, success⟩ := queryVariableInfo_sends env state args
    refine ⟨sent, congrArg DriverState.exchanges sends.state, sends.session, fun done => .inr ?_⟩
    obtain ⟨outcome, finished, status⟩ := Option.map_eq_some_iff.mp done
    exact success outcome finished status

/-- Commands keep the services in use, and the session. -/
theorem Sends.ready {before after : DriverState} {sent : List Exchange}
    (sends : Sends before after sent) (ready : before.Ready) :
    after.Ready ∧ after.session = before.session := by
  rw [sends.state]
  exact ⟨⟨ready.bootTime, ready.opened⟩, rfl⟩

/-- A call keeps the services in use. It stores the session of a test hook, and
otherwise keeps the one before it. -/
theorem serviceStep_session (env : Environment) (ready : state.Ready) (call : VariableCall) :
    (serviceStep env state call).Ready ∧
      (serviceStep env state call).session = call.injectedSession.getD state.session := by
  cases call with
  | getVariable args =>
    obtain ⟨sent, sends, _⟩ := getVariable_sends env state args
    exact sends.ready ready
  | getNextVariableName args =>
    obtain ⟨sent, sends, _⟩ := getNextVariableName_sends env state args
    exact sends.ready ready
  | setVariable args =>
    unfold serviceStep serve VariableCall.injectedSession
    dsimp only
    cases hooked : args.isSessionHook with
    | true =>
      rw [setVariable_hook env state ready hooked]
      exact ⟨⟨ready.bootTime, ready.opened⟩, rfl⟩
    | false =>
      obtain ⟨sent, sends, _⟩ := setVariable_sends env state hooked
      exact sends.ready ready
  | queryVariableInfo args =>
    obtain ⟨sent, sends, _⟩ := queryVariableInfo_sends env state args
    exact sends.ready ready

/-- The session after calls: the last one a test hook stored, or the one before
them. -/
def sessionAfter (session : TeecSession) (calls : List VariableCall) : TeecSession :=
  calls.foldl (fun session call => call.injectedSession.getD session) session

theorem run_session (env : Environment) (ready : state.Ready) (calls : List VariableCall) :
    (run (serviceStep env) state calls).session = sessionAfter state.session calls ∧
      AllSteps (serviceStep env) (CallFaithful env) state calls := by
  induction calls generalizing state with
  | nil => exact ⟨rfl, trivial⟩
  | cons call rest ih =>
    obtain ⟨still, session⟩ := serviceStep_session env ready call
    obtain ⟨later, faithful⟩ := ih still
    rw [session] at later
    exact ⟨later, serve_faithful env ready call, faithful⟩

theorem ready_of_taOpenSession {opening : Opening} {mVariableType : List (Str16 × EfiGuid)}
    (opened : taOpenSession opening mVariableType = .ok state) :
    state.Ready := by
  unfold taOpenSession at opened
  dsimp only at opened
  repeat' split at opened
  all_goals cases opened
  exact ⟨rfl, rfl⟩

/-- In every run of calls after the session was opened, the identifier in use is
the one obtained then, or the last one a test hook stored. Every command carries
it, every success is the test hook's or was executed in it, and no other call
tells it. -/
theorem session_run (opening : Opening) (mVariableType : List (Str16 × EfiGuid))
    {state : DriverState} (opened : taOpenSession opening mVariableType = .ok state)
    (env : Environment) (calls : List VariableCall) :
    (∀ count, (run (serviceStep env) state (calls.take count)).session =
      sessionAfter state.session (calls.take count)) ∧
      AllSteps (serviceStep env) (CallFaithful env) state calls := by
  have ready := ready_of_taOpenSession opened
  exact ⟨fun count => (run_session env ready (calls.take count)).1, (run_session env ready calls).2⟩

/-- A variable whose name is the character 1, in a namespace that starts with the
word 1, and whose eight bytes are 42 and zeros. -/
def hookCall : VariableCall :=
  .setVariable ⟨some ⟨[1], by decide⟩, some ⟨1, 0, 0, Vector.replicate 8 0⟩, 0, 8,
    some fun index => if index = 0 then 42 else 0⟩

/-- An application that is never reached. -/
def silentTurn : Turn where
  messageAllocated := false
  reply := ⟨smcReturnOk, MsgArg.zero 4⟩
  result _ := 0
  variableArchInstalled := false
  poolAllocated := false

/-- A run of the platform's driver through the test hook. -/
theorem session_run_platform :
    (∀ count, (run (serviceStep fun _ => silentTurn) openedDriver
        ([hookCall].take count)).session = sessionAfter ⟨7⟩ ([hookCall].take count)) ∧
      AllSteps (serviceStep fun _ => silentTurn) (CallFaithful fun _ => silentTurn) openedDriver
        [hookCall] :=
  session_run platformOpening [] taOpenSession_platform (fun _ => silentTurn) [hookCall]

/-- The session law without the test hooks: the opened identifier stays in use, and
every success was executed. -/
structure SessionIntegrity (env : Environment) (state : DriverState)
    (calls : List VariableCall) : Prop where
  session : ∀ count, (run (serviceStep env) state (calls.take count)).session = state.session
  executed : AllSteps (serviceStep env) (fun state call =>
    (serve env state call).1.status = some EfiStatus.success →
      ∃ sent, (serve env state call).2.exchanges = state.exchanges ++ sent ∧
        Executed state call sent) state calls

/-- Any caller can replace the identifier. -/
theorem hook_replaces_session :
    ∃ state, taOpenSession platformOpening [] = .ok state ∧
      ¬SessionIntegrity (fun _ => silentTurn) state [hookCall] := by
  refine ⟨openedDriver, taOpenSession_platform, fun integrity => ?_⟩
  have replaced : (run (serviceStep fun _ => silentTurn) openedDriver
      ([hookCall].take 1)).session = ⟨42⟩ := by rfl
  have same : (⟨42⟩ : TeecSession) = ⟨7⟩ := replaced.symm.trans (integrity.session 1)
  cases same

end MuRockchip.AuthVar
