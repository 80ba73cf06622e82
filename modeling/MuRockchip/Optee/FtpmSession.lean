/-
Sessions with the firmware TPM (`Tpm2DeviceLibOptee.c`).

A request opens a session whether or not one is open, and the session record is overwritten as
soon as the secure world has run the call, whatever came of it. Relinquishing the TPM closes the
session in the record and forgets it, also where closing fails.

The sessions that the secure world holds for the library are kept next to the state of the
library. They change where the secure world reports success.

* `sentOn_initialized`: a command is sent on the session in the record.
* `callSound_iff`: what one call keeps.
* `ftpm_run_iff`: the runs that keep account of the session.
-/
import MuRockchip.Base.Run
import MuRockchip.Optee.FtpmCommand

namespace MuRockchip.Optee

open MuRockchip.Base

variable {region : SharedRegion}

/-! ### Opening and closing -/

/-- What a call of the secure world meets: whether there is room for its message, and the
reply. -/
structure SmcAnswer (slots : Nat) where
  allocated : Bool
  reply : SmcReturn slots

namespace SmcAnswer

variable {slots : Nat}

/-- The secure world has run the call. -/
def returned (answer : SmcAnswer slots) : Bool :=
  answer.allocated && answer.reply.arg0 == smcReturnOk

/-- The secure world has run the call and reports success. -/
def succeeded (answer : SmcAnswer slots) : Bool :=
  answer.returned && answer.reply.message.ret == TeecResult.success

end SmcAnswer

/-- `TEEC_OpenSession`, with everything it is passed in place. -/
def teecOpenSession (session : TeecSession) (destination : TeecUuid) (connectionMethod : UInt32)
    (operation : Option TeecOperation) (answer : SmcAnswer 6) : TeecResult × TeecSession :=
  if connectionMethod ≠ teecLoginPublic then (TeecResult.errorNotSupported, session)
  else
    let nullOperation : TeecOperation := ⟨0, Vector.replicate 4 ⟨0, 0, 0⟩⟩
    let outcome := teecSmcOpenSession session destination (operation.getD nullOperation)
      answer.allocated fun _ => answer.reply
    (outcome.result, outcome.session)

def msgCmdCloseSession : UInt32 := 2

/-- The message `TEEC_SMC_CloseSession` builds. -/
def closeSessionMessage (session : TeecSession) : MsgArg 0 :=
  { MsgArg.zero 0 with
    cmd := msgCmdCloseSession
    session := session.sessionId }

/-! ### The library -/

/-- The statics of the library, with what the secure world holds for it. -/
structure FtpmState (region : SharedRegion) where
  initialized : Bool
  /-- `FtpmSession`. -/
  ftpmSession : TeecSession
  shared : SharedMem region
  /-- The sessions opened for the library and not closed. -/
  opened : List UInt32
  /-- An assertion has stopped the machine. -/
  stopped : Bool

/-- The library as it is loaded. -/
def FtpmState.loaded (shared : SharedMem region) : FtpmState region where
  initialized := false
  ftpmSession := ⟨0⟩
  shared := shared
  opened := []
  stopped := false

def gOpteeFtpmTaGuid : EfiGuid :=
  ⟨0xbc50d971, 0xd4c9, 0x42c4, #v[0x82, 0xcb, 0x34, 0x3f, 0xb7, 0xf3, 0x78, 0x96]⟩

/-- The secure world answers an open-session message: a session is open if it says so. -/
def openedBy (answer : SmcAnswer 6) (opened : List UInt32) : List UInt32 :=
  if answer.succeeded then answer.reply.message.session :: opened else opened

/-- The secure world answers a close-session message: the session it names is closed if it says
so. -/
def closedBy (message : MsgArg 0) (answer : SmcAnswer 0) (opened : List UInt32) : List UInt32 :=
  if answer.succeeded then opened.erase message.session else opened

section

variable (asserts : Bool) (state : FtpmState region)

/-- `Tpm2RequestUseTpm`. There is no status when an assertion stops the machine. -/
def tpm2RequestUseTpm (answer : SmcAnswer 6) : Option EfiStatus × FtpmState region :=
  let (result, ftpmSession) :=
    teecOpenSession state.ftpmSession (taUuid gOpteeFtpmTaGuid) teecLoginPublic none answer
  let state := { state with ftpmSession, opened := openedBy answer state.opened }
  if result ≠ TeecResult.success then
    if asserts then (none, state) else (some EfiStatus.deviceError, state)
  else (some EfiStatus.success, { state with initialized := true })

/-- `Tpm2RelinquishUseTpm`. The result of closing the session is not looked at. -/
def tpm2RelinquishUseTpm (answer : SmcAnswer 0) : Option Unit × FtpmState region :=
  let state :=
    if state.initialized then
      { state with
        opened := closedBy (closeSessionMessage state.ftpmSession) answer state.opened
        initialized := false }
    else state
  if opteeClientApiFinalize state.shared && asserts then (none, state) else (some (), state)

/-- `Tpm2SubmitCommand`, on the state of the library. -/
def FtpmState.submit (request : Tpm2Request) (turn : FtpmTurn) : Submission region :=
  tpm2SubmitCommand asserts state.initialized state.ftpmSession state.shared request turn

end

/-- A call of the library, with what it meets. -/
inductive FtpmCall where
  | request (answer : SmcAnswer 6)
  | submit (request : Tpm2Request) (turn : FtpmTurn)
  | relinquish (answer : SmcAnswer 0)

/-- What a call makes of the library, as long as the machine runs. -/
def ftpmStep (asserts : Bool) (state : FtpmState region) (call : FtpmCall) : FtpmState region :=
  if state.stopped then state
  else
    match call with
    | .request answer =>
        let (status, after) := tpm2RequestUseTpm asserts state answer
        { after with stopped := status.isNone }
    | .submit request turn =>
        let submission := state.submit asserts request turn
        { state with shared := submission.shared, stopped := submission.status.isNone }
    | .relinquish answer =>
        let (finished, after) := tpm2RelinquishUseTpm asserts state answer
        { after with stopped := finished.isNone }

/-- The session of the command that a call sends: it is sent once the block and the message are
allocated, on the session in the record. -/
def sentOn (asserts : Bool) (state : FtpmState region) (call : FtpmCall) : Option UInt32 :=
  match call with
  | .submit request turn =>
      if !state.stopped && (state.submit asserts request turn).block.isSome &&
          turn.messageAllocated then
        some state.ftpmSession.sessionId
      else none
  | .request _ | .relinquish _ => none

/-! ### Accounting for the session -/

/-- A call leaves at most one session open, and none if it relinquishes the TPM; a command is sent
on an open session, and so would the next one be. -/
structure CallSound (asserts : Bool) (state : FtpmState region) (call : FtpmCall) : Prop where
  single : (ftpmStep asserts state call).opened.length ≤ 1
  closed : state.stopped = false → ∀ answer, call = .relinquish answer →
    (ftpmStep asserts state call).opened = []
  sent : ∀ session, sentOn asserts state call = some session → session ∈ state.opened
  inUse : (ftpmStep asserts state call).stopped = false →
    (ftpmStep asserts state call).initialized = true →
    (ftpmStep asserts state call).ftpmSession.sessionId ∈ (ftpmStep asserts state call).opened

/-- A session in use is left alone: a further request does not get as far as the secure world, or
is refused without another session in the record, and closing it succeeds. -/
def CallMeets (asserts : Bool) (state : FtpmState region) (call : FtpmCall) : Prop :=
  state.stopped = false → state.initialized = true →
    match call with
    | .request answer =>
        answer.returned = false ∨
          answer.reply.message.ret ≠ TeecResult.success ∧
            (asserts = true ∨ answer.reply.message.session = state.ftpmSession.sessionId)
    | .submit _ _ => True
    | .relinquish answer => answer.succeeded = true

/-- The library knows the session that is open. -/
structure FtpmState.Accounted (state : FtpmState region) : Prop where
  single : state.opened.length ≤ 1
  known : state.stopped = false →
    state.opened = if state.initialized then [state.ftpmSession.sessionId] else []

/-! ### One call -/

theorem smcResult_success_iff (arg0 : UInt64) :
    smcResult arg0 = TeecResult.success ↔ arg0 = smcReturnOk := by
  unfold smcResult
  split
  · next unknown =>
    subst unknown
    decide
  · split
    · next other => exact iff_of_false (by decide) other
    · next ok => exact iff_of_true rfl (not_not.mp ok)

section

variable {asserts : Bool} {state : FtpmState region}

/-- The record holds the session of every reply, and opening succeeds where the secure world says
so. -/
theorem teecOpenSession_spec (session : TeecSession) (destination : TeecUuid)
    (operation : Option TeecOperation) (answer : SmcAnswer 6) :
    (teecOpenSession session destination teecLoginPublic operation answer).2 =
        (if answer.returned then ⟨answer.reply.message.session⟩ else session) ∧
      ((teecOpenSession session destination teecLoginPublic operation answer).1 =
        TeecResult.success ↔ answer.succeeded = true) := by
  have memory : TeecResult.errorOutOfMemory ≠ TeecResult.success := by decide
  by_cases allocated : answer.allocated = true
  · by_cases ok : answer.reply.arg0 = smcReturnOk
    · have result := (smcResult_success_iff _).mpr ok
      simp [teecOpenSession, teecSmcOpenSession, SmcAnswer.returned, SmcAnswer.succeeded, allocated,
        ok, (smcResult_success_iff smcReturnOk).mpr rfl]
    · have result := (smcResult_success_iff _).not.mpr ok
      simp [teecOpenSession, teecSmcOpenSession, SmcAnswer.returned, SmcAnswer.succeeded, allocated,
        ok, result]
  · simp [teecOpenSession, teecSmcOpenSession, SmcAnswer.returned, SmcAnswer.succeeded, allocated,
      memory]

theorem ftpmStep_request (running : state.stopped = false) (answer : SmcAnswer 6) :
    ftpmStep asserts state (.request answer) =
      { state with
        ftpmSession :=
          if answer.returned then ⟨answer.reply.message.session⟩ else state.ftpmSession
        opened := openedBy answer state.opened
        initialized := state.initialized || answer.succeeded
        stopped := !answer.succeeded && asserts } := by
  obtain ⟨record, success⟩ := teecOpenSession_spec state.ftpmSession (taUuid gOpteeFtpmTaGuid) none
    answer
  by_cases succeeded : answer.succeeded = true
  · have result := success.mpr succeeded
    simp [ftpmStep, running, tpm2RequestUseTpm, result, record, succeeded]
  · have result := success.not.mpr succeeded
    have failed : answer.succeeded = false := Bool.not_eq_true _ ▸ succeeded
    cases asserts with
    | false | true => simp [ftpmStep, running, tpm2RequestUseTpm, result, record, failed]

/-- Relinquishing the TPM closes what the record names and forgets it. -/
theorem ftpmStep_relinquish (running : state.stopped = false) (answer : SmcAnswer 0) :
    (ftpmStep asserts state (.relinquish answer)).opened =
        (if state.initialized then
          closedBy (closeSessionMessage state.ftpmSession) answer state.opened
        else state.opened) ∧
      (ftpmStep asserts state (.relinquish answer)).initialized = false := by
  cases initialized : state.initialized with
  | false =>
    simp only [ftpmStep, running, tpm2RelinquishUseTpm, initialized, Bool.false_eq_true, if_false]
    split <;> exact ⟨rfl, initialized⟩
  | true =>
    simp only [ftpmStep, running, tpm2RelinquishUseTpm, initialized, Bool.false_eq_true, if_false,
      if_true]
    split <;> exact ⟨rfl, rfl⟩

theorem ftpmStep_submit (asserts : Bool) (state : FtpmState region)
    (request : Tpm2Request) (turn : FtpmTurn) :
    ∃ shared stopped, ftpmStep asserts state (.submit request turn) =
      { state with shared, stopped } := by
  unfold ftpmStep
  split
  · exact ⟨state.shared, state.stopped, rfl⟩
  · exact ⟨_, _, rfl⟩

theorem submission_block_iff (asserts : Bool) (state : FtpmState region)
    (request : Tpm2Request) (turn : FtpmTurn) :
    (state.submit asserts request turn).block.isSome = true ↔
      Sent state.initialized state.shared request turn := by
  unfold FtpmState.submit
  constructor
  · intro block
    by_contra unsent
    obtain ⟨status, after, -, outcome⟩ :=
      tpm2SubmitCommand_unsent asserts state.ftpmSession unsent
    rw [outcome] at block
    cases block
  · intro sent
    obtain ⟨block, pool, -, failing, succeeding⟩ :=
      tpm2SubmitCommand_sent asserts state.ftpmSession sent
    by_cases succeeded : turn.result = TeecResult.success
    · obtain ⟨returned, -, outcome⟩ := succeeding succeeded
      rw [outcome]
      rfl
    · rw [failing succeeded]
      rfl

/-- A command reaches the secure world if the machine runs, the library is initialized and both
allocations are served. It is sent on the session in the record. -/
theorem sentOn_submit_iff {request : Tpm2Request} {turn : FtpmTurn} {session : UInt32} :
    sentOn asserts state (.submit request turn) = some session ↔
      state.stopped = false ∧ Sent state.initialized state.shared request turn ∧
        turn.messageAllocated = true ∧ session = state.ftpmSession.sessionId := by
  unfold sentOn
  dsimp only
  rw [← submission_block_iff asserts, Option.ite_none_right_eq_some]
  simp only [Bool.and_eq_true, Bool.not_eq_true', Option.some.injEq, and_assoc,
    eq_comm (a := session)]

variable {call : FtpmCall} {answer : SmcAnswer 6}

theorem sentOn_initialized {session : UInt32} (sent : sentOn asserts state call = some session) :
    state.stopped = false ∧ state.initialized = true ∧ session = state.ftpmSession.sessionId := by
  cases call with
  | request answer => cases sent
  | relinquish answer => cases sent
  | submit request turn =>
    obtain ⟨running, ⟨initialized, -⟩, -, same⟩ := sentOn_submit_iff.mp sent
    exact ⟨running, initialized, same⟩

theorem ftpmStep_stopped (stopped : state.stopped = true) (call : FtpmCall) :
    ftpmStep asserts state call = state := by
  unfold ftpmStep
  rw [if_pos stopped]

theorem SmcAnswer.succeeded_iff {slots : Nat} (answer : SmcAnswer slots) :
    answer.succeeded = true ↔
      answer.returned = true ∧ answer.reply.message.ret = TeecResult.success := by
  rw [SmcAnswer.succeeded, Bool.and_eq_true, beq_iff_eq]

/-! ### Accounting is kept -/

/-- A further request that leaves the session in use alone does not open another. -/
theorem request_refused
    (refused : answer.returned = false ∨ answer.reply.message.ret ≠ TeecResult.success) :
    answer.succeeded = false := by
  rw [← Bool.not_eq_true, SmcAnswer.succeeded_iff]
  rintro ⟨returned, success⟩
  rcases refused with unanswered | failed
  · rw [returned] at unanswered
    cases unanswered
  · exact failed success

theorem request_accounted (accounted : state.Accounted) (running : state.stopped = false)
    (meets : CallMeets asserts state (.request answer)) :
    (ftpmStep asserts state (.request answer)).Accounted := by
  have known := accounted.known running
  rw [ftpmStep_request running]
  cases initialized : state.initialized with
  | false =>
    rw [initialized, if_neg Bool.false_ne_true] at known
    cases succeeded : answer.succeeded with
    | false => constructor <;> simp [openedBy, succeeded, known]
    | true =>
      have returned := ((SmcAnswer.succeeded_iff answer).mp succeeded).1
      constructor <;> simp [openedBy, succeeded, known, returned]
  | true =>
    rw [initialized, if_pos rfl] at known
    rcases meets running initialized with unanswered | ⟨failed, kept⟩
    · have refused := request_refused (Or.inl unanswered)
      constructor <;> simp [openedBy, refused, known, unanswered]
    · have refused := request_refused (Or.inr failed)
      refine ⟨by simp [openedBy, refused, known], ?_⟩
      rcases kept with halted | same
      · simp [refused, halted]
      · intro _
        simp [openedBy, refused, known, same]

theorem relinquish_closed (accounted : state.Accounted) (running : state.stopped = false)
    {answer : SmcAnswer 0} (meets : CallMeets asserts state (.relinquish answer)) :
    (ftpmStep asserts state (.relinquish answer)).opened = [] := by
  have known := accounted.known running
  rw [(ftpmStep_relinquish running answer).1]
  cases initialized : state.initialized with
  | false =>
    rw [initialized, if_neg Bool.false_ne_true] at known
    rw [if_neg Bool.false_ne_true, known]
  | true =>
    rw [initialized, if_pos rfl] at known
    rw [if_pos rfl, closedBy, if_pos (meets running initialized), known]
    exact List.erase_cons_head state.ftpmSession.sessionId []

/-- A call that leaves the session in use alone keeps account of it. -/
theorem ftpmStep_accounted (accounted : state.Accounted)
    (meets : CallMeets asserts state call) : (ftpmStep asserts state call).Accounted := by
  cases stopped : state.stopped with
  | true => exact (ftpmStep_stopped stopped call).symm ▸ accounted
  | false =>
    cases call with
    | request answer => exact request_accounted accounted stopped meets
    | submit request turn =>
      obtain ⟨shared, halted, step⟩ := ftpmStep_submit asserts state request turn
      rw [step]
      exact ⟨accounted.single, fun _ => accounted.known stopped⟩
    | relinquish answer =>
      have closed := relinquish_closed accounted stopped meets
      refine ⟨closed ▸ Nat.zero_le 1, fun _ => ?_⟩
      rw [closed, (ftpmStep_relinquish stopped answer).2, if_neg Bool.false_ne_true]

/-- A call that leaves the session in use alone is sound. -/
theorem callSound_of_meets (accounted : state.Accounted)
    (meets : CallMeets asserts state call) : CallSound asserts state call := by
  have after := ftpmStep_accounted accounted meets
  refine ⟨after.single, ?_, ?_, ?_⟩
  · rintro running answer rfl
    exact relinquish_closed accounted running meets
  · intro session sent
    obtain ⟨running, initialized, rfl⟩ := sentOn_initialized sent
    rw [accounted.known running, if_pos initialized]
    exact List.mem_singleton_self _
  · intro running initialized
    rw [after.known running, if_pos initialized]
    exact List.mem_singleton_self _

/-- A sound call leaves the session in use alone. -/
theorem meets_of_callSound (accounted : state.Accounted)
    (sound : CallSound asserts state call) : CallMeets asserts state call := by
  intro running initialized
  have known := accounted.known running
  rw [initialized, if_pos rfl] at known
  cases call with
  | submit request turn => trivial
  | relinquish answer =>
    have closed := sound.closed running answer rfl
    rw [(ftpmStep_relinquish running answer).1, initialized, if_pos rfl, closedBy] at closed
    by_contra failed
    rw [if_neg failed, known] at closed
    cases closed
  | request answer =>
    cases returned : answer.returned with
    | false => exact Or.inl returned
    | true =>
      obtain ⟨single, -, -, inUse⟩ := sound
      rw [ftpmStep_request running] at single inUse
      have failed : answer.reply.message.ret ≠ TeecResult.success := by
        intro success
        have succeeded := (SmcAnswer.succeeded_iff answer).mpr ⟨returned, success⟩
        simp [openedBy, succeeded, known] at single
      have refused := request_refused (Or.inr failed)
      refine Or.inr ⟨failed, ?_⟩
      cases asserts with
      | true => exact Or.inl rfl
      | false =>
        have member := inUse (Bool.and_false _) (by simp [initialized])
        simp only [returned, if_true, openedBy, refused, Bool.false_eq_true, if_false, known,
          List.mem_singleton] at member
        exact Or.inr member

/-- A call is sound if and only if it leaves a session in use alone. -/
theorem callSound_iff (accounted : state.Accounted) (call : FtpmCall) :
    CallSound asserts state call ↔ CallMeets asserts state call :=
  ⟨meets_of_callSound accounted, callSound_of_meets accounted⟩

end

/-- A run keeps account of the session if and only if every call of it leaves a session in use
alone. -/
theorem ftpm_run_iff (asserts : Bool) (shared : SharedMem region) (calls : List FtpmCall) :
    AllSteps (ftpmStep asserts) (CallSound asserts) (.loaded shared) calls ↔
      AllSteps (ftpmStep asserts) (CallMeets asserts) (.loaded shared) calls :=
  AllSteps.congr_of_invariant (fun _ _ accounted meets => ftpmStep_accounted accounted meets)
    (fun _ call accounted => callSound_iff accounted call)
    ⟨Nat.zero_le 1, fun _ => rfl⟩

/-! ### A session that is lost -/

/-- The secure world opens a session. -/
def openedAs (session : UInt32) : FtpmCall :=
  .request ⟨true, ⟨smcReturnOk, { MsgArg.zero 6 with session := session }⟩⟩

def teecErrorBusy : TeecResult := 0xFFFF000D

/-- The secure world is asked for a session while it has one, and refuses. -/
def refusedBusy : FtpmCall :=
  .request ⟨true, ⟨smcReturnOk, { MsgArg.zero 6 with ret := teecErrorBusy }⟩⟩

/-- The secure world closes a session. -/
def closedOnce : FtpmCall := .relinquish ⟨true, ⟨smcReturnOk, MsgArg.zero 0⟩⟩

/-- A command of twelve bytes. -/
def submitted : FtpmCall :=
  .submit ⟨12, fun _ => 0, 10⟩ (ftpmTurn TeecResult.success 10)

/-- Two requests leave two sessions open, one of them for good; and after a request that is refused
a command is sent on a session that is not open. -/
theorem ftpm_run_loses_session :
    (run (ftpmStep false) (.loaded ftpmShared) [openedAs 1, openedAs 2]).opened = [2, 1] ∧
      (run (ftpmStep false) (.loaded ftpmShared) [openedAs 1, openedAs 2, closedOnce]).opened =
        [1] ∧
      (run (ftpmStep false) (.loaded ftpmShared) [openedAs 1, refusedBusy]).opened = [1] ∧
      sentOn false (run (ftpmStep false) (.loaded ftpmShared) [openedAs 1, refusedBusy])
        submitted = some 0 ∧
      ¬ AllSteps (ftpmStep false) (CallSound false) (.loaded ftpmShared) [openedAs 1, openedAs 2] :=
  by
  refine ⟨rfl, rfl, rfl, ?_, ?_⟩
  · exact sentOn_submit_iff.mpr ⟨rfl, ⟨rfl, ftpmShared_served (by decide)⟩, rfl, rfl⟩
  · rintro ⟨-, second, -⟩
    exact absurd second.single (by decide)

end MuRockchip.Optee
