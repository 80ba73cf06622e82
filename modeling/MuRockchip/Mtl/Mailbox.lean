/-
The mailbox of the system control interface (`RkMtlLib.c`).

Driver and firmware share one mailbox and the status of its channel. The driver marks the channel
busy and rings the doorbell; the firmware answers a message it has accepted and marks the channel
free. Each side believes what the other one has left there.

* `waitUntilChannelFree_eq`: what polling comes to.
* `callHolds_iff`: the calls that keep to the protocol.
* `mailbox_run_iff`: the runs in which all do.
* `wedged_run`: a channel that a refused message has left busy stays busy.
-/
import MuRockchip.Base.Run
import MuRockchip.Uefi.Status
import Mathlib.Data.UInt

namespace MuRockchip.Mtl

open Base

/-! ### The two parties -/

/-- `MTL_MAILBOX`, without what is not used of it. -/
structure MailBox where
  channelStatus : UInt32
  flags : UInt32
  length : UInt32
  messageHeader : UInt32
  deriving DecidableEq, Repr

def mtlChannelBusy : UInt32 := 0
def mtlChannelFree : UInt32 := 1
def mtlPoll : UInt32 := 0

/-- `RESPONSE_TIMEOUT` and `MTL_POLL_WAIT_TIME`, in microseconds. -/
def responseTimeout : Nat := 1000000
def mtlPollWaitTime : Nat := 100000

/-- The mailbox, and whether the firmware has accepted a message it has not answered. -/
structure Transport where
  mailBox : MailBox
  outstanding : Bool
  deriving DecidableEq, Repr

/-- A transport as the driver finds it first: nothing is under way. -/
def Transport.idle (flags length messageHeader : UInt32) : Transport where
  mailBox := ⟨mtlChannelFree, flags, length, messageHeader⟩
  outstanding := false

/-- An answer of the firmware. -/
structure Answer where
  length : UInt32
  messageHeader : UInt32
  deriving DecidableEq, Repr

def firmwareAnswers (transport : Transport) (answer : Answer) : Transport :=
  if transport.outstanding then
    { mailBox :=
        { transport.mailBox with
          channelStatus := mtlChannelFree
          length := answer.length
          messageHeader := answer.messageHeader }
      outstanding := false }
  else transport

def whileStalled (transport : Transport) (answer : Option Answer) : Transport :=
  match answer with
  | some answer => firmwareAnswers transport answer
  | none => transport

/-- `MtlSendMessage`, where `arg0` is what the doorbell call answers: the firmware has accepted
the message if that is zero. -/
def mtlSendMessage (messageHeader payloadLength : UInt32) (arg0 : UInt64)
    (transport : Transport) : EfiStatus × Transport :=
  if transport.mailBox.channelStatus ≠ mtlChannelFree then (EfiStatus.deviceError, transport)
  else
    let mailBox : MailBox :=
      { channelStatus := mtlChannelBusy
        flags := mtlPoll
        messageHeader
        length := payloadLength + 4 }
    if arg0 ≠ 0 then (EfiStatus.deviceError, { transport with mailBox })
    else (EfiStatus.success, { mailBox, outstanding := true })

/-- `MtlWaitUntilChannelFree`: the firmware may answer in each stall, counted from `stall` on. -/
def mtlWaitUntilChannelFree (answers : Nat → Option Answer) (timeout stall : Nat)
    (transport : Transport) : EfiStatus × Transport :=
  if timeout ≠ 0 then
    if transport.mailBox.channelStatus = mtlChannelFree then (EfiStatus.success, transport)
    else
      let stalled := whileStalled transport (answers stall)
      if timeout < mtlPollWaitTime then
        if stalled.mailBox.channelStatus ≠ mtlChannelFree then (EfiStatus.timeout, stalled)
        else (EfiStatus.success, stalled)
      else mtlWaitUntilChannelFree answers (timeout - mtlPollWaitTime) (stall + 1) stalled
  else if transport.mailBox.channelStatus ≠ mtlChannelFree then (EfiStatus.timeout, transport)
  else (EfiStatus.success, transport)
termination_by timeout
decreasing_by
  unfold mtlPollWaitTime
  omega

/-- A message the driver has received. -/
structure Received where
  messageHeader : UInt32
  payloadLength : UInt32
  deriving DecidableEq, Repr

def mtlReceiveMessage (answers : Nat → Option Answer) (transport : Transport) :
    EfiStatus × Option Received × Transport :=
  let waited := mtlWaitUntilChannelFree answers responseTimeout 0 transport
  if waited.1.isError then (waited.1, none, waited.2)
  else
    (EfiStatus.success,
      some ⟨waited.2.mailBox.messageHeader, waited.2.mailBox.length - 4⟩, waited.2)

/-- Something that happens: a call of the driver, or an answer between two calls. -/
inductive MtlEvent where
  | send (messageHeader payloadLength : UInt32) (arg0 : UInt64)
  | receive (answers : Nat → Option Answer)
  | answer (answer : Answer)

def mtlStep (transport : Transport) (event : MtlEvent) : Transport :=
  match event with
  | .send messageHeader payloadLength arg0 =>
      (mtlSendMessage messageHeader payloadLength arg0 transport).2
  | .receive answers => (mtlReceiveMessage answers transport).2.2
  | .answer answer => firmwareAnswers transport answer

/-! ### What the calls should do -/

/-- The place of the payload in the mailbox. -/
def payloadOffset : Nat := 28

/-- A failed send leaves the status of the channel, and a send is refused only for a message that
is not answered. What is received is as long as the firmware says, and in the mailbox. -/
def CallHolds (mailBoxSize : Nat) (transport : Transport) (event : MtlEvent) : Prop :=
  match event with
  | .send messageHeader payloadLength arg0 =>
      let sent := mtlSendMessage messageHeader payloadLength arg0 transport
      sent.1.isError = true →
        sent.2.mailBox.channelStatus = transport.mailBox.channelStatus ∧
          (transport.mailBox.channelStatus ≠ mtlChannelFree → transport.outstanding = true)
  | .receive answers =>
      let received := mtlReceiveMessage answers transport
      ∀ message, received.2.1 = some message →
        (message.payloadLength.toNat : Int) = received.2.2.mailBox.length.toNat - 4 ∧
          payloadOffset + message.payloadLength.toNat ≤ mailBoxSize
  | .answer _ => True

def firstAnswer (answers : Nat → Option Answer) : Option Answer :=
  (List.range (responseTimeout / mtlPollWaitTime)).findSome? answers

/-- The length that is found in the mailbox: the one that is there, or that of the answer the
driver waits for. -/
def FindsLength (transport : Transport) (answers : Nat → Option Answer) (length : UInt32) :
    Prop :=
  if transport.mailBox.channelStatus = mtlChannelFree then length = transport.mailBox.length
  else transport.outstanding = true ∧
    ∃ answer, firstAnswer answers = some answer ∧ answer.length = length

/-- The doorbell is answered where it is rung, and the length that is found has room for the
header and is in the mailbox. -/
def CallMeets (mailBoxSize : Nat) (transport : Transport) (event : MtlEvent) : Prop :=
  match event with
  | .send _ _ arg0 => transport.mailBox.channelStatus = mtlChannelFree → arg0 = 0
  | .receive answers => ∀ length, FindsLength transport answers length →
      4 ≤ length.toNat ∧ payloadOffset + (length.toNat - 4) ≤ mailBoxSize
  | .answer _ => True

/-! ### Polling -/

section

variable {transport : Transport} (answers : Nat → Option Answer)

theorem firmwareAnswers_free (outstanding : transport.outstanding = true) (answer : Answer) :
    (firmwareAnswers transport answer).mailBox.channelStatus = mtlChannelFree ∧
      (firmwareAnswers transport answer).mailBox.length = answer.length ∧
      (firmwareAnswers transport answer).outstanding = false := by
  rw [firmwareAnswers, if_pos outstanding]
  exact ⟨rfl, rfl, rfl⟩

/-- The firmware has nothing to say where it has accepted nothing. -/
theorem whileStalled_idle (idle : transport.outstanding = false) (answer : Option Answer) :
    whileStalled transport answer = transport := by
  cases answer with
  | none => rfl
  | some answer => rw [whileStalled, firmwareAnswers, if_neg (by rw [idle]; decide)]

theorem wait_free (free : transport.mailBox.channelStatus = mtlChannelFree)
    (timeout stall : Nat) :
    mtlWaitUntilChannelFree answers timeout stall transport = (EfiStatus.success, transport) := by
  rw [mtlWaitUntilChannelFree, if_pos free, if_neg (not_not.mpr free)]
  split <;> rfl

theorem wait_busy (busy : transport.mailBox.channelStatus ≠ mtlChannelFree) (rounds stall : Nat) :
    mtlWaitUntilChannelFree answers ((rounds + 1) * mtlPollWaitTime) stall transport =
      mtlWaitUntilChannelFree answers (rounds * mtlPollWaitTime) (stall + 1)
        (whileStalled transport (answers stall)) := by
  have more : (rounds + 1) * mtlPollWaitTime = rounds * mtlPollWaitTime + mtlPollWaitTime :=
    Nat.succ_mul rounds mtlPollWaitTime
  have positive : 0 < mtlPollWaitTime := by decide
  rw [mtlWaitUntilChannelFree, if_pos (by omega), if_neg busy]
  dsimp only
  rw [if_neg (by omega), more, Nat.add_sub_cancel]

theorem wait_over (busy : transport.mailBox.channelStatus ≠ mtlChannelFree) (stall : Nat) :
    mtlWaitUntilChannelFree answers (0 * mtlPollWaitTime) stall transport =
      (EfiStatus.timeout, transport) := by
  rw [Nat.zero_mul, mtlWaitUntilChannelFree, if_neg (not_not.mpr rfl), if_pos busy]

/-- Nobody answers a message that was not accepted. -/
theorem wait_idle (busy : transport.mailBox.channelStatus ≠ mtlChannelFree)
    (idle : transport.outstanding = false) (rounds stall : Nat) :
    mtlWaitUntilChannelFree answers (rounds * mtlPollWaitTime) stall transport =
      (EfiStatus.timeout, transport) := by
  induction rounds generalizing stall with
  | zero => exact wait_over answers busy stall
  | succ rounds ih => rw [wait_busy answers busy, whileStalled_idle idle, ih]

theorem wait_outstanding (busy : transport.mailBox.channelStatus ≠ mtlChannelFree)
    (outstanding : transport.outstanding = true) (rounds stall : Nat) :
    mtlWaitUntilChannelFree answers (rounds * mtlPollWaitTime) stall transport =
      match (List.range' stall rounds).findSome? answers with
      | some answer => (EfiStatus.success, firmwareAnswers transport answer)
      | none => (EfiStatus.timeout, transport) := by
  induction rounds generalizing stall with
  | zero => exact wait_over answers busy stall
  | succ rounds ih =>
      rw [wait_busy answers busy, List.range'_succ, List.findSome?_cons]
      cases answers stall with
      | none => exact ih (stall + 1)
      | some answer => exact wait_free answers (firmwareAnswers_free outstanding answer).1 _ _

variable (transport) in
/-- What polling for the time of a response comes to. -/
theorem wait_response : mtlWaitUntilChannelFree answers responseTimeout 0 transport =
    if transport.mailBox.channelStatus = mtlChannelFree then (EfiStatus.success, transport)
    else if transport.outstanding then
      match firstAnswer answers with
      | some answer => (EfiStatus.success, firmwareAnswers transport answer)
      | none => (EfiStatus.timeout, transport)
    else (EfiStatus.timeout, transport) := by
  have rounds : responseTimeout = responseTimeout / mtlPollWaitTime * mtlPollWaitTime := rfl
  by_cases free : transport.mailBox.channelStatus = mtlChannelFree
  · rw [if_pos free, wait_free answers free]
  · rw [if_neg free, rounds]
    cases accepted : transport.outstanding with
    | true =>
        rw [wait_outstanding answers free accepted, if_pos rfl, firstAnswer, List.range_eq_range']
    | false => rw [wait_idle answers free accepted, if_neg Bool.false_ne_true]

end

/-! ### The calls -/

section

variable {transport : Transport} {mailBoxSize : Nat}

/-- A busy channel has a message that is not answered. -/
def Transport.Sound (transport : Transport) : Prop :=
  transport.mailBox.channelStatus ≠ mtlChannelFree → transport.outstanding = true

/-- A length is handed on as it is exactly if it has room for the header and is in the mailbox. -/
theorem payloadLength_iff (length : UInt32) :
    (((length - 4).toNat : Int) = length.toNat - 4 ∧
        payloadOffset + (length - 4).toNat ≤ mailBoxSize) ↔
      4 ≤ length.toNat ∧ payloadOffset + (length.toNat - 4) ≤ mailBoxSize := by
  have four : (4 : UInt32).toNat = 4 := rfl
  have small := length.toNat_lt
  have difference : (length - 4).toNat = (2 ^ 32 - 4 + length.toNat) % 2 ^ 32 := by
    rw [UInt32.toNat_sub, four]
  constructor <;> omega

theorem send_holds_iff (sound : transport.Sound) (messageHeader payloadLength : UInt32)
    (arg0 : UInt64) :
    CallHolds mailBoxSize transport (.send messageHeader payloadLength arg0) ↔
      CallMeets mailBoxSize transport (.send messageHeader payloadLength arg0) := by
  rw [CallHolds, CallMeets, mtlSendMessage]
  by_cases free : transport.mailBox.channelStatus = mtlChannelFree
  · rw [if_neg (not_not.mpr free)]
    dsimp only
    by_cases accepted : arg0 = 0
    · rw [if_neg (not_not.mpr accepted)]
      exact iff_of_true (fun error => by cases error) fun _ => accepted
    · rw [if_pos accepted]
      refine iff_of_false ?_ fun meets => accepted (meets free)
      intro holds
      have kept := (holds rfl).1
      rw [free] at kept
      exact absurd (show mtlChannelBusy = mtlChannelFree from kept) (by decide)
  · rw [if_pos free]
    exact iff_of_true (fun _ => ⟨rfl, sound⟩) fun same => absurd same free

variable {answers : Nat → Option Answer}

theorem FindsLength.unique {first second : UInt32} (left : FindsLength transport answers first)
    (right : FindsLength transport answers second) :
    first = second := by
  unfold FindsLength at left right
  split at left
  · next free =>
    rw [if_pos free] at right
    exact left.trans right.symm
  · next busy =>
    rw [if_neg busy] at right
    obtain ⟨-, answer, answered, rfl⟩ := left
    obtain ⟨-, other, same, rfl⟩ := right
    rw [Option.some_inj.mp (answered.symm.trans same)]

theorem receive_of_success {after : Transport}
    (waited : mtlWaitUntilChannelFree answers responseTimeout 0 transport =
      (EfiStatus.success, after)) :
    mtlReceiveMessage answers transport = (EfiStatus.success,
      some ⟨after.mailBox.messageHeader, after.mailBox.length - 4⟩, after) := by
  rw [mtlReceiveMessage, waited]
  rfl

theorem receive_of_timeout {after : Transport}
    (waited : mtlWaitUntilChannelFree answers responseTimeout 0 transport =
      (EfiStatus.timeout, after)) :
    mtlReceiveMessage answers transport = (EfiStatus.timeout, none, after) := by
  rw [mtlReceiveMessage, waited]
  rfl

variable (transport) in
theorem receive_cases (answers : Nat → Option Answer) :
    (∃ length messageHeader, FindsLength transport answers length ∧
        (mtlReceiveMessage answers transport).2.1 = some ⟨messageHeader, length - 4⟩ ∧
        (mtlReceiveMessage answers transport).2.2.mailBox.length = length) ∨
      ((mtlReceiveMessage answers transport).2.1 = none ∧
        ∀ length, ¬ FindsLength transport answers length) := by
  have waited := wait_response transport answers
  unfold FindsLength
  by_cases free : transport.mailBox.channelStatus = mtlChannelFree
  · rw [if_pos free] at waited
    rw [receive_of_success waited]
    simp only [if_pos free]
    exact .inl ⟨_, _, rfl, rfl, rfl⟩
  · rw [if_neg free] at waited
    simp only [if_neg free]
    cases accepted : transport.outstanding with
    | false =>
        rw [accepted, if_neg Bool.false_ne_true] at waited
        rw [receive_of_timeout waited]
        refine .inr ⟨rfl, ?_⟩
        rintro length ⟨impossible, -⟩
        cases impossible
    | true =>
        rw [accepted, if_pos rfl] at waited
        cases answered : firstAnswer answers with
        | none =>
            rw [answered] at waited
            rw [receive_of_timeout waited]
            refine .inr ⟨rfl, ?_⟩
            rintro length ⟨-, answer, impossible, -⟩
            cases impossible
        | some answer =>
            rw [answered] at waited
            have length := (firmwareAnswers_free accepted answer).2.1
            rw [receive_of_success waited]
            exact .inl ⟨answer.length, _, ⟨rfl, answer, rfl, rfl⟩, by rw [← length], length⟩

theorem receive_holds_iff (answers : Nat → Option Answer) :
    CallHolds mailBoxSize transport (.receive answers) ↔
      CallMeets mailBoxSize transport (.receive answers) := by
  show (∀ message, (mtlReceiveMessage answers transport).2.1 = some message → _ ∧ _) ↔
    ∀ length, FindsLength transport answers length → _ ∧ _
  rcases receive_cases transport answers with
    ⟨length, messageHeader, found, received, isLength⟩ | ⟨silent, none⟩
  · have only : (∀ other, FindsLength transport answers other →
        4 ≤ other.toNat ∧ payloadOffset + (other.toNat - 4) ≤ mailBoxSize) ↔
          4 ≤ length.toNat ∧ payloadOffset + (length.toNat - 4) ≤ mailBoxSize :=
      ⟨fun all => all length found, fun meets other same => found.unique same ▸ meets⟩
    rw [only, ← payloadLength_iff, isLength, received]
    simp only [Option.some.injEq, forall_eq']
  · refine iff_of_true ?_ fun length found => absurd found (none length)
    intro message received
    rw [silent] at received
    cases received

theorem callHolds_iff (sound : transport.Sound) (event : MtlEvent) :
    CallHolds mailBoxSize transport event ↔ CallMeets mailBoxSize transport event := by
  cases event with
  | send messageHeader payloadLength arg0 =>
      exact send_holds_iff sound messageHeader payloadLength arg0
  | receive answers => exact receive_holds_iff answers
  | answer answer => exact Iff.rfl

/-! ### Runs -/

theorem firmwareAnswers_sound (sound : transport.Sound) (answer : Answer) :
    (firmwareAnswers transport answer).Sound := by
  cases accepted : transport.outstanding with
  | true =>
      intro busy
      exact absurd (firmwareAnswers_free accepted answer).1 busy
  | false =>
      rw [firmwareAnswers, if_neg (by rw [accepted]; decide)]
      exact sound

theorem receive_sound (sound : transport.Sound) (answers : Nat → Option Answer) :
    (mtlReceiveMessage answers transport).2.2.Sound := by
  have after : (mtlReceiveMessage answers transport).2.2 =
      (mtlWaitUntilChannelFree answers responseTimeout 0 transport).2 := by
    rw [mtlReceiveMessage]
    split <;> rfl
  rw [after, wait_response transport answers]
  split
  · exact sound
  · split
    · split
      · exact firmwareAnswers_sound sound _
      · exact sound
    · exact sound

/-- A call that meets the condition leaves no channel busy without a message to answer. -/
theorem mtlStep_sound (event : MtlEvent) (sound : transport.Sound)
    (meets : CallMeets mailBoxSize transport event) : (mtlStep transport event).Sound := by
  cases event with
  | send messageHeader payloadLength arg0 =>
      rw [mtlStep, mtlSendMessage]
      by_cases free : transport.mailBox.channelStatus = mtlChannelFree
      · rw [if_neg (not_not.mpr free)]
        dsimp only
        rw [if_neg (not_not.mpr (meets free))]
        exact fun _ => rfl
      · rw [if_pos free]
        exact sound
  | receive answers => exact receive_sound sound answers
  | answer answer => exact firmwareAnswers_sound sound answer

/-- All calls of a run keep to the protocol exactly if the doorbell is answered whenever it is
rung, and each length that is found has room for the header and is in the mailbox. -/
theorem mailbox_run_iff (mailBoxSize : Nat) (flags length messageHeader : UInt32)
    (events : List MtlEvent) :
    AllSteps mtlStep (CallHolds mailBoxSize) (.idle flags length messageHeader) events ↔
      AllSteps mtlStep (CallMeets mailBoxSize) (.idle flags length messageHeader) events := by
  have initial : (Transport.idle flags length messageHeader).Sound := fun busy => absurd rfl busy
  exact AllSteps.congr_of_invariant
    (fun _ event sound meets => mtlStep_sound event sound meets)
    (fun _ event sound => callHolds_iff sound event) initial

/-- A refused message leaves the channel busy for good. -/
def Transport.Wedged (transport : Transport) : Prop :=
  transport.mailBox.channelStatus ≠ mtlChannelFree ∧ transport.outstanding = false

theorem wedged_step (wedged : transport.Wedged) (event : MtlEvent) :
    mtlStep transport event = transport := by
  obtain ⟨busy, idle⟩ := wedged
  have quiet (answer : Answer) : firmwareAnswers transport answer = transport := by
    rw [firmwareAnswers, if_neg (by rw [idle]; decide)]
  cases event with
  | send messageHeader payloadLength arg0 => rw [mtlStep, mtlSendMessage, if_pos busy]
  | receive answers =>
      have rounds : responseTimeout = responseTimeout / mtlPollWaitTime * mtlPollWaitTime := rfl
      have waited := wait_idle answers busy idle (responseTimeout / mtlPollWaitTime) 0
      rw [← rounds] at waited
      rw [mtlStep, mtlReceiveMessage, waited]
      rfl
  | answer answer => exact quiet answer

/-- No message is sent or received any more. -/
theorem wedged_run (wedged : transport.Wedged) (events : List MtlEvent) :
    run mtlStep transport events = transport := by
  induction events with
  | nil => rfl
  | cons event rest ih => rw [run_cons, wedged_step wedged, ih]

end

/-- The firmware does not know the doorbell. -/
theorem mailbox_wedges :
    let refused := MtlEvent.send 0x4001 0 0xFFFFFFFFFFFFFFFF
    ¬ AllSteps mtlStep (CallHolds 256) (.idle 0 0 0) [refused] ∧
      ∀ later, run mtlStep (.idle 0 0 0) (refused :: later) = mtlStep (.idle 0 0 0) refused := by
  refine ⟨fun holds => ?_, fun later => ?_⟩
  · have kept := (holds.1 rfl).1
    exact absurd kept (by decide)
  · rw [run_cons]
    exact wedged_run ⟨by decide, rfl⟩ later

end MuRockchip.Mtl
