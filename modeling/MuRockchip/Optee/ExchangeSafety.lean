/-
Safety of the calls to the secure world.

A call to the secure world is a run of the allocator of `SharedMem`: its message is
allocated and filled, requests are served, and the message is freed. What holds of the runs
of the allocator holds throughout the call.

* `exchangeMessage_run`: the calls of the allocator that a call to the secure world makes.
* `exchange_safe`: the message reaches the secure world and is read back from its own
  block, the block is released, and the blocks of others are left alone.
-/
import MuRockchip.Optee.Exchange
import MuRockchip.Optee.SharedMemFrame

namespace MuRockchip.Optee

open MuRockchip.Base

variable {region : SharedRegion} {slots : Nat}

/-! ### Calls of the allocator -/

def MemStore.call (store : MemStore) : Call := .store store.address store.bytes

instance (msgArg : MsgArg (slots + 1)) : Decidable msgArg.IsShmRequest :=
  inferInstanceAs (Decidable (_ ∧ _))

section

variable (services : RpcServices) (shared : SharedMem region)

/-- The calls of the allocator that the handler of a command makes. -/
def handlerCalls (address : UInt64) : List Call :=
  let msgArg := MsgArg.load 1 shared.memory address
  if msgArg.cmd = rpcCmdLoadTa then
    (opteeRpcCmdLoadTa shared.memory address services.sectionFromAnyFv).2.map MemStore.call
  else if msgArg.cmd = rpcCmdRpmb then
    (services.rpmb shared.memory address).2.map MemStore.call
  else if msgArg.cmd = rpcCmdGetTime then
    let reply := (opteeRpcCmdGetTime msgArg services.ticks services.freq).2
    (paramStores address msgArg reply).map MemStore.call
  else if msgArg.cmd = rpcCmdShmAlloc then
    if msgArg.IsShmRequest then
      let reply := (opteeRpcCmdShmAlloc shared msgArg services.allocAnswer).2.1
      .alignedAlloc msgArg.param.word1 msgArg.param.word2 services.allocAnswer ::
        (paramStores address msgArg reply).map MemStore.call
    else []
  else if msgArg.cmd = rpcCmdShmFree then
    if msgArg.IsShmRequest then [.free msgArg.param.word1 services.freeAnswer] else []
  else []

/-- Those a command makes. -/
def commandCalls (address : UInt64) : List Call :=
  handlerCalls services shared address ++
    [.store (retAddress address) (leBytes 4 (rpcCmdHandler services shared address).1.toNat)]

/-- Those a request makes. -/
def requestCalls (args : ArmSmcArgs) : List Call :=
  if args.rpcFunc = smcRpcFuncAlloc then [.rpcAlloc args services.allocAnswer]
  else if args.rpcFunc = smcRpcFuncFree then [.rpcFree args services.freeAnswer]
  else if args.rpcFunc = smcRpcFuncForeignIntr then []
  else if args.rpcFunc = smcRpcFuncCmd then
    commandCalls services shared (registerPair args.arg1 args.arg2)
  else []

end

/-- Those made up to the return that ends a call. -/
def loopCalls (shared : SharedMem region) : List SecureTurn → List Call
  | [] => []
  | turn :: turns =>
    let stored := shared.storing turn.stores
    turn.stores.map MemStore.call ++
      if smcReturnIsRpc turn.returned.arg0 then
        requestCalls turn.services stored turn.returned ++ loopCalls (turn.serve stored).2 turns
      else []

/-- The address of the message, zero where it is not allocated. -/
def messageAddress (slots : Nat) (shared : SharedMem region) (call : SecureCall) : UInt64 :=
  (opteeClientMemAlloc shared (opteeMsgGetArgSize slots) call.allocAnswer).1.pointer

/-- Shared memory when the secure world is called. -/
def sharedSent (shared : SharedMem region) (message : MsgArg slots) (call : SecureCall) :
    SharedMem region :=
  (opteeClientMemAlloc shared (opteeMsgGetArgSize slots) call.allocAnswer).2.storing
    [⟨messageAddress slots shared call, message.bytes⟩]

/-- The calls of the allocator made while the secure world has the message. -/
def servedCalls (shared : SharedMem region) (message : MsgArg slots) (call : SecureCall) :
    List Call :=
  loopCalls (sharedSent shared message call) call.turns

/-- Those a call to the secure world makes. -/
def exchangeCalls (shared : SharedMem region) (message : MsgArg slots) (call : SecureCall) :
    List Call :=
  .alloc (opteeMsgGetArgSize slots) call.allocAnswer ::
    if messageAddress slots shared call = 0 then []
    else
      .store (messageAddress slots shared call) message.bytes ::
        (servedCalls shared message call ++
          [.free (messageAddress slots shared call) call.freeAnswer])

section

variable (state : ClientState region)

theorem run_stores (stores : List MemStore) :
    run step state (stores.map MemStore.call) = ⟨state.shared.storing stores, state.live⟩ := by
  induction stores generalizing state with
  | nil => rfl
  | cons store stores ih => rw [List.map_cons, run_cons, ih]; rfl

variable {state} in
theorem shmAlloc_shared {msgArg : MsgArg (slots + 1)} (request : msgArg.IsShmRequest)
    {answer : Option Nat} :
    (step state (.alignedAlloc msgArg.param.word1 msgArg.param.word2 answer)).shared =
      (opteeRpcCmdShmAlloc state.shared msgArg answer).2.2 := by
  rw [opteeRpcCmdShmAlloc_request state.shared request]
  split <;> rfl

variable {state} in
theorem shmFree_shared {msgArg : MsgArg (slots + 1)} (request : msgArg.IsShmRequest)
    {answer : EfiStatus} :
    (step state (.free msgArg.param.word1 answer)).shared =
      (opteeRpcCmdShmFree state.shared msgArg answer).2 := by
  rw [opteeRpcCmdShmFree_request state.shared request]
  split <;> rfl

theorem handlerCalls_run (services : RpcServices) (address : UInt64) :
    (run step state (handlerCalls services state.shared address)).shared =
      (rpcCmdHandler services state.shared address).2 := by
  unfold handlerCalls rpcCmdHandler
  dsimp only
  split
  · rw [run_stores]
  · split
    · rw [run_stores]
    · split
      · rw [run_stores]
      · split
        · split
          · next request =>
            rw [run_cons, run_stores, ← shmAlloc_shared request]
          · next rejected =>
            rw [opteeRpcCmdShmAlloc_rejected rejected, paramStores, if_pos rfl]
            rfl
        · split
          · split
            · next request =>
              rw [← shmFree_shared request]
              rfl
            · next rejected =>
              rw [opteeRpcCmdShmFree_rejected rejected]
              rfl
          · split <;> rfl

theorem commandCalls_run (services : RpcServices) (address : UInt64) :
    (run step state (commandCalls services state.shared address)).shared =
      (opteeRpcCmd services address state.shared).2 := by
  rw [commandCalls, run_append, opteeRpcCmd]
  have handled := handlerCalls_run state services address
  rw [run_cons, run_nil]
  simp only [step, handled]
  rfl

theorem requestCalls_run (services : RpcServices) (args : ArmSmcArgs) :
    (run step state (requestCalls services state.shared args)).shared =
      (opteeRpcCallback state.shared args services.allocAnswer services.freeAnswer
        (opteeRpcCmd services)).2.2 := by
  unfold requestCalls opteeRpcCallback
  split
  · rfl
  · split
    · rfl
    · split
      · rfl
      · split
        · exact commandCalls_run state services _
        · rfl

theorem loopCalls_run {args : ArmSmcArgs} {turns : List SecureTurn} {outcome : SmcOutcome region}
    (ended : smcLoop state.shared args turns = some outcome) :
    (run step state (loopCalls state.shared turns)).shared = outcome.shared := by
  induction turns generalizing state args outcome with
  | nil => cases ended
  | cons turn turns ih =>
    simp only [smcLoop] at ended
    simp only [loopCalls]
    rw [run_append, run_stores]
    split at ended
    · next request =>
      obtain ⟨later, laterEnded, rfl⟩ := Option.map_eq_some_iff.mp ended
      rw [if_pos request, run_append]
      have served : (run step ⟨state.shared.storing turn.stores, state.live⟩
          (requestCalls turn.services (state.shared.storing turn.stores) turn.returned)).shared =
            (turn.serve (state.shared.storing turn.stores)).2 := by
        rw [requestCalls_run ⟨state.shared.storing turn.stores, state.live⟩, SecureTurn.serve]
      rw [← served] at laterEnded ⊢
      have rest := ih _ laterEnded
      exact rest
    · next result =>
      cases ended
      rw [if_neg result]
      rfl

theorem exchangeMessage_replied {shared : SharedMem region} {message : MsgArg slots}
    {call : SecureCall} {reply : SmcReturn slots} {calls : List ArmSmcArgs}
    {after : SharedMem region}
    (done : exchangeMessage shared message call = some (some reply, calls, after)) :
    messageAddress slots shared call ≠ 0 ∧ ∃ outcome,
      smcLoop (sharedSent shared message call) (callWithArg (messageAddress slots shared call))
        call.turns = some outcome ∧
      reply = ⟨outcome.arg0,
        MsgArg.load slots outcome.shared.memory (messageAddress slots shared call)⟩ ∧
      calls = outcome.calls ∧
      after = (opteeClientMemFree outcome.shared (messageAddress slots shared call)
        call.freeAnswer).2 := by
  simp only [exchangeMessage] at done
  split at done
  · cases done
  · next allocated =>
    obtain ⟨outcome, ended, result⟩ := Option.map_eq_some_iff.mp done
    cases result
    exact ⟨allocated, outcome, ended, rfl, rfl, rfl⟩

end

/-! ### The call as a run -/

variable {state : ClientState region} {message : MsgArg slots} {call : SecureCall}

/-- The component when the secure world is called. -/
def ClientState.sent (state : ClientState region) (message : MsgArg slots) (call : SecureCall) :
    ClientState region :=
  run step state [.alloc (opteeMsgGetArgSize slots) call.allocAnswer,
    .store (messageAddress slots state.shared call) message.bytes]

/-- The component when the secure world has returned with a result. -/
def ClientState.served (state : ClientState region) (message : MsgArg slots) (call : SecureCall) :
    ClientState region :=
  run step (state.sent message call) (servedCalls state.shared message call)

/-- The component when the message is freed. -/
def ClientState.done (state : ClientState region) (message : MsgArg slots) (call : SecureCall) :
    ClientState region :=
  step (state.served message call)
    (.free (messageAddress slots state.shared call) call.freeAnswer)

theorem exchangeCalls_replied (allocated : messageAddress slots state.shared call ≠ 0) :
    exchangeCalls state.shared message call =
      [.alloc (opteeMsgGetArgSize slots) call.allocAnswer,
        .store (messageAddress slots state.shared call) message.bytes] ++
      (servedCalls state.shared message call ++
        [.free (messageAddress slots state.shared call) call.freeAnswer]) := by
  rw [exchangeCalls, if_neg allocated]
  rfl

theorem run_exchangeCalls (allocated : messageAddress slots state.shared call ≠ 0) :
    run step state (exchangeCalls state.shared message call) = state.done message call := by
  rw [exchangeCalls_replied allocated, run_append, run_append]
  rfl

theorem exchangeMessage_run {reply : SmcReturn slots} {calls : List ArmSmcArgs}
    {after : SharedMem region}
    (done : exchangeMessage state.shared message call = some (some reply, calls, after)) :
    (state.done message call).shared = after ∧
      reply.message = MsgArg.load slots (state.served message call).shared.memory
        (messageAddress slots state.shared call) := by
  obtain ⟨allocated, outcome, ended, rfl, -, rfl⟩ := exchangeMessage_replied done
  have served : (state.served message call).shared = outcome.shared :=
    loopCalls_run (state.sent message call) ended
  rw [ClientState.done, served]
  simp only [step, served, and_self]

/-! ### The block of the message -/

variable (state) in
theorem alloc_grant {size : UInt64} {answer : Option Nat} (fits : FitsWord size)
    (returned : (opteeClientMemAlloc state.shared size answer).1.pointer ≠ 0) :
    ∃ grant : Grant, grant.pointer = (opteeClientMemAlloc state.shared size answer).1.pointer ∧
      grant.size = size ∧ (step state (.alloc size answer)).live = grant :: state.live ∧
      grant.LiveIn (step state (.alloc size answer)).shared := by
  rcases internalMemAlloc_cases state.shared size memByteAlignment answer with
    refused | ⟨block, pool, -, -, kept⟩ | ⟨served, block, pool, obtained, result⟩
  · simp [opteeClientMemAlloc, refused] at returned
  · simp [opteeClientMemAlloc, kept] at returned
  · obtain ⟨grant, -, pointer, out⟩ := internalMemAlloc_handsOut served fits
    have grown := (Pool.allocate_spec obtained).2.2
    have held := out.allocates.held
    rw [result] at held pointer
    dsimp only at held pointer
    rw [grown] at held
    have sameBlock : block = grant.block := (List.cons.inj held).1
    refine ⟨grantFrom size memByteAlignment block, ?_, rfl, ?_, ?_, ?_⟩
    · rw [opteeClientMemAlloc, result]
      rfl
    · rw [opteeClientMemAlloc, result] at returned
      simp only [step, opteeClientMemAlloc, result, recordGrant, grantFrom]
      exact if_pos returned
    · rw [grantFrom, sameBlock]
      exact out.allocates.live.held
    · have headed := out.allocates.live.headed
      rw [← pointer] at headed
      simp only [grantFrom, Grant.headerOf, sameBlock] at headed ⊢
      exact headed

theorem opteeMsgGetArgSize_toNat (few : slots ≤ 6) :
    (opteeMsgGetArgSize slots).toNat = 32 + msgParamSize * slots := by
  rw [opteeMsgGetArgSize, UInt64.toNat_ofNat', msgParamSize]
  omega

theorem fitsWord_message (few : slots ≤ 6) : FitsWord (opteeMsgGetArgSize slots) := by
  rw [FitsWord, opteeMsgGetArgSize_toNat few]
  simp only [memHeaderSize, shmAllocAlign, msgParamSize, UInt64.reduceToNat]
  omega

/-- The conduct of a call: every call of the allocator keeps its contract, the secure world
leaves the release of the message to the client, and the services take it back. -/
structure Conduct (state : ClientState region) (message : MsgArg slots) (call : SecureCall) :
    Prop where
  few : slots ≤ 6
  admitted : AllSteps step Admitted state (exchangeCalls state.shared message call)
  unfreed : ∀ made ∈ servedCalls state.shared message call,
    made.freed ≠ some (messageAddress slots state.shared call)
  accepted : call.freeAnswer.isError = false

/-- What a call promises about its message, in the block it was given. -/
structure MessageKept (state : ClientState region) (message : MsgArg slots) (call : SecureCall)
    (reply : SmcReturn slots) (grant : Grant) : Prop where
  address : grant.pointer = messageAddress slots state.shared call
  room : grant.size = opteeMsgGetArgSize slots
  sent : MsgArg.load slots (state.sent message call).shared.memory grant.pointer = message
  echo : (∀ made ∈ servedCalls state.shared message call, made.Spares grant) →
    reply.message = message
  released : ReleasesOnly (state.served message call).shared (state.done message call).shared grant
  gone : ∀ other ∈ (state.done message call).live, other.pointer ≠ grant.pointer

def OthersKept (state : ClientState region) (message : MsgArg slots) (call : SecureCall) : Prop :=
  ∀ grant ∈ state.live, (∀ made ∈ servedCalls state.shared message call, made.Spares grant) →
    grant ∈ (state.done message call).live ∧
      BlockKept state.shared.memory (state.done message call).shared.memory grant

theorem Invariant.pointer_ne (inv : Invariant state) {left right : Grant}
    (inLeft : left ∈ state.live) (inRight : right ∈ state.live) (different : left ≠ right) :
    left.pointer ≠ right.pointer := by
  intro same
  have apart := inv.block_apart inLeft inRight different
  have leftAt := (inv.carved left inLeft).pointerAt
  have rightAt := (inv.carved right inRight).pointerAt
  have length := (inv.carved left inLeft).blockLength
  have rightLength := (inv.carved right inRight).blockLength
  have base := congrArg UInt64.toNat same
  simp only [Interval.Disjoint, Interval.finish] at apart
  omega

/-- The message is in its block, whose header is in place, when the secure world is
called. -/
structure MessageSent (state : ClientState region) (message : MsgArg slots)
    (call : SecureCall) (grant : Grant) : Prop where
  few : slots ≤ 6
  inv : Invariant (state.sent message call)
  pointer : grant.pointer = messageAddress slots state.shared call
  size : grant.size = opteeMsgGetArgSize slots
  live : (state.sent message call).live = grant :: state.live
  liveIn : grant.LiveIn (state.sent message call).shared
  bytes : (state.sent message call).shared.memory.read grant.pointer
    (32 + msgParamSize * slots) = message.bytes

theorem sent_message (inv : Invariant state) (few : slots ≤ 6)
    (allocated : messageAddress slots state.shared call ≠ 0)
    (admitted : AllSteps step Admitted state
      [.alloc (opteeMsgGetArgSize slots) call.allocAnswer,
        .store (messageAddress slots state.shared call) message.bytes]) :
    ∃ grant : Grant, MessageSent state message call grant := by
  obtain ⟨grant, pointer, size, live, liveIn⟩ :=
    alloc_grant state (fitsWord_message few) allocated
  have invSent : Invariant (state.sent message call) := run_invariant step_keeps inv admitted
  obtain ⟨first, second, -⟩ := admitted
  have invNext := step_keeps state _ inv first
  have member : grant ∈ (step state (.alloc (opteeMsgGetArgSize slots) call.allocAnswer)).live := by
    rw [live]
    exact List.mem_cons_self
  have header := step_header invNext second member (by exact fun same => by cases same)
  refine ⟨grant, few, invSent, pointer, size, live, ⟨liveIn.held, header.trans liveIn.headed⟩, ?_⟩
  have stored := Memory.read_write_same
    (step state (.alloc (opteeMsgGetArgSize slots) call.allocAnswer)).shared.memory
    grant.pointer message.bytes (by rw [MsgArg.bytes_length, msgParamSize]; omega)
  rw [MsgArg.bytes_length] at stored
  rw [pointer] at stored ⊢
  exact stored

namespace MessageSent

variable {grant other : Grant}

theorem member (sent : MessageSent state message call grant) :
    grant ∈ (state.sent message call).live := by
  rw [sent.live]
  exact List.mem_cons_self

theorem otherMember (sent : MessageSent state message call grant) (member : other ∈ state.live) :
    other ∈ (state.sent message call).live := by
  rw [sent.live]
  exact List.mem_cons_of_mem _ member

theorem inside (sent : MessageSent state message call grant) :
    Interval.Within ⟨grant.pointer.toNat, 32 + msgParamSize * slots⟩ grant.block := by
  rw [← opteeMsgGetArgSize_toNat sent.few, ← sent.size]
  exact (sent.inv.carved grant sent.member).bufferInside

theorem apart (sent : MessageSent state message call grant) (member : other ∈ state.live) :
    grant.block.Disjoint other.block := by
  have pairwise := sent.inv.apart
  rw [sent.live] at pairwise
  exact (List.pairwise_cons.mp pairwise).1 other member

theorem pointer_ne (sent : MessageSent state message call grant) (member : other ∈ state.live) :
    messageAddress slots state.shared call ≠ other.pointer := by
  have positive : 0 < grant.block.length := by
    rw [(sent.inv.carved grant sent.member).blockLength]
    omega
  rw [← sent.pointer]
  exact sent.inv.pointer_ne sent.member (sent.otherMember member)
    fun same => (sent.apart member).ne_of_pos positive (congrArg Grant.block same)

/-- The block of another is spared by the client's own calls. -/
theorem spares (sent : MessageSent state message call grant)
    (allocated : messageAddress slots state.shared call ≠ 0) (member : other ∈ state.live)
    (served : ∀ made ∈ servedCalls state.shared message call, made.Spares other) :
    ∀ made ∈ exchangeCalls state.shared message call, made.Spares other := by
  have filled : (Call.store (messageAddress slots state.shared call) message.bytes).Spares
      other := by
    have inside := sent.inside
    rw [sent.pointer, ← MsgArg.bytes_length message] at inside
    exact (sent.apart member).mono inside
      (sent.inv.carved other (sent.otherMember member)).bufferInside
  rw [exchangeCalls_replied allocated]
  intro made madeMember
  simp only [List.mem_append, List.mem_cons, List.not_mem_nil, or_false] at madeMember
  rcases madeMember with (rfl | rfl) | (serves | rfl)
  · trivial
  · exact filled
  · exact served made serves
  · exact sent.pointer_ne member

/-- Nobody but the client releases the block of the message. -/
theorem servedLive (sent : MessageSent state message call grant)
    (serving : AllSteps step Admitted (state.sent message call)
      (servedCalls state.shared message call))
    (unfreed : ∀ made ∈ servedCalls state.shared message call,
      made.freed ≠ some (messageAddress slots state.shared call)) :
    grant.LiveIn (state.served message call).shared := by
  rw [← sent.pointer] at unfreed
  obtain ⟨stays, header⟩ := run_unfreed sent.inv serving sent.member unfreed
  have served : Invariant (state.served message call) := run_invariant step_keeps sent.inv serving
  exact ⟨served.held grant stays, header.trans sent.liveIn.headed⟩

/-- Where the block is spared, the client reads back what it sent. -/
theorem echo (sent : MessageSent state message call grant)
    (serving : AllSteps step Admitted (state.sent message call)
      (servedCalls state.shared message call))
    (spared : ∀ made ∈ servedCalls state.shared message call, made.Spares grant) :
    MsgArg.load slots (state.served message call).shared.memory grant.pointer = message := by
  have kept := (run_spares sent.inv serving sent.member spared).2
  exact MsgArg.load_of_bytes ((kept _ _ sent.inside).trans sent.bytes)

/-- What becomes of the message, whose block the client frees. -/
theorem kept (sent : MessageSent state message call grant)
    (serving : AllSteps step Admitted (state.sent message call)
      (servedCalls state.shared message call))
    (unfreed : ∀ made ∈ servedCalls state.shared message call,
      made.freed ≠ some (messageAddress slots state.shared call))
    (accepted : call.freeAnswer.isError = false) {reply : SmcReturn slots}
    (read : reply.message = MsgArg.load slots (state.served message call).shared.memory
      (messageAddress slots state.shared call)) :
    MessageKept state message call reply grant := by
  obtain ⟨status, released⟩ := (sent.servedLive serving unfreed).free accepted
  have doneShared : (state.done message call).shared =
      (opteeClientMemFree (state.served message call).shared grant.pointer call.freeAnswer).2 := by
    rw [ClientState.done, sent.pointer, step]
  have doneLive : (state.done message call).live =
      recordFree (state.served message call).live grant.pointer true := by
    have succeeded : (!(opteeClientMemFree (state.served message call).shared grant.pointer
        call.freeAnswer).1.isError) = true := by
      rw [status]
      rfl
    rw [← succeeded, ClientState.done, sent.pointer, step]
  refine ⟨sent.pointer, sent.size, MsgArg.load_of_bytes sent.bytes, fun spared => ?_, ?_, ?_⟩
  · rw [read, ← sent.pointer]
    exact sent.echo serving spared
  · rw [doneShared]
    exact released
  · intro other otherMember
    rw [doneLive] at otherMember
    exact (mem_recordFree otherMember).2 rfl

end MessageSent

theorem Conduct.sent (conduct : Conduct state message call) (inv : Invariant state)
    (allocated : messageAddress slots state.shared call ≠ 0) :
    ∃ grant, MessageSent state message call grant ∧ AllSteps step Admitted (state.sent message call)
      (servedCalls state.shared message call) := by
  have admitted := conduct.admitted
  rw [exchangeCalls_replied allocated] at admitted
  obtain ⟨sending, rest⟩ := admitted.append
  obtain ⟨serving, -⟩ := rest.append
  obtain ⟨grant, sent⟩ := sent_message inv conduct.few allocated sending
  exact ⟨grant, sent, serving⟩

theorem exchange_messageKept (inv : Invariant state) (conduct : Conduct state message call)
    {reply : SmcReturn slots} {calls : List ArmSmcArgs} {after : SharedMem region}
    (done : exchangeMessage state.shared message call = some (some reply, calls, after)) :
    ∃ grant, MessageKept state message call reply grant := by
  obtain ⟨allocated, -⟩ := exchangeMessage_replied done
  obtain ⟨grant, sent, serving⟩ := conduct.sent inv allocated
  have read := (exchangeMessage_run done).2
  exact ⟨grant, sent.kept serving conduct.unfreed conduct.accepted read⟩

theorem exchange_othersKept (inv : Invariant state) (conduct : Conduct state message call)
    (allocated : messageAddress slots state.shared call ≠ 0) : OthersKept state message call := by
  intro other member spared
  obtain ⟨grant, sent, -⟩ := conduct.sent inv allocated
  rw [← run_exchangeCalls allocated]
  exact run_spares inv conduct.admitted member (sent.spares allocated member spared)

/-- A command whose message nobody overwrites hands its operation back as it was. -/
theorem smcInvokeCommand_echo (inv : Invariant state) {session : TeecSession} {cmdId : UInt32}
    {operation : TeecOperation} (supported : operation.Supported)
    (conduct : Conduct state (invokeCommandMessage session cmdId operation) call)
    (untouched : ∀ grant : Grant, grant.pointer = messageAddress 4 state.shared call →
      ∀ made ∈ servedCalls state.shared (invokeCommandMessage session cmdId operation) call,
        made.Spares grant)
    {done : CallDone region}
    (invoked : smcInvokeCommand state.shared session cmdId operation call = some done) :
    done.outcome.operation = operation := by
  obtain ⟨⟨reply, calls, after⟩, exchanged, rfl⟩ := Option.map_eq_some_iff.mp invoked
  cases reply with
  | none => rfl
  | some reply =>
    obtain ⟨grant, kept⟩ := exchange_messageKept inv conduct exchanged
    have same := kept.echo (untouched grant kept.address)
    by_cases returned : smcResult reply.arg0 = TeecResult.success
    · exact (invokeCommand_agrees cmdId session supported).echo reply returned
        (congrArg MsgArg.params same)
    · simp only [Option.isSome_some, replying, Option.getD_some, teecSmcInvokeCommand, if_true,
        ne_eq, returned, not_false_eq_true]

/-- A command hands its operation back, if nothing is stored to the block of its message. -/
def ClientCall.Echoes (state : ClientState region) (call : SecureCall) : ClientCall → Prop
  | .invokeCommand session cmdId operation => operation.Supported →
    (∀ grant : Grant, grant.pointer = messageAddress 4 state.shared call →
      ∀ made ∈ servedCalls state.shared (invokeCommandMessage session cmdId operation) call,
        made.Spares grant) →
    ∀ done, smcInvokeCommand state.shared session cmdId operation call = some done →
      done.outcome.operation = operation
  | _ => True

/-- A call that reached the secure world had memory for its message. -/
theorem perform_replied {request : ClientCall} {calls : List ArmSmcArgs}
    {after : SharedMem region} (done : request.perform state.shared call = some (calls, after))
    (sent : calls ≠ []) :
    ∃ reply, exchangeMessage state.shared request.message call =
      some (some reply, calls, after) := by
  rw [ClientCall.perform_eq] at done
  obtain ⟨⟨_ | reply, made, memory⟩, exchanged, same⟩ := Option.map_eq_some_iff.mp done
  · cases same
    simp only [exchangeMessage] at exchanged
    split at exchanged
    · cases exchanged
      exact absurd rfl sent
    · obtain ⟨_, _, replied⟩ := Option.map_eq_some_iff.mp exchanged
      cases replied
  · cases same
    exact ⟨reply, exchanged⟩

deriving instance DecidableEq for Call

def interruptedOnce : SecureCall where
  allocAnswer := some 0x103FD000
  turns :=
    [⟨[], ⟨0xFFFF0004, 0, 0, 1, 2, 3, 4, 5⟩, threeByteServices⟩,
      ⟨[⟨0x103FE014, [0, 0, 0, 0]⟩], ⟨smcReturnOk, 0, 0, 0, 0, 0, 0, 0⟩, threeByteServices⟩]
  freeAnswer := EfiStatus.success

def closingState : ClientState sampleRegion := initial sampleRegion fun _ => shmFreeFence

/-- The block of the message. -/
def closingGrant : Grant := ⟨0x103FE000, 32, 16, ⟨0x103FD000, 4159⟩⟩

end MuRockchip.Optee
