/-
Calls to the secure world (`OpteeClientSMC.c`).

A call puts a message in shared memory and passes its address in the registers of a
secure monitor call. The secure world may return with a request of its own
(`OPTEE_SMC_RETURN_IS_RPC`); the client serves it and calls back, until the secure world
returns with a result.

* `opteeSmcCall_disciplined`: every request is answered by one call, in order, with the
  registers its server left.
-/
import MuRockchip.Optee.FtpmSession
import MuRockchip.Optee.RpcCommands

namespace MuRockchip.Optee

open MuRockchip.Base

variable {region : SharedRegion} {slots : Nat}

/-! ### The loop -/

/-- `OPTEE_SMC_CALL_WITH_ARG`. -/
def smcCallWithArg : UInt64 := 0x32000004

/-- `OPTEE_SMC_RETURN_IS_RPC`. -/
def smcReturnIsRpc (ret : UInt64) : Bool :=
  ret != smcReturnUnknownFunction && (ret &&& 0xFFFF0000) == 0xFFFF0000

/-- One return of the secure world: what it stored, the registers it returns with, and
what the services of the firmware answer when it asks for something. -/
structure SecureTurn where
  stores : List MemStore
  returned : ArmSmcArgs
  services : RpcServices

/-- `OpteeRpcCallback` on what the secure world returned. -/
def SecureTurn.serve (turn : SecureTurn) (shared : SharedMem region) :
    ArmSmcArgs × SharedMem region :=
  (opteeRpcCallback shared turn.returned turn.services.allocAnswer turn.services.freeAnswer
    (opteeRpcCmd turn.services)).2

/-- Where the loop ends: the first register of the last return, the registers of every
call made, and shared memory. -/
structure SmcOutcome (region : SharedRegion) where
  arg0 : UInt64
  calls : List ArmSmcArgs
  shared : SharedMem region

def SmcOutcome.prepend (args : ArmSmcArgs) (outcome : SmcOutcome region) : SmcOutcome region :=
  { outcome with calls := args :: outcome.calls }

/-- The loop of `OpteeSmcCall`, if the secure world ends it. -/
def smcLoop (shared : SharedMem region) (args : ArmSmcArgs) :
    List SecureTurn → Option (SmcOutcome region)
  | [] => none
  | turn :: turns =>
    let shared := shared.storing turn.stores
    if smcReturnIsRpc turn.returned.arg0 then
      let (args', after) := turn.serve shared
      (smcLoop after args' turns).map (SmcOutcome.prepend args)
    else some ⟨turn.returned.arg0, [args], shared⟩

/-- The registers of the first call for the message at an address. -/
def callWithArg (msgArg : UInt64) : ArmSmcArgs :=
  ⟨smcCallWithArg, high32 msgArg, low32 msgArg, 0, 0, 0, 0, 0⟩

def opteeSmcCall (shared : SharedMem region) (msgArg : UInt64) (turns : List SecureTurn) :
    Option (SmcOutcome region) :=
  smcLoop shared (callWithArg msgArg) turns

/-! ### Entry points -/

/-- What a call meets: the answer to the allocation of its message, the returns of the
secure world, and the answer to the release of the message. -/
structure SecureCall where
  allocAnswer : Option Nat
  turns : List SecureTurn
  freeAnswer : EfiStatus

/-- The part of the entry points around the message: it is allocated, filled, passed to
the secure world and freed. There is no reply where it could not be allocated. -/
def exchangeMessage (shared : SharedMem region) (message : MsgArg slots) (call : SecureCall) :
    Option (Option (SmcReturn slots) × List ArmSmcArgs × SharedMem region) :=
  let (allocation, shared) :=
    opteeClientMemAlloc shared (opteeMsgGetArgSize slots) call.allocAnswer
  let msgArg := allocation.pointer
  if msgArg = 0 then some (none, [], shared)
  else
    let shared := shared.storing [⟨msgArg, message.bytes⟩]
    (opteeSmcCall shared msgArg call.turns).map fun outcome =>
      (some ⟨outcome.arg0, MsgArg.load slots outcome.shared.memory msgArg⟩, outcome.calls,
        (opteeClientMemFree outcome.shared msgArg call.freeAnswer).2)

/-- What an entry point hands back, the registers of the calls it made, and shared memory. -/
structure CallDone (region : SharedRegion) where
  outcome : CallOutcome
  calls : List ArmSmcArgs
  shared : SharedMem region

/-- The secure world of `MsgCodec`, where this is its reply. -/
def replying (reply : Option (SmcReturn slots)) (_ : MsgArg slots) : SmcReturn slots :=
  reply.getD ⟨0, MsgArg.zero slots⟩

/-- `TEEC_SMC_OpenSession` on shared memory. -/
def smcOpenSession (shared : SharedMem region) (session : TeecSession) (destination : TeecUuid)
    (operation : TeecOperation) (call : SecureCall) : Option (CallDone region) :=
  (exchangeMessage shared (openSessionMessage destination operation) call).map
    fun (reply, calls, shared) =>
      ⟨teecSmcOpenSession session destination operation reply.isSome (replying reply), calls,
        shared⟩

/-- `TEEC_SMC_InvokeCommand` on shared memory. -/
def smcInvokeCommand (shared : SharedMem region) (session : TeecSession) (cmdId : UInt32)
    (operation : TeecOperation) (call : SecureCall) : Option (CallDone region) :=
  (exchangeMessage shared (invokeCommandMessage session cmdId operation) call).map
    fun (reply, calls, shared) =>
      ⟨teecSmcInvokeCommand session cmdId operation reply.isSome (replying reply), calls, shared⟩

/-- The result and the origin `TEEC_SMC_CloseSession` reports. -/
def closeResult : Option (SmcReturn 0) → TeecResult × UInt32
  | none => (TeecResult.errorOutOfMemory, teecOriginApi)
  | some reply =>
    if smcResult reply.arg0 ≠ TeecResult.success then (smcResult reply.arg0, teecOriginComms)
    else (reply.message.ret, reply.message.retOrigin)

/-- `TEEC_SMC_CloseSession` on shared memory. -/
def smcCloseSession (shared : SharedMem region) (session : TeecSession) (call : SecureCall) :
    Option ((TeecResult × UInt32) × List ArmSmcArgs × SharedMem region) :=
  (exchangeMessage shared (closeSessionMessage session) call).map
    fun (reply, calls, shared) => (closeResult reply, calls, shared)

/-! ### Clients -/

/-- What a client can ask of the secure world: the three entry points with their
arguments. -/
inductive ClientCall where
  | openSession (session : TeecSession) (destination : TeecUuid) (operation : TeecOperation)
  | invokeCommand (session : TeecSession) (cmdId : UInt32) (operation : TeecOperation)
  | closeSession (session : TeecSession)

namespace ClientCall

/-- The parameter slots of the message. -/
def slotCount : ClientCall → Nat
  | openSession .. => 6
  | invokeCommand .. => 4
  | closeSession _ => 0

/-- The message the entry point builds. -/
def message : (request : ClientCall) → MsgArg request.slotCount
  | openSession _ destination operation => openSessionMessage destination operation
  | invokeCommand session cmdId operation => invokeCommandMessage session cmdId operation
  | closeSession session => closeSessionMessage session

/-- The registers and the memory of the entry point's call. -/
def perform (request : ClientCall) (shared : SharedMem region) (call : SecureCall) :
    Option (List ArmSmcArgs × SharedMem region) :=
  match request with
  | openSession session destination operation =>
    (smcOpenSession shared session destination operation call).map fun done =>
      (done.calls, done.shared)
  | invokeCommand session cmdId operation =>
    (smcInvokeCommand shared session cmdId operation call).map fun done =>
      (done.calls, done.shared)
  | closeSession session =>
    (smcCloseSession shared session call).map fun (_, calls, shared) => (calls, shared)

theorem perform_eq (request : ClientCall) (shared : SharedMem region) (call : SecureCall) :
    request.perform shared call =
      (exchangeMessage shared request.message call).map fun (_, calls, shared) =>
        (calls, shared) := by
  cases request with
  | openSession | invokeCommand | closeSession => exact Option.map_map ..

end ClientCall

/-! ### The register discipline -/

/-- The call that answers a request made with these registers returns from the request and
leaves all other registers alone. -/
def ArmSmcArgs.Returns (returned call : ArmSmcArgs) : Prop :=
  call = { returned with arg0 := smcCallReturnFromRpc }

/-- The call names an address, as the block that was asked for and as its cookie. -/
structure ArmSmcArgs.Names (call : ArmSmcArgs) (address : UInt64) : Prop where
  block : registerPair call.arg1 call.arg2 = address
  cookie : registerPair call.arg4 call.arg5 = address

/-- The call that answers a request, and the memory it is made with: it returns from the
request and keeps the secure world's resume information. A request for memory is answered
with the block the allocator hands out, with no address if none was asked for, and with its
own registers if there is none; every other one is served and answered with its own. -/
structure AnswersRequest (turn : SecureTurn) (shared : SharedMem region) (call : ArmSmcArgs)
    (after : SharedMem region) : Prop where
  function : call.arg0 = smcCallReturnFromRpc
  resume : turn.returned.Preserves call
  nothing : turn.returned.rpcFunc = smcRpcFuncAlloc → turn.returned.arg1 = 0 →
    call.Names 0 ∧ after = shared
  alloc : turn.returned.rpcFunc = smcRpcFuncAlloc → turn.returned.arg1 ≠ 0 →
    ∃ allocation, opteeClientMemAlloc shared turn.returned.arg1 turn.services.allocAnswer =
        (allocation, after) ∧
      if allocation.pointer = 0 then turn.returned.Returns call
      else call.Names allocation.pointer
  free : turn.returned.rpcFunc = smcRpcFuncFree → turn.returned.Returns call ∧
    after = (opteeClientMemFree shared (registerPair turn.returned.arg1 turn.returned.arg2)
      turn.services.freeAnswer).2
  command : turn.returned.rpcFunc = smcRpcFuncCmd → turn.returned.Returns call ∧
    after = (opteeRpcCmd turn.services (registerPair turn.returned.arg1 turn.returned.arg2)
      shared).2
  other : turn.returned.rpcFunc ∉ [smcRpcFuncAlloc, smcRpcFuncFree, smcRpcFuncCmd] →
    turn.returned.Returns call ∧ after = shared

/-- A request for memory, with the block named in both register pairs. -/
theorem reply_names (args : ArmSmcArgs) (address : UInt64) :
    ({ args.reply address with arg0 := smcCallReturnFromRpc } : ArmSmcArgs).Names address :=
  ⟨high32_low32 address, high32_low32 address⟩

theorem opteeRpcFree_snd (shared : SharedMem region) (args : ArmSmcArgs) (answer : EfiStatus) :
    (opteeRpcFree shared args answer).2 =
      (opteeClientMemFree shared (registerPair args.arg1 args.arg2) answer).2 := by
  simp only [opteeRpcFree, registerPair]
  split <;> rfl

theorem opteeRpcCallback_command {args : ArmSmcArgs} (func : args.rpcFunc = smcRpcFuncCmd)
    (shared : SharedMem region) (allocAnswer : Option Nat) (freeAnswer : EfiStatus)
    (command : UInt64 → SharedMem region → TeecResult × SharedMem region) :
    (opteeRpcCallback shared args allocAnswer freeAnswer command).2 =
      ({ args with arg0 := smcCallReturnFromRpc },
        (command (registerPair args.arg1 args.arg2) shared).2) := by
  simp only [opteeRpcCallback, func, if_neg (show smcRpcFuncCmd ≠ smcRpcFuncAlloc by decide),
    if_neg (show smcRpcFuncCmd ≠ smcRpcFuncFree by decide),
    if_neg (show smcRpcFuncCmd ≠ smcRpcFuncForeignIntr by decide), if_true, registerPair]

theorem opteeRpcCallback_other {args : ArmSmcArgs}
    (other : args.rpcFunc ∉ [smcRpcFuncAlloc, smcRpcFuncFree, smcRpcFuncCmd])
    (shared : SharedMem region) (allocAnswer : Option Nat) (freeAnswer : EfiStatus)
    (command : UInt64 → SharedMem region → TeecResult × SharedMem region) :
    (opteeRpcCallback shared args allocAnswer freeAnswer command).2 =
      ({ args with arg0 := smcCallReturnFromRpc }, shared) := by
  simp only [List.mem_cons, List.not_mem_nil, or_false, not_or] at other
  obtain ⟨alloc, free, command⟩ := other
  simp only [opteeRpcCallback, if_neg alloc, if_neg free, if_neg command]
  split <;> rfl

theorem SecureTurn.serve_answers (turn : SecureTurn) (shared : SharedMem region) :
    AnswersRequest turn shared (turn.serve shared).1 (turn.serve shared).2 where
  function := rfl
  resume := opteeRpcCallback_preserved shared turn.returned _ _ _
  nothing func zero := by
    rw [SecureTurn.serve, opteeRpcCallback_alloc func, opteeRpcAlloc_zero zero]
    exact ⟨reply_names turn.returned 0, rfl⟩
  alloc func nonzero := by
    have books := opteeRpcAlloc_nonzero shared turn.returned turn.services.allocAnswer nonzero
    have registers := opteeRpcAlloc_registers nonzero shared turn.services.allocAnswer
    rw [SecureTurn.serve, opteeRpcCallback_alloc func, registers, congrArg Prod.snd books]
    set obtained := internalMemAlloc shared turn.returned.arg1 memByteAlignment
      turn.services.allocAnswer with allocated
    refine ⟨obtained.1, allocated.symm, ?_⟩
    by_cases null : obtained.1.pointer = 0
    · rw [if_pos null, if_pos null]
      rfl
    · rw [if_neg null, if_neg null]
      exact reply_names turn.returned _
  free func := by
    rw [SecureTurn.serve, opteeRpcCallback_free func]
    exact ⟨rfl, opteeRpcFree_snd ..⟩
  command func := by
    rw [SecureTurn.serve, opteeRpcCallback_command func]
    exact ⟨rfl, rfl⟩
  other func := by
    rw [SecureTurn.serve, opteeRpcCallback_other func]
    exact ⟨rfl, rfl⟩

/-- The requests of the secure world are answered by one call each, in order, from a state
of shared memory to another. -/
inductive AnswersAll : SharedMem region → List SecureTurn → List ArmSmcArgs →
    SharedMem region → Prop where
  | nil (shared : SharedMem region) : AnswersAll shared [] [] shared
  | cons {shared between after : SharedMem region} {turn : SecureTurn} {turns : List SecureTurn}
      {call : ArmSmcArgs} {calls : List ArmSmcArgs}
      (request : smcReturnIsRpc turn.returned.arg0 = true)
      (answers : AnswersRequest turn (shared.storing turn.stores) call between)
      (later : AnswersAll between turns calls after) :
      AnswersAll shared (turn :: turns) (call :: calls) after

/-- The returns of the secure world up to the one that ends a call: requests, each with the
call that answered it, and the result. -/
structure Disciplined (shared : SharedMem region) (args : ArmSmcArgs) (turns : List SecureTurn)
    (outcome : SmcOutcome region) : Prop where
  turns : ∃ (requests rest : List SecureTurn) (final : SecureTurn) (answers : List ArmSmcArgs)
      (served : SharedMem region),
    turns = requests ++ final :: rest ∧ outcome.calls = args :: answers ∧
      AnswersAll shared requests answers served ∧
      smcReturnIsRpc final.returned.arg0 = false ∧ outcome.arg0 = final.returned.arg0 ∧
      outcome.shared = served.storing final.stores

theorem smcLoop_disciplined {shared : SharedMem region} {args : ArmSmcArgs}
    {turns : List SecureTurn} {outcome : SmcOutcome region}
    (ended : smcLoop shared args turns = some outcome) :
    Disciplined shared args turns outcome := by
  induction turns generalizing shared args outcome with
  | nil => cases ended
  | cons turn turns ih =>
    simp only [smcLoop] at ended
    split at ended
    · next request =>
      obtain ⟨later, laterEnded, rfl⟩ := Option.map_eq_some_iff.mp ended
      obtain ⟨requests, rest, final, answers, served, split, calls, answered, last, arg0, memory⟩ :=
        (ih laterEnded).turns
      refine ⟨turn :: requests, rest, final, (turn.serve (shared.storing turn.stores)).1 :: answers,
        served, by rw [split, List.cons_append], by rw [SmcOutcome.prepend, calls], ?_, last, arg0,
        memory⟩
      exact .cons request (turn.serve_answers _) answered
    · next result =>
      cases ended
      exact ⟨[], turns, turn, [], shared, rfl, rfl, .nil shared, Bool.eq_false_iff.mpr result, rfl,
        rfl⟩

theorem smcLoop_isSome_iff (shared : SharedMem region) (args : ArmSmcArgs)
    (turns : List SecureTurn) :
    (smcLoop shared args turns).isSome = true ↔
      ∃ turn ∈ turns, smcReturnIsRpc turn.returned.arg0 = false := by
  induction turns generalizing shared args with
  | nil => simp [smcLoop]
  | cons turn turns ih =>
    simp only [smcLoop, List.mem_cons, exists_eq_or_imp]
    split
    · next request =>
      rw [Option.isSome_map, ih, request]
      simp
    · next result => simp [Bool.eq_false_iff.mpr result]

/-- For every message and every behaviour of the secure world: the call ends exactly when
the secure world returns with something other than a request, the first registers hold the
address of the message, and every request until then is answered by exactly one call, in
order, with the registers its server left; what the secure world needs to resume is kept. -/
theorem opteeSmcCall_disciplined (shared : SharedMem region) (msgArg : UInt64)
    (turns : List SecureTurn) :
    ((opteeSmcCall shared msgArg turns).isSome = true ↔
        ∃ turn ∈ turns, smcReturnIsRpc turn.returned.arg0 = false) ∧
      (callWithArg msgArg).arg0 = smcCallWithArg ∧
      registerPair (callWithArg msgArg).arg1 (callWithArg msgArg).arg2 = msgArg ∧
      ∀ outcome, opteeSmcCall shared msgArg turns = some outcome →
        Disciplined shared (callWithArg msgArg) turns outcome :=
  ⟨smcLoop_isSome_iff shared (callWithArg msgArg) turns, rfl, high32_low32 msgArg,
    fun _ ended => smcLoop_disciplined ended⟩

end MuRockchip.Optee
