/-
The authenticated-variable services (`AuthVarsDxe.c`).

A service checks its arguments, fills a parameter block in shared memory, has a
trusted application execute it, and reads the answer from a result buffer in
shared memory. Two test hooks, keyed on the caller's name, namespace and size,
read and replace the identifier of the session with the application.

What the application leaves in the result buffer is arbitrary, so every read of
the buffer is checked against its size; a service that reads past its end has no
outcome.
-/
import MuRockchip.Optee.MsgCodec
import MuRockchip.Uefi.Types

namespace MuRockchip.AuthVar

open MuRockchip.Base MuRockchip.Optee

/-! ### Parameter blocks -/

/-- `VARIABLE_SERVICE_OPS`. -/
inductive VariableServiceOp where
  | get
  | getNextVar
  | set
  | queryInfo
  | signalExitBootServices
  deriving DecidableEq, Repr

/-- The command identifier of an operation. -/
def VariableServiceOp.code : VariableServiceOp → UInt32
  | get => 0
  | getNextVar => 1
  | set => 2
  | queryInfo => 3
  | signalExitBootServices => 4

/-- `VARIABLE_GET_PARAM`, which is `VARIABLE_GET_NEXT_PARAM` too. -/
structure VariableGetParam where
  size : UInt32
  variableNameSize : UInt16
  vendorGuid : EfiGuid
  variableName : List UInt8
  deriving DecidableEq, Repr

structure VariableSetParam where
  size : UInt32
  variableNameSize : UInt16
  vendorGuid : EfiGuid
  attributes : UInt32
  dataSize : UInt32
  offsetVariableName : UInt32
  offsetData : UInt32
  payload : List UInt8
  deriving DecidableEq, Repr

structure VariableQueryParam where
  size : UInt32
  attributes : UInt32
  deriving DecidableEq, Repr

/-- `VARIABLE_PARAM`: what the parameter buffer holds when a command is sent. -/
inductive VariableParam where
  | get (param : VariableGetParam)
  | getNext (param : VariableGetParam)
  | set (param : VariableSetParam)
  | query (param : VariableQueryParam)
  deriving DecidableEq, Repr

def sizeofVariableGetParam : UInt32 := 28
def sizeofVariableGetNextParam : UInt32 := 28
def sizeofVariableSetParam : UInt32 := 44
def sizeofVariableQueryParam : UInt32 := 8
def sizeofVariableParam : UInt32 := 44
def sizeofVariableGetResult : UInt32 := 16
def sizeofVariableGetNextResult : UInt32 := 28
def sizeofVariableQueryResult : UInt32 := 32

/-! ### The driver -/

/-- A transport buffer in shared memory. It has room for any parameter block. -/
structure TransportMem where
  buffer : UInt64
  size : UInt64
  room : sizeofVariableParam.toUInt64 ≤ size
  deriving DecidableEq

/-- One command sent to the application, and how it answered. -/
structure Exchange where
  message : MsgArg 4
  param : VariableParam
  result : TeecResult
  deriving DecidableEq

/-- The driver's globals, and the commands it has sent. -/
structure DriverState where
  atRuntime : Bool
  session : TeecSession
  sessionOpened : Bool
  paramMem : TransportMem
  resultMem : TransportMem
  variableType : List (Str16 × EfiGuid)
  exchanges : List Exchange
  position : Nat

/-- The services are in use: between opening the session and the end of the boot
services. -/
structure DriverState.Ready (state : DriverState) : Prop where
  bootTime : state.atRuntime = false
  opened : state.sessionOpened = true

/-- One turn of the environment: whether shared memory had room for the message,
what the secure world leaves in the message and in the result buffer, whether the
variable protocol is installed and whether the pool has memory. -/
structure Turn where
  messageAllocated : Bool
  reply : SmcReturn 4
  result : Nat → UInt8
  variableArchInstalled : Bool
  poolAllocated : Bool

def Turn.answer (turn : Turn) : TeecResult :=
  if turn.messageAllocated then
    if smcResult turn.reply.arg0 ≠ TeecResult.success then smcResult turn.reply.arg0
    else turn.reply.message.ret
  else TeecResult.errorOutOfMemory

/-- The size the application announces in the value pair of its answer. -/
def Turn.resultSize (turn : Turn) : UInt32 := turn.reply.message.params[2].word0.toUInt32

/-- The environment: a turn for every use the driver makes of it. -/
abbrev Environment := Nat → Turn

/-- What `OpteeRuntimeVariableInvokeCommand` hands back, and the result buffer. -/
structure Invoked where
  status : EfiStatus
  resultSize : UInt32
  authVarStatus : UInt32
  result : Nat → UInt8

def invokeStatus (result : TeecResult) : EfiStatus :=
  if result = TeecResult.success then EfiStatus.success
  else if result = TeecResult.errorItemNotFound then EfiStatus.notFound
  else if result = TeecResult.errorShortBuffer then EfiStatus.bufferTooSmall
  else if result = TeecResult.errorOutOfMemory then EfiStatus.outOfResources
  else if result = TeecResult.errorAccessDenied then EfiStatus.securityViolation
  else EfiStatus.protocolError

def teecParamTypes (first second third fourth : UInt32) : UInt32 :=
  first ||| second <<< 4 ||| third <<< 8 ||| fourth <<< 12

/-- The operation of a command: the parameter buffer, the result buffer and a
pair of values. -/
def commandOperation (state : DriverState) (paramSize resultSize : UInt32) : TeecOperation where
  paramTypes := teecParamTypes teecMemrefTempInput teecMemrefTempOutput teecValueOutput teecNone
  params := #v[⟨state.paramMem.buffer, paramSize.toUInt64, 0⟩,
    ⟨state.resultMem.buffer, resultSize.toUInt64, 0⟩, ⟨0, 0, 0⟩, ⟨0, 0, 0⟩]

/-- `OpteeRuntimeVariableInvokeCommand`. No result buffer means the driver's own
with room for a word. The buffers were cleared before, so without a message the
result buffer is zero. -/
def opteeRuntimeVariableInvokeCommand (env : Environment) (state : DriverState)
    (command : VariableServiceOp) (param : VariableParam) (paramSize : UInt32)
    (resultSize : Option UInt32) : Invoked × DriverState :=
  let turn := env state.position
  let operation := commandOperation state paramSize (resultSize.getD 4)
  let outcome := teecSmcInvokeCommand state.session command.code operation turn.messageAllocated
    fun _ => turn.reply
  let exchange : Exchange :=
    ⟨invokeCommandMessage state.session command.code operation, param, outcome.result⟩
  (⟨invokeStatus outcome.result, outcome.operation.params[2].valueA,
      outcome.operation.params[2].valueB,
      if turn.messageAllocated then turn.result else fun _ => 0⟩,
    { state with
      exchanges := if turn.messageAllocated then state.exchanges ++ [exchange] else state.exchanges
      position := state.position + 1 })

theorem invoked_result (env : Environment) (state : DriverState) (command : VariableServiceOp)
    (operation : TeecOperation) :
    (teecSmcInvokeCommand state.session command.code operation
      (env state.position).messageAllocated fun _ => (env state.position).reply).result =
      (env state.position).answer := by
  unfold teecSmcInvokeCommand Turn.answer
  split
  · dsimp only
    split <;> rfl
  · rfl

section

variable (env : Environment) (state : DriverState) (command : VariableServiceOp)
  (param : VariableParam) (paramSize : UInt32) (resultSize : Option UInt32)

theorem invoked_status :
    (opteeRuntimeVariableInvokeCommand env state command param paramSize resultSize).1.status =
      invokeStatus (env state.position).answer := by
  unfold opteeRuntimeVariableInvokeCommand
  dsimp only
  rw [invoked_result]

/-- A command that was sent finds in the result buffer what the application left. -/
theorem invoked_bytes (reached : (env state.position).messageAllocated = true) :
    (opteeRuntimeVariableInvokeCommand env state command param paramSize resultSize).1.result =
      (env state.position).result :=
  if_pos reached

/-- A command that was answered hands back the size of the answer. -/
theorem invoked_resultSize
    (reached : (env state.position).messageAllocated = true)
    (returned : smcResult (env state.position).reply.arg0 = TeecResult.success) :
    (opteeRuntimeVariableInvokeCommand env state command param paramSize resultSize).1.resultSize =
      (env state.position).resultSize := by
  unfold opteeRuntimeVariableInvokeCommand teecSmcInvokeCommand
  dsimp only
  rw [if_pos reached, if_neg (not_not_intro returned)]
  have kind : paramTypeGet (commandOperation state paramSize (resultSize.getD 4)).paramTypes
      (2 : Fin 4).val = teecValueOutput :=
    show paramTypeGet (teecParamTypes teecMemrefTempInput teecMemrefTempOutput teecValueOutput
      teecNone) 2 = teecValueOutput by decide
  have decoded := getMsgParams_slot 0 (Nat.le_refl 4) (env state.position).reply.message.params
    (commandOperation state paramSize (resultSize.getD 4)) 2
  rw [kind] at decoded
  exact (congrArg TeecParameter.valueA decoded).trans (TeecParameter.valueA_setValue _ _ _)

end

/-- Bytes of the result buffer; nothing for a read past its end. -/
def readResult (mem : TransportMem) (result : Nat → UInt8) (offset count : Nat) :
    Option (List UInt8) :=
  if offset + count ≤ mem.size.toNat then
    some ((List.range count).map fun index => result (offset + index))
  else none

/-- A little-endian field of the result buffer. -/
def readField (mem : TransportMem) (result : Nat → UInt8) (offset width : Nat) : Option Nat :=
  (readResult mem result offset width).map leValue

/-- The name, namespace and size by which the test hooks are reached. -/
def isSessionHook (variableName : Str16) (vendorGuid : EfiGuid) (dataSize : UInt64) : Bool :=
  variableName.first = 1 && vendorGuid.data1 = 1 && dataSize = 8

/-! ### The result buffer -/

def headerField (result : Nat → UInt8) (offset width : Nat) : Nat :=
  leValue ((List.range width).map fun index => result (offset + index))

section

variable (mem : TransportMem) (result : Nat → UInt8)

theorem TransportMem.room_toNat : 44 ≤ mem.size.toNat := by
  have room := UInt64.le_iff_toNat_le.mp mem.room
  exact room

theorem readResult_of_le {offset count : Nat} (inside : offset + count ≤ mem.size.toNat) :
    readResult mem result offset count =
      some ((List.range count).map fun index => result (offset + index)) :=
  if_pos inside

/-- The header is always inside the buffer. -/
theorem readField_header {offset width : Nat} (header : offset + width ≤ 44) :
    readField mem result offset width = some (headerField result offset width) := by
  rw [readField, readResult_of_le mem result (Nat.le_trans header mem.room_toNat)]
  rfl

theorem headerField_lt (offset width : Nat) : headerField result offset width < 256 ^ width := by
  have bound := leValue_lt ((List.range width).map fun index => result (offset + index))
  simpa [headerField] using bound

end

/-! ### Answers -/

theorem success_ne_bufferTooSmall : EfiStatus.success ≠ EfiStatus.bufferTooSmall := by decide

theorem badBufferSize_ne_bufferTooSmall :
    EfiStatus.badBufferSize ≠ EfiStatus.bufferTooSmall := by decide

/-- The statuses of a request that is refused before its command. -/
def refusals : List EfiStatus :=
  [EfiStatus.notFound, EfiStatus.unsupported, EfiStatus.invalidParameter, EfiStatus.notReady,
    EfiStatus.outOfResources, EfiStatus.badBufferSize]

variable {status : EfiStatus} {result : TeecResult} {invoked : Invoked} {mem : TransportMem}

theorem mem_refusals (refused : status ∈ refusals) :
    status = EfiStatus.notFound ∨ status = EfiStatus.unsupported ∨
      status = EfiStatus.invalidParameter ∨ status = EfiStatus.notReady ∨
      status = EfiStatus.outOfResources ∨ status = EfiStatus.badBufferSize := by
  simpa [refusals] using refused

theorem refusal_ne_success (refused : status ∈ refusals) :
    status ≠ EfiStatus.success := by
  rcases mem_refusals refused with rfl | rfl | rfl | rfl | rfl | rfl
  all_goals decide

theorem refusal_ne_bufferTooSmall (refused : status ∈ refusals) :
    status ≠ EfiStatus.bufferTooSmall := by
  rcases mem_refusals refused with rfl | rfl | rfl | rfl | rfl | rfl
  all_goals decide

theorem invokeStatus_success_iff :
    invokeStatus result = EfiStatus.success ↔ result = TeecResult.success := by
  constructor
  · intro same
    unfold invokeStatus at same
    by_contra other
    rw [if_neg other] at same
    repeat' split at same
    all_goals cases same
  · intro same
    rw [same]
    rfl

theorem invokeStatus_short_iff :
    invokeStatus result = EfiStatus.bufferTooSmall ↔ result = TeecResult.errorShortBuffer := by
  constructor
  · intro same
    unfold invokeStatus at same
    by_contra other
    rw [if_neg other] at same
    repeat' split at same
    all_goals cases same
  · intro same
    rw [same]
    decide

theorem invokeStatus_isError :
    (invokeStatus result).isError = true ↔ result ≠ TeecResult.success := by
  unfold invokeStatus
  split
  · rename_i success
    simp [success]
  · rename_i failed
    refine ⟨fun _ => failed, fun _ => ?_⟩
    repeat' split
    all_goals decide

theorem allocated_of_success {turn : Turn} (success : turn.answer = TeecResult.success) :
    turn.messageAllocated = true := by
  unfold Turn.answer at success
  split at success
  · assumption
  · cases success

/-- An application that asks for a larger buffer was reached, and its answer was
read. -/
theorem answered_of_short {turn : Turn} (short : turn.answer = TeecResult.errorShortBuffer) :
    turn.messageAllocated = true ∧ smcResult turn.reply.arg0 = TeecResult.success := by
  unfold Turn.answer smcResult at short
  split at short
  · rename_i allocated
    refine ⟨allocated, ?_⟩
    unfold smcResult
    by_contra failed
    rw [if_pos failed] at short
    repeat' split at short
    all_goals cases short
  · cases short

/-! ### GetVariable -/

/-- The arguments of `OpteeRuntimeGetVariable`; `none` is a null pointer. Of
`Data` only whether it is null is looked at before it is written. -/
structure GetVariableArgs where
  variableName : Option Str16
  vendorGuid : Option EfiGuid
  wantsAttributes : Bool
  dataSize : Option UInt64
  dataNull : Bool

/-- The status, the attributes if they were stored, the caller's size cell, and
the bytes stored from the start of the caller's buffer. -/
structure GetVariableOutcome where
  status : EfiStatus
  attributes : Option UInt32
  dataSize : Option UInt64
  data : List UInt8
  deriving DecidableEq, Repr

/-- A request that passed the checks. -/
structure GetVariableRequest where
  param : VariableGetParam
  paramSize : UInt32
  resultSize : UInt32
  dataSize : UInt64
  localDataSize : UInt32
  deriving DecidableEq, Repr

/-- `OpteeRuntimeGetVariable` up to the command: an outcome without one, or the
request to send. -/
def getVariableRequest (state : DriverState) (args : GetVariableArgs) :
    Except GetVariableOutcome GetVariableRequest :=
  let ended (status : EfiStatus) : GetVariableOutcome := ⟨status, none, args.dataSize, []⟩
  if state.atRuntime then .error (ended EfiStatus.notFound)
  else match args.variableName, args.vendorGuid, args.dataSize with
    | some variableName, some vendorGuid, some dataSize =>
      if dataSize ≠ 0 ∧ args.dataNull then .error (ended EfiStatus.invalidParameter)
      -- test hook: the session identifier is the variable's value
      else if isSessionHook variableName vendorGuid dataSize then
        .error ⟨EfiStatus.success, none, some dataSize, leBytes 8 state.session.sessionId.toNat⟩
      else if !state.sessionOpened then .error (ended EfiStatus.notReady)
      else if state.paramMem.buffer = 0 ∨ state.resultMem.buffer = 0 then
        .error (ended EfiStatus.outOfResources)
      else
        let localVariableNameSize := variableName.strSize.toUInt32
        let localDataSize := dataSize.toUInt32
        if localVariableNameSize.toUInt64 ≥ state.paramMem.size ∨
            localDataSize.toUInt64 ≥ state.resultMem.size then
          .error (ended EfiStatus.badBufferSize)
        else
          let paramSize := sizeofVariableGetParam + localVariableNameSize
          let resultSize := sizeofVariableGetResult + localDataSize
          if paramSize.toUInt64 > state.paramMem.size ∨
              resultSize.toUInt64 > state.resultMem.size then
            .error (ended EfiStatus.badBufferSize)
          else
            .ok ⟨⟨sizeofVariableGetParam, localVariableNameSize.toUInt16, vendorGuid,
                variableName.bytes.take localVariableNameSize.toNat⟩,
              paramSize, resultSize, dataSize, localDataSize⟩
    | _, _, _ => .error (ended EfiStatus.invalidParameter)

/-- The arguments reach the test hook. -/
def GetVariableArgs.isSessionHook (args : GetVariableArgs) : Bool :=
  match args.variableName, args.vendorGuid, args.dataSize with
  | some variableName, some vendorGuid, some dataSize =>
    AuthVar.isSessionHook variableName vendorGuid dataSize
  | _, _, _ => false

/-- Without a command the service fails, or is the test hook. -/
theorem getVariableRequest_cases (state : DriverState) (args : GetVariableArgs) :
    (∃ status ∈ refusals,
      getVariableRequest state args = .error ⟨status, none, args.dataSize, []⟩) ∨
    (args.isSessionHook = true ∧ getVariableRequest state args =
      .error ⟨EfiStatus.success, none, some 8, leBytes 8 state.session.sessionId.toNat⟩) ∨
    (∃ request, getVariableRequest state args = .ok request ∧
      args.dataSize = some request.dataSize ∧
      request.localDataSize = request.dataSize.toUInt32) := by
  unfold getVariableRequest
  dsimp only
  split
  · exact .inl ⟨_, by decide, rfl⟩
  · split
    · rename_i variableName vendorGuid dataSize named spaced sized
      split
      · exact .inl ⟨_, by decide, rfl⟩
      split
      · rename_i hooked
        refine .inr (.inl ⟨?_, ?_⟩)
        · rw [GetVariableArgs.isSessionHook, named, spaced, sized]
          exact hooked
        · have eight : dataSize = 8 := by
            simp only [isSessionHook, Bool.and_eq_true, decide_eq_true_eq] at hooked
            exact hooked.2
          rw [eight]
      split
      · exact .inl ⟨_, by decide, rfl⟩
      split
      · exact .inl ⟨_, by decide, rfl⟩
      split
      · exact .inl ⟨_, by decide, rfl⟩
      split
      · exact .inl ⟨_, by decide, rfl⟩
      · exact .inr (.inr ⟨_, rfl, sized, rfl⟩)
    · exact .inl ⟨_, by decide, rfl⟩

/-- `OpteeRuntimeGetVariable` after the command. The header of the answer, which
is always inside the buffer, is read whether or not its fields are used. -/
def finishGetVariable (mem : TransportMem) (wantsAttributes : Bool) (request : GetVariableRequest)
    (invoked : Invoked) : Option GetVariableOutcome := do
  let resultDataSize ← readField mem invoked.result 8 4
  let dataSize : UInt64 :=
    if invoked.status = EfiStatus.bufferTooSmall then
      -- the answer is the size of the buffer, so the header is taken off
      invoked.resultSize.toUInt64 - sizeofVariableGetResult.toUInt64
    else if invoked.status = EfiStatus.success then UInt64.ofNat resultDataSize
    else request.dataSize
  let attributes ← readField mem invoked.result 4 4
  let attributes := if wantsAttributes then some (UInt32.ofNat attributes) else none
  if invoked.status.isError then pure ⟨invoked.status, attributes, some dataSize, []⟩
  else if resultDataSize > request.localDataSize.toNat then
    pure ⟨EfiStatus.badBufferSize, attributes, some dataSize, []⟩
  else do
    let data ← readResult mem invoked.result 12 resultDataSize
    pure ⟨invoked.status, attributes, some dataSize, data⟩

def opteeRuntimeGetVariable (env : Environment) (state : DriverState) (args : GetVariableArgs) :
    Option GetVariableOutcome × DriverState :=
  match getVariableRequest state args with
  | .error outcome => (some outcome, state)
  | .ok request =>
    let (invoked, after) := opteeRuntimeVariableInvokeCommand env state .get (.get request.param)
      request.paramSize (some request.resultSize)
    (finishGetVariable state.resultMem args.wantsAttributes request invoked, after)

/-! ### GetNextVariableName -/

/-- The arguments of `OpteeRuntimeGetNextVariableName`. -/
structure GetNextVariableNameArgs where
  variableNameSize : Option UInt64
  variableName : Option Str16
  vendorGuid : Option EfiGuid

/-- The status, the caller's size cell, the bytes stored in the caller's namespace
cell, and those stored from the start of the caller's name buffer. -/
structure GetNextVariableNameOutcome where
  status : EfiStatus
  variableNameSize : Option UInt64
  vendorGuid : List UInt8
  variableName : List UInt8
  deriving DecidableEq, Repr

/-- A request that passed the checks. -/
structure GetNextVariableNameRequest where
  param : VariableGetParam
  paramSize : UInt32
  resultSize : UInt32
  variableNameSize : UInt64
  localOutVariableNameSize : UInt32
  deriving DecidableEq, Repr

/-- `OpteeRuntimeGetNextVariableName` up to the command. -/
def getNextVariableNameRequest (state : DriverState) (args : GetNextVariableNameArgs) :
    Except GetNextVariableNameOutcome GetNextVariableNameRequest :=
  let ended (status : EfiStatus) : GetNextVariableNameOutcome :=
    ⟨status, args.variableNameSize, [], []⟩
  if state.atRuntime then .error (ended EfiStatus.unsupported)
  else match args.variableNameSize, args.variableName, args.vendorGuid with
    | some variableNameSize, some variableName, some vendorGuid =>
      if !state.sessionOpened then .error (ended EfiStatus.notReady)
      else if state.paramMem.buffer = 0 ∨ state.resultMem.buffer = 0 then
        .error (ended EfiStatus.outOfResources)
      else
        -- an empty name asks for the first variable
        let localInVariableNameSize : UInt32 :=
          if variableName.first = 0 then 0 else variableName.strSize.toUInt32
        let localOutVariableNameSize := variableNameSize.toUInt32
        if localInVariableNameSize.toUInt64 ≥ state.paramMem.size ∨
            localOutVariableNameSize.toUInt64 ≥ state.resultMem.size then
          .error (ended EfiStatus.badBufferSize)
        else
          let paramSize := sizeofVariableGetNextParam + localInVariableNameSize
          let resultSize := sizeofVariableGetNextResult + localOutVariableNameSize
          if paramSize.toUInt64 > state.paramMem.size ∨
              resultSize.toUInt64 > state.resultMem.size then
            .error (ended EfiStatus.badBufferSize)
          else
            .ok ⟨⟨sizeofVariableGetNextParam, localInVariableNameSize.toUInt16, vendorGuid,
                variableName.bytes.take localInVariableNameSize.toNat⟩,
              paramSize, resultSize, variableNameSize, localOutVariableNameSize⟩
    | _, _, _ => .error (ended EfiStatus.invalidParameter)

/-- A request fits the transport buffers, and without one the service fails. -/
theorem getNextVariableNameRequest_cases (state : DriverState) (args : GetNextVariableNameArgs) :
    (∃ status ∈ refusals,
      getNextVariableNameRequest state args = .error ⟨status, args.variableNameSize, [], []⟩) ∨
    (∃ request, getNextVariableNameRequest state args = .ok request ∧
      args.variableNameSize = some request.variableNameSize ∧
      request.localOutVariableNameSize = request.variableNameSize.toUInt32 ∧
      request.localOutVariableNameSize.toUInt64 < state.resultMem.size ∧
      (sizeofVariableGetNextResult + request.localOutVariableNameSize).toUInt64 ≤
        state.resultMem.size) := by
  unfold getNextVariableNameRequest
  dsimp only
  split
  · exact .inl ⟨_, by decide, rfl⟩
  · split
    · rename_i variableNameSize variableName vendorGuid sized named spaced
      generalize (if variableName.first = 0 then (0 : UInt32)
        else variableName.strSize.toUInt32) = localInVariableNameSize
      split
      · exact .inl ⟨_, by decide, rfl⟩
      split
      · exact .inl ⟨_, by decide, rfl⟩
      split
      · exact .inl ⟨_, by decide, rfl⟩
      split
      · exact .inl ⟨_, by decide, rfl⟩
      · rename_i small fits
        exact .inr ⟨_, rfl, sized, rfl, UInt64.not_le.mp (not_or.mp small).2,
          UInt64.not_lt.mp (not_or.mp fits).2⟩
    · exact .inl ⟨_, by decide, rfl⟩

/-- `OpteeRuntimeGetNextVariableName` after the command. -/
def finishGetNextVariableName (mem : TransportMem) (request : GetNextVariableNameRequest)
    (invoked : Invoked) : Option GetNextVariableNameOutcome := do
  let resultNameSize ← readField mem invoked.result 4 2
  let variableNameSize : UInt64 :=
    if invoked.status = EfiStatus.bufferTooSmall then
      invoked.resultSize.toUInt64 - sizeofVariableGetNextResult.toUInt64
    else if invoked.status = EfiStatus.success then UInt64.ofNat resultNameSize
    else request.variableNameSize
  if invoked.status.isError then pure ⟨invoked.status, some variableNameSize, [], []⟩
  else if resultNameSize > request.localOutVariableNameSize.toNat then
    pure ⟨EfiStatus.badBufferSize, some variableNameSize, [], []⟩
  else do
    let vendorGuid ← readResult mem invoked.result 8 16
    let variableName ← readResult mem invoked.result 24 resultNameSize
    pure ⟨invoked.status, some variableNameSize, vendorGuid, variableName⟩

def opteeRuntimeGetNextVariableName (env : Environment) (state : DriverState)
    (args : GetNextVariableNameArgs) : Option GetNextVariableNameOutcome × DriverState :=
  match getNextVariableNameRequest state args with
  | .error outcome => (some outcome, state)
  | .ok request =>
    let (invoked, after) := opteeRuntimeVariableInvokeCommand env state .getNextVar
      (.getNext request.param) request.paramSize (some request.resultSize)
    (finishGetNextVariableName state.resultMem request invoked, after)

/-! ### SetVariable -/

/-- The arguments of `OpteeRuntimeSetVariable`; `data` are the bytes from the
caller's pointer on. -/
structure SetVariableArgs where
  variableName : Option Str16
  vendorGuid : Option EfiGuid
  attributes : UInt32
  dataSize : UInt64
  data : Option (Nat → UInt8)

/-- The bytes of the caller's data. -/
def dataBytes (data : Option (Nat → UInt8)) (dataSize : UInt64) : List UInt8 :=
  match data with
  | none => []
  | some bytes => (List.range dataSize.toNat).map bytes

/-- The arguments reach the test hook. -/
def SetVariableArgs.isSessionHook (args : SetVariableArgs) : Bool :=
  match args.variableName, args.vendorGuid with
  | some variableName, some vendorGuid =>
    args.data.isSome && AuthVar.isSessionHook variableName vendorGuid args.dataSize
  | _, _ => false

/-- The session identifier in the caller's data. -/
def SetVariableArgs.sessionValue (args : SetVariableArgs) : TeecSession :=
  ⟨UInt32.ofNat (leValue (dataBytes args.data args.dataSize))⟩

/-- `IsSecureBootPolicyVariable`, over the table `mVariableType`. -/
def isSecureBootPolicyVariable (state : DriverState) (variableName : Str16)
    (vendorGuid : EfiGuid) : Bool :=
  state.variableType.contains (variableName, vendorGuid)

/-- `InternalGetVariable`, whose two reads go through the installed service, with the
value it hands back; no outcome if a read goes past the end of the result buffer. -/
def internalGetVariable (env : Environment) (state : DriverState) (variableName : Str16)
    (vendorGuid : EfiGuid) : Option (EfiStatus × List UInt8) × DriverState :=
  let (sized, state) := opteeRuntimeGetVariable env state
    ⟨some variableName, some vendorGuid, false, some 0, true⟩
  match sized with
  | none => (none, state)
  | some sized =>
    if sized.status ≠ EfiStatus.bufferTooSmall then (some (sized.status, []), state)
    else
      let turn := env state.position
      let state := { state with position := state.position + 1 }
      if !turn.poolAllocated then (some (EfiStatus.outOfResources, []), state)
      else
        let (read, state) := opteeRuntimeGetVariable env state
          ⟨some variableName, some vendorGuid, false, sized.dataSize, false⟩
        (read.map fun read => (read.status, if read.status.isError then [] else read.data), state)

/-- What `SecureBootHook` comes to before it measures: nothing to measure, or a read
of the variable. -/
inductive HookRead where
  | skipped
  | read (outcome : Option (EfiStatus × List UInt8))
  deriving DecidableEq, Repr

/-- `SecureBootHook`, up to the measurement itself. -/
def secureBootHook (env : Environment) (state : DriverState) (variableName : Str16)
    (vendorGuid : EfiGuid) : HookRead × DriverState :=
  let turn := env state.position
  let state := { state with position := state.position + 1 }
  if !turn.variableArchInstalled then (.skipped, state)
  else if !isSecureBootPolicyVariable state variableName vendorGuid then (.skipped, state)
  else
    let (outcome, state) := internalGetVariable env state variableName vendorGuid
    (.read outcome, state)

/-- `OpteeRuntimeSetVariable` up to the command: a status without one and the
session to store, if any, or the parameter block to send and its size. -/
def setVariableRequest (state : DriverState) (args : SetVariableArgs) :
    Except (EfiStatus × Option TeecSession) (VariableSetParam × UInt32 × Str16 × EfiGuid) :=
  let ended (status : EfiStatus) := (status, none)
  if state.atRuntime then .error (ended EfiStatus.unsupported)
  else match args.variableName, args.vendorGuid with
    | some variableName, some vendorGuid =>
      if variableName.first = 0 then .error (ended EfiStatus.invalidParameter)
      else if args.dataSize ≠ 0 ∧ args.data.isNone then .error (ended EfiStatus.invalidParameter)
      else if !state.sessionOpened then .error (ended EfiStatus.notReady)
      -- test hook: the variable's value becomes the session identifier
      else if isSessionHook variableName vendorGuid args.dataSize then
        .error (EfiStatus.success, some args.sessionValue)
      else
        let variableNameSize := variableName.strSize
        if variableNameSize ≥ state.paramMem.size ∨ args.dataSize ≥ state.paramMem.size then
          .error (ended EfiStatus.badBufferSize)
        else
          let paramSize := sizeofVariableSetParam.toUInt64 + variableNameSize + args.dataSize
          if paramSize > state.paramMem.size then .error (ended EfiStatus.badBufferSize)
          else
            .ok (⟨sizeofVariableSetParam, variableNameSize.toUInt16, vendorGuid, args.attributes,
                args.dataSize.toUInt32, 0, variableNameSize.toUInt32,
                variableName.bytes ++ dataBytes args.data args.dataSize⟩,
              paramSize.toUInt32, variableName, vendorGuid)
    | _, _ => .error (ended EfiStatus.invalidParameter)

/-- What `OpteeRuntimeSetVariable` does before it sends a command: it fails, it is
the test hook, or it has a request. -/
theorem setVariableRequest_cases (state : DriverState) (args : SetVariableArgs) :
    (∃ status ∈ refusals, setVariableRequest state args = .error (status, none) ∧
      (state.Ready → args.isSessionHook = false)) ∨
    (args.isSessionHook = true ∧
      setVariableRequest state args = .error (EfiStatus.success, some args.sessionValue)) ∨
    (∃ request, setVariableRequest state args = .ok request ∧ args.isSessionHook = false) := by
  unfold setVariableRequest SetVariableArgs.isSessionHook
  dsimp only
  split
  · rename_i runtime
    refine .inl ⟨_, by decide, rfl, fun ready => ?_⟩
    rw [ready.bootTime] at runtime
    cases runtime
  split
  · rename_i variableName vendorGuid named spaced
    split
    · rename_i empty
      refine .inl ⟨_, by decide, rfl, fun _ => ?_⟩
      simp [AuthVar.isSessionHook, empty]
    split
    · rename_i missing
      refine .inl ⟨_, by decide, rfl, fun _ => ?_⟩
      rw [Option.isNone_iff_eq_none.mp missing.2]
      rfl
    rename_i present
    split
    · rename_i closed
      refine .inl ⟨_, by decide, rfl, fun ready => ?_⟩
      rw [ready.opened] at closed
      cases closed
    split
    · rename_i hooked
      refine .inr (.inl ⟨?_, rfl⟩)
      have eight : args.dataSize = 8 := by
        simp only [AuthVar.isSessionHook, Bool.and_eq_true, decide_eq_true_eq] at hooked
        exact hooked.2
      have given : args.data.isSome = true := by
        cases stored : args.data with
        | some bytes => rfl
        | none => exact absurd ⟨by rw [eight]; decide, by rw [stored]; rfl⟩ present
      rw [given, hooked]
      rfl
    · rename_i plain
      have unhooked : (args.data.isSome &&
          AuthVar.isSessionHook variableName vendorGuid args.dataSize) = false := by
        rw [Bool.eq_false_iff.mpr plain, Bool.and_false]
      split
      · exact .inl ⟨_, by decide, rfl, fun _ => unhooked⟩
      split
      · exact .inl ⟨_, by decide, rfl, fun _ => unhooked⟩
      · exact .inr (.inr ⟨_, rfl, unhooked⟩)
  · exact .inl ⟨_, by decide, rfl, fun _ => rfl⟩

def opteeRuntimeSetVariable (env : Environment) (state : DriverState) (args : SetVariableArgs) :
    EfiStatus × DriverState :=
  match setVariableRequest state args with
  | .error (status, stored) => (status, { state with session := stored.getD state.session })
  | .ok (param, paramSize, variableName, vendorGuid) =>
    let (invoked, after) := opteeRuntimeVariableInvokeCommand env state .set (.set param) paramSize
      none
    if invoked.status.isError then (invoked.status, after)
    else (invoked.status, (secureBootHook env after variableName vendorGuid).2)

/-! ### QueryVariableInfo -/

/-- The arguments of `OpteeRuntimeQueryVariableInfo`; the three result pointers
only matter for whether one of them is null. -/
structure QueryVariableInfoArgs where
  attributes : UInt32
  resultNull : Bool

/-- The status, and the three sizes if they were stored. -/
structure QueryVariableInfoOutcome where
  status : EfiStatus
  sizes : Option (UInt64 × UInt64 × UInt64)
  deriving DecidableEq, Repr

/-- `OpteeRuntimeQueryVariableInfo` up to the command. -/
def queryVariableInfoRequest (state : DriverState) (args : QueryVariableInfoArgs) :
    Except EfiStatus VariableQueryParam :=
  if state.atRuntime then .error EfiStatus.unsupported
  else if args.resultNull ∨ args.attributes = 0 then .error EfiStatus.invalidParameter
  else if !state.sessionOpened then .error EfiStatus.notReady
  else if state.paramMem.buffer = 0 ∨ state.resultMem.buffer = 0 then
    .error EfiStatus.outOfResources
  else if sizeofVariableQueryParam.toUInt64 > state.paramMem.size ∨
      sizeofVariableQueryResult.toUInt64 > state.resultMem.size then
    .error EfiStatus.badBufferSize
  else .ok ⟨sizeofVariableQueryParam, args.attributes⟩

/-- `OpteeRuntimeQueryVariableInfo` after the command. -/
def finishQueryVariableInfo (mem : TransportMem) (invoked : Invoked) :
    Option QueryVariableInfoOutcome := do
  if invoked.status.isError then pure ⟨invoked.status, none⟩
  else do
    let maximum ← readField mem invoked.result 8 8
    let remaining ← readField mem invoked.result 16 8
    let single ← readField mem invoked.result 24 8
    pure ⟨invoked.status, some (UInt64.ofNat maximum, UInt64.ofNat remaining,
      UInt64.ofNat single)⟩

def opteeRuntimeQueryVariableInfo (env : Environment) (state : DriverState)
    (args : QueryVariableInfoArgs) : Option QueryVariableInfoOutcome × DriverState :=
  match queryVariableInfoRequest state args with
  | .error status => (some ⟨status, none⟩, state)
  | .ok param =>
    let (invoked, after) := opteeRuntimeVariableInvokeCommand env state .queryInfo (.query param)
      sizeofVariableQueryParam (some sizeofVariableQueryResult)
    (finishQueryVariableInfo state.resultMem invoked, after)

/-! ### What the services answer with -/

/-- What is left of `OpteeRuntimeGetVariable` once the header is read. -/
theorem finishGetVariable_eq (mem : TransportMem) (wantsAttributes : Bool)
    (request : GetVariableRequest) (invoked : Invoked) :
    finishGetVariable mem wantsAttributes request invoked =
      let size := headerField invoked.result 8 4
      let dataSize : UInt64 :=
        if invoked.status = EfiStatus.bufferTooSmall then
          invoked.resultSize.toUInt64 - sizeofVariableGetResult.toUInt64
        else if invoked.status = EfiStatus.success then UInt64.ofNat size
        else request.dataSize
      let attributes :=
        if wantsAttributes then some (UInt32.ofNat (headerField invoked.result 4 4)) else none
      if invoked.status.isError then some ⟨invoked.status, attributes, some dataSize, []⟩
      else if size > request.localDataSize.toNat then
        some ⟨EfiStatus.badBufferSize, attributes, some dataSize, []⟩
      else (readResult mem invoked.result 12 size).map fun data =>
        ⟨invoked.status, attributes, some dataSize, data⟩ := by
  unfold finishGetVariable
  rw [readField_header mem invoked.result (show 8 + 4 ≤ 44 by decide),
    readField_header mem invoked.result (show 4 + 4 ≤ 44 by decide)]
  dsimp only [Option.bind_eq_bind, Option.bind_some]
  split
  · rfl
  split
  · rfl
  · cases readResult mem invoked.result 12 (headerField invoked.result 8 4) <;> rfl

theorem finishGetVariable_success {wantsAttributes : Bool} {request : GetVariableRequest}
    {outcome : GetVariableOutcome}
    (finished : finishGetVariable mem wantsAttributes request invoked = some outcome)
    (success : outcome.status = EfiStatus.success) : invoked.status = EfiStatus.success := by
  rw [finishGetVariable_eq] at finished
  dsimp only at finished
  split at finished
  · cases finished
    exact success
  split at finished
  · cases finished
    cases success
  · obtain ⟨data, _, rfl⟩ := Option.map_eq_some_iff.mp finished
    exact success

/-- What is left of `OpteeRuntimeGetNextVariableName` once the header is read. -/
theorem finishGetNextVariableName_eq (mem : TransportMem) (request : GetNextVariableNameRequest)
    (invoked : Invoked) :
    finishGetNextVariableName mem request invoked =
      let size := headerField invoked.result 4 2
      let nameSize : UInt64 :=
        if invoked.status = EfiStatus.bufferTooSmall then
          invoked.resultSize.toUInt64 - sizeofVariableGetNextResult.toUInt64
        else if invoked.status = EfiStatus.success then UInt64.ofNat size
        else request.variableNameSize
      if invoked.status.isError then some ⟨invoked.status, some nameSize, [], []⟩
      else if size > request.localOutVariableNameSize.toNat then
        some ⟨EfiStatus.badBufferSize, some nameSize, [], []⟩
      else (readResult mem invoked.result 24 size).map fun name =>
        ⟨invoked.status, some nameSize,
          (List.range 16).map fun index => invoked.result (8 + index), name⟩ := by
  unfold finishGetNextVariableName
  rw [readField_header mem invoked.result (show 4 + 2 ≤ 44 by decide),
    readResult_of_le mem invoked.result
      (Nat.le_trans (show 8 + 16 ≤ 44 by decide) mem.room_toNat)]
  dsimp only [Option.bind_eq_bind, Option.bind_some]
  split
  · rfl
  split
  · rfl
  · cases readResult mem invoked.result 24 (headerField invoked.result 4 2) <;> rfl

theorem finishGetNextVariableName_success {request : GetNextVariableNameRequest}
    {outcome : GetNextVariableNameOutcome}
    (finished : finishGetNextVariableName mem request invoked = some outcome)
    (success : outcome.status = EfiStatus.success) : invoked.status = EfiStatus.success := by
  rw [finishGetNextVariableName_eq] at finished
  dsimp only at finished
  split at finished
  · cases finished
    exact success
  split at finished
  · cases finished
    cases success
  · obtain ⟨name, _, rfl⟩ := Option.map_eq_some_iff.mp finished
    exact success

theorem finishQueryVariableInfo_status {outcome : QueryVariableInfoOutcome}
    (finished : finishQueryVariableInfo mem invoked = some outcome) :
    outcome.status = invoked.status := by
  unfold finishQueryVariableInfo at finished
  rw [readField_header mem invoked.result (show 8 + 8 ≤ 44 by decide),
    readField_header mem invoked.result (show 16 + 8 ≤ 44 by decide),
    readField_header mem invoked.result (show 24 + 8 ≤ 44 by decide)] at finished
  dsimp only [Option.bind_eq_bind, Option.bind_some] at finished
  split at finished
  · cases finished
    rfl
  · cases finished
    rfl

/-! ### The session -/

/-- What `TaOpenSession` meets: the reply to the open-session message, the
platform's variable sizes, and the addresses of the transport buffers, zero where
there was no memory. -/
structure Opening where
  messageAllocated : Bool
  reply : SmcReturn 6
  pcdMaxVariableSize : UInt32
  pcdMaxHardwareErrorVariableSize : UInt32
  paramBuffer : UInt64
  resultBuffer : UInt64

/-- The larger of the platform's variable sizes. -/
def Opening.largestVariable (opening : Opening) : UInt32 :=
  if opening.pcdMaxVariableSize > opening.pcdMaxHardwareErrorVariableSize then
    opening.pcdMaxVariableSize
  else opening.pcdMaxHardwareErrorVariableSize

def Opening.transportSize (opening : Opening) : UInt64 :=
  opening.largestVariable.toUInt64 + sizeofVariableParam.toUInt64

theorem Opening.transportSize_room (opening : Opening) :
    sizeofVariableParam.toUInt64 ≤ opening.transportSize := by
  have bound := opening.largestVariable.toNat_lt
  rw [UInt64.le_iff_toNat_le, Opening.transportSize, UInt64.toNat_add,
    UInt32.toNat_toUInt64 opening.largestVariable,
    show sizeofVariableParam.toUInt64.toNat = 44 from rfl]
  omega

def gOpteeAuthVarTaGuid : EfiGuid :=
  ⟨0x2d57c0f7, 0xbddf, 0x48ea, #v[0x83, 0x2f, 0xd8, 0x4a, 0x1a, 0x21, 0x93, 0x01]⟩

/-- `TaOpenSession`, after which the services are installed. -/
def taOpenSession (opening : Opening) (mVariableType : List (Str16 × EfiGuid)) :
    Except EfiStatus DriverState :=
  let outcome := teecSmcOpenSession ⟨0⟩ (taUuid gOpteeAuthVarTaGuid)
    ⟨0, Vector.replicate 4 ⟨0, 0, 0⟩⟩ opening.messageAllocated fun _ => opening.reply
  if outcome.result ≠ TeecResult.success then .error EfiStatus.protocolError
  else if opening.paramBuffer = 0 then .error EfiStatus.outOfResources
  else if opening.resultBuffer = 0 then .error EfiStatus.outOfResources
  else
    .ok {
      atRuntime := false
      session := outcome.session
      sessionOpened := true
      paramMem := ⟨opening.paramBuffer, opening.transportSize, opening.transportSize_room⟩
      resultMem := ⟨opening.resultBuffer, opening.transportSize, opening.transportSize_room⟩
      variableType := mVariableType
      exchanges := []
      position := 0 }

def platformOpening : Opening where
  messageAllocated := true
  reply := ⟨smcReturnOk, { MsgArg.zero 6 with session := 7 }⟩
  pcdMaxVariableSize := 0x10000
  pcdMaxHardwareErrorVariableSize := 0x8000
  paramBuffer := 0x1000
  resultBuffer := 0x20000

/-- The driver after it. -/
def openedDriver : DriverState where
  atRuntime := false
  session := ⟨7⟩
  sessionOpened := true
  paramMem := ⟨0x1000, 0x1002C, by decide⟩
  resultMem := ⟨0x20000, 0x1002C, by decide⟩
  variableType := []
  exchanges := []
  position := 0

theorem taOpenSession_platform : taOpenSession platformOpening [] = .ok openedDriver := rfl

end MuRockchip.AuthVar
