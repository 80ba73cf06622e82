/-
The message codec of secure-world calls (`OpteeClientSMC.c`).

A call allocates a message in shared memory, encodes the caller's four operation
parameters into message slots (`SetMsgParams`), lets the secure world run, and
decodes message slots back into the operation (`GetMsgParams`). Opening a session
prepends two meta parameters, so its operation parameters start at the third slot.

* `getMsgParams_slot`, `setMsgParams_slot`: which slot each parameter goes to and
  comes from.
* `decode_encode`: a slot decodes to the parameter that was encoded in it.
* `invokeCommand_agrees`: invoking a command reads every parameter back from the
  slot it was encoded in.
* `slotAgreement_iff`: opening a session does so exactly when the operation
  carries no parameter.
-/
import Mathlib.Data.List.FinRange
import Mathlib.Tactic.FinCases
import MuRockchip.Base.Bytes
import MuRockchip.Uefi.Types

namespace MuRockchip.Optee

open MuRockchip.Base

/-! ### Operations -/

/-- `TEEC_Parameter`, a union of three machine words: a value pair in the halves
of the first word, or the buffer and size of a memory reference. -/
structure TeecParameter where
  word0 : UInt64
  word1 : UInt64
  word2 : UInt64
  deriving DecidableEq, Repr

namespace TeecParameter

/-- `value.a`. -/
def valueA (param : TeecParameter) : UInt32 := UInt32.ofNat (param.word0.toNat % 2 ^ 32)

/-- `value.b`. -/
def valueB (param : TeecParameter) : UInt32 := UInt32.ofNat (param.word0.toNat / 2 ^ 32)

/-- Store `value.a` and `value.b`. -/
def setValue (param : TeecParameter) (a b : UInt32) : TeecParameter :=
  { param with word0 := UInt64.ofNat (a.toNat + 2 ^ 32 * b.toNat) }

/-- `tmpref.buffer`. -/
def buffer (param : TeecParameter) : UInt64 := param.word0

/-- `tmpref.size`. -/
def size (param : TeecParameter) : UInt64 := param.word1

/-- Store `tmpref.buffer` and `tmpref.size`. -/
def setTmpref (param : TeecParameter) (buffer size : UInt64) : TeecParameter :=
  { param with word0 := buffer, word1 := size }

end TeecParameter

/-- `TEEC_Operation`, the fields the codec reads. -/
structure TeecOperation where
  paramTypes : UInt32
  params : Vector TeecParameter 4
  deriving DecidableEq, Repr

/-- `TEEC_PARAM_TYPE_GET`. -/
def paramTypeGet (paramTypes : UInt32) (index : Nat) : UInt32 :=
  (paramTypes >>> UInt32.ofNat (index * 4)) &&& 0xF

def teecNone : UInt32 := 0
def teecValueInput : UInt32 := 1
def teecValueOutput : UInt32 := 2
def teecValueInout : UInt32 := 3
def teecMemrefTempInput : UInt32 := 5
def teecMemrefTempOutput : UInt32 := 6
def teecMemrefTempInout : UInt32 := 7

/-- The branches of the codec's `switch` over a parameter type. -/
inductive ParamKind where
  | none
  | value
  | tempMemref
  | unsupported
  deriving DecidableEq, Repr

def paramKind (attr : UInt32) : ParamKind :=
  if attr = teecNone then .none
  else if attr = teecValueInput ∨ attr = teecValueOutput ∨ attr = teecValueInout then .value
  else if attr = teecMemrefTempInput ∨ attr = teecMemrefTempOutput ∨ attr = teecMemrefTempInout then
    .tempMemref
  else .unsupported

def TeecOperation.kind (operation : TeecOperation) (index : Nat) : ParamKind :=
  paramKind (paramTypeGet operation.paramTypes index)

/-! ### Messages -/

/-- `optee_msg_param`: an attribute and a union of three words, `a`, `b`, `c` of a
value or `buf_ptr`, `size`, `shm_ref` of a temporary memory reference. -/
structure MsgParam where
  attr : UInt64
  word0 : UInt64
  word1 : UInt64
  word2 : UInt64
  deriving DecidableEq, Repr

/-- `OPTEE_MSG_ATTR_GET_TYPE`. -/
def MsgParam.type (param : MsgParam) : UInt64 := param.attr &&& 0xFF

/-- What `ZeroMem` leaves. -/
def MsgParam.zero : MsgParam := ⟨0, 0, 0, 0⟩

def msgAttrTypeNone : UInt32 := 0x0
def msgAttrTypeValueInput : UInt32 := 0x1
def msgAttrTypeValueOutput : UInt32 := 0x2
def msgAttrTypeTmemInput : UInt32 := 0x9
def msgAttrTypeTmemOutput : UInt32 := 0xA
def msgAttrMeta : UInt32 := 0x100

/-- `optee_msg_arg` with room for `slots` parameters. -/
structure MsgArg (slots : Nat) where
  cmd : UInt32
  func : UInt32
  session : UInt32
  ret : UInt32
  retOrigin : UInt32
  numParams : UInt32
  params : Vector MsgParam slots
  deriving DecidableEq, Repr

/-- What `ZeroMem` leaves. -/
def MsgArg.zero (slots : Nat) : MsgArg slots :=
  ⟨0, 0, 0, 0, 0, 0, Vector.replicate slots MsgParam.zero⟩

/-- `MsgArg->Params[0]`. -/
def MsgArg.param {slots : Nat} (msgArg : MsgArg (slots + 1)) : MsgParam := msgArg.params.get 0

/-- `MsgArg->Params[0]` is set. -/
def MsgArg.setParam {slots : Nat} (msgArg : MsgArg (slots + 1)) (param : MsgParam) :
    MsgArg (slots + 1) :=
  { msgArg with params := msgArg.params.set 0 param slots.succ_pos }

@[simp] theorem MsgArg.param_setParam {slots : Nat} (msgArg : MsgArg (slots + 1))
    (param : MsgParam) : (msgArg.setParam param).param = param :=
  Vector.getElem_set_self slots.succ_pos

def msgCmdOpenSession : UInt32 := 0
def msgCmdInvokeCommand : UInt32 := 1

/-- One round of `SetMsgParams`: what it stores in a slot. A type outside the
supported ones stores nothing. -/
def encodeParam (attr : UInt32) (param : TeecParameter) (slot : MsgParam) : MsgParam :=
  match paramKind attr with
  | .none => { slot with attr := msgAttrTypeNone.toUInt64 }
  | .value =>
    { slot with
      attr := (msgAttrTypeValueInput + (attr - teecValueInput)).toUInt64
      word0 := param.valueA.toUInt64
      word1 := param.valueB.toUInt64 }
  | .tempMemref =>
    { slot with
      attr := (msgAttrTypeTmemInput + (attr - teecMemrefTempInput)).toUInt64
      word0 := param.buffer
      word1 := param.size }
  | .unsupported => slot

/-- One round of `GetMsgParams`: what it stores in a parameter. -/
def decodeParam (attr : UInt32) (slot : MsgParam) (param : TeecParameter) : TeecParameter :=
  match paramKind attr with
  | .none => param
  | .value => param.setValue slot.word0.toUInt32 slot.word1.toUInt32
  | .tempMemref => param.setTmpref slot.word0 slot.word1
  | .unsupported => param

section

variable {slots : Nat} (base : Nat) (room : base + 4 ≤ slots)

/-- One round of the loop of `SetMsgParams`, on the slots from `base` on. -/
def setMsgParam (operation : TeecOperation) (params : Vector MsgParam slots) (index : Fin 4) :
    Vector MsgParam slots :=
  params.set (base + index.val)
    (encodeParam (paramTypeGet operation.paramTypes index.val) operation.params[index.val]
      params[base + index.val])

def setMsgParams (operation : TeecOperation) (params : Vector MsgParam slots) :
    Vector MsgParam slots :=
  (List.finRange 4).foldl (setMsgParam base room operation) params

/-- One round of the loop of `GetMsgParams`, on the slots from `base` on. -/
def getMsgParam (params : Vector MsgParam slots) (operation : TeecOperation) (index : Fin 4) :
    TeecOperation :=
  { operation with
    params := operation.params.set index.val
      (decodeParam (paramTypeGet operation.paramTypes index.val) params[base + index.val]
        operation.params[index.val]) }

def getMsgParams (params : Vector MsgParam slots) (operation : TeecOperation) : TeecOperation :=
  (List.finRange 4).foldl (getMsgParam base room params) operation

/-- Storing the value pair a parameter already has changes nothing. -/
theorem TeecParameter.setValue_self (param : TeecParameter) :
    param.setValue param.valueA.toUInt64.toUInt32 param.valueB.toUInt64.toUInt32 = param := by
  have bound := param.word0.toNat_lt
  have word : UInt64.ofNat ((UInt32.ofNat (param.word0.toNat % 2 ^ 32)).toNat +
      2 ^ 32 * (UInt32.ofNat (param.word0.toNat / 2 ^ 32)).toNat) = param.word0 := by
    apply UInt64.toNat_inj.mp
    simp only [UInt64.toNat_ofNat', UInt32.toNat_ofNat']
    omega
  simp only [setValue, valueA, valueB, UInt32.toUInt32_toUInt64, word]

theorem TeecParameter.valueA_setValue (param : TeecParameter) (a b : UInt32) :
    (param.setValue a b).valueA = a := by
  have boundA := a.toNat_lt
  have boundB := b.toNat_lt
  apply UInt32.toNat_inj.mp
  simp only [setValue, valueA, UInt64.toNat_ofNat', UInt32.toNat_ofNat']
  omega

theorem decode_encode {attr : UInt32} (supported : paramKind attr ≠ .unsupported)
    (param : TeecParameter) (slot : MsgParam) :
    decodeParam attr (encodeParam attr param slot) param = param := by
  cases kind : paramKind attr with
  | none => simp only [decodeParam, kind]
  | value => simp only [decodeParam, encodeParam, kind, TeecParameter.setValue_self]
  | tempMemref => simp only [decodeParam, encodeParam, kind]; rfl
  | unsupported => exact absurd kind supported

theorem setMsgParams_slot (operation : TeecOperation) (params : Vector MsgParam slots)
    (index : Fin 4) :
    (setMsgParams base room operation params)[base + index.val] =
      encodeParam (paramTypeGet operation.paramTypes index.val) operation.params[index.val]
        params[base + index.val] := by
  fin_cases index <;>
    simp [setMsgParams, setMsgParam, List.finRange_succ]

theorem getMsgParams_slot (params : Vector MsgParam slots) (operation : TeecOperation)
    (index : Fin 4) :
    (getMsgParams base room params operation).params[index.val] =
      decodeParam (paramTypeGet operation.paramTypes index.val) params[base + index.val]
        operation.params[index.val] := by
  fin_cases index <;>
    simp [getMsgParams, getMsgParam, List.finRange_succ]

end

/-! ### Calls -/

structure TeecSession where
  sessionId : UInt32
  deriving DecidableEq, Repr

structure TeecUuid where
  timeLow : UInt32
  timeMid : UInt16
  timeHiAndVersion : UInt16
  clockSeqAndNode : Vector UInt8 8
  deriving DecidableEq, Repr

/-- The bytes of a `TEEC_UUID`. -/
def TeecUuid.bytes (uuid : TeecUuid) : List UInt8 :=
  leBytes 4 uuid.timeLow.toNat ++ leBytes 2 uuid.timeMid.toNat ++
    leBytes 2 uuid.timeHiAndVersion.toNat ++ uuid.clockSeqAndNode.toList

/-- The bytes of a word in the opposite order. -/
def swapBytes (width value : Nat) : Nat := leValue (leBytes width value).reverse

/-- A trusted application's identifier, with its integers in the order the secure world
expects. -/
def taUuid (guid : EfiGuid) : TeecUuid where
  timeLow := UInt32.ofNat (swapBytes 4 guid.data1.toNat)
  timeMid := UInt16.ofNat (swapBytes 2 guid.data2.toNat)
  timeHiAndVersion := UInt16.ofNat (swapBytes 2 guid.data3.toNat)
  clockSeqAndNode := guid.data4

def teecOriginApi : UInt32 := 1
def teecOriginComms : UInt32 := 2
def teecLoginPublic : UInt32 := 0

/-- `OPTEE_SMC_RETURN_OK`. -/
def smcReturnOk : UInt64 := 0x0

/-- `OPTEE_SMC_RETURN_UNKNOWN_FUNCTION`. -/
def smcReturnUnknownFunction : UInt64 := 0xFFFFFFFF

/-- The return of the monitor call that ends the loop of `OpteeSmcCall`, after any
number of requests served for the secure world: its first register, and the
message as the secure world leaves it in shared memory. -/
structure SmcReturn (slots : Nat) where
  arg0 : UInt64
  message : MsgArg slots

/-- The result `OpteeSmcCall` makes of the register. -/
def smcResult (arg0 : UInt64) : TeecResult :=
  if arg0 = smcReturnUnknownFunction then TeecResult.errorNotImplemented
  else if arg0 ≠ smcReturnOk then TeecResult.errorCommunication
  else TeecResult.success

/-- What a call hands back to its caller. -/
structure CallOutcome where
  result : TeecResult
  errorOrigin : UInt32
  session : TeecSession
  operation : TeecOperation
  deriving DecidableEq, Repr

/-- The message `TEEC_SMC_OpenSession` builds: two meta parameters, then the
caller's. -/
def openSessionMessage (destination : TeecUuid) (operation : TeecOperation) : MsgArg 6 :=
  let zero := MsgArg.zero 6
  let uuid : MsgParam :=
    { attr := (msgAttrTypeValueInput ||| msgAttrMeta).toUInt64
      word0 := UInt64.ofNat (leValue (destination.bytes.take 8))
      word1 := UInt64.ofNat (leValue (destination.bytes.drop 8))
      word2 := 0 }
  let login : MsgParam :=
    { MsgParam.zero with
      attr := (msgAttrTypeValueInput ||| msgAttrMeta).toUInt64
      word2 := teecLoginPublic.toUInt64 }
  { zero with
    cmd := msgCmdOpenSession
    numParams := 6
    params := setMsgParams 2 (by omega) operation ((zero.params.set 0 uuid).set 1 login) }

def teecSmcOpenSession (session : TeecSession) (destination : TeecUuid) (operation : TeecOperation)
    (allocated : Bool) (world : MsgArg 6 → SmcReturn 6) : CallOutcome :=
  if allocated then
    let reply := world (openSessionMessage destination operation)
    let result := smcResult reply.arg0
    if result ≠ TeecResult.success then ⟨result, teecOriginComms, session, operation⟩
    else
      -- the decoder is handed the message from its first slot on
      ⟨reply.message.ret, reply.message.retOrigin, ⟨reply.message.session⟩,
        getMsgParams 0 (by omega) reply.message.params operation⟩
  else ⟨TeecResult.errorOutOfMemory, teecOriginApi, session, operation⟩

/-- The message `TEEC_SMC_InvokeCommand` builds. -/
def invokeCommandMessage (session : TeecSession) (cmdId : UInt32) (operation : TeecOperation) :
    MsgArg 4 :=
  let zero := MsgArg.zero 4
  { zero with
    cmd := msgCmdInvokeCommand
    func := cmdId
    session := session.sessionId
    numParams := 4
    params := setMsgParams 0 (by omega) operation zero.params }

def teecSmcInvokeCommand (session : TeecSession) (cmdId : UInt32) (operation : TeecOperation)
    (allocated : Bool) (world : MsgArg 4 → SmcReturn 4) : CallOutcome :=
  if allocated then
    let reply := world (invokeCommandMessage session cmdId operation)
    let result := smcResult reply.arg0
    if result ≠ TeecResult.success then ⟨result, teecOriginComms, session, operation⟩
    else
      ⟨reply.message.ret, reply.message.retOrigin, session,
        getMsgParams 0 (by omega) reply.message.params operation⟩
  else ⟨TeecResult.errorOutOfMemory, teecOriginApi, session, operation⟩

/-! ### Slot agreement -/

/-- The two entry points that carry operation parameters. -/
inductive Entry where
  | openSession (destination : TeecUuid)
  | invokeCommand (cmdId : UInt32)
  deriving DecidableEq, Repr

namespace Entry

/-- The slot of the first operation parameter. -/
def base : Entry → Nat
  | openSession _ => 2
  | invokeCommand _ => 0

/-- The slots of the message. -/
def slots : Entry → Nat
  | openSession _ => 6
  | invokeCommand _ => 4

theorem slots_eq (entry : Entry) : entry.base + 4 = entry.slots := by
  cases entry <;> rfl

theorem slot_lt (entry : Entry) (index : Fin 4) : entry.base + index.val < entry.slots := by
  have room := entry.slots_eq
  omega

/-- The message the secure world is handed. -/
def message (entry : Entry) (session : TeecSession) (operation : TeecOperation) :
    MsgArg entry.slots :=
  match entry with
  | openSession destination => openSessionMessage destination operation
  | invokeCommand cmdId => invokeCommandMessage session cmdId operation

/-- The call, with the message allocated. -/
def call (entry : Entry) (session : TeecSession) (operation : TeecOperation)
    (world : MsgArg entry.slots → SmcReturn entry.slots) : CallOutcome :=
  match entry with
  | openSession destination => teecSmcOpenSession session destination operation true world
  | invokeCommand cmdId => teecSmcInvokeCommand session cmdId operation true world

/-- The slot of operation parameter `index` in a message. -/
def slot (entry : Entry) (params : Vector MsgParam entry.slots) (index : Fin 4) : MsgParam :=
  params.get ⟨entry.base + index.val, entry.slot_lt index⟩

end Entry

/-- Every parameter is a `TEEC_NONE`, `TEEC_VALUE_*` or `TEEC_MEMREF_TEMP_*`. -/
def TeecOperation.Supported (operation : TeecOperation) : Prop :=
  ∀ index : Fin 4, operation.kind index ≠ .unsupported

/-- Every parameter is read back from the slot it was encoded in, whatever the
secure world leaves in the message. -/
structure SlotAgreement (entry : Entry) (session : TeecSession) (operation : TeecOperation) :
    Prop where
  encodes : ∀ index : Fin 4, ∃ old,
    entry.slot (entry.message session operation).params index =
      encodeParam (paramTypeGet operation.paramTypes index) operation.params[index] old
  readsBack : ∀ reply : SmcReturn entry.slots, smcResult reply.arg0 = TeecResult.success →
    ∀ index : Fin 4, (entry.call session operation fun _ => reply).operation.params[index] =
      decodeParam (paramTypeGet operation.paramTypes index)
        (entry.slot reply.message.params index) operation.params[index]
  echo : ∀ reply : SmcReturn entry.slots, smcResult reply.arg0 = TeecResult.success →
    reply.message.params = (entry.message session operation).params →
    (entry.call session operation fun _ => reply).operation = operation
  single : ∀ reply : SmcReturn entry.slots, smcResult reply.arg0 = TeecResult.success →
    ∀ changed : Fin 4, (∀ other : Fin entry.slots, other.val ≠ entry.base + changed.val →
        reply.message.params.get other = (entry.message session operation).params.get other) →
      ∀ index : Fin 4, index ≠ changed →
        (entry.call session operation fun _ => reply).operation.params[index] =
          operation.params[index]

theorem Entry.call_operation (entry : Entry) (session : TeecSession) (operation : TeecOperation)
    {reply : SmcReturn entry.slots} (returned : smcResult reply.arg0 = TeecResult.success)
    (room : 0 + 4 ≤ entry.slots) :
    (entry.call session operation fun _ => reply).operation =
      getMsgParams 0 room reply.message.params operation := by
  cases entry with
  | openSession destination =>
    simp only [Entry.call, teecSmcOpenSession, returned, ne_eq, not_true_eq_false, if_true,
      if_false]
    rfl
  | invokeCommand cmdId =>
    simp only [Entry.call, teecSmcInvokeCommand, returned, ne_eq, not_true_eq_false, if_true,
      if_false]
    rfl

/-- Both entry points encode parameter `index` in its slot past the meta
parameters. -/
theorem Entry.message_slot (entry : Entry) (session : TeecSession) (operation : TeecOperation)
    (index : Fin 4) : ∃ old, entry.slot (entry.message session operation).params index =
      encodeParam (paramTypeGet operation.paramTypes index) operation.params[index] old := by
  cases entry with
  | openSession destination => exact ⟨_, setMsgParams_slot 2 _ operation _ index⟩
  | invokeCommand cmdId => exact ⟨_, setMsgParams_slot 0 _ operation _ index⟩

variable {operation : TeecOperation}

/-- Reading back from the right slots is all there is: an unchanged slot then
decodes to the parameter it was encoded from. -/
theorem SlotAgreement.of_readsBack {entry : Entry} {session : TeecSession}
    (supported : operation.Supported)
    (readsBack : ∀ reply : SmcReturn entry.slots, smcResult reply.arg0 = TeecResult.success →
      ∀ index : Fin 4, (entry.call session operation fun _ => reply).operation.params[index] =
        decodeParam (paramTypeGet operation.paramTypes index)
          (entry.slot reply.message.params index) operation.params[index]) :
    SlotAgreement entry session operation := by
  have unchanged (reply : SmcReturn entry.slots)
      (returned : smcResult reply.arg0 = TeecResult.success) (index : Fin 4)
      (kept : entry.slot reply.message.params index =
        entry.slot (entry.message session operation).params index) :
      (entry.call session operation fun _ => reply).operation.params[index] =
        operation.params[index] := by
    obtain ⟨old, encoded⟩ := entry.message_slot session operation index
    rw [readsBack reply returned index, kept, encoded]
    exact decode_encode (supported index) _ _
  refine ⟨entry.message_slot session operation, readsBack, ?_, ?_⟩
  · intro reply returned kept
    have room : 0 + 4 ≤ entry.slots := by
      have slots := entry.slots_eq
      omega
    have types : (entry.call session operation fun _ => reply).operation.paramTypes =
        operation.paramTypes := by
      rw [entry.call_operation session operation returned room]
      rfl
    have params : (entry.call session operation fun _ => reply).operation.params =
        operation.params := by
      ext index inside : 1
      exact unchanged reply returned ⟨index, inside⟩ (by rw [kept])
    calc (entry.call session operation fun _ => reply).operation
        = ⟨(entry.call session operation fun _ => reply).operation.paramTypes,
            (entry.call session operation fun _ => reply).operation.params⟩ := rfl
      _ = operation := by rw [types, params]
  · intro reply returned changed others index different
    refine unchanged reply returned index (others ⟨_, entry.slot_lt index⟩ ?_)
    intro same
    exact different (Fin.ext (by simpa using same))

theorem invokeCommand_agrees (cmdId : UInt32) (session : TeecSession)
    (supported : operation.Supported) :
    SlotAgreement (.invokeCommand cmdId) session operation := by
  refine SlotAgreement.of_readsBack supported fun reply returned index => ?_
  rw [Entry.call_operation _ session operation returned (Nat.le_refl 4)]
  exact getMsgParams_slot 0 _ reply.message.params operation index

/-- An operation without parameters decodes nothing. -/
theorem noParams_agrees (entry : Entry) (session : TeecSession)
    (absent : ∀ index : Fin 4, operation.kind index = .none) :
    SlotAgreement entry session operation := by
  have supported : operation.Supported := fun index => by rw [absent index]; decide
  have room : 0 + 4 ≤ entry.slots := by
    have slots := entry.slots_eq
    omega
  refine SlotAgreement.of_readsBack supported fun reply returned index => ?_
  have nothing (slot : MsgParam) : decodeParam (paramTypeGet operation.paramTypes index) slot
      operation.params[index] = operation.params[index] := by
    have kind : paramKind (paramTypeGet operation.paramTypes index) = .none := absent index
    simp only [decodeParam, kind]
  rw [Entry.call_operation _ session operation returned room, nothing]
  exact (getMsgParams_slot 0 room reply.message.params operation index).trans (nothing _)

/-- A reply to an open-session request that differs from the all-zero one in the
slot two below the one parameter `index` was encoded in. -/
def shiftedReply (index : Fin 4) : SmcReturn 6 :=
  { arg0 := smcReturnOk
    message := { MsgArg.zero 6 with
      params := (Vector.replicate 6 MsgParam.zero).set index.val ⟨0, 1, 0, 0⟩ } }

theorem decodeParam_word0 {attr : UInt32} (supported : paramKind attr ≠ .unsupported)
    (carries : paramKind attr ≠ .none) (param : TeecParameter) (attr' : UInt64) (word : UInt64)
    (small : word.toNat < 2 ^ 32) : (decodeParam attr ⟨attr', word, 0, 0⟩ param).word0 = word := by
  cases kind : paramKind attr with
  | none => exact absurd kind carries
  | value =>
    apply UInt64.toNat_inj.mp
    simp only [decodeParam, kind, TeecParameter.setValue, UInt64.toNat_ofNat',
      UInt64.toNat_toUInt32, UInt64.toNat_zero]
    omega
  | tempMemref => simp only [decodeParam, kind, TeecParameter.setTmpref]
  | unsupported => exact absurd kind supported

theorem openSession_reads_wrong_slot (destination : TeecUuid) (session : TeecSession)
    (supported : operation.Supported) {index : Fin 4} (carries : operation.kind index ≠ .none) :
    ¬ SlotAgreement (.openSession destination) session operation := by
  intro agreement
  have read := agreement.readsBack (shiftedReply index) rfl index
  have decoded : ((Entry.openSession destination).call session operation
      fun _ => shiftedReply index).operation.params[index.val] =
        decodeParam (paramTypeGet operation.paramTypes index)
          (shiftedReply index).message.params[0 + index.val] operation.params[index.val] :=
    getMsgParams_slot 0 (by omega) (shiftedReply index).message.params operation index
  rw [Fin.getElem_fin, Fin.getElem_fin, decoded] at read
  have source : (shiftedReply index).message.params[0 + index.val] = ⟨0, 1, 0, 0⟩ := by
    simp [shiftedReply]
  have encoded : (Entry.openSession destination).slot (shiftedReply index).message.params index =
      ⟨0, 0, 0, 0⟩ := by
    fin_cases index <;> rfl
  rw [source, encoded] at read
  have words := congrArg TeecParameter.word0 read
  have kinds := supported index
  rw [decodeParam_word0 kinds carries _ _ _ (by decide),
    decodeParam_word0 kinds carries _ _ _ (by decide)] at words
  exact absurd words (by decide)

/-- Slot agreement holds exactly of commands invoked, and of sessions opened
without parameters. -/
theorem slotAgreement_iff (entry : Entry) (session : TeecSession) (operation : TeecOperation)
    (supported : operation.Supported) :
    SlotAgreement entry session operation ↔
      (∃ cmdId, entry = .invokeCommand cmdId) ∨ ∀ index : Fin 4, operation.kind index = .none := by
  constructor
  · intro agreement
    cases entry with
    | invokeCommand cmdId => exact Or.inl ⟨cmdId, rfl⟩
    | openSession destination =>
      refine Or.inr fun index => ?_
      by_contra carries
      exact openSession_reads_wrong_slot destination session supported carries agreement
  · rintro (⟨cmdId, rfl⟩ | absent)
    · exact invokeCommand_agrees cmdId session supported
    · exact noParams_agrees entry session absent

/-- A command that carries a value pair and a buffer reads both back. -/
theorem slotAgreement_iff_invoke :
    SlotAgreement (.invokeCommand 7) ⟨3⟩
      ⟨0x0073, #v[⟨0x0000000600000005, 0, 0⟩, ⟨0x103FE000, 4096, 0⟩, ⟨0, 0, 0⟩, ⟨0, 0, 0⟩]⟩ :=
  (slotAgreement_iff (.invokeCommand 7) ⟨3⟩
    ⟨0x0073, #v[⟨0x0000000600000005, 0, 0⟩, ⟨0x103FE000, 4096, 0⟩, ⟨0, 0, 0⟩, ⟨0, 0, 0⟩]⟩
    (by unfold TeecOperation.Supported; decide)).mpr (Or.inl ⟨7, rfl⟩)

/-- A session opened with the value pair `(5, 6)` and answered without a change
to the message parameters comes back with halves of the service identifier. -/
theorem openSession_echo_changes_operation :
    ¬ SlotAgreement (.openSession ⟨0x11223344, 0x5566, 0x7788, #v[1, 2, 3, 4, 5, 6, 7, 8]⟩) ⟨0⟩
      ⟨0x0003, #v[⟨0x0000000600000005, 0, 0⟩, ⟨0, 0, 0⟩, ⟨0, 0, 0⟩, ⟨0, 0, 0⟩]⟩ := by
  intro agreement
  have echoed := agreement.echo
    ⟨smcReturnOk, openSessionMessage ⟨0x11223344, 0x5566, 0x7788, #v[1, 2, 3, 4, 5, 6, 7, 8]⟩
      ⟨0x0003, #v[⟨0x0000000600000005, 0, 0⟩, ⟨0, 0, 0⟩, ⟨0, 0, 0⟩, ⟨0, 0, 0⟩]⟩⟩ rfl rfl
  revert echoed
  decide

end MuRockchip.Optee
