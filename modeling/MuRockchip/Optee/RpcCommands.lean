/-
Commands of the secure world (`OpteeRpcCallback`, `OpteeClientRPC.c`).

The secure world passes the address of a message; the command in the message says which
handler serves it, and the result is stored in the message. Next to the handlers of
`RpcMemory` and `RpcTime` there are the one that loads a trusted application from the
firmware volumes, and the wait queue, which does nothing.

* `efiGuid_taUuid`: the identifier a client opens a session with is found again.
* `loadTa_confined`: what loading an application may change.
* `loadTa_two_calls`: the secure world learns the size with one request and gets the
  application with a second one.
-/
import MuRockchip.Optee.MsgLayout
import MuRockchip.Optee.RpcRegisters
import MuRockchip.Optee.RpcTime

namespace MuRockchip.Optee

open MuRockchip.Base

variable {region : SharedRegion}

/-- `MsgArg->Params[1]` of a message with two parameters. -/
def MsgArg.secondParam (msgArg : MsgArg 2) : MsgParam := msgArg.params.get 1

/-! ### Identifiers of trusted applications -/

namespace TeecUuid

/-- `CopyMem` of a `TEEC_UUID`. -/
def ofBytes (bytes : List UInt8) : TeecUuid where
  timeLow := UInt32.ofNat (leValue (bytes.take 4))
  timeMid := UInt16.ofNat (leValue ((bytes.drop 4).take 2))
  timeHiAndVersion := UInt16.ofNat (leValue ((bytes.drop 6).take 2))
  clockSeqAndNode := Vector.ofFn fun index => bytes[8 + index.val]?.getD 0

/-- The identifier in the byte order of the firmware: `SWAP_B32` and `SWAP_B16` of the
first fields. -/
def efiGuid (uuid : TeecUuid) : EfiGuid where
  data1 := UInt32.ofNat (swapBytes 4 uuid.timeLow.toNat)
  data2 := UInt16.ofNat (swapBytes 2 uuid.timeMid.toNat)
  data3 := UInt16.ofNat (swapBytes 2 uuid.timeHiAndVersion.toNat)
  data4 := uuid.clockSeqAndNode

end TeecUuid

/-- The first bytes of `u.value`. -/
def MsgParam.valueBytes (param : MsgParam) : List UInt8 :=
  leBytes 8 param.word0.toNat ++ leBytes 8 param.word1.toNat

/-! ### Handlers -/

def rpcCmdLoadTa : UInt32 := 0
def rpcCmdRpmb : UInt32 := 1
def rpcCmdGetTime : UInt32 := 3
def rpcCmdWaitQueue : UInt32 := 4
def rpcCmdShmAlloc : UInt32 := 6
def rpcCmdShmFree : UInt32 := 7

def rpcWaitQueueSleep : UInt64 := 0
def rpcWaitQueueWakeup : UInt64 := 1

/-- What the services of the firmware answer while a request is served: the memory-space
services, `GetSectionFromAnyFv`, the performance counter, and what the RPMB command makes
of the message at an address. -/
structure RpcServices where
  allocAnswer : Option Nat
  freeAnswer : EfiStatus
  sectionFromAnyFv : EfiGuid → Option (List UInt8)
  ticks : UInt64
  freq : UInt64
  rpmb : Memory → UInt64 → TeecResult × List MemStore

/-- The part of `OpteeRpcCmdLoadTa` before its exit: the result and the store it makes. -/
def loadTa (msgArg : MsgArg 2) (address : UInt64)
    (sectionFromAnyFv : EfiGuid → Option (List UInt8)) :
    TeecResult × List MemStore :=
  if msgArg.numParams ≠ 2 then (TeecResult.errorBadParameters, [])
  else if msgArg.param.type ≠ msgAttrTypeValueInput.toUInt64 ∨
      msgArg.secondParam.type ≠ msgAttrTypeTmemOutput.toUInt64 then
    (TeecResult.errorBadParameters, [])
  else
    let taUuid := TeecUuid.ofBytes msgArg.param.valueBytes
    let taBufferSize := msgArg.secondParam.word1
    match sectionFromAnyFv taUuid.efiGuid with
    | none => (TeecResult.errorItemNotFound, [])
    | some imageData =>
      let imageSize := UInt64.ofNat imageData.length
      if taBufferSize < imageSize then
        -- the secure world is told the size, and asks again
        (TeecResult.success,
          [⟨paramAddress address 1 + UInt64.ofNat 16, leBytes 8 imageSize.toNat⟩])
      else (TeecResult.success, [⟨msgArg.secondParam.word0, imageData.take imageSize.toNat⟩])

/-- `OpteeRpcCmdLoadTa` on the message at an address. -/
def opteeRpcCmdLoadTa (memory : Memory) (address : UInt64)
    (sectionFromAnyFv : EfiGuid → Option (List UInt8)) : TeecResult × List MemStore :=
  let (teecResult, stores) := loadTa (MsgArg.load 2 memory address) address sectionFromAnyFv
  (teecResult, stores ++
    [⟨retAddress address, leBytes 4 teecResult.toNat⟩,
      ⟨retOriginAddress address, leBytes 4 teecOriginApi.toNat⟩])

/-- `OpteeRpcCmdWaitQueue`: there is one thread, so there is nothing to wait for. -/
def opteeRpcCmdWaitQueue (msgArg : MsgArg 1) : TeecResult :=
  if msgArg.numParams ≠ 1 then TeecResult.errorBadParameters
  else if msgArg.param.type ≠ msgAttrTypeValueInput.toUInt64 then TeecResult.errorBadParameters
  else if msgArg.param.word0 = rpcWaitQueueSleep then TeecResult.success
  else if msgArg.param.word0 = rpcWaitQueueWakeup then TeecResult.success
  else TeecResult.errorNotImplemented

/-! ### Dispatch -/

def SharedMem.storing (shared : SharedMem region) (stores : List MemStore) : SharedMem region :=
  { shared with memory := shared.memory.storing stores }

/-- What a handler changed in the one parameter of its message. -/
def paramStores (address : UInt64) (before after : MsgArg 1) : List MemStore :=
  if after.param = before.param then [] else [⟨paramAddress address 0, after.param.bytes⟩]

/-- The handler of the command in the message at an address. -/
def rpcCmdHandler (services : RpcServices) (shared : SharedMem region) (address : UInt64) :
    TeecResult × SharedMem region :=
  let msgArg := MsgArg.load 1 shared.memory address
  if msgArg.cmd = rpcCmdLoadTa then
    let (teecResult, stores) :=
      opteeRpcCmdLoadTa shared.memory address services.sectionFromAnyFv
    (teecResult, shared.storing stores)
  else if msgArg.cmd = rpcCmdRpmb then
    let (teecResult, stores) := services.rpmb shared.memory address
    (teecResult, shared.storing stores)
  else if msgArg.cmd = rpcCmdGetTime then
    let (teecResult, reply) := opteeRpcCmdGetTime msgArg services.ticks services.freq
    (teecResult, shared.storing (paramStores address msgArg reply))
  else if msgArg.cmd = rpcCmdShmAlloc then
    let (teecResult, reply, after) := opteeRpcCmdShmAlloc shared msgArg services.allocAnswer
    (teecResult, after.storing (paramStores address msgArg reply))
  else if msgArg.cmd = rpcCmdShmFree then
    opteeRpcCmdShmFree shared msgArg services.freeAnswer
  else if msgArg.cmd = rpcCmdWaitQueue then (opteeRpcCmdWaitQueue msgArg, shared)
  else (TeecResult.errorNotImplemented, shared)

/-- The branch `OPTEE_SMC_RPC_FUNC_CMD` of `OpteeRpcCallback`. -/
def opteeRpcCmd (services : RpcServices) (address : UInt64) (shared : SharedMem region) :
    TeecResult × SharedMem region :=
  let (teecResult, after) := rpcCmdHandler services shared address
  (teecResult, after.storing [⟨retAddress address, leBytes 4 teecResult.toNat⟩])

/-! ### Identifiers -/

theorem swapBytes_lt (width value : Nat) : swapBytes width value < 256 ^ width := by
  have bound := leValue_lt (leBytes width value).reverse
  rwa [List.length_reverse, leBytes_length] at bound

/-- Swapping the bytes of a word twice gives the word. -/
theorem swapBytes_swapBytes (width : Nat) {value : Nat} (fits : value < 256 ^ width) :
    swapBytes width (swapBytes width value) = value := by
  have back := leBytes_leValue (leBytes width value).reverse
  rw [List.length_reverse, leBytes_length] at back
  rw [swapBytes, swapBytes, back, List.reverse_reverse, leValue_leBytes_of_lt fits]

namespace TeecUuid

/-- The identifier of a trusted application in the order of the secure world, swapped
back. -/
theorem efiGuid_taUuid (guid : EfiGuid) : (taUuid guid).efiGuid = guid := by
  have first : (UInt32.ofNat (swapBytes 4 guid.data1.toNat)).toNat = swapBytes 4 guid.data1.toNat :=
    UInt32.toNat_ofNat_of_lt (swapBytes_lt 4 _)
  have second : (UInt16.ofNat (swapBytes 2 guid.data2.toNat)).toNat =
      swapBytes 2 guid.data2.toNat :=
    UInt16.toNat_ofNat_of_lt (swapBytes_lt 2 _)
  have third : (UInt16.ofNat (swapBytes 2 guid.data3.toNat)).toNat = swapBytes 2 guid.data3.toNat :=
    UInt16.toNat_ofNat_of_lt (swapBytes_lt 2 _)
  simp only [efiGuid, taUuid, first, second, third, swapBytes_swapBytes 4 guid.data1.toNat_lt,
    swapBytes_swapBytes 2 guid.data2.toNat_lt, swapBytes_swapBytes 2 guid.data3.toNat_lt,
    UInt32.ofNat_toNat, UInt16.ofNat_toNat]

theorem ofBytes_bytes (uuid : TeecUuid) : ofBytes uuid.bytes = uuid := by
  have first : uuid.bytes.take 4 = leBytes 4 uuid.timeLow.toNat := rfl
  have second : (uuid.bytes.drop 4).take 2 = leBytes 2 uuid.timeMid.toNat := rfl
  have third : (uuid.bytes.drop 6).take 2 = leBytes 2 uuid.timeHiAndVersion.toNat := rfl
  have last : (Vector.ofFn fun index : Fin 8 => uuid.bytes[8 + index.val]?.getD 0) =
      uuid.clockSeqAndNode := by
    ext index inside : 1
    have tail : uuid.bytes.drop 8 = uuid.clockSeqAndNode.toList := rfl
    rw [Vector.getElem_ofFn, ← List.getElem?_drop, tail,
      List.getElem?_eq_getElem (by simpa using inside)]
    exact Vector.getElem_toList _
  rw [ofBytes, first, second, third, last, leValue_leBytes_of_lt uuid.timeLow.toNat_lt,
    leValue_leBytes_of_lt uuid.timeMid.toNat_lt,
    leValue_leBytes_of_lt uuid.timeHiAndVersion.toNat_lt]
  simp

end TeecUuid

theorem openSessionMessage_names (guid : EfiGuid) (operation : TeecOperation) :
    (TeecUuid.ofBytes (openSessionMessage (taUuid guid) operation).param.valueBytes).efiGuid =
      guid := by
  have words : (openSessionMessage (taUuid guid) operation).param =
      ⟨(msgAttrTypeValueInput ||| msgAttrMeta).toUInt64,
        UInt64.ofNat (leValue ((taUuid guid).bytes.take 8)),
        UInt64.ofNat (leValue ((taUuid guid).bytes.drop 8)), 0⟩ := by
    have first (params : Vector MsgParam 6) : params.get 0 = params[0] := rfl
    simp [MsgArg.param, first, openSessionMessage, setMsgParams, setMsgParam, List.finRange_succ]
  have size : (taUuid guid).bytes.length = 16 := by
    simp [TeecUuid.bytes]
  have slot : (openSessionMessage (taUuid guid) operation).param.valueBytes =
      (taUuid guid).bytes := by
    rw [words, MsgParam.valueBytes]
    dsimp only
    rw [leBytes_ofNat_leValue (by rw [List.length_take, size]; rfl),
      leBytes_ofNat_leValue (by rw [List.length_drop, size]), List.take_append_drop]
  rw [slot, TeecUuid.ofBytes_bytes, TeecUuid.efiGuid_taUuid]

/-! ### Loading an application -/

variable {services : RpcServices} {shared : SharedMem region} {address : UInt64}

/-- Everything a request for an application stores. -/
def loadTaStores (services : RpcServices) (memory : Memory) (address : UInt64) : List MemStore :=
  let (teecResult, stores) :=
    loadTa (MsgArg.load 2 memory address) address services.sectionFromAnyFv
  stores ++
    [⟨retAddress address, leBytes 4 teecResult.toNat⟩,
      ⟨retOriginAddress address, leBytes 4 teecOriginApi.toNat⟩,
      ⟨retAddress address, leBytes 4 teecResult.toNat⟩]

theorem opteeRpcCmd_loadTa (cmd : (MsgArg.load 2 shared.memory address).cmd = rpcCmdLoadTa) :
    opteeRpcCmd services address shared =
      ((loadTa (MsgArg.load 2 shared.memory address) address services.sectionFromAnyFv).1,
        shared.storing (loadTaStores services shared.memory address)) := by
  have same : (MsgArg.load 1 shared.memory address).cmd = rpcCmdLoadTa := cmd
  simp only [opteeRpcCmd, rpcCmdHandler, same, if_true, opteeRpcCmdLoadTa, SharedMem.storing,
    loadTaStores, ← Memory.storing_append, List.append_assoc, List.cons_append, List.nil_append]

/-- The cell is not in the words of the message that a request for an application may
change: its result and its size. -/
structure OutsideReply (address cell : UInt64) : Prop where
  ret : 4 ≤ (cell - retAddress address).toNat
  retOrigin : 4 ≤ (cell - retOriginAddress address).toNat
  size : 8 ≤ (cell - (paramAddress address 1 + UInt64.ofNat 16)).toNat

/-- The cell is not in the buffer of the message, as long as it is announced. -/
def OutsideBuffer (msgArg : MsgArg 2) (cell : UInt64) : Prop :=
  msgArg.secondParam.word1.toNat ≤ (cell - msgArg.secondParam.word0).toNat

/-- The one store of a request for an application, if it makes any, is to the word of the
size or stays in the buffer. -/
theorem loadTa_stores (msgArg : MsgArg 2) (sectionFromAnyFv : EfiGuid → Option (List UInt8)) :
    ∀ store ∈ (loadTa msgArg address sectionFromAnyFv).2,
      (store.address = paramAddress address 1 + UInt64.ofNat 16 ∧ store.bytes.length = 8) ∨
        (store.address = msgArg.secondParam.word0 ∧
          store.bytes.length ≤ msgArg.secondParam.word1.toNat) := by
  intro store member
  unfold loadTa at member
  split at member
  · cases member
  · split at member
    · cases member
    · dsimp only at member
      split at member
      · cases member
      · next imageData found =>
        split at member
        · rw [List.mem_singleton.mp member]
          exact Or.inl ⟨rfl, leBytes_length _ _⟩
        · next large =>
          rw [List.mem_singleton.mp member]
          have fits := UInt64.le_iff_toNat_le.mp (UInt64.not_lt.mp large)
          refine Or.inr ⟨rfl, ?_⟩
          rw [List.length_take]
          omega

/-- Next to what the handler stores, only the words of the result change. -/
theorem opteeRpcCmd_outside (cmd : (MsgArg.load 2 shared.memory address).cmd = rpcCmdLoadTa)
    {cell : UInt64} (outside : OutsideReply address cell)
    (missed : ∀ store ∈ (loadTa (MsgArg.load 2 shared.memory address) address
      services.sectionFromAnyFv).2, store.bytes.length ≤ (cell - store.address).toNat) :
    (opteeRpcCmd services address shared).2.memory cell = shared.memory cell := by
  have stores : ∀ store ∈ loadTaStores services shared.memory address,
      store.bytes.length ≤ (cell - store.address).toNat := by
    intro store member
    rcases List.mem_append.mp member with image | words
    · exact missed store image
    · simp only [List.mem_cons, List.not_mem_nil, or_false] at words
      rcases words with rfl | rfl | rfl
      · rw [leBytes_length]
        exact outside.ret
      · rw [leBytes_length]
        exact outside.retOrigin
      · rw [leBytes_length]
        exact outside.ret
  rw [opteeRpcCmd_loadTa cmd]
  exact Memory.storing_outside stores

/-- Loading an application changes its message and the buffer it was given, and nothing
else. -/
theorem loadTa_confined (cmd : (MsgArg.load 2 shared.memory address).cmd = rpcCmdLoadTa)
    {cell : UInt64} (outside : OutsideReply address cell)
    (beyond : OutsideBuffer (MsgArg.load 2 shared.memory address) cell) :
    (opteeRpcCmd services address shared).2.memory cell = shared.memory cell := by
  refine opteeRpcCmd_outside cmd outside fun store member => ?_
  rcases loadTa_stores _ _ store member with ⟨size, eight⟩ | ⟨buffer, inside⟩
  · rw [size, eight]
    exact outside.size
  · rw [buffer]
    exact Nat.le_trans inside beyond

/-- The message asks for the application. -/
structure AsksFor (msgArg : MsgArg 2) (guid : EfiGuid) : Prop where
  cmd : msgArg.cmd = rpcCmdLoadTa
  two : msgArg.numParams = 2
  identifier : msgArg.param.type = msgAttrTypeValueInput.toUInt64
  buffer : msgArg.secondParam.type = msgAttrTypeTmemOutput.toUInt64
  names : (TeecUuid.ofBytes msgArg.param.valueBytes).efiGuid = guid

variable {guid : EfiGuid} {msgArg : MsgArg 2} {imageData : List UInt8}
  {after before : SharedMem region}

theorem AsksFor.of_openSession (operation : TeecOperation) (cmd : msgArg.cmd = rpcCmdLoadTa)
    (two : msgArg.numParams = 2) (identifier : msgArg.param.type = msgAttrTypeValueInput.toUInt64)
    (buffer : msgArg.secondParam.type = msgAttrTypeTmemOutput.toUInt64)
    (passed : msgArg.param.valueBytes =
      (openSessionMessage (taUuid guid) operation).param.valueBytes) : AsksFor msgArg guid :=
  ⟨cmd, two, identifier, buffer, by rw [passed]; exact openSessionMessage_names guid operation⟩

/-- The message with another buffer for the application. -/
def MsgArg.withBuffer (msgArg : MsgArg 2) (buffer size : UInt64) : MsgArg 2 :=
  { msgArg with
    params := msgArg.params.set 1 { msgArg.secondParam with word0 := buffer, word1 := size }
      Nat.one_lt_two }

@[simp]
theorem MsgArg.withBuffer_first (msgArg : MsgArg 2) (buffer size : UInt64) :
    (msgArg.withBuffer buffer size).param = msgArg.param := by
  exact Vector.getElem_set_ne (by decide) (by decide) Nat.one_ne_zero

@[simp]
theorem MsgArg.withBuffer_second (msgArg : MsgArg 2) (buffer size : UInt64) :
    (msgArg.withBuffer buffer size).secondParam =
      { msgArg.secondParam with word0 := buffer, word1 := size } := by
  exact Vector.getElem_set_self Nat.one_lt_two

theorem MsgArg.of_withBuffer {reply : MsgArg 2} {buffer size : UInt64}
    (same : msgArg = reply.withBuffer buffer size) :
    msgArg.secondParam.word0 = buffer ∧ msgArg.secondParam.word1 = size := by
  rw [same, MsgArg.withBuffer_second]
  exact ⟨rfl, rfl⟩

theorem AsksFor.withBuffer (asks : AsksFor msgArg guid)
    (buffer size : UInt64) : AsksFor (msgArg.withBuffer buffer size) guid where
  cmd := asks.cmd
  two := asks.two
  identifier := by rw [MsgArg.withBuffer_first]; exact asks.identifier
  buffer := by rw [MsgArg.withBuffer_second]; exact asks.buffer
  names := by rw [MsgArg.withBuffer_first]; exact asks.names

theorem AsksFor.answered (asks : AsksFor msgArg guid)
    (ret retOrigin : UInt32) : AsksFor { msgArg with ret := ret, retOrigin := retOrigin } guid :=
  ⟨asks.cmd, asks.two, asks.identifier, asks.buffer, asks.names⟩

theorem AsksFor.loadTa_found (asks : AsksFor msgArg guid)
    {sectionFromAnyFv : EfiGuid → Option (List UInt8)}
    (found : sectionFromAnyFv guid = some imageData) (address : UInt64) :
    loadTa msgArg address sectionFromAnyFv =
      if msgArg.secondParam.word1 < UInt64.ofNat imageData.length then
        (TeecResult.success, [⟨paramAddress address 1 + UInt64.ofNat 16,
          leBytes 8 (UInt64.ofNat imageData.length).toNat⟩])
      else
        (TeecResult.success, [⟨msgArg.secondParam.word0,
          imageData.take (UInt64.ofNat imageData.length).toNat⟩]) := by
  simp only [loadTa, asks.two, asks.identifier, asks.buffer, asks.names, found, ne_eq,
    not_true_eq_false, or_self, if_false]

/-- A request whose buffer is too small is told the size in its message. -/
theorem AsksFor.told (asks : AsksFor (MsgArg.load 2 shared.memory address) guid)
    (room : address.toNat + 96 ≤ 2 ^ 64) (found : services.sectionFromAnyFv guid = some imageData)
    (small : (MsgArg.load 2 shared.memory address).secondParam.word1 <
      UInt64.ofNat imageData.length) :
    MsgArg.load 2 (opteeRpcCmd services address shared).2.memory address =
      { (MsgArg.load 2 shared.memory address).withBuffer
          (MsgArg.load 2 shared.memory address).secondParam.word0
          (UInt64.ofNat imageData.length) with
        ret := TeecResult.success
        retOrigin := teecOriginApi } := by
  have bound : address.toNat + (32 + msgParamSize * 2) ≤ 2 ^ 64 := room
  have start : (paramAddress address 1).toNat = address.toNat + 64 := by
    rw [paramAddress_eq, UInt64.toNat_add, UInt64.toNat_ofNat']
    simp only [msgParamSize]
    omega
  have last : (paramAddress address 1).toNat + msgParamSize ≤ 2 ^ 64 := by
    rw [start]
    simp only [msgParamSize]
    omega
  rw [opteeRpcCmd_loadTa asks.cmd]
  simp only [SharedMem.storing, loadTaStores, asks.loadTa_found found, if_pos small,
    List.cons_append, List.nil_append, Memory.storing_cons, Memory.storing_nil]
  rw [MsgArg.load_write_ret bound, MsgArg.load_write_retOrigin bound, MsgArg.load_write_ret bound,
    MsgArg.load_write_param bound _ (by omega) (by rw [leBytes_length]; decide),
    MsgParam.load_write_word1 last]
  rfl

/-- A request whose buffer has room for the application gets it there. -/
theorem AsksFor.loaded (asks : AsksFor (MsgArg.load 2 shared.memory address) guid)
    (room : address.toNat + 96 ≤ 2 ^ 64) (word : imageData.length < 2 ^ 64)
    (found : services.sectionFromAnyFv guid = some imageData)
    (large : ¬ (MsgArg.load 2 shared.memory address).secondParam.word1 <
      UInt64.ofNat imageData.length)
    (inMemory : (MsgArg.load 2 shared.memory address).secondParam.word0.toNat + imageData.length ≤
      2 ^ 64) (apart : Interval.Disjoint ⟨address.toNat, 96⟩
      ⟨(MsgArg.load 2 shared.memory address).secondParam.word0.toNat, imageData.length⟩) :
    (opteeRpcCmd services address shared).1 = TeecResult.success ∧
      (opteeRpcCmd services address shared).2.memory.read
        (MsgArg.load 2 shared.memory address).secondParam.word0 imageData.length = imageData := by
  have whole : imageData.take (UInt64.ofNat imageData.length).toNat = imageData := by
    rw [UInt64.toNat_ofNat_of_lt' word, List.take_length]
  have stores : loadTaStores services shared.memory address =
      ⟨(MsgArg.load 2 shared.memory address).secondParam.word0, imageData⟩ ::
        [⟨address + UInt64.ofNat 20, leBytes 4 TeecResult.success.toNat⟩,
          ⟨address + UInt64.ofNat 24, leBytes 4 teecOriginApi.toNat⟩,
          ⟨address + UInt64.ofNat 20, leBytes 4 TeecResult.success.toNat⟩] := by
    simp only [loadTaStores, asks.loadTa_found found, if_neg large, whole]
    rfl
  have header (offset : Nat) (inside : offset + 4 ≤ 32) (value : UInt32) :
      address.toNat + offset + 4 ≤ 2 ^ 64 ∧
        MemStore.interval ⟨address + UInt64.ofNat offset, leBytes 4 value.toNat⟩ =
          ⟨address.toNat + offset, 4⟩ := by
    have place : (address + UInt64.ofNat offset).toNat = address.toNat + offset := by
      rw [UInt64.toNat_add, UInt64.toNat_ofNat']
      omega
    exact ⟨by omega, by rw [MemStore.interval, place, leBytes_length]⟩
  rw [opteeRpcCmd_loadTa asks.cmd, asks.loadTa_found found, if_neg large]
  refine ⟨rfl, ?_⟩
  have words : ∀ store ∈
      [(⟨address + UInt64.ofNat 20, leBytes 4 TeecResult.success.toNat⟩ : MemStore),
        ⟨address + UInt64.ofNat 24, leBytes 4 teecOriginApi.toNat⟩,
        ⟨address + UInt64.ofNat 20, leBytes 4 TeecResult.success.toNat⟩],
      ∃ (offset : Nat) (value : UInt32), offset + 4 ≤ 32 ∧
        store = ⟨address + UInt64.ofNat offset, leBytes 4 value.toNat⟩ := by
    intro store member
    simp only [List.mem_cons, List.not_mem_nil, or_false] at member
    rcases member with rfl | rfl | rfl
    · exact ⟨20, TeecResult.success, by omega, rfl⟩
    · exact ⟨24, teecOriginApi, by omega, rfl⟩
    · exact ⟨20, TeecResult.success, by omega, rfl⟩
  rw [SharedMem.storing, stores, Memory.storing_cons]
  dsimp only
  rw [Memory.read_storing_apart inMemory]
  · exact Memory.read_write_same _ _ _ (Nat.le_of_lt word)
  · intro store member
    obtain ⟨offset, value, inside, rfl⟩ := words store member
    have place := congrArg Base.Interval.base (header offset inside value).2
    have fits := (header offset inside value).1
    simp only [MemStore.interval] at place
    rw [place, leBytes_length]
    exact fits
  · intro store member
    obtain ⟨offset, value, inside, rfl⟩ := words store member
    rw [(header offset inside value).2]
    refine apart.symm.mono ⟨le_rfl, le_rfl⟩ ?_
    simp only [Interval.Within, Interval.finish]
    omega

/-- What the secure world finds after it asked for an application whose size it did not
know: the size in its message, which is otherwise as it was, and no byte of its buffer
changed. -/
structure SizeTold (before after : SharedMem region) (address : UInt64)
    (imageData : List UInt8) : Prop where
  reply : MsgArg.load 2 after.memory address =
    { (MsgArg.load 2 before.memory address).withBuffer
        (MsgArg.load 2 before.memory address).secondParam.word0 (UInt64.ofNat imageData.length) with
      ret := TeecResult.success
      retOrigin := teecOriginApi }
  kept : ∀ cell, OutsideReply address cell → after.memory cell = before.memory cell

theorem SizeTold.asks (told : SizeTold before after address imageData)
    (asks : AsksFor (MsgArg.load 2 before.memory address) guid) :
    AsksFor (MsgArg.load 2 after.memory address) guid := by
  rw [told.reply]
  exact (asks.withBuffer _ _).answered _ _

theorem SizeTold.size (told : SizeTold before after address imageData) :
    (MsgArg.load 2 after.memory address).secondParam.word1 = UInt64.ofNat imageData.length := by
  rw [told.reply]
  exact congrArg MsgParam.word1 (MsgArg.withBuffer_second _ _ _)

/-- What it finds after it asked with a buffer of that size: the application, and nothing
changed outside its message and the buffer. -/
structure ImageLoaded (result : TeecResult) (before after : SharedMem region) (address : UInt64)
    (imageData : List UInt8) : Prop where
  result : result = TeecResult.success
  loaded : after.memory.read (MsgArg.load 2 before.memory address).secondParam.word0
    imageData.length = imageData
  kept : ∀ cell, OutsideReply address cell →
    OutsideBuffer (MsgArg.load 2 before.memory address) cell →
      after.memory cell = before.memory cell

/-- For every application of the firmware volumes and every message that asks for it with
a buffer that is too small: the request tells its size, and the same message with a buffer
of that size, wherever it is apart from the message, loads the application into it. -/
theorem loadTa_two_calls {guid : EfiGuid} {imageData : List UInt8}
    (asks : AsksFor (MsgArg.load 2 shared.memory address) guid)
    (room : address.toNat + 96 ≤ 2 ^ 64) (word : imageData.length < 2 ^ 64)
    (found : services.sectionFromAnyFv guid = some imageData)
    (small : (MsgArg.load 2 shared.memory address).secondParam.word1 <
      UInt64.ofNat imageData.length) :
    SizeTold shared (opteeRpcCmd services address shared).2 address imageData ∧
      ∀ (later : SharedMem region) (buffer : UInt64),
        MsgArg.load 2 later.memory address =
          (MsgArg.load 2 (opteeRpcCmd services address shared).2.memory address).withBuffer buffer
            (MsgArg.load 2 (opteeRpcCmd services address shared).2.memory
              address).secondParam.word1 →
        buffer.toNat + imageData.length ≤ 2 ^ 64 →
        Interval.Disjoint ⟨address.toNat, 96⟩ ⟨buffer.toNat, imageData.length⟩ →
        ImageLoaded (opteeRpcCmd services address later).1 later
          (opteeRpcCmd services address later).2 address imageData := by
  have told : SizeTold shared (opteeRpcCmd services address shared).2 address imageData := by
    refine ⟨asks.told room found small, fun cell outside =>
      opteeRpcCmd_outside asks.cmd outside fun store member => ?_⟩
    rw [asks.loadTa_found found, if_pos small] at member
    rw [List.mem_singleton.mp member, leBytes_length]
    exact outside.size
  refine ⟨told, fun later buffer again inMemory apart => ?_⟩
  have asksAgain : AsksFor (MsgArg.load 2 later.memory address) guid := by
    rw [again]
    exact (told.asks asks).withBuffer _ _
  obtain ⟨pointer, size⟩ := MsgArg.of_withBuffer again
  rw [told.size] at size
  have large : ¬ (MsgArg.load 2 later.memory address).secondParam.word1 <
      UInt64.ofNat imageData.length := by
    rw [size]
    exact UInt64.lt_irrefl _
  obtain ⟨result, loaded⟩ := asksAgain.loaded room word found large
    (by rw [pointer]; exact inMemory) (by rw [pointer]; exact apart)
  exact ⟨result, loaded, fun cell outside beyond =>
    loadTa_confined asksAgain.cmd outside beyond⟩

/-- The name of an application. -/
def sampleGuid : EfiGuid := ⟨0x00010203, 0x0405, 0x0607, #v[8, 9, 10, 11, 12, 13, 14, 15]⟩

/-- A message that asks for the application without a buffer. -/
def askingMessage : MsgArg 2 :=
  ⟨rpcCmdLoadTa, 0, 0, 0, 0, 2, #v[⟨1, 0x0706050403020100, 0x0F0E0D0C0B0A0908, 0⟩, ⟨0xA, 0, 0, 0⟩]⟩

/-- Firmware volumes with one application of three bytes. -/
def threeByteServices : RpcServices where
  allocAnswer := none
  freeAnswer := EfiStatus.success
  sectionFromAnyFv _ := some [1, 2, 3]
  ticks := 0
  freq := 1
  rpmb _ _ := (TeecResult.errorNotSupported, [])

/-- The message in a region of which nothing is handed out. -/
def askingShared : SharedMem sampleRegion :=
  (SharedMem.fenced sampleRegion).storing [⟨0x10001000, askingMessage.bytes⟩]

theorem loadTa_two_calls_threeBytes :
    SizeTold askingShared (opteeRpcCmd threeByteServices 0x10001000 askingShared).2 0x10001000
      [1, 2, 3] := by
  have message : MsgArg.load 2 askingShared.memory 0x10001000 = askingMessage :=
    MsgArg.load_write _ _ _ (by decide)
  have asks : AsksFor (MsgArg.load 2 askingShared.memory 0x10001000) sampleGuid := by
    rw [message]
    exact AsksFor.of_openSession ⟨0, Vector.replicate 4 ⟨0, 0, 0⟩⟩ rfl rfl rfl rfl
      (by decide)
  have found : threeByteServices.sectionFromAnyFv sampleGuid = some [1, 2, 3] := rfl
  exact (loadTa_two_calls asks (by decide) (by decide) found (by rw [message]; decide)).1

end MuRockchip.Optee
