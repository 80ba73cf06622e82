/-
The parameter blocks of the variable services as bytes (`UEFIVarServices.h`).

The driver clears the parameter buffer and stores the block's fields in it. The
application reads the block back by the fields of its own header: the sizes of
the name and the data, and for `SetVariable` their offsets in the payload. An empty
name in `GetNextVariableName` is sent as no name at all, which is how the
application is asked for the first variable.

The header counts the bytes of the name in sixteen bits, and the driver adds in
thirty-two, so what is proved is about calls whose sizes these widths hold.

* `decodeGet_contents`, `decodeSet_contents`: a block reads back.
* `getVariable_fits`, `setVariable_fits`: a call that is served fits the buffers.
* `getVariable_marshalled`, `setVariable_marshalled`: and its block reads back.
* `requests_marshalled`: what reaches the application is what the caller asked for.
-/
import MuRockchip.AuthVar.Session
import MuRockchip.Base.Layout

namespace MuRockchip.AuthVar

open MuRockchip.Base MuRockchip.Optee

/-! ### The bytes of a block -/

/-- An identifier in memory. -/
def guidBytes (guid : EfiGuid) : List UInt8 :=
  leBytes 4 guid.data1.toNat ++ leBytes 2 guid.data2.toNat ++ leBytes 2 guid.data3.toNat ++
    guid.data4.toList

/-- The identifier some bytes stand for. -/
def guidOf (bytes : List UInt8) : EfiGuid where
  data1 := UInt32.ofNat (leValue (bytes.take 4))
  data2 := UInt16.ofNat (leValue ((bytes.drop 4).take 2))
  data3 := UInt16.ofNat (leValue ((bytes.drop 6).take 2))
  data4 := Vector.ofFn fun index => bytes.getD (8 + index.val) 0

/-- The fields of `VARIABLE_GET_PARAM`; two bytes before the identifier are padding. -/
def VariableGetParam.fields (param : VariableGetParam) : List Field :=
  [⟨0, leBytes 4 param.size.toNat⟩,
    ⟨4, leBytes 2 param.variableNameSize.toNat⟩,
    ⟨8, guidBytes param.vendorGuid⟩,
    ⟨24, param.variableName⟩]

/-- The fields of `VARIABLE_SET_PARAM`. The payload is the name and the data, which are
copied one after the other. -/
def VariableSetParam.fields (param : VariableSetParam) : List Field :=
  [⟨0, leBytes 4 param.size.toNat⟩,
    ⟨4, leBytes 2 param.variableNameSize.toNat⟩,
    ⟨24, leBytes 4 param.attributes.toNat⟩,
    ⟨28, leBytes 4 param.dataSize.toNat⟩,
    ⟨32, leBytes 4 param.offsetVariableName.toNat⟩,
    ⟨36, leBytes 4 param.offsetData.toNat⟩,
    ⟨8, guidBytes param.vendorGuid⟩,
    ⟨40, param.payload⟩]

/-- The fields of `VARIABLE_QUERY_PARAM`. -/
def VariableQueryParam.fields (param : VariableQueryParam) : List Field :=
  [⟨0, leBytes 4 param.size.toNat⟩, ⟨4, leBytes 4 param.attributes.toNat⟩]

/-- The stores into the parameter buffer. -/
def VariableParam.fields : VariableParam → List Field
  | get param => param.fields
  | getNext param => param.fields
  | set param => param.fields
  | query param => param.fields

/-- The parameter buffer, cleared and filled. -/
def VariableParam.contents (param : VariableParam) : Nat → UInt8 :=
  placeAll (fun _ => 0) param.fields

/-! ### Reading a block back -/

/-- A little-endian field. -/
def field32 (contents : Nat → UInt8) (offset : Nat) : UInt32 :=
  UInt32.ofNat (leValue (slice contents offset 4))

def field16 (contents : Nat → UInt8) (offset : Nat) : UInt16 :=
  UInt16.ofNat (leValue (slice contents offset 2))

/-- What a reader of `VARIABLE_GET_PARAM` finds. -/
structure DecodedGet where
  size : UInt32
  vendorGuid : EfiGuid
  variableName : List UInt8
  deriving DecidableEq

def decodeGet (contents : Nat → UInt8) : DecodedGet where
  size := field32 contents 0
  vendorGuid := guidOf (slice contents 8 16)
  variableName := slice contents 24 (field16 contents 4).toNat

/-- What a reader of `VARIABLE_SET_PARAM` finds. -/
structure DecodedSet where
  size : UInt32
  vendorGuid : EfiGuid
  attributes : UInt32
  variableName : List UInt8
  dataSize : UInt32
  data : List UInt8
  deriving DecidableEq

def decodeSet (contents : Nat → UInt8) : DecodedSet where
  size := field32 contents 0
  vendorGuid := guidOf (slice contents 8 16)
  attributes := field32 contents 24
  variableName := slice contents (40 + (field32 contents 32).toNat) (field16 contents 4).toNat
  dataSize := field32 contents 28
  data := slice contents (40 + (field32 contents 36).toNat) (field32 contents 28).toNat

/-- What a reader of `VARIABLE_QUERY_PARAM` finds: the size and the attributes. -/
def decodeQuery (contents : Nat → UInt8) : UInt32 × UInt32 :=
  (field32 contents 0, field32 contents 4)

/-- Where what the header points at ends. -/
def VariableParam.extent (param : VariableParam) : Nat :=
  match param with
  | get _ | getNext _ => 24 + (field16 param.contents 4).toNat
  | set _ =>
    max (40 + (field32 param.contents 32).toNat + (field16 param.contents 4).toNat)
      (40 + (field32 param.contents 36).toNat + (field32 param.contents 28).toNat)
  | query _ => 8

/-! ### Blocks read back -/

@[simp]
theorem guidBytes_length (guid : EfiGuid) : (guidBytes guid).length = 16 := by
  simp [guidBytes]

theorem guidOf_guidBytes (guid : EfiGuid) : guidOf (guidBytes guid) = guid := by
  have first : guid.data1.toNat < 256 ^ 4 := guid.data1.toNat_lt
  have second : guid.data2.toNat < 256 ^ 2 := guid.data2.toNat_lt
  have third : guid.data3.toNat < 256 ^ 2 := guid.data3.toNat_lt
  have past : (leBytes 4 guid.data1.toNat).drop 6 = [] := List.drop_eq_nil_of_le (by simp)
  simp only [guidOf, guidBytes]
  congr 1
  · simp [leValue_leBytes_of_lt first]
  · simp [leValue_leBytes_of_lt second]
  · simp [List.drop_append, past, leValue_leBytes_of_lt third]
  · ext index inside
    have beyond : ¬ 8 + index < 4 ∧ ¬ 8 + index ≤ 5 ∧ ¬ 8 + index ≤ 7 := by omega
    have last : 8 + index - 4 - 2 - 2 = index := by omega
    simp [List.getElem?_append, beyond, last, inside]

variable {offset : Nat} {command : VariableServiceOp} {paramSize : UInt32} {state : DriverState}
  {name : Str16} {opening : Opening}

theorem field32_of_slice {contents : Nat → UInt8} {value : UInt32}
    (stored : slice contents offset 4 = leBytes 4 value.toNat) :
    field32 contents offset = value := by
  have bound : value.toNat < 256 ^ 4 := value.toNat_lt
  rw [field32, stored, leValue_leBytes_of_lt bound, UInt32.ofNat_toNat]

theorem field16_of_slice {contents : Nat → UInt8} {value : UInt16}
    (stored : slice contents offset 2 = leBytes 2 value.toNat) :
    field16 contents offset = value := by
  have bound : value.toNat < 256 ^ 2 := value.toNat_lt
  rw [field16, stored, leValue_leBytes_of_lt bound, UInt16.ofNat_toNat]

theorem VariableGetParam.apart (param : VariableGetParam) :
    param.fields.Pairwise fun first second => first.interval.Disjoint second.interval := by
  simp [VariableGetParam.fields, Field.interval, Interval.Disjoint, Interval.finish]

theorem VariableSetParam.apart (param : VariableSetParam) :
    param.fields.Pairwise fun first second => first.interval.Disjoint second.interval := by
  simp [VariableSetParam.fields, Field.interval, Interval.Disjoint, Interval.finish]

theorem VariableQueryParam.apart (param : VariableQueryParam) :
    param.fields.Pairwise fun first second => first.interval.Disjoint second.interval := by
  simp [VariableQueryParam.fields, Field.interval, Interval.Disjoint, Interval.finish]

theorem VariableParam.apart (param : VariableParam) :
    param.fields.Pairwise fun first second => first.interval.Disjoint second.interval := by
  cases param with
  | get param => exact param.apart
  | getNext param => exact param.apart
  | set param => exact param.apart
  | query param => exact param.apart

/-- Every field of a block reads back. -/
theorem VariableParam.slice_field (param : VariableParam) {field : Field}
    (member : field ∈ param.fields) :
    slice param.contents field.offset field.bytes.length = field.bytes :=
  slice_placeAll _ param.apart member

theorem VariableParam.slice_of (param : VariableParam) {count : Nat} {bytes : List UInt8}
    (member : ⟨offset, bytes⟩ ∈ param.fields) (length : bytes.length = count) :
    slice param.contents offset count = bytes := by
  rw [← length]
  exact param.slice_field member

section

variable (block : VariableGetParam)

theorem VariableGetParam.nameSize_contents :
    field16 (VariableParam.get block).contents 4 = block.variableNameSize := by
  have stored : slice (VariableParam.get block).contents 4 2 =
      leBytes 2 block.variableNameSize.toNat :=
    (VariableParam.get block).slice_of
      (by simp [VariableParam.fields, VariableGetParam.fields]) (leBytes_length ..)
  exact field16_of_slice stored

theorem VariableGetParam.size_contents :
    field32 (VariableParam.get block).contents 0 = block.size := by
  have stored : slice (VariableParam.get block).contents 0 4 = leBytes 4 block.size.toNat :=
    (VariableParam.get block).slice_of
      (by simp [VariableParam.fields, VariableGetParam.fields]) (leBytes_length ..)
  exact field32_of_slice stored

theorem decodeGet_contents
    (counted : block.variableName.length = block.variableNameSize.toNat) :
    decodeGet (VariableParam.get block).contents =
      ⟨block.size, block.vendorGuid, block.variableName⟩ := by
  have guid : slice (VariableParam.get block).contents 8 16 = guidBytes block.vendorGuid :=
    (VariableParam.get block).slice_of
      (by simp [VariableParam.fields, VariableGetParam.fields]) (guidBytes_length _)
  have name : slice (VariableParam.get block).contents 24 block.variableNameSize.toNat =
      block.variableName :=
    (VariableParam.get block).slice_of
      (by simp [VariableParam.fields, VariableGetParam.fields]) counted
  rw [decodeGet, block.size_contents, block.nameSize_contents, guid, name, guidOf_guidBytes]

end

section

variable (block : VariableSetParam)

theorem VariableSetParam.nameSize_contents :
    field16 (VariableParam.set block).contents 4 = block.variableNameSize := by
  have stored : slice (VariableParam.set block).contents 4 2 =
      leBytes 2 block.variableNameSize.toNat :=
    (VariableParam.set block).slice_of
      (by simp [VariableParam.fields, VariableSetParam.fields]) (leBytes_length ..)
  exact field16_of_slice stored

theorem VariableSetParam.word_contents {offset : Nat} {value : UInt32}
    (member : ⟨offset, leBytes 4 value.toNat⟩ ∈ block.fields) :
    field32 (VariableParam.set block).contents offset = value :=
  field32_of_slice ((VariableParam.set block).slice_of member (leBytes_length ..))

theorem VariableSetParam.dataSize_contents :
    field32 (VariableParam.set block).contents 28 = block.dataSize :=
  block.word_contents (by simp [VariableSetParam.fields])

theorem VariableSetParam.offsetVariableName_contents :
    field32 (VariableParam.set block).contents 32 = block.offsetVariableName :=
  block.word_contents (by simp [VariableSetParam.fields])

theorem VariableSetParam.offsetData_contents :
    field32 (VariableParam.set block).contents 36 = block.offsetData :=
  block.word_contents (by simp [VariableSetParam.fields])

/-- The name and the data read back if the header counts the one and starts the
other after it. -/
theorem decodeSet_contents {name data : List UInt8} (payload : block.payload = name ++ data)
    (first : block.offsetVariableName = 0) (next : block.offsetData.toNat = name.length)
    (named : block.variableNameSize.toNat = name.length)
    (sized : block.dataSize.toNat = data.length) :
    decodeSet (VariableParam.set block).contents =
      ⟨block.size, block.vendorGuid, block.attributes, name, block.dataSize, data⟩ := by
  have size : field32 (VariableParam.set block).contents 0 = block.size :=
    block.word_contents (by simp [VariableSetParam.fields])
  have attributes : field32 (VariableParam.set block).contents 24 = block.attributes :=
    block.word_contents (by simp [VariableSetParam.fields])
  have guid : slice (VariableParam.set block).contents 8 16 = guidBytes block.vendorGuid :=
    (VariableParam.set block).slice_of
      (by simp [VariableParam.fields, VariableSetParam.fields]) (guidBytes_length _)
  have whole : slice (VariableParam.set block).contents 40 block.payload.length = block.payload :=
    (VariableParam.set block).slice_of
      (by simp [VariableParam.fields, VariableSetParam.fields]) rfl
  have length : block.payload.length = name.length + data.length := by
    rw [payload, List.length_append]
  have nameRead : slice (VariableParam.set block).contents 40 name.length = name := by
    have inside : 0 + name.length ≤ block.payload.length := by omega
    rw [← Nat.add_zero 40, slice_slice _ inside, whole, payload]
    simp
  have dataRead :
      slice (VariableParam.set block).contents (40 + name.length) data.length = data := by
    have inside : name.length + data.length ≤ block.payload.length := by omega
    rw [slice_slice _ inside, whole, payload]
    simp
  rw [decodeSet, size, attributes, block.dataSize_contents, block.offsetVariableName_contents,
    block.offsetData_contents, block.nameSize_contents, guid, guidOf_guidBytes, first, next,
    named, sized]
  simp [nameRead, dataRead]

end

/-- The memory reference of the parameter buffer in a message. -/
def Exchange.paramRef (exchange : Exchange) : MsgParam :=
  (Entry.invokeCommand exchange.message.func).slot exchange.message.params 0

/-- A command carries the buffer's address and the size of the block. -/
theorem paramRef_message {exchange : Exchange} {session : TeecSession} {resultSize : UInt32}
    (message : exchange.message = invokeCommandMessage session command.code
      (commandOperation state paramSize resultSize)) :
    exchange.paramRef.word0 = state.paramMem.buffer ∧
      exchange.paramRef.word1 = paramSize.toUInt64 := by
  obtain ⟨old, encoded⟩ := (Entry.invokeCommand command.code).message_slot session
    (commandOperation state paramSize resultSize) 0
  have kind : paramTypeGet (commandOperation state paramSize resultSize).paramTypes
      (0 : Fin 4).val = teecMemrefTempInput :=
    show paramTypeGet (teecParamTypes teecMemrefTempInput teecMemrefTempOutput teecValueOutput
      teecNone) 0 = teecMemrefTempInput by decide
  rw [kind] at encoded
  unfold Exchange.paramRef
  rw [message]
  constructor
  · exact (congrArg MsgParam.word0 encoded).trans rfl
  · exact (congrArg MsgParam.word1 encoded).trans rfl

theorem Str16.bytes_length (name : Str16) : name.bytes.length = 2 * (name.chars.length + 1) := by
  simp [Str16.bytes, List.length_flatMap]
  omega

/-! ### What a call asks for -/

/-- The name as `GetNextVariableName` sends it: none at all for an empty one. -/
def nextName (name : Str16) : List UInt8 := if name.first = 0 then [] else name.bytes

namespace VariableCall

/-- The block a reader decodes says what the caller said. -/
def DecodedFrom (contents : Nat → UInt8) : VariableCall → Prop
  | getVariable args => ∃ name guid, args.variableName = some name ∧
      args.vendorGuid = some guid ∧
      decodeGet contents = ⟨sizeofVariableGetParam, guid, name.bytes⟩
  | getNextVariableName args => ∃ name guid, args.variableName = some name ∧
      args.vendorGuid = some guid ∧
      decodeGet contents = ⟨sizeofVariableGetNextParam, guid, nextName name⟩
  | setVariable args => ∃ name guid, args.variableName = some name ∧
      args.vendorGuid = some guid ∧
      decodeSet contents = ⟨sizeofVariableSetParam, guid, args.attributes, name.bytes,
        args.dataSize.toUInt32, dataBytes args.data args.dataSize⟩ ∧
      args.dataSize.toUInt32.toNat = args.dataSize.toNat
  | queryVariableInfo args => decodeQuery contents = (sizeofVariableQueryParam, args.attributes)

def Fits (state : DriverState) : VariableCall → Prop
  | getVariable args =>
    (∀ name ∈ args.variableName, 28 + name.bytes.length ≤ state.paramMem.size.toNat) ∧
      ∀ size ∈ args.dataSize, 16 + size.toNat ≤ state.resultMem.size.toNat
  | getNextVariableName args =>
    (∀ name ∈ args.variableName, 28 + (nextName name).length ≤ state.paramMem.size.toNat) ∧
      ∀ size ∈ args.variableNameSize, 28 + size.toNat ≤ state.resultMem.size.toNat
  | setVariable args => ∀ name ∈ args.variableName,
      44 + name.bytes.length + args.dataSize.toNat ≤ state.paramMem.size.toNat
  | queryVariableInfo _ => True

/-- The sizes are ones the driver's additions hold. -/
def Counted : VariableCall → Prop
  | getVariable args =>
    (∀ name ∈ args.variableName, 28 + name.bytes.length < 2 ^ 32) ∧
      ∀ size ∈ args.dataSize, 16 + size.toNat < 2 ^ 32
  | getNextVariableName args =>
    (∀ name ∈ args.variableName, 28 + name.bytes.length < 2 ^ 32) ∧
      ∀ size ∈ args.variableNameSize, 28 + size.toNat < 2 ^ 32
  | setVariable args => ∀ name ∈ args.variableName, name.bytes.length < 2 ^ 64
  | queryVariableInfo _ => True

/-- The name is one the header's field holds, and the block one a word counts. -/
def Short : VariableCall → Prop
  | getVariable args => ∀ name ∈ args.variableName, name.bytes.length < 2 ^ 16
  | getNextVariableName args => ∀ name ∈ args.variableName, name.bytes.length < 2 ^ 16
  | setVariable args => ∀ name ∈ args.variableName, name.bytes.length < 2 ^ 16 ∧
      44 + name.bytes.length + args.dataSize.toNat < 2 ^ 32
  | queryVariableInfo _ => True

end VariableCall

/-- The block of a command lies in the parameter buffer, and the size sent with it
covers it. -/
structure Placed (mem : TransportMem) (exchange : Exchange) : Prop where
  /-- Every store is inside the buffer. -/
  inside : ∀ field ∈ exchange.param.fields, field.offset + field.bytes.length ≤ mem.size.toNat
  buffer : exchange.paramRef.word0 = mem.buffer
  /-- The size covers what the header points at, and no more than the buffer. -/
  covers : exchange.param.extent ≤ exchange.paramRef.word1.toNat
  sent : exchange.paramRef.word1.toNat ≤ mem.size.toNat

/-- A command carries the caller's request in the parameter buffer. -/
structure Marshalled (mem : TransportMem) (call : VariableCall) (exchange : Exchange) : Prop where
  decoded : call.DecodedFrom exchange.param.contents
  placed : Placed mem exchange

/-! ### Requests -/

theorem strSize_toNat (counted : name.bytes.length < 2 ^ 64) :
    name.strSize.toNat = name.bytes.length := by
  rw [Str16.bytes_length] at counted ⊢
  rw [Str16.strSize, UInt64.toNat_ofNat', Nat.mod_eq_of_lt counted]

theorem strSize_toUInt32 (counted : name.bytes.length < 2 ^ 32) :
    name.strSize.toUInt32.toNat = name.bytes.length := by
  rw [UInt64.toNat_toUInt32, strSize_toNat (by omega), Nat.mod_eq_of_lt counted]

theorem strSize_toUInt16 (short : name.bytes.length < 2 ^ 16) :
    name.strSize.toUInt32.toUInt16.toNat = name.bytes.length := by
  rw [UInt32.toNat_toUInt16, strSize_toUInt32 (by omega), Nat.mod_eq_of_lt short]

theorem getVariableRequest_ok {args : GetVariableArgs} {request : GetVariableRequest}
    (served : getVariableRequest state args = .ok request) :
    ∃ name guid size, args.variableName = some name ∧ args.vendorGuid = some guid ∧
      args.dataSize = some size ∧
      request.param = ⟨sizeofVariableGetParam, name.strSize.toUInt32.toUInt16, guid,
        name.bytes.take name.strSize.toUInt32.toNat⟩ ∧
      request.paramSize = sizeofVariableGetParam + name.strSize.toUInt32 ∧
      request.paramSize.toUInt64 ≤ state.paramMem.size ∧
      (sizeofVariableGetResult + size.toUInt32).toUInt64 ≤ state.resultMem.size := by
  unfold getVariableRequest at served
  dsimp only at served
  split at served
  · cases served
  split at served
  · rename_i name guid size named spaced sized
    iterate 6
      split at served
      · cases served
    rename_i fits
    obtain ⟨paramFits, resultFits⟩ := not_or.mp fits
    cases served
    exact ⟨name, guid, size, named, spaced, sized, rfl, rfl, UInt64.not_lt.mp paramFits,
      UInt64.not_lt.mp resultFits⟩
  · cases served

theorem getNextVariableNameRequest_ok {args : GetNextVariableNameArgs}
    {request : GetNextVariableNameRequest}
    (served : getNextVariableNameRequest state args = .ok request) :
    ∃ name guid size, args.variableName = some name ∧ args.vendorGuid = some guid ∧
      args.variableNameSize = some size ∧ ∃ localSize : UInt32,
      localSize = (if name.first = 0 then 0 else name.strSize.toUInt32) ∧
      request.param = ⟨sizeofVariableGetNextParam, localSize.toUInt16, guid,
        name.bytes.take localSize.toNat⟩ ∧
      request.paramSize = sizeofVariableGetNextParam + localSize ∧
      request.paramSize.toUInt64 ≤ state.paramMem.size ∧
      (sizeofVariableGetNextResult + size.toUInt32).toUInt64 ≤ state.resultMem.size := by
  unfold getNextVariableNameRequest at served
  dsimp only at served
  split at served
  · cases served
  split at served
  · rename_i size name guid sized named spaced
    split at served
    · cases served
    split at served
    · cases served
    generalize localSize :
      (if name.first = 0 then (0 : UInt32) else name.strSize.toUInt32) = bytes at served
    split at served
    · cases served
    split at served
    · cases served
    rename_i fits
    obtain ⟨paramFits, resultFits⟩ := not_or.mp fits
    cases served
    exact ⟨name, guid, size, named, spaced, sized, bytes, localSize.symm, rfl, rfl,
      UInt64.not_lt.mp paramFits, UInt64.not_lt.mp resultFits⟩
  · cases served

theorem setVariableRequest_ok {args : SetVariableArgs} {param : VariableSetParam}
    {variableName : Str16} {vendorGuid : EfiGuid}
    (served : setVariableRequest state args = .ok (param, paramSize, variableName, vendorGuid)) :
    args.variableName = some variableName ∧ args.vendorGuid = some vendorGuid ∧
      (args.dataSize ≠ 0 → args.data.isSome = true) ∧
      param = ⟨sizeofVariableSetParam, variableName.strSize.toUInt16, vendorGuid, args.attributes,
        args.dataSize.toUInt32, 0, variableName.strSize.toUInt32,
        variableName.bytes ++ dataBytes args.data args.dataSize⟩ ∧
      ∃ size : UInt64,
        size = sizeofVariableSetParam.toUInt64 + variableName.strSize + args.dataSize ∧
        paramSize = size.toUInt32 ∧ size ≤ state.paramMem.size ∧
        variableName.strSize < state.paramMem.size ∧ args.dataSize < state.paramMem.size := by
  unfold setVariableRequest at served
  dsimp only at served
  split at served
  · cases served
  split at served
  · rename_i name guid named spaced
    split at served
    · cases served
    split at served
    · cases served
    rename_i present
    split at served
    · cases served
    split at served
    · cases served
    split at served
    · cases served
    rename_i small
    split at served
    · cases served
    rename_i fits
    obtain ⟨nameSmall, dataSmall⟩ := not_or.mp small
    cases served
    refine ⟨named, spaced, fun nonzero => ?_, rfl, _, rfl, rfl, UInt64.not_lt.mp fits,
      UInt64.not_le.mp nameSmall, UInt64.not_le.mp dataSmall⟩
    cases data : args.data with
    | some bytes => rfl
    | none => exact absurd ⟨nonzero, by rw [data]; rfl⟩ present
  · cases served

theorem Opening.transportSize_lt (opening : Opening) :
    opening.transportSize.toNat < 2 ^ 32 + 44 := by
  have bound := opening.largestVariable.toNat_lt
  rw [Opening.transportSize, UInt64.toNat_add, UInt32.toNat_toUInt64 opening.largestVariable,
    show sizeofVariableParam.toUInt64.toNat = 44 from rfl]
  omega

/-- A sum of words that fits a word is compared as it is. -/
theorem sum_le_of_le {first second : UInt32} {size : UInt64}
    (counted : first.toNat + second.toNat < 2 ^ 32) (le : (first + second).toUInt64 ≤ size) :
    first.toNat + second.toNat ≤ size.toNat := by
  rw [UInt64.le_iff_toNat_le, UInt32.toNat_toUInt64, UInt32.toNat_add,
    Nat.mod_eq_of_lt counted] at le
  exact le

theorem toUInt32_toNat {size : UInt64} (counted : size.toNat < 2 ^ 32) :
    size.toUInt32.toNat = size.toNat := by
  rw [UInt64.toNat_toUInt32, Nat.mod_eq_of_lt counted]

theorem nextName_length_le (name : Str16) : (nextName name).length ≤ name.bytes.length := by
  unfold nextName
  split
  · simp
  · exact Nat.le_refl _

/-- The size `GetNextVariableName` computes is that of the name it sends. -/
theorem localSize_toNat {localSize : UInt32}
    (computed : localSize = if name.first = 0 then 0 else name.strSize.toUInt32)
    (counted : name.bytes.length < 2 ^ 32) : localSize.toNat = (nextName name).length ∧
      name.bytes.take localSize.toNat = nextName name := by
  unfold nextName
  by_cases empty : name.first = 0
  · rw [if_pos empty] at computed
    simp [computed, empty]
  · rw [if_neg empty] at computed
    simp [computed, empty, strSize_toUInt32 counted]

theorem dataBytes_length {data : Option (Nat → UInt8)} {dataSize : UInt64}
    (present : dataSize ≠ 0 → data.isSome = true) :
    (dataBytes data dataSize).length = dataSize.toNat := by
  cases data with
  | some bytes => simp [dataBytes]
  | none =>
    have zero : dataSize = 0 := by
      by_contra nonzero
      cases present nonzero
    simp [dataBytes, zero]

section

variable {state : DriverState}

variable {args : GetVariableArgs} {request : GetVariableRequest} {opening : Opening}
  {exchange : Exchange}

theorem getVariable_fits (served : getVariableRequest state args = .ok request)
    (counted : (VariableCall.getVariable args).Counted) :
    (VariableCall.getVariable args).Fits state := by
  obtain ⟨name, guid, size, named, spaced, sized, -, paramSize, paramFits, resultFits⟩ :=
    getVariableRequest_ok served
  obtain ⟨nameCounted, sizeCounted⟩ := counted
  have nameSmall := nameCounted name named
  have sizeSmall := sizeCounted size sized
  have nameSize := strSize_toUInt32 (show name.bytes.length < 2 ^ 32 by omega)
  have dataSize := toUInt32_toNat (show size.toNat < 2 ^ 32 by omega)
  have header : sizeofVariableGetParam.toNat = 28 := rfl
  have resultHeader : sizeofVariableGetResult.toNat = 16 := rfl
  rw [paramSize] at paramFits
  have paramBound := sum_le_of_le (by omega) paramFits
  have resultBound := sum_le_of_le (by omega) resultFits
  constructor
  · intro other same
    cases named.symm.trans same
    omega
  · intro other same
    cases sized.symm.trans same
    omega

theorem getNextVariableName_fits {args : GetNextVariableNameArgs}
    {request : GetNextVariableNameRequest}
    (served : getNextVariableNameRequest state args = .ok request)
    (counted : (VariableCall.getNextVariableName args).Counted) :
    (VariableCall.getNextVariableName args).Fits state := by
  obtain ⟨name, guid, size, named, spaced, sized, localSize, computed, -, paramSize, paramFits,
    resultFits⟩ := getNextVariableNameRequest_ok served
  obtain ⟨nameCounted, sizeCounted⟩ := counted
  have nameSmall := nameCounted name named
  have sizeSmall := sizeCounted size sized
  have nameSize := (localSize_toNat computed (by omega)).1
  have noLonger := nextName_length_le name
  have dataSize := toUInt32_toNat (show size.toNat < 2 ^ 32 by omega)
  have header : sizeofVariableGetNextParam.toNat = 28 := rfl
  have resultHeader : sizeofVariableGetNextResult.toNat = 28 := rfl
  rw [paramSize] at paramFits
  have paramBound := sum_le_of_le (by omega) paramFits
  have resultBound := sum_le_of_le (by omega) resultFits
  constructor
  · intro other same
    cases named.symm.trans same
    omega
  · intro other same
    cases sized.symm.trans same
    omega

/-- The size of a block `SetVariable` computes. -/
theorem setSize_toNat (configured : state.paramMem.size = opening.transportSize) {name : Str16}
    (counted : name.bytes.length < 2 ^ 64) {dataSize : UInt64}
    (nameSmall : name.strSize < state.paramMem.size) (dataSmall : dataSize < state.paramMem.size) :
    (sizeofVariableSetParam.toUInt64 + name.strSize + dataSize).toNat =
      44 + name.bytes.length + dataSize.toNat := by
  have bound := opening.transportSize_lt
  rw [← configured] at bound
  rw [UInt64.lt_iff_toNat_lt] at nameSmall dataSmall
  rw [strSize_toNat counted] at nameSmall
  rw [UInt64.toNat_add, UInt64.toNat_add, strSize_toNat counted,
    show sizeofVariableSetParam.toUInt64.toNat = 44 from rfl]
  omega

theorem setVariable_fits (configured : state.paramMem.size = opening.transportSize)
    {args : SetVariableArgs} {request : VariableSetParam × UInt32 × Str16 × EfiGuid}
    (served : setVariableRequest state args = .ok request)
    (counted : (VariableCall.setVariable args).Counted) :
    (VariableCall.setVariable args).Fits state := by
  obtain ⟨param, paramSize, name, guid⟩ := request
  obtain ⟨named, -, -, -, size, computed, -, fits, nameSmall, dataSmall⟩ :=
    setVariableRequest_ok served
  intro other same
  cases named.symm.trans same
  rw [computed, UInt64.le_iff_toNat_le,
    setSize_toNat configured (counted name named) nameSmall dataSmall] at fits
  exact fits

/-! ### What reaches the application -/

theorem placed_of_name {block : VariableGetParam} {paramSize : UInt32}
    (param : exchange.param = .get block ∨ exchange.param = .getNext block)
    (ref : exchange.paramRef.word0 = state.paramMem.buffer ∧
      exchange.paramRef.word1 = paramSize.toUInt64)
    (counted : block.variableNameSize.toNat = block.variableName.length)
    (sum : paramSize.toNat = 28 + block.variableName.length)
    (fits : paramSize.toUInt64 ≤ state.paramMem.size) : Placed state.paramMem exchange := by
  have room := state.paramMem.room_toNat
  rw [UInt64.le_iff_toNat_le, UInt32.toNat_toUInt64] at fits
  have fields : exchange.param.fields = block.fields := by
    rcases param with same | same <;> rw [same] <;> rfl
  have extent : exchange.param.extent = 24 + block.variableNameSize.toNat := by
    rw [← block.nameSize_contents]
    rcases param with same | same <;> rw [same] <;> rfl
  refine ⟨?_, ref.1, ?_, ?_⟩
  · rw [fields]
    simp only [VariableGetParam.fields, List.mem_cons, List.not_mem_nil, or_false]
    rintro field (rfl | rfl | rfl | rfl) <;> simp only [leBytes_length, guidBytes_length] <;> omega
  · rw [extent, ref.2, UInt32.toNat_toUInt64]
    omega
  · rw [ref.2, UInt32.toNat_toUInt64]
    exact fits

theorem getVariable_marshalled (served : getVariableRequest state args = .ok request)
    (short : (VariableCall.getVariable args).Short) (param : exchange.param = .get request.param)
    (ref : exchange.paramRef.word0 = state.paramMem.buffer ∧
      exchange.paramRef.word1 = request.paramSize.toUInt64) :
    Marshalled state.paramMem (.getVariable args) exchange := by
  obtain ⟨name, guid, size, named, spaced, sized, block, paramSize, fits, -⟩ :=
    getVariableRequest_ok served
  have nameShort := short name named
  have nameSize := strSize_toUInt32 (show name.bytes.length < 2 ^ 32 by omega)
  have counted := strSize_toUInt16 nameShort
  have header : sizeofVariableGetParam.toNat = 28 := rfl
  rw [nameSize, List.take_length] at block
  constructor
  · refine ⟨name, guid, named, spaced, ?_⟩
    rw [param, block]
    exact decodeGet_contents _ counted.symm
  · refine placed_of_name (.inl param) ref ?_ ?_ fits
    · rw [block]
      exact counted
    · rw [paramSize, UInt32.toNat_add, block]
      dsimp only
      omega

theorem getNextVariableName_marshalled {args : GetNextVariableNameArgs}
    {request : GetNextVariableNameRequest}
    (served : getNextVariableNameRequest state args = .ok request)
    (short : (VariableCall.getNextVariableName args).Short)
    (param : exchange.param = .getNext request.param)
    (ref : exchange.paramRef.word0 = state.paramMem.buffer ∧
      exchange.paramRef.word1 = request.paramSize.toUInt64) :
    Marshalled state.paramMem (.getNextVariableName args) exchange := by
  obtain ⟨name, guid, size, named, spaced, sized, localSize, computed, block, paramSize, fits, -⟩ :=
    getNextVariableNameRequest_ok served
  have nameShort := short name named
  obtain ⟨nameSize, taken⟩ := localSize_toNat computed (show name.bytes.length < 2 ^ 32 by omega)
  have noLonger := nextName_length_le name
  have counted : localSize.toUInt16.toNat = (nextName name).length := by
    rw [UInt32.toNat_toUInt16, nameSize, Nat.mod_eq_of_lt (by omega)]
  have header : sizeofVariableGetNextParam.toNat = 28 := rfl
  rw [taken] at block
  constructor
  · refine ⟨name, guid, named, spaced, ?_⟩
    rw [param, block]
    exact decodeGet_contents _ counted.symm
  · refine placed_of_name (.inr param) ref ?_ ?_ fits
    · rw [block]
      exact counted
    · rw [paramSize, UInt32.toNat_add, block]
      dsimp only
      omega

theorem setVariable_marshalled (configured : state.paramMem.size = opening.transportSize)
    {args : SetVariableArgs} {block : VariableSetParam} {paramSize : UInt32} {name : Str16}
    {guid : EfiGuid} (served : setVariableRequest state args = .ok (block, paramSize, name, guid))
    (short : (VariableCall.setVariable args).Short) (param : exchange.param = .set block)
    (ref : exchange.paramRef.word0 = state.paramMem.buffer ∧
      exchange.paramRef.word1 = paramSize.toUInt64) :
    Marshalled state.paramMem (.setVariable args) exchange := by
  obtain ⟨named, spaced, present, built, size, computed, truncated, fits, nameSmall, dataSmall⟩ :=
    setVariableRequest_ok served
  obtain ⟨nameShort, blockShort⟩ := short name named
  have room := state.paramMem.room_toNat
  have total := setSize_toNat configured (show name.bytes.length < 2 ^ 64 by omega) nameSmall
    dataSmall
  rw [← computed] at total
  rw [UInt64.le_iff_toNat_le, total] at fits
  have sent : paramSize.toUInt64.toNat = 44 + name.bytes.length + args.dataSize.toNat := by
    rw [UInt32.toNat_toUInt64, truncated, toUInt32_toNat (by omega), total]
  have strSize := strSize_toNat (show name.bytes.length < 2 ^ 64 by omega)
  have nameSize : name.strSize.toUInt16.toNat = name.bytes.length := by
    rw [UInt64.toNat_toUInt16, strSize, Nat.mod_eq_of_lt nameShort]
  have offset : name.strSize.toUInt32.toNat = name.bytes.length :=
    strSize_toUInt32 (by omega)
  have dataSize : args.dataSize.toUInt32.toNat = args.dataSize.toNat := toUInt32_toNat (by omega)
  have data := dataBytes_length present
  constructor
  · refine ⟨name, guid, named, spaced, ?_, dataSize⟩
    rw [param, built]
    exact decodeSet_contents _ rfl rfl offset nameSize (dataSize.trans data.symm)
  · refine ⟨?_, ref.1, ?_, ?_⟩
    · rw [param, built]
      simp only [VariableParam.fields, VariableSetParam.fields, List.mem_cons, List.not_mem_nil,
        or_false]
      rintro field (rfl | rfl | rfl | rfl | rfl | rfl | rfl | rfl) <;>
        simp only [leBytes_length, guidBytes_length, List.length_append] <;> omega
    · rw [param, ref.2, sent, VariableParam.extent, block.offsetVariableName_contents,
        block.nameSize_contents, block.offsetData_contents, block.dataSize_contents, built]
      dsimp only
      rw [offset, nameSize, dataSize, show (0 : UInt32).toNat = 0 from rfl]
      omega
    · rw [ref.2, sent]
      exact fits

theorem queryVariableInfo_marshalled {args : QueryVariableInfoArgs} {block : VariableQueryParam}
    (served : queryVariableInfoRequest state args = .ok block)
    (param : exchange.param = .query block) (ref : exchange.paramRef.word0 = state.paramMem.buffer ∧
      exchange.paramRef.word1 = sizeofVariableQueryParam.toUInt64) :
    Marshalled state.paramMem (.queryVariableInfo args) exchange := by
  have room := state.paramMem.room_toNat
  have built : block = ⟨sizeofVariableQueryParam, args.attributes⟩ := by
    unfold queryVariableInfoRequest at served
    repeat' split at served
    all_goals cases served
    rfl
  have sent : exchange.paramRef.word1.toNat = 8 := by
    rw [ref.2]
    rfl
  have word {offset : Nat} {value : UInt32}
      (member : ⟨offset, leBytes 4 value.toNat⟩ ∈ block.fields) :
      field32 (VariableParam.query block).contents offset = value :=
    field32_of_slice ((VariableParam.query block).slice_of member (leBytes_length ..))
  constructor
  · have size := word (show ⟨0, leBytes 4 block.size.toNat⟩ ∈ block.fields by
      simp [VariableQueryParam.fields])
    have attributes := word (show ⟨4, leBytes 4 block.attributes.toNat⟩ ∈ block.fields by
      simp [VariableQueryParam.fields])
    unfold VariableCall.DecodedFrom
    rw [param, decodeQuery, size, attributes, built]
  · refine ⟨?_, ref.1, ?_, ?_⟩
    · rw [param]
      simp only [VariableParam.fields, VariableQueryParam.fields, List.mem_cons, List.not_mem_nil,
        or_false]
      rintro field (rfl | rfl) <;> simp only [leBytes_length] <;> omega
    · rw [param, sent]
      exact Nat.le_refl 8
    · rw [sent]
      omega

end

/-- The first command a service sends, if it sends one, is the one it was asked for. -/
theorem invoked_exchange (env : Environment) (state : DriverState) (command : VariableServiceOp)
    (param : VariableParam) (paramSize : UInt32) (resultSize : Option UInt32) :
    (opteeRuntimeVariableInvokeCommand env state command param paramSize resultSize).2.exchanges =
        state.exchanges ∨
      ∃ exchange,
        (opteeRuntimeVariableInvokeCommand env state command param paramSize
          resultSize).2.exchanges = state.exchanges ++ [exchange] ∧
        exchange.param = param ∧ exchange.paramRef.word0 = state.paramMem.buffer ∧
        exchange.paramRef.word1 = paramSize.toUInt64 := by
  cases allocated : (env state.position).messageAllocated with
  | false =>
    left
    simp [opteeRuntimeVariableInvokeCommand, allocated]
  | true =>
    right
    refine ⟨⟨invokeCommandMessage state.session command.code
      (commandOperation state paramSize (resultSize.getD 4)), param,
      (teecSmcInvokeCommand state.session command.code
        (commandOperation state paramSize (resultSize.getD 4)) true
        fun _ => (env state.position).reply).result⟩, ?_, rfl, paramRef_message rfl⟩
    simp only [opteeRuntimeVariableInvokeCommand, allocated, if_true]

/-- A served call sends its request first or nothing, one that does not fit sends
nothing and fails. -/
structure CallMarshalled (env : Environment) (state : DriverState) (call : VariableCall) :
    Prop where
  faithful : call.Short →
    (serve env state call).2.exchanges = state.exchanges ∨
      ∃ exchange rest, (serve env state call).2.exchanges = state.exchanges ++ exchange :: rest ∧
        Marshalled state.paramMem call exchange
  rejected : call.Counted → ¬ call.Fits state →
    (serve env state call).2.exchanges = state.exchanges ∧
      (call.isHook = true ∨ ∃ status, (serve env state call).1.status = some status ∧
        status.isError = true)

theorem refusal_isError {status : EfiStatus} (refused : status ∈ refusals) :
    status.isError = true := by
  rcases mem_refusals refused with rfl | rfl | rfl | rfl | rfl | rfl
  all_goals rfl

section

variable {env : Environment} {state : DriverState} {call : VariableCall}

theorem CallMarshalled.of_refused (unchanged : (serve env state call).2.exchanges = state.exchanges)
    (refused : call.isHook = true ∨ ∃ status ∈ refusals,
      (serve env state call).1.status = some status) : CallMarshalled env state call := by
  refine ⟨fun _ => .inl unchanged, fun _ _ => ⟨unchanged, ?_⟩⟩
  rcases refused with hook | ⟨status, member, failed⟩
  · exact .inl hook
  · exact .inr ⟨status, failed, refusal_isError member⟩

theorem CallMarshalled.of_invoked (command : VariableServiceOp) (param : VariableParam)
    (paramSize : UInt32) (resultSize : Option UInt32)
    (after : ∃ rest, (serve env state call).2.exchanges =
      (opteeRuntimeVariableInvokeCommand env state command param paramSize
        resultSize).2.exchanges ++ rest ∧
      ((opteeRuntimeVariableInvokeCommand env state command param paramSize
        resultSize).2.exchanges = state.exchanges → rest = []))
    (marshalled : call.Short → ∀ exchange : Exchange, exchange.param = param →
      exchange.paramRef.word0 = state.paramMem.buffer ∧
        exchange.paramRef.word1 = paramSize.toUInt64 → Marshalled state.paramMem call exchange)
    (fits : call.Counted → call.Fits state) : CallMarshalled env state call := by
  obtain ⟨rest, exchanges, nothing⟩ := after
  constructor
  · intro short
    rw [exchanges]
    rcases invoked_exchange env state command param paramSize resultSize with
      same | ⟨exchange, sent, carried, ref⟩
    · rw [nothing same, same, List.append_nil]
      exact .inl rfl
    · refine .inr ⟨exchange, rest, ?_, marshalled short exchange carried ref⟩
      rw [sent, List.append_assoc, List.singleton_append]
  · intro counted misfit
    exact absurd (fits counted) misfit

end

theorem invoked_isError_of_unsent {env : Environment} {param : VariableParam}
    {resultSize : Option UInt32}
    (unsent : (opteeRuntimeVariableInvokeCommand env state command param paramSize
      resultSize).2.exchanges = state.exchanges) :
    (opteeRuntimeVariableInvokeCommand env state command param paramSize
      resultSize).1.status.isError = true := by
  rw [invoked_status, invokeStatus_isError]
  intro success
  have allocated := allocated_of_success success
  simp [opteeRuntimeVariableInvokeCommand, allocated] at unsent

theorem getVariable_callMarshalled (env : Environment) (state : DriverState)
    (args : GetVariableArgs) : CallMarshalled env state (.getVariable args) := by
  rcases getVariableRequest_cases state args with ⟨status, refused, ended⟩ | ⟨hooked, ended⟩ |
    ⟨request, served, -⟩
  · refine .of_refused ?_ (.inr ⟨status, refused, ?_⟩) <;>
      simp [serve, opteeRuntimeGetVariable, ended, ServiceOutcome.status]
  · refine .of_refused ?_ (.inl hooked)
    simp [serve, opteeRuntimeGetVariable, ended]
  · refine .of_invoked .get (.get request.param) request.paramSize (some request.resultSize)
      ⟨[], ?_, fun _ => rfl⟩ (fun short exchange => getVariable_marshalled served short)
      (getVariable_fits served)
    simp [serve, opteeRuntimeGetVariable, served]

theorem getNextVariableName_callMarshalled (env : Environment) (state : DriverState)
    (args : GetNextVariableNameArgs) : CallMarshalled env state (.getNextVariableName args) := by
  rcases getNextVariableNameRequest_cases state args with ⟨status, refused, ended⟩ |
    ⟨request, served, -⟩
  · refine .of_refused ?_ (.inr ⟨status, refused, ?_⟩) <;>
      simp [serve, opteeRuntimeGetNextVariableName, ended, ServiceOutcome.status]
  · refine .of_invoked .getNextVar (.getNext request.param) request.paramSize
      (some request.resultSize) ⟨[], ?_, fun _ => rfl⟩
      (fun short exchange => getNextVariableName_marshalled served short)
      (getNextVariableName_fits served)
    simp [serve, opteeRuntimeGetNextVariableName, served]

theorem setVariable_callMarshalled (env : Environment)
    (configured : state.paramMem.size = opening.transportSize) (args : SetVariableArgs) :
    CallMarshalled env state (.setVariable args) := by
  rcases setVariableRequest_cases state args with ⟨status, refused, ended, -⟩ | ⟨hooked, ended⟩ |
    ⟨⟨block, paramSize, name, guid⟩, served, -⟩
  · refine .of_refused ?_ (.inr ⟨status, refused, ?_⟩) <;>
      simp [serve, opteeRuntimeSetVariable, ended, ServiceOutcome.status]
  · refine .of_refused ?_ (.inl hooked)
    simp [serve, opteeRuntimeSetVariable, ended]
  · refine .of_invoked .set (.set block) paramSize none ?_
      (fun short exchange => setVariable_marshalled configured served short)
      (setVariable_fits configured served)
    simp only [serve, opteeRuntimeSetVariable, served]
    split
    · exact ⟨[], (List.append_nil _).symm, fun _ => rfl⟩
    · rename_i succeeded
      obtain ⟨rest, sends⟩ := secureBootHook_sends env
        (opteeRuntimeVariableInvokeCommand env state .set (.set block) paramSize none).2 name guid
      refine ⟨rest, ?_, fun unsent => absurd (invoked_isError_of_unsent unsent) succeeded⟩
      rw [sends.state]

theorem queryVariableInfo_callMarshalled (env : Environment) (state : DriverState)
    (args : QueryVariableInfoArgs) : CallMarshalled env state (.queryVariableInfo args) := by
  cases served : queryVariableInfoRequest state args with
  | error status =>
    refine ⟨fun _ => .inl ?_, fun _ misfit => absurd trivial misfit⟩
    simp [serve, opteeRuntimeQueryVariableInfo, served]
  | ok block =>
    refine .of_invoked .queryInfo (.query block) sizeofVariableQueryParam
      (some sizeofVariableQueryResult) ⟨[], ?_, fun _ => rfl⟩
      (fun _ exchange => queryVariableInfo_marshalled served) fun _ => trivial
    simp [serve, opteeRuntimeQueryVariableInfo, served]

theorem call_marshalled (env : Environment)
    (configured : state.paramMem.size = opening.transportSize) (call : VariableCall) :
    CallMarshalled env state call := by
  cases call with
  | getVariable args => exact getVariable_callMarshalled env state args
  | getNextVariableName args => exact getNextVariableName_callMarshalled env state args
  | setVariable args => exact setVariable_callMarshalled env configured args
  | queryVariableInfo args => exact queryVariableInfo_callMarshalled env state args

/-! ### Runs -/

def SameBuffers (before after : DriverState) : Prop :=
  after.paramMem = before.paramMem ∧ after.resultMem = before.resultMem

theorem Sends.buffers {before after : DriverState} {sent : List Exchange}
    (sends : Sends before after sent) : SameBuffers before after := by
  rw [sends.state]
  exact ⟨rfl, rfl⟩

/-- The transport buffers are those the session was opened with. -/
theorem serviceStep_buffers (env : Environment) (state : DriverState) (call : VariableCall) :
    SameBuffers state (serviceStep env state call) := by
  cases call with
  | getVariable args =>
    obtain ⟨sent, sends, -⟩ := getVariable_sends env state args
    exact sends.buffers
  | getNextVariableName args =>
    obtain ⟨sent, sends, -⟩ := getNextVariableName_sends env state args
    exact sends.buffers
  | setVariable args =>
    cases hooked : args.isSessionHook with
    | false =>
      obtain ⟨sent, sends, -⟩ := setVariable_sends env state hooked
      exact sends.buffers
    | true =>
      rcases setVariableRequest_cases state args with ⟨status, -, ended, -⟩ | ⟨-, ended⟩ |
        ⟨request, -, plain⟩
      · simp [serviceStep, serve, opteeRuntimeSetVariable, ended, SameBuffers]
      · simp [serviceStep, serve, opteeRuntimeSetVariable, ended, SameBuffers]
      · cases hooked.symm.trans plain
  | queryVariableInfo args =>
    obtain ⟨sent, sends, -⟩ := queryVariableInfo_sends env state args
    exact sends.buffers

theorem run_marshalled (env : Environment)
    (configured : state.paramMem.size = opening.transportSize) (calls : List VariableCall) :
    AllSteps (serviceStep env) (CallMarshalled env) state calls := by
  induction calls generalizing state with
  | nil => trivial
  | cons call rest ih =>
    refine ⟨call_marshalled env configured call, ih ?_⟩
    rw [(serviceStep_buffers env state call).1]
    exact configured

theorem configured_of_taOpenSession {mVariableType : List (Str16 × EfiGuid)}
    (opened : taOpenSession opening mVariableType = .ok state) :
    state.paramMem.size = opening.transportSize := by
  unfold taOpenSession at opened
  dsimp only at opened
  repeat' split at opened
  all_goals cases opened
  rfl

/-- In every run of calls after the session was opened, with any configured sizes:
the block of a call that reaches the application reads back as what the caller
asked for, inside the buffer and the size sent; a call that does not fit sends
nothing. -/
theorem requests_marshalled (opening : Opening) (mVariableType : List (Str16 × EfiGuid))
    {state : DriverState} (opened : taOpenSession opening mVariableType = .ok state)
    (env : Environment) (calls : List VariableCall) :
    AllSteps (serviceStep env) (CallMarshalled env) state calls :=
  run_marshalled env (configured_of_taOpenSession opened) calls

/-- An application that answers every command with success. -/
def servingTurn : Turn where
  messageAllocated := true
  reply := ⟨smcReturnOk, MsgArg.zero 4⟩
  result _ := 0
  variableArchInstalled := false
  poolAllocated := false

/-- Three bytes stored under a name of one character. -/
def storeCall : VariableCall :=
  .setVariable ⟨some ⟨[65], by decide⟩, some ⟨1, 2, 3, Vector.replicate 8 4⟩, 7, 3,
    some fun index => UInt8.ofNat index⟩

/-- A run of the platform's driver that sends a block. -/
theorem requests_marshalled_store :
    (serve (fun _ => servingTurn) openedDriver storeCall).2.exchanges ≠ [] ∧
      storeCall.Short ∧ storeCall.Counted ∧
      AllSteps (serviceStep fun _ => servingTurn) (CallMarshalled fun _ => servingTurn)
        openedDriver [storeCall] := by
  refine ⟨by decide, ?_, ?_, requests_marshalled platformOpening [] taOpenSession_platform
    (fun _ => servingTurn) [storeCall]⟩
  · rintro name ⟨⟩
    decide
  · rintro name ⟨⟩
    decide

theorem not_mem_nothing : (0 : UInt16) ∉ [] := List.not_mem_nil

theorem not_mem_ones (count : Nat) : (0 : UInt16) ∉ List.replicate count 1 := by
  intro member
  exact absurd (List.eq_of_mem_replicate member) (by decide)

def emptyName : Str16 := ⟨[], not_mem_nothing⟩

def firstNameCall : VariableCall :=
  .getNextVariableName ⟨some 2, some emptyName, some ⟨1, 2, 3, Vector.replicate 8 4⟩⟩

/-- A name longer than the buffer that starts like a test hook's. -/
def longName : Str16 := ⟨List.replicate 40000 1, not_mem_ones 40000⟩

/-- A test hook's call under it. -/
def longHookCall : VariableCall :=
  .setVariable ⟨some longName, some ⟨1, 0, 0, Vector.replicate 8 0⟩, 0, 8, some fun _ => 0⟩

/-- An empty name arrives without its terminator, and a test hook's call that does not
fit is not rejected. -/
theorem requests_not_verbatim :
    (∃ exchange, (serve (fun _ => servingTurn) openedDriver firstNameCall).2.exchanges =
        [exchange] ∧ ¬ (decodeGet exchange.param.contents).variableName = emptyName.bytes) ∧
    ¬ longHookCall.Fits openedDriver ∧
      (serve (fun _ => servingTurn) openedDriver longHookCall).1.status =
        some EfiStatus.success := by
  refine ⟨?_, ?_, ?_⟩
  · refine ⟨_, rfl, ?_⟩
    decide +kernel
  · intro fits
    have inside := fits longName rfl
    have length : longName.bytes.length = 80002 := by
      rw [Str16.bytes_length, longName, List.length_replicate]
    have buffer : openedDriver.paramMem.size.toNat = 65580 := rfl
    omega
  · rfl

end MuRockchip.AuthVar
