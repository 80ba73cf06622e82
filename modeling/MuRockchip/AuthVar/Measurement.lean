/-
Measuring secure-boot variables (`Measurement.c`).

`MeasureVariable` builds an event of the variable's namespace, the lengths of its
name and data, the name and the data, and extends PCR 7 with it. `SecureBootHook`
measures a variable after it was set: it reads the variable back, and measures an
empty content if it cannot.

* `measureVariable_encodes`: what is measured, and that it tells variables apart.
* `setVariable_measured_iff`: when the measured content is the stored one.
-/
import MuRockchip.AuthVar.BufferSize
import MuRockchip.AuthVar.Marshalling

namespace MuRockchip.AuthVar

open MuRockchip.Base MuRockchip.Optee

/-! ### The secure-boot variables -/

/-- The namespaces and names of `mVariableType`. -/
def gEfiGlobalVariableGuid : EfiGuid :=
  ⟨0x8be4df61, 0x93ca, 0x11d2, #v[0xaa, 0x0d, 0x00, 0xe0, 0x98, 0x03, 0x2b, 0x8c]⟩

def gEfiImageSecurityDatabaseGuid : EfiGuid :=
  ⟨0xd719b2cb, 0x3d3a, 0x4596, #v[0xa3, 0xbc, 0xda, 0xd0, 0x0e, 0x67, 0x65, 0x6f]⟩

def efiSecureBootModeName : Str16 :=
  ⟨[0x53, 0x65, 0x63, 0x75, 0x72, 0x65, 0x42, 0x6f, 0x6f, 0x74], by decide⟩

def efiPlatformKeyName : Str16 := ⟨[0x50, 0x4b], by decide⟩
def efiKeyExchangeKeyName : Str16 := ⟨[0x4b, 0x45, 0x4b], by decide⟩
def efiImageSecurityDatabase : Str16 := ⟨[0x64, 0x62], by decide⟩
def efiImageSecurityDatabase1 : Str16 := ⟨[0x64, 0x62, 0x78], by decide⟩

def mVariableType : List (Str16 × EfiGuid) :=
  [(efiSecureBootModeName, gEfiGlobalVariableGuid), (efiPlatformKeyName, gEfiGlobalVariableGuid),
    (efiKeyExchangeKeyName, gEfiGlobalVariableGuid),
    (efiImageSecurityDatabase, gEfiImageSecurityDatabaseGuid),
    (efiImageSecurityDatabase1, gEfiImageSecurityDatabaseGuid)]

/-! ### The event -/

/-- `EFI_VARIABLE_DATA_TREE` is packed: the namespace, two lengths, and one element
each of the name and the data. -/
def sizeofVariableDataTree : UInt64 := 35
def sizeofUnicodeName : UInt64 := 2
def sizeofVariableData : UInt64 := 1

def evEfiVariableDriverConfig : UInt32 := 0x80000001

/-- The bytes of a string without its terminator. -/
def nameBytes (name : Str16) : List UInt8 :=
  name.chars.flatMap fun (char : UInt16) => leBytes 2 char.toNat

def varLogSize (name : Str16) (data : List UInt8) : UInt32 :=
  (sizeofVariableDataTree + UInt64.ofNat name.chars.length * 2 + UInt64.ofNat data.length -
    sizeofUnicodeName - sizeofVariableData).toUInt32

/-- The stores of `MeasureVariable` to the event. -/
def varLogFields (name : Str16) (vendorGuid : EfiGuid) (data : List UInt8) : List Field :=
  [⟨0, guidBytes vendorGuid⟩, ⟨16, leBytes 8 name.chars.length⟩, ⟨24, leBytes 8 data.length⟩,
    ⟨32, nameBytes name⟩] ++
      if data.length ≠ 0 then [⟨32 + 2 * name.chars.length, data⟩] else []

/-- A call of `TpmMeasureAndLogData`. -/
structure Measured where
  pcrIndex : UInt32
  eventType : UInt32
  eventLog : List UInt8
  hashData : List UInt8
  deriving DecidableEq, Repr

/-- `MeasureVariable`: nothing when there is no memory for the event, and no outcome
when a store goes past its end. -/
def measureVariable (logAllocated : Bool) (name : Str16) (vendorGuid : EfiGuid)
    (data : List UInt8) : Option (Option Measured) :=
  if !logAllocated then some none
  else
    let size := (varLogSize name data).toNat
    let fields := varLogFields name vendorGuid data
    if ∀ field ∈ fields, field.offset + field.bytes.length ≤ size then
      let log := slice (placeAll (fun _ => 0) fields) 0 size
      some (some ⟨7, evEfiVariableDriverConfig, log, log⟩)
    else none

/-- The event of a variable. -/
def eventBytes (name : Str16) (vendorGuid : EfiGuid) (data : List UInt8) : List UInt8 :=
  guidBytes vendorGuid ++ leBytes 8 name.chars.length ++ leBytes 8 data.length ++
    nameBytes name ++ data

/-- The event's size is below 2^32, which `VarLogSize` holds. -/
def Loggable (name : Str16) (data : List UInt8) : Prop :=
  32 + 2 * name.chars.length + data.length < 2 ^ 32

instance (name : Str16) (data : List UInt8) : Decidable (Loggable name data) :=
  inferInstanceAs (Decidable (_ < _))

/-! ### The bytes of an event -/

section

variable {name : Str16} {vendorGuid : EfiGuid} {data : List UInt8}

@[simp]
theorem nameBytes_length (name : Str16) : (nameBytes name).length = 2 * name.chars.length := by
  simp [nameBytes, List.length_flatMap, Nat.mul_comm]

theorem eventBytes_length :
    (eventBytes name vendorGuid data).length = 32 + 2 * name.chars.length + data.length := by
  simp only [eventBytes, List.length_append, guidBytes_length, leBytes_length, nameBytes_length]

theorem varLogSize_toNat :
    (varLogSize name data).toNat = (32 + 2 * name.chars.length + data.length) % 2 ^ 32 := by
  rw [varLogSize, UInt64.toNat_toUInt32, UInt64.toNat_sub, UInt64.toNat_sub, UInt64.toNat_add,
    UInt64.toNat_add, UInt64.toNat_mul, UInt64.toNat_ofNat', UInt64.toNat_ofNat',
    show sizeofVariableDataTree.toNat = 35 from rfl, show sizeofUnicodeName.toNat = 2 from rfl,
    show sizeofVariableData.toNat = 1 from rfl, show (2 : UInt64).toNat = 2 from rfl]
  omega

theorem varLogFields_apart : (varLogFields name vendorGuid data).Pairwise
    fun first second => first.interval.Disjoint second.interval := by
  unfold varLogFields
  split
  · simp [Field.interval, Interval.Disjoint, Interval.finish]
    omega
  · simp [Field.interval, Interval.Disjoint, Interval.finish]

/-- The stores reach to the end of the event. -/
theorem varLogFields_inside_iff {size : Nat} :
    (∀ field ∈ varLogFields name vendorGuid data, field.offset + field.bytes.length ≤ size) ↔
      32 + 2 * name.chars.length + data.length ≤ size := by
  unfold varLogFields
  split
  · simp
    omega
  · simp
    omega

theorem slice_varLogFields :
    slice (placeAll (fun _ => 0) (varLogFields name vendorGuid data)) 0
      (32 + 2 * name.chars.length + data.length) = eventBytes name vendorGuid data := by
  have stored (offset : Nat) (bytes : List UInt8)
      (member : ⟨offset, bytes⟩ ∈ varLogFields name vendorGuid data) :
      slice (placeAll (fun _ => 0) (varLogFields name vendorGuid data)) offset bytes.length =
        bytes :=
    slice_placeAll _ varLogFields_apart member
  have guid := stored 0 (guidBytes vendorGuid) (by simp [varLogFields])
  have nameLength := stored 16 (leBytes 8 name.chars.length) (by simp [varLogFields])
  have dataLength := stored 24 (leBytes 8 data.length) (by simp [varLogFields])
  have chars := stored 32 (nameBytes name) (by simp [varLogFields])
  have content : slice (placeAll (fun _ => 0) (varLogFields name vendorGuid data))
      (32 + 2 * name.chars.length) data.length = data := by
    by_cases empty : data.length = 0
    · rw [List.length_eq_zero_iff.mp empty]
      rfl
    · exact stored _ data (by simp [varLogFields, empty])
  rw [guidBytes_length] at guid
  rw [leBytes_length] at nameLength dataLength
  rw [nameBytes_length] at chars
  rw [show 32 + 2 * name.chars.length + data.length =
      16 + 8 + 8 + 2 * name.chars.length + data.length from rfl]
  rw [slice_append, slice_append, slice_append, slice_append]
  simp only [Nat.zero_add, Nat.reduceAdd, guid, nameLength, dataLength, chars, content]
  rfl

theorem nameBytes_injective {first second : Str16} (same : nameBytes first = nameBytes second) :
    first = second := by
  have chars (left right : List UInt16)
      (same : (left.flatMap fun (char : UInt16) => leBytes 2 char.toNat) =
        right.flatMap fun (char : UInt16) => leBytes 2 char.toNat) : left = right := by
    induction left generalizing right with
    | nil =>
      cases right with
      | nil => rfl
      | cons char rest => simp [leBytes] at same
    | cons char rest ih =>
      cases right with
      | nil => simp [leBytes] at same
      | cons other others =>
        rw [List.flatMap_cons, List.flatMap_cons] at same
        obtain ⟨head, tail⟩ := List.append_inj same (by simp)
        have small (char : UInt16) : char.toNat < 256 ^ 2 := char.toNat_lt
        have value := congrArg leValue head
        rw [leValue_leBytes_of_lt (small char), leValue_leBytes_of_lt (small other)] at value
        rw [UInt16.toNat_inj.mp value, ih others tail]
  exact Str16.ext (chars _ _ same)

/-- Two events are equal only for one variable: the namespace and the lengths are
fields of fixed width, and the lengths split the rest. -/
theorem eventBytes_injective {otherName : Str16} {otherGuid : EfiGuid} {otherData : List UInt8}
    (loggable : Loggable name data) (otherLoggable : Loggable otherName otherData)
    (same : eventBytes name vendorGuid data = eventBytes otherName otherGuid otherData) :
    name = otherName ∧ vendorGuid = otherGuid ∧ data = otherData := by
  unfold Loggable at loggable otherLoggable
  unfold eventBytes at same
  simp only [List.append_assoc] at same
  obtain ⟨guid, same⟩ := List.append_inj same (by simp)
  obtain ⟨nameLength, same⟩ := List.append_inj same (by simp)
  obtain ⟨dataLength, same⟩ := List.append_inj same (by simp)
  have length {first second : Nat} (small : first < 2 ^ 32) (otherSmall : second < 2 ^ 32)
      (same : leBytes 8 first = leBytes 8 second) : first = second := by
    have value := congrArg leValue same
    rwa [leValue_leBytes_of_lt (Nat.lt_trans small (by decide)),
      leValue_leBytes_of_lt (Nat.lt_trans otherSmall (by decide))] at value
  have nameCount := length (by omega) (by omega) nameLength
  obtain ⟨chars, content⟩ := List.append_inj same (by simp [nameCount])
  refine ⟨nameBytes_injective chars, ?_, content⟩
  rw [← guidOf_guidBytes vendorGuid, guid, guidOf_guidBytes]

theorem measureVariable_of_loggable (loggable : Loggable name data) :
    measureVariable true name vendorGuid data = some (some ⟨7, evEfiVariableDriverConfig,
      eventBytes name vendorGuid data, eventBytes name vendorGuid data⟩) := by
  have size : (varLogSize name data).toNat = 32 + 2 * name.chars.length + data.length := by
    rw [varLogSize_toNat]
    exact Nat.mod_eq_of_lt loggable
  unfold measureVariable
  rw [if_neg (by decide)]
  dsimp only
  rw [if_pos (varLogFields_inside_iff.mpr (Nat.le_of_eq size.symm)), size, slice_varLogFields]

/-- An event whose size is cut to 32 bits is stored past its end. -/
theorem measureVariable_of_not_loggable (long : ¬Loggable name data) :
    measureVariable true name vendorGuid data = none := by
  unfold Loggable at long
  unfold measureVariable
  rw [if_neg (by decide)]
  dsimp only
  rw [if_neg]
  intro inside
  have covered := varLogFields_inside_iff.mp inside
  rw [varLogSize_toNat] at covered
  have below := Nat.mod_lt (32 + 2 * name.chars.length + data.length) (by decide : 0 < 2 ^ 32)
  omega

end

/-- `MeasureVariable` measures the namespace, the lengths, the name and the data,
one after the other and in exactly the computed size; every store stays inside the
event; and no other variable has the same event. -/
theorem measureVariable_encodes (name : Str16) (vendorGuid : EfiGuid) (data : List UInt8)
    (loggable : Loggable name data) :
    (∃ measured, measureVariable true name vendorGuid data = some (some measured) ∧
        measured.pcrIndex = 7 ∧ measured.eventLog = eventBytes name vendorGuid data ∧
        measured.hashData = eventBytes name vendorGuid data ∧
        measured.eventLog.length = (varLogSize name data).toNat) ∧
      (∀ field ∈ varLogFields name vendorGuid data,
        field.offset + field.bytes.length ≤ (varLogSize name data).toNat) ∧
      ∀ otherName otherGuid otherData, Loggable otherName otherData →
        measureVariable true otherName otherGuid otherData =
            measureVariable true name vendorGuid data →
        otherName = name ∧ otherGuid = vendorGuid ∧ otherData = data := by
  have size : (varLogSize name data).toNat = 32 + 2 * name.chars.length + data.length := by
    rw [varLogSize_toNat]
    exact Nat.mod_eq_of_lt loggable
  refine ⟨⟨_, measureVariable_of_loggable loggable, rfl, rfl, rfl, ?_⟩, ?_, ?_⟩
  · rw [size]
    exact eventBytes_length
  · rw [size]
    exact varLogFields_inside_iff.mpr (Nat.le_refl _)
  · intro otherName otherGuid otherData otherLoggable same
    rw [measureVariable_of_loggable loggable, measureVariable_of_loggable otherLoggable] at same
    have events := congrArg Measured.eventLog (Option.some.inj (Option.some.inj same))
    exact eventBytes_injective otherLoggable loggable events

/-- The event of a platform key of one byte. -/
theorem measureVariable_encodes_platformKey :
    ∃ measured, measureVariable true efiPlatformKeyName gEfiGlobalVariableGuid [0xAB] =
        some (some measured) ∧
      measured.eventLog = eventBytes efiPlatformKeyName gEfiGlobalVariableGuid [0xAB] ∧
      measured.eventLog.length = 37 := by
  obtain ⟨measured, made, _, log, _, size⟩ :=
    (measureVariable_encodes efiPlatformKeyName gEfiGlobalVariableGuid [0xAB] (by decide)).1
  exact ⟨measured, made, log, size.trans (by decide)⟩

/-! ### The hook -/

/-- What the hook does: the status of its read, if it makes one, and what it
measures. -/
structure HookReport where
  readBack : Option EfiStatus
  measured : Option Measured
  deriving DecidableEq, Repr

/-- The measurement of `SecureBootHook`. `logAllocated` is whether the pool has memory
for the event. -/
def HookRead.report (logAllocated : Bool) (variableName : Str16) (vendorGuid : EfiGuid) :
    HookRead → Option HookReport
  | .skipped => some ⟨none, none⟩
  | .read outcome => outcome.bind fun (status, value) =>
    -- whatever the reason, a variable that is not read is measured as empty
    let variableData := if status.isError then [] else value
    (measureVariable logAllocated variableName vendorGuid variableData).map fun measured =>
      ⟨some status, measured⟩

/-- What `OpteeRuntimeSetVariable` has measured. -/
def setVariableReport (env : Environment) (logAllocated : Bool) (state : DriverState)
    (args : SetVariableArgs) : Option HookReport :=
  match setVariableRequest state args with
  | .error _ => some ⟨none, none⟩
  | .ok (param, paramSize, variableName, vendorGuid) =>
    let (invoked, after) := opteeRuntimeVariableInvokeCommand env state .set (.set param) paramSize
      none
    if invoked.status.isError then some ⟨none, none⟩
    else (secureBootHook env after variableName vendorGuid).1.report logAllocated variableName
      vendorGuid

/-- What a successful call has measured, and the state it leaves, are of one run of
the hook, after the command was answered. -/
theorem setVariable_hooked {env : Environment} {state : DriverState} {args : SetVariableArgs}
    {param : VariableSetParam} {paramSize : UInt32} {variableName : Str16}
    {vendorGuid : EfiGuid}
    (served : setVariableRequest state args = .ok (param, paramSize, variableName, vendorGuid))
    (success : (opteeRuntimeSetVariable env state args).1 = EfiStatus.success)
    (logAllocated : Bool) :
    ∃ read, secureBootHook env (opteeRuntimeVariableInvokeCommand env state .set (.set param)
        paramSize none).2 variableName vendorGuid =
          (read, (opteeRuntimeSetVariable env state args).2) ∧
      setVariableReport env logAllocated state args =
        read.report logAllocated variableName vendorGuid := by
  unfold opteeRuntimeSetVariable at success ⊢
  unfold setVariableReport
  rw [served] at success ⊢
  dsimp only at success ⊢
  split at success
  · rename_i failed
    dsimp only at success
    rw [success] at failed
    cases failed
  · rename_i sent
    rw [if_neg sent, if_neg sent]
    exact ⟨_, rfl, rfl⟩

/-! ### What should be measured -/

/-- The application tells of a variable it may store what is so: it returns it to an
offered size that holds it, asks for the size it requires of one that does not, and
reports it missing only if it is. It may fail for any other reason. -/
structure Turn.Tells (turn : Turn) (stored : Option StoredVariable) (offered : UInt32) : Prop where
  returns : turn.answer = TeecResult.success →
    ∃ kept ∈ stored, kept.required ≤ offered ∧ turn.Returns kept
  asks : turn.answer = TeecResult.errorShortBuffer →
    ∃ kept ∈ stored, offered < kept.required ∧ turn.Asks kept
  missing : turn.answer = TeecResult.errorItemNotFound → stored = none

/-- The two reads of the hook, of a variable as stored after the write. The hook
begins in turn `position`. -/
structure ReadsTell (env : Environment) (position : Nat) (stored : Option StoredVariable) :
    Prop where
  sized : (env (position + 1)).Tells stored 16
  read : ∀ kept ∈ stored, (env (position + 3)).Tells stored kept.required

/-- The content of a variable, empty if it does not exist. -/
def content (stored : Option StoredVariable) : List UInt8 :=
  stored.elim [] StoredVariable.data

/-- What is measured, if anything, is the content, and no read failed but that of a
variable which does not exist. -/
def MeasuresContent (report : Option HookReport) (variableName : Str16) (vendorGuid : EfiGuid)
    (stored : Option StoredVariable) : Prop :=
  ∃ made, report = some made ∧ ∀ measured ∈ made.measured,
    measured.pcrIndex = 7 ∧
      measured.hashData = eventBytes variableName vendorGuid (content stored) ∧
      ∀ status ∈ made.readBack, status.isError = true →
        status = EfiStatus.notFound ∧ stored = none

/-- The variable is read back: the application answers the first read with success or
finds it missing; or it asks for a larger buffer, there is memory for it, the
variable crosses the transport buffer, and the second read succeeds. -/
def ReadsBack (env : Environment) (position : Nat) (mem : TransportMem)
    (stored : Option StoredVariable) : Prop :=
  (env (position + 1)).answer = TeecResult.success ∨
    (env (position + 1)).answer = TeecResult.errorItemNotFound ∨
    ((env (position + 1)).answer = TeecResult.errorShortBuffer ∧
      (env (position + 2)).poolAllocated = true ∧ (∀ kept ∈ stored, kept.Crosses mem) ∧
      (env (position + 3)).answer = TeecResult.success)

/-- The driver as `TaOpenSession` leaves it and the services keep it: its buffers are
there, with the configured size, and its table is that of the secure-boot
variables. -/
structure DriverState.Installed (state : DriverState) : Prop where
  allocated : ¬(state.paramMem.buffer = 0 ∨ state.resultMem.buffer = 0)
  configured : ∃ opening : Opening, state.paramMem.size = opening.transportSize
  table : state.variableType = mVariableType

/-! ### Reading back -/

theorem invokeStatus_notFound_iff {result : TeecResult} :
    invokeStatus result = EfiStatus.notFound ↔ result = TeecResult.errorItemNotFound := by
  constructor
  · intro same
    unfold invokeStatus at same
    by_contra other
    rw [if_neg other] at same
    repeat' split at same
    all_goals cases same
  · intro same
    rw [same]
    decide

theorem badBufferSize_ne_notFound : EfiStatus.badBufferSize ≠ EfiStatus.notFound := by decide

theorem outOfResources_ne_notFound : EfiStatus.outOfResources ≠ EfiStatus.notFound := by decide

section

variable {env : Environment} {state : DriverState} {variableName : Str16} {vendorGuid : EfiGuid}
  {stored : Option StoredVariable}

def hookLookup (variableName : Str16) (vendorGuid : EfiGuid) : Lookup :=
  ⟨variableName, vendorGuid, false⟩

/-- A call that was sent, with its outcome: the next turn is the driver's. -/
theorem getVariable_eq {lookup : Lookup} {dataSize : UInt64} {dataNull : Bool}
    (sent : lookup.Sent state dataSize dataNull) {outcome : GetVariableOutcome}
    (called : (opteeRuntimeGetVariable env state (lookup.args dataSize dataNull)).1 =
      some outcome) :
    ∃ exchanges, opteeRuntimeGetVariable env state (lookup.args dataSize dataNull) =
      (some outcome, { state with exchanges := exchanges, position := state.position + 1 }) := by
  obtain ⟨exchanges, position, after⟩ :=
    Lookup.getVariable_state env state (lookup.args dataSize dataNull)
  have moved : (opteeRuntimeGetVariable env state (lookup.args dataSize dataNull)).2.position =
      state.position + 1 := Lookup.getVariable_position sent
  rw [after] at moved
  refine ⟨exchanges, Prod.ext called ?_⟩
  rw [after, ← moved]

/-- What the hook may rely on: the services are in use, the variable is no test hook,
and its name fits. -/
structure HookReady (state : DriverState) (variableName : Str16) (vendorGuid : EfiGuid) :
    Prop where
  bootTime : state.atRuntime = false
  plain : ∀ dataSize, ¬(hookLookup variableName vendorGuid).Hooked dataSize
  admitted : (hookLookup variableName vendorGuid).Admitted state

theorem HookReady.sent_zero (ready : HookReady state variableName vendorGuid) :
    (hookLookup variableName vendorGuid).Sent state 0 true := by
  have room := state.resultMem.room_toNat
  refine ⟨⟨ready.bootTime, fun nonzero => absurd rfl nonzero⟩, ready.plain 0, ready.admitted,
    ?_, ?_⟩
  · rw [UInt64.lt_iff_toNat_lt]
    have zero : (0 : UInt64).toUInt32.toUInt64.toNat = 0 := rfl
    omega
  · rw [UInt64.le_iff_toNat_le]
    have header : (sizeofVariableGetResult + (0 : UInt64).toUInt32).toUInt64.toNat = 16 := rfl
    omega

theorem content_of_small {kept : StoredVariable} (small : kept.required ≤ 16) :
    content (some kept) = [] := by
  have bound := UInt32.le_iff_toNat_le.mp small
  rw [kept.required_toNat, show (16 : UInt32).toNat = 16 from rfl] at bound
  have none : kept.data.length = 0 := by omega
  exact List.length_eq_zero_iff.mp none

theorem second_read (ready : HookReady state variableName vendorGuid) {kept : StoredVariable}
    (stores : stored = some kept) (tells : (env state.position).Tells stored kept.required) :
    ∃ outcome, (opteeRuntimeGetVariable env state
        ((hookLookup variableName vendorGuid).args kept.dataSize false)).1 = some outcome ∧
      ((kept.Crosses state.resultMem ∧ (env state.position).answer = TeecResult.success ∧
          outcome.status = EfiStatus.success ∧ outcome.data = kept.data) ∨
        (¬(kept.Crosses state.resultMem ∧ (env state.position).answer = TeecResult.success) ∧
          outcome.status.isError = true ∧ outcome.status ≠ EfiStatus.notFound)) := by
  have accepted : Lookup.Accepted state kept.dataSize false := ⟨ready.bootTime, fun _ => rfl⟩
  by_cases crosses : kept.Crosses state.resultMem
  · have sent : (hookLookup variableName vendorGuid).Sent state kept.dataSize false :=
      ⟨accepted, ready.plain _, ready.admitted, (Lookup.carries_dataSize _).mpr crosses⟩
    by_cases success : (env state.position).answer = TeecResult.success
    · obtain ⟨other, member, _, returned⟩ := tells.returns success
      cases stores.symm.trans member
      exact ⟨_, Lookup.getVariable_found sent Lookup.fits_dataSize returned,
        .inl ⟨crosses, success, rfl, rfl⟩⟩
    · obtain ⟨attributes, size, called⟩ := Lookup.getVariable_failed sent success
      refine ⟨_, called, .inr ⟨fun both => success both.2, invokeStatus_isError.mpr success, ?_⟩⟩
      intro missing
      rw [tells.missing (invokeStatus_notFound_iff.mp missing)] at stores
      cases stores
  · have beyond : ¬state.resultMem.Carries kept.dataSize := by
      rw [Lookup.carries_dataSize]
      exact crosses
    exact ⟨_, congrArg Prod.fst
        (Lookup.getVariable_uncarried env accepted (ready.plain _) ready.admitted beyond),
      .inr ⟨fun both => crosses both.1, rfl, badBufferSize_ne_notFound⟩⟩

section

variable {outcome : GetVariableOutcome} {after : DriverState}
  (first : opteeRuntimeGetVariable env state
    ((hookLookup variableName vendorGuid).args 0 true) = (some outcome, after))

include first

theorem value_of_other (other : outcome.status ≠ EfiStatus.bufferTooSmall) :
    (internalGetVariable env state variableName vendorGuid).1 =
      some (outcome.status, []) := by
  unfold hookLookup Lookup.args at first
  unfold internalGetVariable
  rw [first]
  dsimp only
  rw [if_pos other]

theorem value_of_full (short : outcome.status = EfiStatus.bufferTooSmall)
    (full : (env after.position).poolAllocated = false) :
    (internalGetVariable env state variableName vendorGuid).1 =
      some (EfiStatus.outOfResources, []) := by
  unfold hookLookup Lookup.args at first
  unfold internalGetVariable
  rw [first]
  dsimp only
  rw [if_neg (not_not_intro short), if_pos (by rw [full]; rfl)]

theorem value_of_read (short : outcome.status = EfiStatus.bufferTooSmall) {needed : UInt64}
    (handed : outcome.dataSize = some needed)
    (allocated : (env after.position).poolAllocated = true) {read : GetVariableOutcome}
    (second : (opteeRuntimeGetVariable env { after with position := after.position + 1 }
      ((hookLookup variableName vendorGuid).args needed false)).1 = some read) :
    (internalGetVariable env state variableName vendorGuid).1 =
      some (read.status, if read.status.isError then [] else read.data) := by
  unfold hookLookup Lookup.args at first second
  unfold internalGetVariable
  rw [first]
  dsimp only
  rw [if_neg (not_not_intro short), if_neg (by rw [allocated]; decide), handed]
  dsimp only at second ⊢
  rw [second]
  rfl

end

/-- Reading back tells the content, or that there is no variable; where it does not,
it fails for another reason. -/
theorem internalGetVariable_cases {position : Nat} (starts : state.position = position + 1)
    (ready : HookReady state variableName vendorGuid) (tells : ReadsTell env position stored) :
    ∃ status value, (internalGetVariable env state variableName vendorGuid).1 =
        some (status, value) ∧
      ((ReadsBack env position state.resultMem stored ∧
          ((status = EfiStatus.success ∧ value = content stored) ∨
            (status = EfiStatus.notFound ∧ stored = none))) ∨
        (¬ReadsBack env position state.resultMem stored ∧ status.isError = true ∧
          status ≠ EfiStatus.notFound)) := by
  have sized := tells.sized
  rw [← starts] at sized
  have sent := ready.sent_zero
  unfold ReadsBack
  rw [← starts, show position + 2 = state.position + 1 by omega,
    show position + 3 = state.position + 1 + 1 by omega]
  by_cases success : (env state.position).answer = TeecResult.success
  · obtain ⟨kept, stores, small, returned⟩ := sized.returns success
    obtain ⟨exchanges, first⟩ := getVariable_eq sent (Lookup.getVariable_found sent small returned)
    refine ⟨EfiStatus.success, [], value_of_other first success_ne_bufferTooSmall,
      .inl ⟨.inl success, .inl ⟨rfl, ?_⟩⟩⟩
    rw [show stored = some kept from stores, content_of_small small]
  by_cases short : (env state.position).answer = TeecResult.errorShortBuffer
  · obtain ⟨kept, stores, _, asked⟩ := sized.asks short
    obtain ⟨attributes, called⟩ := Lookup.getVariable_short sent asked
    obtain ⟨exchanges, first⟩ := getVariable_eq sent called
    by_cases allocated : (env (state.position + 1)).poolAllocated = true
    · have next : HookReady { state with
          exchanges := exchanges, position := state.position + 1 + 1 } variableName vendorGuid :=
        ⟨ready.bootTime, ready.plain, ready.admitted.record exchanges _⟩
      have told := tells.read kept stores
      rw [show position + 3 = state.position + 1 + 1 by omega] at told
      obtain ⟨read, second, ⟨crosses, answered, status, data⟩ | ⟨not, failed, other⟩⟩ :=
        second_read next stores told
      · refine ⟨_, _, value_of_read first rfl rfl allocated second,
          .inl ⟨.inr (.inr ⟨short, allocated, ?_, answered⟩), .inl ⟨status, ?_⟩⟩⟩
        · intro other member
          cases (show stored = some kept from stores).symm.trans member
          exact crosses
        · rw [status, if_neg (by decide), data, show stored = some kept from stores]
          rfl
      · refine ⟨_, _, value_of_read first rfl rfl allocated second, .inr ⟨?_, failed, other⟩⟩
        rintro (done | missing | ⟨_, _, crosses, answered⟩)
        · exact success done
        · cases short.symm.trans missing
        · exact not ⟨crosses kept stores, answered⟩
    · refine ⟨_, _, value_of_full first rfl (by simpa using allocated), .inr ⟨?_, rfl,
        outOfResources_ne_notFound⟩⟩
      rintro (done | missing | ⟨_, full, _⟩)
      · exact success done
      · cases short.symm.trans missing
      · exact allocated full
  · obtain ⟨attributes, size, called⟩ := Lookup.getVariable_failed sent success
    obtain ⟨exchanges, first⟩ := getVariable_eq sent called
    have other : invokeStatus (env state.position).answer ≠ EfiStatus.bufferTooSmall := by
      intro same
      exact short (invokeStatus_short_iff.mp same)
    refine ⟨_, _, value_of_other first other, ?_⟩
    by_cases missing : (env state.position).answer = TeecResult.errorItemNotFound
    · exact .inl ⟨.inr (.inl missing), .inr ⟨invokeStatus_notFound_iff.mpr missing,
        sized.missing missing⟩⟩
    · refine .inr ⟨?_, invokeStatus_isError.mpr success, fun same =>
        missing (invokeStatus_notFound_iff.mp same)⟩
      rintro (done | absent | ⟨asked, _⟩)
      · exact success done
      · exact missing absent
      · exact short asked

theorem measuresContent_of_readBack {status : EfiStatus} {value : List UInt8}
    (told : (status = EfiStatus.success ∧ value = content stored) ∨
      (status = EfiStatus.notFound ∧ stored = none)) :
    MeasuresContent ((measureVariable true variableName vendorGuid
        (if status.isError then [] else value)).map fun measured => ⟨some status, measured⟩)
        variableName vendorGuid stored ↔
      Loggable variableName (content stored) := by
  have same : (if status.isError = true then [] else value) = content stored := by
    rcases told with ⟨rfl, rfl⟩ | ⟨rfl, rfl⟩
    · exact if_neg (by decide)
    · exact if_pos (by decide)
  rw [same]
  by_cases loggable : Loggable variableName (content stored)
  · rw [measureVariable_of_loggable loggable]
    refine ⟨fun _ => loggable, fun _ => ⟨_, rfl, ?_⟩⟩
    rintro measured ⟨⟩
    refine ⟨rfl, rfl, ?_⟩
    rintro other ⟨⟩ failed
    rcases told with ⟨rfl, _⟩ | missing
    · cases failed
    · exact missing
  · rw [measureVariable_of_not_loggable loggable]
    refine ⟨?_, fun holds => absurd holds loggable⟩
    rintro ⟨made, impossible, _⟩
    cases impossible

/-- A read that failed for another reason is measured all the same. -/
theorem not_measuresContent_of_failed {status : EfiStatus} {data : List UInt8}
    (failed : status.isError = true) (other : status ≠ EfiStatus.notFound) :
    ¬MeasuresContent ((measureVariable true variableName vendorGuid data).map fun measured =>
      ⟨some status, measured⟩) variableName vendorGuid stored := by
  rintro ⟨made, produced, contents⟩
  by_cases loggable : Loggable variableName data
  · rw [measureVariable_of_loggable loggable] at produced
    cases produced
    exact other ((contents _ rfl).2.2 status rfl failed).1
  · rw [measureVariable_of_not_loggable loggable] at produced
    cases produced

/-- What the hook measures is the content exactly if it measures nothing, or the
variable is read back and its event is below 2^32. -/
theorem secureBootHook_measures_iff (logAllocated : Bool)
    (policy : isSecureBootPolicyVariable state variableName vendorGuid = true)
    (ready : HookReady state variableName vendorGuid)
    (tells : ReadsTell env state.position stored) :
    MeasuresContent ((secureBootHook env state variableName vendorGuid).1.report logAllocated
        variableName vendorGuid) variableName vendorGuid stored ↔
      ((env state.position).variableArchInstalled = true → logAllocated = true →
        ReadsBack env state.position state.resultMem stored ∧
          Loggable variableName (content stored)) := by
  have moved : HookReady { state with position := state.position + 1 } variableName vendorGuid :=
    ⟨ready.bootTime, ready.plain, ready.admitted.record state.exchanges _⟩
  obtain ⟨status, value, read, told⟩ := internalGetVariable_cases rfl moved tells
  unfold secureBootHook
  dsimp only at read told ⊢
  by_cases installed : (env state.position).variableArchInstalled = true
  · rw [if_neg (by simp [installed]), if_neg (by
      rw [show isSecureBootPolicyVariable { state with position := state.position + 1 }
        variableName vendorGuid = true from policy]
      decide), HookRead.report, read]
    simp only [installed, true_implies, Option.bind_some]
    cases logAllocated with
    | false =>
      refine ⟨fun _ present => absurd present (by decide), fun _ => ⟨_, rfl, ?_⟩⟩
      intro measured member
      cases member
    | true =>
      simp only [true_implies]
      rcases told with ⟨readsBack, told⟩ | ⟨unread, failed, other⟩
      · rw [measuresContent_of_readBack told]
        exact ⟨fun loggable => ⟨readsBack, loggable⟩, And.right⟩
      · exact ⟨fun measures => absurd measures (not_measuresContent_of_failed failed other),
          fun both => absurd both.1 unread⟩
  · rw [if_pos (by simpa using installed)]
    refine ⟨fun _ present => absurd present installed, fun _ => ⟨_, rfl, ?_⟩⟩
    intro measured member
    cases member

end

/-! ### After a write -/

section

variable {state : DriverState} {variableName : Str16} {vendorGuid : EfiGuid}

theorem setVariableRequest_ready {args : SetVariableArgs}
    {request : VariableSetParam × UInt32 × Str16 × EfiGuid}
    (served : setVariableRequest state args = .ok request) : state.Ready := by
  unfold setVariableRequest at served
  dsimp only at served
  split at served
  · cases served
  rename_i bootTime
  split at served
  · split at served
    · cases served
    split at served
    · cases served
    split at served
    · cases served
    rename_i opened
    exact ⟨by simpa using bootTime, by simpa using opened⟩
  · cases served

theorem policy_not_hooked (installed : state.Installed)
    (policy : isSecureBootPolicyVariable state variableName vendorGuid = true)
    (dataSize : UInt64) : isSessionHook variableName vendorGuid dataSize = false := by
  have listed : (variableName, vendorGuid) ∈ mVariableType := by
    rw [isSecureBootPolicyVariable, installed.table] at policy
    exact List.contains_iff_mem.mp policy
  have letter : variableName.first ≠ 1 := by
    simp only [mVariableType, List.mem_cons, Prod.mk.injEq, List.not_mem_nil, or_false] at listed
    rcases listed with ⟨rfl, _⟩ | ⟨rfl, _⟩ | ⟨rfl, _⟩ | ⟨rfl, _⟩ | ⟨rfl, _⟩
    all_goals decide
  simp [isSessionHook, letter]

/-- A name that was sent with a block of the write fits the block of the read. -/
theorem admitted_of_set (installed : state.Installed) {args : SetVariableArgs}
    {param : VariableSetParam} {paramSize : UInt32}
    (served : setVariableRequest state args = .ok (param, paramSize, variableName, vendorGuid)) :
    (hookLookup variableName vendorGuid).Admitted state := by
  obtain ⟨_, _, _, _, size, computed, _, fits, nameSmall, dataSmall⟩ :=
    setVariableRequest_ok served
  obtain ⟨opening, configured⟩ := installed.configured
  have bound := opening.transportSize_lt
  rw [← configured] at bound
  rw [UInt64.lt_iff_toNat_lt] at nameSmall dataSmall
  rw [computed, UInt64.le_iff_toNat_le, UInt64.toNat_add, UInt64.toNat_add,
    show sizeofVariableSetParam.toUInt64.toNat = 44 from rfl] at fits
  have narrow : (hookLookup variableName vendorGuid).nameSize.toNat =
      variableName.strSize.toNat % 2 ^ 32 := UInt64.toNat_toUInt32 _
  refine ⟨(setVariableRequest_ready served).opened, installed.allocated, ?_, ?_⟩
  · rw [UInt64.lt_iff_toNat_lt, UInt32.toNat_toUInt64, narrow]
    omega
  · rw [UInt64.le_iff_toNat_le, UInt32.toNat_toUInt64, UInt32.toNat_add, narrow,
      show sizeofVariableGetParam.toNat = 28 from rfl]
    omega

end

/-- After a write to a secure-boot variable, what is measured is its content as
stored, exactly if nothing is measured or the variable is read back and its event is
below 2^32. -/
theorem setVariable_measured_iff (env : Environment) (logAllocated : Bool) (state : DriverState)
    (installed : state.Installed) (args : SetVariableArgs) (variableName : Str16)
    (vendorGuid : EfiGuid) (named : args.variableName = some variableName)
    (spaced : args.vendorGuid = some vendorGuid)
    (policy : isSecureBootPolicyVariable state variableName vendorGuid = true)
    (success : (opteeRuntimeSetVariable env state args).1 = EfiStatus.success)
    (stored : Option StoredVariable) (tells : ReadsTell env (state.position + 1) stored) :
    MeasuresContent (setVariableReport env logAllocated state args) variableName vendorGuid
        stored ↔
      ((env (state.position + 1)).variableArchInstalled = true → logAllocated = true →
        ReadsBack env (state.position + 1) state.resultMem stored ∧
          Loggable variableName (content stored)) := by
  rcases setVariableRequest_cases state args with ⟨status, refused, ended, _⟩ |
    ⟨hooked, ended⟩ | ⟨⟨param, paramSize, name, guid⟩, served, _⟩
  · unfold opteeRuntimeSetVariable at success
    rw [ended] at success
    exact absurd success (refusal_ne_success refused)
  · unfold SetVariableArgs.isSessionHook at hooked
    rw [named, spaced] at hooked
    dsimp only at hooked
    rw [policy_not_hooked installed policy, Bool.and_false] at hooked
    cases hooked
  · obtain ⟨sameName, sameGuid, _⟩ := setVariableRequest_ok served
    cases named.symm.trans sameName
    cases spaced.symm.trans sameGuid
    obtain ⟨read, ran, reported⟩ := setVariable_hooked served success logAllocated
    have ready : HookReady (opteeRuntimeVariableInvokeCommand env state .set (.set param)
        paramSize none).2 variableName vendorGuid :=
      ⟨(setVariableRequest_ready served).bootTime,
        fun dataSize => by
          rw [Lookup.Hooked, hookLookup, policy_not_hooked installed policy]
          decide,
        (admitted_of_set installed served).record _ _⟩
    rw [reported, show read = _ from congrArg Prod.fst ran.symm]
    exact secureBootHook_measures_iff logAllocated policy ready tells

/-- The driver of the platform, with its table. -/
def policyDriver : DriverState := { openedDriver with variableType := mVariableType }

theorem policyDriver_installed : policyDriver.Installed :=
  ⟨by decide, ⟨platformOpening, rfl⟩, rfl⟩

/-- A write of one byte to the platform key. -/
def setPlatformKey : SetVariableArgs :=
  ⟨some efiPlatformKeyName, some gEfiGlobalVariableGuid, 7, 1, some fun _ => 0xAB⟩

/-- The write succeeds, and the read-back finds one byte: 17 bytes hold its result. -/
def readBackEnv : Environment := fun position =>
  if position = 2 then answeringTurn TeecResult.errorShortBuffer 17 []
  else answeringTurn TeecResult.success 17 [17, 0, 0, 0, 7, 0, 0, 0, 1, 0, 0, 0, 0xAB]

theorem readBackEnv_tells : ReadsTell readBackEnv 1 (some byteVariable) where
  sized :=
    { returns := fun same => absurd same (by decide)
      asks := fun _ => ⟨byteVariable, rfl, by decide, rfl, rfl⟩
      missing := fun same => absurd same (by decide) }
  read := by
    rintro kept ⟨⟩
    exact
      { returns := fun _ => ⟨byteVariable, rfl, UInt32.le_refl _, rfl, rfl, rfl, rfl⟩
        asks := fun same => absurd same (by decide)
        missing := fun same => absurd same (by decide) }

/-- The key is measured with its byte. -/
theorem setVariable_measured_platformKey :
    MeasuresContent (setVariableReport readBackEnv true policyDriver setPlatformKey)
      efiPlatformKeyName gEfiGlobalVariableGuid (some byteVariable) := by
  refine (setVariable_measured_iff readBackEnv true policyDriver policyDriver_installed
    setPlatformKey efiPlatformKeyName gEfiGlobalVariableGuid rfl rfl (by decide) rfl
    (some byteVariable) readBackEnv_tells).mpr fun _ _ => ⟨?_, by decide⟩
  refine .inr (.inr ⟨rfl, rfl, ?_, rfl⟩)
  rintro kept ⟨⟩
  decide

/-- The write succeeds, and the secure world fails the read-back. -/
def failedReadBackEnv : Environment := fun position =>
  if position = 2 then answeringTurn TeecResult.errorGeneric 0 []
  else answeringTurn TeecResult.success 17 [17, 0, 0, 0, 7, 0, 0, 0, 1, 0, 0, 0, 0xAB]

/-- A platform key that cannot be read back is measured as one that does not exist. -/
theorem failed_readBack_measured_empty :
    (opteeRuntimeSetVariable failedReadBackEnv policyDriver setPlatformKey).1 =
        EfiStatus.success ∧
      ReadsTell failedReadBackEnv 1 (some byteVariable) ∧
      ¬MeasuresContent (setVariableReport failedReadBackEnv true policyDriver setPlatformKey)
        efiPlatformKeyName gEfiGlobalVariableGuid (some byteVariable) := by
  refine ⟨rfl, ?_, ?_⟩
  · constructor
    · exact
        { returns := fun same => absurd same (by decide)
          asks := fun same => absurd same (by decide)
          missing := fun same => absurd same (by decide) }
    · rintro kept ⟨⟩
      exact
        { returns := fun _ => ⟨byteVariable, rfl, UInt32.le_refl _, rfl, rfl, rfl, rfl⟩
          asks := fun same => absurd same (by decide)
          missing := fun same => absurd same (by decide) }
  · rintro ⟨made, produced, contents⟩
    have computed : setVariableReport failedReadBackEnv true policyDriver setPlatformKey =
        some ⟨some EfiStatus.protocolError, some ⟨7, evEfiVariableDriverConfig,
          eventBytes efiPlatformKeyName gEfiGlobalVariableGuid [],
          eventBytes efiPlatformKeyName gEfiGlobalVariableGuid []⟩⟩ := rfl
    cases produced.symm.trans computed
    have missing := ((contents _ rfl).2.2 _ rfl rfl).2
    cases missing

end MuRockchip.AuthVar
