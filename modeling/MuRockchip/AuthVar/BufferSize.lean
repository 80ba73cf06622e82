/-
Buffer sizes of variable reads (`AuthVarsDxe.c`).

`OpteeRuntimeGetVariable` narrows the size its caller declares to 32 bits, adds the
header of a result, and refuses what the transport buffer cannot carry before the
application sees the request. So a larger buffer is not always as good as a smaller
one: it may be refused, or narrowed below the size that was enough.

* `Lookup.monotone_iff`, `Lookup.retries_iff`: the sizes for which a larger buffer,
  and the size asked for, serve as well.
* `getVariable_sizes`: what a caller may rely on.
-/
import MuRockchip.AuthVar.Services

namespace MuRockchip.AuthVar

open MuRockchip.Base MuRockchip.Optee

/-! ### An application that holds a variable -/

/-- A variable as the application stores it. The size of its result is a 32-bit
number. -/
structure StoredVariable where
  attributes : UInt32
  data : List UInt8
  small : 16 + data.length < 2 ^ 32

namespace StoredVariable

variable (stored : StoredVariable)

/-- The size of the result that holds the variable. -/
def required : UInt32 := sizeofVariableGetResult + UInt32.ofNat stored.data.length

/-- The size of its data, as the driver hands it back. -/
def dataSize : UInt64 := UInt64.ofNat stored.data.length

theorem required_toNat : stored.required.toNat = 16 + stored.data.length := by
  have small := stored.small
  rw [required, UInt32.toNat_add, UInt32.toNat_ofNat',
    show sizeofVariableGetResult.toNat = 16 from rfl]
  omega

theorem dataSize_toNat : stored.dataSize.toNat = stored.data.length := by
  have small := stored.small
  rw [dataSize, UInt64.toNat_ofNat']
  omega

theorem required_sub_header :
    stored.required.toUInt64 - sizeofVariableGetResult.toUInt64 = stored.dataSize := by
  have small := stored.small
  apply UInt64.toNat_inj.mp
  rw [UInt64.toNat_sub, dataSize_toNat, UInt32.toNat_toUInt64 stored.required, required_toNat,
    show sizeofVariableGetResult.toUInt64.toNat = 16 from rfl]
  omega

end StoredVariable

/-- The application returns the variable. -/
structure Turn.Returns (turn : Turn) (stored : StoredVariable) : Prop where
  answer : turn.answer = TeecResult.success
  attributes : headerField turn.result 4 4 = stored.attributes.toNat
  size : headerField turn.result 8 4 = stored.data.length
  data : (List.range stored.data.length).map (fun index => turn.result (12 + index)) = stored.data

/-- The application reports the size it requires. -/
structure Turn.Asks (turn : Turn) (stored : StoredVariable) : Prop where
  answer : turn.answer = TeecResult.errorShortBuffer
  size : turn.resultSize = stored.required

/-- An application asked for the variable, by the result size it is offered: it
returns the variable whenever that size holds it, and reports the required size
otherwise. -/
structure Serves (application : UInt32 → Turn) (stored : StoredVariable) : Prop where
  returns : ∀ offered, stored.required ≤ offered → (application offered).Returns stored
  asks : ∀ offered, offered < stored.required → (application offered).Asks stored

/-! ### Calls that differ in their size -/

/-- The variable a caller asks for, and whether its attributes are wanted. -/
structure Lookup where
  variableName : Str16
  vendorGuid : EfiGuid
  wantsAttributes : Bool

def offeredSize (state : DriverState) (args : GetVariableArgs) : UInt32 :=
  match getVariableRequest state args with
  | .error _ => 0
  | .ok request => request.resultSize

namespace Lookup

/-- The arguments of a call with a buffer of some size. -/
def args (lookup : Lookup) (dataSize : UInt64) (dataNull : Bool) : GetVariableArgs :=
  ⟨some lookup.variableName, some lookup.vendorGuid, lookup.wantsAttributes, some dataSize,
    dataNull⟩

/-- A call with a buffer of some size. -/
def call (application : UInt32 → Turn) (state : DriverState) (lookup : Lookup) (dataSize : UInt64)
    (dataNull : Bool) : Option GetVariableOutcome × DriverState :=
  let args := lookup.args dataSize dataNull
  opteeRuntimeGetVariable (fun _ => application (offeredSize state args)) state args

def Monotone (application : UInt32 → Turn) (state : DriverState) (lookup : Lookup)
    (size : UInt64) (sizeNull : Bool) (larger : UInt64) (largerNull : Bool) : Prop :=
  ∀ outcome, (lookup.call application state size sizeNull).1 = some outcome →
    outcome.status = EfiStatus.success →
    (lookup.call application state larger largerNull).1 = some outcome

/-- A call that finds its buffer too small succeeds when it is repeated with the
size it was handed back. -/
def Retries (application : UInt32 → Turn) (state : DriverState) (lookup : Lookup)
    (size : UInt64) (sizeNull againNull : Bool) : Prop :=
  ∀ outcome, (lookup.call application state size sizeNull).1 = some outcome →
    outcome.status = EfiStatus.bufferTooSmall →
    ∃ needed again, outcome.dataSize = some needed ∧
      (lookup.call application (lookup.call application state size sizeNull).2 needed againNull).1 =
        some again ∧
      again.status = EfiStatus.success

end Lookup

/-! ### What becomes of a call -/

/-- The transport buffer carries a result with data of this size, narrowed to 32
bits as the sum with the header is. -/
def TransportMem.Carries (mem : TransportMem) (dataSize : UInt64) : Prop :=
  dataSize.toUInt32.toUInt64 < mem.size ∧
    (sizeofVariableGetResult + dataSize.toUInt32).toUInt64 ≤ mem.size

/-- A buffer of this size, narrowed, holds the variable. -/
def StoredVariable.Fits (stored : StoredVariable) (dataSize : UInt64) : Prop :=
  stored.required ≤ sizeofVariableGetResult + dataSize.toUInt32

/-- The variable itself can cross the transport buffer. -/
def StoredVariable.Crosses (stored : StoredVariable) (mem : TransportMem) : Prop :=
  stored.required.toUInt64 ≤ mem.size

instance (stored : StoredVariable) (dataSize : UInt64) : Decidable (stored.Fits dataSize) :=
  inferInstanceAs (Decidable (_ ≤ _))

instance (stored : StoredVariable) (mem : TransportMem) : Decidable (stored.Crosses mem) :=
  inferInstanceAs (Decidable (_ ≤ _))

namespace Lookup

variable (lookup : Lookup)

/-- The boot services are in use, and a size other than zero has a buffer. -/
def Accepted (state : DriverState) (dataSize : UInt64) (dataNull : Bool) : Prop :=
  state.atRuntime = false ∧ (dataSize ≠ 0 → dataNull = false)

/-- The call is the test hook. -/
def Hooked (dataSize : UInt64) : Prop :=
  isSessionHook lookup.variableName lookup.vendorGuid dataSize = true

/-- `LocalVariableNameSize`. -/
def nameSize : UInt32 := lookup.variableName.strSize.toUInt32

/-- The checks that do not depend on the size of the caller's buffer. -/
structure Admitted (state : DriverState) : Prop where
  opened : state.sessionOpened = true
  allocated : ¬(state.paramMem.buffer = 0 ∨ state.resultMem.buffer = 0)
  named : lookup.nameSize.toUInt64 < state.paramMem.size
  carried : (sizeofVariableGetParam + lookup.nameSize).toUInt64 ≤ state.paramMem.size

/-- The call sends a command. -/
structure Sent (state : DriverState) (dataSize : UInt64) (dataNull : Bool) : Prop where
  accepted : Accepted state dataSize dataNull
  plain : ¬lookup.Hooked dataSize
  admitted : lookup.Admitted state
  carries : state.resultMem.Carries dataSize

/-- The request of a call that sends a command. -/
def request (dataSize : UInt64) : GetVariableRequest :=
  ⟨⟨sizeofVariableGetParam, lookup.nameSize.toUInt16, lookup.vendorGuid,
      lookup.variableName.bytes.take lookup.nameSize.toNat⟩,
    sizeofVariableGetParam + lookup.nameSize, sizeofVariableGetResult + dataSize.toUInt32,
    dataSize, dataSize.toUInt32⟩

/-- What the test hook answers. -/
def hookOutcome (state : DriverState) (dataSize : UInt64) : GetVariableOutcome :=
  ⟨EfiStatus.success, none, some dataSize, leBytes 8 state.session.sessionId.toNat⟩

/-- What a caller is told of a variable its buffer holds. -/
def found (stored : StoredVariable) : GetVariableOutcome :=
  ⟨EfiStatus.success, if lookup.wantsAttributes then some stored.attributes else none,
    some stored.dataSize, stored.data⟩

variable {lookup} {state : DriverState} {dataSize : UInt64} {dataNull : Bool}

theorem accepted_checks (accepted : Accepted state dataSize dataNull) :
    ¬state.atRuntime = true ∧ ¬(dataSize ≠ 0 ∧ dataNull = true) := by
  refine ⟨by simp [accepted.1], ?_⟩
  rintro ⟨nonzero, null⟩
  rw [accepted.2 nonzero] at null
  cases null

theorem getVariableRequest_sent (sent : lookup.Sent state dataSize dataNull) :
    getVariableRequest state (lookup.args dataSize dataNull) = .ok (lookup.request dataSize) := by
  obtain ⟨bootTime, buffered⟩ := accepted_checks sent.accepted
  have plain : ¬isSessionHook lookup.variableName lookup.vendorGuid dataSize = true := sent.plain
  unfold getVariableRequest args
  dsimp only
  rw [if_neg bootTime, if_neg buffered, if_neg plain, if_neg (by simp [sent.admitted.opened]),
    if_neg sent.admitted.allocated, if_neg, if_neg]
  · rfl
  · exact not_or.mpr ⟨UInt64.not_lt.mpr sent.admitted.carried, UInt64.not_lt.mpr sent.carries.2⟩
  · exact not_or.mpr ⟨UInt64.not_le.mpr sent.admitted.named, UInt64.not_le.mpr sent.carries.1⟩

theorem getVariableRequest_hooked (accepted : Accepted state dataSize dataNull)
    (hooked : lookup.Hooked dataSize) :
    getVariableRequest state (lookup.args dataSize dataNull) =
      .error (hookOutcome state dataSize) := by
  obtain ⟨bootTime, buffered⟩ := accepted_checks accepted
  unfold getVariableRequest args
  unfold Hooked at hooked
  dsimp only
  rw [if_neg bootTime, if_neg buffered, if_pos hooked]
  rfl

/-- A call that sends no command and is not the test hook is refused. -/
theorem getVariableRequest_refused (unsent : ¬lookup.Sent state dataSize dataNull)
    (unhooked : Accepted state dataSize dataNull → ¬lookup.Hooked dataSize) :
    ∃ status ∈ refusals, getVariableRequest state (lookup.args dataSize dataNull) =
      .error ⟨status, none, some dataSize, []⟩ := by
  unfold getVariableRequest args
  dsimp only
  split
  · exact ⟨_, by decide, rfl⟩
  rename_i bootTime
  split
  · exact ⟨_, by decide, rfl⟩
  rename_i buffered
  have accepted : Accepted state dataSize dataNull := by
    refine ⟨by simpa using bootTime, ?_⟩
    intro nonzero
    simpa [nonzero] using buffered
  have plain : ¬isSessionHook lookup.variableName lookup.vendorGuid dataSize = true :=
    unhooked accepted
  rw [if_neg plain]
  split
  · exact ⟨_, by decide, rfl⟩
  rename_i opened
  split
  · exact ⟨_, by decide, rfl⟩
  rename_i allocated
  split
  · exact ⟨_, by decide, rfl⟩
  rename_i narrow
  split
  · exact ⟨_, by decide, rfl⟩
  rename_i carried
  obtain ⟨named, small⟩ := not_or.mp narrow
  obtain ⟨name, result⟩ := not_or.mp carried
  exact absurd ⟨accepted, unhooked accepted,
    ⟨by simpa using opened, allocated, UInt64.not_le.mp named, UInt64.not_lt.mp name⟩,
    UInt64.not_le.mp small, UInt64.not_lt.mp result⟩ unsent

variable {env : Environment} {application : UInt32 → Turn} {stored : StoredVariable}

theorem getVariable_sent (env : Environment) (sent : lookup.Sent state dataSize dataNull) :
    opteeRuntimeGetVariable env state (lookup.args dataSize dataNull) =
      let invoked := opteeRuntimeVariableInvokeCommand env state .get
        (.get (lookup.request dataSize).param) (lookup.request dataSize).paramSize
        (some (lookup.request dataSize).resultSize)
      (finishGetVariable state.resultMem lookup.wantsAttributes (lookup.request dataSize)
        invoked.1, invoked.2) := by
  unfold opteeRuntimeGetVariable
  rw [getVariableRequest_sent sent]
  rfl

/-- The variable then lies inside the caller's buffer and inside the transport
buffer: the sum with the header did not wrap. -/
theorem fits_inside {mem : TransportMem} (carries : mem.Carries dataSize)
    (fits : stored.Fits dataSize) :
    stored.data.length ≤ dataSize.toUInt32.toNat ∧ 12 + stored.data.length ≤ mem.size.toNat := by
  have carried := UInt64.le_iff_toNat_le.mp carries.2
  have held := UInt32.le_iff_toNat_le.mp fits
  rw [stored.required_toNat] at held
  rw [UInt32.toNat_toUInt64] at carried
  rw [UInt32.toNat_add, show sizeofVariableGetResult.toNat = 16 from rfl] at held carried
  omega

/-- An application that returns the variable to a buffer that holds it. -/
theorem getVariable_found (sent : lookup.Sent state dataSize dataNull)
    (fits : stored.Fits dataSize) (returned : (env state.position).Returns stored) :
    (opteeRuntimeGetVariable env state (lookup.args dataSize dataNull)).1 =
      some (lookup.found stored) := by
  obtain ⟨own, inside⟩ := fits_inside sent.carries fits
  have within : ¬stored.data.length > (lookup.request dataSize).localDataSize.toNat :=
    Nat.not_lt.mpr own
  rw [getVariable_sent env sent]
  dsimp only
  rw [finishGetVariable_eq, invoked_status,
    invoked_bytes _ _ _ _ _ _ (allocated_of_success returned.answer),
    invokeStatus_success_iff.mpr returned.answer]
  dsimp only
  rw [if_neg (by decide : ¬EfiStatus.success.isError = true), returned.size,
    if_neg within, readResult_of_le _ _ inside, returned.data, returned.attributes,
    if_neg success_ne_bufferTooSmall, if_pos rfl]
  simp only [Option.map_some, UInt32.ofNat_toNat]
  rfl

/-- An application that reports the size it requires. -/
theorem getVariable_short (sent : lookup.Sent state dataSize dataNull)
    (asked : (env state.position).Asks stored) :
    ∃ attributes, (opteeRuntimeGetVariable env state (lookup.args dataSize dataNull)).1 =
      some ⟨EfiStatus.bufferTooSmall, attributes, some stored.dataSize, []⟩ := by
  obtain ⟨reached, returned⟩ := answered_of_short asked.answer
  rw [getVariable_sent env sent]
  dsimp only
  rw [finishGetVariable_eq, invoked_status, invoked_resultSize _ _ _ _ _ _ reached returned,
    invokeStatus_short_iff.mpr asked.answer, asked.size]
  dsimp only
  rw [if_pos (by decide : EfiStatus.bufferTooSmall.isError = true), if_pos rfl,
    stored.required_sub_header]
  exact ⟨_, rfl⟩

/-- An application that fails, or is not reached. -/
theorem getVariable_failed (sent : lookup.Sent state dataSize dataNull)
    (failed : (env state.position).answer ≠ TeecResult.success) :
    ∃ attributes size, (opteeRuntimeGetVariable env state (lookup.args dataSize dataNull)).1 =
      some ⟨invokeStatus (env state.position).answer, attributes, size, []⟩ := by
  rw [getVariable_sent env sent]
  dsimp only
  rw [finishGetVariable_eq, invoked_status]
  dsimp only
  rw [if_pos (invokeStatus_isError.mpr failed)]
  exact ⟨_, _, rfl⟩

/-- A call that sends a command uses up one turn. -/
theorem getVariable_position (sent : lookup.Sent state dataSize dataNull) :
    (opteeRuntimeGetVariable env state (lookup.args dataSize dataNull)).2.position =
      state.position + 1 := by
  rw [getVariable_sent env sent]
  rfl

theorem call_sent (application : UInt32 → Turn) (sent : lookup.Sent state dataSize dataNull) :
    lookup.call application state dataSize dataNull =
      opteeRuntimeGetVariable (fun _ => application (sizeofVariableGetResult + dataSize.toUInt32))
        state (lookup.args dataSize dataNull) := by
  have offered : offeredSize state (lookup.args dataSize dataNull) =
      sizeofVariableGetResult + dataSize.toUInt32 := by
    rw [offeredSize, getVariableRequest_sent sent]
    rfl
  unfold call
  dsimp only
  rw [offered]

theorem call_hooked (application : UInt32 → Turn) (accepted : Accepted state dataSize dataNull)
    (hooked : lookup.Hooked dataSize) :
    (lookup.call application state dataSize dataNull).1 = some (hookOutcome state dataSize) := by
  unfold call opteeRuntimeGetVariable
  dsimp only
  rw [getVariableRequest_hooked accepted hooked]

theorem call_refused (application : UInt32 → Turn) (unsent : ¬lookup.Sent state dataSize dataNull)
    (unhooked : Accepted state dataSize dataNull → ¬lookup.Hooked dataSize) :
    ∃ status ∈ refusals, (lookup.call application state dataSize dataNull).1 =
      some ⟨status, none, some dataSize, []⟩ := by
  obtain ⟨status, refused, ended⟩ := getVariableRequest_refused unsent unhooked
  refine ⟨status, refused, ?_⟩
  unfold call opteeRuntimeGetVariable
  dsimp only
  rw [ended]

theorem call_found (serves : Serves application stored)
    (sent : lookup.Sent state dataSize dataNull) (fits : stored.Fits dataSize) :
    (lookup.call application state dataSize dataNull).1 = some (lookup.found stored) := by
  rw [call_sent application sent]
  exact getVariable_found sent fits (serves.returns _ fits)

theorem call_short (serves : Serves application stored)
    (sent : lookup.Sent state dataSize dataNull) (short : ¬stored.Fits dataSize) :
    ∃ attributes, (lookup.call application state dataSize dataNull).1 =
      some ⟨EfiStatus.bufferTooSmall, attributes, some stored.dataSize, []⟩ := by
  rw [call_sent application sent]
  exact getVariable_short sent (serves.asks _ (UInt32.not_le.mp short))

/-- A call that sends no command leaves the driver as it was; one that sends a
command changes only its record of them. -/
theorem getVariable_state (env : Environment) (state : DriverState) (args : GetVariableArgs) :
    ∃ exchanges position, (opteeRuntimeGetVariable env state args).2 =
      { state with exchanges := exchanges, position := position } := by
  unfold opteeRuntimeGetVariable
  split
  · exact ⟨state.exchanges, state.position, rfl⟩
  · exact ⟨_, _, rfl⟩

theorem call_state (application : UInt32 → Turn) (lookup : Lookup) (state : DriverState)
    (dataSize : UInt64) (dataNull : Bool) :
    ∃ exchanges position, (lookup.call application state dataSize dataNull).2 =
      { state with exchanges := exchanges, position := position } := by
  rw [call]
  exact getVariable_state _ state _

end Lookup

/-! ### The sizes that serve as well -/

namespace Lookup

variable (lookup : Lookup) (state : DriverState) (stored : StoredVariable)

/-- A call with this size has an answer: that of the test hook, or the variable. -/
def Answered (dataSize : UInt64) (dataNull : Bool) : Prop :=
  (Accepted state dataSize dataNull ∧ lookup.Hooked dataSize) ∨
    (lookup.Sent state dataSize dataNull ∧ stored.Fits dataSize)

/-- Of a call with an answer, a larger size has the same one: its request is sent
too, narrowed it still holds the variable, and if the answer was that of the test
hook the variable is what the hook answers. -/
def LargerServes (size : UInt64) (sizeNull : Bool) (larger : UInt64) (largerNull : Bool) : Prop :=
  lookup.Answered state stored size sizeNull →
    lookup.Sent state larger largerNull ∧ stored.Fits larger ∧
      (lookup.Hooked size → lookup.wantsAttributes = false ∧
        stored.data = leBytes 8 state.session.sessionId.toNat)

/-- Of a call that finds its buffer too small, the size it hands back is enough:
the caller has a buffer of that size, and the variable crosses the transport
buffer, unless that size is the test hook's. -/
def NeededServes (size : UInt64) (sizeNull againNull : Bool) : Prop :=
  lookup.Sent state size sizeNull → ¬stored.Fits size →
    (stored.dataSize ≠ 0 → againNull = false) ∧
      (lookup.Hooked stored.dataSize ∨ stored.Crosses state.resultMem)

variable {lookup} {state} {stored} {application : UInt32 → Turn}

theorem hooked_size {dataSize : UInt64} (hooked : lookup.Hooked dataSize) : dataSize = 8 := by
  simp only [Hooked, isSessionHook, Bool.and_eq_true, decide_eq_true_eq] at hooked
  exact hooked.2

variable {size : UInt64} {dataNull : Bool} {outcome : GetVariableOutcome}

theorem found_eq_hookOutcome (hooked : lookup.Hooked size) :
    lookup.found stored = hookOutcome state size ↔
      lookup.wantsAttributes = false ∧ stored.data = leBytes 8 state.session.sessionId.toNat := by
  unfold found hookOutcome
  constructor
  · intro same
    injection same with _ attributes _ data
    refine ⟨?_, data⟩
    by_contra wanted
    rw [if_pos (by simpa using wanted)] at attributes
    cases attributes
  · rintro ⟨unwanted, data⟩
    have length : stored.dataSize = 8 := by
      rw [StoredVariable.dataSize, data, leBytes_length]
      rfl
    rw [if_neg (by simp [unwanted]), length, data, hooked_size hooked]

/-- A variable the caller's buffer holds is not the eight bytes of the hook at a
larger size. -/
theorem found_ne_hookOutcome {larger : UInt64} (increase : size < larger)
    (hooked : lookup.Hooked larger) (fits : stored.Fits size) {mem : TransportMem}
    (carries : mem.Carries size) :
    lookup.found stored ≠ hookOutcome state larger := by
  intro same
  injection same with _ _ _ data
  have own := (fits_inside carries fits).1
  rw [data, leBytes_length, UInt64.toNat_toUInt32] at own
  rw [hooked_size hooked, UInt64.lt_iff_toNat_lt] at increase
  have eight : (8 : UInt64).toNat = 8 := rfl
  omega

theorem call_success (serves : Serves application stored) {dataSize : UInt64}
    (called : (lookup.call application state dataSize dataNull).1 = some outcome)
    (success : outcome.status = EfiStatus.success) :
    lookup.Answered state stored dataSize dataNull := by
  by_contra unanswered
  obtain ⟨unhooked, unfound⟩ := not_or.mp unanswered
  by_cases sent : lookup.Sent state dataSize dataNull
  · obtain ⟨attributes, short⟩ := call_short serves sent fun fits => unfound ⟨sent, fits⟩
    cases called.symm.trans short
    exact success_ne_bufferTooSmall success.symm
  · obtain ⟨status, refused, ended⟩ := call_refused application sent
      fun accepted hooked => unhooked ⟨accepted, hooked⟩
    cases called.symm.trans ended
    exact refusal_ne_success refused success

theorem call_bufferTooSmall (serves : Serves application stored) {dataSize : UInt64}
    (called : (lookup.call application state dataSize dataNull).1 = some outcome)
    (short : outcome.status = EfiStatus.bufferTooSmall) :
    lookup.Sent state dataSize dataNull ∧ ¬stored.Fits dataSize := by
  by_cases sent : lookup.Sent state dataSize dataNull
  · refine ⟨sent, fun fits => ?_⟩
    cases called.symm.trans (call_found serves sent fits)
    exact success_ne_bufferTooSmall short
  by_cases hooked : Accepted state dataSize dataNull ∧ lookup.Hooked dataSize
  · cases called.symm.trans (call_hooked application hooked.1 hooked.2)
    exact absurd short success_ne_bufferTooSmall
  · obtain ⟨status, refused, ended⟩ := call_refused application sent
      fun accepted again => hooked ⟨accepted, again⟩
    cases called.symm.trans ended
    exact absurd short (refusal_ne_bufferTooSmall refused)

theorem monotone_iff (serves : Serves application stored) {larger : UInt64}
    (increase : size < larger) (sizeNull largerNull : Bool) :
    lookup.Monotone application state size sizeNull larger largerNull ↔
      lookup.LargerServes state stored size sizeNull larger largerNull := by
  constructor
  · intro monotone answered
    -- the answer at the larger size is that at the smaller one
    have again : ∃ outcome, outcome.status = EfiStatus.success ∧
        (lookup.call application state size sizeNull).1 = some outcome ∧
        (lookup.call application state larger largerNull).1 = some outcome := by
      rcases answered with ⟨accepted, hooked⟩ | ⟨sent, fits⟩
      · have called := call_hooked application accepted hooked
        exact ⟨_, rfl, called, monotone _ called rfl⟩
      · have called := call_found serves sent fits
        exact ⟨_, rfl, called, monotone _ called rfl⟩
    obtain ⟨outcome, success, first, second⟩ := again
    rcases call_success serves second success with ⟨accepted, hooked⟩ | ⟨sent, fits⟩
    · rw [call_hooked application accepted hooked] at second
      cases second
      rcases answered with ⟨_, hookedFirst⟩ | ⟨sent, fits⟩
      · rw [hooked_size hooked, hooked_size hookedFirst] at increase
        exact absurd increase (UInt64.lt_irrefl 8)
      · have same := (call_found serves sent fits).symm.trans first
        injection same with same
        exact absurd same (found_ne_hookOutcome increase hooked fits sent.carries)
    · refine ⟨sent, fits, fun hooked => (found_eq_hookOutcome hooked).mp ?_⟩
      rw [call_found serves sent fits] at second
      cases second
      rcases answered with ⟨accepted, _⟩ | ⟨sentFirst, _⟩
      · have same := first.symm.trans (call_hooked application accepted hooked)
        injection same
      · exact absurd hooked sentFirst.plain
  · intro serve outcome called success
    have answered := call_success serves called success
    obtain ⟨sent, fits, hook⟩ := serve answered
    rw [call_found serves sent fits, ← called]
    rcases answered with ⟨accepted, hooked⟩ | ⟨sentFirst, fitsFirst⟩
    · rw [call_hooked application accepted hooked, (found_eq_hookOutcome hooked).mpr (hook hooked)]
    · exact (call_found serves sentFirst fitsFirst).symm

theorem fits_dataSize : stored.Fits stored.dataSize := by
  have small := stored.small
  rw [StoredVariable.Fits, UInt32.le_iff_toNat_le, stored.required_toNat, UInt32.toNat_add,
    UInt64.toNat_toUInt32, stored.dataSize_toNat, show sizeofVariableGetResult.toNat = 16 from rfl]
  omega

/-- The transport buffer carries a variable's own size if it carries the variable. -/
theorem carries_dataSize (mem : TransportMem) :
    mem.Carries stored.dataSize ↔ stored.Crosses mem := by
  have small := stored.small
  have narrow : stored.dataSize.toUInt32.toUInt64.toNat = stored.data.length := by
    rw [UInt32.toNat_toUInt64, UInt64.toNat_toUInt32, stored.dataSize_toNat]
    omega
  have sum : (sizeofVariableGetResult + stored.dataSize.toUInt32).toUInt64.toNat =
      16 + stored.data.length := by
    rw [UInt32.toNat_toUInt64, UInt32.toNat_add, UInt64.toNat_toUInt32, stored.dataSize_toNat,
      show sizeofVariableGetResult.toNat = 16 from rfl]
    omega
  unfold TransportMem.Carries StoredVariable.Crosses
  rw [UInt64.lt_iff_toNat_lt, UInt64.le_iff_toNat_le, UInt64.le_iff_toNat_le, narrow, sum,
    UInt32.toNat_toUInt64 stored.required, stored.required_toNat]
  omega

/-- The size handed back has an answer exactly under these conditions. -/
theorem answered_dataSize {sizeNull againNull : Bool} (sent : lookup.Sent state size sizeNull) :
    lookup.Answered state stored stored.dataSize againNull ↔
      (stored.dataSize ≠ 0 → againNull = false) ∧
        (lookup.Hooked stored.dataSize ∨ stored.Crosses state.resultMem) := by
  constructor
  · rintro (⟨accepted, hooked⟩ | ⟨again, _⟩)
    · exact ⟨accepted.2, .inl hooked⟩
    · exact ⟨again.accepted.2, .inr ((carries_dataSize _).mp again.carries)⟩
  · rintro ⟨buffered, enough⟩
    have accepted : Accepted state stored.dataSize againNull := ⟨sent.accepted.1, buffered⟩
    by_cases hooked : lookup.Hooked stored.dataSize
    · exact .inl ⟨accepted, hooked⟩
    · have crosses := enough.resolve_left hooked
      have carries := (carries_dataSize _).mpr crosses
      exact .inr ⟨⟨accepted, hooked, sent.admitted, carries⟩, fits_dataSize⟩

/-- The record of commands decides nothing about a call. -/
theorem Admitted.record (admitted : lookup.Admitted state) (exchanges : List Exchange)
    (position : Nat) :
    lookup.Admitted { state with exchanges := exchanges, position := position } :=
  ⟨admitted.opened, admitted.allocated, admitted.named, admitted.carried⟩

theorem sent_record {dataSize : UInt64} (exchanges : List Exchange) (position : Nat) :
    lookup.Sent { state with exchanges := exchanges, position := position } dataSize dataNull ↔
      lookup.Sent state dataSize dataNull := by
  constructor
  · rintro ⟨accepted, plain, admitted, carries⟩
    exact ⟨accepted, plain, admitted.record state.exchanges state.position, carries⟩
  · rintro ⟨accepted, plain, admitted, carries⟩
    exact ⟨accepted, plain, admitted.record exchanges position, carries⟩

theorem answered_record {dataSize : UInt64} (exchanges : List Exchange) (position : Nat) :
    lookup.Answered { state with exchanges := exchanges, position := position } stored dataSize
        dataNull ↔
      lookup.Answered state stored dataSize dataNull := by
  unfold Answered
  rw [sent_record]
  rfl

theorem retries_iff (serves : Serves application stored) (size : UInt64)
    (sizeNull againNull : Bool) :
    lookup.Retries application state size sizeNull againNull ↔
      lookup.NeededServes state stored size sizeNull againNull := by
  -- the record of commands is all that the first call changes
  obtain ⟨exchanges, position, after⟩ := call_state application lookup state size sizeNull
  unfold Retries
  rw [after]
  constructor
  · intro retries sent short
    obtain ⟨attributes, called⟩ := call_short serves sent short
    obtain ⟨needed, again, handed, calledAgain, success⟩ := retries _ called rfl
    cases handed
    have answered := call_success serves calledAgain success
    exact (answered_dataSize sent).mp ((answered_record exchanges position).mp answered)
  · intro serve outcome called short
    obtain ⟨sent, small⟩ := call_bufferTooSmall serves called short
    obtain ⟨attributes, handed⟩ := call_short serves sent small
    cases called.symm.trans handed
    have answered := (answered_dataSize sent).mpr (serve sent small)
    rcases answered with ⟨accepted, hooked⟩ | ⟨again, fits⟩
    · exact ⟨_, _, rfl, call_hooked application accepted hooked, rfl⟩
    · have sentAgain := (sent_record exchanges position).mpr again
      exact ⟨_, _, rfl, call_found serves sentAgain fits, rfl⟩

end Lookup

/-! ### Buffers that the transport buffer carries -/

namespace Lookup

variable {lookup : Lookup} {state : DriverState} {stored : StoredVariable}
  {application : UInt32 → Turn} {dataSize : UInt64}

/-- A size that is not cut short is carried exactly if it fits with the header. -/
theorem carries_iff (mem : TransportMem) (uncut : 16 + dataSize.toNat < 2 ^ 32) :
    mem.Carries dataSize ↔ 16 + dataSize.toNat ≤ mem.size.toNat := by
  unfold TransportMem.Carries
  rw [UInt64.lt_iff_toNat_lt, UInt64.le_iff_toNat_le, UInt32.toNat_toUInt64, UInt32.toNat_toUInt64,
    UInt32.toNat_add, UInt64.toNat_toUInt32, show sizeofVariableGetResult.toNat = 16 from rfl]
  omega

theorem fits_iff (uncut : 16 + dataSize.toNat < 2 ^ 32) :
    stored.Fits dataSize ↔ stored.data.length ≤ dataSize.toNat := by
  unfold StoredVariable.Fits
  rw [UInt32.le_iff_toNat_le, stored.required_toNat, UInt32.toNat_add, UInt64.toNat_toUInt32,
    show sizeofVariableGetResult.toNat = 16 from rfl]
  omega

theorem crosses_iff (mem : TransportMem) :
    stored.Crosses mem ↔ 16 + stored.data.length ≤ mem.size.toNat := by
  rw [StoredVariable.Crosses, UInt64.le_iff_toNat_le, UInt32.toNat_toUInt64, stored.required_toNat]

/-- A call whose result the transport buffer cannot carry is refused before the
application is asked. -/
theorem getVariable_uncarried (env : Environment) {dataNull : Bool}
    (accepted : Accepted state dataSize dataNull) (plain : ¬lookup.Hooked dataSize)
    (admitted : lookup.Admitted state) (beyond : ¬state.resultMem.Carries dataSize) :
    opteeRuntimeGetVariable env state (lookup.args dataSize dataNull) =
      (some ⟨EfiStatus.badBufferSize, none, some dataSize, []⟩, state) := by
  obtain ⟨bootTime, buffered⟩ := accepted_checks accepted
  have refused : getVariableRequest state (lookup.args dataSize dataNull) =
      .error ⟨EfiStatus.badBufferSize, none, some dataSize, []⟩ := by
    unfold Hooked at plain
    unfold getVariableRequest args
    dsimp only
    rw [if_neg bootTime, if_neg buffered, if_neg plain, if_neg (by simp [admitted.opened]),
      if_neg admitted.allocated]
    split
    · rfl
    rename_i narrow
    rw [if_pos]
    refine .inr (UInt64.not_le.mp fun small => beyond ⟨?_, small⟩)
    exact UInt64.not_le.mp (not_or.mp narrow).2
  unfold opteeRuntimeGetVariable
  rw [refused]

theorem call_uncarried {dataNull : Bool} (accepted : Accepted state dataSize dataNull)
    (plain : ¬lookup.Hooked dataSize) (admitted : lookup.Admitted state)
    (beyond : ¬state.resultMem.Carries dataSize) :
    lookup.call application state dataSize dataNull =
      (some ⟨EfiStatus.badBufferSize, none, some dataSize, []⟩, state) := by
  unfold call
  exact getVariable_uncarried _ accepted plain admitted beyond

end Lookup

/-- What a caller may rely on. A call that succeeds does so with every larger size
that a result fits the transport buffer with, with the same outcome, and is refused
with one that it does not fit; and the size asked for is enough if the variable fits
the transport buffer, and is refused if it does not. The test hook is left out, and
so are sizes that are cut to 32 bits. -/
theorem getVariable_sizes {application : UInt32 → Turn} {stored : StoredVariable}
    (serves : Serves application stored) (state : DriverState) (lookup : Lookup) (size : UInt64)
    (sizeNull : Bool) (outcome : GetVariableOutcome)
    (called : (lookup.call application state size sizeNull).1 = some outcome) :
    (outcome.status = EfiStatus.success → ¬lookup.Hooked size →
      ∀ larger, size < larger → 16 + larger.toNat < 2 ^ 32 → ¬lookup.Hooked larger →
        (16 + larger.toNat ≤ state.resultMem.size.toNat →
          (lookup.call application state larger false).1 = some outcome) ∧
        (state.resultMem.size.toNat < 16 + larger.toNat →
          lookup.call application state larger false =
            (some ⟨EfiStatus.badBufferSize, none, some larger, []⟩, state))) ∧
    (outcome.status = EfiStatus.bufferTooSmall →
      outcome.dataSize = some stored.dataSize ∧
      (16 + stored.data.length ≤ state.resultMem.size.toNat →
        ∃ again, (lookup.call application (lookup.call application state size sizeNull).2
          stored.dataSize false).1 = some again ∧ again.status = EfiStatus.success) ∧
      (state.resultMem.size.toNat < 16 + stored.data.length → ¬lookup.Hooked stored.dataSize →
        (lookup.call application (lookup.call application state size sizeNull).2
          stored.dataSize false).1 =
            some ⟨EfiStatus.badBufferSize, none, some stored.dataSize, []⟩)) := by
  constructor
  · intro success plain larger increase uncut plainLarger
    rcases Lookup.call_success serves called success with ⟨_, hooked⟩ | ⟨sent, fits⟩
    · exact absurd hooked plain
    have accepted : Lookup.Accepted state larger false := ⟨sent.accepted.1, fun _ => rfl⟩
    constructor
    · intro carried
      -- the smaller size was not cut either, since it is below the larger
      have smaller := UInt64.lt_iff_toNat_lt.mp increase
      have held := (Lookup.fits_iff (by omega)).mp fits
      have sentLarger : lookup.Sent state larger false :=
        ⟨accepted, plainLarger, sent.admitted, (Lookup.carries_iff _ uncut).mpr carried⟩
      have fitsLarger : stored.Fits larger := (Lookup.fits_iff uncut).mpr (by omega)
      have monotone := (Lookup.monotone_iff serves increase sizeNull false).mpr fun _ =>
        ⟨sentLarger, fitsLarger, fun hooked => absurd hooked plain⟩
      exact monotone outcome called success
    · intro beyond
      exact Lookup.call_uncarried accepted plainLarger sent.admitted fun carries =>
        absurd ((Lookup.carries_iff _ uncut).mp carries) (Nat.not_le.mpr beyond)
  · intro short
    obtain ⟨sent, small⟩ := Lookup.call_bufferTooSmall serves called short
    obtain ⟨attributes, handed⟩ := Lookup.call_short serves sent small
    cases called.symm.trans handed
    refine ⟨rfl, ?_, ?_⟩
    · intro carried
      have retries : lookup.Retries application state size sizeNull false :=
        (Lookup.retries_iff serves size sizeNull false).mpr fun _ _ =>
          ⟨fun _ => rfl, .inr ((Lookup.crosses_iff _).mpr carried)⟩
      obtain ⟨needed, again, same, calledAgain, success⟩ := retries _ called rfl
      cases same
      exact ⟨again, calledAgain, success⟩
    · intro beyond plain
      have uncarried : ¬state.resultMem.Carries stored.dataSize := by
        rw [Lookup.carries_dataSize, Lookup.crosses_iff]
        exact Nat.not_le.mpr beyond
      obtain ⟨exchanges, position, after⟩ :=
        Lookup.call_state application lookup state size sizeNull
      have accepted : Lookup.Accepted { state with exchanges := exchanges, position := position }
          stored.dataSize false := ⟨sent.accepted.1, fun _ => rfl⟩
      rw [after, Lookup.call_uncarried accepted plain (sent.admitted.record exchanges position)
        uncarried]

def byteVariable : StoredVariable := ⟨7, [0xAB], by decide⟩

/-- A turn of the application with this result and this size in its value pair. -/
def answeringTurn (result : TeecResult) (size : UInt64) (bytes : List UInt8) : Turn where
  messageAllocated := true
  reply :=
    { arg0 := smcReturnOk
      message :=
        { MsgArg.zero 4 with
          ret := result
          params := #v[MsgParam.zero, MsgParam.zero, ⟨0, size, 0, 0⟩, MsgParam.zero] } }
  result index := bytes.getD index 0
  variableArchInstalled := true
  poolAllocated := true

/-- The application that stores it: seventeen bytes hold the result. -/
def byteApplication (offered : UInt32) : Turn :=
  if byteVariable.required ≤ offered then
    answeringTurn TeecResult.success 17 [17, 0, 0, 0, 7, 0, 0, 0, 1, 0, 0, 0, 0xAB]
  else answeringTurn TeecResult.errorShortBuffer 17 []

theorem byteApplication_serves : Serves byteApplication byteVariable where
  returns offered holds := by
    rw [byteApplication, if_pos holds]
    exact ⟨rfl, rfl, rfl, rfl⟩
  asks offered short := by
    rw [byteApplication, if_neg (UInt32.not_le.mpr short)]
    exact ⟨rfl, rfl⟩

/-- A caller that asks for it with its attributes. -/
def byteLookup : Lookup := ⟨⟨[0x50], by decide⟩, gOpteeAuthVarTaGuid, true⟩

theorem byteLookup_admitted : byteLookup.Admitted openedDriver :=
  ⟨rfl, by decide, by decide, by decide⟩

theorem byteLookup_plain (dataSize : UInt64) : ¬byteLookup.Hooked dataSize := by
  intro hooked
  cases hooked

theorem byteLookup_sent_four : byteLookup.Sent openedDriver 4 false :=
  ⟨⟨rfl, fun _ => rfl⟩, byteLookup_plain 4, byteLookup_admitted, by decide, by decide⟩

/-- A buffer of 64 bytes serves as well as one of four. -/
theorem getVariable_sizes_four :
    (byteLookup.call byteApplication openedDriver 4 false).1 =
        some (byteLookup.found byteVariable) ∧
      (byteLookup.call byteApplication openedDriver 64 false).1 =
        some (byteLookup.found byteVariable) := by
  have called := Lookup.call_found byteApplication_serves byteLookup_sent_four (by decide)
  have sizes := getVariable_sizes byteApplication_serves openedDriver byteLookup 4 false _ called
  exact ⟨called, (sizes.1 rfl (byteLookup_plain 4) 64 (by decide) (by decide)
    (byteLookup_plain 64)).1 (by decide)⟩

/-- A caller with a buffer of 128 KiB is refused a variable that one with four
bytes is given: the transport buffer is smaller. -/
theorem getVariable_larger_refused :
    Serves byteApplication byteVariable ∧
      ¬byteLookup.Monotone byteApplication openedDriver 4 false 0x20000 false := by
  refine ⟨byteApplication_serves, fun monotone => ?_⟩
  have found := Lookup.call_found byteApplication_serves byteLookup_sent_four (by decide)
  have again := monotone _ found rfl
  have refused : (byteLookup.call byteApplication openedDriver 0x20000 false).1 =
      some ⟨EfiStatus.badBufferSize, none, some 0x20000, []⟩ := rfl
  cases again.symm.trans refused

end MuRockchip.AuthVar
