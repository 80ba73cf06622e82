/-
Completion of OHCI transfers (`OhciSched.c`).

The driver polls a chain it has submitted: it walks the driver's links from the head of
the chain and reads the condition codes the controller has written back. What the
controller writes is a parameter: for every poll it says which descriptors have been
written to by then, and with what. The controller never writes the links of the driver.

* `checkEdStatus_eq`: the walk answers the first condition code that is not zero, and the
  toggle behind the descriptors in front of it.
* `waitForDone_spec`: the polls end with the first that is not `EFI_NOT_READY`, or with the
  last that the time-out leaves room for.
-/
import MuRockchip.Ohci.TransferChain

namespace MuRockchip.Ohci

open MuRockchip.Base

/-! ### What the controller writes back -/

/-- The fields of a transfer descriptor the controller updates. -/
structure HcTdWrite where
  dataToggle : BitVec 2
  errorCount : BitVec 2
  conditionCode : BitVec 4
  currBufferPointer : UInt32
  nextTd : UInt32
  deriving DecidableEq, Repr

/-- The fields of an endpoint descriptor the controller updates. -/
structure HcEdWrite where
  halted : BitVec 1
  toggleCarry : BitVec 1
  tdHeadPointer : BitVec 28
  deriving DecidableEq, Repr

def TdDescriptor.written (td : TdDescriptor) (write : HcTdWrite) : TdDescriptor :=
  { td with
      dataToggle := write.dataToggle
      errorCount := write.errorCount
      conditionCode := write.conditionCode
      currBufferPointer := write.currBufferPointer
      nextTd := write.nextTd }

def EdDescriptor.written (ed : EdDescriptor) (write : HcEdWrite) : EdDescriptor :=
  { ed with
      halted := write.halted
      toggleCarry := write.toggleCarry
      tdHeadPointer := write.tdHeadPointer }

/-- What a poll finds: the list-filled bit of `HcCommandStatus`, and what the controller has
written since the chain was submitted. -/
structure Poll where
  listFilled : Bool
  td : UInt32 → Option HcTdWrite
  ed : UInt32 → Option HcEdWrite

/-- Memory as the poll finds it. -/
def Poll.observe (poll : Poll) (mem : Descriptors) : Descriptors :=
  { mem with
      td := fun pointer => (poll.td pointer).elim (mem.td pointer) (mem.td pointer).written
      ed := fun pointer => (poll.ed pointer).elim (mem.ed pointer) (mem.ed pointer).written }

@[simp] theorem Poll.observe_live (poll : Poll) (mem : Descriptors) :
    (poll.observe mem).live = mem.live := rfl

/-- The links of the driver are its own. -/
@[simp] theorem Poll.nextTdPointer_observe (poll : Poll) (mem : Descriptors) :
    nextTdPointer (poll.observe mem) = nextTdPointer mem := by
  funext pointer
  simp only [nextTdPointer, Poll.observe]
  cases poll.td pointer <;> rfl

/-! ### Checking a chain -/

structure OhciEdResult where
  errorCode : BitVec 4
  nextToggle : UInt8
  deriving DecidableEq, Repr

inductive DescriptorListType
  | controlList
  | bulkList
  | interruptList
  | isochronousList
  deriving DecidableEq, Repr

/-- `((UINT8)(HeadTd->Word0.DataToggle) & BIT0) ^ BIT0`. -/
def TdDescriptor.nextToggle (td : TdDescriptor) : UInt8 :=
  UInt8.ofNat td.dataToggle.toNat &&& 1 ^^^ 1

def checkEdStatus (mem : Descriptors) (ed : UInt32) : Nat → UInt32 → UInt8 → BitVec 4 × UInt8
  | 0, _, toggle => (tdTobeProcessed, toggle)
  | fuel + 1, headTd, toggle =>
    if headTd = 0 then
      if tdPtr (mem.ed ed).tdHeadPointer ≠ (mem.ed ed).tdTailPointer then (tdTobeProcessed, toggle)
      else (tdNoError, toggle)
    else if nextTdPointer mem headTd = 0 then (tdNoError, toggle)
    else if (mem.td headTd).conditionCode ≠ tdNoError then
      ((mem.td headTd).conditionCode, toggle)
    else checkEdStatus mem ed fuel (nextTdPointer mem headTd) (mem.td headTd).nextToggle

/-- The status of `CheckIfDone` for an error code. -/
def doneStatus (errorCode : BitVec 4) : EfiStatus :=
  if errorCode = tdNoError then EfiStatus.success
  else if errorCode = tdTobeProcessed then EfiStatus.notReady
  else EfiStatus.deviceError

/-- The list has a bit in `HcCommandStatus` that tells whether it has been filled. -/
def DescriptorListType.hasFilled : DescriptorListType → Bool
  | controlList | bulkList => true
  | _ => false

def checkIfDone (listType : DescriptorListType) (mem : Descriptors) (ed headTd : UInt32)
    (poll : Poll) (edResult : OhciEdResult) : EfiStatus × OhciEdResult :=
  if listType.hasFilled && poll.listFilled then
    (EfiStatus.notReady, { edResult with errorCode := tdTobeProcessed })
  else
    let (errorCode, nextToggle) :=
      checkEdStatus (poll.observe mem) ed walkLimit headTd edResult.nextToggle
    (doneStatus errorCode, ⟨errorCode, nextToggle⟩)

/-- Where the polling ends: the last poll, its status and its result. -/
structure Waited where
  status : EfiStatus
  edResult : OhciEdResult
  last : Nat
  deriving DecidableEq, Repr

/-- `CheckIfDone` is called, and called again after a millisecond as long as it answers
`EFI_NOT_READY` and there are rounds left. -/
def waitForDone (check : Nat → OhciEdResult → EfiStatus × OhciEdResult) :
    Nat → Nat → OhciEdResult → Waited
  | 0, index, edResult =>
    let (status, edResult) := check index edResult
    ⟨status, edResult, index⟩
  | rounds + 1, index, edResult =>
    let (status, edResult) := check index edResult
    if status = EfiStatus.notReady then waitForDone check rounds (index + 1) edResult
    else ⟨status, edResult, index⟩

/-! ### One poll -/

/-- The first condition code of a chain that is not zero, or zero. -/
def firstCode (mem : Descriptors) : List UInt32 → BitVec 4
  | [] => tdNoError
  | td :: rest =>
    if (mem.td td).conditionCode ≠ tdNoError then (mem.td td).conditionCode
    else firstCode mem rest

def lastToggle (mem : Descriptors) : List UInt32 → UInt8 → UInt8
  | [], toggle => toggle
  | td :: rest, toggle =>
    if (mem.td td).conditionCode ≠ tdNoError then toggle
    else lastToggle mem rest (mem.td td).nextToggle

variable {cells : List UInt32} {mem : Descriptors} {errorCode : BitVec 4} {code : Nat → BitVec 4}

theorem firstCode_eq_zero :
    firstCode mem cells = tdNoError ↔ ∀ cell ∈ cells, (mem.td cell).conditionCode = tdNoError := by
  induction cells with
  | nil => simp [firstCode]
  | cons td rest ih =>
    rw [firstCode, List.forall_mem_cons]
    by_cases good : (mem.td td).conditionCode = tdNoError
    · rw [if_neg (not_not.mpr good), ih]
      exact ⟨fun others => ⟨good, others⟩, fun all => all.2⟩
    · rw [if_pos good]
      exact ⟨fun zero => absurd zero good, fun all => absurd all.1 good⟩

/-- The walk stops in front of the last descriptor of the chain, which is the empty one. -/
theorem checkEdStatus_eq {ed head empty : UInt32}
    (chain : Segment (nextTdPointer mem) head (cells ++ [empty]) 0) {fuel : Nat}
    (enough : cells.length < fuel) (toggle : UInt8) :
    checkEdStatus mem ed fuel head toggle = (firstCode mem cells, lastToggle mem cells toggle) := by
  induction cells generalizing head fuel toggle with
  | nil =>
    obtain ⟨rfl, nonzero, null⟩ := chain
    cases fuel with
    | zero => cases enough
    | succ fuel =>
      have last : nextTdPointer mem head = 0 := null
      rw [checkEdStatus, if_neg nonzero, if_pos last, firstCode, lastToggle]
  | cons td rest ih =>
    obtain ⟨rfl, nonzero, tail⟩ := chain
    cases fuel with
    | zero => cases enough
    | succ fuel =>
      have more : nextTdPointer mem head ≠ 0 := by
        cases rest with
        | nil => exact tail.1 ▸ tail.2.1
        | cons next rest => exact tail.1 ▸ tail.2.1
      rw [checkEdStatus, if_neg nonzero, if_neg more, firstCode, lastToggle]
      by_cases good : (mem.td head).conditionCode = tdNoError
      · rw [if_neg (not_not.mpr good), if_neg (not_not.mpr good), if_neg (not_not.mpr good)]
        exact ih tail (Nat.lt_of_succ_lt_succ enough) _
      · rw [if_pos good, if_pos good, if_pos good]

/-- The list the poll asks for is still being filled. -/
def DescriptorListType.filling (listType : DescriptorListType) (poll : Poll) : Bool :=
  listType.hasFilled && poll.listFilled

/-- The error code a poll finds for the data descriptors of a chain. -/
def pollCode (listType : DescriptorListType) (mem : Descriptors) (cells : List UInt32)
    (poll : Poll) : BitVec 4 :=
  if listType.filling poll then tdTobeProcessed else firstCode (poll.observe mem) cells

def pollToggle (listType : DescriptorListType) (mem : Descriptors) (cells : List UInt32)
    (poll : Poll) (toggle : UInt8) : UInt8 :=
  if listType.filling poll then toggle else lastToggle (poll.observe mem) cells toggle

theorem doneStatus_notReady :
    doneStatus errorCode = EfiStatus.notReady ↔ errorCode = tdTobeProcessed := by
  unfold doneStatus
  split
  · next zero =>
    subst zero
    exact ⟨fun same => absurd same (by decide), fun same => absurd same (by decide)⟩
  · split
    · next same => exact ⟨fun _ => same, fun _ => rfl⟩
    · next different =>
      exact ⟨fun same => absurd same (by decide), fun same => absurd same different⟩

theorem doneStatus_success :
    doneStatus errorCode = EfiStatus.success ↔ errorCode = tdNoError := by
  unfold doneStatus
  split
  · next zero => exact ⟨fun _ => zero, fun _ => rfl⟩
  · next nonzero =>
    split
    · exact ⟨fun same => absurd same (by decide), fun same => absurd same nonzero⟩
    · exact ⟨fun same => absurd same (by decide), fun same => absurd same nonzero⟩

theorem doneStatus_isError :
    (doneStatus errorCode).isError = true ↔ errorCode ≠ tdNoError := by
  unfold doneStatus
  split
  · next zero => exact ⟨fun error => absurd error (by decide), fun nonzero => absurd zero nonzero⟩
  · next nonzero =>
    split
    · exact ⟨fun _ => nonzero, fun _ => rfl⟩
    · exact ⟨fun _ => nonzero, fun _ => rfl⟩

theorem checkIfDone_eq {head empty : UInt32}
    (chain : Segment (nextTdPointer mem) head (cells ++ [empty]) 0) (listType : DescriptorListType)
    (ed : UInt32) (poll : Poll) (edResult : OhciEdResult) :
    checkIfDone listType mem ed head poll edResult =
      (doneStatus (pollCode listType mem cells poll), ⟨pollCode listType mem cells poll,
        pollToggle listType mem cells poll edResult.nextToggle⟩) := by
  have short : cells.length < walkLimit := by
    have bound := chain.length_le
    rw [List.length_append, List.length_singleton] at bound
    exact bound
  have observed : Segment (nextTdPointer (poll.observe mem)) head (cells ++ [empty]) 0 := by
    rw [Poll.nextTdPointer_observe]
    exact chain
  unfold checkIfDone pollCode pollToggle DescriptorListType.filling
  split
  · rfl
  · rw [checkEdStatus_eq observed short]

/-! ### All polls -/

/-- The poll the waiting ends with, by the codes the polls find. -/
structure EndsAt (code : Nat → BitVec 4) (rounds last : Nat) : Prop where
  within : last ≤ rounds
  pending : ∀ index < last, code index = tdTobeProcessed
  done : code last = tdTobeProcessed → last = rounds

theorem EndsAt.unique {rounds last other : Nat} (ends : EndsAt code rounds last)
    (ends' : EndsAt code rounds other) : last = other := by
  rcases Nat.lt_trichotomy last other with less | same | more
  · have full := ends.done (ends'.pending last less)
    have within := ends'.within
    omega
  · exact same
  · have full := ends'.done (ends.pending other more)
    have within := ends.within
    omega

/-- One of the polls there is room for finds that the chain is done, and those before it that
it is not yet. -/
def CompletesBy (code : Nat → BitVec 4) (rounds : Nat) : Prop :=
  ∃ last ≤ rounds, code last = tdNoError ∧ ∀ earlier < last, code earlier = tdTobeProcessed

theorem EndsAt.completes_iff {rounds last : Nat}
    (ends : EndsAt code rounds last) : CompletesBy code rounds ↔ code last = tdNoError := by
  constructor
  · rintro ⟨other, within, zero, earlier⟩
    have same : EndsAt code rounds other :=
      ⟨within, earlier, fun pending => absurd (zero.symm.trans pending) (by decide)⟩
    rw [ends.unique same]
    exact zero
  · intro zero
    exact ⟨last, ends.within, zero, ends.pending⟩

section

variable {check : Nat → OhciEdResult → EfiStatus × OhciEdResult} {code : Nat → BitVec 4}
  {toggle : Nat → UInt8 → UInt8}

/-- The polls end with the first that finds something, or with the last there is room for. -/
theorem waitForDone_spec (checks : ∀ index edResult, check index edResult =
      (doneStatus (code index), ⟨code index, toggle index edResult.nextToggle⟩))
    (rounds index : Nat) (edResult : OhciEdResult) :
    let waited := waitForDone check rounds index edResult
    waited.status = doneStatus (code waited.last) ∧
      waited.edResult.errorCode = code waited.last ∧
      (index ≤ waited.last ∧ waited.last ≤ index + rounds) ∧
      (∀ earlier, index ≤ earlier → earlier < waited.last → code earlier = tdTobeProcessed) ∧
      (code waited.last = tdTobeProcessed → waited.last = index + rounds) := by
  induction rounds generalizing index edResult with
  | zero =>
    simp only [waitForDone, checks]
    refine ⟨trivial, trivial, ⟨Nat.le_refl _, Nat.le_refl _⟩, ?_, fun _ => rfl⟩
    intro earlier after before
    exact absurd before (Nat.not_lt.mpr after)
  | succ rounds ih =>
    simp only [waitForDone, checks]
    by_cases pending : code index = tdTobeProcessed
    · rw [if_pos (doneStatus_notReady.mpr pending)]
      obtain ⟨status, errorCode, bounds, earlier, ends⟩ :=
        ih (index + 1) ⟨code index, toggle index edResult.nextToggle⟩
      refine ⟨status, errorCode, ⟨by omega, by omega⟩, ?_, fun same => by rw [ends same]; omega⟩
      intro other after before
      rcases Nat.eq_or_lt_of_le after with rfl | later
      · exact pending
      · exact earlier other later before
    · rw [if_neg (fun same => pending (doneStatus_notReady.mp same))]
      refine ⟨rfl, rfl, ⟨Nat.le_refl _, Nat.le_add_right _ _⟩, ?_,
        fun same => absurd same pending⟩
      intro earlier after before
      exact absurd before (Nat.not_lt.mpr after)

theorem waitForDone_endsAt (checks : ∀ index edResult, check index edResult =
      (doneStatus (code index), ⟨code index, toggle index edResult.nextToggle⟩))
    (rounds : Nat) (edResult : OhciEdResult) :
    EndsAt code rounds (waitForDone check rounds 0 edResult).last := by
  obtain ⟨-, -, ⟨-, within⟩, pending, done⟩ := waitForDone_spec checks rounds 0 edResult
  rw [Nat.zero_add] at within done
  exact ⟨within, fun index less => pending index (Nat.zero_le _) less, done⟩

/-- What holds of the toggle before every poll holds of it before the last. -/
theorem waitForDone_toggle (checks : ∀ index edResult, check index edResult =
      (doneStatus (code index), ⟨code index, toggle index edResult.nextToggle⟩))
    (holds : Nat → UInt8 → Prop) (step : ∀ index value, code index = tdTobeProcessed →
      holds index value → holds (index + 1) (toggle index value))
    (rounds index : Nat) (edResult : OhciEdResult) (start : holds index edResult.nextToggle) :
    let waited := waitForDone check rounds index edResult
    ∃ value, holds waited.last value ∧ waited.edResult.nextToggle = toggle waited.last value := by
  induction rounds generalizing index edResult with
  | zero =>
    simp only [waitForDone, checks]
    exact ⟨_, start, rfl⟩
  | succ rounds ih =>
    simp only [waitForDone, checks]
    by_cases pending : code index = tdTobeProcessed
    · rw [if_pos (doneStatus_notReady.mpr pending)]
      exact ih (index + 1) _ (step index _ pending start)
    · rw [if_neg (fun same => pending (doneStatus_notReady.mp same))]
      exact ⟨_, start, rfl⟩

end

end MuRockchip.Ohci
