/-
Bulk transfers (`Ohci.c`, `OhciBulkTransfer`).

The outside world answers a call with the descriptors of the pool, the mapping and what
every poll finds. The outcome says what the caller gets back, and, where a chain was
submitted, in what memory, with what head, and at which poll the waiting ended.

* `bulkTransfer_truthful_iff`: the status and the length a bulk transfer reports are true
  unless it runs out of resources before it submits a chain.
* `bulkTransfer_toggle_iff`: for which outcomes the toggle it hands back is the one the
  device expects.
-/
import MuRockchip.Ohci.ChainTiling
import MuRockchip.Ohci.Device

namespace MuRockchip.Ohci

open MuRockchip.Base

/-! ### The transfer -/

/-- The arguments of `OhciBulkTransfer`. -/
structure BulkCall where
  deviceAddress : UInt8
  endPointAddress : UInt8
  maxPacketLength : UInt8
  data : UInt64
  dataLength : UInt64
  dataToggle : UInt8
  timeOut : UInt64
  deriving DecidableEq, Repr

/-- What the call asks of the world. -/
structure BulkAnswers (call : BulkCall) where
  ed : Option UInt32
  mapping : Except ErrorStatus (Mapping call.dataLength)
  tds : List (Option UInt32)
  polls : Nat → Poll

/-- `FREE_OHCI_TDBUFF` and `FREE_ED_BUFF`: the endpoint descriptor is skipped and taken off
its list, and everything is given back. -/
def freeBulk (dev : UsbOhciHcDev) (ed headEd headTd : UInt32) (mapping : UInt64) :
    UsbOhciHcDev :=
  let mem := setSkip dev.mem ed 1
  let dev := { dev with mem := mem }
  let dev :=
    if headEd = ed then { dev with bulkHead := 0 }
    else { dev with mem := setNextEd mem headEd (nextEd mem ed) }
  let dev := { dev with mem := freeTdChain walkLimit dev.mem headTd }
  let dev := dev.dmaUnmap mapping
  { dev with mem := usbHcFreeDescriptor dev.mem ed }

/-- `OhciCreateED` and `OhciAttachEDToList`, with the fields set in between. -/
def createBulkEd (dev : UsbOhciHcDev) (call : BulkCall) (answer : Option UInt32) :
    Option (UInt32 × UInt32 × UsbOhciHcDev) :=
  let dev := { dev with bulkHead := 0 }
  match ohciCreateEd dev.mem answer with
  | none => none
  | some (ed, mem) =>
    let mem := mem.setEd ed
      (endpoint call.deviceAddress (call.endPointAddress &&& 0xF) false call.maxPacketLength)
    let (register, headEd, mem) := ohciAttachEdToList mem dev.bulkHead ed
    some (ed, headEd, { dev with mem := mem, bulkHead := register })

/-- The polls of a bulk transfer: one, and one for every millisecond up to the time-out. -/
def bulkRounds (timeOut : UInt64) : Nat := timeOut.toNat + 1

/-- `*DataToggle` behind the polls: it is the one the chain ends with, unless an error has
stopped the controller. -/
def bulkToggle (edResult : OhciEdResult) (toggle : UInt8) : UInt8 :=
  if edResult.errorCode = tdNoError then toggle
  else if edResult.errorCode = tdTobeProcessed then toggle
  else edResult.nextToggle

/-- The data stage, the polls and the cleanup, once there is a mapping. -/
def bulkStages (call : BulkCall) (answers : BulkAnswers call) (ed headEd : UInt32)
    (mapping : Mapping call.dataLength) (dev : UsbOhciHcDev) : TransferOutcome :=
  let stage := transferChain (dataPidDir call.endPointAddress) call.maxPacketLength answers.tds
    dev.mem ed call.dataToggle mapping.address mapping.length
  if stage.status.isError then
    ⟨stage.status, call.dataLength, stage.toggle, none, .unsubmitted,
      freeBulk { dev with mem := stage.mem } ed headEd stage.head mapping.handle⟩
  else
    let mem := setSkip stage.mem ed 0
    let waited := waitForDone
      (fun index => checkIfDone .bulkList mem ed stage.head (answers.polls index))
      (bulkRounds call.timeOut) 0 ⟨tdTobeProcessed, call.dataToggle⟩
    -- the controller goes on until the descriptor is skipped
    let settled := (answers.polls (waited.last + 1)).observe mem
    { status := waited.status
      dataLength := if waited.edResult.errorCode ≠ tdNoError then 0 else call.dataLength
      dataToggle := bulkToggle waited.edResult stage.toggle
      transferResult := some (convertErrorCode waited.edResult.errorCode)
      fate := .submitted ⟨ed, stage.head, mem, waited⟩
      dev := freeBulk { dev with mem := settled } ed headEd stage.head mapping.handle }

def ohciBulkTransfer (call : BulkCall) (answers : BulkAnswers call) (dev : UsbOhciHcDev) :
    TransferOutcome :=
  if ¬ BulkAccepts call.maxPacketLength call.data call.dataLength call.dataToggle then
    ⟨EfiStatus.invalidParameter, call.dataLength, call.dataToggle, none, .refused, dev⟩
  else
    match createBulkEd dev call answers.ed with
    | none =>
      ⟨EfiStatus.outOfResources, call.dataLength, call.dataToggle, none, .unsubmitted,
        { dev with bulkHead := 0 }⟩
    | some (ed, headEd, dev) =>
      match dev.dmaMap answers.mapping with
      | .error status =>
        -- the list head keeps the descriptor that is given back
        ⟨status.val, call.dataLength, call.dataToggle, none, .unsubmitted,
          { dev with mem := usbHcFreeDescriptor dev.mem ed }⟩
      | .ok (mapping, dev) => bulkStages call answers ed headEd mapping dev

/-! ### What the world has to give -/

/-- The endpoint descriptor and the mapping the transfer is given. -/
def bulkGiven (call : BulkCall) (answers : BulkAnswers call) (dev : UsbOhciHcDev) :
    Option (UInt32 × Mapping call.dataLength) :=
  match answers.ed, answers.mapping with
  | some ed, .ok mapping =>
    if Available dev.mem.live ed ∧ dev.mapped mapping.handle = false then some (ed, mapping)
    else none
  | _, _ => none

/-- The transfer is given all it needs to submit its chain. -/
def BulkSupplied (call : BulkCall) (answers : BulkAnswers call) (dev : UsbOhciHcDev) : Prop :=
  ∃ ed mapping, bulkGiven call answers dev = some (ed, mapping) ∧
    Enough (Function.update dev.mem.live ed true) answers.tds call.maxPacketLength mapping.length

/-- How many descriptors the pool hands out before it has none. -/
def bulkGranted (call : BulkCall) (answers : BulkAnswers call) (dev : UsbOhciHcDev) : Nat :=
  match bulkGiven call answers dev with
  | none => 0
  | some (ed, _) => (granted (Function.update dev.mem.live ed true) answers.tds).length

/-- The endpoint descriptor is the whole bulk list. -/
theorem createBulkEd_eq (dev : UsbOhciHcDev) (call : BulkCall) (answer : Option UInt32) :
    (createBulkEd dev call answer = none ∧ ∀ ed, answer = some ed → ¬ Available dev.mem.live ed) ∨
    ∃ ed, answer = some ed ∧ Available dev.mem.live ed ∧
      ∃ mem, createBulkEd dev call answer = some (ed, ed, { dev with mem := mem, bulkHead := ed }) ∧
        mem.live = Function.update dev.mem.live ed true ∧
        Queued mem ed [] := by
  cases answer with
  | none => exact Or.inl ⟨rfl, by simp⟩
  | some ed =>
    by_cases fresh : Available dev.mem.live ed
    · let mem := ((dev.mem.setEd ed { EdDescriptor.empty with skip := 1 }).setLive ed true).setEd
        ed (endpoint call.deviceAddress (call.endPointAddress &&& 0xF) false call.maxPacketLength)
      have created : createBulkEd dev call (some ed) =
          some (ed, ed, { dev with mem := mem, bulkHead := ed }) := by
        simp only [createBulkEd, ohciCreateEd, if_pos fresh, ohciAttachEdToList, if_true, mem]
      exact Or.inr ⟨ed, rfl, fresh, mem, created, rfl, Queued.empty (by simp [mem, endpoint])⟩
    · refine Or.inl ⟨?_, fun ed' same => ?_⟩
      · simp only [createBulkEd, ohciCreateEd, if_neg fresh]
      · rwa [← Option.some.inj same]

/-! ### The outcomes -/

/-- A bulk transfer that has submitted its chain: `data` holds the packets, and the polls
have ended with what they found of them. -/
structure BulkSubmitted (call : BulkCall) (answers : BulkAnswers call) (outcome : TransferOutcome)
    (chain : Submitted) (length : UInt64) (data : List UInt32) (empty : UInt32) : Prop where
  fate : outcome.fate = .submitted chain
  tds : TdChain chain.mem chain.head (data ++ [empty])
  exhausts : Exhausts call.maxPacketLength length data.length
  packets : ∃ address, Packets (dataPidDir call.endPointAddress) call.maxPacketLength chain.mem
    data call.dataToggle address length
  waited : chain.waited = waitForDone
    (fun index => checkIfDone .bulkList chain.mem chain.ed chain.head (answers.polls index))
    (bulkRounds call.timeOut) 0 ⟨tdTobeProcessed, call.dataToggle⟩
  status : outcome.status = chain.waited.status
  dataLength : outcome.dataLength =
    if chain.waited.edResult.errorCode ≠ tdNoError then 0 else call.dataLength
  dataToggle : outcome.dataToggle =
    bulkToggle chain.waited.edResult (flips call.dataToggle data.length)

/-- Once there is a mapping, the pool runs out of descriptors or the chain is submitted. -/
theorem bulkStages_spec (call : BulkCall) (answers : BulkAnswers call) {ed : UInt32}
    (headEd : UInt32) (mapping : Mapping call.dataLength) (dev : UsbOhciHcDev)
    (queued : Queued dev.mem ed []) :
    let outcome := bulkStages call answers ed headEd mapping dev
    (¬ Enough dev.mem.live answers.tds call.maxPacketLength mapping.length ∧
      outcome.fate = .unsubmitted ∧ outcome.status.isError = true ∧
      outcome.dataLength = call.dataLength ∧
      outcome.dataToggle = flips call.dataToggle (granted dev.mem.live answers.tds).length) ∨
    (Enough dev.mem.live answers.tds call.maxPacketLength mapping.length ∧
      ∃ chain data empty, BulkSubmitted call answers outcome chain mapping.length data empty) := by
  intro outcome
  have stages := transferChain_spec (dataPidDir call.endPointAddress) call.maxPacketLength queued
    call.dataToggle mapping.address mapping.positive answers.tds
  simp only [outcome, bulkStages]
  generalize transferChain (dataPidDir call.endPointAddress) call.maxPacketLength answers.tds
    dev.mem ed call.dataToggle mapping.address mapping.length = stage at stages ⊢
  rcases stages with ⟨cells, starved⟩ | ⟨data, empty, complete⟩
  · obtain ⟨first, staged, -, -, toggle⟩ := starved.staged
    have failed : stage.status.isError = true := by rw [starved.status]; rfl
    rw [if_pos failed]
    refine Or.inl ⟨starved.short, rfl, failed, rfl, ?_⟩
    rw [toggle, staged.toggle, starved.all]
  · obtain ⟨first, staged, -, exhausts, -, closed⟩ := complete.staged
    have fine : ¬ stage.status.isError = true := by rw [closed.status]; decide
    rw [if_neg fine]
    refine Or.inr ⟨complete.enough, _, data, empty, rfl, closed.chain.congr fun _ _ => rfl,
      exhausts, ⟨mapping.address, ?_⟩, rfl, rfl, rfl, ?_⟩
    · exact packets_congr (fun cell member => closed.contents cell member) staged.packets
    · rw [← staged.toggle, ← closed.toggle]

/-- A bulk transfer is refused, runs out of resources, or submits its chain. -/
theorem bulkTransfer_spec (call : BulkCall) (answers : BulkAnswers call) (dev : UsbOhciHcDev) :
    let outcome := ohciBulkTransfer call answers dev
    (¬ BulkAccepts call.maxPacketLength call.data call.dataLength call.dataToggle ∧
      outcome.fate = .refused ∧ outcome.status.isError = true ∧
      outcome.dataToggle = call.dataToggle) ∨
    (BulkAccepts call.maxPacketLength call.data call.dataLength call.dataToggle ∧
      ¬ BulkSupplied call answers dev ∧ outcome.fate = .unsubmitted ∧
      outcome.status.isError = true ∧ outcome.dataLength = call.dataLength ∧
      outcome.dataToggle = flips call.dataToggle (bulkGranted call answers dev)) ∨
    (BulkAccepts call.maxPacketLength call.data call.dataLength call.dataToggle ∧
      ∃ ed mapping, bulkGiven call answers dev = some (ed, mapping) ∧
        Enough (Function.update dev.mem.live ed true) answers.tds call.maxPacketLength
          mapping.length ∧
        ∃ chain data empty,
          BulkSubmitted call answers outcome chain mapping.length data empty) := by
  intro outcome
  by_cases accepted :
    BulkAccepts call.maxPacketLength call.data call.dataLength call.dataToggle
  swap
  · refine Or.inl ⟨accepted, ?_, ?_, ?_⟩ <;>
      simp only [outcome, ohciBulkTransfer, accepted, not_false_eq_true, if_true]
    exact EfiStatus.isError_invalidParameter
  right
  rcases createBulkEd_eq dev call answers.ed with ⟨none, unavailable⟩ |
    ⟨ed, edEq, fresh, mem, created, liveEq, queued⟩
  · have nothing : bulkGiven call answers dev = .none := by
      unfold bulkGiven
      split
      · next ed mapping edEq _ => rw [if_neg fun both => unavailable ed edEq both.1]
      · rfl
    have result : outcome = ⟨EfiStatus.outOfResources, call.dataLength, call.dataToggle, .none,
        .unsubmitted, { dev with bulkHead := 0 }⟩ := by
      simp only [outcome, ohciBulkTransfer, accepted, not_true_eq_false, if_false, none]
    rw [result]
    refine Or.inl ⟨accepted, ?_, rfl, EfiStatus.isError_outOfResources, rfl, ?_⟩
    · rintro ⟨ed, mapping, given, -⟩
      rw [nothing] at given
      cases given
    · simp only [bulkGranted, nothing, flips]
  cases mappingEq : answers.mapping with
  | error status =>
    have nothing : bulkGiven call answers dev = none := by
      simp only [bulkGiven, edEq, mappingEq]
    have result : outcome = ⟨status.val, call.dataLength, call.dataToggle, .none, .unsubmitted,
        { dev with mem := usbHcFreeDescriptor mem ed, bulkHead := ed }⟩ := by
      simp only [outcome, ohciBulkTransfer, accepted, not_true_eq_false, if_false, created,
        UsbOhciHcDev.dmaMap, mappingEq]
    rw [result]
    refine Or.inl ⟨accepted, ?_, rfl, status.property, rfl, ?_⟩
    · rintro ⟨ed, mapping, given, -⟩
      rw [nothing] at given
      cases given
    · simp only [bulkGranted, nothing, flips]
  | ok mapping =>
    by_cases used : dev.mapped mapping.handle = true
    · have nothing : bulkGiven call answers dev = none := by
        simp only [bulkGiven, edEq, mappingEq, used, Bool.true_eq_false, and_false, if_false]
      have result : outcome = ⟨EfiStatus.outOfResources, call.dataLength, call.dataToggle, .none,
          .unsubmitted, { dev with mem := usbHcFreeDescriptor mem ed, bulkHead := ed }⟩ := by
        simp only [outcome, ohciBulkTransfer, accepted, not_true_eq_false, if_false, created,
          UsbOhciHcDev.dmaMap, mappingEq, used, if_true]
      rw [result]
      refine Or.inl ⟨accepted, ?_, rfl, EfiStatus.isError_outOfResources, rfl, ?_⟩
      · rintro ⟨ed, mapping, given, -⟩
        rw [nothing] at given
        cases given
      · simp only [bulkGranted, nothing, flips]
    · have free : dev.mapped mapping.handle = false := Bool.eq_false_iff.mpr used
      have given : bulkGiven call answers dev = some (ed, mapping) := by
        simp only [bulkGiven, edEq, mappingEq, fresh, free, and_self, if_true]
      let dev' : UsbOhciHcDev := { dev with
        mem := mem, bulkHead := ed, mapped := Function.update dev.mapped mapping.handle true }
      have result : outcome = bulkStages call answers ed ed mapping dev' := by
        simp only [outcome, ohciBulkTransfer, accepted, not_true_eq_false, if_false, created,
          UsbOhciHcDev.dmaMap, mappingEq, free, Bool.false_eq_true, dev']
      have stages := bulkStages_spec call answers ed mapping dev' queued
      rw [← result] at stages
      have live : dev'.mem.live = Function.update dev.mem.live ed true := liveEq
      rw [live] at stages
      rcases stages with ⟨short, fate, error, dataLength, toggle⟩ | ⟨enough, submitted⟩
      · refine Or.inl ⟨accepted, ?_, fate, error, dataLength, ?_⟩
        · rintro ⟨ed', mapping', given', enough⟩
          rw [given] at given'
          cases given'
          exact short enough
        · simp only [toggle, bulkGranted, given]
      · exact Or.inr ⟨accepted, ed, mapping, given, enough, submitted⟩

/-! ### What the caller is told -/

variable {chain : Submitted} {data : List UInt32} {empty : UInt32} {length : UInt64}
  {outcome : TransferOutcome} {toggle : UInt8}

theorem BulkSubmitted.checks {call : BulkCall} {answers : BulkAnswers call}
    (submitted : BulkSubmitted call answers outcome chain length data empty) (index : Nat)
    (edResult : OhciEdResult) :
    checkIfDone .bulkList chain.mem chain.ed chain.head (answers.polls index) edResult =
      (doneStatus (pollCode .bulkList chain.mem data (answers.polls index)),
        ⟨pollCode .bulkList chain.mem data (answers.polls index),
          pollToggle .bulkList chain.mem data (answers.polls index) edResult.nextToggle⟩) :=
  checkIfDone_eq submitted.tds.driver _ _ _ _

/-- The status and the length of a bulk transfer are true, unless it has run out of
resources: then the length is still the one that was asked for. -/
theorem bulkTransfer_truthful_iff (call : BulkCall) (answers : BulkAnswers call)
    (dev : UsbOhciHcDev) :
    (ohciBulkTransfer call answers dev).Truthful .bulkList answers.polls call.dataLength ↔
      (BulkAccepts call.maxPacketLength call.data call.dataLength call.dataToggle →
        BulkSupplied call answers dev) := by
  unfold TransferOutcome.Truthful
  rcases bulkTransfer_spec call answers dev with ⟨refused, fate, error, -⟩ |
    ⟨accepted, unsupplied, fate, error, same, -⟩ |
    ⟨accepted, ed, mapping, given, enough, chain, data, empty, submitted⟩
  · rw [fate]
    exact ⟨fun _ accepted => absurd accepted refused, fun _ => error⟩
  · rw [fate]
    exact ⟨fun truthful => absurd same truthful.2,
      fun supplied => absurd (supplied accepted) unsupplied⟩
  · rw [submitted.fate]
    refine ⟨fun _ _ => ⟨ed, mapping, given, enough⟩, fun _ data' empty' tds => ?_⟩
    obtain rfl := tds.data_unique submitted.tds
    obtain ⟨status, errorCode, -⟩ :=
      waitForDone_spec submitted.checks (bulkRounds call.timeOut) 0
        ⟨tdTobeProcessed, call.dataToggle⟩
    rw [← submitted.waited] at status errorCode
    rw [submitted.status, submitted.dataLength, errorCode, status]
    set code := pollCode .bulkList chain.mem data' (answers.polls chain.waited.last) with codeEq
    constructor
    · intro success
      exact (pollCode_eq_zero.mp (doneStatus_success.mp success)).2
    · intro bad
      have nonzero : code ≠ tdNoError := by
        intro zero
        obtain ⟨filled, good⟩ := pollCode_eq_zero.mp zero
        rcases bad with filling | ⟨cell, member, wrong⟩
        · rw [filled] at filling
          cases filling
        · exact wrong (good cell member)
      rw [if_pos nonzero]
      exact ⟨doneStatus_isError.mpr nonzero, fun same => accepted.2.1 same.symm⟩

/-! ### The toggle the device expects -/

/-- What a controller did to a chain by every poll: how many data descriptors it had retired
with condition code zero, and with what code it had halted on the next. `advances` says
whether the data toggle it leaves in a descriptor it retires is the one of the next packet,
or the one the driver set. -/
structure Progress where
  advances : Bool
  retired : Nat → Nat
  halted : Nat → Option (BitVec 4)
  onward : ∀ index, retired index ≤ retired (index + 1)
  stays : ∀ index, halted index ≠ none → retired (index + 1) = retired index
  codes : ∀ index code, halted index = some code → code ≠ tdNoError ∧ code ≠ tdTobeProcessed

/-- The polls find that progress in the data descriptors of the chain: they are processed in
order. -/
structure Progress.Seen (progress : Progress) (mem : Descriptors) (data : List UInt32)
    (polls : Nat → Poll) : Prop where
  bounded : ∀ index, progress.retired index ≤ data.length
  inside : ∀ index, progress.halted index ≠ none → progress.retired index < data.length
  code : ∀ (index place : Nat) (cell : UInt32), data[place]? = some cell →
    (((polls index).observe mem).td cell).conditionCode =
      if place < progress.retired index then tdNoError
      else if place = progress.retired index then (progress.halted index).getD tdTobeProcessed
      else tdTobeProcessed
  toggle : ∀ (index place : Nat) (cell : UInt32), data[place]? = some cell →
    place < progress.retired index →
      (((polls index).observe mem).td cell).dataToggle =
        if progress.advances then (mem.td cell).dataToggle ^^^ 1 else (mem.td cell).dataToggle

/-- The code a poll finds for a chain of so many packets. -/
def Progress.found (progress : Progress) (polls : Nat → Poll) (count index : Nat) : BitVec 4 :=
  if (polls index).listFilled then tdTobeProcessed
  else if progress.retired index = count then tdNoError
  else (progress.halted index).getD tdTobeProcessed

/-- How many data descriptors of a chain have condition code zero. -/
def goodCount (mem : Descriptors) (data : List UInt32) : Nat :=
  data.countP fun cell => (mem.td cell).conditionCode = tdNoError

/-- The toggle that is handed back has been flipped once for every data descriptor the
controller has retired with condition code zero by the time the transfer returns. -/
def TransferOutcome.KeepsToggle (outcome : TransferOutcome) (polls : Nat → Poll)
    (toggle : UInt8) : Prop :=
  match outcome.fate with
  | .submitted chain =>
    ∀ data empty, TdChain chain.mem chain.head (data ++ [empty]) →
      outcome.dataToggle = toggle ^^^ UInt8.ofNat
        (goodCount ((polls (chain.waited.last + 1)).observe chain.mem) data % 2)
  | _ => outcome.dataToggle = toggle

/-! ### Chains that are good up to a place -/

section

variable {mem : Descriptors} {data : List UInt32} {count : Nat}

/-- The first `count` descriptors of a chain have condition code zero, and no other. -/
def GoodUpTo (mem : Descriptors) (data : List UInt32) (count : Nat) : Prop :=
  count ≤ data.length ∧ ∀ (place : Nat) (cell : UInt32), data[place]? = some cell →
    ((mem.td cell).conditionCode = tdNoError ↔ place < count)

variable {rest : List UInt32} {td : UInt32}

theorem GoodUpTo.tail {count : Nat}
    (good : GoodUpTo mem (td :: rest) (count + 1)) : GoodUpTo mem rest count :=
  ⟨Nat.le_of_succ_le_succ good.1, fun place cell there =>
    (good.2 (place + 1) cell (by simpa using there)).trans Nat.succ_lt_succ_iff⟩

theorem GoodUpTo.none (good : GoodUpTo mem (td :: rest) 0) :
    (mem.td td).conditionCode ≠ tdNoError :=
  fun zero => absurd ((good.2 0 td rfl).mp zero) (Nat.lt_irrefl 0)

theorem GoodUpTo.first
    (good : GoodUpTo mem (td :: rest) (count + 1)) : (mem.td td).conditionCode = tdNoError :=
  (good.2 0 td rfl).mpr (Nat.succ_pos _)

theorem goodCount_eq (good : GoodUpTo mem data count) : goodCount mem data = count := by
  induction data generalizing count with
  | nil => exact (Nat.le_zero.mp good.1).symm
  | cons td rest ih =>
    cases count with
    | zero =>
      have others : GoodUpTo mem rest 0 := ⟨Nat.zero_le _, fun place cell there => by
        have bad := good.2 (place + 1) cell (by simpa using there)
        exact ⟨fun zero => absurd (bad.mp zero) (Nat.not_lt_zero _),
          fun less => absurd less (Nat.not_lt_zero _)⟩⟩
      rw [goodCount, List.countP_cons_of_neg (by simpa using good.none)]
      exact ih others
    | succ count =>
      rw [goodCount, List.countP_cons_of_pos (by simpa using good.first)]
      exact congrArg (· + 1) (ih good.tail)

theorem firstCode_of_good (good : GoodUpTo mem data count) :
    firstCode mem data = (data[count]?.elim tdNoError fun cell => (mem.td cell).conditionCode) := by
  induction data generalizing count with
  | nil => rfl
  | cons td rest ih =>
    cases count with
    | zero => rw [firstCode, if_pos good.none]; rfl
    | succ count =>
      rw [firstCode, if_neg (not_not.mpr good.first), ih good.tail]
      rfl

theorem lastToggle_of_none (good : GoodUpTo mem data 0) (toggle : UInt8) :
    lastToggle mem data toggle = toggle := by
  cases data with
  | nil => rfl
  | cons td rest => rw [lastToggle, if_pos good.none]

theorem lastToggle_of_good (good : GoodUpTo mem data (count + 1)) {cell : UInt32}
    (there : data[count]? = some cell) (toggle : UInt8) :
    lastToggle mem data toggle = (mem.td cell).nextToggle := by
  induction data generalizing count toggle with
  | nil => simp at there
  | cons td rest ih =>
    rw [lastToggle, if_neg (not_not.mpr good.first)]
    cases count with
    | zero =>
      obtain rfl : td = cell := by simpa using there
      exact lastToggle_of_none good.tail _
    | succ count => exact ih good.tail (by simpa using there) _

end

/-! ### What the progress of the controller leaves behind -/

theorem packets_toggle {pid : BitVec 2} {maxPacketLength : UInt8} {mem : Descriptors}
    {cells : List UInt32} {address : UInt64}
    (packets : Packets pid maxPacketLength mem cells toggle address length) {place : Nat}
    {cell : UInt32} (there : cells[place]? = some cell) :
    (mem.td cell).dataToggle = tdToggle (flips toggle place) := by
  induction cells generalizing toggle address length place with
  | nil => simp at there
  | cons td rest ih =>
    cases place with
    | zero =>
      obtain rfl : td = cell := by simpa using there
      exact (congrArg TdDescriptor.dataToggle packets.1 :)
    | succ place => exact ih packets.2 (by simpa using there)

theorem flips_bit (bit : toggle = 0 ∨ toggle = 1) (count : Nat) :
    flips toggle count = 0 ∨ flips toggle count = 1 := by
  rw [flips_eq]
  rcases bit with rfl | rfl
  · split <;> decide
  · split <;> decide

theorem nextToggle_kept {td : TdDescriptor} (bit : toggle = 0 ∨ toggle = 1)
    (kept : td.dataToggle = tdToggle toggle) : td.nextToggle = toggle ^^^ 1 := by
  rw [TdDescriptor.nextToggle, kept]
  rcases bit with rfl | rfl <;> decide

theorem nextToggle_advanced {td : TdDescriptor} (bit : toggle = 0 ∨ toggle = 1)
    (advanced : td.dataToggle = tdToggle toggle ^^^ 1) : td.nextToggle = toggle := by
  rw [TdDescriptor.nextToggle, advanced]
  rcases bit with rfl | rfl <;> decide

section

variable {progress : Progress} {mem : Descriptors} {data : List UInt32} {polls : Nat → Poll}

theorem Progress.Seen.good (seen : progress.Seen mem data polls) (index : Nat) :
    GoodUpTo ((polls index).observe mem) data (progress.retired index) := by
  refine ⟨seen.bounded index, fun place cell there => ?_⟩
  rw [seen.code index place cell there]
  by_cases before : place < progress.retired index
  · rw [if_pos before]
    exact ⟨fun _ => before, fun _ => rfl⟩
  rw [if_neg before]
  refine ⟨fun zero => absurd zero ?_, fun less => absurd less before⟩
  split
  · cases halted : progress.halted index with
    | none => exact show tdTobeProcessed ≠ tdNoError by decide
    | some code => exact (progress.codes index code halted).1
  · decide

theorem Progress.Seen.pollCode_eq (seen : progress.Seen mem data polls) (index : Nat) :
    pollCode .bulkList mem data (polls index) = progress.found polls data.length index := by
  unfold pollCode Progress.found DescriptorListType.filling
  rw [show DescriptorListType.bulkList.hasFilled = true from rfl, Bool.true_and]
  split
  · rfl
  rw [firstCode_of_good (seen.good index)]
  by_cases all : progress.retired index = data.length
  · rw [if_pos all, all, List.getElem?_eq_none (Nat.le_refl _)]
    rfl
  · rw [if_neg all]
    have inside := Nat.lt_of_le_of_ne (seen.bounded index) all
    rw [List.getElem?_eq_getElem inside]
    exact (seen.code index _ _ (List.getElem?_eq_getElem inside)).trans
      (by rw [if_neg (Nat.lt_irrefl _), if_pos rfl])

/-- The polls leave the toggle alone as long as nothing is retired. -/
theorem Progress.Seen.pollToggle_none (seen : progress.Seen mem data polls) {index : Nat}
    (none : progress.retired index = 0) (toggle : UInt8) :
    pollToggle .bulkList mem data (polls index) toggle = toggle := by
  unfold pollToggle
  split
  · rfl
  · exact lastToggle_of_none (none ▸ seen.good index) toggle

end

/-! ### For which outcomes the toggle is right -/

/-- After a time-out the toggle is right if the controller has retired an even number of
descriptors less than there are packets; after an error it is if none was retired, or the
controller leaves the toggles of those it retires alone. -/
def Progress.LeavesToggle (progress : Progress) (polls : Nat → Poll) (count rounds : Nat) :
    Prop :=
  ∀ last, EndsAt (progress.found polls count) rounds last →
    (progress.found polls count last = tdTobeProcessed →
      (count + progress.retired (last + 1)) % 2 = 0) ∧
    (progress.found polls count last ≠ tdTobeProcessed →
      progress.found polls count last ≠ tdNoError →
      progress.retired last = 0 ∨ progress.advances = false)

/-- A transfer that runs out of descriptors leaves the toggle right if it was given an even
number of them. -/
def BulkKeepsToggle (call : BulkCall) (answers : BulkAnswers call) (dev : UsbOhciHcDev)
    (progress : Progress) : Prop :=
  BulkAccepts call.maxPacketLength call.data call.dataLength call.dataToggle →
    ∀ ed mapping count, bulkGiven call answers dev = some (ed, mapping) →
      Exhausts call.maxPacketLength mapping.length count →
      if count < bulkGranted call answers dev then
        progress.LeavesToggle answers.polls count (bulkRounds call.timeOut)
      else bulkGranted call answers dev % 2 = 0

theorem Progress.retired_of_found_zero (progress : Progress) {polls : Nat → Poll}
    {count index : Nat} (zero : progress.found polls count index = tdNoError) :
    progress.retired index = count := by
  unfold Progress.found at zero
  split at zero
  · exact absurd zero (by decide)
  · split at zero
    · next all => exact all
    · cases halted : progress.halted index with
      | none =>
        rw [halted] at zero
        exact absurd zero (by decide)
      | some code =>
        rw [halted] at zero
        exact absurd zero (progress.codes index code halted).1

theorem Progress.stopped_of_found (progress : Progress) {polls : Nat → Poll} {count index : Nat}
    (nonzero : progress.found polls count index ≠ tdNoError)
    (broken : progress.found polls count index ≠ tdTobeProcessed) :
    (polls index).listFilled = false ∧ progress.halted index ≠ none ∧
      progress.retired (index + 1) = progress.retired index := by
  unfold Progress.found at nonzero broken
  split at nonzero
  · next filled => exact absurd (if_pos filled) broken
  · next filled =>
    rw [if_neg filled] at broken
    split at nonzero
    · exact absurd rfl nonzero
    · next unfinished =>
      rw [if_neg unfinished] at broken
      have stopped : progress.halted index ≠ none := by
        intro none
        rw [none] at broken
        exact broken rfl
      exact ⟨Bool.eq_false_iff.mpr filled, stopped, progress.stays index stopped⟩

theorem BulkSubmitted.keepsToggle_iff {call : BulkCall} {answers : BulkAnswers call}
    (submitted : BulkSubmitted call answers outcome chain length data empty)
    (bit : call.dataToggle = 0 ∨ call.dataToggle = 1) {progress : Progress}
    (seen : progress.Seen chain.mem data answers.polls) :
    outcome.KeepsToggle answers.polls call.dataToggle ↔
      progress.LeavesToggle answers.polls data.length (bulkRounds call.timeOut) := by
  have checks : ∀ index edResult,
      checkIfDone .bulkList chain.mem chain.ed chain.head (answers.polls index) edResult =
        (doneStatus (progress.found answers.polls data.length index),
          ⟨progress.found answers.polls data.length index,
            pollToggle .bulkList chain.mem data (answers.polls index) edResult.nextToggle⟩) := by
    intro index edResult
    rw [submitted.checks, seen.pollCode_eq]
  obtain ⟨-, errorCode, -⟩ :=
    waitForDone_spec checks (bulkRounds call.timeOut) 0 ⟨tdTobeProcessed, call.dataToggle⟩
  have ends := waitForDone_endsAt checks (bulkRounds call.timeOut)
    ⟨tdTobeProcessed, call.dataToggle⟩
  rw [← submitted.waited] at errorCode ends
  set last := chain.waited.last
  have keeps : outcome.KeepsToggle answers.polls call.dataToggle ↔
      outcome.dataToggle = flips call.dataToggle (progress.retired (last + 1)) := by
    unfold TransferOutcome.KeepsToggle
    rw [submitted.fate, flips_eq_xor]
    have count := goodCount_eq (seen.good (last + 1))
    constructor
    · intro all
      rw [all data empty submitted.tds, count]
    · intro same data' empty' tds
      rw [tds.data_unique submitted.tds, count]
      exact same
  have onlyLast : progress.LeavesToggle answers.polls data.length (bulkRounds call.timeOut) ↔
      (progress.found answers.polls data.length last = tdTobeProcessed →
        (data.length + progress.retired (last + 1)) % 2 = 0) ∧
      (progress.found answers.polls data.length last ≠ tdTobeProcessed →
        progress.found answers.polls data.length last ≠ tdNoError →
        progress.retired last = 0 ∨ progress.advances = false) := by
    constructor
    · intro leaves
      exact leaves last ends
    · intro leaves other ends'
      rw [ends'.unique ends]
      exact leaves
  rw [keeps, onlyLast, submitted.dataToggle, bulkToggle, errorCode]
  rcases eq_or_ne (progress.found answers.polls data.length last) tdNoError with zero | nonzero
  · rw [if_pos zero, zero]
    have all := progress.retired_of_found_zero zero
    have still : progress.retired (last + 1) = data.length :=
      Nat.le_antisymm (seen.bounded (last + 1)) (all ▸ progress.onward last)
    rw [still]
    exact ⟨fun _ => ⟨fun same => absurd same (by decide), fun _ wrong => absurd rfl wrong⟩,
      fun _ => rfl⟩
  rw [if_neg nonzero]
  rcases eq_or_ne (progress.found answers.polls data.length last) tdTobeProcessed with late | broken
  · rw [if_pos late, flips_inj]
    exact ⟨fun even => ⟨fun _ => even, fun wrong => absurd late wrong⟩, fun leaves => leaves.1 late⟩
  rw [if_neg broken]
  obtain ⟨filled, stopped, same⟩ := progress.stopped_of_found nonzero broken
  rw [same]
  obtain ⟨value, start, toggle⟩ := waitForDone_toggle checks
    (fun index value => progress.retired index = 0 → value = call.dataToggle)
    (fun index value _ before after => by
      have none := Nat.le_zero.mp (after ▸ progress.onward index)
      rw [seen.pollToggle_none none]
      exact before none)
    (bulkRounds call.timeOut) 0 ⟨tdTobeProcessed, call.dataToggle⟩ (fun _ => rfl)
  rw [← submitted.waited] at start toggle
  rw [toggle]
  cases retired : progress.retired last with
  | zero =>
    rw [seen.pollToggle_none retired, start retired]
    exact ⟨fun _ => ⟨fun late => absurd late broken, fun _ _ => Or.inl rfl⟩, fun _ => rfl⟩
  | succ place =>
    have inside : place < data.length := by
      have bounded := seen.bounded last
      omega
    have there := List.getElem?_eq_getElem inside
    have good := seen.good last
    rw [retired] at good
    have filling : DescriptorListType.bulkList.filling (answers.polls last) = false := filled
    rw [pollToggle, filling, if_neg Bool.false_ne_true, lastToggle_of_good good there]
    obtain ⟨address, packets⟩ := submitted.packets
    have written := seen.toggle last place _ there (by omega)
    rw [packets_toggle packets there] at written
    have bit' := flips_bit bit place
    cases advances : progress.advances with
    | false =>
      rw [advances, if_neg Bool.false_ne_true] at written
      rw [nextToggle_kept bit' written, flips_succ]
      exact ⟨fun _ => ⟨fun late => absurd late broken, fun _ _ => Or.inr rfl⟩, fun _ => rfl⟩
    | true =>
      rw [advances, if_pos rfl] at written
      rw [nextToggle_advanced bit' written, flips_inj]
      constructor
      · intro same
        omega
      · intro leaves
        rcases leaves.2 broken nonzero with none | kept
        · cases none
        · cases kept

/-- The toggle a bulk transfer hands back is the one the device expects exactly under that
condition. -/
theorem bulkTransfer_toggle_iff (call : BulkCall) (answers : BulkAnswers call)
    (dev : UsbOhciHcDev) (progress : Progress)
    (seen : ∀ chain data empty, (ohciBulkTransfer call answers dev).fate = .submitted chain →
      TdChain chain.mem chain.head (data ++ [empty]) →
      progress.Seen chain.mem data answers.polls) :
    (ohciBulkTransfer call answers dev).KeepsToggle answers.polls call.dataToggle ↔
      BulkKeepsToggle call answers dev progress := by
  unfold BulkKeepsToggle
  rcases bulkTransfer_spec call answers dev with ⟨refused, fate, -, toggle⟩ |
    ⟨accepted, unsupplied, fate, -, -, toggle⟩ |
    ⟨accepted, ed, mapping, given, enough, chain, data, empty, submitted⟩
  · unfold TransferOutcome.KeepsToggle
    rw [fate]
    exact ⟨fun _ accepted => absurd accepted refused, fun _ => toggle⟩
  · have parity : (ohciBulkTransfer call answers dev).KeepsToggle answers.polls call.dataToggle ↔
        bulkGranted call answers dev % 2 = 0 := by
      unfold TransferOutcome.KeepsToggle
      rw [fate]
      show _ = flips call.dataToggle 0 ↔ (bulkGranted call answers dev + 0) % 2 = 0
      rw [toggle]
      exact flips_inj
    rw [parity]
    constructor
    · intro even _ ed mapping count given exhausts
      split
      · next enough =>
        refine absurd ⟨ed, mapping, given, count, exhausts, ?_⟩ unsupplied
        simpa only [bulkGranted, given] using enough
      · exact even
    · intro keeps
      cases given : bulkGiven call answers dev with
      | none => simp only [bulkGranted, given, Nat.zero_mod]
      | some pair =>
        obtain ⟨count, -, exhausts⟩ := exists_exhausts accepted.2.2.2.ne_zero pair.2.length
        have keeps := keeps accepted pair.1 pair.2 count given exhausts
        split at keeps
        · next enough =>
          refine absurd ⟨pair.1, pair.2, given, count, exhausts, ?_⟩ unsupplied
          simpa only [bulkGranted, given] using enough
        · exact keeps
  · rw [submitted.keepsToggle_iff accepted.2.2.1
      (seen chain data empty submitted.fate submitted.tds)]
    obtain ⟨count, exhausts, less⟩ := enough
    obtain rfl := exhausts.unique submitted.exhausts
    have many : data.length < bulkGranted call answers dev := by
      simpa only [bulkGranted, given] using less
    constructor
    · intro leaves _ ed' mapping' count' given' exhausts'
      rw [given] at given'
      cases given'
      rw [exhausts'.unique submitted.exhausts, if_pos many]
      exact leaves
    · intro keeps
      have leaves := keeps accepted ed mapping data.length given submitted.exhausts
      rwa [if_pos many] at leaves

/-! ### One packet -/

/-- Eight bytes to a bulk endpoint, in one packet. -/
def onePacket : BulkCall := ⟨1, 0x02, 8, 0x200000, 8, 0, 100⟩

def onePacketMapping : Mapping onePacket.dataLength := .eightBytes

/-- The pool and the mapping give what it needs, and every poll finds `write`. -/
def onePacketAnswers (write : Option HcTdWrite) : BulkAnswers onePacket :=
  ⟨some 64, .ok onePacketMapping, [some 128, some 192], fun _ =>
    ⟨false, fun _ => write, fun _ => none⟩⟩

theorem onePacket_submitted (write : Option HcTdWrite) :
    ∃ chain data empty, data.length = 1 ∧ BulkSubmitted onePacket (onePacketAnswers write)
      (ohciBulkTransfer onePacket (onePacketAnswers write) .idle) chain 8 data empty := by
  have given : bulkGiven onePacket (onePacketAnswers write) .idle = some (64, onePacketMapping) :=
    rfl
  have exhausts : Exhausts 8 8 1 := ⟨by decide, by decide⟩
  have enough : Enough (Function.update UsbOhciHcDev.idle.mem.live 64 true)
      (onePacketAnswers write).tds onePacket.maxPacketLength onePacketMapping.length :=
    ⟨1, exhausts, show 1 < (granted (Function.update Descriptors.unused.live 64 true)
      [some 128, some 192]).length by decide⟩
  rcases bulkTransfer_spec onePacket (onePacketAnswers write) .idle with ⟨refused, -⟩ |
    ⟨-, unsupplied, -⟩ | ⟨-, ed, mapping, given', -, chain, data, empty, submitted⟩
  · exact absurd (by decide) refused
  · exact absurd ⟨64, onePacketMapping, given, enough⟩ unsupplied
  · rw [given] at given'
    cases given'
    exact ⟨chain, data, empty, submitted.exhausts.unique exhausts, submitted⟩

/-- The controller has sent the packet by the first poll. -/
def sentAtOnce : Progress :=
  ⟨false, fun _ => 1, fun _ => none, fun _ => Nat.le_refl 1, fun _ halted => absurd rfl halted,
    by simp⟩

/-- The controller has not got to the packet: the device is not ready. -/
def neverSent : Progress :=
  ⟨false, fun _ => 0, fun _ => none, fun _ => Nat.le_refl 0, fun _ halted => absurd rfl halted,
    by simp⟩

theorem sentAtOnce_seen
    (fate : (ohciBulkTransfer onePacket (onePacketAnswers (some ⟨2, 0, 0, 0, 0⟩)) .idle).fate =
      .submitted chain) (tds : TdChain chain.mem chain.head (data ++ [empty])) :
    sentAtOnce.Seen chain.mem data (onePacketAnswers (some ⟨2, 0, 0, 0, 0⟩)).polls := by
  obtain ⟨chain', data', empty', one, submitted⟩ := onePacket_submitted (some ⟨2, 0, 0, 0, 0⟩)
  rw [submitted.fate] at fate
  cases fate
  obtain rfl := tds.data_unique submitted.tds
  have only {place : Nat} {cell : UInt32} (there : data[place]? = some cell) : place < 1 := by
    rw [← one]
    exact (List.getElem?_eq_some_iff.mp there).1
  refine ⟨fun _ => one.ge, fun _ halted => absurd rfl halted, ?_, ?_⟩
  · intro index place cell there
    exact (if_pos (only there)).symm
  · intro index place cell there _
    obtain ⟨address, packets⟩ := submitted.packets
    obtain rfl : place = 0 := Nat.lt_one_iff.mp (only there)
    rw [packets_toggle packets there]
    rfl

theorem neverSent_seen
    (fate : (ohciBulkTransfer onePacket (onePacketAnswers none) .idle).fate = .submitted chain)
    (tds : TdChain chain.mem chain.head (data ++ [empty])) :
    neverSent.Seen chain.mem data (onePacketAnswers none).polls := by
  obtain ⟨chain', data', empty', one, submitted⟩ := onePacket_submitted none
  rw [submitted.fate] at fate
  cases fate
  obtain rfl := tds.data_unique submitted.tds
  refine ⟨fun _ => Nat.zero_le _, fun _ halted => absurd rfl halted, ?_,
    fun index place cell _ less => absurd less (Nat.not_lt_zero _)⟩
  intro index place cell there
  obtain ⟨address, packets⟩ := submitted.packets
  have armed := armed_of_packets packets cell (List.mem_of_getElem? there)
  refine Eq.trans armed (Eq.trans ?_ (if_neg (Nat.not_lt_zero place)).symm)
  split <;> rfl

theorem bulkTransfer_toggle_iff_sentAtOnce :
    (ohciBulkTransfer onePacket (onePacketAnswers (some ⟨2, 0, 0, 0, 0⟩)) .idle).KeepsToggle
        (onePacketAnswers (some ⟨2, 0, 0, 0, 0⟩)).polls 0 ↔
      BulkKeepsToggle onePacket (onePacketAnswers (some ⟨2, 0, 0, 0, 0⟩)) .idle sentAtOnce :=
  bulkTransfer_toggle_iff onePacket (onePacketAnswers (some ⟨2, 0, 0, 0, 0⟩)) .idle sentAtOnce
    fun _ _ _ fate tds => sentAtOnce_seen fate tds

/-- The transfer times out, and the toggle is flipped although nothing was sent. -/
theorem timeout_flips_toggle :
    (∀ chain data empty,
      (ohciBulkTransfer onePacket (onePacketAnswers none) .idle).fate = .submitted chain →
      TdChain chain.mem chain.head (data ++ [empty]) →
      neverSent.Seen chain.mem data (onePacketAnswers none).polls) ∧
    ¬ (ohciBulkTransfer onePacket (onePacketAnswers none) .idle).KeepsToggle
      (onePacketAnswers none).polls 0 := by
  refine ⟨fun _ _ _ fate tds => neverSent_seen fate tds, fun keeps => ?_⟩
  obtain ⟨chain, data, empty, one, submitted⟩ := onePacket_submitted none
  have seen := neverSent_seen submitted.fate submitted.tds
  have leaves := (submitted.keepsToggle_iff (Or.inl rfl) seen).mp keeps
  have pending (index : Nat) :
      neverSent.found (onePacketAnswers none).polls data.length index = tdTobeProcessed := by
    rw [one]
    rfl
  have parity := (leaves (bulkRounds onePacket.timeOut)
    ⟨Nat.le_refl _, fun index _ => pending index, fun _ => rfl⟩).1 (pending _)
  rw [one] at parity
  exact absurd parity (by decide)

end MuRockchip.Ohci
