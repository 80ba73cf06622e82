/-
Interrupt transfers (`Ohci.c`, `OhciInterruptTransfer`).

A submission takes five things: a mapping, a place in the schedule, an endpoint descriptor
(one that works for the endpoint already, or a new one), the descriptors of its chain, and
a context if there is a callback. One cleanup serves the failures behind the endpoint
descriptor. A cancellation frees the contexts and the endpoint descriptors of an endpoint.

* `interruptTransfer_atomic_iff`: at which failures a submission leaves everything as it was.
-/
import MuRockchip.Ohci.Schedule

namespace MuRockchip.Ohci

open MuRockchip.Base

/-! ### The transfer -/

/-- The arguments of a submission. `toggle` is the address of the caller's data toggle, and
`dataToggle` what it holds. -/
structure InterruptCall where
  deviceAddress : UInt8
  endPointAddress : UInt8
  isSlowDevice : Bool
  maxPacketLength : UInt8
  dataToggle : UInt8
  toggle : UInt64
  pollingInterval : UInt64
  ucBuffer : UInt64
  dataLength : UInt64
  callBackFunction : UInt64
  context : UInt64
  isPeriodic : Bool
  deriving DecidableEq, Repr

/-- What the submission asks of the world. -/
structure InterruptAnswers (call : InterruptCall) where
  mapping : Except ErrorStatus (Mapping call.dataLength)
  ed : Option UInt32
  tds : List (Option UInt32)
  entry : Option UInt64

/-- What the caller gets back: `output` is `*OutputED` and `*OutputTD`. -/
structure InterruptOutcome where
  status : EfiStatus
  dataToggle : UInt8
  output : Option (UInt32 × UInt32)
  dev : UsbOhciHcDev

def edOutDir : BitVec 2 := 1
def edInDir : BitVec 2 := 2

def edDir (endPointAddress : UInt8) : BitVec 2 :=
  if endPointAddress &&& 0x80 ≠ 0 then edInDir else edOutDir

/-- The ED stage: a working descriptor is skipped for the time being, or a new one is created
and attached behind the head of the list. -/
def interruptEd (call : InterruptCall) (answer : Option UInt32) (headEd : UInt32)
    (mem : Descriptors) : Option (UInt32 × Descriptors) :=
  let endPointNum := call.endPointAddress &&& 0xF
  let ed := ohciFindWorkingEd mem call.deviceAddress endPointNum (edDir call.endPointAddress)
    walkLimit headEd
  if ed ≠ 0 then some (ed, setSkip mem ed 1)
  else
    match ohciCreateEd mem answer with
    | none => none
    | some (ed, mem) =>
      let mem := mem.setEd ed
        (endpoint call.deviceAddress endPointNum call.isSlowDevice call.maxPacketLength)
      some (ed, ohciAttachEd mem headEd ed)

/-- `FREE_OHCI_TDBUFF`: the chain is freed, and the endpoint descriptor is taken off its list
and freed, whether it was created by this submission or not. -/
def abandonInterrupt (mem : Descriptors) (headEd ed headTd : UInt32) : Descriptors :=
  let mem := freeTdChain walkLimit mem headTd
  if headEd ≠ ed ∧ headEd ≠ 0 ∧ ed ≠ 0 then
    let before := edBefore mem ed walkLimit headEd
    usbHcFreeDescriptor (setNextEd mem before (nextEd mem ed)) ed
  else mem

/-- The context of a submission. -/
def InterruptCall.entry (call : InterruptCall) (ed headTd : UInt32) (mapping : UInt64) :
    InterruptContextEntry where
  deviceAddress := call.deviceAddress
  endPointAddress := call.endPointAddress
  ed := ed
  dataTd := headTd
  isSlowDevice := call.isSlowDevice
  maxPacketLength := call.maxPacketLength
  pollingInterval := call.pollingInterval
  callBackFunction := call.callBackFunction
  context := call.context
  isPeriodic := call.isPeriodic
  dataLength := call.dataLength
  ucBuffer := call.ucBuffer
  ucBufferMapping := mapping
  toggle := call.toggle
  nextEntry := 0

def addContext (call : InterruptCall) (answer : Option UInt64) (ed headTd : UInt32)
    (mapping : UInt64) (dev : UsbOhciHcDev) : Option UsbOhciHcDev :=
  if call.callBackFunction = 0 then some dev
  else
    match allocateEntry dev answer (call.entry ed headTd mapping) with
    | none => none
    | some (entry, dev) => some (ohciAddInterruptContextEntry dev entry)

def interruptStages (call : InterruptCall) (answers : InterruptAnswers call)
    (mapping : Mapping call.dataLength) (headEd ed : UInt32) (dev : UsbOhciHcDev) :
    InterruptOutcome :=
  let stage := transferChain (dataPidDir call.endPointAddress) call.maxPacketLength answers.tds
    dev.mem ed call.dataToggle mapping.address mapping.length
  let abandoned := { dev with mem := abandonInterrupt stage.mem headEd ed stage.head }
  if stage.status.isError then
    ⟨stage.status, stage.toggle, none, abandoned.dmaUnmap mapping.handle⟩
  else
    let output := some (ed, stage.head)
    match addContext call answers.entry ed stage.head mapping.handle
      { dev with mem := stage.mem } with
    | none =>
      -- the status is still the one of `DmaMap`
      ⟨EfiStatus.success, stage.toggle, output, abandoned.dmaUnmap mapping.handle⟩
    | some dev =>
      ⟨EfiStatus.success, stage.toggle, output,
        { dev with mem := setSkip dev.mem ed 0, periodicEnable := true }⟩

/-- `OhciInterruptTransfer` with `IsNewTransfer`. -/
def ohciInterruptTransfer (call : InterruptCall) (answers : InterruptAnswers call)
    (dev : UsbOhciHcDev) : InterruptOutcome :=
  if call.dataLength > maxBytesPerTd then
    ⟨EfiStatus.invalidParameter, call.dataToggle, none, dev⟩
  else
    match dev.dmaMap answers.mapping with
    | .error status => ⟨status.val, call.dataToggle, none, dev⟩
    | .ok (mapping, dev) =>
      let headEd := ohciFindMinInterruptEdList dev (intervalDepth call.pollingInterval 5 1)
      match interruptEd call answers.ed headEd dev.mem with
      | none => ⟨EfiStatus.outOfResources, call.dataToggle, none, dev.dmaUnmap mapping.handle⟩
      | some (ed, mem) => interruptStages call answers mapping headEd ed { dev with mem := mem }

/-- `OhciInterruptTransfer` without `IsNewTransfer`. -/
def ohciCancelInterruptTransfer (dev : UsbOhciHcDev)
    (deviceAddress endPointAddress dataToggle : UInt8) : EfiStatus × UInt8 × UsbOhciHcDev :=
  let dev := { dev with periodicEnable := false }
  let (dev, dataToggle) :=
    ohciFreeInterruptContext dev deviceAddress endPointAddress dataToggle
  let (status, dev) := ohciFreeInterruptEdByAddr dev deviceAddress (endPointAddress &&& 0xF)
  (status, dataToggle, { dev with periodicEnable := true })

/-! ### Atomicity -/

/-- The schedule, the pool and the contexts are as they were. -/
structure Restored (before after : UsbOhciHcDev) : Prop where
  pool : after.mem.live = before.mem.live
  tds : ∀ td, before.mem.live td = true → after.mem.td td = before.mem.td td
  eds : ∀ ed, before.mem.live ed = true → after.mem.ed ed = before.mem.ed ed
  slots : after.hccaInterruptTable = before.hccaInterruptTable ∧
    after.intervalList = before.intervalList
  contexts : after.interruptContextList = before.interruptContextList ∧
    after.entryLive = before.entryLive ∧
    ∀ entry, before.entryLive entry = true → after.entry entry = before.entry entry

/-- The chain of the submission is queued on its endpoint descriptor, and a context owns it
if there is a callback. -/
def InterruptOutcome.Linked (outcome : InterruptOutcome) (call : InterruptCall)
    (before : UsbOhciHcDev) : Prop :=
  ∃ ed head queue data empty,
    outcome.output = some (ed, head) ∧ data ≠ [] ∧
    TdChain outcome.dev.mem head (data ++ [empty]) ∧
    (∀ cell ∈ data ++ [empty],
      before.mem.live cell = false ∧ outcome.dev.mem.live cell = true) ∧
    Segment (nextTd outcome.dev.mem) (tdPtr (outcome.dev.mem.ed ed).tdHeadPointer)
      (queue ++ (data ++ [empty])) 0 ∧
    (outcome.dev.mem.ed ed).tdTailPointer = empty ∧
    (call.callBackFunction ≠ 0 → ∃ entries entry, Contexts outcome.dev (entries ++ [entry]) ∧
      (outcome.dev.entry entry).ed = ed ∧ (outcome.dev.entry entry).dataTd = head ∧
      (outcome.dev.entry entry).callBackFunction = call.callBackFunction)

/-- The submission succeeds and is linked, or fails and changes nothing. -/
def InterruptOutcome.Atomic (outcome : InterruptOutcome) (call : InterruptCall)
    (before : UsbOhciHcDev) : Prop :=
  (outcome.status = EfiStatus.success ∧ outcome.Linked call before) ∨
    (outcome.status.isError = true ∧ Restored before outcome.dev ∧
      outcome.dataToggle = call.dataToggle)

/-- Where the chain is attached to an endpoint descriptor that was there before, the head of its
queue is reached. -/
def InterruptOutcome.Defined (outcome : InterruptOutcome) (before : UsbOhciHcDev) : Prop :=
  ∀ ed head, outcome.output = some (ed, head) → before.mem.live ed = true →
    HeadReached before.mem ed

/-! ### What a submission needs -/

/-- The working descriptor of the endpoint on the list the submission would use. -/
def workingEd (call : InterruptCall) (dev : UsbOhciHcDev) : UInt32 :=
  ohciFindWorkingEd dev.mem call.deviceAddress (call.endPointAddress &&& 0xF)
    (edDir call.endPointAddress) walkLimit
    (ohciFindMinInterruptEdList dev (intervalDepth call.pollingInterval 5 1))

/-- There is no callback, or the pool gives a context for it. -/
def ContextGiven (call : InterruptCall) (answers : InterruptAnswers call) (dev : UsbOhciHcDev) :
    Prop :=
  call.callBackFunction = 0 ∨
    ∃ entry, answers.entry = some entry ∧ entry ≠ 0 ∧ dev.entryLive entry = false

/-- What the submission of `call` leaves undone is undone by its cleanup: with a working
descriptor, whose queue is below 2 GiB, nothing may fail any more, and with a new one the context
may not, and where the descriptors run out an even number of them was taken. -/
def InterruptAtomicWhen (call : InterruptCall) (answers : InterruptAnswers call)
    (dev : UsbOhciHcDev) : Prop :=
  call.dataLength ≤ maxBytesPerTd →
    ∀ mapping, answers.mapping = .ok mapping → dev.mapped mapping.handle = false →
      (workingEd call dev ≠ 0 →
        Enough dev.mem.live answers.tds call.maxPacketLength mapping.length ∧
          ContextGiven call answers dev ∧ HeadBelow dev.mem (workingEd call dev)) ∧
      (workingEd call dev = 0 → ∀ ed, answers.ed = some ed → Available dev.mem.live ed →
        let live := Function.update dev.mem.live ed true
        (Enough live answers.tds call.maxPacketLength mapping.length →
          ContextGiven call answers dev) ∧
        (¬ Enough live answers.tds call.maxPacketLength mapping.length →
          (granted live answers.tds).length % 2 = 0))

variable {call : InterruptCall} {dev : UsbOhciHcDev} {entries : List UInt64} {headEd ed : UInt32}
  {mem before created : Descriptors} {outcome : InterruptOutcome} {mapped : UInt64 → Bool}
  {answers : InterruptAnswers call} {mapping : Mapping call.dataLength}

theorem addContext_none (missing : ¬ ContextGiven call answers dev) (ed headTd : UInt32)
    (mapping : UInt64) (mem : Descriptors) :
    addContext call answers.entry ed headTd mapping { dev with mem := mem } = none := by
  obtain ⟨callBack, nothing⟩ := not_or.mp missing
  unfold addContext allocateEntry
  rw [if_neg callBack]
  cases answer : answers.entry with
  | none => rfl
  | some entry =>
    have unusable : entry = 0 ∨ dev.entryLive entry = true := by
      by_contra usable
      obtain ⟨nonzero, unused⟩ := not_or.mp usable
      exact nothing ⟨entry, answer, nonzero, Bool.eq_false_iff.mpr unused⟩
    simp only [if_pos unusable]

/-- A context that is given is added behind those on the list, and nothing else changes. -/
theorem addContext_some (contexts : Contexts dev entries) (given : ContextGiven call answers dev)
    (ed headTd : UInt32) (mapping : UInt64) (mem : Descriptors) :
    ∃ after, addContext call answers.entry ed headTd mapping { dev with mem := mem } = some after ∧
      after.mem = mem ∧
      (call.callBackFunction ≠ 0 → ∃ entry, Contexts after (entries ++ [entry]) ∧
        after.entry entry = call.entry ed headTd mapping) := by
  by_cases callBack : call.callBackFunction = 0
  · exact ⟨_, if_pos callBack, rfl, fun some => absurd callBack some⟩
  · obtain ⟨entry, answer, nonzero, unused⟩ := given.resolve_left callBack
    have usable : ¬ (entry = 0 ∨ dev.entryLive entry = true) := by
      rintro (zero | used)
      · exact nonzero zero
      · rw [unused] at used
        cases used
    have same : Contexts { dev with mem := mem } entries := ⟨contexts.segment, contexts.live⟩
    obtain ⟨added, contents, kept⟩ :=
      same.add (call.entry ed headTd mapping) nonzero unused rfl
    refine ⟨_, ?_, kept, fun _ => ⟨entry, added, contents⟩⟩
    unfold addContext allocateEntry
    rw [if_neg callBack, answer]
    simp only [if_neg usable]

/-! ### The stages -/

section

variable {call : InterruptCall} {answers : InterruptAnswers call}
  {mapping : Mapping call.dataLength} {ed : UInt32} {dev : UsbOhciHcDev}
  {queue : List UInt32} {entries : List UInt64}

theorem interruptStages_linked (headEd : UInt32) (queued : Queued dev.mem ed queue)
    (contexts : Contexts dev entries)
    (enough : Enough dev.mem.live answers.tds call.maxPacketLength mapping.length)
    (given : ContextGiven call answers dev) :
    let outcome := interruptStages call answers mapping headEd ed dev
    outcome.status = EfiStatus.success ∧ outcome.Linked call dev := by
  intro outcome
  rcases transferChain_spec (dataPidDir call.endPointAddress) call.maxPacketLength queued
    call.dataToggle mapping.address mapping.positive answers.tds with
    ⟨cells, starved⟩ | ⟨data, empty, complete⟩
  · exact absurd enough starved.short
  obtain ⟨first, staged, -, exhausts, -, closed⟩ := complete.staged
  set stage := transferChain (dataPidDir call.endPointAddress) call.maxPacketLength answers.tds
    dev.mem ed call.dataToggle mapping.address mapping.length with stageEq
  have fine : stage.status.isError = false := by rw [closed.status]; rfl
  obtain ⟨after, added, kept, owned⟩ :=
    addContext_some contexts given ed stage.head mapping.handle stage.mem
  have result : outcome = ⟨EfiStatus.success, stage.toggle, some (ed, stage.head),
      { after with mem := setSkip stage.mem ed 0, periodicEnable := true }⟩ := by
    simp only [outcome, interruptStages, ← stageEq, fine, Bool.false_eq_true, if_false, added,
      kept]
  rw [result]
  refine ⟨rfl, ed, stage.head, queue, data, empty, rfl, ?_, ?_, ?_, ?_, ?_, ?_⟩
  · rintro rfl
    have covered := exhausts.1
    rw [List.length_nil, Nat.zero_mul] at covered
    exact mapping.positive (UInt64.toNat_inj.mp (Nat.le_zero.mp covered))
  · exact closed.chain.congr fun _ _ => rfl
  · intro cell member
    have before := staged.live cell
    rcases List.mem_append.mp member with inData | isEmpty
    · refine ⟨(staged.fresh.2 cell inData).2.2, ?_⟩
      rw [setSkip_live, closed.live]
      by_cases same : cell = empty
      · rw [same, Function.update_self]
      · rw [Function.update_of_ne same, before]
        simp only [inData, decide_true, Bool.or_true]
    · rw [List.mem_singleton.mp isEmpty]
      have unused := closed.fresh.2.2
      rw [staged.live, Bool.or_eq_false_iff] at unused
      exact ⟨unused.1, by rw [setSkip_live, closed.live, Function.update_self]⟩
  · simp only [setSkip, Descriptors.setEd_ed_same]
    exact closed.queued
  · simp only [setSkip, Descriptors.setEd_ed_same]
    exact closed.tail
  · intro callBack
    obtain ⟨entry, listed, contents⟩ := owned callBack
    refine ⟨entries, entry, ⟨listed.segment, listed.live⟩, ?_⟩
    simp only [contents, InterruptCall.entry, and_self]

theorem abandonInterrupt_live {mem : Descriptors} {head : UInt32} {cells : List UInt32}
    (chain : TdChain mem head cells) (headEd ed : UInt32) {cell : UInt32} (member : cell ∈ cells) :
    (abandonInterrupt mem headEd ed head).live cell = false := by
  unfold abandonInterrupt
  rw [freeTdChain_chain chain]
  have freed : (mem.live cell && !decide (cell ∈ cells)) = false := by
    simp only [member, decide_true, Bool.not_true, Bool.and_false]
  split
  · rw [usbHcFreeDescriptor]
    by_cases same : cell = ed
    · rw [same, Descriptors.setLive_live_same]
    · rw [Descriptors.setLive_live_ne same]
      exact freed
  · exact freed

/-- It does not set the descriptor to work again. -/
theorem abandonInterrupt_skip {mem : Descriptors} {head : UInt32} {cells : List UInt32}
    (chain : TdChain mem head cells) (headEd ed other : UInt32) :
    ((abandonInterrupt mem headEd ed head).ed other).skip = (mem.ed other).skip := by
  unfold abandonInterrupt
  rw [freeTdChain_chain chain]
  split
  · rw [usbHcFreeDescriptor, Descriptors.setLive_ed, setNextEd]
    generalize edBefore _ ed walkLimit headEd = before
    by_cases same : other = before
    · rw [same, Descriptors.setEd_ed_same]
    · rw [Descriptors.setEd_ed_ne same]
  · rfl

/-- Where the chain is built and the context is missing, the status is a success, and the
chain that is handed out has been freed. -/
theorem interruptStages_lost (headEd : UInt32) (queued : Queued dev.mem ed queue)
    (enough : Enough dev.mem.live answers.tds call.maxPacketLength mapping.length)
    (missing : ¬ ContextGiven call answers dev) :
    let outcome := interruptStages call answers mapping headEd ed dev
    outcome.status = EfiStatus.success ∧ ∀ before, ¬ outcome.Linked call before := by
  intro outcome
  rcases transferChain_spec (dataPidDir call.endPointAddress) call.maxPacketLength queued
    call.dataToggle mapping.address mapping.positive answers.tds with
    ⟨cells, starved⟩ | ⟨data, empty, complete⟩
  · exact absurd enough starved.short
  obtain ⟨first, staged, -, exhausts, -, closed⟩ := complete.staged
  set stage := transferChain (dataPidDir call.endPointAddress) call.maxPacketLength answers.tds
    dev.mem ed call.dataToggle mapping.address mapping.length with stageEq
  have fine : stage.status.isError = false := by rw [closed.status]; rfl
  have result : outcome = ⟨EfiStatus.success, stage.toggle, some (ed, stage.head),
      { dev with mem := abandonInterrupt stage.mem headEd ed stage.head }.dmaUnmap
        mapping.handle⟩ := by
    simp only [outcome, interruptStages, ← stageEq, fine, Bool.false_eq_true, if_false,
      addContext_none missing]
  rw [result]
  refine ⟨rfl, ?_⟩
  rintro before ⟨ed', head, queue', data', empty', output, some, chain, live, -⟩
  obtain ⟨rfl, rfl⟩ : ed = ed' ∧ stage.head = head := by simpa using output
  have first : stage.head ∈ data' ++ [empty'] := by
    cases data' with
    | nil => exact absurd rfl some
    | cons cell rest => exact chain.driver.1 ▸ List.mem_cons_self
  have inChain : stage.head ∈ data ++ [empty] := by
    have whole := closed.chain.driver
    cases data with
    | nil => exact whole.1 ▸ List.mem_cons_self
    | cons cell rest => exact whole.1 ▸ List.mem_cons_self
  have freed := abandonInterrupt_live closed.chain headEd ed inChain
  have kept : (abandonInterrupt stage.mem headEd ed stage.head).live stage.head = true :=
    (live stage.head first).2
  rw [freed] at kept
  cases kept

/-- Where the descriptors run out, all that were taken have flipped the toggle, and only the
cleanup has touched anything else. -/
theorem interruptStages_starved (headEd : UInt32) (queued : Queued dev.mem ed queue)
    (short : ¬ Enough dev.mem.live answers.tds call.maxPacketLength mapping.length) :
    let outcome := interruptStages call answers mapping headEd ed dev
    outcome.status.isError = true ∧
      outcome.dataToggle = flips call.dataToggle (granted dev.mem.live answers.tds).length ∧
      ∃ mem head cells, TdChain mem head cells ∧
        (∀ cell ∈ cells, Available dev.mem.live cell) ∧
        (∀ pointer, mem.live pointer = (dev.mem.live pointer || decide (pointer ∈ cells))) ∧
        mem.ed = dev.mem.ed ∧ (∀ pointer, pointer ∉ cells → mem.td pointer = dev.mem.td pointer) ∧
        outcome.dev =
          { dev with mem := abandonInterrupt mem headEd ed head }.dmaUnmap mapping.handle := by
  intro outcome
  rcases transferChain_spec (dataPidDir call.endPointAddress) call.maxPacketLength queued
    call.dataToggle mapping.address mapping.positive answers.tds with
    ⟨cells, starved⟩ | ⟨data, empty, complete⟩
  swap
  · exact absurd complete.enough short
  obtain ⟨first, staged, memEq, headEq, toggle⟩ := starved.staged
  set stage := transferChain (dataPidDir call.endPointAddress) call.maxPacketLength answers.tds
    dev.mem ed call.dataToggle mapping.address mapping.length with stageEq
  have failed : stage.status.isError = true := by rw [starved.status]; rfl
  have result : outcome = ⟨stage.status, stage.toggle, none,
      { dev with mem := abandonInterrupt stage.mem headEd ed stage.head }.dmaUnmap
        mapping.handle⟩ := by
    simp only [outcome, interruptStages, ← stageEq, failed, if_true]
  rw [result]
  refine ⟨failed, ?_, stage.mem, stage.head, cells, ?_, staged.fresh.2, ?_, ?_, ?_, rfl⟩
  · rw [toggle, staged.toggle, starved.all]
  · rw [memEq, headEq]
    simpa using staged.chain
  · rw [memEq]
    exact staged.live
  · rw [memEq, staged.ed]
  · rw [memEq]
    exact fun pointer outside => staged.others pointer List.not_mem_nil outside

end

/-! ### The ED stage -/

/-- A working descriptor is skipped from now on. -/
theorem interruptEd_working
    (found : ohciFindWorkingEd mem call.deviceAddress (call.endPointAddress &&& 0xF)
      (edDir call.endPointAddress) walkLimit headEd ≠ 0) (answer : Option UInt32) :
    let ed := ohciFindWorkingEd mem call.deviceAddress (call.endPointAddress &&& 0xF)
      (edDir call.endPointAddress) walkLimit headEd
    interruptEd call answer headEd mem = some (ed, setSkip mem ed 1) := by
  intro ed
  simp only [interruptEd]
  rw [if_pos found]

/-- An endpoint descriptor that was just created, and is not on any list. -/
structure CreatedEd (before : Descriptors) (ed : UInt32) (after : Descriptors) : Prop where
  live : after.live = Function.update before.live ed true
  td : after.td = before.td
  others : ∀ other, other ≠ ed → after.ed other = before.ed other
  unlinked : nextEd after ed = 0
  queue : (after.ed ed).tdHeadPointer = 0

/-- Without one a new descriptor is created and attached, if the pool has one. -/
theorem interruptEd_created
    (none : ohciFindWorkingEd mem call.deviceAddress (call.endPointAddress &&& 0xF)
      (edDir call.endPointAddress) walkLimit headEd = 0) (answer : Option UInt32) :
    (interruptEd call answer headEd mem = .none ∧
      ∀ ed, answer = some ed → ¬ Available mem.live ed) ∨
    ∃ ed created, answer = some ed ∧ Available mem.live ed ∧ CreatedEd mem ed created ∧
      interruptEd call answer headEd mem = some (ed, ohciAttachEd created headEd ed) := by
  have fresh : ¬ ohciFindWorkingEd mem call.deviceAddress (call.endPointAddress &&& 0xF)
      (edDir call.endPointAddress) walkLimit headEd ≠ 0 := not_not.mpr none
  simp only [interruptEd]
  rw [if_neg fresh]
  cases answer with
  | none => exact Or.inl ⟨rfl, by simp⟩
  | some ed =>
    by_cases available : Available mem.live ed
    · let created := ((mem.setEd ed { EdDescriptor.empty with skip := 1 }).setLive ed true).setEd
        ed (endpoint call.deviceAddress (call.endPointAddress &&& 0xF) call.isSlowDevice
          call.maxPacketLength)
      refine Or.inr ⟨ed, created, rfl, available, ⟨rfl, rfl, fun other differs => ?_, ?_, ?_⟩, ?_⟩
      · simp only [created, Descriptors.setEd_ed_ne differs, Descriptors.setLive_ed]
      · simp only [nextEd, created, Descriptors.setEd_ed_same, endpoint]
      · simp only [created, Descriptors.setEd_ed_same, endpoint]
      · simp only [ohciCreateEd, if_pos available, created]
    · refine Or.inl ⟨by simp only [ohciCreateEd, if_neg available], fun ed' same => ?_⟩
      rwa [← Option.some.inj same]

theorem CreatedEd.queued (create : CreatedEd before ed created) (nonzero : headEd ≠ 0)
    (apart : ed ≠ headEd) :
    Queued (ohciAttachEd created headEd ed) ed [] := by
  refine Queued.empty ?_
  rw [ohciAttachEd_ed nonzero apart create.unlinked, Function.update_self]
  exact create.queue

theorem edBefore_first (next : nextEd mem headEd = ed) :
    edBefore mem ed walkLimit headEd = headEd := by
  show edBefore mem ed (4294967295 + 1) headEd = headEd
  rw [edBefore, if_pos next]

/-- The cleanup of a submission with a new descriptor restores memory. -/
theorem abandonInterrupt_restores {head : UInt32} {cells : List UInt32}
    (create : CreatedEd before ed created) (available : Available before.live ed)
    (nonzero : headEd ≠ 0) (apart : ed ≠ headEd) (chain : TdChain mem head cells)
    (fresh : ∀ cell ∈ cells, Available (Function.update before.live ed true) cell)
    (live : ∀ pointer, mem.live pointer =
      (Function.update before.live ed true pointer || decide (pointer ∈ cells)))
    (eds : mem.ed = (ohciAttachEd created headEd ed).ed)
    (tds : ∀ pointer, pointer ∉ cells → mem.td pointer = before.td pointer) :
    let after := abandonInterrupt mem headEd ed head
    after.live = before.live ∧
      (∀ td, before.live td = true → after.td td = before.td td) ∧
      ∀ other, before.live other = true → after.ed other = before.ed other := by
  intro after
  have attached := nextEd_attached nonzero apart create.unlinked
  have next : nextEd mem headEd = ed := by
    rw [nextEd, eds]
    exact attached.1
  have behind : nextEd mem ed = nextEd (ohciAttachEd created headEd ed) ed := by
    rw [nextEd, eds, nextEd]
  have result : after = usbHcFreeDescriptor (setNextEd (freeTdChain walkLimit mem head) headEd
      (nextEd mem ed)) ed := by
    have freed := freeTdChain_chain chain
    have sameNext : nextEd (freeTdChain walkLimit mem head) = nextEd mem := by
      rw [freed]
      rfl
    simp only [after, abandonInterrupt]
    rw [if_pos ⟨apart.symm, nonzero, available.1⟩,
      edBefore_first (by rw [sameNext]; exact next), sameNext]
  rw [result, freeTdChain_chain chain]
  refine ⟨?_, ?_, ?_⟩
  · funext pointer
    rw [usbHcFreeDescriptor]
    by_cases isEd : pointer = ed
    · rw [isEd, Descriptors.setLive_live_same]
      exact available.2.2.symm
    · rw [Descriptors.setLive_live_ne isEd, setNextEd_live]
      simp only [live, Function.update_of_ne isEd]
      by_cases inChain : pointer ∈ cells
      · have unused := (fresh pointer inChain).2.2
        rw [Function.update_of_ne isEd] at unused
        simp only [inChain, decide_true, Bool.not_true, Bool.and_false, unused]
      · simp only [inChain, decide_false, Bool.or_false, Bool.not_false, Bool.and_true]
  · intro td used
    refine tds td fun inChain => ?_
    have unused := (fresh td inChain).2.2
    by_cases isEd : td = ed
    · rw [isEd, available.2.2] at used
      cases used
    · rw [Function.update_of_ne isEd, used] at unused
      cases unused
  · intro other used
    have differs : other ≠ ed := by
      rintro rfl
      rw [available.2.2] at used
      cases used
    have back := detach_attach nonzero apart create.unlinked differs
    rw [create.others other differs, ← behind] at back
    rw [usbHcFreeDescriptor, Descriptors.setLive_ed, ← back]
    simp only [setNextEd, Descriptors.setEd, eds]

/-! ### At which failures a submission is atomic -/

theorem InterruptOutcome.Linked.mono {before before' : UsbOhciHcDev}
    (linked : outcome.Linked call before)
    (fewer : ∀ cell, before.mem.live cell = false → before'.mem.live cell = false) :
    outcome.Linked call before' := by
  obtain ⟨ed, head, queue, data, empty, output, some, chain, live, rest⟩ := linked
  exact ⟨ed, head, queue, data, empty, output, some, chain,
    fun cell member => ⟨fewer cell (live cell member).1, (live cell member).2⟩, rest⟩

theorem not_atomic_of_lost {before : UsbOhciHcDev} (success : outcome.status = EfiStatus.success)
    (lost : ¬ outcome.Linked call before) : ¬ outcome.Atomic call before := by
  rintro (⟨-, linked⟩ | ⟨error, -⟩)
  · exact lost linked
  · rw [success] at error
    cases error

/-- What the stages put out is the endpoint descriptor they were given. -/
theorem interruptStages_output {head other : UInt32}
    (output : (interruptStages call answers mapping headEd ed dev).output = some (other, head)) :
    other = ed := by
  unfold interruptStages at output
  simp only at output
  split at output
  · cases output
  · split at output <;> cases output <;> rfl

/-- With a working descriptor every failure behind the ED stage leaves it skipped. -/
theorem interruptStages_working {queue : List UInt32} (queued : Queued dev.mem ed queue)
    (contexts : Contexts dev entries) (used : dev.mem.live ed = true)
    (active : (dev.mem.ed ed).skip = 0) :
    let outcome := interruptStages call answers mapping headEd ed
      { dev with mem := setSkip dev.mem ed 1, mapped := mapped }
    outcome.Atomic call dev ∧ outcome.Defined dev ↔
      Enough dev.mem.live answers.tds call.maxPacketLength mapping.length ∧
        ContextGiven call answers dev ∧ HeadBelow dev.mem ed := by
  intro outcome
  set skipped : UsbOhciHcDev := { dev with mem := setSkip dev.mem ed 1, mapped := mapped }
  have queued' : Queued skipped.mem ed queue :=
    queued.congr (by simp only [skipped, setSkip, Descriptors.setEd_ed_same]) (fun _ _ => rfl)
      queued.live
  have contexts' : Contexts skipped entries := ⟨contexts.segment, contexts.live⟩
  by_cases enough : Enough dev.mem.live answers.tds call.maxPacketLength mapping.length
  · by_cases given : ContextGiven call answers dev
    · obtain ⟨success, linked⟩ := interruptStages_linked headEd queued' contexts'
        enough given
      refine ⟨fun both => ⟨enough, given, ?_⟩, fun all =>
        ⟨Or.inl ⟨success, linked.mono fun _ free => free⟩, fun other head output _ => ?_⟩⟩
      · obtain ⟨other, head, -, -, -, output, -⟩ := linked
        obtain rfl := interruptStages_output output
        exact tdPtr64_eq_iff.mp (both.2 other head output used)
      · obtain rfl := interruptStages_output output
        exact tdPtr64_eq_iff.mpr all.2.2
    · obtain ⟨success, lost⟩ := interruptStages_lost headEd queued' enough
        (show ¬ ContextGiven call answers skipped from given)
      exact ⟨fun both => absurd both.1 (not_atomic_of_lost success (lost dev)),
        fun all => absurd all.2.1 given⟩
  · obtain ⟨error, -, mem, head, cells, chain, -, -, eds, -, result⟩ :=
      interruptStages_starved headEd queued' enough
    refine ⟨fun both => ?_, fun all => absurd all.1 enough⟩
    rcases both.1 with ⟨success, -⟩ | ⟨-, restored, -⟩
    · rw [success] at error
      cases error
    · have skip := congrArg EdDescriptor.skip (restored.eds ed used)
      rw [result] at skip
      have kept := abandonInterrupt_skip chain headEd ed ed
      rw [eds] at kept
      simp only [UsbOhciHcDev.dmaUnmap, kept, skipped, setSkip, Descriptors.setEd_ed_same,
        active] at skip
      exact absurd skip (by decide)

/-- With a new descriptor only a missing context, and an odd number of descriptors, are. -/
theorem interruptStages_created (create : CreatedEd dev.mem ed created)
    (available : Available dev.mem.live ed) (nonzero : headEd ≠ 0) (apart : ed ≠ headEd)
    (contexts : Contexts dev entries) :
    (interruptStages call answers mapping headEd ed
        { dev with mem := ohciAttachEd created headEd ed, mapped := mapped }).Atomic call dev ↔
      (Enough (Function.update dev.mem.live ed true) answers.tds call.maxPacketLength
          mapping.length → ContextGiven call answers dev) ∧
      (¬ Enough (Function.update dev.mem.live ed true) answers.tds call.maxPacketLength
          mapping.length →
        (granted (Function.update dev.mem.live ed true) answers.tds).length % 2 = 0) := by
  set attached : UsbOhciHcDev :=
    { dev with mem := ohciAttachEd created headEd ed, mapped := mapped }
  have queued : Queued attached.mem ed [] := create.queued nonzero apart
  have contexts' : Contexts attached entries := ⟨contexts.segment, contexts.live⟩
  have live : attached.mem.live = Function.update dev.mem.live ed true := by
    simp only [attached, ohciAttachEd_live, create.live]
  have tds : attached.mem.td = dev.mem.td := by
    simp only [attached, ohciAttachEd_td, create.td]
  rw [← live]
  by_cases enough : Enough attached.mem.live answers.tds call.maxPacketLength mapping.length
  · by_cases given : ContextGiven call answers dev
    · obtain ⟨success, linked⟩ := interruptStages_linked headEd queued contexts' enough given
      refine ⟨fun _ => ⟨fun _ => given, fun short => absurd enough short⟩, fun _ =>
        Or.inl ⟨success, linked.mono fun cell unused => ?_⟩⟩
      rw [live] at unused
      by_cases isEd : cell = ed
      · rw [isEd]
        exact available.2.2
      · rwa [Function.update_of_ne isEd] at unused
    · obtain ⟨success, lost⟩ := interruptStages_lost headEd queued enough
        (show ¬ ContextGiven call answers attached from given)
      exact ⟨fun atomic => absurd atomic (not_atomic_of_lost success (lost dev)),
        fun both => absurd (both.1 enough) given⟩
  · obtain ⟨error, toggle, mem, head, cells, chain, fresh, lives, eds, others, result⟩ :=
      interruptStages_starved headEd queued enough
    have parity : (interruptStages call answers mapping headEd ed attached).dataToggle =
        call.dataToggle ↔ (granted attached.mem.live answers.tds).length % 2 = 0 := by
      rw [toggle]
      show _ = flips call.dataToggle 0 ↔
        ((granted attached.mem.live answers.tds).length + 0) % 2 = 0
      exact flips_inj
    rw [live] at fresh lives
    have restored := abandonInterrupt_restores create available nonzero apart chain fresh lives eds
      fun pointer outside => by rw [others pointer outside, tds]
    constructor
    · rintro (⟨success, -⟩ | ⟨-, -, same⟩)
      · rw [success] at error
        cases error
      · exact ⟨fun enough' => absurd enough' enough, fun _ => parity.mp same⟩
    · intro both
      refine Or.inr ⟨error, ?_, parity.mpr (both.2 enough)⟩
      rw [result]
      exact ⟨restored.1, restored.2.1, restored.2.2, ⟨rfl, rfl⟩, rfl, rfl, fun _ _ => rfl⟩

theorem Restored.refl (dev : UsbOhciHcDev) : Restored dev dev :=
  ⟨rfl, fun _ _ => rfl, fun _ _ => rfl, ⟨rfl, rfl⟩, rfl, rfl, fun _ _ => rfl⟩

/-- The ways a submission goes: it stops before the data stage and changes nothing, or goes
on with a working descriptor, or with a new one. -/
inductive Route (call : InterruptCall) (answers : InterruptAnswers call) (dev : UsbOhciHcDev) :
    InterruptOutcome → Prop
  | stopped (outcome : InterruptOutcome) (error : outcome.status.isError = true)
      (output : outcome.output = none)
      (toggle : outcome.dataToggle = call.dataToggle) (restored : Restored dev outcome.dev)
      (missing : call.dataLength ≤ maxBytesPerTd → ∀ mapping, answers.mapping = .ok mapping →
        dev.mapped mapping.handle = false → workingEd call dev = 0 ∧
          ∀ ed, answers.ed = some ed → ¬ Available dev.mem.live ed) :
      Route call answers dev outcome
  | working (mapping : Mapping call.dataLength) (headEd : UInt32) (queue : List UInt32)
      (mapped : UInt64 → Bool) (small : call.dataLength ≤ maxBytesPerTd)
      (answer : answers.mapping = .ok mapping) (free : dev.mapped mapping.handle = false)
      (works : workingEd call dev ≠ 0) (used : dev.mem.live (workingEd call dev) = true)
      (active : (dev.mem.ed (workingEd call dev)).skip = 0)
      (queued : Queued dev.mem (workingEd call dev) queue) :
      Route call answers dev (interruptStages call answers mapping headEd (workingEd call dev)
        { dev with mem := setSkip dev.mem (workingEd call dev) 1, mapped := mapped })
  | created (mapping : Mapping call.dataLength) (headEd ed : UInt32) (create : Descriptors)
      (mapped : UInt64 → Bool) (small : call.dataLength ≤ maxBytesPerTd)
      (answer : answers.mapping = .ok mapping) (free : dev.mapped mapping.handle = false)
      (works : workingEd call dev = 0) (edEq : answers.ed = some ed)
      (available : Available dev.mem.live ed) (fresh : CreatedEd dev.mem ed create)
      (nonzero : headEd ≠ 0) (apart : ed ≠ headEd) :
      Route call answers dev (interruptStages call answers mapping headEd ed
        { dev with mem := ohciAttachEd create headEd ed, mapped := mapped })

theorem interruptTransfer_route (call : InterruptCall) (answers : InterruptAnswers call)
    (scheduled : Scheduled dev) :
    Route call answers dev (ohciInterruptTransfer call answers dev) := by
  by_cases large : call.dataLength > maxBytesPerTd
  · have result : ohciInterruptTransfer call answers dev =
        ⟨EfiStatus.invalidParameter, call.dataToggle, none, dev⟩ := if_pos large
    rw [result]
    exact .stopped _ rfl rfl rfl (Restored.refl dev)
      fun small => absurd large (UInt64.not_lt.mpr small)
  have small : call.dataLength ≤ maxBytesPerTd := UInt64.not_lt.mp large
  cases answer : answers.mapping with
  | error status =>
    have result : ohciInterruptTransfer call answers dev =
        ⟨status.val, call.dataToggle, none, dev⟩ := by
      simp only [ohciInterruptTransfer, large, if_false, UsbOhciHcDev.dmaMap, answer]
    rw [result]
    refine .stopped _ status.property rfl rfl (Restored.refl dev) fun _ mapping same => ?_
    rw [answer] at same
    cases same
  | ok mapping =>
    by_cases used : dev.mapped mapping.handle = true
    · have result : ohciInterruptTransfer call answers dev =
          ⟨EfiStatus.outOfResources, call.dataToggle, none, dev⟩ := by
        simp only [ohciInterruptTransfer, large, if_false, UsbOhciHcDev.dmaMap, answer, used,
          if_true]
      rw [result]
      refine .stopped _ EfiStatus.isError_outOfResources rfl rfl (Restored.refl dev)
        fun _ mapping' same free => ?_
      rw [answer] at same
      cases same
      rw [used] at free
      cases free
    have free : dev.mapped mapping.handle = false := Bool.eq_false_iff.mpr used
    obtain ⟨index, inside, headEq⟩ :=
      scheduled.findMin (intervalDepth_le call.pollingInterval 5 1)
    obtain ⟨eds, nonempty, list, -, members⟩ :=
      scheduled.lists _ (intervalDepth_le call.pollingInterval 5 1) index inside
    rw [← headEq] at list
    set headEd := ohciFindMinInterruptEdList dev (intervalDepth call.pollingInterval 5 1)
      with headEdEq
    let mapped := Function.update dev.mapped mapping.handle true
    have opened : ohciInterruptTransfer call answers dev =
        match interruptEd call answers.ed headEd dev.mem with
        | none => ⟨EfiStatus.outOfResources, call.dataToggle, none,
            ({ dev with mapped := mapped }).dmaUnmap mapping.handle⟩
        | some (ed, mem) => interruptStages call answers mapping headEd ed
            { dev with mem := mem, mapped := mapped } := by
      simp only [ohciInterruptTransfer, large, if_false, UsbOhciHcDev.dmaMap, answer, free,
        Bool.false_eq_true]
      rfl
    rw [opened]
    by_cases works : workingEd call dev = 0
    · have head : headEd ≠ 0 ∧ dev.mem.live headEd = true := by
        cases eds with
        | nil => exact absurd rfl nonempty
        | cons ed rest => exact list.1 ▸ ⟨list.2.1, (members ed List.mem_cons_self).1⟩
      rcases interruptEd_created works answers.ed with ⟨none, unavailable⟩ |
        ⟨ed, create, edEq, available, fresh, some⟩
      · rw [none]
        exact .stopped _ EfiStatus.isError_outOfResources rfl rfl ⟨rfl, fun _ _ => rfl,
          fun _ _ => rfl, ⟨rfl, rfl⟩, rfl, rfl, fun _ _ => rfl⟩ fun _ _ _ _ => ⟨works, unavailable⟩
      · have apart : ed ≠ headEd := by
          intro same
          rw [same, Available, head.2] at available
          cases available.2.2
        rw [some]
        exact .created mapping headEd ed create mapped small answer free works edEq available
          fresh head.1 apart
    · obtain ⟨member, working⟩ := ohciFindWorkingEd_spec list call.deviceAddress
        (call.endPointAddress &&& 0xF) (edDir call.endPointAddress) walkLimit works
      obtain ⟨edUsed, queue, queued⟩ := members _ member
      have active : (dev.mem.ed (workingEd call dev)).skip = 0 := by
        simp only [EdDescriptor.working, Bool.and_eq_true, decide_eq_true_eq] at working
        exact working.1.1.1.2
      rw [interruptEd_working works]
      exact .working mapping headEd queue mapped small answer free works edUsed active queued

/-- A submission is atomic, and follows no pointer to no descriptor, exactly under that
condition. -/
theorem interruptTransfer_atomic_iff (call : InterruptCall) (answers : InterruptAnswers call)
    {dev : UsbOhciHcDev} {entries : List UInt64} (scheduled : Scheduled dev)
    (contexts : Contexts dev entries) :
    (ohciInterruptTransfer call answers dev).Atomic call dev ∧
        (ohciInterruptTransfer call answers dev).Defined dev ↔
      InterruptAtomicWhen call answers dev := by
  unfold InterruptAtomicWhen
  have route := interruptTransfer_route call answers scheduled
  generalize ohciInterruptTransfer call answers dev = outcome at route
  cases route with
  | stopped _ error output toggle restored missing =>
    refine ⟨fun _ small mapping answer free => ?_, fun _ => ⟨Or.inr ⟨error, restored, toggle⟩,
      fun ed head same => absurd (output.symm.trans same) nofun⟩⟩
    obtain ⟨none, unavailable⟩ := missing small mapping answer free
    exact ⟨fun works => absurd none works,
      fun _ ed edEq available => absurd available (unavailable ed edEq)⟩
  | working mapping headEd queue mapped small answer free works used active queued =>
    refine (interruptStages_working queued contexts used active).trans ?_
    constructor
    · intro both _ mapping' answer' _
      rw [answer] at answer'
      cases answer'
      exact ⟨fun _ => both, fun none => absurd none works⟩
    · intro holds
      exact (holds small mapping answer free).1 works
  | created mapping headEd ed create mapped small answer free works edEq available fresh nonzero
      apart =>
    have defined : (interruptStages call answers mapping headEd ed { dev with
        mem := ohciAttachEd create headEd ed, mapped := mapped }).Defined dev := by
      intro other head output used
      rw [interruptStages_output output, available.2.2] at used
      cases used
    rw [and_iff_left defined, interruptStages_created fresh available nonzero apart contexts]
    constructor
    · intro both _ mapping' answer' _
      rw [answer] at answer'
      cases answer'
      refine ⟨fun some => absurd works some, fun _ ed' edEq' _ => ?_⟩
      rw [edEq] at edEq'
      cases edEq'
      exact both
    · intro holds
      exact (holds small mapping answer free).2 works ed edEq available

/-! ### A context that is missing -/

/-- A controller whose interrupt lists all start, and end, at one descriptor. -/
def UsbOhciHcDev.oneList : UsbOhciHcDev :=
  { UsbOhciHcDev.idle with
    mem := { Descriptors.unused with live := fun pointer => pointer = 64 }
    intervalList := fun _ _ => 64 }

theorem oneList_scheduled : Scheduled .oneList where
  lists := fun _ _ _ _ => ⟨[64], by decide, ⟨rfl, by decide, rfl⟩, by decide, fun ed member => by
    rw [List.mem_singleton.mp member]
    exact ⟨rfl, [], Queued.empty rfl⟩⟩

theorem oneList_contexts : Contexts .oneList [] :=
  ⟨rfl, by simp⟩

/-- Eight bytes from an interrupt endpoint, with a callback. -/
def keyboard : InterruptCall := ⟨1, 0x81, true, 8, 0, 0x1000, 10, 0x200000, 8, 0x3000, 0, true⟩

def keyboardMapping : Mapping keyboard.dataLength := .eightBytes

/-- The world gives everything, but for the context perhaps. -/
def keyboardAnswers (entry : Option UInt64) : InterruptAnswers keyboard :=
  ⟨.ok keyboardMapping, some 128, [some 192, some 256], entry⟩

theorem interruptTransfer_atomic_iff_keyboard :
    (ohciInterruptTransfer keyboard (keyboardAnswers (some 1)) .oneList).Atomic keyboard .oneList ∧
        (ohciInterruptTransfer keyboard (keyboardAnswers (some 1)) .oneList).Defined .oneList ↔
      InterruptAtomicWhen keyboard (keyboardAnswers (some 1)) .oneList :=
  interruptTransfer_atomic_iff keyboard (keyboardAnswers (some 1)) oneList_scheduled
    oneList_contexts

/-- Without a context the status is a success, and what was handed out has been freed. -/
theorem missing_context_succeeds :
    Scheduled .oneList ∧ Contexts .oneList [] ∧
      ¬ (ohciInterruptTransfer keyboard (keyboardAnswers none) .oneList).Atomic keyboard
        .oneList := by
  refine ⟨oneList_scheduled, oneList_contexts, not_atomic_of_lost rfl ?_⟩
  rintro ⟨ed, head, queue, data, empty, output, some, chain, live, -⟩
  have headTd : (ohciInterruptTransfer keyboard (keyboardAnswers none) .oneList).output =
    .some (128, 192) := rfl
  have freed : (ohciInterruptTransfer keyboard (keyboardAnswers none) .oneList).dev.mem.live 192 =
    false := rfl
  rw [headTd] at output
  cases output
  have first : (192 : UInt32) ∈ data ++ [empty] := by
    cases data with
    | nil => exact absurd rfl some
    | cons cell rest => exact chain.driver.1 ▸ List.mem_cons_self
  rw [(live 192 first).2] at freed
  cases freed

end MuRockchip.Ohci
