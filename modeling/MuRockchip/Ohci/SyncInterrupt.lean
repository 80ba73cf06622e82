/-
Synchronous interrupt transfers (`Ohci.c`, `OhciSyncInterruptTransfer`).

The transfer submits like an asynchronous one, without a callback, polls its chain, and then
cancels: the contexts and the endpoint descriptors of the endpoint are freed, and the status
of that is the status of the transfer. The bytes of the buffer are not modelled.

* `transfers_truthful_iff`: when bulk and synchronous interrupt transfers tell their caller
  what has happened.
-/
import MuRockchip.Ohci.BulkTransfer
import MuRockchip.Ohci.InterruptTransfer

namespace MuRockchip.Ohci

open MuRockchip.Base

/-! ### The transfer -/

/-- The arguments of `OhciSyncInterruptTransfer`. `toggle` is the address of the caller's data
toggle, and `dataToggle` what it holds. -/
structure SyncCall where
  deviceAddress : UInt8
  endPointAddress : UInt8
  isSlowDevice : Bool
  maxPacketLength : UInt8
  data : UInt64
  dataLength : UInt64
  dataToggle : UInt8
  toggle : UInt64
  timeOut : UInt64
  deriving DecidableEq, Repr

def SyncCall.submission (call : SyncCall) (ucBuffer : UInt64) : InterruptCall where
  deviceAddress := call.deviceAddress
  endPointAddress := call.endPointAddress
  isSlowDevice := call.isSlowDevice
  maxPacketLength := call.maxPacketLength
  dataToggle := call.dataToggle
  toggle := call.toggle
  pollingInterval := 1
  ucBuffer := ucBuffer
  dataLength := call.dataLength
  callBackFunction := 0
  context := 0
  isPeriodic := false

/-- What the call asks of the world. -/
structure SyncAnswers (call : SyncCall) where
  ucBuffer : Option UInt64
  mapping : Except ErrorStatus (Mapping call.dataLength)
  ed : Option UInt32
  tds : List (Option UInt32)
  polls : Nat → Poll

/-- What its submission asks: no context, for there is no callback. -/
def SyncAnswers.submission {call : SyncCall} (answers : SyncAnswers call) (ucBuffer : UInt64) :
    InterruptAnswers (call.submission ucBuffer) :=
  ⟨answers.mapping, answers.ed, answers.tds, none⟩

/-- `OhciSyncInterruptTransfer`, once there is a buffer. -/
def syncStages (call : SyncCall) (answers : SyncAnswers call) (ucBuffer : UInt64)
    (dev : UsbOhciHcDev) : TransferOutcome :=
  let submission :=
    ohciInterruptTransfer (call.submission ucBuffer) (answers.submission ucBuffer) dev
  if submission.status.isError then
    let (status, dataToggle, dev) := ohciCancelInterruptTransfer submission.dev
      call.deviceAddress call.endPointAddress submission.dataToggle
    ⟨status, call.dataLength, dataToggle, none, .unsubmitted, dev⟩
  else
    let (ed, headTd) := submission.output.getD (0, 0)
    let mem := submission.dev.mem
    -- `EdResult.NextToggle` is neither set nor read
    let waited := waitForDone
      (fun index => checkIfDone .interruptList mem ed headTd (answers.polls index))
      call.timeOut.toNat 0 ⟨tdTobeProcessed, 0⟩
    let settled := { submission.dev with
      mem := (answers.polls (waited.last + 1)).observe mem }
    let (status, dataToggle, dev) := ohciCancelInterruptTransfer settled call.deviceAddress
      call.endPointAddress submission.dataToggle
    { status := status
      dataLength := call.dataLength
      dataToggle := dataToggle
      transferResult := some (convertErrorCode waited.edResult.errorCode)
      fate := .submitted ⟨ed, headTd, mem, waited⟩
      dev := dev }

def ohciSyncInterruptTransfer (call : SyncCall) (answers : SyncAnswers call)
    (dev : UsbOhciHcDev) : TransferOutcome :=
  if ¬ SyncInterruptAccepts call.endPointAddress call.isSlowDevice call.maxPacketLength call.data
      call.dataLength call.dataToggle then
    ⟨EfiStatus.invalidParameter, call.dataLength, call.dataToggle, none, .refused, dev⟩
  else
    match dev.allocatePool answers.ucBuffer with
    | none =>
      ⟨EfiStatus.outOfResources, call.dataLength, call.dataToggle, none, .unsubmitted, dev⟩
    | some (ucBuffer, dev) => syncStages call answers ucBuffer dev

/-! ### Submissions without a callback -/

variable {dev : UsbOhciHcDev}

/-- Without a callback the chain is submitted if the descriptors are enough. -/
theorem interruptStages_plain {call : InterruptCall} (answers : InterruptAnswers call)
    (mapping : Mapping call.dataLength) {ed : UInt32} {queue : List UInt32} (headEd : UInt32)
    (queued : Queued dev.mem ed queue) (plain : call.callBackFunction = 0) :
    let outcome := interruptStages call answers mapping headEd ed dev
    (¬ Enough dev.mem.live answers.tds call.maxPacketLength mapping.length ∧
      outcome.status.isError = true) ∨
    (Enough dev.mem.live answers.tds call.maxPacketLength mapping.length ∧
      outcome.status = EfiStatus.success ∧
      ∃ head data empty, outcome.output = some (ed, head) ∧
        TdChain outcome.dev.mem head (data ++ [empty]) ∧
        Exhausts call.maxPacketLength mapping.length data.length ∧
        data = (granted dev.mem.live answers.tds).take data.length ∧
        ∀ cell ∈ data, (outcome.dev.mem.td cell).conditionCode = tdTobeProcessed) := by
  intro outcome
  rcases transferChain_spec (dataPidDir call.endPointAddress) call.maxPacketLength queued
    call.dataToggle mapping.address mapping.positive answers.tds with
    ⟨cells, starved⟩ | ⟨data, empty, complete⟩
  · exact Or.inl ⟨starved.short, (interruptStages_starved headEd queued starved.short).1⟩
  obtain ⟨first, staged, -, exhausts, supply, closed⟩ := complete.staged
  set stage := transferChain (dataPidDir call.endPointAddress) call.maxPacketLength answers.tds
    dev.mem ed call.dataToggle mapping.address mapping.length with stageEq
  have fine : stage.status.isError = false := by rw [closed.status]; rfl
  have result : outcome = ⟨EfiStatus.success, stage.toggle, some (ed, stage.head),
      { dev with mem := setSkip stage.mem ed 0, periodicEnable := true }⟩ := by
    simp only [outcome, interruptStages, ← stageEq, fine, Bool.false_eq_true, if_false, addContext,
      plain, if_true]
  rw [result]
  refine Or.inr ⟨complete.enough, rfl, stage.head, data, empty, rfl,
    closed.chain.congr fun _ _ => rfl, exhausts, ?_, ?_⟩
  · rw [supply, granted_supply staged.fresh, List.take_left]
  · exact armed_of_packets (packets_congr closed.contents staged.packets)

/-- The descriptors in use when the data stage of a submission starts, and its mapping. -/
def interruptMeans (call : InterruptCall) (answers : InterruptAnswers call)
    (dev : UsbOhciHcDev) : Option ((UInt32 → Bool) × Mapping call.dataLength) :=
  match answers.mapping with
  | .error _ => none
  | .ok mapping =>
    if maxBytesPerTd < call.dataLength ∨ dev.mapped mapping.handle = true then none
    else if workingEd call dev ≠ 0 then some (dev.mem.live, mapping)
    else
      match answers.ed with
      | none => none
      | some ed =>
        if Available dev.mem.live ed then some (Function.update dev.mem.live ed true, mapping)
        else none

/-- A submission without a callback succeeds exactly if it has the means and the descriptors. -/
theorem interruptTransfer_plain (call : InterruptCall) (answers : InterruptAnswers call)
    (scheduled : Scheduled dev) (plain : call.callBackFunction = 0) :
    let outcome := ohciInterruptTransfer call answers dev
    (outcome.status.isError = true ∧ ∀ live mapping, interruptMeans call answers dev =
      some (live, mapping) → ¬ Enough live answers.tds call.maxPacketLength mapping.length) ∨
    ∃ live mapping ed head data empty,
      interruptMeans call answers dev = some (live, mapping) ∧
      Enough live answers.tds call.maxPacketLength mapping.length ∧
      outcome.status = EfiStatus.success ∧ outcome.output = some (ed, head) ∧
      TdChain outcome.dev.mem head (data ++ [empty]) ∧
      Exhausts call.maxPacketLength mapping.length data.length ∧
      data = (granted live answers.tds).take data.length ∧
      (∀ cell ∈ data, (outcome.dev.mem.td cell).conditionCode = tdTobeProcessed) ∧
      (dev.mem.live ed = true ∧ ed = workingEd call dev ∧ workingEd call dev ≠ 0 ∨
        dev.mem.live ed = false ∧ workingEd call dev = 0) := by
  intro outcome
  have route := interruptTransfer_route call answers scheduled
  change Route call answers dev outcome at route
  generalize outcome = result at route
  cases route with
  | stopped _ error _ _ _ missing =>
    refine Or.inl ⟨error, fun live mapping means => ?_⟩
    unfold interruptMeans at means
    split at means
    · cases means
    · next mapping' answer =>
      split at means
      · cases means
      · next usable =>
        obtain ⟨small, free⟩ := not_or.mp usable
        obtain ⟨none, unavailable⟩ := missing (UInt64.not_lt.mp small) mapping' answer
          (Bool.eq_false_iff.mpr free)
        rw [if_neg (not_not.mpr none)] at means
        split at means
        · cases means
        · next ed edEq => rw [if_neg (unavailable ed edEq)] at means; cases means
  | working mapping headEd queue mapped small answer free works used active queued =>
    have means : interruptMeans call answers dev = some (dev.mem.live, mapping) := by
      simp only [interruptMeans, answer, free, Bool.false_eq_true, or_false,
        if_neg (UInt64.not_lt.mpr small), if_pos works]
    set skipped : UsbOhciHcDev :=
      { dev with mem := setSkip dev.mem (workingEd call dev) 1, mapped := mapped }
    have queued' : Queued skipped.mem (workingEd call dev) queue :=
      queued.congr (by simp only [skipped, setSkip, Descriptors.setEd_ed_same]) (fun _ _ => rfl)
        queued.live
    rcases interruptStages_plain answers mapping headEd queued' plain with ⟨short, error⟩ |
      ⟨enough, success, head, data, empty, output, tds, exhausts, supply, armed⟩
    · refine Or.inl ⟨error, fun live mapping' means' => ?_⟩
      rw [means] at means'
      cases means'
      exact short
    · exact Or.inr ⟨_, mapping, _, head, data, empty, means, enough, success, output, tds, exhausts,
        supply, armed, Or.inl ⟨used, rfl, works⟩⟩
  | created mapping headEd ed create mapped small answer free works edEq available fresh nonzero
      apart =>
    have means : interruptMeans call answers dev =
        some (Function.update dev.mem.live ed true, mapping) := by
      simp only [interruptMeans, answer, free, Bool.false_eq_true, or_false,
        if_neg (UInt64.not_lt.mpr small), if_neg (not_not.mpr works), edEq, if_pos available]
    have live : (ohciAttachEd create headEd ed).live = Function.update dev.mem.live ed true := by
      rw [ohciAttachEd_live, fresh.live]
    set attached : UsbOhciHcDev :=
      { dev with mem := ohciAttachEd create headEd ed, mapped := mapped }
    have queued : Queued attached.mem ed [] := fresh.queued nonzero apart
    have stages := interruptStages_plain answers mapping headEd queued plain
    have same : attached.mem.live = Function.update dev.mem.live ed true := live
    rw [same] at stages
    rcases stages with ⟨short, error⟩ |
      ⟨enough, success, head, data, empty, output, tds, exhausts, supply, armed⟩
    · refine Or.inl ⟨error, fun live mapping' means' => ?_⟩
      rw [means] at means'
      cases means'
      exact short
    · exact Or.inr ⟨_, mapping, ed, head, data, empty, means, enough, success, output, tds,
        exhausts, supply, armed, Or.inr ⟨available.2.2, works⟩⟩

/-! ### When the caller is told the truth -/

def armedCode (poll : Poll) (cell : UInt32) : BitVec 4 :=
  (poll.td cell).elim tdTobeProcessed HcTdWrite.conditionCode

/-- The first of them that is not zero, or zero. -/
def firstArmed (poll : Poll) : List UInt32 → BitVec 4
  | [] => tdNoError
  | cell :: rest =>
    if armedCode poll cell ≠ tdNoError then armedCode poll cell else firstArmed poll rest

theorem firstCode_armed {mem : Descriptors} {cells : List UInt32} (poll : Poll)
    (armed : ∀ cell ∈ cells, (mem.td cell).conditionCode = tdTobeProcessed) :
    firstCode (poll.observe mem) cells = firstArmed poll cells := by
  induction cells with
  | nil => rfl
  | cons cell rest ih =>
    obtain ⟨first, others⟩ := List.forall_mem_cons.mp armed
    have code : ((poll.observe mem).td cell).conditionCode = armedCode poll cell := by
      simp only [Poll.observe, armedCode]
      cases poll.td cell with
      | none => simpa only [Option.elim_none] using first
      | some write => simp only [Option.elim_some, TdDescriptor.written]
    rw [firstCode, firstArmed, code, ih others]

/-- Where the chain was attached to an endpoint descriptor that was there before, the head of its
queue was reached. -/
def TransferOutcome.Defined (outcome : TransferOutcome) (before : UsbOhciHcDev) : Prop :=
  ∀ chain, outcome.fate = .submitted chain → before.mem.live chain.ed = true →
    HeadReached before.mem chain.ed

/-- The transfer gets its buffer, its means and its descriptors, the controller retires every
packet with condition code zero before the time-out, and what a working descriptor has queued is
below 2 GiB. -/
def SyncCompletes (call : SyncCall) (answers : SyncAnswers call) (dev : UsbOhciHcDev) : Prop :=
  ∃ ucBuffer allocated, dev.allocatePool answers.ucBuffer = some (ucBuffer, allocated) ∧
    ∃ live mapping count, interruptMeans (call.submission ucBuffer) (answers.submission ucBuffer)
        allocated = some (live, mapping) ∧
      Exhausts call.maxPacketLength mapping.length count ∧
      count < (granted live answers.tds).length ∧
      CompletesBy (fun index => firstArmed (answers.polls index)
        ((granted live answers.tds).take count)) call.timeOut.toNat ∧
      (workingEd (call.submission ucBuffer) dev ≠ 0 →
        HeadBelow dev.mem (workingEd (call.submission ucBuffer) dev))

/-- A success tells the truth where every packet was good. -/
theorem truthful_of_success {outcome : TransferOutcome} {chain : Submitted} {data : List UInt32}
    {empty : UInt32} (success : outcome.status = EfiStatus.success)
    (fate : outcome.fate = .submitted chain) (tds : TdChain chain.mem chain.head (data ++ [empty]))
    (polls : Nat → Poll) (requested : UInt64) :
    outcome.Truthful .interruptList polls requested ↔ ∀ cell ∈ data,
      (((polls chain.waited.last).observe chain.mem).td cell).conditionCode = tdNoError := by
  unfold TransferOutcome.Truthful
  rw [fate]
  constructor
  · intro truthful
    exact (truthful data empty tds).1 success
  · intro zero data' empty' tds'
    obtain rfl := tds.data_unique tds'
    refine ⟨fun _ => zero, ?_⟩
    rintro (filling | ⟨cell, member, wrong⟩)
    · cases filling
    · exact absurd (zero cell member) wrong

/-- Once there is a buffer the status is a success, whatever has happened. -/
theorem syncStages_truthful (call : SyncCall) (answers : SyncAnswers call) (ucBuffer : UInt64)
    (scheduled : Scheduled dev) :
    (syncStages call answers ucBuffer dev).Truthful .interruptList answers.polls
        call.dataLength ∧ (syncStages call answers ucBuffer dev).Defined dev ↔
      ∃ live mapping count, interruptMeans (call.submission ucBuffer)
          (answers.submission ucBuffer) dev = some (live, mapping) ∧
        Exhausts call.maxPacketLength mapping.length count ∧
        count < (granted live answers.tds).length ∧
        CompletesBy (fun index => firstArmed (answers.polls index)
          ((granted live answers.tds).take count)) call.timeOut.toNat ∧
        (workingEd (call.submission ucBuffer) dev ≠ 0 →
          HeadBelow dev.mem (workingEd (call.submission ucBuffer) dev)) := by
  have plain := interruptTransfer_plain (call.submission ucBuffer) (answers.submission ucBuffer)
    scheduled rfl
  unfold syncStages
  simp only
  generalize ohciInterruptTransfer (call.submission ucBuffer) (answers.submission ucBuffer)
    dev = submission at plain ⊢
  rcases plain with ⟨error, short⟩ |
    ⟨live, mapping, ed, head, data, empty, means, enough, success, output, tds, exhausts, supply,
      armed, working⟩
  · rw [if_pos error]
    refine ⟨fun both => absurd both.1.2 fun different => different rfl, ?_⟩
    rintro ⟨live, mapping, count, means, exhausts, less, -⟩
    exact absurd ⟨count, exhausts, less⟩ (short live mapping means)
  · have fine : ¬ submission.status.isError = true := by rw [success]; decide
    rw [if_neg fine, output]
    simp only [Option.getD_some]
    set mem := submission.dev.mem
    set waited := waitForDone
      (fun index => checkIfDone .interruptList mem ed head (answers.polls index))
      call.timeOut.toNat 0 ⟨tdTobeProcessed, 0⟩
    let code := fun index => firstArmed (answers.polls index) data
    have checks : ∀ index edResult,
        checkIfDone .interruptList mem ed head (answers.polls index) edResult =
          (doneStatus (code index), ⟨code index,
            pollToggle .interruptList mem data (answers.polls index) edResult.nextToggle⟩) := by
      intro index edResult
      have found : pollCode .interruptList mem data (answers.polls index) = code index :=
        firstCode_armed (answers.polls index) armed
      rw [checkIfDone_eq tds.driver, found]
    have ends : EndsAt code call.timeOut.toNat waited.last :=
      waitForDone_endsAt checks call.timeOut.toNat ⟨tdTobeProcessed, 0⟩
    -- the status is the one of the cancellation
    refine (and_congr (truthful_of_success rfl rfl tds answers.polls call.dataLength)
      (show _ ↔ (dev.mem.live ed = true → HeadReached dev.mem ed) from
        ⟨fun defined => defined _ rfl,
          fun reached chain same => by cases same; exact reached⟩)).trans ?_
    rw [← firstCode_eq_zero, firstCode_armed (answers.polls waited.last) armed]
    have reached : (dev.mem.live ed = true → HeadReached dev.mem ed) ↔
        (workingEd (call.submission ucBuffer) dev ≠ 0 →
          HeadBelow dev.mem (workingEd (call.submission ucBuffer) dev)) := by
      rcases working with ⟨used, same, works⟩ | ⟨unused, none⟩
      · rw [← same, forall_prop_of_true used, forall_prop_of_true (same ▸ works)]
        exact tdPtr64_eq_iff
      · simp [unused, none]
    refine (and_congr ends.completes_iff.symm reached).trans ⟨fun ⟨completes, below⟩ => ?_, ?_⟩
    · obtain ⟨count, exhausts', less⟩ := enough
      rw [exhausts'.unique exhausts] at less
      exact ⟨live, mapping, data.length, means, exhausts, less, supply ▸ completes, below⟩
    · rintro ⟨live', mapping', count, means', exhausts', -, completes, below⟩
      refine ⟨?_, below⟩
      rw [means] at means'
      cases means'
      obtain rfl := exhausts'.unique exhausts
      have same : (granted live answers.tds).take data.length = data := supply.symm
      rwa [same] at completes

/-- A synchronous interrupt transfer tells the truth, and follows no pointer to no descriptor,
exactly where it completes, unless it refuses the parameters. -/
theorem syncTransfer_truthful_iff (call : SyncCall) (answers : SyncAnswers call)
    (scheduled : Scheduled dev) :
    (ohciSyncInterruptTransfer call answers dev).Truthful .interruptList answers.polls
        call.dataLength ∧ (ohciSyncInterruptTransfer call answers dev).Defined dev ↔
      (SyncInterruptAccepts call.endPointAddress call.isSlowDevice call.maxPacketLength call.data
          call.dataLength call.dataToggle → SyncCompletes call answers dev) := by
  unfold ohciSyncInterruptTransfer SyncCompletes
  by_cases accepted : SyncInterruptAccepts call.endPointAddress call.isSlowDevice
    call.maxPacketLength call.data call.dataLength call.dataToggle
  swap
  · rw [if_pos accepted]
    exact ⟨fun _ accepts => absurd accepts accepted,
      fun _ => ⟨EfiStatus.isError_invalidParameter, nofun⟩⟩
  rw [if_neg (not_not.mpr accepted)]
  cases allocate : dev.allocatePool answers.ucBuffer with
  | none =>
    refine ⟨fun both => absurd both.1.2 fun different => different rfl, fun completes => ?_⟩
    obtain ⟨ucBuffer, allocated, some, -⟩ := completes accepted
    cases some
  | some pair =>
    obtain ⟨ucBuffer, allocated⟩ := pair
    obtain ⟨buffers, rfl⟩ : ∃ buffers, allocated = { dev with buffer := buffers } := by
      unfold UsbOhciHcDev.allocatePool at allocate
      split at allocate
      · cases allocate
      · split at allocate
        · cases allocate
        · cases allocate
          exact ⟨_, rfl⟩
    have stages := @syncStages_truthful { dev with buffer := buffers } call answers ucBuffer
      ⟨scheduled.lists⟩
    refine ⟨fun both _ => ⟨ucBuffer, _, rfl, stages.mp both⟩, fun completes => stages.mpr ?_⟩
    obtain ⟨ucBuffer', allocated', given, completes⟩ := completes accepted
    cases given
    exact completes

/-- Bulk transfers tell the truth unless they run out of resources, and synchronous interrupt
transfers where they complete; a bulk transfer attaches its chain to a descriptor of its own. -/
theorem transfers_truthful_iff (bulk : BulkCall) (bulkAnswers : BulkAnswers bulk)
    (sync : SyncCall) (syncAnswers : SyncAnswers sync) {dev : UsbOhciHcDev}
    (scheduled : Scheduled dev) :
    ((ohciBulkTransfer bulk bulkAnswers dev).Truthful .bulkList bulkAnswers.polls
        bulk.dataLength ↔
      (BulkAccepts bulk.maxPacketLength bulk.data bulk.dataLength bulk.dataToggle →
        BulkSupplied bulk bulkAnswers dev)) ∧
    ((ohciSyncInterruptTransfer sync syncAnswers dev).Truthful .interruptList
        syncAnswers.polls sync.dataLength ∧
          (ohciSyncInterruptTransfer sync syncAnswers dev).Defined dev ↔
      (SyncInterruptAccepts sync.endPointAddress sync.isSlowDevice sync.maxPacketLength
          sync.data sync.dataLength sync.dataToggle → SyncCompletes sync syncAnswers dev)) :=
  ⟨bulkTransfer_truthful_iff bulk bulkAnswers dev,
    syncTransfer_truthful_iff sync syncAnswers scheduled⟩

/-! ### A time-out -/

/-- Eight bytes from an interrupt endpoint, in one packet. -/
def report : SyncCall := ⟨1, 0x81, true, 8, 0x200000, 8, 0, 0x1000, 100⟩

/-- The world gives everything, and every poll finds `write`. -/
def reportAnswers (write : Option HcTdWrite) : SyncAnswers report :=
  ⟨some 1, .ok .eightBytes, some 128, [some 192, some 256], fun _ =>
    ⟨false, fun _ => write, fun _ => none⟩⟩

theorem transfers_truthful_iff_oneList :
    ((ohciBulkTransfer onePacket (onePacketAnswers none) .oneList).Truthful .bulkList
        (onePacketAnswers none).polls onePacket.dataLength ↔
      (BulkAccepts onePacket.maxPacketLength onePacket.data onePacket.dataLength
          onePacket.dataToggle → BulkSupplied onePacket (onePacketAnswers none) .oneList)) ∧
    ((ohciSyncInterruptTransfer report (reportAnswers none) .oneList).Truthful .interruptList
        (reportAnswers none).polls report.dataLength ∧
          (ohciSyncInterruptTransfer report (reportAnswers none) .oneList).Defined .oneList ↔
      (SyncInterruptAccepts report.endPointAddress report.isSlowDevice report.maxPacketLength
          report.data report.dataLength report.dataToggle →
        SyncCompletes report (reportAnswers none) .oneList)) :=
  transfers_truthful_iff onePacket (onePacketAnswers none) report (reportAnswers none)
    oneList_scheduled

/-- The device is not ready for a hundred milliseconds, and the status is a success. -/
theorem timeout_succeeds :
    Scheduled .oneList ∧ ¬ (ohciSyncInterruptTransfer report (reportAnswers none) .oneList).Truthful
      .interruptList (reportAnswers none).polls report.dataLength := by
  refine ⟨oneList_scheduled, fun truthful => ?_⟩
  have defined : (ohciSyncInterruptTransfer report (reportAnswers none) .oneList).Defined
      .oneList := fun _ _ _ => rfl
  obtain ⟨ucBuffer, allocated, given, live, mapping, count, means, exhausts, less, completes⟩ :=
    (syncTransfer_truthful_iff report (reportAnswers none) oneList_scheduled).mp
      ⟨truthful, defined⟩ (by decide)
  cases given
  cases means
  obtain rfl : count = 1 := exhausts.unique ⟨by decide, by decide⟩
  obtain ⟨⟨last, -, zero, -⟩, -⟩ := completes
  have pending : tdTobeProcessed = tdNoError := zero
  exact absurd pending (by decide)

end MuRockchip.Ohci
