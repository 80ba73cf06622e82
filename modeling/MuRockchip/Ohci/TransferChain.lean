/-
The descriptor chains of the OHCI transfers (`Ohci.c`).

A bulk or interrupt chain is the data stage closed by an empty descriptor, to which the
tail pointer of the endpoint descriptor is set; a control chain has a setup descriptor in
front of its data stage and a status descriptor behind it.

* `linkStage_spec`, `emptyStage_spec`: what linking one more descriptor, and closing the
  chain, do where they succeed and where they fail.
* `transferChain_spec`: what the data stage and its empty descriptor have built, or where
  they failed.
-/
import MuRockchip.Ohci.DataStage

namespace MuRockchip.Ohci

open MuRockchip.Base

/-! ### What the entry points refuse

The reference arguments are there: a null one is refused first. `data` is the address of
the buffer. -/

def maxBytesPerTd : UInt64 := 0x1000

inductive EfiUsbDataDirection
  | dataIn
  | dataOut
  | noData
  deriving DecidableEq, Repr

/-- The packet sizes of control and bulk endpoints. -/
def PacketSize (maxPacketLength : UInt8) : Prop :=
  maxPacketLength = 8 ∨ maxPacketLength = 16 ∨ maxPacketLength = 32 ∨ maxPacketLength = 64

instance (maxPacketLength : UInt8) : Decidable (PacketSize maxPacketLength) :=
  inferInstanceAs (Decidable (_ ∨ _ ∨ _ ∨ _))

variable {maxPacketLength : UInt8} {cells queue old : List UInt32} {stage : DataStage}
  {answers : List (Option UInt32)} {mem : Descriptors} {ed head : UInt32} {contents : TdDescriptor}
  {length : UInt64}

theorem PacketSize.ne_zero (size : PacketSize maxPacketLength) :
    maxPacketLength ≠ 0 := by
  rcases size with rfl | rfl | rfl | rfl <;> decide

/-- The parameters `OhciControlTransfer` goes on with. -/
def ControlAccepts (transferDirection : EfiUsbDataDirection) (isSlowDevice : Bool)
    (maxPacketLength : UInt8) (data dataLength : UInt64) : Prop :=
  (transferDirection = .noData → dataLength = 0 ∧ data = 0) ∧
    (transferDirection ≠ .noData → dataLength ≠ 0 ∧ data ≠ 0) ∧
    (isSlowDevice = true → maxPacketLength = 8) ∧ PacketSize maxPacketLength ∧
    dataLength ≤ maxBytesPerTd

instance (transferDirection : EfiUsbDataDirection) (isSlowDevice : Bool) (maxPacketLength : UInt8)
    (data dataLength : UInt64) :
    Decidable (ControlAccepts transferDirection isSlowDevice maxPacketLength data dataLength) :=
  inferInstanceAs (Decidable (_ ∧ _ ∧ _ ∧ _ ∧ _))

/-- The parameters `OhciBulkTransfer` goes on with. -/
def BulkAccepts (maxPacketLength : UInt8) (data dataLength : UInt64) (dataToggle : UInt8) : Prop :=
  data ≠ 0 ∧ dataLength ≠ 0 ∧ (dataToggle = 0 ∨ dataToggle = 1) ∧ PacketSize maxPacketLength

instance (maxPacketLength : UInt8) (data dataLength : UInt64) (dataToggle : UInt8) :
    Decidable (BulkAccepts maxPacketLength data dataLength dataToggle) :=
  inferInstanceAs (Decidable (_ ∧ _ ∧ _ ∧ _))

/-- The parameters `OhciAsyncInterruptTransfer` goes on with. -/
def AsyncInterruptAccepts (endPointAddress : UInt8) (isNewTransfer : Bool) (dataToggle : UInt8)
    (pollingInterval dataLength : UInt64) : Prop :=
  endPointAddress &&& 0x80 ≠ 0 ∧
    (isNewTransfer = true → dataLength ≠ 0 ∧ (dataToggle = 0 ∨ dataToggle = 1) ∧
      1 ≤ pollingInterval ∧ pollingInterval ≤ 255)

instance (endPointAddress : UInt8) (isNewTransfer : Bool) (dataToggle : UInt8)
    (pollingInterval dataLength : UInt64) : Decidable (AsyncInterruptAccepts endPointAddress
      isNewTransfer dataToggle pollingInterval dataLength) :=
  inferInstanceAs (Decidable (_ ∧ _))

/-- The parameters `OhciSyncInterruptTransfer` goes on with. -/
def SyncInterruptAccepts (endPointAddress : UInt8) (isSlowDevice : Bool) (maxPacketLength : UInt8)
    (data dataLength : UInt64) (dataToggle : UInt8) : Prop :=
  endPointAddress &&& 0x80 ≠ 0 ∧ data ≠ 0 ∧ dataLength ≠ 0 ∧
    (isSlowDevice = true → maxPacketLength ≤ 8) ∧
    (isSlowDevice = false → maxPacketLength ≤ 64) ∧ (dataToggle = 0 ∨ dataToggle = 1)

instance (endPointAddress : UInt8) (isSlowDevice : Bool) (maxPacketLength : UInt8)
    (data dataLength : UInt64) (dataToggle : UInt8) : Decidable (SyncInterruptAccepts
      endPointAddress isSlowDevice maxPacketLength data dataLength dataToggle) :=
  inferInstanceAs (Decidable (_ ∧ _ ∧ _ ∧ _ ∧ _ ∧ _))

/-! ### The stages -/

def tdSetupPid : BitVec 2 := 0
def tdOutPid : BitVec 2 := 1
def tdInPid : BitVec 2 := 2

/-- A descriptor is created, filled in and linked behind the chain. -/
def linkStage (contents : TdDescriptor) (stage : DataStage) : DataStage × UInt32 :=
  if stage.status.isError then (stage, 0)
  else
    match stage.answers with
    | [] => ({ stage with status := EfiStatus.outOfResources }, 0)
    | answer :: answers =>
      match ohciCreateTd stage.mem answer with
      | none => ({ stage with status := EfiStatus.outOfResources, answers := answers }, 0)
      | some (td, mem) =>
        ({ stage with
            mem := ohciLinkTd (mem.setTd td contents) stage.head td
            answers := answers }, td)

/-- The empty stage: the empty descriptor becomes the tail of the queue, and the chain is
attached to the endpoint descriptor. -/
def emptyStage (ed : UInt32) (stage : DataStage) : DataStage :=
  let (stage, emptyTd) := linkStage TdDescriptor.zero stage
  if stage.status.isError then stage
  else
    let mem := stage.mem.setEd ed { stage.mem.ed ed with tdTailPointer := emptyTd }
    { stage with mem := ohciAttachTdListToEd mem ed stage.head }

def transferChain (pid : BitVec 2) (maxPacketLength : UInt8) (answers : List (Option UInt32))
    (mem : Descriptors) (ed : UInt32) (toggle : UInt8) (address length : UInt64) : DataStage :=
  emptyStage ed (dataStage pid maxPacketLength answers mem 0 true toggle address length)

/-- `DataPidDir` of a bulk or interrupt transfer. -/
def dataPidDir (endPointAddress : UInt8) : BitVec 2 :=
  if endPointAddress &&& 0x80 ≠ 0 then tdInPid else tdOutPid

/-- The descriptor of the setup stage, for a request mapped at `address`. -/
def setupTd (address : UInt64) : TdDescriptor where
  bufferRounding := 1
  dirPid := tdSetupPid
  delayInterrupt := tdNoDelay
  dataToggle := tdToggle 2
  errorCount := 0
  conditionCode := tdTobeProcessed
  currBufferPointer := address.toUInt32
  nextTd := 0
  bufferEndPointer := (address + 8 - 1).toUInt32
  nextTdPointer := 0
  dataBuffer := address.toUInt32
  actualSendLength := 8

def statusTd (pid : BitVec 2) : TdDescriptor where
  bufferRounding := 1
  dirPid := pid
  delayInterrupt := 7
  dataToggle := tdToggle 3
  errorCount := 0
  conditionCode := tdTobeProcessed
  currBufferPointer := 0
  nextTd := 0
  bufferEndPointer := 0
  nextTdPointer := 0
  dataBuffer := 0
  actualSendLength := 0

/-- The setup stage: the setup descriptor is the head of the chain. The data stage starts
with toggle one. -/
def setupStage (answers : List (Option UInt32)) (mem : Descriptors) (request : UInt64) :
    DataStage :=
  match answers with
  | [] => ⟨EfiStatus.outOfResources, mem, 0, 1, []⟩
  | answer :: answers =>
    match ohciCreateTd mem answer with
    | none => ⟨EfiStatus.outOfResources, mem, 0, 1, answers⟩
    | some (td, mem) =>
      ⟨EfiStatus.success, mem.setTd td (setupTd request), td, 1, answers⟩

def controlChain (dataPid statusPid : BitVec 2) (maxPacketLength : UInt8)
    (answers : List (Option UInt32)) (mem : Descriptors) (ed setup : UInt32)
    (address length : UInt64) : DataStage :=
  emptyStage ed
    (linkStage (statusTd statusPid)
      (dataStage dataPid maxPacketLength answers mem setup false 1 address length)).1

/-- `DataPidDir` and `StatusPidDir` of a control transfer. -/
def controlPidDirs (transferDirection : EfiUsbDataDirection) : BitVec 2 × BitVec 2 :=
  match transferDirection with
  | .dataIn => (tdInPid, tdOutPid)
  | _ => (tdOutPid, tdInPid)

/-- The setup stage and those behind it. -/
def controlTransferChain (transferDirection : EfiUsbDataDirection) (maxPacketLength : UInt8)
    (answers : List (Option UInt32)) (mem : Descriptors) (ed : UInt32)
    (request address length : UInt64) : DataStage :=
  let stage := setupStage answers mem request
  if stage.status.isError then stage
  else
    let (dataPid, statusPid) := controlPidDirs transferDirection
    controlChain dataPid statusPid maxPacketLength stage.answers stage.mem ed stage.head address
      length

/-! ### Linking one more descriptor -/

/-- What linking one more descriptor does to a chain: it has failed and changed nothing
but the status, or the descriptor is the last of the chain. -/
theorem linkStage_spec {last : UInt32} (going : stage.status = EfiStatus.success)
    (ready : Ready stage.mem stage.head false (cells ++ [last])) (contents : TdDescriptor)
    (unlinked : contents.nextTd = 0 ∧ contents.nextTdPointer = 0) :
    (granted stage.mem.live stage.answers = [] ∧
      (linkStage contents stage).1.status = EfiStatus.outOfResources ∧
      (linkStage contents stage).1.mem = stage.mem ∧
      (linkStage contents stage).1.head = stage.head ∧
      (linkStage contents stage).1.toggle = stage.toggle) ∨
    ∃ td answers, stage.answers = some td :: answers ∧ Available stage.mem.live td ∧
      Placed stage.mem (cells ++ [last]) td contents stage.head (linkStage contents stage).1.mem ∧
      (linkStage contents stage).1 =
        { stage with mem := (linkStage contents stage).1.mem, answers := answers } ∧
      (linkStage contents stage).2 = td := by
  have fine : stage.status.isError = false := by rw [going]; rfl
  unfold linkStage
  rw [if_neg (by rw [fine]; exact Bool.false_ne_true)]
  cases answers : stage.answers with
  | nil => exact Or.inl ⟨rfl, rfl, rfl, rfl, rfl⟩
  | cons answer rest =>
    cases answer with
    | none => exact Or.inl ⟨rfl, rfl, rfl, rfl, rfl⟩
    | some td =>
      by_cases fresh : Available stage.mem.live td
      · have placed := placeTd_spec ready fresh contents unlinked
        simp only [placeTd, Bool.false_eq_true, if_false] at placed
        simp only [ohciCreateTd, if_pos fresh]
        exact Or.inr ⟨td, rest, rfl, fresh, placed, rfl, rfl⟩
      · simp only [ohciCreateTd, if_neg fresh]
        exact Or.inl (by simp [granted, fresh])

theorem linkStage_supplied {last td : UInt32} (going : stage.status = EfiStatus.success)
    (ready : Ready stage.mem stage.head false (cells ++ [last])) (contents : TdDescriptor)
    (unlinked : contents.nextTd = 0 ∧ contents.nextTdPointer = 0)
    (supply : stage.answers = some td :: answers) (fresh : Available stage.mem.live td) :
    Placed stage.mem (cells ++ [last]) td contents stage.head (linkStage contents stage).1.mem ∧
      (linkStage contents stage).1 =
        { stage with mem := (linkStage contents stage).1.mem, answers := answers } := by
  rcases linkStage_spec going ready contents unlinked with
    ⟨nothing, -⟩ | ⟨td', rest, same, -, placed,
    result, -⟩
  · rw [supply, granted, if_pos fresh] at nothing
    exact absurd nothing (List.cons_ne_nil _ _)
  · rw [supply] at same
    obtain ⟨rfl, rfl⟩ : td = td' ∧ answers = rest := by simpa using same
    exact ⟨placed, result⟩

/-- The setup descriptor is a chain of its own. -/
theorem setupStage_supplied {setup : UInt32} (fresh : Available mem.live setup)
    (answers : List (Option UInt32)) (request : UInt64) :
    let stage := setupStage (some setup :: answers) mem request
    stage.status = EfiStatus.success ∧ stage.answers = answers ∧ stage.head = setup ∧
      Placed mem [] setup (setupTd request) setup stage.mem := by
  have placed := placeTd_spec (Ready.empty mem) fresh (setupTd request) ⟨rfl, rfl⟩
  simp only [placeTd, if_true] at placed
  intro stage
  have result : stage = ⟨EfiStatus.success, ((mem.setTd setup TdDescriptor.zero).setLive setup
      true).setTd setup (setupTd request), setup, 1, answers⟩ := by
    simp only [stage, setupStage, ohciCreateTd, if_pos fresh]
  rw [result]
  exact ⟨rfl, rfl, rfl, placed⟩

/-! ### Closing the chain -/

/-- The descriptors queued on an endpoint descriptor. -/
structure Queued (mem : Descriptors) (ed : UInt32) (queue : List UInt32) : Prop where
  segment : Segment (nextTd mem) (tdPtr (mem.ed ed).tdHeadPointer) queue 0
  live : ∀ cell ∈ queue, mem.live cell = true

/-- An endpoint descriptor that was just created has nothing queued. -/
theorem Queued.empty (none : (mem.ed ed).tdHeadPointer = 0) :
    Queued mem ed [] :=
  ⟨by simp [Segment, none, tdPtr], by simp⟩

/-- The queue stays where its descriptors keep their contents and stay in use. -/
theorem Queued.congr {mem' : Descriptors} (queued : Queued mem ed queue)
    (head : (mem'.ed ed).tdHeadPointer = (mem.ed ed).tdHeadPointer)
    (same : ∀ cell ∈ queue, mem'.td cell = mem.td cell)
    (live : ∀ cell ∈ queue, mem'.live cell = true) : Queued mem' ed queue := by
  refine ⟨?_, live⟩
  rw [head]
  exact queued.segment.congr fun cell member => by rw [nextTd, same cell member, nextTd]

/-- A queue does not hold a descriptor that is free. -/
theorem Queued.ne_of_available {cell other : UInt32} (queued : Queued mem ed queue)
    (member : cell ∈ queue) (fresh : Available mem.live other) :
    cell ≠ other := by
  rintro rfl
  have unused := fresh.2.2
  rw [queued.live cell member] at unused
  cases unused

/-- A round leaves the queue alone. -/
theorem Placed.queued {after : Descriptors} {td : UInt32}
    (placed : Placed mem old td contents head after) (queued : Queued mem ed queue)
    (fresh : Available mem.live td)
    (apart : ∀ cell ∈ queue, cell ∉ old) : Queued after ed queue := by
  refine queued.congr (by rw [placed.ed]) (fun cell member => ?_) (fun cell member => ?_)
  · exact placed.others cell (apart cell member) (queued.ne_of_available member fresh)
  · rw [placed.live, Function.update_of_ne (queued.ne_of_available member fresh)]
    exact queued.live cell member

theorem Staged.queued {pid : BitVec 2} {toggle : UInt8} {address : UInt64}
    (staged : Staged pid maxPacketLength mem old toggle address length answers stage cells)
    (queued : Queued mem ed queue) (apart : ∀ cell ∈ queue, cell ∉ old) :
    Queued stage.mem ed queue ∧ ∀ cell ∈ queue, cell ∉ old ++ cells := by
  have notIn : ∀ cell ∈ queue, cell ∉ cells := fun cell member inCells =>
    queued.ne_of_available member (staged.fresh.2 cell inCells) rfl
  refine ⟨queued.congr (by rw [staged.ed]) (fun cell member => ?_) (fun cell member => ?_),
    fun cell member inside => ?_⟩
  · exact staged.others cell (apart cell member) (notIn cell member)
  · rw [staged.live, queued.live cell member, Bool.true_or]
  · rcases List.mem_append.mp inside with inOld | inCells
    · exact apart cell member inOld
    · exact notIn cell member inCells

/-- The chain a data stage leaves goes on with the next descriptor. -/
theorem Staged.ready {pid : BitVec 2} {toggle : UInt8} {firstTd : Bool} {address : UInt64}
    (staged : Staged pid maxPacketLength mem old toggle address length answers stage cells)
    (ready : Ready mem head firstTd old) (nonempty : old ++ cells ≠ []) :
    Ready stage.mem stage.head false (old ++ cells) := by
  refine ⟨staged.chain, fun cell member => ?_, by simpa using nonempty⟩
  rw [staged.live]
  rcases List.mem_append.mp member with inOld | inCells
  · rw [ready.live cell inOld, Bool.true_or]
  · simp only [inCells, decide_true, Bool.or_true]

theorem attach_spec {chain : List UInt32} (queued : Queued mem ed queue)
    (linked : TdChain mem head chain) (apart : ∀ cell ∈ queue, cell ∉ chain)
    (aligned : head.toNat % 64 = 0) :
    let after := ohciAttachTdListToEd mem ed head
    Segment (nextTd after) (tdPtr (after.ed ed).tdHeadPointer) (queue ++ chain) 0 ∧
      TdChain after head chain ∧ after.live = mem.live ∧
      (∀ pointer ∉ queue, after.td pointer = mem.td pointer) ∧
      (∀ pointer, pointer ≠ ed → after.ed pointer = mem.ed pointer) ∧
      (after.ed ed).tdTailPointer = (mem.ed ed).tdTailPointer := by
  intro after
  have segment := queued.segment
  rcases queue.eq_nil_or_concat with none | ⟨cells, last, full⟩
  · subst none
    have null : tdPtr (mem.ed ed).tdHeadPointer = 0 := segment
    have result : after =
        mem.setEd ed { mem.ed ed with tdHeadPointer := rightShift4 head } := by
      simp only [after, ohciAttachTdListToEd, null, ne_eq, not_true_eq_false, if_false]
    rw [result]
    refine ⟨?_, linked.congr fun _ _ => rfl, rfl, fun _ _ => rfl, fun pointer different =>
      Descriptors.setEd_ed_ne different, by simp⟩
    rw [List.nil_append, Descriptors.setEd_ed_same, tdPtr_rightShift4 aligned]
    exact linked.hardware
  · rw [List.concat_eq_append] at full
    subst full
    have some : tdPtr (mem.ed ed).tdHeadPointer ≠ 0 := by
      cases cells with
      | nil => exact segment.1 ▸ segment.2.1
      | cons cell rest => exact segment.1 ▸ segment.2.1
    have short : cells.length ≤ walkLimit := by
      have bound := segment.length_le
      rw [List.length_append, List.length_singleton] at bound
      exact (Nat.le_succ _).trans bound
    have result : after =
        mem.setTd last { mem.td last with nextTd := head, nextTdPointer := head } := by
      simp only [after, ohciAttachTdListToEd, some, ne_eq, not_false_eq_true, if_true,
        walkEnd_eq segment short]
    have once := List.nodup_append.mp segment.nodup
    have inChain : ∀ cell ∈ chain, (mem.setTd last
        { mem.td last with nextTd := head, nextTdPointer := head }).td cell = mem.td cell := by
      intro cell member
      apply Descriptors.setTd_td_ne
      rintro rfl
      exact apart cell (List.mem_append_right cells (List.mem_singleton_self cell)) member
    rw [result]
    refine ⟨segment_append.mpr ⟨head, Segment.relink segment ?_ (by simp [nextTd]), ?_⟩,
      linked.congr inChain, rfl, ?_, fun _ _ => rfl, rfl⟩
    · intro cell member
      rw [nextTd, Descriptors.setTd_td_ne (once.2.2 cell member last
        (List.mem_singleton_self last)), nextTd]
    · exact (linked.congr inChain).hardware
    · intro pointer outside
      apply Descriptors.setTd_td_ne
      rintro rfl
      exact outside (List.mem_append_right cells (List.mem_singleton_self pointer))

/-- The empty stage has closed a chain: `cells` are what the chain holds, `empty` is the
descriptor that closes it. -/
structure Closed (stage : DataStage) (ed : UInt32) (queue cells : List UInt32) (empty : UInt32)
    (after : DataStage) : Prop where
  status : after.status = EfiStatus.success
  fresh : Available stage.mem.live empty
  supply : stage.answers = some empty :: after.answers
  live : after.mem.live = Function.update stage.mem.live empty true
  head : after.head = stage.head
  toggle : after.toggle = stage.toggle
  chain : TdChain after.mem after.head (cells ++ [empty])
  contents : ∀ cell ∈ cells, (after.mem.td cell).unlinked = (stage.mem.td cell).unlinked
  zeroed : after.mem.td empty = TdDescriptor.zero
  tail : (after.mem.ed ed).tdTailPointer = empty
  queued : Segment (nextTd after.mem) (tdPtr (after.mem.ed ed).tdHeadPointer)
    (queue ++ (cells ++ [empty])) 0
  others : ∀ pointer, pointer ∉ queue → pointer ∉ cells → pointer ≠ empty →
    after.mem.td pointer = stage.mem.td pointer
  otherEds : ∀ pointer, pointer ≠ ed → after.mem.ed pointer = stage.mem.ed pointer

theorem TdChain.last {last : UInt32} (chain : TdChain mem head (cells ++ [last]))
    (same : (mem.td last).unlinked = contents) : mem.td last = contents := by
  have hardware : (mem.td last).nextTd = 0 := chain.hardware.suffix
  have driver : (mem.td last).nextTdPointer = 0 := chain.driver.suffix
  rw [← same]
  cases content : mem.td last
  simp only [content] at hardware driver
  simp [TdDescriptor.unlinked, hardware, driver]

/-- The empty stage fails and changes no descriptor, or closes the chain. -/
theorem emptyStage_spec {last : UInt32} (going : stage.status = EfiStatus.success)
    (ready : Ready stage.mem stage.head false (cells ++ [last]))
    (aligned : stage.head.toNat % 64 = 0) (queued : Queued stage.mem ed queue)
    (apart : ∀ cell ∈ queue, cell ∉ cells ++ [last]) :
    (granted stage.mem.live stage.answers = [] ∧
      (emptyStage ed stage).status = EfiStatus.outOfResources ∧
      (emptyStage ed stage).mem = stage.mem ∧ (emptyStage ed stage).head = stage.head ∧
      (emptyStage ed stage).toggle = stage.toggle) ∨
    ∃ empty, Closed stage ed queue (cells ++ [last]) empty (emptyStage ed stage) := by
  rcases linkStage_spec going ready TdDescriptor.zero ⟨rfl, rfl⟩ with
    ⟨nothing, status, mem, head, toggle⟩ | ⟨empty, answers, supply, fresh, placed, stageEq, tdEq⟩
  · have failed : (linkStage TdDescriptor.zero stage).1.status.isError = true := by
      rw [status]
      rfl
    unfold emptyStage
    simp only [failed, if_true]
    exact Or.inl ⟨nothing, status, mem, head, toggle⟩
  · have fine : (linkStage TdDescriptor.zero stage).1.status.isError = false := by
      rw [stageEq]
      simp only [going]
      rfl
    have headEq : (linkStage TdDescriptor.zero stage).1.head = stage.head := by rw [stageEq]
    set linked := (linkStage TdDescriptor.zero stage).1 with linkedDef
    have answersEq : linked.answers = answers := by rw [stageEq]
    have toggleEq : linked.toggle = stage.toggle := by rw [stageEq]
    have statusEq : linked.status = EfiStatus.success := by rw [stageEq]; exact going
    let tailed := linked.mem.setEd ed { linked.mem.ed ed with tdTailPointer := empty }
    have result : emptyStage ed stage =
        { linked with mem := ohciAttachTdListToEd tailed ed linked.head } := by
      simp only [emptyStage, ← linkedDef, fine, tdEq, Bool.false_eq_true, if_false, tailed]
    have notQueued : ∀ cell ∈ queue, cell ≠ empty :=
      fun cell member => queued.ne_of_available member fresh
    have apartAll : ∀ cell ∈ queue, cell ∉ cells ++ [last] ++ [empty] := by
      intro cell member inside
      rcases List.mem_append.mp inside with old | new
      · exact apart cell member old
      · exact notQueued cell member (List.mem_singleton.mp new)
    have stillQueued : Queued tailed ed queue := by
      refine queued.congr ?_ (fun cell member => ?_) (fun cell member => ?_)
      · simp only [tailed, Descriptors.setEd_ed_same, placed.ed]
      · exact placed.others cell (apart cell member) (notQueued cell member)
      · simp only [tailed, Descriptors.setEd_live, placed.live]
        rw [Function.update_of_ne (notQueued cell member)]
        exact queued.live cell member
    have chain : TdChain tailed linked.head (cells ++ [last] ++ [empty]) := by
      rw [headEq]
      exact placed.ready.chain.congr fun _ _ => rfl
    obtain ⟨segment, attached, live, others, otherEds, tail⟩ :=
      attach_spec stillQueued chain apartAll (by rw [headEq]; exact aligned)
    have inChain : ∀ cell ∈ cells ++ [last] ++ [empty],
        (ohciAttachTdListToEd tailed ed linked.head).td cell = linked.mem.td cell :=
      fun cell member => others cell fun inQueue => apartAll cell inQueue member
    rw [result]
    refine Or.inr ⟨empty, statusEq, fresh, by rw [supply, answersEq],
      live.trans placed.live, headEq, toggleEq,
      attached, ?_, ?_, ?_, segment, ?_, ?_⟩
    · intro cell member
      rw [inChain cell (List.mem_append_left [empty] member)]
      exact placed.kept cell member
    · refine attached.last ?_
      rw [inChain empty (by simp), placed.contents]
      rfl
    · rw [tail]
      simp only [tailed, Descriptors.setEd_ed_same]
    · intro pointer notQueue notCell notEmpty
      rw [others pointer notQueue]
      exact placed.others pointer notCell notEmpty
    · intro pointer different
      rw [otherEds pointer different, Descriptors.setEd_ed_ne different, placed.ed]

/-! ### Bulk and interrupt chains -/

/-- The pool hands out a descriptor for every packet and the empty one. -/
def Enough (live : UInt32 → Bool) (answers : List (Option UInt32)) (maxPacketLength : UInt8)
    (length : UInt64) : Prop :=
  ∃ count, Exhausts maxPacketLength length count ∧ count < (granted live answers).length

/-- The chain could not be completed: `cells` are all the pool handed out. -/
structure Starved (pid : BitVec 2) (maxPacketLength : UInt8) (mem : Descriptors) (toggle : UInt8)
    (address length : UInt64) (answers : List (Option UInt32)) (cells : List UInt32)
    (after : DataStage) : Prop where
  status : after.status = EfiStatus.outOfResources
  all : cells = granted mem.live answers
  short : ¬ Enough mem.live answers maxPacketLength length
  staged : ∃ stage, Staged pid maxPacketLength mem [] toggle address length answers stage cells ∧
    after.mem = stage.mem ∧ after.head = stage.head ∧ after.toggle = stage.toggle

/-- The chain is complete: `data` holds the packets and `empty` closes it. -/
structure Complete (pid : BitVec 2) (maxPacketLength : UInt8) (mem : Descriptors) (ed : UInt32)
    (queue : List UInt32) (toggle : UInt8) (address length : UInt64)
    (answers : List (Option UInt32)) (data : List UInt32) (empty : UInt32) (after : DataStage) :
    Prop where
  enough : Enough mem.live answers maxPacketLength length
  staged : ∃ stage, Staged pid maxPacketLength mem [] toggle address length answers stage data ∧
    stage.status = EfiStatus.success ∧ Exhausts maxPacketLength length data.length ∧
    answers = data.map some ++ stage.answers ∧ Closed stage ed queue data empty after

theorem transferChain_spec (pid : BitVec 2) (maxPacketLength : UInt8) (queued : Queued mem ed queue)
    (toggle : UInt8) (address : UInt64) (some : length ≠ 0) (answers : List (Option UInt32)) :
    (∃ cells, Starved pid maxPacketLength mem toggle address length answers cells
      (transferChain pid maxPacketLength answers mem ed toggle address length)) ∨
    ∃ data empty, Complete pid maxPacketLength mem ed queue toggle address length answers data empty
      (transferChain pid maxPacketLength answers mem ed toggle address length) := by
  obtain ⟨data, staged⟩ :=
    dataStage_spec pid maxPacketLength (Ready.empty mem) toggle address length answers
  unfold transferChain
  set stage := dataStage pid maxPacketLength answers mem 0 true toggle address length
  have positive : 0 < length.toNat :=
    Nat.pos_of_ne_zero fun zero => some (UInt64.toNat_inj.mp zero)
  rcases staged.stopped with ⟨status, exhausts, supply⟩ | ⟨status, all, more⟩
  · have nonempty : data ≠ [] := by
      rintro rfl
      have enough := exhausts.1
      rw [List.length_nil, Nat.zero_mul] at enough
      omega
    obtain ⟨cells, last, full⟩ := (data.eq_nil_or_concat).resolve_left nonempty
    rw [List.concat_eq_append] at full
    have live : stage.mem.live = fun pointer => mem.live pointer || decide (pointer ∈ data) :=
      funext staged.live
    have handed : granted mem.live answers = data ++ granted stage.mem.live stage.answers := by
      rw [supply, granted_supply staged.fresh, live]
    have chain := staged.chain
    rw [List.nil_append] at chain
    obtain ⟨stillQueued, notQueued⟩ := staged.queued queued (by simp)
    rw [List.nil_append] at notQueued
    have ready := staged.ready (Ready.empty mem) (by simpa using nonempty)
    rw [List.nil_append, full] at ready
    have aligned : stage.head.toNat % 64 = 0 := by
      have inData : stage.head ∈ data := by
        cases data with
        | nil => exact absurd rfl nonempty
        | cons cell rest => exact chain.driver.1 ▸ List.mem_cons_self
      exact (staged.fresh.2 stage.head inData).2.1
    rcases emptyStage_spec status ready aligned stillQueued (full ▸ notQueued) with
      ⟨nothing, failed, memEq, headEq, toggleEq⟩ | ⟨empty, closed⟩
    · refine Or.inl ⟨data, failed, ?_, ?_, stage, staged, memEq, headEq, toggleEq⟩
      · rw [handed, nothing, List.append_nil]
      · rintro ⟨count, same, enough⟩
        rw [handed, nothing, List.append_nil, same.unique exhausts] at enough
        exact Nat.lt_irrefl _ enough
    · rw [← full] at closed
      refine Or.inr ⟨data, empty, ⟨data.length, exhausts, ?_⟩, stage, staged, status, exhausts,
        supply, closed⟩
      rw [handed, closed.supply, granted, if_pos closed.fresh, List.length_append,
        List.length_cons]
      omega
  · have failed : stage.status.isError = true := by
      rw [status]
      rfl
    have result : emptyStage ed stage = stage := by
      simp only [emptyStage, linkStage, failed, if_true]
    rw [result]
    refine Or.inl ⟨data, status, all, ?_, stage, staged, rfl, rfl, rfl⟩
    rintro ⟨count, same, enough⟩
    rw [← all] at enough
    have less := same.2 
    have bound := same.1
    have larger := Nat.mul_le_mul_right maxPacketLength.toNat enough.le
    omega

end MuRockchip.Ohci
