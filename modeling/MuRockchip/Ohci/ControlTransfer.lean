/-
Control transfers (`Ohci.c`, `OhciControlTransfer`).

A control transfer takes an endpoint descriptor, a mapping of its request, a mapping of its
data if there are any, and the descriptors of its chain, in an order of its own: the setup
descriptor comes in front of the mapping of the data. Each label at its end gives back one
of these and goes on with the next, so that a failure jumps to what it has to give back.

* `controlChain_holds`: the stages hold the chain they have built, wherever they stop.
* `controlTransfer_balanced`: every way out of a control transfer gives back all of it.
-/
import MuRockchip.Ohci.Schedule

namespace MuRockchip.Ohci

open MuRockchip.Base

/-! ### The transfer -/

/-- The arguments of `OhciControlTransfer`. -/
structure ControlCall where
  deviceAddress : UInt8
  isSlowDevice : Bool
  maxPacketLength : UInt8
  transferDirection : EfiUsbDataDirection
  data : UInt64
  dataLength : UInt64
  timeOut : UInt64
  deriving DecidableEq, Repr

/-- What the call asks of the world. A request has eight bytes. -/
structure ControlAnswers (call : ControlCall) where
  ed : Option UInt32
  request : Except ErrorStatus (Mapping 8)
  data : Except ErrorStatus (Mapping call.dataLength)
  tds : List (Option UInt32)
  polls : Nat → Poll

/-- What the caller gets back. -/
structure ControlOutcome where
  status : EfiStatus
  dataLength : UInt64
  transferResult : Option UInt32
  dev : UsbOhciHcDev

/-- `DmaUnmap`, unless there is no mapping. -/
def UsbOhciHcDev.unmapUnlessNull (dev : UsbOhciHcDev) (mapping : UInt64) : UsbOhciHcDev :=
  if mapping ≠ 0 then dev.dmaUnmap mapping else dev

def freeEdBuff (dev : UsbOhciHcDev) (ed : UInt32) : UsbOhciHcDev :=
  { dev with mem := usbHcFreeDescriptor dev.mem ed }

def unmapSetupBuff (dev : UsbOhciHcDev) (ed : UInt32) (reqMapping : UInt64) : UsbOhciHcDev :=
  freeEdBuff (dev.unmapUnlessNull reqMapping) ed

def freeTdBuff (dev : UsbOhciHcDev) (ed headTd : UInt32) (reqMapping : UInt64) : UsbOhciHcDev :=
  unmapSetupBuff { dev with mem := freeTdChain walkLimit dev.mem headTd } ed reqMapping

/-- `UNMAP_DATA_BUFF`: the endpoint descriptor is skipped and taken off its list first. -/
def unmapDataBuff (dev : UsbOhciHcDev) (ed headEd headTd : UInt32)
    (reqMapping dataMapping : UInt64) : UsbOhciHcDev :=
  let mem := setSkip dev.mem ed 1
  let dev := { dev with mem := mem }
  let dev :=
    if headEd = ed then { dev with controlHead := 0 }
    else { dev with mem := setNextEd mem headEd (nextEd mem ed) }
  freeTdBuff (dev.unmapUnlessNull dataMapping) ed headTd reqMapping

/-- `OhciCreateED` and `OhciAttachEDToList`, with the fields set in between. -/
def createControlEd (dev : UsbOhciHcDev) (call : ControlCall) (answer : Option UInt32) :
    Option (UInt32 × UInt32 × UsbOhciHcDev) :=
  let dev := { dev with controlHead := 0 }
  match ohciCreateEd dev.mem answer with
  | none => none
  | some (ed, mem) =>
    let mem := mem.setEd ed
      (endpoint call.deviceAddress 0 call.isSlowDevice call.maxPacketLength)
    let (register, headEd, mem) := ohciAttachEdToList mem dev.controlHead ed
    some (ed, headEd, { dev with mem := mem, controlHead := register })

/-- `DataMapping`, `DataMapPhyAddr` and `DataMapLength`. -/
structure DataMap where
  mapping : UInt64
  mapPhyAddr : UInt64
  mapLength : UInt64

def mapData (call : ControlCall) (answer : Except ErrorStatus (Mapping call.dataLength))
    (dev : UsbOhciHcDev) : Except ErrorStatus (DataMap × UsbOhciHcDev) :=
  if call.data ≠ 0 ∧ call.dataLength ≠ 0 then
    match dev.dmaMap answer with
    | .error status => .error status
    | .ok (mapping, dev) => .ok (⟨mapping.handle, mapping.address, mapping.length⟩, dev)
  else .ok (⟨0, 0, call.dataLength⟩, dev)

def controlStages (call : ControlCall) (answers : ControlAnswers call) (ed headEd : UInt32)
    (setup : DataStage) (reqMapping : UInt64) (data : DataMap) (dev : UsbOhciHcDev) :
    ControlOutcome :=
  let (dataPid, statusPid) := controlPidDirs call.transferDirection
  let stage := controlChain dataPid statusPid call.maxPacketLength setup.answers dev.mem ed
    setup.head data.mapPhyAddr data.mapLength
  if stage.status.isError then
    ⟨stage.status, call.dataLength, none,
      unmapDataBuff { dev with mem := stage.mem } ed headEd stage.head reqMapping data.mapping⟩
  else
    let mem := setSkip stage.mem ed 0
    let waited := waitForDone
      (fun index => checkIfDone .controlList mem ed stage.head (answers.polls index))
      (call.timeOut.toNat + 1) 0 ⟨tdTobeProcessed, 0⟩
    -- the controller goes on until the descriptor is skipped
    let settled := (answers.polls (waited.last + 1)).observe mem
    { status := waited.status
      dataLength := if waited.edResult.errorCode ≠ tdNoError then 0 else call.dataLength
      transferResult := some (convertErrorCode waited.edResult.errorCode)
      dev := unmapDataBuff { dev with mem := settled } ed headEd stage.head reqMapping
        data.mapping }

def ohciControlTransfer (call : ControlCall) (answers : ControlAnswers call)
    (dev : UsbOhciHcDev) : ControlOutcome :=
  if ¬ ControlAccepts call.transferDirection call.isSlowDevice call.maxPacketLength call.data
      call.dataLength then
    ⟨EfiStatus.invalidParameter, call.dataLength, none, dev⟩
  else
    match createControlEd dev call answers.ed with
    | none => ⟨EfiStatus.outOfResources, call.dataLength, none, { dev with controlHead := 0 }⟩
    | some (ed, headEd, dev) =>
      match dev.dmaMap answers.request with
      | .error status => ⟨status.val, call.dataLength, none, freeEdBuff dev ed⟩
      | .ok (request, dev) =>
        let setup := setupStage answers.tds dev.mem request.address
        if setup.status.isError then
          ⟨setup.status, call.dataLength, none, unmapSetupBuff dev ed request.handle⟩
        else
          let dev := { dev with mem := setup.mem }
          match mapData call answers.data dev with
          | .error status =>
            ⟨status.val, call.dataLength, none, freeTdBuff dev ed setup.head request.handle⟩
          | .ok (data, dev) =>
            controlStages call answers ed headEd setup request.handle data dev

/-! ### What a transfer holds -/

/-- The descriptors `cells` were free where `live` says what was in use; they have been taken
from the pool since, and nothing else, and they are the chain at `head`. -/
structure Holds (live : UInt32 → Bool) (mem : Descriptors) (head : UInt32)
    (cells : List UInt32) : Prop where
  chain : Segment (nextTdPointer mem) head cells 0
  unused : ∀ cell ∈ cells, live cell = false
  taken : ∀ pointer, mem.live pointer = (live pointer || decide (pointer ∈ cells))

section

variable {live : UInt32 → Bool} {mem after : Descriptors} {head : UInt32}
  {old cells : List UInt32}

/-- Freeing the chain gives back all that was taken. -/
theorem Holds.free (holds : Holds live mem head cells) :
    (freeTdChain walkLimit mem head).live = live := by
  have enough : cells.length ≤ walkLimit := holds.chain.length_le
  rw [freeTdChain_eq holds.chain enough]
  funext pointer
  simp only [holds.taken]
  by_cases member : pointer ∈ cells
  · simp [member, holds.unused pointer member]
  · simp [member]

/-- The chain is held as long as the driver's links and the pool stay as they are. -/
theorem Holds.congr (holds : Holds live mem head cells)
    (links : nextTdPointer after = nextTdPointer mem) (same : after.live = mem.live) :
    Holds live after head cells where
  chain := links ▸ holds.chain
  unused := holds.unused
  taken pointer := by rw [same, holds.taken]

/-- More descriptors are taken and linked behind the chain. -/
theorem Holds.extend (holds : Holds live mem head old) {head' : UInt32}
    (chain : Segment (nextTdPointer after) head' (old ++ cells) 0)
    (fresh : ∀ cell ∈ cells, mem.live cell = false)
    (taken : ∀ pointer, after.live pointer = (mem.live pointer || decide (pointer ∈ cells))) :
    Holds live after head' (old ++ cells) where
  chain := chain
  unused cell member := by
    rcases List.mem_append.mp member with before | new
    · exact holds.unused cell before
    · have free := fresh cell new
      rw [holds.taken, Bool.or_eq_false_iff] at free
      exact free.1
  taken pointer := by
    rw [taken, holds.taken, Bool.or_assoc]
    congr 1
    simp [Bool.decide_or]

end

/-- Nothing is held of a chain that has not been started. -/
theorem Holds.nothing (mem : Descriptors) : Holds mem.live mem 0 [] :=
  ⟨rfl, by simp, by simp⟩

variable {live : UInt32 → Bool} {mem : Descriptors} {cells : List UInt32} {ed : UInt32}
  {after dev : UsbOhciHcDev} {call : ControlCall}

theorem Holds.place {after : Descriptors} {head head' td : UInt32} {old : List UInt32}
    {contents : TdDescriptor} (holds : Holds live mem head old) (fresh : Available mem.live td)
    (placed : Placed mem old td contents head' after) :
    Holds live after head' (old ++ [td]) := by
  refine holds.extend placed.ready.chain.driver (fun cell member => ?_) fun pointer => ?_
  · rw [List.mem_singleton.mp member]
    exact fresh.2.2
  · rw [placed.live]
    by_cases same : pointer = td
    · simp [same]
    · simp [same]

theorem Holds.stage {head : UInt32} {old : List UInt32} {pid : BitVec 2}
    {maxPacketLength toggle : UInt8} {address length : UInt64} {answers : List (Option UInt32)}
    {stage : DataStage} (holds : Holds live mem head old)
    (staged : Staged pid maxPacketLength mem old toggle address length answers stage cells) :
    Holds live stage.mem stage.head (old ++ cells) :=
  holds.extend staged.chain.driver (fun cell member => (staged.fresh.2 cell member).2.2)
    staged.live

theorem Holds.close {stage after : DataStage} {empty : UInt32} {queue : List UInt32}
    (holds : Holds live stage.mem stage.head cells)
    (closed : Closed stage ed queue cells empty after) :
    Holds live after.mem after.head (cells ++ [empty]) := by
  refine holds.extend closed.chain.driver (fun cell member => ?_) fun pointer => ?_
  · rw [List.mem_singleton.mp member]
    exact closed.fresh.2.2
  · rw [closed.live]
    by_cases same : pointer = empty
    · simp [same]
    · simp [same]

/-- Bulk and interrupt chains are held, whether they are complete or not. -/
theorem transferChain_holds (pid : BitVec 2) (maxPacketLength : UInt8) {queue : List UInt32}
    (queued : Queued mem ed queue) (toggle : UInt8) (address : UInt64) {length : UInt64}
    (some : length ≠ 0) (answers : List (Option UInt32)) :
    let stage := transferChain pid maxPacketLength answers mem ed toggle address length
    ∃ cells, Holds mem.live stage.mem stage.head cells := by
  intro stage
  rcases transferChain_spec pid maxPacketLength queued toggle address some answers with
    ⟨cells, starved⟩ | ⟨data, empty, complete⟩
  · obtain ⟨first, staged, memEq, headEq, -⟩ := starved.staged
    have holds := (Holds.nothing mem).stage staged
    rw [← memEq, ← headEq] at holds
    exact ⟨[] ++ cells, holds⟩
  · obtain ⟨first, staged, -, -, -, closed⟩ := complete.staged
    have holds := (Holds.nothing mem).stage staged
    rw [List.nil_append] at holds
    exact ⟨data ++ [empty], holds.close closed⟩

/-! ### The stages of a control transfer -/

theorem linkStage_of_isError {stage : DataStage} (failed : stage.status.isError = true)
    (contents : TdDescriptor) : linkStage contents stage = (stage, 0) := by
  rw [linkStage, if_pos failed]

theorem emptyStage_of_isError {stage : DataStage} (failed : stage.status.isError = true)
    (ed : UInt32) : emptyStage ed stage = stage := by
  simp only [emptyStage, linkStage_of_isError failed, failed, if_true]

theorem framingStages_holds (statusPid : BitVec 2) {stage : DataStage} {last : UInt32}
    (going : stage.status = EfiStatus.success)
    (ready : Ready stage.mem stage.head false (cells ++ [last]))
    (aligned : stage.head.toNat % 64 = 0) (queued : Queued stage.mem ed [])
    (holds : Holds live stage.mem stage.head (cells ++ [last])) :
    let after := emptyStage ed (linkStage (statusTd statusPid) stage).1
    ∃ taken, Holds live after.mem after.head taken := by
  intro after
  rcases linkStage_spec going ready (statusTd statusPid) ⟨rfl, rfl⟩ with
    ⟨-, status, memEq, headEq, -⟩ | ⟨td, answers, -, fresh, placed, result, -⟩
  · have failed : (linkStage (statusTd statusPid) stage).1.status.isError = true := by
      rw [status]
      rfl
    refine ⟨cells ++ [last], ?_⟩
    simp only [after, emptyStage_of_isError failed, memEq, headEq]
    exact holds
  have queued' : Queued (linkStage (statusTd statusPid) stage).1.mem ed [] :=
    placed.queued queued fresh (by simp)
  have holds' := holds.place fresh placed
  set linked := (linkStage (statusTd statusPid) stage).1
  have headEq : linked.head = stage.head := by rw [result]
  have going' : linked.status = EfiStatus.success := by rw [result]; exact going
  have ready' : Ready linked.mem linked.head false (cells ++ [last] ++ [td]) := by
    rw [headEq]
    exact placed.ready
  rw [← headEq] at holds' aligned
  rcases emptyStage_spec going' ready' aligned queued' (by simp) with
    ⟨-, -, memEq, sameHead, -⟩ | ⟨empty, closed⟩
  · rw [← memEq, ← sameHead] at holds'
    exact ⟨cells ++ [last] ++ [td], holds'⟩
  · exact ⟨cells ++ [last] ++ [td] ++ [empty], holds'.close closed⟩

theorem setupStage_spec (answers : List (Option UInt32)) (mem : Descriptors) (request : UInt64) :
    let stage := setupStage answers mem request
    stage.status.isError = true ∨ (stage.status.isError = false ∧
      Available mem.live stage.head ∧
      Placed mem [] stage.head (setupTd request) stage.head stage.mem) := by
  intro stage
  cases answers with
  | nil => exact Or.inl rfl
  | cons answer answers =>
    cases answer with
    | none => exact Or.inl rfl
    | some setup =>
      by_cases fresh : Available mem.live setup
      · obtain ⟨success, -, head, placed⟩ := setupStage_supplied fresh answers request
        refine Or.inr ⟨by rw [success]; rfl, ?_, ?_⟩
        · rw [head]
          exact fresh
        · rw [head]
          exact placed
      · refine Or.inl ?_
        simp only [stage, setupStage, ohciCreateTd, if_neg fresh]
        rfl

/-- The stages hold the chain they have built, wherever they stop. -/
theorem controlChain_holds (dataPid statusPid : BitVec 2) (maxPacketLength : UInt8) {setup : UInt32}
    (ready : Ready mem setup false [setup]) (aligned : setup.toNat % 64 = 0)
    (queued : Queued mem ed []) (holds : Holds live mem setup [setup])
    (answers : List (Option UInt32)) (address length : UInt64) :
    let stage := controlChain dataPid statusPid maxPacketLength answers mem ed setup address length
    ∃ cells, Holds live stage.mem stage.head cells := by
  obtain ⟨data, staged⟩ := dataStage_spec dataPid maxPacketLength ready 1 address length answers
  have holds' := holds.stage staged
  unfold controlChain
  set stage := dataStage dataPid maxPacketLength answers mem setup false 1 address length
  rcases staged.stopped with ⟨going, -⟩ | ⟨status, -⟩
  · have readyStatus := staged.ready ready (by simp)
    have queuedStatus := (staged.queued queued (by simp)).1
    have headEq : stage.head = setup := staged.chain.driver.1
    obtain ⟨cells, last, full⟩ := ([setup] ++ data).eq_nil_or_concat.resolve_left (by simp)
    rw [List.concat_eq_append] at full
    rw [full] at readyStatus holds'
    exact framingStages_holds statusPid going readyStatus (headEq ▸ aligned) queuedStatus holds'
  · have failed : stage.status.isError = true := by
      rw [status]
      rfl
    rw [linkStage_of_isError failed, emptyStage_of_isError failed]
    exact ⟨[setup] ++ data, holds'⟩

/-! ### What a transfer takes and gives back -/

/-- The endpoint descriptors and transfer descriptors, the mappings, the buffers and the
contexts in use are the same. -/
structure Balanced (before after : UsbOhciHcDev) : Prop where
  descriptors : after.mem.live = before.mem.live
  mappings : after.mapped = before.mapped
  buffers : after.buffer = before.buffer
  contexts : after.entryLive = before.entryLive

theorem Balanced.refl (dev : UsbOhciHcDev) : Balanced dev dev := ⟨rfl, rfl, rfl, rfl⟩

/-- A mapping that was made is in use, and was not before. -/
theorem dmaMap_ok {bytes : UInt64} {answer : Except ErrorStatus (Mapping bytes)}
    {mapping : Mapping bytes} (mapped : dev.dmaMap answer = .ok (mapping, after)) :
    dev.mapped mapping.handle = false ∧
      after = { dev with mapped := Function.update dev.mapped mapping.handle true } := by
  unfold UsbOhciHcDev.dmaMap at mapped
  split at mapped
  · cases mapped
  · split at mapped
    · cases mapped
    · next unused =>
      cases mapped
      exact ⟨Bool.eq_false_iff.mpr unused, rfl⟩

theorem update_false_of_update_true {K : Type} [DecidableEq K] {used : K → Bool} {key : K}
    (unused : used key = false) :
    Function.update (Function.update used key true) key false = used := by
  rw [Function.update_idem, ← unused, Function.update_eq_self]

/-- The descriptors `live` and the mappings `mapped` are in use, and the buffers and contexts
that were. -/
structure InUse (before : UsbOhciHcDev) (live : UInt32 → Bool) (mapped : UInt64 → Bool)
    (dev : UsbOhciHcDev) : Prop where
  descriptors : dev.mem.live = live
  mappings : dev.mapped = mapped
  buffers : dev.buffer = before.buffer
  contexts : dev.entryLive = before.entryLive

def mapUnlessNull (mapped : UInt64 → Bool) (handle : UInt64) : UInt64 → Bool :=
  if handle ≠ 0 then Function.update mapped handle true else mapped

section

variable {before dev : UsbOhciHcDev} {live : UInt32 → Bool} {mapped : UInt64 → Bool}

theorem InUse.balanced (inUse : InUse before before.mem.live before.mapped dev) :
    Balanced before dev :=
  ⟨inUse.descriptors, inUse.mappings, inUse.buffers, inUse.contexts⟩

theorem InUse.freeDescriptor {pointer : UInt32}
    (inUse : InUse before (Function.update live pointer true) mapped dev)
    (unused : live pointer = false) :
    InUse before live mapped { dev with mem := usbHcFreeDescriptor dev.mem pointer } where
  descriptors := by
    show Function.update dev.mem.live pointer false = live
    rw [inUse.descriptors, update_false_of_update_true unused]
  mappings := inUse.mappings
  buffers := inUse.buffers
  contexts := inUse.contexts

theorem InUse.dmaUnmap {handle : UInt64}
    (inUse : InUse before live (Function.update mapped handle true) dev)
    (unused : mapped handle = false) : InUse before live mapped (dev.dmaUnmap handle) where
  descriptors := inUse.descriptors
  mappings := by
    show Function.update dev.mapped handle false = mapped
    rw [inUse.mappings, update_false_of_update_true unused]
  buffers := inUse.buffers
  contexts := inUse.contexts

theorem InUse.unmapUnlessNull {handle : UInt64}
    (inUse : InUse before live (mapUnlessNull mapped handle) dev)
    (unused : handle ≠ 0 → mapped handle = false) :
    InUse before live mapped (dev.unmapUnlessNull handle) := by
  unfold mapUnlessNull at inUse
  unfold UsbOhciHcDev.unmapUnlessNull
  split
  · next some =>
    rw [if_pos some] at inUse
    exact inUse.dmaUnmap (unused some)
  · next null =>
    rw [if_neg null] at inUse
    exact inUse

variable {held : UInt32 → Bool}

theorem InUse.freeChain {head : UInt32} {cells : List UInt32} (inUse : InUse before held mapped dev)
    (holds : Holds live dev.mem head cells) :
    InUse before live mapped { dev with mem := freeTdChain walkLimit dev.mem head } :=
  ⟨holds.free, inUse.mappings, inUse.buffers, inUse.contexts⟩

/-! ### The ways out -/

variable {ed headEd headTd : UInt32} {cells : List UInt32} {request data : UInt64}

theorem unmapSetupBuff_balanced
    (inUse : InUse before (Function.update before.mem.live ed true)
      (mapUnlessNull before.mapped request) dev)
    (fresh : before.mem.live ed = false) (unused : request ≠ 0 → before.mapped request = false) :
    Balanced before (unmapSetupBuff dev ed request) :=
  ((inUse.unmapUnlessNull unused).freeDescriptor fresh).balanced

theorem freeTdBuff_balanced (inUse : InUse before held (mapUnlessNull before.mapped request) dev)
    (holds : Holds (Function.update before.mem.live ed true) dev.mem headTd cells)
    (fresh : before.mem.live ed = false) (unused : request ≠ 0 → before.mapped request = false) :
    Balanced before (freeTdBuff dev ed headTd request) :=
  unmapSetupBuff_balanced (inUse.freeChain holds) fresh unused

theorem unmapDataBuff_balanced
    (inUse : InUse before held (mapUnlessNull (mapUnlessNull before.mapped request) data) dev)
    (holds : Holds (Function.update before.mem.live ed true) dev.mem headTd cells)
    (fresh : before.mem.live ed = false) (unused : request ≠ 0 → before.mapped request = false)
    (unused' : data ≠ 0 → mapUnlessNull before.mapped request data = false) :
    Balanced before (unmapDataBuff dev ed headEd headTd request data) := by
  obtain ⟨descriptors, mappings, buffers, contexts⟩ := inUse
  unfold unmapDataBuff
  -- taking the descriptor off its list changes no link of the chain
  set off : UsbOhciHcDev := if headEd = ed
    then { dev with mem := setSkip dev.mem ed 1, controlHead := 0 }
    else { dev with
      mem := setNextEd (setSkip dev.mem ed 1) headEd (nextEd (setSkip dev.mem ed 1) ed) }
    with offEq
  have inUse :
      InUse before held (mapUnlessNull (mapUnlessNull before.mapped request) data) off := by
    rw [offEq]
    split <;> exact ⟨descriptors, mappings, buffers, contexts⟩
  have holds' : Holds (Function.update before.mem.live ed true) off.mem headTd cells := by
    rw [offEq]
    split <;> exact holds.congr rfl rfl
  have same : (off.unmapUnlessNull data).mem = off.mem := by
    unfold UsbOhciHcDev.unmapUnlessNull
    split <;> rfl
  exact freeTdBuff_balanced (inUse.unmapUnlessNull unused') (same ▸ holds') fresh unused

end

/-- The endpoint descriptor is the whole control list. -/
theorem createControlEd_some {answer : Option UInt32} {headEd : UInt32}
    (created : createControlEd dev call answer = some (ed, headEd, after)) :
    Available dev.mem.live ed ∧ Queued after.mem ed [] ∧
      after.mem.live = Function.update dev.mem.live ed true ∧ after.mapped = dev.mapped ∧
      after.buffer = dev.buffer ∧ after.entryLive = dev.entryLive := by
  cases answer with
  | none => cases created
  | some ed' =>
    by_cases fresh : Available dev.mem.live ed'
    · simp only [createControlEd, ohciCreateEd, if_pos fresh, ohciAttachEdToList, if_true,
        Option.some.injEq, Prod.mk.injEq] at created
      obtain ⟨rfl, rfl, rfl⟩ := created
      exact ⟨fresh, Queued.empty (by simp [endpoint]), rfl, rfl, rfl, rfl⟩
    · simp only [createControlEd, ohciCreateEd, if_neg fresh] at created
      cases created

theorem mapData_ok {answer : Except ErrorStatus (Mapping call.dataLength)} {data : DataMap}
    (mapped : mapData call answer dev = .ok (data, after)) :
    (data.mapping ≠ 0 → dev.mapped data.mapping = false) ∧
      after = { dev with mapped := mapUnlessNull dev.mapped data.mapping } := by
  unfold mapData at mapped
  split at mapped
  · cases opened : dev.dmaMap answer with
    | error status => simp [opened] at mapped
    | ok pair =>
      obtain ⟨mapping, after'⟩ := pair
      obtain ⟨unused, same⟩ := dmaMap_ok opened
      simp only [opened, Except.ok.injEq, Prod.mk.injEq] at mapped
      obtain ⟨rfl, rfl⟩ := mapped
      exact ⟨fun _ => unused, by rw [same, mapUnlessNull, if_pos mapping.nonnull]⟩
  · cases mapped
    exact ⟨fun some => absurd rfl some, rfl⟩

theorem controlStages_balanced {before : UsbOhciHcDev} (answers : ControlAnswers call)
    (headEd : UInt32) {setup : DataStage} {request : UInt64} (data : DataMap)
    (inUse : InUse before dev.mem.live
      (mapUnlessNull (mapUnlessNull before.mapped request) data.mapping) dev)
    (ready : Ready dev.mem setup.head false [setup.head]) (aligned : setup.head.toNat % 64 = 0)
    (queued : Queued dev.mem ed [])
    (holds : Holds (Function.update before.mem.live ed true) dev.mem setup.head [setup.head])
    (fresh : before.mem.live ed = false) (unused : request ≠ 0 → before.mapped request = false)
    (unused' : data.mapping ≠ 0 → mapUnlessNull before.mapped request data.mapping = false) :
    Balanced before (controlStages call answers ed headEd setup request data dev).dev := by
  obtain ⟨cells, held⟩ := controlChain_holds (controlPidDirs call.transferDirection).1
    (controlPidDirs call.transferDirection).2 call.maxPacketLength ready aligned queued holds
    setup.answers data.mapPhyAddr data.mapLength
  unfold controlStages
  simp only
  generalize controlChain (controlPidDirs call.transferDirection).1
    (controlPidDirs call.transferDirection).2 call.maxPacketLength setup.answers dev.mem ed
    setup.head data.mapPhyAddr data.mapLength = stage at held ⊢
  have taken (mem : Descriptors) : InUse before mem.live
      (mapUnlessNull (mapUnlessNull before.mapped request) data.mapping)
      { dev with mem := mem } :=
    ⟨rfl, inUse.mappings, inUse.buffers, inUse.contexts⟩
  split
  · exact unmapDataBuff_balanced (taken stage.mem) held fresh unused unused'
  · refine unmapDataBuff_balanced (taken _) (held.congr ?_ rfl) fresh unused unused'
    rw [Poll.nextTdPointer_observe]
    rfl

/-- Every way out of a control transfer gives back all that it has taken. -/
theorem controlTransfer_balanced (call : ControlCall) (answers : ControlAnswers call)
    (dev : UsbOhciHcDev) : Balanced dev (ohciControlTransfer call answers dev).dev := by
  unfold ohciControlTransfer
  split
  · exact .refl dev
  cases created : createControlEd dev call answers.ed with
  | none => exact ⟨rfl, rfl, rfl, rfl⟩
  | some triple =>
    obtain ⟨ed, headEd, attached⟩ := triple
    obtain ⟨available, queued, live, mapped, buffer, entryLive⟩ := createControlEd_some created
    have fresh : dev.mem.live ed = false := available.2.2
    simp only
    cases opened : attached.dmaMap answers.request with
    | error status =>
      have inUse : InUse dev (Function.update dev.mem.live ed true) dev.mapped attached :=
        ⟨live, mapped, buffer, entryLive⟩
      exact (inUse.freeDescriptor fresh).balanced
    | ok pair =>
      obtain ⟨request, withRequest⟩ := pair
      obtain ⟨unused, rfl⟩ := dmaMap_ok opened
      rw [mapped] at unused
      have requested : mapUnlessNull dev.mapped request.handle =
          Function.update dev.mapped request.handle true := if_pos request.nonnull
      simp only
      rcases setupStage_spec answers.tds attached.mem request.address with
        failed | ⟨fine, available', placed⟩
      · rw [if_pos failed]
        refine unmapSetupBuff_balanced ⟨live, ?_, buffer, entryLive⟩ fresh fun _ => unused
        rw [requested, mapped]
      rw [if_neg (by rw [fine]; exact Bool.false_ne_true)]
      set setup := setupStage answers.tds attached.mem request.address
      have holds : Holds (Function.update dev.mem.live ed true) setup.mem setup.head
          [setup.head] := by
        have nothing := Holds.nothing attached.mem
        rw [live] at nothing
        exact nothing.place available' placed
      cases mappedData : mapData call answers.data
          { attached with
            mem := setup.mem, mapped := Function.update attached.mapped request.handle true } with
      | error status =>
        refine freeTdBuff_balanced ⟨rfl, ?_, buffer, entryLive⟩ holds fresh fun _ => unused
        rw [requested, mapped]
      | ok pair =>
        obtain ⟨data, withData⟩ := pair
        obtain ⟨unused', rfl⟩ := mapData_ok mappedData
        have taken : Function.update attached.mapped request.handle true =
            mapUnlessNull dev.mapped request.handle := by rw [requested, mapped]
        refine controlStages_balanced answers headEd data
          ⟨rfl, ?_, buffer, entryLive⟩ placed.ready available'.2.1
          (placed.queued queued available' (by simp)) holds fresh (fun _ => unused) ?_
        · show mapUnlessNull (Function.update attached.mapped request.handle true) data.mapping = _
          rw [taken]
        · rw [← taken]
          exact unused'

end MuRockchip.Ohci
