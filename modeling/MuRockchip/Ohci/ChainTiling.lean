/-
How the descriptor chains of the OHCI transfers tile their buffers.

The data stages of control, bulk and interrupt transfers cut the mapped buffer into
packets. Where the packet size is not zero, and the pool hands out a descriptor for each
packet, the chain holds the whole buffer in order, with alternating toggles, and one empty
descriptor closes it.

* `tilesRange_of_packets`: what the loop builds tiles the mapped range.
* `chains_tile_iff`: control, bulk and interrupt chains tile it for all parameters their
  entry points accept, but for interrupt packets of no bytes, which never end
  (`empty_packets_never_end`).
-/
import Mathlib.Tactic.IntervalCases
import MuRockchip.Ohci.TransferChain

namespace MuRockchip.Ohci

open MuRockchip.Base

/-! ### Tilings -/

/-- The buffers of the descriptors tile a range, in order: each is at most one packet, all
but the last exactly one, and the toggles alternate. -/
structure TilesRange (maxPacketLength address length toggle : Nat) (tds : List TdDescriptor) :
    Prop where
  count : length ≤ tds.length * maxPacketLength ∧
    tds.length * maxPacketLength < length + maxPacketLength
  start : ∀ (index : Nat) (td : TdDescriptor), tds[index]? = some td →
    td.dataBuffer.toNat = address + index * maxPacketLength ∧
      td.currBufferPointer = td.dataBuffer
  size : ∀ (index : Nat) (td : TdDescriptor), tds[index]? = some td → td.actualSendLength.toNat =
    if index + 1 = tds.length then length - index * maxPacketLength else maxPacketLength
  bounds : ∀ (index : Nat) (td : TdDescriptor), tds[index]? = some td →
    0 < td.actualSendLength.toNat ∧ td.actualSendLength.toNat ≤ maxPacketLength
  stop : ∀ (index : Nat) (td : TdDescriptor), tds[index]? = some td →
    td.bufferEndPointer.toNat + 1 = td.dataBuffer.toNat + td.actualSendLength.toNat
  toggles : ∀ (index : Nat) (td : TdDescriptor), tds[index]? = some td →
    td.dataToggle.toNat = 2 + (toggle + index) % 2

theorem tdToggle_toNat (toggle : UInt8) : (tdToggle toggle).toNat = 2 + toggle.toNat % 2 := by
  have low : (toggle.toNat ||| 2) % 4 = (toggle.toNat % 4) ||| 2 :=
    Nat.or_mod_two_pow (n := 2)
  have bound : toggle.toNat % 4 < 4 := Nat.mod_lt _ (by omega)
  have halves : toggle.toNat % 2 = toggle.toNat % 4 % 2 := by omega
  rw [tdToggle, BitVec.toNat_ofNat, low, halves]
  generalize toggle.toNat % 4 = digit at bound
  interval_cases digit <;> rfl

variable {count : Nat} {maxPacketLength toggle : UInt8} {address length : UInt64}
  {cells supply : List UInt32} {mem : Descriptors} {pid : BitVec 2}

/-- The loop has one packet less to go after a round. -/
theorem Exhausts.pred {leftLength : UInt64}
    (exhausts : Exhausts maxPacketLength leftLength (count + 1)) :
    Exhausts maxPacketLength (leftLength - actualSendLength maxPacketLength leftLength) count := by
  have left := leftLength_toNat maxPacketLength leftLength
  have enough := exhausts.1
  rw [Nat.succ_mul] at enough
  refine ⟨by omega, fun fewer less => ?_⟩
  have short := exhausts.2 (fewer + 1) (Nat.succ_lt_succ less)
  rw [Nat.succ_mul] at short
  omega

/-- One packet of a mapped range, by its place in the chain. -/
structure PacketAt (maxPacketLength address length toggle index : Nat) (td : TdDescriptor) :
    Prop where
  start : td.dataBuffer.toNat = address + index * maxPacketLength
  current : td.currBufferPointer = td.dataBuffer
  size : td.actualSendLength.toNat = min maxPacketLength (length - index * maxPacketLength)
  stop : td.bufferEndPointer.toNat + 1 = td.dataBuffer.toNat + td.actualSendLength.toNat
  toggle : td.dataToggle.toNat = 2 + (toggle + index) % 2

theorem packetAt_of_packets (packets : Packets pid maxPacketLength mem cells toggle address length)
    (exhausts : Exhausts maxPacketLength length cells.length) (nonzero : maxPacketLength ≠ 0)
    (reachable : address.toNat + length.toNat ≤ 2 ^ 32) {index : Nat} {cell : UInt32}
    (there : cells[index]? = some cell) :
    PacketAt maxPacketLength.toNat address.toNat length.toNat toggle.toNat index (mem.td cell) := by
  induction cells generalizing toggle address length index with
  | nil => simp at there
  | cons td rest ih =>
    have positive := exhausts.2 0 (Nat.succ_pos _)
    rw [Nat.zero_mul] at positive
    have maxPositive : 0 < maxPacketLength.toNat :=
      Nat.pos_of_ne_zero fun zero => nonzero (UInt8.toNat_inj.mp zero)
    have size := actualSendLength_toNat maxPacketLength length
    have left := leftLength_toNat maxPacketLength length
    have maxBound := maxPacketLength.toNat_lt
    cases index with
    | zero =>
      simp only [List.getElem?_cons_zero, Option.some.injEq] at there
      subst there
      have contents := packets.1
      have start := congrArg TdDescriptor.dataBuffer contents
      have current := congrArg TdDescriptor.currBufferPointer contents
      have sizeField := congrArg TdDescriptor.actualSendLength contents
      have stop := congrArg TdDescriptor.bufferEndPointer contents
      have toggleField := congrArg TdDescriptor.dataToggle contents
      simp only [TdDescriptor.unlinked, dataTd] at start current sizeField stop toggleField
      have startNat : (mem.td td).dataBuffer.toNat = address.toNat := by
        rw [start, UInt64.toNat_toUInt32]
        exact Nat.mod_eq_of_lt (by omega)
      have sizeNat : (mem.td td).actualSendLength.toNat =
          min maxPacketLength.toNat length.toNat := by
        rw [sizeField, UInt64.toNat_toUInt32, size]
        exact Nat.mod_eq_of_lt (by omega)
      refine ⟨by simpa using startNat, current.trans start.symm, by simpa using sizeNat, ?_, ?_⟩
      · rw [stop, UInt64.toNat_toUInt32, UInt64.toNat_sub, UInt64.toNat_add, size, startNat,
          sizeNat]
        simp only [UInt64.reduceToNat]
        omega
      · rw [toggleField, tdToggle_toNat, Nat.add_zero]
    | succ index =>
      simp only [List.getElem?_cons_succ] at there
      have next : (address + actualSendLength maxPacketLength length).toNat =
          address.toNat + min maxPacketLength.toNat length.toNat := by
        rw [UInt64.toNat_add, size]
        exact Nat.mod_eq_of_lt (by omega)
      have tail := ih packets.2 (Exhausts.pred exhausts) (by rw [next, left]; omega) there
      have more : maxPacketLength.toNat < length.toNat := by
        have short := exhausts.2 1 (by
          cases rest with
          | nil => simp at there
          | cons => simp)
        rwa [Nat.one_mul] at short
      have start := tail.start
      have sizeField := tail.size
      have toggleField := tail.toggle
      rw [next] at start
      rw [left] at sizeField
      refine ⟨?_, tail.current, ?_, tail.stop, ?_⟩
      · rw [start, Nat.succ_mul]
        omega
      · rw [sizeField, Nat.succ_mul]
        omega
      · have flipped := flip_toNat toggle
        rw [toggleField]
        omega

/-- What the loop builds tiles the mapped range. -/
theorem tilesRange_of_packets
    (packets : Packets pid maxPacketLength mem cells toggle address length)
    (exhausts : Exhausts maxPacketLength length cells.length) (nonzero : maxPacketLength ≠ 0)
    (reachable : address.toNat + length.toNat ≤ 2 ^ 32) :
    TilesRange maxPacketLength.toNat address.toNat length.toNat toggle.toNat
      (cells.map mem.td) := by
  have maxPositive : 0 < maxPacketLength.toNat :=
    Nat.pos_of_ne_zero fun zero => nonzero (UInt8.toNat_inj.mp zero)
  have piece (index : Nat) (td : TdDescriptor) (there : (cells.map mem.td)[index]? = some td) :
      index < cells.length ∧
        PacketAt maxPacketLength.toNat address.toNat length.toNat toggle.toNat index td := by
    rw [List.getElem?_map, Option.map_eq_some_iff] at there
    obtain ⟨cell, there, rfl⟩ := there
    exact ⟨(List.getElem?_eq_some_iff.mp there).1,
      packetAt_of_packets packets exhausts nonzero reachable there⟩
  have size (index : Nat) (inside : index < cells.length) :
      min maxPacketLength.toNat (length.toNat - index * maxPacketLength.toNat) =
        (if index + 1 = cells.length then length.toNat - index * maxPacketLength.toNat
          else maxPacketLength.toNat) ∧ index * maxPacketLength.toNat < length.toNat := by
    have before := exhausts.2 index inside
    refine ⟨?_, before⟩
    by_cases last : index + 1 = cells.length
    · have enough := exhausts.1
      rw [← last, Nat.succ_mul] at enough
      rw [if_pos last]
      omega
    · have more := exhausts.2 (index + 1) (by omega)
      rw [Nat.succ_mul] at more
      rw [if_neg last]
      omega
  refine ⟨?_, ?_, ?_, ?_, ?_, ?_⟩
  · rw [List.length_map]
    refine ⟨exhausts.1, ?_⟩
    cases empty : cells.length with
    | zero => omega
    | succ count =>
      have before := exhausts.2 count (by omega)
      rw [Nat.succ_mul]
      omega
  · intro index td there
    obtain ⟨-, packet⟩ := piece index td there
    exact ⟨packet.start, packet.current⟩
  · intro index td there
    obtain ⟨inside, packet⟩ := piece index td there
    rw [List.length_map, packet.size]
    exact (size index inside).1
  · intro index td there
    obtain ⟨inside, packet⟩ := piece index td there
    have before := (size index inside).2
    rw [packet.size]
    omega
  · intro index td there
    exact (piece index td there).2.stop
  · intro index td there
    exact (piece index td there).2.toggle

/-! ### Submissions -/

/-- The entry points that build a chain. -/
inductive EntryPoint
  | controlTransfer (transferDirection : EfiUsbDataDirection)
  | bulkTransfer
  | asyncInterruptTransfer (pollingInterval : UInt64)
  | syncInterruptTransfer
  deriving DecidableEq, Repr

/-- A call of an entry point, and the mappings it is given. -/
structure Submission where
  entry : EntryPoint
  endPointAddress : UInt8
  isSlowDevice : Bool
  maxPacketLength : UInt8
  data : UInt64
  dataLength : UInt64
  dataToggle : UInt8
  reqMapPhyAddr : UInt64
  mapPhyAddr : UInt64
  mapLength : UInt64
  deriving DecidableEq, Repr

namespace Submission

/-- The entry point goes on with the parameters. -/
def Accepted (submission : Submission) : Prop :=
  match submission.entry with
  | .controlTransfer transferDirection =>
    ControlAccepts transferDirection submission.isSlowDevice submission.maxPacketLength
      submission.data submission.dataLength
  | .bulkTransfer =>
    BulkAccepts submission.maxPacketLength submission.data submission.dataLength
      submission.dataToggle
  | .asyncInterruptTransfer pollingInterval =>
    AsyncInterruptAccepts submission.endPointAddress true submission.dataToggle pollingInterval
      submission.dataLength ∧ submission.dataLength ≤ maxBytesPerTd
  | .syncInterruptTransfer =>
    SyncInterruptAccepts submission.endPointAddress submission.isSlowDevice
      submission.maxPacketLength submission.data submission.dataLength submission.dataToggle ∧
      submission.dataLength ≤ maxBytesPerTd

/-- What `DmaMap` promises: bytes of the buffer, where the controller reaches them. -/
structure Mapped (submission : Submission) : Prop where
  positive : submission.dataLength ≠ 0 → submission.mapLength ≠ 0
  bounded : submission.mapLength ≤ submission.dataLength
  reachable : submission.mapPhyAddr.toNat + submission.mapLength.toNat ≤ 2 ^ 32

/-- The toggle of the first packet: a control transfer has its own. -/
def initialToggle (submission : Submission) : UInt8 :=
  match submission.entry with
  | .controlTransfer _ => 1
  | _ => submission.dataToggle

def build (submission : Submission) (answers : List (Option UInt32)) (mem : Descriptors)
    (ed : UInt32) : DataStage :=
  match submission.entry with
  | .controlTransfer transferDirection =>
    controlTransferChain transferDirection submission.maxPacketLength answers mem ed
      submission.reqMapPhyAddr submission.mapPhyAddr submission.mapLength
  | _ =>
    transferChain (dataPidDir submission.endPointAddress) submission.maxPacketLength answers mem
      ed submission.dataToggle submission.mapPhyAddr submission.mapLength

/-- How many descriptors stand in front of the packets and behind them. -/
def framing (submission : Submission) : Nat :=
  match submission.entry with
  | .controlTransfer _ => 1
  | _ => 0

/-- The chain a supply of descriptors was made into: `data` holds the packets, and `empty`
closes it. -/
structure Built (submission : Submission) (ed : UInt32) (queue supply : List UInt32)
    (front data back : List UInt32) (empty : UInt32) (stage : DataStage) : Prop where
  status : stage.status = EfiStatus.success
  all : supply = front ++ data ++ back ++ [empty]
  framed : front.length = submission.framing ∧ back.length = submission.framing
  chain : TdChain stage.mem stage.head supply
  tiles : TilesRange submission.maxPacketLength.toNat submission.mapPhyAddr.toNat
    submission.mapLength.toNat submission.initialToggle.toNat (data.map stage.mem.td)
  armed : ∀ cell ∈ front ++ data ++ back, (stage.mem.td cell).conditionCode = tdTobeProcessed
  zeroed : stage.mem.td empty = TdDescriptor.zero
  tail : (stage.mem.ed ed).tdTailPointer = empty
  queued : Segment (nextTd stage.mem) (tdPtr (stage.mem.ed ed).tdHeadPointer) (queue ++ supply) 0
  toggle : stage.toggle =
    if data.length % 2 = 0 then submission.initialToggle else submission.initialToggle ^^^ 1

/-- The stages end, and build the chain: there is a number of descriptors that is enough, on
every queue whose head is reached and whatever the pool hands out. -/
def BuildsChain (submission : Submission) : Prop :=
  ∃ count ≤ submission.mapLength.toNat + 2 * submission.framing + 1,
    ∀ (mem : Descriptors) (ed : UInt32) (queue supply : List UInt32)
      (rest : List (Option UInt32)),
      Queued mem ed queue → HeadReached mem ed → Fresh mem.live supply → supply.length = count →
      ∃ front data back empty, submission.Built ed queue supply front data back empty
        (submission.build (supply.map some ++ rest) mem ed)

end Submission

/-! ### Supplies that are enough -/

theorem exists_exhausts (nonzero : maxPacketLength ≠ 0) (leftLength : UInt64) :
    ∃ count ≤ leftLength.toNat, Exhausts maxPacketLength leftLength count := by
  have positive : 0 < maxPacketLength.toNat :=
    Nat.pos_of_ne_zero fun zero => nonzero (UInt8.toNat_inj.mp zero)
  have enough : ∃ count, leftLength.toNat ≤ count * maxPacketLength.toNat :=
    ⟨leftLength.toNat, Nat.le_mul_of_pos_right _ positive⟩
  refine ⟨Nat.find enough, Nat.find_min' enough (Nat.le_mul_of_pos_right _ positive),
    Nat.find_spec enough, fun fewer less => Nat.not_le.mp (Nat.find_min enough less)⟩

theorem dataStage_supplied (pid : BitVec 2) {head : UInt32} {firstTd : Bool} {old : List UInt32}
    (ready : Ready mem head firstTd old) (toggle : UInt8) (address : UInt64)
    (exhausts : Exhausts maxPacketLength length count) (fresh : Fresh mem.live supply)
    (many : count ≤ supply.length) (rest : List (Option UInt32)) :
    ∃ data tail, supply = data ++ tail ∧ data.length = count ∧
      let stage := dataStage pid maxPacketLength (supply.map some ++ rest) mem head firstTd toggle
        address length
      stage.status = EfiStatus.success ∧ stage.answers = tail.map some ++ rest ∧
        Staged pid maxPacketLength mem old toggle address length (supply.map some ++ rest) stage
          data := by
  obtain ⟨data, staged⟩ := dataStage_spec pid maxPacketLength ready toggle address length
    (supply.map some ++ rest)
  rcases staged.stopped with ⟨status, exhausts', supplied⟩ | ⟨-, all, more⟩
  · have same := exhausts'.unique exhausts
    have cut : (supply.take count).map some ++ ((supply.drop count).map some ++ rest) =
        data.map some ++ (dataStage pid maxPacketLength (supply.map some ++ rest) mem head firstTd
          toggle address length).answers := by
      rw [← List.append_assoc, ← List.map_append, List.take_append_drop]
      exact supplied
    obtain ⟨front, behind⟩ := List.append_inj cut (by simp [many, same])
    have taken := List.map_injective_iff.mpr (Option.some_injective UInt32) front
    refine ⟨data, supply.drop count, ?_, same, status, behind.symm, staged⟩
    rw [← taken, List.take_append_drop]
  · rw [granted_supply fresh] at all
    have larger : count ≤ data.length := by
      rw [all, List.length_append]
      omega
    have enough := exhausts.1
    have product := Nat.mul_le_mul_right maxPacketLength.toNat larger
    omega

theorem transferChain_complete (pid : BitVec 2) {ed : UInt32} {queue : List UInt32}
    (queued : Queued mem ed queue) (toggle : UInt8) (address : UInt64) (some : length ≠ 0)
    (exhausts : Exhausts maxPacketLength length count) (fresh : Fresh mem.live supply)
    (many : supply.length = count + 1) (rest : List (Option UInt32)) :
    ∃ data empty, supply = data ++ [empty] ∧ data.length = count ∧
      Complete pid maxPacketLength mem ed queue toggle address length (supply.map .some ++ rest)
        data empty
        (transferChain pid maxPacketLength (supply.map .some ++ rest) mem ed toggle address
          length) := by
  have handed := granted_supply fresh rest
  rcases transferChain_spec pid maxPacketLength queued toggle address some
    (supply.map .some ++ rest) with ⟨cells, starved⟩ | ⟨data, empty, complete⟩
  · refine absurd ⟨count, exhausts, ?_⟩ starved.short
    rw [handed, List.length_append]
    omega
  · obtain ⟨stage, -, -, exhausts', supplied, closed⟩ := complete.staged
    have same := exhausts'.unique exhausts
    rw [closed.supply] at supplied
    refine ⟨data, empty, ?_, same, complete⟩
    have front : supply.map .some ++ rest =
        (data ++ [empty]).map .some ++ (transferChain pid maxPacketLength
          (supply.map .some ++ rest) mem ed toggle address length).answers := by
      rw [List.map_append, List.append_assoc]
      exact supplied
    have cut := (List.append_inj front (by simp [many, same])).1
    exact List.map_injective_iff.mpr (Option.some_injective UInt32) cut

/-- Every packet is one the controller has yet to process. -/
theorem armed_of_packets (packets : Packets pid maxPacketLength mem cells toggle address length) :
    ∀ cell ∈ cells, (mem.td cell).conditionCode = tdTobeProcessed := by
  induction cells generalizing toggle address length with
  | nil => simp
  | cons td rest ih =>
    intro cell member
    rcases List.mem_cons.mp member with rfl | inRest
    · exact congrArg TdDescriptor.conditionCode packets.1
    · exact ih packets.2 cell inRest

/-- The stages of a control transfer behind its setup descriptor have built their chain. -/
structure ControlBuilt (dataPid statusPid : BitVec 2) (maxPacketLength : UInt8)
    (first : Descriptors) (ed setup : UInt32) (queue : List UInt32) (address length : UInt64)
    (data : List UInt32) (status empty : UInt32) (after : DataStage) : Prop where
  success : after.status = EfiStatus.success
  chain : TdChain after.mem after.head ([setup] ++ data ++ [status] ++ [empty])
  setupKept : (after.mem.td setup).unlinked = (first.td setup).unlinked
  packets : Packets dataPid maxPacketLength after.mem data 1 address length
  statusFilled : (after.mem.td status).unlinked = (statusTd statusPid).unlinked
  zeroed : after.mem.td empty = TdDescriptor.zero
  tail : (after.mem.ed ed).tdTailPointer = empty
  queued : Segment (nextTd after.mem) (tdPtr (after.mem.ed ed).tdHeadPointer)
    (queue ++ ([setup] ++ data ++ [status] ++ [empty])) 0
  toggle : after.toggle = flips 1 data.length

theorem controlBuilt_of_staged {dataPid : BitVec 2} (statusPid : BitVec 2) {first : Descriptors}
    {ed setup status empty : UInt32} {queue data : List UInt32}
    {answers rest : List (Option UInt32)} {stage : DataStage}
    (staged : Staged dataPid maxPacketLength first [setup] 1 address length answers stage data)
    (success : stage.status = EfiStatus.success) (ready : Ready first setup false [setup])
    (aligned : setup.toNat % 64 = 0) (queued : Queued first ed queue)
    (apart : ∀ cell ∈ queue, cell ∉ [setup])
    (supply : stage.answers = some status :: some empty :: rest)
    (fresh : Fresh stage.mem.live [status, empty]) :
    ControlBuilt dataPid statusPid maxPacketLength first ed setup queue address length data status
      empty (emptyStage ed (linkStage (statusTd statusPid) stage).1) := by
  obtain ⟨queuedData, notData⟩ := staged.queued queued apart
  have readyStatus := staged.ready ready (by simp)
  obtain ⟨cells, last, full⟩ := ([setup] ++ data).eq_nil_or_concat.resolve_left (by simp)
  rw [List.concat_eq_append] at full
  rw [full] at readyStatus notData
  have statusFresh := fresh.2 status List.mem_cons_self
  obtain ⟨placed, result⟩ := linkStage_supplied success readyStatus (statusTd statusPid)
    ⟨rfl, rfl⟩ supply statusFresh
  have queuedStatus := placed.queued queuedData statusFresh notData
  generalize (linkStage (statusTd statusPid) stage).1 = linked at placed result queuedStatus
  have emptyFresh : Available linked.mem.live empty := by
    rw [placed.live]
    exact fresh.tail.2 empty List.mem_cons_self
  have notStatus : ∀ cell ∈ queue, cell ∉ cells ++ [last] ++ [status] := by
    intro cell member inside
    rcases List.mem_append.mp inside with before | there
    · exact notData cell member before
    · exact queuedData.ne_of_available member statusFresh (List.mem_singleton.mp there)
  have sameHead : linked.head = stage.head := by rw [result]
  have headEq : linked.head = setup := sameHead.trans staged.chain.driver.1
  have supplied : linked.answers = some empty :: rest := by rw [result]
  have toggle : linked.toggle = stage.toggle := by rw [result]
  have going : linked.status = EfiStatus.success := by rw [result]; exact success
  have readyEmpty : Ready linked.mem linked.head false (cells ++ [last] ++ [status]) := by
    rw [sameHead]
    exact placed.ready
  rcases emptyStage_spec going readyEmpty (by rw [headEq]; exact aligned) queuedStatus notStatus
    with ⟨nothing, -⟩ | ⟨empty', closed⟩
  · rw [supplied, granted, if_pos emptyFresh] at nothing
    exact absurd nothing (List.cons_ne_nil _ _)
  obtain rfl : empty = empty' := by
    have next := closed.supply
    rw [supplied] at next
    simpa using congrArg List.head? next
  rw [← full] at closed placed
  have kept : ∀ cell ∈ [setup] ++ data,
      ((emptyStage ed linked).mem.td cell).unlinked = (stage.mem.td cell).unlinked :=
    fun cell member => (closed.contents cell (List.mem_append_left [status] member)).trans
      (placed.kept cell member)
  refine ⟨closed.status, closed.chain, ?_, ?_, ?_, closed.zeroed, closed.tail, closed.queued, ?_⟩
  · rw [kept setup (List.mem_append_left data List.mem_cons_self)]
    exact staged.kept setup List.mem_cons_self
  · exact packets_congr (fun cell member => kept cell (List.mem_append_right [setup] member))
      staged.packets
  · rw [closed.contents status (by simp)]
    exact placed.contents
  · rw [closed.toggle, toggle, staged.toggle]

theorem armed_of_unlinked {td contents : TdDescriptor} (same : td.unlinked = contents.unlinked) :
    td.conditionCode = contents.conditionCode :=
  (congrArg TdDescriptor.conditionCode same :)

namespace Submission

variable {submission : Submission}

/-- Bulk and interrupt transfers share their stages, and start from the toggle of the caller. -/
theorem stages_of_unframed (unframed : submission.framing = 0) :
    submission.initialToggle = submission.dataToggle ∧ ∀ answers mem ed,
      submission.build answers mem ed =
        transferChain (dataPidDir submission.endPointAddress) submission.maxPacketLength answers
          mem ed submission.dataToggle submission.mapPhyAddr submission.mapLength := by
  unfold framing at unframed
  unfold initialToggle build
  split at unframed
  · cases unframed
  · exact ⟨rfl, fun _ _ _ => rfl⟩

/-- Bulk and interrupt transfers build their chain from a descriptor for each packet and one
more. -/
theorem buildsChain_of_transferChain (unframed : submission.framing = 0)
    (nonzero : submission.maxPacketLength ≠ 0) (some : submission.mapLength ≠ 0)
    (reachable : submission.mapPhyAddr.toNat + submission.mapLength.toNat ≤ 2 ^ 32) :
    submission.BuildsChain := by
  obtain ⟨own, stages⟩ := stages_of_unframed unframed
  obtain ⟨count, bounded, exhausts⟩ := exists_exhausts nonzero submission.mapLength
  refine ⟨count + 1, by omega, ?_⟩
  intro mem ed queue supply rest queued _ fresh many
  obtain ⟨data, empty, rfl, same, complete⟩ := transferChain_complete
    (dataPidDir submission.endPointAddress) queued submission.dataToggle submission.mapPhyAddr some
    exhausts fresh many rest
  rw [← stages] at complete
  obtain ⟨stage, staged, -, exhausts', -, closed⟩ := complete.staged
  have packets := packets_congr closed.contents staged.packets
  refine ⟨[], data, [], empty, closed.status, by simp, ⟨unframed.symm, unframed.symm⟩,
    closed.chain, ?_, by simpa using armed_of_packets packets, closed.zeroed, closed.tail,
    closed.queued, ?_⟩
  · rw [own]
    exact tilesRange_of_packets packets exhausts' nonzero reachable
  · rw [closed.toggle, staged.toggle, flips_eq, own]

theorem buildsChain_of_controlTransfer {transferDirection : EfiUsbDataDirection}
    (entry : submission.entry = .controlTransfer transferDirection)
    (nonzero : submission.maxPacketLength ≠ 0)
    (reachable : submission.mapPhyAddr.toNat + submission.mapLength.toNat ≤ 2 ^ 32) :
    submission.BuildsChain := by
  obtain ⟨count, bounded, exhausts⟩ := exists_exhausts nonzero submission.mapLength
  have framing : submission.framing = 1 := by simp only [framing, entry]
  have own : submission.initialToggle = 1 := by simp only [initialToggle, entry]
  refine ⟨count + 3, by omega, ?_⟩
  intro mem ed queue supply rest queued _ fresh many
  obtain ⟨setup, supply, rfl⟩ := List.exists_cons_of_length_eq_add_one many
  have setupFresh := fresh.2 setup List.mem_cons_self
  obtain ⟨going, answers, head, placed⟩ := setupStage_supplied setupFresh
    (supply.map some ++ rest) submission.reqMapPhyAddr
  have stages : submission.build ((setup :: supply).map some ++ rest) mem ed =
      controlChain (controlPidDirs transferDirection).1 (controlPidDirs transferDirection).2
        submission.maxPacketLength (supply.map some ++ rest)
        (setupStage (some setup :: (supply.map some ++ rest)) mem submission.reqMapPhyAddr).mem ed
        setup submission.mapPhyAddr submission.mapLength := by
    have fine : (setupStage (some setup :: (supply.map some ++ rest)) mem
        submission.reqMapPhyAddr).status.isError = false := by rw [going]; rfl
    simp only [build, entry, controlTransferChain, List.map_cons, List.cons_append, fine,
      Bool.false_eq_true, if_false, answers, head]
  generalize (setupStage (some setup :: (supply.map some ++ rest)) mem
    submission.reqMapPhyAddr).mem = first at placed stages
  have notSetup : ∀ cell ∈ queue, cell ∉ [setup] := fun cell member inside =>
    queued.ne_of_available member setupFresh (List.mem_singleton.mp inside)
  obtain ⟨data, tail, rfl, same, success, answers', staged⟩ :=
    dataStage_supplied (controlPidDirs transferDirection).1 placed.ready 1 submission.mapPhyAddr
      exhausts (placed.live ▸ fresh.tail) (by rw [List.length_cons] at many; omega) rest
  obtain ⟨status, empty, rfl⟩ : ∃ status empty, tail = [status, empty] := by
    rw [List.length_cons, List.length_append, same] at many
    exact List.length_eq_two.mp (by omega)
  rw [List.nil_append] at staged
  have built := controlBuilt_of_staged (controlPidDirs transferDirection).2 staged
    success placed.ready setupFresh.2.1
    (placed.queued queued setupFresh (by simp)) notSetup answers' (by
      rw [funext staged.live, placed.live]
      exact fresh.tail.suffix)
  rw [stages, controlChain]
  refine ⟨[setup], data, [status], empty, built.success, by simp, ⟨framing.symm, framing.symm⟩,
    by simpa using built.chain, ?_, ?_, built.zeroed, built.tail, by simpa using built.queued, ?_⟩
  · rw [own]
    exact tilesRange_of_packets built.packets (same ▸ exhausts) nonzero reachable
  · intro cell member
    rcases List.mem_append.mp member with before | there
    · rcases List.mem_append.mp before with inSetup | inData
      · rw [List.mem_singleton.mp inSetup]
        exact armed_of_unlinked (built.setupKept.trans placed.contents)
      · exact armed_of_packets built.packets cell inData
    · rw [List.mem_singleton.mp there]
      exact armed_of_unlinked built.statusFilled
  · rw [built.toggle, flips_eq, own]

end Submission

/-! ### The result -/

def firstUnits (count : Nat) : List UInt32 :=
  (List.range count).map fun index => UInt32.ofNat (64 * (index + 1))

theorem firstUnits_fresh (few : count ≤ 2 ^ 20) :
    Fresh Descriptors.unused.live (firstUnits count) := by
  have value {index : Nat} (inside : index < count) :
      (UInt32.ofNat (64 * (index + 1))).toNat = 64 * (index + 1) := by
    rw [UInt32.toNat_ofNat']
    exact Nat.mod_eq_of_lt (by omega)
  constructor
  · refine List.Nodup.map_on ?_ List.nodup_range
    intro index inside other inside' same
    have values := congrArg UInt32.toNat same
    rw [value (List.mem_range.mp inside), value (List.mem_range.mp inside')] at values
    omega
  · intro cell member
    obtain ⟨index, inside, rfl⟩ := List.mem_map.mp member
    have address := value (List.mem_range.mp inside)
    refine ⟨fun zero => ?_, by rw [address]; omega, rfl⟩
    rw [zero] at address
    exact absurd address (by simp)

namespace Submission

variable {submission : Submission}

theorem not_buildsChain (empty : submission.maxPacketLength = 0) (some : submission.mapLength ≠ 0)
    (few : submission.mapLength ≤ maxBytesPerTd) :
    ¬ submission.BuildsChain := by
  rintro ⟨count, bounded, builds⟩
  have small := UInt64.le_iff_toNat_le.mp few
  have framing : submission.framing ≤ 1 := by
    unfold Submission.framing
    split <;> decide
  have limit : count ≤ 2 ^ 20 := by
    simp only [maxBytesPerTd, UInt64.reduceToNat] at small
    omega
  obtain ⟨front, data, back, last, built⟩ := builds Descriptors.unused 0 [] (firstUnits count) []
    (Queued.empty rfl) rfl (firstUnits_fresh limit) (by simp [firstUnits])
  have covered := built.tiles.count.1
  rw [empty] at covered
  exact some (UInt64.toNat_inj.mp (Nat.le_zero.mp covered))

theorem Accepted.interrupt (accepted : submission.Accepted)
    (empty : submission.maxPacketLength = 0) :
    submission.dataLength ≠ 0 ∧ submission.dataLength ≤ maxBytesPerTd := by
  unfold Accepted at accepted
  split at accepted
  · exact absurd empty (PacketSize.ne_zero accepted.2.2.2.1)
  · exact absurd empty (PacketSize.ne_zero accepted.2.2.2)
  · exact ⟨(accepted.1.2 rfl).1, accepted.2⟩
  · exact ⟨accepted.1.2.2.1, accepted.2⟩

theorem Accepted.dataLength_ne_zero (accepted : submission.Accepted)
    (unframed : submission.framing = 0) : submission.dataLength ≠ 0 := by
  unfold Accepted at accepted
  unfold Submission.framing at unframed
  split at accepted
  · next entry => simp [entry] at unframed
  · exact accepted.2.1
  · exact (accepted.1.2 rfl).1
  · exact accepted.1.2.2.1

end Submission

/-- The stages of every accepted submission end in a chain that tiles the mapped bytes,
unless an interrupt transfer is submitted with packets of no bytes. -/
theorem chains_tile_iff (submission : Submission) (accepted : submission.Accepted)
    (mapped : submission.Mapped) : submission.BuildsChain ↔ submission.maxPacketLength ≠ 0 := by
  constructor
  · intro builds empty
    obtain ⟨some, few⟩ := accepted.interrupt empty
    exact Submission.not_buildsChain empty (mapped.positive some)
      (UInt64.le_trans mapped.bounded few) builds
  · intro nonzero
    cases entry : submission.entry with
    | controlTransfer transferDirection =>
      exact Submission.buildsChain_of_controlTransfer entry nonzero mapped.reachable
    | bulkTransfer | asyncInterruptTransfer pollingInterval | syncInterruptTransfer =>
      have unframed : submission.framing = 0 := by simp only [Submission.framing, entry]
      exact Submission.buildsChain_of_transferChain unframed nonzero
        (mapped.positive (accepted.dataLength_ne_zero unframed)) mapped.reachable

/-- Twenty bytes in packets of eight, from a full-speed bulk endpoint. -/
def bulkOfTwenty : Submission :=
  ⟨.bulkTransfer, 0x81, false, 8, 0x200000, 20, 1, 0, 0x300000, 20⟩

theorem chains_tile_iff_bulkOfTwenty :
    bulkOfTwenty.BuildsChain ↔ bulkOfTwenty.maxPacketLength ≠ 0 :=
  chains_tile_iff bulkOfTwenty
    (by unfold bulkOfTwenty Submission.Accepted; decide)
    ⟨by unfold bulkOfTwenty; decide, by unfold bulkOfTwenty; decide,
      by unfold bulkOfTwenty; decide⟩

/-- Eight bytes from an interrupt endpoint whose packets hold none. -/
def packetsOfNoBytes : Submission :=
  ⟨.syncInterruptTransfer, 0x81, false, 0, 0x200000, 8, 0, 0, 0x300000, 8⟩

/-- The submission is accepted, and its data stage never ends. -/
theorem empty_packets_never_end :
    packetsOfNoBytes.Accepted ∧ packetsOfNoBytes.Mapped ∧ ¬ packetsOfNoBytes.BuildsChain := by
  refine ⟨by unfold packetsOfNoBytes Submission.Accepted; decide,
    ⟨by unfold packetsOfNoBytes; decide, by unfold packetsOfNoBytes; decide,
      by unfold packetsOfNoBytes; decide⟩, ?_⟩
  exact Submission.not_buildsChain rfl (by decide) (by decide)

end MuRockchip.Ohci
