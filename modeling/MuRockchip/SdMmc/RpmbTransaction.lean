/-
What an RPMB request sends to the card.

A request that succeeds has switched the card to its RPMB partition, moved the frames
its type calls for, and switched the card back. Every transfer of frames is announced
by its block count in the command right before it; besides these commands the card is
only asked for its status.

* `wp_sdhcSwitchPartition_logged`: what a switch of the partition sends.
* `wp_rpmbRead`, `wp_rpmbWrite`: what the transfers of a request send and store.
* `wp_rpmbRequest_transaction`: what a request sends from beginning to end.
-/
import MuRockchip.SdMmc.PartitionSafety

namespace MuRockchip.SdMmc

open MuRockchip.Base
open MuRockchip.Base.Prog

/-! ### Transactions -/

/-- A transfer of frames, with its block count. -/
inductive FrameTransfer where
  | write (reliable : Bool) (count : UInt32) (frames : List UInt8)
  | read (count : UInt32) (frames : List UInt8)
  deriving DecidableEq, Repr

namespace FrameTransfer

def count : FrameTransfer → UInt32
  | .write _ count _ => count
  | .read count _ => count

def frames : FrameTransfer → List UInt8
  | .write _ _ frames => frames
  | .read _ frames => frames

/-- The argument of `SET_BLOCK_COUNT`: the count, and bit 31 for a reliable write. -/
def blockCountArg : FrameTransfer → UInt32
  | .write reliable count _ => setBlockCountArg count reliable
  | .read count _ => setBlockCountArg count false

def command : FrameTransfer → SdCommand
  | .write _ _ _ => cmdWriteMultiBlock
  | .read _ _ => cmdReadMultiBlock

def moved (status : EfiStatus) : FrameTransfer → Event
  | .write _ _ frames => .written status frames
  | .read _ frames => .read status frames

/-- The block count and the data command follow one another; the data command moves as
many whole frames as were counted; and then the card is polled. -/
structure Logged (card : Card) (transfer : FrameTransfer) (events : List Event) : Prop where
  whole : transfer.frames.length = 512 * transfer.count.toNat
  sent : ∃ counted announced status polls buffer,
    events = counted ++ announced ++ [transfer.moved status] ++ polls ∧
    Exchange cmdSetBlockCount transfer.blockCountArg none card counted ∧
    Exchange transfer.command 0 (some ⟨sdBlockLengthBytes, transfer.count, buffer⟩) card announced ∧
    StatusPolls polls

end FrameTransfer

/-- The commands of a switch: itself, the read-back, and polls. -/
def switchCommands : List SdCommand := [cmdSwitchMmc, cmdSendExtCsdMmc, cmdSendStatus]

/-- The event belongs to a switch of the partition, its record apart. -/
def Event.OfSwitch (event : Event) : Prop :=
  (∃ cmd ∈ switchCommands, event.cmd? = some cmd) ∨ ∃ status bytes, event = .read status bytes

/-- A switch to the partition, which ends with the record of it. -/
def SwitchLogged (partition : PartitionAccess) (events : List Event) : Prop :=
  ∃ earlier card, events = earlier ++ [.recorded partition card] ∧ card.access = partition ∧
    ∀ event ∈ earlier, event.OfSwitch

def Transaction (entry : PartitionAccess) (transfers : List FrameTransfer) (events : List Event) :
    Prop :=
  ∃ there segments back card, events = there ++ segments.flatten ++ back ∧
    SwitchLogged .rpmb there ∧ SwitchLogged entry back ∧ card.access = .rpmb ∧
    List.Forall₂ (FrameTransfer.Logged card) transfers segments

/-- The request type of the frame at this address. -/
def requestTypeOf (memory : Memory) (packet : UInt64) : UInt16 :=
  rpmbBytesToUint16 (memory.read (packet + rpmbRequestTypeOffset) 2)

/-- The transfers that a request calls for, with the frames of the response: key
programming and authenticated writes are written reliably, and then asked for their
result. -/
def rpmbTransfers (memory : Memory) (request response : RpmbDataBuffer) (frames : List UInt8) :
    Option (List FrameTransfer) :=
  let requestType := requestTypeOf memory request.packets
  let requestFrames (count : UInt64) := memory.read request.packets (512 * count.toNat)
  if requestType = rpmbRequestProgramKey then
    some [.write true 1 (requestFrames 1), .write false 1 resultRequest, .read 1 frames]
  else if requestType = rpmbRequestCounterValue then
    some [.write false 1 (requestFrames 1), .read 1 frames]
  else if requestType = rpmbRequestAuthRead then
    some [.write false 1 (requestFrames 1), .read response.packetCount.toUInt32 frames]
  else if requestType = rpmbRequestAuthWrite then
    some [.write true request.packetCount.toUInt32 (requestFrames request.packetCount),
      .write false 1 resultRequest, .read 1 frames]
  else none

section

variable {memory : Memory} {request response : RpmbDataBuffer} {frames : List UInt8}

theorem rpmbTransfers_programKey
    (called : requestTypeOf memory request.packets = rpmbRequestProgramKey) :
    rpmbTransfers memory request response frames =
      some [.write true 1 (memory.read request.packets 512), .write false 1 resultRequest,
        .read 1 frames] := by
  simp only [rpmbTransfers, called, UInt64.toNat_one, Nat.mul_one]
  rw [if_pos trivial]

theorem rpmbTransfers_counterValue
    (called : requestTypeOf memory request.packets = rpmbRequestCounterValue) :
    rpmbTransfers memory request response frames =
      some [.write false 1 (memory.read request.packets 512), .read 1 frames] := by
  simp only [rpmbTransfers, called, UInt64.toNat_one, Nat.mul_one]
  rw [if_neg (by decide), if_pos trivial]

theorem rpmbTransfers_authRead
    (called : requestTypeOf memory request.packets = rpmbRequestAuthRead) :
    rpmbTransfers memory request response frames =
      some [.write false 1 (memory.read request.packets 512),
        .read response.packetCount.toUInt32 frames] := by
  simp only [rpmbTransfers, called, UInt64.toNat_one, Nat.mul_one]
  rw [if_neg (by decide), if_neg (by decide), if_pos trivial]

theorem rpmbTransfers_authWrite
    (called : requestTypeOf memory request.packets = rpmbRequestAuthWrite) :
    rpmbTransfers memory request response frames =
      some [.write true request.packetCount.toUInt32
          (memory.read request.packets (512 * request.packetCount.toNat)),
        .write false 1 resultRequest, .read 1 frames] := by
  simp only [rpmbTransfers, called]
  rw [if_neg (by decide), if_neg (by decide), if_neg (by decide), if_pos trivial]

variable {transfers : List FrameTransfer}

theorem rpmbTransfers_read (calls : rpmbTransfers memory request response frames = some transfers) :
    ∃ count, .read count frames ∈ transfers := by
  simp only [rpmbTransfers] at calls
  split_ifs at calls
  all_goals
    obtain rfl := Option.some.inj calls
    exact ⟨_, List.mem_of_getLast? rfl⟩

/-- What a transfer of the transaction moves fits in memory. -/
theorem Transaction.frames_le {entry : PartitionAccess} {events : List Event}
    (transaction : Transaction entry transfers events)
    (member : ∃ count, .read count frames ∈ transfers) : frames.length ≤ 2 ^ 64 := by
  obtain ⟨count, member⟩ := member
  obtain ⟨there, segments, back, card, -, -, -, -, logged⟩ := transaction
  obtain ⟨index, inside, isRead⟩ := List.getElem_of_mem member
  have moved := (logged.get inside (logged.length_eq ▸ inside)).whole
  rw [List.get_eq_getElem, isRead] at moved
  have whole : frames.length = 512 * count.toNat := moved
  have bound := count.toNat_lt
  omega

end

section

variable {env : Environment} {depth : Nat} {world : World}

/-! ### Switching -/

/-- The driver has sent commands of a switch, and nothing else has happened. -/
structure Switching (before after : World) : Prop where
  trace : ∃ events, (∀ event ∈ events, event.OfSwitch) ∧ Traced events before after
  memory : after.memory = before.memory

theorem Switching.trans {first second third : World} (one : Switching first second)
    (other : Switching second third) : Switching first third := by
  obtain ⟨events, early, traced⟩ := one.trace
  obtain ⟨more, late, moreTraced⟩ := other.trace
  exact ⟨⟨events ++ more, List.forall_mem_append.mpr ⟨early, late⟩, traced.trans moreTraced⟩,
    other.memory.trans one.memory⟩

theorem Polled.switching {before after : World} (polled : Polled before after) :
    Switching before after := by
  obtain ⟨events, polls, traced⟩ := polled.trace
  exact ⟨⟨events, fun event member => .inl ⟨cmdSendStatus, by decide, polls event member⟩, traced⟩,
    polled.memory⟩

theorem exchanged_switching {cmd : SdCommand} (arg : UInt32) (xfrInfo : Option SdCommandXfrInfo)
    (member : cmd ∈ switchCommands) (passed : Passed env world cmd) :
    Switching world (world.exchanged env cmd arg xfrInfo) := by
  obtain ⟨events, exchange, traced⟩ := exchanged_traced arg xfrInfo passed
  exact ⟨⟨events, fun event among => .inl ⟨cmd, member, exchange.cmd? event among⟩, traced⟩, rfl⟩

variable {reply : HostReply} {buffer : TransferBuffer} {size : UInt32} {sent : World}
  {response request : RpmbDataBuffer}

/-- The block of the EXT_CSD goes into the driver's own buffer. -/
theorem readBlockData_switching (lengthInBytes : UInt32) (passed : reply.status.isError = false)
    (world : World) :
    Switching world (serviceEffect reply world (.readBlockData lengthInBytes .blockBuffer)) := by
  refine ⟨⟨[.read reply.status (world.dataBlock reply lengthInBytes.toNat)], ?_, rfl, ?_, rfl⟩, rfl⟩
  · exact List.forall_mem_singleton.mpr (.inr ⟨_, _, rfl⟩)
  · exact List.forall_mem_singleton.mpr passed

/-- The EXT_CSD is asked for, read and taken over. -/
theorem wp_sdhcSendExtCsdMmc_switching (world : World) :
    wp (handler env depth) sdhcSendExtCsdMmc (fun _ after => Switching world after)
      (fun _ _ => True) world := by
  simp only [sdhcSendExtCsdMmc, rcaArgument, wp_bind, wp_instanceData, wp_pure]
  refine wp_mono (wp_sdhcSendDataCommand (by decide) _ _ _ (.inl (by decide)))
    (fun _ after spec => ?_) fun _ _ _ => trivial
  obtain ⟨passed, moved, polled⟩ := spec
  have read : transferService cmdSendExtCsdMmc sdBlockLengthBytes .blockBuffer =
      .readBlockData sdBlockLengthBytes .blockBuffer := if_pos (by decide)
  rw [read] at polled
  have asked : Switching world (world.announced env cmdSendExtCsdMmc
      (world.device.cardInfo.rca <<< 16) sdBlockLengthBytes .blockBuffer) :=
    exchanged_switching _ _ (by decide) passed
  have taken : Switching world after :=
    (asked.trans (readBlockData_switching sdBlockLengthBytes moved _)).trans polled.switching
  obtain ⟨events, ofSwitch, traced⟩ := taken.trace
  rw [wp_modifyInstance]
  exact ⟨⟨events, ofSwitch, traced.log, traced.passes, traced.cardFunction⟩, taken.memory⟩

theorem wp_sdhcSwitchPartition_logged (partition : PartitionAccess) (world : World) :
    wp (handler env depth) (sdhcSwitchPartitionMmc partition)
      (fun _ after => (∃ events, SwitchLogged partition events ∧ Traced events world after) ∧
        after.card.access = partition ∧ after.memory = world.memory)
      (fun _ _ => True) world := by
  rw [sdhcSwitchPartitionMmc, wp_bind, wp_instanceData, wp_bind, sdhcSendCommand, wp_bind]
  refine wp_mono (wp_sdhcSendSimpleCommand (by decide) _ world) (fun _ sent spec => ?_)
    fun _ _ _ => trivial
  obtain ⟨passed, rfl⟩ := spec
  have switched := exchanged_switching (writeByteArg indexPartitionConfig
    (withAccess world.device.cardInfo.extCsd.partitionConfig partition)) none (by decide) passed
  rw [if_pos (.inl rfl)]
  refine wp_mono (wp_sdhcWaitForTranState _) (fun _ ready polled => ?_) fun _ _ _ => trivial
  rw [wp_bind]
  refine wp_mono (wp_and (wp_sdhcSendExtCsdMmc ready) (wp_sdhcSendExtCsdMmc_switching ready))
    (fun _ shown read => ?_) fun _ _ _ => trivial
  rw [wp_bind, wp_instanceData, wp_ite]
  refine ⟨fun _ => (wp_fail _).mpr trivial, fun same => ?_⟩
  rw [not_not] at same
  have reached : shown.card.access = partition := read.1.1.symm.trans same
  have whole := (switched.trans polled.switching).trans read.2
  obtain ⟨events, ofSwitch, traced⟩ := whole.trace
  rw [wp_call id]
  have recorded : Traced [.recorded partition shown.card] shown
      (hostEffect env (.recordPartition partition) shown).2 :=
    ⟨rfl, List.forall_mem_singleton.mpr trivial, rfl⟩
  exact ⟨⟨_, ⟨events, shown.card, rfl, reached, ofSwitch⟩, traced.trans recorded⟩, reached,
    whole.memory⟩

/-! ### Transfers -/

/-- The transfers have been made, one after the other, and the card has not moved. -/
structure Carried (transfers : List FrameTransfer) (before after : World) : Prop where
  trace : ∃ segments, List.Forall₂ (FrameTransfer.Logged before.card) transfers segments ∧
    Traced segments.flatten before after
  card : after.card = before.card

theorem Carried.trans {transfers more : List FrameTransfer} {first second third : World}
    (one : Carried transfers first second) (other : Carried more second third) :
    Carried (transfers ++ more) first third := by
  obtain ⟨segments, logged, traced⟩ := one.trace
  obtain ⟨later, laterLogged, laterTraced⟩ := other.trace
  rw [one.card] at laterLogged
  refine ⟨⟨segments ++ later, List.rel_append logged laterLogged, ?_⟩, other.card.trans one.card⟩
  rw [List.flatten_append]
  exact traced.trans laterTraced

def World.counted (env : Environment) (world : World) (transfer : FrameTransfer) : World :=
  world.exchanged env cmdSetBlockCount transfer.blockCountArg none

theorem FrameTransfer.command_plain (transfer : FrameTransfer) :
    transfer.command ≠ cmdGoIdleState ∧ transfer.command ≠ cmdSwitchMmc := by
  cases transfer with
  | write reliable count frames =>
    exact show cmdWriteMultiBlock ≠ cmdGoIdleState ∧ cmdWriteMultiBlock ≠ cmdSwitchMmc by decide
  | read count frames =>
    exact show cmdReadMultiBlock ≠ cmdGoIdleState ∧ cmdReadMultiBlock ≠ cmdSwitchMmc by decide

theorem carried_of_moved {transfer : FrameTransfer} {status : EfiStatus} {moved after : World}
    (setCount : Passed env world cmdSetBlockCount)
    (passed : Passed env (world.counted env transfer) transfer.command)
    (traced : Traced [transfer.moved status]
      ((world.counted env transfer).announced env transfer.command 0 size buffer) moved)
    (still : moved.card = ((world.counted env transfer).announced env transfer.command 0 size
      buffer).card) (polled : Polled moved after)
    (sized : size / sdBlockLengthBytes = transfer.count)
    (whole : transfer.frames.length = 512 * transfer.count.toNat) :
    Carried [transfer] world after := by
  obtain ⟨counted, counting, countTraced⟩ := exchanged_traced transfer.blockCountArg none setCount
  obtain ⟨announced, announcing, announceTraced⟩ := exchanged_traced 0
    (some ⟨sdBlockLengthBytes, size / sdBlockLengthBytes, buffer⟩) passed
  obtain ⟨polls, polling, pollTraced⟩ := polled.trace
  obtain ⟨noReset, noSwitch⟩ := transfer.command_plain
  have counts : (world.counted env transfer).card = world.card :=
    exchanged_card none world (by decide) (noSwitch_of_ne _ (by decide))
  have announces := (announced_unmoved env size buffer (world.counted env transfer) noReset
    (noSwitch_of_ne 0 noSwitch)).card
  refine ⟨⟨[counted ++ announced ++ [transfer.moved status] ++ polls], ?_, ?_⟩, ?_⟩
  · rw [counts, sized] at announcing
    exact .cons
      ⟨whole, counted, announced, status, polls, buffer, rfl, counting, announcing, polling⟩ .nil
  · rw [List.flatten_singleton]
    exact ((countTraced.trans announceTraced).trans traced).trans pollTraced
  · rw [polled.unmoved.card, still, announces, counts]

theorem wp_sdhcSetBlockCount (blockCount : UInt32) (reliableWrite : Bool) (world : World) :
    wp (handler env depth) (sdhcSetBlockCount blockCount reliableWrite)
      (fun _ after => Passed env world cmdSetBlockCount ∧
        after =
          world.exchanged env cmdSetBlockCount (setBlockCountArg blockCount reliableWrite) none)
      (fun _ _ => True) world := by
  rw [sdhcSetBlockCount, sdhcSendCommand, wp_bind]
  refine wp_mono (wp_sdhcSendSimpleCommand (by decide) _ world) (fun _ _ spec => ?_)
    fun _ _ _ => trivial
  rw [if_neg (by decide), wp_pure]
  exact spec

theorem writeBlockData_traced {frames : List UInt8} (passed : reply.status.isError = false)
    (held : sent.bufferBytes buffer size.toNat = frames) :
    Traced [.written reply.status frames] sent
      (serviceEffect reply sent (.writeBlockData size buffer)) := by
  subst held
  exact ⟨rfl, List.forall_mem_singleton.mpr passed, rfl⟩

theorem readBlockData_traced {frames : List UInt8} (address : UInt64)
    (passed : reply.status.isError = false) (came : sent.dataBlock reply size.toNat = frames) :
    Traced [.read reply.status frames] sent
      (serviceEffect reply sent (.readBlockData size (.client address))) := by
  subst came
  exact ⟨rfl, List.forall_mem_singleton.mpr passed, rfl⟩

theorem writeBlockData_memory (reply : HostReply) (size : UInt32) (buffer : TransferBuffer)
    (sent : World) :
    (serviceEffect reply sent (.writeBlockData size buffer)).memory = sent.memory := rfl

theorem readBlockData_memory {frames : List UInt8} (address : UInt64)
    (came : sent.dataBlock reply size.toNat = frames) :
    (serviceEffect reply sent (.readBlockData size (.client address))).memory =
      sent.memory.write address frames := by
  subst came
  rfl

theorem wp_countedWrite {count : UInt32} {frames : List UInt8} (reliable : Bool)
    (sized : size / sdBlockLengthBytes = count) (whole : frames.length = 512 * count.toNat)
    (held : world.bufferBytes buffer size.toNat = frames) :
    wp (handler env depth) (do sdhcSetBlockCount count reliable; writeFrames size buffer)
      (fun _ after => Carried [.write reliable count frames] world after ∧
        after.memory = world.memory)
      (fun _ _ => True) world := by
  rw [wp_bind]
  refine wp_mono (wp_sdhcSetBlockCount count reliable world) (fun _ counted spec => ?_)
    fun _ _ _ => trivial
  obtain ⟨setCount, rfl⟩ := spec
  refine wp_mono (wp_sdhcSendDataCommand (by decide) 0 size buffer (.inr rfl))
    (fun _ after spec => ?_) fun _ _ _ => trivial
  obtain ⟨passed, written, polled⟩ := spec
  have writes : transferService cmdWriteMultiBlock size buffer = .writeBlockData size buffer :=
    if_neg (by decide)
  rw [writes] at polled
  have same : ((world.counted env (.write reliable count frames)).announced env cmdWriteMultiBlock 0
      size buffer).bufferBytes buffer size.toNat = frames := by
    rw [World.announced, exchanged_bufferBytes, World.counted, exchanged_bufferBytes, held]
  have traced := writeBlockData_traced written same
  have carried : Carried [.write reliable count frames] world after :=
    carried_of_moved setCount passed traced rfl polled sized whole
  have memory : after.memory = world.memory := by
    rw [polled.memory, writeBlockData_memory, World.announced, exchanged_memory, exchanged_memory]
  exact ⟨carried, memory⟩

theorem dataBlock_length (reply : HostReply) (length : Nat) (sent : World) :
    (sent.dataBlock reply length).length = length := by
  simp only [World.dataBlock, Card.extCsdBlock]
  split <;> simp

/-- Frames that are read are stored in the order in which they come. -/
theorem wp_countedRead {count : UInt32} (address : UInt64)
    (sized : size / sdBlockLengthBytes = count) (whole : size.toNat = 512 * count.toNat) :
    wp (handler env depth) (do sdhcSetBlockCount count false; readFrames size (.client address))
      (fun _ after => ∃ frames, Carried [.read count frames] world after ∧
        after.memory = world.memory.write address frames)
      (fun _ _ => True) world := by
  rw [wp_bind]
  refine wp_mono (wp_sdhcSetBlockCount count false world) (fun _ counted spec => ?_)
    fun _ _ _ => trivial
  obtain ⟨setCount, rfl⟩ := spec
  refine wp_mono (wp_sdhcSendDataCommand (by decide) 0 size (.client address) (.inr rfl))
    (fun _ after spec => ?_) fun _ _ _ => trivial
  obtain ⟨passed, read, polled⟩ := spec
  have reads : transferService cmdReadMultiBlock size (.client address) =
      .readBlockData size (.client address) := if_pos (by decide)
  rw [reads] at polled
  obtain ⟨frames, came⟩ : ∃ frames, (((world.exchanged env cmdSetBlockCount
      (setBlockCountArg count false) none).announced env cmdReadMultiBlock 0 size
      (.client address)).dataBlock (env ((world.exchanged env cmdSetBlockCount
        (setBlockCountArg count false) none).calls + 2)) size.toNat) = frames := ⟨_, rfl⟩
  have traced := readBlockData_traced address read came
  have length : frames.length = 512 * count.toNat := by
    rw [← came, dataBlock_length, whole]
  have carried : Carried [.read count frames] world after :=
    carried_of_moved setCount passed traced rfl polled sized length
  have memory : after.memory = world.memory.write address frames := by
    rw [polled.memory, readBlockData_memory address came, World.announced, exchanged_memory,
      exchanged_memory]
  exact ⟨frames, carried, memory⟩

/-! ### Requests -/

/-- The frames of the buffer fit a block count of 16 bits. -/
def RpmbDataBuffer.Counted (buffer : RpmbDataBuffer) : Prop := buffer.packetCount.toNat < 2 ^ 16

theorem RpmbDataBuffer.Counted.byteSize {buffer : RpmbDataBuffer} (counted : buffer.Counted) :
    buffer.byteSize.toNat = 512 * buffer.packetCount.toUInt32.toNat ∧
      buffer.byteSize / sdBlockLengthBytes = buffer.packetCount.toUInt32 ∧
      buffer.packetCount.toUInt32.toNat = buffer.packetCount.toNat := by
  have bound : buffer.packetCount.toNat < 2 ^ 16 := counted
  have count : buffer.packetCount.toUInt32.toNat = buffer.packetCount.toNat := by
    rw [UInt64.toNat_toUInt32]
    omega
  have size : buffer.byteSize.toNat = 512 * buffer.packetCount.toUInt32.toNat := by
    have packet : rpmbDataPacketSize.toNat = 512 := rfl
    rw [RpmbDataBuffer.byteSize, UInt64.toNat_toUInt32, UInt64.toNat_mul, packet, count]
    omega
  refine ⟨size, ?_, count⟩
  apply UInt32.toNat_inj.mp
  have block : sdBlockLengthBytes.toNat = 512 := rfl
  rw [UInt32.toNat_div, size, block]
  omega

theorem wp_rpmbRead {request : TransferBuffer} {frames : List UInt8} (counted : response.Counted)
    (held : world.bufferBytes request 512 = frames) (whole : frames.length = 512) :
    wp (handler env depth) (rpmbRead request response)
      (fun _ after => ∃ answer,
        Carried [.write false 1 frames, .read response.packetCount.toUInt32 answer] world after ∧
        after.memory = world.memory.write response.packets answer)
      (fun _ _ => True) world := by
  have parts : rpmbRead request response =
      (do sdhcSetBlockCount 1 false; writeFrames rpmbDataPacketSize.toUInt32 request) >>= fun _ =>
        (do
          sdhcSetBlockCount response.packetCount.toUInt32 false
          readFrames response.byteSize (.client response.packets)) := by
    rw [rpmbRead, bind_assoc]
  obtain ⟨size, sized, -⟩ := counted.byteSize
  rw [parts, wp_bind]
  refine wp_mono (wp_countedWrite false (by decide) whole held) (fun _ written first => ?_)
    fun _ _ _ => trivial
  refine wp_mono (wp_countedRead response.packets sized size) (fun _ after second => ?_)
    fun _ _ _ => trivial
  obtain ⟨answer, carried, memory⟩ := second
  exact ⟨answer, first.1.trans carried, memory.trans (by rw [first.2])⟩

/-- The request frames are written reliably, as they are in memory. -/
theorem wp_rpmbWrite (counted : request.Counted) :
    wp (handler env depth) (rpmbWrite request)
      (fun _ after =>
        Carried [.write true request.packetCount.toUInt32
          (world.memory.read request.packets (512 * request.packetCount.toNat))] world after ∧
        after.memory = world.memory)
      (fun _ _ => True) world := by
  obtain ⟨size, sized, count⟩ := counted.byteSize
  refine wp_countedWrite true sized ?_ ?_
  · rw [Memory.read_length, count]
  · rw [World.bufferBytes, size, count]

theorem resultRequest_length : resultRequest.length = 512 := by
  rw [resultRequest, List.length_append, List.length_replicate, List.length_singleton]

theorem wp_writeAndQuery (response : UInt64) (counted : request.Counted) :
    wp (handler env depth) (do rpmbWrite request; rpmbQueryResult response)
      (fun _ after => ∃ answer,
        Carried [.write true request.packetCount.toUInt32
            (world.memory.read request.packets (512 * request.packetCount.toNat)),
          .write false 1 resultRequest, .read 1 answer] world after ∧
        after.memory = world.memory.write response answer)
      (fun _ _ => True) world := by
  rw [wp_bind]
  refine wp_mono (wp_rpmbWrite counted) (fun _ written first => ?_) fun _ _ _ => trivial
  have one : (RpmbDataBuffer.mk response 1).Counted := show (1 : UInt64).toNat < 2 ^ 16 by decide
  refine wp_mono (wp_rpmbRead one rfl resultRequest_length) (fun _ after second => ?_)
    fun _ _ _ => trivial
  obtain ⟨answer, carried, memory⟩ := second
  exact ⟨answer, first.1.trans carried, memory.trans (by rw [first.2])⟩

theorem wp_requestTypeAt {packet : UInt64} {ok : UInt16 → World → Prop}
    {err : ErrorStatus → World → Prop} :
    wp (handler env depth) (requestTypeAt packet) ok err world ↔
      ok (requestTypeOf world.memory packet) world := by
  rw [requestTypeAt, wp_bind, wp_call id]
  exact wp_pure _

/-- The transfers a request calls for have been made, and the response is stored. -/
def Answered (request response : RpmbDataBuffer) (before after : World) : Prop :=
  ∃ frames transfers, rpmbTransfers before.memory request response frames = some transfers ∧
    Carried transfers before after ∧ after.memory = before.memory.write response.packets frames

def requestTypes : List UInt16 :=
  [rpmbRequestProgramKey, rpmbRequestCounterValue, rpmbRequestAuthRead, rpmbRequestAuthWrite]

theorem wp_rpmbDispatch (known : requestTypeOf world.memory request.packets ∈ requestTypes)
    (counted : request.Counted) (countedResponse : response.Counted) :
    wp (handler env depth) (rpmbDispatch request response)
      (fun _ after => Answered request response world after) (fun _ _ => True) world := by
  have one (packets : UInt64) : (RpmbDataBuffer.mk packets 1).Counted :=
    show (1 : UInt64).toNat < 2 ^ 16 by decide
  have single : (world.memory.read request.packets 512).length = 512 := Memory.read_length _ _ _
  rw [rpmbDispatch, wp_bind, wp_requestTypeAt, wp_ite]
  refine ⟨fun isProgramKey => ?_, fun notProgramKey => ?_⟩
  · refine wp_mono (wp_writeAndQuery response.packets (one request.packets)) (fun _ _ spec => ?_)
      fun _ _ _ => trivial
    obtain ⟨answer, carried, memory⟩ := spec
    exact ⟨answer, _, rpmbTransfers_programKey isProgramKey, carried, memory⟩
  rw [wp_ite]
  refine ⟨fun isCounter => ?_, fun notCounter => ?_⟩
  · refine wp_mono (wp_rpmbRead (one response.packets) rfl single) (fun _ _ spec => ?_)
      fun _ _ _ => trivial
    obtain ⟨answer, carried, memory⟩ := spec
    exact ⟨answer, _, rpmbTransfers_counterValue isCounter, carried, memory⟩
  rw [wp_ite]
  refine ⟨fun isRead => ?_, fun notRead => ?_⟩
  · refine wp_mono (wp_rpmbRead countedResponse rfl single) (fun _ _ spec => ?_)
      fun _ _ _ => trivial
    obtain ⟨answer, carried, memory⟩ := spec
    exact ⟨answer, _, rpmbTransfers_authRead isRead, carried, memory⟩
  rw [wp_ite]
  refine ⟨fun isWrite => ?_, fun notWrite => ?_⟩
  · refine wp_mono (wp_writeAndQuery response.packets counted) (fun _ _ spec => ?_)
      fun _ _ _ => trivial
    obtain ⟨answer, carried, memory⟩ := spec
    exact ⟨answer, _, rpmbTransfers_authWrite isWrite, carried, memory⟩
  · simp [requestTypes, notProgramKey, notCounter, notRead, notWrite] at known

/-- A request that succeeds has made its transaction with the card, which passes all of
the driver's checks, and has stored the response. -/
structure Transacted (request response : RpmbDataBuffer) (events : List Event)
    (before after : World) : Prop where
  traced : Traced events before after
  transaction : ∃ frames transfers,
    rpmbTransfers before.memory request response frames = some transfers ∧
    Transaction before.device.currentMmcPartition transfers events ∧
    after.memory = before.memory.write response.packets frames

theorem wp_rpmbRequest_transaction
    (known : requestTypeOf world.memory request.packets ∈ requestTypes) (counted : request.Counted)
    (countedResponse : response.Counted) :
    wp (handler env depth) (rpmbRequest request response)
      (fun _ after => ∃ events, Transacted request response events world after)
      (fun _ _ => True) world := by
  rw [rpmbRequest, wp_bind, wp_instanceData, wp_bind]
  refine wp_mono (wp_sdhcSwitchPartition_logged .rpmb world) (fun _ there spec => ?_)
    fun _ _ _ => trivial
  obtain ⟨⟨switching, switched, traced⟩, access, memory⟩ := spec
  rw [wp_bind, wp_catching]
  rw [← memory] at known
  refine wp_mono (wp_rpmbDispatch known counted countedResponse) (fun _ done answered => ?_)
    fun _ _ _ => wp_after fun _ _ => (wp_fail _).mpr trivial
  obtain ⟨frames, transfers, called, carried, stored⟩ := answered
  obtain ⟨segments, logged, moved⟩ := carried.trace
  refine wp_mono (wp_sdhcSwitchPartition_logged _ done) (fun _ after spec => ?_)
    fun _ _ _ => trivial
  obtain ⟨⟨returning, back, backTraced⟩, -, kept⟩ := spec
  refine ⟨switching ++ segments.flatten ++ returning, (traced.trans moved).trans backTraced, frames,
    transfers, memory ▸ called, ?_, ?_⟩
  · exact ⟨switching, segments, returning, there.card, rfl, switched, back, access, logged⟩
  · rw [kept, stored, memory]

/-! ### The protocol's members -/

/-- A member of the protocol that succeeds has been asked for its own type of request. -/
theorem wp_rpmbIoRequest {requestType : UInt16} {pointersGiven : Bool}
    (member : requestType ∈ requestTypes) (counted : request.Counted)
    (countedResponse : response.Counted) :
    wp (handler env depth) (rpmbIoRequest requestType pointersGiven request response)
      (fun _ after => ∃ events, Transacted request response events world after)
      (fun _ _ => True) world := by
  rw [rpmbIoRequest, wp_ite]
  refine ⟨fun _ => ?_, fun _ => (wp_fail _).mpr trivial⟩
  rw [wp_bind, wp_requestTypeAt, wp_ite]
  refine ⟨fun _ => (wp_fail _).mpr trivial, fun same => ?_⟩
  rw [not_not] at same
  exact wp_rpmbRequest_transaction (same ▸ member) counted countedResponse

/-! ### What the answers show -/

/-- The response that a call reads, if it reads one. -/
def answeredResponse (env : Environment) (op : SdmmcOp) (world : World) : Option Event :=
  match op with
  | .service (.receiveResponse cmd) =>
    some (.response cmd (env world.calls).status (env world.calls).response)
  | _ => none

/-- If the answer to a call reports errors of the card, one of them is in the low byte of the card
status. -/
def VisibleAnswer (env : Environment) (mask : UInt32) (op : SdmmcOp) (world : World) : Prop :=
  ∀ event ∈ answeredResponse env op world, event.ErrorVisible mask

instance (env : Environment) (mask : UInt32) (op : SdmmcOp) (world : World) :
    Decidable (VisibleAnswer env mask op world) :=
  inferInstanceAs (Decidable (∀ event ∈ answeredResponse env op world, event.ErrorVisible mask))

def Shows (env : Environment) (depth : Nat) (mask : UInt32) {α : Type} (program : Sd α)
    (before after : World) : Prop :=
  ∃ events, after.log = before.log ++ events ∧
    (program.Along (handler env depth) (VisibleAnswer env mask) before ↔
      ∀ event ∈ events, event.ErrorVisible mask)

variable {mask : UInt32}

theorem hostEffect_shows {op : SdmmcOp} (noRecovery : ¬ IsRecovery op) (world : World) :
    ∃ events, (hostEffect env op world).2.log = world.log ++ events ∧
      (VisibleAnswer env mask op world ↔ ∀ event ∈ events, event.ErrorVisible mask) := by
  have unread (none : answeredResponse env op world = none) : VisibleAnswer env mask op world := by
    rw [VisibleAnswer, none]
    exact fun event member => absurd member (Option.not_mem_none event)
  cases op with
  | service service =>
    cases service with
    | receiveResponse cmd =>
      exact ⟨_, rfl, by simp [VisibleAnswer, answeredResponse]⟩
    | readBlockData lengthInBytes buffer =>
      cases buffer <;>
        exact ⟨_, rfl, iff_of_true (unread rfl) (List.forall_mem_singleton.mpr trivial)⟩
    | sendCommand | writeBlockData =>
      exact ⟨_, rfl, iff_of_true (unread rfl) (List.forall_mem_singleton.mpr trivial)⟩
    | _ => exact ⟨[], rfl, iff_of_true (unread rfl) (List.forall_mem_nil _)⟩
  | rememberCommand | recordPartition =>
    exact ⟨_, rfl, iff_of_true (unread rfl) (List.forall_mem_singleton.mpr trivial)⟩
  | recoverFromErrors cmd => exact absurd trivial noRecovery
  | isCardPresent | isReadOnly | convertDevicePathToText | nullCmdEquals =>
    exact ⟨[], rfl, iff_of_true (unread rfl) (List.forall_mem_nil _)⟩
  | _ =>
    exact ⟨[], (List.append_nil _).symm, iff_of_true (unread rfl) (List.forall_mem_nil _)⟩

/-- A program that gives up where it recovers has recovered from nothing when it succeeds: its
events are those of its own calls. -/
theorem wp_shows {α : Type} {program : Sd α}
    (guarded : program.Guarded (fun op => ¬ IsRecovery op) fun _ => True) (world : World) :
    wp (handler env depth) program (fun _ after => Shows env depth mask program world after)
      (fun _ _ => True) world := by
  induction program generalizing world with
  | done value =>
    exact (wp_pure value).mpr ⟨[], (List.append_nil _).symm,
      iff_of_true trivial (List.forall_mem_nil _)⟩
  | fail error => exact (wp_fail error).mpr trivial
  | call op rest ih =>
    intro outcome ended
    obtain ⟨answered, defined, later⟩ := Option.bind_eq_some_iff.mp ended
    rcases guarded with ⟨noRecovery, guarded⟩ | ⟨-, abandons⟩
    · have spec := ih answered.1 (guarded answered.1) answered.2 outcome later
      rcases outcome with ⟨error | value, after⟩
      · trivial
      obtain ⟨more, grown, shown⟩ := spec
      have effect := defined
      rw [handler_eq_hostEffect noRecovery] at effect
      obtain ⟨events, first, shows⟩ := @hostEffect_shows env mask op noRecovery world
      rw [Option.some.inj effect] at first
      refine ⟨events ++ more, by rw [grown, first, List.append_assoc], ?_⟩
      rw [List.forall_mem_append, ← shown, ← shows]
      refine and_congr_right fun _ => ⟨fun along => along answered defined, fun along _ also => ?_⟩
      obtain rfl := Option.some.inj (defined.symm.trans also)
      exact along
    · have fails := (abandons answered.1).fails answered.2 outcome later
      rcases outcome with ⟨error | value, after⟩
      · trivial
      · exact fails.elim

theorem commandOps_noRecovery : CommandOps fun op => ¬ IsRecovery op where
  instanceData := id
  receive _ := id
  remember _ := id
  nullCmd _ := id
  auxiliary _ _ _ := id

theorem sdhcSwitchPartitionMmc_guarded (partition : PartitionAccess) :
    (sdhcSwitchPartitionMmc partition).Guarded (fun op => ¬ IsRecovery op) IsRecovery :=
  guarded_bind (instanceData_guarded commandOps_noRecovery) fun _ =>
    guarded_bind (sdhcSendCommand_guarded commandOps_noRecovery id) fun _ =>
      guarded_bind
        (guarded_bind (rcaArgument_guarded commandOps_noRecovery) fun _ =>
          guarded_bind (sdhcSendDataCommand_guarded commandOps_noRecovery (fun _ => id) id id)
            fun _ => guarded_invoke id) fun _ =>
        guarded_bind (instanceData_guarded commandOps_noRecovery) fun _ =>
          guarded_ite (raise_guarded _ _) (guarded_invoke id)

theorem rpmbDispatch_guarded (request response : RpmbDataBuffer) :
    (rpmbDispatch request response).Guarded (fun op => ¬ IsRecovery op) IsRecovery := by
  have counts (count : UInt32) (reliable : Bool) :
      (sdhcSetBlockCount count reliable).Guarded (fun op => ¬ IsRecovery op) IsRecovery :=
    sdhcSendCommand_guarded commandOps_noRecovery id
  have moves (cmd : SdCommand) (byteSize : UInt32) (buffer : TransferBuffer) :
      (sdhcSendDataCommand cmd 0 byteSize buffer).Guarded (fun op => ¬ IsRecovery op) IsRecovery :=
    sdhcSendDataCommand_guarded commandOps_noRecovery (fun _ => id) id id
  have reads (request : TransferBuffer) (response : RpmbDataBuffer) :
      (rpmbRead request response).Guarded (fun op => ¬ IsRecovery op) IsRecovery :=
    guarded_bind (counts _ _) fun _ => guarded_bind (moves _ _ _) fun _ =>
      guarded_bind (counts _ _) fun _ => moves _ _ _
  have writes (request : RpmbDataBuffer) :
      (rpmbWrite request).Guarded (fun op => ¬ IsRecovery op) IsRecovery :=
    guarded_bind (counts _ _) fun _ => moves _ _ _
  exact guarded_bind (guarded_bind (guarded_invoke id) fun _ => guarded_pure _) fun _ =>
    guarded_ite (guarded_bind (writes _) fun _ => reads _ _)
      (guarded_ite (reads _ _)
        (guarded_ite (reads _ _)
          (guarded_ite (guarded_bind (writes _) fun _ => reads _ _) (guarded_pure _))))

/-- A request that fails switches the card back, and fails. -/
theorem rpmbRequest_guarded (request response : RpmbDataBuffer) :
    (rpmbRequest request response).Guarded (fun op => ¬ IsRecovery op) fun _ => True := by
  have switches (partition : PartitionAccess) :=
    (sdhcSwitchPartitionMmc_guarded partition).mono_last fun _ _ => trivial
  exact guarded_bind (guarded_invoke id) fun _ => guarded_bind (switches _) fun _ =>
    guarded_bind
      (guarded_catching ((rpmbDispatch_guarded request response).mono_last fun _ _ => trivial)
        fun error => abandons_bind_fail _ error)
      fun _ => switches _

theorem rpmbIoRequest_guarded (requestType : UInt16) (pointersGiven : Bool)
    (request response : RpmbDataBuffer) :
    (rpmbIoRequest requestType pointersGiven request response).Guarded (fun op => ¬ IsRecovery op)
      fun _ => True :=
  guarded_ite
    (guarded_bind (guarded_bind (guarded_invoke id) fun _ => guarded_pure _) fun _ =>
      guarded_ite (guarded_fail _) (rpmbRequest_guarded _ _))
    (guarded_fail _)

end

end MuRockchip.SdMmc
