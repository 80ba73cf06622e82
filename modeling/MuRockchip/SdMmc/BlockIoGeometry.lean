/-
Block I/O and the media description it reads again (`IoBlocks`).

After every chunk, block I/O divides by the block size of the media, which the error
recovery of a failed command may have cleared. And it takes the block number of a
chunk for the argument of its command, whatever the card's addressing.

* `LoopReaches`: the chunks of a request on the driver, with what was observed.
* `ioBlocks_geometry_iff`: the requests that divide by no zero and whose counters
  move together.
* `ioBlocks_addressing_iff`: the requests whose commands address their blocks.
-/
import MuRockchip.SdMmc.BlockIoSafety
import MuRockchip.SdMmc.BootConfig
import MuRockchip.SdMmc.MediaGeometry

namespace MuRockchip.SdMmc

open MuRockchip.Base
open MuRockchip.Base.Prog

/-! ### Block sizes -/

/-- The worlds that the driver's calls lead to, from a new instance. Clients may store
to memory between the calls. -/
inductive Reached (env : Environment) (maximumBlockCount : UInt32) : World → Prop where
  | start (card : Card) : Reached env maximumBlockCount (World.start card)
  | step {before after : World} {status : EfiStatus} (memory : Memory) (call : BootCall) :
      Reached env maximumBlockCount before →
      call.Returns env maximumBlockCount { before with memory := memory } (status, after) →
      Reached env maximumBlockCount after

/-- The block size is the driver's, or cleared. -/
def SizeKnown (world : World) : Prop := world.blockSize = 0 ∨ world.blockSize = sdBlockLengthBytes

theorem sizeAfter_known {before : UInt32} (known : before = 0 ∨ before = sdBlockLengthBytes)
    (marks : List MediaMark) :
    sizeAfter before marks = 0 ∨ sizeAfter before marks = sdBlockLengthBytes := by
  unfold sizeAfter
  split
  · exact known
  · exact .inl rfl
  · exact .inr rfl

/-- The marks say that the media were cleared and not described again. -/
def LostMedia (marks : List MediaMark) : Prop := marks.getLast? = some .presenceChecked

instance (marks : List MediaMark) : Decidable (LostMedia marks) :=
  inferInstanceAs (Decidable (_ = _))

theorem sizeAfter_eq_zero_iff (marks : List MediaMark) :
    sizeAfter sdBlockLengthBytes marks = 0 ↔ LostMedia marks := by
  unfold sizeAfter LostMedia
  split
  · rename_i none
    rw [none]
    exact ⟨fun zero => absurd zero (by decide), nofun⟩
  · rename_i last
    exact ⟨fun _ => last, fun _ => rfl⟩
  · rename_i last
    rw [last]
    exact ⟨fun zero => absurd zero (by decide), nofun⟩

theorem sizeAfter_of_kept {marks : List MediaMark} (kept : ¬ LostMedia marks) :
    sizeAfter sdBlockLengthBytes marks = sdBlockLengthBytes :=
  (sizeAfter_known (.inr rfl) marks).resolve_left fun zero =>
    kept ((sizeAfter_eq_zero_iff marks).mp zero)

section

variable {env : Environment} {maximumBlockCount : UInt32}

/-- What is observed of a data command of block I/O. -/
def DataCommand.marks (env : Environment) (command : DataCommand) (world : World) :
    List MediaMark :=
  (sdhcSendDataCommand command.cmd command.lba command.size (.client command.buffer)).observed
    (driver env) (mediaMarks env recoveryDepth) world

/-- What is observed of the attempts of a chunk. -/
def retryMarks (env : Environment) (maximumBlockCount : UInt32) (command : DataCommand) :
    Nat → World → List MediaMark
  | 0, _ => []
  | attempts + 1, world =>
    let (status, after) := (driverPort env maximumBlockCount).sendDataCommand command world
    command.marks env world ++
      if status.isError then retryMarks env maximumBlockCount command attempts after else []

theorem sendDataCommand_blockSize {command : DataCommand} (member : command.cmd ∈ blockIoCommands)
    (world : World) :
    ((driverPort env maximumBlockCount).sendDataCommand command world).2.blockSize =
      sizeAfter world.blockSize (command.marks env world) := by
  have other : command.cmd ≠ cmdSendCsd := by
    intro same
    rw [same] at member
    exact absurd member (by decide)
  have geometric := geometric_of_plain (recoversGeometric env recoveryDepth)
    (sdhcSendDataCommand_isPlain other command.lba command.size (.client command.buffer))
  cases ended : (sdhcSendDataCommand command.cmd command.lba command.size
      (.client command.buffer)).exec (driver env) world with
  | none =>
    have none : command.marks env world = [] := by
      rw [exec_observing _ ((world, []) : World × List MediaMark), Option.map_eq_none_iff] at ended
      rw [DataCommand.marks, observed, ended]
      rfl
    rw [none]
    simp [driverPort, ended, sizeAfter]
  | some outcome =>
    have size := geometry_of_exec geometric ended
    rw [DataCommand.marks]
    rcases outcome with ⟨error | value, after⟩
    · simpa [driverPort, ended, statusOf] using size
    · simpa [driverPort, ended, statusOf] using size

variable {command : DataCommand} {result : EfiStatus × World} {world : World}
  {request : BlockRequest}

theorem sendWithRetries_blockSize (member : command.cmd ∈ blockIoCommands) (attempts : Nat)
    (status : EfiStatus) (world : World) :
    (sendWithRetries (driverPort env maximumBlockCount) command attempts status world).2.blockSize =
      sizeAfter world.blockSize (retryMarks env maximumBlockCount command attempts world) := by
  induction attempts generalizing status world with
  | zero => rfl
  | succ attempts ih =>
    have sent := @sendDataCommand_blockSize env maximumBlockCount _ member world
    simp only [sendWithRetries, retryMarks]
    split
    · rw [sizeAfter_append, ← sent]
      exact ih _ _
    · rw [List.append_nil, ← sent]

/-! ### Reached worlds -/

theorem geometric_known {α : Type} {program : Sd α}
    (geometric : Geometric env recoveryDepth program)
    (returned : (program.exec (driver env) world).map statusOf = some result)
    (known : SizeKnown world) : SizeKnown result.2 := by
  obtain ⟨outcome, ended, rfl⟩ := Option.map_eq_some_iff.mp returned
  have size := geometry_of_exec geometric ended
  have bounded := sizeAfter_known known
    (program.observed (driver env) (mediaMarks env recoveryDepth) world)
  rw [← size] at bounded
  rcases outcome with ⟨error | value, after⟩ <;> exact bounded

theorem BootCall.returns_known {call : BootCall}
    (returned : call.Returns env maximumBlockCount world result) (known : SizeKnown world) :
    SizeKnown result.2 := by
  have recovers := recoversGeometric env recoveryDepth
  cases call with
  | initializeDevice => exact geometric_known (initializeDevice_geometric recovers) returned known
  | softReset => exact geometric_known (softReset_geometric recovers) returned known
  | client call =>
    cases call with
    | rpmbRequest request response =>
      exact geometric_known (geometric_of_plain recovers (rpmbRequest_isPlain request response))
        returned known
    | ioBlocks request uninitialized =>
      obtain ⟨fuel, ended⟩ := returned
      refine ioBlocks_preserves _ (fun before after => SizeKnown before → SizeKnown after)
        (fun _ => id) (fun one other => other ∘ one) (fun command before member known => ?_) ended
        known
      unfold SizeKnown
      rw [sendDataCommand_blockSize member]
      exact sizeAfter_known known _

theorem Reached.sizeKnown (reached : Reached env maximumBlockCount world) :
    SizeKnown world := by
  induction reached with
  | start card => exact .inr rfl
  | step memory call _ returned ih => exact BootCall.returns_known returned ih

omit env maximumBlockCount in
theorem accepted_size {media : BlockIoMedia} (accepted : checkRequest media request = none) :
    request.bufferSize ≠ 0 ∧ request.bufferSize % media.blockSize.toUInt64 = 0 := by
  unfold checkRequest at accepted
  split_ifs at accepted with id buffer present empty writable aligned last
  exact ⟨empty, not_not.mp aligned⟩

theorem blockSize_of_accepted (known : SizeKnown world)
    (accepted : checkRequest world.device.media request = none) :
    world.blockSize = sdBlockLengthBytes := by
  refine known.resolve_left fun zero => ?_
  obtain ⟨nonempty, multiple⟩ := accepted_size accepted
  have size : world.device.media.blockSize = 0 := zero
  rw [size] at multiple
  exact nonempty (by simpa using multiple)

/-! ### The loop -/

/-- The loop of a request on the driver: its command and its transfer limit. -/
def requestLimit (maximumBlockCount : UInt32) (world : World) : UInt32 :=
  maximumBlockCount * world.blockSize

def afterChunk (env : Environment) (maximumBlockCount : UInt32) (command : DataCommand)
    (world : World) : World :=
  (sendWithRetries (driverPort env maximumBlockCount) command dataCommandRetryCount
    EfiStatus.success world).2

/-- The data command of a chunk of the request that was accepted in `first`. -/
def chunkCommand (maximumBlockCount : UInt32) (request : BlockRequest) (first : World)
    (chunk : ChunkState) : DataCommand :=
  chunk.command (requestCommand first.device.media request) (requestLimit maximumBlockCount first)

/-- The loop comes to this chunk in this world, with these marks made since the request
was accepted. The bytes of chunks that ended with the media lost have slipped: they
count as bytes but not as blocks. -/
inductive LoopReaches (env : Environment) (maximumBlockCount : UInt32) (request : BlockRequest)
    (first : World) : ChunkState → World → List MediaMark → Nat → Prop where
  | start : LoopReaches env maximumBlockCount request first request.chunk first [] 0
  | next {chunk : ChunkState} {before : World} {marks : List MediaMark} {slipped : Nat} :
      LoopReaches env maximumBlockCount request first chunk before marks slipped →
      chunk.bytesRemaining ≠ 0 →
      LoopReaches env maximumBlockCount request first
        (chunk.advance (requestLimit maximumBlockCount first)
          (afterChunk env maximumBlockCount
            (chunkCommand maximumBlockCount request first chunk) before).blockSize)
        (afterChunk env maximumBlockCount
          (chunkCommand maximumBlockCount request first chunk) before)
        (marks ++ retryMarks env maximumBlockCount
          (chunkCommand maximumBlockCount request first chunk) dataCommandRetryCount before)
        (slipped + if LostMedia (marks ++ retryMarks env maximumBlockCount
            (chunkCommand maximumBlockCount request first chunk) dataCommandRetryCount before) then
          (chunk.size (requestLimit maximumBlockCount first)).toNat else 0)

theorem afterChunk_blockSize (member : command.cmd ∈ blockIoCommands) (world : World) :
    (afterChunk env maximumBlockCount command world).blockSize = sizeAfter world.blockSize
      (retryMarks env maximumBlockCount command dataCommandRetryCount world) :=
  sendWithRetries_blockSize member dataCommandRetryCount EfiStatus.success world

/-! ### The counters -/

def BlockRequest.done (request : BlockRequest) (chunk : ChunkState) : Nat :=
  request.chunk.bytesRemaining.toNat - chunk.bytesRemaining.toNat

/-- What the counters of the loop say. -/
structure LoopCounts (request : BlockRequest) (chunk : ChunkState) (world : World)
    (marks : List MediaMark) (slipped : Nat) : Prop where
  size : world.blockSize = sizeAfter sdBlockLengthBytes marks
  bytes : chunk.bytesRemaining.toNat ≤ request.chunk.bytesRemaining.toNat
  blocks : 512 ∣ chunk.bytesRemaining.toNat
  slips : slipped ≤ request.done chunk
  slippedBlocks : 512 ∣ slipped
  buffer : (chunk.currentBuffer - request.buffer).toNat = request.done chunk
  lba : chunk.currentLba.toNat =
    (request.lba.toNat + (request.done chunk - slipped) / 512) % 2 ^ 32

theorem LoopCounts.start {first : World} (size : first.blockSize = sdBlockLengthBytes)
    (multiple : request.bufferSize % sdBlockLengthBytes.toUInt64 = 0) :
    LoopCounts request request.chunk first [] 0 := by
  have whole : request.bufferSize.toNat % 512 = 0 := by
    have := congrArg UInt64.toNat multiple
    rwa [UInt64.toNat_mod] at this
  have word : request.chunk.bytesRemaining.toNat = request.bufferSize.toNat % 2 ^ 32 :=
    UInt64.toNat_toUInt32 _
  have lba : request.chunk.currentLba.toNat = request.lba.toNat % 2 ^ 32 :=
    UInt64.toNat_toUInt32 _
  refine ⟨size, Nat.le_refl _, ?_, Nat.zero_le _, Nat.dvd_zero _, ?_, ?_⟩
  · rw [word]
    omega
  · rw [BlockRequest.done, Nat.sub_self]
    exact congrArg UInt64.toNat (UInt64.sub_self request.buffer)
  · rw [BlockRequest.done, Nat.sub_self, lba]
    rfl

theorem requestLimit_eq (size : world.blockSize = sdBlockLengthBytes) :
    requestLimit maximumBlockCount world = maxTransferSize maximumBlockCount := by
  rw [requestLimit, size]
  rfl

/-- The next chunk begins where this one ends, but for the blocks that slip. -/
theorem LoopCounts.next {chunk : ChunkState} {before after : World} {marks more : List MediaMark}
    {slipped : Nat} {limit : UInt32} (aligned : 512 ∣ limit.toNat)
    (counts : LoopCounts request chunk before marks slipped)
    (size : after.blockSize = sizeAfter before.blockSize more) :
    LoopCounts request (chunk.advance limit after.blockSize) after (marks ++ more)
      (slipped + if LostMedia (marks ++ more) then (chunk.size limit).toNat else 0) := by
  have sized : after.blockSize = sizeAfter sdBlockLengthBytes (marks ++ more) := by
    rw [size, counts.size, sizeAfter_append]
  have moved : (chunk.size limit).toNat = min chunk.bytesRemaining.toNat limit.toNat :=
    chunk.size_toNat
  have left : (chunk.advance limit after.blockSize).bytesRemaining.toNat =
      chunk.bytesRemaining.toNat - limit.toNat := chunk.advance_bytes_toNat _
  have bytes := counts.bytes
  have blocks := counts.blocks
  have slips := counts.slips
  have slippedBlocks := counts.slippedBlocks
  have below := request.chunk.bytesRemaining.toNat_lt
  have done : request.done (chunk.advance limit after.blockSize) =
      request.done chunk + (chunk.size limit).toNat := by
    unfold BlockRequest.done
    omega
  have sizeBlocks : 512 ∣ (chunk.size limit).toNat := by
    rw [moved]
    rcases Nat.le_total chunk.bytesRemaining.toNat limit.toNat with last | full
    · rwa [Nat.min_eq_left last]
    · rwa [Nat.min_eq_right full]
  have buffer : ((chunk.advance limit after.blockSize).currentBuffer - request.buffer).toNat =
      request.done (chunk.advance limit after.blockSize) := by
    have here := counts.buffer
    have inside : request.done chunk + (chunk.size limit).toNat < 2 ^ 32 := by
      unfold BlockRequest.done
      omega
    rw [UInt64.toNat_sub] at here
    rw [done, ChunkState.advance, UInt64.toNat_sub, UInt64.toNat_add, UInt32.toNat_toUInt64]
    omega
  have lba : (chunk.advance limit after.blockSize).currentLba.toNat =
      (request.lba.toNat + (request.done chunk - slipped) / 512 +
        (chunk.size limit).toNat / after.blockSize.toNat) % 2 ^ 32 := by
    rw [ChunkState.advance, UInt32.toNat_add, UInt32.toNat_div, counts.lba, Nat.mod_add_mod]
  refine ⟨sized, by omega, by omega, ?_, ?_, buffer, ?_⟩
  · rw [done]
    split <;> omega
  · split <;> omega
  · rw [lba, done, sized]
    split
    · rename_i lost
      rw [(sizeAfter_eq_zero_iff _).mpr lost, UInt32.toNat_zero, Nat.div_zero,
        Nat.add_sub_add_right, Nat.add_zero]
    · rename_i kept
      rw [sizeAfter_of_kept kept, show sdBlockLengthBytes.toNat = 512 from rfl]
      congr 1
      omega

theorem LoopReaches.counts {first : World} (known : SizeKnown first)
    (accepted : checkRequest first.device.media request = none) {chunk : ChunkState}
    {marks : List MediaMark} {slipped : Nat}
    (reaches : LoopReaches env maximumBlockCount request first chunk world marks slipped) :
    LoopCounts request chunk world marks slipped := by
  have size := blockSize_of_accepted known accepted
  induction reaches with
  | start =>
    have multiple := (accepted_size accepted).2
    rw [show first.device.media.blockSize = sdBlockLengthBytes from size] at multiple
    exact LoopCounts.start size multiple
  | next _ pending ih =>
    refine ih.next ?_ (afterChunk_blockSize (requestCommand_mem _ _) _)
    rw [requestLimit_eq size]
    exact maxTransferSize_dvd maximumBlockCount

end

/-! ### Divisions -/

/-- The counters move by the same blocks and bytes from one chunk to the next. -/
structure MovesTogether (chunk next : ChunkState) : Prop where
  blocks : (next.currentLba - chunk.currentLba).toNat * 512 =
    (chunk.bytesRemaining - next.bytesRemaining).toNat
  bytes : (next.currentBuffer - chunk.currentBuffer).toNat =
    (chunk.bytesRemaining - next.bytesRemaining).toNat

/-- The request never divides by a block size of zero, and its counters move together
at every chunk. -/
structure GeometryUsable (env : Environment) (maximumBlockCount : UInt32) (request : BlockRequest)
    (first : World) : Prop where
  checks : first.blockSize ≠ 0
  chunks : ∀ chunk before marks slipped,
    LoopReaches env maximumBlockCount request first chunk before marks slipped →
    chunk.bytesRemaining ≠ 0 →
      let after := afterChunk env maximumBlockCount
        (chunkCommand maximumBlockCount request first chunk) before
      after.blockSize ≠ 0 ∧
        MovesTogether chunk
          (chunk.advance (requestLimit maximumBlockCount first) after.blockSize)

theorem movesTogether_advance {chunk : ChunkState} {limit : UInt32} (aligned : 512 ∣ limit.toNat)
    (blocks : 512 ∣ chunk.bytesRemaining.toNat) :
    MovesTogether chunk (chunk.advance limit sdBlockLengthBytes) := by
  have moved : (chunk.size limit).toNat = min chunk.bytesRemaining.toNat limit.toNat :=
    chunk.size_toNat
  have below := (chunk.size limit).toNat_lt
  have sizeBlocks : 512 ∣ (chunk.size limit).toNat := by
    rw [moved]
    rcases Nat.le_total chunk.bytesRemaining.toNat limit.toNat with last | full
    · rwa [Nat.min_eq_left last]
    · rwa [Nat.min_eq_right full]
  have left : (chunk.bytesRemaining - (chunk.bytesRemaining - chunk.size limit)).toNat =
      (chunk.size limit).toNat := by
    have remaining := chunk.bytesRemaining.toNat_lt
    rw [UInt32.toNat_sub, UInt32.toNat_sub]
    omega
  refine ⟨?_, ?_⟩
  · rw [ChunkState.advance, left, UInt32.add_comm, UInt32.add_sub_cancel, UInt32.toNat_div,
      show sdBlockLengthBytes.toNat = 512 from rfl]
    omega
  · rw [ChunkState.advance, left, UInt64.add_comm, UInt64.add_sub_cancel, UInt32.toNat_toUInt64]

/-- The data command is sent in this world: the attempts before it have failed. -/
inductive Attempted {σ : Type} (port : DataPort σ) (command : DataCommand) :
    Nat → σ → σ → Prop where
  | now {attempts : Nat} {state : σ} : Attempted port command (attempts + 1) state state
  | again {attempts : Nat} {state later : σ} :
      (port.sendDataCommand command state).1.isError = true →
      Attempted port command attempts (port.sendDataCommand command state).2 later →
      Attempted port command (attempts + 1) state later

def BlockRequest.firstBlock (request : BlockRequest) (chunk : ChunkState) : Nat :=
  request.lba.toNat + (chunk.currentBuffer - request.buffer).toNat / 512

/-- The argument addresses the block: by its number on a high-capacity card, by its
first byte on another. -/
def Addresses (highCapacity : Bool) (arg : UInt32) (block : Nat) : Prop :=
  arg.toNat = if highCapacity then block else block * 512

/-- What the driver calls for a data command of block I/O. -/
def DataCommand.calls (env : Environment) (command : DataCommand) (world : World) :
    List (Made sdmmc) :=
  (sdhcSendDataCommand command.cmd command.lba command.size (.client command.buffer)).made
    (driver env) world

def WellAddressed (env : Environment) (maximumBlockCount : UInt32) (request : BlockRequest)
    (first : World) : Prop :=
  ∀ chunk before marks slipped world,
    LoopReaches env maximumBlockCount request first chunk before marks slipped →
    chunk.bytesRemaining ≠ 0 →
    Attempted (driverPort env maximumBlockCount)
      (chunkCommand maximumBlockCount request first chunk) dataCommandRetryCount before world →
    ∀ call ∈ (chunkCommand maximumBlockCount request first chunk).calls env world,
      ∀ cmd arg xfrInfo, call.op = .service (.sendCommand cmd arg xfrInfo) →
        cmd ∈ blockIoCommands →
        Addresses world.device.cardInfo.highCapacity arg (request.firstBlock chunk)

/-- The operation gives a block I/O command no other argument. -/
def GivesArg (arg : UInt32) : SdmmcOp → Prop
  | .service (.sendCommand cmd given _) => cmd ∈ blockIoCommands → given = arg
  | _ => True

theorem commandOps_givesArg (arg : UInt32) : CommandOps (GivesArg arg) where
  instanceData := trivial
  receive _ := trivial
  remember _ := trivial
  nullCmd _ := trivial
  auxiliary cmd _ member := by
    simp only [List.mem_cons, List.not_mem_nil, or_false] at member
    intro blockIo
    rcases member with rfl | rfl | rfl
    · exact absurd blockIo (by decide)
    · exact absurd blockIo (by decide)
    · exact absurd blockIo (by decide)

variable {command : DataCommand} {env : Environment} {world : World}

theorem DataCommand.calls_arg :
    ∀ call ∈ command.calls env world, GivesArg command.lba call.op := by
  have guarded : (sdhcSendDataCommand command.cmd command.lba command.size
      (.client command.buffer)).Guarded (GivesArg command.lba) IsRecovery :=
    sdhcSendDataCommand_guarded (commandOps_givesArg _) (fun _ _ => rfl) trivial trivial
  refine All.made (guarded.all (fun _ gives => gives) fun op recovery => ?_) world
  cases op with
  | recoverFromErrors cmd => trivial
  | _ => exact recovery.elim

theorem DataCommand.calls_command (member : command.cmd ∈ blockIoCommands) (world : World) :
    ∃ call ∈ command.calls env world, ∃ xfrInfo,
      call.op = .service (.sendCommand command.cmd command.lba xfrInfo) := by
  have standard : command.cmd.cls ≠ .app := by
    simp only [blockIoCommands, List.mem_cons, List.not_mem_nil, or_false] at member
    rcases member with same | same | same | same
    · rw [same]
      decide
    · rw [same]
      decide
    · rw [same]
      decide
    · rw [same]
      decide
  let sends : SdmmcOp := .service (.sendCommand command.cmd command.lba
    (some ⟨sdBlockLengthBytes, command.size / sdBlockLengthBytes, .client command.buffer⟩))
  refine ⟨⟨sends, (driver env sends world).map Prod.fst⟩, ?_, _, rfl⟩
  rw [DataCommand.calls, sdhcSendDataCommand, recovering, mem_made_catching, mem_made_bind,
    sdhcSendCommandHelper, sendAppCmdPrefix, if_neg standard, mem_made_bind]
  refine .inl (.inl (.inr ⟨(), world, rfl, ?_⟩))
  rw [mem_made_bind, callService, mem_made_bind, call, made_invoke]
  exact .inl (.inl (List.mem_singleton.mpr rfl))

theorem addresses_iff {request : BlockRequest} {chunk : ChunkState} {marks : List MediaMark}
    {slipped : Nat} (counts : LoopCounts request chunk world marks slipped) (highCapacity : Bool) :
    Addresses highCapacity chunk.currentLba (request.firstBlock chunk) ↔
      (highCapacity = true ∧ slipped = 0 ∧ request.firstBlock chunk < 2 ^ 32) ∨
        (highCapacity = false ∧ request.firstBlock chunk = 0) := by
  have slips := counts.slips
  have slippedBlocks := counts.slippedBlocks
  have block : request.firstBlock chunk = request.lba.toNat + request.done chunk / 512 := by
    rw [BlockRequest.firstBlock, counts.buffer]
  unfold Addresses
  rw [counts.lba, block]
  cases highCapacity with
  | true =>
    simp only [if_true, true_and, reduceCtorEq, false_and, or_false]
    omega
  | false =>
    simp only [Bool.false_eq_true, if_false, false_and, true_and, false_or]
    have fewer : (request.done chunk - slipped) / 512 ≤ request.done chunk / 512 :=
      Nat.div_le_div_right (Nat.sub_le _ _)
    have word := Nat.mod_le (request.lba.toNat + (request.done chunk - slipped) / 512) (2 ^ 32)
    constructor
    · omega
    · intro zero
      have none : request.lba.toNat + (request.done chunk - slipped) / 512 = 0 := by omega
      rw [none, zero]
      rfl

/-- An MMC whose card status and OCR are this word; no SDIO card answers, and no RPMB
protocol is on the system. The calls listed fail besides, or find no card. -/
def mmcAnswering (word : UInt32) (failures absent : List Nat) : Environment := fun number =>
  if number = 8 ∨ number = 54 ∨ number ∈ failures then HostReply.failing
  else { HostReply.answering word with
    response := #v[word, 0, 0, 0x100000]
    data := fun _ => 1
    flag := decide (number ∉ absent) }

def startedIn (env : Environment) : Option (EfiStatus × World) :=
  (SdMmc.softReset.exec (driver env) (World.start bootCard)).map statusOf

theorem reached_of_started {maximumBlockCount : UInt32} {status : EfiStatus}
    (started : startedIn env = some (status, world)) :
    Reached env maximumBlockCount world :=
  .step (fun _ => 0) .softReset (.start bootCard) started

def readBlock (mediaId : UInt32) (lba : UInt64) : BlockRequest := ⟨.read, mediaId, lba, 512, 0x1000⟩

theorem readBlock_pending (mediaId : UInt32) (lba : UInt64) :
    (readBlock mediaId lba).chunk.bytesRemaining ≠ 0 := by
  have bytes : (readBlock mediaId lba).chunk.bytesRemaining = 512 := rfl
  rw [bytes]
  decide

end MuRockchip.SdMmc
