/-
Block I/O of the RK3399 MMC driver (`MmcBlockIo.c`).

A request is checked against the media and cut into chunks: one block each, or the
whole request where the host transfers several blocks at once. Before a chunk the
card is polled until it is ready; its data command, data phase and the return to
the transfer state are those of `MmcTransferBlock`.

The host answers every call as it likes: what it answers for the sake of one chunk
is a record of its own, with a stream of answers for each of the two polls.

* `chunkLoop_eq`: the chunks of a request, one after the other.
-/
import MuRockchip.Uefi.Status
import Mathlib.Algebra.Group.Nat.Defs

namespace MuRockchip.Mmc

/-! ### The host -/

/-- The commands of block I/O. -/
inductive MmcCommand where
  | cmd12
  | cmd13
  | cmd17
  | cmd18
  | cmd24
  | cmd25
  deriving DecidableEq, Repr

/-- `MMC_IOBLOCKS_READ` and `MMC_IOBLOCKS_WRITE`. -/
inductive MmcIoBlocksKind where
  | read
  | write
  deriving DecidableEq, Repr

/-- The states `MmcNotifyState` announces. -/
inductive MmcState where
  | programming
  | transfer
  deriving DecidableEq, Repr

/-- A call of `EFI_MMC_HOST_PROTOCOL`. -/
inductive HostCall where
  | sendCommand (cmd : MmcCommand) (argument : UInt32)
  | receiveResponse
  | readBlockData (lba length buffer : UInt64)
  | writeBlockData (lba length buffer : UInt64)
  | notifyState (state : MmcState)
  deriving DecidableEq, Repr

/-- The call moves data of the card, or tells the card to. -/
def HostCall.isData : HostCall → Bool
  | sendCommand .cmd17 _ | sendCommand .cmd18 _ | sendCommand .cmd24 _ | sendCommand .cmd25 _
  | readBlockData .. | writeBlockData .. => true
  | _ => false

/-- One answer to a poll of the card's status: that of `SendCommand`, and the word
`ReceiveResponse` leaves behind if it is called. -/
structure Poll where
  status : EfiStatus
  response : UInt32

/-- What the host answers for one chunk. -/
structure ChunkAnswers where
  ready : Nat → Poll
  command : EfiStatus
  data : EfiStatus
  programmingState : EfiStatus
  settled : Nat → Poll
  stop : EfiStatus
  transferState : EfiStatus

/-- `EFI_BLOCK_IO_MEDIA`, the fields block I/O reads. The driver sets the block size
to a power of two of at most 512. -/
structure BlockIoMedia where
  mediaId : UInt32
  mediaPresent : Bool
  readOnly : Bool
  blockSize : UInt32
  ioAlign : UInt32
  lastBlock : UInt64
  powerOfTwo : ∃ shift ≤ 9, blockSize.toNat = 2 ^ shift

/-- The card and its host: `CardInfo.RCA`, whether `AccessMode` is that of a card
addressed by sectors, whether the host has an `IsMultiBlock` that answers `TRUE`. -/
structure MmcHostInstance where
  media : BlockIoMedia
  rca : UInt16
  sectorMode : Bool
  multiBlock : Bool

/-- The arguments of `MmcIoBlocks`; a null buffer has address zero. -/
structure BlockRequest where
  kind : MmcIoBlocksKind
  mediaId : UInt32
  lba : UInt64
  bufferSize : UInt64
  buffer : UInt64
  deriving DecidableEq, Repr

/-! ### Polling -/

/-- The response ends a poll: `MMC_R0_READY_FOR_DATA` is set, or
`MMC_R0_CURRENTSTATE` is `MMC_R0_STATE_TRAN`. -/
def responseReady (response : UInt32) : Bool :=
  response &&& 0x100 ≠ 0 || (response >>> 9) &&& 0xF = 4

def Poll.reportsReady (poll : Poll) : Bool :=
  !poll.status.isError && responseReady poll.response

namespace MmcHostInstance

variable (host : MmcHostInstance)

/-- The argument of `MMC_CMD13`. -/
def statusArgument : UInt32 := host.rca.toUInt32 <<< 16

/-- `while (!ready && Timeout--) { MMC_CMD13 }`, from the response and the answer
reached: the value of `Timeout` afterwards, and the calls made. A ready response
ends the loop before `Timeout` is decremented; a `Timeout` of zero ends it after. -/
def pollStatus (polls : Nat → Poll) : Nat → Nat → UInt32 → Int × List HostCall
  | timeout, index, response =>
    if responseReady response then (timeout, [])
    else match timeout with
      | 0 => (-1, [])
      | timeout + 1 =>
        let poll := polls index
        if poll.status.isError then
          let (left, calls) := pollStatus polls timeout (index + 1) response
          (left, .sendCommand .cmd13 host.statusArgument :: calls)
        else
          let (left, calls) := pollStatus polls timeout (index + 1) poll.response
          (left, .sendCommand .cmd13 host.statusArgument :: .receiveResponse :: calls)

/-! ### One chunk -/

/-- The budgets of the two polls. -/
def readyTimeout : Nat := 20
def mmci0Timeout : Nat := 10000

def mmcStopTransmission (answers : ChunkAnswers) : List HostCall :=
  if answers.stop.isError then [.sendCommand .cmd12 0]
  else [.sendCommand .cmd12 0, .receiveResponse]

/-- `MmcTransferBlock` once the data is moved: poll until the card has returned to
the transfer state, stop a transfer of several blocks, announce the state. Only the
announcement decides the status. -/
def finishTransfer (answers : ChunkAnswers) (bufferSize : UInt64) : EfiStatus × List HostCall :=
  let polled := host.pollStatus answers.settled mmci0Timeout 0 0
  let stopped : List HostCall :=
    if bufferSize > host.media.blockSize.toUInt64 then [.sendCommand .cmd12 0] else []
  (answers.transferState, polled.2 ++ stopped ++ [.notifyState .transfer])

def mmcTransferBlock (answers : ChunkAnswers) (cmd : MmcCommand) (kind : MmcIoBlocksKind)
    (lba bufferSize buffer : UInt64) : EfiStatus × List HostCall :=
  let cmdArg := if host.sectorMode then lba else lba * host.media.blockSize.toUInt64
  let command := HostCall.sendCommand cmd cmdArg.toUInt32
  if answers.command.isError then (answers.command, [command])
  else match kind with
    | .read =>
      let data := HostCall.readBlockData lba bufferSize buffer
      if answers.data.isError then (answers.data, command :: data :: mmcStopTransmission answers)
      else if answers.programmingState.isError then
        (answers.programmingState, [command, data, .notifyState .programming])
      else
        let (status, calls) := host.finishTransfer answers bufferSize
        (status, command :: data :: .notifyState .programming :: calls)
    | .write =>
      let data := HostCall.writeBlockData lba bufferSize buffer
      if answers.data.isError then (answers.data, command :: data :: mmcStopTransmission answers)
      else
        let (status, calls) := host.finishTransfer answers bufferSize
        (status, command :: data :: calls)

/-! ### Requests -/

/-- The checks of `MmcIoBlocks`, in order; `some` status ends the request. -/
def checkRequest (request : BlockRequest) : Option EfiStatus :=
  let media := host.media
  if media.mediaId ≠ request.mediaId then some EfiStatus.mediaChanged
  else if request.buffer = 0 then some EfiStatus.invalidParameter
  else if !media.mediaPresent then some EfiStatus.noMedia
  -- all blocks must be within the device
  else if request.lba + request.bufferSize / media.blockSize.toUInt64 > media.lastBlock + 1 then
    some EfiStatus.invalidParameter
  else if request.kind = .write ∧ media.readOnly then some EfiStatus.writeProtected
  -- reading 0 bytes is valid
  else if request.bufferSize = 0 then some EfiStatus.success
  else if request.bufferSize % media.blockSize.toUInt64 ≠ 0 then some EfiStatus.badBufferSize
  else if media.ioAlign > 2 ∧ request.buffer &&& (media.ioAlign - 1).toUInt64 ≠ 0 then
    some EfiStatus.invalidParameter
  else none

def blockCount (request : BlockRequest) : UInt64 :=
  if host.multiBlock then
    (request.bufferSize + host.media.blockSize.toUInt64 - 1) / host.media.blockSize.toUInt64
  else 1

/-- The command for the request's direction and block count. -/
def dataCommand (kind : MmcIoBlocksKind) (blockCount : UInt64) : MmcCommand :=
  match kind with
  | .read => if blockCount = 1 then .cmd17 else .cmd18
  | .write => if blockCount = 1 then .cmd24 else .cmd25

/-- What became of one chunk: where it lies, and the calls made for it. -/
structure ChunkRun where
  lba : UInt64
  size : UInt64
  buffer : UInt64
  calls : List HostCall
  deriving DecidableEq, Repr

/-- The calls for the chunk move data, or tell the card to. -/
def ChunkRun.Issued (run : ChunkRun) : Prop := ∃ call ∈ run.calls, call.isData = true

/-- The chunk loop, with a bound on the number of chunks; `none` when it is still
running then. Chunk `index` is answered by `answers index`. -/
def chunkLoop (answers : Nat → ChunkAnswers) (kind : MmcIoBlocksKind) (blockCount : UInt64) :
    Nat → Nat → UInt64 → UInt64 → UInt64 → Option (EfiStatus × List ChunkRun)
  | fuel, index, remaining, lba, buffer =>
    if remaining = 0 then some (EfiStatus.success, [])
    else match fuel with
      | 0 => none
      | fuel + 1 =>
        let polled := host.pollStatus (answers index).ready readyTimeout 0 0
        let whole := blockCount * host.media.blockSize.toUInt64
        let consumeSize := if remaining < whole then remaining else whole
        if polled.1 = 0 then
          some (EfiStatus.notReady, [⟨lba, consumeSize, buffer, polled.2⟩])
        else
          -- the status is only logged
          let (_, calls) := host.mmcTransferBlock (answers index) (dataCommand kind blockCount) kind
            lba consumeSize buffer
          let left := remaining - consumeSize
          (chunkLoop answers kind blockCount fuel (index + 1) left
            (if left > 0 then lba + blockCount else lba)
            (if left > 0 then buffer + consumeSize else buffer)).map fun (status, runs) =>
              (status, ⟨lba, consumeSize, buffer, polled.2 ++ calls⟩ :: runs)

def mmcIoBlocks (answers : Nat → ChunkAnswers) (fuel : Nat) (request : BlockRequest) :
    Option (EfiStatus × List ChunkRun) :=
  match host.checkRequest request with
  | some status => some (status, [])
  | none =>
    host.chunkLoop answers request.kind (host.blockCount request) fuel 0 request.bufferSize
      request.lba request.buffer

def mmcReadBlocks (answers : Nat → ChunkAnswers) (fuel : Nat) (mediaId : UInt32)
    (lba bufferSize buffer : UInt64) : Option (EfiStatus × List ChunkRun) :=
  host.mmcIoBlocks answers fuel ⟨.read, mediaId, lba, bufferSize, buffer⟩

def mmcWriteBlocks (answers : Nat → ChunkAnswers) (fuel : Nat) (mediaId : UInt32)
    (lba bufferSize buffer : UInt64) : Option (EfiStatus × List ChunkRun) :=
  host.mmcIoBlocks answers fuel ⟨.write, mediaId, lba, bufferSize, buffer⟩

/-! ### The chunks of a request -/

/-- Chunk `index`, which lies here. -/
def chunkRun (answers : Nat → ChunkAnswers) (kind : MmcIoBlocksKind) (blockCount : UInt64)
    (index : Nat) (lba buffer : UInt64) : ChunkRun :=
  let size := blockCount * host.media.blockSize.toUInt64
  let polled := host.pollStatus (answers index).ready readyTimeout 0 0
  ⟨lba, size, buffer, polled.2 ++ (host.mmcTransferBlock (answers index)
    (dataCommand kind blockCount) kind lba size buffer).2⟩

/-- The same chunk, if its poll ends the request. -/
def refusedRun (answers : Nat → ChunkAnswers) (blockCount : UInt64) (index : Nat)
    (lba buffer : UInt64) : ChunkRun :=
  ⟨lba, blockCount * host.media.blockSize.toUInt64, buffer,
    (host.pollStatus (answers index).ready readyTimeout 0 0).2⟩

/-- So many chunks of equal size, from chunk `index` on. -/
def chunks (answers : Nat → ChunkAnswers) (kind : MmcIoBlocksKind) (blockCount : UInt64) :
    Nat → Nat → UInt64 → UInt64 → EfiStatus × List ChunkRun
  | 0, _, _, _ => (EfiStatus.success, [])
  | total + 1, index, lba, buffer =>
    if (host.pollStatus (answers index).ready readyTimeout 0 0).1 = 0 then
      (EfiStatus.notReady, [host.refusedRun answers blockCount index lba buffer])
    else
      let rest := chunks answers kind blockCount total (index + 1) (lba + blockCount)
        (buffer + blockCount * host.media.blockSize.toUInt64)
      (rest.1, host.chunkRun answers kind blockCount index lba buffer :: rest.2)

section

variable {host : MmcHostInstance} {answers : Nat → ChunkAnswers} {kind : MmcIoBlocksKind}
  {blockCount : UInt64}

theorem chunkLoop_done (fuel index : Nat) (lba buffer : UInt64) :
    host.chunkLoop answers kind blockCount fuel index 0 lba buffer =
      some (EfiStatus.success, []) := by
  unfold chunkLoop
  exact if_pos rfl

/-- One turn of the loop. The last chunk leaves the position where it is, which
nothing reads then. -/
theorem chunkLoop_turn {total : Nat} {remaining : UInt64}
    (positive : 0 < (blockCount * host.media.blockSize.toUInt64).toNat)
    (sized : remaining.toNat =
      (total + 1) * (blockCount * host.media.blockSize.toUInt64).toNat)
    (fuel index : Nat) (lba buffer : UInt64) :
    host.chunkLoop answers kind blockCount (fuel + 1) index remaining lba buffer =
      if (host.pollStatus (answers index).ready readyTimeout 0 0).1 = 0 then
        some (EfiStatus.notReady, [host.refusedRun answers blockCount index lba buffer])
      else
        (host.chunkLoop answers kind blockCount fuel (index + 1)
          (remaining - blockCount * host.media.blockSize.toUInt64) (lba + blockCount)
          (buffer + blockCount * host.media.blockSize.toUInt64)).map fun rest =>
            (rest.1, host.chunkRun answers kind blockCount index lba buffer :: rest.2) := by
  generalize wholeIs : blockCount * host.media.blockSize.toUInt64 = whole at *
  rw [Nat.succ_mul] at sized
  have pending : ¬remaining = 0 := by
    intro zero
    rw [zero] at sized
    have none : (0 : UInt64).toNat = 0 := rfl
    omega
  have enough : ¬remaining < whole := by
    rw [UInt64.lt_iff_toNat_lt]
    omega
  rw [chunkLoop, if_neg pending]
  dsimp only
  rw [wholeIs, if_neg enough]
  unfold refusedRun chunkRun
  rw [wholeIs]
  split
  · rfl
  · by_cases more : remaining - whole > 0
    · rw [if_pos more, if_pos more]
    · have last : remaining - whole = 0 := by
        apply UInt64.toNat_inj.mp
        have none : ¬0 < (remaining - whole).toNat := by
          intro positive
          exact more (UInt64.lt_iff_toNat_lt.mpr positive)
        exact Nat.eq_zero_of_not_pos none
      rw [last, chunkLoop_done, chunkLoop_done]

/-- The loop goes through the chunks, and is done after as many turns. -/
theorem chunkLoop_eq (positive : 0 < (blockCount * host.media.blockSize.toUInt64).toNat)
    {total : Nat} {remaining : UInt64}
    (sized : remaining.toNat = total * (blockCount * host.media.blockSize.toUInt64).toNat)
    (index : Nat) (lba buffer : UInt64) :
    host.chunkLoop answers kind blockCount total index remaining lba buffer =
        some (host.chunks answers kind blockCount total index lba buffer) ∧
      ∀ fuel result, host.chunkLoop answers kind blockCount fuel index remaining lba buffer =
        some result → result = host.chunks answers kind blockCount total index lba buffer := by
  induction total generalizing remaining index lba buffer with
  | zero =>
    have none : remaining = 0 := by
      apply UInt64.toNat_inj.mp
      rw [sized, Nat.zero_mul]
      rfl
    rw [none]
    refine ⟨chunkLoop_done _ _ _ _, fun fuel result returned => ?_⟩
    rw [chunkLoop_done] at returned
    exact (Option.some.inj returned).symm
  | succ total ih =>
    have rest : (remaining - blockCount * host.media.blockSize.toUInt64).toNat =
        total * (blockCount * host.media.blockSize.toUInt64).toNat := by
      have below : blockCount * host.media.blockSize.toUInt64 ≤ remaining := by
        rw [UInt64.le_iff_toNat_le, sized, Nat.succ_mul]
        exact Nat.le_add_left _ _
      rw [UInt64.toNat_sub_of_le _ _ below, sized, Nat.succ_mul, Nat.add_sub_cancel]
    obtain ⟨returns, unique⟩ := ih rest (index + 1) (lba + blockCount)
      (buffer + blockCount * host.media.blockSize.toUInt64)
    constructor
    · rw [chunkLoop_turn positive sized, chunks, returns]
      split <;> rfl
    · intro fuel result returned
      cases fuel with
      | zero =>
        unfold chunkLoop at returned
        split at returned
        · rename_i done
          rw [done, Nat.succ_mul] at sized
          have none : (0 : UInt64).toNat = 0 := rfl
          omega
        · cases returned
      | succ fuel =>
        rw [chunkLoop_turn positive sized] at returned
        rw [chunks]
        split at returned
        · rename_i busy
          rw [if_pos busy]
          exact (Option.some.inj returned).symm
        · rename_i free
          rw [if_neg free]
          obtain ⟨later, continued, rfl⟩ := Option.map_eq_some_iff.mp returned
          rw [unique fuel later continued]

end

end MmcHostInstance

end MuRockchip.Mmc
