/-
Block I/O of the SD/MMC driver (`IoBlocks` in `BlockIo.c`).

A request is checked against the media, then cut into chunks of at most the
host's transfer limit; each chunk is one data command, tried up to three times.
The block size is read again from the media after every chunk, because a failed
command may have reset the card and its media description.

The data command and the media are those of a `DataPort`: the driver's own
commands give one port, an arbitrary pattern of outcomes gives another.

* `ioBlocks_preserves`: what every data command preserves, a request preserves.
-/
import MuRockchip.SdMmc.Commands
import MuRockchip.Uefi.Status

namespace MuRockchip.SdMmc

/-! ### Requests -/

/-- `EFI_BLOCK_IO_MEDIA`, the fields `IoBlocks` reads. -/
structure BlockIoMedia where
  mediaId : UInt32
  mediaPresent : Bool
  readOnly : Bool
  blockSize : UInt32
  ioAlign : UInt32
  lastBlock : UInt64
  deriving DecidableEq, Repr

/-- The arguments of `IoBlocks`; a null buffer has address zero. -/
structure BlockRequest where
  transferDirection : SdTransferDirection
  mediaId : UInt32
  lba : UInt64
  bufferSize : UInt64
  buffer : UInt64
  deriving DecidableEq, Repr

/-- One data command of `IoBlocks`: command, block address, byte size, buffer. -/
structure DataCommand where
  cmd : SdCommand
  lba : UInt32
  size : UInt32
  buffer : UInt64
  deriving DecidableEq, Repr

/-- The means by which `IoBlocks` reaches the card, over states `σ`. -/
structure DataPort (σ : Type) where
  media : σ → BlockIoMedia
  maximumBlockCount : UInt32
  sendDataCommand : DataCommand → σ → EfiStatus × σ

/-- The last block of the request as `IoBlocks` computes it: the block count is a
`UINT32`, the sum an `EFI_LBA`. -/
def requestLastBlock (media : BlockIoMedia) (request : BlockRequest) : UInt64 :=
  request.lba + (request.bufferSize / media.blockSize.toUInt64).toUInt32.toUInt64 - 1

/-- The checks `IoBlocks` makes before it touches the card, in order; `some`
status ends the request. -/
def checkRequest (media : BlockIoMedia) (request : BlockRequest) : Option EfiStatus :=
  if media.mediaId ≠ request.mediaId then some EfiStatus.mediaChanged
  else if request.buffer = 0 then some EfiStatus.invalidParameter
  else if !media.mediaPresent then some EfiStatus.noMedia
  -- reading 0 bytes is valid
  else if request.bufferSize = 0 then some EfiStatus.success
  else if request.transferDirection = .write ∧ media.readOnly then some EfiStatus.writeProtected
  else if request.bufferSize % media.blockSize.toUInt64 ≠ 0 then some EfiStatus.badBufferSize
  else if requestLastBlock media request > media.lastBlock then some EfiStatus.invalidParameter
  else if media.ioAlign > 2 ∧ request.buffer &&& (media.ioAlign - 1).toUInt64 ≠ 0 then
    some EfiStatus.invalidParameter
  else none

/-- The data commands of block I/O. -/
def blockIoCommands : List SdCommand :=
  [cmdReadSingleBlock, cmdReadMultiBlock, cmdWriteSingleBlock, cmdWriteMultiBlock]

def requestCommand (media : BlockIoMedia) (request : BlockRequest) : SdCommand :=
  let blockCount := (request.bufferSize / media.blockSize.toUInt64).toUInt32
  if request.transferDirection = .read then
    if blockCount = 1 then cmdReadSingleBlock else cmdReadMultiBlock
  else if blockCount = 1 then cmdWriteSingleBlock else cmdWriteMultiBlock

theorem requestCommand_mem (media : BlockIoMedia) (request : BlockRequest) :
    requestCommand media request ∈ blockIoCommands := by
  unfold requestCommand
  dsimp only
  split <;> split <;> simp [blockIoCommands]

/-! ### The loop -/

def dataCommandRetryCount : Nat := 3

/-- The local variables of the chunk loop. -/
structure ChunkState where
  bytesRemaining : UInt32
  currentLba : UInt32
  currentBuffer : UInt64
  deriving DecidableEq, Repr

/-- `CurrentBufferSize`. -/
def ChunkState.size (chunk : ChunkState) (maxTransferSize : UInt32) : UInt32 :=
  if chunk.bytesRemaining < maxTransferSize then chunk.bytesRemaining else maxTransferSize

def ChunkState.command (chunk : ChunkState) (cmd : SdCommand) (maxTransferSize : UInt32) :
    DataCommand :=
  ⟨cmd, chunk.currentLba, chunk.size maxTransferSize, chunk.currentBuffer⟩

/-- Move on by the current chunk. The quotient by a block size of zero is zero,
as it is for the machine's unsigned division. -/
def ChunkState.advance (chunk : ChunkState) (maxTransferSize blockSize : UInt32) : ChunkState where
  bytesRemaining := chunk.bytesRemaining - chunk.size maxTransferSize
  currentLba := chunk.currentLba + chunk.size maxTransferSize / blockSize
  currentBuffer := chunk.currentBuffer + (chunk.size maxTransferSize).toUInt64

section

variable {σ : Type} (port : DataPort σ)

/-- The retry loop: send the command until it succeeds or the attempts are used
up. The status is that of the last attempt. -/
def sendWithRetries (command : DataCommand) : Nat → EfiStatus → σ → EfiStatus × σ
  | 0, status, state => (status, state)
  | attempts + 1, _, state =>
    let (status, after) := port.sendDataCommand command state
    if status.isError then sendWithRetries command attempts status after else (status, after)

def chunkLoop (cmd : SdCommand) (maxTransferSize : UInt32) :
    Nat → ChunkState → EfiStatus → σ → Option (EfiStatus × σ)
  | fuel, chunk, status, state =>
    if chunk.bytesRemaining = 0 then some (status, state)
    else match fuel with
      | 0 => none
      | fuel + 1 =>
        let (status, after) := sendWithRetries port (chunk.command cmd maxTransferSize)
          dataCommandRetryCount status state
        chunkLoop cmd maxTransferSize fuel
          (chunk.advance maxTransferSize (port.media after).blockSize) status after

/-- `IoBlocks`, with a bound on the number of chunks; `none` when the loop is
still running then. `uninitialized` is what the variable `Status` holds before
anything is assigned to it. -/
def ioBlocks (fuel : Nat) (request : BlockRequest) (uninitialized : EfiStatus) (state : σ) :
    Option (EfiStatus × σ) :=
  let media := port.media state
  match checkRequest media request with
  | some status => some (status, state)
  | none =>
    chunkLoop port (requestCommand media request) (port.maximumBlockCount * media.blockSize) fuel
      ⟨request.bufferSize.toUInt32, request.lba.toUInt32, request.buffer⟩ uninitialized state

theorem chunkLoop_mono {cmd : SdCommand} {maxTransferSize : UInt32} {fuel more : Nat}
    {chunk : ChunkState} {status : EfiStatus} {state : σ} {result : EfiStatus × σ}
    (returned : chunkLoop port cmd maxTransferSize fuel chunk status state = some result)
    (enough : fuel ≤ more) :
    chunkLoop port cmd maxTransferSize more chunk status state = some result := by
  induction fuel generalizing more chunk status state with
  | zero =>
    unfold chunkLoop at returned ⊢
    split at returned
    · rename_i finished
      rw [if_pos finished]
      exact returned
    · cases returned
  | succ fuel ih =>
    obtain ⟨extra, rfl⟩ : ∃ extra, more = extra + 1 := ⟨more - 1, by omega⟩
    unfold chunkLoop at returned ⊢
    split at returned
    · rename_i finished
      rw [if_pos finished]
      exact returned
    · rename_i pending
      rw [if_neg pending]
      exact ih returned (Nat.le_of_succ_le_succ enough)

/-- `IoBlocks` returns this status in this state. -/
def Returns (request : BlockRequest) (uninitialized : EfiStatus) (state : σ)
    (result : EfiStatus × σ) : Prop :=
  ∃ fuel, ioBlocks port fuel request uninitialized state = some result

theorem Returns.unique {request : BlockRequest} {uninitialized : EfiStatus} {state : σ}
    {first second : EfiStatus × σ} (one : Returns port request uninitialized state first)
    (other : Returns port request uninitialized state second) : first = second := by
  obtain ⟨fuel, one⟩ := one
  obtain ⟨more, other⟩ := other
  unfold ioBlocks at one other
  dsimp only at one other
  split at one
  · rename_i status checked
    rw [checked] at other
    exact Option.some.inj (one.symm.trans other)
  · rename_i checked
    rw [checked] at other
    rcases Nat.le_total fuel more with enough | enough
    · exact Option.some.inj ((chunkLoop_mono port one enough).symm.trans other)
    · exact Option.some.inj (one.symm.trans (chunkLoop_mono port other enough))

theorem sendWithRetries_preserves {relation : σ → σ → Prop} (refl : ∀ state, relation state state)
    (trans : ∀ {first second third}, relation first second → relation second third →
      relation first third)
    {command : DataCommand} (sends : ∀ state, relation state (port.sendDataCommand command state).2)
    (attempts : Nat) (status : EfiStatus) (state : σ) :
    relation state (sendWithRetries port command attempts status state).2 := by
  induction attempts generalizing status state with
  | zero => exact refl state
  | succ attempts ih =>
    simp only [sendWithRetries]
    split
    · exact trans (sends state) (ih _ _)
    · exact sends state

theorem ioBlocks_preserves (relation : σ → σ → Prop) (refl : ∀ state, relation state state)
    (trans : ∀ {first second third}, relation first second → relation second third →
      relation first third)
    (sends : ∀ command state, command.cmd ∈ blockIoCommands →
      relation state (port.sendDataCommand command state).2)
    {fuel : Nat} {request : BlockRequest} {uninitialized status : EfiStatus} {state after : σ}
    (returned : ioBlocks port fuel request uninitialized state = some (status, after)) :
    relation state after := by
  have loop {cmd : SdCommand} (member : cmd ∈ blockIoCommands) (maxTransferSize : UInt32)
      (fuel : Nat)
      (chunk : ChunkState) (status : EfiStatus) (state : σ) (result : EfiStatus × σ)
      (ended : chunkLoop port cmd maxTransferSize fuel chunk status state = some result) :
      relation state result.2 := by
    induction fuel generalizing chunk status state with
    | zero =>
      unfold chunkLoop at ended
      split at ended
      · cases ended
        exact refl state
      · cases ended
    | succ fuel ih =>
      unfold chunkLoop at ended
      split at ended
      · cases ended
        exact refl state
      · dsimp only at ended
        have sent := sendWithRetries_preserves port refl trans
          (fun state => sends (chunk.command cmd maxTransferSize) state member)
          dataCommandRetryCount status state
        exact trans sent (ih _ _ _ ended)
  unfold ioBlocks at returned
  dsimp only at returned
  split at returned
  · cases returned
    exact refl state
  · exact loop (requestCommand_mem _ _) _ _ _ _ _ _ returned

end

end MuRockchip.SdMmc
