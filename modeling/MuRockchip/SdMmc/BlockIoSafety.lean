/-
What block I/O guarantees (`IoBlocks`).

A request is checked in 64-bit arithmetic that wraps, carried on in 32-bit
counters, and served chunk by chunk with a status that each chunk overwrites.

* `ioBlocks_bounded_iff`: the requests for which the commands stay on the media
  and cover the request.
* `ioBlocks_noFalseSuccess_iff`: the patterns of outcomes under which success
  means that the whole request was transferred.
-/
import MuRockchip.SdMmc.BlockIoOutcomes

namespace MuRockchip.SdMmc

open MuRockchip.Base

/-! ### The commands of a request -/

def DataCommand.blocks (command : DataCommand) : Nat :=
  command.size.toNat / sdBlockLengthBytes.toNat

/-- Where a data command's bytes lie in the request's buffer. -/
def DataCommand.offset (buffer : UInt64) (command : DataCommand) : Nat :=
  (command.buffer - buffer).toNat

def maxTransferSize (maximumBlockCount : UInt32) : UInt32 :=
  maximumBlockCount * sdBlockLengthBytes

/-- The local variables at the start of the chunk loop. -/
def BlockRequest.chunk (request : BlockRequest) : ChunkState :=
  ⟨request.bufferSize.toUInt32, request.lba.toUInt32, request.buffer⟩

/-- The outcomes of the request's chunks under a pattern. -/
def BlockRequest.chunkOutcomes (request : BlockRequest) (maximumBlockCount : UInt32)
    (outcomes : Nat → DataOutcome) : List ChunkOutcome :=
  SdMmc.chunkOutcomes outcomes
    (chunkCount (maxTransferSize maximumBlockCount) request.chunk.bytesRemaining) 0 false

def BlockRequest.planned (request : BlockRequest) (cmd : SdCommand) (maximumBlockCount : UInt32)
    (outcomes : Nat → DataOutcome) : List (DataCommand × ChunkOutcome) :=
  plannedCommands cmd (maxTransferSize maximumBlockCount) request.chunk
    (request.chunkOutcomes maximumBlockCount outcomes)

section

variable {cmd : SdCommand} {limit : UInt32}

theorem maxTransferSize_dvd (maximumBlockCount : UInt32) :
    sdBlockLengthBytes.toNat ∣ (maxTransferSize maximumBlockCount).toNat := by
  rw [maxTransferSize, UInt32.toNat_mul, show sdBlockLengthBytes.toNat = 512 from rfl]
  omega

theorem plannedCommands_snd (chunk : ChunkState) (chunks : List ChunkOutcome) :
    (plannedCommands cmd limit chunk chunks).map Prod.snd = chunks := by
  induction chunks generalizing chunk with
  | nil => rfl
  | cons outcome rest ih => rw [plannedCommands, List.map_cons, ih]

/-- A list of chunks that covers the bytes left covers, without its first chunk,
those left after it. -/
theorem chunkCount_cons (nonzero : limit ≠ 0) {chunk : ChunkState} {outcome : ChunkOutcome}
    {rest : List ChunkOutcome}
    (counted : chunkCount limit chunk.bytesRemaining = (outcome :: rest).length) :
    0 < chunk.bytesRemaining.toNat ∧
      ∀ blockSize, chunkCount limit (chunk.advance limit blockSize).bytesRemaining
        = rest.length := by
  have pending : chunk.bytesRemaining ≠ 0 := fun finished => by
    rw [(chunkCount_eq_zero_iff nonzero).mpr finished] at counted
    cases counted
  refine ⟨toNat_pos pending, fun blockSize => ?_⟩
  rw [chunkCount_advance nonzero pending blockSize] at counted
  exact Nat.succ.inj counted

variable {chunks : List ChunkOutcome}

/-- No chunk of a request is empty. -/
theorem plannedCommands_positive (nonzero : limit ≠ 0) {chunk : ChunkState}
    (counted : chunkCount limit chunk.bytesRemaining = chunks.length) :
    ∀ entry ∈ plannedCommands cmd limit chunk chunks, 0 < entry.1.size.toNat := by
  induction chunks generalizing chunk with
  | nil => simp [plannedCommands]
  | cons outcome rest ih =>
    obtain ⟨remaining, later⟩ := chunkCount_cons nonzero counted
    have positive := toNat_pos nonzero
    rw [plannedCommands, List.forall_mem_cons]
    refine ⟨?_, ih (later _)⟩
    rw [ChunkState.command, ChunkState.size_toNat]
    omega

theorem plannedCommands_tile_buffer (nonzero : limit ≠ 0) (buffer : UInt64) {chunk : ChunkState}
    {chunks : List ChunkOutcome} (counted : chunkCount limit chunk.bytesRemaining = chunks.length)
    (fits : (chunk.currentBuffer - buffer).toNat + chunk.bytesRemaining.toNat < 2 ^ 64) :
    Tiles (DataCommand.offset buffer) (fun command => command.size.toNat)
      (chunk.currentBuffer - buffer).toNat
      ((plannedCommands cmd limit chunk chunks).map Prod.fst)
      ((chunk.currentBuffer - buffer).toNat + chunk.bytesRemaining.toNat) := by
  induction chunks generalizing chunk with
  | nil =>
    rw [(chunkCount_eq_zero_iff nonzero).mp counted]
    rfl
  | cons outcome rest ih =>
    obtain ⟨remaining, later⟩ := chunkCount_cons nonzero counted
    have size : (chunk.size limit).toNat = min chunk.bytesRemaining.toNat limit.toNat :=
      chunk.size_toNat
    have left (blockSize : UInt32) : (chunk.advance limit blockSize).bytesRemaining.toNat =
        chunk.bytesRemaining.toNat - limit.toNat := chunk.advance_bytes_toNat blockSize
    have moved (blockSize : UInt32) :
        ((chunk.advance limit blockSize).currentBuffer - buffer).toNat =
          (chunk.currentBuffer - buffer).toNat + (chunk.size limit).toNat := by
      have here := UInt64.toNat_sub chunk.currentBuffer buffer
      rw [ChunkState.advance, UInt64.toNat_sub, UInt64.toNat_add, UInt32.toNat_toUInt64]
      omega
    refine ⟨rfl, ?_⟩
    have tail := ih (later (if outcome.cleared then 0 else sdBlockLengthBytes)) (by
      rw [moved, left]
      omega)
    rw [moved, left] at tail
    have ends : (chunk.currentBuffer - buffer).toNat + (chunk.size limit).toNat +
        (chunk.bytesRemaining.toNat - limit.toNat) =
        (chunk.currentBuffer - buffer).toNat + chunk.bytesRemaining.toNat := by
      omega
    rw [ends] at tail
    exact tail

theorem plannedCommands_sum (nonzero : limit ≠ 0) {chunk : ChunkState}
    (counted : chunkCount limit chunk.bytesRemaining = chunks.length) :
    (((plannedCommands cmd limit chunk chunks).map Prod.fst).map
      fun command => command.size.toNat).sum = chunk.bytesRemaining.toNat := by
  have tiled :=
    @plannedCommands_tile_buffer cmd limit nonzero chunk.currentBuffer chunk chunks counted
    (by
      have := chunk.bytesRemaining.toNat_lt
      rw [UInt64.sub_self]
      change 0 + _ < _
      omega)
  have total := tiled.sum_length
  omega

/-- No command reaches past the blocks of the bytes left. -/
theorem plannedCommands_blocks_le (aligned : sdBlockLengthBytes.toNat ∣ limit.toNat)
    (chunk : ChunkState) (chunks : List ChunkOutcome) :
    ∀ entry ∈ plannedCommands cmd limit chunk chunks, entry.1.lba.toNat + entry.1.blocks ≤
      chunk.currentLba.toNat + chunk.bytesRemaining.toNat / sdBlockLengthBytes.toNat := by
  rw [show sdBlockLengthBytes.toNat = 512 from rfl] at *
  induction chunks generalizing chunk with
  | nil => simp [plannedCommands]
  | cons outcome rest ih =>
    have size : (chunk.size limit).toNat = min chunk.bytesRemaining.toNat limit.toNat :=
      chunk.size_toNat
    rw [plannedCommands, List.forall_mem_cons]
    constructor
    · change _ + (chunk.size limit).toNat / 512 ≤ _
      have : (chunk.size limit).toNat / 512 ≤ chunk.bytesRemaining.toNat / 512 :=
        Nat.div_le_div_right (by omega)
      simp only [ChunkState.command]
      omega
    · intro entry member
      have within := ih _ entry member
      rw [ChunkState.advance_bytes_toNat] at within
      have moved : (chunk.advance limit (if outcome.cleared then 0
          else sdBlockLengthBytes)).currentLba.toNat ≤
          chunk.currentLba.toNat + (chunk.size limit).toNat / 512 := by
        rw [ChunkState.advance, UInt32.toNat_add, UInt32.toNat_div]
        refine Nat.le_trans (Nat.mod_le _ _) (Nat.add_le_add_left ?_ _)
        cases outcome.cleared
        · exact Nat.le_refl _
        · exact Nat.le_trans (Nat.le_of_eq (Nat.div_zero _)) (Nat.zero_le _)
      omega

/-- The chunks' commands follow one another on the card exactly if no chunk but
the last loses the block size and no block address leaves the 32-bit range. -/
theorem plannedCommands_tile_blocks_iff (nonzero : limit ≠ 0)
    (aligned : sdBlockLengthBytes.toNat ∣ limit.toNat) {chunk : ChunkState}
    {chunks : List ChunkOutcome} (counted : chunkCount limit chunk.bytesRemaining = chunks.length)
    (lba : Nat) :
    Tiles (fun command => command.lba.toNat) DataCommand.blocks lba
        ((plannedCommands cmd limit chunk chunks).map Prod.fst)
        (lba + chunk.bytesRemaining.toNat / sdBlockLengthBytes.toNat) ↔
      (chunks ≠ [] → chunk.currentLba.toNat = lba ∧
        (∀ outcome ∈ chunks.dropLast, outcome.cleared = false) ∧
        lba + (chunks.length - 1) * (limit.toNat / sdBlockLengthBytes.toNat) < 2 ^ 32) := by
  have positive := toNat_pos nonzero
  obtain ⟨factor, multiple⟩ : 512 ∣ limit.toNat := aligned
  rw [show sdBlockLengthBytes.toNat = 512 from rfl]
  induction chunks generalizing chunk lba with
  | nil =>
    rw [(chunkCount_eq_zero_iff nonzero).mp counted]
    simp [plannedCommands, Tiles]
  | cons outcome rest ih =>
    obtain ⟨remaining, later⟩ := chunkCount_cons nonzero counted
    have size : (chunk.size limit).toNat = min chunk.bytesRemaining.toNat limit.toNat :=
      chunk.size_toNat
    have tail := ih (later (if outcome.cleared then 0 else sdBlockLengthBytes))
      (lba + (chunk.size limit).toNat / 512)
    rw [ChunkState.advance_bytes_toNat] at tail
    have ends : lba + (chunk.size limit).toNat / 512 +
        (chunk.bytesRemaining.toNat - limit.toNat) / 512 =
        lba + chunk.bytesRemaining.toNat / 512 := by
      rw [size]
      rcases Nat.le_total chunk.bytesRemaining.toNat limit.toNat with last | more
      · rw [Nat.min_eq_left last]
        omega
      · rw [Nat.min_eq_right more]
        omega
    rw [ends] at tail
    have unfolded : Tiles (fun command => command.lba.toNat) DataCommand.blocks lba
        ((plannedCommands cmd limit chunk (outcome :: rest)).map Prod.fst)
        (lba + chunk.bytesRemaining.toNat / 512) ↔ chunk.currentLba.toNat = lba ∧
        Tiles (fun command => command.lba.toNat) DataCommand.blocks
          (lba + (chunk.size limit).toNat / 512)
          ((plannedCommands cmd limit (chunk.advance limit
            (if outcome.cleared then 0 else sdBlockLengthBytes)) rest).map Prod.fst)
          (lba + chunk.bytesRemaining.toNat / 512) := Iff.rfl
    refine unfolded.trans ((and_congr_right fun _ => tail).trans ?_)
    cases rest with
    | nil =>
      have bound := chunk.currentLba.toNat_lt
      simp only [ne_eq, not_true_eq_false, false_implies, and_true, reduceCtorEq,
        not_false_eq_true, true_implies, List.dropLast_singleton, List.not_mem_nil,
        List.length_singleton, Nat.sub_self, Nat.zero_mul]
      constructor
      · intro same
        exact ⟨same, fun _ => trivial, by omega⟩
      · exact fun same => same.1
    | cons next others =>
      -- another chunk follows, so this one is a full one
      have more : limit.toNat < chunk.bytesRemaining.toNat := by
        have := (chunkCount_cons nonzero (later 0)).1
        rw [ChunkState.advance_bytes_toNat] at this
        omega
      have full : (chunk.size limit).toNat = limit.toNat := by omega
      have moved : (chunk.advance limit
          (if outcome.cleared then 0 else sdBlockLengthBytes)).currentLba.toNat =
          (chunk.currentLba.toNat + if outcome.cleared then 0 else limit.toNat / 512) % 2 ^ 32 := by
        rw [ChunkState.advance, UInt32.toNat_add, UInt32.toNat_div, full]
        cases outcome.cleared
        · rfl
        · exact congrArg (fun moved => (chunk.currentLba.toNat + moved) % 2 ^ 32) (Nat.div_zero _)
      rw [moved, full]
      have bound := chunk.currentLba.toNat_lt
      have step : 1 ≤ limit.toNat / 512 := by omega
      simp only [ne_eq, reduceCtorEq, not_false_eq_true, true_implies, List.dropLast_cons_cons,
        List.forall_mem_cons, List.length_cons, Nat.add_sub_cancel, Nat.succ_mul]
      constructor
      · rintro ⟨here, there, kept, small⟩
        cases cleared : outcome.cleared with
        | true =>
          rw [cleared, if_pos rfl] at there
          omega
        | false => exact ⟨here, ⟨rfl, kept⟩, by omega⟩
      · rintro ⟨here, ⟨cleared, kept⟩, small⟩
        rw [cleared, if_neg Bool.false_ne_true]
        exact ⟨here, by omega, kept, by omega⟩

end

/-! ### What a request returns -/

section

variable (media : BlockIoMedia) (maximumBlockCount : UInt32) (outcomes : Nat → DataOutcome)
  {request : BlockRequest} (uninitialized : EfiStatus)

theorem media_initial :
    (outcomePort media maximumBlockCount outcomes).media .initial = describedMedia media false :=
  rfl

theorem returns_of_checked {status : EfiStatus}
    (checked : checkRequest (describedMedia media false) request = some status) :
    Returns (outcomePort media maximumBlockCount outcomes) request uninitialized .initial
      (status, .initial) := by
  refine ⟨0, ?_⟩
  unfold ioBlocks
  dsimp only
  rw [media_initial, checked]

theorem ioBlocks_of_passed (passed : checkRequest (describedMedia media false) request = none)
    (fuel : Nat) :
    ioBlocks (outcomePort media maximumBlockCount outcomes) fuel request uninitialized .initial =
      chunkLoop (outcomePort media maximumBlockCount outcomes)
        (requestCommand (describedMedia media false) request) (maxTransferSize maximumBlockCount)
        fuel request.chunk uninitialized .initial := by
  unfold ioBlocks
  dsimp only
  rw [media_initial, passed]
  rfl

theorem returns_of_passed (passed : checkRequest (describedMedia media false) request = none)
    (moves : maxTransferSize maximumBlockCount ≠ 0 ∨ request.chunk.bytesRemaining = 0) :
    ∃ result, Returns (outcomePort media maximumBlockCount outcomes) request uninitialized .initial
        result ∧
      LoopResult (request.planned (requestCommand (describedMedia media false) request)
        maximumBlockCount outcomes) uninitialized .initial result := by
  by_cases nonzero : maxTransferSize maximumBlockCount = 0
  · have finished := moves.resolve_left (not_not_intro nonzero)
    refine ⟨(uninitialized, .initial), ⟨0, ?_⟩, ?_⟩
    · rw [ioBlocks_of_passed media maximumBlockCount outcomes uninitialized passed, chunkLoop,
        if_pos finished]
    · rw [BlockRequest.planned, BlockRequest.chunkOutcomes, nonzero, chunkCount, UInt32.toNat_zero,
        Nat.div_zero]
      exact LoopResult.nil uninitialized .initial
  · obtain ⟨result, returned, described⟩ := chunkLoop_result media maximumBlockCount outcomes
      (requestCommand (describedMedia media false) request) nonzero
      (Nat.le_refl (chunkCount _ request.chunk.bytesRemaining)) uninitialized .initial
    refine ⟨result,
      ⟨chunkCount (maxTransferSize maximumBlockCount) request.chunk.bytesRemaining, ?_⟩,
      described⟩
    rw [ioBlocks_of_passed media maximumBlockCount outcomes uninitialized passed]
    exact returned

theorem described_of_returns (passed : checkRequest (describedMedia media false) request = none)
    {result : EfiStatus × OutcomeState}
    (returned :
      Returns (outcomePort media maximumBlockCount outcomes) request uninitialized .initial
      result) :
    (maxTransferSize maximumBlockCount ≠ 0 ∨ request.chunk.bytesRemaining = 0) ∧
      LoopResult (request.planned (requestCommand (describedMedia media false) request)
        maximumBlockCount outcomes) uninitialized .initial result := by
  have moves : maxTransferSize maximumBlockCount ≠ 0 ∨ request.chunk.bytesRemaining = 0 := by
    by_contra stuck
    obtain ⟨stuck, pending⟩ := not_or.mp stuck
    obtain ⟨fuel, returned⟩ := returned
    rw [ioBlocks_of_passed media maximumBlockCount outcomes uninitialized passed, not_not.mp stuck,
      chunkLoop_zero media maximumBlockCount outcomes _ fuel pending] at returned
    cases returned
  obtain ⟨other, same, described⟩ :=
    returns_of_passed media maximumBlockCount outcomes uninitialized passed moves
  obtain rfl := returned.unique _ same
  exact ⟨moves, described⟩

end

variable {media : BlockIoMedia} {request : BlockRequest}

/-- A request ended by a check moves nothing; it succeeds only if it is empty. -/
theorem checkRequest_isError {status : EfiStatus}
    (checked : checkRequest media request = some status) :
    status = EfiStatus.success ∧ request.bufferSize = 0 ∨ status.isError = true := by
  unfold checkRequest at checked
  repeat' split at checked
  all_goals cases checked
  all_goals first
    | exact .inr (by decide)
    | exact .inl ⟨rfl, ‹_›⟩

theorem bufferSize_of_passed
    (passed : checkRequest media request = none) : request.bufferSize ≠ 0 := by
  intro empty
  unfold checkRequest at passed
  simp only [empty, if_true] at passed
  repeat' split at passed
  all_goals cases passed

/-! ### Bounds -/

/-- The request spans blocks beyond the last one of the media, in exact
arithmetic. An empty request spans no block. -/
def OutOfRange (media : BlockIoMedia) (request : BlockRequest) : Prop :=
  request.bufferSize ≠ 0 ∧ media.lastBlock.toNat + 1 <
    request.lba.toNat + request.bufferSize.toNat / sdBlockLengthBytes.toNat

/-- What a run must satisfy: its commands stay on the media, nothing is sent for
a request beyond it, and commands that all succeed cover the whole request. -/
structure BoundedRun (media : BlockIoMedia) (request : BlockRequest)
    (outcomes : Nat → DataOutcome) (status : EfiStatus) (after : OutcomeState) : Prop where
  inside : ∀ command ∈ after.issued,
    command.lba.toNat + command.blocks ≤ media.lastBlock.toNat + 1
  rejected : OutOfRange media request → after.issued = [] ∧ status.isError = true
  complete : (∀ index, outcomes index = .succeeded) → status = EfiStatus.success →
    (after.issued.map fun command => command.size.toNat).sum = request.bufferSize.toNat

/-- The request returns, with a bounded run, however its commands end. -/
def Bounded (media : BlockIoMedia) (maximumBlockCount : UInt32) (request : BlockRequest) : Prop :=
  ∀ outcomes uninitialized, ∃ status after,
    Returns (outcomePort media maximumBlockCount outcomes) request uninitialized .initial
      (status, after) ∧ BoundedRun media request outcomes status after

section

variable {media : BlockIoMedia} {maximumBlockCount : UInt32} {request : BlockRequest}

variable {cmd : SdCommand} {outcomes : Nat → DataOutcome} {result : EfiStatus × OutcomeState}
  {uninitialized : EfiStatus}

theorem planned_blocks_le :
    ∀ entry ∈ request.planned cmd maximumBlockCount outcomes, entry.1.lba.toNat + entry.1.blocks ≤
      request.lba.toNat + request.bufferSize.toNat / sdBlockLengthBytes.toNat := by
  intro entry member
  have within := plannedCommands_blocks_le (maxTransferSize_dvd maximumBlockCount) request.chunk _
    entry member
  have lba : request.chunk.currentLba.toNat ≤ request.lba.toNat := by
    change request.lba.toUInt32.toNat ≤ _
    rw [UInt64.toNat_toUInt32]
    exact Nat.mod_le _ _
  have bytes : request.chunk.bytesRemaining.toNat / sdBlockLengthBytes.toNat ≤
      request.bufferSize.toNat / sdBlockLengthBytes.toNat := by
    refine Nat.div_le_div_right ?_
    change request.bufferSize.toUInt32.toNat ≤ _
    rw [UInt64.toNat_toUInt32]
    exact Nat.mod_le _ _
  omega

theorem chunkCount_chunkOutcomes (request : BlockRequest) (maximumBlockCount : UInt32)
    (outcomes : Nat → DataOutcome) :
    chunkCount (maxTransferSize maximumBlockCount) request.chunk.bytesRemaining =
      (request.chunkOutcomes maximumBlockCount outcomes).length :=
  (chunkOutcomes_length outcomes _ 0 false).symm

theorem planned_sum (nonzero : maxTransferSize maximumBlockCount ≠ 0) (cmd : SdCommand)
    (outcomes : Nat → DataOutcome) :
    (((request.planned cmd maximumBlockCount outcomes).map Prod.fst).map
      fun command => command.size.toNat).sum = request.bufferSize.toNat % 2 ^ 32 := by
  rw [BlockRequest.planned, plannedCommands_sum nonzero (chunkCount_chunkOutcomes _ _ outcomes)]
  exact UInt64.toNat_toUInt32 _

theorem issued_eq_succeededCommands (all : ∀ index, outcomes index = .succeeded) (returned :
      Returns (outcomePort media maximumBlockCount outcomes) request uninitialized .initial
      result) : result.2.issued = result.2.succeededCommands := by
  obtain ⟨fuel, returned⟩ := returned
  have kept := ioBlocks_preserves (outcomePort media maximumBlockCount outcomes)
    (fun before after => (∀ entry ∈ before.log, entry.2.isError = false) →
      ∀ entry ∈ after.log, entry.2.isError = false)
    (fun _ good => good) (fun first second good => second (first good)) (by
      intro command state _ good
      simp only [outcomePort, all, List.forall_mem_append, List.forall_mem_singleton]
      exact ⟨good, EfiStatus.isError_success⟩) returned (by simp [OutcomeState.initial])
  rw [OutcomeState.issued, OutcomeState.succeededCommands, List.filter_eq_self.mpr]
  intro entry member
  rw [kept entry member]
  rfl

theorem chunkOutcomes_succeeded (all : ∀ index, outcomes index = .succeeded) (count position : Nat)
    (cleared : Bool) :
    ∀ outcome ∈ chunkOutcomes outcomes count position cleared, outcome.succeeded = true := by
  induction count generalizing position cleared with
  | zero => simp [chunkOutcomes]
  | succ count ih =>
    rw [chunkOutcomes, List.forall_mem_cons]
    refine ⟨?_, ih _ _⟩
    rw [dataCommandRetryCount, settleChunk, all]

theorem planned_succeeded (all : ∀ outcome ∈ request.chunkOutcomes maximumBlockCount outcomes,
      outcome.succeeded = true) :
    ∀ entry ∈ request.planned cmd maximumBlockCount outcomes, entry.2.succeeded = true := by
  intro entry member
  refine all entry.2 ?_
  rw [← plannedCommands_snd request.chunk (request.chunkOutcomes maximumBlockCount outcomes)]
  exact List.mem_map_of_mem member

theorem succeededOf_planned (all : ∀ outcome ∈ request.chunkOutcomes maximumBlockCount outcomes,
      outcome.succeeded = true) :
    succeededOf (request.planned cmd maximumBlockCount outcomes) =
      (request.planned cmd maximumBlockCount outcomes).map Prod.fst := by
  rw [succeededOf, List.filter_eq_self.mpr (planned_succeeded all)]

/-- When every command succeeds, so does the request, unless it started with an
error and had nothing to send. -/
theorem success_of_all_succeeded {planned : List (DataCommand × ChunkOutcome)}
    {before : OutcomeState} (all : ∀ entry ∈ planned, entry.2.succeeded = true)
    (described : LoopResult planned EfiStatus.success before result) :
    result.1 = EfiStatus.success := by
  cases final : planned.getLast? with
  | none => exact described.idle (List.getLast?_eq_none_iff.mp final)
  | some last => exact described.good last final (all last (List.mem_of_getLast? final))

/-- When every command succeeds, what is sent are the planned commands. -/
theorem issued_of_all_succeeded (all : ∀ index, outcomes index = .succeeded) (returned :
      Returns (outcomePort media maximumBlockCount outcomes) request uninitialized .initial
      result)
    (described : LoopResult (request.planned cmd maximumBlockCount outcomes) uninitialized .initial
      result) :
    result.2.issued = (request.planned cmd maximumBlockCount outcomes).map Prod.fst := by
  rw [issued_eq_succeededCommands all returned, described.succeeded,
    succeededOf_planned (chunkOutcomes_succeeded all _ _ _)]
  rfl

end

/-- The requests with bounded runs are those that a check ends and those that
lie on the media, are shorter than 2^32 bytes and have chunks that are not empty. -/
theorem ioBlocks_bounded_iff (media : BlockIoMedia) (maximumBlockCount : UInt32)
    (request : BlockRequest) :
    Bounded media maximumBlockCount request ↔
      (checkRequest (describedMedia media false) request = none →
        ¬OutOfRange media request ∧ request.bufferSize.toNat < 2 ^ 32 ∧
          maxTransferSize maximumBlockCount ≠ 0) := by
  constructor
  · intro bounded passed
    have nonempty := bufferSize_of_passed passed
    obtain ⟨status, after, returned, run⟩ := bounded (fun _ => .succeeded) EfiStatus.success
    obtain ⟨moves, described⟩ := described_of_returns media maximumBlockCount _ _ passed returned
    have succeeded : status = EfiStatus.success := success_of_all_succeeded (fun entry member =>
      planned_succeeded (chunkOutcomes_succeeded (fun _ => rfl) _ _ _) entry member) described
    have total := run.complete (fun _ => rfl) succeeded
    rw [issued_of_all_succeeded (fun _ => rfl) returned described] at total
    have nonzero : maxTransferSize maximumBlockCount ≠ 0 := by
      intro zero
      rw [BlockRequest.planned, BlockRequest.chunkOutcomes, zero, chunkCount, UInt32.toNat_zero,
        Nat.div_zero] at total
      exact nonempty (UInt64.toNat_inj.mp total.symm)
    rw [planned_sum nonzero _ _] at total
    refine ⟨fun beyond => ?_, by omega, nonzero⟩
    have failed := (run.rejected beyond).2
    rw [succeeded] at failed
    cases failed
  · intro served outcomes uninitialized
    cases checked : checkRequest (describedMedia media false) request with
    | some status =>
      refine ⟨status, .initial, returns_of_checked media _ _ _ checked, by
        simp [OutcomeState.issued, OutcomeState.initial], fun beyond => ⟨rfl, ?_⟩, ?_⟩
      · exact (checkRequest_isError checked).resolve_left fun empty => beyond.1 empty.2
      · intro _ succeeded
        rcases checkRequest_isError checked with ⟨_, empty⟩ | failed
        · rw [empty]
          rfl
        · rw [succeeded] at failed
          cases failed
    | none =>
      obtain ⟨within, small, nonzero⟩ := served checked
      obtain ⟨result, returned, described⟩ :=
        returns_of_passed media maximumBlockCount outcomes uninitialized checked (.inl nonzero)
      refine ⟨result.1, result.2, returned, ?_, fun beyond => absurd beyond within, ?_⟩
      · intro command sent
        rcases described.issued command sent with before | here
        · cases before
        · obtain ⟨entry, member, rfl⟩ := List.mem_map.mp here
          have reach := planned_blocks_le entry member
          have bound := not_and.mp within (bufferSize_of_passed checked)
          omega
      · intro all _
        rw [issued_of_all_succeeded all returned described, planned_sum nonzero _ _]
        exact Nat.mod_eq_of_lt small

/-- A read of 4 GiB and one block from a 64 GiB card: the byte counter keeps the
one block, and the request succeeds after it. -/
theorem long_read_not_bounded :
    ¬Bounded ⟨0, true, false, sdBlockLengthBytes, 0, 134217727⟩ 65535
      ⟨.read, 0, 0, 4294967808, 4096⟩ := by
  intro bounded
  obtain ⟨status, after, returned, run⟩ := bounded (fun _ => .succeeded) EfiStatus.success
  have moved : (status, after) = (EfiStatus.success, ⟨1, false,
      [(⟨cmdReadMultiBlock, 0, 512, 4096⟩, EfiStatus.success)]⟩) :=
    returned.unique _ ⟨1, by rfl⟩
  obtain ⟨rfl, rfl⟩ := Prod.mk.inj moved
  have total := run.complete (fun _ => rfl) rfl
  exact absurd total (by decide)

/-! ### False success -/

/-- The commands cover the request: on the card from its first block to its last
one, in the buffer from the first byte to the last one, each following the one
before it. -/
def TilesRequest (request : BlockRequest) (commands : List DataCommand) : Prop :=
  Tiles (fun command => command.lba.toNat) DataCommand.blocks request.lba.toNat commands
      (request.lba.toNat + request.bufferSize.toNat / sdBlockLengthBytes.toNat) ∧
    Tiles (DataCommand.offset request.buffer) (fun command => command.size.toNat) 0 commands
      request.bufferSize.toNat

def NoFalseSuccess (media : BlockIoMedia) (maximumBlockCount : UInt32)
    (outcomes : Nat → DataOutcome) (request : BlockRequest) (uninitialized : EfiStatus) : Prop :=
  ∃ status after,
    Returns (outcomePort media maximumBlockCount outcomes) request uninitialized .initial
      (status, after) ∧
    (status = EfiStatus.success → TilesRequest request after.succeededCommands) ∧
    ((∃ command ∈ after.issued, command ∉ after.succeededCommands) → status.isError = true)

/-- The chunks of a request are all transferred, and where they belong: the whole
request fits the byte counter and the block addresses, and the block size
survives up to the last chunk. -/
structure Transferred (maximumBlockCount : UInt32) (request : BlockRequest)
    (chunks : List ChunkOutcome) : Prop where
  nonzero : maxTransferSize maximumBlockCount ≠ 0
  succeeded : ∀ outcome ∈ chunks, outcome.succeeded = true
  described : ∀ outcome ∈ chunks.dropLast, outcome.cleared = false
  size : request.bufferSize.toNat < 2 ^ 32
  lba : request.lba.toNat + (chunks.length - 1) *
    ((maxTransferSize maximumBlockCount).toNat / sdBlockLengthBytes.toNat) < 2 ^ 32

section

variable {maximumBlockCount : UInt32} {request : BlockRequest} {cmd : SdCommand}
  {outcomes : Nat → DataOutcome}

theorem nonzero_of_busy (busy : request.chunkOutcomes maximumBlockCount outcomes ≠ []) :
    maxTransferSize maximumBlockCount ≠ 0 := by
  intro zero
  rw [BlockRequest.chunkOutcomes, zero, chunkCount, UInt32.toNat_zero, Nat.div_zero] at busy
  exact busy rfl

theorem busy_of_transferred (nonempty : request.bufferSize ≠ 0)
    (moved : Transferred maximumBlockCount request
      (request.chunkOutcomes maximumBlockCount outcomes)) :
    request.chunkOutcomes maximumBlockCount outcomes ≠ [] := by
  intro idle
  have nothing := chunkCount_chunkOutcomes request maximumBlockCount outcomes
  rw [idle] at nothing
  have finished := congrArg UInt32.toNat ((chunkCount_eq_zero_iff moved.nonzero).mp nothing)
  change request.bufferSize.toUInt32.toNat = 0 at finished
  rw [UInt64.toNat_toUInt32, Nat.mod_eq_of_lt moved.size] at finished
  exact nonempty (UInt64.toNat_inj.mp finished)

theorem planned_getLast {last : ChunkOutcome}
    (final : (request.chunkOutcomes maximumBlockCount outcomes).getLast? = some last) :
    ∃ entry ∈ (request.planned cmd maximumBlockCount outcomes).getLast?, entry.2 = last := by
  rw [← plannedCommands_snd request.chunk (request.chunkOutcomes maximumBlockCount outcomes),
    List.getLast?_map, Option.map_eq_some_iff] at final
  exact final

theorem tilesRequest_empty (empty : request.bufferSize = 0) : TilesRequest request [] := by
  rw [TilesRequest, empty]
  exact ⟨rfl, rfl⟩

theorem succeeded_of_tiles (nonzero : maxTransferSize maximumBlockCount ≠ 0)
    (tiled : TilesRequest request (succeededOf (request.planned cmd maximumBlockCount outcomes))) :
    ∀ outcome ∈ request.chunkOutcomes maximumBlockCount outcomes, outcome.succeeded = true := by
  have covered := tiled.2.sum_length
  have planned : ((request.planned cmd maximumBlockCount outcomes).map Prod.fst |>.map
    fun command => command.size.toNat).sum = _ := planned_sum nonzero cmd outcomes
  rw [succeededOf, List.map_map] at covered
  rw [List.map_map] at planned
  have total : ((request.planned cmd maximumBlockCount outcomes).map
        ((fun command => command.size.toNat) ∘ Prod.fst)).sum ≤
      (((request.planned cmd maximumBlockCount outcomes).filter fun entry =>
        entry.2.succeeded).map ((fun command => command.size.toNat) ∘ Prod.fst)).sum := by
    omega
  have chosen := all_of_sum_le_filter
    (plannedCommands_positive nonzero (chunkCount_chunkOutcomes _ _ outcomes)) total
  intro outcome member
  rw [← plannedCommands_snd request.chunk (request.chunkOutcomes maximumBlockCount outcomes)]
    at member
  obtain ⟨entry, member, rfl⟩ := List.mem_map.mp member
  exact chosen entry member

theorem tilesRequest_iff_transferred (nonzero : maxTransferSize maximumBlockCount ≠ 0)
    (busy : request.chunkOutcomes maximumBlockCount outcomes ≠ []) :
    TilesRequest request (succeededOf (request.planned cmd maximumBlockCount outcomes)) ↔
      Transferred maximumBlockCount request (request.chunkOutcomes maximumBlockCount outcomes) := by
  have counted : chunkCount (maxTransferSize maximumBlockCount) request.chunk.bytesRemaining =
      (request.chunkOutcomes maximumBlockCount outcomes).length :=
    chunkCount_chunkOutcomes _ _ outcomes
  have blocks := @plannedCommands_tile_blocks_iff cmd _ nonzero
    (maxTransferSize_dvd maximumBlockCount) _ _ counted request.lba.toNat
  have bytes : request.chunk.bytesRemaining.toNat = request.bufferSize.toNat % 2 ^ 32 :=
    UInt64.toNat_toUInt32 _
  have lba : request.chunk.currentLba.toNat = request.lba.toNat % 2 ^ 32 :=
    UInt64.toNat_toUInt32 _
  constructor
  · intro tiled
    have succeeded := succeeded_of_tiles nonzero tiled
    rw [succeededOf_planned succeeded] at tiled
    have size : request.bufferSize.toNat % 2 ^ 32 = request.bufferSize.toNat := by
      have total := tiled.2.sum_length
      rw [planned_sum nonzero _ _] at total
      omega
    rw [bytes, size] at blocks
    obtain ⟨_, described, small⟩ := blocks.mp tiled.1 busy
    exact ⟨nonzero, succeeded, described, by omega, small⟩
  · intro moved
    have size : request.bufferSize.toNat % 2 ^ 32 = request.bufferSize.toNat :=
      Nat.mod_eq_of_lt moved.size
    have start := moved.lba
    rw [bytes, size] at blocks
    rw [succeededOf_planned moved.succeeded]
    refine ⟨blocks.mpr fun _ => ⟨by omega, moved.described, start⟩, ?_⟩
    have tiled := @plannedCommands_tile_buffer cmd _ nonzero request.buffer _ _ counted (by
      rw [show request.chunk.currentBuffer - request.buffer = 0 from UInt64.sub_self _,
        UInt64.toNat_zero]
      omega)
    rw [show request.chunk.currentBuffer - request.buffer = 0 from UInt64.sub_self _,
      UInt64.toNat_zero, bytes, size, Nat.zero_add] at tiled
    exact tiled

end

/-- Success is truthful exactly if a check ends the request, the last chunk
fails, nothing is sent and the status starts as something else, or every chunk is
transferred where it belongs. -/
theorem ioBlocks_noFalseSuccess_iff (media : BlockIoMedia) (maximumBlockCount : UInt32)
    (outcomes : Nat → DataOutcome) (request : BlockRequest) (uninitialized : EfiStatus) :
    NoFalseSuccess media maximumBlockCount outcomes request uninitialized ↔
      (checkRequest (describedMedia media false) request = none →
        (request.chunk.bytesRemaining = 0 ∧ uninitialized ≠ EfiStatus.success) ∨
        (∃ last ∈ (request.chunkOutcomes maximumBlockCount outcomes).getLast?,
          last.succeeded = false) ∨
        Transferred maximumBlockCount request
          (request.chunkOutcomes maximumBlockCount outcomes)) := by
  constructor
  · rintro ⟨status, after, returned, truthful, -⟩ passed
    obtain ⟨moves, described⟩ := described_of_returns media maximumBlockCount _ _ passed returned
    cases final : (request.chunkOutcomes maximumBlockCount outcomes).getLast? with
    | none =>
      have idle := List.getLast?_eq_none_iff.mp final
      have nothing := chunkCount_chunkOutcomes request maximumBlockCount outcomes
      rw [idle] at nothing
      refine .inl ⟨moves.elim (fun nonzero => (chunkCount_eq_zero_iff nonzero).mp nothing) id, ?_⟩
      intro started
      rw [BlockRequest.planned, idle] at described
      have tiled := (truthful ((described.idle rfl).trans started)).2
      rw [described.succeeded] at tiled
      exact bufferSize_of_passed passed (UInt64.toNat_inj.mp tiled.symm)
    | some last =>
      cases ended : last.succeeded with
      | false => exact .inr (.inl ⟨last, rfl, ended⟩)
      | true =>
        have busy : request.chunkOutcomes maximumBlockCount outcomes ≠ [] := by
          intro idle
          rw [idle] at final
          cases final
        obtain ⟨entry, finalEntry, rfl⟩ := planned_getLast final
        have tiled := truthful (described.good entry finalEntry ended)
        rw [described.succeeded] at tiled
        exact .inr (.inr ((tilesRequest_iff_transferred (nonzero_of_busy busy) busy).mp tiled))
  · intro served
    cases checked : checkRequest (describedMedia media false) request with
    | some status =>
      refine ⟨status, .initial, returns_of_checked media _ _ _ checked, ?_, by
        simp [OutcomeState.issued, OutcomeState.initial]⟩
      intro succeeded
      rcases checkRequest_isError checked with ⟨_, empty⟩ | failed
      · exact tilesRequest_empty empty
      · rw [succeeded] at failed
        cases failed
    | none =>
      rcases served checked with ⟨finished, started⟩ | ⟨last, final, failed⟩ | moved
      · obtain ⟨result, returned, described⟩ :=
          returns_of_passed media maximumBlockCount outcomes uninitialized checked (.inr finished)
        rw [BlockRequest.planned, BlockRequest.chunkOutcomes, finished, chunkCount_zero]
          at described
        refine ⟨result.1, result.2, returned, fun succeeded => ?_, ?_⟩
        · exact absurd ((described.idle rfl).symm.trans succeeded) started
        · rintro ⟨command, sent, -⟩
          rcases described.issued command sent with before | here
          · cases before
          · cases here
      · have busy : request.chunkOutcomes maximumBlockCount outcomes ≠ [] := by
          intro idle
          rw [idle] at final
          cases final
        obtain ⟨result, returned, described⟩ := returns_of_passed media maximumBlockCount outcomes
          uninitialized checked (.inl (nonzero_of_busy busy))
        obtain ⟨entry, finalEntry, rfl⟩ := planned_getLast final
        have error := described.bad entry finalEntry failed
        refine ⟨result.1, result.2, returned, fun succeeded => ?_, fun _ => error⟩
        rw [succeeded] at error
        cases error
      · obtain ⟨result, returned, described⟩ := returns_of_passed media maximumBlockCount outcomes
          uninitialized checked (.inl moved.nonzero)
        have busy := busy_of_transferred (bufferSize_of_passed checked) moved
        have sent := described.succeeded
        refine ⟨result.1, result.2, returned, fun _ => ?_, ?_⟩
        · rw [sent]
          exact (tilesRequest_iff_transferred moved.nonzero busy).mpr moved
        · rintro ⟨command, issued, missing⟩
          rw [sent, succeededOf_planned moved.succeeded] at missing
          rcases described.issued command issued with before | here
          · cases before
          · exact absurd here missing

/-- Two blocks, one a chunk: the three attempts at the first one fail. -/
def firstChunkFails (index : Nat) : DataOutcome :=
  if index < 3 then .failed ⟨EfiStatus.deviceError, by decide⟩ false else .succeeded

/-- The second chunk's success hides that the first block was never written. -/
theorem lost_first_chunk_reported_as_success :
    ¬NoFalseSuccess ⟨0, true, false, sdBlockLengthBytes, 0, 1023⟩ 1 firstChunkFails
      ⟨.write, 0, 0, 1024, 4096⟩ EfiStatus.success := by
  rintro ⟨status, after, returned, truthful, -⟩
  have lost : (status, after) = (EfiStatus.success, ⟨4, false,
      [(⟨cmdWriteMultiBlock, 0, 512, 4096⟩, EfiStatus.deviceError),
       (⟨cmdWriteMultiBlock, 0, 512, 4096⟩, EfiStatus.deviceError),
       (⟨cmdWriteMultiBlock, 0, 512, 4096⟩, EfiStatus.deviceError),
       (⟨cmdWriteMultiBlock, 1, 512, 4608⟩, EfiStatus.success)]⟩) :=
    returned.unique _ ⟨2, by rfl⟩
  obtain ⟨rfl, rfl⟩ := Prod.mk.inj lost
  have covered := (truthful rfl).1
  exact absurd covered.1 (by decide)

end MuRockchip.SdMmc
