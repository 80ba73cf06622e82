/-
Block I/O over an arbitrary pattern of command outcomes.

A pattern says of every data command in turn whether it succeeds, with which
error it fails, and whether its error recovery leaves the media description
cleared. The attempts of one chunk settle it, so a pattern splits into one
outcome for each chunk, and the chunk loop is described by that list.

* `chunkLoop_result`: what the loop returns and has sent, in terms of the list.
* `chunkLoop_zero`: a loop whose chunks are empty never ends.
-/
import MuRockchip.Base.Tiling
import MuRockchip.SdMmc.BlockIo

namespace MuRockchip.SdMmc

open MuRockchip.Base

/-! ### Patterns of outcomes -/

/-- What becomes of one data command. A failed one has run the error recovery,
which may have reset the card and left its media description cleared. -/
inductive DataOutcome where
  | succeeded
  | failed (error : ErrorStatus) (cleared : Bool)

/-- A run of block I/O under a pattern: how much of the pattern is used up, the
media description, and every data command with its status. -/
structure OutcomeState where
  position : Nat
  cleared : Bool
  log : List (DataCommand × EfiStatus)

/-- Before the request. -/
def OutcomeState.initial : OutcomeState := ⟨0, false, []⟩

/-- Every data command sent, retries included. -/
def OutcomeState.issued (state : OutcomeState) : List DataCommand :=
  state.log.map Prod.fst

def OutcomeState.succeededCommands (state : OutcomeState) : List DataCommand :=
  (state.log.filter fun entry => !entry.2.isError).map Prod.fst

/-- The media of an SD card or MMC device: its block size is the driver's fixed
one, or zero while the description is cleared. -/
def describedMedia (media : BlockIoMedia) (cleared : Bool) : BlockIoMedia :=
  { media with blockSize := if cleared then 0 else sdBlockLengthBytes }

/-- The port whose commands end as the pattern says. -/
def outcomePort (media : BlockIoMedia) (maximumBlockCount : UInt32)
    (outcomes : Nat → DataOutcome) : DataPort OutcomeState where
  media state := describedMedia media state.cleared
  maximumBlockCount := maximumBlockCount
  sendDataCommand command state :=
    match outcomes state.position with
    | .succeeded =>
      (EfiStatus.success,
        ⟨state.position + 1, state.cleared, state.log ++ [(command, EfiStatus.success)]⟩)
    | .failed error cleared =>
      (error.val, ⟨state.position + 1, cleared, state.log ++ [(command, error.val)]⟩)

/-! ### One chunk -/

/-- How a chunk ends: whether one of its attempts succeeded, where the pattern
continues, and the media description left behind. -/
structure ChunkOutcome where
  succeeded : Bool
  position : Nat
  cleared : Bool
  deriving DecidableEq, Repr

def settleChunk (outcomes : Nat → DataOutcome) : Nat → Nat → Bool → ChunkOutcome
  | 0, position, cleared => ⟨false, position, cleared⟩
  | attempts + 1, position, cleared =>
    match outcomes position with
    | .succeeded => ⟨true, position + 1, cleared⟩
    | .failed _ cleared => settleChunk outcomes attempts (position + 1) cleared

variable (media : BlockIoMedia) (maximumBlockCount : UInt32) (outcomes : Nat → DataOutcome)

/-- What the attempts of one chunk leave behind: the log grows by attempts of
this command only, one of which succeeded exactly if the chunk did. -/
structure SettledAs (command : DataCommand) (before : OutcomeState) (outcome : ChunkOutcome)
    (after : OutcomeState) : Prop where
  position : after.position = outcome.position
  cleared : after.cleared = outcome.cleared
  issued : ∀ other ∈ after.issued, other ∈ before.issued ∨ other = command
  succeeded : after.succeededCommands =
    before.succeededCommands ++ if outcome.succeeded then [command] else []

theorem sendWithRetries_settled (command : DataCommand) (attempts : Nat) (status : EfiStatus)
    (state : OutcomeState) :
    let outcome := settleChunk outcomes attempts state.position state.cleared
    let result :=
      sendWithRetries (outcomePort media maximumBlockCount outcomes) command attempts status state
    SettledAs command state outcome result.2 ∧
      (outcome.succeeded = true → result.1 = EfiStatus.success) ∧
      (outcome.succeeded = false → attempts ≠ 0 → result.1.isError = true) := by
  induction attempts generalizing status state with
  | zero =>
    refine ⟨⟨rfl, rfl, fun other sent => .inl sent, ?_⟩, ?_, ?_⟩
    · simp [settleChunk, sendWithRetries]
    · simp [settleChunk]
    · simp
  | succ attempts ih =>
    cases now : outcomes state.position with
    | succeeded =>
      simp only [settleChunk, sendWithRetries, outcomePort, now, EfiStatus.isError_success,
        Bool.false_eq_true, if_false]
      refine ⟨⟨rfl, rfl, ?_, ?_⟩, by simp, by simp⟩
      · intro other sent
        simpa [OutcomeState.issued, or_comm] using sent
      · simp [OutcomeState.succeededCommands, EfiStatus.isError_success]
    | failed error cleared =>
      obtain ⟨settled, good, bad⟩ := ih error.val
        ⟨state.position + 1, cleared, state.log ++ [(command, error.val)]⟩
      simp only [settleChunk, sendWithRetries, outcomePort, now, error.property, if_true]
      refine ⟨⟨settled.position, settled.cleared, ?_, ?_⟩, good, ?_⟩
      · intro other sent
        rcases settled.issued other sent with earlier | same
        · simpa [OutcomeState.issued] using earlier
        · exact .inr same
      · have grown := settled.succeeded
        simp only [OutcomeState.succeededCommands, List.filter_append, error.property,
          List.filter_cons, List.filter_nil, Bool.not_true, Bool.false_eq_true, if_false,
          List.append_nil] at grown
        exact grown
      · intro failed _
        cases attempts with
        | zero => exact error.property
        | succ attempts => exact bad failed (Nat.succ_ne_zero _)

/-! ### The chunks of a request -/

/-- The outcomes of so many consecutive chunks. -/
def chunkOutcomes (outcomes : Nat → DataOutcome) : Nat → Nat → Bool → List ChunkOutcome
  | 0, _, _ => []
  | count + 1, position, cleared =>
    let outcome := settleChunk outcomes dataCommandRetryCount position cleared
    outcome :: chunkOutcomes outcomes count outcome.position outcome.cleared

def plannedCommands (cmd : SdCommand) (maxTransferSize : UInt32) :
    ChunkState → List ChunkOutcome → List (DataCommand × ChunkOutcome)
  | _, [] => []
  | chunk, outcome :: rest =>
    (chunk.command cmd maxTransferSize, outcome) ::
      plannedCommands cmd maxTransferSize
        (chunk.advance maxTransferSize (if outcome.cleared then 0 else sdBlockLengthBytes)) rest

/-- The number of chunks so many bytes are cut into. -/
def chunkCount (maxTransferSize bytes : UInt32) : Nat :=
  (bytes.toNat + maxTransferSize.toNat - 1) / maxTransferSize.toNat

@[simp]
theorem chunkOutcomes_length (count position : Nat) (cleared : Bool) :
    (chunkOutcomes outcomes count position cleared).length = count := by
  induction count generalizing position cleared with
  | zero => rfl
  | succ count ih => simp [chunkOutcomes, ih]

section

variable {maxTransferSize : UInt32}

theorem toNat_pos {word : UInt32} (nonzero : word ≠ 0) : 0 < word.toNat :=
  Nat.pos_of_ne_zero fun zero => nonzero (UInt32.toNat_inj.mp zero)

theorem ChunkState.size_toNat (chunk : ChunkState) :
    (chunk.size maxTransferSize).toNat = min chunk.bytesRemaining.toNat maxTransferSize.toNat := by
  unfold ChunkState.size
  split
  · rename_i smaller
    have := UInt32.lt_iff_toNat_lt.mp smaller
    omega
  · rename_i larger
    have := UInt32.not_lt.mp larger
    have := UInt32.le_iff_toNat_le.mp this
    omega

theorem ChunkState.advance_bytes_toNat (chunk : ChunkState) (blockSize : UInt32) :
    (chunk.advance maxTransferSize blockSize).bytesRemaining.toNat =
      chunk.bytesRemaining.toNat - maxTransferSize.toNat := by
  have fits : chunk.size maxTransferSize ≤ chunk.bytesRemaining := by
    rw [UInt32.le_iff_toNat_le, ChunkState.size_toNat]
    omega
  rw [ChunkState.advance, UInt32.toNat_sub_of_le _ _ fits, ChunkState.size_toNat]
  omega

theorem chunkCount_eq_zero_iff (nonzero : maxTransferSize ≠ 0) {bytes : UInt32} :
    chunkCount maxTransferSize bytes = 0 ↔ bytes = 0 := by
  have positive := toNat_pos nonzero
  rw [chunkCount, Nat.div_eq_zero_iff_lt positive, ← UInt32.toNat_inj, UInt32.toNat_zero]
  omega

@[simp]
theorem chunkCount_zero (maxTransferSize : UInt32) : chunkCount maxTransferSize 0 = 0 := by
  by_cases nonzero : maxTransferSize = 0
  · rw [chunkCount, nonzero, UInt32.toNat_zero, Nat.div_zero]
  · exact (chunkCount_eq_zero_iff nonzero).mpr rfl

theorem chunkCount_advance (nonzero : maxTransferSize ≠ 0) {chunk : ChunkState}
    (pending : chunk.bytesRemaining ≠ 0) (blockSize : UInt32) :
    chunkCount maxTransferSize chunk.bytesRemaining =
      chunkCount maxTransferSize (chunk.advance maxTransferSize blockSize).bytesRemaining + 1 := by
  have positive := toNat_pos nonzero
  have remaining := toNat_pos pending
  rw [chunkCount, chunkCount, ChunkState.advance_bytes_toNat, ← Nat.add_div_right _ positive]
  rcases Nat.le_total chunk.bytesRemaining.toNat maxTransferSize.toNat with last | more
  · have left : (chunk.bytesRemaining.toNat + maxTransferSize.toNat - 1) / maxTransferSize.toNat
        = 1 := by
      rw [Nat.div_eq_iff positive]
      omega
    rw [left, Nat.sub_eq_zero_of_le last, Nat.zero_add,
      show maxTransferSize.toNat - 1 + maxTransferSize.toNat
        = maxTransferSize.toNat + (maxTransferSize.toNat - 1) by omega,
      Nat.add_div_left _ positive, Nat.div_eq_of_lt (by omega)]
  · congr 1
    omega

end

/-! ### The loop -/

def succeededOf (planned : List (DataCommand × ChunkOutcome)) : List DataCommand :=
  (planned.filter fun entry => entry.2.succeeded).map Prod.fst

/-- What the chunk loop returns and has sent once it has gone through `planned`.
Its status is that of the last chunk. -/
structure LoopResult (planned : List (DataCommand × ChunkOutcome)) (status : EfiStatus)
    (before : OutcomeState) (result : EfiStatus × OutcomeState) : Prop where
  issued : ∀ command ∈ result.2.issued,
    command ∈ before.issued ∨ command ∈ planned.map Prod.fst
  succeeded : result.2.succeededCommands = before.succeededCommands ++ succeededOf planned
  idle : planned = [] → result.1 = status
  good : ∀ last ∈ planned.getLast?, last.2.succeeded = true → result.1 = EfiStatus.success
  bad : ∀ last ∈ planned.getLast?, last.2.succeeded = false → result.1.isError = true

theorem LoopResult.nil (status : EfiStatus) (state : OutcomeState) :
    LoopResult [] status state (status, state) where
  issued _ sent := .inl sent
  succeeded := (List.append_nil _).symm
  idle _ := rfl
  good := by simp
  bad := by simp

theorem LoopResult.cons {command : DataCommand} {outcome : ChunkOutcome}
    {planned : List (DataCommand × ChunkOutcome)} {status : EfiStatus}
    {before middle : OutcomeState} {result : EfiStatus × OutcomeState}
    (settled : SettledAs command before outcome middle)
    (good : outcome.succeeded = true → status = EfiStatus.success)
    (bad : outcome.succeeded = false → status.isError = true) {initial : EfiStatus}
    (rest : LoopResult planned status middle result) :
    LoopResult ((command, outcome) :: planned) initial before result where
  issued other sent := by
    rcases rest.issued other sent with earlier | later
    · rcases settled.issued other earlier with before | here
      · exact .inl before
      · exact .inr (by simp [here])
    · exact .inr (List.mem_cons_of_mem _ later)
  succeeded := by
    rw [rest.succeeded, settled.succeeded, List.append_assoc]
    cases ended : outcome.succeeded <;> simp [succeededOf, ended]
  idle impossible := by cases impossible
  good last final done := by
    cases planned with
    | nil =>
      rw [rest.idle rfl]
      simp only [List.getLast?_singleton, Option.mem_def, Option.some.injEq] at final
      subst final
      exact good done
    | cons next planned => exact rest.good last (by simpa using final) done
  bad last final failed := by
    cases planned with
    | nil =>
      rw [rest.idle rfl]
      simp only [List.getLast?_singleton, Option.mem_def, Option.some.injEq] at final
      subst final
      exact bad failed
    | cons next planned => exact rest.bad last (by simpa using final) failed

theorem chunkLoop_result (cmd : SdCommand) {maxTransferSize : UInt32}
    (nonzero : maxTransferSize ≠ 0) {fuel : Nat} {chunk : ChunkState}
    (enough : chunkCount maxTransferSize chunk.bytesRemaining ≤ fuel) (status : EfiStatus)
    (state : OutcomeState) :
    ∃ result, chunkLoop (outcomePort media maximumBlockCount outcomes) cmd maxTransferSize fuel
        chunk status state = some result ∧
      LoopResult (plannedCommands cmd maxTransferSize chunk
        (chunkOutcomes outcomes (chunkCount maxTransferSize chunk.bytesRemaining) state.position
          state.cleared)) status state result := by
  induction fuel generalizing chunk status state with
  | zero =>
    have finished := (chunkCount_eq_zero_iff nonzero).mp (Nat.le_zero.mp enough)
    refine ⟨(status, state), by simp [chunkLoop, finished], ?_⟩
    rw [Nat.le_zero.mp enough]
    exact LoopResult.nil status state
  | succ fuel ih =>
    by_cases finished : chunk.bytesRemaining = 0
    · refine ⟨(status, state), by simp [chunkLoop, finished], ?_⟩
      rw [(chunkCount_eq_zero_iff nonzero).mpr finished]
      exact LoopResult.nil status state
    · obtain ⟨settled, good, bad⟩ := sendWithRetries_settled media maximumBlockCount outcomes
        (chunk.command cmd maxTransferSize) dataCommandRetryCount status state
      have counted := chunkCount_advance nonzero finished
        (if (settleChunk outcomes dataCommandRetryCount state.position state.cleared).cleared then 0
          else sdBlockLengthBytes)
      obtain ⟨result, returned, described⟩ := ih (Nat.le_of_succ_le_succ (counted ▸ enough))
        (sendWithRetries (outcomePort media maximumBlockCount outcomes)
          (chunk.command cmd maxTransferSize) dataCommandRetryCount status state).1
        (sendWithRetries (outcomePort media maximumBlockCount outcomes)
          (chunk.command cmd maxTransferSize) dataCommandRetryCount status state).2
      rw [settled.position, settled.cleared] at described
      refine ⟨result, ?_, ?_⟩
      · rw [chunkLoop, if_neg finished]
        dsimp only
        rw [← returned, ← settled.cleared]
        rfl
      · rw [counted]
        exact described.cons settled good fun failed => bad failed (by decide)

/-- A loop that moves nothing in each step never ends. -/
theorem chunkLoop_zero (cmd : SdCommand) (fuel : Nat) {chunk : ChunkState}
    (pending : chunk.bytesRemaining ≠ 0) (status : EfiStatus) (state : OutcomeState) :
    chunkLoop (outcomePort media maximumBlockCount outcomes) cmd 0 fuel chunk status state
      = none := by
  induction fuel generalizing chunk status state with
  | zero => rw [chunkLoop, if_neg pending]
  | succ fuel ih =>
    rw [chunkLoop, if_neg pending]
    refine ih ?_ _ _
    rw [← UInt32.toNat_inj.ne, ChunkState.advance_bytes_toNat] at *
    simpa using pending

end MuRockchip.SdMmc
