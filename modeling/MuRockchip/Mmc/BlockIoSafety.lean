/-
What a successful request of the RK3399 MMC driver stands for (`MmcBlockIo.c`).

`MmcIoBlocks` reports success unless a poll before a chunk ends with `Timeout` at
zero. That is the case where the card is ready at the last answer, not where it
never is: then `Timeout` is -1, and the chunk is transferred. What becomes of the
transfer is not looked at.

* `mmcIoBlocks_sound_iff`: the answers of the host, and the requests, for which a
  success is what it says.
-/
import MuRockchip.Base.Tiling
import MuRockchip.Mmc.BlockIo

namespace MuRockchip.Mmc

open MuRockchip.Base

/-! ### What a request should stand for -/

/-- The card reports ready to one of the first `budget` polls. -/
def ReportsReady (polls : Nat → Poll) (budget : Nat) : Prop :=
  ∃ index < budget, (polls index).reportsReady = true

def ReportsReadyLast (polls : Nat → Poll) (budget : Nat) : Prop :=
  (∀ index < budget - 1, (polls index).reportsReady = false) ∧
    (polls (budget - 1)).reportsReady = true

instance (polls : Nat → Poll) (budget : Nat) : Decidable (ReportsReadyLast polls budget) :=
  inferInstanceAs (Decidable (_ ∧ _))

/-- The host and the card do all that a chunk asks of them; `several` says that it
is one of several blocks. -/
structure ChunkAnswers.Succeeds (answers : ChunkAnswers) (kind : MmcIoBlocksKind)
    (several : Prop) : Prop where
  command : answers.command.isError = false
  data : answers.data.isError = false
  programmingState : kind = .read → answers.programmingState.isError = false
  settled : ReportsReady answers.settled MmcHostInstance.mmci0Timeout
  stop : several → answers.stop.isError = false
  transferState : answers.transferState.isError = false

namespace MmcHostInstance

variable (host : MmcHostInstance)

def runBlocks (run : ChunkRun) : Nat := run.size.toNat / host.media.blockSize.toNat

/-- A result is sound: success stands for chunks that cover the request in order, on
the card and in the buffer, each of which succeeded; a card that is never ready is
not asked for the chunk, and that is what is reported; and no block past the last is
asked for. -/
structure Sound (answers : Nat → ChunkAnswers) (request : BlockRequest)
    (result : EfiStatus × List ChunkRun) : Prop where
  blocks : result.1 = EfiStatus.success →
    Tiles (fun run : ChunkRun => run.lba.toNat) host.runBlocks request.lba.toNat result.2
      (request.lba.toNat + request.bufferSize.toNat / host.media.blockSize.toNat)
  bytes : result.1 = EfiStatus.success →
    Tiles (fun run : ChunkRun => (run.buffer - request.buffer).toNat)
      (fun run : ChunkRun => run.size.toNat) 0 result.2 request.bufferSize.toNat
  succeeded : result.1 = EfiStatus.success → ∀ index run, result.2[index]? = some run →
    (answers index).Succeeds request.kind (1 < host.runBlocks run)
  ready : ∀ index run, result.2[index]? = some run →
    ¬ReportsReady (answers index).ready readyTimeout →
      ¬run.Issued ∧ result.1 = EfiStatus.notReady
  within : ∀ run ∈ result.2, run.Issued →
    run.lba.toNat + host.runBlocks run ≤ host.media.lastBlock.toNat + 1

/-! ### The condition -/

def chunkBlocks (request : BlockRequest) : Nat :=
  if host.multiBlock then request.bufferSize.toNat / host.media.blockSize.toNat else 1

/-- The number of chunks. -/
def chunkTotal (request : BlockRequest) : Nat :=
  if host.multiBlock then 1 else request.bufferSize.toNat / host.media.blockSize.toNat

/-- The request gets past the poll before chunk `index`: neither there nor earlier
is the card ready at the last poll only. -/
def Reached (answers : Nat → ChunkAnswers) (index : Nat) : Prop :=
  ∀ earlier ≤ index, ¬ReportsReadyLast (answers earlier).ready readyTimeout

/-- Wherever the request gets, the card is ready within the budget and the chunk lies
within the media; and if it gets to its end, every chunk succeeds. -/
structure Served (answers : Nat → ChunkAnswers) (request : BlockRequest) : Prop where
  ready : ∀ index < host.chunkTotal request, Reached answers index →
    ReportsReady (answers index).ready readyTimeout
  within : ∀ index < host.chunkTotal request, Reached answers index →
    request.lba.toNat + (index + 1) * host.chunkBlocks request ≤ host.media.lastBlock.toNat + 1
  succeeds : (∀ index < host.chunkTotal request, Reached answers index) →
    ∀ index < host.chunkTotal request,
      (answers index).Succeeds request.kind (1 < host.chunkBlocks request)

/-! ### Polls -/

/-- What is left of the budget, seen from the answers alone. -/
def leftover (polls : Nat → Poll) : Nat → Nat → Int
  | 0, _ => -1
  | timeout + 1, index =>
    if (polls index).reportsReady then timeout else leftover polls timeout (index + 1)

theorem pollStatus_fst (polls : Nat → Poll) (timeout index : Nat) {response : UInt32}
    (unready : responseReady response = false) :
    (host.pollStatus polls timeout index response).1 = leftover polls timeout index := by
  induction timeout generalizing index response with
  | zero =>
    unfold pollStatus
    rw [if_neg (by simp [unready])]
    rfl
  | succ timeout ih =>
    unfold pollStatus
    rw [if_neg (by simp [unready])]
    dsimp only
    rw [leftover]
    by_cases failed : (polls index).status.isError = true
    · rw [if_pos failed, ih (index + 1) unready, if_neg (by simp [Poll.reportsReady, failed])]
    · rw [if_neg failed]
      by_cases ready : responseReady (polls index).response = true
      · rw [if_pos (by simp [Poll.reportsReady, failed, ready])]
        unfold pollStatus
        rw [if_pos ready]
      · rw [if_neg (by simp [Poll.reportsReady, ready]), ih (index + 1) (by simpa using ready)]

theorem leftover_eq_zero_iff (polls : Nat → Poll) (timeout index : Nat) :
    leftover polls (timeout + 1) index = 0 ↔
      (∀ later < timeout, (polls (index + later)).reportsReady = false) ∧
        (polls (index + timeout)).reportsReady = true := by
  induction timeout generalizing index with
  | zero =>
    simp only [leftover, Nat.add_zero, Nat.not_lt_zero, false_implies, implies_true, true_and]
    split <;> simp_all
  | succ timeout ih =>
    rw [leftover]
    by_cases ready : (polls index).reportsReady = true
    · rw [if_pos ready]
      constructor
      · intro zero
        omega
      · rintro ⟨unready, _⟩
        have first := unready 0 (Nat.succ_pos _)
        rw [Nat.add_zero, ready] at first
        cases first
    · have shift (later : Nat) : index + 1 + later = index + (later + 1) := by omega
      rw [if_neg ready, ih, shift]
      refine and_congr_left fun _ => ?_
      constructor
      · intro unready later before
        cases later with
        | zero => simpa using ready
        | succ later =>
          rw [← shift]
          exact unready later (Nat.lt_of_succ_lt_succ before)
      · intro unready later before
        rw [shift]
        exact unready (later + 1) (Nat.succ_lt_succ before)

/-- The poll before a chunk ends with `Timeout` at zero exactly if the card is ready
at the last answer only. -/
theorem pollStatus_zero_iff (polls : Nat → Poll) :
    (host.pollStatus polls readyTimeout 0 0).1 = 0 ↔ ReportsReadyLast polls readyTimeout := by
  rw [host.pollStatus_fst polls readyTimeout 0 (by rfl)]
  have zero := leftover_eq_zero_iff polls 19 0
  simp only [Nat.zero_add] at zero
  exact zero

theorem pollStatus_calls (polls : Nat → Poll) (timeout index : Nat) (response : UInt32) :
    ∀ call ∈ (host.pollStatus polls timeout index response).2, call.isData = false := by
  induction timeout generalizing index response with
  | zero =>
    unfold pollStatus
    split <;> simp
  | succ timeout ih =>
    unfold pollStatus
    split
    · simp
    · dsimp only
      split
      · exact List.forall_mem_cons.mpr ⟨rfl, ih _ _⟩
      · exact List.forall_mem_cons.mpr ⟨rfl, List.forall_mem_cons.mpr ⟨rfl, ih _ _⟩⟩

/-! ### Chunks -/

variable {host} {answers : Nat → ChunkAnswers} {kind : MmcIoBlocksKind} {blockCount : UInt64}

theorem refusedRun_not_issued (index : Nat) (lba buffer : UInt64) :
    ¬(host.refusedRun answers blockCount index lba buffer).Issued := by
  rintro ⟨call, made, data⟩
  rw [host.pollStatus_calls _ _ _ _ call made] at data
  cases data

theorem dataCommand_isData (argument : UInt32) :
    (HostCall.sendCommand (dataCommand kind blockCount) argument).isData = true := by
  unfold dataCommand
  cases kind <;> dsimp only <;> split <;> rfl

theorem mmcTransferBlock_issues (host : MmcHostInstance) (kind : MmcIoBlocksKind)
    (blockCount : UInt64) (chunk : ChunkAnswers) (lba size buffer : UInt64) :
    ∃ call ∈ (host.mmcTransferBlock chunk (dataCommand kind blockCount) kind lba size buffer).2,
      call.isData = true := by
  refine ⟨.sendCommand (dataCommand kind blockCount)
    (if host.sectorMode then lba else lba * host.media.blockSize.toUInt64).toUInt32, ?_,
    dataCommand_isData _⟩
  unfold mmcTransferBlock
  dsimp only
  split
  · exact List.mem_cons_self
  · cases kind with
    | read =>
      dsimp only
      split
      · exact List.mem_cons_self
      split
      · exact List.mem_cons_self
      · exact List.mem_cons_self
    | write =>
      dsimp only
      split
      · exact List.mem_cons_self
      · exact List.mem_cons_self

theorem chunkRun_issued (index : Nat) (lba buffer : UInt64) :
    (host.chunkRun answers kind blockCount index lba buffer).Issued := by
  obtain ⟨call, made, data⟩ := mmcTransferBlock_issues host kind blockCount (answers index) lba
    (blockCount * host.media.blockSize.toUInt64) buffer
  exact ⟨call, List.mem_append_right _ made, data⟩

theorem chunks_cases (total index : Nat) (lba buffer : UInt64) :
    host.chunks answers kind blockCount (total + 1) index lba buffer =
      if ReportsReadyLast (answers index).ready readyTimeout then
        (EfiStatus.notReady, [host.refusedRun answers blockCount index lba buffer])
      else
        let rest := host.chunks answers kind blockCount total (index + 1) (lba + blockCount)
          (buffer + blockCount * host.media.blockSize.toUInt64)
        (rest.1, host.chunkRun answers kind blockCount index lba buffer :: rest.2) := by
  rw [chunks]
  by_cases last : ReportsReadyLast (answers index).ready readyTimeout
  · rw [if_pos last, if_pos ((host.pollStatus_zero_iff _).mpr last)]
  · rw [if_neg last, if_neg (fun zero => last ((host.pollStatus_zero_iff _).mp zero))]

/-- The request succeeds, unless the card is somewhere ready at the last poll only. -/
theorem chunks_status (total index : Nat) (lba buffer : UInt64) :
    ((∀ later < total, ¬ReportsReadyLast (answers (index + later)).ready readyTimeout) ∧
        (host.chunks answers kind blockCount total index lba buffer).1 = EfiStatus.success) ∨
      ((∃ later < total, ReportsReadyLast (answers (index + later)).ready readyTimeout) ∧
        (host.chunks answers kind blockCount total index lba buffer).1 = EfiStatus.notReady) := by
  induction total generalizing index lba buffer with
  | zero => exact .inl ⟨fun later before => absurd before (Nat.not_lt_zero _), rfl⟩
  | succ total ih =>
    rw [chunks_cases]
    by_cases last : ReportsReadyLast (answers index).ready readyTimeout
    · rw [if_pos last]
      exact .inr ⟨⟨0, Nat.succ_pos _, last⟩, rfl⟩
    · rw [if_neg last]
      have shift (later : Nat) : index + 1 + later = index + (later + 1) := by omega
      rcases ih (index + 1) (lba + blockCount)
        (buffer + blockCount * host.media.blockSize.toUInt64) with
          ⟨free, status⟩ | ⟨⟨later, before, stops⟩, status⟩
      · refine .inl ⟨fun later before => ?_, status⟩
        cases later with
        | zero => exact last
        | succ later =>
          rw [← shift]
          exact free later (Nat.lt_of_succ_lt_succ before)
      · refine .inr ⟨⟨later + 1, Nat.succ_lt_succ before, ?_⟩, status⟩
        rw [← shift]
        exact stops

/-- Where chunk `later` of a request begins. -/
def position (start : UInt64) (step : UInt64) (later : Nat) : UInt64 :=
  UInt64.ofNat (start.toNat + later * step.toNat)

theorem position_zero (start step : UInt64) : position start step 0 = start := by
  rw [position, Nat.zero_mul, Nat.add_zero, UInt64.ofNat_toNat]

theorem position_step (start step : UInt64) (later : Nat) :
    position (start + step) step later = position start step (later + 1) := by
  unfold position
  apply UInt64.toNat_inj.mp
  rw [UInt64.toNat_ofNat', UInt64.toNat_ofNat', UInt64.toNat_add, Nat.succ_mul]
  omega

/-- The runs of a request, one by one: all chunks up to the first whose poll ends the
request. -/
theorem chunks_getElem (total index : Nat) (lba buffer : UInt64) (later : Nat) (run : ChunkRun) :
    (host.chunks answers kind blockCount total index lba buffer).2[later]? = some run ↔
      later < total ∧
        (∀ earlier < later, ¬ReportsReadyLast (answers (index + earlier)).ready readyTimeout) ∧
        run =
          let lba := position lba blockCount later
          let buffer := position buffer (blockCount * host.media.blockSize.toUInt64) later
          if ReportsReadyLast (answers (index + later)).ready readyTimeout then
            host.refusedRun answers blockCount (index + later) lba buffer
          else host.chunkRun answers kind blockCount (index + later) lba buffer := by
  induction total generalizing index lba buffer later with
  | zero => simp [chunks]
  | succ total ih =>
    rw [chunks_cases]
    have shift (later : Nat) : index + 1 + later = index + (later + 1) := by omega
    by_cases last : ReportsReadyLast (answers index).ready readyTimeout
    · rw [if_pos last]
      cases later with
      | zero =>
        dsimp only
        rw [position_zero, position_zero, Nat.add_zero index, if_pos last]
        simp [eq_comm]
      | succ later =>
        constructor
        · intro found
          simp at found
        · rintro ⟨_, free, _⟩
          exact absurd last (free 0 (Nat.succ_pos _))
    · rw [if_neg last]
      cases later with
      | zero =>
        dsimp only
        rw [position_zero, position_zero, Nat.add_zero index, if_neg last]
        simp [eq_comm]
      | succ later =>
        dsimp only
        rw [List.getElem?_cons_succ, ih, shift, position_step, position_step,
          Nat.succ_lt_succ_iff]
        refine and_congr_right fun _ => and_congr_left fun _ => ?_
        constructor
        · intro free earlier before
          cases earlier with
          | zero => exact last
          | succ earlier =>
            rw [← shift]
            exact free earlier (Nat.lt_of_succ_lt_succ before)
        · intro free earlier before
          rw [shift]
          exact free (earlier + 1) (Nat.succ_lt_succ before)

/-! ### The sizes of a request -/

/-- What the checks leave of a request. -/
structure Accepted (host : MmcHostInstance) (request : BlockRequest) : Prop where
  pending : 0 < request.bufferSize.toNat
  whole : request.bufferSize.toNat % host.media.blockSize.toNat = 0
  range : (request.lba.toNat + request.bufferSize.toNat / host.media.blockSize.toNat) % 2 ^ 64 ≤
    (host.media.lastBlock.toNat + 1) % 2 ^ 64

theorem accepted_of_checked {request : BlockRequest} (checked : host.checkRequest request = none) :
    host.Accepted request := by
  unfold checkRequest at checked
  dsimp only at checked
  split at checked
  · cases checked
  split at checked
  · cases checked
  split at checked
  · cases checked
  split at checked
  · cases checked
  rename_i range
  split at checked
  · cases checked
  split at checked
  · cases checked
  rename_i pending
  split at checked
  · cases checked
  rename_i whole
  refine ⟨?_, ?_, ?_⟩
  · by_contra none
    exact pending (UInt64.toNat_inj.mp (Nat.eq_zero_of_not_pos none))
  · have same := congrArg UInt64.toNat (not_not.mp whole)
    rw [UInt64.toNat_mod, UInt32.toNat_toUInt64] at same
    exact same
  · have below := UInt64.le_iff_toNat_le.mp (UInt64.not_lt.mp range)
    rw [UInt64.toNat_add, UInt64.toNat_add, UInt64.toNat_div, UInt32.toNat_toUInt64] at below
    exact below

theorem blockSize_pos (host : MmcHostInstance) : 0 < host.media.blockSize.toNat := by
  obtain ⟨shift, _, size⟩ := host.media.powerOfTwo
  rw [size]
  exact Nat.two_pow_pos shift

theorem blockSize_dvd (host : MmcHostInstance) : host.media.blockSize.toNat ∣ 2 ^ 64 := by
  obtain ⟨shift, small, size⟩ := host.media.powerOfTwo
  rw [size]
  exact Nat.pow_dvd_pow 2 (by omega)

/-- A whole number of blocks leaves room for one more below 2^64. -/
theorem whole_add_block_le {size : Nat} (small : size < 2 ^ 64)
    (whole : size % host.media.blockSize.toNat = 0) :
    size + host.media.blockSize.toNat ≤ 2 ^ 64 := by
  obtain ⟨total, all⟩ := blockSize_dvd host
  obtain ⟨count, some⟩ := Nat.dvd_of_mod_eq_zero whole
  rw [some, all] at small ⊢
  have less : count < total := Nat.lt_of_mul_lt_mul_left small
  calc host.media.blockSize.toNat * count + host.media.blockSize.toNat
      = host.media.blockSize.toNat * (count + 1) := (Nat.mul_succ _ _).symm
    _ ≤ host.media.blockSize.toNat * total := Nat.mul_le_mul_left _ less

theorem chunkTotal_mul_chunkBlocks (host : MmcHostInstance) (request : BlockRequest) :
    host.chunkTotal request * host.chunkBlocks request =
      request.bufferSize.toNat / host.media.blockSize.toNat := by
  unfold chunkTotal chunkBlocks
  split
  · exact Nat.one_mul _
  · exact Nat.mul_one _

section

variable {request : BlockRequest} (accepted : host.Accepted request)

include accepted

theorem Accepted.blocks_mul :
    request.bufferSize.toNat / host.media.blockSize.toNat * host.media.blockSize.toNat =
      request.bufferSize.toNat :=
  Nat.div_mul_cancel (Nat.dvd_of_mod_eq_zero accepted.whole)

theorem Accepted.blocks_pos :
    0 < request.bufferSize.toNat / host.media.blockSize.toNat := by
  by_contra none
  have product := accepted.blocks_mul
  rw [Nat.eq_zero_of_not_pos none, Nat.zero_mul] at product
  exact absurd accepted.pending (by omega)

/-- The rounding of `BlockCount` changes nothing. -/
theorem Accepted.blockCount_toNat :
    (host.blockCount request).toNat = host.chunkBlocks request := by
  unfold blockCount chunkBlocks
  split
  · have room := whole_add_block_le request.bufferSize.toNat_lt accepted.whole
    have positive := blockSize_pos host
    have rounded : (request.bufferSize + host.media.blockSize.toUInt64 - 1).toNat =
        request.bufferSize.toNat + (host.media.blockSize.toNat - 1) := by
      rw [UInt64.toNat_sub, UInt64.toNat_add, UInt32.toNat_toUInt64,
        show (1 : UInt64).toNat = 1 from rfl]
      omega
    rw [UInt64.toNat_div, rounded, UInt32.toNat_toUInt64]
    have product := accepted.blocks_mul
    conv => lhs; rw [← product]
    rw [Nat.add_comm, Nat.add_mul_div_right _ _ positive, Nat.div_eq_of_lt (by omega),
      Nat.zero_add]
  · rfl

theorem Accepted.chunkBlocks_pos : 0 < host.chunkBlocks request := by
  unfold chunkBlocks
  split
  · exact accepted.blocks_pos
  · exact Nat.one_pos

theorem Accepted.total_pos : 0 < host.chunkTotal request := by
  unfold chunkTotal
  split
  · exact Nat.one_pos
  · exact accepted.blocks_pos

theorem Accepted.chunkSize_toNat :
    (host.blockCount request * host.media.blockSize.toUInt64).toNat =
      host.chunkBlocks request * host.media.blockSize.toNat := by
  have bound := request.bufferSize.toNat_lt
  have product := accepted.blocks_mul
  rw [← chunkTotal_mul_chunkBlocks host, Nat.mul_assoc] at product
  have less := Nat.le_mul_of_pos_left (host.chunkBlocks request * host.media.blockSize.toNat)
    accepted.total_pos
  rw [UInt64.toNat_mul, accepted.blockCount_toNat, UInt32.toNat_toUInt64]
  exact Nat.mod_eq_of_lt (by omega)

theorem Accepted.bufferSize_eq : request.bufferSize.toNat = host.chunkTotal request *
    (host.blockCount request * host.media.blockSize.toUInt64).toNat := by
  rw [accepted.chunkSize_toNat, ← Nat.mul_assoc, chunkTotal_mul_chunkBlocks, accepted.blocks_mul]

theorem Accepted.chunkSize_pos :
    0 < (host.blockCount request * host.media.blockSize.toUInt64).toNat := by
  rw [accepted.chunkSize_toNat]
  exact Nat.mul_pos accepted.chunkBlocks_pos (blockSize_pos host)

/-- A request that is accepted returns, whatever the host answers, and every bound
that is enough for it gives the same result. -/
theorem Accepted.mmcIoBlocks_eq (checked : host.checkRequest request = none)
    (answers : Nat → ChunkAnswers) :
    host.mmcIoBlocks answers (host.chunkTotal request) request =
        some (host.chunks answers request.kind (host.blockCount request)
          (host.chunkTotal request) 0 request.lba request.buffer) ∧
      ∀ fuel result, host.mmcIoBlocks answers fuel request = some result →
        result = host.chunks answers request.kind (host.blockCount request)
          (host.chunkTotal request) 0 request.lba request.buffer := by
  unfold mmcIoBlocks
  rw [checked]
  exact chunkLoop_eq accepted.chunkSize_pos accepted.bufferSize_eq 0 request.lba request.buffer

end

/-! ### Chunks that cover the request -/

theorem chunkRun_lba (index : Nat) (lba buffer : UInt64) :
    (host.chunkRun answers kind blockCount index lba buffer).lba = lba := rfl

theorem chunkRun_size (index : Nat) (lba buffer : UInt64) :
    (host.chunkRun answers kind blockCount index lba buffer).size =
      blockCount * host.media.blockSize.toUInt64 := rfl

/-- No poll ends the request: neither the first of these nor a later one. -/
theorem free_succ {total index : Nat}
    (free : ∀ later < total + 1,
      ¬ReportsReadyLast (answers (index + later)).ready readyTimeout) :
    ¬ReportsReadyLast (answers index).ready readyTimeout ∧
      ∀ later < total, ¬ReportsReadyLast (answers (index + 1 + later)).ready readyTimeout := by
  refine ⟨free 0 (Nat.succ_pos _), fun later before => ?_⟩
  rw [show index + 1 + later = index + (later + 1) by omega]
  exact free (later + 1) (Nat.succ_lt_succ before)

/-- Chunks that are all transferred, and whose block addresses do not wrap, cover
their blocks in order. -/
theorem chunks_tile_blocks
    (whole : (blockCount * host.media.blockSize.toUInt64).toNat / host.media.blockSize.toNat =
      blockCount.toNat)
    (total index : Nat) (lba buffer : UInt64)
    (free : ∀ later < total, ¬ReportsReadyLast (answers (index + later)).ready readyTimeout)
    (inside : lba.toNat + total * blockCount.toNat ≤ 2 ^ 64) :
    Tiles (fun run : ChunkRun => run.lba.toNat) host.runBlocks lba.toNat
      (host.chunks answers kind blockCount total index lba buffer).2
      (lba.toNat + total * blockCount.toNat) := by
  have blocks (index : Nat) (lba buffer : UInt64) :
      host.runBlocks (host.chunkRun answers kind blockCount index lba buffer) =
        blockCount.toNat := whole
  induction total generalizing index lba buffer with
  | zero =>
    rw [Nat.zero_mul, Nat.add_zero]
    rfl
  | succ total ih =>
    obtain ⟨here, later⟩ := free_succ free
    rw [chunks_cases, if_neg here]
    refine ⟨rfl, ?_⟩
    rw [blocks, Nat.succ_mul, Nat.add_comm (total * _), ← Nat.add_assoc]
    rw [Nat.succ_mul] at inside
    cases total with
    | zero =>
      rw [Nat.zero_mul, Nat.add_zero]
      rfl
    | succ total =>
      have positive := Nat.lt_or_ge 0 blockCount.toNat
      have next : (lba + blockCount).toNat = lba.toNat + blockCount.toNat := by
        rw [UInt64.toNat_add]
        refine Nat.mod_eq_of_lt ?_
        rw [Nat.succ_mul] at inside
        have bound := lba.toNat_lt
        rcases positive with positive | none
        · omega
        · omega
      have rest := ih (index + 1) (lba + blockCount)
        (buffer + blockCount * host.media.blockSize.toUInt64)
        later (by rw [next]; omega)
      rw [next] at rest
      exact rest

/-- They fill the buffer in order. -/
theorem chunks_tile_bytes (base : UInt64) (total index offset : Nat) (lba : UInt64)
    (free : ∀ later < total, ¬ReportsReadyLast (answers (index + later)).ready readyTimeout)
    (inside : offset + total * (blockCount * host.media.blockSize.toUInt64).toNat < 2 ^ 64) :
    Tiles (fun run : ChunkRun => (run.buffer - base).toNat) (fun run : ChunkRun => run.size.toNat)
      offset (host.chunks answers kind blockCount total index lba (base + UInt64.ofNat offset)).2
      (offset + total * (blockCount * host.media.blockSize.toUInt64).toNat) := by
  generalize sizeIs : blockCount * host.media.blockSize.toUInt64 = size at *
  induction total generalizing index offset lba with
  | zero =>
    rw [Nat.zero_mul, Nat.add_zero]
    rfl
  | succ total ih =>
    obtain ⟨here, later⟩ := free_succ free
    rw [chunks_cases, if_neg here]
    rw [Nat.succ_mul] at inside
    have start : (base + UInt64.ofNat offset - base).toNat = offset := by
      have bound := base.toNat_lt
      rw [UInt64.toNat_sub, UInt64.toNat_add, UInt64.toNat_ofNat']
      omega
    have next : base + UInt64.ofNat offset + size = base + UInt64.ofNat (offset + size.toNat) := by
      rw [UInt64.ofNat_add, UInt64.ofNat_toNat, UInt64.add_assoc]
    refine ⟨start, ?_⟩
    dsimp only
    rw [chunkRun_size, sizeIs, next, Nat.succ_mul, Nat.add_comm (total * _), ← Nat.add_assoc]
    exact ih (index + 1) (offset + size.toNat) (lba + blockCount) later (by omega)

/-! ### Soundness -/

section

variable {request : BlockRequest}

theorem Accepted.runBlocks_chunkRun (accepted : host.Accepted request) (index : Nat)
    (lba buffer : UInt64) :
    host.runBlocks (host.chunkRun answers request.kind (host.blockCount request) index lba buffer) =
      host.chunkBlocks request := by
  rw [runBlocks, chunkRun_size, accepted.chunkSize_toNat]
  exact Nat.mul_div_cancel _ (blockSize_pos host)

/-- The result of an accepted request. -/
def outcome (host : MmcHostInstance) (answers : Nat → ChunkAnswers) (request : BlockRequest) :
    EfiStatus × List ChunkRun :=
  host.chunks answers request.kind (host.blockCount request) (host.chunkTotal request) 0 request.lba
    request.buffer

theorem outcome_reached {index : Nat} (before : index < host.chunkTotal request)
    (reached : Reached answers index) :
    (host.outcome answers request).2[index]? =
      some (host.chunkRun answers request.kind (host.blockCount request) index
        (position request.lba (host.blockCount request) index)
        (position request.buffer (host.blockCount request * host.media.blockSize.toUInt64)
          index)) := by
  refine (chunks_getElem _ _ _ _ _ _).mpr ⟨before, ?_, ?_⟩
  · intro earlier less
    rw [Nat.zero_add]
    exact reached earlier (Nat.le_of_lt less)
  · dsimp only
    rw [Nat.zero_add, if_neg (reached index (Nat.le_refl _))]

/-- Each run is a chunk the request gets to, or the one whose poll ends it. -/
theorem outcome_run {index : Nat} {run : ChunkRun}
    (found : (host.outcome answers request).2[index]? = some run) :
    index < host.chunkTotal request ∧
      ((Reached answers index ∧ run = host.chunkRun answers request.kind (host.blockCount request)
          index (position request.lba (host.blockCount request) index)
          (position request.buffer (host.blockCount request * host.media.blockSize.toUInt64)
            index)) ∨
        (ReportsReadyLast (answers index).ready readyTimeout ∧ ¬run.Issued)) := by
  obtain ⟨before, free, same⟩ := (chunks_getElem _ _ _ _ _ _).mp found
  refine ⟨before, ?_⟩
  dsimp only at same
  rw [Nat.zero_add] at same
  split at same
  · rename_i last
    rw [same]
    exact .inr ⟨last, refusedRun_not_issued _ _ _⟩
  · rename_i here
    refine .inl ⟨fun earlier below => ?_, same⟩
    rcases Nat.lt_or_eq_of_le below with less | rfl
    · have stops := free earlier less
      rw [Nat.zero_add] at stops
      exact stops
    · exact here

theorem outcome_success_iff :
    (host.outcome answers request).1 = EfiStatus.success ↔
      ∀ index < host.chunkTotal request, Reached answers index := by
  have never : EfiStatus.notReady ≠ EfiStatus.success := by decide
  have status : (_ ∧ (host.outcome answers request).1 = EfiStatus.success) ∨
      (_ ∧ (host.outcome answers request).1 = EfiStatus.notReady) :=
    chunks_status (host.chunkTotal request) 0 request.lba request.buffer
  simp only [Nat.zero_add] at status
  rcases status with ⟨free, success⟩ | ⟨⟨index, before, stops⟩, refused⟩
  · rw [success]
    refine ⟨fun _ index before earlier below => free earlier (by omega), fun _ => rfl⟩
  · rw [refused]
    refine ⟨fun same => absurd same never, fun every => ?_⟩
    exact absurd stops (every index before index (Nat.le_refl _))

theorem position_toNat {start step : UInt64} {later : Nat}
    (small : start.toNat + later * step.toNat < 2 ^ 64) :
    (position start step later).toNat = start.toNat + later * step.toNat := by
  rw [position, UInt64.toNat_ofNat']
  exact Nat.mod_eq_of_lt small

/-- Chunks none of which reaches past the last block do not wrap: the only media
that ends at 2^64 takes no request that goes on from there. -/
theorem Accepted.within_exact (accepted : host.Accepted request)
    (sound : host.Sound answers request (host.outcome answers request)) {index : Nat}
    (before : index < host.chunkTotal request) (reached : Reached answers index) :
    request.lba.toNat + (index + 1) * host.chunkBlocks request ≤
      host.media.lastBlock.toNat + 1 := by
  have bound := request.lba.toNat_lt
  induction index with
  | zero =>
    have within := sound.within _ (List.mem_of_getElem? (outcome_reached before reached))
      (chunkRun_issued _ _ _)
    rw [accepted.runBlocks_chunkRun, chunkRun_lba, position_zero] at within
    rw [Nat.zero_add, Nat.one_mul]
    exact within
  | succ index ih =>
    have earlier := ih (Nat.lt_of_succ_lt before) fun some below =>
      reached some (Nat.le_succ_of_le below)
    have last := host.media.lastBlock.toNat_lt
    have small : request.lba.toNat + (index + 1) * host.chunkBlocks request < 2 ^ 64 := by
      by_contra large
      have range := accepted.range
      have more := Nat.mul_le_mul_right (host.chunkBlocks request) before
      rw [chunkTotal_mul_chunkBlocks, Nat.succ_mul] at more
      have positive := accepted.chunkBlocks_pos
      have total := Nat.div_le_self request.bufferSize.toNat host.media.blockSize.toNat
      have size := request.bufferSize.toNat_lt
      omega
    have within := sound.within _ (List.mem_of_getElem? (outcome_reached before reached))
      (chunkRun_issued _ _ _)
    rw [accepted.runBlocks_chunkRun, chunkRun_lba,
      position_toNat (by rw [accepted.blockCount_toNat]; exact small),
      accepted.blockCount_toNat] at within
    rw [Nat.succ_mul (index + 1)]
    omega

theorem Accepted.served_of_sound (accepted : host.Accepted request)
    (sound : host.Sound answers request (host.outcome answers request)) :
    host.Served answers request where
  ready index before reached := by
    by_contra busy
    have refused := (sound.ready index _ (outcome_reached before reached) busy).1
    exact refused (chunkRun_issued _ _ _)
  within index before reached := accepted.within_exact sound before reached
  succeeds every index before := by
    have succeeded := sound.succeeded (outcome_success_iff.mpr every) index _
      (outcome_reached before (every index before))
    rw [accepted.runBlocks_chunkRun] at succeeded
    exact succeeded

theorem Accepted.sound_of_served (accepted : host.Accepted request)
    (served : host.Served answers request) :
    host.Sound answers request (host.outcome answers request) where
  blocks success := by
    have every := outcome_success_iff.mp success
    obtain ⟨last, total⟩ : ∃ last, host.chunkTotal request = last + 1 :=
      Nat.exists_eq_succ_of_ne_zero (Nat.pos_iff_ne_zero.mp accepted.total_pos)
    have inside := served.within last (by omega) (every last (by omega))
    have bound := host.media.lastBlock.toNat_lt
    rw [← total] at inside
    have whole : (host.blockCount request * host.media.blockSize.toUInt64).toNat /
        host.media.blockSize.toNat = (host.blockCount request).toNat := by
      rw [accepted.chunkSize_toNat, accepted.blockCount_toNat]
      exact Nat.mul_div_cancel _ (blockSize_pos host)
    have tiled : Tiles _ _ _ (host.outcome answers request).2 _ :=
      chunks_tile_blocks whole (host.chunkTotal request) 0 request.lba request.buffer
        (fun later before => by
          rw [Nat.zero_add]
          exact every later before later (Nat.le_refl _))
        (by rw [accepted.blockCount_toNat]; omega)
    rw [accepted.blockCount_toNat, chunkTotal_mul_chunkBlocks] at tiled
    exact tiled
  bytes success := by
    have every := outcome_success_iff.mp success
    have start : request.buffer + UInt64.ofNat 0 = request.buffer := UInt64.add_zero _
    have inside := request.bufferSize.toNat_lt
    rw [accepted.bufferSize_eq, ← Nat.zero_add (_ * _)] at inside
    rw [accepted.bufferSize_eq, ← Nat.zero_add (_ * _), outcome]
    conv in host.chunks .. => rw [← start]
    exact chunks_tile_bytes request.buffer (host.chunkTotal request) 0 0 request.lba
      (fun later before => by
        rw [Nat.zero_add]
        exact every later before later (Nat.le_refl _)) inside
  succeeded success index run found := by
    have every := outcome_success_iff.mp success
    obtain ⟨before, ⟨_, rfl⟩ | ⟨stops, _⟩⟩ := outcome_run found
    · rw [accepted.runBlocks_chunkRun]
      exact served.succeeds every index before
    · exact absurd stops (every index before index (Nat.le_refl _))
  ready index run found busy := by
    obtain ⟨before, ⟨reached, rfl⟩ | ⟨stops, _⟩⟩ := outcome_run found
    · exact absurd (served.ready index before reached) busy
    · exact absurd ⟨readyTimeout - 1, by decide, stops.2⟩ busy
  within run member issued := by
    obtain ⟨index, found⟩ := List.mem_iff_getElem?.mp member
    obtain ⟨before, ⟨reached, rfl⟩ | ⟨_, refused⟩⟩ := outcome_run found
    · have inside := served.within index before reached
      have bound := host.media.lastBlock.toNat_lt
      have positive := accepted.chunkBlocks_pos
      rw [Nat.succ_mul] at inside
      rw [accepted.runBlocks_chunkRun, chunkRun_lba,
        position_toNat (by rw [accepted.blockCount_toNat]; omega), accepted.blockCount_toNat]
      omega
    · exact absurd issued refused

end

end MmcHostInstance

theorem bufferSize_of_checked {host : MmcHostInstance} {request : BlockRequest}
    (checked : host.checkRequest request = some EfiStatus.success) : request.bufferSize = 0 := by
  unfold MmcHostInstance.checkRequest at checked
  dsimp only at checked
  by_contra pending
  rw [if_neg pending] at checked
  repeat' split at checked
  all_goals cases checked

/-- A request is answered soundly exactly if a check ends it, or the host and the
card serve it: wherever it gets, the card is ready within the budget and the chunk
lies within the media, and if it gets to its end every chunk succeeds. -/
theorem mmcIoBlocks_sound_iff (host : MmcHostInstance) (answers : Nat → ChunkAnswers)
    (request : BlockRequest) :
    (∃ fuel result, host.mmcIoBlocks answers fuel request = some result ∧
        host.Sound answers request result) ↔
      (host.checkRequest request = none → host.Served answers request) := by
  constructor
  · rintro ⟨fuel, result, returned, sound⟩ checked
    have accepted := MmcHostInstance.accepted_of_checked checked
    rw [(accepted.mmcIoBlocks_eq checked answers).2 fuel result returned] at sound
    exact accepted.served_of_sound sound
  · intro served
    cases checked : host.checkRequest request with
    | none =>
      have accepted := MmcHostInstance.accepted_of_checked checked
      exact ⟨_, _, (accepted.mmcIoBlocks_eq checked answers).1,
        accepted.sound_of_served (served checked)⟩
    | some status =>
      refine ⟨0, (status, []), ?_, ?_⟩
      · unfold MmcHostInstance.mmcIoBlocks
        rw [checked]
      · refine ⟨fun success => ?_, fun success => ?_, ?_, ?_, ?_⟩
        · rw [show status = EfiStatus.success from success] at checked
          have none : (0 : UInt64).toNat / host.media.blockSize.toNat = 0 := Nat.zero_div _
          rw [bufferSize_of_checked checked, none]
          rfl
        · rw [show status = EfiStatus.success from success] at checked
          rw [bufferSize_of_checked checked]
          rfl
        · simp
        · simp
        · simp

/-- A card of 32 MiB on a host that transfers single blocks. -/
def smallCard : MmcHostInstance where
  media := ⟨1, true, false, 512, 4, 0xFFFF, ⟨9, by decide⟩⟩
  rca := 1
  sectorMode := true
  multiBlock := false

def blockEight : BlockRequest := ⟨.read, 1, 8, 512, 0x1000⟩

/-- A card that is ready whenever it is asked, and a host whose data phase fails. -/
def failedData : ChunkAnswers where
  ready _ := ⟨EfiStatus.success, 0x900⟩
  command := EfiStatus.success
  data := EfiStatus.deviceError
  programmingState := EfiStatus.success
  settled _ := ⟨EfiStatus.success, 0x900⟩
  stop := EfiStatus.success
  transferState := EfiStatus.success

theorem failedData_ready (index : Nat) : (failedData.ready index).reportsReady = true :=
  show Poll.reportsReady ⟨EfiStatus.success, 0x900⟩ = true by decide

/-- A read whose data phase fails is reported as a success. -/
theorem failed_data_not_sound :
    smallCard.mmcIoBlocks (fun _ => failedData) 1 blockEight =
        some (EfiStatus.success, [⟨8, 512, 0x1000,
          [.sendCommand .cmd13 0x10000, .receiveResponse, .sendCommand .cmd17 8,
            .readBlockData 8 512 0x1000, .sendCommand .cmd12 0, .receiveResponse]⟩]) ∧
      ¬∃ fuel result, smallCard.mmcIoBlocks (fun _ => failedData) fuel blockEight = some result ∧
        smallCard.Sound (fun _ => failedData) blockEight result := by
  refine ⟨by decide, ?_⟩
  rintro ⟨fuel, result, returned, sound⟩
  have checked : smallCard.checkRequest blockEight = none := by decide
  have accepted := MmcHostInstance.accepted_of_checked checked
  rw [(accepted.mmcIoBlocks_eq checked _).2 fuel result returned] at sound
  have served := accepted.served_of_sound sound
  have free (index : Nat) : MmcHostInstance.Reached (fun _ => failedData) index := by
    rintro earlier _ ⟨unready, _⟩
    exact absurd ((failedData_ready 0).symm.trans (unready 0 (by decide))) (by decide)
  have succeeds := served.succeeds (fun index _ => free index) 0 accepted.total_pos
  exact absurd succeeds.data (by decide)

end MuRockchip.Mmc
