/-
Command submission to the firmware TPM (`Tpm2DeviceLibOptee.c`).

The command and room for the response share one block of shared memory, allocated
for the call. The response is copied out by the size the trusted application
returns. The caller's two parameter blocks are outside shared memory: what is read
from the one and written to the other are byte strings here.

The block is allocated with a sum of two 32-bit sizes, and the returned size is not
compared with the size offered. A response that does not fit is a device error.

* `teecAllocateSharedMemory_served`, `teecReleaseSharedMemory_own`: a block is
  obtained, and given back while its header is in place.
* `tpm2SubmitCommand_unsent`, `tpm2SubmitCommand_sent`: the outcomes of a submission.
* `tpm2SubmitCommand_safe_iff`: a submission is safe exactly when the sum does not
  wrap and the response fits.
-/
import MuRockchip.Optee.MsgCodec
import MuRockchip.Optee.SharedMemLedger

namespace MuRockchip.Optee

open MuRockchip.Base

variable {region : SharedRegion}

/-! ### Shared memory of the client interface -/

structure TeecSharedMemory where
  buffer : UInt64
  size : UInt64
  flags : UInt32
  shadowBuffer : UInt64
  deriving DecidableEq, Repr

def teecAllocateSharedMemory (shared : SharedMem region) (mem : TeecSharedMemory)
    (answer : Option Nat) : TeecResult × TeecSharedMemory × SharedMem region :=
  if mem.flags ≠ 0 then (TeecResult.errorBadParameters, mem, shared)
  else
    let (allocation, shared) := opteeClientMemAlloc shared mem.size answer
    if allocation.pointer = 0 then
      (TeecResult.errorOutOfMemory, { mem with buffer := 0, shadowBuffer := 0 }, shared)
    else
      (TeecResult.success,
        { mem with buffer := allocation.pointer, shadowBuffer := allocation.pointer }, shared)

def teecReleaseSharedMemory (shared : SharedMem region) (mem : TeecSharedMemory)
    (answer : EfiStatus) : TeecSharedMemory × SharedMem region :=
  if mem.buffer = 0 then (mem, shared)
  else if mem.shadowBuffer ≠ 0 then
    let (status, shared) := opteeClientMemFree shared mem.shadowBuffer answer
    if status.isError then (mem, shared)
    else ({ mem with buffer := 0, size := 0, shadowBuffer := 0 }, shared)
  else ({ mem with buffer := 0, size := 0 }, shared)

def SharedMem.store (shared : SharedMem region) (address : UInt64) (bytes : List UInt8) :
    SharedMem region :=
  { shared with memory := shared.memory.write address bytes }

/-! ### Submission -/

/-- What the caller passes: the command and the size of its output block. -/
structure Tpm2Request where
  inputSize : UInt32
  input : Nat → UInt8
  outputSize : UInt32

/-- The bytes of `InputParameterBlock`. -/
def Tpm2Request.command (request : Tpm2Request) : List UInt8 :=
  (List.range request.inputSize.toNat).map request.input

/-- What the call meets: the answers of the memory-space services, whether there is
room for the message, the reply, and what the application leaves in the buffer it was
offered. -/
structure FtpmTurn where
  base : Option Nat
  messageAllocated : Bool
  reply : SmcReturn 4
  output : Nat → UInt8
  freed : EfiStatus

def taFtpmSubmitCommand : UInt32 := 0

/-- The operation of a submission. -/
def ftpmOperation (sharedInput sharedOutput : UInt64) (request : Tpm2Request) : TeecOperation where
  paramTypes := teecMemrefTempInput ||| teecMemrefTempInout <<< 4
  params := #v[⟨sharedInput, request.inputSize.toUInt64, 0⟩,
    ⟨sharedOutput, request.outputSize.toUInt64, 0⟩, ⟨0, 0, 0⟩, ⟨0, 0, 0⟩]

/-- The outcome of a submission. There is no status when an assertion stops the
machine. `block` is the shared memory allocated, `accesses` the ranges of shared
memory read or written, and `written` what is copied to `OutputParameterBlock`. -/
structure Submission (region : SharedRegion) where
  status : Option EfiStatus
  outputSize : UInt32
  written : List UInt8
  block : Option Interval
  accesses : List Interval
  shared : SharedMem region

def tpm2SubmitCommand (asserts initialized : Bool) (session : TeecSession)
    (shared : SharedMem region) (request : Tpm2Request) (turn : FtpmTurn) : Submission region :=
  let unchanged : Submission region := ⟨none, request.outputSize, [], none, [], shared⟩
  if !initialized then { unchanged with status := some EfiStatus.notReady }
  else
    -- the sum of two 32-bit sizes is a 32-bit sum
    let size := (request.inputSize + request.outputSize).toUInt64
    let (result, mem, shared) := teecAllocateSharedMemory shared ⟨0, size, 0, 0⟩ turn.base
    if result ≠ TeecResult.success then
      let status :=
        if result = TeecResult.errorOutOfMemory then EfiStatus.outOfResources
        else EfiStatus.deviceError
      { unchanged with status := if asserts then none else some status, shared }
    else
      let sharedInput := mem.buffer
      let sharedOutput := sharedInput + request.inputSize.toUInt64
      let copiedIn : Interval := ⟨sharedInput.toNat, request.inputSize.toNat⟩
      let shared := shared.store sharedInput request.command
      let outcome := teecSmcInvokeCommand session taFtpmSubmitCommand
        (ftpmOperation sharedInput sharedOutput request) turn.messageAllocated fun _ => turn.reply
      let shared :=
        if turn.messageAllocated then
          shared.store sharedOutput ((List.range request.outputSize.toNat).map turn.output)
        else shared
      let submitted : Submission region :=
        { unchanged with
          block := some ⟨mem.buffer.toNat, mem.size.toNat⟩
          accesses := [copiedIn]
          shared }
      if outcome.result ≠ TeecResult.success then
        if asserts then submitted
        else
          { submitted with
            status := some EfiStatus.deviceError
            shared := (teecReleaseSharedMemory shared mem turn.freed).2 }
      else
        let returned := outcome.operation.params[1].size
        { submitted with
          status := some EfiStatus.success
          outputSize := returned.toUInt32
          written := shared.memory.read sharedOutput returned.toNat
          accesses := [copiedIn, ⟨sharedOutput.toNat, returned.toNat⟩]
          shared := (teecReleaseSharedMemory shared mem turn.freed).2 }

/-! ### The criterion -/

namespace FtpmTurn

/-- The result of the command. -/
def result (turn : FtpmTurn) : TeecResult :=
  if turn.messageAllocated then
    if smcResult turn.reply.arg0 ≠ TeecResult.success then smcResult turn.reply.arg0
    else turn.reply.message.ret
  else TeecResult.errorOutOfMemory

def responseSize (turn : FtpmTurn) : Nat := turn.reply.message.params[1].word1.toNat

/-- The response, of the size the application returned. -/
def response (turn : FtpmTurn) : List UInt8 := (List.range turn.responseSize).map turn.output

/-- The application reports that the response does not fit, or returns one that is
larger than the room it was offered. -/
def DoesNotFit (turn : FtpmTurn) (request : Tpm2Request) : Prop :=
  turn.result = TeecResult.errorShortBuffer ∨
    turn.result = TeecResult.success ∧ request.outputSize.toNat < turn.responseSize

end FtpmTurn

/-- What a submission promises. -/
structure SubmissionSafe (before : SharedMem region) (request : Tpm2Request) (turn : FtpmTurn)
    (after : Submission region) : Prop where
  confined : ∀ range ∈ after.accesses, ∃ block, after.block = some block ∧ range.Within block
  bounded : after.written.length ≤ request.outputSize.toNat
  tooSmall : after.block.isSome = true → turn.DoesNotFit request →
    after.status = some EfiStatus.bufferTooSmall
  exact : after.status = some EfiStatus.success →
    after.written = turn.response ∧ after.outputSize.toNat = turn.responseSize
  /-- The services hold what they held before, unless they refuse to take it back. -/
  released : after.status.isSome = true → after.block.isSome = true → turn.freed.isError = false →
    after.shared.pool.held = before.pool.held ∧
      after.shared.allocationCount = before.allocationCount ∧
      after.shared.allocSize = before.allocSize

/-- The command is sent: the library is initialized and its block is allocated. -/
def Sent (initialized : Bool) (shared : SharedMem region) (request : Tpm2Request)
    (turn : FtpmTurn) : Prop :=
  initialized = true ∧
    Served shared (request.inputSize + request.outputSize).toUInt64 memByteAlignment turn.base

/-- The two sizes have a 32-bit sum, and the response fits. -/
def Fits (request : Tpm2Request) (turn : FtpmTurn) : Prop :=
  request.inputSize.toNat + request.outputSize.toNat < 2 ^ 32 ∧ ¬ turn.DoesNotFit request

/-! ### Allocation and release -/

section

variable {shared : SharedMem region} {size : UInt64} {answer : Option Nat} {block : Interval}
  {pool : Pool region.interval}

def SharedMem.withBlock (shared : SharedMem region) (size : UInt64) (block : Interval)
    (pool : Pool region.interval) : SharedMem region where
  memory := shared.memory.write (userBaseAddress (UInt64.ofNat block.base) - memHeaderSize)
    (MemHeader.bytes ⟨shmSignature, 0, memBlockSize size, UInt64.ofNat block.base⟩)
  pool := pool
  allocationCount := shared.allocationCount + 1
  allocSize := shared.allocSize + memBlockSize size

theorem memByteAlignment_accepted : alignmentAccepted memByteAlignment = true := by decide

/-- The client's view of an allocated block. -/
def TeecSharedMemory.of (size : UInt64) (block : Interval) : TeecSharedMemory :=
  ⟨userBaseAddress (UInt64.ofNat block.base), size, 0, userBaseAddress (UInt64.ofNat block.base)⟩

theorem teecAllocateSharedMemory_refused (refused : ¬ Served shared size memByteAlignment answer) :
    ∃ after, teecAllocateSharedMemory shared ⟨0, size, 0, 0⟩ answer =
      (TeecResult.errorOutOfMemory, ⟨0, size, 0, 0⟩, after) := by
  rcases internalMemAlloc_cases shared size memByteAlignment answer with
    nothing | ⟨block, pool, -, -, kept⟩ | ⟨served, -⟩
  · exact ⟨shared, by simp [teecAllocateSharedMemory, opteeClientMemAlloc, nothing]⟩
  · refine ⟨{ shared with pool := pool }, ?_⟩
    simp [teecAllocateSharedMemory, opteeClientMemAlloc, kept]
  · exact absurd served refused

theorem teecAllocateSharedMemory_served (fits : FitsWord size)
    (served : Served shared size memByteAlignment answer) :
    ∃ block pool, shared.pool.allocate shmAllocAlign.toNat (memBlockSize size).toNat answer =
        some (block, pool) ∧
      teecAllocateSharedMemory shared ⟨0, size, 0, 0⟩ answer =
        (TeecResult.success, .of size block, shared.withBlock size block pool) := by
  obtain ⟨accepted, block, pool, obtained, fenced⟩ := served
  have pointer := userBaseAddress_ne_zero accepted fits obtained
  refine ⟨block, pool, obtained, ?_⟩
  simp [teecAllocateSharedMemory, opteeClientMemAlloc, internalMemAlloc, accepted, obtained,
    fenced, pointer, TeecSharedMemory.of, SharedMem.withBlock]

theorem header_store (fits : FitsWord size)
    (obtained : shared.pool.allocate shmAllocAlign.toNat (memBlockSize size).toNat answer =
      some (block, pool)) {memory : Memory} {address : UInt64} {bytes : List UInt8}
    (inside : Interval.Within ⟨address.toNat, bytes.length⟩
      (grantFrom size memByteAlignment block).buffer) :
    (memory.write address bytes).read
        (userBaseAddress (UInt64.ofNat block.base) - memHeaderSize) 32 =
      memory.read (userBaseAddress (UInt64.ofNat block.base) - memHeaderSize) 32 := by
  have carved : (grantFrom size memByteAlignment block).Carved :=
    carved_of_served memByteAlignment_accepted fits obtained
  have header := carved.header_toNat
  have buffer := carved.bufferInside
  have pointerAt := carved.pointerAt
  have bound := within_region (Pool.allocate_spec obtained).1.2.1
  simp only [grantFrom, Grant.buffer, Interval.Within, Interval.finish] at *
  refine Memory.read_write_apart _ (by omega) (by omega) ?_
  simp only [Interval.Disjoint, Interval.finish]
  omega

/-- A block whose header is in place is given back. -/
theorem teecReleaseSharedMemory_own (fits : FitsWord size)
    (obtained : shared.pool.allocate shmAllocAlign.toNat (memBlockSize size).toNat answer =
      some (block, pool)) {memory : Memory}
    (kept : memory.read (userBaseAddress (UInt64.ofNat block.base) - memHeaderSize) 32 =
      MemHeader.bytes ⟨shmSignature, 0, memBlockSize size, UInt64.ofNat block.base⟩)
    {freed : EfiStatus} (accepted : freed.isError = false) :
    let after := (teecReleaseSharedMemory { shared.withBlock size block pool with memory }
      (.of size block) freed).2
    after.pool.held = shared.pool.held ∧ after.allocationCount = shared.allocationCount ∧
      after.allocSize = shared.allocSize := by
  have pointer := userBaseAddress_ne_zero memByteAlignment_accepted fits obtained
  have loaded := MemHeader.load_of_bytes kept
  obtain ⟨grantable, length, held⟩ := Pool.allocate_spec obtained
  have bound := within_region grantable.2.1
  have base : (UInt64.ofNat block.base).toNat = block.base := by
    rw [UInt64.toNat_ofNat']
    omega
  have range : Interval.mk (UInt64.ofNat block.base).toNat (memBlockSize size).toNat = block := by
    rw [base, ← length]
  have mine : block ∈ pool.held := by
    rw [held]
    exact List.mem_cons_self
  simp only [teecReleaseSharedMemory, TeecSharedMemory.of, pointer, if_false, ne_eq,
    not_false_eq_true, if_true, opteeClientMemFree, loaded, not_true_eq_false, freeMemorySpace,
    range, accepted, mine, SharedMem.withBlock, EfiStatus.isError_success, Bool.false_eq_true]
  refine ⟨?_, ?_, ?_⟩
  · simp [Pool.release, held]
  · exact UInt64.add_sub_cancel _ _
  · exact UInt64.add_sub_cancel _ _

end

/-! ### Submissions -/

/-- The sum the code allocates. -/
def Tpm2Request.blockSize (request : Tpm2Request) : UInt64 :=
  (request.inputSize + request.outputSize).toUInt64

theorem Tpm2Request.blockSize_toNat (request : Tpm2Request) :
    request.blockSize.toNat = (request.inputSize.toNat + request.outputSize.toNat) % 2 ^ 32 := by
  rw [blockSize, UInt32.toNat_toUInt64, UInt32.toNat_add]

theorem Tpm2Request.blockSize_fits (request : Tpm2Request) : FitsWord request.blockSize := by
  have size := request.blockSize_toNat
  simp only [FitsWord, memHeaderSize, shmAllocAlign, UInt64.reduceToNat]
  omega

theorem Tpm2Request.command_length (request : Tpm2Request) :
    request.command.length = request.inputSize.toNat := by
  simp [command]

variable {session : TeecSession} {turn : FtpmTurn} {request : Tpm2Request}
  {shared : SharedMem region}

theorem invoked_result {operation : TeecOperation} (turn : FtpmTurn) :
    (teecSmcInvokeCommand session taFtpmSubmitCommand operation turn.messageAllocated
      fun _ => turn.reply).result = turn.result := by
  unfold teecSmcInvokeCommand FtpmTurn.result
  split
  · dsimp only
    split <;> rfl
  · rfl

theorem invoked_size (session : TeecSession) (sharedInput sharedOutput : UInt64)
    (request : Tpm2Request) (succeeded : turn.result = TeecResult.success) :
    turn.messageAllocated = true ∧
      (teecSmcInvokeCommand session taFtpmSubmitCommand
        (ftpmOperation sharedInput sharedOutput request) turn.messageAllocated
        fun _ => turn.reply).operation.params[1].size.toNat = turn.responseSize := by
  unfold FtpmTurn.result at succeeded
  split at succeeded
  · next allocated =>
    split at succeeded
    · next failed => exact absurd succeeded failed
    · next returned =>
      refine ⟨allocated, ?_⟩
      have kind : paramTypeGet (ftpmOperation sharedInput sharedOutput request).paramTypes
          (1 : Fin 4).val = teecMemrefTempInout :=
        show paramTypeGet (teecMemrefTempInput ||| teecMemrefTempInout <<< 4) 1 =
          teecMemrefTempInout by decide
      have decoded := getMsgParams_slot 0 (Nat.le_refl 4) turn.reply.message.params
        (ftpmOperation sharedInput sharedOutput request) 1
      rw [kind] at decoded
      unfold teecSmcInvokeCommand
      dsimp only
      rw [if_pos allocated, if_neg returned]
      exact congrArg (fun param => (TeecParameter.size param).toNat) decoded
  · cases succeeded

section

variable {initialized : Bool} {shared : SharedMem region} {request : Tpm2Request}
  {turn : FtpmTurn} {block : Interval} {pool : Pool region.interval}

def blockPointer (block : Interval) : UInt64 := userBaseAddress (UInt64.ofNat block.base)

/-- Where the response is expected. -/
def Tpm2Request.responsePointer (request : Tpm2Request) (block : Interval) : UInt64 :=
  blockPointer block + request.inputSize.toUInt64

/-- The room the application is offered, as it leaves it. -/
def FtpmTurn.left (turn : FtpmTurn) (request : Tpm2Request) : List UInt8 :=
  (List.range request.outputSize.toNat).map turn.output

/-- Shared memory once the command was sent. -/
def sharedAfter (shared : SharedMem region) (request : Tpm2Request) (turn : FtpmTurn)
    (block : Interval) (pool : Pool region.interval) : SharedMem region :=
  let stored := (shared.withBlock request.blockSize block pool).store (blockPointer block)
    request.command
  if turn.messageAllocated then
    stored.store (request.responsePointer block) (turn.left request)
  else stored

theorem tpm2SubmitCommand_unsent (asserts : Bool) (session : TeecSession)
    (unsent : ¬ Sent initialized shared request turn) :
    ∃ status after, status ≠ some EfiStatus.success ∧
      tpm2SubmitCommand asserts initialized session shared request turn =
        ⟨status, request.outputSize, [], none, [], after⟩ := by
  cases initialized with
  | false => exact ⟨some EfiStatus.notReady, shared, by decide, rfl⟩
  | true =>
    have refused : ¬ Served shared request.blockSize memByteAlignment turn.base :=
      fun served => unsent ⟨rfl, served⟩
    obtain ⟨after, result⟩ := teecAllocateSharedMemory_refused refused
    have failed : TeecResult.errorOutOfMemory ≠ TeecResult.success := by decide
    unfold Tpm2Request.blockSize at result
    unfold tpm2SubmitCommand
    simp only [Bool.not_true, Bool.false_eq_true, if_false, result, ne_eq, failed,
      not_false_eq_true, if_true]
    cases asserts with
    | false => exact ⟨some EfiStatus.outOfResources, after, by decide, rfl⟩
    | true => exact ⟨none, after, by decide, rfl⟩

/-- A submission that is sent stops, fails or succeeds as the command does. -/
theorem tpm2SubmitCommand_sent (asserts : Bool) (session : TeecSession)
    (sent : Sent initialized shared request turn) :
    ∃ block pool, shared.pool.allocate shmAllocAlign.toNat (memBlockSize request.blockSize).toNat
        turn.base = some (block, pool) ∧
      (turn.result ≠ TeecResult.success →
        tpm2SubmitCommand asserts initialized session shared request turn =
          ⟨if asserts then none else some EfiStatus.deviceError, request.outputSize, [],
            some ⟨(blockPointer block).toNat, request.blockSize.toNat⟩,
            [⟨(blockPointer block).toNat, request.inputSize.toNat⟩],
            if asserts then sharedAfter shared request turn block pool
            else (teecReleaseSharedMemory (sharedAfter shared request turn block pool)
              (.of request.blockSize block) turn.freed).2⟩) ∧
      (turn.result = TeecResult.success → ∃ returned : UInt64, returned.toNat = turn.responseSize ∧
        tpm2SubmitCommand asserts initialized session shared request turn =
          ⟨some EfiStatus.success, returned.toUInt32,
            (sharedAfter shared request turn block pool).memory.read
              (request.responsePointer block) turn.responseSize,
            some ⟨(blockPointer block).toNat, request.blockSize.toNat⟩,
            [⟨(blockPointer block).toNat, request.inputSize.toNat⟩,
              ⟨(request.responsePointer block).toNat, turn.responseSize⟩],
            (teecReleaseSharedMemory (sharedAfter shared request turn block pool)
              (.of request.blockSize block) turn.freed).2⟩) := by
  obtain ⟨rfl, served⟩ := sent
  obtain ⟨block, pool, obtained, result⟩ :=
    teecAllocateSharedMemory_served request.blockSize_fits served
  refine ⟨block, pool, obtained, ?_, ?_⟩
  · intro failed
    unfold Tpm2Request.blockSize at result
    unfold tpm2SubmitCommand
    simp only [Bool.not_true, Bool.false_eq_true, if_false, result, ne_eq, not_true_eq_false,
      invoked_result, failed, not_false_eq_true, if_true]
    cases asserts with
    | false => rfl
    | true => rfl
  · intro succeeded
    have size := (invoked_size session (blockPointer block) (request.responsePointer block) request
      succeeded).2
    refine ⟨_, size, ?_⟩
    rw [← size]
    unfold Tpm2Request.blockSize at result
    unfold tpm2SubmitCommand
    simp only [Bool.not_true, Bool.false_eq_true, if_false, result, ne_eq, not_true_eq_false,
      invoked_result, succeeded]
    rfl

/-! ### The criterion -/

theorem blockPointer_bounds
    (obtained : shared.pool.allocate shmAllocAlign.toNat (memBlockSize request.blockSize).toNat
      turn.base = some (block, pool)) :
    (blockPointer block).toNat + request.blockSize.toNat < 2 ^ 64 := by
  have carved := carved_of_served memByteAlignment_accepted request.blockSize_fits obtained
  have pointerAt := carved.pointerAt
  have length := carved.blockLength
  have bound := within_region (Pool.allocate_spec obtained).1.2.1
  simp only [grantFrom] at pointerAt length
  unfold blockPointer
  omega

theorem responsePointer_toNat
    (obtained : shared.pool.allocate shmAllocAlign.toNat (memBlockSize request.blockSize).toNat
      turn.base = some (block, pool))
    (exact : request.blockSize.toNat = request.inputSize.toNat + request.outputSize.toNat) :
    (request.responsePointer block).toNat =
      (blockPointer block).toNat + request.inputSize.toNat := by
  have bounds := blockPointer_bounds obtained
  rw [Tpm2Request.responsePointer, UInt64.toNat_add, UInt32.toNat_toUInt64]
  omega

/-- What the application leaves in the room it was offered stays there. -/
theorem sharedAfter_response (fits : turn.responseSize ≤ request.outputSize.toNat)
    (allocated : turn.messageAllocated = true) :
    (sharedAfter shared request turn block pool).memory.read (request.responsePointer block)
      turn.responseSize = turn.response := by
  have whole := request.outputSize.toNat_lt
  have length : (turn.left request).length = request.outputSize.toNat := by
    simp [FtpmTurn.left]
  unfold sharedAfter
  dsimp only
  rw [if_pos allocated]
  unfold SharedMem.store
  dsimp only
  rw [Memory.read_write_prefix _ _ (by omega) (by omega), FtpmTurn.left, ← List.map_take,
    List.take_range, Nat.min_eq_left fits]
  rfl

/-- The header survives the command and the response. -/
theorem sharedAfter_header
    (obtained : shared.pool.allocate shmAllocAlign.toNat (memBlockSize request.blockSize).toNat
      turn.base = some (block, pool))
    (exact : request.blockSize.toNat = request.inputSize.toNat + request.outputSize.toNat) :
    (sharedAfter shared request turn block pool).memory.read (blockPointer block - memHeaderSize)
        32 =
      MemHeader.bytes ⟨shmSignature, 0, memBlockSize request.blockSize,
        UInt64.ofNat block.base⟩ := by
  have fits := request.blockSize_fits
  have response := responsePointer_toNat obtained exact
  have written : (shared.withBlock request.blockSize block pool).memory.read
      (blockPointer block - memHeaderSize) 32 =
        MemHeader.bytes ⟨shmSignature, 0, memBlockSize request.blockSize,
          UInt64.ofNat block.base⟩ := by
    have same := Memory.read_write_same shared.memory (blockPointer block - memHeaderSize)
      (MemHeader.bytes ⟨shmSignature, 0, memBlockSize request.blockSize, UInt64.ofNat block.base⟩)
      (by rw [MemHeader.bytes_length]; omega)
    rw [MemHeader.bytes_length] at same
    exact same
  have command : Interval.Within ⟨(blockPointer block).toNat, request.command.length⟩
      (grantFrom request.blockSize memByteAlignment block).buffer := by
    rw [request.command_length]
    simp only [Interval.Within, Interval.finish, Grant.buffer, grantFrom, blockPointer]
    omega
  have left : Interval.Within
      ⟨(request.responsePointer block).toNat, (turn.left request).length⟩
      (grantFrom request.blockSize memByteAlignment block).buffer := by
    rw [response]
    simp only [FtpmTurn.left, List.length_map, List.length_range, Interval.Within,
      Interval.finish, Grant.buffer, grantFrom, blockPointer]
    omega
  unfold sharedAfter SharedMem.store
  dsimp only
  split
  · exact (header_store fits obtained left).trans
      ((header_store fits obtained command).trans written)
  · exact (header_store fits obtained command).trans written

/-- A block that was not overrun is given back. -/
theorem sharedAfter_released
    (obtained : shared.pool.allocate shmAllocAlign.toNat (memBlockSize request.blockSize).toNat
      turn.base = some (block, pool))
    (exact : request.blockSize.toNat = request.inputSize.toNat + request.outputSize.toNat)
    (accepted : turn.freed.isError = false) :
    let after := (teecReleaseSharedMemory (sharedAfter shared request turn block pool)
      (.of request.blockSize block) turn.freed).2
    after.pool.held = shared.pool.held ∧ after.allocationCount = shared.allocationCount ∧
      after.allocSize = shared.allocSize := by
  have header := sharedAfter_header obtained exact
  have released := teecReleaseSharedMemory_own request.blockSize_fits obtained header accepted
  unfold sharedAfter at released ⊢
  dsimp only at released ⊢
  split
  · next allocated =>
    rw [if_pos allocated] at released
    exact released
  · next missing =>
    rw [if_neg missing] at released
    exact released

end

theorem fits_of_safe {asserts initialized : Bool} (safe : SubmissionSafe shared request turn
      (tpm2SubmitCommand asserts initialized session shared request turn))
    (sent : Sent initialized shared request turn) : Fits request turn := by
  have size := request.blockSize_toNat
  have inputBound := request.inputSize.toNat_lt
  have outputBound := request.outputSize.toNat_lt
  obtain ⟨block, pool, obtained, failing, succeeding⟩ :=
    tpm2SubmitCommand_sent asserts session sent
  by_cases succeeded : turn.result = TeecResult.success
  · obtain ⟨returned, -, outcome⟩ := succeeding succeeded
    rw [outcome] at safe
    obtain ⟨within, same, inside⟩ := safe.confined _ List.mem_cons_self
    cases same
    unfold Interval.Within Interval.finish at inside
    dsimp only at inside
    refine ⟨by omega, fun larger => ?_⟩
    have status := safe.tooSmall rfl larger
    simp only [Option.some.injEq] at status
    exact absurd status (by decide)
  · have outcome := failing succeeded
    rw [outcome] at safe
    obtain ⟨within, same, inside⟩ := safe.confined _ List.mem_cons_self
    cases same
    unfold Interval.Within Interval.finish at inside
    dsimp only at inside
    refine ⟨by omega, fun larger => ?_⟩
    have status := safe.tooSmall rfl larger
    cases asserts with
    | false =>
      simp only [Bool.false_eq_true, if_false, Option.some.injEq] at status
      exact absurd status (by decide)
    | true => simp at status

theorem safe_of_fits {asserts initialized : Bool}
    (fits : Sent initialized shared request turn → Fits request turn) :
    SubmissionSafe shared request turn
      (tpm2SubmitCommand asserts initialized session shared request turn) := by
  have size := request.blockSize_toNat
  have outputBound := request.outputSize.toNat_lt
  by_cases sent : Sent initialized shared request turn
  · obtain ⟨sum, fit⟩ := fits sent
    have exact : request.blockSize.toNat =
        request.inputSize.toNat + request.outputSize.toNat := by
      rw [size]
      exact Nat.mod_eq_of_lt sum
    obtain ⟨block, pool, obtained, failing, succeeding⟩ :=
      tpm2SubmitCommand_sent asserts session sent
    have copied : Interval.Within ⟨(blockPointer block).toNat, request.inputSize.toNat⟩
        ⟨(blockPointer block).toNat, request.blockSize.toNat⟩ := by
      unfold Interval.Within Interval.finish
      dsimp only
      omega
    by_cases succeeded : turn.result = TeecResult.success
    · obtain ⟨returned, returnedSize, outcome⟩ := succeeding succeeded
      have room : turn.responseSize ≤ request.outputSize.toNat :=
        Nat.le_of_not_lt fun larger => fit (Or.inr ⟨succeeded, larger⟩)
      have allocated := (invoked_size session 0 0 request succeeded).1
      rw [outcome]
      refine ⟨?_, ?_, ?_, ?_, ?_⟩
      · intro range member
        refine ⟨_, rfl, ?_⟩
        rcases List.mem_cons.mp member with rfl | later
        · exact copied
        · rw [List.mem_singleton.mp later, responsePointer_toNat obtained exact]
          unfold Interval.Within Interval.finish
          dsimp only
          omega
      · rw [Memory.read_length]
        exact room
      · intro _ larger
        exact absurd larger fit
      · intro _
        refine ⟨sharedAfter_response room allocated, ?_⟩
        rw [UInt64.toNat_toUInt32, returnedSize]
        omega
      · intro _ _ accepted
        exact sharedAfter_released obtained exact accepted
    · rw [failing succeeded]
      refine ⟨?_, Nat.zero_le _, ?_, ?_, ?_⟩
      · intro range member
        rw [List.mem_singleton.mp member]
        exact ⟨_, rfl, copied⟩
      · intro _ larger
        exact absurd larger fit
      · intro status
        cases asserts with
        | false =>
          simp only [Bool.false_eq_true, if_false, Option.some.injEq] at status
          exact absurd status (by decide)
        | true => simp at status
      · intro returns _ accepted
        cases asserts with
        | false => exact sharedAfter_released obtained exact accepted
        | true => simp at returns
  · obtain ⟨status, after, failed, outcome⟩ :=
      tpm2SubmitCommand_unsent asserts session sent
    rw [outcome]
    refine ⟨by simp, Nat.zero_le _, by simp, ?_, by simp⟩
    intro succeeded
    exact absurd succeeded failed

/-- A submission keeps its promises if and only if, when it is sent, the two sizes
have a 32-bit sum and the response fits. -/
theorem tpm2SubmitCommand_safe_iff (asserts initialized : Bool) (session : TeecSession)
    (shared : SharedMem region) (request : Tpm2Request) (turn : FtpmTurn) :
    SubmissionSafe shared request turn
        (tpm2SubmitCommand asserts initialized session shared request turn) ↔
      (Sent initialized shared request turn → Fits request turn) := by
  constructor
  · intro safe sent
    exact fits_of_safe safe sent
  · intro fits
    exact safe_of_fits fits

/-! ### Submissions that are not safe -/

theorem ftpmRegion_ordered : (0x8401000 : UInt64) ≤ 0x8600000 := by decide

/-- Two megabytes of shared memory without the reserved page. -/
def ftpmRegion : SharedRegion := ⟨0x8401000, 0x8600000, ftpmRegion_ordered⟩

/-- Nothing is allocated. -/
def ftpmShared : SharedMem ftpmRegion := ⟨fun _ => shmFreeFence, .empty _, 0, 0⟩

def ftpmTurn (result : TeecResult) (size : UInt64) : FtpmTurn where
  base := some 0x8401000
  messageAllocated := true
  reply := ⟨smcReturnOk, { MsgArg.zero 4 with
    ret := result
    params := #v[.zero, ⟨0xB, 0, size, 0⟩, .zero, .zero] }⟩
  output _ := 0
  freed := EfiStatus.success

theorem fenced_free (address size : UInt64) :
    isSharedMemoryRegionFree (fun _ => shmFreeFence) address size = true := by
  simp [isSharedMemoryRegionFree, Memory.read]

theorem ftpmBase_aligned : shmAllocAlign.toNat ∣ 0x8401000 := by decide

theorem ftpmShared_served {size : UInt64}
    (room : (Interval.mk 0x8401000 (memBlockSize size).toNat).Within ftpmRegion.interval) :
    Served ftpmShared size memByteAlignment (some 0x8401000) := by
  have grantable : ftpmShared.pool.Grantable shmAllocAlign.toNat
      ⟨0x8401000, (memBlockSize size).toNat⟩ := by
    refine ⟨ftpmBase_aligned, room, ?_⟩
    intro other member
    cases member
  have obtained : ftpmShared.pool.allocate shmAllocAlign.toNat (memBlockSize size).toNat
      (some 0x8401000) = some (⟨0x8401000, (memBlockSize size).toNat⟩,
        ftpmShared.pool.grant _ _ grantable) := by
    rw [Pool.allocate, dif_pos grantable]
  exact ⟨memByteAlignment_accepted, _, _, obtained, fenced_free _ _⟩

/-- A sum that wraps, a response larger than the room offered, and one that is
reported not to fit. -/
theorem tpm2SubmitCommand_unsafe :
    ¬ SubmissionSafe ftpmShared ⟨0xFFFFFFFF, fun _ => 0, 2⟩ (ftpmTurn TeecResult.success 1)
        (tpm2SubmitCommand false true ⟨7⟩ ftpmShared ⟨0xFFFFFFFF, fun _ => 0, 2⟩
          (ftpmTurn TeecResult.success 1)) ∧
      ¬ SubmissionSafe ftpmShared ⟨12, fun _ => 0, 10⟩ (ftpmTurn TeecResult.success 4096)
        (tpm2SubmitCommand false true ⟨7⟩ ftpmShared ⟨12, fun _ => 0, 10⟩
          (ftpmTurn TeecResult.success 4096)) ∧
      ¬ SubmissionSafe ftpmShared ⟨12, fun _ => 0, 10⟩ (ftpmTurn TeecResult.errorShortBuffer 20)
        (tpm2SubmitCommand false true ⟨7⟩ ftpmShared ⟨12, fun _ => 0, 10⟩
          (ftpmTurn TeecResult.errorShortBuffer 20)) := by
  have wrapped : Served ftpmShared ((0xFFFFFFFF : UInt32) + 2).toUInt64 memByteAlignment
      (some 0x8401000) := ftpmShared_served (by decide)
  have small : Served ftpmShared ((12 : UInt32) + 10).toUInt64 memByteAlignment
      (some 0x8401000) := ftpmShared_served (by decide)
  refine ⟨?_, ?_, ?_⟩
  · intro safe
    have fits := fits_of_safe safe ⟨rfl, wrapped⟩
    exact absurd fits.1 (by decide)
  · intro safe
    have fits := fits_of_safe safe ⟨rfl, small⟩
    exact fits.2 (Or.inr ⟨by decide, by decide⟩)
  · intro safe
    have fits := fits_of_safe safe ⟨rfl, small⟩
    exact fits.2 (Or.inl (by decide))

end MuRockchip.Optee
