/-
Shared memory for the secure world (`OpteeClientRPC.c`).

The secure world asks for shared memory with a message in memory of its own
(`OpteeRpcCmdShmAlloc`, `OpteeRpcCmdShmFree`); the block comes from the allocator of
`SharedMem`.

* `internalMemAlloc_handsOut`, `HandsOut.servable`: the requests that get a block with
  room for them.
* `shmCommands_atomic_iff`: when a message that fails leaves the allocator alone, and
  one that succeeds names a block of the size asked for.
-/
import MuRockchip.Optee.MsgCodec
import MuRockchip.Optee.SharedMemLedger

namespace MuRockchip.Optee

open MuRockchip.Base

variable {region : SharedRegion} {slots : Nat}

/-! ### Messages -/

/-- `OPTEE_MSG_RPC_SHM_TYPE_APPL`. -/
def rpcShmTypeAppl : UInt64 := 0

/-- `OPTEE_MSG_RPC_SHM_TYPE_KERNEL`. -/
def rpcShmTypeKernel : UInt64 := 1

/-- The memory types the handlers support. -/
def ShmTypeSupported (type : UInt64) : Prop := type = rpcShmTypeAppl ∨ type = rpcShmTypeKernel

instance (type : UInt64) : Decidable (ShmTypeSupported type) :=
  inferInstanceAs (Decidable (_ ∨ _))

/-- What the `switch` over the memory type leaves in `TeecResult`. Its default arm notes
the error and breaks, so the handler goes on. -/
def shmTypeResult (type : UInt64) : TeecResult :=
  if ShmTypeSupported type then TeecResult.success else TeecResult.errorBadParameters

/-- `OpteeRpcCmdShmAlloc`: the result, the message afterwards, and what the allocator
returned. -/
def opteeRpcCmdShmAlloc (shared : SharedMem region) (msgArg : MsgArg (slots + 1))
    (answer : Option Nat) : TeecResult × MsgArg (slots + 1) × SharedMem region :=
  if msgArg.numParams ≠ 1 then (TeecResult.errorBadParameters, msgArg, shared)
  else if msgArg.param.type ≠ msgAttrTypeValueInput.toUInt64 then
    (TeecResult.errorBadParameters, msgArg, shared)
  else
    let teecResult := shmTypeResult msgArg.param.word0
    let bufferSize := msgArg.param.word1
    let bufferAlignment := msgArg.param.word2
    let (allocation, after) :=
      opteeClientAlignedMemAlloc shared bufferSize bufferAlignment answer
    let buffer := allocation.pointer
    if buffer = 0 then (TeecResult.errorOutOfMemory, msgArg, after)
    else
      let param : MsgParam := ⟨msgAttrTypeTmemOutput.toUInt64, buffer, bufferSize, buffer⟩
      (teecResult, msgArg.setParam param, after)

/-- `OpteeRpcCmdShmFree`. The message is read only. -/
def opteeRpcCmdShmFree (shared : SharedMem region) (msgArg : MsgArg (slots + 1))
    (answer : EfiStatus) : TeecResult × SharedMem region :=
  if msgArg.numParams ≠ 1 then (TeecResult.errorBadParameters, shared)
  else if msgArg.param.type ≠ msgAttrTypeValueInput.toUInt64 then
    (TeecResult.errorBadParameters, shared)
  else
    let teecResult := shmTypeResult msgArg.param.word0
    let (status, after) := opteeClientMemFree shared msgArg.param.word1 answer
    if status.isError then (TeecResult.errorBadState, after)
    else (teecResult, after)

/-! ### Blocks handed out and taken back -/

/-- The four megabytes below `0x10400000`, less a page. -/
def sampleRegion : SharedRegion := ⟨0x10001000, 0x10400000, by decide⟩

/-- A region that is fenced throughout and of which nothing is handed out. -/
def SharedMem.fenced (region : SharedRegion) : SharedMem region :=
  ⟨fun _ => shmFreeFence, Pool.empty region.interval, 0, 0⟩

/-- The services hold the range of the block and its header is in memory. -/
structure Grant.LiveIn (grant : Grant) (shared : SharedMem region) : Prop where
  held : grant.block ∈ shared.pool.held
  headed : shared.memory.read (grant.pointer - memHeaderSize) 32 = grant.headerOf.bytes

/-- One block was handed out, and entered in the books. -/
structure Allocates (before after : SharedMem region) (grant : Grant) : Prop where
  held : after.pool.held = grant.block :: before.pool.held
  count : after.allocationCount = before.allocationCount + 1
  live : grant.LiveIn after

/-- One block was taken back, and left the books. -/
structure ReleasesOnly (before after : SharedMem region) (grant : Grant) : Prop where
  pool : after.pool = before.pool.release grant.block
  count : after.allocationCount = before.allocationCount - 1
  size : after.allocSize = before.allocSize - UInt64.ofNat grant.block.length

/-- A block was handed out for a request of `size` bytes and has room for them. -/
structure HandsOut (before after : SharedMem region) (size : UInt64) (grant : Grant) : Prop where
  allocates : Allocates before after grant
  size : grant.size = size
  room : grant.buffer.Within grant.block

variable {grant : Grant} {shared : SharedMem region} {answer : Option Nat}
  {byteAlignment size : UInt64} {msgArg : MsgArg (slots + 1)}

theorem Grant.LiveIn.free (live : grant.LiveIn shared) {answer : EfiStatus}
    (accepted : answer.isError = false) :
    (opteeClientMemFree shared grant.pointer answer).1 = EfiStatus.success ∧
      ReleasesOnly shared (opteeClientMemFree shared grant.pointer answer).2 grant := by
  obtain ⟨address, size, -, extent, result⟩ :=
    opteeClientMemFree_stored live.held live.headed answer
  have length : size = UInt64.ofNat grant.block.length := by
    rw [← extent, UInt64.ofNat_toNat]
  rw [result, if_neg (by rw [accepted]; exact Bool.false_ne_true), length]
  exact ⟨rfl, rfl, rfl, rfl⟩

/-- What the services answer with, when they hand out a range for the request. -/
def Obtains (shared : SharedMem region) (size byteAlignment : UInt64) (answer : Option Nat)
    (block : Interval) : Prop :=
  alignmentAccepted byteAlignment = true ∧
    ∃ pool, shared.pool.allocate shmAllocAlign.toNat (memBlockSize size).toNat answer =
      some (block, pool)

/-- A request whose block is fenced and does not wrap is served in full. -/
theorem internalMemAlloc_handsOut (served : Served shared size byteAlignment answer)
    (fits : FitsWord size) :
    ∃ grant : Grant, grant.pointer ≠ 0 ∧
      (internalMemAlloc shared size byteAlignment answer).1.pointer = grant.pointer ∧
      HandsOut shared (internalMemAlloc shared size byteAlignment answer).2 size grant := by
  obtain ⟨accepted, block, pool, obtained, fenced⟩ := served
  have result : internalMemAlloc shared size byteAlignment answer =
      (⟨userBaseAddress (UInt64.ofNat block.base), some block⟩,
        { memory := shared.memory.write
            (userBaseAddress (UInt64.ofNat block.base) - memHeaderSize)
            (MemHeader.bytes ⟨shmSignature, 0, memBlockSize size, UInt64.ofNat block.base⟩)
          pool := pool
          allocationCount := shared.allocationCount + 1
          allocSize := shared.allocSize + memBlockSize size }) := by
    simp [internalMemAlloc, accepted, obtained, fenced]
  have carved := carved_of_served accepted fits obtained
  obtain ⟨-, length, grown⟩ := Pool.allocate_spec obtained
  have sizeField : memBlockSize size = UInt64.ofNat block.length := by
    rw [length, UInt64.ofNat_toNat]
  refine ⟨grantFrom size byteAlignment block, userBaseAddress_ne_zero accepted fits obtained, ?_,
    ⟨?_, ?_, ?_, ?_⟩, rfl, carved.bufferInside⟩
  · rw [result]
    rfl
  · rw [result]
    exact grown
  · rw [result]
  · rw [result]
    exact grown ▸ List.mem_cons_self
  · rw [result]
    simp only [sizeField, Grant.headerOf, grantFrom]
    have stored := Memory.read_write_same shared.memory
      (userBaseAddress (UInt64.ofNat block.base) - memHeaderSize)
      (MemHeader.bytes ⟨shmSignature, 0, UInt64.ofNat block.length, UInt64.ofNat block.base⟩)
    rw [MemHeader.bytes_length] at stored
    exact stored (by omega)

/-- Handing out a range always shows in the books. -/
theorem Obtains.not_sameBooks {block : Interval}
    (obtains : Obtains shared size byteAlignment answer block) :
    ¬ SameBooks shared (internalMemAlloc shared size byteAlignment answer).2 := by
  intro same
  obtain ⟨accepted, pool, obtained⟩ := obtains
  obtain ⟨-, -, grown⟩ := Pool.allocate_spec obtained
  have after : (internalMemAlloc shared size byteAlignment answer).2.pool = pool := by
    simp only [internalMemAlloc, accepted, obtained, if_true]
    split <;> rfl
  have longer := congrArg List.length (congrArg Pool.held (after.symm.trans same.1))
  rw [grown, List.length_cons] at longer
  omega

theorem internalMemAlloc_refused
    (refused : ∀ block, ¬ Obtains shared size byteAlignment answer block) :
    internalMemAlloc shared size byteAlignment answer = (⟨0, none⟩, shared) := by
  rcases internalMemAlloc_cases shared size byteAlignment answer with
    result | ⟨block, pool, obtained, -, result⟩ | ⟨⟨accepted, block, pool, obtained, -⟩, -⟩
  · exact result
  · by_cases accepted : alignmentAccepted byteAlignment = true
    · exact absurd ⟨accepted, pool, obtained⟩ (refused block)
    · simp [internalMemAlloc, accepted]
  · exact absurd ⟨accepted, pool, obtained⟩ (refused block)

/-- The range still carries the fence of free memory and the block size of the request
does not wrap. -/
def Servable (shared : SharedMem region) (size : UInt64) (block : Interval) : Prop :=
  isSharedMemoryRegionFree shared.memory (UInt64.ofNat block.base) (memBlockSize size) = true ∧
    FitsWord size

theorem HandsOut.servable {block : Interval}
    (obtains : Obtains shared size byteAlignment answer block)
    (out : HandsOut shared (internalMemAlloc shared size byteAlignment answer).2 size grant) :
    Servable shared size block := by
  obtain ⟨accepted, pool, obtained⟩ := obtains
  obtain ⟨-, length, grown⟩ := Pool.allocate_spec obtained
  have fenced : isSharedMemoryRegionFree shared.memory (UInt64.ofNat block.base)
      (memBlockSize size) = true := by
    by_contra broken
    have count := out.allocates.count
    simp only [internalMemAlloc, accepted, obtained, if_true, if_neg broken] at count
    have next := congrArg UInt64.toNat count
    have bound := shared.allocationCount.toNat_lt
    simp only [UInt64.toNat_add, UInt64.reduceToNat] at next
    omega
  refine ⟨fenced, ?_⟩
  by_contra wraps
  have held := out.allocates.held
  simp only [internalMemAlloc, accepted, obtained, if_true, if_pos fenced, grown] at held
  have same := (List.cons.inj held).1
  have short := memBlockSize_lt_of_wrap wraps
  have room := out.room
  simp only [Interval.Within, Interval.finish, Grant.buffer, out.size, ← same, length] at room
  omega

/-- Room for a request comes from a range that serves it. -/
theorem HandsOut.served
    (out : HandsOut shared (internalMemAlloc shared size byteAlignment answer).2 size grant) :
    Served shared size byteAlignment answer ∧ FitsWord size := by
  by_cases obtains : ∃ block, Obtains shared size byteAlignment answer block
  · obtain ⟨block, obtains⟩ := obtains
    obtain ⟨fenced, fits⟩ := HandsOut.servable obtains out
    obtain ⟨accepted, pool, obtained⟩ := obtains
    exact ⟨⟨accepted, block, pool, obtained, fenced⟩, fits⟩
  · have held := out.allocates.held
    rw [internalMemAlloc_refused (not_exists.mp obtains)] at held
    dsimp only at held
    have longer := congrArg List.length held
    rw [List.length_cons] at longer
    omega

/-- A free goes through: the header is signed and names a range that is held, and the
services take it back. -/
structure FreeAccepted (shared : SharedMem region) (mem : UInt64) (answer : EfiStatus) : Prop where
  signed : (MemHeader.load shared.memory (mem - memHeaderSize)).signature = shmSignature
  taken : answer.isError = false
  held : (⟨(MemHeader.load shared.memory (mem - memHeaderSize)).address.toNat,
    (MemHeader.load shared.memory (mem - memHeaderSize)).size.toNat⟩ : Interval) ∈
      shared.pool.held

theorem FreeAccepted.released {mem : UInt64} {answer : EfiStatus}
    (accepted : FreeAccepted shared mem answer) :
    (opteeClientMemFree shared mem answer).1 = EfiStatus.success ∧
      ¬ SameBooks shared (opteeClientMemFree shared mem answer).2 := by
  have some := List.length_pos_of_mem accepted.held
  have shrink := List.length_erase_of_mem accepted.held
  simp only [opteeClientMemFree, accepted.signed, freeMemorySpace, accepted.taken,
    accepted.held, ne_eq, not_true_eq_false, Bool.false_eq_true, if_false, if_true,
    EfiStatus.isError_success, true_and]
  intro same
  have shorter := congrArg List.length (congrArg Pool.held same.1)
  simp only [Pool.release, shrink] at shorter
  omega

/-- Any other free fails and leaves the books alone. -/
theorem opteeClientMemFree_kept {mem : UInt64} {answer : EfiStatus}
    (rejected : ¬ FreeAccepted shared mem answer) :
    (opteeClientMemFree shared mem answer).1.isError = true ∧
      SameBooks shared (opteeClientMemFree shared mem answer).2 := by
  by_cases signed :
      (MemHeader.load shared.memory (mem - memHeaderSize)).signature = shmSignature
  · by_cases failed : answer.isError = true
    · simp [opteeClientMemFree, signed, freeMemorySpace, failed, SameBooks]
    · have absent : (⟨(MemHeader.load shared.memory (mem - memHeaderSize)).address.toNat,
          (MemHeader.load shared.memory (mem - memHeaderSize)).size.toNat⟩ : Interval) ∉
            shared.pool.held :=
        fun held => rejected ⟨signed, Bool.eq_false_iff.mpr failed, held⟩
      have notFound : EfiStatus.isError EfiStatus.notFound = true := rfl
      simp [opteeClientMemFree, signed, freeMemorySpace, failed, absent, notFound, SameBooks]
  · rw [opteeClientMemFree_unsigned signed]
    exact ⟨EfiStatus.isError_invalidParameter, rfl, rfl, rfl⟩

/-! ### Atomicity of the messages -/

/-- The message passes the checks both handlers begin with: one parameter, a value
passed in. -/
def MsgArg.IsShmRequest (msgArg : MsgArg (slots + 1)) : Prop :=
  msgArg.numParams = 1 ∧ msgArg.param.type = msgAttrTypeValueInput.toUInt64

/-- The message asks for the release of a reference. -/
structure MsgArg.Releases (msgArg : MsgArg (slots + 1)) (shmRef : UInt64) : Prop where
  request : msgArg.IsShmRequest
  type : ShmTypeSupported msgArg.param.word0
  reference : msgArg.param.word1 = shmRef

/-- Passing the reference to `OpteeRpcCmdShmFree`, at any time at which the block is
live, releases the block. -/
def ReleasedByRef (region : SharedRegion) (grant : Grant) (shmRef : UInt64) : Prop :=
  ∀ (later : SharedMem region) (slots : Nat) (msgArg : MsgArg (slots + 1)) (answer : EfiStatus),
    grant.LiveIn later → msgArg.Releases shmRef → answer.isError = false →
    (opteeRpcCmdShmFree later msgArg answer).1 = TeecResult.success ∧
      ReleasesOnly later (opteeRpcCmdShmFree later msgArg answer).2 grant

/-- The memory reference in a reply names the block. -/
structure MsgParam.Names (param : MsgParam) (grant : Grant) : Prop where
  bufPtr : param.word0 = grant.pointer
  size : param.word1 = grant.size
  shmRef : param.word2 = grant.pointer

/-- A failed request allocates nothing and writes nothing; a request that succeeds names
a live block, with room for what was asked, that its reference releases. -/
structure ShmAllocAtomic (shared : SharedMem region) (msgArg : MsgArg (slots + 1))
    (answer : Option Nat) : Prop where
  failed : (opteeRpcCmdShmAlloc shared msgArg answer).1 ≠ TeecResult.success →
    SameBooks shared (opteeRpcCmdShmAlloc shared msgArg answer).2.2 ∧
      (opteeRpcCmdShmAlloc shared msgArg answer).2.1.params = msgArg.params
  served : (opteeRpcCmdShmAlloc shared msgArg answer).1 = TeecResult.success →
    ∃ grant : Grant,
      HandsOut shared (opteeRpcCmdShmAlloc shared msgArg answer).2.2 msgArg.param.word1
        grant ∧
      (opteeRpcCmdShmAlloc shared msgArg answer).2.1.param.Names grant ∧
      ReleasedByRef region grant (opteeRpcCmdShmAlloc shared msgArg answer).2.1.param.word2

/-- A failed release releases nothing. -/
def ShmFreeAtomic (shared : SharedMem region) (msgArg : MsgArg (slots + 1))
    (answer : EfiStatus) : Prop :=
  (opteeRpcCmdShmFree shared msgArg answer).1 ≠ TeecResult.success →
    SameBooks shared (opteeRpcCmdShmFree shared msgArg answer).2

theorem MsgArg.Releases.release {shmRef : UInt64} (releases : msgArg.Releases shmRef)
    {later : SharedMem region} (named : shmRef = grant.pointer) (live : grant.LiveIn later)
    {answer : EfiStatus} (accepted : answer.isError = false) :
    (opteeRpcCmdShmFree later msgArg answer).1 = TeecResult.success ∧
      ReleasesOnly later (opteeRpcCmdShmFree later msgArg answer).2 grant := by
  obtain ⟨status, released⟩ := live.free accepted
  have reference := releases.reference.trans named
  have result : opteeRpcCmdShmFree later msgArg answer =
      (TeecResult.success, (opteeClientMemFree later grant.pointer answer).2) := by
    simp [opteeRpcCmdShmFree, releases.request.1, releases.request.2, reference, status,
      shmTypeResult, releases.type]
  rw [result]
  exact ⟨rfl, released⟩

theorem shmTypeResult_success_iff {type : UInt64} :
    shmTypeResult type = TeecResult.success ↔ ShmTypeSupported type := by
  unfold shmTypeResult
  split
  · next supported => simp [supported]
  · next unsupported =>
    exact ⟨fun same => absurd same (by decide), fun supported => absurd supported unsupported⟩

/-- A message that passes the checks: what the handler does with the allocator's answer. -/
theorem opteeRpcCmdShmAlloc_request (shared : SharedMem region) (request : msgArg.IsShmRequest)
    (answer : Option Nat) :
    let param := msgArg.param
    let allocated := internalMemAlloc shared param.word1 param.word2 answer
    opteeRpcCmdShmAlloc shared msgArg answer =
      if allocated.1.pointer = 0 then (TeecResult.errorOutOfMemory, msgArg, allocated.2)
      else (shmTypeResult param.word0,
        msgArg.setParam ⟨msgAttrTypeTmemOutput.toUInt64, allocated.1.pointer, param.word1,
          allocated.1.pointer⟩, allocated.2) := by
  simp only [opteeRpcCmdShmAlloc, request.1, request.2, ne_eq, not_true_eq_false, if_false]
  rfl

/-- A message that fails the checks is turned away. -/
theorem opteeRpcCmdShmAlloc_rejected (rejected : ¬ msgArg.IsShmRequest) (answer : Option Nat) :
    opteeRpcCmdShmAlloc shared msgArg answer = (TeecResult.errorBadParameters, msgArg, shared) := by
  unfold opteeRpcCmdShmAlloc
  split
  · rfl
  · split
    · rfl
    · next one value => exact absurd ⟨not_not.mp one, not_not.mp value⟩ rejected

/-- What makes an allocation request atomic: once the services hand out a range, the
memory type is one of the two supported, the range still carries its fence, and the
block size does not wrap. -/
def ShmAllocSound (shared : SharedMem region) (msgArg : MsgArg (slots + 1))
    (answer : Option Nat) : Prop :=
  msgArg.IsShmRequest → ∀ block,
    Obtains shared msgArg.param.word1 msgArg.param.word2 answer block →
    ShmTypeSupported msgArg.param.word0 ∧ Servable shared msgArg.param.word1 block

/-- What makes a release atomic: the memory type is supported, or the free fails too. -/
def ShmFreeSound (shared : SharedMem region) (msgArg : MsgArg (slots + 1))
    (answer : EfiStatus) : Prop :=
  msgArg.IsShmRequest → ShmTypeSupported msgArg.param.word0 ∨
    ¬ FreeAccepted shared msgArg.param.word1 answer

/-- Turned away, a message leaves everything as it was. -/
theorem ShmAllocAtomic.of_unchanged {teecResult : TeecResult}
    (error : teecResult ≠ TeecResult.success)
    (result : opteeRpcCmdShmAlloc shared msgArg answer = (teecResult, msgArg, shared)) :
    ShmAllocAtomic shared msgArg answer := by
  refine ⟨fun _ => ?_, fun success => ?_⟩
  · rw [result]
    exact ⟨⟨rfl, rfl, rfl⟩, rfl⟩
  · rw [result] at success
    exact absurd success error

theorem ShmAllocSound.atomic (sound : ShmAllocSound shared msgArg answer) :
    ShmAllocAtomic shared msgArg answer := by
  by_cases request : msgArg.IsShmRequest
  · have acted := opteeRpcCmdShmAlloc_request shared request answer
    by_cases obtains : ∃ block,
        Obtains shared msgArg.param.word1 msgArg.param.word2 answer block
    · obtain ⟨block, obtains⟩ := obtains
      obtain ⟨supported, fenced, fits⟩ := sound request block obtains
      obtain ⟨accepted, pool, obtained⟩ := obtains
      obtain ⟨grant, nonNull, pointer, out⟩ :=
        internalMemAlloc_handsOut ⟨accepted, block, pool, obtained, fenced⟩ fits
      simp only [pointer, if_neg nonNull, shmTypeResult_success_iff.mpr supported] at acted
      refine ⟨fun failed => absurd (by rw [acted]) failed, fun _ => ⟨grant, ?_, ?_, ?_⟩⟩
      · rw [acted]
        exact out
      · rw [acted]
        exact ⟨by simp, by simp [out.size], by simp⟩
      · rw [acted]
        intro later slots free freeAnswer live releases taken
        exact releases.release (by simp) live taken
    · have refused := internalMemAlloc_refused (not_exists.mp obtains)
      simp only [refused, if_true] at acted
      exact ShmAllocAtomic.of_unchanged (by decide) acted
  · exact ShmAllocAtomic.of_unchanged (by decide) (opteeRpcCmdShmAlloc_rejected request answer)

/-- An atomic request for which a range was handed out went through in full. -/
theorem ShmAllocAtomic.sound (atomic : ShmAllocAtomic shared msgArg answer) :
    ShmAllocSound shared msgArg answer := by
  intro request block obtains
  have acted := opteeRpcCmdShmAlloc_request shared request answer
  have succeeded : (opteeRpcCmdShmAlloc shared msgArg answer).1 = TeecResult.success := by
    by_contra failed
    have same := (atomic.failed failed).1
    apply obtains.not_sameBooks
    rw [acted] at same
    split at same <;> exact same
  obtain ⟨grant, out, -, -⟩ := atomic.served succeeded
  rw [acted] at succeeded out
  split at succeeded
  · cases succeeded
  · next nonNull =>
    rw [if_neg nonNull] at out
    exact ⟨shmTypeResult_success_iff.mp succeeded, HandsOut.servable obtains out⟩

/-- A release that passes the checks: what the handler does with the allocator's answer. -/
theorem opteeRpcCmdShmFree_request (shared : SharedMem region) (request : msgArg.IsShmRequest)
    (answer : EfiStatus) :
    opteeRpcCmdShmFree shared msgArg answer =
      (if (opteeClientMemFree shared msgArg.param.word1 answer).1.isError then
          TeecResult.errorBadState
        else shmTypeResult msgArg.param.word0,
        (opteeClientMemFree shared msgArg.param.word1 answer).2) := by
  simp only [opteeRpcCmdShmFree, request.1, request.2, ne_eq, not_true_eq_false, if_false]
  split <;> rfl

theorem opteeRpcCmdShmFree_rejected (rejected : ¬ msgArg.IsShmRequest) (answer : EfiStatus) :
    opteeRpcCmdShmFree shared msgArg answer = (TeecResult.errorBadParameters, shared) := by
  unfold opteeRpcCmdShmFree
  split
  · rfl
  · split
    · rfl
    · next one value => exact absurd ⟨not_not.mp one, not_not.mp value⟩ rejected

theorem shmFreeAtomic_iff {answer : EfiStatus} :
    ShmFreeAtomic shared msgArg answer ↔ ShmFreeSound shared msgArg answer := by
  by_cases request : msgArg.IsShmRequest
  · have acted := opteeRpcCmdShmFree_request shared request answer
    by_cases accepted : FreeAccepted shared msgArg.param.word1 answer
    · obtain ⟨status, released⟩ := accepted.released
      rw [status, if_neg (by decide)] at acted
      rw [ShmFreeAtomic, acted]
      simp only [ShmFreeSound, request, accepted, released, not_true_eq_false, or_false,
        true_implies, imp_false, not_not, shmTypeResult_success_iff]
    · have kept := (opteeClientMemFree_kept accepted).2
      rw [ShmFreeAtomic, acted]
      simp only [ShmFreeSound, accepted, kept, not_false_eq_true, or_true, implies_true]
  · rw [ShmFreeAtomic, opteeRpcCmdShmFree_rejected request]
    simp only [ShmFreeSound, request, SameBooks, false_implies, implies_true, and_self]

/-- For every message, state of the allocator and answer of the services: an allocation
request is atomic exactly when the range handed out for it serves it and its memory type
is supported, and a release is atomic exactly when its memory type is supported or the
free fails as well. -/
theorem shmCommands_atomic_iff (shared : SharedMem region) (msgArg : MsgArg (slots + 1))
    (allocAnswer : Option Nat) (freeAnswer : EfiStatus) :
    (ShmAllocAtomic shared msgArg allocAnswer ↔ ShmAllocSound shared msgArg allocAnswer) ∧
      (ShmFreeAtomic shared msgArg freeAnswer ↔ ShmFreeSound shared msgArg freeAnswer) :=
  ⟨⟨ShmAllocAtomic.sound, ShmAllocSound.atomic⟩, shmFreeAtomic_iff⟩

/-- Asked for memory of an unknown type, the handler reports bad parameters with the
block allocated and the parameter overwritten. -/
theorem unsupported_type_allocates :
    ¬ ShmAllocAtomic (SharedMem.fenced sampleRegion)
      (⟨6, 0, 0, 0, 0, 1, #v[⟨1, 2, 16, 0⟩]⟩ : MsgArg 1) (some 0x103FD000) := by
  intro atomic
  have failed := atomic.failed (by decide +kernel)
  have changed := congrArg (fun params => params[0].attr) failed.2
  revert changed
  decide +kernel

end MuRockchip.Optee
