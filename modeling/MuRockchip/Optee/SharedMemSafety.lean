/-
Safety of the shared-memory allocator.

The invariant relates the pointers handed out to the ranges the pool holds for
them and to the headers in memory: a live pointer sits one page above the base
of its block, the block has room for header, buffer and slack, and the header
below the pointer still describes the block unless a refused free fenced it.

* `step_keeps`: one call keeps the invariant, when its block size does not wrap.
* `run_safe`: over any run of such calls every live pointer is aligned, its
  header and buffer lie in the block the call obtained, and live blocks are
  pairwise disjoint.
-/
import Mathlib.Tactic.NormNum
import MuRockchip.Optee.SharedMem

namespace MuRockchip.Optee

open MuRockchip.Base

variable {region : SharedRegion}

/-! ### What the component promises -/

/-- The pointer is aligned as asked, and its header and buffer lie inside the
range the call obtained. -/
structure Grant.WellPlaced (grant : Grant) : Prop where
  aligned : grant.alignment = 0 ∨ grant.alignment.toNat ∣ grant.pointer.toNat
  headerBelow : memHeaderSize.toNat ≤ grant.pointer.toNat
  headerInside : grant.header.Within grant.block
  bufferInside : grant.buffer.Within grant.block

/-- Neither client can reach the other's buffer or header through its own buffer. -/
def Grant.ClientsApart (left right : Grant) : Prop :=
  left.buffer.Disjoint right.buffer ∧ left.buffer.Disjoint right.header ∧
    left.header.Disjoint right.buffer

/-- Allocator safety of the pointers handed out and not yet freed. -/
structure ClientState.Safe (state : ClientState region) : Prop where
  placed : ∀ grant ∈ state.live, grant.WellPlaced
  apart : state.live.Pairwise fun left right => left.block.Disjoint right.block
  clientsApart : state.live.Pairwise Grant.ClientsApart

/-- The block size computed by `InternalMemAlloc` is the exact sum. -/
def FitsWord (size : UInt64) : Prop :=
  memHeaderSize.toNat + size.toNat + (shmAllocAlign.toNat - 1) < 2 ^ 64

instance (size : UInt64) : Decidable (FitsWord size) := inferInstanceAs (Decidable (_ < _))

/-- The request gets a block: its alignment is accepted, the services hand out a
range, and the range still carries the fence. -/
def Served (shared : SharedMem region) (size byteAlignment : UInt64) (answer : Option Nat) : Prop :=
  alignmentAccepted byteAlignment = true ∧
    ∃ block pool, shared.pool.allocate shmAllocAlign.toNat (memBlockSize size).toNat answer =
        some (block, pool) ∧
      isSharedMemoryRegionFree shared.memory (UInt64.ofNat block.base) (memBlockSize size) = true

/-- The condition on one call. A request that is served must have a block size
that does not wrap. Clients keep their side of the contract: what is freed was
handed out, or carries no signature and is turned away; what is stored goes to a
client's own buffer, or to memory nobody holds. -/
structure Admitted (state : ClientState region) (call : Call) : Prop where
  fits : ∀ size byteAlignment answer, call.requested = some (size, byteAlignment, answer) →
    FitsWord size ∨ ¬ Served state.shared size byteAlignment answer
  freesOwn : ∀ mem, call.freed = some mem →
    (∃ grant ∈ state.live, grant.pointer = mem) ∨
      (MemHeader.load state.shared.memory (mem - memHeaderSize)).signature ≠ shmSignature
  storesOwn : ∀ address bytes, call = .store address bytes →
    address.toNat + bytes.length ≤ 2 ^ 64 ∧
      ((∃ grant ∈ state.live, Interval.Within ⟨address.toNat, bytes.length⟩ grant.buffer) ∨
        ∀ range ∈ state.shared.pool.held, Interval.Disjoint ⟨address.toNat, bytes.length⟩ range)

/-! ### Headers in memory -/

theorem MemHeader.bytes_length (header : MemHeader) : header.bytes.length = 32 := by
  simp [MemHeader.bytes]

theorem MemHeader.load_of_bytes {memory : Memory} {at_ : UInt64} {header : MemHeader}
    (stored : memory.read at_ 32 = header.bytes) : MemHeader.load memory at_ = header := by
  have slice (offset width : Nat) (inside : offset + width ≤ 32) :
      memory.read (at_ + UInt64.ofNat offset) width = (header.bytes.drop offset).take width := by
    rw [← stored]
    exact Memory.read_slice memory at_ inside
  have signature := slice 0 4 (by omega)
  have owner := slice 8 8 (by omega)
  have size := slice 16 8 (by omega)
  have address := slice 24 8 (by omega)
  rw [show at_ + UInt64.ofNat 0 = at_ from UInt64.add_zero at_] at signature
  have first : (header.bytes.drop 0).take 4 = leBytes 4 header.signature.toNat := rfl
  have second : (header.bytes.drop 8).take 8 = leBytes 8 header.owner.toNat := rfl
  have third : (header.bytes.drop 16).take 8 = leBytes 8 header.size.toNat := rfl
  have fourth : (header.bytes.drop 24).take 8 = leBytes 8 header.address.toNat := rfl
  rw [MemHeader.load, signature, owner, size, address, first, second, third, fourth,
    leValue_leBytes_of_lt header.signature.toNat_lt, leValue_leBytes_of_lt header.owner.toNat_lt,
    leValue_leBytes_of_lt header.size.toNat_lt, leValue_leBytes_of_lt header.address.toNat_lt]
  simp

theorem MemHeader.load_of_fence {memory : Memory} {at_ : UInt64}
    (fenced : memory.read at_ 32 = List.replicate 32 shmFreeFence) :
    (MemHeader.load memory at_).signature ≠ shmSignature := by
  have slice := Memory.read_slice memory at_ (show 0 + 4 ≤ 32 by omega)
  rw [fenced, show at_ + UInt64.ofNat 0 = at_ from UInt64.add_zero at_] at slice
  have value : leValue ((List.replicate 32 shmFreeFence).drop 0 |>.take 4) = 0xCCCCCCCC := by decide
  simp only [MemHeader.load, slice, value]
  decide

/-! ### One allocation -/

theorem alignmentAccepted_dvd {alignment : UInt64} (accepted : alignmentAccepted alignment = true) :
    alignment = 0 ∨ alignment.toNat ∣ 4096 := by
  simp only [alignmentAccepted, Bool.not_or, Bool.and_eq_true, Bool.not_eq_true',
    Bool.and_eq_false_iff, bne_eq_false_iff_eq, Bool.not_eq_false',
    decide_eq_false_iff_not] at accepted
  obtain ⟨zero | power, bounded⟩ := accepted
  · exact Or.inl zero
  · have upper : alignment.toNat ≤ 2 ^ 12 := UInt64.le_iff_toNat_le.mp (UInt64.not_lt.mp bounded)
    exact Or.inr (isPowerOf2_dvd power upper)

variable {size byteAlignment mem : UInt64} {answer : Option Nat} {pool : Pool region.interval}
  {shared : SharedMem region} {state : ClientState region} {grant : Grant}

/-- Without wrap-around the block has room for header, buffer and slack. -/
theorem memBlockSize_toNat (fits : FitsWord size) :
    (memBlockSize size).toNat = size.toNat + 4127 := by
  simp only [FitsWord, memHeaderSize, shmAllocAlign, UInt64.reduceToNat] at fits
  simp only [memBlockSize, memHeaderSize, shmAllocAlign, UInt64.toNat_add, UInt64.reduceSub,
    UInt64.reduceToNat]
  omega

/-- With wrap-around the block is shorter than the buffer it is meant for. -/
theorem memBlockSize_lt_of_wrap (wraps : ¬ FitsWord size) :
    (memBlockSize size).toNat < size.toNat := by
  have bound := size.toNat_lt
  simp only [FitsWord, memHeaderSize, shmAllocAlign, UInt64.reduceToNat] at wraps
  simp only [memBlockSize, memHeaderSize, shmAllocAlign, UInt64.toNat_add, UInt64.reduceSub,
    UInt64.reduceToNat]
  omega

theorem userBaseAddress_toNat {base : Nat} (aligned : 4096 ∣ base) (room : base + 4127 < 2 ^ 64) :
    (userBaseAddress (UInt64.ofNat base)).toNat = base + 4096 := by
  have sum : (UInt64.ofNat base + memHeaderSize + (shmAllocAlign - 1)).toNat = base + 4127 := by
    simp only [memHeaderSize, shmAllocAlign, UInt64.toNat_add, UInt64.reduceSub,
      UInt64.reduceToNat, UInt64.toNat_ofNat']
    omega
  rw [userBaseAddress, alignDown_toNat 12 (by omega) rfl, sum]
  omega

theorem within_region {range : Interval} (inside : range.Within region.interval) :
    range.base + range.length < 2 ^ 64 := by
  have top := inside.2
  have bound := region.finish.toNat_lt
  have ordered := UInt64.le_iff_toNat_le.mp region.ordered
  simp only [Interval.finish, SharedRegion.interval] at top
  omega

/-- What an allocation can do: nothing, keep a range whose fence is broken, or
serve the request. -/
theorem internalMemAlloc_cases (state : SharedMem region) (size byteAlignment : UInt64)
    (answer : Option Nat) :
    internalMemAlloc state size byteAlignment answer = (⟨0, none⟩, state) ∨
    (∃ block pool, state.pool.allocate shmAllocAlign.toNat (memBlockSize size).toNat answer =
        some (block, pool) ∧
      isSharedMemoryRegionFree state.memory (UInt64.ofNat block.base) (memBlockSize size) = false ∧
      internalMemAlloc state size byteAlignment answer =
        (⟨0, some block⟩, { state with pool := pool })) ∨
    (Served state size byteAlignment answer ∧
      ∃ block pool, state.pool.allocate shmAllocAlign.toNat (memBlockSize size).toNat answer =
        some (block, pool) ∧
      internalMemAlloc state size byteAlignment answer =
        (⟨userBaseAddress (UInt64.ofNat block.base), some block⟩,
          { memory := state.memory.write
              (userBaseAddress (UInt64.ofNat block.base) - memHeaderSize)
              (MemHeader.bytes ⟨shmSignature, 0, memBlockSize size, UInt64.ofNat block.base⟩)
            pool := pool
            allocationCount := state.allocationCount + 1
            allocSize := state.allocSize + memBlockSize size })) := by
  unfold internalMemAlloc
  by_cases accepted : alignmentAccepted byteAlignment = true
  · cases obtained : state.pool.allocate shmAllocAlign.toNat (memBlockSize size).toNat answer with
    | none => exact Or.inl (by simp [accepted])
    | some result =>
      obtain ⟨block, pool⟩ := result
      by_cases fenced : isSharedMemoryRegionFree state.memory (UInt64.ofNat block.base)
          (memBlockSize size) = true
      · refine Or.inr (Or.inr ⟨⟨accepted, block, pool, obtained, fenced⟩, block, pool, rfl, ?_⟩)
        simp [accepted, fenced]
      · exact Or.inr (Or.inl ⟨block, pool, rfl, Bool.eq_false_iff.mpr fenced,
          by simp [accepted, fenced]⟩)
  · exact Or.inl (by simp [accepted])

/-- The shape of a grant made without wrap-around: the block starts on a page,
the pointer is one page above, and everything fits in between. -/
structure Grant.Carved (grant : Grant) : Prop where
  accepted : alignmentAccepted grant.alignment = true
  baseAligned : 4096 ∣ grant.block.base
  pointerAt : grant.pointer.toNat = grant.block.base + 4096
  blockLength : grant.block.length = grant.size.toNat + 4127

namespace Grant.Carved

variable {grant other : Grant}

theorem headerInside (carved : grant.Carved) : grant.header.Within grant.block := by
  have pointerAt := carved.pointerAt
  have blockLength := carved.blockLength
  simp only [Interval.Within, Interval.finish, Grant.header, memHeaderSize, UInt64.reduceToNat]
  omega

theorem bufferInside (carved : grant.Carved) : grant.buffer.Within grant.block := by
  have pointerAt := carved.pointerAt
  have blockLength := carved.blockLength
  simp only [Interval.Within, Interval.finish, Grant.buffer]
  omega

theorem wellPlaced (carved : grant.Carved) : grant.WellPlaced where
  aligned := by
    rcases alignmentAccepted_dvd carved.accepted with zero | divides
    · exact Or.inl zero
    · refine Or.inr (divides.trans ?_)
      rw [carved.pointerAt]
      exact Nat.dvd_add carved.baseAligned (Nat.dvd_refl 4096)
  headerBelow := by
    rw [carved.pointerAt]
    simp only [memHeaderSize, UInt64.reduceToNat]
    omega
  headerInside := carved.headerInside
  bufferInside := carved.bufferInside

theorem clientsApart (left : grant.Carved) (right : other.Carved)
    (apart : grant.block.Disjoint other.block) : grant.ClientsApart other :=
  ⟨apart.mono left.bufferInside right.bufferInside,
    apart.mono left.bufferInside right.headerInside,
    apart.mono left.headerInside right.bufferInside⟩

theorem header_toNat (carved : grant.Carved) :
    (grant.pointer - memHeaderSize).toNat = grant.block.base + 4064 := by
  have pointerAt := carved.pointerAt
  have bound := grant.pointer.toNat_lt
  simp only [UInt64.toNat_sub, memHeaderSize, UInt64.reduceToNat]
  omega

end Grant.Carved

/-! ### The invariant -/

/-- The header a live grant was given. -/
def Grant.headerOf (grant : Grant) : MemHeader :=
  ⟨shmSignature, 0, UInt64.ofNat grant.block.length, UInt64.ofNat grant.block.base⟩

/-- Below a live pointer memory holds its header, or the fence that a refused
free left behind. -/
def HeaderKept (memory : Memory) (grant : Grant) : Prop :=
  memory.read (grant.pointer - memHeaderSize) 32 = grant.headerOf.bytes ∨
    memory.read (grant.pointer - memHeaderSize) 32 = List.replicate 32 shmFreeFence

structure Invariant (state : ClientState region) : Prop where
  carved : ∀ grant ∈ state.live, grant.Carved
  held : ∀ grant ∈ state.live, grant.block ∈ state.shared.pool.held
  apart : state.live.Pairwise fun left right => left.block.Disjoint right.block
  headers : ∀ grant ∈ state.live, HeaderKept state.shared.memory grant

namespace Invariant

variable {state : ClientState region}

theorem safe (inv : Invariant state) : state.Safe where
  placed := fun grant member => (inv.carved grant member).wellPlaced
  apart := inv.apart
  clientsApart := inv.apart.imp_of_mem fun left right apart =>
    (inv.carved _ left).clientsApart (inv.carved _ right) apart

theorem block_apart (inv : Invariant state) {left right : Grant} (inLeft : left ∈ state.live)
    (inRight : right ∈ state.live) (different : left ≠ right) :
    left.block.Disjoint right.block := by
  have symmetric : Std.Symm fun left right : Grant => left.block.Disjoint right.block :=
    ⟨fun _ _ => Interval.Disjoint.symm⟩
  exact inv.apart.forall inLeft inRight different

/-- The block of a live grant lies below `2 ^ 64`. -/
theorem block_bound (inv : Invariant state) {grant : Grant} (member : grant ∈ state.live) :
    grant.block.base + grant.block.length < 2 ^ 64 :=
  within_region (state.shared.pool.inside _ (inv.held grant member))

theorem header_within (inv : Invariant state) {grant : Grant} (member : grant ∈ state.live) :
    Interval.Within ⟨(grant.pointer - memHeaderSize).toNat, 32⟩ grant.block := by
  have carved := inv.carved grant member
  have blockLength := carved.blockLength
  simp only [Interval.Within, Interval.finish, carved.header_toNat]
  omega

theorem headers_write (inv : Invariant state) {address : UInt64} {bytes : List UInt8}
    (fits : address.toNat + bytes.length ≤ 2 ^ 64)
    (misses : ∀ grant ∈ state.live, Interval.Disjoint ⟨address.toNat, bytes.length⟩ grant.block ∨
      Interval.Within ⟨address.toNat, bytes.length⟩ grant.buffer) :
    ∀ grant ∈ state.live, HeaderKept (state.shared.memory.write address bytes) grant := by
  intro grant member
  have within := inv.header_within member
  have bound := inv.block_bound member
  have unchanged : (state.shared.memory.write address bytes).read
      (grant.pointer - memHeaderSize) 32 =
        state.shared.memory.read (grant.pointer - memHeaderSize) 32 := by
    apply Memory.read_write_apart _ _ fits
    · rcases misses grant member with outside | inBuffer
      · exact (outside.mono ⟨le_rfl, le_rfl⟩ within).symm
      · have carved := inv.carved grant member
        have pointerAt := carved.pointerAt
        have header := carved.header_toNat
        have lower := inBuffer.1
        simp only [Grant.buffer] at lower
        refine Or.inl ?_
        simp only [Interval.finish]
        omega
    · have top := within.2
      simp only [Interval.finish] at top
      omega
  rw [HeaderKept, unchanged]
  exact inv.headers grant member

theorem headers_fence (inv : Invariant state) {freed : Grant} (member : freed ∈ state.live)
    {address size : UInt64} (start : address.toNat = freed.block.base)
    (extent : size.toNat = freed.block.length) :
    ∀ grant ∈ state.live,
      HeaderKept (markSharedMemoryRegionAsFree state.shared.memory address size) grant := by
  intro grant other
  have within := inv.header_within other
  have block : (⟨address.toNat, size.toNat⟩ : Interval) = freed.block := by
    rw [start, extent]
  by_cases same : grant = freed
  · subst same
    refine Or.inr (Memory.read_fill_inside _ ?_)
    rw [block]
    exact within
  · have apart := inv.block_apart other member same
    have unchanged : (markSharedMemoryRegionAsFree state.shared.memory address size).read
        (grant.pointer - memHeaderSize) 32 =
          state.shared.memory.read (grant.pointer - memHeaderSize) 32 := by
      have bound := inv.block_bound other
      have freedBound := inv.block_bound member
      apply Memory.read_fill_apart
      · have top := within.2
        simp only [Interval.finish] at top
        omega
      · omega
      · rw [block]
        exact apart.mono within ⟨le_rfl, le_rfl⟩
    rw [HeaderKept, unchanged]
    exact inv.headers grant other

end Invariant

/-! ### Each call keeps the invariant -/

/-- The grant recorded for a request served from `block`. -/
def grantFrom (size byteAlignment : UInt64) (block : Interval) : Grant :=
  ⟨userBaseAddress (UInt64.ofNat block.base), size, byteAlignment, block⟩

/-- A request served without wrap-around is carved as the layout says. -/
theorem carved_of_served {block : Interval} (accepted : alignmentAccepted byteAlignment = true)
    (fits : FitsWord size)
    (obtained : shared.pool.allocate shmAllocAlign.toNat (memBlockSize size).toNat answer =
      some (block, pool)) : (grantFrom size byteAlignment block).Carved := by
  obtain ⟨grantable, length, -⟩ := Pool.allocate_spec obtained
  rw [memBlockSize_toNat fits] at length
  have bound := within_region grantable.2.1
  exact ⟨accepted, grantable.1, userBaseAddress_toNat grantable.1 (by omega), length⟩

theorem Invariant.keeps_alloc (inv : Invariant state)
    (fits : FitsWord size ∨ ¬ Served state.shared size byteAlignment answer) :
    Invariant (⟨(internalMemAlloc state.shared size byteAlignment answer).2,
      recordGrant state.live size byteAlignment
        (internalMemAlloc state.shared size byteAlignment answer).1⟩ : ClientState region) := by
  rcases internalMemAlloc_cases state.shared size byteAlignment answer with
    refused | ⟨block, pool, obtained, -, kept⟩ | ⟨served, block, pool, obtained, result⟩
  · rw [refused]
    exact inv
  · rw [kept]
    obtain ⟨-, -, grown⟩ := Pool.allocate_spec obtained
    refine ⟨inv.carved, fun grant member => ?_, inv.apart, inv.headers⟩
    simp only [grown]
    exact List.mem_cons_of_mem _ (inv.held grant member)
  · have fitsWord := fits.resolve_right (not_not_intro served)
    obtain ⟨grantable, length, grown⟩ := Pool.allocate_spec obtained
    have carved := carved_of_served served.1 fitsWord obtained
    have bound := within_region grantable.2.1
    have pointerAt := carved.pointerAt
    have header := carved.header_toNat
    have blockLength := carved.blockLength
    simp only [grantFrom] at pointerAt header blockLength
    have nonNull : userBaseAddress (UInt64.ofNat block.base) ≠ 0 := by
      intro null
      rw [null] at pointerAt
      simp at pointerAt
    have recorded : recordGrant state.live size byteAlignment
        ⟨userBaseAddress (UInt64.ofNat block.base), some block⟩ =
          grantFrom size byteAlignment block :: state.live := by
      simp [recordGrant, nonNull, grantFrom]
    have sizeField : memBlockSize size = UInt64.ofNat block.length := by
      rw [length, UInt64.ofNat_toNat]
    have apart : ∀ grant ∈ state.live, block.Disjoint grant.block :=
      fun grant member => grantable.2.2 _ (inv.held grant member)
    rw [result]
    simp only [recorded]
    refine ⟨?_, ?_, List.pairwise_cons.mpr ⟨apart, inv.apart⟩, ?_⟩
    · exact List.forall_mem_cons.mpr ⟨carved, inv.carved⟩
    · simp only [grown]
      exact List.forall_mem_cons.mpr
        ⟨List.mem_cons_self, fun grant member => List.mem_cons_of_mem _ (inv.held grant member)⟩
    · refine List.forall_mem_cons.mpr ⟨Or.inl ?_, ?_⟩
      · simp only [sizeField, Grant.headerOf, grantFrom]
        have stored := Memory.read_write_same state.shared.memory
          (userBaseAddress (UInt64.ofNat block.base) - memHeaderSize)
          (MemHeader.bytes ⟨shmSignature, 0, UInt64.ofNat block.length,
            UInt64.ofNat block.base⟩) (by rw [MemHeader.bytes_length]; omega)
        rw [MemHeader.bytes_length] at stored
        exact stored
      · refine inv.headers_write (by rw [MemHeader.bytes_length]; omega) fun grant member => ?_
        refine Or.inl ((apart grant member).mono ?_ ⟨le_rfl, le_rfl⟩)
        simp only [MemHeader.bytes_length, Interval.Within, Interval.finish]
        omega

/-- Freeing the pointer of a held block whose header is in place: the block is
fenced, and released unless the services refuse. -/
theorem opteeClientMemFree_stored (held : grant.block ∈ shared.pool.held)
    (stored : shared.memory.read (grant.pointer - memHeaderSize) 32 = grant.headerOf.bytes)
    (answer : EfiStatus) :
    ∃ address size : UInt64, address.toNat = grant.block.base ∧ size.toNat = grant.block.length ∧
      opteeClientMemFree shared grant.pointer answer =
        if answer.isError then
          (answer, { shared with
            memory := markSharedMemoryRegionAsFree shared.memory address size })
        else
          (EfiStatus.success,
            { memory := markSharedMemoryRegionAsFree shared.memory address size
              pool := shared.pool.release grant.block
              allocationCount := shared.allocationCount - 1
              allocSize := shared.allocSize - size }) := by
  have loaded := MemHeader.load_of_bytes stored
  have bound := within_region (shared.pool.inside _ held)
  have address : (UInt64.ofNat grant.block.base).toNat = grant.block.base := by
    rw [UInt64.toNat_ofNat']
    omega
  have size : (UInt64.ofNat grant.block.length).toNat = grant.block.length := by
    rw [UInt64.toNat_ofNat']
    omega
  refine ⟨UInt64.ofNat grant.block.base, UInt64.ofNat grant.block.length, address, size, ?_⟩
  simp only [opteeClientMemFree, loaded, Grant.headerOf, freeMemorySpace, address, size, held,
    ne_eq, not_true_eq_false, if_false, if_true]
  by_cases failed : answer.isError = true
  · simp [failed]
  · simp [failed]

/-- Below a pointer without a signature nothing is freed. -/
theorem opteeClientMemFree_unsigned
    (unsigned : (MemHeader.load shared.memory (mem - memHeaderSize)).signature ≠ shmSignature)
    (answer : EfiStatus) :
    opteeClientMemFree shared mem answer = (EfiStatus.invalidParameter, shared) := by
  simp [opteeClientMemFree, unsigned]

/-- What a free can do to a pointer handed out: turn it away, fence its block and
keep it held, or fence and release it. -/
theorem opteeClientMemFree_live (inv : Invariant state) (member : grant ∈ state.live)
    (answer : EfiStatus) :
    (opteeClientMemFree state.shared grant.pointer answer =
        (EfiStatus.invalidParameter, state.shared)) ∨
    ∃ address size : UInt64, address.toNat = grant.block.base ∧ size.toNat = grant.block.length ∧
      ((∃ status : EfiStatus, status.isError = true ∧
          opteeClientMemFree state.shared grant.pointer answer =
            (status, { state.shared with
              memory := markSharedMemoryRegionAsFree state.shared.memory address size })) ∨
        opteeClientMemFree state.shared grant.pointer answer =
          (EfiStatus.success,
            { memory := markSharedMemoryRegionAsFree state.shared.memory address size
              pool := state.shared.pool.release grant.block
              allocationCount := state.shared.allocationCount - 1
              allocSize := state.shared.allocSize - size })) := by
  rcases inv.headers grant member with stored | fenced
  · obtain ⟨address, size, start, extent, result⟩ :=
      opteeClientMemFree_stored (inv.held grant member) stored answer
    refine Or.inr ⟨address, size, start, extent, ?_⟩
    rw [result]
    by_cases failed : answer.isError = true
    · exact Or.inl ⟨answer, failed, if_pos failed⟩
    · exact Or.inr (if_neg failed)
  · exact Or.inl (opteeClientMemFree_unsigned (MemHeader.load_of_fence fenced) answer)

theorem mem_recordFree {live : List Grant} {freed : Bool}
    (member : grant ∈ recordFree live mem freed) :
    grant ∈ live ∧ (freed = true → grant.pointer ≠ mem) := by
  unfold recordFree at member
  split at member
  · have found := List.mem_filter.mp member
    exact ⟨found.1, fun _ => by simpa using found.2⟩
  · next kept => exact ⟨member, fun success => absurd success kept⟩

theorem recordFree_sublist (live : List Grant) (mem : UInt64) (freed : Bool) :
    (recordFree live mem freed).Sublist live := by
  unfold recordFree
  split
  · exact List.filter_sublist
  · exact List.Sublist.refl live

theorem Invariant.keeps_free (inv : Invariant state) (answer : EfiStatus)
    (own : (∃ grant ∈ state.live, grant.pointer = mem) ∨
      (MemHeader.load state.shared.memory (mem - memHeaderSize)).signature ≠ shmSignature) :
    Invariant (⟨(opteeClientMemFree state.shared mem answer).2,
      recordFree state.live mem (!(opteeClientMemFree state.shared mem answer).1.isError)⟩ :
        ClientState region) := by
  have unchanged (rejected : opteeClientMemFree state.shared mem answer =
      (EfiStatus.invalidParameter, state.shared)) :
      Invariant (⟨(opteeClientMemFree state.shared mem answer).2,
        recordFree state.live mem (!(opteeClientMemFree state.shared mem answer).1.isError)⟩ :
          ClientState region) := by
    rw [rejected]
    exact inv
  rcases own with ⟨freed, member, rfl⟩ | unsigned
  · rcases opteeClientMemFree_live inv member answer with
      rejected | ⟨address, size, start, extent, ⟨status, failed, result⟩ | result⟩
    · exact unchanged rejected
    · rw [result]
      have kept : recordFree state.live freed.pointer (!status.isError) = state.live := by
        simp [recordFree, failed]
      simp only [kept]
      exact ⟨inv.carved, inv.held, inv.apart, inv.headers_fence member start extent⟩
    · rw [result]
      have forget : ∀ grant ∈ recordFree state.live freed.pointer true,
          grant ∈ state.live ∧ grant.pointer ≠ freed.pointer :=
        fun grant other => (mem_recordFree other).imp_right fun pointers => pointers rfl
      refine ⟨fun grant other => inv.carved grant (forget grant other).1, ?_,
        inv.apart.sublist (recordFree_sublist state.live freed.pointer true),
        fun grant other => inv.headers_fence member start extent grant (forget grant other).1⟩
      intro grant other
      obtain ⟨old, pointers⟩ := forget grant other
      have different : grant ≠ freed := fun same => pointers (congrArg Grant.pointer same)
      have positive : 0 < grant.block.length := by
        rw [(inv.carved grant old).blockLength]
        omega
      exact Pool.mem_release (inv.held grant old)
        ((inv.block_apart old member different).ne_of_pos positive)
  · exact unchanged (opteeClientMemFree_unsigned unsigned answer)

theorem Invariant.keeps_store (inv : Invariant state) {address : UInt64} {bytes : List UInt8}
    (fits : address.toNat + bytes.length ≤ 2 ^ 64)
    (own : (∃ grant ∈ state.live, Interval.Within ⟨address.toNat, bytes.length⟩ grant.buffer) ∨
      ∀ range ∈ state.shared.pool.held, Interval.Disjoint ⟨address.toNat, bytes.length⟩ range) :
    Invariant (⟨{ state.shared with memory := state.shared.memory.write address bytes },
      state.live⟩ : ClientState region) := by
  refine ⟨inv.carved, inv.held, inv.apart, inv.headers_write fits fun grant member => ?_⟩
  rcases own with ⟨owner, owned, inBuffer⟩ | free
  · by_cases same : grant = owner
    · exact Or.inr (same ▸ inBuffer)
    · exact Or.inl ((inv.block_apart owned member (Ne.symm same)).mono
        (inBuffer.trans (inv.carved owner owned).bufferInside) ⟨le_rfl, le_rfl⟩)
  · exact Or.inl (free _ (inv.held grant member))

/-- A secure-world allocation of a nonzero size is a plain allocation whose
answer is passed on in registers. -/
theorem opteeRpcAlloc_nonzero (shared : SharedMem region) (args : ArmSmcArgs) (answer : Option Nat)
    (nonzero : args.arg1 ≠ 0) :
    (opteeRpcAlloc shared args answer).2.2 =
      opteeClientMemAlloc shared args.arg1 answer := by
  simp only [opteeRpcAlloc, if_pos nonzero]
  split <;> rfl

theorem opteeRpcFree_spec (shared : SharedMem region) (args : ArmSmcArgs) (answer : EfiStatus) :
    let freed := opteeClientMemFree shared ((args.arg1 <<< 32) ||| low32 args.arg2) answer
    (opteeRpcFree shared args answer).2 = freed.2 ∧
      ((opteeRpcFree shared args answer).1 == TeecResult.success) = !freed.1.isError := by
  simp only [opteeRpcFree]
  split
  · next failed => exact ⟨rfl, by rw [failed]; rfl⟩
  · next fine => exact ⟨rfl, by simp [fine]⟩

theorem step_keeps (state : ClientState region) (call : Call) (inv : Invariant state)
    (admitted : Admitted state call) : Invariant (step state call) := by
  cases call with
  | alloc | alignedAlloc => exact inv.keeps_alloc (admitted.fits _ _ _ rfl)
  | rpcAlloc args answer =>
    by_cases nonzero : args.arg1 ≠ 0
    · simp only [step, opteeRpcAlloc_nonzero state.shared args answer nonzero]
      exact inv.keeps_alloc (admitted.fits _ _ answer (if_pos nonzero))
    · simpa [step, opteeRpcAlloc, not_not.mp nonzero, recordGrant] using inv
  | free mem answer => exact inv.keeps_free answer (admitted.freesOwn _ rfl)
  | rpcFree args answer =>
    obtain ⟨after, succeeded⟩ := opteeRpcFree_spec state.shared args answer
    have kept := inv.keeps_free answer (admitted.freesOwn _ rfl)
    simpa only [step, after, succeeded] using kept
  | store address bytes =>
    obtain ⟨fits, own⟩ := admitted.storesOwn _ _ rfl
    exact inv.keeps_store fits own

theorem initial_invariant (region : SharedRegion) (memory : Memory) :
    Invariant (initial region memory) :=
  ⟨by simp [initial], by simp [initial], List.Pairwise.nil, by simp [initial]⟩

theorem step_records {call : Call} (requested : call.requested = some (size, byteAlignment, answer))
    (returned : (internalMemAlloc state.shared size byteAlignment answer).1.pointer ≠ 0) :
    ∃ grant ∈ (step state call).live,
      grant.pointer = (internalMemAlloc state.shared size byteAlignment answer).1.pointer ∧
        grant.size = size ∧ grant.alignment = byteAlignment := by
  have live : (step state call).live = recordGrant state.live size byteAlignment
      (internalMemAlloc state.shared size byteAlignment answer).1 := by
    cases call with
    | alloc => cases requested; rfl
    | alignedAlloc => cases requested; rfl
    | rpcAlloc args =>
      by_cases nonzero : args.arg1 ≠ 0
      · rw [Call.requested, if_pos nonzero] at requested
        cases requested
        simp only [step, opteeRpcAlloc_nonzero state.shared args answer nonzero]
        rfl
      · simp [Call.requested, nonzero] at requested
    | free => cases requested
    | rpcFree => cases requested
    | store => cases requested
  rw [live]
  rcases internalMemAlloc_cases state.shared size byteAlignment answer with
    refused | ⟨block, pool, -, -, kept⟩ | ⟨-, block, pool, -, result⟩
  · simp [refused] at returned
  · simp [kept] at returned
  · rw [result] at returned ⊢
    refine ⟨grantFrom size byteAlignment block, ?_, rfl, rfl, rfl⟩
    simp only [recordGrant, if_pos returned, grantFrom, List.mem_cons_self]

/-- Over any run of admitted calls, in every state reached, the pointers handed
out and not yet freed are safe, and every pointer an allocation returns is among
them with the size and alignment it was asked for. -/
theorem run_safe (region : SharedRegion) (memory : Memory) (calls : List Call)
    (admitted : AllSteps step Admitted (initial region memory) calls) (count : Nat) :
    let reached := run step (initial region memory) (calls.take count)
    reached.Safe ∧
      ∀ call size byteAlignment answer, calls[count]? = some call →
        call.requested = some (size, byteAlignment, answer) →
        (internalMemAlloc reached.shared size byteAlignment answer).1.pointer ≠ 0 →
        ∃ grant ∈ (run step (initial region memory) (calls.take (count + 1))).live,
          grant.pointer = (internalMemAlloc reached.shared size byteAlignment answer).1.pointer ∧
            grant.size = size ∧ grant.alignment = byteAlignment := by
  refine ⟨(run_invariant_throughout step_keeps (initial_invariant region memory)
    admitted count).safe, ?_⟩
  intro call size byteAlignment answer next requested returned
  rw [List.take_add_one, next, run_append]
  exact step_records requested returned

/-- A client allocates, writes its buffer and frees it. -/
theorem run_safe_one_client :
    (run step (initial ⟨0x10001000, 0x10400000, by decide⟩ fun _ => shmFreeFence)
      [.alloc 100 (some 0x103FD000), .store 0x103FE000 [1, 2, 3],
        .free 0x103FE000 EfiStatus.success]).Safe := by
  have first : (⟨0x103FE000, 100, 16, ⟨0x103FD000, 4227⟩⟩ : Grant) ∈
      (step (initial ⟨0x10001000, 0x10400000, by decide⟩ fun _ => shmFreeFence)
        (.alloc 100 (some 0x103FD000))).live := by
    decide +kernel
  have second : (⟨0x103FE000, 100, 16, ⟨0x103FD000, 4227⟩⟩ : Grant) ∈
      (step (step (initial ⟨0x10001000, 0x10400000, by decide⟩ fun _ => shmFreeFence)
        (.alloc 100 (some 0x103FD000))) (.store 0x103FE000 [1, 2, 3])).live := by
    decide +kernel
  refine (run_safe ⟨0x10001000, 0x10400000, by decide⟩ (fun _ => shmFreeFence)
    [.alloc 100 (some 0x103FD000), .store 0x103FE000 [1, 2, 3],
      .free 0x103FE000 EfiStatus.success] ⟨?_, ?_, ?_, trivial⟩ 3).1
  · exact ⟨by rintro _ _ _ ⟨⟩; exact Or.inl (by decide), by simp [Call.freed], by simp⟩
  · refine ⟨by simp [Call.requested], by simp [Call.freed], ?_⟩
    intro address bytes stored
    obtain ⟨rfl, rfl⟩ := Call.store.injEq .. ▸ stored
    exact ⟨by decide, Or.inl ⟨_, first, by decide⟩⟩
  · refine ⟨by simp [Call.requested], ?_, by simp⟩
    intro mem freed
    rw [Call.freed, Option.some.injEq] at freed
    exact Or.inl ⟨_, second, freed⟩

/-! ### Where the arithmetic wraps -/

/-- A secure-world request for 4126 bytes less than the whole address space gets
a block of one byte, and a pointer a page above it. -/
theorem rpc_wrapped_request_unsafe :
    ¬ (run step (initial ⟨0x10001000, 0x10400000, by decide⟩ fun _ => shmFreeFence)
        [.rpcAlloc ⟨0, 0xFFFFFFFFFFFFEFE2, 0, 0, 0, 0, 0, 0⟩ (some 0x10001000)]).Safe := by
  intro safe
  have served : (⟨0x10002000, 0xFFFFFFFFFFFFEFE2, 16, ⟨0x10001000, 1⟩⟩ : Grant) ∈
      (run step (initial ⟨0x10001000, 0x10400000, by decide⟩ fun _ => shmFreeFence)
        [.rpcAlloc ⟨0, 0xFFFFFFFFFFFFEFE2, 0, 0, 0, 0, 0, 0⟩ (some 0x10001000)]).live := by
    decide
  have outside := (safe.placed _ served).bufferInside
  revert outside
  decide

end MuRockchip.Optee
