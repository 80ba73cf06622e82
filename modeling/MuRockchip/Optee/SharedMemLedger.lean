/-
Leak accounting of the shared-memory allocator.

The two counters `OpteeClientApiFinalize` looks at are compared with the ranges
held from the memory-space services. Next to the pointers handed out, a run keeps
the pointers freed since the last one was handed out: freeing one of those again
must be turned away.

* `ledgerStep_keeps`: a call that meets `Accounted` keeps the counters equal to
  the number and the total length of the ranges held.
* `run_accounted`: in every state of a run of such calls the books balance, and
  the next call settles as the component promises.
-/
import MuRockchip.Optee.SharedMemSafety

namespace MuRockchip.Optee

open MuRockchip.Base

variable {region : SharedRegion}

/-! ### The ledger -/

/-- `OpteeClientApiFinalize`: whether it reports a leak. -/
def opteeClientApiFinalize (state : SharedMem region) : Bool :=
  state.allocationCount != 0 || state.allocSize != 0

/-- The clients' state and the pointers freed since the last non-null allocation. -/
structure LedgerState (region : SharedRegion) where
  client : ClientState region
  retired : List UInt64

/-- The pointer a free is about and what the memory-space services report to it. -/
def Call.freeing : Call → Option (UInt64 × EfiStatus)
  | .free mem answer => some (mem, answer)
  | .rpcFree args answer => some ((args.arg1 <<< 32) ||| low32 args.arg2, answer)
  | _ => none

/-- The pointers freed since the last non-null allocation, after one more call. -/
def retire (state : LedgerState region) (call : Call) : List UInt64 :=
  match call.requested, call.freeing with
  | some (size, byteAlignment, answer), _ =>
    if (internalMemAlloc state.client.shared size byteAlignment answer).1.pointer = 0 then
      state.retired
    else []
  | none, some (mem, answer) =>
    if (opteeClientMemFree state.client.shared mem answer).1.isError then state.retired
    else mem :: state.retired
  | none, none => state.retired

/-- One call, with the record of retired pointers kept up. -/
def ledgerStep (state : LedgerState region) (call : Call) : LedgerState region :=
  ⟨step state.client call, retire state call⟩

def ledgerInitial (region : SharedRegion) (memory : Memory) : LedgerState region :=
  ⟨initial region memory, []⟩

/-- No signature below the pointer: a free of it is turned away. -/
def Unsigned (memory : Memory) (mem : UInt64) : Prop :=
  (MemHeader.load memory (mem - memHeaderSize)).signature ≠ shmSignature

instance (memory : Memory) (mem : UInt64) : Decidable (Unsigned memory mem) :=
  inferInstanceAs (Decidable (_ ≠ _))

/-- The condition on one call. Block sizes do not wrap and clients keep their side
of the contract, as in `Admitted`; besides, a range the services hand out still
carries its fence, a pointer is freed while its header is in place, and a store
forges no header below a retired pointer. -/
structure Accounted (state : LedgerState region) (call : Call) : Prop where
  fits : ∀ size byteAlignment answer, call.requested = some (size, byteAlignment, answer) →
    FitsWord size ∨ ¬ Served state.client.shared size byteAlignment answer
  fenced : ∀ size byteAlignment answer block pool,
    call.requested = some (size, byteAlignment, answer) →
    state.client.shared.pool.allocate shmAllocAlign.toNat (memBlockSize size).toNat answer =
      some (block, pool) →
    isSharedMemoryRegionFree state.client.shared.memory (UInt64.ofNat block.base)
      (memBlockSize size) = true
  freesOwn : ∀ mem, call.freed = some mem →
    (∃ grant ∈ state.client.live, grant.pointer = mem) ∨ mem ∈ state.retired ∨
      Unsigned state.client.shared.memory mem
  inPlace : ∀ grant ∈ state.client.live, call.freed = some grant.pointer →
    state.client.shared.memory.read (grant.pointer - memHeaderSize) 32 = grant.headerOf.bytes
  storesOwn : ∀ address bytes, call = .store address bytes →
    address.toNat + bytes.length ≤ 2 ^ 64 ∧
      ((∃ grant ∈ state.client.live,
          Interval.Within ⟨address.toNat, bytes.length⟩ grant.buffer) ∨
        ∀ range ∈ state.client.shared.pool.held,
          Interval.Disjoint ⟨address.toNat, bytes.length⟩ range)
  forgesNone : ∀ address bytes, call = .store address bytes → ∀ mem ∈ state.retired,
    Unsigned (state.client.shared.memory.write address bytes) mem

/-- The counters are the number and the total length of the ranges held, and a
leak is reported exactly when a range is held. -/
structure SharedMem.Balanced (state : SharedMem region) : Prop where
  count : state.allocationCount.toNat = state.pool.held.length
  size : state.allocSize.toNat = state.pool.total
  leak : opteeClientApiFinalize state = true ↔ state.pool.held ≠ []

/-- A successful free of a live pointer gives back exactly its range. -/
structure Releases (before after : SharedMem region) (grant : Grant) : Prop where
  held : grant.block ∈ before.pool.held
  givenBack : after.pool.held = before.pool.held.erase grant.block
  count : after.allocationCount = before.allocationCount - 1
  size : after.allocSize.toNat + grant.block.length = before.allocSize.toNat

/-- The ranges held and the counters are the same. -/
def SameBooks (before after : SharedMem region) : Prop :=
  after.pool = before.pool ∧ after.allocationCount = before.allocationCount ∧
    after.allocSize = before.allocSize

/-- What the next call does: an allocation that returns `NULL` changes nothing; a
free of a live pointer releases its range, or reports what the services report
and releases nothing; a free of a retired pointer changes nothing. -/
structure Settles (state : LedgerState region) (call : Call) : Prop where
  null : ∀ size byteAlignment answer, call.requested = some (size, byteAlignment, answer) →
    (internalMemAlloc state.client.shared size byteAlignment answer).1.pointer = 0 →
    (step state.client call).shared = state.client.shared
  released : ∀ grant ∈ state.client.live, ∀ answer,
    call.freeing = some (grant.pointer, answer) → answer.isError = false →
    (opteeClientMemFree state.client.shared grant.pointer answer).1 = EfiStatus.success ∧
      Releases state.client.shared (step state.client call).shared grant
  refused : ∀ grant ∈ state.client.live, ∀ answer,
    call.freeing = some (grant.pointer, answer) → answer.isError = true →
    (opteeClientMemFree state.client.shared grant.pointer answer).1 = answer ∧
      SameBooks state.client.shared (step state.client call).shared
  again : ∀ mem ∈ state.retired, ∀ answer, call.freeing = some (mem, answer) →
    (opteeClientMemFree state.client.shared mem answer).1 = EfiStatus.invalidParameter ∧
      (step state.client call).shared = state.client.shared

/-! ### The calls by what they do -/

/-- A call asks for memory, frees a pointer, stores, or does nothing. -/
theorem step_cases (state : ClientState region) (call : Call) :
    (∃ size byteAlignment answer, call.requested = some (size, byteAlignment, answer) ∧
      call.freeing = none ∧
      step state call = ⟨(internalMemAlloc state.shared size byteAlignment answer).2,
        recordGrant state.live size byteAlignment
          (internalMemAlloc state.shared size byteAlignment answer).1⟩) ∨
    (∃ mem answer, call.requested = none ∧ call.freeing = some (mem, answer) ∧
      step state call = ⟨(opteeClientMemFree state.shared mem answer).2,
        recordFree state.live mem (!(opteeClientMemFree state.shared mem answer).1.isError)⟩) ∨
    (∃ address bytes, call = .store address bytes) ∨
    (call.requested = none ∧ call.freeing = none ∧ step state call = state) := by
  cases call with
  | alloc size answer => exact Or.inl ⟨size, memByteAlignment, answer, rfl, rfl, rfl⟩
  | alignedAlloc size byteAlignment answer =>
    exact Or.inl ⟨size, byteAlignment, answer, rfl, rfl, rfl⟩
  | rpcAlloc args answer =>
    by_cases nonzero : args.arg1 ≠ 0
    · refine Or.inl ⟨args.arg1, memByteAlignment, answer, if_pos nonzero, rfl, ?_⟩
      simp only [step, opteeRpcAlloc_nonzero state.shared args answer nonzero]
      rfl
    · refine Or.inr (Or.inr (Or.inr ⟨if_neg nonzero, rfl, ?_⟩))
      simp [step, opteeRpcAlloc, not_not.mp nonzero, recordGrant]
  | free mem answer => exact Or.inr (Or.inl ⟨mem, answer, rfl, rfl, rfl⟩)
  | rpcFree args answer =>
    obtain ⟨after, succeeded⟩ := opteeRpcFree_spec state.shared args answer
    refine Or.inr (Or.inl ⟨_, answer, rfl, rfl, ?_⟩)
    simp only [step, after, succeeded]
  | store address bytes => exact Or.inr (Or.inr (Or.inl ⟨address, bytes, rfl⟩))

variable {call : Call} {mem byteAlignment : UInt64} {state : LedgerState region}

/-- The two views of a free agree. -/
theorem Call.freed_of_freeing {answer : EfiStatus}
    (freeing : call.freeing = some (mem, answer)) : call.freed = some mem := by
  cases call with
  | free => exact congrArg (Option.map Prod.fst) freeing
  | rpcFree => exact congrArg (Option.map Prod.fst) freeing
  | _ => cases freeing

/-- A range that carries its fence is handed on: the request is refused outright
or served. -/
theorem internalMemAlloc_fenced {state : SharedMem region} {size : UInt64} {answer : Option Nat}
    (fenced : ∀ block pool,
      state.pool.allocate shmAllocAlign.toNat (memBlockSize size).toNat answer =
        some (block, pool) →
      isSharedMemoryRegionFree state.memory (UInt64.ofNat block.base) (memBlockSize size) = true) :
    internalMemAlloc state size byteAlignment answer = (⟨0, none⟩, state) ∨
    (Served state size byteAlignment answer ∧
      ∃ block pool, state.pool.allocate shmAllocAlign.toNat (memBlockSize size).toNat answer =
        some (block, pool) ∧
      internalMemAlloc state size byteAlignment answer =
        (⟨userBaseAddress (UInt64.ofNat block.base), some block⟩,
          { memory := state.memory.write
              (userBaseAddress (UInt64.ofNat block.base) - memHeaderSize)
              (MemHeader.bytes ⟨shmSignature, 0, memBlockSize size, UInt64.ofNat block.base⟩)
            pool := pool
            allocationCount := state.allocationCount + 1
            allocSize := state.allocSize + memBlockSize size })) := by
  rcases internalMemAlloc_cases state size byteAlignment answer with
    refused | ⟨block, pool, obtained, broken, -⟩ | served
  · exact Or.inl refused
  · rw [fenced block pool obtained] at broken
    cases broken
  · exact Or.inr served

/-- A request served without wrap-around returns a pointer. -/
theorem userBaseAddress_ne_zero {shared : SharedMem region} {size : UInt64} {answer : Option Nat}
    {block : Interval} {pool : Pool region.interval}
    (accepted : alignmentAccepted byteAlignment = true) (fits : FitsWord size)
    (obtained : shared.pool.allocate shmAllocAlign.toNat (memBlockSize size).toNat answer =
      some (block, pool)) : userBaseAddress (UInt64.ofNat block.base) ≠ 0 := by
  intro null
  have pointerAt := (carved_of_served accepted fits obtained).pointerAt
  simp only [grantFrom, null] at pointerAt
  simp at pointerAt

/-! ### Signatures in memory -/

theorem signature_iff {memory : Memory} {at_ : UInt64} :
    (MemHeader.load memory at_).signature = shmSignature ↔
      memory.read at_ 4 = leBytes 4 shmSignature.toNat := by
  constructor
  · intro signed
    have value := congrArg UInt32.toNat signed
    have bound := leValue_lt (memory.read at_ 4)
    rw [Memory.read_length] at bound
    simp only [MemHeader.load, UInt32.toNat_ofNat'] at value
    rw [Nat.mod_eq_of_lt (show leValue (memory.read at_ 4) < 2 ^ 32 from bound)] at value
    have bytes := leBytes_leValue (memory.read at_ 4)
    rw [Memory.read_length, value] at bytes
    exact bytes.symm
  · intro bytes
    rw [MemHeader.load, bytes, leValue_leBytes_of_lt shmSignature.toNat_lt]
    exact UInt32.ofNat_toNat

/-- Filling memory with the fence forges no signature: none of its bytes is the fence. -/
theorem Unsigned.fence {memory : Memory} (unsigned : Unsigned memory mem)
    (address size : UInt64) : Unsigned (markSharedMemoryRegionAsFree memory address size) mem := by
  intro signed
  apply unsigned
  rw [signature_iff] at signed ⊢
  rw [← signed]
  apply Memory.read_congr
  intro index inside
  have there : markSharedMemoryRegionAsFree memory address size
      (mem - memHeaderSize + UInt64.ofNat index) ∈ leBytes 4 shmSignature.toNat := by
    rw [← signed]
    exact List.mem_map.mpr ⟨index, List.mem_range.mpr inside, rfl⟩
  by_cases filled : mem - memHeaderSize + UInt64.ofNat index - address < size
  · rw [markSharedMemoryRegionAsFree, Memory.fill, if_pos filled] at there
    exact absurd there (by decide)
  · rw [markSharedMemoryRegionAsFree, Memory.fill, if_neg filled]

/-! ### The books -/

/-- The counters agree with the pool, no held range is empty and no retired
pointer carries a signature. -/
structure Books (shared : SharedMem region) (retired : List UInt64) : Prop where
  positive : ∀ range ∈ shared.pool.held, 0 < range.length
  count : shared.allocationCount.toNat = shared.pool.held.length
  size : shared.allocSize.toNat = shared.pool.total
  unsigned : ∀ mem ∈ retired, Unsigned shared.memory mem

theorem pool_bounds (pool : Pool region.interval)
    (positive : ∀ range ∈ pool.held, 0 < range.length) :
    pool.held.length < 2 ^ 64 ∧ pool.total < 2 ^ 64 := by
  have bound := region.finish.toNat_lt
  have extent : region.interval.length < 2 ^ 64 := by
    simp only [SharedRegion.interval]
    omega
  exact ⟨(pool.held_length_le positive).trans_lt extent, pool.total_le.trans_lt extent⟩

namespace Books

variable {shared : SharedMem region} {retired : List UInt64}

theorem balanced (books : Books shared retired) : shared.Balanced where
  count := books.count
  size := books.size
  leak := by
    have count := books.count
    have size := books.size
    rw [opteeClientApiFinalize, Bool.or_eq_true, bne_iff_ne, bne_iff_ne]
    constructor
    · intro counted none
      rw [none, List.length_nil] at count
      rw [Pool.total, none, List.map_nil, List.sum_nil] at size
      rcases counted with counted | counted
      · exact counted (UInt64.toNat_inj.mp count)
      · exact counted (UInt64.toNat_inj.mp size)
    · intro some
      refine Or.inl fun zero => ?_
      rw [zero] at count
      exact some (List.length_eq_zero_iff.mp count.symm)

/-- A served request enters its range and both counters at once. -/
theorem alloc (books : Books shared retired) {size byteAlignment : UInt64} {answer : Option Nat}
    (fits : FitsWord size ∨ ¬ Served shared size byteAlignment answer)
    (fenced : ∀ block pool,
      shared.pool.allocate shmAllocAlign.toNat (memBlockSize size).toNat answer =
        some (block, pool) →
      isSharedMemoryRegionFree shared.memory (UInt64.ofNat block.base) (memBlockSize size) = true) :
    Books (internalMemAlloc shared size byteAlignment answer).2
      (if (internalMemAlloc shared size byteAlignment answer).1.pointer = 0 then retired
        else []) := by
  rcases internalMemAlloc_fenced fenced with refused | ⟨served, block, pool, obtained, result⟩
  · rw [refused, if_pos rfl]
    exact books
  · have fitsWord := fits.resolve_right (not_not_intro served)
    obtain ⟨-, length, grown⟩ := Pool.allocate_spec obtained
    have positive : ∀ range ∈ pool.held, 0 < range.length := by
      rw [grown]
      refine List.forall_mem_cons.mpr ⟨?_, books.positive⟩
      rw [length, memBlockSize_toNat fitsWord]
      omega
    obtain ⟨few, short⟩ := pool_bounds pool positive
    rw [result, if_neg (userBaseAddress_ne_zero served.1 fitsWord obtained)]
    refine ⟨positive, ?_, ?_, by simp⟩
    · rw [grown, List.length_cons] at few
      rw [UInt64.toNat_add, books.count, grown, List.length_cons]
      exact Nat.mod_eq_of_lt few
    · rw [Pool.total_allocate grown] at short ⊢
      rw [UInt64.toNat_add, books.size, length, Nat.add_comm]
      rw [length] at short
      exact Nat.mod_eq_of_lt short

/-- Freeing a live pointer whose header is in place releases its range from both
counters at once, or leaves them alone when the services refuse. -/
theorem free {state : ClientState region} (books : Books state.shared retired)
    (inv : Invariant state) {grant : Grant} (member : grant ∈ state.live)
    (stored : state.shared.memory.read (grant.pointer - memHeaderSize) 32 = grant.headerOf.bytes)
    (answer : EfiStatus) :
    Books (opteeClientMemFree state.shared grant.pointer answer).2
        (if (opteeClientMemFree state.shared grant.pointer answer).1.isError then retired
          else grant.pointer :: retired) ∧
      (opteeClientMemFree state.shared grant.pointer answer).1 =
        (if answer.isError then answer else EfiStatus.success) ∧
      (answer.isError = true →
        SameBooks state.shared (opteeClientMemFree state.shared grant.pointer answer).2) ∧
      (answer.isError = false →
        Releases state.shared (opteeClientMemFree state.shared grant.pointer answer).2 grant) := by
  obtain ⟨address, size, start, extent, result⟩ :=
    opteeClientMemFree_stored (inv.held grant member) stored answer
  have held := inv.held grant member
  have fenced : ∀ mem ∈ retired,
      Unsigned (markSharedMemoryRegionAsFree state.shared.memory address size) mem :=
    fun mem old => (books.unsigned mem old).fence address size
  by_cases failed : answer.isError = true
  · rw [result]
    simp only [failed, if_true]
    refine ⟨⟨books.positive, books.count, books.size, fenced⟩, trivial,
      fun _ => ⟨rfl, rfl, rfl⟩, fun passed => ?_⟩
    cases passed
  · have passed : answer.isError = false := Bool.eq_false_iff.mpr failed
    rw [result]
    simp only [passed, Bool.false_eq_true, if_false]
    have total := Pool.total_release held
    have shrink := List.length_erase_of_mem held
    have some := List.length_pos_of_mem held
    have countAfter : (state.shared.allocationCount - 1).toNat =
        (state.shared.pool.release grant.block).held.length := by
      have count := books.count
      have bound := state.shared.allocationCount.toNat_lt
      rw [UInt64.toNat_sub, Pool.release, shrink, ← count]
      rw [← count] at some
      simp only [UInt64.reduceToNat]
      omega
    have sizeAfter : (state.shared.allocSize - size).toNat =
        (state.shared.pool.release grant.block).total := by
      have before := books.size
      have bound := state.shared.allocSize.toNat_lt
      rw [UInt64.toNat_sub, extent]
      omega
    have freed : Unsigned (markSharedMemoryRegionAsFree state.shared.memory address size)
        grant.pointer := by
      refine MemHeader.load_of_fence (Memory.read_fill_inside _ ?_)
      rw [start, extent]
      exact inv.header_within member
    refine ⟨⟨?_, countAfter, sizeAfter, ?_⟩, trivial, fun refused => ?_,
      fun _ => ⟨held, rfl, rfl, ?_⟩⟩
    · intro range left
      exact books.positive range (List.mem_of_mem_erase left)
    · exact List.forall_mem_cons.mpr ⟨freed, fenced⟩
    · cases refused
    · rw [sizeAfter, books.size, ← total, Nat.add_comm]

end Books

/-! ### Each call keeps the books -/

/-- The books next to the invariant of the allocator. -/
structure Ledger (state : LedgerState region) : Prop where
  base : Invariant state.client
  books : Books state.client.shared state.retired

/-- The condition includes the one the safety of the allocator rests on. -/
theorem Accounted.admitted (met : Accounted state call)
    (ledger : Ledger state) : Admitted state.client call where
  fits := met.fits
  freesOwn := by
    intro mem freed
    rcases met.freesOwn mem freed with own | retired | unsigned
    · exact Or.inl own
    · exact Or.inr (ledger.books.unsigned mem retired)
    · exact Or.inr unsigned
  storesOwn := met.storesOwn

/-- A free that meets the condition is of a live pointer with its header in
place, or is turned away. -/
theorem Accounted.freeing_cases {answer : EfiStatus} (met : Accounted state call)
    (ledger : Ledger state) (freeing : call.freeing = some (mem, answer)) :
    (∃ grant ∈ state.client.live, grant.pointer = mem ∧
      state.client.shared.memory.read (grant.pointer - memHeaderSize) 32 = grant.headerOf.bytes) ∨
    opteeClientMemFree state.client.shared mem answer =
      (EfiStatus.invalidParameter, state.client.shared) := by
  have freed := Call.freed_of_freeing freeing
  rcases met.freesOwn mem freed with ⟨grant, member, rfl⟩ | retired | unsigned
  · exact Or.inl ⟨grant, member, rfl, met.inPlace grant member freed⟩
  · exact Or.inr (opteeClientMemFree_unsigned (ledger.books.unsigned mem retired) answer)
  · exact Or.inr (opteeClientMemFree_unsigned unsigned answer)

theorem ledgerStep_keeps (state : LedgerState region) (call : Call) (ledger : Ledger state)
    (met : Accounted state call) : Ledger (ledgerStep state call) := by
  refine ⟨step_keeps state.client call ledger.base (met.admitted ledger), ?_⟩
  rcases step_cases state.client call with
    ⟨size, byteAlignment, answer, requested, -, result⟩ |
    ⟨mem, answer, requested, freeing, result⟩ | ⟨address, bytes, rfl⟩ |
    ⟨requested, freeing, result⟩
  · simp only [ledgerStep, result, retire, requested]
    exact ledger.books.alloc (met.fits _ _ _ requested) (met.fenced _ _ _ · · requested)
  · simp only [ledgerStep, result, retire, requested, freeing]
    rcases met.freeing_cases ledger freeing with ⟨grant, member, rfl, stored⟩ | rejected
    · exact (ledger.books.free ledger.base member stored answer).1
    · rw [rejected]
      exact ledger.books
  · exact ⟨ledger.books.positive, ledger.books.count, ledger.books.size,
      met.forgesNone address bytes rfl⟩
  · simp only [ledgerStep, result, retire, requested, freeing]
    exact ledger.books

theorem ledgerInitial_ledger (region : SharedRegion) (memory : Memory) :
    Ledger (ledgerInitial region memory) := by
  refine ⟨initial_invariant region memory, ⟨?_, rfl, rfl, ?_⟩⟩
  · intro range held
    cases held
  · intro mem retired
    cases retired

/-- What a call that meets the condition does. -/
theorem Accounted.settles (met : Accounted state call)
    (ledger : Ledger state) : Settles state call := by
  have freed {mem : UInt64} {answer : EfiStatus} (freeing : call.freeing = some (mem, answer)) :
      (step state.client call).shared = (opteeClientMemFree state.client.shared mem answer).2 := by
    rcases step_cases state.client call with
      ⟨_, _, _, _, none, _⟩ | ⟨_, _, _, other, result⟩ | ⟨_, _, rfl⟩ | ⟨_, none, _⟩
    · rw [none] at freeing
      cases freeing
    · rw [other] at freeing
      cases freeing
      rw [result]
    · cases freeing
    · rw [none] at freeing
      cases freeing
  refine ⟨?_, ?_, ?_, ?_⟩
  · intro size byteAlignment answer requested null
    have unchanged : (internalMemAlloc state.client.shared size byteAlignment answer).2 =
        state.client.shared := by
      rcases internalMemAlloc_fenced (met.fenced _ _ _ · · requested) with
        refused | ⟨served, block, pool, obtained, result⟩
      · rw [refused]
      · have fits := (met.fits _ _ _ requested).resolve_right (not_not_intro served)
        rw [result] at null
        exact absurd null (userBaseAddress_ne_zero served.1 fits obtained)
    rcases step_cases state.client call with
      ⟨_, _, _, other, _, result⟩ | ⟨_, _, none, _, _⟩ | ⟨_, _, rfl⟩ | ⟨none, _, _⟩
    · rw [other] at requested
      cases requested
      rw [result]
      exact unchanged
    · rw [none] at requested
      cases requested
    · cases requested
    · rw [none] at requested
      cases requested
  · intro grant member answer freeing passed
    have stored := met.inPlace grant member (Call.freed_of_freeing freeing)
    obtain ⟨-, status, -, releases⟩ := ledger.books.free ledger.base member stored answer
    rw [freed freeing, status, passed]
    exact ⟨rfl, releases passed⟩
  · intro grant member answer freeing failed
    have stored := met.inPlace grant member (Call.freed_of_freeing freeing)
    obtain ⟨-, status, same, -⟩ := ledger.books.free ledger.base member stored answer
    rw [freed freeing, status, failed]
    exact ⟨rfl, same failed⟩
  · intro mem retired answer freeing
    have rejected := opteeClientMemFree_unsigned (ledger.books.unsigned mem retired) answer
    rw [freed freeing, rejected]
    exact ⟨rfl, rfl⟩

/-- Over any run of calls that meet the condition, in every state reached, the
counters are the number and the total length of the ranges held and a leak is
reported exactly when a range is held, and the next call settles. -/
theorem run_accounted (region : SharedRegion) (memory : Memory) (calls : List Call)
    (met : AllSteps ledgerStep Accounted (ledgerInitial region memory) calls) (count : Nat) :
    let reached := run ledgerStep (ledgerInitial region memory) (calls.take count)
    reached.client.shared.Balanced ∧ ∀ call, calls[count]? = some call → Settles reached call := by
  have ledger := run_invariant_throughout ledgerStep_keeps (ledgerInitial_ledger region memory)
    met count
  refine ⟨ledger.books.balanced, ?_⟩
  intro call next
  exact (met.at_step next).settles ledger

/-- A client allocates and is about to free. -/
theorem run_accounted_one_client :
    let reached := run ledgerStep
      (ledgerInitial ⟨0x10001000, 0x10400000, by decide⟩ fun _ => shmFreeFence)
      [.alloc 100 (some 0x103FD000)]
    reached.client.shared.Balanced ∧ Settles reached (.free 0x103FE000 EfiStatus.success) := by
  let grant : Grant := ⟨0x103FE000, 100, 16, ⟨0x103FD000, 4227⟩⟩
  have grants : (ledgerStep
      (ledgerInitial ⟨0x10001000, 0x10400000, by decide⟩ fun _ => shmFreeFence)
      (.alloc 100 (some 0x103FD000))).client.live = [grant] := by
    decide +kernel
  have header : (ledgerStep
      (ledgerInitial ⟨0x10001000, 0x10400000, by decide⟩ fun _ => shmFreeFence)
      (.alloc 100 (some 0x103FD000))).client.shared.memory.read (grant.pointer - memHeaderSize) 32 =
        grant.headerOf.bytes := by
    decide +kernel
  have all := run_accounted ⟨0x10001000, 0x10400000, by decide⟩ (fun _ => shmFreeFence)
    [.alloc 100 (some 0x103FD000), .free 0x103FE000 EfiStatus.success] ⟨?_, ?_, trivial⟩ 1
  · exact ⟨all.1, all.2 _ rfl⟩
  · refine ⟨?_, ?_, by simp [Call.freed], by simp [Call.freed], by simp, by simp⟩
    · rintro _ _ _ ⟨⟩
      exact Or.inl (by decide)
    · intro _ _ _ _ _ _ _
      simp [isSharedMemoryRegionFree, Memory.read, ledgerInitial, initial]
  · refine ⟨by simp [Call.requested], by simp [Call.requested], ?_, ?_, by simp, by simp⟩
    · intro mem freed
      refine Or.inl ⟨grant, ?_, Option.some.inj freed⟩
      rw [grants]
      exact List.mem_singleton_self grant
    · intro other member _
      rw [grants] at member
      rw [List.mem_singleton.mp member]
      exact header

/-! ### Where the books come apart -/

/-- A client overruns the buffer it has freed by one byte's store. The next request
for the same block returns `NULL` and the block is lost: it is held, neither
counter knows of it and no leak is reported. -/
theorem overrun_unaccounted :
    let reached := run ledgerStep
      (ledgerInitial ⟨0x10001000, 0x10400000, by decide⟩ fun _ => shmFreeFence)
      [.alloc 100 (some 0x103FD000), .free 0x103FE000 EfiStatus.success,
        .store 0x103FE000 [1], .alloc 100 (some 0x103FD000)]
    reached.client.live = [] ∧ reached.client.shared.pool.held = [⟨0x103FD000, 4227⟩] ∧
      opteeClientApiFinalize reached.client.shared = false ∧
      ¬ reached.client.shared.Balanced := by
  intro reached
  obtain ⟨live, held, silent⟩ : reached.client.live = [] ∧
      reached.client.shared.pool.held = [⟨0x103FD000, 4227⟩] ∧
      opteeClientApiFinalize reached.client.shared = false := by
    decide +kernel
  refine ⟨live, held, silent, ?_⟩
  intro balanced
  have reported := balanced.leak.mpr (by rw [held]; exact List.cons_ne_nil _ _)
  rw [silent] at reported
  cases reported

end MuRockchip.Optee
