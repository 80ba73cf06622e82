/-
Isolation of the clients of the shared-memory allocator.

A block that was handed out belongs to the client it was handed to: whatever the others
do, it stays on record and no byte of it changes, header and slack included, until a call
names its pointer or stores to its buffer.

* `step_blockKept`, `step_member`: what one call leaves alone.
* `run_isolated`: what any run of calls leaves alone.
-/
import MuRockchip.Optee.SharedMemLedger

namespace MuRockchip.Optee

open MuRockchip.Base

variable {region : SharedRegion} {state : ClientState region} {grant : Grant}

/-- The call neither frees the block nor stores to its buffer. -/
def Call.Spares (grant : Grant) : Call → Prop
  | .free mem _ => mem ≠ grant.pointer
  | .rpcFree args _ => (args.arg1 <<< 32) ||| low32 args.arg2 ≠ grant.pointer
  | .store address bytes => Interval.Disjoint ⟨address.toNat, bytes.length⟩ grant.buffer
  | _ => True

variable {call : Call}

theorem Call.Spares.freeing (spares : call.Spares grant) {mem : UInt64} {answer : EfiStatus}
    (freeing : call.freeing = some (mem, answer)) : mem ≠ grant.pointer := by
  cases call with
  | free => cases freeing; exact spares
  | rpcFree => cases freeing; exact spares
  | _ => cases freeing

/-- Every byte of the block is as it was. -/
def BlockKept (before after : Memory) (grant : Grant) : Prop :=
  ∀ (address : UInt64) (length : Nat), Interval.Within ⟨address.toNat, length⟩ grant.block →
    after.read address length = before.read address length

namespace BlockKept

theorem refl (memory : Memory) (grant : Grant) : BlockKept memory memory grant :=
  fun _ _ _ => rfl

theorem trans {first second third : Memory} (earlier : BlockKept first second grant)
    (later : BlockKept second third grant) : BlockKept first third grant :=
  fun address length within =>
    (later address length within).trans (earlier address length within)

theorem of_write {memory : Memory} {address : UInt64} {bytes : List UInt8}
    (bound : grant.block.base + grant.block.length ≤ 2 ^ 64)
    (fits : address.toNat + bytes.length ≤ 2 ^ 64)
    (apart : Interval.Disjoint ⟨address.toNat, bytes.length⟩ grant.block) :
    BlockKept memory (memory.write address bytes) grant := by
  intro base length within
  have top := within.2
  simp only [Interval.finish] at top
  exact Memory.read_write_apart memory (by omega) fits (apart.symm.mono within ⟨le_rfl, le_rfl⟩)

theorem of_fill {memory : Memory} {address size : UInt64} {byte : UInt8}
    (bound : grant.block.base + grant.block.length ≤ 2 ^ 64)
    (fits : address.toNat + size.toNat ≤ 2 ^ 64)
    (apart : Interval.Disjoint ⟨address.toNat, size.toNat⟩ grant.block) :
    BlockKept memory (memory.fill address size byte) grant := by
  intro base length within
  have top := within.2
  simp only [Interval.finish] at top
  exact Memory.read_fill_apart memory (by omega) fits (apart.symm.mono within ⟨le_rfl, le_rfl⟩)

end BlockKept

/-! ### One call -/

namespace Invariant

/-- An allocation writes its header into a range that nobody holds. -/
theorem blockKept_alloc (inv : Invariant state) (member : grant ∈ state.live)
    {size byteAlignment : UInt64} {answer : Option Nat}
    (fits : FitsWord size ∨ ¬ Served state.shared size byteAlignment answer) :
    BlockKept state.shared.memory
      (internalMemAlloc state.shared size byteAlignment answer).2.memory grant := by
  rcases internalMemAlloc_cases state.shared size byteAlignment answer with
    refused | ⟨block, pool, obtained, -, kept⟩ | ⟨served, block, pool, obtained, result⟩
  · rw [refused]
    exact BlockKept.refl _ _
  · rw [kept]
    exact BlockKept.refl _ _
  · have fitsWord := fits.resolve_right (not_not_intro served)
    obtain ⟨grantable, length, -⟩ := Pool.allocate_spec obtained
    have carved := carved_of_served served.1 fitsWord obtained
    have bound := within_region grantable.2.1
    have header := carved.header_toNat
    have blockLength := carved.blockLength
    simp only [grantFrom] at header blockLength
    have apart := grantable.2.2 _ (inv.held grant member)
    rw [result]
    refine BlockKept.of_write (Nat.le_of_lt (inv.block_bound member))
      (by rw [MemHeader.bytes_length]; omega) (apart.mono ?_ ⟨le_rfl, le_rfl⟩)
    simp only [MemHeader.bytes_length, Interval.Within, Interval.finish]
    omega

/-- Freeing another pointer fences another block, or nothing. -/
theorem blockKept_free (inv : Invariant state) (member : grant ∈ state.live) {mem : UInt64}
    (other : mem ≠ grant.pointer) (answer : EfiStatus)
    (own : (∃ freed ∈ state.live, freed.pointer = mem) ∨
      (MemHeader.load state.shared.memory (mem - memHeaderSize)).signature ≠ shmSignature) :
    BlockKept state.shared.memory (opteeClientMemFree state.shared mem answer).2.memory grant := by
  rcases own with ⟨freed, freedMember, rfl⟩ | unsigned
  · have different : grant ≠ freed := fun same => other (congrArg Grant.pointer same).symm
    have apart := inv.block_apart freedMember member (Ne.symm different)
    have fence {address size : UInt64} (start : address.toNat = freed.block.base)
        (extent : size.toNat = freed.block.length) :
        BlockKept state.shared.memory
          (markSharedMemoryRegionAsFree state.shared.memory address size) grant := by
      have bound := inv.block_bound freedMember
      refine BlockKept.of_fill (Nat.le_of_lt (inv.block_bound member)) (by omega) ?_
      rw [start, extent]
      exact apart
    rcases opteeClientMemFree_live inv freedMember answer with
      rejected | ⟨address, size, start, extent, ⟨status, -, result⟩ | result⟩
    · rw [rejected]
      exact BlockKept.refl _ _
    · rw [result]
      exact fence start extent
    · rw [result]
      exact fence start extent
  · rw [opteeClientMemFree_unsigned unsigned answer]
    exact BlockKept.refl _ _

theorem blockKept_store (inv : Invariant state) (member : grant ∈ state.live)
    {address : UInt64} {bytes : List UInt8} (fits : address.toNat + bytes.length ≤ 2 ^ 64)
    (own : (∃ owner ∈ state.live, Interval.Within ⟨address.toNat, bytes.length⟩ owner.buffer) ∨
      ∀ range ∈ state.shared.pool.held, Interval.Disjoint ⟨address.toNat, bytes.length⟩ range)
    (spares : Interval.Disjoint ⟨address.toNat, bytes.length⟩ grant.buffer) :
    BlockKept state.shared.memory (state.shared.memory.write address bytes) grant := by
  have bound := Nat.le_of_lt (inv.block_bound member)
  rcases own with ⟨owner, owned, inBuffer⟩ | free
  · by_cases same : grant = owner
    · subst same
      by_cases nothing : bytes = []
      · subst nothing
        exact BlockKept.refl _ _
      · exact absurd inBuffer
          (spares.not_within (List.length_pos_iff.mpr nothing) ⟨le_rfl, le_rfl⟩)
    · have apart := inv.block_apart owned member (Ne.symm same)
      exact BlockKept.of_write bound fits
        (apart.mono (inBuffer.trans (inv.carved owner owned).bufferInside) ⟨le_rfl, le_rfl⟩)
  · exact BlockKept.of_write bound fits (free _ (inv.held grant member))

end Invariant

theorem step_blockKept (inv : Invariant state) (admitted : Admitted state call)
    (member : grant ∈ state.live) (spares : call.Spares grant) :
    BlockKept state.shared.memory (step state call).shared.memory grant := by
  rcases step_cases state call with ⟨size, byteAlignment, answer, requested, -, result⟩ |
    ⟨mem, answer, -, freeing, result⟩ | ⟨address, bytes, rfl⟩ | ⟨-, -, result⟩
  · rw [result]
    exact inv.blockKept_alloc member (admitted.fits _ _ _ requested)
  · rw [result]
    exact inv.blockKept_free member (spares.freeing freeing) answer
      (admitted.freesOwn _ (Call.freed_of_freeing freeing))
  · obtain ⟨fits, own⟩ := admitted.storesOwn _ _ rfl
    exact inv.blockKept_store member fits own spares
  · rw [result]
    exact BlockKept.refl _ _

theorem mem_recordFree_of_ne {live : List Grant} {mem : UInt64} (member : grant ∈ live)
    (other : mem ≠ grant.pointer) (freed : Bool) : grant ∈ recordFree live mem freed := by
  unfold recordFree
  split
  · exact List.mem_filter.mpr ⟨member, by simpa using Ne.symm other⟩
  · exact member

theorem mem_recordGrant {live : List Grant} (member : grant ∈ live) (size alignment : UInt64)
    (allocation : Allocation) : grant ∈ recordGrant live size alignment allocation := by
  unfold recordGrant
  split
  · split
    · exact List.mem_cons_of_mem _ member
    · exact member
  · exact member

theorem step_member (member : grant ∈ state.live)
    (unfreed : call.freed ≠ some grant.pointer) : grant ∈ (step state call).live := by
  rcases step_cases state call with ⟨size, byteAlignment, answer, -, -, result⟩ |
    ⟨mem, answer, -, freeing, result⟩ | ⟨address, bytes, rfl⟩ | ⟨-, -, result⟩
  · rw [result]
    exact mem_recordGrant member _ _ _
  · rw [result]
    refine mem_recordFree_of_ne member (fun same => unfreed ?_) _
    rw [Call.freed_of_freeing freeing, same]
  · exact member
  · rw [result]
    exact member

theorem Call.Spares.unfreed (spares : call.Spares grant) :
    call.freed ≠ some grant.pointer := by
  cases call with
  | free => exact fun same => spares (Option.some.inj same)
  | rpcFree => exact fun same => spares (Option.some.inj same)
  | _ => exact fun same => by cases same

theorem step_header (inv : Invariant state) (admitted : Admitted state call)
    (member : grant ∈ state.live) (unfreed : call.freed ≠ some grant.pointer) :
    (step state call).shared.memory.read (grant.pointer - memHeaderSize) 32 =
      state.shared.memory.read (grant.pointer - memHeaderSize) 32 := by
  by_cases spares : call.Spares grant
  · exact step_blockKept inv admitted member spares _ _ (inv.header_within member)
  · cases call with
    | store address bytes =>
      obtain ⟨fits, own⟩ := admitted.storesOwn _ _ rfl
      have carved := inv.carved grant member
      have header := carved.header_toNat
      have pointerAt := carved.pointerAt
      have bound := inv.block_bound member
      have blockLength := carved.blockLength
      refine Memory.read_write_apart _ (by omega) fits ?_
      rcases own with ⟨owner, owned, inBuffer⟩ | free
      · by_cases same : grant = owner
        · subst same
          have lower := inBuffer.1
          simp only [Grant.buffer] at lower
          refine Or.inl ?_
          simp only [Interval.finish]
          omega
        · exact ((inv.block_apart owned member (Ne.symm same)).mono
            (inBuffer.trans (inv.carved owner owned).bufferInside) (inv.header_within member)).symm
      · exact ((free _ (inv.held grant member)).mono ⟨le_rfl, le_rfl⟩
          (inv.header_within member)).symm
    | free | rpcFree => exact absurd (fun same => unfreed (congrArg some same)) spares
    | _ => exact absurd trivial spares

/-! ### Runs -/

theorem run_spares {calls : List Call} (inv : Invariant state)
    (admitted : AllSteps step Admitted state calls) (member : grant ∈ state.live)
    (spares : ∀ call ∈ calls, call.Spares grant) :
    grant ∈ (run step state calls).live ∧
      BlockKept state.shared.memory (run step state calls).shared.memory grant := by
  induction calls generalizing state with
  | nil => exact ⟨member, BlockKept.refl _ _⟩
  | cons call calls ih =>
    obtain ⟨here, later⟩ := admitted
    have spared := spares call List.mem_cons_self
    obtain ⟨stays, kept⟩ := ih (step_keeps state call inv here) later
      (step_member member spared.unfreed)
      fun other included => spares other (List.mem_cons_of_mem _ included)
    exact ⟨stays, (step_blockKept inv here member spared).trans kept⟩

/-- A run in which nobody frees a block leaves it on record with its header. -/
theorem run_unfreed {calls : List Call} (inv : Invariant state)
    (admitted : AllSteps step Admitted state calls) (member : grant ∈ state.live)
    (unfreed : ∀ call ∈ calls, call.freed ≠ some grant.pointer) :
    grant ∈ (run step state calls).live ∧
      (run step state calls).shared.memory.read (grant.pointer - memHeaderSize) 32 =
        state.shared.memory.read (grant.pointer - memHeaderSize) 32 := by
  induction calls generalizing state with
  | nil => exact ⟨member, rfl⟩
  | cons call calls ih =>
    obtain ⟨here, later⟩ := admitted
    have first := unfreed call List.mem_cons_self
    obtain ⟨stays, kept⟩ := ih (step_keeps state call inv here) later (step_member member first)
      fun other included => unfreed other (List.mem_cons_of_mem _ included)
    exact ⟨stays, kept.trans (step_header inv here member first)⟩

/-- Over any run of admitted calls, whatever was called before: a block on record stays on
record, and every byte of it, header and slack included, stays as it is, as long as no call
frees its pointer or stores to its buffer. -/
theorem run_isolated (region : SharedRegion) (memory : Memory) (before calls : List Call)
    (admitted : AllSteps step Admitted (initial region memory) (before ++ calls))
    (grant : Grant) (member : grant ∈ (run step (initial region memory) before).live)
    (spares : ∀ call ∈ calls, call.Spares grant) :
    grant ∈ (run step (initial region memory) (before ++ calls)).live ∧
      BlockKept (run step (initial region memory) before).shared.memory
        (run step (initial region memory) (before ++ calls)).shared.memory grant := by
  obtain ⟨earlier, later⟩ := admitted.append
  have inv := run_invariant step_keeps (initial_invariant region memory) earlier
  rw [run_append]
  exact run_spares inv later member spares

/-- The block of one client while another one allocates and fills a block. -/
theorem run_isolated_two_clients :
    (⟨0x103FE000, 100, 16, ⟨0x103FD000, 4227⟩⟩ : Grant) ∈
      (run step (initial ⟨0x10001000, 0x10400000, by decide⟩ fun _ => shmFreeFence)
        ([.alloc 100 (some 0x103FD000)] ++
          [.alloc 50 (some 0x10300000), .store 0x10301000 [1, 2, 3]])).live := by
  have first : (⟨0x103FE000, 100, 16, ⟨0x103FD000, 4227⟩⟩ : Grant) ∈
      (run step (initial ⟨0x10001000, 0x10400000, by decide⟩ fun _ => shmFreeFence)
        [.alloc 100 (some 0x103FD000)]).live := by
    decide +kernel
  have second : (⟨0x10301000, 50, 16, ⟨0x10300000, 4177⟩⟩ : Grant) ∈
      (step (step (initial ⟨0x10001000, 0x10400000, by decide⟩ fun _ => shmFreeFence)
        (.alloc 100 (some 0x103FD000))) (.alloc 50 (some 0x10300000))).live := by
    decide +kernel
  refine (run_isolated ⟨0x10001000, 0x10400000, by decide⟩ (fun _ => shmFreeFence)
    [.alloc 100 (some 0x103FD000)] [.alloc 50 (some 0x10300000), .store 0x10301000 [1, 2, 3]]
    ⟨?_, ?_, ?_, trivial⟩ _ first ?_).1
  · exact ⟨by rintro _ _ _ ⟨⟩; exact Or.inl (by decide), by simp [Call.freed], by simp⟩
  · exact ⟨by rintro _ _ _ ⟨⟩; exact Or.inl (by decide), by simp [Call.freed], by simp⟩
  · refine ⟨by simp [Call.requested], by simp [Call.freed], ?_⟩
    intro address bytes stored
    obtain ⟨rfl, rfl⟩ := Call.store.injEq .. ▸ stored
    exact ⟨by decide, Or.inl ⟨_, second, by decide⟩⟩
  · simp only [List.mem_cons, List.not_mem_nil, or_false, forall_eq_or_imp, forall_eq]
    exact ⟨trivial, by unfold Call.Spares; decide⟩

end MuRockchip.Optee
