/-
The shared-memory component of the secure-world client (`OpteeClientMem.c`).

Buffers exchanged with the secure world are carved out of one region. Each
allocation takes a range from the memory-space services, checks that the range
still carries the fence of free memory, rounds up to a page and stores a header
just below the address it returns; freeing reads the header back.

The services are the pool of `Base.Pool`: whatever they answer, a range is
handed out only when it is page aligned, inside the region, of the requested
length and disjoint from every range still held.

A run interleaves client calls, calls made for the secure world and stores to
memory; next to the component's own state it keeps the list of pointers handed
out and not yet freed.
-/
import MuRockchip.Base.Pool
import MuRockchip.Base.Run
import MuRockchip.Uefi.Status

namespace MuRockchip.Optee

open MuRockchip.Base

/-! ### The component -/

/-- `OPTEE_SHM_START` and `OPTEE_SHM_END`, fixed when the platform is built. -/
structure SharedRegion where
  start : UInt64
  finish : UInt64
  ordered : start ≤ finish

def SharedRegion.interval (region : SharedRegion) : Interval :=
  ⟨region.start.toNat, region.finish.toNat - region.start.toNat⟩

/-- `OPTEE_SHM_SIGNATURE`, the bytes `TEEC`. -/
def shmSignature : UInt32 := 0x43454554

/-- `OPTEE_SHM_FREE_FENCE`. -/
def shmFreeFence : UInt8 := 0xCC

/-- `OPTEE_SHM_ALLOC_ALIGN`, one page. -/
def shmAllocAlign : UInt64 := 4096

/-- `OPTEE_CLIENT_MEM_BYTE_ALIGNMENT`. -/
def memByteAlignment : UInt64 := 16

/-- `OPTEE_CLIENT_MEM_HEADER`. -/
structure MemHeader where
  signature : UInt32
  owner : UInt64
  size : UInt64
  address : UInt64
  deriving DecidableEq, Repr

/-- `sizeof (OPTEE_CLIENT_MEM_HEADER)`: the handle is 8-byte aligned, so four
bytes of padding follow the signature. -/
def memHeaderSize : UInt64 := 32

/-- The header in memory, padding zeroed by `ZeroMem`. -/
def MemHeader.bytes (header : MemHeader) : List UInt8 :=
  leBytes 4 header.signature.toNat ++ leBytes 4 0 ++ leBytes 8 header.owner.toNat ++
    leBytes 8 header.size.toNat ++ leBytes 8 header.address.toNat

/-- Read a header field by field. -/
def MemHeader.load (memory : Memory) (at_ : UInt64) : MemHeader where
  signature := UInt32.ofNat (leValue (memory.read at_ 4))
  owner := UInt64.ofNat (leValue (memory.read (at_ + UInt64.ofNat 8) 8))
  size := UInt64.ofNat (leValue (memory.read (at_ + UInt64.ofNat 16) 8))
  address := UInt64.ofNat (leValue (memory.read (at_ + UInt64.ofNat 24) 8))

/-- Memory, the ranges held from the memory-space services, and the two
counters `mSharedMemAllocationCount` and `mSharedMemAllocSize`. -/
structure SharedMem (region : SharedRegion) where
  memory : Memory
  pool : Pool region.interval
  allocationCount : UInt64
  allocSize : UInt64

variable {region : SharedRegion}

def markSharedMemoryRegionAsFree (memory : Memory) (address size : UInt64) : Memory :=
  memory.fill address size shmFreeFence

def isSharedMemoryRegionFree (memory : Memory) (address size : UInt64) : Bool :=
  (memory.read address size.toNat).all (· == shmFreeFence)

/-- The pointer an allocation returns, zero for `NULL`, and the range the call
obtained, which it keeps also when it returns `NULL` after the fence check. -/
structure Allocation where
  pointer : UInt64
  block : Option Interval

/-- The alignments `InternalMemAlloc` accepts. -/
def alignmentAccepted (byteAlignment : UInt64) : Bool :=
  !((byteAlignment != 0 && !isPowerOf2 byteAlignment) || byteAlignment > shmAllocAlign)

/-- `BlockSize`, computed modulo `2 ^ 64`. -/
def memBlockSize (size : UInt64) : UInt64 := memHeaderSize + size + (shmAllocAlign - 1)

/-- `UserBaseAddress` for a block at `base`. -/
def userBaseAddress (base : UInt64) : UInt64 :=
  alignDown (base + memHeaderSize + (shmAllocAlign - 1)) shmAllocAlign

/-- `InternalMemAlloc`. The answer is what `AllocateMemorySpace` reports: the
base it chose, or an error. -/
def internalMemAlloc (state : SharedMem region) (size byteAlignment : UInt64)
    (answer : Option Nat) : Allocation × SharedMem region :=
  if alignmentAccepted byteAlignment then
    match state.pool.allocate shmAllocAlign.toNat (memBlockSize size).toNat answer with
    | none => (⟨0, none⟩, state)
    | some (block, pool) =>
      let baseAddress := UInt64.ofNat block.base
      if isSharedMemoryRegionFree state.memory baseAddress (memBlockSize size) then
        let header : MemHeader := ⟨shmSignature, 0, memBlockSize size, baseAddress⟩
        (⟨userBaseAddress baseAddress, some block⟩,
          { memory := state.memory.write (userBaseAddress baseAddress - memHeaderSize) header.bytes
            pool := pool
            allocationCount := state.allocationCount + 1
            allocSize := state.allocSize + memBlockSize size })
      else (⟨0, some block⟩, { state with pool := pool })
  else (⟨0, none⟩, state)

def opteeClientMemAlloc (state : SharedMem region) (size : UInt64) (answer : Option Nat) :
    Allocation × SharedMem region :=
  internalMemAlloc state size memByteAlignment answer

def opteeClientAlignedMemAlloc (state : SharedMem region) (size byteAlignment : UInt64)
    (answer : Option Nat) : Allocation × SharedMem region :=
  internalMemAlloc state size byteAlignment answer

/-- `gDS->FreeMemorySpace`: it may refuse, and it refuses a range that was not
handed out. -/
def freeMemorySpace (pool : Pool region.interval) (range : Interval) (answer : EfiStatus) :
    EfiStatus × Pool region.interval :=
  if answer.isError then (answer, pool)
  else if range ∈ pool.held then (EfiStatus.success, pool.release range)
  else (EfiStatus.notFound, pool)

def opteeClientMemFree (state : SharedMem region) (mem : UInt64) (answer : EfiStatus) :
    EfiStatus × SharedMem region :=
  let header := MemHeader.load state.memory (mem - memHeaderSize)
  if header.signature ≠ shmSignature then (EfiStatus.invalidParameter, state)
  else
    let memory := markSharedMemoryRegionAsFree state.memory header.address header.size
    let (status, pool) :=
      freeMemorySpace state.pool ⟨header.address.toNat, header.size.toNat⟩ answer
    if status.isError then (status, { state with memory := memory })
    else (status,
      { memory := memory
        pool := pool
        allocationCount := state.allocationCount - 1
        allocSize := state.allocSize - header.size })

/-! ### Allocation on behalf of the secure world -/

/-- `ARM_SMC_ARGS`, the registers of a secure monitor call. -/
structure ArmSmcArgs where
  arg0 : UInt64
  arg1 : UInt64
  arg2 : UInt64
  arg3 : UInt64
  arg4 : UInt64
  arg5 : UInt64
  arg6 : UInt64
  arg7 : UInt64
  deriving DecidableEq, Repr

/-- `Fields.H32` of an `ADDRESS64`. -/
def high32 (address : UInt64) : UInt64 := address >>> 32

/-- `Fields.L32` of an `ADDRESS64`. -/
def low32 (address : UInt64) : UInt64 := address &&& 0xFFFFFFFF

/-- `OpteeRpcAlloc`: the size comes from a register the secure world filled. A
size of zero succeeds with a null address. -/
def opteeRpcAlloc (state : SharedMem region) (args : ArmSmcArgs) (answer : Option Nat) :
    TeecResult × ArmSmcArgs × Allocation × SharedMem region :=
  let size := args.arg1
  let reply (address : UInt64) : ArmSmcArgs :=
    { args with
      arg1 := high32 address
      arg2 := low32 address
      arg4 := high32 address
      arg5 := low32 address }
  if size ≠ 0 then
    let (allocation, after) := opteeClientMemAlloc state size answer
    if allocation.pointer = 0 then (TeecResult.errorOutOfMemory, args, allocation, after)
    else (TeecResult.success, reply allocation.pointer, allocation, after)
  else (TeecResult.success, reply 0, ⟨0, none⟩, state)

/-- `OpteeRpcFree`: the address is put together from two registers. -/
def opteeRpcFree (state : SharedMem region) (args : ArmSmcArgs) (answer : EfiStatus) :
    TeecResult × SharedMem region :=
  let address := (args.arg1 <<< 32) ||| low32 args.arg2
  let (status, after) := opteeClientMemFree state address answer
  if status.isError then (TeecResult.errorBadParameters, after)
  else (TeecResult.success, after)

/-! ### Runs -/

/-- A pointer handed to a client: what was asked, what came back and the range
the call obtained. -/
structure Grant where
  pointer : UInt64
  size : UInt64
  alignment : UInt64
  block : Interval
  deriving DecidableEq, Repr

def Grant.header (grant : Grant) : Interval :=
  ⟨grant.pointer.toNat - memHeaderSize.toNat, memHeaderSize.toNat⟩

def Grant.buffer (grant : Grant) : Interval := ⟨grant.pointer.toNat, grant.size.toNat⟩

/-- The component together with the pointers handed out and not yet freed. -/
structure ClientState (region : SharedRegion) where
  shared : SharedMem region
  live : List Grant

/-- One interaction with the component. `answer` is what the memory-space
services report. `store` is a client, or the secure world, writing memory. -/
inductive Call where
  | alloc (size : UInt64) (answer : Option Nat)
  | alignedAlloc (size byteAlignment : UInt64) (answer : Option Nat)
  | rpcAlloc (args : ArmSmcArgs) (answer : Option Nat)
  | free (mem : UInt64) (answer : EfiStatus)
  | rpcFree (args : ArmSmcArgs) (answer : EfiStatus)
  | store (address : UInt64) (bytes : List UInt8)

/-- The pointer a free is about. -/
def Call.freed : Call → Option UInt64
  | .free mem _ => some mem
  | .rpcFree args _ => some ((args.arg1 <<< 32) ||| low32 args.arg2)
  | _ => none

/-- The size and alignment an allocation reaches `InternalMemAlloc` with. -/
def Call.requested : Call → Option (UInt64 × UInt64 × Option Nat)
  | .alloc size answer => some (size, memByteAlignment, answer)
  | .alignedAlloc size byteAlignment answer => some (size, byteAlignment, answer)
  | .rpcAlloc args answer =>
    if args.arg1 ≠ 0 then some (args.arg1, memByteAlignment, answer) else none
  | _ => none

/-- Remember a non-null pointer. -/
def recordGrant (live : List Grant) (size alignment : UInt64) (allocation : Allocation) :
    List Grant :=
  match allocation.block with
  | some block =>
    if allocation.pointer ≠ 0 then ⟨allocation.pointer, size, alignment, block⟩ :: live else live
  | none => live

/-- Forget a pointer that was freed successfully. -/
def recordFree (live : List Grant) (mem : UInt64) (freed : Bool) : List Grant :=
  if freed then live.filter (·.pointer ≠ mem) else live

def step (state : ClientState region) (call : Call) : ClientState region :=
  match call with
  | .alloc size answer =>
    let (allocation, shared) := opteeClientMemAlloc state.shared size answer
    ⟨shared, recordGrant state.live size memByteAlignment allocation⟩
  | .alignedAlloc size byteAlignment answer =>
    let (allocation, shared) := opteeClientAlignedMemAlloc state.shared size byteAlignment answer
    ⟨shared, recordGrant state.live size byteAlignment allocation⟩
  | .rpcAlloc args answer =>
    let (_, _, allocation, shared) := opteeRpcAlloc state.shared args answer
    ⟨shared, recordGrant state.live args.arg1 memByteAlignment allocation⟩
  | .free mem answer =>
    let (status, shared) := opteeClientMemFree state.shared mem answer
    ⟨shared, recordFree state.live mem (!status.isError)⟩
  | .rpcFree args answer =>
    let (result, shared) := opteeRpcFree state.shared args answer
    ⟨shared, recordFree state.live ((args.arg1 <<< 32) ||| low32 args.arg2)
      (result == TeecResult.success)⟩
  | .store address bytes =>
    ⟨{ state.shared with memory := state.shared.memory.write address bytes }, state.live⟩

/-- Before the first call: the services hold nothing on behalf of the clients. -/
def initial (region : SharedRegion) (memory : Memory) : ClientState region :=
  ⟨⟨memory, Pool.empty region.interval, 0, 0⟩, []⟩

end MuRockchip.Optee
