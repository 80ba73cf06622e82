/-
The memory pool of the OHCI driver (`UsbHcMem.c`, `UsbHcMem.h`).

A pool is a list of blocks of host memory that the controller can reach. Each block
is cut into units, and a bit array says which of them are allocated. Allocation is
first fit, by block and by unit; a block that is not the first is released when the
last of its units is freed.

The blocks are linked through their `Next` fields; here they are a list whose first
element is the head. What the host answers when a block is created is a parameter
of the allocation.
-/
import MuRockchip.Uefi.Types
import MuRockchip.Base.Bitmap
import MuRockchip.Base.Memory

namespace MuRockchip.Ohci

open MuRockchip.Base

def usbhcMemUnit : UInt64 := 64

def usbhcMemUnitMask : UInt64 := usbhcMemUnit - 1

def usbhcMemRound (length : UInt64) : UInt64 := (length + usbhcMemUnitMask) &&& ~~~usbhcMemUnitMask

def usbhcMemDefaultPages : UInt64 := 16

def usbHcHigh32Bit (address : UInt64) : UInt32 := (address >>> 32).toUInt32

def usbHcBitIsSet (data : UInt8) (bit : Nat) : Bool := data &&& bitMask bit == bitMask bit

/-- `USBHC_MEM_BLOCK`, without its link. -/
structure UsbhcMemBlock where
  bits : List UInt8
  buf : UInt64
  bufHost : UInt64
  bufLen : UInt64
  deriving DecidableEq, Repr

/-- `USBHC_MEM_POOL`. The first block is `Head`. -/
structure UsbhcMemPool where
  check4G : Bool
  which4G : UInt32
  blocks : List UsbhcMemBlock
  deriving DecidableEq, Repr

/-! ### Blocks -/

/-- What the host answers while a block is created: whether it has pool memory for
the block and for its bits, the buffer if it has the pages, and the number of bytes
mapped and their bus address if it maps them. -/
structure HostReply where
  blockAllocated : Bool
  bitsAllocated : Bool
  buffer : Option UInt64
  mapping : Option (UInt64 × UInt64)

def usbHcAllocMemBlock (pool : UsbhcMemPool) (pages : UInt64) (host : HostReply) :
    Option UsbhcMemBlock :=
  if !host.blockAllocated then none
  else
    let bufLen := efiPagesToSize pages
    let bitsLen := bufLen / (usbhcMemUnit * 8)
    if !host.bitsAllocated then none
    else
      match host.buffer, host.mapping with
      | some bufHost, some (bytes, mappedAddr) =>
        if bytes ≠ efiPagesToSize pages then none
        else if pool.check4G && pool.which4G != usbHcHigh32Bit mappedAddr then none
        else some ⟨List.replicate bitsLen.toNat 0, mappedAddr, bufHost, bufLen⟩
      | _, _ => none

/-- The search of `UsbHcAllocMemFromBlock`: the start of the units found free in a row
and their number, which is smaller than the number asked for if there are not
enough. Each round looks at one bit, so the bits of the array bound the rounds. -/
def searchUnits (bits : List UInt8) (units : Nat) :
    Nat → BitCursor → BitCursor → Nat → BitCursor × Nat
  | 0, _, start, available => (start, available)
  | rounds + 1, cursor, start, available =>
    if cursor.byte < bits.length then
      if !usbHcBitIsSet (bits.getD cursor.byte 0) cursor.bit then
        if available + 1 ≥ units then (start, available + 1)
        else searchUnits bits units rounds cursor.next start (available + 1)
      else searchUnits bits units rounds cursor.next cursor.next 0
    else (start, available)

/-- The marking of `UsbHcAllocMemFromBlock`. -/
def markUnits (bits : List UInt8) : Nat → BitCursor → List UInt8
  | 0, _ => bits
  | count + 1, cursor =>
    markUnits (bits.modify cursor.byte (· ||| bitMask cursor.bit)) count cursor.next

/-- The clearing of `UsbHcFreeMem`. -/
def clearUnits (bits : List UInt8) : Nat → BitCursor → List UInt8
  | 0, _ => bits
  | count + 1, cursor =>
    clearUnits (bits.modify cursor.byte (· ^^^ bitMask cursor.bit)) count cursor.next

/-- `UsbHcAllocMemFromBlock`: the address, zero if there is none, and the block. -/
def usbHcAllocMemFromBlock (block : UsbhcMemBlock) (units : UInt64) : UInt64 × UsbhcMemBlock :=
  let (start, available) :=
    searchUnits block.bits units.toNat (8 * block.bits.length) ⟨0, 0⟩ ⟨0, 0⟩ 0
  if available < units.toNat then (0, block)
  else
    (block.bufHost + UInt64.ofNat (start.byte * 8 + start.bit) * usbhcMemUnit,
      { block with bits := markUnits block.bits units.toNat start })

def usbHcIsMemBlockEmpty (block : UsbhcMemBlock) : Bool := block.bits.all (· == 0)

/-! ### The pool -/

/-- `UsbHcInsertMemBlockToPool`: the new block comes after the head. -/
def usbHcInsertMemBlockToPool (block : UsbhcMemBlock) : List UsbhcMemBlock → List UsbhcMemBlock
  | [] => [block]
  | head :: rest => head :: block :: rest

def usbHcInitMemPool (check4G : Bool) (which4G : UInt32) (poolAllocated : Bool)
    (host : HostReply) : Option UsbhcMemPool :=
  if !poolAllocated then none
  else
    let pool : UsbhcMemPool := ⟨check4G, which4G, []⟩
    (usbHcAllocMemBlock pool usbhcMemDefaultPages host).map fun head =>
      { pool with blocks := [head] }

def allocFromBlocks (units : UInt64) : List UsbhcMemBlock → UInt64 × List UsbhcMemBlock
  | [] => (0, [])
  | block :: rest =>
    let (mem, block) := usbHcAllocMemFromBlock block units
    if mem ≠ 0 then (mem, block :: rest)
    else
      let (mem, rest) := allocFromBlocks units rest
      (mem, block :: rest)

/-- The pages of the block `UsbHcAllocateMem` creates. -/
def newBlockPages (allocSize : UInt64) : UInt64 :=
  if allocSize > efiPagesToSize usbhcMemDefaultPages then efiSizeToPages allocSize + 1
  else usbhcMemDefaultPages

/-- `UsbHcAllocateMem`: the address, zero for `NULL`, and the pool. -/
def usbHcAllocateMem (pool : UsbhcMemPool) (size : UInt64) (host : HostReply) :
    UInt64 × UsbhcMemPool :=
  let allocSize := usbhcMemRound size
  let units := allocSize / usbhcMemUnit
  let (mem, blocks) := allocFromBlocks units pool.blocks
  let pool := { pool with blocks }
  if mem ≠ 0 then (mem, pool)
  else
    match usbHcAllocMemBlock pool (newBlockPages allocSize) host with
    | none => (0, pool)
    | some newBlock =>
      let (mem, newBlock) := usbHcAllocMemFromBlock newBlock units
      (mem, { pool with blocks := usbHcInsertMemBlockToPool newBlock pool.blocks })

/-- The block completely contains the memory. -/
def UsbhcMemBlock.holds (block : UsbhcMemBlock) (toFree allocSize : UInt64) : Bool :=
  block.bufHost ≤ toFree && toFree + allocSize ≤ block.bufHost + block.bufLen

def UsbhcMemBlock.freed (block : UsbhcMemBlock) (toFree allocSize : UInt64) : UsbhcMemBlock :=
  let unit := ((toFree - block.bufHost) / usbhcMemUnit).toNat
  { block with
    bits := clearUnits block.bits (allocSize / usbhcMemUnit).toNat ⟨unit / 8, unit % 8⟩ }

/-- `UsbHcFreeMem` from a block of the list on. Without a block that contains the memory
it goes on with a null pointer, which has no outcome. An empty block is unlinked
and released unless it is the head. -/
def freeFromBlocks (toFree allocSize : UInt64) (isHead : Bool) :
    List UsbhcMemBlock → Option (List UsbhcMemBlock)
  | [] => none
  | block :: rest =>
    if block.holds toFree allocSize then
      let freed := block.freed toFree allocSize
      if !isHead && usbHcIsMemBlockEmpty freed then some rest else some (freed :: rest)
    else (freeFromBlocks toFree allocSize false rest).map fun rest => block :: rest

def usbHcFreeMem (pool : UsbhcMemPool) (mem size : UInt64) : Option UsbhcMemPool :=
  (freeFromBlocks mem (usbhcMemRound size) true pool.blocks).map fun blocks =>
    { pool with blocks }

end MuRockchip.Ohci
