/-
Transfer descriptors and endpoint descriptors of the OHCI driver (`Descriptor.h`,
`OhciUrb.c`).

Both kinds of descriptor are carved from the memory pool of the driver, which lies below
four gigabytes: a pointer to a descriptor is a 32-bit word, zero is null. Memory is total
and `live` says which descriptors the pool has handed out, so that a freed descriptor
still has contents. What the pool answers is a parameter of each allocation, and an answer
outside its contract counts as a failed one.

* `TdChain.link`: linking a descriptor to a chain makes it the last of the chain.
-/
import Mathlib.Logic.Function.Basic
import MuRockchip.Base.Links
import MuRockchip.Uefi.Status

namespace MuRockchip.Ohci

open MuRockchip.Base

structure TdDescriptor where
  bufferRounding : BitVec 1
  dirPid : BitVec 2
  delayInterrupt : BitVec 3
  dataToggle : BitVec 2
  errorCount : BitVec 2
  conditionCode : BitVec 4
  currBufferPointer : UInt32
  nextTd : UInt32
  bufferEndPointer : UInt32
  nextTdPointer : UInt32
  dataBuffer : UInt32
  actualSendLength : UInt32
  deriving DecidableEq, Repr

/-- What `ZeroMem` leaves. -/
def TdDescriptor.zero : TdDescriptor := ⟨0, 0, 0, 0, 0, 0, 0, 0, 0, 0, 0, 0⟩

structure EdDescriptor where
  functionAddress : BitVec 7
  endPointNum : BitVec 4
  direction : BitVec 2
  speed : BitVec 1
  skip : BitVec 1
  format : BitVec 1
  maxPacketSize : BitVec 11
  freeSpace : BitVec 5
  tdTailPointer : UInt32
  halted : BitVec 1
  toggleCarry : BitVec 1
  zero : BitVec 2
  tdHeadPointer : BitVec 28
  nextEd : UInt32
  deriving DecidableEq, Repr

/-- What `ZeroMem` leaves. -/
def EdDescriptor.empty : EdDescriptor := ⟨0, 0, 0, 0, 0, 0, 0, 0, 0, 0, 0, 0, 0, 0⟩

/-- `RIGHT_SHIFT_4`, as it is stored in `TdHeadPointer`. -/
def rightShift4 (pointer : UInt32) : BitVec 28 := BitVec.ofNat 28 (pointer.toNat >>> 4)

/-- `TD_PTR` of `TdHeadPointer`, in 32 bits. -/
def tdPtr (field : BitVec 28) : UInt32 := UInt32.ofNat (field.toNat <<< 4)

theorem tdPtr_rightShift4 {pointer : UInt32} (aligned : pointer.toNat % 64 = 0) :
    tdPtr (rightShift4 pointer) = pointer := by
  apply UInt32.toNat_inj.mp
  have bound := pointer.toNat_lt
  rw [tdPtr, rightShift4, UInt32.toNat_ofNat', BitVec.toNat_ofNat, Nat.shiftLeft_eq,
    Nat.shiftRight_eq_div_pow]
  omega

/-- `TD_PTR` as the pointer it is: the field is shifted as an `int`, and its sign is extended. -/
def tdPtr64 (field : BitVec 28) : UInt64 :=
  UInt64.ofBitVec ((field.setWidth 32 <<< 4).signExtend 64)

/-- It is the pointer of a descriptor below 2 GiB, and of none from there on. -/
theorem tdPtr64_eq_iff {field : BitVec 28} :
    tdPtr64 field = (tdPtr field).toUInt64 ↔ (tdPtr field).toNat < 2 ^ 31 := by
  have word : (tdPtr field).toNat = (field.setWidth 32 <<< 4).toNat := by
    rw [tdPtr, UInt32.toNat_ofNat', BitVec.toNat_shiftLeft, BitVec.toNat_setWidth,
      Nat.mod_eq_of_lt (show field.toNat < 2 ^ 32 by have := field.isLt; omega)]
  have small := (field.setWidth 32 <<< 4).isLt
  rw [← UInt64.toNat_inj, UInt32.toNat_toUInt64, word, tdPtr64, UInt64.toNat_ofBitVec,
    BitVec.toNat_signExtend, BitVec.toNat_setWidth, Nat.mod_eq_of_lt (by omega)]
  cases sign : (field.setWidth 32 <<< 4).msb
  · have := BitVec.msb_eq_false_iff_two_mul_lt.mp sign
    simp only [Bool.false_eq_true, if_false, Nat.add_zero, true_iff]
    omega
  · have := BitVec.msb_eq_true_iff_two_mul_ge.mp sign
    simp only [if_true]
    omega

/-! ### Condition codes -/

def tdNoError : BitVec 4 := 0x0
def tdCrcError : BitVec 4 := 0x1
def tdBitstuffingError : BitVec 4 := 0x2
def tdDeviceStall : BitVec 4 := 0x4
def tdNoResponse : BitVec 4 := 0x5
def tdBufferOverrun : BitVec 4 := 0xC
def tdBufferUnderrun : BitVec 4 := 0xD
def tdTobeProcessed : BitVec 4 := 0xE
def tdTobeProcessed2 : BitVec 4 := 0xF

def efiUsbNoerror : UInt32 := 0x00
def efiUsbErrNotexecute : UInt32 := 0x01
def efiUsbErrStall : UInt32 := 0x02
def efiUsbErrBuffer : UInt32 := 0x04
def efiUsbErrCrc : UInt32 := 0x20
def efiUsbErrTimeout : UInt32 := 0x40
def efiUsbErrBitstuff : UInt32 := 0x80
def efiUsbErrSystem : UInt32 := 0x100

def convertErrorCode (errorCode : BitVec 4) : UInt32 :=
  if errorCode = tdNoError then efiUsbNoerror
  else if errorCode = tdTobeProcessed ∨ errorCode = tdTobeProcessed2 then efiUsbErrNotexecute
  else if errorCode = tdDeviceStall then efiUsbErrStall
  else if errorCode = tdBufferOverrun ∨ errorCode = tdBufferUnderrun then efiUsbErrBuffer
  else if errorCode = tdCrcError then efiUsbErrCrc
  else if errorCode = tdNoResponse then efiUsbErrTimeout
  else if errorCode = tdBitstuffingError then efiUsbErrBitstuff
  else efiUsbErrSystem

/-! ### Descriptor memory -/

/-- The descriptors in memory, and which of them the pool has handed out. -/
structure Descriptors where
  td : UInt32 → TdDescriptor
  ed : UInt32 → EdDescriptor
  live : UInt32 → Bool

/-- A pool with nothing in use. -/
def Descriptors.unused : Descriptors :=
  ⟨fun _ => TdDescriptor.zero, fun _ => EdDescriptor.empty, fun _ => false⟩

/-- The contract of `UsbHcAllocateMem`: a descriptor that is not in use, on a unit of the
pool. -/
def Available (live : UInt32 → Bool) (pointer : UInt32) : Prop :=
  pointer ≠ 0 ∧ pointer.toNat % 64 = 0 ∧ live pointer = false

instance (live : UInt32 → Bool) (pointer : UInt32) : Decidable (Available live pointer) :=
  inferInstanceAs (Decidable (_ ∧ _ ∧ _))

namespace Descriptors

variable (mem : Descriptors)

def setTd (pointer : UInt32) (td : TdDescriptor) : Descriptors :=
  { mem with td := Function.update mem.td pointer td }

def setEd (pointer : UInt32) (ed : EdDescriptor) : Descriptors :=
  { mem with ed := Function.update mem.ed pointer ed }

def setLive (pointer : UInt32) (live : Bool) : Descriptors :=
  { mem with live := Function.update mem.live pointer live }

variable {mem} {pointer other : UInt32} {td : TdDescriptor} {ed : EdDescriptor} {live : Bool}

@[simp] theorem setTd_ed : (mem.setTd pointer td).ed = mem.ed := rfl
@[simp] theorem setTd_live : (mem.setTd pointer td).live = mem.live := rfl
@[simp] theorem setEd_td : (mem.setEd pointer ed).td = mem.td := rfl
@[simp] theorem setEd_live : (mem.setEd pointer ed).live = mem.live := rfl
@[simp] theorem setLive_td : (mem.setLive pointer live).td = mem.td := rfl
@[simp] theorem setLive_ed : (mem.setLive pointer live).ed = mem.ed := rfl

@[simp] theorem setTd_td_same : (mem.setTd pointer td).td pointer = td := by
  simp [setTd]

theorem setTd_td_ne (different : other ≠ pointer) :
    (mem.setTd pointer td).td other = mem.td other := by
  simp [setTd, different]

@[simp] theorem setEd_ed_same : (mem.setEd pointer ed).ed pointer = ed := by
  simp [setEd]

theorem setEd_ed_ne (different : other ≠ pointer) :
    (mem.setEd pointer ed).ed other = mem.ed other := by
  simp [setEd, different]

@[simp] theorem setLive_live_same : (mem.setLive pointer live).live pointer = live := by
  simp [setLive]

theorem setLive_live_ne (different : other ≠ pointer) :
    (mem.setLive pointer live).live other = mem.live other := by
  simp [setLive, different]

end Descriptors

/-! ### Creating and freeing -/

/-- `OhciCreateTD`: a descriptor of zeroes. -/
def ohciCreateTd (mem : Descriptors) (answer : Option UInt32) : Option (UInt32 × Descriptors) :=
  match answer with
  | none => none
  | some td =>
    if Available mem.live td then some (td, (mem.setTd td TdDescriptor.zero).setLive td true)
    else none

/-- `OhciCreateED`: a descriptor of zeroes that the controller skips. -/
def ohciCreateEd (mem : Descriptors) (answer : Option UInt32) : Option (UInt32 × Descriptors) :=
  match answer with
  | none => none
  | some ed =>
    if Available mem.live ed then
      some (ed, (mem.setEd ed { EdDescriptor.empty with skip := 1 }).setLive ed true)
    else none

/-- `UsbHcFreeMem` of one descriptor. -/
def usbHcFreeDescriptor (mem : Descriptors) (pointer : UInt32) : Descriptors :=
  mem.setLive pointer false

/-! ### Chains -/

/-- The links the controller follows. -/
def nextTd (mem : Descriptors) (td : UInt32) : UInt32 := (mem.td td).nextTd

/-- The links the driver follows. -/
def nextTdPointer (mem : Descriptors) (td : UInt32) : UInt32 := (mem.td td).nextTdPointer

def nextEd (mem : Descriptors) (ed : UInt32) : UInt32 := (mem.ed ed).nextEd

/-- No list of descriptors is longer than there are pointers. -/
def walkLimit : Nat := 2 ^ 32

/-- `OhciLinkTD`: the chain is walked to its end each time. -/
def ohciLinkTd (mem : Descriptors) (td1 td2 : UInt32) : Descriptors :=
  if td1 = 0 then mem
  else if td1 = td2 then mem
  else
    let tempTd := walkEnd (nextTd mem) walkLimit td1
    mem.setTd tempTd { mem.td tempTd with nextTd := td2, nextTdPointer := td2 }

/-- `TD_PTR` of the head of a queue points to its first descriptor. -/
def HeadReached (mem : Descriptors) (ed : UInt32) : Prop :=
  tdPtr64 (mem.ed ed).tdHeadPointer = (tdPtr (mem.ed ed).tdHeadPointer).toUInt64

/-- The first descriptor queued, if any, is below 2 GiB. -/
def HeadBelow (mem : Descriptors) (ed : UInt32) : Prop :=
  (tdPtr (mem.ed ed).tdHeadPointer).toNat < 2 ^ 31

/-- `OhciAttachTDListToED`, where the head of the queue is reached: elsewhere the source follows a
pointer to no descriptor. -/
def ohciAttachTdListToEd (mem : Descriptors) (ed headTd : UInt32) : Descriptors :=
  let tempTd := tdPtr (mem.ed ed).tdHeadPointer
  if tempTd ≠ 0 then
    let tempTd := walkEnd (nextTd mem) walkLimit tempTd
    mem.setTd tempTd { mem.td tempTd with nextTd := headTd, nextTdPointer := headTd }
  else mem.setEd ed { mem.ed ed with tdHeadPointer := rightShift4 headTd }

/-- `while (HeadTd)`: every descriptor of the chain is freed. -/
def freeTdChain : Nat → Descriptors → UInt32 → Descriptors
  | 0, mem, _ => mem
  | fuel + 1, mem, headTd =>
    if headTd = 0 then mem
    else freeTdChain fuel (usbHcFreeDescriptor mem headTd) (nextTdPointer mem headTd)

/-- The chain both the driver and the controller see. -/
structure TdChain (mem : Descriptors) (head : UInt32) (cells : List UInt32) : Prop where
  hardware : Segment (nextTd mem) head cells 0
  driver : Segment (nextTdPointer mem) head cells 0

/-- The contents of a descriptor, less its links. -/
def TdDescriptor.unlinked (td : TdDescriptor) : TdDescriptor :=
  { td with nextTd := 0, nextTdPointer := 0 }

variable {cells : List UInt32} {head : UInt32} {mem : Descriptors}

theorem ohciLinkTd_eq {last new : UInt32} (chain : TdChain mem head (cells ++ [last]))
    (apart : new ∉ cells ++ [last]) :
    ohciLinkTd mem head new =
      mem.setTd last { mem.td last with nextTd := new, nextTdPointer := new } := by
  have first : head ∈ cells ++ [last] := by
    cases cells with
    | nil | cons => exact chain.driver.1 ▸ List.mem_cons_self
  have nonzero : head ≠ 0 := chain.driver.ne_zero first
  have other : head ≠ new := fun same => apart (same ▸ first)
  have short : cells.length ≤ walkLimit := by
    have bound := chain.hardware.length_le
    rw [List.length_append, List.length_singleton] at bound
    exact (Nat.le_succ _).trans bound
  rw [ohciLinkTd, if_neg nonzero, if_neg other, walkEnd_eq chain.hardware short]

theorem TdChain.link {last new : UInt32} (chain : TdChain mem head (cells ++ [last]))
    (apart : new ∉ cells ++ [last]) (nonzero : new ≠ 0)
    (unlinked : nextTd mem new = 0 ∧ nextTdPointer mem new = 0) :
    TdChain (ohciLinkTd mem head new) head (cells ++ [last] ++ [new]) := by
  rw [ohciLinkTd_eq chain apart]
  have once := List.nodup_append.mp chain.driver.nodup
  have others : ∀ cell ∈ cells, cell ≠ last :=
    fun cell member => once.2.2 cell member last (List.mem_singleton_self last)
  have newNotLast : new ≠ last := by
    rintro rfl
    exact apart (List.mem_append_right cells (List.mem_singleton_self new))
  constructor
  · refine Segment.extend (Segment.relink chain.hardware ?_ ?_) nonzero ?_
    · intro cell member
      rw [nextTd, Descriptors.setTd_td_ne (others cell member), nextTd]
    · simp [nextTd]
    · rw [nextTd, Descriptors.setTd_td_ne newNotLast]
      exact unlinked.1
  · refine Segment.extend (Segment.relink chain.driver ?_ ?_) nonzero ?_
    · intro cell member
      rw [nextTdPointer, Descriptors.setTd_td_ne (others cell member), nextTdPointer]
    · simp [nextTdPointer]
    · rw [nextTdPointer, Descriptors.setTd_td_ne newNotLast]
      exact unlinked.2

theorem TdChain.congr {mem' : Descriptors} (chain : TdChain mem head cells)
    (same : ∀ cell ∈ cells, mem'.td cell = mem.td cell) :
    TdChain mem' head cells where
  hardware := chain.hardware.congr fun cell member => by rw [nextTd, same cell member, nextTd]
  driver := chain.driver.congr fun cell member => by
    rw [nextTdPointer, same cell member, nextTdPointer]

end MuRockchip.Ohci
