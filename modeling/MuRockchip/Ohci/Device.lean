/-
The OHCI controller as the driver sees it (`Ohci.h`, `OhciUrb.c`, `OhciSched.c`).

`UsbOhciHcDev` holds what the transfers read and change: the descriptors, the heads of the
control and bulk lists, the interrupt schedule, the list of interrupt contexts, and which
mappings and buffers are in use. Memory of interrupt contexts is total, like that of the
descriptors: a freed context still has contents.

The writes of `HcControl` and `HcCommandStatus` answer the value written, which is never an
error; the list heads read back as written.

* `TransferOutcome.Truthful`: what a transfer tells its caller is what happened.
-/
import MuRockchip.Ohci.Completion

namespace MuRockchip.Ohci

open MuRockchip.Base

/-- `INTERRUPT_CONTEXT_ENTRY`. A null pointer is zero. -/
structure InterruptContextEntry where
  deviceAddress : UInt8
  endPointAddress : UInt8
  ed : UInt32
  dataTd : UInt32
  isSlowDevice : Bool
  maxPacketLength : UInt8
  pollingInterval : UInt64
  callBackFunction : UInt64
  context : UInt64
  isPeriodic : Bool
  dataLength : UInt64
  ucBuffer : UInt64
  ucBufferMapping : UInt64
  toggle : UInt64
  nextEntry : UInt64
  deriving DecidableEq, Repr

/-- `USB_OHCI_HC_DEV`, and what it points to. -/
structure UsbOhciHcDev where
  mem : Descriptors
  controlHead : UInt32
  bulkHead : UInt32
  periodicEnable : Bool
  hccaInterruptTable : Nat → UInt32
  intervalList : Nat → Nat → UInt32
  entry : UInt64 → InterruptContextEntry
  entryLive : UInt64 → Bool
  interruptContextList : UInt64
  mapped : UInt64 → Bool
  buffer : UInt64 → Bool

/-- A controller with nothing in use. -/
def UsbOhciHcDev.idle : UsbOhciHcDev where
  mem := Descriptors.unused
  controlHead := 0
  bulkHead := 0
  periodicEnable := false
  hccaInterruptTable := fun _ => 0
  intervalList := fun _ _ => 0
  entry := fun _ => ⟨0, 0, 0, 0, false, 0, 0, 0, 0, false, 0, 0, 0, 0, 0⟩
  entryLive := fun _ => false
  interruptContextList := 0
  mapped := fun _ => false
  buffer := fun _ => false

/-! ### Mappings -/

/-- What `DmaMap` promises of a mapping of `bytes` bytes: it is not null, and holds bytes
the controller reaches. -/
structure Mapping (bytes : UInt64) where
  handle : UInt64
  address : UInt64
  length : UInt64
  nonnull : handle ≠ 0
  positive : length ≠ 0
  bounded : length ≤ bytes
  reachable : address.toNat + length.toNat ≤ 2 ^ 32

/-- Eight bytes at two megabytes. -/
def Mapping.eightBytes : Mapping 8 :=
  ⟨1, 0x200000, 8, by decide, by decide, by decide, by decide⟩

/-- The same bytes once more. -/
def Mapping.eightBytesAgain : Mapping 8 :=
  ⟨2, 0x200000, 8, by decide, by decide, by decide, by decide⟩

namespace UsbOhciHcDev

variable (dev : UsbOhciHcDev)

/-- `DmaMap`. An answer with a handle that is in use counts as a failed one. -/
def dmaMap {bytes : UInt64} (answer : Except ErrorStatus (Mapping bytes)) :
    Except ErrorStatus (Mapping bytes × UsbOhciHcDev) :=
  match answer with
  | .error status => .error status
  | .ok mapping =>
    if dev.mapped mapping.handle then .error ⟨EfiStatus.outOfResources, rfl⟩
    else .ok (mapping, { dev with mapped := Function.update dev.mapped mapping.handle true })

/-- `AllocatePool`. An answer that is null or in use counts as a failed one. -/
def allocatePool (answer : Option UInt64) : Option (UInt64 × UsbOhciHcDev) :=
  match answer with
  | none => none
  | some buffer =>
    if buffer = 0 ∨ dev.buffer buffer = true then none
    else some (buffer, { dev with buffer := Function.update dev.buffer buffer true })

def dmaUnmap (handle : UInt64) : UsbOhciHcDev :=
  { dev with mapped := Function.update dev.mapped handle false }

end UsbOhciHcDev

/-! ### Endpoint descriptors -/

/-- The fields every transfer sets in the endpoint descriptor it creates. -/
def endpoint (deviceAddress endPointNum : UInt8) (isSlowDevice : Bool) (maxPacketLength : UInt8) :
    EdDescriptor where
  functionAddress := BitVec.ofNat 7 deviceAddress.toNat
  endPointNum := BitVec.ofNat 4 endPointNum.toNat
  direction := 0
  speed := BitVec.ofBool isSlowDevice
  skip := 1
  format := 0
  maxPacketSize := BitVec.ofNat 11 maxPacketLength.toNat
  freeSpace := 0
  tdTailPointer := 0
  halted := 0
  toggleCarry := 0
  zero := 0
  tdHeadPointer := 0
  nextEd := 0

/-- `OhciSetEDField` for `ED_SKIP`. -/
def setSkip (mem : Descriptors) (ed : UInt32) (skip : BitVec 1) : Descriptors :=
  mem.setEd ed { mem.ed ed with skip := skip }

/-- `Ed->NextED` is set. -/
def setNextEd (mem : Descriptors) (ed next : UInt32) : Descriptors :=
  mem.setEd ed { mem.ed ed with nextEd := next }

def ohciAttachEd (mem : Descriptors) (ed newEd : UInt32) : Descriptors :=
  if ed = 0 then mem
  else if nextEd mem ed = 0 then setNextEd mem ed newEd
  else
    let temp := nextEd mem ed
    setNextEd (setNextEd mem ed newEd) newEd temp

/-- `OhciAttachEDToList` for a list that starts in a register: the register, the head of
the list and memory. -/
def ohciAttachEdToList (mem : Descriptors) (register ed : UInt32) :
    UInt32 × UInt32 × Descriptors :=
  if register = 0 then (ed, ed, mem) else (register, register, ohciAttachEd mem register ed)

section

variable {mem : Descriptors} {ed other next newEd : UInt32} {skip : BitVec 1}

@[simp] theorem setSkip_td : (setSkip mem ed skip).td = mem.td := rfl
@[simp] theorem setSkip_live : (setSkip mem ed skip).live = mem.live := rfl
@[simp] theorem setNextEd_td : (setNextEd mem ed next).td = mem.td := rfl
@[simp] theorem setNextEd_live : (setNextEd mem ed next).live = mem.live := rfl

@[simp] theorem ohciAttachEd_td : (ohciAttachEd mem ed newEd).td = mem.td := by
  unfold ohciAttachEd
  split
  · rfl
  · split <;> rfl

@[simp] theorem ohciAttachEd_live : (ohciAttachEd mem ed newEd).live = mem.live := by
  unfold ohciAttachEd
  split
  · rfl
  · split <;> rfl

end

/-! ### Outcomes -/

/-- A chain that was submitted: the endpoint descriptor, the head of the chain, memory as the
controller found it, and where the waiting ended. -/
structure Submitted where
  ed : UInt32
  head : UInt32
  mem : Descriptors
  waited : Waited

/-- What a transfer did with the request: it refused the parameters, it did not get as far
as submitting a chain, or it submitted one. -/
inductive Fate
  | refused
  | unsubmitted
  | submitted (chain : Submitted)

/-- What the caller gets back. -/
structure TransferOutcome where
  status : EfiStatus
  dataLength : UInt64
  dataToggle : UInt8
  transferResult : Option UInt32
  fate : Fate
  dev : UsbOhciHcDev

/-- The status and the length a transfer reports are true. A chain that was submitted is
judged by what the last poll finds: success means that every data descriptor has condition
code zero, and where one has not, or the list is still being filled, the caller gets an
error, and not the length it asked for. -/
def TransferOutcome.Truthful (outcome : TransferOutcome) (listType : DescriptorListType)
    (polls : Nat → Poll) (requested : UInt64) : Prop :=
  match outcome.fate with
  | .refused => outcome.status.isError = true
  | .unsubmitted => outcome.status.isError = true ∧ outcome.dataLength ≠ requested
  | .submitted chain =>
    ∀ data empty, TdChain chain.mem chain.head (data ++ [empty]) →
      let poll := polls chain.waited.last
      let code := fun cell => ((poll.observe chain.mem).td cell).conditionCode
      (outcome.status = EfiStatus.success → ∀ cell ∈ data, code cell = tdNoError) ∧
        ((listType.filling poll = true ∨ ∃ cell ∈ data, code cell ≠ tdNoError) →
          outcome.status.isError = true ∧ outcome.dataLength ≠ requested)

theorem TdChain.data_unique {mem : Descriptors} {head empty empty' : UInt32}
    {data data' : List UInt32} (chain : TdChain mem head (data ++ [empty]))
    (other : TdChain mem head (data' ++ [empty'])) : data = data' := by
  have same := chain.driver.unique other.driver
  exact (List.append_inj' same rfl).1

theorem pollCode_eq_zero {listType : DescriptorListType} {mem : Descriptors}
    {cells : List UInt32} {poll : Poll} :
    pollCode listType mem cells poll = tdNoError ↔ listType.filling poll = false ∧
      ∀ cell ∈ cells, ((poll.observe mem).td cell).conditionCode = tdNoError := by
  unfold pollCode
  split
  · next filling =>
    constructor
    · intro same
      exact absurd same (by decide)
    · rintro ⟨done, -⟩
      rw [filling] at done
      cases done
  · next done =>
    rw [firstCode_eq_zero]
    exact ⟨fun all => ⟨Bool.eq_false_iff.mpr done, all⟩, fun both => both.2⟩

end MuRockchip.Ohci
