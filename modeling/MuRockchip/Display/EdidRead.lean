/-
Reading the EDID of a display (`DwHdmi.c`, `DwHdmiCore.c`).

A block is read byte by byte over the DDC bus: even and odd blocks are the halves of a segment.
`DwHdmiDetect` reads the first block and then as many extension blocks as it names and as can
be read, up to five. An extension block should go behind the one before it, but is stored at
`128 + (1 + NumExt)`, one byte further for each block.

* `exec_edidRead`: what a read of a block does.
* `assembleEdid_parse`: what the buffer holds when it is parsed.
* `assembleEdid_blocks_iff`: when it holds the blocks of the display.
-/
import Mathlib.Data.UInt
import Mathlib.Logic.Function.Basic
import MuRockchip.Base.Prog
import MuRockchip.Uefi.Status

namespace MuRockchip.Display

open Base Base.Prog

/-! ### The controller -/

/-- The registers of the controller that reading uses. -/
inductive HdmiReg
  | ihI2cmStat0
  | i2cmSlave
  | i2cmAddress
  | i2cmDatai
  | i2cmOperation
  | i2cmDiv
  | i2cmSegaddr
  | i2cmSoftrstz
  | i2cmSegptr
  | i2cmSsSclHcnt0Addr
  | i2cmSsSclLcnt0Addr
  | i2cmSdaHold
  deriving DecidableEq, Repr

/-- `DwHdmiWrite`, `DwHdmiRead`, and accesses of the buffer `Buf`. -/
inductive DdcOp
  | write (reg : HdmiReg) (val : UInt8)
  | read (reg : HdmiReg)
  | store (index : Nat) (byte : UInt8)
  | load (index : Nat)

def ddc : Interface where
  Op := DdcOp
  Ret
    | .write _ _ => Unit
    | .read _ => UInt8
    | .store _ _ => Unit
    | .load _ => UInt8

abbrev Driver (α : Type) : Type := Prog ddc Empty α

def dwHdmiWrite (reg : HdmiReg) (val : UInt8) : Driver Unit :=
  @invoke ddc Empty (DdcOp.write reg val)

def dwHdmiRead (reg : HdmiReg) : Driver UInt8 := @invoke ddc Empty (DdcOp.read reg)

def store (index : Nat) (byte : UInt8) : Driver Unit :=
  @invoke ddc Empty (DdcOp.store index byte)

def load (index : Nat) : Driver UInt8 := @invoke ddc Empty (DdcOp.load index)

def stat0Error : UInt8 := 0x01
def stat0Done : UInt8 := 0x02
def operationRd : UInt8 := 0x01
def operationRdExt : UInt8 := 0x02
def ddcAddr : UInt8 := 0x50
def ddcSegmentAddr : UInt8 := 0x30

/-! ### The driver -/

/-- The loop that waits for a byte. -/
def waitXfer : Nat → Driver EfiStatus
  | 0 => do
    -- The message about it reads the status once more.
    let _ ← dwHdmiRead .ihI2cmStat0
    pure EfiStatus.timeout
  | retry + 1 => do
    let val ← dwHdmiRead .ihI2cmStat0
    if val &&& stat0Error ≠ 0 then pure EfiStatus.deviceError
    else if val &&& stat0Done ≠ 0 then do
      dwHdmiWrite .ihI2cmStat0 val
      pure EfiStatus.success
    else waitXfer retry

/-- The loop over the bytes of a block, from byte `n` on. -/
def readBytes (buf off : Nat) (operation : UInt8) : Nat → Nat → Driver EfiStatus
  | 0, _ => pure EfiStatus.success
  | count + 1, n => do
    dwHdmiWrite .i2cmAddress (UInt8.ofNat (n + off))
    dwHdmiWrite .i2cmOperation operation
    let status ← waitXfer 10000
    if status = EfiStatus.success then do
      let byte ← dwHdmiRead .i2cmDatai
      store (buf + n) byte
      readBytes buf off operation count (n + 1)
    else pure status

/-- `DwHdmiEdidRead`, into `Buf` from the index `buf` on. -/
def dwHdmiEdidRead (block : UInt8) (buf len : Nat) : Driver EfiStatus := do
  dwHdmiWrite .i2cmSoftrstz 0
  let stat ← dwHdmiRead .ihI2cmStat0
  dwHdmiWrite .ihI2cmStat0 stat
  dwHdmiWrite .i2cmSdaHold 0x48
  dwHdmiWrite .i2cmSsSclHcnt0Addr 0x71
  dwHdmiWrite .i2cmSsSclLcnt0Addr 0x76
  dwHdmiWrite .i2cmDiv 0
  dwHdmiWrite .i2cmSlave ddcAddr
  dwHdmiWrite .i2cmSegaddr ddcSegmentAddr
  let operation := if block ≠ 0 then operationRdExt else operationRd
  let off := if block &&& 1 ≠ 0 then 128 else 0
  dwHdmiWrite .i2cmSegptr (block >>> 1)
  readBytes buf off operation len 0

def maxEdidExtensionBlocks : UInt8 := 5

/-- `MIN`. -/
def minByte (left right : UInt8) : UInt8 := if left < right then left else right

/-- The loop over the tries to read the first block. -/
def readFirst : Nat → Driver EfiStatus
  | 0 => dwHdmiEdidRead 0 0 128
  | again + 1 => do
    let status ← dwHdmiEdidRead 0 0 128
    if status = EfiStatus.success then pure status else readFirst again

/-- The loop over the extension blocks, which answers `NumExt`. -/
def readExtensions : Nat → UInt8 → Driver UInt8
  | 0, numExt => pure numExt
  | rounds + 1, numExt => do
    let declared ← load 126
    if numExt < minByte maxEdidExtensionBlocks declared then do
      let status ← dwHdmiEdidRead (1 + numExt) (128 + (1 + numExt.toNat)) 128
      if status ≠ EfiStatus.success then pure numExt
      else readExtensions rounds (numExt + 1)
    else pure numExt

/-- `DwHdmiDetect` with a display that is plugged in, up to the call of `DwHdmiParseEdid`:
its `NumExt`, or none where the call is not made. -/
def assembleEdid : Driver (Option UInt8) := do
  let status ← readFirst 4
  if status.isError then pure none
  else do
    let numExt ← readExtensions 5 0
    pure (some numExt)

/-! ### The display -/

/-- The controller, with the buffer of the driver. -/
structure Ddc where
  regs : HdmiReg → UInt8
  buf : Nat → UInt8
  /-- How often the status has been read. -/
  polled : Nat
  /-- The places of the buffer that were stored to. -/
  stores : List Nat
  /-- The bytes of the display that were read. -/
  fetched : List Nat

/-- The byte of the display that a transfer is about. -/
def Ddc.source (state : Ddc) : Nat :=
  if state.regs .i2cmOperation = operationRdExt then
    256 * (state.regs .i2cmSegptr).toNat + (state.regs .i2cmAddress).toNat
  else (state.regs .i2cmAddress).toNat

/-- A display with the EDID `sink`. The answers of the status register are `status`, in order;
writes only acknowledge them. -/
def display (sink status : Nat → UInt8) : Handler ddc Ddc
  | .write .ihI2cmStat0 _, state => some ((), state)
  | .write reg val, state => some ((), { state with regs := Function.update state.regs reg val })
  | .read .ihI2cmStat0, state =>
    some (status state.polled, { state with polled := state.polled + 1 })
  | .read .i2cmDatai, state =>
    some (sink state.source, { state with fetched := state.fetched ++ [state.source] })
  | .read reg, state => some (state.regs reg, state)
  | .store index byte, state =>
    some ((), { state with
      buf := Function.update state.buf index byte
      stores := state.stores ++ [index] })
  | .load index, state => some (state.buf index, state)

/-- When `DwHdmiDetect` is called. The buffer is not initialised. -/
def Ddc.start (regs : HdmiReg → UInt8) (buf : Nat → UInt8) : Ddc := ⟨regs, buf, 0, [], []⟩

/-! ### The answers of the status register -/

/-- How waiting for a byte ends, from an answer on, and the answer after the last one it saw. -/
def settled (status : Nat → UInt8) : Nat → Nat → EfiStatus × Nat
  | 0, polled => (EfiStatus.timeout, polled + 1)
  | retry + 1, polled =>
    if status polled &&& stat0Error ≠ 0 then (EfiStatus.deviceError, polled + 1)
    else if status polled &&& stat0Done ≠ 0 then (EfiStatus.success, polled + 1)
    else settled status retry (polled + 1)

/-- What is read of a run of bytes. -/
structure Answer where
  bytes : Nat
  status : EfiStatus
  polled : Nat

/-- What is read of `count` bytes, from an answer on. -/
def answered (status : Nat → UInt8) : Nat → Nat → Answer
  | 0, polled => ⟨0, EfiStatus.success, polled⟩
  | count + 1, polled =>
    if (settled status 10000 polled).1 = EfiStatus.success then
      let rest := answered status count (settled status 10000 polled).2
      { rest with bytes := rest.bytes + 1 }
    else ⟨0, (settled status 10000 polled).1, (settled status 10000 polled).2⟩

/-- What is read of a block. Its first answer is only acknowledged. -/
def blockAnswered (status : Nat → UInt8) (polled : Nat) : Answer :=
  answered status 128 (polled + 1)

/-- After which answer the first block has been read, if it has. -/
def firstAnswered (status : Nat → UInt8) : Nat → Nat → Option Nat
  | 0, polled =>
    if (blockAnswered status polled).status = EfiStatus.success then
      some (blockAnswered status polled).polled
    else none
  | again + 1, polled =>
    if (blockAnswered status polled).status = EfiStatus.success then
      some (blockAnswered status polled).polled
    else firstAnswered status again (blockAnswered status polled).polled

variable {status initial : Nat → UInt8}

theorem settled_isError {retry polled : Nat}
    (failed : (settled status retry polled).1 ≠ EfiStatus.success) :
    (settled status retry polled).1.isError = true := by
  induction retry generalizing polled with
  | zero => rfl
  | succ retry ih =>
    rw [settled] at failed ⊢
    split at failed
    · rw [if_pos ‹_›]
      rfl
    · rw [if_neg ‹_›]
      split at failed
      · exact absurd rfl failed
      · rw [if_neg ‹_›]
        exact ih failed

theorem answered_isError {count polled : Nat}
    (failed : (answered status count polled).status ≠ EfiStatus.success) :
    (answered status count polled).status.isError = true := by
  induction count generalizing polled with
  | zero => exact absurd rfl failed
  | succ count ih =>
    rw [answered] at failed ⊢
    split at failed
    · rw [if_pos ‹_›]
      exact ih failed
    · rw [if_neg ‹_›]
      exact settled_isError failed

/-- A run of bytes is read whole or not successfully. -/
theorem answered_bytes (status : Nat → UInt8) (count polled : Nat) :
    (answered status count polled).bytes ≤ count ∧
      ((answered status count polled).status = EfiStatus.success ↔
        (answered status count polled).bytes = count) := by
  induction count generalizing polled with
  | zero => exact ⟨Nat.le_refl _, iff_of_true rfl rfl⟩
  | succ count ih =>
    rw [answered]
    split
    · obtain ⟨below, whole⟩ := ih (settled status 10000 polled).2
      exact ⟨Nat.succ_le_succ below, whole.trans Nat.succ_inj.symm⟩
    · exact ⟨Nat.zero_le _, iff_of_false ‹_› (Nat.succ_ne_zero count).symm⟩

theorem blockAnswered_bytes (status : Nat → UInt8) (polled : Nat) :
    (blockAnswered status polled).bytes ≤ 128 ∧
      ((blockAnswered status polled).status = EfiStatus.success ↔
        (blockAnswered status polled).bytes = 128) :=
  answered_bytes status 128 (polled + 1)

/-! ### What a read does -/

section Run

variable {sink status : Nat → UInt8}

/-- Bytes of the display have been read to a place in the buffer. -/
structure Transferred (sink : Nat → UInt8) (state after : Ddc) (place source count : Nat) :
    Prop where
  buf : ∀ index, after.buf index =
    if place ≤ index ∧ index < place + count then sink (source + (index - place))
    else state.buf index
  stores : ∀ index ∈ after.stores,
    index ∈ state.stores ∨ place ≤ index ∧ index < place + count
  fetched : ∀ byte, byte ∈ after.fetched ↔
    byte ∈ state.fetched ∨ source ≤ byte ∧ byte < source + count

theorem exec_waitXfer (retry : Nat) (state : Ddc) :
    (waitXfer retry).exec (display sink status) state =
      some (.ok (settled status retry state.polled).1,
        { state with polled := (settled status retry state.polled).2 }) := by
  induction retry generalizing state with
  | zero => rfl
  | succ retry ih =>
    have polled : (dwHdmiRead .ihI2cmStat0).exec (display sink status) state =
        some (.ok (status state.polled), { state with polled := state.polled + 1 }) := rfl
    rw [waitXfer, exec_bind_ok polled, settled]
    by_cases error : status state.polled &&& stat0Error ≠ 0
    · rw [if_pos error, if_pos error]
      rfl
    · rw [if_neg error, if_neg error]
      by_cases done : status state.polled &&& stat0Done ≠ 0
      · rw [if_pos done, if_pos done]
        rfl
      · rw [if_neg done, if_neg done, ih]

variable {after state : Ddc} {count : Nat}

theorem Transferred.none (buf : after.buf = state.buf) (stores : after.stores = state.stores)
    (fetched : after.fetched = state.fetched)
    (place source : Nat) : Transferred sink state after place source 0 where
  buf index := by rw [buf, if_neg (by omega)]
  stores index member := .inl (stores ▸ member)
  fetched byte := by
    rw [fetched]
    exact ⟨.inl, Or.rec id fun inside => absurd inside (by omega)⟩

/-- Bytes that are read to the place after others make one run with them. -/
theorem Transferred.append {middle : Ddc} {place source more : Nat}
    (first : Transferred sink state middle place source count)
    (later : Transferred sink middle after (place + count) (source + count) more) :
    Transferred sink state after place source (count + more) where
  buf index := by
    rw [later.buf, first.buf]
    by_cases second : place + count ≤ index ∧ index < place + count + more
    · rw [if_pos second, if_pos (by omega)]
      exact congrArg sink (by omega)
    · rw [if_neg second]
      by_cases inside : place ≤ index ∧ index < place + count
      · rw [if_pos inside, if_pos (by omega)]
      · rw [if_neg inside, if_neg (by omega)]
  stores index member := by
    rcases later.stores index member with earlier | inside
    · rcases first.stores index earlier with before | inside
      · exact .inl before
      · exact .inr (by omega)
    · exact .inr (by omega)
  fetched byte := by
    rw [later.fetched, first.fetched, or_assoc]
    refine or_congr_right ⟨fun inside => ?_, fun inside => ?_⟩ <;> omega

/-- The controller is set up so that byte `off + n` of its addresses is byte `n` of the block. -/
def Ddc.Aimed (state : Ddc) (block off : Nat) (operation : UInt8) : Prop :=
  off ≤ 128 ∧ (operation = operationRdExt ∧
      256 * (state.regs .i2cmSegptr).toNat + off = 128 * block ∨
    operation = operationRd ∧ off = 128 * block)

/-- The transfer of one byte is started. -/
def Ddc.started (state : Ddc) (address operation : UInt8) : Ddc :=
  { state with
    regs := Function.update (Function.update state.regs .i2cmAddress address)
      .i2cmOperation operation }

theorem source_started {block off n : Nat} {operation : UInt8}
    (aimed : state.Aimed block off operation) (small : n < 128) :
    (state.started (UInt8.ofNat (n + off)) operation).source = 128 * block + n := by
  obtain ⟨half, which⟩ := aimed
  have inside : n + off < 256 := by omega
  have address : (UInt8.ofNat (n + off)).toNat = n + off := UInt8.toNat_ofNat_of_lt' inside
  rcases which with ⟨rfl, segment⟩ | ⟨rfl, start⟩
  · change (if operationRdExt = operationRdExt then
      256 * (state.regs .i2cmSegptr).toNat + (UInt8.ofNat (n + off)).toNat else _) = _
    rw [if_pos rfl, address]
    omega
  · change (if operationRd = operationRdExt then _ else (UInt8.ofNat (n + off)).toNat) = _
    rw [if_neg (by decide), address]
    omega

/-- The byte of a finished transfer is stored. -/
def Ddc.stored (sink : Nat → UInt8) (state : Ddc) (place : Nat) : Ddc :=
  { state with
    buf := Function.update state.buf place (sink state.source)
    stores := state.stores ++ [place]
    fetched := state.fetched ++ [state.source] }

theorem transferred_stored {before : Ddc} (place : Nat) (buf : before.buf = state.buf)
    (stores : before.stores = state.stores) (fetched : before.fetched = state.fetched) :
    Transferred sink state (before.stored sink place) place before.source 1 where
  buf index := by
    by_cases here : index = place
    · subst here
      rw [if_pos (by omega), Nat.sub_self, Nat.add_zero]
      exact Function.update_self _ _ _
    · rw [if_neg (by omega), ← buf]
      exact Function.update_of_ne here _ _
  stores index member := by
    rcases List.mem_append.mp member with earlier | new
    · exact .inl (stores ▸ earlier)
    · exact .inr (by rw [List.mem_singleton.mp new]; omega)
  fetched byte := by
    have member : byte ∈ (before.stored sink place).fetched ↔
        byte ∈ before.fetched ∨ byte = before.source := by
      rw [Ddc.stored, List.mem_append, List.mem_singleton]
    rw [member, fetched]
    exact or_congr_right ⟨fun here => by omega, fun inside => by omega⟩

theorem exec_readBytes (buf off : Nat) (operation : UInt8) (block count n : Nat) (state : Ddc)
    (room : n + count ≤ 128) (aimed : state.Aimed block off operation) :
    ∃ after, (readBytes buf off operation count n).exec (display sink status) state =
        some (.ok (answered status count state.polled).status, after) ∧
      after.polled = (answered status count state.polled).polled ∧
      Transferred sink state after (buf + n) (128 * block + n)
        (answered status count state.polled).bytes := by
  induction count generalizing n state with
  | zero => exact ⟨state, rfl, rfl, .none rfl rfl rfl _ _⟩
  | succ count ih =>
    let begun := state.started (UInt8.ofNat (n + off)) operation
    have addressed : (dwHdmiWrite .i2cmAddress (UInt8.ofNat (n + off))).exec
        (display sink status) state = some (.ok (), { state with
          regs := Function.update state.regs .i2cmAddress (UInt8.ofNat (n + off)) }) := rfl
    have operated : (dwHdmiWrite .i2cmOperation operation).exec (display sink status)
        { state with
          regs := Function.update state.regs .i2cmAddress (UInt8.ofNat (n + off)) } =
        some (.ok (), begun) := rfl
    have source : begun.source = 128 * block + n := source_started aimed (by omega)
    let waited : Ddc := { begun with polled := (settled status 10000 state.polled).2 }
    have waiting : (waitXfer 10000).exec (display sink status) begun =
        some (.ok (settled status 10000 state.polled).1, waited) := exec_waitXfer 10000 begun
    rw [readBytes, exec_bind_ok addressed, exec_bind_ok operated, exec_bind_ok waiting, answered]
    by_cases succeeded : (settled status 10000 state.polled).1 = EfiStatus.success
    · have taken : (dwHdmiRead .i2cmDatai).exec (display sink status) waited =
          some (.ok (sink waited.source), { waited with
            fetched := waited.fetched ++ [waited.source] }) := rfl
      have kept : (store (buf + n) (sink waited.source)).exec (display sink status)
          { waited with fetched := waited.fetched ++ [waited.source] } =
          some (.ok (), waited.stored sink (buf + n)) := rfl
      have one : Transferred sink state (waited.stored sink (buf + n)) (buf + n)
          (128 * block + n) 1 := source ▸ transferred_stored (buf + n) rfl rfl rfl
      obtain ⟨after, run, polled, more⟩ := ih (n + 1) (waited.stored sink (buf + n)) (by omega)
        aimed
      rw [if_pos succeeded, if_pos succeeded, exec_bind_ok taken, exec_bind_ok kept]
      refine ⟨after, run, polled, ?_⟩
      change Transferred _ _ _ _ _ ((answered status count _).bytes + 1)
      rw [Nat.add_comm _ 1]
      exact one.append more
    · have idle : Transferred sink state waited (buf + n) (128 * block + n) 0 := by
        apply Transferred.none <;> rfl
      rw [if_neg succeeded, if_neg succeeded]
      exact ⟨waited, rfl, rfl, idle⟩

theorem exec_write {reg : HdmiReg} (plain : reg ≠ .ihI2cmStat0) (val : UInt8) {α : Type}
    (next : Unit → Driver α) (state : Ddc) :
    (dwHdmiWrite reg val >>= next).exec (display sink status) state =
      (next ()).exec (display sink status)
        { state with regs := Function.update state.regs reg val } := by
  cases reg
  case ihI2cmStat0 => exact absurd rfl plain
  all_goals rfl

theorem segment_add_half (block : UInt8) :
    256 * (block >>> 1).toNat + (if block &&& 1 ≠ 0 then 128 else 0) = 128 * block.toNat := by
  have segment : (block >>> 1).toNat = block.toNat / 2 := by
    rw [UInt8.toNat_shiftRight]
    exact Nat.shiftRight_one _
  have odd : (block &&& 1).toNat = block.toNat % 2 := by
    rw [UInt8.toNat_and]
    exact Nat.and_one_is_mod _
  rw [segment]
  by_cases even : block &&& 1 = 0
  · rw [if_neg (not_not_intro even)]
    rw [even] at odd
    have : (0 : UInt8).toNat = 0 := rfl
    omega
  · rw [if_pos even]
    have : (block &&& 1).toNat ≠ 0 := fun none => even (UInt8.toNat_inj.mp none)
    omega

theorem aimed_of_segptr (block : UInt8) (segment : state.regs .i2cmSegptr = block >>> 1) :
    state.Aimed block.toNat (if block &&& 1 ≠ 0 then 128 else 0)
      (if block ≠ 0 then operationRdExt else operationRd) := by
  have whole := segment_add_half block
  refine ⟨by split <;> decide, ?_⟩
  by_cases first : block = 0
  · subst first
    exact .inr ⟨rfl, rfl⟩
  · rw [if_pos first, segment]
    exact .inl ⟨rfl, whole⟩

theorem exec_readBlock (block : UInt8) (place : Nat) {ready : Ddc}
    (segment : ready.regs .i2cmSegptr = block >>> 1) (polled : ready.polled = state.polled + 1)
    (buf : ready.buf = state.buf) (stores : ready.stores = state.stores)
    (fetched : ready.fetched = state.fetched) :
    ∃ after, (readBytes place (if block &&& 1 ≠ 0 then 128 else 0)
        (if block ≠ 0 then operationRdExt else operationRd) 128 0).exec
        (display sink status) ready =
        some (.ok (blockAnswered status state.polled).status, after) ∧
      after.polled = (blockAnswered status state.polled).polled ∧
      Transferred sink state after place (128 * block.toNat)
        (blockAnswered status state.polled).bytes := by
  obtain ⟨after, run, ended, moved⟩ := exec_readBytes place _ _ block.toNat 128 0 ready
    (Nat.le_refl _) (aimed_of_segptr block segment)
  rw [polled] at run ended moved
  have idle : Transferred sink state ready place (128 * block.toNat) 0 :=
    .none buf stores fetched _ _
  refine ⟨after, run, ended, ?_⟩
  rw [← Nat.zero_add (blockAnswered status state.polled).bytes]
  exact idle.append moved

/-- Reading a block takes its bytes, from the first on, to the place it is given. -/
theorem exec_dwHdmiEdidRead (block : UInt8) (place : Nat) (state : Ddc) :
    ∃ after, (dwHdmiEdidRead block place 128).exec (display sink status) state =
        some (.ok (blockAnswered status state.polled).status, after) ∧
      after.polled = (blockAnswered status state.polled).polled ∧
      Transferred sink state after place (128 * block.toNat)
        (blockAnswered status state.polled).bytes := by
  have reset : (dwHdmiRead .ihI2cmStat0).exec (display sink status)
      { state with regs := Function.update state.regs .i2cmSoftrstz 0 } =
      some (.ok (status state.polled),
        { state with
          regs := Function.update state.regs .i2cmSoftrstz 0
          polled := state.polled + 1 }) := rfl
  have acknowledged (ready : Ddc) : (dwHdmiWrite .ihI2cmStat0 (status state.polled)).exec
      (display sink status) ready = some (.ok (), ready) := rfl
  rw [dwHdmiEdidRead, exec_write (by decide), exec_bind_ok reset, exec_bind_ok (acknowledged _),
    exec_write (by decide), exec_write (by decide), exec_write (by decide),
    exec_write (by decide), exec_write (by decide), exec_write (by decide)]
  dsimp only
  rw [exec_write (by decide)]
  exact exec_readBlock block place rfl rfl rfl rfl rfl

/-! ### The buffer -/

variable {initial : Nat → UInt8}

/-- Only the first block has been tried, on a buffer that held `initial`. -/
structure Trying (initial : Nat → UInt8) (state : Ddc) : Prop where
  rest : ∀ index, 128 ≤ index → state.buf index = initial index
  stores : ∀ index ∈ state.stores, index < 128
  fetched : ∀ byte ∈ state.fetched, byte < 128

/-- The first block is in place, `numExt` extension blocks have been read, and `more` bytes of
the next one. Byte 128 of the buffer is as it was. -/
structure Assembling (sink initial : Nat → UInt8) (numExt more : Nat) (state : Ddc) : Prop where
  first : ∀ index < 128, state.buf index = sink index
  skipped : state.buf 128 = initial 128
  stores : ∀ index ∈ state.stores, index < 768
  fetched : ∀ byte, byte ∈ state.fetched ↔ byte < 128 * (numExt + 1) + more

theorem Trying.transferred (trying : Trying initial state) (few : count ≤ 128)
    (moved : Transferred sink state after 0 0 count) :
    Trying initial after where
  rest index later := by
    rw [moved.buf, if_neg (by omega)]
    exact trying.rest index later
  stores index member := by
    rcases moved.stores index member with earlier | inside
    · exact trying.stores index earlier
    · omega
  fetched byte member := by
    rcases (moved.fetched byte).mp member with earlier | inside
    · exact trying.fetched byte earlier
    · omega

theorem Trying.assembling (trying : Trying initial state)
    (moved : Transferred sink state after 0 0 128) : Assembling sink initial 0 0 after where
  first index small := by
    rw [moved.buf, if_pos (by omega), Nat.zero_add, Nat.sub_zero]
  skipped := by
    rw [moved.buf, if_neg (by omega)]
    exact trying.rest 128 (Nat.le_refl _)
  stores index member := by
    have := (trying.transferred (Nat.le_refl _) moved).stores index member
    omega
  fetched byte := by
    rw [moved.fetched]
    exact ⟨Or.rec (fun earlier => trying.fetched byte earlier) fun inside => by omega,
      fun small => .inr (by omega)⟩

/-- An extension block is stored behind byte 128, and leaves the first block alone. -/
theorem Assembling.transferred {numExt : Nat} (assembling : Assembling sink initial numExt 0 state)
    (early : numExt < 5) (few : count ≤ 128)
    (moved : Transferred sink state after (128 + (1 + numExt)) (128 * (1 + numExt)) count) :
    Assembling sink initial numExt count after where
  first index small := by
    rw [moved.buf, if_neg (by omega)]
    exact assembling.first index small
  skipped := by
    rw [moved.buf, if_neg (by omega)]
    exact assembling.skipped
  stores index member := by
    rcases moved.stores index member with earlier | inside
    · exact assembling.stores index earlier
    · omega
  fetched byte := by
    rw [moved.fetched, assembling.fetched]
    omega

/-- The next block has been read whole. -/
theorem Assembling.whole {numExt : Nat} (assembling : Assembling sink initial numExt 128 state) :
    Assembling sink initial (numExt + 1) 0 state :=
  { assembling with
    fetched := fun byte => by
      rw [assembling.fetched]
      omega }

theorem exec_try {state : Ddc} (trying : Trying initial state) :
    ∃ after, (dwHdmiEdidRead 0 0 128).exec (display sink status) state =
        some (.ok (blockAnswered status state.polled).status, after) ∧
      after.polled = (blockAnswered status state.polled).polled ∧ Trying initial after ∧
      ((blockAnswered status state.polled).status = EfiStatus.success →
        Assembling sink initial 0 0 after) := by
  obtain ⟨after, run, polled, moved⟩ := @exec_dwHdmiEdidRead sink status 0 0 state
  obtain ⟨few, whole⟩ := blockAnswered_bytes status state.polled
  refine ⟨after, run, polled, trying.transferred few moved, fun succeeded => ?_⟩
  have all : (blockAnswered status state.polled).bytes = 128 := whole.mp succeeded
  rw [all] at moved
  exact trying.assembling moved

theorem exec_readFirst (again : Nat) {state : Ddc} (trying : Trying initial state) :
    ∃ result after, (readFirst again).exec (display sink status) state =
        some (.ok result, after) ∧
      match firstAnswered status again state.polled with
      | none => result.isError = true
      | some polled => result = EfiStatus.success ∧ after.polled = polled ∧
        Assembling sink initial 0 0 after := by
  induction again generalizing state with
  | zero =>
    obtain ⟨after, run, polled, -, whole⟩ := @exec_try sink status _ _ trying
    refine ⟨_, after, run, ?_⟩
    rw [firstAnswered]
    by_cases succeeded : (blockAnswered status state.polled).status = EfiStatus.success
    · rw [if_pos succeeded]
      exact ⟨succeeded, polled, whole succeeded⟩
    · rw [if_neg succeeded]
      exact answered_isError succeeded
  | succ again ih =>
    obtain ⟨after, run, polled, still, whole⟩ := @exec_try sink status _ _ trying
    rw [readFirst, exec_bind_ok run, firstAnswered]
    by_cases succeeded : (blockAnswered status state.polled).status = EfiStatus.success
    · rw [if_pos succeeded, if_pos succeeded]
      exact ⟨_, after, rfl, succeeded, polled, whole succeeded⟩
    · rw [if_neg succeeded, if_neg succeeded, ← polled]
      exact ih still

/-- The next extension block is named by the first block, and can be read. -/
def Goes (sink status : Nat → UInt8) (numExt : UInt8) (polled : Nat) : Prop :=
  numExt < minByte maxEdidExtensionBlocks (sink 126) ∧
    (blockAnswered status polled).status = EfiStatus.success

theorem exec_readExtensions (rounds : Nat) {numExt : UInt8} {state : Ddc}
    (fits : numExt.toNat + rounds = 5)
    (assembling : Assembling sink initial numExt.toNat 0 state) :
    ∃ result more after, (readExtensions rounds numExt).exec (display sink status) state =
        some (.ok result, after) ∧
      more < 128 ∧ Assembling sink initial result.toNat more after ∧
      numExt.toNat ≤ result.toNat ∧
      (rounds ≠ 0 → (numExt.toNat < result.toNat ↔ Goes sink status numExt state.polled)) := by
  induction rounds generalizing numExt state with
  | zero =>
    exact ⟨numExt, 0, state, rfl, by decide, assembling, Nat.le_refl _, fun some => absurd rfl some⟩
  | succ rounds ih =>
    have loaded : (load 126).exec (display sink status) state =
        some (.ok (sink 126), state) := by
      rw [← assembling.first 126 (by decide)]
      rfl
    rw [readExtensions, exec_bind_ok loaded]
    by_cases named : numExt < minByte maxEdidExtensionBlocks (sink 126)
    · have next : (1 + numExt).toNat = 1 + numExt.toNat := by
        rw [UInt8.toNat_add]
        have : (1 : UInt8).toNat = 1 := rfl
        omega
      obtain ⟨after, run, polled, moved⟩ := @exec_dwHdmiEdidRead sink status (1 + numExt)
        (128 + (1 + numExt.toNat)) state
      obtain ⟨few, whole⟩ := blockAnswered_bytes status state.polled
      rw [next] at moved
      have moving := assembling.transferred (by omega) few moved
      rw [if_pos named, exec_bind_ok run]
      by_cases succeeded : (blockAnswered status state.polled).status = EfiStatus.success
      · have all : (blockAnswered status state.polled).bytes = 128 := whole.mp succeeded
        have later : (numExt + 1).toNat = numExt.toNat + 1 := by
          rw [UInt8.add_comm, next, Nat.add_comm]
        rw [all] at moving
        have moved : Assembling sink initial (numExt + 1).toNat 0 after :=
          later ▸ moving.whole
        obtain ⟨result, more, last, ended, small, assembled, grown, -⟩ :=
          ih (by omega) moved
        rw [if_neg (not_not_intro succeeded)]
        exact ⟨result, more, last, ended, small, assembled, by omega, fun _ =>
          iff_of_true (by omega) ⟨named, succeeded⟩⟩
      · rw [if_pos succeeded]
        refine ⟨numExt, _, after, rfl, ?_, moving, Nat.le_refl _, fun _ => ?_⟩
        · exact lt_of_le_of_ne few fun all => succeeded (whole.mpr all)
        · exact iff_of_false (Nat.lt_irrefl _) fun goes => succeeded goes.2
    · rw [if_neg named]
      exact ⟨numExt, 0, state, rfl, by decide, assembling, Nat.le_refl _, fun _ =>
        iff_of_false (Nat.lt_irrefl _) fun goes => named goes.1⟩

/-- What the buffer holds when it is parsed. -/
theorem assembleEdid_parse (regs : HdmiReg → UInt8) :
    match firstAnswered status 4 0 with
    | none => ∃ after, assembleEdid.exec (display sink status) (.start regs initial) =
        some (.ok none, after)
    | some polled => ∃ numExt more after,
        assembleEdid.exec (display sink status) (.start regs initial) =
          some (.ok (some numExt), after) ∧
        more < 128 ∧ Assembling sink initial numExt.toNat more after ∧
        (0 < numExt.toNat ↔ Goes sink status 0 polled) := by
  have trying : Trying initial (.start regs initial) :=
    ⟨fun _ _ => rfl, fun _ member => absurd member List.not_mem_nil,
      fun _ member => absurd member List.not_mem_nil⟩
  obtain ⟨result, after, run, outcome⟩ := @exec_readFirst sink status _ 4 _ trying
  rw [assembleEdid, exec_bind_ok run]
  change match firstAnswered status 4 0 with | none => _ | some polled => _ at outcome
  cases read : firstAnswered status 4 0 with
  | none =>
    rw [read] at outcome
    rw [if_pos outcome]
    exact ⟨after, rfl⟩
  | some polled =>
    rw [read] at outcome
    obtain ⟨rfl, rfl, assembling⟩ := outcome
    obtain ⟨numExt, more, last, ended, small, assembled, -, goes⟩ :=
      @exec_readExtensions sink status initial 5 0 after rfl assembling
    rw [if_neg (by decide), exec_bind_ok ended]
    exact ⟨numExt, more, last, rfl, small, assembled, goes (by decide)⟩

end Run

/-! ### The blocks of the display -/

/-- The buffer holds the blocks of the display that are parsed, all that were read are parsed,
and nothing was stored outside the buffer. -/
structure Assembled (sink : Nat → UInt8) (numExt : UInt8) (state : Ddc) : Prop where
  blocks : ∀ block ≤ numExt.toNat, ∀ byte < 128,
    state.buf (128 * block + byte) = sink (128 * block + byte)
  counted : ∀ block, 0 < block →
    ((∀ byte < 128, 128 * block + byte ∈ state.fetched) ↔ block ≤ numExt.toNat)
  stores : ∀ index ∈ state.stores, index < 128 * (1 + maxEdidExtensionBlocks.toNat)

theorem Assembling.counted {sink : Nat → UInt8} {numExt more : Nat} {state : Ddc}
    (assembling : Assembling sink initial numExt more state) (small : more < 128) (block : Nat) :
    (∀ byte < 128, 128 * block + byte ∈ state.fetched) ↔ block ≤ numExt := by
  simp only [assembling.fetched]
  constructor
  · intro all
    have := all 127 (by decide)
    omega
  · intro early byte inside
    omega

theorem Assembling.assembled {sink : Nat → UInt8} {numExt : UInt8} {more : Nat} {state : Ddc}
    (assembling : Assembling sink initial numExt.toNat more state) (small : more < 128)
    (alone : numExt.toNat = 0) : Assembled sink numExt state where
  blocks block early byte inside := by
    obtain rfl : block = 0 := by omega
    rw [Nat.mul_zero, Nat.zero_add]
    exact assembling.first byte inside
  counted block _ := assembling.counted small block
  stores := assembling.stores

theorem zero_lt_minByte (byte : UInt8) : 0 < minByte maxEdidExtensionBlocks byte ↔ byte ≠ 0 := by
  rw [minByte]
  split
  · refine iff_of_true (by decide) fun none => ?_
    subst none
    exact absurd ‹_› (by decide)
  · exact UInt8.pos_iff_ne_zero

/-- The buffer that is parsed holds the blocks of the display, whatever was in it before, where
the first block is not followed by another: it cannot be read, names none, or the next one
cannot be read. -/
theorem assembleEdid_blocks_iff (sink status : Nat → UInt8) :
    (∀ regs initial numExt after,
      assembleEdid.exec (display sink status) (.start regs initial) =
        some (.ok (some numExt), after) → Assembled sink numExt after) ↔
      ∀ polled, firstAnswered status 4 0 = some polled →
        sink 126 = 0 ∨ (blockAnswered status polled).status ≠ EfiStatus.success := by
  constructor
  · intro always polled read
    by_contra both
    obtain ⟨named, readable⟩ := not_or.mp both
    have goes : Goes sink status 0 polled :=
      ⟨(zero_lt_minByte _).mpr named, not_not.mp readable⟩
    have parse := @assembleEdid_parse sink status (fun _ => sink 128 + 1) fun _ => 0
    rw [read] at parse
    obtain ⟨numExt, more, after, run, -, assembling, some⟩ := parse
    have held := (always _ _ _ _ run).blocks 1 (some.mpr goes) 0 (by decide)
    rw [assembling.skipped] at held
    exact absurd held (by simp)
  · intro alone regs initial numExt after run
    have parse := @assembleEdid_parse sink status initial regs
    cases read : firstAnswered status 4 0 with
    | none =>
      rw [read, run] at parse
      obtain ⟨other, ended⟩ := parse
      cases ended
    | some polled =>
      rw [read, run] at parse
      obtain ⟨_, more, _, ended, small, assembling, goes⟩ := parse
      cases ended
      refine assembling.assembled small (Nat.eq_zero_of_not_pos fun some => ?_)
      obtain ⟨named, readable⟩ := goes.mp some
      exact (alone polled read).elim ((zero_lt_minByte _).mp named) fun failed => failed readable

/-- A status register that reports every byte at once. -/
def alwaysDone : Nat → UInt8 := fun _ => stat0Done

theorem settled_alwaysDone (retry polled : Nat) :
    settled alwaysDone (retry + 1) polled = (EfiStatus.success, polled + 1) := by
  have clear : ¬ alwaysDone polled &&& stat0Error ≠ 0 := by
    change ¬ stat0Done &&& stat0Error ≠ 0
    decide
  have done : alwaysDone polled &&& stat0Done ≠ 0 := by
    change stat0Done &&& stat0Done ≠ 0
    decide
  rw [settled, if_neg clear, if_pos done]

theorem answered_alwaysDone (count polled : Nat) :
    (answered alwaysDone count polled).status = EfiStatus.success := by
  induction count generalizing polled with
  | zero => rfl
  | succ count ih =>
    rw [answered, settled_alwaysDone 9999 polled, if_pos rfl]
    exact ih (polled + 1)

/-- A display with one extension block, which begins with 2. -/
def extendedSink (byte : Nat) : UInt8 := if byte = 126 then 1 else if byte = 128 then 2 else 0

/-- The extension block of that display is read, and is not where it is parsed. -/
theorem assembleEdid_misplaced :
    ∃ numExt after,
      assembleEdid.exec (display extendedSink alwaysDone) (.start (fun _ => 0) fun _ => 0) =
        some (.ok (some numExt), after) ∧
      0 < numExt.toNat ∧ ¬ Assembled extendedSink numExt after := by
  have readable (polled : Nat) :
      (blockAnswered alwaysDone polled).status = EfiStatus.success := answered_alwaysDone 128 _
  have parse := @assembleEdid_parse extendedSink alwaysDone (fun _ => 0) fun _ => 0
  rw [firstAnswered, if_pos (readable 0)] at parse
  obtain ⟨numExt, more, after, run, -, assembling, some⟩ := parse
  have goes : Goes extendedSink alwaysDone 0 (blockAnswered alwaysDone 0).polled :=
    ⟨by decide, readable _⟩
  refine ⟨numExt, after, run, some.mpr goes, fun assembled => ?_⟩
  have held := assembled.blocks 1 (some.mpr goes) 0 (by decide)
  rw [assembling.skipped] at held
  exact absurd held (by decide)

end MuRockchip.Display
