/-
Buffers of PCI configuration space (`PciSegmentLib.c`).

A range of the registers of one function is moved in aligned units: a byte and a word until the
address is aligned, double words, then a word and a byte. The two library functions do this with
the same code, around the accesses of `ConfigView`.

* `Transfer.run_induct`: what a transfer comes to, by what one unit does.
* `pciSegmentWriteBuffer_spec`: writing stores the buffer in the registers, each byte once.
* `pciSegmentReadBuffer_spec`: reading returns the registers byte by byte, but for the base
  address registers that are hidden.
* `configBuffer_exact`: both, and that a buffer is read back.
-/
import MuRockchip.Base.Records
import MuRockchip.Base.Tiling
import MuRockchip.Pci.ConfigView

namespace MuRockchip.Pci

open Base

/-! ### Transfers -/

/-- Where a transfer stands: the address, the bytes that are left, and what it works on. -/
structure Transfer (σ : Type) where
  address : UInt64
  left : Nat
  data : σ

namespace Transfer

variable {σ : Type} (access : PciCfgWidth → UInt64 → σ → σ)

/-- One unit. -/
def move (width : PciCfgWidth) (transfer : Transfer σ) : Transfer σ where
  address := transfer.address + UInt64.ofNat width.bytes
  left := transfer.left - width.bytes
  data := access width transfer.address transfer.data

/-- As many double words as possible. -/
def moveDwords (transfer : Transfer σ) : Transfer σ :=
  if 4 ≤ transfer.left then moveDwords (transfer.move access .uint32) else transfer
termination_by transfer.left
decreasing_by
  simp only [move, PciCfgWidth.bytes]
  omega

def alignByte (transfer : Transfer σ) : Transfer σ :=
  if transfer.address &&& 1 ≠ 0 then transfer.move access .uint8 else transfer

def alignWord (transfer : Transfer σ) : Transfer σ :=
  if 2 ≤ transfer.left ∧ transfer.address &&& 2 ≠ 0 then transfer.move access .uint16
  else transfer

def lastWord (transfer : Transfer σ) : Transfer σ :=
  if 2 ≤ transfer.left then transfer.move access .uint16 else transfer

def lastByte (transfer : Transfer σ) : Transfer σ :=
  if 1 ≤ transfer.left then transfer.move access .uint8 else transfer

/-- The transfer of a range. -/
def run (address : UInt64) (size : Nat) (data : σ) : σ :=
  if size = 0 then data
  else
    ((((((⟨address, size, data⟩ : Transfer σ).alignByte access).alignWord access).moveDwords
      access).lastWord access).lastByte access).data

end Transfer

def readBytes (memory : Memory) (width : PciCfgWidth) (address : UInt64) : List UInt8 :=
  match width with
  | .uint8 => [pciSegmentRead8 memory address]
  | .uint16 => leBytes 2 (pciSegmentRead16 memory address).toNat
  | .uint32 => leBytes 4 (pciSegmentRead32 memory address).toNat

/-- `PciSegmentReadBuffer`: the size it returns, and what is in the buffer then. -/
def pciSegmentReadBuffer (memory : Memory) (startAddress : UInt64) (size : Nat) :
    Nat × List UInt8 :=
  (size, Transfer.run (fun width address buffer => buffer ++ readBytes memory width address)
    startAddress size [])

/-- What `PciSegmentWriteBuffer` works on: memory, what is left of the buffer, and the addresses
that were touched. -/
structure WriteProgress where
  memory : Memory
  buffer : List UInt8
  touched : List (Option Interval)

def WriteProgress.next (width : PciCfgWidth) (address : UInt64) (progress : WriteProgress) :
    WriteProgress :=
  let data := UInt32.ofNat (leValue (progress.buffer.take width.bytes))
  let (memory, touched) := pciSegmentLibWriteWorker progress.memory address width data
  ⟨memory, progress.buffer.drop width.bytes, progress.touched ++ [touched]⟩

/-- `PciSegmentWriteBuffer`: the size it returns, and what it has done. -/
def pciSegmentWriteBuffer (memory : Memory) (startAddress : UInt64) (buffer : List UInt8) :
    Nat × WriteProgress :=
  (buffer.length, Transfer.run WriteProgress.next startAddress buffer.length ⟨memory, buffer, []⟩)

/-! ### The rule for transfers -/

/-- The unit at an address lies in the range, and is aligned. It is a double word, or the double
word it lies in is not all in the range. -/
structure UnitOf (start size moved : Nat) (width : PciCfgWidth) : Prop where
  inside : moved + width.bytes ≤ size
  aligned : (start + moved) % width.bytes = 0
  partial_ : width ≠ .uint32 →
    (start + moved) / 4 * 4 < start ∨ start + size < (start + moved) / 4 * 4 + 4

namespace Transfer

variable {σ : Type} {access : PciCfgWidth → UInt64 → σ → σ} {start : UInt64} {size : Nat}
  {motive : Nat → σ → Prop}

/-- The transfer has come this far. -/
structure At (start : UInt64) (size : Nat) (motive : Nat → σ → Prop) (transfer : Transfer σ) :
    Prop where
  small : transfer.left ≤ size
  address : transfer.address = start + UInt64.ofNat (size - transfer.left)
  holds : motive (size - transfer.left) transfer.data

variable {transfer : Transfer σ}

theorem At.toNat (reached : transfer.At start size motive) (room : start.toNat + size < 2 ^ 64) :
    transfer.address.toNat = start.toNat + (size - transfer.left) := by
  rw [reached.address, UInt64.toNat_add, UInt64.toNat_ofNat']
  omega

theorem At.move (reached : transfer.At start size motive)
    (step : ∀ {moved width data}, UnitOf start.toNat size moved width → motive moved data →
      motive (moved + width.bytes) (access width (start + UInt64.ofNat moved) data))
    (width : PciCfgWidth) (enough : width.bytes ≤ transfer.left)
    (unit : UnitOf start.toNat size (size - transfer.left) width) :
    (transfer.move access width).At start size motive := by
  have small := reached.small
  have moved : size - (transfer.left - width.bytes) = size - transfer.left + width.bytes := by
    omega
  refine ⟨?_, ?_, ?_⟩
  · exact (Nat.sub_le _ _).trans small
  · simp only [Transfer.move, moved, reached.address, UInt64.ofNat_add, UInt64.add_assoc]
  · have next := step unit reached.holds
    simp only [Transfer.move, moved]
    rw [reached.address]
    exact next

section

variable (room : start.toNat + size < 2 ^ 64)
  (step : ∀ {moved width data}, UnitOf start.toNat size moved width → motive moved data →
    motive (moved + width.bytes) (access width (start + UInt64.ofNat moved) data))

include room step

variable {transfer : Transfer σ}

theorem At.alignByte (reached : transfer.At start size motive) (first : transfer.left = size)
    (some : 0 < size) :
    (transfer.alignByte access).At start size motive ∧
      (transfer.alignByte access).address.toNat % 2 = 0 ∧
      size ≤ (transfer.alignByte access).left + 1 := by
  have address := reached.toNat room
  have odd := and_field_zero_iff transfer.address 0 1 (by decide : (1 : UInt64).toNat = _)
  unfold Transfer.alignByte
  split
  · next here =>
    have unit : UnitOf start.toNat size (size - transfer.left) .uint8 := by
      refine ⟨?_, Nat.mod_one _, fun _ => Or.inl ?_⟩
      · rw [first, Nat.sub_self]
        exact some
      · rw [ne_eq, odd] at here
        omega
    have next := reached.move step .uint8 (by rw [first]; exact some) unit
    have after := next.toNat room
    refine ⟨next, ?_, ?_⟩
    · rw [ne_eq, odd] at here
      simp only [Transfer.move, PciCfgWidth.bytes] at after ⊢
      omega
    · simp only [Transfer.move, PciCfgWidth.bytes]
      omega
  · next here =>
    rw [ne_eq, not_not, odd] at here
    exact ⟨reached, by omega, by omega⟩

theorem At.alignWord (reached : transfer.At start size motive)
    (even : transfer.address.toNat % 2 = 0) (early : size ≤ transfer.left + 1) :
    (transfer.alignWord access).At start size motive ∧
      (transfer.alignWord access).address.toNat % 2 = 0 ∧
      ((transfer.alignWord access).address.toNat % 4 = 0 ∨
        (transfer.alignWord access).left < 2) := by
  have address := reached.toNat room
  have second := and_field_zero_iff transfer.address 1 1 (by decide : (2 : UInt64).toNat = _)
  unfold Transfer.alignWord
  split
  · next here =>
    obtain ⟨enough, here⟩ := here
    rw [ne_eq, second] at here
    have small := reached.small
    have unit : UnitOf start.toNat size (size - transfer.left) .uint16 := by
      refine ⟨?_, ?_, fun _ => Or.inl ?_⟩
      · simp only [PciCfgWidth.bytes]
        omega
      · rw [← address]
        exact even
      · omega
    have next := reached.move step .uint16 enough unit
    have after := next.toNat room
    simp only [Transfer.move, PciCfgWidth.bytes] at after
    refine ⟨next, ?_, Or.inl ?_⟩
    · simp only [Transfer.move, PciCfgWidth.bytes]
      omega
    · simp only [Transfer.move, PciCfgWidth.bytes]
      omega
  · next here =>
    refine ⟨reached, even, ?_⟩
    by_cases enough : 2 ≤ transfer.left
    · have clear := not_not.mp fun set => here ⟨enough, set⟩
      rw [second] at clear
      exact Or.inl (by omega)
    · exact Or.inr (Nat.lt_of_not_le enough)

theorem At.moveDwords (reached : transfer.At start size motive)
    (even : transfer.address.toNat % 2 = 0)
    (aligned : transfer.address.toNat % 4 = 0 ∨ transfer.left < 2) :
    (transfer.moveDwords access).At start size motive ∧
      (transfer.moveDwords access).address.toNat % 2 = 0 ∧
      ((transfer.moveDwords access).address.toNat % 4 = 0 ∧ (transfer.moveDwords access).left < 4 ∨
        (transfer.moveDwords access).left < 2) := by
  induction transfer using Transfer.moveDwords.induct access with
  | case1 transfer enough ih =>
    have address := reached.toNat room
    have small := reached.small
    have whole : transfer.address.toNat % 4 = 0 := by omega
    have unit : UnitOf start.toNat size (size - transfer.left) .uint32 := by
      refine ⟨?_, ?_, fun other => absurd rfl other⟩
      · simp only [PciCfgWidth.bytes]
        omega
      · rw [← address]
        exact whole
    have next := reached.move step .uint32 enough unit
    have after := next.toNat room
    have wholeAfter : (transfer.move access .uint32).address.toNat % 4 = 0 := by
      simp only [Transfer.move, PciCfgWidth.bytes] at after ⊢
      omega
    rw [Transfer.moveDwords, if_pos enough]
    exact ih next (by omega) (Or.inl wholeAfter)
  | case2 transfer few =>
    rw [Transfer.moveDwords, if_neg few]
    refine ⟨reached, even, ?_⟩
    rcases aligned with whole | short
    · exact Or.inl ⟨whole, Nat.lt_of_not_le few⟩
    · exact Or.inr short

theorem At.lastWord (reached : transfer.At start size motive)
    (even : transfer.address.toNat % 2 = 0)
    (aligned : transfer.address.toNat % 4 = 0 ∧ transfer.left < 4 ∨ transfer.left < 2) :
    (transfer.lastWord access).At start size motive ∧
      (transfer.lastWord access).address.toNat % 2 = 0 ∧ (transfer.lastWord access).left < 2 := by
  have address := reached.toNat room
  have small := reached.small
  unfold Transfer.lastWord
  split
  · next enough =>
    obtain ⟨whole, few⟩ : transfer.address.toNat % 4 = 0 ∧ transfer.left < 4 := by omega
    have unit : UnitOf start.toNat size (size - transfer.left) .uint16 := by
      refine ⟨?_, ?_, fun _ => Or.inr ?_⟩
      · simp only [PciCfgWidth.bytes]
        omega
      · rw [← address]
        exact even
      · omega
    have next := reached.move step .uint16 enough unit
    have after := next.toNat room
    refine ⟨next, ?_, ?_⟩
    · simp only [Transfer.move, PciCfgWidth.bytes] at after ⊢
      omega
    · simp only [Transfer.move, PciCfgWidth.bytes]
      omega
  · next few => exact ⟨reached, even, Nat.lt_of_not_le few⟩

theorem At.lastByte (reached : transfer.At start size motive)
    (even : transfer.address.toNat % 2 = 0) (few : transfer.left < 2) :
    motive size (transfer.lastByte access).data := by
  have address := reached.toNat room
  have small := reached.small
  unfold Transfer.lastByte
  split
  · next enough =>
    have unit : UnitOf start.toNat size (size - transfer.left) .uint8 := by
      refine ⟨?_, Nat.mod_one _, fun _ => Or.inr ?_⟩
      · simp only [PciCfgWidth.bytes]
        omega
      · omega
    have next := (reached.move step .uint8 enough unit).holds
    have ended : size - (transfer.move access .uint8).left = size := by
      simp only [Transfer.move, PciCfgWidth.bytes]
      omega
    rwa [ended] at next
  · next none =>
    have ended : size - transfer.left = size := by omega
    have last := reached.holds
    rwa [ended] at last

variable (access) in
/-- What holds at the start and is kept by every unit holds when the range has been moved. The
units come in order, each where the one before it ended. -/
theorem run_induct {data : σ} (base : motive 0 data) :
    motive size (run access start size data) := by
  unfold run
  split
  · next empty =>
    rw [empty]
    exact base
  · next nonempty =>
    have start : At start size motive ⟨start, size, data⟩ := by
      refine ⟨Nat.le_refl _, ?_, ?_⟩
      · rw [Nat.sub_self]
        exact (UInt64.add_zero _).symm
      · rw [Nat.sub_self]
        exact base
    obtain ⟨first, firstEven, early⟩ :=
      start.alignByte room step rfl (Nat.pos_of_ne_zero nonempty)
    obtain ⟨second, secondEven, aligned⟩ := first.alignWord room step firstEven early
    obtain ⟨third, thirdEven, rest⟩ := second.moveDwords room step secondEven aligned
    obtain ⟨fourth, fourthEven, few⟩ := third.lastWord room step thirdEven rest
    exact fourth.lastByte room step fourthEven few

end

end Transfer

/-! ### Functions -/

theorem and_or_zero {word left right : UInt64} (one : word &&& left = 0)
    (other : word &&& right = 0) : word &&& (left ||| right) = 0 := by
  refine UInt64.toNat_inj.mp (Nat.eq_of_testBit_eq fun bit => ?_)
  have first := congrArg (fun word : UInt64 => word.toNat.testBit bit) one
  have second := congrArg (fun word : UInt64 => word.toNat.testBit bit) other
  simp only [UInt64.toNat_and, UInt64.toNat_or, Nat.testBit_and, Nat.testBit_or,
    UInt64.toNat_zero, Nat.zero_testBit, Bool.and_or_distrib_left, Bool.or_eq_false_iff] at *
  exact ⟨first, second⟩

/-- A function of configuration space, at the address of its first register. -/
structure ConfigFunction extends ConfigDword where
  firstRegister : address &&& 0xFFF = 0

namespace ConfigFunction

variable (function : ConfigFunction)

def register (offset : Nat) : UInt64 := function.address + UInt64.ofNat offset

theorem address_mod : function.address.toNat % 4096 = 0 := by
  have zero := (and_field_zero_iff function.address 0 12 (by decide)).mp function.firstRegister
  omega

theorem register_toNat {offset : Nat} (inside : offset < 4096) :
    (function.register offset).toNat = function.address.toNat + offset := by
  have bound := function.address.toNat_lt
  have whole := function.address_mod
  rw [register, UInt64.toNat_add, UInt64.toNat_ofNat']
  omega

theorem register_field {offset : Nat} (inside : offset < 4096) {mask : UInt64} (start width : Nat)
    (high : 12 ≤ start) (covers : mask.toNat = (2 ^ width - 1) * 2 ^ start) :
    function.register offset &&& mask = function.address &&& mask := by
  have whole := function.address_mod
  obtain ⟨more, rfl⟩ := Nat.exists_eq_add_of_le high
  rw [← UInt64.toNat_inj, toNat_and_field64 _ _ width covers, toNat_and_field64 _ _ width covers,
    register_toNat function inside, Nat.pow_add, ← Nat.div_div_eq_div_mul,
    ← Nat.div_div_eq_div_mul]
  rw [show (function.address.toNat + offset) / 2 ^ 12 = function.address.toNat / 2 ^ 12 by omega]

/-- One of the double words of the function. -/
def dword (index : Nat) (inside : index < 1024) : ConfigDword where
  address := function.register (4 * index)
  valid := by
    have high := and_sub_mask 0xffff000000000000 function.valid (by decide)
    have reserved := and_sub_mask 0xf0000000 function.valid (by decide)
    have below : 4 * index < 4096 := by omega
    have whole := function.address_mod
    have low : function.register (4 * index) &&& 3 = 0 := by
      rw [and_field_zero_iff _ 0 2 (by decide), register_toNat function below]
      omega
    rw [← function.register_field below 48 16 (by omega) (by decide)] at high
    rw [← function.register_field below 28 4 (by omega) (by decide)] at reserved
    have split : (0xffff0000f0000000 ||| 3 : UInt64) =
        0xffff000000000000 ||| 0xf0000000 ||| 3 := by decide
    rw [split]
    exact and_or_zero (and_or_zero high reserved) low
  segment := function.segment
  inSegment := by
    have below : 4 * index < 4096 := by omega
    have whole := function.address_mod
    have own := congrArg UInt16.toNat function.inSegment
    rw [← UInt16.toNat_inj]
    rw [UInt64.toNat_toUInt16, toNat_high] at own ⊢
    rw [register_toNat function below, ← own]
    omega
  onBus := by
    have below : 4 * index < 4096 := by omega
    rw [register_field function below 20 8 (by omega) (by decide)]
    exact function.onBus

theorem address_lt : function.address.toNat < 2 ^ 48 := by
  have high := and_sub_mask 0xffff000000000000 function.valid (by decide)
  have zero := (and_field_zero_iff function.address 48 16 (by decide)).mp high
  have bound := function.address.toNat_lt
  omega

section

variable {index : Nat} (inside : index < 1024)

theorem dword_onRootBus : (function.dword index inside).OnRootBus ↔ function.OnRootBus := by
  have below : 4 * index < 4096 := by omega
  unfold ConfigDword.OnRootBus
  rw [show (function.dword index inside).address = function.register (4 * index) from rfl,
    function.register_field below 20 8 (by omega) (by decide)]

theorem dword_firstDevice : (function.dword index inside).FirstDevice ↔ function.FirstDevice := by
  have below : 4 * index < 4096 := by omega
  unfold ConfigDword.FirstDevice
  rw [show (function.dword index inside).address = function.register (4 * index) from rfl,
    function.register_field below 15 5 (by omega) (by decide)]

theorem dword_present : (function.dword index inside).Present ↔ function.Present := by
  unfold ConfigDword.Present
  rw [dword_onRootBus, dword_firstDevice]

theorem dword_hiddenBar : (function.dword index inside).HiddenBar ↔
    function.OnRootBus ∧ function.FirstDevice ∧ (index = 4 ∨ index = 5) := by
  have below : 4 * index < 4096 := by omega
  have whole := function.address_mod
  have register : (function.register (4 * index) &&& 0xFFF).toNat = 4 * index := by
    rw [toNat_and_field64 _ 0 12 (by decide), function.register_toNat below]
    omega
  unfold ConfigDword.HiddenBar
  rw [dword_onRootBus, dword_firstDevice,
    show (function.dword index inside).address = function.register (4 * index) from rfl,
    ← UInt64.toNat_inj, ← UInt64.toNat_inj, register]
  refine and_congr_right fun _ => and_congr_right fun _ => ?_
  simp only [UInt64.reduceToNat]
  omega

theorem byte_dword (offset : Nat) :
    (function.dword index inside).byte offset = function.register (4 * index + offset) := by
  rw [ConfigDword.byte, show (function.dword index inside).address =
    function.register (4 * index) from rfl, register, register, UInt64.ofNat_add,
    UInt64.add_assoc]

/-- Where the registers of the function are. -/
def home (function : ConfigFunction) : UInt64 := function.toConfigDword.target 0

theorem home_toNat : function.home.toNat = function.configBase.toNat + function.low := by
  rw [home, ConfigDword.target_toNat (by omega), Nat.add_zero]

theorem target_dword {offset : Nat} (own : offset < 4) :
    (function.dword index inside).target offset =
      function.home + UInt64.ofNat (4 * index + offset) := by
  have below : 4 * index < 4096 := by omega
  have whole := function.address_mod
  have bound := function.address_lt
  have base : (function.dword index inside).configBase = function.configBase := by
    unfold ConfigDword.configBase
    simp only [dword_onRootBus, show (function.dword index inside).segment = function.segment
      from rfl]
  have low : (function.dword index inside).low = function.low + 4 * index := by
    unfold ConfigDword.low
    rw [show (function.dword index inside).address = function.register (4 * index) from rfl,
      function.register_toNat below]
    omega
  have limit := ((function.dword index inside).target offset).toNat_lt
  rw [ConfigDword.target_toNat own, base, low] at limit
  rw [← UInt64.toNat_inj, ConfigDword.target_toNat own, base, low, UInt64.toNat_add, home_toNat,
    UInt64.toNat_ofNat']
  omega

end

theorem home_aligned : function.home.toNat % 4 = 0 := by
  have low := function.aligned
  have base := function.configBase_toNat
  rw [home_toNat]
  split at base
  · cases segment : function.segment <;> rw [segment] at base <;>
      simp only [Segment.dbi, UInt64.reduceToNat] at base <;> omega
  · cases segment : function.segment <;> rw [segment] at base <;>
      simp only [Segment.base, UInt64.reduceToNat] at base <;> omega

theorem home_lt : function.home.toNat < 2 ^ 63 := by
  have low := function.low_lt
  have base := function.configBase_toNat
  rw [home_toNat]
  split at base
  · cases segment : function.segment <;> rw [segment] at base <;>
      simp only [Segment.dbi, UInt64.reduceToNat] at base <;> omega
  · cases segment : function.segment <;> rw [segment] at base <;>
      simp only [Segment.base, UInt64.reduceToNat] at base <;> omega

/-! ### Accesses of registers -/

section

variable {function} {offset : Nat} (inside : offset < 4096)

include inside

theorem register_byte : function.register offset =
    (function.dword (offset / 4) (by omega)).byte (offset % 4) := by
  rw [byte_dword, Nat.div_add_mod]

theorem target_register : (function.dword (offset / 4) (by omega)).target (offset % 4) =
    function.home + UInt64.ofNat offset := by
  rw [target_dword function (by omega) (Nat.mod_lt _ (by omega)), Nat.div_add_mod]

theorem read8_register {memory : Memory} (present : function.Present) :
    pciSegmentRead8 memory (function.register offset) =
      memory (function.home + UInt64.ofNat offset) := by
  rw [register_byte inside, ConfigDword.read8_present ((dword_present function _).mpr present)
    (Nat.mod_lt _ (by omega)), target_register inside]

theorem write_register (memory : Memory) (width : PciCfgWidth) (data : UInt32) :
    pciSegmentLibWriteWorker memory (function.register offset) width data =
      if function.Present then
        (memory.write (function.home + UInt64.ofNat offset) (leBytes width.bytes data.toNat),
          some ⟨(function.home + UInt64.ofNat offset).toNat, width.bytes⟩)
      else (memory, none) := by
  have own : offset % 4 < 4 := Nat.mod_lt _ (by omega)
  have base : pciSegmentLibGetConfigBase
      ((function.dword (offset / 4) (by omega)).byte (offset % 4)) =
        (function.dword (offset / 4) (by omega)).configBase := ConfigDword.getConfigBase_byte own
  have there := dword_present function (show offset / 4 < 1024 by omega)
  rw [← target_register inside, register_byte inside]
  unfold pciSegmentLibWriteWorker
  simp only [base, ConfigDword.absent_iff own, ConfigDword.target, there]
  by_cases present : function.Present
  · rw [if_neg (not_not.mpr present), if_pos present]
  · rw [if_pos present, if_neg present]

end

/-- The double word with a register is one of the base address registers that are hidden, and lies
all in the range. -/
def HiddenIn (first size offset : Nat) : Prop :=
  function.OnRootBus ∧ function.FirstDevice ∧ (offset / 4 = 4 ∨ offset / 4 = 5) ∧
    first ≤ offset / 4 * 4 ∧ offset / 4 * 4 + 4 ≤ first + size

instance (first size offset : Nat) : Decidable (function.HiddenIn first size offset) :=
  inferInstanceAs (Decidable (_ ∧ _))

/-- A register as a read of a range shows it. -/
def shown (memory : Memory) (first size offset : Nat) : UInt8 :=
  if function.HiddenIn first size offset then 0
  else pciSegmentRead8 memory (function.register offset)

/-- The halves of a double word are its bytes, hidden or not. -/
theorem read16_bytes (dword : ConfigDword) (memory : Memory) {half : Nat} (inside : half < 2) :
    leBytes 2 (pciSegmentRead16 memory (dword.byte (2 * half))).toNat =
      (List.range 2).map fun offset => pciSegmentRead8 memory (dword.byte (2 * half + offset)) := by
  by_cases present : dword.Present
  · rw [ConfigDword.read16_present present inside,
      ConfigDword.read8_bytes memory present (by omega)]
  · exact (ConfigDword.coherent_of_absent memory present).halves half inside

variable {first size : Nat}

theorem readBytes_shown {moved : Nat} {width : PciCfgWidth} (memory : Memory)
    (room : first + size ≤ 4096) (unit : UnitOf (function.register first).toNat size moved width) :
    readBytes memory width (function.register (first + moved)) =
      (List.range width.bytes).map fun index =>
        function.shown memory first size (first + moved + index) := by
  have positive := ConfigDword.PciCfgWidth.bytes_pos width
  have nonempty := unit.inside
  have start : (function.register first).toNat = function.address.toNat + first :=
    function.register_toNat (by omega)
  have whole := function.address_mod
  obtain ⟨inside, aligned, part⟩ := unit
  rw [start] at aligned part
  -- a narrow unit shows nothing of a double word that is all in the range
  have narrow (other : width ≠ .uint32) (index : Nat) (own : index < width.bytes) :
      ¬ function.HiddenIn first size (first + moved + index) := by
    rintro ⟨-, -, -, low, high⟩
    have split := part other
    have same : (first + moved + index) / 4 = (first + moved) / 4 := by
      cases width with
      | uint8 =>
        simp only [PciCfgWidth.bytes] at own
        rw [Nat.lt_one_iff.mp own, Nat.add_zero]
      | uint16 =>
        simp only [PciCfgWidth.bytes] at own aligned
        omega
      | uint32 => exact absurd rfl other
    omega
  cases width with
  | uint8 =>
    simp only [readBytes, PciCfgWidth.bytes, List.range_succ, List.range_zero, List.nil_append,
      List.map_cons, List.map_nil, Nat.add_zero]
    have visible := narrow (by decide) 0 (by decide)
    rw [Nat.add_zero] at visible
    rw [shown, if_neg visible]
  | uint16 =>
    simp only [PciCfgWidth.bytes] at inside aligned ⊢
    have below : first + moved < 4096 := by omega
    have half : (first + moved) % 4 = 2 * ((first + moved) % 4 / 2) := by omega
    have read := read16_bytes (function.dword ((first + moved) / 4) (by omega)) memory
      (show (first + moved) % 4 / 2 < 2 by omega)
    rw [← half, ← register_byte below] at read
    rw [readBytes, read]
    apply List.map_congr_left
    intro index member
    have own := List.mem_range.mp member
    rw [shown, if_neg (narrow (by decide) index own), byte_dword, ← Nat.add_assoc,
      Nat.div_add_mod]
  | uint32 =>
    simp only [PciCfgWidth.bytes] at inside aligned ⊢
    have below : first + moved < 4096 := by omega
    have zero : (first + moved) % 4 = 0 := by omega
    have own : (first + moved) / 4 < 1024 := by omega
    have address : (function.dword ((first + moved) / 4) own).address =
        function.register (first + moved) := by
      rw [show (function.dword ((first + moved) / 4) own).address =
        function.register (4 * ((first + moved) / 4)) from rfl]
      congr 1
      omega
    have inRange (index : Nat) (here : index < 4) :
        function.HiddenIn first size (first + moved + index) ↔
          (function.dword ((first + moved) / 4) own).HiddenBar := by
      have same : (first + moved + index) / 4 = (first + moved) / 4 := by omega
      rw [dword_hiddenBar, HiddenIn, same]
      refine and_congr_right fun _ => and_congr_right fun _ => ⟨fun hidden => hidden.1, ?_⟩
      intro bar
      exact ⟨bar, by omega, by omega⟩
    by_cases hidden : (function.dword ((first + moved) / 4) own).HiddenBar
    · rw [readBytes, ← address, pciSegmentRead32, ConfigDword.read_hidden hidden]
      have zeros : (List.range 4).map (fun index =>
          function.shown memory first size (first + moved + index)) =
            (List.range 4).map fun _ => 0 := by
        apply List.map_congr_left
        intro index member
        exact if_pos ((inRange index (List.mem_range.mp member)).mpr hidden)
      rw [zeros]
      rfl
    · have coherent := ((ConfigDword.coherent_iff memory).mpr fun bar => absurd bar hidden).whole
      rw [readBytes, ← address, coherent]
      apply List.map_congr_left
      intro index member
      have visible := (inRange index (List.mem_range.mp member)).not.mpr hidden
      rw [shown, if_neg visible, byte_dword]
      congr 2
      omega

/-! ### Buffers -/

theorem register_add (first moved : Nat) :
    function.register first + UInt64.ofNat moved = function.register (first + moved) := by
  rw [register, register, UInt64.ofNat_add, UInt64.add_assoc]

theorem register_room (room : first + size ≤ 4096) :
    (function.register first).toNat + size < 2 ^ 64 := by
  have bound := function.address_lt
  have address : (function.register first).toNat = function.address.toNat + first := by
    rw [register, UInt64.toNat_add, UInt64.toNat_ofNat']
    omega
  omega

theorem pciSegmentReadBuffer_spec (memory : Memory) (room : first + size ≤ 4096) :
    (pciSegmentReadBuffer memory (function.register first) size).2 =
      (List.range size).map fun index => function.shown memory first size (first + index) := by
  have rule := Transfer.run_induct
    (motive := fun moved buffer => buffer =
      (List.range moved).map fun index => function.shown memory first size (first + index))
    (fun width address buffer => buffer ++ readBytes memory width address)
    (register_room function room)
  refine rule ?_ rfl
  rintro moved width data unit rfl
  rw [register_add, function.readBytes_shown memory room unit, List.range_add, List.map_append,
    List.map_map]
  congr 1
  apply List.map_congr_left
  intro index _
  rw [Function.comp_apply, Nat.add_assoc]

/-- What has been written after some bytes of the buffer. -/
structure Written (function : ConfigFunction) (memory : Memory) (first : Nat)
    (buffer : List UInt8) (moved : Nat) (progress : WriteProgress) : Prop where
  memory : progress.memory =
    if function.Present then
      memory.write (function.home + UInt64.ofNat first) (buffer.take moved)
    else memory
  buffer : progress.buffer = buffer.drop moved
  touched : function.Present → ∃ accesses, progress.touched = accesses.map some ∧
    Tiles Base.Interval.base Base.Interval.length (function.home.toNat + first) accesses
      (function.home.toNat + first + moved) ∧
    ∀ access ∈ accesses, access.base % access.length = 0
  absent : ¬ function.Present → ∀ touched ∈ progress.touched, touched = none

/-- The next bytes of a buffer are those of the word made of them. -/
theorem leBytes_chunk (width : PciCfgWidth) {chunk : List UInt8}
    (size : chunk.length = width.bytes) :
    leBytes width.bytes (UInt32.ofNat (leValue chunk)).toNat = chunk := by
  have small := leValue_lt chunk
  have bytes := leBytes_leValue chunk
  rw [size] at small bytes
  have word : leValue chunk < 2 ^ 32 := by
    cases width <;> simp only [PciCfgWidth.bytes] at small <;> omega
  rw [UInt32.toNat_ofNat', Nat.mod_eq_of_lt word, bytes]

theorem Written.next {function : ConfigFunction} {memory : Memory} {moved : Nat}
    {buffer : List UInt8} {progress : WriteProgress} {width : PciCfgWidth}
    (room : first + buffer.length ≤ 4096)
    (unit : UnitOf (function.register first).toNat buffer.length moved width)
    (written : Written function memory first buffer moved progress) :
    Written function memory first buffer (moved + width.bytes)
      (progress.next width (function.register (first + moved))) := by
  have positive := ConfigDword.PciCfgWidth.bytes_pos width
  have inside := unit.inside
  have below : first + moved < 4096 := by omega
  have size : ((buffer.drop moved).take width.bytes).length = width.bytes := by
    rw [List.length_take, List.length_drop]
    omega
  have taken : (buffer.take moved).length = moved := by
    rw [List.length_take]
    omega
  have bound := function.home_lt
  have target : (function.home + UInt64.ofNat (first + moved)).toNat =
      function.home.toNat + first + moved := by
    rw [UInt64.toNat_add, UInt64.toNat_ofNat']
    omega
  unfold WriteProgress.next
  dsimp only
  rw [write_register below, written.buffer]
  by_cases present : function.Present
  · rw [if_pos present]
    obtain ⟨accesses, touched, tiles, aligned⟩ := written.touched present
    refine ⟨?_, ?_, fun _ => ?_, fun absent => absurd present absent⟩
    · have before := written.memory
      rw [if_pos present] at before
      have joined := Memory.write_write_append memory (function.home + UInt64.ofNat first)
        (buffer.take moved) ((buffer.drop moved).take width.bytes)
        (by rw [taken, size]; omega)
      rw [taken, UInt64.add_assoc, ← UInt64.ofNat_add] at joined
      rw [if_pos present, leBytes_chunk width size, before, joined, List.take_add]
    · exact List.drop_drop
    · refine ⟨accesses ++ [⟨(function.home + UInt64.ofNat (first + moved)).toNat, width.bytes⟩],
        ?_, ?_, ?_⟩
      · rw [touched, List.map_append]
        rfl
      · refine tiles.append ⟨target, ?_⟩
        exact Nat.add_assoc ..
      · intro access member
        rcases List.mem_append.mp member with earlier | last
        · exact aligned access earlier
        · rw [List.mem_singleton.mp last, target]
          have own := unit.aligned
          have home := function.home_aligned
          have whole := function.address_mod
          rw [register_toNat function (by omega)] at own
          cases width with
          | uint8 => exact Nat.mod_one _
          | uint16 | uint32 =>
            simp only [PciCfgWidth.bytes] at own ⊢
            omega
  · rw [if_neg present]
    refine ⟨?_, ?_, fun there => absurd there present, fun _ => ?_⟩
    · rw [if_neg present]
      have before := written.memory
      rwa [if_neg present] at before
    · exact List.drop_drop
    · intro touched member
      rcases List.mem_append.mp member with earlier | last
      · exact written.absent present touched earlier
      · exact List.mem_singleton.mp last

theorem pciSegmentWriteBuffer_spec (memory : Memory) {buffer : List UInt8}
    (room : first + buffer.length ≤ 4096) :
    Written function memory first buffer buffer.length
      (pciSegmentWriteBuffer memory (function.register first) buffer).2 := by
  have rule := Transfer.run_induct (motive := Written function memory first buffer)
    WriteProgress.next (register_room function room)
  refine rule ?_ ⟨?_, rfl, fun _ => ⟨[], rfl, rfl, ?_⟩, ?_⟩
  · intro moved width data unit written
    rw [register_add]
    exact written.next room unit
  · rw [List.take_zero]
    split
    · rfl
    · rfl
  · intro access member
    nomatch member
  · intro _ touched member
    nomatch member

/-- What moving buffers to and from a range of registers comes to. -/
structure BufferExact (function : ConfigFunction) (memory : Memory) (first : Nat)
    (buffer : List UInt8) : Prop where
  /-- The buffer is stored in the registers, and nothing else is. -/
  stored : (pciSegmentWriteBuffer memory (function.register first) buffer).2.memory =
    if function.Present then memory.write (function.home + UInt64.ofNat first) buffer else memory
  /-- The registers are written once, in order, in aligned accesses. -/
  once : function.Present → ∃ accesses,
    (pciSegmentWriteBuffer memory (function.register first) buffer).2.touched =
      accesses.map some ∧
    Tiles Base.Interval.base Base.Interval.length (function.home.toNat + first) accesses
      (function.home.toNat + first + buffer.length) ∧
    ∀ access ∈ accesses, access.base % access.length = 0
  /-- An absent function is not accessed. -/
  silent : ¬ function.Present →
    ∀ touched ∈ (pciSegmentWriteBuffer memory (function.register first) buffer).2.touched,
      touched = none
  /-- Reading shows the registers as reads of eight bits do, but for the hidden ones. -/
  shown : (pciSegmentReadBuffer memory (function.register first) buffer.length).2 =
    (List.range buffer.length).map fun index =>
      function.shown memory first buffer.length (first + index)
  /-- What was written is read back, where no register is hidden. -/
  back : function.Present →
    (∀ offset, ¬ function.HiddenIn first buffer.length offset) →
    (pciSegmentReadBuffer
      (pciSegmentWriteBuffer memory (function.register first) buffer).2.memory
      (function.register first) buffer.length).2 = buffer

end ConfigFunction

/-- For every range of registers of every function, and everything in memory and in the buffer:
writing it stores the buffer in its registers byte by byte in aligned accesses, each byte once;
reading it shows what reads of eight bits show, except that base address registers that are hidden
read as zero where all of one is in the range; and what was written is read back. -/
theorem configBuffer_exact (function : ConfigFunction) (memory : Memory) (first : Nat)
    (buffer : List UInt8) (room : first + buffer.length ≤ 4096) :
    function.BufferExact memory first buffer := by
  have written := function.pciSegmentWriteBuffer_spec memory room
  have stored := written.memory
  rw [List.take_length] at stored
  refine ⟨stored, written.touched, written.absent,
    function.pciSegmentReadBuffer_spec memory room, ?_⟩
  intro present visible
  rw [function.pciSegmentReadBuffer_spec _ room, stored, if_pos present]
  have same := Memory.read_write_same memory (function.home + UInt64.ofNat first) buffer (by omega)
  conv_rhs => rw [← same]
  apply List.map_congr_left
  intro index member
  have inside := List.mem_range.mp member
  rw [ConfigFunction.shown, if_neg (visible _),
    ConfigFunction.read8_register (by omega) present, UInt64.ofNat_add, UInt64.add_assoc]

def rootPort : ConfigFunction where
  address := 0
  valid := by decide
  segment := .pcie2x1
  inSegment := rfl
  onBus := by decide
  firstRegister := by decide

/-- Eight registers around the first base address register of the root port, which shows as zero
between registers that hold `0x04`. -/
theorem configBuffer_exact_rootPort :
    rootPort.BufferExact (fun _ => 4) 0x0E (List.replicate 8 7) ∧
      (pciSegmentReadBuffer (fun _ => 4) (rootPort.register 0x0E) 8).2 =
        [4, 4, 0, 0, 0, 0, 4, 4] := by
  have exact := configBuffer_exact rootPort (fun _ => 4) 0x0E (List.replicate 8 7) (by decide)
  exact ⟨exact, exact.shown.trans (by decide)⟩

end MuRockchip.Pci
