/-
The view of PCI configuration space (`PciSegmentLib.c`).

The root port on bus 0 is found in the registers of its controller, the device behind it in the
configuration window of the address translation unit. The two base address registers of the root
port are hidden from reads of 32 bits, and devices on bus 0 other than the root port are absent.

A view is read here one aligned double word at a time: every byte is the byte of one read of 32
bits, of one of two reads of 16 bits, and of one read of 8 bits.

* `configRead_live`, `touched_live`: what reads return and where accesses go.
* `coherent_iff`: where the widths agree.
* `routed_iff`: where accesses stay in their window.
* `configView_iff`: both.
-/
import MuRockchip.Base.Fields
import MuRockchip.Pci.Atu

namespace MuRockchip.Pci

open Base

/-! ### The library -/

def pciSegmentLibGetConfigBase (address : UInt64) : UInt64 :=
  let bus := ((address &&& 0xff00000) >>> 20).toUInt32
  let segment := (address >>> 32).toUInt16
  if segment = Segment.pcie2x1.number.toUInt16 then
    if bus = 0 then Segment.pcie2x1.dbi else Segment.pcie2x1.base + 0x8000
  else if segment = Segment.pcie3x1.number.toUInt16 then
    if bus = 0 then Segment.pcie3x1.dbi else Segment.pcie3x1.base + 0x8000
  else if segment = Segment.pcie3x2.number.toUInt16 then
    if bus = 0 then Segment.pcie3x2.dbi else Segment.pcie3x2.base + 0x8000
  else 0

inductive PciCfgWidth where
  | uint8
  | uint16
  | uint32
  deriving DecidableEq, Repr

/-- The bytes of an access. -/
def PciCfgWidth.bytes : PciCfgWidth → Nat
  | uint8 => 1
  | uint16 => 2
  | uint32 => 4

/-- A read: its value, and the addresses it touched. -/
structure CfgRead where
  value : UInt32
  touched : Option Interval

/-- `MmioRead8`, `MmioRead16` and `MmioRead32`. -/
def mmioRead (memory : Memory) (address : UInt64) (width : PciCfgWidth) : CfgRead where
  value := UInt32.ofNat (leValue (memory.read address width.bytes))
  touched := some ⟨address.toNat, width.bytes⟩

def pciSegmentLibReadWorker (memory : Memory) (address : UInt64) (width : PciCfgWidth) : CfgRead :=
  let base := pciSegmentLibGetConfigBase address
  -- devices other than 0 on bus 0 are ignored
  if address &&& 0xff00000 = 0 ∧ address &&& 0xf8000 ≠ 0 then ⟨0xffffffff, none⟩
  else
    match width with
    | .uint8 => mmioRead memory (base + address.toUInt32.toUInt64) .uint8
    | .uint16 => mmioRead memory (base + address.toUInt32.toUInt64) .uint16
    | .uint32 =>
        -- the first two base address registers of the root port are hidden
        if address &&& 0xFF00000 = 0 ∧ (address &&& 0xFFF = 0x10 ∨ address &&& 0xFFF = 0x14) then
          ⟨0, none⟩
        else mmioRead memory (base + address.toUInt32.toUInt64) .uint32

/-- `PciSegmentLibWriteWorker`, which returns the data it is passed. -/
def pciSegmentLibWriteWorker (memory : Memory) (address : UInt64) (width : PciCfgWidth)
    (data : UInt32) : Memory × Option Interval :=
  let base := pciSegmentLibGetConfigBase address
  if address &&& 0xff00000 = 0 ∧ address &&& 0xf8000 ≠ 0 then (memory, none)
  else
    let target := base + address.toUInt32.toUInt64
    (memory.write target (leBytes width.bytes data.toNat), some ⟨target.toNat, width.bytes⟩)

def pciSegmentRead8 (memory : Memory) (address : UInt64) : UInt8 :=
  (pciSegmentLibReadWorker memory address .uint8).value.toUInt8

def pciSegmentRead16 (memory : Memory) (address : UInt64) : UInt16 :=
  (pciSegmentLibReadWorker memory address .uint16).value.toUInt16

def pciSegmentRead32 (memory : Memory) (address : UInt64) : UInt32 :=
  (pciSegmentLibReadWorker memory address .uint32).value

/-! ### The view -/

/-- A double word of configuration space. Its address is one of bus 0 or 1 of a segment that
exists, and passes the assertion on addresses of 32-bit accesses. -/
structure ConfigDword where
  address : UInt64
  valid : address &&& (0xffff0000f0000000 ||| 3) = 0
  segment : Segment
  inSegment : (address >>> 32).toUInt16 = segment.number.toUInt16
  onBus : (address &&& 0xff00000) >>> 20 ≤ 1

namespace ConfigDword

variable (dword : ConfigDword)

def byte (offset : Nat) : UInt64 := dword.address + UInt64.ofNat offset

def OnRootBus : Prop := dword.address &&& 0xff00000 = 0

def FirstDevice : Prop := dword.address &&& 0xf8000 = 0

/-- The first or second base address register of the root port. -/
def HiddenBar : Prop :=
  dword.OnRootBus ∧ dword.FirstDevice ∧
    (dword.address &&& 0xFFF = 0x10 ∨ dword.address &&& 0xFFF = 0x14)

instance : Decidable dword.OnRootBus := inferInstanceAs (Decidable (_ = _))

instance : Decidable dword.FirstDevice := inferInstanceAs (Decidable (_ = _))

instance : Decidable dword.HiddenBar := inferInstanceAs (Decidable (_ ∧ _))

/-- The window that accesses belong in. -/
def home : Window := if dword.OnRootBus then .dbi else .cfg0

/-- The widths agree on every byte. -/
structure Coherent (memory : Memory) : Prop where
  whole : leBytes 4 (pciSegmentRead32 memory dword.address).toNat =
    (List.range 4).map fun offset => pciSegmentRead8 memory (dword.byte offset)
  halves : ∀ half < 2, leBytes 2 (pciSegmentRead16 memory (dword.byte (2 * half))).toNat =
    (List.range 2).map fun offset => pciSegmentRead8 memory (dword.byte (2 * half + offset))

/-- An aligned read or write of some width inside the double word touches these addresses. -/
def Touches (access : Interval) : Prop :=
  ∃ width offset, PciCfgWidth.bytes width ∣ offset ∧ offset + PciCfgWidth.bytes width ≤ 4 ∧
    ∃ memory, (pciSegmentLibReadWorker memory (dword.byte offset) width).touched = some access ∨
      ∃ data, (pciSegmentLibWriteWorker memory (dword.byte offset) width data).2 = some access

/-- Every access lands in the window of its bus, and in no other. -/
def Routed : Prop :=
  ∀ access, dword.Touches access →
    access.Within (dword.segment.range dword.home) ∧
      ∀ segment window, (segment, window) ≠ (dword.segment, dword.home) →
        access.Disjoint (segment.range window)

end ConfigDword

/-! ### Addresses -/

theorem and_sub_mask {word mask : UInt64} (part : UInt64) (zero : word &&& mask = 0)
    (inside : mask &&& part = part) : word &&& part = 0 := by
  rw [← inside, ← UInt64.and_assoc, zero, UInt64.zero_and]

theorem and_field_zero_iff (word : UInt64) {mask : UInt64} (start width : Nat)
    (covers : mask.toNat = (2 ^ width - 1) * 2 ^ start) :
    word &&& mask = 0 ↔ word.toNat / 2 ^ start % 2 ^ width = 0 := by
  have power := Nat.two_pow_pos start
  rw [← UInt64.toNat_inj, toNat_and_field64 word start width covers, UInt64.toNat_zero,
    Nat.mul_eq_zero]
  exact or_iff_left power.ne'

namespace ConfigDword

variable {dword : ConfigDword}

/-- The offset of a double word in its segment. -/
def low (dword : ConfigDword) : Nat := dword.address.toNat % 2 ^ 32

theorem aligned (dword : ConfigDword) : dword.low % 4 = 0 := by
  have zero := and_sub_mask 3 dword.valid (by decide)
  have field := (and_field_zero_iff dword.address 0 2 (by decide)).mp zero
  unfold low
  omega

theorem low_lt (dword : ConfigDword) : dword.low < 2 ^ 21 := by
  have zero := and_sub_mask 0xf0000000 dword.valid (by decide)
  have reserved := (and_field_zero_iff dword.address 28 4 (by decide)).mp zero
  have bus : ((dword.address &&& 0xff00000) >>> 20).toNat ≤ 1 :=
    UInt64.le_iff_toNat_le.mp dword.onBus
  rw [UInt64.toNat_shiftRight, toNat_and_field64 dword.address 20 8 (by decide),
    Nat.shiftRight_eq_div_pow] at bus
  simp only [UInt64.reduceToNat, Nat.reduceMod] at bus
  unfold low
  omega

theorem onRootBus_iff (dword : ConfigDword) : dword.OnRootBus ↔ dword.low < 2 ^ 20 := by
  have bound := dword.low_lt
  unfold OnRootBus
  rw [and_field_zero_iff dword.address 20 8 (by decide)]
  unfold low at *
  omega

theorem firstDevice_iff (dword : ConfigDword) :
    dword.FirstDevice ↔ dword.low / 2 ^ 15 % 2 ^ 5 = 0 := by
  unfold FirstDevice
  rw [and_field_zero_iff dword.address 15 5 (by decide)]
  unfold low
  omega

section

variable {offset : Nat} (inside : offset < 4)

include inside

theorem byte_toNat : (dword.byte offset).toNat = dword.address.toNat + offset := by
  have bound := dword.address.toNat_lt
  have aligned := dword.aligned
  unfold low at aligned
  rw [byte, UInt64.toNat_add, UInt64.toNat_ofNat']
  omega

theorem byte_low : (dword.byte offset).toUInt32.toUInt64.toNat = dword.low + offset := by
  have aligned := dword.aligned
  rw [UInt32.toNat_toUInt64, UInt64.toNat_toUInt32, byte_toNat inside]
  unfold low at *
  omega

/-- The bytes have the fields of the double word. -/
theorem byte_field {mask : UInt64} (start width : Nat) (high : 2 ≤ start)
    (covers : mask.toNat = (2 ^ width - 1) * 2 ^ start) :
    dword.byte offset &&& mask = dword.address &&& mask := by
  have aligned := dword.aligned
  obtain ⟨more, rfl⟩ := Nat.exists_eq_add_of_le high
  rw [← UInt64.toNat_inj, toNat_and_field64 _ _ width covers, toNat_and_field64 _ _ width covers,
    byte_toNat inside, Nat.pow_add, ← Nat.div_div_eq_div_mul, ← Nat.div_div_eq_div_mul]
  unfold low at aligned
  rw [show (dword.address.toNat + offset) / 2 ^ 2 = dword.address.toNat / 2 ^ 2 by omega]

theorem byte_segment : (dword.byte offset >>> 32).toUInt16 = (dword.address >>> 32).toUInt16 := by
  have aligned := dword.aligned
  unfold low at aligned
  rw [← UInt16.toNat_inj, UInt64.toNat_toUInt16, UInt64.toNat_toUInt16, toNat_high, toNat_high,
    byte_toNat inside]
  omega

end

/-- Where the configuration space of a bus begins, as the library has it. -/
def configBase (dword : ConfigDword) : UInt64 :=
  if dword.OnRootBus then dword.segment.dbi else dword.segment.base + 0x8000

/-- Where a byte is accessed. -/
def target (dword : ConfigDword) (offset : Nat) : UInt64 :=
  dword.configBase + (dword.byte offset).toUInt32.toUInt64

variable {offset : Nat} {memory : Memory}

theorem getConfigBase_byte (inside : offset < 4) :
    pciSegmentLibGetConfigBase (dword.byte offset) = dword.configBase := by
  have field : dword.byte offset &&& 0xff00000 = dword.address &&& 0xff00000 :=
    byte_field inside 20 8 (by omega) (by decide)
  have bus : ((dword.address &&& 0xff00000) >>> 20).toUInt32 = 0 ↔ dword.OnRootBus := by
    unfold OnRootBus
    rw [and_field_zero_iff dword.address 20 8 (by decide), ← UInt32.toNat_inj,
      UInt64.toNat_toUInt32, UInt64.toNat_shiftRight,
      toNat_and_field64 dword.address 20 8 (by decide), Nat.shiftRight_eq_div_pow]
    simp only [UInt64.reduceToNat, Nat.reduceMod, UInt32.toNat_zero]
    omega
  unfold pciSegmentLibGetConfigBase configBase
  simp only [byte_segment inside, field, dword.inSegment, bus]
  cases dword.segment with
  | pcie2x1 => rw [if_pos rfl]
  | pcie3x1 => rw [if_neg (by decide), if_pos rfl]
  | pcie3x2 => rw [if_neg (by decide), if_neg (by decide), if_pos rfl]

theorem configBase_toNat (dword : ConfigDword) :
    dword.configBase.toNat =
      if dword.OnRootBus then dword.segment.dbi.toNat else dword.segment.base.toNat + 0x8000 := by
  unfold configBase
  split
  · rfl
  · cases dword.segment <;> rfl

theorem target_toNat (inside : offset < 4) :
    (dword.target offset).toNat = dword.configBase.toNat + dword.low + offset := by
  have low := dword.low_lt
  have base : dword.configBase.toNat < 2 ^ 63 := by
    rw [configBase_toNat]
    cases dword.segment <;> split <;> decide
  rw [target, UInt64.toNat_add, byte_low inside]
  omega

theorem target_add (dword : ConfigDword) {first more : Nat} (inside : first + more < 4) :
    dword.target first + UInt64.ofNat more = dword.target (first + more) := by
  rw [← UInt64.toNat_inj, UInt64.toNat_add, target_toNat (by omega), target_toNat inside,
    UInt64.toNat_ofNat', ← Nat.add_assoc]
  have low := dword.low_lt
  have base := dword.configBase.toNat_lt
  have bound := (dword.target (first + more)).toNat_lt
  rw [target_toNat inside] at bound
  omega

/-! ### Reads -/

def Present (dword : ConfigDword) : Prop := ¬ (dword.OnRootBus ∧ ¬ dword.FirstDevice)

instance : Decidable dword.Present := inferInstanceAs (Decidable (¬ _))

section

variable {memory : Memory} {offset : Nat} {width : PciCfgWidth}

theorem absent_iff (inside : offset < 4) :
    (dword.byte offset &&& 0xff00000 = 0 ∧ dword.byte offset &&& 0xf8000 ≠ 0) ↔
      ¬ dword.Present := by
  rw [byte_field inside 20 8 (by omega) (by decide), byte_field inside 15 5 (by omega) (by decide),
    Present, not_not]
  rfl

theorem read_absent (absent : ¬ dword.Present) (inside : offset < 4) :
    pciSegmentLibReadWorker memory (dword.byte offset) width = ⟨0xffffffff, none⟩ := by
  unfold pciSegmentLibReadWorker
  exact if_pos ((absent_iff inside).mpr absent)

theorem read_present (present : dword.Present) (inside : offset < 4)
    (shown : width = .uint32 → offset = 0 ∧ ¬ dword.HiddenBar) :
    pciSegmentLibReadWorker memory (dword.byte offset) width =
      mmioRead memory (dword.target offset) width := by
  unfold pciSegmentLibReadWorker
  simp only [getConfigBase_byte inside]
  rw [if_neg fun absent => (absent_iff inside).mp absent present]
  cases width with
  | uint8 => rfl
  | uint16 => rfl
  | uint32 =>
    obtain ⟨rfl, visible⟩ := shown rfl
    have same : dword.byte 0 = dword.address := UInt64.add_zero _
    refine if_neg ?_
    rw [same]
    rintro ⟨bus, register⟩
    exact visible ⟨bus, not_not.mp fun other => present ⟨bus, other⟩, register⟩

theorem read_hidden (hidden : dword.HiddenBar) :
    pciSegmentLibReadWorker memory dword.address .uint32 = ⟨0, none⟩ := by
  obtain ⟨bus, device, register⟩ := hidden
  unfold pciSegmentLibReadWorker
  dsimp only
  rw [if_neg fun absent => absent.2 device]
  exact if_pos ⟨bus, register⟩

theorem write_touched (inside : offset < 4) (data : UInt32) :
    (pciSegmentLibWriteWorker memory (dword.byte offset) width data).2 =
      if dword.Present then some ⟨(dword.target offset).toNat, width.bytes⟩ else none := by
  unfold pciSegmentLibWriteWorker
  simp only [getConfigBase_byte inside, absent_iff inside]
  by_cases present : dword.Present
  · rw [if_neg (not_not.mpr present), if_pos present]
    rfl
  · rw [if_pos present, if_neg present]

end

/-! ### Coherence -/

theorem mmioRead_value (memory : Memory) (address : UInt64) (width : PciCfgWidth) :
    (mmioRead memory address width).value.toNat = leValue (memory.read address width.bytes) ∧
      leValue (memory.read address width.bytes) < 256 ^ width.bytes := by
  have small := leValue_lt (memory.read address width.bytes)
  rw [Memory.read_length] at small
  have fits : leValue (memory.read address width.bytes) < 2 ^ 32 := by
    cases width <;> simp only [PciCfgWidth.bytes] at small ⊢ <;> omega
  exact ⟨by rw [mmioRead, UInt32.toNat_ofNat', Nat.mod_eq_of_lt fits], small⟩

theorem read8_present (present : dword.Present) (inside : offset < 4) :
    pciSegmentRead8 memory (dword.byte offset) = memory (dword.target offset) := by
  obtain ⟨value, -⟩ := mmioRead_value memory (dword.target offset) .uint8
  rw [pciSegmentRead8, read_present present inside (fun wide => by cases wide), ← UInt8.toNat_inj,
    UInt32.toNat_toUInt8, value]
  simp [PciCfgWidth.bytes, Memory.read, leValue]

theorem read16_present (present : dword.Present) {half : Nat} (inside : half < 2) :
    leBytes 2 (pciSegmentRead16 memory (dword.byte (2 * half))).toNat =
      memory.read (dword.target (2 * half)) 2 := by
  obtain ⟨value, small⟩ := mmioRead_value memory (dword.target (2 * half)) .uint16
  have bytes := leBytes_leValue (memory.read (dword.target (2 * half)) 2)
  rw [Memory.read_length] at bytes
  have fits : leValue (memory.read (dword.target (2 * half)) PciCfgWidth.uint16.bytes) < 2 ^ 16 :=
    small
  rw [pciSegmentRead16, read_present present (by omega) (fun wide => by cases wide),
    UInt32.toNat_toUInt16, value, Nat.mod_eq_of_lt fits]
  exact bytes

theorem read32_shown (present : dword.Present) (shown : ¬ dword.HiddenBar) :
    leBytes 4 (pciSegmentRead32 memory dword.address).toNat = memory.read (dword.target 0) 4 := by
  obtain ⟨value, -⟩ := mmioRead_value memory (dword.target 0) .uint32
  have bytes := leBytes_leValue (memory.read (dword.target 0) 4)
  rw [Memory.read_length] at bytes
  have same : dword.byte 0 = dword.address := UInt64.add_zero _
  rw [pciSegmentRead32, ← same, read_present present (by omega) (fun _ => ⟨rfl, shown⟩), value]
  exact bytes

theorem read8_bytes (memory : Memory) (present : dword.Present) {first count : Nat}
    (inside : first + count ≤ 4) :
    ((List.range count).map fun offset => pciSegmentRead8 memory (dword.byte (first + offset))) =
      memory.read (dword.target first) count := by
  refine List.map_congr_left fun offset member => ?_
  have below := List.mem_range.mp member
  rw [read8_present present (by omega), target_add dword (by omega)]

theorem coherent_of_absent (memory : Memory) (absent : ¬ dword.Present) :
    dword.Coherent memory := by
  have read8 {offset : Nat} (inside : offset < 4) :
      pciSegmentRead8 memory (dword.byte offset) = 0xff := by
    rw [pciSegmentRead8, read_absent absent inside]
    rfl
  have same : dword.byte 0 = dword.address := UInt64.add_zero _
  constructor
  · rw [pciSegmentRead32, ← same, read_absent absent (by omega)]
    simp only [List.range_succ, List.range_zero, List.nil_append, List.map_append, List.map_cons,
      List.map_nil, read8 (by omega : 0 < 4), read8 (by omega : 1 < 4),
      read8 (by omega : 2 < 4), read8 (by omega : 3 < 4)]
    rfl
  · intro half inside
    rw [pciSegmentRead16, read_absent absent (by omega)]
    simp only [List.range_succ, List.range_zero, List.nil_append, List.map_append, List.map_cons,
      List.map_nil, read8 (show 2 * half + 0 < 4 by omega),
      read8 (show 2 * half + 1 < 4 by omega)]
    rfl

/-- The widths agree if and only if a base address register that is hidden holds zero. -/
theorem coherent_iff (memory : Memory) :
    dword.Coherent memory ↔
      (dword.HiddenBar → memory.read (dword.target 0) 4 = List.replicate 4 0) := by
  by_cases present : dword.Present
  · have narrow := read8_bytes memory present (Nat.le_refl (0 + 4))
    simp only [Nat.zero_add] at narrow
    have halves : ∀ half < 2, leBytes 2 (pciSegmentRead16 memory (dword.byte (2 * half))).toNat =
        (List.range 2).map fun offset =>
          pciSegmentRead8 memory (dword.byte (2 * half + offset)) := by
      intro half inside
      rw [read16_present present inside, read8_bytes memory present (by omega)]
    by_cases hidden : dword.HiddenBar
    · have zero : leBytes 4 (pciSegmentRead32 memory dword.address).toNat = List.replicate 4 0 := by
        rw [pciSegmentRead32, read_hidden hidden]
        rfl
      constructor
      · intro coherent _
        rw [← narrow, ← coherent.whole, zero]
      · intro zeros
        exact ⟨by rw [zero, narrow, zeros hidden], halves⟩
    · refine iff_of_true ⟨?_, halves⟩ fun shown => absurd shown hidden
      rw [read32_shown present hidden, narrow]
  · refine iff_of_true (coherent_of_absent memory present) fun hidden => ?_
    exact absurd (fun absent => absent.2 hidden.2.1) present

/-! ### Routing -/

theorem PciCfgWidth.bytes_pos (width : PciCfgWidth) : 0 < width.bytes := by
  cases width <;> decide

/-- Accesses go to where the bytes of a present double word are. -/
theorem Touches.spec {access : Interval} (touches : dword.Touches access) :
    dword.Present ∧ ∃ width offset, offset + PciCfgWidth.bytes width ≤ 4 ∧
      access = ⟨(dword.target offset).toNat, width.bytes⟩ := by
  obtain ⟨width, offset, aligned, inside, memory, reads | ⟨data, writes⟩⟩ := touches
  · have below : offset < 4 := by
      have := PciCfgWidth.bytes_pos width
      omega
    by_cases present : dword.Present
    · refine ⟨present, width, offset, inside, ?_⟩
      by_cases hidden : width = .uint32 ∧ dword.HiddenBar
      · obtain ⟨rfl, hidden⟩ := hidden
        obtain rfl : offset = 0 := by
          simp only [PciCfgWidth.bytes] at inside
          omega
        have same : dword.byte 0 = dword.address := UInt64.add_zero _
        rw [same, read_hidden hidden] at reads
        cases reads
      · have shown : width = .uint32 → offset = 0 ∧ ¬ dword.HiddenBar := by
          rintro rfl
          simp only [PciCfgWidth.bytes] at inside
          exact ⟨by omega, fun bar => hidden ⟨rfl, bar⟩⟩
        rw [read_present present below shown] at reads
        exact (Option.some.inj reads).symm
    · rw [read_absent present below] at reads
      cases reads
  · have below : offset < 4 := by
      have := PciCfgWidth.bytes_pos width
      omega
    rw [write_touched below] at writes
    split at writes
    · next present => exact ⟨present, width, offset, inside, (Option.some.inj writes).symm⟩
    · cases writes

/-- The first byte of a present double word is accessed. -/
theorem touches_first (present : dword.Present) :
    dword.Touches ⟨(dword.target 0).toNat, 1⟩ := by
  refine ⟨.uint8, 0, Nat.dvd_zero _, by decide, fun _ => 0, Or.inl ?_⟩
  rw [read_present present (by omega) (fun wide => by cases wide)]
  rfl

/-- Accesses stay in their window if and only if the device behind the root port is device 0. -/
theorem routed_iff : dword.Routed ↔ (¬ dword.OnRootBus → dword.FirstDevice) := by
  have low := dword.low_lt
  have base := dword.configBase_toNat
  by_cases bus : dword.OnRootBus
  · refine iff_of_true (fun access touches => ?_) fun other => absurd bus other
    obtain ⟨-, width, offset, inside, rfl⟩ := touches.spec
    have positive := PciCfgWidth.bytes_pos width
    have home : dword.home = .dbi := if_pos bus
    have within : Interval.Within ⟨(dword.target offset).toNat, width.bytes⟩
        (dword.segment.range .dbi) := by
      rw [target_toNat (by omega), base, if_pos bus]
      simp only [Interval.Within, Interval.finish, Segment.range]
      omega
    rw [home]
    refine ⟨within, fun segment window different => ?_⟩
    exact (dbi_apart dword.segment segment window different).mono within
      ⟨Nat.le_refl _, Nat.le_refl _⟩
  · have behind : 2 ^ 20 ≤ dword.low := Nat.le_of_not_lt fun lower =>
      bus ((onRootBus_iff dword).mpr lower)
    have home : dword.home = .cfg0 := if_neg bus
    rw [if_neg bus] at base
    rw [firstDevice_iff]
    constructor
    · intro routed _
      have first := (routed _ (touches_first fun absent => bus absent.1)).1
      rw [home, Segment.range_cfg0, target_toNat (by omega), base] at first
      simp only [Interval.Within, Interval.finish] at first
      omega
    · intro device access touches
      have device := device bus
      obtain ⟨-, width, offset, inside, rfl⟩ := touches.spec
      have aligned := dword.aligned
      have positive := PciCfgWidth.bytes_pos width
      have within : Interval.Within ⟨(dword.target offset).toNat, width.bytes⟩
          (dword.segment.range .cfg0) := by
        rw [Segment.range_cfg0, target_toNat (by omega), base]
        simp only [Interval.Within, Interval.finish]
        omega
      rw [home]
      refine ⟨within, fun segment window different => ?_⟩
      exact (cfg0_apart dword.segment segment window different).mono within
        ⟨Nat.le_refl _, Nat.le_refl _⟩

end ConfigDword

/-- The view is coherent and well routed at a double word if and only if it is not that of a base
address register that is hidden and does not hold zero, nor of a device other than 0 behind the
root port. -/
theorem configView_iff (memory : Memory) (dword : ConfigDword) :
    dword.Coherent memory ∧ dword.Routed ↔
      (dword.HiddenBar → memory.read (dword.target 0) 4 = List.replicate 4 0) ∧
        (¬ dword.OnRootBus → dword.FirstDevice) :=
  and_congr (ConfigDword.coherent_iff memory) ConfigDword.routed_iff

/-- The first base address register of the root port of the first segment. -/
def rootPortBar : ConfigDword where
  address := 0x10
  valid := by decide
  segment := .pcie2x1
  inSegment := rfl
  onBus := by decide

/-- The identifiers of device 31 behind the root port of the first segment. -/
def lastDevice : ConfigDword where
  address := 0x1F8000
  valid := by decide
  segment := .pcie2x1
  inSegment := rfl
  onBus := by decide

/-- A base address register that holds `0x04` reads as zero in 32 bits and as it is in eight, and
the last device behind the root port is looked for in the second configuration window. -/
theorem configView_incoherent :
    pciSegmentRead32 (fun _ => 4) rootPortBar.address = 0 ∧
      pciSegmentRead8 (fun _ => 4) rootPortBar.address = 4 ∧
      ¬ rootPortBar.Coherent (fun _ => 4) ∧
      (pciSegmentLibReadWorker (fun _ => 4) lastDevice.address .uint32).touched =
        some ⟨0x300200000, 4⟩ ∧
      Interval.Within ⟨0x300200000, 4⟩ (Segment.pcie2x1.range .cfg1) ∧ ¬ lastDevice.Routed := by
  refine ⟨rfl, rfl, ?_, rfl, by decide, ?_⟩
  · intro coherent
    have bytes := coherent.whole
    revert bytes
    decide
  · rw [ConfigDword.routed_iff]
    decide

end MuRockchip.Pci
