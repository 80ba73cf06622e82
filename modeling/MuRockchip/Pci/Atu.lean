/-
The windows of the PCIe controllers (`PciHostBridgeInit.c`).

Setting up a host programs three outbound regions of its address translation unit: the
configuration space of the bus behind the root port, that of the buses below, and I/O. A region is
what the unit makes of its registers, whatever they held before.

* `setupOutbound_region`: the regions that are programmed.
* `dbi_apart`, `cfg0_apart`: the two windows that configuration accesses use overlap no other one.
-/
import Mathlib.Logic.Function.Basic
import MuRockchip.Base.Memory

namespace MuRockchip.Pci

open Base

/-! ### Segments -/

/-- The three controllers. -/
inductive Segment where
  | pcie2x1
  | pcie3x1
  | pcie3x2
  deriving DecidableEq, Repr

namespace Segment

/-- `PCIE2X1_S`, `PCIE3X1_S` and `PCIE3X2_S`, of 1024 MB each. -/
def base : Segment → UInt64
  | pcie2x1 => 0x300000000
  | pcie3x1 => 0x340000000
  | pcie3x2 => 0x380000000

/-- `PCIE2X1_DBI`, `PCIE3X1_DBI` and `PCIE3X2_DBI`, of 4 MB each. -/
def dbi : Segment → UInt64
  | pcie2x1 => 0x3C0000000
  | pcie3x1 => 0x3C0400000
  | pcie3x2 => 0x3C0800000

/-- `PCIE2X1_SEGMENT`, `PCIE3X1_SEGMENT` and `PCIE3X2_SEGMENT`. -/
def number (segment : Segment) : UInt64 := (segment.base - 0x300000000) / 0x40000000

end Segment

/-! ### The address translation unit -/

/-- The registers of a controller, by their offset from `DbiBase`. -/
abbrev Dbi : Type := UInt32 → UInt32

/-- `MmioWrite32`. -/
def Dbi.write (registers : Dbi) (offset value : UInt32) : Dbi :=
  Function.update registers offset value

def atuCapBase : UInt32 := 0x300000

def iatuRegionCtrlOutbound (index : UInt32) : UInt32 := atuCapBase + (index <<< 9)

def iatuRegionCtrl1Off : UInt32 := 0x000
def iatuRegionCtrl2Off : UInt32 := 0x004
def iatuLwrBaseAddrOff : UInt32 := 0x008
def iatuUpperBaseAddrOff : UInt32 := 0x00C
def iatuLimitAddrOff : UInt32 := 0x010
def iatuLwrTargetAddrOff : UInt32 := 0x014
def iatuUpperTargetAddrOff : UInt32 := 0x018

def iatuTypeIo : UInt32 := 2
def iatuTypeCfg0 : UInt32 := 4
def iatuTypeCfg1 : UInt32 := 5

def iatuEnable : UInt32 := 0x80000000

def iatuCfgShiftMode : UInt32 := 0x10000000

def pciSetupAtu (registers : Dbi) (index type : UInt32) (cpuBase busBase length : UInt64) : Dbi :=
  let ctrl2Off :=
    if type = iatuTypeCfg0 ∨ type = iatuTypeCfg1 then iatuEnable ||| iatuCfgShiftMode
    else iatuEnable
  let region := iatuRegionCtrlOutbound index
  registers
    |>.write (region + iatuLwrBaseAddrOff) cpuBase.toUInt32
    |>.write (region + iatuUpperBaseAddrOff) (cpuBase >>> 32).toUInt32
    |>.write (region + iatuLimitAddrOff) (cpuBase + length - 1).toUInt32
    |>.write (region + iatuLwrTargetAddrOff) busBase.toUInt32
    |>.write (region + iatuUpperTargetAddrOff) (busBase >>> 32).toUInt32
    |>.write (region + iatuRegionCtrl1Off) type
    |>.write (region + iatuRegionCtrl2Off) ctrl2Off

/-- The part of `InitializePciHost` that sets up the unit. -/
def setupOutbound (registers : Dbi) (baseAddress : UInt64) : Dbi :=
  let cfg0Base : UInt64 := 0x100000
  let cfg0Size : UInt64 := 0x10000
  let cfg1Base : UInt64 := 0x200000
  let cfg1Size : UInt64 := 0x10000000 - (0x200000 + 0x10000)
  let pciIoBase : UInt64 := 0x2FFF0000
  let pciIoSize : UInt64 := 0x10000
  let registers :=
    pciSetupAtu registers 0 iatuTypeCfg0 (baseAddress + cfg0Base) cfg0Base cfg0Size
  let registers :=
    pciSetupAtu registers 1 iatuTypeCfg1 (baseAddress + cfg1Base) cfg1Base cfg1Size
  pciSetupAtu registers 2 iatuTypeIo (baseAddress + pciIoBase) 0 pciIoSize

/-- An outbound region: the accesses it takes, and what becomes of them. -/
structure Region where
  type : UInt32
  window : Interval
  target : Nat
  deriving DecidableEq, Repr

/-- What the unit makes of the registers of an outbound region. The limit has its upper half in
common with the base. -/
def Dbi.region (registers : Dbi) (index : UInt32) : Option Region :=
  let read (offset : UInt32) : Nat := (registers (iatuRegionCtrlOutbound index + offset)).toNat
  if registers (iatuRegionCtrlOutbound index + iatuRegionCtrl2Off) &&& iatuEnable = 0 then none
  else
    some {
      type := registers (iatuRegionCtrlOutbound index + iatuRegionCtrl1Off)
      window :=
        { base := read iatuLwrBaseAddrOff + 2 ^ 32 * read iatuUpperBaseAddrOff
          length := read iatuLimitAddrOff + 1 - read iatuLwrBaseAddrOff }
      target := read iatuLwrTargetAddrOff + 2 ^ 32 * read iatuUpperTargetAddrOff }

/-- The registers of an outbound region. -/
def iatuOffsets : List UInt32 :=
  [iatuRegionCtrl1Off, iatuRegionCtrl2Off, iatuLwrBaseAddrOff, iatuUpperBaseAddrOff,
    iatuLimitAddrOff, iatuLwrTargetAddrOff, iatuUpperTargetAddrOff]

section

variable (registers : Dbi) (index type : UInt32) (cpuBase busBase length : UInt64)

/-- What is read back from a region that has been set up. -/
theorem pciSetupAtu_own :
    let after := pciSetupAtu registers index type cpuBase busBase length
    let region := iatuRegionCtrlOutbound index
    after (region + iatuRegionCtrl1Off) = type ∧
      after (region + iatuRegionCtrl2Off) &&& iatuEnable = iatuEnable ∧
      after (region + iatuLwrBaseAddrOff) = cpuBase.toUInt32 ∧
      after (region + iatuUpperBaseAddrOff) = (cpuBase >>> 32).toUInt32 ∧
      after (region + iatuLimitAddrOff) = (cpuBase + length - 1).toUInt32 ∧
      after (region + iatuLwrTargetAddrOff) = busBase.toUInt32 ∧
      after (region + iatuUpperTargetAddrOff) = (busBase >>> 32).toUInt32 := by
  refine ⟨?_, ?_, ?_, ?_, ?_, ?_, ?_⟩
  case refine_2 =>
    simp only [pciSetupAtu, Dbi.write, Function.update_self]
    split <;> decide
  all_goals
    simp [pciSetupAtu, Dbi.write, iatuRegionCtrl1Off, iatuRegionCtrl2Off,
      iatuLwrBaseAddrOff, iatuUpperBaseAddrOff, iatuLimitAddrOff, iatuLwrTargetAddrOff,
      iatuUpperTargetAddrOff]

theorem pciSetupAtu_other {offset : UInt32}
    (other : ∀ own ∈ iatuOffsets, offset ≠ iatuRegionCtrlOutbound index + own) :
    pciSetupAtu registers index type cpuBase busBase length offset = registers offset := by
  simp only [iatuOffsets, List.mem_cons, List.not_mem_nil, or_false, forall_eq_or_imp,
    forall_eq] at other
  obtain ⟨ctrl1, ctrl2, lwrBase, upperBase, limit, lwrTarget, upperTarget⟩ := other
  simp only [pciSetupAtu, Dbi.write, Function.update_apply, ctrl1, ctrl2, lwrBase, upperBase, limit,
    lwrTarget, upperTarget, if_false]

end

theorem Dbi.region_congr {left right : Dbi} {index : UInt32}
    (same : ∀ own ∈ iatuOffsets, left (iatuRegionCtrlOutbound index + own) =
      right (iatuRegionCtrlOutbound index + own)) : left.region index = right.region index := by
  simp only [iatuOffsets, List.mem_cons, List.not_mem_nil, or_false, forall_eq_or_imp,
    forall_eq] at same
  obtain ⟨ctrl1, ctrl2, lwrBase, upperBase, limit, lwrTarget, upperTarget⟩ := same
  simp only [Dbi.region, ctrl1, ctrl2, lwrBase, upperBase, limit, lwrTarget, upperTarget]

theorem toNat_high (word : UInt64) : (word >>> 32).toNat = word.toNat / 2 ^ 32 := by
  rw [UInt64.toNat_shiftRight, Nat.shiftRight_eq_div_pow]
  rfl

/-- A region that does not cross a multiple of 4 GB is the one that was asked for. -/
theorem pciSetupAtu_region (registers : Dbi) (index type : UInt32)
    {cpuBase busBase length : UInt64} (positive : 0 < length.toNat)
    (within : cpuBase.toNat % 2 ^ 32 + length.toNat ≤ 2 ^ 32) :
    (pciSetupAtu registers index type cpuBase busBase length).region index =
      some ⟨type, ⟨cpuBase.toNat, length.toNat⟩, busBase.toNat⟩ := by
  obtain ⟨ctrl1, ctrl2, lwrBase, upperBase, limit, lwrTarget, upperTarget⟩ :=
    pciSetupAtu_own registers index type cpuBase busBase length
  have last : (cpuBase + length - 1).toNat % 2 ^ 32 =
      cpuBase.toNat % 2 ^ 32 + length.toNat - 1 := by
    rw [UInt64.toNat_sub, UInt64.toNat_add]
    simp only [UInt64.toNat_one]
    omega
  have enabled : iatuEnable ≠ 0 := by decide
  simp only [Dbi.region, ctrl1, ctrl2, lwrBase, upperBase, limit, lwrTarget, upperTarget, enabled,
    if_false, UInt64.toNat_toUInt32, toNat_high, last, Option.some.injEq, Region.mk.injEq,
    Interval.mk.injEq, true_and]
  have cpuBound := cpuBase.toNat_lt
  have busBound := busBase.toNat_lt
  omega

theorem iatuOffsets_lt : ∀ own ∈ iatuOffsets, own.toNat < 0x200 := by
  simp [iatuOffsets, iatuRegionCtrl1Off, iatuRegionCtrl2Off, iatuLwrBaseAddrOff,
    iatuUpperBaseAddrOff, iatuLimitAddrOff, iatuLwrTargetAddrOff, iatuUpperTargetAddrOff]

theorem toNat_iatuRegionCtrlOutbound {index own : UInt32} (small : index.toNat < 0x1000)
    (inside : own.toNat < 0x200) :
    (iatuRegionCtrlOutbound index + own).toNat = 0x300000 + index.toNat * 0x200 + own.toNat := by
  have shifted : (index <<< 9).toNat = index.toNat * 0x200 := by
    rw [UInt32.toNat_shiftLeft, Nat.shiftLeft_eq]
    exact Nat.mod_eq_of_lt (by simp; omega)
  rw [iatuRegionCtrlOutbound, atuCapBase, UInt32.toNat_add, UInt32.toNat_add, shifted]
  simp
  omega

theorem pciSetupAtu_region_other (registers : Dbi) {index other : UInt32} (type : UInt32)
    (cpuBase busBase length : UInt64) (small : index.toNat < 0x1000)
    (otherSmall : other.toNat < 0x1000) (different : other.toNat ≠ index.toNat) :
    (pciSetupAtu registers index type cpuBase busBase length).region other =
      registers.region other := by
  refine Dbi.region_congr fun theirs member =>
    pciSetupAtu_other registers index type cpuBase busBase length fun own ownMember same => ?_
  have equal := congrArg UInt32.toNat same
  have theirsInside := iatuOffsets_lt theirs member
  have ownInside := iatuOffsets_lt own ownMember
  rw [toNat_iatuRegionCtrlOutbound otherSmall theirsInside,
    toNat_iatuRegionCtrlOutbound small ownInside] at equal
  omega

theorem setupOutbound_region (registers : Dbi) (segment : Segment) :
    (setupOutbound registers segment.base).region 0 =
        some ⟨iatuTypeCfg0, ⟨segment.base.toNat + 0x100000, 0x10000⟩, 0x100000⟩ ∧
      (setupOutbound registers segment.base).region 1 =
        some ⟨iatuTypeCfg1, ⟨segment.base.toNat + 0x200000, 0xFDF0000⟩, 0x200000⟩ ∧
      (setupOutbound registers segment.base).region 2 =
        some ⟨iatuTypeIo, ⟨segment.base.toNat + 0x2FFF0000, 0x10000⟩, 0⟩ := by
  refine ⟨?_, ?_, ?_⟩
  · rw [setupOutbound, pciSetupAtu_region_other _ _ _ _ _ (by decide) (by decide) (by decide),
      pciSetupAtu_region_other _ _ _ _ _ (by decide) (by decide) (by decide), pciSetupAtu_region]
    all_goals cases segment <;> decide
  · rw [setupOutbound, pciSetupAtu_region_other _ _ _ _ _ (by decide) (by decide) (by decide),
      pciSetupAtu_region]
    all_goals cases segment <;> decide
  · rw [setupOutbound, pciSetupAtu_region]
    all_goals cases segment <;> decide

/-! ### Windows -/

/-- What an address of a controller may stand for. -/
inductive Window where
  | dbi
  | cfg0
  | cfg1
  | io
  | mem
  | memAbove4G
  deriving DecidableEq, Repr

def Segment.outbound (segment : Segment) (index : UInt32) : Interval :=
  match (setupOutbound (fun _ => 0) segment.base).region index with
  | some region => region.window
  | none => ⟨0, 0⟩

/-- The addresses of a window. All root bridges have the same apertures for memory. -/
def Segment.range (segment : Segment) : Window → Interval
  | .dbi => ⟨segment.dbi.toNat, 0x400000⟩
  | .cfg0 => segment.outbound 0
  | .cfg1 => segment.outbound 1
  | .io => segment.outbound 2
  | .mem => ⟨0xF0000000, 0x02000000⟩
  | .memAbove4G => ⟨0x390000000, 0x2FFF0000⟩

theorem Segment.range_cfg0 (segment : Segment) :
    segment.range .cfg0 = ⟨segment.base.toNat + 0x100000, 0x10000⟩ := by
  rw [range, outbound, (setupOutbound_region _ segment).1]

theorem Segment.range_cfg1 (segment : Segment) :
    segment.range .cfg1 = ⟨segment.base.toNat + 0x200000, 0xFDF0000⟩ := by
  rw [range, outbound, (setupOutbound_region _ segment).2.1]

theorem Segment.range_io (segment : Segment) :
    segment.range .io = ⟨segment.base.toNat + 0x2FFF0000, 0x10000⟩ := by
  rw [range, outbound, (setupOutbound_region _ segment).2.2]

theorem dbi_apart (segment other : Segment) (window : Window)
    (different : (other, window) ≠ (segment, .dbi)) :
    (segment.range .dbi).Disjoint (other.range window) := by
  cases window with
  | dbi => cases segment <;> cases other <;> first | exact absurd rfl different | decide
  | cfg0 => rw [Segment.range_cfg0]; cases segment <;> cases other <;> decide
  | cfg1 => rw [Segment.range_cfg1]; cases segment <;> cases other <;> decide
  | io => rw [Segment.range_io]; cases segment <;> cases other <;> decide
  | mem => cases segment <;> cases other <;> decide
  | memAbove4G => cases segment <;> cases other <;> decide

theorem cfg0_apart (segment other : Segment) (window : Window)
    (different : (other, window) ≠ (segment, .cfg0)) :
    (segment.range .cfg0).Disjoint (other.range window) := by
  rw [Segment.range_cfg0]
  cases window with
  | dbi => cases segment <;> cases other <;> decide
  | cfg0 =>
    rw [Segment.range_cfg0]
    cases segment <;> cases other <;> first | exact absurd rfl different | decide
  | cfg1 => rw [Segment.range_cfg1]; cases segment <;> cases other <;> decide
  | io => rw [Segment.range_io]; cases segment <;> cases other <;> decide
  | mem => cases segment <;> cases other <;> decide
  | memAbove4G => cases segment <;> cases other <;> decide

end MuRockchip.Pci
