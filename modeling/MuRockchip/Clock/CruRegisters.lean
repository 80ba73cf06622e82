/-
The clock and reset unit of the RK356x, over its registers (`CruLib.c`).

The drivers of the storage, the display and the PCIe controllers and of the PHYs set their
clocks one after the other, through registers that they share. A register has its write
mask in its high half, except the one of a PLL's fractional part, which is read and written
back.

* `setPllRate_read`, `setPllRate_other`: what setting a PLL does to the registers.
* `cruStep_frame`: the registers that a call leaves alone.
-/
import MuRockchip.Base.RegisterFile
import MuRockchip.Clock.Rk356xPll

namespace MuRockchip.Clock

open Base

/-- An ASSERT that fails, a shift past the width of its operand, or a division by zero. -/
inductive CruFault
  | assertion
  | shift
  | pll (fault : PllFault)
  deriving DecidableEq, Repr

/-! ### The registers -/

def cruBase : Nat := 0xFDD20000
def pmucruBase : Nat := 0xFDD00000

def cruPllCon0 (n : UInt32) : Nat := cruBase + (n * 0x20).toNat + 0x0
def cruPllCon1 (n : UInt32) : Nat := cruBase + (n * 0x20).toNat + 0x4
def cruPllCon2 (n : UInt32) : Nat := cruBase + (n * 0x20).toNat + 0x8
def cruModeCon00 : Nat := cruBase + 0x00C0
def cruClkselCon (n : UInt32) : Nat := cruBase + (n * 0x4).toNat + 0x0100
def cruGateCon (n : UInt32) : Nat := cruBase + (n * 0x4).toNat + 0x0300
def cruSoftrstCon (n : UInt32) : Nat := cruBase + (n * 0x4).toNat + 0x0400

def pmucruPllCon0 (n : UInt32) : Nat := pmucruBase + (n * 0x40).toNat + 0x0
def pmucruPllCon1 (n : UInt32) : Nat := pmucruBase + (n * 0x40).toNat + 0x4
def pmucruPllCon2 (n : UInt32) : Nat := pmucruBase + (n * 0x40).toNat + 0x8
def pmucruModeCon00 : Nat := pmucruBase + 0x0080
def pmucruPmuclkselCon (n : UInt32) : Nat := pmucruBase + (n * 0x4).toNat + 0x0100
def pmucruPmugateCon (n : UInt32) : Nat := pmucruBase + (n * 0x4).toNat + 0x0180

/-- The registers of the fractional parts, which have no write mask. -/
def fracRegisters : List Nat :=
  [cruPllCon2 0, cruPllCon2 1, cruPllCon2 2, cruPllCon2 3, cruPllCon2 4, cruPllCon2 5,
    pmucruPllCon2 0, pmucruPllCon2 1]

/-- `MmioWrite32`, to a register of either unit. -/
def mmioWrite32 (regs : RegisterFile) (address : Nat) (value : UInt32) : RegisterFile :=
  if address ∈ fracRegisters then Function.update regs address value
  else maskedWrite regs address value

/-! ### The PLLs -/

def cruApll : UInt32 := 0
def cruGpll : UInt32 := 2
def pmucruPpll : UInt32 := 0
def pmucruHpll : UInt32 := 1

/-- Where the registers of a PLL are, and which field of its unit's mode register is its. -/
structure PllPlace where
  mode : Nat
  modeIndex : UInt32
  con0 : Nat
  con1 : Nat
  con2 : Nat

def cruPll (n modeIndex : UInt32) : PllPlace :=
  ⟨cruModeCon00, modeIndex, cruPllCon0 n, cruPllCon1 n, cruPllCon2 n⟩

def pmucruPll (n : UInt32) : PllPlace :=
  ⟨pmucruModeCon00, n, pmucruPllCon0 n, pmucruPllCon1 n, pmucruPllCon2 n⟩

def PllPlace.read (pll : PllPlace) (regs : RegisterFile) : PllRegs :=
  ⟨regs pll.con0, regs pll.con1, regs pll.con2⟩

/-- The PLLs of both units. -/
def pllsOf (regs : RegisterFile) : Cru where
  pll n := (cruPll n n).read regs
  pmuPll n := (pmucruPll n).read regs

/-- `CRU_MODE_CON00_CLK_PLL_MODE_MASK`, and that of the PMU's unit. -/
def cruPllModeShift (n : UInt32) : UInt32 := n * 2
def cruPllModeMask (n : UInt32) : UInt32 := 0x3 <<< cruPllModeShift n

/-- What `CruSetPllRate` and `PmuCruSetPllRate` do, but for waiting for the lock. -/
def setPllRate (pll : PllPlace) (regs : RegisterFile) (rate : CruPllRate) : RegisterFile :=
  let regs := mmioWrite32 regs pll.mode
    ((cruPllModeMask pll.modeIndex <<< 16) ||| (0 <<< cruPllModeShift pll.modeIndex))
  let regs := mmioWrite32 regs pll.con0 rate.con0
  let regs := mmioWrite32 regs pll.con1 rate.con1
  let regs := mmioWrite32 regs pll.con2 ((regs pll.con2 &&& ~~~cruPllCon2FracdivMask) ||| rate.frac)
  mmioWrite32 regs pll.mode
    ((cruPllModeMask pll.modeIndex <<< 16) ||| (1 <<< cruPllModeShift pll.modeIndex))

/-- `CruSetPllRate`, of the registers. -/
def cruSetPllRateRegs (regs : RegisterFile) (pllNumber : UInt32) (rate : CruPllRate) :
    Except CruFault RegisterFile :=
  if pllNumber ≠ cruGpll then .error .assertion
  else .ok (setPllRate (cruPll pllNumber 2) regs rate)

def pmuCruSetPllRate (regs : RegisterFile) (pllNumber : UInt32) (rate : CruPllRate) :
    RegisterFile :=
  setPllRate (pmucruPll pllNumber) regs rate

def cruFindPllRate (rate : UInt64) : Option CruPllRate :=
  cruPllRates.find? fun entry => entry.rate = rate

/-! ### The clocks -/

def cruClkselCon00ClkCoreISelShift : UInt32 := 6
def cruClkselCon00ClkCoreISelMask : UInt32 := 1 <<< cruClkselCon00ClkCoreISelShift
def cruClkselCon00ClkCoreISelApll : UInt32 := 0
def cruClkselCon00ClkCore0DivMask : UInt32 := 0x1f

def cruGetCoreClockRate (regs : RegisterFile) : Except CruFault UInt64 :=
  let val := regs (cruClkselCon 0)
  let sel := (val &&& cruClkselCon00ClkCoreISelMask) >>> cruClkselCon00ClkCoreISelShift
  let div := val &&& cruClkselCon00ClkCore0DivMask
  let pll := if sel = cruClkselCon00ClkCoreISelApll then cruApll else cruGpll
  match cruGetPllRate (pllsOf regs) pll with
  | .error fault => .error (.pll fault)
  | .ok pllRate => .ok (pllRate / (div + 1).toUInt64)

/-- The register of the clock of an SD controller and the shift of its field. -/
def sdmmcField (index : UInt8) : Nat × UInt32 :=
  if index = 0 then (cruClkselCon 30, 8)
  else if index = 1 then (cruClkselCon 30, 12)
  else (cruClkselCon 32, 8)

def sdmmcMask (index : UInt8) : UInt32 := 0x7 <<< (sdmmcField index).2

def sdmmcSource : Nat → Except CruFault UInt64
  | 0 => .ok cruClkrefRate
  | 1 => .ok 400000000
  | 2 => .ok 300000000
  | 3 => .ok 100000000
  | 4 => .ok 50000000
  | 5 => .ok 750000
  | _ => .error .assertion

def cruGetSdmmcClockRate (regs : RegisterFile) (index : UInt8) : Except CruFault UInt64 :=
  if ¬ index ≤ 1 then .error .assertion
  else
    let val := regs (cruClkselCon 30)
    let sel := (val &&& sdmmcMask index) >>> (sdmmcField index).2
    sdmmcSource sel.toNat

def sdmmcSelect (rate : UInt64) : Except CruFault UInt32 :=
  if rate ≤ 750000 then .ok 5
  else if rate ≤ 24000000 then .ok 0
  else if rate ≤ 50000000 then .ok 4
  else if rate ≤ 100000000 then .ok 3
  else if rate ≤ 300000000 then .ok 2
  else if rate ≤ 400000000 then .ok 1
  else .error .assertion

def cruSetSdmmcClockRate (regs : RegisterFile) (index : UInt8) (rate : UInt64) :
    Except CruFault RegisterFile :=
  if ¬ index ≤ 2 then .error .assertion
  else
    match sdmmcSelect rate with
    | .error fault => .error fault
    | .ok sel =>
      .ok (mmioWrite32 regs (sdmmcField index).1
        ((sdmmcMask index <<< 16) ||| (sel <<< (sdmmcField index).2)))

def cruClkselCon28CclkEmmcSelShift : UInt32 := 12
def cruClkselCon28CclkEmmcSelMask : UInt32 := 0x7 <<< cruClkselCon28CclkEmmcSelShift
def cruClkselCon28BclkEmmcSelShift : UInt32 := 8
def cruClkselCon28BclkEmmcSelMask : UInt32 := 0x3 <<< cruClkselCon28BclkEmmcSelShift

def emmcSelect (rate : UInt64) : UInt32 :=
  if rate ≥ 200000000 then 1
  else if rate ≥ 150000000 then 2
  else if rate ≥ 100000000 then 3
  else if rate ≥ 50000000 then 4
  else if rate ≥ 24000000 then 0
  else 5

def cruSetEmmcClockRate (regs : RegisterFile) (rate : UInt64) : RegisterFile :=
  mmioWrite32 regs (cruClkselCon 28)
    ((cruClkselCon28BclkEmmcSelMask <<< 16) ||| (0 <<< cruClkselCon28BclkEmmcSelShift) |||
      (cruClkselCon28CclkEmmcSelMask <<< 16) |||
        (emmcSelect rate <<< cruClkselCon28CclkEmmcSelShift))

def pciephyDivShift (n : UInt8) : UInt32 := n.toUInt32 * 4
def pciephyDivMask (n : UInt8) : UInt32 := 0x7 <<< pciephyDivShift n
def pciephySelShift (n : UInt8) : UInt32 := n.toUInt32 * 4 + 3
def pciephySelMask (n : UInt8) : UInt32 := 0x1 <<< pciephySelShift n

def cruSetPciePhySource (regs : RegisterFile) (index source : UInt8) :
    Except CruFault RegisterFile :=
  if ¬ index ≤ 2 ∨ ¬ source ≤ 1 then .error .assertion
  else .ok (mmioWrite32 regs (pmucruPmuclkselCon 9)
    ((pciephySelMask index <<< 16) ||| (source.toUInt32 <<< pciephySelShift index)))

def cruGetPciePhyClockRate (regs : RegisterFile) (index : UInt8) : Except CruFault UInt64 :=
  if ¬ index ≤ 2 then .error .assertion
  else
    let val := regs (pmucruPmuclkselCon 9)
    let sel := (val &&& pciephySelMask index) >>> pciephySelShift index
    if sel = 0 then .ok cruClkrefRate
    else
      let div := (val &&& pciephyDivMask index) >>> pciephyDivShift index
      match pmuCruGetPllRate (pllsOf regs) pmucruPpll with
      | .error fault => .error (.pll fault)
      | .ok pllRate => .ok (pllRate / 2 / (div + 1).toUInt64)

def cruSetPciePhyClockRate (regs : RegisterFile) (index : UInt8) (rate : UInt64) :
    Except CruFault RegisterFile :=
  if rate = 100000000 then
    match cruFindPllRate (rate * 2) with
    | none => .error .assertion
    | some pllRate =>
      let regs := pmuCruSetPllRate regs pmucruPpll pllRate
      let regs := mmioWrite32 regs (pmucruPmuclkselCon 9)
        ((pciephyDivMask index <<< 16) ||| (0 <<< pciephyDivShift index))
      cruSetPciePhySource regs index 1
  else if rate = 24000000 then cruSetPciePhySource regs index 0
  else .error .assertion

def cruGetHdmiClockRate (regs : RegisterFile) : Except CruFault UInt64 :=
  match pmuCruGetPllRate (pllsOf regs) pmucruHpll with
  | .error fault => .error (.pll fault)
  | .ok rate => .ok rate

def cruSetHdmiClockRate (regs : RegisterFile) (rate : UInt64) : Except CruFault RegisterFile :=
  match cruFindPllRate rate with
  | none => .error .assertion
  | some pllRate => .ok (pmuCruSetPllRate regs pmucruHpll pllRate)

def cruSetGpllRate (regs : RegisterFile) (rate : UInt64) : Except CruFault RegisterFile :=
  match cruFindPllRate rate with
  | none => .error .assertion
  | some pllRate => cruSetPllRateRegs regs cruGpll pllRate

/-! ### The gates and the resets -/

/-- `1U << Bit`, or `1U << (Bit + 16)`. -/
def bitValue (bit : UInt8) (up : Nat) : Except CruFault UInt32 :=
  if bit.toNat + up < 32 then .ok (1 <<< UInt32.ofNat (bit.toNat + up)) else .error .shift

/-- `CruEnableClock`, and `PmuCruEnableClock`, by their gate registers. -/
def enableClock (gateCon : UInt32 → Nat) (regs : RegisterFile) (index : UInt32) (bit : UInt8) :
    Except CruFault RegisterFile :=
  match bitValue bit 16 with
  | .error fault => .error fault
  | .ok mask => .ok (mmioWrite32 regs (gateCon index) mask)

def cruEnableClock := enableClock cruGateCon
def pmuCruEnableClock := enableClock pmucruPmugateCon

def cruAssertSoftReset (regs : RegisterFile) (index : UInt32) (bit : UInt8) :
    Except CruFault RegisterFile :=
  match bitValue bit 16, bitValue bit 0 with
  | .ok mask, .ok value => .ok (mmioWrite32 regs (cruSoftrstCon index) (mask ||| value))
  | _, _ => .error .shift

def cruDeassertSoftReset (regs : RegisterFile) (index : UInt32) (bit : UInt8) :
    Except CruFault RegisterFile :=
  match bitValue bit 16 with
  | .error fault => .error fault
  | .ok mask => .ok (mmioWrite32 regs (cruSoftrstCon index) mask)

/-! ### The calls -/

/-- A call of a function that writes to the unit. -/
inductive CruCall
  | setSdmmcClockRate (index : UInt8) (rate : UInt64)
  | setEmmcClockRate (rate : UInt64)
  | setPciePhySource (index source : UInt8)
  | setPciePhyClockRate (index : UInt8) (rate : UInt64)
  | setHdmiClockRate (rate : UInt64)
  | setGpllRate (rate : UInt64)
  | enableClock (index : UInt32) (bit : UInt8)
  | pmuEnableClock (index : UInt32) (bit : UInt8)
  | assertSoftReset (index : UInt32) (bit : UInt8)
  | deassertSoftReset (index : UInt32) (bit : UInt8)

def cruStep (regs : RegisterFile) : CruCall → Except CruFault RegisterFile
  | .setSdmmcClockRate index rate => cruSetSdmmcClockRate regs index rate
  | .setEmmcClockRate rate => .ok (cruSetEmmcClockRate regs rate)
  | .setPciePhySource index source => cruSetPciePhySource regs index source
  | .setPciePhyClockRate index rate => cruSetPciePhyClockRate regs index rate
  | .setHdmiClockRate rate => cruSetHdmiClockRate regs rate
  | .setGpllRate rate => cruSetGpllRate regs rate
  | .enableClock index bit => cruEnableClock regs index bit
  | .pmuEnableClock index bit => pmuCruEnableClock regs index bit
  | .assertSoftReset index bit => cruAssertSoftReset regs index bit
  | .deassertSoftReset index bit => cruDeassertSoftReset regs index bit

/-- The index of a gate or a reset is that of one of its registers. -/
def CruCall.InRange : CruCall → Prop
  | .enableClock index _ => index < 64
  | .pmuEnableClock index _ => index < 32
  | .assertSoftReset index _ => index < 64
  | .deassertSoftReset index _ => index < 64
  | _ => True

instance : DecidablePred CruCall.InRange
  | .enableClock index _ => inferInstanceAs (Decidable (index < 64))
  | .pmuEnableClock index _ => inferInstanceAs (Decidable (index < 32))
  | .assertSoftReset index _ => inferInstanceAs (Decidable (index < 64))
  | .deassertSoftReset index _ => inferInstanceAs (Decidable (index < 64))
  | .setSdmmcClockRate _ _ => .isTrue trivial
  | .setEmmcClockRate _ => .isTrue trivial
  | .setPciePhySource _ _ => .isTrue trivial
  | .setPciePhyClockRate _ _ => .isTrue trivial
  | .setHdmiClockRate _ => .isTrue trivial
  | .setGpllRate _ => .isTrue trivial

/-! ### What a write does -/

variable {regs next : RegisterFile} {address : Nat} {value : UInt32}

theorem mmioWrite32_masked (masked : address ∉ fracRegisters) :
    mmioWrite32 regs address value = maskedWrite regs address value :=
  if_neg masked

theorem mmioWrite32_frac (plain : address ∈ fracRegisters) :
    mmioWrite32 regs address value = Function.update regs address value :=
  if_pos plain

variable {elsewhere : Nat} {index bit : UInt8} {rate : UInt64}

theorem mmioWrite32_other (apart : elsewhere ≠ address) :
    mmioWrite32 regs address value elsewhere = regs elsewhere := by
  rw [mmioWrite32]
  split
  · exact Function.update_of_ne apart _ regs
  · exact maskedWrite_other apart

/-- The registers of a PLL are five of their own, and only one of them has no write mask. -/
structure PllPlace.Laid (pll : PllPlace) : Prop where
  nodup : [pll.mode, pll.con0, pll.con1, pll.con2].Nodup
  mode : pll.mode ∉ fracRegisters
  con0 : pll.con0 ∉ fracRegisters
  con1 : pll.con1 ∉ fracRegisters
  con2 : pll.con2 ∈ fracRegisters

theorem cruPll_laid : (cruPll cruGpll 2).Laid :=
  ⟨by decide, by decide, by decide, by decide, by decide⟩

theorem pmucruPll_laid {n : UInt32} (known : n = pmucruPpll ∨ n = pmucruHpll) :
    (pmucruPll n).Laid := by
  rcases known with rfl | rfl <;>
    exact ⟨by decide, by decide, by decide, by decide, by decide⟩

def PllPlace.addresses (pll : PllPlace) : List Nat := [pll.mode, pll.con0, pll.con1, pll.con2]

theorem setPllRate_other {pll : PllPlace} {rate : CruPllRate}
    (apart : elsewhere ∉ pll.addresses) : setPllRate pll regs rate elsewhere = regs elsewhere := by
  simp only [PllPlace.addresses, List.mem_cons, List.not_mem_nil, or_false, not_or] at apart
  obtain ⟨mode, con0, con1, con2⟩ := apart
  simp only [setPllRate]
  rw [mmioWrite32_other mode, mmioWrite32_other con2, mmioWrite32_other con1,
    mmioWrite32_other con0, mmioWrite32_other mode]

/-- The registers of the PLL become those of its new rate. -/
theorem setPllRate_read {pll : PllPlace} (laid : pll.Laid) (rate : CruPllRate) :
    pll.read (setPllRate pll regs rate) = cruSetPllRate (pll.read regs) rate := by
  have nodup := laid.nodup
  simp only [List.nodup_cons, List.mem_cons, List.not_mem_nil, or_false, not_or] at nodup
  obtain ⟨⟨mode0, mode1, mode2⟩, ⟨zero1, zero2⟩, one2, -⟩ := nodup
  simp only [PllPlace.read, setPllRate, cruSetPllRate, PllRegs.mk.injEq]
  refine ⟨?_, ?_, ?_⟩
  · rw [mmioWrite32_other (Ne.symm mode0), mmioWrite32_other zero2, mmioWrite32_other zero1,
      mmioWrite32_masked laid.con0, maskedWrite_same, mmioWrite32_other (Ne.symm mode0)]
  · rw [mmioWrite32_other (Ne.symm mode1), mmioWrite32_other one2,
      mmioWrite32_masked laid.con1, maskedWrite_same, mmioWrite32_other (Ne.symm zero1),
      mmioWrite32_other (Ne.symm mode1)]
  · rw [mmioWrite32_other (Ne.symm mode2), mmioWrite32_frac laid.con2, Function.update_self,
      mmioWrite32_other (Ne.symm one2), mmioWrite32_other (Ne.symm zero2),
      mmioWrite32_other (Ne.symm mode2)]

/-- The mode register is written before and after the others. -/
theorem setPllRate_mode {pll : PllPlace} (laid : pll.Laid) (rate : CruPllRate) :
    setPllRate pll regs rate pll.mode =
      maskedWrite (maskedWrite regs pll.mode
          ((cruPllModeMask pll.modeIndex <<< 16) ||| (0 <<< cruPllModeShift pll.modeIndex)))
        pll.mode ((cruPllModeMask pll.modeIndex <<< 16) ||| (1 <<< cruPllModeShift pll.modeIndex))
        pll.mode := by
  have nodup := laid.nodup
  simp only [List.nodup_cons, List.mem_cons, List.not_mem_nil, or_false, not_or] at nodup
  obtain ⟨⟨mode0, mode1, mode2⟩, -⟩ := nodup
  simp only [setPllRate]
  rw [mmioWrite32_masked laid.mode, maskedWrite_same, mmioWrite32_other mode2,
    mmioWrite32_other mode1, mmioWrite32_other mode0, mmioWrite32_masked laid.mode,
    maskedWrite_same, maskedWrite_same, maskedWrite_same]

/-! ### What a call leaves alone -/

/-- The registers that a call writes to. -/
def CruCall.touched : CruCall → List Nat
  | .setSdmmcClockRate index _ => [(sdmmcField index).1]
  | .setEmmcClockRate _ => [cruClkselCon 28]
  | .setPciePhySource _ _ => [pmucruPmuclkselCon 9]
  | .setPciePhyClockRate _ _ => pmucruPmuclkselCon 9 :: (pmucruPll pmucruPpll).addresses
  | .setHdmiClockRate _ => (pmucruPll pmucruHpll).addresses
  | .setGpllRate _ => (cruPll cruGpll 2).addresses
  | .enableClock index _ => [cruGateCon index]
  | .pmuEnableClock index _ => [pmucruPmugateCon index]
  | .assertSoftReset index _ => [cruSoftrstCon index]
  | .deassertSoftReset index _ => [cruSoftrstCon index]

theorem cruSetPciePhySource_ok {source : UInt8}
    (taken : cruSetPciePhySource regs index source = .ok next) :
    index ≤ 2 ∧ source ≤ 1 ∧
      next = mmioWrite32 regs (pmucruPmuclkselCon 9)
        ((pciephySelMask index <<< 16) ||| (source.toUInt32 <<< pciephySelShift index)) := by
  rw [cruSetPciePhySource] at taken
  split at taken
  · cases taken
  · rename_i asserted
    rw [not_or, not_not, not_not] at asserted
    exact ⟨asserted.1, asserted.2, (Except.ok.inj taken).symm⟩

theorem cruFindPllRate_some {pllRate : CruPllRate} (found : cruFindPllRate rate = some pllRate) :
    pllRate ∈ cruPllRates ∧ pllRate.rate = rate :=
  ⟨List.mem_of_find?_eq_some found, by simpa using List.find?_some found⟩

/-- The PHY's reference is the PLL's at 100 MHz and the oscillator's at 24 MHz. -/
theorem cruSetPciePhyClockRate_ok (taken : cruSetPciePhyClockRate regs index rate = .ok next) :
    (rate = 100000000 ∧ ∃ pllRate ∈ cruPllRates, pllRate.rate = 200000000 ∧
      cruSetPciePhySource (mmioWrite32 (pmuCruSetPllRate regs pmucruPpll pllRate)
        (pmucruPmuclkselCon 9) ((pciephyDivMask index <<< 16) ||| (0 <<< pciephyDivShift index)))
        index 1 = .ok next) ∨
    rate = 24000000 ∧ cruSetPciePhySource regs index 0 = .ok next := by
  rw [cruSetPciePhyClockRate] at taken
  split at taken
  · rename_i fast
    cases found : cruFindPllRate (rate * 2) with
    | none =>
      rw [found] at taken
      cases taken
    | some pllRate =>
      rw [found] at taken
      obtain ⟨listed, same⟩ := cruFindPllRate_some found
      have doubled : pllRate.rate = 200000000 := by
        rw [same, fast]
        rfl
      exact .inl ⟨fast, pllRate, listed, doubled, taken⟩
  · split at taken
    · rename_i slow
      exact .inr ⟨slow, taken⟩
    · cases taken

theorem cruSetHdmiClockRate_ok (taken : cruSetHdmiClockRate regs rate = .ok next) :
    ∃ pllRate ∈ cruPllRates, pllRate.rate = rate ∧
      next = setPllRate (pmucruPll pmucruHpll) regs pllRate := by
  rw [cruSetHdmiClockRate] at taken
  cases found : cruFindPllRate rate with
  | none =>
    rw [found] at taken
    cases taken
  | some pllRate =>
    rw [found] at taken
    obtain ⟨listed, same⟩ := cruFindPllRate_some found
    exact ⟨pllRate, listed, same, (Except.ok.inj taken).symm⟩

theorem cruSetGpllRate_ok (taken : cruSetGpllRate regs rate = .ok next) :
    ∃ pllRate ∈ cruPllRates, pllRate.rate = rate ∧
      next = setPllRate (cruPll cruGpll 2) regs pllRate := by
  rw [cruSetGpllRate] at taken
  cases found : cruFindPllRate rate with
  | none =>
    rw [found] at taken
    cases taken
  | some pllRate =>
    rw [found] at taken
    obtain ⟨listed, same⟩ := cruFindPllRate_some found
    exact ⟨pllRate, listed, same, (Except.ok.inj taken).symm⟩

theorem cruSetSdmmcClockRate_ok (taken : cruSetSdmmcClockRate regs index rate = .ok next) :
    index ≤ 2 ∧ ∃ sel, sdmmcSelect rate = .ok sel ∧
      next = mmioWrite32 regs (sdmmcField index).1
        ((sdmmcMask index <<< 16) ||| (sel <<< (sdmmcField index).2)) := by
  rw [cruSetSdmmcClockRate] at taken
  split at taken
  · cases taken
  · rename_i asserted
    cases selected : sdmmcSelect rate with
    | error fault =>
      rw [selected] at taken
      cases taken
    | ok sel =>
      rw [selected] at taken
      exact ⟨not_not.mp asserted, sel, rfl, (Except.ok.inj taken).symm⟩

theorem bitValue_ok {up : Nat} {value : UInt32} (valued : bitValue bit up = .ok value) :
    bit.toNat + up < 32 ∧ value = 1 <<< UInt32.ofNat (bit.toNat + up) := by
  rw [bitValue] at valued
  split at valued
  · rename_i fits
    exact ⟨fits, (Except.ok.inj valued).symm⟩
  · cases valued

/-- The write that names one bit and takes `content` for it. -/
def bitWrite (bit : UInt8) (content : UInt32) : UInt32 :=
  (1 <<< UInt32.ofNat (bit.toNat + 16)) ||| (content <<< UInt32.ofNat bit.toNat)

theorem enableClock_ok {gateCon : UInt32 → Nat} {index : UInt32}
    (taken : enableClock gateCon regs index bit = .ok next) :
    bit < 16 ∧ next = mmioWrite32 regs (gateCon index) (bitWrite bit 0) := by
  rw [enableClock] at taken
  cases valued : bitValue bit 16 with
  | error fault =>
    rw [valued] at taken
    cases taken
  | ok mask =>
    rw [valued] at taken
    obtain ⟨fits, rfl⟩ := bitValue_ok valued
    refine ⟨UInt8.lt_iff_toNat_lt.mpr (Nat.lt_of_add_lt_add_right fits), ?_⟩
    rw [bitWrite, UInt32.zero_shiftLeft, UInt32.or_zero]
    exact (Except.ok.inj taken).symm

theorem cruDeassertSoftReset_ok {index : UInt32}
    (taken : cruDeassertSoftReset regs index bit = .ok next) :
    bit < 16 ∧ next = mmioWrite32 regs (cruSoftrstCon index) (bitWrite bit 0) :=
  enableClock_ok taken

theorem cruAssertSoftReset_ok {index : UInt32}
    (taken : cruAssertSoftReset regs index bit = .ok next) :
    bit < 16 ∧ next = mmioWrite32 regs (cruSoftrstCon index) (bitWrite bit 1) := by
  rw [cruAssertSoftReset] at taken
  cases valued : bitValue bit 16 with
  | error fault =>
    rw [valued] at taken
    cases taken
  | ok mask =>
    cases lower : bitValue bit 0 with
    | error fault =>
      rw [valued, lower] at taken
      cases taken
    | ok value =>
      rw [valued, lower] at taken
      obtain ⟨fits, rfl⟩ := bitValue_ok valued
      obtain ⟨-, rfl⟩ := bitValue_ok lower
      exact ⟨UInt8.lt_iff_toNat_lt.mpr (Nat.lt_of_add_lt_add_right fits),
        (Except.ok.inj taken).symm⟩

theorem cruStep_frame {call : CruCall} (taken : cruStep regs call = .ok next)
    (apart : elsewhere ∉ call.touched) : next elsewhere = regs elsewhere := by
  cases call <;> simp only [CruCall.touched] at apart
  case setSdmmcClockRate index rate =>
    obtain ⟨-, sel, -, rfl⟩ := cruSetSdmmcClockRate_ok taken
    exact mmioWrite32_other (List.ne_of_not_mem_cons apart)
  case setEmmcClockRate rate =>
    rw [← Except.ok.inj taken]
    exact mmioWrite32_other (List.ne_of_not_mem_cons apart)
  case setPciePhySource index source =>
    obtain ⟨-, -, rfl⟩ := cruSetPciePhySource_ok taken
    exact mmioWrite32_other (List.ne_of_not_mem_cons apart)
  case setPciePhyClockRate index rate =>
    have sel := List.ne_of_not_mem_cons apart
    rcases cruSetPciePhyClockRate_ok taken with ⟨-, pllRate, -, -, source⟩ | ⟨-, source⟩
    · obtain ⟨-, -, rfl⟩ := cruSetPciePhySource_ok source
      rw [mmioWrite32_other sel, mmioWrite32_other sel]
      rw [pmuCruSetPllRate, setPllRate_other (List.not_mem_of_not_mem_cons apart)]
    · obtain ⟨-, -, rfl⟩ := cruSetPciePhySource_ok source
      exact mmioWrite32_other sel
  case setHdmiClockRate rate =>
    obtain ⟨pllRate, -, -, rfl⟩ := cruSetHdmiClockRate_ok taken
    rw [setPllRate_other apart]
  case setGpllRate rate =>
    obtain ⟨pllRate, -, -, rfl⟩ := cruSetGpllRate_ok taken
    rw [setPllRate_other apart]
  case enableClock index bit =>
    obtain ⟨-, written⟩ := enableClock_ok taken
    rw [written]
    exact mmioWrite32_other (List.ne_of_not_mem_cons apart)
  case pmuEnableClock index bit =>
    obtain ⟨-, written⟩ := enableClock_ok taken
    rw [written]
    exact mmioWrite32_other (List.ne_of_not_mem_cons apart)
  case assertSoftReset index bit =>
    obtain ⟨-, written⟩ := cruAssertSoftReset_ok taken
    rw [written]
    exact mmioWrite32_other (List.ne_of_not_mem_cons apart)
  case deassertSoftReset index bit =>
    obtain ⟨-, written⟩ := cruDeassertSoftReset_ok taken
    rw [written]
    exact mmioWrite32_other (List.ne_of_not_mem_cons apart)

end MuRockchip.Clock
