/-
What the drivers have set the clocks of the RK356x to (`CruLib.c`).

The calls of several drivers reach the unit in any order. Whatever the order, a clock's rate
is the one that was last asked for: a rate of the table is read back as it is, and an SD
controller's clock as the slowest source that is no slower than what was asked for. The PHYs
share their PLL, which only ever gets one rate. A gate stays open, and a reset is as it was
last left.

* `cruRun_readsBack`: after any run of calls, every clock, gate and reset is as it was last
  asked for, and as it was before where nothing was asked for.
-/
import Mathlib.Data.Bool.AllAny
import Mathlib.Order.Bounds.Basic
import MuRockchip.Base.LastRequest
import MuRockchip.Clock.CruRegisters

namespace MuRockchip.Clock

open Base

/-! ### What a call asks for -/

def sdmmcAsked (index : UInt8) : CruCall → Option UInt64
  | .setSdmmcClockRate other rate => if other = index then some rate else none
  | _ => none

def emmcAsked : CruCall → Option UInt64
  | .setEmmcClockRate rate => some rate
  | _ => none

/-- A call that selects the PLL says nothing about its rate. -/
def phyAsked (index : UInt8) : CruCall → Option (Option UInt64)
  | .setPciePhyClockRate other rate => if other = index then some (some rate) else none
  | .setPciePhySource other source =>
    if other = index then some (if source = 0 then some cruClkrefRate else none) else none
  | _ => none

def hdmiAsked : CruCall → Option UInt64
  | .setHdmiClockRate rate => some rate
  | _ => none

def gpllAsked : CruCall → Option UInt64
  | .setGpllRate rate => some rate
  | _ => none

def gateAsked (index : UInt32) (bit : Fin 16) : CruCall → Option Nat
  | .enableClock other otherBit =>
    if other = index ∧ otherBit.toNat = bit then some 0 else none
  | _ => none

def pmuGateAsked (index : UInt32) (bit : Fin 16) : CruCall → Option Nat
  | .pmuEnableClock other otherBit =>
    if other = index ∧ otherBit.toNat = bit then some 0 else none
  | _ => none

def resetAsked (index : UInt32) (bit : Fin 16) : CruCall → Option Nat
  | .assertSoftReset other otherBit =>
    if other = index ∧ otherBit.toNat = bit then some 1 else none
  | .deassertSoftReset other otherBit =>
    if other = index ∧ otherBit.toNat = bit then some 0 else none
  | _ => none

/-! ### The settings -/

def sdmmcSetting (index : UInt8) : Setting :=
  if index = 0 then ⟨cruClkselCon 30, 8, 3, by decide⟩
  else if index = 1 then ⟨cruClkselCon 30, 12, 3, by decide⟩
  else ⟨cruClkselCon 32, 8, 3, by decide⟩

def emmcCclkSetting : Setting := ⟨cruClkselCon 28, 12, 3, by decide⟩
def emmcBclkSetting : Setting := ⟨cruClkselCon 28, 8, 2, by decide⟩

def phyDivSetting (index : UInt8) : Setting :=
  ⟨pmucruPmuclkselCon 9, index.toNat % 4 * 4, 3, by omega⟩

def phySelSetting (index : UInt8) : Setting :=
  ⟨pmucruPmuclkselCon 9, index.toNat % 4 * 4 + 3, 1, by omega⟩

/-- One bit of a gate or a reset register. -/
def bitSetting (address : Nat) (bit : Fin 16) : Setting := ⟨address, bit, 1, bit.isLt⟩

/-! ### Registers apart -/

/-- The clocks, by the registers that they are set through. -/
inductive ClockGroup
  | sdmmc
  | emmc
  | phy
  | hdmi
  | core
  deriving DecidableEq, Repr

/-- The clocks that a call sets: none, where it is about a gate or a reset. -/
def CruCall.group : CruCall → Option ClockGroup
  | .setSdmmcClockRate _ _ => some .sdmmc
  | .setEmmcClockRate _ => some .emmc
  | .setPciePhySource _ _ => some .phy
  | .setPciePhyClockRate _ _ => some .phy
  | .setHdmiClockRate _ => some .hdmi
  | .setGpllRate _ => some .core
  | .enableClock _ _ => none
  | .pmuEnableClock _ _ => none
  | .assertSoftReset _ _ => none
  | .deassertSoftReset _ _ => none

/-- The registers that the rates of the clocks are read from. -/
def ClockGroup.watched : ClockGroup → List Nat
  | .sdmmc => [cruClkselCon 30, cruClkselCon 32]
  | .emmc => [cruClkselCon 28]
  | .phy => [pmucruPmuclkselCon 9, pmucruPllCon0 0, pmucruPllCon1 0, pmucruPllCon2 0]
  | .hdmi => [pmucruPllCon0 1, pmucruPllCon1 1, pmucruPllCon2 1]
  | .core => [cruClkselCon 0, cruPllCon0 0, cruPllCon1 0, cruPllCon2 0, cruPllCon0 2,
      cruPllCon1 2, cruPllCon2 2]

/-- The registers that setting the clocks writes to. -/
def ClockGroup.written : ClockGroup → List Nat
  | .sdmmc => [cruClkselCon 30, cruClkselCon 32]
  | .emmc => [cruClkselCon 28]
  | .phy => pmucruPmuclkselCon 9 :: (pmucruPll pmucruPpll).addresses
  | .hdmi => (pmucruPll pmucruHpll).addresses
  | .core => (cruPll cruGpll 2).addresses

/-- The PLLs of the PHYs and of the HDMI port share only the register of their modes. -/
theorem watched_apart {group other : ClockGroup} (apart : other ≠ group) :
    ∀ address ∈ group.watched, address ∉ other.written := by
  cases group <;> cases other <;> first | exact absurd rfl apart | decide

variable {call : CruCall} {index : UInt32}

theorem touched_written {group : ClockGroup} (sets : call.group = some group) :
    ∀ address ∈ call.touched, address ∈ group.written := by
  cases call with
  | setSdmmcClockRate index rate =>
    cases sets
    simp only [CruCall.touched, List.mem_singleton, forall_eq, sdmmcField]
    split
    · decide
    · split <;> decide
  | setPciePhySource index source =>
    cases sets
    simp only [CruCall.touched]
    decide
  | setEmmcClockRate | setPciePhyClockRate | setHdmiClockRate | setGpllRate =>
    cases sets
    exact fun address touched => touched
  | enableClock | pmuEnableClock | assertSoftReset | deassertSoftReset => cases sets

theorem toNat_index {bound : Nat} (small : index.toNat < bound)
    (fits : bound ≤ 64) : (index * 0x4).toNat = index.toNat * 4 := by
  rw [UInt32.toNat_mul]
  refine Nat.mod_eq_of_lt ?_
  show index.toNat * 4 < 2 ^ 32
  omega

theorem gateCon_range (small : index < 64) :
    cruBase + 0x300 ≤ cruGateCon index ∧ cruGateCon index < cruBase + 0x400 := by
  have below : index.toNat < 64 := UInt32.lt_iff_toNat_lt.mp small
  rw [cruGateCon, toNat_index below (Nat.le_refl 64)]
  omega

theorem softrstCon_range (small : index < 64) :
    cruBase + 0x400 ≤ cruSoftrstCon index ∧ cruSoftrstCon index < cruBase + 0x500 := by
  have below : index.toNat < 64 := UInt32.lt_iff_toNat_lt.mp small
  rw [cruSoftrstCon, toNat_index below (Nat.le_refl 64)]
  omega

theorem pmugateCon_range (small : index < 32) :
    pmucruBase + 0x180 ≤ pmucruPmugateCon index ∧ pmucruPmugateCon index < pmucruBase + 0x200 := by
  have below : index.toNat < 32 := UInt32.lt_iff_toNat_lt.mp small
  rw [pmucruPmugateCon, toNat_index below (by omega)]
  omega

/-- Where the registers of the clocks are. -/
def ClockRange (address : Nat) : Prop :=
  address < pmucruBase + 0x180 ∨ cruBase ≤ address ∧ address < cruBase + 0x300

instance : DecidablePred ClockRange := fun address =>
  inferInstanceAs (Decidable (address < pmucruBase + 0x180 ∨ _))

theorem watched_range (group : ClockGroup) : ∀ address ∈ group.watched, ClockRange address := by
  cases group <;> decide

theorem written_range (group : ClockGroup) : ∀ address ∈ group.written, ClockRange address := by
  cases group <;> decide

theorem touched_gate (gate : call.group = none) (inRange : call.InRange) {address : Nat}
    (clock : ClockRange address) : address ∉ call.touched := by
  have bases : cruBase = pmucruBase + 0x20000 := rfl
  rw [ClockRange] at clock
  cases call with
  | enableClock index bit =>
    have gates := gateCon_range inRange
    simp only [CruCall.touched, List.mem_singleton]
    omega
  | pmuEnableClock index bit =>
    have gates := pmugateCon_range inRange
    simp only [CruCall.touched, List.mem_singleton]
    omega
  | assertSoftReset | deassertSoftReset =>
    have resets := softrstCon_range inRange
    simp only [CruCall.touched, List.mem_singleton]
    omega
  | setSdmmcClockRate | setEmmcClockRate | setPciePhySource | setPciePhyClockRate
  | setHdmiClockRate | setGpllRate => cases gate

theorem clock_frame {regs next : RegisterFile} {group : ClockGroup}
    (taken : cruStep regs call = .ok next) (inRange : call.InRange)
    (other : call.group ≠ some group) {address : Nat} (watched : address ∈ group.watched) :
    next address = regs address := by
  refine cruStep_frame taken fun touched => ?_
  cases sets : call.group with
  | none => exact touched_gate sets inRange (watched_range group address watched) touched
  | some actual =>
    have apart : actual ≠ group := by
      rintro rfl
      exact other sets
    exact watched_apart apart address watched (touched_written sets address touched)

/-! ### The SD controllers -/

/-- The rates that the clock of an SD controller can have. -/
def sdmmcSources : Set UInt64 := { rate | ∃ sel, sdmmcSource sel = .ok rate }

theorem mem_sdmmcSources {rate : UInt64} (source : rate ∈ sdmmcSources) :
    rate ∈ [cruClkrefRate, 400000000, 300000000, 100000000, 50000000, 750000] := by
  obtain ⟨sel, named⟩ := source
  match sel, named with
  | 0, rfl | 1, rfl | 2, rfl | 3, rfl | 4, rfl | 5, rfl => decide

theorem isLeast_source {rate served below : UInt64} {sel : Nat}
    (source : sdmmcSource sel = .ok served) (enough : rate ≤ served) (above : ¬ rate ≤ below)
    (next : ∀ other ∈ [cruClkrefRate, 400000000, 300000000, 100000000, 50000000, 750000],
      below < other → served ≤ other) :
    IsLeast { other ∈ sdmmcSources | rate ≤ other } served := by
  refine ⟨⟨⟨sel, source⟩, enough⟩, ?_⟩
  rintro other ⟨known, some⟩
  exact next other (mem_sdmmcSources known) (UInt64.lt_of_lt_of_le (UInt64.not_le.mp above) some)

theorem sdmmcSelect_ok {rate : UInt64} {sel : UInt32} (selected : sdmmcSelect rate = .ok sel) :
    sel ≤ 5 ∧ ∃ served, sdmmcSource sel.toNat = .ok served ∧
      IsLeast { other ∈ sdmmcSources | rate ≤ other } served := by
  rw [sdmmcSelect] at selected
  split at selected
  · rename_i slowest
    cases selected
    refine ⟨by decide, 750000, rfl, ⟨⟨5, rfl⟩, slowest⟩, ?_⟩
    rintro other ⟨known, -⟩
    have least : ∀ other ∈ [cruClkrefRate, 400000000, 300000000, 100000000, 50000000, 750000],
      (750000 : UInt64) ≤ other :=
      List.all_iff_forall_prop.mp (by decide)
    exact least other (mem_sdmmcSources known)
  split at selected
  · cases selected
    exact ⟨by decide, cruClkrefRate, rfl,
      @isLeast_source rate cruClkrefRate 750000 0 rfl ‹_› ‹_›
        (List.all_iff_forall_prop.mp (by decide))⟩
  split at selected
  · cases selected
    exact ⟨by decide, 50000000, rfl,
      @isLeast_source rate 50000000 24000000 4 rfl ‹_› ‹_›
        (List.all_iff_forall_prop.mp (by decide))⟩
  split at selected
  · cases selected
    exact ⟨by decide, 100000000, rfl,
      @isLeast_source rate 100000000 50000000 3 rfl ‹_› ‹_›
        (List.all_iff_forall_prop.mp (by decide))⟩
  split at selected
  · cases selected
    exact ⟨by decide, 300000000, rfl,
      @isLeast_source rate 300000000 100000000 2 rfl ‹_› ‹_›
        (List.all_iff_forall_prop.mp (by decide))⟩
  split at selected
  · cases selected
    exact ⟨by decide, 400000000, rfl,
      @isLeast_source rate 400000000 300000000 1 rfl ‹_› ‹_›
        (List.all_iff_forall_prop.mp (by decide))⟩
  · cases selected

/-- The write that `CruSetSdmmcClockRate` makes. -/
def sdmmcWrite (index : UInt8) (sel : UInt32) : UInt32 :=
  (sdmmcMask index <<< 16) ||| (sel <<< (sdmmcField index).2)

/-- The controllers. -/
theorem sdmmc_cases {index : UInt8} (known : index ≤ 2) : index = 0 ∨ index = 1 ∨ index = 2 := by
  have small : index.toNat ≤ 2 := UInt8.le_iff_toNat_le.mp known
  rcases (by omega : index.toNat = 0 ∨ index.toNat = 1 ∨ index.toNat = 2) with same | same | same
  · exact .inl (UInt8.toNat_inj.mp same)
  · exact .inr (.inl (UInt8.toNat_inj.mp same))
  · exact .inr (.inr (UInt8.toNat_inj.mp same))

theorem select_cases {sel : UInt32} (known : sel ≤ 5) :
    sel ∈ [(0 : UInt32), 1, 2, 3, 4, 5] := by
  have small : sel.toNat ≤ 5 := UInt32.le_iff_toNat_le.mp known
  have listed : sel.toNat ∈ [0, 1, 2, 3, 4, 5] := by
    simp only [List.mem_cons, List.not_mem_nil, or_false]
    omega
  simp only [List.mem_cons, List.not_mem_nil, or_false] at listed ⊢
  simp only [← UInt32.toNat_inj]
  exact listed

theorem sdmmcSetting_address {index : UInt8} :
    (sdmmcSetting index).address = (sdmmcField index).1 := by
  rw [sdmmcSetting, sdmmcField]
  split
  · rfl
  · split <;> rfl

theorem sdmmcWrite_named {index : UInt8} (known : index ≤ 2) :
    ∀ sel ∈ [(0 : UInt32), 1, 2, 3, 4, 5], (sdmmcSetting index).Named (sdmmcWrite index sel) ∧
      field (sdmmcWrite index sel) (sdmmcSetting index).start (sdmmcSetting index).width =
        sel.toNat := by
  rcases sdmmc_cases known with rfl | rfl | rfl
  · unfold Setting.Named
    exact List.all_iff_forall_prop.mp (by decide)
  · unfold Setting.Named
    exact List.all_iff_forall_prop.mp (by decide)
  · unfold Setting.Named
    exact List.all_iff_forall_prop.mp (by decide)

theorem sdmmcWrite_unnamed {index other : UInt8} (known : index ≤ 2) (otherKnown : other ≤ 2)
    (apart : other ≠ index) (same : (sdmmcField other).1 = (sdmmcField index).1) :
    ∀ sel ∈ [(0 : UInt32), 1, 2, 3, 4, 5], (sdmmcSetting index).Unnamed (sdmmcWrite other sel) := by
  unfold Setting.Unnamed
  rcases sdmmc_cases known with rfl | rfl | rfl <;>
    rcases sdmmc_cases otherKnown with rfl | rfl | rfl
  · exact absurd rfl apart
  · exact List.all_iff_forall_prop.mp (by decide)
  · exact absurd same (by decide)
  · exact List.all_iff_forall_prop.mp (by decide)
  · exact absurd rfl apart
  · exact absurd same (by decide)
  · exact absurd same (by decide)
  · exact absurd same (by decide)
  · exact absurd rfl apart

section

variable {regs next : RegisterFile} {call : CruCall}

theorem sdmmcSetting_watched {index : UInt8} (known : index ≤ 2) :
    (sdmmcSetting index).address ∈ ClockGroup.sdmmc.watched := by
  rcases sdmmc_cases known with rfl | rfl | rfl <;> decide

theorem sdmmc_masked {index : UInt8} (known : index ≤ 2) :
    (sdmmcField index).1 ∉ fracRegisters := by
  rcases sdmmc_cases known with rfl | rfl | rfl <;> decide

variable {rate : UInt64} {bit : Fin 16} {place : Nat} {index other : UInt32}

theorem sdmmc_sets {index : UInt8} (taken : cruSetSdmmcClockRate regs index rate = .ok next) :
    ∃ sel, sdmmcSelect rate = .ok sel ∧ (sdmmcSetting index).read next = sel.toNat := by
  obtain ⟨known, sel, selected, rfl⟩ := cruSetSdmmcClockRate_ok taken
  obtain ⟨named, content⟩ :=
    sdmmcWrite_named known sel (select_cases (sdmmcSelect_ok selected).1)
  refine ⟨sel, selected, ?_⟩
  rw [mmioWrite32_masked (sdmmc_masked known), ← sdmmcSetting_address]
  exact (Setting.read_named named).trans content

theorem sdmmc_keeps {index : UInt8} (known : index ≤ 2) (inRange : call.InRange)
    (taken : cruStep regs call = .ok next) (unasked : sdmmcAsked index call = none) :
    (sdmmcSetting index).read next = (sdmmcSetting index).read regs := by
  cases call with
  | setSdmmcClockRate other rate =>
    have apart : other ≠ index := by
      rintro rfl
      rw [sdmmcAsked, if_pos rfl] at unasked
      cases unasked
    obtain ⟨otherKnown, sel, selected, rfl⟩ := cruSetSdmmcClockRate_ok taken
    rw [mmioWrite32_masked (sdmmc_masked otherKnown)]
    refine Setting.read_unnamed fun same => ?_
    rw [sdmmcSetting_address] at same
    exact sdmmcWrite_unnamed known otherKnown apart same sel
      (select_cases (sdmmcSelect_ok selected).1)
  | _ =>
    exact Setting.read_congr
      (clock_frame taken inRange (by simp [CruCall.group]) (sdmmcSetting_watched known))

theorem cruGetSdmmcClockRate_eq {index : UInt8} (known : index ≤ 1) :
    cruGetSdmmcClockRate regs index = sdmmcSource ((sdmmcSetting index).read regs) := by
  have small : index.toNat ≤ 1 := UInt8.le_iff_toNat_le.mp known
  rw [cruGetSdmmcClockRate, if_neg (not_not.mpr known)]
  rcases (by omega : index.toNat = 0 ∨ index.toNat = 1) with same | same
  · obtain rfl : index = 0 := UInt8.toNat_inj.mp same
    exact congrArg sdmmcSource (@toNat_and_shiftRight (regs (cruClkselCon 30)) (sdmmcMask 0)
      (sdmmcField 0).2 3 (by decide) (by decide))
  · obtain rfl : index = 1 := UInt8.toNat_inj.mp same
    exact congrArg sdmmcSource (@toNat_and_shiftRight (regs (cruClkselCon 30)) (sdmmcMask 1)
      (sdmmcField 1).2 3 (by decide) (by decide))

/-! ### The eMMC -/

theorem emmc_sets (next : RegisterFile) (taken : next = cruSetEmmcClockRate regs rate) :
    emmcCclkSetting.read next = (emmcSelect rate).toNat ∧ emmcBclkSetting.read next = 0 := by
  have selects : emmcSelect rate ∈ [(1 : UInt32), 2, 3, 4, 0, 5] := by
    rw [emmcSelect]
    split
    · decide
    split
    · decide
    split
    · decide
    split
    · decide
    split <;> decide
  have contents : ∀ sel ∈ [(1 : UInt32), 2, 3, 4, 0, 5],
      let value := (cruClkselCon28BclkEmmcSelMask <<< 16) |||
        (0 <<< cruClkselCon28BclkEmmcSelShift) |||
        (cruClkselCon28CclkEmmcSelMask <<< 16) ||| (sel <<< cruClkselCon28CclkEmmcSelShift)
      (field value (16 + 12) 3 = 7 ∧ field value 12 3 = sel.toNat) ∧
        field value (16 + 8) 2 = 3 ∧ field value 8 2 = 0 :=
    List.all_iff_forall_prop.mp (by decide)
  obtain ⟨⟨cclkNamed, cclk⟩, bclkNamed, bclk⟩ := contents _ selects
  rw [taken, cruSetEmmcClockRate, mmioWrite32_masked (by decide)]
  constructor
  · exact (@Setting.read_named regs emmcCclkSetting _ cclkNamed).trans cclk
  · exact (@Setting.read_named regs emmcBclkSetting _ bclkNamed).trans bclk

theorem emmc_keeps (inRange : call.InRange) (taken : cruStep regs call = .ok next)
    (unasked : emmcAsked call = none) :
    next (cruClkselCon 28) = regs (cruClkselCon 28) := by
  have watched : cruClkselCon 28 ∈ ClockGroup.emmc.watched := List.mem_singleton.mpr rfl
  refine clock_frame taken inRange ?_ watched
  cases call with
  | setEmmcClockRate rate => cases unasked
  | _ => simp [CruCall.group]

/-! ### The PLLs -/

theorem pll_reads {pll : PllPlace} (laid : pll.Laid) {rate : CruPllRate}
    (listed : rate ∈ cruPllRates) :
    getPllRate (pll.read (setPllRate pll regs rate)) = .ok rate.rate := by
  rw [setPllRate_read laid]
  exact cruSetPllRate_reads listed _

theorem PllPlace.read_congr {pll : PllPlace}
    (same : ∀ address ∈ [pll.con0, pll.con1, pll.con2], next address = regs address) :
    pll.read next = pll.read regs := by
  simp only [List.forall_mem_cons] at same
  obtain ⟨con0, con1, con2, -⟩ := same
  rw [PllPlace.read, PllPlace.read, con0, con1, con2]

theorem hdmi_sets (taken : cruSetHdmiClockRate regs rate = .ok next) :
    cruGetHdmiClockRate next = .ok rate := by
  obtain ⟨pllRate, listed, rfl, rfl⟩ := cruSetHdmiClockRate_ok taken
  have read := @pll_reads regs (pmucruPll pmucruHpll) (pmucruPll_laid (.inr rfl)) pllRate listed
  rw [cruGetHdmiClockRate, pmuCruGetPllRate]
  simp only [pllsOf, read]

theorem hdmi_keeps (inRange : call.InRange) (taken : cruStep regs call = .ok next)
    (unasked : hdmiAsked call = none) : cruGetHdmiClockRate next = cruGetHdmiClockRate regs := by
  have other : call.group ≠ some .hdmi := by
    cases call with
    | setHdmiClockRate rate => cases unasked
    | _ => simp [CruCall.group]
  have same : (pmucruPll pmucruHpll).read next = (pmucruPll pmucruHpll).read regs :=
    PllPlace.read_congr fun address watched => clock_frame taken inRange other watched
  rw [cruGetHdmiClockRate, cruGetHdmiClockRate, pmuCruGetPllRate, pmuCruGetPllRate]
  simp only [pllsOf, same]

/-! ### The core's clock -/

/-- `CruGetCoreClockRate`, of what it reads. -/
theorem cruGetCoreClockRate_congr
    (sel : next (cruClkselCon 0) = regs (cruClkselCon 0))
    (apll : (cruPll cruApll cruApll).read next = (cruPll cruApll cruApll).read regs)
    (gpll : (cruPll cruGpll cruGpll).read next = (cruPll cruGpll cruGpll).read regs) :
    cruGetCoreClockRate next = cruGetCoreClockRate regs := by
  have pll : ∀ source : UInt32, cruGetPllRate (pllsOf next)
      (if source = cruClkselCon00ClkCoreISelApll then cruApll else cruGpll) =
      cruGetPllRate (pllsOf regs)
        (if source = cruClkselCon00ClkCoreISelApll then cruApll else cruGpll) := by
    intro source
    split
    · exact congrArg getPllRate apll
    · exact congrArg getPllRate gpll
  simp only [cruGetCoreClockRate, sel, pll]

theorem core_keeps (inRange : call.InRange) (taken : cruStep regs call = .ok next)
    (unasked : gpllAsked call = none) : cruGetCoreClockRate next = cruGetCoreClockRate regs := by
  have other : call.group ≠ some .core := by
    cases call with
    | setGpllRate rate => cases unasked
    | _ => simp [CruCall.group]
  have same : ∀ address ∈ ClockGroup.core.watched, next address = regs address :=
    fun address watched => clock_frame taken inRange other watched
  simp only [ClockGroup.watched, List.forall_mem_cons] at same
  obtain ⟨sel, a0, a1, a2, g0, g1, g2, -⟩ := same
  apply cruGetCoreClockRate_congr sel
  · rw [PllPlace.read, PllPlace.read]
    exact congr (congr (congrArg PllRegs.mk a0) a1) a2
  · rw [PllPlace.read, PllPlace.read]
    exact congr (congr (congrArg PllRegs.mk g0) g1) g2

/-! ### The PHYs -/

def phySelWrite (index source : UInt8) : UInt32 :=
  (pciephySelMask index <<< 16) ||| (source.toUInt32 <<< pciephySelShift index)

def phyDivWrite (index : UInt8) : UInt32 :=
  (pciephyDivMask index <<< 16) ||| (0 <<< pciephyDivShift index)

section

variable {index other : UInt8}

theorem phySelWrite_named (known : index ≤ 2) :
    ∀ source ∈ [(0 : UInt8), 1], (phySelSetting index).Named (phySelWrite index source) ∧
      field (phySelWrite index source) (phySelSetting index).start (phySelSetting index).width =
        source.toNat := by
  unfold Setting.Named
  rcases sdmmc_cases known with rfl | rfl | rfl <;>
    exact List.all_iff_forall_prop.mp (by decide)

theorem phySelWrite_unnamed (known : index ≤ 2) (otherKnown : other ≤ 2) :
    ∀ source ∈ [(0 : UInt8), 1], (other ≠ index →
      (phySelSetting index).Unnamed (phySelWrite other source)) ∧
      (phyDivSetting index).Unnamed (phySelWrite other source) := by
  unfold Setting.Unnamed
  rcases sdmmc_cases known with rfl | rfl | rfl <;>
    rcases sdmmc_cases otherKnown with rfl | rfl | rfl <;>
      exact List.all_iff_forall_prop.mp (by decide)

theorem phyDivWrite_named (known : index ≤ 2) :
    (phyDivSetting index).Named (phyDivWrite index) ∧
      field (phyDivWrite index) (phyDivSetting index).start (phyDivSetting index).width = 0 := by
  unfold Setting.Named
  rcases sdmmc_cases known with rfl | rfl | rfl <;> decide

theorem phyDivWrite_unnamed (known : index ≤ 2) (otherKnown : other ≤ 2) :
    (phySelSetting index).Unnamed (phyDivWrite other) ∧
      (other ≠ index → (phyDivSetting index).Unnamed (phyDivWrite other)) := by
  unfold Setting.Unnamed
  rcases sdmmc_cases known with rfl | rfl | rfl <;>
    rcases sdmmc_cases otherKnown with rfl | rfl | rfl <;> decide

end

def ppllRate (regs : RegisterFile) : Except PllFault UInt64 :=
  pmuCruGetPllRate (pllsOf regs) pmucruPpll

/-- The PHY runs from the oscillator, or from the PLL at 200 MHz. -/
def PhyAt (index : UInt8) (request : Option UInt64) (regs : RegisterFile) : Prop :=
  ∀ rate, request = some rate →
    rate = cruClkrefRate ∧ (phySelSetting index).read regs = 0 ∨
    rate = 100000000 ∧ (phySelSetting index).read regs = 1 ∧
      (phyDivSetting index).read regs = 0 ∧ ppllRate regs = .ok 200000000

/-- The PHY's own source and divider are as before; the PLL is too, or was set for
another PHY. -/
structure PhyKept (index : UInt8) (before after : RegisterFile) : Prop where
  sel : (phySelSetting index).read after = (phySelSetting index).read before
  div : (phyDivSetting index).read after = (phyDivSetting index).read before
  pll : ppllRate after = ppllRate before ∨ ppllRate after = .ok 200000000

theorem PhyKept.refl (index : UInt8) (regs : RegisterFile) : PhyKept index regs regs :=
  ⟨rfl, rfl, .inl rfl⟩

theorem PhyKept.trans {index : UInt8} {first second third : RegisterFile}
    (earlier : PhyKept index first second) (later : PhyKept index second third) :
    PhyKept index first third where
  sel := later.sel.trans earlier.sel
  div := later.div.trans earlier.div
  pll := by
    rcases later.pll with same | set
    · rw [same]
      exact earlier.pll
    · exact .inr set

theorem PhyAt.congr {index : UInt8} {request : Option UInt64}
    (runs : PhyAt index request regs) (kept : PhyKept index regs next) :
    PhyAt index request next := by
  intro rate wanted
  rcases runs rate wanted with ⟨slow, osc⟩ | ⟨fast, selects, divides, ppll⟩
  · exact .inl ⟨slow, kept.sel.trans osc⟩
  · refine .inr ⟨fast, kept.sel.trans selects, kept.div.trans divides, ?_⟩
    rcases kept.pll with same | same
    · exact same.trans ppll
    · exact same

theorem PhyAt.reads {index : UInt8} (known : index ≤ 2)
    (runs : PhyAt index (some rate) regs) : cruGetPciePhyClockRate regs index = .ok rate := by
  have sel :
      ((regs (pmucruPmuclkselCon 9) &&& pciephySelMask index) >>> pciephySelShift index).toNat =
        (phySelSetting index).read regs := by
    rcases sdmmc_cases known with rfl | rfl | rfl
    · exact @toNat_and_shiftRight _ (pciephySelMask 0) (pciephySelShift 0) 1 (by decide) (by decide)
    · exact @toNat_and_shiftRight _ (pciephySelMask 1) (pciephySelShift 1) 1 (by decide) (by decide)
    · exact @toNat_and_shiftRight _ (pciephySelMask 2) (pciephySelShift 2) 1 (by decide) (by decide)
  have div :
      ((regs (pmucruPmuclkselCon 9) &&& pciephyDivMask index) >>> pciephyDivShift index).toNat =
        (phyDivSetting index).read regs := by
    rcases sdmmc_cases known with rfl | rfl | rfl
    · exact @toNat_and_shiftRight _ (pciephyDivMask 0) (pciephyDivShift 0) 3 (by decide) (by decide)
    · exact @toNat_and_shiftRight _ (pciephyDivMask 1) (pciephyDivShift 1) 3 (by decide) (by decide)
    · exact @toNat_and_shiftRight _ (pciephyDivMask 2) (pciephyDivShift 2) 3 (by decide) (by decide)
  rw [cruGetPciePhyClockRate, if_neg (not_not.mpr known)]
  simp only [← UInt32.toNat_inj, sel]
  rcases runs rate rfl with ⟨rfl, osc⟩ | ⟨rfl, selects, divides, ppll⟩
  · exact if_pos osc
  · have whole :
        (regs (pmucruPmuclkselCon 9) &&& pciephyDivMask index) >>> pciephyDivShift index = 0 :=
      UInt32.toNat_inj.mp (div.trans divides)
    rw [ppllRate] at ppll
    have pllSelected : (phySelSetting index).read regs ≠ UInt32.toNat 0 := by
      rw [selects]
      decide
    rw [if_neg pllSelected, ppll]
    simp only [whole]
    rfl

theorem ppllRate_congr
    (same : ∀ address ∈ [pmucruPllCon0 0, pmucruPllCon1 0, pmucruPllCon2 0],
      next address = regs address) : ppllRate next = ppllRate regs :=
  congrArg getPllRate (@PllPlace.read_congr regs next (pmucruPll pmucruPpll) same)

/-- A write to the register of the PHYs' clocks leaves their PLL alone. -/
theorem ppllRate_pmuclksel (value : UInt32) :
    ppllRate (mmioWrite32 regs (pmucruPmuclkselCon 9) value) = ppllRate regs := by
  refine ppllRate_congr fun address watched => mmioWrite32_other ?_
  rintro rfl
  exact absurd watched (by decide)

theorem ppllRate_set {rate : CruPllRate} (listed : rate ∈ cruPllRates) :
    ppllRate (pmuCruSetPllRate regs pmucruPpll rate) = .ok rate.rate :=
  @pll_reads regs (pmucruPll pmucruPpll) (pmucruPll_laid (.inl rfl)) rate listed

theorem source_cases {source : UInt8} (known : source ≤ 1) : source ∈ [(0 : UInt8), 1] := by
  have small : source.toNat ≤ 1 := UInt8.le_iff_toNat_le.mp known
  rcases (by omega : source.toNat = 0 ∨ source.toNat = 1) with same | same
  · obtain rfl : source = 0 := UInt8.toNat_inj.mp same
    decide
  · obtain rfl : source = 1 := UInt8.toNat_inj.mp same
    decide

section

variable {index other source : UInt8}

theorem pmuclksel_masked {value : UInt32} :
    mmioWrite32 regs (pmucruPmuclkselCon 9) value =
      maskedWrite regs (pmucruPmuclkselCon 9) value :=
  mmioWrite32_masked (by decide)

/-- Selecting a source selects it, and keeps the divider. -/
theorem source_own (known : index ≤ 2) (sourceKnown : source ≤ 1)
    (written : next = mmioWrite32 regs (pmucruPmuclkselCon 9) (phySelWrite index source)) :
    (phySelSetting index).read next = source.toNat ∧
      (phyDivSetting index).read next = (phyDivSetting index).read regs := by
  have listed := source_cases sourceKnown
  obtain ⟨named, content⟩ := phySelWrite_named known source listed
  rw [written, pmuclksel_masked]
  constructor
  · exact (@Setting.read_named regs (phySelSetting index) _ named).trans content
  · exact Setting.read_unnamed fun _ => (phySelWrite_unnamed known known source listed).2

/-- Selecting another PHY's source leaves the settings of the PHY alone. -/
theorem source_other (known : index ≤ 2) (otherKnown : other ≤ 2) (sourceKnown : source ≤ 1)
    (apart : other ≠ index)
    (written : next = mmioWrite32 regs (pmucruPmuclkselCon 9) (phySelWrite other source)) :
    (phySelSetting index).read next = (phySelSetting index).read regs ∧
      (phyDivSetting index).read next = (phyDivSetting index).read regs := by
  obtain ⟨sel, div⟩ := phySelWrite_unnamed known otherKnown source (source_cases sourceKnown)
  rw [written, pmuclksel_masked]
  exact ⟨Setting.read_unnamed fun _ => sel apart, Setting.read_unnamed fun _ => div⟩

theorem divider_own (known : index ≤ 2)
    (written : next = mmioWrite32 regs (pmucruPmuclkselCon 9) (phyDivWrite index)) :
    (phyDivSetting index).read next = 0 := by
  obtain ⟨named, content⟩ := phyDivWrite_named known
  rw [written, pmuclksel_masked]
  exact (@Setting.read_named regs (phyDivSetting index) _ named).trans content

theorem divider_other (known : index ≤ 2) (otherKnown : other ≤ 2) (apart : other ≠ index)
    (written : next = mmioWrite32 regs (pmucruPmuclkselCon 9) (phyDivWrite other)) :
    (phySelSetting index).read next = (phySelSetting index).read regs ∧
      (phyDivSetting index).read next = (phyDivSetting index).read regs := by
  obtain ⟨sel, div⟩ := phyDivWrite_unnamed known otherKnown
  rw [written, pmuclksel_masked]
  exact ⟨Setting.read_unnamed fun _ => sel, Setting.read_unnamed fun _ => div apart⟩

/-- The settings of the PHYs are in no register of their PLL. -/
theorem ppll_other (rate : CruPllRate) :
    pmuCruSetPllRate regs pmucruPpll rate (pmucruPmuclkselCon 9) = regs (pmucruPmuclkselCon 9) := by
  rw [pmuCruSetPllRate, setPllRate_other (by decide)]

theorem phy_setsRate {rate : UInt64} (taken : cruSetPciePhyClockRate regs index rate = .ok next) :
    PhyAt index (some rate) next := by
  intro wanted same
  cases same
  rcases cruSetPciePhyClockRate_ok taken with
    ⟨fast, pllRate, listed, named, source⟩ | ⟨slow, source⟩
  · obtain ⟨known, -, written⟩ := cruSetPciePhySource_ok source
    obtain ⟨selects, kept⟩ := source_own known (by decide) written
    refine .inr ⟨fast, selects, kept.trans (divider_own known rfl), ?_⟩
    rw [written, ppllRate_pmuclksel, ppllRate_pmuclksel, ppllRate_set listed, named]
  · obtain ⟨known, -, written⟩ := cruSetPciePhySource_ok source
    exact .inl ⟨slow, (source_own known (by decide) written).1⟩

theorem phy_setsSource (taken : cruSetPciePhySource regs index source = .ok next) :
    PhyAt index (if source = 0 then some cruClkrefRate else none) next := by
  intro wanted same
  split at same
  · rename_i osc
    cases same
    obtain ⟨known, sourceKnown, written⟩ := cruSetPciePhySource_ok taken
    obtain ⟨selects, -⟩ := source_own known sourceKnown written
    exact .inl ⟨rfl, by rw [selects, osc]; rfl⟩
  · cases same

/-- A call that asks for another clock leaves the PHY's own settings. -/
theorem phy_keeps (known : index ≤ 2) (inRange : call.InRange)
    (taken : cruStep regs call = .ok next) (unasked : phyAsked index call = none) :
    PhyKept index regs next := by
  by_cases phys : call.group = some .phy
  · cases call with
    | setPciePhySource other source =>
      have apart : other ≠ index := by
        rintro rfl
        rw [phyAsked, if_pos rfl] at unasked
        cases unasked
      obtain ⟨otherKnown, sourceKnown, written⟩ := cruSetPciePhySource_ok taken
      obtain ⟨sel, div⟩ := source_other known otherKnown sourceKnown apart written
      refine ⟨sel, div, .inl ?_⟩
      rw [written, ppllRate_pmuclksel]
    | setPciePhyClockRate other rate =>
      have apart : other ≠ index := by
        rintro rfl
        rw [phyAsked, if_pos rfl] at unasked
        cases unasked
      rcases cruSetPciePhyClockRate_ok taken with ⟨-, pllRate, listed, named, source⟩ | ⟨-, source⟩
      · obtain ⟨otherKnown, sourceKnown, written⟩ := cruSetPciePhySource_ok source
        obtain ⟨sel, div⟩ := source_other known otherKnown sourceKnown apart written
        obtain ⟨selBefore, divBefore⟩ := divider_other known otherKnown apart rfl
        refine ⟨?_, ?_, .inr ?_⟩
        · exact sel.trans (selBefore.trans (Setting.read_congr (ppll_other pllRate)))
        · exact div.trans (divBefore.trans (Setting.read_congr (ppll_other pllRate)))
        · rw [written, ppllRate_pmuclksel, ppllRate_pmuclksel, ppllRate_set listed, named]
      · obtain ⟨otherKnown, sourceKnown, written⟩ := cruSetPciePhySource_ok source
        obtain ⟨sel, div⟩ := source_other known otherKnown sourceKnown apart written
        refine ⟨sel, div, .inl ?_⟩
        rw [written, ppllRate_pmuclksel]
    | _ => cases phys
  · have same : ∀ address ∈ ClockGroup.phy.watched, next address = regs address :=
      fun address watched => clock_frame taken inRange phys watched
    rw [ClockGroup.watched, List.forall_mem_cons] at same
    exact ⟨Setting.read_congr same.1, Setting.read_congr same.1, .inl (ppllRate_congr same.2)⟩

end

/-! ### The gates and the resets -/

theorem bitWrite_bits :
    ∀ content ∈ [(0 : UInt32), 1], ∀ written bit : Fin 16,
      field (bitWrite (UInt8.ofNat written) content) (16 + bit) 1 =
          (if written = bit then 1 else 0) ∧
        (written = bit → field (bitWrite (UInt8.ofNat written) content) bit 1 = content.toNat) :=
  List.all_iff_forall_prop.mp (by decide +kernel)

/-- The registers of the clocks are the ones without a write mask among them. -/
theorem masked_of_not_clockRange {address : Nat} (gate : ¬ ClockRange address) :
    address ∉ fracRegisters := by
  have clocks : ∀ address ∈ fracRegisters, ClockRange address := by decide
  exact fun plain => gate (clocks address plain)

theorem read_bitWrite {address : Nat} {written : UInt8} {content : UInt32}
    (gate : ¬ ClockRange address) (small : written < 16) (content01 : content ∈ [(0 : UInt32), 1]) :
    (bitSetting place bit).read (mmioWrite32 regs address (bitWrite written content)) =
      if address = place ∧ written.toNat = bit then content.toNat
      else (bitSetting place bit).read regs := by
  have below : written.toNat < 16 := UInt8.lt_iff_toNat_lt.mp small
  obtain ⟨names, sets⟩ := bitWrite_bits content content01 ⟨written.toNat, below⟩ bit
  rw [UInt8.ofNat_toNat] at names sets
  rw [mmioWrite32_masked (masked_of_not_clockRange gate)]
  by_cases here : address = place ∧ written.toNat = bit
  · obtain ⟨rfl, same⟩ := here
    have bitSame : (⟨written.toNat, below⟩ : Fin 16) = bit := Fin.ext same
    rw [if_pos bitSame] at names
    rw [if_pos ⟨rfl, same⟩]
    exact (@Setting.read_named regs (bitSetting address bit) _ names).trans (sets bitSame)
  · rw [if_neg here]
    refine Setting.read_unnamed fun same => ?_
    have apart : (⟨written.toNat, below⟩ : Fin 16) ≠ bit :=
      fun bitSame => here ⟨same, congrArg Fin.val bitSame⟩
    rw [if_neg apart] at names
    exact names

theorem gate_frame (gate : ¬ ClockRange place) (taken : cruStep regs call = .ok next)
    {group : ClockGroup} (sets : call.group = some group) : next place = regs place :=
  cruStep_frame taken fun touched =>
    gate (written_range group place (touched_written sets place touched))

/-- A bit is as it was after a call about another register. -/
theorem bit_other {written : Nat} (taken : cruStep regs call = .ok next)
    (touches : call.touched = [written]) (apart : place ≠ written) :
    (bitSetting place bit).read next = (bitSetting place bit).read regs := by
  refine Setting.read_congr (cruStep_frame taken ?_)
  rw [touches]
  exact mt List.mem_singleton.mp apart

theorem gateCon_gate (small : index < 64) : ¬ ClockRange (cruGateCon index) := by
  have range := gateCon_range small
  have bases : cruBase = pmucruBase + 0x20000 := rfl
  rw [ClockRange]
  omega

theorem softrstCon_gate (small : index < 64) :
    ¬ ClockRange (cruSoftrstCon index) := by
  have range := softrstCon_range small
  have bases : cruBase = pmucruBase + 0x20000 := rfl
  rw [ClockRange]
  omega

theorem pmugateCon_gate (small : index < 32) :
    ¬ ClockRange (pmucruPmugateCon index) := by
  have range := pmugateCon_range small
  have bases : cruBase = pmucruBase + 0x20000 := rfl
  rw [ClockRange]
  omega

/-- Two registers in range are the same one only where their indices are. -/
theorem toNat_index_inj (small : index.toNat < 64) (otherSmall : other.toNat < 64) :
    (other * 0x4).toNat = (index * 0x4).toNat ↔ other = index := by
  rw [toNat_index small (Nat.le_refl 64), toNat_index otherSmall (Nat.le_refl 64),
    ← UInt32.toNat_inj]
  omega

theorem gateCon_inj (known : index < 64) (otherKnown : other < 64) :
    cruGateCon other = cruGateCon index ↔ other = index := by
  rw [cruGateCon, cruGateCon, Nat.add_right_cancel_iff, Nat.add_left_cancel_iff]
  exact toNat_index_inj (UInt32.lt_iff_toNat_lt.mp known) (UInt32.lt_iff_toNat_lt.mp otherKnown)

theorem softrstCon_inj (known : index < 64) (otherKnown : other < 64) :
    cruSoftrstCon other = cruSoftrstCon index ↔ other = index := by
  rw [cruSoftrstCon, cruSoftrstCon, Nat.add_right_cancel_iff, Nat.add_left_cancel_iff]
  exact toNat_index_inj (UInt32.lt_iff_toNat_lt.mp known) (UInt32.lt_iff_toNat_lt.mp otherKnown)

theorem pmugateCon_inj (known : index < 32) (otherKnown : other < 32) :
    pmucruPmugateCon other = pmucruPmugateCon index ↔ other = index := by
  have small : index.toNat < 32 := UInt32.lt_iff_toNat_lt.mp known
  have otherSmall : other.toNat < 32 := UInt32.lt_iff_toNat_lt.mp otherKnown
  rw [pmucruPmugateCon, pmucruPmugateCon, Nat.add_right_cancel_iff, Nat.add_left_cancel_iff]
  exact toNat_index_inj (by omega) (by omega)

/-- A write about a bit of one register of a kind, read back from a register of that kind. -/
theorem bit_asked {con : UInt32 → Nat} {written : UInt8} {content : UInt32}
    (same : con other = con index ↔ other = index) (gate : ¬ ClockRange (con other))
    (below : written < 16) (content01 : content ∈ [(0 : UInt32), 1])
    (step : next = mmioWrite32 regs (con other) (bitWrite written content)) :
    (bitSetting (con index) bit).read next =
      (if other = index ∧ written.toNat = bit then some content.toNat else none).getD
        ((bitSetting (con index) bit).read regs) := by
  rw [step, read_bitWrite gate below content01]
  simp only [same]
  split <;> rfl

theorem gate_step (known : index < 64) (inRange : call.InRange)
    (taken : cruStep regs call = .ok next) :
    (bitSetting (cruGateCon index) bit).read next =
      (gateAsked index bit call).getD ((bitSetting (cruGateCon index) bit).read regs) := by
  have range := gateCon_range known
  have bases : cruBase = pmucruBase + 0x20000 := rfl
  cases call with
  | enableClock other written =>
    obtain ⟨below, step⟩ := enableClock_ok taken
    exact bit_asked (gateCon_inj known inRange) (gateCon_gate inRange) below (by decide) step
  | pmuEnableClock other written =>
    have others := pmugateCon_range inRange
    exact bit_other taken rfl (by omega)
  | assertSoftReset | deassertSoftReset =>
    have others := softrstCon_range inRange
    exact bit_other taken rfl (by omega)
  | _ => exact Setting.read_congr (gate_frame (gateCon_gate known) taken rfl)

theorem pmuGate_step (known : index < 32) (inRange : call.InRange)
    (taken : cruStep regs call = .ok next) :
    (bitSetting (pmucruPmugateCon index) bit).read next =
      (pmuGateAsked index bit call).getD ((bitSetting (pmucruPmugateCon index) bit).read regs) := by
  have range := pmugateCon_range known
  have bases : cruBase = pmucruBase + 0x20000 := rfl
  cases call with
  | pmuEnableClock other written =>
    obtain ⟨below, step⟩ := enableClock_ok taken
    exact bit_asked (pmugateCon_inj known inRange) (pmugateCon_gate inRange) below (by decide) step
  | enableClock other written =>
    have others := gateCon_range inRange
    exact bit_other taken rfl (by omega)
  | assertSoftReset | deassertSoftReset =>
    have others := softrstCon_range inRange
    exact bit_other taken rfl (by omega)
  | _ => exact Setting.read_congr (gate_frame (pmugateCon_gate known) taken rfl)

theorem reset_step (known : index < 64) (inRange : call.InRange)
    (taken : cruStep regs call = .ok next) :
    (bitSetting (cruSoftrstCon index) bit).read next =
      (resetAsked index bit call).getD ((bitSetting (cruSoftrstCon index) bit).read regs) := by
  have range := softrstCon_range known
  have bases : cruBase = pmucruBase + 0x20000 := rfl
  cases call with
  | assertSoftReset other written =>
    obtain ⟨below, step⟩ := cruAssertSoftReset_ok taken
    exact bit_asked (softrstCon_inj known inRange) (softrstCon_gate inRange) below (by decide) step
  | deassertSoftReset other written =>
    obtain ⟨below, step⟩ := cruDeassertSoftReset_ok taken
    exact bit_asked (softrstCon_inj known inRange) (softrstCon_gate inRange) below (by decide) step
  | enableClock other written =>
    have others := gateCon_range inRange
    exact bit_other taken rfl (by omega)
  | pmuEnableClock other written =>
    have others := pmugateCon_range inRange
    exact bit_other taken rfl (by omega)
  | _ => exact Setting.read_congr (gate_frame (softrstCon_gate known) taken rfl)

/-! ### The mode of the PLL of the HDMI port -/

/-- The field of the PLL in the register that it shares with the PLL of the PHYs. -/
def hpllModeSetting : Setting := ⟨pmucruModeCon00, 2, 2, by decide⟩

theorem hpllMode_sets (taken : cruSetHdmiClockRate regs rate = .ok next) :
    hpllModeSetting.read next = 1 := by
  obtain ⟨pllRate, -, -, rfl⟩ := cruSetHdmiClockRate_ok taken
  have mode := @setPllRate_mode regs (pmucruPll pmucruHpll) (pmucruPll_laid (.inr rfl)) pllRate
  have named : hpllModeSetting.Named
      ((cruPllModeMask pmucruHpll <<< 16) ||| (1 <<< cruPllModeShift pmucruHpll)) := by
    unfold Setting.Named
    decide
  exact (Setting.read_congr mode).trans (Setting.read_named named)

theorem hpllMode_ppll (rate : CruPllRate) :
    hpllModeSetting.read (pmuCruSetPllRate regs pmucruPpll rate) = hpllModeSetting.read regs := by
  have mode := @setPllRate_mode regs (pmucruPll pmucruPpll) (pmucruPll_laid (.inl rfl)) rate
  have unnamed : ∀ content ∈ [(0 : UInt32), 1], hpllModeSetting.Unnamed
      ((cruPllModeMask pmucruPpll <<< 16) ||| (content <<< cruPllModeShift pmucruPpll)) := by
    unfold Setting.Unnamed
    exact List.all_iff_forall_prop.mp (by decide)
  refine (Setting.read_congr mode).trans ?_
  exact (Setting.read_unnamed fun _ => unnamed 1 (by decide)).trans
    (Setting.read_unnamed fun _ => unnamed 0 (by decide))

/-- A write to the register of the PHYs' clocks leaves the mode alone. -/
theorem hpllMode_pmuclksel (value : UInt32) :
    hpllModeSetting.read (mmioWrite32 regs (pmucruPmuclkselCon 9) value) =
      hpllModeSetting.read regs :=
  Setting.read_congr (mmioWrite32_other (by decide))

theorem hpllMode_keeps (inRange : call.InRange) (taken : cruStep regs call = .ok next)
    (unasked : hdmiAsked call = none) : hpllModeSetting.read next = hpllModeSetting.read regs := by
  have apart : ∀ group : ClockGroup, group ≠ .phy → group ≠ .hdmi →
      pmucruModeCon00 ∉ group.written := by
    intro group phy hdmi
    cases group <;> first | exact absurd rfl phy | exact absurd rfl hdmi | decide
  cases call with
  | setHdmiClockRate rate => cases unasked
  | setPciePhySource index source =>
    obtain ⟨-, -, rfl⟩ := cruSetPciePhySource_ok taken
    exact hpllMode_pmuclksel _
  | setPciePhyClockRate index rate =>
    rcases cruSetPciePhyClockRate_ok taken with ⟨-, pllRate, -, -, source⟩ | ⟨-, source⟩
    · obtain ⟨-, -, rfl⟩ := cruSetPciePhySource_ok source
      rw [hpllMode_pmuclksel, hpllMode_pmuclksel, hpllMode_ppll]
    · obtain ⟨-, -, rfl⟩ := cruSetPciePhySource_ok source
      exact hpllMode_pmuclksel _
  | setSdmmcClockRate index rate =>
    exact Setting.read_congr (cruStep_frame taken fun touched =>
      apart .sdmmc (by decide) (by decide) (touched_written rfl _ touched))
  | setEmmcClockRate rate =>
    exact Setting.read_congr (cruStep_frame taken fun touched =>
      apart .emmc (by decide) (by decide) (touched_written rfl _ touched))
  | setGpllRate rate =>
    exact Setting.read_congr (cruStep_frame taken fun touched =>
      apart .core (by decide) (by decide) (touched_written rfl _ touched))
  | _ => exact Setting.read_congr (cruStep_frame taken (touched_gate rfl inRange (by decide)))

/-! ### Whole runs -/

/-- The core's clock runs from the PLL that `CruSetGpllRate` sets. -/
def CoreFromGpll (regs : RegisterFile) : Prop :=
  (regs (cruClkselCon 0) &&& cruClkselCon00ClkCoreISelMask) >>> cruClkselCon00ClkCoreISelShift ≠
    cruClkselCon00ClkCoreISelApll

def coreDiv (regs : RegisterFile) : UInt32 :=
  regs (cruClkselCon 0) &&& cruClkselCon00ClkCore0DivMask

theorem core_sets (taken : cruSetGpllRate regs rate = .ok next) (selected : CoreFromGpll next) :
    cruGetCoreClockRate next = .ok (rate / (coreDiv next + 1).toUInt64) := by
  obtain ⟨pllRate, listed, rfl, rfl⟩ := cruSetGpllRate_ok taken
  have read := @pll_reads regs (cruPll cruGpll 2) cruPll_laid pllRate listed
  rw [cruGetCoreClockRate]
  simp only [if_neg selected, cruGetPllRate, coreDiv]
  rw [show (pllsOf (setPllRate (cruPll cruGpll 2) regs pllRate)).pll cruGpll =
    (cruPll cruGpll 2).read (setPllRate (cruPll cruGpll 2) regs pllRate) from rfl, read]

/-- The source and the divider of the core's clock are never written. -/
theorem clksel0_keeps (inRange : call.InRange) (taken : cruStep regs call = .ok next) :
    next (cruClkselCon 0) = regs (cruClkselCon 0) := by
  have unwritten : ∀ group : ClockGroup, cruClkselCon 0 ∉ group.written := by
    intro group
    cases group <;> decide
  refine cruStep_frame taken fun touched => ?_
  cases sets : call.group with
  | none => exact touched_gate sets inRange (by decide) touched
  | some group => exact unwritten group (touched_written sets _ touched)

/-- The clocks, the gates and the resets after some calls, against what the calls asked for. -/
structure ReadsBack (calls : List CruCall) (before after : RegisterFile) : Prop where
  sdmmc : ∀ index ≤ 1, ∀ rate, lastRequest (sdmmcAsked index) calls = some rate →
    ∃ served, cruGetSdmmcClockRate after index = .ok served ∧
      IsLeast { other ∈ sdmmcSources | rate ≤ other } served
  sdmmcUnasked : ∀ index ≤ 1, lastRequest (sdmmcAsked index) calls = none →
    cruGetSdmmcClockRate after index = cruGetSdmmcClockRate before index
  sdmmc2 : ∀ rate, lastRequest (sdmmcAsked 2) calls = some rate →
    ∃ sel, sdmmcSelect rate = .ok sel ∧ (sdmmcSetting 2).read after = sel.toNat
  sdmmc2Unasked : lastRequest (sdmmcAsked 2) calls = none →
    (sdmmcSetting 2).read after = (sdmmcSetting 2).read before
  emmc : ∀ rate, lastRequest emmcAsked calls = some rate →
    emmcCclkSetting.read after = (emmcSelect rate).toNat ∧ emmcBclkSetting.read after = 0
  emmcUnasked : lastRequest emmcAsked calls = none →
    emmcCclkSetting.read after = emmcCclkSetting.read before ∧
      emmcBclkSetting.read after = emmcBclkSetting.read before
  phy : ∀ index ≤ 2, ∀ rate, lastRequest (phyAsked index) calls = some (some rate) →
    cruGetPciePhyClockRate after index = .ok rate
  phyUnasked : ∀ index ≤ 2, lastRequest (phyAsked index) calls = none →
    PhyKept index before after
  hdmi : ∀ rate, lastRequest hdmiAsked calls = some rate →
    cruGetHdmiClockRate after = .ok rate ∧ hpllModeSetting.read after = 1
  hdmiUnasked : lastRequest hdmiAsked calls = none →
    cruGetHdmiClockRate after = cruGetHdmiClockRate before
  core : CoreFromGpll before → ∀ rate, lastRequest gpllAsked calls = some rate →
    cruGetCoreClockRate after = .ok (rate / (coreDiv before + 1).toUInt64)
  coreUnasked : lastRequest gpllAsked calls = none →
    cruGetCoreClockRate after = cruGetCoreClockRate before
  gate : ∀ index < 64, ∀ bit, (bitSetting (cruGateCon index) bit).read after =
    (lastRequest (gateAsked index bit) calls).getD ((bitSetting (cruGateCon index) bit).read before)
  pmuGate : ∀ index < 32, ∀ bit, (bitSetting (pmucruPmugateCon index) bit).read after =
    (lastRequest (pmuGateAsked index bit) calls).getD
      ((bitSetting (pmucruPmugateCon index) bit).read before)
  reset : ∀ index < 64, ∀ bit, (bitSetting (cruSoftrstCon index) bit).read after =
    (lastRequest (resetAsked index bit) calls).getD
      ((bitSetting (cruSoftrstCon index) bit).read before)

end

section

variable {calls : List CruCall} {before after : RegisterFile}

variable {index : UInt8} {rate : UInt64}

theorem run_sdmmc (known : index ≤ 2) (inRange : ∀ call ∈ calls, call.InRange)
    (ended : calls.foldlM cruStep before = .ok after)
    (wanted : lastRequest (sdmmcAsked index) calls = some rate) :
    ∃ sel, sdmmcSelect rate = .ok sel ∧ (sdmmcSetting index).read after = sel.toNat := by
  refine lastRequest_holds (fun rate regs =>
    ∃ sel, sdmmcSelect rate = .ok sel ∧ (sdmmcSetting index).read regs = sel.toNat)
    ?_ ?_ inRange ended wanted
  · intro regs call next rate _ taken asked
    cases call with
    | setSdmmcClockRate other otherRate =>
      rw [sdmmcAsked] at asked
      split at asked
      · rename_i same
        subst same
        cases asked
        exact sdmmc_sets taken
      · cases asked
    | _ => cases asked
  · rintro rate regs call next inRange taken unasked ⟨sel, selected, read⟩
    exact ⟨sel, selected, (sdmmc_keeps known inRange taken unasked).trans read⟩

theorem run_sdmmcUnasked (known : index ≤ 2) (inRange : ∀ call ∈ calls, call.InRange)
    (ended : calls.foldlM cruStep before = .ok after)
    (unasked : lastRequest (sdmmcAsked index) calls = none) :
    (sdmmcSetting index).read after = (sdmmcSetting index).read before :=
  lastRequest_none (sdmmcSetting index).read (fun _ _ _ => sdmmc_keeps known) inRange ended unasked

theorem run_phy (known : index ≤ 2) (inRange : ∀ call ∈ calls, call.InRange)
    (ended : calls.foldlM cruStep before = .ok after) {request : Option UInt64}
    (wanted : lastRequest (phyAsked index) calls = some request) : PhyAt index request after := by
  refine lastRequest_holds (PhyAt index) ?_ ?_ inRange ended wanted
  · intro regs call next request _ taken asked
    cases call with
    | setPciePhyClockRate other rate =>
      rw [phyAsked] at asked
      split at asked
      · rename_i same
        subst same
        cases asked
        exact phy_setsRate taken
      · cases asked
    | setPciePhySource other source =>
      rw [phyAsked] at asked
      split at asked
      · rename_i same
        subst same
        cases asked
        exact phy_setsSource taken
      · cases asked
    | _ => cases asked
  · intro request regs call next inRange taken unasked
    exact fun runs => runs.congr (phy_keeps known inRange taken unasked)

theorem run_phyUnasked (known : index ≤ 2) (inRange : ∀ call ∈ calls, call.InRange)
    (ended : calls.foldlM cruStep before = .ok after)
    (unasked : lastRequest (phyAsked index) calls = none) : PhyKept index before after :=
  foldlM_keeps (fun _ _ _ inRange taken unasked kept =>
    kept.trans (phy_keeps known inRange taken unasked)) inRange ended unasked
    (PhyKept.refl index before)

theorem run_hdmi (inRange : ∀ call ∈ calls, call.InRange)
    (ended : calls.foldlM cruStep before = .ok after)
    (wanted : lastRequest hdmiAsked calls = some rate) :
    cruGetHdmiClockRate after = .ok rate ∧ hpllModeSetting.read after = 1 := by
  refine lastRequest_holds (fun rate regs =>
    cruGetHdmiClockRate regs = .ok rate ∧ hpllModeSetting.read regs = 1)
    ?_ ?_ inRange ended wanted
  · intro regs call next rate _ taken asked
    cases call with
    | setHdmiClockRate other =>
      cases asked
      exact ⟨hdmi_sets taken, hpllMode_sets taken⟩
    | _ => cases asked
  · rintro rate regs call next inRange taken unasked ⟨read, on⟩
    exact ⟨(hdmi_keeps inRange taken unasked).trans read,
      (hpllMode_keeps inRange taken unasked).trans on⟩

theorem run_emmc (inRange : ∀ call ∈ calls, call.InRange)
    (ended : calls.foldlM cruStep before = .ok after)
    (wanted : lastRequest emmcAsked calls = some rate) :
    emmcCclkSetting.read after = (emmcSelect rate).toNat ∧ emmcBclkSetting.read after = 0 := by
  refine lastRequest_holds (fun rate regs =>
    emmcCclkSetting.read regs = (emmcSelect rate).toNat ∧ emmcBclkSetting.read regs = 0)
    ?_ ?_ inRange ended wanted
  · intro regs call next rate _ taken asked
    cases call with
    | setEmmcClockRate other =>
      cases asked
      exact emmc_sets next (Except.ok.inj taken).symm
    | _ => cases asked
  · rintro rate regs call next inRange taken unasked ⟨cclk, bclk⟩
    have same := emmc_keeps inRange taken unasked
    exact ⟨(Setting.read_congr same).trans cclk, (Setting.read_congr same).trans bclk⟩

/-- No call writes the select and the divider of the core's clock. -/
theorem run_clksel0 (inRange : ∀ call ∈ calls, call.InRange)
    (ended : calls.foldlM cruStep before = .ok after) :
    after (cruClkselCon 0) = before (cruClkselCon 0) := by
  have unasked : lastRequest (fun _ : CruCall => (none : Option Unit)) calls = none := by
    clear ended inRange
    induction calls with
    | nil => rfl
    | cons call rest ih => rw [lastRequest, ih, Option.none_or]
  exact lastRequest_none (fun regs => regs (cruClkselCon 0))
    (fun regs call next inRange taken _ => clksel0_keeps inRange taken) inRange ended unasked

theorem run_core (inRange : ∀ call ∈ calls, call.InRange)
    (ended : calls.foldlM cruStep before = .ok after) (selected : CoreFromGpll before)
    (wanted : lastRequest gpllAsked calls = some rate) :
    cruGetCoreClockRate after = .ok (rate / (coreDiv before + 1).toUInt64) := by
  have same := run_clksel0 inRange ended
  have selectedAfter : CoreFromGpll after := by
    rw [CoreFromGpll, same]
    exact selected
  have divided : coreDiv after = coreDiv before := by rw [coreDiv, coreDiv, same]
  rw [← divided]
  refine lastRequest_holds (fun rate regs => CoreFromGpll regs →
    cruGetCoreClockRate regs = .ok (rate / (coreDiv regs + 1).toUInt64))
    ?_ ?_ inRange ended wanted selectedAfter
  · intro regs call next rate _ taken asked
    cases call with
    | setGpllRate other =>
      cases asked
      exact core_sets taken
    | _ => cases asked
  · intro rate regs call next inRange taken unasked reads selected
    have kept := clksel0_keeps inRange taken
    rw [CoreFromGpll, kept] at selected
    rw [core_keeps inRange taken unasked, coreDiv, kept]
    exact reads selected

end

/-- Whatever the order of the calls, every clock, gate and reset is as it was last asked
for. -/
theorem cruRun_readsBack {calls : List CruCall} {before after : RegisterFile}
    (inRange : ∀ call ∈ calls, call.InRange)
    (ended : calls.foldlM cruStep before = .ok after) : ReadsBack calls before after where
  sdmmc index known rate wanted := by
    have small : index.toNat ≤ 1 := UInt8.le_iff_toNat_le.mp known
    have known2 : index ≤ 2 := UInt8.le_iff_toNat_le.mpr (Nat.le_succ_of_le small)
    obtain ⟨sel, selected, read⟩ := run_sdmmc known2 inRange ended wanted
    obtain ⟨-, served, source, least⟩ := sdmmcSelect_ok selected
    refine ⟨served, ?_, least⟩
    rw [cruGetSdmmcClockRate_eq known, read, source]
  sdmmcUnasked index known unasked := by
    have small : index.toNat ≤ 1 := UInt8.le_iff_toNat_le.mp known
    have known2 : index ≤ 2 := UInt8.le_iff_toNat_le.mpr (Nat.le_succ_of_le small)
    have same := run_sdmmcUnasked known2 inRange ended unasked
    rw [cruGetSdmmcClockRate_eq known, cruGetSdmmcClockRate_eq known, same]
  sdmmc2 rate wanted := run_sdmmc (by decide) inRange ended wanted
  sdmmc2Unasked unasked := run_sdmmcUnasked (by decide) inRange ended unasked
  emmc rate wanted := run_emmc inRange ended wanted
  emmcUnasked unasked := by
    have same := lastRequest_none (fun regs => regs (cruClkselCon 28))
      (fun regs call next => emmc_keeps) inRange ended unasked
    exact ⟨Setting.read_congr same, Setting.read_congr same⟩
  phy index known rate wanted := (run_phy known inRange ended wanted).reads known
  phyUnasked index known unasked := run_phyUnasked known inRange ended unasked
  hdmi rate wanted := run_hdmi inRange ended wanted
  hdmiUnasked unasked :=
    lastRequest_none cruGetHdmiClockRate (fun regs call next => hdmi_keeps) inRange ended unasked
  core selected rate wanted := run_core inRange ended selected wanted
  coreUnasked unasked :=
    lastRequest_none cruGetCoreClockRate (fun regs call next => core_keeps) inRange ended unasked
  gate index known bit :=
    lastRequest_getD (fun regs call next => gate_step known) inRange ended
  pmuGate index known bit :=
    lastRequest_getD (fun regs call next => pmuGate_step known) inRange ended
  reset index known bit :=
    lastRequest_getD (fun regs call next => reset_step known) inRange ended

/-- The storage, a PHY that is set up for SATA and the display, one after the other. -/
theorem cruRun_readsBack_boot :
    let calls : List CruCall := [.setSdmmcClockRate 0 100000000, .assertSoftReset 13 4,
      .deassertSoftReset 13 4, .setPciePhyClockRate 1 100000000, .setPciePhyClockRate 2 100000000,
      .setPciePhySource 2 0, .setHdmiClockRate 148500000, .pmuEnableClock 2 13,
      .setSdmmcClockRate 0 400000]
    ∃ after, calls.foldlM cruStep (fun _ => 0) = .ok after ∧ ReadsBack calls (fun _ => 0) after :=
  ⟨_, rfl, cruRun_readsBack (by decide) rfl⟩

end MuRockchip.Clock
