/-
Setting the PLLs of the RK3399 and reading their rate back (`CRULib.c`, `rkclk_set_pll` and
`rkclk_pll_get_rate`).

The four dividers are packed into three registers whose high halves are write masks. The rate
is worked out in whole megahertz from the fields read back, and comes to the rate of the PLL
only where that is a whole number of megahertz, and one that fits 32 bits in hertz.

* `rkclkSetPll_fields`: the fields read back are the ones that were set.
* `rkclkPllGetRate_exact_iff`: for which dividers the rate read back is the one of the PLL.
-/
import MuRockchip.Base.Fields
import MuRockchip.Clock.PllSearch

namespace MuRockchip.Clock

open Base

/-! ### The registers -/

/-- The registers of a PLL. -/
structure PllCon where
  con0 : UInt32
  con1 : UInt32
  con2 : UInt32
  con3 : UInt32
  deriving DecidableEq, Repr

def pllFbdivMask : UInt32 := 0xfff
def pllFbdivShift : UInt32 := 0
def pllPostdiv2Shift : UInt32 := 12
def pllPostdiv2Mask : UInt32 := 0x7 <<< pllPostdiv2Shift
def pllPostdiv1Shift : UInt32 := 8
def pllPostdiv1Mask : UInt32 := 0x7 <<< pllPostdiv1Shift
def pllRefdivMask : UInt32 := 0x3f
def pllRefdivShift : UInt32 := 0
def pllModeShift : UInt32 := 8
def pllModeMask : UInt32 := 3 <<< pllModeShift
def pllModeSlow : UInt32 := 0
def pllModeNorm : UInt32 := 1
def pllDsmpdShift : UInt32 := 3
def pllDsmpdMask : UInt32 := 1 <<< pllDsmpdShift
def pllIntegerMode : UInt32 := 1

def oscHz : UInt32 := 24000000

def rkClrSetReg (reg clr set : UInt32) : UInt32 :=
  hiwordWrite reg (((clr ||| set) <<< 16) ||| set)

/-- The limits that `rkclk_set_pll` asserts. -/
def pllAsserts (div : PllDiv) : Except PllFault Bool := do
  let vcoKhz ← udiv (oscHz / 1000 * div.fbdiv) div.refdiv
  let outputKhz ← udiv vcoKhz div.postdiv1
  let outputKhz ← udiv outputKhz div.postdiv2
  .ok (vcoMinKhz ≤ vcoKhz && vcoKhz ≤ vcoMaxKhz && (16000 ≤ outputKhz && outputKhz ≤ 3200000) &&
    (minFbdiv ≤ div.fbdiv && div.fbdiv ≤ maxFbdiv))

/-- `rkclk_set_pll`. Waiting for the lock only reads. -/
def rkclkSetPll (div : PllDiv) (pll : PllCon) : PllCon :=
  let pll := { pll with con3 := rkClrSetReg pll.con3 pllModeMask (pllModeSlow <<< pllModeShift) }
  let pll := { pll with
    con3 := rkClrSetReg pll.con3 pllDsmpdMask (pllIntegerMode <<< pllDsmpdShift) }
  let pll := { pll with con0 := rkClrSetReg pll.con0 pllFbdivMask (div.fbdiv <<< pllFbdivShift) }
  let pll := { pll with
    con1 := rkClrSetReg pll.con1
      (pllPostdiv2Mask ||| pllPostdiv1Mask ||| pllRefdivMask ||| pllRefdivShift)
      ((div.postdiv2 <<< pllPostdiv2Shift) ||| (div.postdiv1 <<< pllPostdiv1Shift) |||
        (div.refdiv <<< pllRefdivShift)) }
  { pll with con3 := rkClrSetReg pll.con3 pllModeMask (pllModeNorm <<< pllModeShift) }

def rkclkPllGetRate (pll : PllCon) : Except PllFault UInt32 :=
  let mode := (pll.con3 &&& pllModeMask) >>> pllModeShift
  if mode = pllModeSlow then .ok oscHz
  else if mode = pllModeNorm then do
    let fbdiv := (pll.con0 &&& pllFbdivMask) >>> pllFbdivShift
    let postdiv1 := (pll.con1 &&& pllPostdiv1Mask) >>> pllPostdiv1Shift
    let postdiv2 := (pll.con1 &&& pllPostdiv2Mask) >>> pllPostdiv2Shift
    let refdiv := (pll.con1 &&& pllRefdivMask) >>> pllRefdivShift
    let rate ← udiv (24 * fbdiv) (refdiv * postdiv1 * postdiv2)
    .ok (rate * 1000000)
  else .ok 32768

/-! ### The fields read back -/

/-- Dividers that fit their fields. -/
structure FitsFields (div : PllDiv) : Prop where
  refdiv : 1 ≤ div.refdiv.toNat ∧ div.refdiv.toNat < 64
  fbdiv : 1 ≤ div.fbdiv.toNat ∧ div.fbdiv.toNat < 4096
  postdiv1 : 1 ≤ div.postdiv1.toNat ∧ div.postdiv1.toNat < 8
  postdiv2 : 1 ≤ div.postdiv2.toNat ∧ div.postdiv2.toNat < 8

theorem rkClrSetReg_field (reg : UInt32) {clr set mask shift : UInt32} {width : Nat}
    (small : shift.toNat + width ≤ 16)
    (maskEq : mask.toNat = (2 ^ width - 1) <<< shift.toNat)
    (covers : ∀ bit < width, clr.toBitVec.getLsbD (shift.toNat + bit) = true) :
    ((rkClrSetReg reg clr set &&& mask) >>> shift).toNat = field set shift.toNat width := by
  rw [toNat_and_shiftRight _ (by omega) maskEq, rkClrSetReg, field_hiwordWrite _ small covers]

theorem packed_toNat {refdiv postdiv1 postdiv2 : UInt32} (refdivs : refdiv.toNat < 64)
    (postdivs1 : postdiv1.toNat < 8) (postdivs2 : postdiv2.toNat < 8) :
    ((postdiv2 <<< pllPostdiv2Shift) ||| (postdiv1 <<< pllPostdiv1Shift) |||
      (refdiv <<< pllRefdivShift)).toNat =
      postdiv2.toNat * 4096 + postdiv1.toNat * 256 + refdiv.toNat := by
  have high : (postdiv2 <<< pllPostdiv2Shift).toNat = postdiv2.toNat <<< 12 := by
    rw [UInt32.toNat_shiftLeft, show pllPostdiv2Shift.toNat % 32 = 12 from rfl,
      Nat.mod_eq_of_lt (by rw [Nat.shiftLeft_eq]; omega)]
  have middle : (postdiv1 <<< pllPostdiv1Shift).toNat = postdiv1.toNat <<< 8 := by
    rw [UInt32.toNat_shiftLeft, show pllPostdiv1Shift.toNat % 32 = 8 from rfl,
      Nat.mod_eq_of_lt (by rw [Nat.shiftLeft_eq]; omega)]
  have low : (refdiv <<< pllRefdivShift).toNat = refdiv.toNat := by
    rw [UInt32.toNat_shiftLeft, show pllRefdivShift.toNat % 32 = 0 from rfl, Nat.shiftLeft_zero,
      Nat.mod_eq_of_lt refdiv.toNat_lt]
  rw [UInt32.toNat_or, UInt32.toNat_or, high, middle, low, Nat.or_assoc,
    ← Nat.shiftLeft_add_eq_or_of_lt (show refdiv.toNat < 2 ^ 8 by omega),
    ← Nat.shiftLeft_add_eq_or_of_lt (by rw [Nat.shiftLeft_eq]; omega), Nat.shiftLeft_eq,
    Nat.shiftLeft_eq]
  omega

theorem rkclkSetPll_fields {div : PllDiv} (fits : FitsFields div) (pll : PllCon) :
    ((rkclkSetPll div pll).con3 &&& pllModeMask) >>> pllModeShift = pllModeNorm ∧
      ((rkclkSetPll div pll).con0 &&& pllFbdivMask) >>> pllFbdivShift = div.fbdiv ∧
      ((rkclkSetPll div pll).con1 &&& pllPostdiv1Mask) >>> pllPostdiv1Shift = div.postdiv1 ∧
      ((rkclkSetPll div pll).con1 &&& pllPostdiv2Mask) >>> pllPostdiv2Shift = div.postdiv2 ∧
      ((rkclkSetPll div pll).con1 &&& pllRefdivMask) >>> pllRefdivShift = div.refdiv := by
  have packed := packed_toNat fits.refdiv.2 fits.postdiv1.2 fits.postdiv2.2
  have bounds := And.intro fits.postdiv1.2 (And.intro fits.postdiv2.2 fits.refdiv.2)
  refine ⟨UInt32.toNat_inj.mp ?_, UInt32.toNat_inj.mp ?_, UInt32.toNat_inj.mp ?_,
    UInt32.toNat_inj.mp ?_, UInt32.toNat_inj.mp ?_⟩
  · exact @rkClrSetReg_field _ _ _ pllModeMask pllModeShift 2 (by decide) rfl (by decide)
  · refine (@rkClrSetReg_field _ _ _ pllFbdivMask pllFbdivShift 12 (by decide) rfl
      (by decide)).trans ?_
    have shift : div.fbdiv <<< pllFbdivShift = div.fbdiv := by simp [pllFbdivShift]
    rw [shift, field]
    show div.fbdiv.toNat / 1 % 4096 = div.fbdiv.toNat
    have := fits.fbdiv.2
    omega
  · refine (@rkClrSetReg_field _ _ _ pllPostdiv1Mask pllPostdiv1Shift 3 (by decide) rfl
      (by decide)).trans ?_
    rw [field, packed]
    show _ / 256 % 8 = _
    omega
  · refine (@rkClrSetReg_field _ _ _ pllPostdiv2Mask pllPostdiv2Shift 3 (by decide) rfl
      (by decide)).trans ?_
    rw [field, packed]
    show _ / 4096 % 8 = _
    omega
  · refine (@rkClrSetReg_field _ _ _ pllRefdivMask pllRefdivShift 6 (by decide) rfl
      (by decide)).trans ?_
    rw [field, packed]
    show _ / 1 % 64 = _
    omega

/-! ### The rate read back -/

/-- The rate of the PLL, in whole hertz. -/
def pllRate (div : PllDiv) : Nat :=
  24000000 * div.fbdiv.toNat / (div.refdiv.toNat * div.postdiv1.toNat * div.postdiv2.toNat)

theorem FitsFields.divisor {div : PllDiv} (fits : FitsFields div) :
    0 < div.refdiv.toNat * div.postdiv1.toNat * div.postdiv2.toNat ∧
      div.refdiv.toNat * div.postdiv1.toNat * div.postdiv2.toNat ≤ 3087 := by
  have first : div.refdiv.toNat * div.postdiv1.toNat ≤ 63 * 7 :=
    Nat.mul_le_mul (by have := fits.refdiv; omega) (by have := fits.postdiv1; omega)
  have whole : div.refdiv.toNat * div.postdiv1.toNat * div.postdiv2.toNat ≤ 63 * 7 * 7 :=
    Nat.mul_le_mul first (by have := fits.postdiv2; omega)
  exact ⟨Nat.mul_pos (Nat.mul_pos fits.refdiv.1 fits.postdiv1.1) fits.postdiv2.1, whole⟩

/-- The rate is read back in whole megahertz, in 32 bits. -/
theorem rkclkPllGetRate_set {div : PllDiv} (fits : FitsFields div) (pll : PllCon) :
    ∃ rate, rkclkPllGetRate (rkclkSetPll div pll) = .ok rate ∧
      rate.toNat = 24 * div.fbdiv.toNat /
        (div.refdiv.toNat * div.postdiv1.toNat * div.postdiv2.toNat) * 1000000 % 2 ^ 32 := by
  obtain ⟨mode, fbdiv, postdiv1, postdiv2, refdiv⟩ := rkclkSetPll_fields fits pll
  obtain ⟨some, small⟩ := fits.divisor
  have divisor : (div.refdiv * div.postdiv1 * div.postdiv2).toNat =
      div.refdiv.toNat * div.postdiv1.toNat * div.postdiv2.toNat := by
    rw [UInt32.toNat_mul, UInt32.toNat_mul, Nat.mod_mul_mod]
    exact Nat.mod_eq_of_lt (by omega)
  have dividend : (24 * div.fbdiv).toNat = 24 * div.fbdiv.toNat := by
    rw [UInt32.toNat_mul]
    show 24 * div.fbdiv.toNat % 2 ^ 32 = _
    exact Nat.mod_eq_of_lt (by have := fits.fbdiv; omega)
  refine ⟨24 * div.fbdiv / (div.refdiv * div.postdiv1 * div.postdiv2) * 1000000, ?_, ?_⟩
  · rw [rkclkPllGetRate, mode, if_neg (by decide), if_pos rfl, fbdiv, postdiv1, postdiv2, refdiv]
    show (do let rate ← udiv (24 * div.fbdiv) (div.refdiv * div.postdiv1 * div.postdiv2); _) = _
    rw [udiv_ok (divisor ▸ some)]
    rfl
  · rw [UInt32.toNat_mul, UInt32.toNat_div, dividend, divisor]
    rfl

/-- Megahertz rounded down make up the rounded rate where there is nothing to round. -/
theorem megahertz_eq_iff (fbdiv : Nat) {divisor : Nat} (some : 0 < divisor)
    (small : divisor ≤ 1000000) :
    24 * fbdiv / divisor * 1000000 % 2 ^ 32 = 24000000 * fbdiv / divisor ↔
      divisor ∣ 24 * fbdiv ∧ 24 * fbdiv / divisor ≤ 4294 := by
  have whole := Nat.div_add_mod (24 * fbdiv) divisor
  have rest := Nat.mod_lt (24 * fbdiv) some
  rw [Nat.dvd_iff_mod_eq_zero]
  set quotient := 24 * fbdiv / divisor
  set remainder := 24 * fbdiv % divisor
  have split : 24000000 * fbdiv / divisor = quotient * 1000000 + remainder * 1000000 / divisor := by
    rw [show 24000000 * fbdiv = remainder * 1000000 + divisor * (quotient * 1000000) by
      rw [← Nat.mul_assoc]; omega, Nat.add_mul_div_left _ _ some, Nat.add_comm]
  rw [split]
  constructor
  · intro same
    -- what the last division rounds away would have to come back from the overflow
    have shown : remainder ≠ 0 → 1 ≤ remainder * 1000000 / divisor := fun left =>
      (Nat.le_div_iff_mul_le some).mpr (by omega)
    generalize remainder * 1000000 / divisor = lost at same shown
    have least := Nat.mod_le (quotient * 1000000) (2 ^ 32)
    have exactly : remainder = 0 := by
      by_contra left
      have lost := shown left
      omega
    have bound := Nat.mod_lt (quotient * 1000000) (show 0 < 2 ^ 32 by decide)
    exact ⟨exactly, by omega⟩
  · rintro ⟨exactly, small⟩
    rw [exactly, Nat.zero_mul, Nat.zero_div]
    omega

/-- For which dividers the rate read back after setting them is the one of the PLL. -/
theorem rkclkPllGetRate_exact_iff {div : PllDiv} (fits : FitsFields div) (pll : PllCon) :
    (∃ rate, rkclkPllGetRate (rkclkSetPll div pll) = .ok rate ∧ rate.toNat = pllRate div) ↔
      div.refdiv.toNat * div.postdiv1.toNat * div.postdiv2.toNat ∣ 24 * div.fbdiv.toNat ∧
        24 * div.fbdiv.toNat / (div.refdiv.toNat * div.postdiv1.toNat * div.postdiv2.toNat) ≤
          4294 := by
  obtain ⟨rate, run, megahertz⟩ := rkclkPllGetRate_set fits pll
  obtain ⟨some, small⟩ := fits.divisor
  rw [← megahertz_eq_iff div.fbdiv.toNat some (small.trans (by decide)), ← pllRate, ← megahertz,
    run]
  constructor
  · rintro ⟨_, ⟨⟩, exactly⟩
    exact exactly
  · exact fun exactly => ⟨rate, rfl, exactly⟩

theorem rkclkPllGetRate_594MHz :
    ∃ rate, rkclkPllGetRate (rkclkSetPll ⟨2, 99, 2, 1⟩ ⟨0, 0, 0, 0⟩) = .ok rate ∧
      rate.toNat = pllRate ⟨2, 99, 2, 1⟩ :=
  (@rkclkPllGetRate_exact_iff ⟨2, 99, 2, 1⟩ ⟨by decide, by decide, by decide, by decide⟩
    ⟨0, 0, 0, 0⟩).mpr (by decide)

/-- Within all limits, 316.8 MHz are read back as 316 MHz. -/
theorem rkclkPllGetRate_loses :
    FitsFields ⟨1, 66, 5, 1⟩ ∧ pllAsserts ⟨1, 66, 5, 1⟩ = .ok true ∧
      ¬ ∃ rate, rkclkPllGetRate (rkclkSetPll ⟨1, 66, 5, 1⟩ ⟨0, 0, 0, 0⟩) = .ok rate ∧
        rate.toNat = pllRate ⟨1, 66, 5, 1⟩ := by
  refine ⟨⟨by decide, by decide, by decide, by decide⟩, by decide, ?_⟩
  have run : rkclkPllGetRate (rkclkSetPll ⟨1, 66, 5, 1⟩ ⟨0, 0, 0, 0⟩) = .ok 316000000 := by decide
  rintro ⟨_, read, exactly⟩
  rw [run] at read
  cases read
  exact absurd exactly (by decide)

end MuRockchip.Clock
