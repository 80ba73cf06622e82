/-
The rate of the PLLs of the RK356x (`CruLib.c`).

The integer and the fractional part of the multiplier are taken separately: the reference is
divided before it is multiplied with the integer part, and the fractional part is never
divided by the reference divider at all. The rate is exact where the error that makes in the
frequency of the VCO does not take it past a multiple of the post dividers.

* `getPllRate_exact_iff`: for which register contents the rate read out is exact.
* `cruSetPllRate_reads`: every rate of the table is read out as what it is.
-/
import MuRockchip.Base.Fields
import MuRockchip.Clock.PllSearch

namespace MuRockchip.Clock

open Base

/-! ### The registers -/

/-- The registers that a PLL of the main and of the PMU's unit have alike. -/
structure PllRegs where
  con0 : UInt32
  con1 : UInt32
  con2 : UInt32
  deriving DecidableEq, Repr

/-- The two clock and reset units. -/
structure Cru where
  pll : UInt32 → PllRegs
  pmuPll : UInt32 → PllRegs

def cruClkrefRate : UInt64 := 24000000

def cruPllCon0Bypass : UInt32 := 0x8000
def cruPllCon0Postdiv1Shift : UInt32 := 12
def cruPllCon0Postdiv1Mask : UInt32 := 0x7 <<< cruPllCon0Postdiv1Shift
def cruPllCon0FbdivMask : UInt32 := 0xfff
def cruPllCon1Dsmpd : UInt32 := 0x1000
def cruPllCon1Postdiv2Shift : UInt32 := 6
def cruPllCon1Postdiv2Mask : UInt32 := 0x7 <<< cruPllCon1Postdiv2Shift
def cruPllCon1RefdivMask : UInt32 := 0x3f
def cruPllCon2FracdivMask : UInt32 := 0xffffff

/-! ### Reading the rate -/

/-- A division of `UINTN`. -/
def udivn (n d : UInt64) : Except PllFault UInt64 :=
  if d = 0 then .error .divisionByZero else .ok (n / d)

/-- What both functions make of the registers they read. -/
def getPllRate (regs : PllRegs) : Except PllFault UInt64 :=
  if regs.con0 &&& cruPllCon0Bypass ≠ 0 then .ok cruClkrefRate
  else do
    let fbDiv := (regs.con0 &&& cruPllCon0FbdivMask).toUInt64
    let postDiv1 := ((regs.con0 &&& cruPllCon0Postdiv1Mask) >>> cruPllCon0Postdiv1Shift).toUInt64
    let refDiv := (regs.con1 &&& cruPllCon1RefdivMask).toUInt64
    let postDiv2 := ((regs.con1 &&& cruPllCon1Postdiv2Mask) >>> cruPllCon1Postdiv2Shift).toUInt64
    let divided ← udivn cruClkrefRate refDiv
    let fOutVco := divided * fbDiv
    let fOutVco :=
      if regs.con1 &&& cruPllCon1Dsmpd = 0 then
        let fracDiv := (regs.con2 &&& cruPllCon2FracdivMask).toUInt64
        fOutVco + ((cruClkrefRate * fracDiv) >>> 24)
      else fOutVco
    let rate ← udivn fOutVco postDiv1
    udivn rate postDiv2

def cruGetPllRate (cru : Cru) (pllNumber : UInt32) : Except PllFault UInt64 :=
  getPllRate (cru.pll pllNumber)

def pmuCruGetPllRate (cru : Cru) (pllNumber : UInt32) : Except PllFault UInt64 :=
  getPllRate (cru.pmuPll pllNumber)

/-! ### Setting the rate -/

structure CruPllRate where
  rate : UInt64
  refDiv : UInt32
  fbDiv : UInt32
  postDiv1 : UInt32
  postDiv2 : UInt32
  dsmpd : UInt32
  frac : UInt32

/-- `CruPllRates`, up to the entry that ends it. -/
def cruPllRates : List CruPllRate :=
  [ ⟨1200000000, 1, 100, 2, 1, 1, 0⟩,
    ⟨594000000, 1, 99, 4, 1, 1, 0⟩,
    ⟨297000000, 1, 99, 4, 2, 1, 0⟩,
    ⟨200000000, 1, 100, 3, 4, 1, 0⟩,
    ⟨148500000, 1, 99, 4, 4, 1, 0⟩,
    ⟨74250000, 2, 99, 4, 4, 1, 0⟩ ]

/-- The first register, with its write mask. -/
def CruPllRate.con0 (rate : CruPllRate) : UInt32 :=
  ((cruPllCon0FbdivMask ||| cruPllCon0Postdiv1Mask ||| cruPllCon0Bypass) <<< 16) |||
    (rate.postDiv1 <<< cruPllCon0Postdiv1Shift) ||| rate.fbDiv

def CruPllRate.con1 (rate : CruPllRate) : UInt32 :=
  ((cruPllCon1RefdivMask ||| cruPllCon1Postdiv2Mask ||| cruPllCon1Dsmpd) <<< 16) |||
    (if rate.dsmpd ≠ 0 then cruPllCon1Dsmpd else 0) |||
    (rate.postDiv2 <<< cruPllCon1Postdiv2Shift) ||| rate.refDiv

/-- What `CruSetPllRate` writes to the registers of the PLL. -/
def cruSetPllRate (regs : PllRegs) (rate : CruPllRate) : PllRegs where
  con0 := hiwordWrite regs.con0 rate.con0
  con1 := hiwordWrite regs.con1 rate.con1
  con2 := (regs.con2 &&& ~~~cruPllCon2FracdivMask) ||| rate.frac

/-- In integer mode the fractional part is not read. -/
theorem getPllRate_integer {con0 con1 con2 other0 other1 : UInt32}
    (integer : other1 &&& cruPllCon1Dsmpd ≠ 0)
    (same0 : ∀ mask ∈ [cruPllCon0Bypass, cruPllCon0FbdivMask, cruPllCon0Postdiv1Mask],
      con0 &&& mask = other0 &&& mask)
    (same1 : ∀ mask ∈ [cruPllCon1Dsmpd, cruPllCon1RefdivMask, cruPllCon1Postdiv2Mask],
      con1 &&& mask = other1 &&& mask) :
    getPllRate ⟨con0, con1, con2⟩ = getPllRate ⟨other0, other1, 0⟩ := by
  simp only [List.forall_mem_cons] at same0 same1
  obtain ⟨bypass, fbDiv, postDiv1, -⟩ := same0
  obtain ⟨dsmpd, refDiv, postDiv2, -⟩ := same1
  simp only [getPllRate, bypass, fbDiv, postDiv1, refDiv, postDiv2, dsmpd, if_neg integer]

/-- Every rate of the table is read out as what it is. -/
theorem cruSetPllRate_reads {rate : CruPllRate} (listed : rate ∈ cruPllRates) (regs : PllRegs) :
    getPllRate (cruSetPllRate regs rate) = .ok rate.rate := by
  simp only [cruPllRates, List.mem_cons, List.not_mem_nil, or_false] at listed
  have covered0 : ∀ mask ∈ [cruPllCon0Bypass, cruPllCon0FbdivMask, cruPllCon0Postdiv1Mask],
      (rate.con0 >>> 16) &&& mask = mask := by
    simp only [List.forall_mem_cons]
    rcases listed with rfl | rfl | rfl | rfl | rfl | rfl <;>
      exact ⟨rfl, rfl, rfl, List.forall_mem_nil _⟩
  have covered1 : ∀ mask ∈ [cruPllCon1Dsmpd, cruPllCon1RefdivMask, cruPllCon1Postdiv2Mask],
      (rate.con1 >>> 16) &&& mask = mask := by
    simp only [List.forall_mem_cons]
    rcases listed with rfl | rfl | rfl | rfl | rfl | rfl <;>
      exact ⟨rfl, rfl, rfl, List.forall_mem_nil _⟩
  have integer : rate.con1 &&& cruPllCon1Dsmpd ≠ 0 := by
    rcases listed with rfl | rfl | rfl | rfl | rfl | rfl <;> decide
  rw [cruSetPllRate, getPllRate_integer integer
    (fun mask named => hiwordWrite_and regs.con0 rate.con0 (covered0 mask named))
    (fun mask named => hiwordWrite_and regs.con1 rate.con1 (covered1 mask named))]
  rcases listed with rfl | rfl | rfl | rfl | rfl | rfl <;> decide

/-! ### The exact rate -/

section Fields

variable (regs : PllRegs)

def PllRegs.bypass : Bool := regs.con0 &&& cruPllCon0Bypass ≠ 0
def PllRegs.fbDiv : Nat := field regs.con0 0 12
def PllRegs.postDiv1 : Nat := field regs.con0 12 3
def PllRegs.refDiv : Nat := field regs.con1 0 6
def PllRegs.postDiv2 : Nat := field regs.con1 6 3

/-- The fractional part of the multiplier, in units of `2 ^ -24`: none in integer mode. -/
def PllRegs.frac : Nat :=
  if regs.con1 &&& cruPllCon1Dsmpd = 0 then field regs.con2 0 24 else 0

/-- `24000000 * (FbDiv + Frac / 2 ^ 24) / (RefDiv * PostDiv1 * PostDiv2)` in whole hertz. -/
def PllRegs.exactRate : Nat :=
  24000000 * (regs.fbDiv * 2 ^ 24 + regs.frac) /
    (2 ^ 24 * (regs.refDiv * (regs.postDiv1 * regs.postDiv2)))

/-- Dividers that the rate can be divided by. -/
structure PllRegs.Divides : Prop where
  refDiv : regs.refDiv ≠ 0
  postDiv1 : regs.postDiv1 ≠ 0
  postDiv2 : regs.postDiv2 ≠ 0

/-- What the fractional part adds to the frequency of the VCO. -/
def PllRegs.fracPart : Nat := 24000000 * regs.frac / 2 ^ 24

/-- The frequency of the VCO that the rate is worked out from. -/
def PllRegs.vco : Nat := 24000000 / regs.refDiv * regs.fbDiv + regs.fracPart

end Fields

/-! ### What is read out -/

variable {regs : PllRegs}

theorem udivn_ok {n d : UInt64} (some : d.toNat ≠ 0) : udivn n d = .ok (n / d) := by
  have nonzero : d ≠ 0 := by
    rintro rfl
    exact some rfl
  exact if_neg nonzero

theorem getPllRate_bypass (bypass : regs.bypass = true) : getPllRate regs = .ok cruClkrefRate :=
  if_pos (of_decide_eq_true bypass)

theorem getPllRate_run (on : regs.bypass = false) (divides : regs.Divides) :
    ∃ rate, getPllRate regs = .ok rate ∧
      rate.toNat = regs.vco / (regs.postDiv1 * regs.postDiv2) := by
  have fb : (regs.con0 &&& cruPllCon0FbdivMask).toUInt64.toNat = regs.fbDiv := by
    rw [UInt32.toNat_toUInt64]
    exact @toNat_and_mask regs.con0 cruPllCon0FbdivMask 12 rfl
  have post1 : ((regs.con0 &&& cruPllCon0Postdiv1Mask) >>> cruPllCon0Postdiv1Shift).toUInt64.toNat =
      regs.postDiv1 := by
    rw [UInt32.toNat_toUInt64]
    exact @toNat_and_shiftRight regs.con0 cruPllCon0Postdiv1Mask cruPllCon0Postdiv1Shift 3
      (by decide) rfl
  have ref : (regs.con1 &&& cruPllCon1RefdivMask).toUInt64.toNat = regs.refDiv := by
    rw [UInt32.toNat_toUInt64]
    exact @toNat_and_mask regs.con1 cruPllCon1RefdivMask 6 rfl
  have post2 : ((regs.con1 &&& cruPllCon1Postdiv2Mask) >>> cruPllCon1Postdiv2Shift).toUInt64.toNat =
      regs.postDiv2 := by
    rw [UInt32.toNat_toUInt64]
    exact @toNat_and_shiftRight regs.con1 cruPllCon1Postdiv2Mask cruPllCon1Postdiv2Shift 3
      (by decide) rfl
  have fbSmall : regs.fbDiv < 4096 := field_lt regs.con0 0 12
  have quotient : 24000000 / regs.refDiv ≤ 24000000 := Nat.div_le_self _ _
  have product : 24000000 / regs.refDiv * regs.fbDiv ≤ 24000000 * 4096 :=
    Nat.mul_le_mul quotient fbSmall.le
  have whole : (cruClkrefRate / (regs.con1 &&& cruPllCon1RefdivMask).toUInt64 *
      (regs.con0 &&& cruPllCon0FbdivMask).toUInt64).toNat =
      24000000 / regs.refDiv * regs.fbDiv := by
    rw [UInt64.toNat_mul, UInt64.toNat_div, fb, ref]
    exact Nat.mod_eq_of_lt (lt_of_le_of_lt product (by decide))
  set vco : UInt64 :=
    let fOutVco := cruClkrefRate / (regs.con1 &&& cruPllCon1RefdivMask).toUInt64 *
      (regs.con0 &&& cruPllCon0FbdivMask).toUInt64
    if regs.con1 &&& cruPllCon1Dsmpd = 0 then
      fOutVco + ((cruClkrefRate * (regs.con2 &&& cruPllCon2FracdivMask).toUInt64) >>> 24)
    else fOutVco with vcoDef
  have vcoEq : vco.toNat = regs.vco := by
    rw [vcoDef, PllRegs.vco, PllRegs.fracPart, PllRegs.frac]
    by_cases fractional : regs.con1 &&& cruPllCon1Dsmpd = 0
    · have frac : (regs.con2 &&& cruPllCon2FracdivMask).toUInt64.toNat = field regs.con2 0 24 := by
        rw [UInt32.toNat_toUInt64]
        exact @toNat_and_mask regs.con2 cruPllCon2FracdivMask 24 rfl
      have small := field_lt regs.con2 0 24
      have part : ((cruClkrefRate * (regs.con2 &&& cruPllCon2FracdivMask).toUInt64) >>> 24).toNat =
          24000000 * field regs.con2 0 24 / 2 ^ 24 := by
        rw [UInt64.toNat_shiftRight, UInt64.toNat_mul, frac,
          show cruClkrefRate.toNat = 24000000 from rfl, Nat.mod_eq_of_lt (by omega)]
        exact Nat.shiftRight_eq_div_pow _ _
      simp only [if_pos fractional]
      rw [UInt64.toNat_add, whole, part]
      refine Nat.mod_eq_of_lt ?_
      omega
    · simp only [if_neg fractional]
      rw [whole]
      rfl
  refine ⟨vco / ((regs.con0 &&& cruPllCon0Postdiv1Mask) >>> cruPllCon0Postdiv1Shift).toUInt64 /
    ((regs.con1 &&& cruPllCon1Postdiv2Mask) >>> cruPllCon1Postdiv2Shift).toUInt64, ?_, ?_⟩
  · have run : getPllRate regs = (do
        let divided ← udivn cruClkrefRate (regs.con1 &&& cruPllCon1RefdivMask).toUInt64
        let fOutVco := divided * (regs.con0 &&& cruPllCon0FbdivMask).toUInt64
        let rate ← udivn
          (if regs.con1 &&& cruPllCon1Dsmpd = 0 then
            fOutVco + ((cruClkrefRate * (regs.con2 &&& cruPllCon2FracdivMask).toUInt64) >>> 24)
          else fOutVco)
          ((regs.con0 &&& cruPllCon0Postdiv1Mask) >>> cruPllCon0Postdiv1Shift).toUInt64
        udivn rate ((regs.con1 &&& cruPllCon1Postdiv2Mask) >>>
          cruPllCon1Postdiv2Shift).toUInt64) :=
      if_neg (of_decide_eq_false on)
    rw [run, udivn_ok (ref ▸ divides.refDiv)]
    show (do let rate ← udivn vco _; _) = _
    rw [udivn_ok (post1 ▸ divides.postDiv1)]
    exact udivn_ok (post2 ▸ divides.postDiv2)
  · rw [UInt64.toNat_div, UInt64.toNat_div, vcoEq, post1, post2, Nat.div_div_eq_div_mul]

/-! ### When the rate is exact -/

/-- What the divided reference and the fractional part leave of the multiplied reference. -/
def PllRegs.due (regs : PllRegs) : Nat :=
  (24000000 % regs.refDiv * regs.fbDiv + regs.fracPart) / regs.refDiv

def PllRegs.Cancels (regs : PllRegs) : Prop :=
  let multiplier := regs.fbDiv * 2 ^ 24 + regs.frac
  let divider := 2 ^ 24 * (regs.refDiv * (regs.postDiv1 * regs.postDiv2))
  divider ≤ multiplier ∧ 24000000 * multiplier < 24000001 * divider

/-- The fractional part in the place of what is due takes the VCO neither below the multiple
of the post dividers that it comes to, nor to the next one. -/
def PllRegs.StaysBetween (regs : PllRegs) : Prop :=
  let post := regs.postDiv1 * regs.postDiv2
  regs.fracPart ≤ regs.due + regs.vco % post ∧ regs.due + regs.vco % post < regs.fracPart + post

def PllRegs.ReadsExactly (regs : PllRegs) : Prop :=
  if regs.bypass then regs.Cancels else regs.StaysBetween

theorem PllRegs.Divides.post_pos (divides : regs.Divides) : 0 < regs.postDiv1 * regs.postDiv2 :=
  Nat.mul_pos (Nat.pos_of_ne_zero divides.postDiv1) (Nat.pos_of_ne_zero divides.postDiv2)

theorem exactRate_eq (divides : regs.Divides) :
    regs.exactRate =
      (24000000 / regs.refDiv * regs.fbDiv + regs.due) / (regs.postDiv1 * regs.postDiv2) := by
  have some : 0 < regs.refDiv := Nat.pos_of_ne_zero divides.refDiv
  have multiplied : 24000000 * (regs.fbDiv * 2 ^ 24 + regs.frac) / 2 ^ 24 =
      24000000 * regs.fbDiv + regs.fracPart := by
    rw [PllRegs.fracPart]
    omega
  have split : 24000000 * regs.fbDiv + regs.fracPart =
      24000000 % regs.refDiv * regs.fbDiv + regs.fracPart +
        regs.refDiv * (24000000 / regs.refDiv * regs.fbDiv) := by
    rw [← Nat.mul_assoc, Nat.add_right_comm, ← Nat.add_mul, Nat.mod_add_div]
  rw [PllRegs.exactRate, ← Nat.div_div_eq_div_mul, multiplied, ← Nat.div_div_eq_div_mul, split,
    Nat.add_mul_div_left _ _ some, Nat.add_comm, PllRegs.due]

/-- For which register contents the rate that both functions read out is exact. -/
theorem getPllRate_exact_iff {cru : Cru} {pllNumber pmuPllNumber : UInt32}
    (same : cru.pll pllNumber = cru.pmuPll pmuPllNumber)
    (divides : (cru.pll pllNumber).Divides) :
    cruGetPllRate cru pllNumber = pmuCruGetPllRate cru pmuPllNumber ∧
      ((∃ rate, cruGetPllRate cru pllNumber = .ok rate ∧
        rate.toNat = (cru.pll pllNumber).exactRate) ↔ (cru.pll pllNumber).ReadsExactly) := by
  refine ⟨congrArg getPllRate same, ?_⟩
  rw [cruGetPllRate]
  generalize cru.pll pllNumber = regs at divides
  have post := divides.post_pos
  cases bypass : regs.bypass with
  | true =>
    have divider : 0 < 2 ^ 24 * (regs.refDiv * (regs.postDiv1 * regs.postDiv2)) :=
      Nat.mul_pos (by decide) (Nat.mul_pos (Nat.pos_of_ne_zero divides.refDiv) post)
    have exactly : 24000000 = regs.exactRate ↔ regs.Cancels := by
      rw [PllRegs.exactRate, PllRegs.Cancels, eq_comm, Nat.div_eq_iff divider]
      omega
    rw [getPllRate_bypass bypass, PllRegs.ReadsExactly, if_pos bypass, ← exactly]
    constructor
    · rintro ⟨_, ⟨⟩, same⟩
      exact same
    · exact fun same => ⟨_, rfl, same⟩
  | false =>
    obtain ⟨rate, run, rateEq⟩ := getPllRate_run bypass divides
    have vcoEq : regs.vco = 24000000 / regs.refDiv * regs.fbDiv + regs.fracPart := rfl
    have whole := Nat.div_add_mod' regs.vco (regs.postDiv1 * regs.postDiv2)
    have rest := Nat.mod_lt regs.vco post
    have exactly : regs.vco / (regs.postDiv1 * regs.postDiv2) = regs.exactRate ↔
        regs.StaysBetween := by
      rw [exactRate_eq divides, PllRegs.StaysBetween, eq_comm, Nat.div_eq_iff post]
      omega
    rw [run, PllRegs.ReadsExactly, if_neg (by simp [bypass]), ← exactly, ← rateEq]
    constructor
    · rintro ⟨_, ⟨⟩, same⟩
      exact same
    · exact fun same => ⟨_, rfl, same⟩

/-- The registers of one PLL in both units. -/
def Cru.both (regs : PllRegs) : Cru := ⟨fun _ => regs, fun _ => regs⟩

/-- 24 MHz * 99 / 4. -/
theorem cruGetPllRate_594MHz :
    let cru := Cru.both ⟨0x4063, 0x1041, 0⟩
    cruGetPllRate cru 2 = pmuCruGetPllRate cru 0 ∧
      ((∃ rate, cruGetPllRate cru 2 = .ok rate ∧ rate.toNat = (cru.pll 2).exactRate) ↔
        (cru.pll 2).ReadsExactly) :=
  getPllRate_exact_iff rfl ⟨by decide, by decide, by decide⟩

/-- 24 MHz / 2 * 99.5 / 4 come to 298.5 MHz and are read out as 300 MHz. -/
theorem cruGetPllRate_fractional :
    let cru := Cru.both ⟨0x4063, 0x0042, 0x800000⟩
    (cru.pll 2).Divides ∧ (cru.pll 2).exactRate = 298500000 ∧
      ¬ ∃ rate, cruGetPllRate cru 2 = .ok rate ∧ rate.toNat = (cru.pll 2).exactRate := by
  intro cru
  have run : cruGetPllRate cru 2 = .ok 300000000 := by decide
  have exactly : (cru.pll 2).exactRate = 298500000 := by decide
  refine ⟨⟨by decide, by decide, by decide⟩, exactly, ?_⟩
  rintro ⟨_, read, same⟩
  rw [run] at read
  cases read
  rw [exactly] at same
  exact absurd same (by decide)

end MuRockchip.Clock
