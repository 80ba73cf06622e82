/-
The parameter search of the RK3399 PLLs (`CRULib.c`, `pll_para_config`).

The frequency asked for is brought into the range of the VCO by two post dividers, and the
reference is divided by each of 62 values in turn: the multiple of the divided reference that
comes closest to the VCO frequency is the one programmed. Everything is counted in kilohertz,
so that the divided reference loses up to a kilohertz, which the multiplier brings back
thousandfold.

* `searchRefdiv_chosen`: what the search finds is as close as can be.
* `Chosen.near`: it is within 800 kHz.
* `pllParaConfig_sound_iff`: for which frequencies the parameters are sound.
-/
import Mathlib.Algebra.Order.Field.Rat
import Mathlib.Data.Nat.Cast.Order.Field
import Mathlib.Data.UInt
import Mathlib.Tactic.IntervalCases
import Mathlib.Tactic.Linarith
import Mathlib.Tactic.Ring

namespace MuRockchip.Clock

/-! ### The search -/

/-- What `struct pll_div` says of the dividers. -/
structure PllDiv where
  refdiv : UInt32
  fbdiv : UInt32
  postdiv1 : UInt32
  postdiv2 : UInt32
  deriving DecidableEq, Repr

/-- How the search ends without parameters. -/
inductive PllFault
  | divisionByZero
  | noClock
  deriving DecidableEq, Repr

/-- A division of the source. -/
def udiv (n d : UInt32) : Except PllFault UInt32 :=
  if d = 0 then .error .divisionByZero else .ok (n / d)

def divRoundUp (n d : UInt32) : Except PllFault UInt32 := udiv (n + d - 1) d

/-- `OSC_HZ / KHz`. -/
def refKhz : UInt32 := 24000

def vcoMinKhz : UInt32 := 800000
def vcoMaxKhz : UInt32 := 3200000

def maxRefdiv : UInt32 := 63
def maxFbdiv : UInt32 := 3200
def minFbdiv : UInt32 := 16
def maxPostdiv1 : UInt32 := 7
def maxPostdiv2 : UInt32 := 7

/-- `best_diff_khz`, and the parameters that come that close. -/
structure Best where
  diffKhz : UInt32
  refdiv : UInt32
  fbdiv : UInt32
  deriving DecidableEq, Repr

/-- One round of the search. -/
def tryRefdiv (vcoKhz refdiv : UInt32) (best : Best) : Except PllFault Best := do
  let frefKhz ← udiv refKhz refdiv
  let fbdiv ← udiv vcoKhz frefKhz
  if maxFbdiv ≤ fbdiv ∨ fbdiv ≤ minFbdiv then .ok best
  else
    let diffKhz := vcoKhz - fbdiv * frefKhz
    let (fbdiv, diffKhz) :=
      if fbdiv + 1 < maxFbdiv ∧ frefKhz / 2 < diffKhz then (fbdiv + 1, frefKhz - diffKhz)
      else (fbdiv, diffKhz)
    if best.diffKhz ≤ diffKhz then .ok best else .ok ⟨diffKhz, refdiv, fbdiv⟩

/-- The loop over `refdiv`, for a number of rounds. -/
def searchRefdiv (vcoKhz : UInt32) : Nat → UInt32 → Best → Except PllFault Best
  | 0, _, best => .ok best
  | rounds + 1, refdiv, best =>
    if best.diffKhz = 0 then .ok best
    else do
      let best ← tryRefdiv vcoKhz refdiv best
      searchRefdiv vcoKhz rounds (refdiv + 1) best

/-- The two post dividers. -/
def splitPostdiv (freqKhz : UInt32) : Except PllFault (UInt32 × UInt32) := do
  let postdiv1 ← divRoundUp vcoMinKhz freqKhz
  if maxPostdiv1 < postdiv1 then do
    let postdiv2 ← divRoundUp postdiv1 maxPostdiv1
    let postdiv1 ← divRoundUp postdiv1 postdiv2
    .ok (postdiv1, postdiv2)
  else .ok (postdiv1, 1)

def pllParaConfig (freqHz : UInt32) (div : PllDiv) : Except PllFault PllDiv :=
  let freqKhz := freqHz / 1000
  if freqHz = 0 then .error .noClock
  else do
    let (postdiv1, postdiv2) ← splitPostdiv freqKhz
    let vcoKhz := freqKhz * postdiv1 * postdiv2
    if vcoKhz < vcoMinKhz ∨ vcoMaxKhz < vcoKhz ∨ maxPostdiv2 < postdiv2 then .error .noClock
    else do
      let best ← searchRefdiv vcoKhz (maxRefdiv - 1).toNat 1 ⟨vcoKhz, div.refdiv, div.fbdiv⟩
      if 4 * 1000 < best.diffKhz then .error .noClock
      else .ok ⟨best.refdiv, best.fbdiv, postdiv1, postdiv2⟩

example : pllParaConfig 594000000 ⟨0, 0, 0, 0⟩ = .ok ⟨2, 99, 2, 1⟩ := by decide

/-! ### What the search finds -/

/-- The divided reference, in kilohertz. -/
def fref (refdiv : Nat) : Nat := 24000 / refdiv

/-- How far two frequencies are apart. -/
def gap (freq other : Nat) : Nat := (freq - other) + (other - freq)

/-- The search tries multiples of the divided reference. -/
def Fits (vco refdiv : Nat) : Prop :=
  1 ≤ refdiv ∧ refdiv ≤ 62 ∧ 16 < vco / fref refdiv ∧ vco / fref refdiv < 3200

/-- Of the references tried before `limit` none comes closer, and none before the one found
comes as close. -/
structure Searched (vco limit : Nat) (best : Best) : Prop where
  least : ∀ refdiv < limit, Fits vco refdiv → ∀ fbdiv < 3200,
    best.diffKhz.toNat ≤ gap vco (fbdiv * fref refdiv)
  found : best.diffKhz.toNat = vco ∨
    (1 ≤ best.refdiv.toNat ∧ best.refdiv.toNat ≤ 62) ∧
    (16 < best.fbdiv.toNat ∧ best.fbdiv.toNat < 3200) ∧
    best.diffKhz.toNat = gap vco (best.fbdiv.toNat * fref best.refdiv.toNat) ∧
    ∀ refdiv < best.refdiv.toNat, Fits vco refdiv → ∀ fbdiv < 3200,
      best.diffKhz.toNat < gap vco (fbdiv * fref refdiv)

variable {refdiv vco fbdiv other : Nat} {vcoKhz freqHz : UInt32}

theorem fref_pos (positive : 1 ≤ refdiv) (small : refdiv ≤ 62) :
    387 ≤ fref refdiv ∧ fref refdiv ≤ 24000 :=
  ⟨(Nat.le_div_iff_mul_le positive).mpr (by omega), Nat.div_le_self _ _⟩

/-- The multiple a round looks at is the closest one. -/
theorem nearest (vco ref : Nat) (positive : 0 < ref) {fbdiv : Nat} (below : fbdiv < 3200) :
    let low := vco / ref
    let near := if low + 1 < 3200 ∧ ref / 2 < vco % ref then low + 1 else low
    gap vco (near * ref) =
        (if low + 1 < 3200 ∧ ref / 2 < vco % ref then ref - vco % ref else vco % ref) ∧
      gap vco (near * ref) ≤ gap vco (fbdiv * ref) := by
  intro low near
  have whole : ref * low + vco % ref = vco := Nat.div_add_mod vco ref
  have rest : vco % ref < ref := Nat.mod_lt _ positive
  have up : (low + 1) * ref = ref * low + ref := by ring
  have down : low * ref = ref * low := Nat.mul_comm _ _
  have beside : fbdiv * ref ≤ ref * low ∨ low + 1 ≤ fbdiv ∧ ref * low + ref ≤ fbdiv * ref := by
    rcases Nat.lt_or_ge fbdiv (low + 1) with under | above
    · exact Or.inl (down ▸ Nat.mul_le_mul_right ref (Nat.le_of_lt_succ under))
    · exact Or.inr ⟨above, up ▸ Nat.mul_le_mul_right ref above⟩
  unfold gap
  by_cases further : low + 1 < 3200 ∧ ref / 2 < vco % ref
  · simp only [near, if_pos further, up]
    omega
  · simp only [near, if_neg further, down]
    omega

theorem udiv_ok {n d : UInt32} (positive : 0 < d.toNat) : udiv n d = .ok (n / d) := by
  have some : d ≠ 0 := by
    rintro rfl
    exact absurd positive (by decide)
  exact if_neg some

/-- A round looks at the closest multiple of its reference. -/
theorem tryRefdiv_spec (vcoKhz : UInt32) {refdiv : UInt32} (positive : 1 ≤ refdiv.toNat)
    (small : refdiv.toNat ≤ 62) (best : Best) :
    ∃ next, tryRefdiv vcoKhz refdiv best = .ok next ∧
      (¬ Fits vcoKhz.toNat refdiv.toNat ∧ next = best ∨
        Fits vcoKhz.toNat refdiv.toNat ∧ ∃ diffKhz fbdiv : UInt32,
          (16 < fbdiv.toNat ∧ fbdiv.toNat < 3200) ∧
          diffKhz.toNat = gap vcoKhz.toNat (fbdiv.toNat * fref refdiv.toNat) ∧
          (∀ other < 3200, diffKhz.toNat ≤ gap vcoKhz.toNat (other * fref refdiv.toNat)) ∧
          next = if best.diffKhz ≤ diffKhz then best else ⟨diffKhz, refdiv, fbdiv⟩) := by
  obtain ⟨some, -⟩ := fref_pos positive small
  set ref := fref refdiv.toNat with refEq
  have frefEq : (refKhz / refdiv).toNat = ref := UInt32.toNat_div _ _
  have lowEq : (vcoKhz / (refKhz / refdiv)).toNat = vcoKhz.toNat / ref := by
    rw [UInt32.toNat_div, frefEq]
  set vco := vcoKhz.toNat
  set low := vco / ref with low_def
  have whole : low * ref + vco % ref = vco := Nat.div_add_mod' vco ref
  have rest : vco % ref < ref := Nat.mod_lt _ (by omega)
  have bound : vco < 2 ^ 32 := vcoKhz.toNat_lt
  have product : (vcoKhz / (refKhz / refdiv) * (refKhz / refdiv)).toNat = low * ref := by
    rw [UInt32.toNat_mul, lowEq, frefEq]
    exact Nat.mod_eq_of_lt (by omega)
  have diffEq : (vcoKhz - vcoKhz / (refKhz / refdiv) * (refKhz / refdiv)).toNat = vco % ref := by
    rw [UInt32.toNat_sub_of_le, product]
    · omega
    · rw [UInt32.le_iff_toNat_le, product]
      omega
  have run : tryRefdiv vcoKhz refdiv best =
      let fbdiv := vcoKhz / (refKhz / refdiv)
      if maxFbdiv ≤ fbdiv ∨ fbdiv ≤ minFbdiv then .ok best
      else
        let diffKhz := vcoKhz - fbdiv * (refKhz / refdiv)
        let (fbdiv, diffKhz) :=
          if fbdiv + 1 < maxFbdiv ∧ refKhz / refdiv / 2 < diffKhz then
            (fbdiv + 1, refKhz / refdiv - diffKhz)
          else (fbdiv, diffKhz)
        if best.diffKhz ≤ diffKhz then .ok best else .ok ⟨diffKhz, refdiv, fbdiv⟩ := by
    rw [tryRefdiv, udiv_ok positive]
    show (do let fbdiv ← udiv vcoKhz (refKhz / refdiv); _) = _
    rw [udiv_ok (by omega)]
    rfl
  have skip : (maxFbdiv ≤ vcoKhz / (refKhz / refdiv) ∨ vcoKhz / (refKhz / refdiv) ≤ minFbdiv) ↔
      ¬ Fits vco refdiv.toNat := by
    rw [UInt32.le_iff_toNat_le, UInt32.le_iff_toNat_le, lowEq, Fits]
    show 3200 ≤ low ∨ low ≤ 16 ↔ _
    simp only [← refEq, ← low_def, positive, small, true_and]
    omega
  by_cases fits : Fits vco refdiv.toNat
  · have inRange : 16 < low ∧ low < 3200 := fits.2.2
    have further : (vcoKhz / (refKhz / refdiv) + 1 < maxFbdiv ∧
        refKhz / refdiv / 2 < vcoKhz - vcoKhz / (refKhz / refdiv) * (refKhz / refdiv)) ↔
        low + 1 < 3200 ∧ ref / 2 < vco % ref := by
      rw [UInt32.lt_iff_toNat_lt, UInt32.lt_iff_toNat_lt, diffEq, UInt32.toNat_div, frefEq,
        UInt32.toNat_add, lowEq]
      show (low + 1) % 2 ^ 32 < 3200 ∧ ref / 2 < vco % ref ↔ _
      rw [Nat.mod_eq_of_lt (by omega)]
    have noSkip := mt skip.mp (not_not.mpr fits)
    rw [run]
    simp only [if_neg noSkip]
    have near := @nearest vco ref (by omega)
    have self := (@near 0 (by decide)).1
    by_cases up : low + 1 < 3200 ∧ ref / 2 < vco % ref
    · simp only [if_pos (further.mpr up)]
      simp only [← low_def, if_pos up] at self near
      have next : (vcoKhz / (refKhz / refdiv) + 1).toNat = low + 1 := by
        rw [UInt32.toNat_add, lowEq]
        show (low + 1) % 2 ^ 32 = low + 1
        exact Nat.mod_eq_of_lt (by omega)
      have diff : (refKhz / refdiv - (vcoKhz - vcoKhz / (refKhz / refdiv) *
          (refKhz / refdiv))).toNat = ref - vco % ref := by
        rw [UInt32.toNat_sub_of_le, diffEq, frefEq]
        rw [UInt32.le_iff_toNat_le, diffEq, frefEq]
        exact rest.le
      refine ⟨_, (apply_ite Except.ok _ _ _).symm, Or.inr ⟨fits, _, _, ?_, ?_, ?_, rfl⟩⟩
      · rw [next]
        omega
      · rw [next, diff, self]
      · intro other below
        rw [diff, ← self]
        exact (near below).2
    · simp only [if_neg (mt further.mp up)]
      simp only [← low_def, if_neg up] at self near
      refine ⟨_, (apply_ite Except.ok _ _ _).symm, Or.inr ⟨fits, _, _, ?_, ?_, ?_, rfl⟩⟩
      · rw [lowEq]
        exact inRange
      · rw [lowEq, diffEq, self]
      · intro other below
        rw [diffEq, ← self]
        exact (near below).2
  · refine ⟨best, ?_, Or.inl ⟨fits, rfl⟩⟩
    rw [run]
    exact if_pos (skip.mpr fits)

/-- A round of the search goes on with what is least so far. -/
theorem Searched.round {refdiv : UInt32} {best : Best} (positive : 1 ≤ refdiv.toNat)
    (small : refdiv.toNat ≤ 62) (searched : Searched vcoKhz.toNat refdiv.toNat best) :
    ∃ next, tryRefdiv vcoKhz refdiv best = .ok next ∧
      Searched vcoKhz.toNat (refdiv.toNat + 1) next := by
  obtain ⟨next, run, result⟩ := tryRefdiv_spec vcoKhz positive small best
  refine ⟨next, run, ?_⟩
  rcases result with ⟨misfit, rfl⟩ | ⟨fits, diff, fbdiv, range, near, least, rfl⟩
  · refine ⟨fun other below fits fbdiv inside => ?_, searched.found⟩
    rcases Nat.lt_succ_iff_lt_or_eq.mp below with earlier | rfl
    · exact searched.least other earlier fits fbdiv inside
    · exact absurd fits misfit
  · by_cases closer : best.diffKhz ≤ diff
    · rw [if_pos closer]
      rw [UInt32.le_iff_toNat_le] at closer
      refine ⟨fun other below fits fbdiv inside => ?_, searched.found⟩
      rcases Nat.lt_succ_iff_lt_or_eq.mp below with earlier | rfl
      · exact searched.least other earlier fits fbdiv inside
      · exact closer.trans (least fbdiv inside)
    · rw [if_neg closer]
      rw [UInt32.le_iff_toNat_le, Nat.not_le] at closer
      refine ⟨fun other below fits fbdiv inside => ?_, Or.inr ⟨⟨positive, small⟩, range, near, ?_⟩⟩
      · rcases Nat.lt_succ_iff_lt_or_eq.mp below with earlier | rfl
        · exact closer.le.trans (searched.least other earlier fits fbdiv inside)
        · exact least fbdiv inside
      · exact fun other earlier fits fbdiv inside =>
          closer.trans_le (searched.least other earlier fits fbdiv inside)

theorem searchRefdiv_searched (rounds : Nat) {refdiv : UInt32} {best : Best}
    (all : refdiv.toNat + rounds = 63) (positive : 1 ≤ refdiv.toNat)
    (searched : Searched vcoKhz.toNat refdiv.toNat best) :
    ∃ final, searchRefdiv vcoKhz rounds refdiv best = .ok final ∧
      Searched vcoKhz.toNat 63 final := by
  induction rounds generalizing refdiv best with
  | zero =>
    rw [Nat.add_zero] at all
    exact ⟨best, rfl, all ▸ searched⟩
  | succ rounds ih =>
    by_cases exactly : best.diffKhz = 0
    · refine ⟨best, if_pos exactly, fun other below fits fbdiv inside => ?_, searched.found⟩
      rw [exactly]
      exact Nat.zero_le _
    · obtain ⟨next, run, searched'⟩ := searched.round positive (by omega)
      have successor : (refdiv + 1).toNat = refdiv.toNat + 1 := by
        rw [UInt32.toNat_add]
        show (refdiv.toNat + 1) % 2 ^ 32 = refdiv.toNat + 1
        exact Nat.mod_eq_of_lt (by omega)
      obtain ⟨final, rest, whole⟩ :=
        ih (by omega) (by omega) (successor.symm ▸ searched' : Searched _ (refdiv + 1).toNat next)
      refine ⟨final, ?_, whole⟩
      rw [searchRefdiv, if_neg exactly, run]
      exact rest

/-- What the search finds: a multiple of a divided reference that no other comes closer than,
and none of a smaller divider as close. -/
structure Chosen (vco refdiv fbdiv : Nat) : Prop where
  refdiv_range : 1 ≤ refdiv ∧ refdiv ≤ 62
  fbdiv_range : 16 < fbdiv ∧ fbdiv < 3200
  least : ∀ other, Fits vco other → ∀ multiple < 3200,
    gap vco (fbdiv * fref refdiv) ≤ gap vco (multiple * fref other)
  first : ∀ other < refdiv, Fits vco other → ∀ multiple < 3200,
    gap vco (fbdiv * fref refdiv) < gap vco (multiple * fref other)

theorem fits_one (above : 800000 ≤ vco) (below : vco ≤ 3200000) : Fits vco 1 := by
  refine ⟨by decide, by decide, ?_⟩
  show 16 < vco / 24000 ∧ vco / 24000 < 3200
  omega

/-- The search finds parameters for every frequency of the VCO. -/
theorem searchRefdiv_chosen (above : 800000 ≤ vcoKhz.toNat) (below : vcoKhz.toNat ≤ 3200000)
    (refdiv fbdiv : UInt32) :
    ∃ best, searchRefdiv vcoKhz (maxRefdiv - 1).toNat 1 ⟨vcoKhz, refdiv, fbdiv⟩ = .ok best ∧
      Chosen vcoKhz.toNat best.refdiv.toNat best.fbdiv.toNat ∧
      best.diffKhz.toNat = gap vcoKhz.toNat (best.fbdiv.toNat * fref best.refdiv.toNat) := by
  have initial : Searched vcoKhz.toNat (1 : UInt32).toNat ⟨vcoKhz, refdiv, fbdiv⟩ := by
    refine ⟨fun other early fits => ?_, Or.inl rfl⟩
    have positive := fits.1
    change other < 1 at early
    omega
  obtain ⟨best, run, searched⟩ := searchRefdiv_searched (maxRefdiv - 1).toNat rfl
    (by decide) initial
  refine ⟨best, run, ?_⟩
  have closer := searched.least 1 (by decide) (fits_one above below) 33 (by decide)
  have near : gap vcoKhz.toNat (33 * fref 1) < vcoKhz.toNat := by
    show (vcoKhz.toNat - 792000) + (792000 - vcoKhz.toNat) < vcoKhz.toNat
    omega
  rcases searched.found with start | ⟨refdivs, fbdivs, diff, first⟩
  · omega
  · refine ⟨⟨refdivs, fbdivs, ?_, ?_⟩, diff⟩
    · intro other fits multiple inside
      rw [← diff]
      exact searched.least other (by have := fits.2.1; omega) fits multiple inside
    · intro other earlier fits multiple inside
      rw [← diff]
      exact first other earlier fits multiple inside

/-! ### How fast the VCO runs -/

/-- The frequencies whose parameters take the VCO above its range. -/
def Overshoots (freqKhz : Nat) : Prop :=
  3198031 ≤ freqKhz ∧ freqKhz ≤ 3198191 ∨ 3198569 ≤ freqKhz ∧ freqKhz ≤ 3198940 ∨
    3199135 ≤ freqKhz ∧ freqKhz ≤ 3199164 ∨ 3199514 ≤ freqKhz ∧ freqKhz ≤ 3199961

instance (freqKhz : Nat) : Decidable (Overshoots freqKhz) :=
  inferInstanceAs (Decidable (_ ∨ _ ∨ _ ∨ _))

theorem fits_coarse (above : 800000 ≤ vco) (below : vco < 3200000) (positive : 1 ≤ refdiv)
    (small : refdiv ≤ 24) : Fits vco refdiv := by
  have fine : 1000 ≤ fref refdiv := (Nat.le_div_iff_mul_le positive).mpr (by omega)
  have coarse : fref refdiv ≤ 24000 := Nat.div_le_self _ _
  refine ⟨positive, by omega, ?_, ?_⟩
  · exact (Nat.le_div_iff_mul_le (by omega)).mpr (by omega)
  · exact (Nat.div_lt_iff_lt_mul (by omega)).mpr (by omega)

theorem fits_three (above : 800000 ≤ vco) (below : vco ≤ 3200000) : Fits vco 3 := by
  refine ⟨by decide, by decide, ?_⟩
  show 16 < vco / 8000 ∧ vco / 8000 < 3200
  omega

theorem Chosen.limits (chosen : Chosen vco refdiv fbdiv) (above : 800000 ≤ vco)
    (below : vco ≤ 3200000) :
    800000 ≤ fbdiv * fref refdiv ∧ fbdiv * fref refdiv ≤ 3200000 := by
  have low := chosen.least 3 (fits_three above below) 100 (by decide)
  have high := chosen.least 3 (fits_three above below) 400 (by decide)
  generalize fbdiv * fref refdiv = found at low high ⊢
  simp only [gap, show fref 3 = 8000 from rfl] at low high
  omega

/-- The reference divided by fifteen has a multiple within 800 kHz. -/
theorem Chosen.near {vco refdiv fbdiv : Nat} (chosen : Chosen vco refdiv fbdiv)
    (above : 800000 ≤ vco) (below : vco ≤ 3200000) :
    gap vco (fbdiv * fref refdiv) ≤ 800 := by
  have fits : Fits vco 15 := by
    refine ⟨by decide, by decide, ?_⟩
    show 16 < vco / 1600 ∧ vco / 1600 < 3200
    omega
  refine (chosen.least 15 fits ((vco + 800) / 1600) (by omega)).trans ?_
  simp only [gap, show fref 15 = 1600 from rfl]
  omega

/-- The parameters whose reference loses so much that the exact VCO is above its range. -/
theorem Chosen.faster (chosen : Chosen vco refdiv fbdiv) (above : 800000 ≤ vco)
    (below : vco ≤ 3200000) (fast : 400 * refdiv < 3 * fbdiv) :
    (refdiv = 22 ∧ fbdiv = 2934) ∨ (refdiv = 17 ∧ fbdiv = 2267) ∨
      (refdiv = 21 ∧ fbdiv = 2801) ∨ (refdiv = 23 ∧ fbdiv = 3067) ∨
      (refdiv = 22 ∧ fbdiv = 2935) ∨ (refdiv = 11 ∧ fbdiv = 1467) ∨
      (refdiv = 21 ∧ fbdiv = 2802) ∨ (refdiv = 23 ∧ fbdiv = 3068) := by
  obtain ⟨positive, -⟩ := chosen.refdiv_range
  obtain ⟨-, small⟩ := chosen.fbdiv_range
  obtain ⟨-, limit⟩ := chosen.limits above below
  have coarse : refdiv ≤ 23 := by omega
  clear chosen
  interval_cases refdiv <;> simp only [fref, Nat.reduceDiv] at limit <;> omega

/-- The frequency is beyond the middle to any multiple on its left. -/
theorem Chosen.left (chosen : Chosen vco refdiv fbdiv) (fits : Fits vco other) (multiple : Nat)
    (small : multiple < 3200) (left : multiple * fref other < fbdiv * fref refdiv) :
    multiple * fref other + fbdiv * fref refdiv ≤ 2 * vco ∧
      (other < refdiv → multiple * fref other + fbdiv * fref refdiv < 2 * vco) := by
  have least := chosen.least other fits multiple small
  have first := fun earlier => chosen.first other earlier fits multiple small
  unfold gap at least first
  refine ⟨by omega, fun earlier => ?_⟩
  have closer := first earlier
  omega

/-- The frequency is before the middle to any multiple on its right. -/
theorem Chosen.right (chosen : Chosen vco refdiv fbdiv) (fits : Fits vco other) (multiple : Nat)
    (small : multiple < 3200) (right : fbdiv * fref refdiv < multiple * fref other) :
    2 * vco ≤ fbdiv * fref refdiv + multiple * fref other ∧
      (other < refdiv → 2 * vco < fbdiv * fref refdiv + multiple * fref other) := by
  have least := chosen.least other fits multiple small
  have first := fun earlier => chosen.first other earlier fits multiple small
  unfold gap at least first
  refine ⟨by omega, fun earlier => ?_⟩
  have closer := first earlier
  omega

/-- Each of them is chosen between the multiples that other references have beside it. -/
theorem Chosen.overshoots (chosen : Chosen vco refdiv fbdiv) (above : 800000 ≤ vco)
    (below : vco ≤ 3200000) (fast : 400 * refdiv < 3 * fbdiv) :
    Overshoots vco := by
  have faster := chosen.faster above below fast
  have inside : vco < 3200000 := by
    have top := chosen.least 3 (fits_three above below) 400 (by decide)
    rcases faster with ⟨rfl, rfl⟩ | ⟨rfl, rfl⟩ | ⟨rfl, rfl⟩ | ⟨rfl, rfl⟩ | ⟨rfl, rfl⟩ |
      ⟨rfl, rfl⟩ | ⟨rfl, rfl⟩ | ⟨rfl, rfl⟩ <;>
    simp only [gap, fref, Nat.reduceDiv, Nat.reduceMul] at top <;> omega
  have fits (other : Nat) (positive : 1 ≤ other) (small : other ≤ 24) : Fits vco other :=
    fits_coarse above inside positive small
  have between (left right : Nat × Nat)
      (leftOf : (1 ≤ left.1 ∧ left.1 ≤ 24 ∧ left.2 < 3200) ∧
        left.2 * fref left.1 < fbdiv * fref refdiv)
      (rightOf : (1 ≤ right.1 ∧ right.1 ≤ 24 ∧ right.2 < 3200) ∧
        fbdiv * fref refdiv < right.2 * fref right.1) :=
    And.intro
      (chosen.left (fits left.1 leftOf.1.1 leftOf.1.2.1) left.2 leftOf.1.2.2 leftOf.2)
      (chosen.right (fits right.1 rightOf.1.1 rightOf.1.2.1) right.2 rightOf.1.2.2 rightOf.2)
  unfold Overshoots
  rcases faster with ⟨rfl, rfl⟩ | ⟨rfl, rfl⟩ | ⟨rfl, rfl⟩ | ⟨rfl, rfl⟩ | ⟨rfl, rfl⟩ |
    ⟨rfl, rfl⟩ | ⟨rfl, rfl⟩ | ⟨rfl, rfl⟩
  · have beside := between (4, 533) (7, 933) (by decide) (by decide)
    norm_num [fref] at beside
    omega
  · have beside := between (15, 1999) (21, 2801) (by decide) (by decide)
    norm_num [fref] at beside
    omega
  · have beside := between (17, 2267) (23, 3067) (by decide) (by decide)
    norm_num [fref] at beside
    omega
  · have beside := between (21, 2801) (24, 3199) (by decide) (by decide)
    norm_num [fref] at beside
    omega
  · have beside := between (13, 1733) (19, 2533) (by decide) (by decide)
    norm_num [fref] at beside
    omega
  · have beside := between (16, 2133) (21, 2802) (by decide) (by decide)
    norm_num [fref] at beside
    omega
  · have beside := between (11, 1467) (23, 3068) (by decide) (by decide)
    norm_num [fref] at beside
    omega
  · have beside := between (21, 2802) (3, 400) (by decide) (by decide)
    norm_num [fref] at beside
    omega

/-- Where no multiple of a divided reference is whose exact VCO is in its range. -/
theorem fast_of_found {found : Nat} (foundEq : fbdiv * fref refdiv = found) (positive : 1 ≤ refdiv)
    (coarse : refdiv ≤ 24)
    (inside : 3198002 ≤ found ∧ found ≤ 3198322 ∨ 3198401 ≤ found ∧ found ≤ 3198999 ∨
      3199120 ≤ found ∧ found ≤ 3199178 ∨ 3199501 ≤ found ∧ found ≤ 3199998) :
    400 * refdiv < 3 * fbdiv := by
  interval_cases refdiv <;> simp only [fref, Nat.reduceDiv] at foundEq <;> omega

theorem between_of_gap {found low high : Nat} (closer : gap vco found ≤ gap vco other)
    (above : low ≤ vco ∧ low ≤ other) (below : vco ≤ high ∧ other ≤ high) :
    2 * low ≤ found + other ∧ found + other ≤ 2 * high := by
  unfold gap at closer
  omega

/-- What comes closer to these frequencies than the parameters chosen is out of range too. -/
theorem Chosen.fast (chosen : Chosen vco refdiv fbdiv)
    (overshoots : Overshoots vco) : 400 * refdiv < 3 * fbdiv := by
  have inside : 3198031 ≤ vco ∧ vco ≤ 3199961 := by
    unfold Overshoots at overshoots
    omega
  have near := chosen.near (by omega) (by omega)
  generalize foundEq : fbdiv * fref refdiv = found at near
  have coarse : refdiv ≤ 24 := by
    have fine : 1000 ≤ fref refdiv := by
      by_contra under
      have short : fbdiv * fref refdiv ≤ 3199 * 999 :=
        Nat.mul_le_mul (by have := chosen.fbdiv_range; omega) (by omega)
      unfold gap at near
      omega
    have bound := (Nat.le_div_iff_mul_le chosen.refdiv_range.1).mp fine
    omega
  have closer (other : Nat × Nat) (range : 1 ≤ other.1 ∧ other.1 ≤ 24 ∧ other.2 < 3200) :
      gap vco found ≤ gap vco (other.2 * fref other.1) :=
    foundEq ▸ chosen.least other.1 (fits_coarse (by omega) (by omega) range.1 range.2.1)
      other.2 range.2.2
  refine fast_of_found foundEq chosen.refdiv_range.1 coarse ?_
  have pieces : vco ≤ 3198191 ∨ 3198569 ≤ vco ∧ vco ≤ 3198739 ∨
      3198740 ≤ vco ∧ vco ≤ 3198811 ∨ 3198812 ≤ vco ∧ vco ≤ 3198940 ∨
      3199135 ≤ vco ∧ vco ≤ 3199164 ∨ 3199514 ≤ vco ∧ vco ≤ 3199705 ∨
      3199706 ≤ vco ∧ vco ≤ 3199904 ∨ 3199905 ≤ vco := by
    unfold Overshoots at overshoots
    omega
  rcases pieces with below | piece | piece | piece | piece | piece | piece | above
  · have range := between_of_gap (closer (22, 2934) (by decide)) ⟨inside.1, by decide⟩
      ⟨below, by decide⟩
    simp only [fref, Nat.reduceDiv, Nat.reduceMul] at range
    omega
  · have range := between_of_gap (closer (17, 2267) (by decide)) ⟨piece.1, by decide⟩
      ⟨piece.2, by decide⟩
    simp only [fref, Nat.reduceDiv, Nat.reduceMul] at range
    omega
  · have range := between_of_gap (closer (21, 2801) (by decide)) ⟨piece.1, by decide⟩
      ⟨piece.2, by decide⟩
    simp only [fref, Nat.reduceDiv, Nat.reduceMul] at range
    omega
  · have range := between_of_gap (closer (23, 3067) (by decide)) ⟨piece.1, by decide⟩
      ⟨piece.2, by decide⟩
    simp only [fref, Nat.reduceDiv, Nat.reduceMul] at range
    omega
  · have range := between_of_gap (closer (22, 2935) (by decide)) ⟨piece.1, by decide⟩
      ⟨piece.2, by decide⟩
    simp only [fref, Nat.reduceDiv, Nat.reduceMul] at range
    omega
  · have range := between_of_gap (closer (11, 1467) (by decide)) ⟨piece.1, by decide⟩
      ⟨piece.2, by decide⟩
    simp only [fref, Nat.reduceDiv, Nat.reduceMul] at range
    omega
  · have range := between_of_gap (closer (21, 2802) (by decide)) ⟨piece.1, by decide⟩
      ⟨piece.2, by decide⟩
    simp only [fref, Nat.reduceDiv, Nat.reduceMul] at range
    omega
  · have range := between_of_gap (closer (23, 3068) (by decide)) ⟨above, by decide⟩
      ⟨inside.2, by decide⟩
    simp only [fref, Nat.reduceDiv, Nat.reduceMul] at range
    omega

/-! ### The post dividers -/

theorem divRoundUp_toNat {n d : UInt32} (positive : 0 < d.toNat)
    (small : n.toNat + d.toNat < 2 ^ 32) :
    ∃ quotient, divRoundUp n d = .ok quotient ∧
      quotient.toNat = (n.toNat + d.toNat - 1) / d.toNat := by
  refine ⟨_, udiv_ok positive, ?_⟩
  have sum : (n + d).toNat = n.toNat + d.toNat := by
    rw [UInt32.toNat_add, Nat.mod_eq_of_lt small]
  rw [UInt32.toNat_div, UInt32.toNat_sub_of_le, sum]
  · rfl
  · rw [UInt32.le_iff_toNat_le, sum]
    show 1 ≤ _
    omega

/-- A quotient that is rounded up. -/
theorem ceil_bounds (n : Nat) {d : Nat} (positive : 0 < d) :
    n ≤ (n + d - 1) / d * d ∧ (n + d - 1) / d * d < n + d := by
  have whole := Nat.div_add_mod' (n + d - 1) d
  have rest := Nat.mod_lt (n + d - 1) positive
  omega

/-- What the post dividers do to the frequency asked for. -/
theorem splitPostdiv_spec {freqKhz : UInt32} (positive : 1 ≤ freqKhz.toNat)
    (small : freqKhz.toNat ≤ 4294967) :
    ∃ postdiv1 postdiv2, splitPostdiv freqKhz = .ok (postdiv1, postdiv2) ∧
      (1 ≤ postdiv1.toNat ∧ postdiv1.toNat ≤ 7) ∧ 1 ≤ postdiv2.toNat ∧
      (800000 ≤ freqKhz.toNat → postdiv1 = 1 ∧ postdiv2 = 1) ∧
      (freqKhz.toNat < 800000 → postdiv2.toNat ≤ 7 →
        freqKhz.toNat * postdiv1.toNat * postdiv2.toNat < 1600000) := by
  set freq := freqKhz.toNat
  obtain ⟨first, run, firstEq⟩ := @divRoundUp_toNat vcoMinKhz freqKhz positive
    (by show 800000 + freq < _; omega)
  obtain ⟨enough, least⟩ := ceil_bounds vcoMinKhz.toNat positive
  rw [← firstEq] at enough least
  change 800000 ≤ first.toNat * freq at enough
  change first.toNat * freq < 800000 + freq at least
  have some : 1 ≤ first.toNat := by
    by_contra none
    rw [show first.toNat = 0 by omega] at enough
    omega
  have fast (high : 800000 ≤ freq) : first = 1 := by
    refine UInt32.toNat_inj.mp (Nat.le_antisymm ?_ some)
    show first.toNat ≤ 1
    by_contra more
    have twice : 2 * freq ≤ first.toNat * freq := Nat.mul_le_mul_right freq (by omega)
    omega
  have splitEq : splitPostdiv freqKhz = if maxPostdiv1 < first then do
        let postdiv2 ← divRoundUp first maxPostdiv1
        let postdiv1 ← divRoundUp first postdiv2
        .ok (postdiv1, postdiv2)
      else .ok (first, 1) := by
    rw [splitPostdiv, run]
    rfl
  by_cases large : maxPostdiv1 < first
  · have large' : 8 ≤ first.toNat := UInt32.lt_iff_toNat_lt.mp large
    have narrow : (first.toNat - 1) * freq < 800000 := by
      rw [Nat.sub_mul]
      omega
    have few : first.toNat ≤ 800000 := by
      have bound : (first.toNat - 1) * 1 ≤ (first.toNat - 1) * freq :=
        Nat.mul_le_mul_left _ positive
      omega
    obtain ⟨second, run2, secondEq⟩ := @divRoundUp_toNat first maxPostdiv1 (by decide)
      (by show _ + 7 < _; omega)
    change second.toNat = (first.toNat + 7 - 1) / 7 at secondEq
    have some2 : 2 ≤ second.toNat := by omega
    obtain ⟨third, run3, thirdEq⟩ := @divRoundUp_toNat first second (by omega) (by omega)
    obtain ⟨covers, tight⟩ := @ceil_bounds first.toNat second.toNat (by omega)
    rw [← thirdEq] at covers tight
    refine ⟨third, second, ?_, ⟨?_, ?_⟩, by omega, fun high => ?_, fun low inRange => ?_⟩
    · rw [splitEq, if_pos large, run2]
      show (do let postdiv1 ← divRoundUp first second; _) = _
      rw [run3]
      rfl
    · by_contra none
      rw [show third.toNat = 0 by omega] at covers
      omega
    · by_contra more
      have eight : 8 * second.toNat ≤ third.toNat * second.toNat :=
        Nat.mul_le_mul_right _ (by omega)
      omega
    · rw [fast high] at large'
      exact absurd large' (by decide)
    · have slow : 7 * freq ≤ (first.toNat - 1) * freq := Nat.mul_le_mul_right freq (by omega)
      calc freq * third.toNat * second.toNat
          = third.toNat * second.toNat * freq := by ring
        _ ≤ (first.toNat + 6) * freq := Nat.mul_le_mul_right freq (by omega)
        _ = first.toNat * freq + 6 * freq := Nat.add_mul _ _ _
        _ < 1600000 := by omega
  · have short : first.toNat ≤ 7 := by
      have := mt UInt32.lt_iff_toNat_lt.mpr large
      exact Nat.not_lt.mp this
    refine ⟨first, 1, splitEq.trans (if_neg large), ⟨some, short⟩, Nat.le_refl _,
      fun high => ⟨fast high, rfl⟩, fun low _ => ?_⟩
    show freq * first.toNat * 1 < _
    rw [Nat.mul_one, Nat.mul_comm]
    omega

/-! ### Sound parameters -/

/-- The VCO in hertz, of a reference of 24 MHz. -/
def vcoHz (div : PllDiv) : Rat := 24000000 / div.refdiv.toNat * div.fbdiv.toNat

/-- The output in hertz. -/
def outputHz (div : PllDiv) : Rat :=
  24000000 * div.fbdiv.toNat / (div.refdiv.toNat * div.postdiv1.toNat * div.postdiv2.toNat)

/-- The parameters are programmable and within the limits, and give the frequency. -/
structure Sound (freqHz : UInt32) (div : PllDiv) : Prop where
  refdiv_range : 1 ≤ div.refdiv.toNat ∧ div.refdiv.toNat ≤ 63
  fbdiv_range : 16 ≤ div.fbdiv.toNat ∧ div.fbdiv.toNat ≤ 3200
  postdiv1_range : 1 ≤ div.postdiv1.toNat ∧ div.postdiv1.toNat ≤ 7
  postdiv2_range : 1 ≤ div.postdiv2.toNat ∧ div.postdiv2.toNat ≤ 7
  vco_range : 800000000 ≤ vcoHz div ∧ vcoHz div ≤ 3200000000
  accurate : freqHz.toNat - 4000000 ≤ outputHz div ∧ outputHz div ≤ freqHz.toNat + 4000000

def SoundResult (freqHz : UInt32) : Except PllFault PllDiv → Prop
  | .error .divisionByZero => False
  | .error .noClock => True
  | .ok div => Sound freqHz div

/-- What the divided reference loses of the exact one. -/
theorem fref_exact (positive : 1 ≤ refdiv) :
    (fref refdiv : Rat) ≤ 24000 / refdiv ∧ (24000 / refdiv : Rat) < fref refdiv + 1 := by
  have some : (0 : Rat) < refdiv := by exact_mod_cast positive
  constructor
  · exact_mod_cast @Nat.cast_div_le Rat _ _ _ 24000 refdiv
  · rw [div_lt_iff₀ some]
    exact_mod_cast Nat.lt_mul_of_div_lt (Nat.lt_succ_self (24000 / refdiv)) positive

theorem Chosen.vco_exact {div : PllDiv} (chosen : Chosen vco div.refdiv.toNat div.fbdiv.toNat) :
    (div.fbdiv.toNat * fref div.refdiv.toNat : Rat) * 1000 ≤ vcoHz div ∧
      vcoHz div < (div.fbdiv.toNat * fref div.refdiv.toNat + div.fbdiv.toNat : Rat) * 1000 := by
  obtain ⟨least, less⟩ := fref_exact chosen.refdiv_range.1
  have some : (0 : Rat) < div.fbdiv.toNat := by
    have := chosen.fbdiv_range.1
    exact_mod_cast (show 0 < div.fbdiv.toNat by omega)
  have split : vcoHz div = div.fbdiv.toNat * (24000 / div.refdiv.toNat) * 1000 := by
    rw [vcoHz]
    ring
  rw [split]
  constructor
  · nlinarith
  · nlinarith

theorem Chosen.sound_iff {div : PllDiv} {freqKhz : Nat}
    (chosen : Chosen vco div.refdiv.toNat div.fbdiv.toNat) (freq : freqKhz = freqHz.toNat / 1000)
    (vcoEq : vco = freqKhz * div.postdiv1.toNat * div.postdiv2.toNat) (above : 800000 ≤ vco)
    (below : vco ≤ 3200000) (postdiv1_range : 1 ≤ div.postdiv1.toNat ∧ div.postdiv1.toNat ≤ 7)
    (postdiv2_range : 1 ≤ div.postdiv2.toNat ∧ div.postdiv2.toNat ≤ 7) :
    Sound freqHz div ↔ ¬ Overshoots vco := by
  have some : (0 : Rat) < div.refdiv.toNat := by exact_mod_cast chosen.refdiv_range.1
  have inRange : vcoHz div ≤ 3200000000 ↔ ¬ 400 * div.refdiv.toNat < 3 * div.fbdiv.toNat := by
    have exact : 3 * div.fbdiv.toNat ≤ 400 * div.refdiv.toNat ↔
        (3 * div.fbdiv.toNat : Rat) ≤ 400 * div.refdiv.toNat := by
      exact_mod_cast Iff.rfl
    rw [vcoHz, div_mul_eq_mul_div, div_le_iff₀ some, Nat.not_lt, exact]
    constructor <;> intro le <;> linarith
  constructor
  · exact fun sound overshoots => inRange.mp sound.vco_range.2 (chosen.fast overshoots)
  · intro within
    obtain ⟨least, less⟩ := chosen.vco_exact
    have limit : (800000 : Rat) ≤ div.fbdiv.toNat * fref div.refdiv.toNat := by
      exact_mod_cast (chosen.limits above below).1
    have near := chosen.near above below
    generalize foundEq : div.fbdiv.toNat * fref div.refdiv.toNat = found at near
    have castEq : (div.fbdiv.toNat * fref div.refdiv.toNat : Rat) = found := by
      exact_mod_cast foundEq
    rw [castEq] at least less limit
    have low : (vco : Rat) ≤ found + 800 := by
      unfold gap at near
      exact_mod_cast (show vco ≤ found + 800 by omega)
    have high : (found : Rat) ≤ vco + 800 := by
      unfold gap at near
      exact_mod_cast (show found ≤ vco + 800 by omega)
    have small : (div.fbdiv.toNat : Rat) ≤ 3199 := by
      exact_mod_cast Nat.le_of_lt_succ chosen.fbdiv_range.2
    set post : Nat := div.postdiv1.toNat * div.postdiv2.toNat with postEq
    have somePost : 1 ≤ post := Nat.mul_pos postdiv1_range.1 postdiv2_range.1
    have somePost' : (1 : Rat) ≤ post := by exact_mod_cast somePost
    have vcoEq' : (vco : Rat) = freqKhz * post := by
      rw [vcoEq, Nat.mul_assoc]
      exact_mod_cast rfl
    have floor : (freqKhz : Rat) * 1000 ≤ freqHz.toNat := by
      exact_mod_cast (show freqKhz * 1000 ≤ freqHz.toNat by omega)
    have ceil : (freqHz.toNat : Rat) ≤ freqKhz * 1000 + 999 := by
      exact_mod_cast (show freqHz.toNat ≤ freqKhz * 1000 + 999 by omega)
    have output : outputHz div = vcoHz div / post := by
      rw [outputHz, vcoHz, postEq, Nat.cast_mul]
      ring
    refine ⟨⟨chosen.refdiv_range.1, by have := chosen.refdiv_range.2; omega⟩,
      ⟨chosen.fbdiv_range.1.le, chosen.fbdiv_range.2.le⟩, postdiv1_range, postdiv2_range,
      ⟨by linarith, inRange.mpr (mt (chosen.overshoots above below) within)⟩, ?_⟩
    rw [output, le_div_iff₀ (by linarith), div_le_iff₀ (by linarith)]
    constructor
    · nlinarith
    · nlinarith

/-- What the post dividers and the search make of a frequency of a kilohertz at least. -/
theorem pllParaConfig_spec (large : 1000 ≤ freqHz.toNat) (div : PllDiv) :
    ∃ result, pllParaConfig freqHz div = result ∧
      (result = .error .noClock ∧ ¬ Overshoots (freqHz.toNat / 1000) ∨
        ∃ found vco, result = .ok found ∧
          Chosen vco found.refdiv.toNat found.fbdiv.toNat ∧
          vco = freqHz.toNat / 1000 * found.postdiv1.toNat * found.postdiv2.toNat ∧
          (800000 ≤ vco ∧ vco ≤ 3200000) ∧
          (1 ≤ found.postdiv1.toNat ∧ found.postdiv1.toNat ≤ 7) ∧
          (1 ≤ found.postdiv2.toNat ∧ found.postdiv2.toNat ≤ 7) ∧
          (Overshoots vco ↔ Overshoots (freqHz.toNat / 1000))) := by
  have khz : (freqHz / 1000).toNat = freqHz.toNat / 1000 := UInt32.toNat_div _ _
  have bound := freqHz.toNat_lt
  set freq := freqHz.toNat / 1000
  obtain ⟨postdiv1, postdiv2, split, range1, some2, fast, slow⟩ :=
    @splitPostdiv_spec (freqHz / 1000) (by omega) (by omega)
  rw [khz] at fast slow
  have nonzero : freqHz ≠ 0 := by
    rintro rfl
    exact absurd large (by decide)
  have run : pllParaConfig freqHz div =
      let vcoKhz := freqHz / 1000 * postdiv1 * postdiv2
      if vcoKhz < vcoMinKhz ∨ vcoMaxKhz < vcoKhz ∨ maxPostdiv2 < postdiv2 then .error .noClock
      else (do
        let best ← searchRefdiv vcoKhz (maxRefdiv - 1).toNat 1 ⟨vcoKhz, div.refdiv, div.fbdiv⟩
        if 4 * 1000 < best.diffKhz then .error .noClock
        else .ok ⟨best.refdiv, best.fbdiv, postdiv1, postdiv2⟩) := by
    rw [pllParaConfig, if_neg nonzero, split]
    rfl
  refine ⟨_, rfl, ?_⟩
  rw [run]
  by_cases refused : freqHz / 1000 * postdiv1 * postdiv2 < vcoMinKhz ∨
      vcoMaxKhz < freqHz / 1000 * postdiv1 * postdiv2 ∨ maxPostdiv2 < postdiv2
  · refine Or.inl ⟨if_pos refused, fun overshoots => ?_⟩
    have high : 3198031 ≤ freq ∧ freq ≤ 3199961 := by
      unfold Overshoots at overshoots
      omega
    obtain ⟨rfl, rfl⟩ := fast (by omega)
    rw [UInt32.mul_one, UInt32.mul_one, UInt32.lt_iff_toNat_lt, UInt32.lt_iff_toNat_lt, khz]
      at refused
    change freq < 800000 ∨ 3200000 < freq ∨ (7 : UInt32) < 1 at refused
    rcases refused with low | high | never
    · omega
    · omega
    · exact absurd never (by decide)
  · have accepted := refused
    rw [UInt32.lt_iff_toNat_lt, UInt32.lt_iff_toNat_lt, UInt32.lt_iff_toNat_lt, not_or, not_or,
      Nat.not_lt, Nat.not_lt, Nat.not_lt] at accepted
    obtain ⟨above, below, range2⟩ := accepted
    change postdiv2.toNat ≤ 7 at range2
    have cases : freq < 800000 ∧ freq * postdiv1.toNat * postdiv2.toNat < 1600000 ∨
        800000 ≤ freq ∧ freq * postdiv1.toNat * postdiv2.toNat = freq := by
      rcases Nat.lt_or_ge freq 800000 with low | high
      · exact Or.inl ⟨low, slow low range2⟩
      · obtain ⟨rfl, rfl⟩ := fast high
        refine Or.inr ⟨high, ?_⟩
        show freq * 1 * 1 = freq
        rw [Nat.mul_one, Nat.mul_one]
    have vcoEq : (freqHz / 1000 * postdiv1 * postdiv2).toNat =
        freq * postdiv1.toNat * postdiv2.toNat := by
      rw [UInt32.toNat_mul, UInt32.toNat_mul, khz, Nat.mod_mul_mod]
      refine Nat.mod_eq_of_lt ?_
      rcases cases with ⟨low, slow⟩ | ⟨high, same⟩
      · omega
      · omega
    obtain ⟨best, found, chosen, diff⟩ := searchRefdiv_chosen above below div.refdiv div.fbdiv
    have near := chosen.near above below
    have close : ¬ 4 * 1000 < best.diffKhz := by
      rw [UInt32.lt_iff_toNat_lt, diff, Nat.not_lt]
      exact near.trans (by decide)
    refine Or.inr ⟨⟨best.refdiv, best.fbdiv, postdiv1, postdiv2⟩, _, ?_, chosen, vcoEq,
      ⟨above, below⟩, range1, ⟨some2, range2⟩, ?_⟩
    · rw [if_neg refused, found]
      exact if_neg close
    · rw [vcoEq]
      rcases cases with ⟨low, slow⟩ | ⟨high, same⟩
      · unfold Overshoots
        omega
      · rw [same]

theorem pllParaConfig_slow (nonzero : freqHz ≠ 0) (slow : freqHz.toNat < 1000)
    (div : PllDiv) : pllParaConfig freqHz div = .error .divisionByZero := by
  have none : freqHz / 1000 = 0 := by
    refine UInt32.toNat_inj.mp ((UInt32.toNat_div _ _).trans ?_)
    exact Nat.div_eq_of_lt slow
  rw [pllParaConfig, if_neg nonzero, none]
  rfl

/-- For which frequencies the search divides by no zero and the parameters it finds are sound. -/
theorem pllParaConfig_sound_iff (freqHz : UInt32) (div : PllDiv) :
    SoundResult freqHz (pllParaConfig freqHz div) ↔
      (freqHz.toNat = 0 ∨ 1000 ≤ freqHz.toNat) ∧ ¬ Overshoots (freqHz.toNat / 1000) := by
  by_cases zero : freqHz = 0
  · subst zero
    refine iff_of_true ?_ (by decide)
    rw [pllParaConfig, if_pos rfl]
    trivial
  · have some : freqHz.toNat ≠ 0 := fun none => zero (UInt32.toNat_inj.mp none)
    rcases Nat.lt_or_ge freqHz.toNat 1000 with slow | large
    · rw [pllParaConfig_slow zero slow]
      refine iff_of_false id fun met => ?_
      have fast := met.1
      omega
    · obtain ⟨_, run, spec⟩ := pllParaConfig_spec large div
      rcases spec with ⟨rfl, within⟩ |
        ⟨found, vco, rfl, chosen, vcoEq, range, range1, range2, same⟩
      · rw [run]
        exact iff_of_true trivial ⟨Or.inr large, within⟩
      · rw [run]
        show Sound freqHz found ↔ _
        rw [chosen.sound_iff rfl vcoEq range.1 range.2 range1 range2, same]
        exact ⟨fun within => ⟨Or.inr large, within⟩, And.right⟩

/-- Half a kilohertz counts as zero, and for 3198031 kHz the VCO runs at 3200727 kHz. -/
theorem pllParaConfig_unsound :
    ¬ SoundResult 500 (pllParaConfig 500 ⟨0, 0, 0, 0⟩) ∧
      ¬ SoundResult 3198031000 (pllParaConfig 3198031000 ⟨0, 0, 0, 0⟩) := by
  constructor
  · rw [pllParaConfig_slow (by decide) (by decide)]
    exact id
  · have run : pllParaConfig 3198031000 ⟨0, 0, 0, 0⟩ = .ok ⟨22, 2934, 1, 1⟩ := by decide
    rw [run]
    intro sound
    have fast := sound.vco_range.2
    rw [vcoHz, show (22 : UInt32).toNat = 22 from rfl,
      show (2934 : UInt32).toNat = 2934 from rfl] at fast
    norm_num at fast

end MuRockchip.Clock
