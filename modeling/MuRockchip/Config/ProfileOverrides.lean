/-
Applying the overrides of a profile (`OemConfigPolicyCreatorPei.c`).

The overrides are written to the caches of their knobs one after the other. At one that names no
knob of the table, the caches written so far are to be set back to their defaults: the index goes
down to the entry before, which the first entry does not have.

* `rollBack_eq`: what the walk back does to the caches.
* `applyProfileOverrides_eq`: the overrides before the first bad one, applied or taken back.
* `applyProfileOverrides_iff`: which profiles are applied or taken back.
-/
import MuRockchip.Uefi.Types
import Mathlib.Data.List.TakeWhile

namespace MuRockchip.Config

open Base

/-! ### The tables -/

/-- `KNOB_DATA`. The size of a value is that of its default, the size of a name counts its
terminator. -/
structure KnobData where
  knob : UInt64
  defaultValue : List UInt8
  name : List UInt8
  nameSize : UInt32
  vendorNamespace : EfiGuid
  validator : Option (List UInt8 → Bool)
  sized : defaultValue.length < 2 ^ 32
  terminated : nameSize.toNat = name.length + 1

/-- `KNOB_OVERRIDE`, with the bytes its value points to. -/
structure KnobOverride where
  knob : UInt64
  value : Nat → UInt8

structure Profile where
  overrides : List KnobOverride
  counted : overrides.length < 2 ^ 64

/-- The values in the caches of the knobs, by their place in the table. -/
abbrev Cache : Type := Nat → List UInt8

section

variable (knobs : List KnobData)

/-- An override that names no knob, or one that is not in its place. -/
def Misordered (override : KnobOverride) : Prop :=
  ∀ data, knobs[override.knob.toNat]? = some data → override.knob ≠ data.knob

instance (override : KnobOverride) : Decidable (Misordered knobs override) :=
  match found : knobs[override.knob.toNat]? with
  | none => .isTrue fun data same => by rw [found] at same; cases same
  | some data =>
      decidable_of_iff (override.knob ≠ data.knob)
        ⟨fun differs other same => by
          rw [found] at same
          exact Option.some_inj.mp same ▸ differs,
        fun all => all data found⟩

def applyOverride (cache : Cache) (override : KnobOverride) : Option Cache := do
  let data ← knobs[override.knob.toNat]?
  pure (Function.update cache override.knob.toNat
    ((List.range data.defaultValue.length).map override.value))

/-- The default is copied to the cache of the knob that an entry of the list names. There is no
answer where there is no such entry or no such knob. -/
def restoreDefault (profile : Profile) (i : Nat) (cache : Cache) : Option Cache := do
  let override ← profile.overrides[i]?
  let data ← knobs[override.knob.toNat]?
  pure (Function.update cache override.knob.toNat data.defaultValue)

/-- The walk back from an entry, with the one at zero apart. -/
def rollBack (profile : Profile) : Nat → Cache → Option Cache
  | 0, cache => restoreDefault knobs profile 0 cache
  | i + 1, cache => do
      let cache ← restoreDefault knobs profile (i + 1) cache
      rollBack profile i cache

/-- The loop over the overrides from the one at `i` on. -/
def applyFrom (profile : Profile) (i : UInt64) : List KnobOverride → Cache → Option Cache
  | [], cache => some cache
  | override :: rest, cache =>
      if Misordered knobs override then rollBack knobs profile (i - 1).toNat cache
      else do
        let cache ← applyOverride knobs cache override
        applyFrom profile (i + 1) rest cache

def applyProfileOverrides (profile : Profile) (cache : Cache) : Option Cache :=
  applyFrom knobs profile 0 profile.overrides cache

/-! ### What should become of the caches -/

def overrideValue (override : KnobOverride) : List UInt8 :=
  (List.range ((knobs[override.knob.toNat]?.map fun data =>
    data.defaultValue.length).getD 0)).map override.value

/-- The value of a knob after some overrides: that of the last one that names it. -/
def overridden (overrides : List KnobOverride) (cache : Cache) : Cache :=
  fun knob =>
    match overrides.reverse.find? (fun override => override.knob.toNat = knob) with
    | some override => overrideValue knobs override
    | none => cache knob

/-- The overrides before the first that is bad. -/
def passed (profile : Profile) : List KnobOverride :=
  profile.overrides.takeWhile fun override => ¬ Misordered knobs override

def defaulted (overrides : List KnobOverride) (cache : Cache) : Cache :=
  fun knob =>
    if ∃ override ∈ overrides, override.knob.toNat = knob then
      (knobs[knob]?.map fun data => data.defaultValue).getD []
    else cache knob

/-- The profile is applied as a whole, or each of its knobs up to the first bad one has its
default, with nothing read outside the list and the table. -/
def AllOrDefaults (profile : Profile) (cache : Cache) : Prop :=
  applyProfileOverrides knobs profile cache = some
    (if ∃ override ∈ profile.overrides, Misordered knobs override then
      defaulted knobs (passed knobs profile) cache
    else overridden knobs profile.overrides cache)

end

/-! ### Overrides in their places -/

section

variable {knobs : List KnobData} {override : KnobOverride}

theorem not_misordered_iff : ¬ Misordered knobs override ↔
    ∃ data, knobs[override.knob.toNat]? = some data ∧ override.knob = data.knob := by
  simp only [Misordered, not_forall, not_not, exists_prop]

theorem applyOverride_eq (good : ¬ Misordered knobs override) (cache : Cache) :
    applyOverride knobs cache override =
      some (Function.update cache override.knob.toNat (overrideValue knobs override)) := by
  obtain ⟨data, found, -⟩ := not_misordered_iff.mp good
  rw [applyOverride, overrideValue, found]
  rfl

theorem restoreDefault_eq {profile : Profile} {i : Nat}
    (entry : profile.overrides[i]? = some override) (good : ¬ Misordered knobs override)
    (cache : Cache) : restoreDefault knobs profile i cache =
      some (Function.update cache override.knob.toNat
        ((knobs[override.knob.toNat]?.map fun data => data.defaultValue).getD [])) := by
  obtain ⟨data, found, -⟩ := not_misordered_iff.mp good
  rw [restoreDefault, entry]
  simp [found]

end

section

variable (knobs : List KnobData)

theorem overridden_concat (overrides : List KnobOverride) (override : KnobOverride)
    (cache : Cache) : overridden knobs (overrides ++ [override]) cache =
      Function.update (overridden knobs overrides cache) override.knob.toNat
        (overrideValue knobs override) := by
  funext knob
  rw [overridden, List.reverse_append, List.reverse_singleton, List.singleton_append,
    List.find?_cons]
  by_cases same : override.knob.toNat = knob
  · subst same
    simp
  · rw [Function.update_of_ne (Ne.symm same)]
    simp [same, overridden]

theorem overridden_of_not_named {overrides : List KnobOverride} {knob : Nat}
    (unnamed : ¬ ∃ override ∈ overrides, override.knob.toNat = knob) (cache : Cache) :
    overridden knobs overrides cache knob = cache knob := by
  have none : overrides.reverse.find? (fun override => override.knob.toNat = knob) = none := by
    rw [List.find?_eq_none]
    intro override member same
    exact unnamed ⟨override, List.mem_reverse.mp member, of_decide_eq_true same⟩
  rw [overridden, none]

theorem defaulted_overridden (overrides : List KnobOverride) (cache : Cache) :
    defaulted knobs overrides (overridden knobs overrides cache) =
      defaulted knobs overrides cache := by
  funext knob
  rw [defaulted, defaulted]
  split
  · rfl
  · next unnamed => exact overridden_of_not_named knobs unnamed cache

theorem defaulted_concat (overrides : List KnobOverride) (override : KnobOverride)
    (cache : Cache) : defaulted knobs (overrides ++ [override]) cache =
      defaulted knobs overrides (Function.update cache override.knob.toNat
        ((knobs[override.knob.toNat]?.map fun data => data.defaultValue).getD [])) := by
  funext knob
  by_cases named : ∃ other ∈ overrides, other.knob.toNat = knob
  · obtain ⟨other, member, same⟩ := named
    rw [defaulted, defaulted, if_pos ⟨other, List.mem_append_left _ member, same⟩,
      if_pos ⟨other, member, same⟩]
  · rw [defaulted, defaulted, if_neg named]
    by_cases last : override.knob.toNat = knob
    · subst last
      rw [if_pos ⟨override, List.mem_append_right _ (List.mem_singleton_self _), rfl⟩,
        Function.update_self]
    · rw [if_neg, Function.update_of_ne (Ne.symm last)]
      rintro ⟨other, member, same⟩
      rcases List.mem_append.mp member with before | this
      · exact named ⟨other, before, same⟩
      · rw [List.mem_singleton] at this
        exact last (this ▸ same)

variable {knobs} {profile : Profile}

theorem rollBack_eq {last : Nat} (inside : last < profile.overrides.length)
    (good : ∀ override ∈ profile.overrides.take (last + 1), ¬ Misordered knobs override)
    (cache : Cache) : rollBack knobs profile last cache =
      some (defaulted knobs (profile.overrides.take (last + 1)) cache) := by
  induction last generalizing cache with
  | zero =>
      have entry := List.getElem?_eq_getElem inside
      have split := List.take_concat_get' profile.overrides 0 inside
      rw [← split] at good ⊢
      have first := good _ (List.mem_append_right _ (List.mem_singleton_self _))
      rw [rollBack, restoreDefault_eq entry first, defaulted_concat]
      rfl
  | succ last ih =>
      have entry := List.getElem?_eq_getElem inside
      have split := List.take_concat_get' profile.overrides (last + 1) inside
      rw [← split] at good ⊢
      have first := good _ (List.mem_append_right _ (List.mem_singleton_self _))
      rw [rollBack, restoreDefault_eq entry first, defaulted_concat]
      exact ih (by omega) (fun override member => good override (List.mem_append_left _ member)) _

/-- The walk back from before the first entry leaves the list. -/
theorem rollBack_before (cache : Cache) :
    rollBack knobs profile ((0 : UInt64) - 1).toNat cache = none := by
  have outside : profile.overrides[2 ^ 64 - 2 + 1]? = none := by
    rw [List.getElem?_eq_none_iff]
    have := profile.counted
    omega
  have wrapped : ((0 : UInt64) - 1).toNat = (2 ^ 64 - 2) + 1 := rfl
  rw [wrapped, rollBack, restoreDefault, outside]
  rfl

/-! ### The loop -/

theorem applyFrom_good (before rest : List KnobOverride)
    (good : ∀ override ∈ rest, ¬ Misordered knobs override) (cache : Cache) :
    applyFrom knobs profile (UInt64.ofNat before.length) rest (overridden knobs before cache) =
      some (overridden knobs (before ++ rest) cache) := by
  induction rest generalizing before with
  | nil => rw [applyFrom, List.append_nil]
  | cons override rest ih =>
      have first := good override List.mem_cons_self
      have next := ih (before ++ [override]) fun other member =>
        good other (List.mem_cons_of_mem _ member)
      rw [overridden_concat, List.length_append, List.length_singleton, UInt64.ofNat_add,
        List.append_assoc] at next
      rw [applyFrom, if_neg first, applyOverride_eq first]
      exact next

theorem applyFrom_bad (before : List KnobOverride) {override : KnobOverride}
    (bad : Misordered knobs override) (rest : List KnobOverride) (cache : Cache)
    (later : List KnobOverride) (good : ∀ other ∈ later, ¬ Misordered knobs other) :
    applyFrom knobs profile (UInt64.ofNat before.length) (later ++ override :: rest)
        (overridden knobs before cache) =
      rollBack knobs profile (UInt64.ofNat (before ++ later).length - 1).toNat
        (overridden knobs (before ++ later) cache) := by
  induction later generalizing before with
  | nil => rw [List.nil_append, applyFrom, if_pos bad, List.append_nil]
  | cons other later ih =>
      have first := good other List.mem_cons_self
      have next := ih (before ++ [other]) fun another member =>
        good another (List.mem_cons_of_mem _ member)
      rw [overridden_concat, List.length_append, List.length_singleton, UInt64.ofNat_add,
        List.append_assoc] at next
      rw [List.cons_append, applyFrom, if_neg first, applyOverride_eq first]
      exact next

end

theorem passed_good {knobs : List KnobData} {profile : Profile} :
    ∀ override ∈ passed knobs profile, ¬ Misordered knobs override := by
  intro override member
  rw [passed] at member
  simpa using List.mem_takeWhile_imp member

/-- The overrides before the first bad one, and what follows them. -/
theorem passed_cases (knobs : List KnobData) (profile : Profile) :
    (profile.overrides = passed knobs profile) ∨
      ∃ override rest, profile.overrides = passed knobs profile ++ override :: rest ∧
        Misordered knobs override := by
  have parts := List.takeWhile_append_dropWhile (l := profile.overrides)
    (p := fun override => decide (¬ Misordered knobs override))
  have stops := List.head?_dropWhile_not (fun override => decide (¬ Misordered knobs override))
    profile.overrides
  rw [passed]
  cases rest : profile.overrides.dropWhile fun override => ¬ Misordered knobs override with
  | nil =>
      rw [rest, List.append_nil] at parts
      exact .inl parts.symm
  | cons override rest' =>
      rw [rest] at parts stops
      exact .inr ⟨override, rest', parts.symm, by simpa using stops⟩

/-- The walk back from before a bad override takes back what was applied. -/
theorem rollBack_passed {knobs : List KnobData} {profile : Profile}
    (some : passed knobs profile ≠ []) {override : KnobOverride} {rest : List KnobOverride}
    (parts : profile.overrides = passed knobs profile ++ override :: rest) (cache : Cache) :
    rollBack knobs profile (UInt64.ofNat (passed knobs profile).length - 1).toNat
        (overridden knobs (passed knobs profile) cache) =
      .some (defaulted knobs (passed knobs profile) cache) := by
  have positive := List.length_pos_iff.mpr some
  have shorter := congrArg List.length parts
  rw [List.length_append, List.length_cons] at shorter
  have counted := profile.counted
  have one : (1 : UInt64).toNat = 1 := rfl
  have before : (UInt64.ofNat (passed knobs profile).length - 1).toNat =
      (passed knobs profile).length - 1 := by
    rw [UInt64.toNat_sub, UInt64.toNat_ofNat', one]
    omega
  have taken : profile.overrides.take ((passed knobs profile).length - 1 + 1) =
      passed knobs profile := by
    rw [Nat.sub_add_cancel positive]
    rw [parts]
    exact List.take_left
  have inside : (passed knobs profile).length - 1 < profile.overrides.length := by omega
  have good : ∀ override ∈ profile.overrides.take ((passed knobs profile).length - 1 + 1),
      ¬ Misordered knobs override := by
    rw [taken]
    exact passed_good
  rw [before, rollBack_eq inside good, taken, defaulted_overridden]

/-- What the loop does with a profile: there is no answer only if its first override is bad. -/
theorem applyProfileOverrides_eq (knobs : List KnobData) (profile : Profile) (cache : Cache) :
    applyProfileOverrides knobs profile cache =
      if ∃ first, profile.overrides.head? = some first ∧ Misordered knobs first then none
      else if ∃ override ∈ profile.overrides, Misordered knobs override then
        some (defaulted knobs (passed knobs profile) cache)
      else some (overridden knobs profile.overrides cache) := by
  rcases passed_cases knobs profile with whole | ⟨override, rest, parts, bad⟩
  · have good : ∀ override ∈ profile.overrides, ¬ Misordered knobs override := by
      rw [whole]
      exact passed_good
    rw [if_neg, if_neg]
    · exact applyFrom_good [] profile.overrides good cache
    · rintro ⟨override, member, bad⟩
      exact good override member bad
    · rintro ⟨first, head, bad⟩
      exact good first (List.mem_of_mem_head? head) bad
  · have walked : applyProfileOverrides knobs profile cache =
        rollBack knobs profile (UInt64.ofNat (passed knobs profile).length - 1).toNat
          (overridden knobs (passed knobs profile) cache) := by
      rw [applyProfileOverrides, parts]
      exact applyFrom_bad [] bad rest cache (passed knobs profile) passed_good
    have fails : ∃ override ∈ profile.overrides, Misordered knobs override := by
      refine ⟨override, ?_, bad⟩
      rw [parts]
      exact List.mem_append_right _ List.mem_cons_self
    rw [walked, if_pos fails]
    cases before : passed knobs profile with
    | nil =>
        rw [before] at parts
        rw [if_pos ⟨override, by rw [parts]; rfl, bad⟩]
        exact rollBack_before _
    | cons first more =>
        have some : passed knobs profile ≠ [] := by
          rw [before]
          exact List.cons_ne_nil first more
        rw [if_neg, ← before]
        · exact rollBack_passed some parts cache
        · rintro ⟨other, head, misordered⟩
          rw [parts, before] at head
          obtain rfl := Option.some_inj.mp head
          exact passed_good first (before ▸ List.mem_cons_self) misordered

/-- A profile is applied as a whole or its knobs get their defaults exactly if its first override,
where it has one, is in its place. -/
theorem applyProfileOverrides_iff (knobs : List KnobData) (profile : Profile) (cache : Cache) :
    AllOrDefaults knobs profile cache ↔
      ∀ first, profile.overrides.head? = some first → ¬ Misordered knobs first := by
  rw [AllOrDefaults, applyProfileOverrides_eq]
  by_cases bad : ∃ first, profile.overrides.head? = some first ∧ Misordered knobs first
  · rw [if_pos bad]
    obtain ⟨first, head, misordered⟩ := bad
    refine iff_of_false ?_ fun good => good first head misordered
    exact (Option.some_ne_none _).symm
  · rw [if_neg bad]
    refine iff_of_true ?_ fun first head misordered => bad ⟨first, head, misordered⟩
    split <;> rfl

/-- A profile whose one override names a knob past the end of the table. -/
def pastTable : Profile where
  overrides := [⟨7, fun _ => 0⟩]
  counted := Nat.one_lt_two_pow (Nat.succ_ne_zero 63)

/-- A bad first override sends the walk back out of the list. -/
theorem applyProfileOverrides_leaves_list :
    applyProfileOverrides [] pastTable (fun _ => []) = none ∧
      ¬ AllOrDefaults [] pastTable fun _ => [] := by
  have left : applyProfileOverrides [] pastTable (fun _ => []) = none := by
    rw [applyProfileOverrides_eq, if_pos]
    refine ⟨_, rfl, ?_⟩
    intro data found
    cases found
  refine ⟨left, fun kept => ?_⟩
  rw [AllOrDefaults, left] at kept
  cases kept

end MuRockchip.Config
