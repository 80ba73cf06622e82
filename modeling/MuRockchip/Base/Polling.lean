/-
Waiting for a status that is read again and again.

A wait ends with the first poll that shows what is waited for, or when a number of polls has been
made. Drivers count these polls in many ways; `firstPoll` says what they count.

* `firstPoll_eq_some_iff`, `firstPoll_eq_none_iff`: what the end of a wait says about the polls.
* `Sticky.raised`: flags that stay are seen by every later poll.
-/
import Mathlib.Data.List.Basic
import Mathlib.Data.UInt

namespace MuRockchip.Base

def firstPoll (ends : Nat → Bool) : Nat → Nat → Option Nat
  | _, 0 => none
  | poll, budget + 1 => if ends poll then some poll else firstPoll ends (poll + 1) budget

section

variable {ends : Nat → Bool} {poll budget found : Nat}

theorem firstPoll_eq_some_iff :
    firstPoll ends poll budget = some found ↔
      (poll ≤ found ∧ found < poll + budget) ∧ ends found = true ∧
        ∀ earlier, poll ≤ earlier → earlier < found → ends earlier = false := by
  induction budget generalizing poll with
  | zero =>
    refine ⟨fun same => (nomatch same), fun ⟨⟨after, before⟩, _⟩ => ?_⟩
    omega
  | succ budget ih =>
    rw [firstPoll]
    cases now : ends poll with
    | true =>
      rw [if_pos rfl, Option.some.injEq]
      constructor
      · rintro rfl
        exact ⟨⟨Nat.le_refl _, by omega⟩, now, fun earlier after before => by omega⟩
      · rintro ⟨⟨after, -⟩, -, first⟩
        rcases Nat.eq_or_lt_of_le after with same | later
        · exact same
        · exact nomatch now.symm.trans (first poll (Nat.le_refl _) later)
    | false =>
      rw [if_neg Bool.false_ne_true, ih]
      constructor
      · rintro ⟨⟨after, before⟩, ended, first⟩
        refine ⟨⟨by omega, by omega⟩, ended, fun earlier from_ before => ?_⟩
        rcases Nat.eq_or_lt_of_le from_ with rfl | later
        · exact now
        · exact first earlier later before
      · rintro ⟨⟨after, before⟩, ended, first⟩
        have other : poll ≠ found := by
          rintro rfl
          exact nomatch now.symm.trans ended
        refine ⟨⟨by omega, by omega⟩, ended, fun earlier later before => ?_⟩
        exact first earlier (by omega) before

theorem firstPoll_eq_none_iff :
    firstPoll ends poll budget = none ↔
      ∀ later, poll ≤ later → later < poll + budget → ends later = false := by
  induction budget generalizing poll with
  | zero => exact ⟨fun _ later after before => by omega, fun _ => rfl⟩
  | succ budget ih =>
    rw [firstPoll]
    cases now : ends poll with
    | true =>
      rw [if_pos rfl]
      refine ⟨fun same => (nomatch same), fun never => ?_⟩
      exact nomatch now.symm.trans (never poll (Nat.le_refl _) (by omega))
    | false =>
      rw [if_neg Bool.false_ne_true, ih]
      constructor
      · intro never later after before
        rcases Nat.eq_or_lt_of_le after with rfl | behind
        · exact now
        · exact never later behind (by omega)
      · exact fun never later after before => never later (by omega) (by omega)

/-- A wait ends by what it waits for exactly when a poll shows it. -/
theorem firstPoll_isSome_iff :
    (firstPoll ends poll budget).isSome ↔
      ∃ found, poll ≤ found ∧ found < poll + budget ∧ ends found = true := by
  rw [← Option.ne_none_iff_isSome, Ne, firstPoll_eq_none_iff]
  grind

end

/-! ### Flags that stay -/

/-- A flag that one poll shows is shown by the next. -/
def Sticky (flags : Nat → UInt32) : Prop :=
  ∀ poll, flags poll &&& flags (poll + 1) = flags poll

namespace Sticky

variable {flags : Nat → UInt32} {mask : UInt32} {earlier later : Nat}

theorem keeps (sticky : Sticky flags) (before : earlier ≤ later) :
    flags earlier &&& flags later = flags earlier := by
  induction later, before using Nat.le_induction with
  | base => exact UInt32.and_self
  | succ later before ih => rw [← ih, UInt32.and_assoc, sticky later]

theorem raised (sticky : Sticky flags) (before : earlier ≤ later)
    (some : flags earlier &&& mask ≠ 0) : flags later &&& mask ≠ 0 := by
  intro none
  rw [← sticky.keeps before, UInt32.and_assoc, none, UInt32.and_zero] at some
  exact some rfl

theorem clear (sticky : Sticky flags) (before : earlier ≤ later)
    (none : flags later &&& mask = 0) : flags earlier &&& mask = 0 :=
  not_ne_iff.mp fun some => sticky.raised before some none

end Sticky

end MuRockchip.Base
