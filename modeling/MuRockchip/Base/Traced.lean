/-
Computations that record their accesses.

The output of Mathlib's `Writer` is here the list of the accesses a computation makes, oldest
first. What holds of every access of a composed computation is split along its composition:

* `all_bind`: the accesses of the first part, and of the rest at its value.
* `all_foldlM`: the accesses of a loop whose rounds do not look at the loop's state to choose
  what they access.
-/
import Mathlib.Control.Monad.Writer

namespace MuRockchip.Base

/-- A computation together with the accesses it makes. -/
abbrev Traced (ι : Type) := Writer (List ι)

namespace Traced

variable {ι α β σ : Type}

/-- The computation that makes one access, which yields `value`. -/
def access (place : ι) (value : α) : Traced ι α := WriterT.mk (value, [place])

def value (computation : Traced ι α) : α := computation.run.1

def accesses (computation : Traced ι α) : List ι := computation.run.2

/-- Every access is one of `allowed`. -/
def All (allowed : ι → Prop) (computation : Traced ι α) : Prop :=
  ∀ place ∈ computation.accesses, allowed place

variable {allowed : ι → Prop}

@[simp] theorem value_pure (result : α) : value (pure result : Traced ι α) = result := rfl

@[simp] theorem value_bind (first : Traced ι α) (next : α → Traced ι β) :
    value (first >>= next) = value (next first.value) := rfl

@[simp] theorem all_pure (result : α) : All allowed (pure result : Traced ι α) := by
  intro place member
  exact absurd member List.not_mem_nil

@[simp] theorem all_access (place : ι) (result : α) :
    All allowed (access place result) ↔ allowed place :=
  List.forall_mem_singleton

/-- The accesses of a composition are those of its first part and those of the rest at the
value of the first part. -/
@[simp] theorem all_bind (first : Traced ι α) (next : α → Traced ι β) :
    All allowed (first >>= next) ↔ All allowed first ∧ All allowed (next first.value) :=
  List.forall_mem_append

/-- A loop makes the accesses of its rounds. -/
theorem all_foldlM {round : σ → α → Traced ι σ} {inside : α → Prop} {items : List α}
    (same : ∀ item ∈ items, ∀ state, All allowed (round state item) ↔ inside item) (state : σ) :
    All allowed (items.foldlM round state) ↔ ∀ item ∈ items, inside item := by
  induction items generalizing state with
  | nil => exact iff_of_true (all_pure state) (List.forall_mem_nil inside)
  | cons item items rest =>
    obtain ⟨first, later⟩ := List.forall_mem_cons.mp same
    rw [List.foldlM_cons, all_bind, first, rest later, List.forall_mem_cons]

theorem All.foldlM {round : σ → α → Traced ι σ} {items : List α}
    (each : ∀ item ∈ items, ∀ state, All allowed (round state item)) (state : σ) :
    All allowed (items.foldlM round state) :=
  (all_foldlM (fun item member now => iff_true_intro (each item member now)) state).mpr
    fun _ _ => trivial

theorem value_foldlM (round : σ → α → Traced ι σ) (items : List α) (state : σ) :
    value (items.foldlM round state) =
      items.foldl (fun state item => value (round state item)) state := by
  induction items generalizing state with
  | nil => rfl
  | cons item items rest => rw [List.foldlM_cons, value_bind, rest, List.foldl_cons]

end Traced

end MuRockchip.Base
