/-
Moves made one after the other.

A move gives each of its target cells what one other cell holds. When several are made in a
row, a later one sees what the earlier ones have left.

* `applyAll_frame`: a cell that is no target keeps its value.
* `applyAll_target`: a target cell holds what its source held when its own move was made.
* `applyAll_original`: where no earlier move has the source as a target, that is what it held
  in the beginning.
-/
import Mathlib.Data.Nat.Init

namespace MuRockchip.Base

/-- A move among the cells `ι`. -/
structure Move (ι : Type) where
  target : ι → Prop
  source : ι → ι
  [decidable : DecidablePred target]

namespace Move

attribute [instance] Move.decidable

variable {ι α : Type}

/-- All cells of the target are given their values at once. -/
def apply (move : Move ι) (store : ι → α) : ι → α :=
  fun cell => if move.target cell then store (move.source cell) else store cell

/-- The first moves of a sequence. -/
def applyAll (moves : Nat → Move ι) : Nat → (ι → α) → ι → α
  | 0, store => store
  | count + 1, store => (moves count).apply (applyAll moves count store)

variable {moves : Nat → Move ι} {cell : ι} (store : ι → α)

theorem apply_target {move : Move ι} (inside : move.target cell) :
    move.apply store cell = store (move.source cell) :=
  if_pos inside

theorem apply_frame {move : Move ι} (outside : ¬ move.target cell) :
    move.apply store cell = store cell :=
  if_neg outside

/-- From one point of the sequence to a later one. -/
theorem applyAll_frame_from {first count : Nat} (later : first ≤ count)
    (outside : ∀ index, first ≤ index → index < count → ¬ (moves index).target cell) :
    applyAll moves count store cell = applyAll moves first store cell := by
  induction count with
  | zero =>
      rw [Nat.le_zero.mp later]
  | succ count ih =>
      rcases Nat.lt_or_eq_of_le later with before | rfl
      · rw [applyAll, apply_frame _ (outside count (by omega) (by omega))]
        exact ih (by omega) fun index from_ below => outside index from_ (by omega)
      · rfl

theorem applyAll_frame {count : Nat}
    (outside : ∀ index < count, ¬ (moves index).target cell) :
    applyAll moves count store cell = store cell :=
  applyAll_frame_from store (Nat.zero_le count) fun index _ below => outside index below

theorem applyAll_target {count index : Nat} (below : index < count)
    (inside : (moves index).target cell)
    (once : ∀ later, index < later → later < count → ¬ (moves later).target cell) :
    applyAll moves count store cell =
      applyAll moves index store ((moves index).source cell) := by
  rw [applyAll_frame_from store (Nat.succ_le_of_lt below) once, applyAll, apply_target _ inside]

theorem applyAll_original {count index : Nat} (below : index < count)
    (inside : (moves index).target cell)
    (once : ∀ later, index < later → later < count → ¬ (moves later).target cell)
    (intact : ∀ earlier < index, ¬ (moves earlier).target ((moves index).source cell)) :
    applyAll moves count store cell = store ((moves index).source cell) := by
  rw [applyAll_target store below inside once, applyAll_frame store intact]

end Move

end MuRockchip.Base
