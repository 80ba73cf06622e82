/-
Consecutive chunks.

A list of chunks tiles a stretch of the number line when each chunk starts where
the one before it ended, the first at the beginning and the last at the end of
the stretch.

* `Tiles.sum_length`: the lengths of a tiling add up to the stretch.
* `Tiles.append`: two tilings, one where the other ends.
* `all_of_sum_le_filter`: a selection as long as the whole list is the whole list.
-/
import Mathlib.Algebra.BigOperators.Group.List.Basic
import Mathlib.Algebra.GroupWithZero.Nat

namespace MuRockchip.Base

variable {α : Type*} (start length : α → Nat)

/-- The chunks of the list cover `[first, last)` consecutively and in order. -/
def Tiles : Nat → List α → Nat → Prop
  | first, [], last => first = last
  | first, chunk :: rest, last => start chunk = first ∧ Tiles (first + length chunk) rest last

variable {start length} {first last : Nat} {chunks : List α}

theorem Tiles.sum_length (tiled : Tiles start length first chunks last) :
    first + (chunks.map length).sum = last := by
  induction chunks generalizing first with
  | nil => simpa [Tiles] using tiled
  | cons chunk rest ih =>
    have tail := ih tiled.2
    rw [List.map_cons, List.sum_cons, ← Nat.add_assoc]
    exact tail

theorem Tiles.append {middle : Nat} {more : List α} (left : Tiles start length first chunks middle)
    (right : Tiles start length middle more last) :
    Tiles start length first (chunks ++ more) last := by
  induction chunks generalizing first with
  | nil => rwa [show first = middle from left]
  | cons chunk rest ih => exact ⟨left.1, ih left.2⟩

theorem all_of_sum_le_filter {selected : α → Bool} {items : List α}
    (positive : ∀ item ∈ items, 0 < length item)
    (total : (items.map length).sum ≤ ((items.filter selected).map length).sum) :
    ∀ item ∈ items, selected item = true := by
  have bound (items : List α) :
      ((items.filter selected).map length).sum ≤ (items.map length).sum := by
    induction items with
    | nil => exact Nat.le_refl _
    | cons item rest ih =>
      rw [List.filter_cons]
      split
      · exact Nat.add_le_add_left ih _
      · exact Nat.le_trans ih (Nat.le_add_left _ _)
  induction items with
  | nil => simp
  | cons item rest ih =>
    have here := positive item List.mem_cons_self
    have below := bound rest
    rw [List.filter_cons] at total
    split at total
    · rename_i chosen
      have tail := ih (fun other member => positive other (List.mem_cons_of_mem _ member))
        (Nat.le_of_add_le_add_left total)
      exact List.forall_mem_cons.mpr ⟨chosen, tail⟩
    · rw [List.map_cons, List.sum_cons] at total
      omega

end MuRockchip.Base
