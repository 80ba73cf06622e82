/-
A pool of address ranges.

A page allocator hands out ranges of one region and takes them back. The pool
carries the two facts every client relies on as fields, so that no pool value
violates them: the held ranges lie inside the region and are pairwise disjoint.

* `allocate_spec`: a granted range is aligned, has the requested length, lies in
  the region, is disjoint from everything held before, and is held afterwards.
* `mem_release`: a range disjoint from the released one stays held.
* `total_le`: the held ranges together are no longer than the region.
-/
import Mathlib.Algebra.BigOperators.Group.List.Basic
import Mathlib.Data.List.Nodup
import Mathlib.Data.List.Pairwise
import MuRockchip.Base.Memory

namespace MuRockchip.Base

/-- The ranges of `region` currently handed out. -/
structure Pool (region : Interval) where
  held : List Interval
  inside : ∀ range ∈ held, range.Within region
  apart : held.Pairwise Interval.Disjoint

namespace Pool

variable {region : Interval}

/-- Nothing is handed out. -/
def empty (region : Interval) : Pool region where
  held := []
  inside := by simp
  apart := List.Pairwise.nil

/-- What a range must satisfy to be handed out next. -/
def Grantable (pool : Pool region) (alignment : Nat) (range : Interval) : Prop :=
  alignment ∣ range.base ∧ range.Within region ∧ ∀ other ∈ pool.held, range.Disjoint other

instance (pool : Pool region) (alignment : Nat) (range : Interval) :
    Decidable (pool.Grantable alignment range) :=
  inferInstanceAs (Decidable (_ ∧ _ ∧ _))

/-- Hand out a range that may be handed out. -/
def grant (pool : Pool region) (alignment : Nat) (range : Interval)
    (grantable : pool.Grantable alignment range) : Pool region where
  held := range :: pool.held
  inside := by
    intro other member
    rcases List.mem_cons.mp member with rfl | old
    · exact grantable.2.1
    · exact pool.inside other old
  apart := List.pairwise_cons.mpr ⟨grantable.2.2, pool.apart⟩

/-- Ask for a range of the given length. The answer names the base the owner of
the region chose; an answer outside the allocation contract is an error. -/
def allocate (pool : Pool region) (alignment length : Nat) (answer : Option Nat) :
    Option (Interval × Pool region) :=
  match answer with
  | none => none
  | some base =>
    if grantable : pool.Grantable alignment ⟨base, length⟩ then
      some (⟨base, length⟩, pool.grant alignment ⟨base, length⟩ grantable)
    else none

/-- Take a range back. -/
def release (pool : Pool region) (range : Interval) : Pool region where
  held := pool.held.erase range
  inside := fun other member => pool.inside other (List.mem_of_mem_erase member)
  apart := pool.apart.sublist List.erase_sublist

variable {pool : Pool region} {range : Interval}

theorem allocate_spec {after : Pool region} {alignment length : Nat} {answer : Option Nat}
    (granted : pool.allocate alignment length answer = some (range, after)) :
    pool.Grantable alignment range ∧ range.length = length ∧ after.held = range :: pool.held := by
  cases answer with
  | none => simp [allocate] at granted
  | some base =>
    simp only [allocate] at granted
    split at granted
    · next grantable =>
      simp only [Option.some.injEq, Prod.mk.injEq] at granted
      obtain ⟨rfl, rfl⟩ := granted
      exact ⟨grantable, rfl, rfl⟩
    · simp at granted

theorem allocate_grantable {alignment length base : Nat}
    (grantable : pool.Grantable alignment ⟨base, length⟩) :
    pool.allocate alignment length (some base) =
      some (⟨base, length⟩, pool.grant alignment ⟨base, length⟩ grantable) := by
  simp only [allocate]
  exact dif_pos grantable

theorem mem_release {other : Interval} (member : other ∈ pool.held)
    (different : other ≠ range) : other ∈ (pool.release range).held :=
  (List.mem_erase_of_ne different).mpr member

/-! ### How much is held -/

def total (pool : Pool region) : Nat := (pool.held.map Interval.length).sum

theorem total_le (pool : Pool region) : pool.total ≤ region.length := by
  let cells (range : Interval) : List Nat := List.range' range.base range.length
  have once : (pool.held.flatMap cells).Nodup := by
    refine List.nodup_flatMap.mpr ⟨fun range _ => List.nodup_range', ?_⟩
    refine pool.apart.imp fun {left right} apart => ?_
    intro address inLeft inRight
    have first := List.mem_range'_1.mp inLeft
    have second := List.mem_range'_1.mp inRight
    simp only [Interval.Disjoint, Interval.finish] at apart
    omega
  have inside : pool.held.flatMap cells ⊆ cells region := by
    intro address member
    obtain ⟨range, held, inRange⟩ := List.mem_flatMap.mp member
    have within := pool.inside range held
    have bounds := List.mem_range'_1.mp inRange
    simp only [Interval.Within, Interval.finish] at within
    exact List.mem_range'_1.mpr (by omega)
  have short := (List.subperm_of_subset once inside).length_le
  simpa [total, cells, List.length_flatMap, Function.comp_def] using short

/-- Where no range is empty, there are at most as many as the region has addresses. -/
theorem held_length_le (pool : Pool region) (positive : ∀ range ∈ pool.held, 0 < range.length) :
    pool.held.length ≤ region.length := by
  have each : ∀ length ∈ pool.held.map Interval.length, 1 ≤ length := by
    intro length member
    obtain ⟨range, held, rfl⟩ := List.mem_map.mp member
    exact positive range held
  have enough := List.card_nsmul_le_sum _ 1 each
  rw [List.length_map, smul_eq_mul, mul_one] at enough
  exact enough.trans pool.total_le

theorem total_allocate {after : Pool region}
    (grown : after.held = range :: pool.held) : after.total = range.length + pool.total := by
  rw [total, grown, List.map_cons, List.sum_cons, total]

theorem total_release (member : range ∈ pool.held) :
    range.length + (pool.release range).total = pool.total :=
  List.sum_map_erase Interval.length member

end Pool

end MuRockchip.Base
