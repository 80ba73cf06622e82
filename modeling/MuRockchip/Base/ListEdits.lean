/-
Edits of lists: an element replaced in its place, and elements taken out.

* `find?_replaceF_same`: the first element of a kind, after it has been replaced.
* `sublist_diff_iff`: a sublist is there as long as none of its elements are taken out.
* `diff_perm_iff`: when what is left of a list is one part of it.
-/
import Mathlib.Data.Multiset.AddSub

namespace MuRockchip.Base

variable {α β : Type}

/-! ### Replaced in place -/

theorem take_replaceF (edit : α → Option α) (items : List α) (count : Nat) :
    (items.replaceF edit).take count = (items.take count).replaceF edit := by
  induction items generalizing count with
  | nil => simp
  | cons item rest ih =>
    cases count with
    | zero => rfl
    | succ count =>
      cases edited : edit item with
      | none => simp [List.replaceF, edited, ih]
      | some other => simp [List.replaceF, edited]

def replaceKind (kind : α → Bool) (change : α → α) (item : α) : Option α :=
  if kind item then some (change item) else none

variable {kind other : α → Bool} {change : α → α}

theorem find?_replaceF_same (keeps : ∀ item, kind item → kind (change item)) (items : List α) :
    (items.replaceF (replaceKind kind change)).find? kind = (items.find? kind).map change := by
  induction items with
  | nil => rfl
  | cons item rest ih =>
    by_cases same : kind item = true
    · simp [List.replaceF, replaceKind, same, keeps item same]
    · simp only [List.replaceF, replaceKind, same] at ih ⊢
      simp [same, ih]

theorem find?_replaceF_other
    (keeps : ∀ item, kind item → other item = false ∧ other (change item) = false)
    (items : List α) :
    (items.replaceF (replaceKind kind change)).find? other = items.find? other := by
  induction items with
  | nil => rfl
  | cons item rest ih =>
    by_cases same : kind item = true
    · obtain ⟨before, after⟩ := keeps item same
      simp [List.replaceF, replaceKind, same, before, after]
    · simp only [List.replaceF, replaceKind, same] at ih ⊢
      simp [List.find?_cons, ih]

theorem map_replaceF {view : α → β} (keeps : ∀ item, view (change item) = view item)
    (items : List α) :
    (items.replaceF (replaceKind kind change)).map view = items.map view := by
  induction items with
  | nil => rfl
  | cons item rest ih =>
    by_cases same : kind item = true
    · simp [List.replaceF, replaceKind, same, keeps]
    · simp only [List.replaceF, replaceKind, same] at ih ⊢
      simp [ih]

/-! ### Taken out -/

variable {items part taken : List α}

theorem subperm_map (view : α → β) (sub : part.Subperm items) :
    (part.map view).Subperm (items.map view) := by
  obtain ⟨same, perm, inside⟩ := sub
  exact ⟨same.map view, perm.map view, inside.map view⟩

variable [DecidableEq α]

theorem diff_eq_self (apart : ∀ item ∈ items, item ∉ taken) :
    items.diff taken = items := by
  induction taken with
  | nil => rfl
  | cons first rest ih =>
    have absent : first ∉ items := fun member => apart first member List.mem_cons_self
    rw [List.diff_cons, List.erase_of_not_mem absent]
    exact ih fun item member there => apart item member (List.mem_cons_of_mem _ there)

/-- Taking out other elements leaves a sublist. -/
theorem sublist_diff_iff (apart : ∀ item ∈ part, item ∉ taken) :
    part.Sublist (items.diff taken) ↔ part.Sublist items := by
  refine ⟨fun sub => sub.trans (List.diff_sublist ..), fun sub => ?_⟩
  have left : (part.diff taken).Sublist (items.diff taken) := sub.diff_right
  rwa [diff_eq_self apart] at left

theorem filter_diff {p : α → Bool} (items taken : List α)
    (all : ∀ item ∈ taken, p item = true) :
    (items.diff taken).filter p = (items.filter p).diff taken := by
  induction taken generalizing items with
  | nil => rfl
  | cons first rest ih =>
    rw [List.diff_cons, List.diff_cons, List.erase_filter]
    exact ih _ fun item member => all item (List.mem_cons_of_mem _ member)

theorem diff_perm_iff {other : List α} (parts : items.Perm (other ++ part))
    (sub : taken.Sublist other) : (items.diff taken).Perm part ↔ taken = other := by
  have split : (items : Multiset α) = other + part := Quotient.sound parts
  rw [← Multiset.coe_eq_coe, ← Multiset.coe_sub, split]
  constructor
  · intro same
    have le : (taken : Multiset α) ≤ other + part :=
      (Multiset.coe_le.mpr sub.subperm).trans (Multiset.le_add_right _ _)
    have sizes := congrArg Multiset.card same
    rw [Multiset.card_sub le, Multiset.card_add] at sizes
    have bound := sub.length_le
    simp only [Multiset.coe_card] at sizes
    exact sub.eq_of_length (by omega)
  · rintro rfl
    rw [Multiset.add_comm, Multiset.add_sub_cancel_right]

end MuRockchip.Base
