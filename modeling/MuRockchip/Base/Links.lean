/-
Linked lists in memory.

Cells are named by keys, and zero is the null link. A segment is a list of cells that
following the links visits in order, up to the key the last of them links to; a segment
that ends at zero is a whole list.

* `segment_append`: segments compose.
* `Segment.unique`, `Segment.nodup`: a list visits determined cells, each once.
* `Segment.relink`, `Segment.extend`: the last cell of a segment is linked elsewhere.
* `Segment.unlink`, `Segment.splice`: a cell is taken out of all lists it is on, and a new one
  is put in behind another.
* `walkEnd_eq`: following the links finds the last cell.
-/
import Mathlib.Data.List.Nodup
import Mathlib.Data.List.Perm.Basic
import Mathlib.Data.List.Range
import Mathlib.Data.UInt

namespace MuRockchip.Base

variable {K : Type*} [Zero K]

/-- Following `next` from `start` visits `cells`, in order, and arrives at `finish`. -/
def Segment (next : K → K) : K → List K → K → Prop
  | start, [], finish => start = finish
  | start, cell :: rest, finish =>
    start = cell ∧ cell ≠ 0 ∧ Segment next (next cell) rest finish

section

variable {next next' : K → K} {start finish cell last new : K} {cells before after : List K}

theorem segment_append :
    Segment next start (before ++ after) finish ↔
      ∃ middle, Segment next start before middle ∧ Segment next middle after finish := by
  induction before generalizing start with
  | nil =>
    constructor
    · intro whole
      exact ⟨start, rfl, whole⟩
    · rintro ⟨middle, rfl, whole⟩
      exact whole
  | cons head rest ih =>
    simp only [List.cons_append, Segment, ih]
    constructor
    · rintro ⟨first, nonzero, middle, left, right⟩
      exact ⟨middle, ⟨first, nonzero, left⟩, right⟩
    · rintro ⟨middle, ⟨first, nonzero, left⟩, right⟩
      exact ⟨first, nonzero, middle, left, right⟩

/-- Only the links of its own cells matter to a segment. -/
theorem Segment.congr (same : ∀ cell ∈ cells, next' cell = next cell)
    (whole : Segment next start cells finish) : Segment next' start cells finish := by
  induction cells generalizing start with
  | nil => exact whole
  | cons head rest ih =>
    obtain ⟨first, nonzero, tail⟩ := whole
    refine ⟨first, nonzero, ?_⟩
    rw [same head List.mem_cons_self]
    exact ih (fun cell member => same cell (List.mem_cons_of_mem head member)) tail

theorem Segment.ne_zero (whole : Segment next start cells finish) (member : cell ∈ cells) :
    cell ≠ 0 := by
  induction cells generalizing start with
  | nil => cases member
  | cons head rest ih =>
    obtain ⟨-, nonzero, tail⟩ := whole
    rcases List.mem_cons.mp member with rfl | inRest
    · exact nonzero
    · exact ih tail inRest

/-- What follows a cell of a list is a list again. -/
theorem Segment.suffix (whole : Segment next start (before ++ cell :: after) finish) :
    Segment next (next cell) after finish := by
  obtain ⟨middle, -, -, -, rest⟩ := segment_append.mp whole
  exact rest

theorem Segment.next_mem (whole : Segment next start cells 0) (member : cell ∈ cells)
    (more : next cell ≠ 0) : next cell ∈ cells := by
  obtain ⟨before, after, rfl⟩ := List.append_of_mem member
  have rest := whole.suffix
  cases after with
  | nil => exact absurd rest more
  | cons head tail => exact List.mem_append_right before (by rw [rest.1]; simp)

theorem Segment.unique (whole : Segment next start cells 0) (other : Segment next start before 0) :
    cells = before := by
  induction cells generalizing start before with
  | nil =>
    cases before with
    | nil => rfl
    | cons head rest => exact absurd (other.1.symm.trans whole) other.2.1
  | cons head rest ih =>
    cases before with
    | nil => exact absurd (whole.1.symm.trans other) whole.2.1
    | cons head' rest' =>
      obtain rfl := whole.1.symm.trans other.1
      rw [ih whole.2.2 other.2.2]

/-- A list visits no cell twice: two visits would be followed by lists of one length. -/
theorem Segment.nodup (whole : Segment next start cells 0) : cells.Nodup := by
  induction cells generalizing start with
  | nil => exact List.nodup_nil
  | cons head rest ih =>
    obtain ⟨-, -, tail⟩ := whole
    refine List.nodup_cons.mpr ⟨fun again => ?_, ih tail⟩
    obtain ⟨before, after, split⟩ := List.append_of_mem again
    rw [split] at tail
    have lengths := congrArg List.length (tail.unique tail.suffix)
    simp only [List.length_append, List.length_cons] at lengths
    omega

theorem Segment.relink (whole : Segment next start (cells ++ [last]) finish)
    (same : ∀ cell ∈ cells, next' cell = next cell) (linked : next' last = new) :
    Segment next' start (cells ++ [last]) new := by
  obtain ⟨middle, left, first, nonzero, -⟩ := segment_append.mp whole
  exact segment_append.mpr ⟨middle, left.congr same, first, nonzero, linked⟩

theorem Segment.extend (whole : Segment next start cells last) (nonzero : last ≠ 0)
    (linked : next last = new) : Segment next start (cells ++ [last]) new :=
  segment_append.mpr ⟨last, whole, rfl, nonzero, linked⟩

end

/-! ### Taking a cell out and putting one in -/

section

variable [DecidableEq K] {next : K → K} {start : K} {cells : List K}

theorem Segment.unlink (whole : Segment next start cells 0) {before gone : K}
    (linked : next before = gone) (nonzero : gone ≠ 0) (first : start ≠ gone)
    (only : ∀ cell ∈ cells, next cell = gone → cell = before) :
    Segment (Function.update next before (next gone)) start
      (cells.filter fun cell => cell ≠ gone) 0 := by
  induction cells generalizing start with
  | nil => exact whole
  | cons head rest ih =>
    have once := List.nodup_cons.mp whole.nodup
    obtain ⟨rfl, some, tail⟩ := whole
    rw [List.filter_cons_of_pos (by simpa using first)]
    refine ⟨rfl, some, ?_⟩
    by_cases here : start = before
    · subst here
      rw [Function.update_self]
      cases rest with
      | nil => exact absurd ((show next start = 0 from tail).symm.trans linked).symm nonzero
      | cons second later =>
        obtain ⟨same, -, behind⟩ := tail
        obtain rfl : second = gone := same.symm.trans linked
        have once' := List.nodup_cons.mp once.2
        have kept : (second :: later).filter (fun cell => cell ≠ second) = later := by
          rw [List.filter_cons_of_neg (by simp), List.filter_eq_self]
          intro cell member
          simp only [decide_eq_true_eq]
          rintro rfl
          exact once'.1 member
        rw [kept]
        refine behind.congr fun cell member => Function.update_of_ne ?_ _ _
        rintro rfl
        exact once.1 (List.mem_cons_of_mem _ member)
    · rw [Function.update_of_ne here]
      refine ih tail (fun same => here (only start List.mem_cons_self same)) ?_
      exact fun cell member => only cell (List.mem_cons_of_mem _ member)

/-- `new` is put in behind `cell`. -/
def insertAfter (cell new : K) (cells : List K) : List K :=
  cells.flatMap fun other => if other = cell then [other, new] else [other]

omit [Zero K] in
theorem mem_insertAfter {cell new other : K} :
    other ∈ insertAfter cell new cells ↔ other ∈ cells ∨ (other = new ∧ cell ∈ cells) := by
  unfold insertAfter
  rw [List.mem_flatMap]
  constructor
  · rintro ⟨place, member, inside⟩
    split at inside
    · next same =>
      subst same
      rcases List.mem_cons.mp inside with rfl | rest
      · exact Or.inl member
      · exact Or.inr ⟨List.mem_singleton.mp rest, member⟩
    · rw [List.mem_singleton.mp inside]
      exact Or.inl member
  · rintro (member | ⟨rfl, member⟩)
    · refine ⟨other, member, ?_⟩
      split <;> simp
    · exact ⟨cell, member, by simp⟩

omit [Zero K] in
theorem insertAfter_of_not_mem {cell new : K} (outside : cell ∉ cells) :
    insertAfter cell new cells = cells := by
  induction cells with
  | nil => rfl
  | cons head rest ih =>
    rw [List.mem_cons, not_or] at outside
    rw [insertAfter, List.flatMap_cons, if_neg (Ne.symm outside.1)]
    exact congrArg (head :: ·) (ih outside.2)

theorem Segment.splice (whole : Segment next start cells 0) {cell new : K} (nonzero : new ≠ 0)
    (fresh : new ∉ cells) (apart : cell ≠ new) :
    Segment (Function.update (Function.update next cell new) new (next cell)) start
      (insertAfter cell new cells) 0 := by
  induction cells generalizing start with
  | nil => exact whole
  | cons head rest ih =>
    have once := List.nodup_cons.mp whole.nodup
    obtain ⟨rfl, some, tail⟩ := whole
    rw [List.mem_cons, not_or] at fresh
    rw [insertAfter, List.flatMap_cons]
    by_cases here : start = cell
    · subst here
      rw [if_pos rfl]
      refine ⟨rfl, some, ?_, nonzero, ?_⟩
      · rw [Function.update_of_ne apart, Function.update_self]
      · rw [Function.update_self]
        show Segment _ _ (insertAfter start new rest) 0
        rw [insertAfter_of_not_mem once.1]
        refine tail.congr fun other member => ?_
        have notNew : other ≠ new := ne_of_mem_of_not_mem member fresh.2
        have notStart : other ≠ start := ne_of_mem_of_not_mem member once.1
        rw [Function.update_of_ne notNew, Function.update_of_ne notStart]
    · rw [if_neg here]
      refine ⟨rfl, some, ?_⟩
      rw [Function.update_of_ne (Ne.symm fresh.1), Function.update_of_ne here]
      exact ih tail fresh.2

end

/-! ### Walking a list -/

/-- Follow the links to the last cell, for at most `fuel` steps. -/
def walkEnd [DecidableEq K] (next : K → K) : Nat → K → K
  | 0, cell => cell
  | fuel + 1, cell => if next cell = 0 then cell else walkEnd next fuel (next cell)

theorem walkEnd_eq [DecidableEq K] {next : K → K} {start last : K} {cells : List K} {fuel : Nat}
    (whole : Segment next start (cells ++ [last]) 0) (enough : cells.length ≤ fuel) :
    walkEnd next fuel start = last := by
  induction cells generalizing start fuel with
  | nil =>
    obtain ⟨rfl, -, null⟩ := whole
    cases fuel with
    | zero => rfl
    | succ fuel => exact if_pos null
  | cons head rest ih =>
    obtain ⟨rfl, -, tail⟩ := whole
    cases fuel with
    | zero => exact absurd enough (Nat.not_succ_le_zero _)
    | succ fuel =>
      have more : next start ≠ 0 := by
        cases rest with
        | nil => exact tail.1 ▸ tail.2.1
        | cons head rest => exact tail.1 ▸ tail.2.1
      rw [walkEnd, if_neg more]
      exact ih tail (Nat.le_of_succ_le_succ enough)

/-- A list is no longer than there are keys. -/
theorem Segment.length_le_of_injective {next : K → K} {start : K} {cells : List K}
    (whole : Segment next start cells 0) {index : K → Nat} (injective : Function.Injective index)
    {bound : Nat} (bounded : ∀ cell, index cell < bound) : cells.length ≤ bound := by
  have once : (cells.map index).Nodup := whole.nodup.map injective
  have inside : cells.map index ⊆ List.range bound := by
    intro place member
    obtain ⟨cell, -, rfl⟩ := List.mem_map.mp member
    exact List.mem_range.mpr (bounded cell)
  have short := (List.subperm_of_subset once inside).length_le
  simpa using short

theorem Segment.length_le {next : UInt32 → UInt32} {start : UInt32} {cells : List UInt32}
    (whole : Segment next start cells 0) : cells.length ≤ 2 ^ 32 :=
  whole.length_le_of_injective (fun _ _ same => UInt32.toNat_inj.mp same) UInt32.toNat_lt

end MuRockchip.Base
