/-
Compacting the memory map (`UpdateFacsHardwareSignatureLib.c`).

The memory map is read from the end of a buffer, and the two words that are kept of each selected
descriptor are stored over it, from its start on. Addresses are offsets from the start of the
buffer, and every access is written down.

* `scan_entry`: where the scan is after some descriptors.
* `scan_unread`: descriptors that are not reached yet are as they were.
* `scan_selected`: what is kept, in terms of the map as it was read.
* `scan_confined`, `scan_reaches`: which accesses are made.
-/
import Mathlib.Logic.Function.Iterate
import MuRockchip.Base.Layout

namespace MuRockchip.Acpi

open Base

/-! ### The buffer -/

/-- The contents of a buffer, with the accesses made to it. -/
structure Buffer where
  contents : Nat → UInt8
  accesses : List Interval

namespace Buffer

/-- `AllocateZeroPool`. -/
def zero : Buffer := ⟨fun _ => 0, []⟩

def store (buffer : Buffer) (offset : Nat) (bytes : List UInt8) : Buffer where
  contents := place buffer.contents ⟨offset, bytes⟩
  accesses := buffer.accesses ++ [⟨offset, bytes.length⟩]

/-- A load only shows in the accesses. -/
def touch (buffer : Buffer) (offset count : Nat) : Buffer :=
  { buffer with accesses := buffer.accesses ++ [⟨offset, count⟩] }

end Buffer

/-! ### Descriptors -/

/-- The descriptor at an offset has a type that is selected: reserved, runtime code or data, or
one of the two ACPI types. -/
def Selected (contents : Nat → UInt8) (entry : Nat) : Prop :=
  leValue (slice contents entry 4) ∈ [5, 6, 0, 9, 10]

instance (contents : Nat → UInt8) (entry : Nat) : Decidable (Selected contents entry) :=
  inferInstanceAs (Decidable (_ ∈ _))

/-- `PhysicalStart` of the descriptor at an offset. -/
def physicalStart (contents : Nat → UInt8) (entry : Nat) : List UInt8 :=
  slice contents (entry + 8) 8

/-- `NumberOfPages` of the descriptor at an offset. -/
def numberOfPages (contents : Nat → UInt8) (entry : Nat) : List UInt8 :=
  slice contents (entry + 24) 8

/-- The scan of the memory map: `MapState` and `Entry`, as offsets. -/
structure MapScan where
  buffer : Buffer
  mapState : Nat
  entry : Nat

/-- One round of the loop over the descriptors. -/
def scanEntry (descriptorSize : Nat) (scan : MapScan) : MapScan :=
  let contents := scan.buffer.contents
  let buffer := scan.buffer.touch scan.entry 4
  if Selected contents scan.entry then
    -- the pages are obtained before anything is stored
    let temp := numberOfPages contents scan.entry
    let buffer := buffer.touch (scan.entry + 24) 8
    let buffer := buffer.touch (scan.entry + 8) 8
    let buffer := buffer.store scan.mapState (physicalStart contents scan.entry)
    let buffer := buffer.store (scan.mapState + 8) temp
    ⟨buffer, scan.mapState + 16, scan.entry + descriptorSize⟩
  else ⟨buffer, scan.mapState, scan.entry + descriptorSize⟩

/-- The loop over the descriptors, `count` of them. -/
def scanMap (descriptorSize count : Nat) (scan : MapScan) : MapScan :=
  (scanEntry descriptorSize)^[count] scan

/-- What is kept of the descriptor at an offset. -/
def kept (contents : Nat → UInt8) (entry : Nat) : List UInt8 :=
  if Selected contents entry then physicalStart contents entry ++ numberOfPages contents entry
  else []

/-- What is kept of `count` descriptors. -/
def keptMap (contents : Nat → UInt8) (first descriptorSize count : Nat) : List UInt8 :=
  (List.range count).flatMap fun index => kept contents (first + index * descriptorSize)

/-! ### One descriptor -/

section

variable {contents other : Nat → UInt8} {entry : Nat}

/-- A descriptor is made up of its first 32 bytes. -/
theorem selected_congr (same : ∀ index, entry ≤ index → contents index = other index) :
    Selected contents entry ↔ Selected other entry := by
  unfold Selected
  rw [slice_congr fun index _ => same _ (Nat.le_add_right entry index)]

theorem words_congr (same : ∀ index, entry ≤ index → contents index = other index) :
    physicalStart contents entry = physicalStart other entry ∧
      numberOfPages contents entry = numberOfPages other entry := by
  constructor
  · exact slice_congr fun index _ => same _ (by omega)
  · exact slice_congr fun index _ => same _ (by omega)

theorem kept_congr (same : ∀ index, entry ≤ index → contents index = other index) :
    kept contents entry = kept other entry := by
  unfold kept
  simp only [selected_congr same, words_congr same]

theorem kept_selected (selected : Selected contents entry) : (kept contents entry).length = 16 := by
  simp [kept, selected, physicalStart, numberOfPages]

theorem kept_other (other : ¬ Selected contents entry) : kept contents entry = [] := if_neg other

theorem kept_length_le (contents : Nat → UInt8) (entry : Nat) :
    (kept contents entry).length ≤ 16 := by
  by_cases selected : Selected contents entry
  · exact (kept_selected selected).le
  · rw [kept_other selected]
    exact Nat.zero_le 16

end

theorem keptMap_succ (contents : Nat → UInt8) (first descriptorSize count : Nat) :
    keptMap contents first descriptorSize (count + 1) =
      keptMap contents first descriptorSize count ++
        kept contents (first + count * descriptorSize) := by
  simp [keptMap, List.range_succ]

theorem keptMap_length_le (contents : Nat → UInt8) (first descriptorSize count : Nat) :
    (keptMap contents first descriptorSize count).length ≤ 16 * count := by
  induction count with
  | zero => exact Nat.le_refl 0
  | succ count ih =>
    have here := kept_length_le contents (first + count * descriptorSize)
    rw [keptMap_succ, List.length_append]
    omega

theorem keptMap_nil_iff (contents : Nat → UInt8) (first descriptorSize count : Nat) :
    keptMap contents first descriptorSize count = [] ↔
      ∀ index < count, ¬ Selected contents (first + index * descriptorSize) := by
  rw [keptMap, List.flatMap_eq_nil_iff]
  simp only [List.mem_range]
  refine forall₂_congr fun index _ => ?_
  constructor
  · intro none selected
    have length := kept_selected selected
    rw [none] at length
    cases length
  · exact kept_other

/-! ### The scan -/

/-- Where a scan is that started on these contents and has passed `count` descriptors. -/
structure Scanned (start : Nat → UInt8) (first descriptorSize count : Nat) (scan : MapScan) :
    Prop where
  entry : scan.entry = first + count * descriptorSize
  mapState : scan.mapState = first + (keptMap start first descriptorSize count).length
  stored : slice scan.buffer.contents first (keptMap start first descriptorSize count).length =
    keptMap start first descriptorSize count
  unread : ∀ index, index < first ∨ scan.mapState ≤ index → scan.buffer.contents index = start index

section

variable {start : Nat → UInt8} {first descriptorSize count : Nat} {scan : MapScan}

theorem Scanned.behind (scanned : Scanned start first descriptorSize count scan)
    (wide : 16 ≤ descriptorSize) : scan.mapState ≤ scan.entry := by
  have length := keptMap_length_le start first descriptorSize count
  have product : 16 * count ≤ count * descriptorSize := by
    rw [Nat.mul_comm 16 count]
    exact Nat.mul_le_mul_left count wide
  rw [scanned.mapState, scanned.entry]
  omega

/-- Two words that are stored one after the other. -/
theorem slice_words (contents : Nat → UInt8) (offset : Nat) {low high : List UInt8}
    (lowLength : low.length = 8) (highLength : high.length = 8) :
    slice (place (place contents ⟨offset, low⟩) ⟨offset + 8, high⟩) offset (8 + 8) =
      low ++ high := by
  have first := slice_place_same contents ⟨offset, low⟩
  have second := slice_place_same (place contents ⟨offset, low⟩) ⟨offset + 8, high⟩
  simp only [lowLength, highLength] at first second
  rw [slice_append, second, slice_place_apart, first]
  exact Or.inl (Nat.le_refl (offset + 8))

theorem Scanned.step (scanned : Scanned start first descriptorSize count scan)
    (wide : 16 ≤ descriptorSize) :
    Scanned start first descriptorSize (count + 1) (scanEntry descriptorSize scan) := by
  obtain ⟨entry, mapState, stored, unread⟩ := id scanned
  have behind := scanned.behind wide
  have ahead : ∀ index, scan.entry ≤ index → scan.buffer.contents index = start index :=
    fun index after => unread index (Or.inr (by omega))
  have next : scan.entry + descriptorSize = first + (count + 1) * descriptorSize := by
    rw [entry, Nat.add_mul, Nat.one_mul, Nat.add_assoc]
  have more := keptMap_succ start first descriptorSize count
  rw [← entry, ← kept_congr ahead] at more
  unfold scanEntry
  by_cases selected : Selected scan.buffer.contents scan.entry
  · have length := kept_selected selected
    have words : kept scan.buffer.contents scan.entry =
        physicalStart scan.buffer.contents scan.entry ++
          numberOfPages scan.buffer.contents scan.entry := if_pos selected
    have startLength : (physicalStart scan.buffer.contents scan.entry).length = 8 := slice_length ..
    have pagesLength : (numberOfPages scan.buffer.contents scan.entry).length = 8 := slice_length ..
    simp only [if_pos selected, Buffer.store, Buffer.touch]
    refine ⟨next, ?_, ?_, ?_⟩
    · simp only [more, List.length_append, length, mapState, Nat.add_assoc]
    · have apart {field : Field} (after : scan.mapState ≤ field.offset) : Interval.Disjoint
          ⟨first, (keptMap start first descriptorSize count).length⟩ field.interval :=
        Or.inl (le_of_eq_of_le mapState.symm after)
      rw [more, List.length_append, slice_append, length, ← mapState]
      rw [slice_words _ _ startLength pagesLength,
        slice_place_apart _ (apart (Nat.le_add_right _ 8)),
        slice_place_apart _ (apart (Nat.le_refl _)), stored, words]
    · intro index outside
      dsimp only at outside ⊢
      rw [place_outside, place_outside]
      · exact unread index (by omega)
      · simp only [startLength]
        omega
      · simp only [pagesLength]
        omega
  · have none := kept_other selected
    rw [none, List.append_nil] at more
    simp only [if_neg selected, Buffer.touch]
    refine ⟨next, by rw [more]; exact mapState, by rw [more]; exact stored, unread⟩

theorem scan_entry (wide : 16 ≤ descriptorSize) (buffer : Buffer) (first count : Nat) :
    Scanned buffer.contents first descriptorSize count
      (scanMap descriptorSize count ⟨buffer, first, first⟩) := by
  induction count with
  | zero => exact ⟨by simp [scanMap], rfl, rfl, fun _ _ => rfl⟩
  | succ count ih =>
    rw [scanMap, Function.iterate_succ_apply']
    exact ih.step wide

/-- Descriptors that are not reached yet are as they were. -/
theorem scan_unread (wide : 16 ≤ descriptorSize) (buffer : Buffer) (count : Nat) {index : Nat}
    (later : first + count * descriptorSize ≤ index) :
    (scanMap descriptorSize count ⟨buffer, first, first⟩).buffer.contents index =
      buffer.contents index := by
  have scanned := scan_entry wide buffer first count
  have behind := scanned.behind wide
  rw [scanned.entry] at behind
  exact scanned.unread index (Or.inr (behind.trans later))

/-! ### Accesses -/

theorem scanEntry_accesses (scan : MapScan) :
    (scanEntry descriptorSize scan).buffer.accesses = scan.buffer.accesses ++
      if Selected scan.buffer.contents scan.entry then
        [⟨scan.entry, 4⟩, ⟨scan.entry + 24, 8⟩, ⟨scan.entry + 8, 8⟩, ⟨scan.mapState, 8⟩,
          ⟨scan.mapState + 8, 8⟩]
      else [⟨scan.entry, 4⟩] := by
  unfold scanEntry
  by_cases selected : Selected scan.buffer.contents scan.entry
  · simp [selected, Buffer.store, Buffer.touch, physicalStart, numberOfPages]
  · simp [selected, Buffer.touch]

/-- Whether a descriptor is selected can be seen in the map as it was read. -/
theorem Scanned.selected_iff (scanned : Scanned start first descriptorSize count scan)
    (wide : 16 ≤ descriptorSize) :
    Selected scan.buffer.contents scan.entry ↔
      Selected start (first + count * descriptorSize) := by
  have behind := scanned.behind wide
  rw [← scanned.entry]
  exact selected_congr fun index after => scanned.unread index (Or.inr (behind.trans after))

theorem scan_confined (wide : 16 ≤ descriptorSize) (buffer : Buffer) {count size : Nat}
    (types : count * descriptorSize ≤ size)
    (inside : ∀ index < count, Selected buffer.contents (first + index * descriptorSize) →
      index * descriptorSize + 32 ≤ size) :
    ∀ access ∈ (scanMap descriptorSize count ⟨buffer, first, first⟩).buffer.accesses,
      access ∈ buffer.accesses ∨ access.Within ⟨first, size⟩ := by
  induction count with
  | zero => exact fun access member => Or.inl member
  | succ count ih =>
    have scanned := scan_entry wide buffer first count
    have behind := scanned.behind wide
    have before := ih (by rw [Nat.add_mul] at types; omega)
      fun index below => inside index (Nat.lt_succ_of_lt below)
    intro access member
    rw [scanMap, Function.iterate_succ_apply', ← scanMap, scanEntry_accesses,
      List.mem_append] at member
    rcases member with old | new
    · exact before access old
    · refine Or.inr ?_
      have entry := scanned.entry
      have mapState := scanned.mapState
      rw [Nat.add_mul, Nat.one_mul] at types
      split at new
      · next selected =>
        have whole := inside count (Nat.lt_succ_self count)
          ((scanned.selected_iff wide).mp selected)
        simp only [List.mem_cons, List.not_mem_nil, or_false] at new
        rcases new with rfl | rfl | rfl | rfl | rfl <;>
          simp only [Interval.Within, Interval.finish] <;> omega
      · obtain rfl := List.mem_singleton.mp new
        simp only [Interval.Within, Interval.finish]
        omega

theorem scan_reaches (wide : 16 ≤ descriptorSize) (buffer : Buffer) {count index : Nat}
    (below : index < count) (selected : Selected buffer.contents (first + index * descriptorSize)) :
    ⟨first + index * descriptorSize + 24, 8⟩ ∈
      (scanMap descriptorSize count ⟨buffer, first, first⟩).buffer.accesses := by
  induction count with
  | zero => cases below
  | succ count ih =>
    rw [scanMap, Function.iterate_succ_apply', ← scanMap, scanEntry_accesses, List.mem_append]
    rcases Nat.lt_succ_iff_lt_or_eq.mp below with earlier | rfl
    · exact Or.inl (ih earlier)
    · have scanned := scan_entry wide buffer first index
      rw [if_pos ((scanned.selected_iff wide).mpr selected), scanned.entry]
      simp

end

end MuRockchip.Acpi
