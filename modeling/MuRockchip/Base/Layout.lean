/-
Fields placed in a flat buffer.

A structure in a buffer is a list of fields, each some bytes at an offset. Storing
them one after the other leaves every field readable when no two overlap, and
leaves the rest of the buffer alone.

* `slice_placeAll`: a field reads back.
* `slice_slice`: a part of a slice is a slice.
* `Holds.append`: what is stored from the start of a part on that was zero.
-/
import MuRockchip.Base.Memory

namespace MuRockchip.Base

/-- Some bytes at an offset of a buffer. -/
structure Field where
  offset : Nat
  bytes : List UInt8

namespace Field

def interval (field : Field) : Interval := ⟨field.offset, field.bytes.length⟩

end Field

/-- The `count` bytes of a buffer from an offset on. -/
def slice (contents : Nat → UInt8) (offset count : Nat) : List UInt8 :=
  (List.range count).map fun index => contents (offset + index)

/-- Store a field. -/
def place (contents : Nat → UInt8) (field : Field) : Nat → UInt8 := fun index =>
  if field.offset ≤ index then field.bytes[index - field.offset]?.getD (contents index)
  else contents index

/-- Store fields one after the other. -/
def placeAll (contents : Nat → UInt8) (fields : List Field) : Nat → UInt8 :=
  fields.foldl place contents

@[simp]
theorem slice_length (contents : Nat → UInt8) (offset count : Nat) :
    (slice contents offset count).length = count := by
  simp [slice]

variable {count offset : Nat} {field : Field}

theorem slice_congr {left right : Nat → UInt8}
    (agree : ∀ index < count, left (offset + index) = right (offset + index)) :
    slice left offset count = slice right offset count := by
  apply List.map_congr_left
  intro index member
  exact agree index (List.mem_range.mp member)

theorem slice_slice (contents : Nat → UInt8) {start width : Nat} (inside : start + width ≤ count) :
    slice contents (offset + start) width =
      ((slice contents offset count).drop start).take width := by
  apply List.ext_getElem
  · simp
    omega
  · intro index _ _
    simp [slice, Nat.add_assoc]

/-- Two slices one after the other are one slice. -/
theorem slice_append (contents : Nat → UInt8) (offset first second : Nat) :
    slice contents offset (first + second) =
      slice contents offset first ++ slice contents (offset + first) second := by
  simp [slice, List.range_add, Nat.add_assoc]

theorem slice_place_same (contents : Nat → UInt8) (field : Field) :
    slice (place contents field) field.offset field.bytes.length = field.bytes := by
  apply List.ext_getElem
  · simp
  · intro index _ inside
    simp [slice, place, List.getElem?_eq_getElem inside]

theorem slice_place_apart (contents : Nat → UInt8)
    (apart : Interval.Disjoint ⟨offset, count⟩ field.interval) :
    slice (place contents field) offset count = slice contents offset count := by
  apply slice_congr
  intro index inside
  unfold place
  split
  · rename_i after
    have beyond : field.bytes.length ≤ offset + index - field.offset := by
      rcases apart with before | behind
      · have : offset + count ≤ field.offset := before
        omega
      · have : field.offset + field.bytes.length ≤ offset := behind
        omega
    simp [List.getElem?_eq_none beyond]
  · rfl

theorem slice_placeAll_apart (contents : Nat → UInt8) {fields : List Field}
    (apart : ∀ field ∈ fields, Interval.Disjoint ⟨offset, count⟩ field.interval) :
    slice (placeAll contents fields) offset count = slice contents offset count := by
  induction fields generalizing contents with
  | nil => rfl
  | cons field rest ih =>
    have here := slice_place_apart contents (apart field (List.mem_cons_self ..))
    have later := ih (place contents field) fun other member =>
      apart other (List.mem_cons_of_mem _ member)
    exact later.trans here

/-- Of fields that do not overlap, each reads back. -/
theorem slice_placeAll (contents : Nat → UInt8) {fields : List Field}
    (apart : fields.Pairwise fun first second => first.interval.Disjoint second.interval)
    (member : field ∈ fields) :
    slice (placeAll contents fields) field.offset field.bytes.length = field.bytes := by
  induction fields generalizing contents with
  | nil => cases member
  | cons first rest ih =>
    obtain ⟨fromFirst, others⟩ := List.pairwise_cons.mp apart
    rcases List.mem_cons.mp member with rfl | later
    · have kept := slice_placeAll_apart (place contents field) fromFirst
      exact kept.trans (slice_place_same contents field)
    · exact ih (place contents first) others later

theorem place_outside {contents : Nat → UInt8} {index : Nat}
    (outside : index < field.offset ∨ field.offset + field.bytes.length ≤ index) :
    place contents field index = contents index := by
  unfold place
  split
  · next after =>
    have beyond : field.bytes.length ≤ index - field.offset := by omega
    simp [List.getElem?_eq_none beyond]
  · rfl

/-! ### Padding -/

/-- Some bytes, and zeros up to a size. -/
def padTo (size : Nat) (bytes : List UInt8) : List UInt8 :=
  bytes ++ List.replicate (size - bytes.length) 0

theorem padTo_length {size : Nat} {bytes : List UInt8} (fits : bytes.length ≤ size) :
    (padTo size bytes).length = size := by
  simp [padTo, Nat.add_sub_cancel' fits]

/-- A part of a buffer holds some bytes and is zero after them. -/
def Holds (contents : Nat → UInt8) (offset size : Nat) (bytes : List UInt8) : Prop :=
  ∀ index < size, contents (offset + index) = bytes[index]?.getD 0

namespace Holds

variable {contents : Nat → UInt8} {offset size : Nat} {bytes : List UInt8}

theorem zero : Holds (fun _ => 0) offset size [] := fun _ _ => rfl

theorem append (holds : Holds contents offset size bytes) (more : List UInt8) :
    Holds (place contents ⟨offset + bytes.length, more⟩) offset size (bytes ++ more) := by
  intro index inside
  have before := holds index inside
  by_cases first : index < bytes.length
  · rw [place_outside (Or.inl (Nat.add_lt_add_left first offset)), before,
      List.getElem?_append_left first]
  · have later := Nat.le_of_not_lt first
    rw [List.getElem?_eq_none later, Option.getD_none] at before
    rw [place, if_pos (Nat.add_le_add_left later offset), before, Nat.add_sub_add_left,
      List.getElem?_append_right later]

theorem append_zeros (holds : Holds contents offset size bytes) (count : Nat) :
    Holds contents offset size (bytes ++ List.replicate count 0) := by
  intro index inside
  rw [holds index inside]
  by_cases first : index < bytes.length
  · rw [List.getElem?_append_left first]
  · have later := Nat.le_of_not_lt first
    rw [List.getElem?_append_right later, List.getElem?_eq_none later, List.getElem?_replicate]
    split <;> rfl

/-- What comes after the bytes is zero. -/
theorem rest {gap : Nat} (holds : Holds contents offset (gap + size) bytes)
    (fits : bytes.length ≤ gap) : Holds contents (offset + gap) size [] := by
  intro index inside
  rw [Nat.add_assoc, holds (gap + index) (Nat.add_lt_add_left inside gap),
    List.getElem?_eq_none (Nat.le_add_right_of_le fits)]
  rfl

theorem apart (holds : Holds contents offset size bytes) (field : Field)
    (elsewhere : Interval.Disjoint ⟨offset, size⟩ field.interval) :
    Holds (place contents field) offset size bytes := by
  intro index inside
  rw [place_outside]
  · exact holds index inside
  · rcases elsewhere with before | after
    · have : offset + size ≤ field.offset := before
      omega
    · have : field.offset + field.bytes.length ≤ offset := after
      omega

theorem slice_eq (holds : Holds contents offset size bytes) (fits : bytes.length ≤ size) :
    slice contents offset size = padTo size bytes := by
  apply List.ext_getElem
  · rw [slice_length, padTo_length fits]
  · intro index left right
    rw [slice_length] at left
    have padded : (padTo size bytes)[index] = (padTo size bytes)[index]?.getD 0 := by
      rw [List.getElem?_eq_getElem right, Option.getD_some]
    have read : (slice contents offset size)[index] = contents (offset + index) := by
      simp [slice]
    rw [read, padded, holds index left, padTo]
    by_cases first : index < bytes.length
    · rw [List.getElem?_append_left first]
    · have later := Nat.le_of_not_lt first
      rw [List.getElem?_append_right later, List.getElem?_eq_none later, List.getElem?_replicate]
      split <;> rfl

end Holds

end MuRockchip.Base
