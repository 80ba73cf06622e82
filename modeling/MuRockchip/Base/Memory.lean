/-
Byte-addressed memory with 64-bit addresses.

Addresses wrap, as pointer arithmetic does on the machine: the cells of a range
are those whose distance from its base is below its length. The frame laws are
what allocator and marshalling proofs use.

* `read_write_same`: a read returns what was just written there.
* `read_write_apart`, `read_fill_apart`: a read sees no write to a disjoint range.
* `read_fill_inside`: inside a filled range every byte is the fill.
-/
import MuRockchip.Base.Bytes

namespace MuRockchip.Base

/-! ### Address ranges -/

/-- A range of addresses, in unbounded arithmetic. -/
structure Interval where
  base : Nat
  length : Nat
  deriving DecidableEq, Repr

namespace Interval

def finish (range : Interval) : Nat := range.base + range.length

/-- Every address of the first range belongs to the second. -/
def Within (inner outer : Interval) : Prop :=
  outer.base ≤ inner.base ∧ inner.finish ≤ outer.finish

/-- One range ends before the other begins. -/
def Disjoint (left right : Interval) : Prop :=
  left.finish ≤ right.base ∨ right.finish ≤ left.base

instance (inner outer : Interval) : Decidable (inner.Within outer) :=
  inferInstanceAs (Decidable (_ ∧ _))

instance (left right : Interval) : Decidable (left.Disjoint right) :=
  inferInstanceAs (Decidable (_ ∨ _))

theorem Within.trans {first second third : Interval} (inner : first.Within second)
    (outer : second.Within third) : first.Within third :=
  ⟨outer.1.trans inner.1, inner.2.trans outer.2⟩

variable {left right : Interval}

theorem Disjoint.symm (apart : left.Disjoint right) :
    right.Disjoint left :=
  Or.symm apart

theorem Disjoint.mono {inLeft inRight : Interval} (apart : left.Disjoint right)
    (hLeft : inLeft.Within left) (hRight : inRight.Within right) : inLeft.Disjoint inRight := by
  rcases apart with before | after
  · exact Or.inl (hLeft.2.trans (before.trans hRight.1))
  · exact Or.inr (hRight.2.trans (after.trans hLeft.1))

/-- A nonempty range does not lie within two disjoint ranges. -/
theorem Disjoint.not_within {inner : Interval} (apart : left.Disjoint right)
    (positive : 0 < inner.length) (inLeft : inner.Within left) : ¬ inner.Within right := by
  intro inRight
  have limits := And.intro inLeft inRight
  unfold Within at limits
  unfold Disjoint finish at *
  omega

theorem Disjoint.ne_of_pos (apart : left.Disjoint right)
    (positive : 0 < left.length) : left ≠ right := by
  rintro rfl
  unfold Disjoint finish at apart
  omega

end Interval

/-! ### Memory -/

/-- The contents of memory. -/
abbrev Memory := UInt64 → UInt8

namespace Memory

/-- The `length` bytes from `base` on. -/
def read (memory : Memory) (base : UInt64) (length : Nat) : List UInt8 :=
  (List.range length).map fun index => memory (base + UInt64.ofNat index)

/-- Store a byte string at `base`. -/
def write (memory : Memory) (base : UInt64) (bytes : List UInt8) : Memory :=
  fun address => bytes[(address - base).toNat]?.getD (memory address)

/-- Store one byte in each of the `length` cells from `base` on. -/
def fill (memory : Memory) (base length : UInt64) (byte : UInt8) : Memory :=
  fun address => if address - base < length then byte else memory address

/-- Copy `length` bytes; source and destination may overlap. -/
def copy (memory : Memory) (destination source length : UInt64) : Memory :=
  fun address =>
    if address - destination < length then memory (source + (address - destination))
    else memory address

@[simp]
theorem read_length (memory : Memory) (base : UInt64) (length : Nat) :
    (memory.read base length).length = length := by
  simp [read]

/-- Two memories that agree on a range give the same reads of it. -/
theorem read_congr {left right : Memory} {base : UInt64} {length : Nat}
    (agree : ∀ index < length,
      left (base + UInt64.ofNat index) = right (base + UInt64.ofNat index)) :
    left.read base length = right.read base length := by
  apply List.map_congr_left
  intro index member
  exact agree index (List.mem_range.mp member)

variable {length : Nat} {base other : UInt64} {byte : UInt8}

/-- A field of a structure is a slice of the structure's bytes. -/
theorem read_slice (memory : Memory) (base : UInt64) {offset width : Nat}
    (inside : offset + width ≤ length) :
    memory.read (base + UInt64.ofNat offset) width =
      ((memory.read base length).drop offset).take width := by
  apply List.ext_getElem
  · simp; omega
  · intro index _ _
    simp [read, UInt64.add_assoc]

theorem read_append (memory : Memory) (base : UInt64) (first second : Nat) :
    memory.read base (first + second) =
      memory.read base first ++ memory.read (base + UInt64.ofNat first) second := by
  simp only [read, List.range_add, List.map_append, List.map_map]
  congr 1
  apply List.map_congr_left
  intro index _
  simp [UInt64.add_assoc]

theorem read_write_same (memory : Memory) (base : UInt64) (bytes : List UInt8)
    (fits : bytes.length ≤ 2 ^ 64) : (memory.write base bytes).read base bytes.length = bytes := by
  apply List.ext_getElem
  · simp
  · intro index _ inside
    have offset : (base + UInt64.ofNat index - base).toNat = index := by
      rw [UInt64.toNat_sub, UInt64.toNat_add, UInt64.toNat_ofNat']
      have := base.toNat_lt
      omega
    simp only [read, List.getElem_map, List.getElem_range, write, offset,
      List.getElem?_eq_getElem inside, Option.getD_some]

theorem read_write_prefix (memory : Memory) (base : UInt64) {bytes : List UInt8} {count : Nat}
    (fits : bytes.length ≤ 2 ^ 64) (part : count ≤ bytes.length) :
    (memory.write base bytes).read base count = bytes.take count := by
  have slice := read_slice (memory.write base bytes) base (show 0 + count ≤ bytes.length by omega)
  rw [read_write_same memory base bytes fits] at slice
  simpa using slice

/-- The distance of an address from a disjoint range's base is at least that
range's length: the subtraction wraps when the address lies below. -/
theorem distance_of_apart {index size : Nat} (fits : base.toNat + length ≤ 2 ^ 64)
    (inside : index < length) (otherFits : other.toNat + size ≤ 2 ^ 64)
    (apart : Interval.Disjoint ⟨base.toNat, length⟩ ⟨other.toNat, size⟩) :
    size ≤ (base + UInt64.ofNat index - other).toNat := by
  simp only [Interval.Disjoint, Interval.finish] at apart
  rw [UInt64.toNat_sub, UInt64.toNat_add, UInt64.toNat_ofNat']
  have := other.toNat_lt
  omega

theorem read_write_apart (memory : Memory) {bytes : List UInt8}
    (fits : base.toNat + length ≤ 2 ^ 64) (otherFits : other.toNat + bytes.length ≤ 2 ^ 64)
    (apart : Interval.Disjoint ⟨base.toNat, length⟩ ⟨other.toNat, bytes.length⟩) :
    (memory.write other bytes).read base length = memory.read base length := by
  apply read_congr
  intro index inside
  have far := distance_of_apart fits inside otherFits apart
  simp [write, List.getElem?_eq_none far]

theorem read_fill_apart (memory : Memory) {size : UInt64} (fits : base.toNat + length ≤ 2 ^ 64)
    (otherFits : other.toNat + size.toNat ≤ 2 ^ 64)
    (apart : Interval.Disjoint ⟨base.toNat, length⟩ ⟨other.toNat, size.toNat⟩) :
    (memory.fill other size byte).read base length = memory.read base length := by
  apply read_congr
  intro index inside
  have far := distance_of_apart fits inside otherFits apart
  have beyond : ¬ (base + UInt64.ofNat index - other < size) := by
    rw [UInt64.lt_iff_toNat_lt]
    omega
  simp [fill, beyond]

theorem read_fill_inside (memory : Memory) {size : UInt64}
    (inside : Interval.Within ⟨base.toNat, length⟩ ⟨other.toNat, size.toNat⟩) :
    (memory.fill other size byte).read base length = List.replicate length byte := by
  apply List.ext_getElem
  · simp
  · intro index member _
    simp only [Interval.Within, Interval.finish] at inside
    have near : base + UInt64.ofNat index - other < size := by
      rw [read_length] at member
      rw [UInt64.lt_iff_toNat_lt, UInt64.toNat_sub, UInt64.toNat_add, UInt64.toNat_ofNat']
      have := other.toNat_lt
      omega
    simp [read, fill, near]

/-- A fill leaves alone what it would have stored. -/
theorem fill_keeps {memory : Memory} {length address : UInt64}
    (already : memory address = byte) : memory.fill base length byte address = byte := by
  rw [fill]
  split
  · rfl
  · exact already

theorem fill_eq_self_iff {memory : Memory} {length : UInt64} :
    memory.fill base length byte = memory ↔
      ∀ address, address - base < length → memory address = byte := by
  constructor
  · intro same address inside
    rw [← same, fill, if_pos inside]
  · intro already
    funext address
    rw [fill]
    split
    · rename_i inside
      exact (already address inside).symm
    · rfl

theorem copy_inside (memory : Memory) {destination source length : UInt64} {index : Nat}
    (inside : index < length.toNat) :
    memory.copy destination source length (destination + UInt64.ofNat index) =
      memory (source + UInt64.ofNat index) := by
  have distance : destination + UInt64.ofNat index - destination = UInt64.ofNat index := by
    rw [UInt64.add_comm, UInt64.add_sub_cancel]
  have below : UInt64.ofNat index < length := by
    have := length.toNat_lt
    rw [UInt64.lt_iff_toNat_lt, UInt64.toNat_ofNat']
    omega
  rw [copy, distance, if_pos below]

end Memory

end MuRockchip.Base
