/-
Records of words in memory.

A C structure of unsigned fields of one width is the bytes of its fields one after the
other. Where memory holds these bytes, each field is loaded from its own offset, and an
array of records of one size is loaded record by record.

* `Memory.read_part`: a part of the bytes memory holds.
* `Memory.read_item`: an item of a list of items of one size.
* `loadUInt32_item`, `loadUInt64_item`: a field of a record of words.
-/
import MuRockchip.Base.Memory
import MuRockchip.Base.Bytes

namespace MuRockchip.Base

/-- Some bytes to be stored at an address. -/
structure MemStore where
  address : UInt64
  bytes : List UInt8
  deriving DecidableEq, Repr

/-- The range a store reaches. -/
def MemStore.interval (store : MemStore) : Interval := ⟨store.address.toNat, store.bytes.length⟩

namespace Memory

/-- Stores made one after the other. -/
def storing (memory : Memory) (stores : List MemStore) : Memory :=
  stores.foldl (fun memory store => memory.write store.address store.bytes) memory

@[simp]
theorem storing_nil (memory : Memory) : memory.storing [] = memory := rfl

@[simp]
theorem storing_cons (memory : Memory) (store : MemStore) (rest : List MemStore) :
    memory.storing (store :: rest) = (memory.write store.address store.bytes).storing rest := rfl

theorem storing_append (memory : Memory) (first second : List MemStore) :
    memory.storing (first ++ second) = (memory.storing first).storing second :=
  List.foldl_append ..

variable {base : UInt64} {stores : List MemStore} {memory : Memory}

/-- A range that no store reaches keeps its bytes. -/
theorem read_storing_apart {length : Nat} (fits : base.toNat + length ≤ 2 ^ 64)
    (within : ∀ store ∈ stores, store.address.toNat + store.bytes.length ≤ 2 ^ 64)
    (apart : ∀ store ∈ stores, Interval.Disjoint ⟨base.toNat, length⟩ store.interval)
    (memory : Memory) : (memory.storing stores).read base length = memory.read base length := by
  induction stores generalizing memory with
  | nil => rfl
  | cons store rest ih =>
    rw [storing_cons, ih (fun other member => within other (List.mem_cons_of_mem _ member))
      fun other member => apart other (List.mem_cons_of_mem _ member)]
    exact read_write_apart memory fits (within store List.mem_cons_self)
      (apart store List.mem_cons_self)

/-- A store to one part of a structure leaves another part as it was. -/
theorem read_write_part (memory : Memory) {offset width place size : Nat} {bytes : List UInt8}
    (room : base.toNat + size ≤ 2 ^ 64) (inside : offset + width ≤ size)
    (placed : place + bytes.length ≤ size)
    (apart : offset + width ≤ place ∨ place + bytes.length ≤ offset) :
    (memory.write (base + UInt64.ofNat place) bytes).read (base + UInt64.ofNat offset) width =
      memory.read (base + UInt64.ofNat offset) width := by
  apply read_congr
  intro index member
  have far : bytes.length ≤
      (base + UInt64.ofNat offset + UInt64.ofNat index - (base + UInt64.ofNat place)).toNat := by
    simp only [UInt64.toNat_sub, UInt64.toNat_add, UInt64.toNat_ofNat']
    omega
  simp [write, List.getElem?_eq_none far]

theorem write_outside {address : UInt64} {bytes : List UInt8}
    (outside : bytes.length ≤ (address - base).toNat) :
    memory.write base bytes address = memory address := by
  rw [write, List.getElem?_eq_none outside, Option.getD_none]

/-- Two stores, one where the other ends, are one store. -/
theorem write_write_append (memory : Memory) (base : UInt64) (first second : List UInt8)
    (fits : first.length + second.length ≤ 2 ^ 64) :
    (memory.write base first).write (base + UInt64.ofNat first.length) second =
      memory.write base (first ++ second) := by
  funext address
  have distance : (address - (base + UInt64.ofNat first.length)).toNat =
      (2 ^ 64 - (base.toNat + first.length) % 2 ^ 64 + address.toNat) % 2 ^ 64 := by
    rw [UInt64.toNat_sub, UInt64.toNat_add, UInt64.toNat_ofNat', Nat.add_mod_mod]
  have whole : (address - base).toNat = (2 ^ 64 - base.toNat + address.toNat) % 2 ^ 64 :=
    UInt64.toNat_sub ..
  have low := base.toNat_lt
  have high := address.toNat_lt
  unfold write
  rcases Nat.lt_or_ge (address - base).toNat first.length with inside | behind
  · have beyond : second.length ≤ (address - (base + UInt64.ofNat first.length)).toNat := by
      omega
    rw [List.getElem?_eq_none beyond, List.getElem?_append_left inside,
      List.getElem?_eq_getElem inside]
    rfl
  · have place : (address - (base + UInt64.ofNat first.length)).toNat =
        (address - base).toNat - first.length := by omega
    rw [List.getElem?_append_right behind, List.getElem?_eq_none behind, place]
    rfl

theorem storing_outside {address : UInt64}
    (outside : ∀ store ∈ stores, store.bytes.length ≤ (address - store.address).toNat) :
    memory.storing stores address = memory address := by
  induction stores generalizing memory with
  | nil => rfl
  | cons store rest ih =>
    rw [storing_cons, ih fun other member => outside other (List.mem_cons_of_mem _ member),
      write_outside (outside store List.mem_cons_self)]

theorem read_part {before part after : List UInt8}
    (held : memory.read base (before ++ part ++ after).length = before ++ part ++ after) :
    memory.read (base + UInt64.ofNat before.length) part.length = part := by
  have slice := read_slice memory base
    (show before.length + part.length ≤ (before ++ part ++ after).length by
      simp only [List.length_append]; omega)
  rw [slice, held, List.append_assoc, List.drop_left, List.take_left]

theorem read_item {α : Type} {width : Nat} {items : List α} {bytes : α → List UInt8}
    (wide : ∀ item, (bytes item).length = width)
    (held : memory.read base (items.flatMap bytes).length = items.flatMap bytes) (index : Nat)
    (inside : index < items.length) :
    memory.read (base + UInt64.ofNat (width * index)) width = bytes items[index] := by
  have before : ((items.take index).flatMap bytes).length = width * index := by
    rw [List.length_flatMap, List.map_congr_left fun item _ => wide item]
    simp only [List.map_const', List.length_take, List.sum_replicate_nat,
      Nat.min_eq_left (Nat.le_of_lt inside), Nat.mul_comm]
  have split : items.flatMap bytes =
      (items.take index).flatMap bytes ++ bytes items[index] ++
        (items.drop (index + 1)).flatMap bytes := by
    conv_lhs => rw [← List.take_append_drop index items, List.drop_eq_getElem_cons inside]
    rw [List.flatMap_append, List.flatMap_cons, List.append_assoc]
  rw [split] at held
  have part := read_part held
  rwa [before, wide] at part

end Memory

/-! ### Words -/

/-- A 32-bit field. -/
@[irreducible]
def loadUInt32 (memory : Memory) (address : UInt64) : UInt32 :=
  UInt32.ofNat (leValue (memory.read address 4))

/-- A 64-bit field. -/
@[irreducible]
def loadUInt64 (memory : Memory) (address : UInt64) : UInt64 :=
  UInt64.ofNat (leValue (memory.read address 8))

/-- The bytes of a record of 32-bit fields. -/
def bytesOfUInt32s (words : List UInt32) : List UInt8 :=
  words.flatMap fun word => leBytes 4 word.toNat

/-- The bytes of a record of 64-bit fields. -/
def bytesOfUInt64s (words : List UInt64) : List UInt8 :=
  words.flatMap fun word => leBytes 8 word.toNat

theorem bytesOfUInt32s_length (words : List UInt32) :
    (bytesOfUInt32s words).length = 4 * words.length := by
  simp [bytesOfUInt32s, List.length_flatMap, Nat.mul_comm]

theorem bytesOfUInt64s_length (words : List UInt64) :
    (bytesOfUInt64s words).length = 8 * words.length := by
  simp [bytesOfUInt64s, List.length_flatMap, Nat.mul_comm]

theorem loadUInt32_of_read {memory : Memory} {address : UInt64} {word : UInt32}
    (held : memory.read address 4 = leBytes 4 word.toNat) : loadUInt32 memory address = word := by
  rw [loadUInt32, held, leValue_leBytes_of_lt word.toNat_lt, UInt32.ofNat_toNat]

theorem loadUInt64_of_read {memory : Memory} {address : UInt64} {word : UInt64}
    (held : memory.read address 8 = leBytes 8 word.toNat) : loadUInt64 memory address = word := by
  rw [loadUInt64, held, leValue_leBytes_of_lt word.toNat_lt, UInt64.ofNat_toNat]

theorem leBytes_ofNat_leValue {bytes : List UInt8} (eight : bytes.length = 8) :
    leBytes 8 (UInt64.ofNat (leValue bytes)).toNat = bytes := by
  have bound := leValue_lt bytes
  have back := leBytes_leValue bytes
  rw [eight] at bound back
  rw [UInt64.toNat_ofNat_of_lt' bound, back]

section

variable {memory : Memory} {base : UInt64}

/-- A field of a record of 32-bit fields. -/
theorem loadUInt32_item {words : List UInt32}
    (held : memory.read base (bytesOfUInt32s words).length = bytesOfUInt32s words)
    (index : Nat) (inside : index < words.length) :
    loadUInt32 memory (base + UInt64.ofNat (4 * index)) = words[index] :=
  loadUInt32_of_read (Memory.read_item (fun word => leBytes_length 4 word.toNat) held index inside)

/-- A field of a record of 64-bit fields. -/
theorem loadUInt64_item {words : List UInt64}
    (held : memory.read base (bytesOfUInt64s words).length = bytesOfUInt64s words)
    (index : Nat) (inside : index < words.length) :
    loadUInt64 memory (base + UInt64.ofNat (8 * index)) = words[index] :=
  loadUInt64_of_read (Memory.read_item (fun word => leBytes_length 8 word.toNat) held index inside)

end

end MuRockchip.Base
