/-
Virtual address maps.

A map assigns a range of virtual addresses to each of a list of regions of physical
memory. Neither the physical ranges nor the virtual ones overlap, so the two
translations are inverse to each other where they are defined.

* `toVirtual_of_mem`, `toPhysical_of_mem`: a translation keeps the distance from the
  start of a region.
* `toPhysical_toVirtual`, `toVirtual_toPhysical`: the translations are inverse.
-/
import MuRockchip.Base.Memory

namespace MuRockchip.Base

/-! ### Regions -/

def Interval.Contains (range : Interval) (address : Nat) : Prop :=
  range.base ≤ address ∧ address < range.finish

instance (range : Interval) (address : Nat) : Decidable (range.Contains address) :=
  inferInstanceAs (Decidable (_ ∧ _))

theorem Interval.Disjoint.not_contains {left right : Interval} {address : Nat}
    (apart : left.Disjoint right) (inLeft : left.Contains address) : ¬ right.Contains address := by
  intro inRight
  obtain ⟨startLeft, endLeft⟩ := inLeft
  obtain ⟨startRight, endRight⟩ := inRight
  rcases apart with before | after
  · omega
  · omega

/-- A region of physical memory, and where it is mapped. -/
structure Region where
  physicalStart : UInt64
  virtualStart : UInt64
  length : Nat
  deriving DecidableEq, Repr

namespace Region

def physical (region : Region) : Interval := ⟨region.physicalStart.toNat, region.length⟩

def virtual (region : Region) : Interval := ⟨region.virtualStart.toNat, region.length⟩

end Region

theorem find?_of_disjoint {regions : List Region} {range : Region → Interval} {region : Region}
    {address : Nat}
    (disjoint : regions.Pairwise fun left right => (range left).Disjoint (range right))
    (member : region ∈ regions) (inside : (range region).Contains address) :
    regions.find? (fun region => (range region).Contains address) = some region := by
  induction regions with
  | nil => cases member
  | cons first rest ih =>
    obtain ⟨apart, later⟩ := List.pairwise_cons.mp disjoint
    rcases List.mem_cons.mp member with rfl | behind
    · exact List.find?_cons_of_pos (decide_eq_true inside)
    · have outside : ¬ (range first).Contains address := fun here =>
        (apart region behind).not_contains here inside
      rw [List.find?_cons_of_neg (by simpa using outside)]
      exact ih later behind

/-! ### Maps -/

/-- A virtual address map. -/
structure AddressMap where
  regions : List Region
  physicalDisjoint : regions.Pairwise fun left right => left.physical.Disjoint right.physical
  virtualDisjoint : regions.Pairwise fun left right => left.virtual.Disjoint right.virtual
  bounded : ∀ region ∈ regions, region.physical.finish ≤ 2 ^ 64 ∧ region.virtual.finish ≤ 2 ^ 64

namespace AddressMap

/-- Where an address of physical memory is mapped. -/
def toVirtual (map : AddressMap) (address : UInt64) : Option UInt64 :=
  (map.regions.find? fun region => region.physical.Contains address.toNat).map fun region =>
    region.virtualStart + (address - region.physicalStart)

def toPhysical (map : AddressMap) (address : UInt64) : Option UInt64 :=
  (map.regions.find? fun region => region.virtual.Contains address.toNat).map fun region =>
    region.physicalStart + (address - region.virtualStart)

section

variable {map : AddressMap} {region : Region} {address translated : UInt64}

theorem toVirtual_of_mem (member : region ∈ map.regions)
    (inside : region.physical.Contains address.toNat) :
    map.toVirtual address = some (region.virtualStart + (address - region.physicalStart)) := by
  rw [toVirtual, find?_of_disjoint map.physicalDisjoint member inside, Option.map_some]

theorem toPhysical_of_mem (member : region ∈ map.regions)
    (inside : region.virtual.Contains address.toNat) :
    map.toPhysical address = some (region.physicalStart + (address - region.virtualStart)) := by
  rw [toPhysical, find?_of_disjoint map.virtualDisjoint member inside, Option.map_some]

theorem exists_of_toVirtual (mapped : map.toVirtual address = some translated) :
    ∃ region ∈ map.regions, region.physical.Contains address.toNat ∧
      translated = region.virtualStart + (address - region.physicalStart) := by
  obtain ⟨region, found, rfl⟩ := Option.map_eq_some_iff.mp mapped
  exact ⟨region, List.mem_of_find?_eq_some found, by simpa using List.find?_some found, rfl⟩

theorem exists_of_toPhysical (mapped : map.toPhysical address = some translated) :
    ∃ region ∈ map.regions, region.virtual.Contains address.toNat ∧
      translated = region.physicalStart + (address - region.virtualStart) := by
  obtain ⟨region, found, rfl⟩ := Option.map_eq_some_iff.mp mapped
  exact ⟨region, List.mem_of_find?_eq_some found, by simpa using List.find?_some found, rfl⟩

theorem moved_contains {start other : UInt64} {length : Nat}
    (inside : Interval.Contains ⟨start.toNat, length⟩ address.toNat)
    (room : other.toNat + length ≤ 2 ^ 64) :
    Interval.Contains ⟨other.toNat, length⟩ (other + (address - start)).toNat := by
  obtain ⟨begins, ends⟩ := inside
  simp only [Interval.finish] at begins ends
  have distance := UInt64.toNat_sub_of_le _ _ (UInt64.le_iff_toNat_le.mpr begins)
  have sum : (other + (address - start)).toNat = other.toNat + (address.toNat - start.toNat) := by
    rw [UInt64.toNat_add, distance]
    omega
  simp only [Interval.Contains, Interval.finish, sum]
  omega

theorem moved_back (start other : UInt64) :
    start + (other + (address - start) - other) = address := by
  rw [UInt64.add_comm other, UInt64.add_sub_cancel, UInt64.add_comm, UInt64.sub_add_cancel]

theorem toPhysical_toVirtual (mapped : map.toVirtual address = some translated) :
    map.toPhysical translated = some address := by
  obtain ⟨region, member, inside, rfl⟩ := exists_of_toVirtual mapped
  have there := moved_contains inside (map.bounded region member).2
  rw [toPhysical_of_mem member there, moved_back]

theorem toVirtual_toPhysical (mapped : map.toPhysical address = some translated) :
    map.toVirtual translated = some address := by
  obtain ⟨region, member, inside, rfl⟩ := exists_of_toPhysical mapped
  have there := moved_contains inside (map.bounded region member).1
  rw [toVirtual_of_mem member there, moved_back]

end

end AddressMap

end MuRockchip.Base
