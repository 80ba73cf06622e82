/-
The memory map (`ArmPlatformGetVirtualMemoryMap` of both families).

The map is a table of regions with an empty one at its end. The regions for the memory follow from
the size that was detected: that of the RK356x goes around the devices below 4 GiB, that of the
RK3399 is one gigabyte and the rest.

* `rk356x_ramMapped_iff`, `rk3399_ramMapped_iff`: the sizes whose map is right.
* `memoryMap_exact_iff`: from the registers to the map.
-/
import MuRockchip.Base.Memory
import MuRockchip.Dram.Capacity

namespace MuRockchip.Dram

open MuRockchip.Base

/-! ### Regions -/

/-- `ARM_MEMORY_REGION_ATTRIBUTES`, as far as the two tables use it. The first one is zero. -/
inductive Attributes where
  | uncachedUnbuffered
  | writeBack
  | device
  deriving DecidableEq, Repr

/-- `ARM_MEMORY_REGION_DESCRIPTOR`. -/
structure Descriptor where
  physicalBase : UInt64
  virtualBase : UInt64
  length : UInt64
  attributes : Attributes
  deriving DecidableEq, Repr

/-- The addresses of a region. -/
def Descriptor.range (descriptor : Descriptor) : Interval where
  base := descriptor.physicalBase.toNat
  length := descriptor.length.toNat

/-- A region that is mapped to its own addresses. -/
def Descriptor.flat (base length : UInt64) (attributes : Attributes) : Descriptor where
  physicalBase := base
  virtualBase := base
  length := length
  attributes := attributes

def endOfTable : Descriptor := Descriptor.flat 0 0 .uncachedUnbuffered

def devices (table : List Descriptor) : List Descriptor :=
  table.filter fun descriptor => descriptor.attributes = .device

/-- A table of at most `most` entries has the right regions for a memory of `size` bytes. -/
structure RamMapped (table ram : List Descriptor) (most size : Nat) : Prop where
  ended : table.length ≤ most ∧ table.getLast? = some endOfTable
  whole : ∀ region ∈ ram, region.range.finish ≤ 2 ^ 64
  apart : ram.Pairwise fun left right => left.range.Disjoint right.range
  noDevice : ∀ region ∈ ram, ∀ device ∈ devices table, region.range.Disjoint device.range
  inside : ∀ region ∈ ram, region.range.finish ≤ size

namespace Rk356x

/-! ### The RK356x -/

/-- `RK356X_MEM_*_REGION`. -/
inductive RegionType where
  | unmapped
  | basic
  | runtime
  | reserved
  deriving DecidableEq, Repr

/-- An entry of the table with its entry of `VirtualMemoryInfo`. -/
structure Region where
  descriptor : Descriptor
  type : RegionType
  name : String
  deriving DecidableEq, Repr

/-- Where the firmware itself is, from the build. -/
structure Pcds where
  tfaBaseAddress : UInt64
  tfaSize : UInt64
  opteeBaseAddress : UInt64
  opteeSize : UInt64
  fdBaseAddress : UInt64
  fdSize : UInt64
  variablesSize : UInt64
  fdtBaseAddress : UInt64
  fdtSize : UInt64
  deriving DecidableEq, Repr

/-- The values of the build. -/
def buildPcds : Pcds where
  tfaBaseAddress := 0
  tfaSize := 0x00A00000
  opteeBaseAddress := 0x08400000
  opteeSize := 0x01000000
  fdBaseAddress := 0x00A00000
  fdSize := 0x00100000
  variablesSize := 0x20000
  fdtBaseAddress := 0x00B00000
  fdtSize := 0x10000

def Pcds.variablesBase (pcds : Pcds) : UInt64 :=
  pcds.fdBaseAddress + pcds.fdSize - pcds.variablesSize

def maxVirtualMemoryMapDescriptors : Nat := 11
def reservedBaseAddress : UInt64 := 0xF0000000
def reservedSize : UInt64 := 0x10000000
def systemMemoryBase : UInt64 := 0

/-- The regions, without the end of the table. -/
def regions (pcds : Pcds) (systemMemorySize : UInt64) : List Region :=
  [⟨.flat reservedBaseAddress reservedSize .device, .unmapped, "Reserved"⟩,
    ⟨.flat 0x300000000 0xC0C00000 .device, .unmapped, "Reserved > 4GB"⟩,
    ⟨.flat systemMemoryBase
      (if systemMemorySize < 0xF0000000 then systemMemorySize else 0xF0000000) .writeBack, .basic,
      "System RAM"⟩] ++
  (if 0x100000000 < systemMemoryBase + systemMemorySize then
    [⟨.flat 0x100000000 (systemMemoryBase + systemMemorySize - 0x100000000) .writeBack, .basic,
      "System RAM > 4GB"⟩]
  else []) ++
  [⟨.flat pcds.tfaBaseAddress pcds.tfaSize .uncachedUnbuffered, .reserved, "TF-A"⟩,
    ⟨.flat pcds.opteeBaseAddress pcds.opteeSize .writeBack, .reserved, "OP-TEE"⟩,
    ⟨.flat 0x10f000 0x1000 .uncachedUnbuffered, .reserved, "SCMI"⟩,
    ⟨.flat pcds.fdBaseAddress (pcds.fdSize - pcds.variablesSize) .writeBack, .reserved, "FD"⟩,
    ⟨.flat pcds.variablesBase pcds.variablesSize .writeBack, .runtime, "FD Variables"⟩,
    ⟨.flat pcds.fdtBaseAddress pcds.fdtSize .writeBack, .reserved, "Flattened Device Tree"⟩]

def armPlatformGetVirtualMemoryMap (pcds : Pcds) (systemMemorySize : UInt64) : List Descriptor :=
  (regions pcds systemMemorySize).map Region.descriptor ++ [endOfTable]

def ramRegions (pcds : Pcds) (systemMemorySize : UInt64) : List Descriptor :=
  ((regions pcds systemMemorySize).filter fun region => region.type = .basic).map Region.descriptor

section

variable {pcds : Pcds} {size : UInt64}

theorem ramRegions_eq (pcds : Pcds) (size : UInt64) :
    ramRegions pcds size =
      .flat 0 (if size < 0xF0000000 then size else 0xF0000000) .writeBack ::
        if 0x100000000 < size then [.flat 0x100000000 (size - 0x100000000) .writeBack] else [] := by
  have base : systemMemoryBase = 0 := rfl
  rw [ramRegions, regions, base, UInt64.zero_add]
  by_cases above : 0x100000000 < size
  · rw [if_pos above, if_pos above]
    rfl
  · rw [if_neg above, if_neg above]
    rfl

theorem devices_eq (pcds : Pcds) (size : UInt64) :
    devices (armPlatformGetVirtualMemoryMap pcds size) =
      [.flat 0xF0000000 0x10000000 .device, .flat 0x300000000 0xC0C00000 .device] := by
  rw [devices, armPlatformGetVirtualMemoryMap, regions]
  by_cases above : 0x100000000 < systemMemoryBase + size
  · rw [if_pos above]
    rfl
  · rw [if_neg above]
    rfl

theorem table_ended (pcds : Pcds) (size : UInt64) :
    (armPlatformGetVirtualMemoryMap pcds size).length ≤ maxVirtualMemoryMapDescriptors ∧
      (armPlatformGetVirtualMemoryMap pcds size).getLast? = some endOfTable := by
  refine ⟨?_, List.getLast?_concat⟩
  by_cases above : 0x100000000 < systemMemoryBase + size
  · rw [armPlatformGetVirtualMemoryMap, regions, if_pos above]
    exact Nat.le_refl _
  · rw [armPlatformGetVirtualMemoryMap, regions, if_neg above]
    exact Nat.le_succ _

/-- The map is right for the sizes up to the devices above 4 GiB. -/
theorem rk356x_ramMapped_iff :
    RamMapped (armPlatformGetVirtualMemoryMap pcds size) (ramRegions pcds size)
      maxVirtualMemoryMapDescriptors size.toNat ↔ size.toNat ≤ 0x300000000 := by
  have hole : (0xF0000000 : UInt64).toNat = 0xF0000000 := rfl
  have four : (0x100000000 : UInt64).toNat = 0x100000000 := rfl
  have low : (Descriptor.flat 0 (if size < 0xF0000000 then size else 0xF0000000) .writeBack).range =
      ⟨0, min size.toNat 0xF0000000⟩ := by
    have length : (if size < 0xF0000000 then size else 0xF0000000).toNat =
        min size.toNat 0xF0000000 := by
      split
      next below =>
        rw [UInt64.lt_iff_toNat_lt, hole] at below
        omega
      next above =>
        rw [UInt64.lt_iff_toNat_lt, hole] at above
        omega
    rw [Descriptor.range, Descriptor.flat, length]
    rfl
  have reserved : (Descriptor.flat 0xF0000000 0x10000000 .device).range =
      ⟨0xF0000000, 0x10000000⟩ := rfl
  have devices : (Descriptor.flat 0x300000000 0xC0C00000 .device).range =
      ⟨0x300000000, 0xC0C00000⟩ := rfl
  have bound := size.toNat_lt
  by_cases above : 0x100000000 < size
  · have high : (Descriptor.flat 0x100000000 (size - 0x100000000) .writeBack).range =
        ⟨0x100000000, size.toNat - 0x100000000⟩ := by
      rw [Descriptor.range, Descriptor.flat, UInt64.toNat_sub_of_le _ _ (UInt64.le_of_lt above)]
      rfl
    rw [ramRegions_eq, if_pos above]
    rw [UInt64.lt_iff_toNat_lt, four] at above
    constructor
    · intro mapped
      have apart := mapped.noDevice _ (List.mem_cons_of_mem _ (List.mem_singleton_self _)) _
        (devices_eq pcds size ▸ List.mem_cons_of_mem _ (List.mem_singleton_self _))
      rw [high, devices] at apart
      simp only [Interval.Disjoint, Interval.finish] at apart
      omega
    · intro most
      refine ⟨table_ended pcds size, ?_, ?_, ?_, ?_⟩
      · simp only [List.forall_mem_cons, low, high, Interval.finish]
        exact ⟨by omega, by omega, by simp⟩
      · simp only [List.pairwise_cons, List.forall_mem_cons, low, high, Interval.Disjoint,
          Interval.finish]
        exact ⟨⟨by omega, by simp⟩, by simp⟩
      · simp only [devices_eq, List.forall_mem_cons, low, high, reserved, devices,
          Interval.Disjoint, Interval.finish]
        exact ⟨⟨by omega, by omega, by simp⟩, ⟨by omega, by omega, by simp⟩, by simp⟩
      · simp only [List.forall_mem_cons, low, high, Interval.finish]
        exact ⟨by omega, by omega, by simp⟩
  · rw [ramRegions_eq, if_neg above]
    rw [UInt64.lt_iff_toNat_lt, four] at above
    refine ⟨fun _ => by omega, fun _ => ⟨table_ended pcds size, ?_, ?_, ?_, ?_⟩⟩
    · simp only [List.forall_mem_singleton, low, Interval.finish]
      omega
    · exact List.pairwise_singleton _ _
    · simp only [devices_eq, List.forall_mem_cons, low, reserved, devices, Interval.Disjoint,
        Interval.finish]
      exact ⟨⟨by omega, by omega, by simp⟩, by simp⟩
    · simp only [List.forall_mem_singleton, low, Interval.finish]
      omega

end

end Rk356x

namespace Rk3399

/-! ### The RK3399 -/

def maxVirtualMemoryMapDescriptors : Nat := 12
def periphSize : UInt64 := 0x08000000
def extraSystemMemoryBase : UInt64 := 0x40000000
def systemMemoryBase : UInt64 := 0
def systemMemorySize : UInt64 := 0x40000000

/-- The regions, without the end of the table. -/
def regions (additionalMemorySize : UInt64) : List Descriptor :=
  [.flat periphBase periphSize .device, .flat systemMemoryBase systemMemorySize .writeBack] ++
  if 0 < additionalMemorySize then
    [.flat extraSystemMemoryBase additionalMemorySize .writeBack]
  else []

/-- `AdditionalMemorySize`: what is beyond the first gigabyte, of a size that may not be known. -/
def additionalMemorySize (memorySize : UInt64) : UInt64 :=
  (if memorySize = 0 then systemMemorySize else memorySize) - systemMemorySize

def armPlatformGetVirtualMemoryMap (memorySize : UInt64) : List Descriptor :=
  regions (additionalMemorySize memorySize) ++ [endOfTable]

def ramRegions (memorySize : UInt64) : List Descriptor :=
  (armPlatformGetVirtualMemoryMap memorySize).filter fun region => region.attributes = .writeBack

section

variable {size : UInt64}

theorem additionalMemorySize_eq (enough : 0x40000000 ≤ size.toNat) :
    (additionalMemorySize size).toNat = size.toNat - 0x40000000 := by
  have giga : systemMemorySize.toNat = 0x40000000 := rfl
  have some : size ≠ 0 := by
    rintro rfl
    rw [UInt64.toNat_zero] at enough
    omega
  have more : systemMemorySize ≤ size := by rwa [UInt64.le_iff_toNat_le, giga]
  rw [additionalMemorySize, if_neg some, UInt64.toNat_sub_of_le _ _ more, giga]

theorem ramRegions_eq (size : UInt64) :
    ramRegions size = .flat 0 0x40000000 .writeBack ::
      if 0 < additionalMemorySize size then
        [.flat 0x40000000 (additionalMemorySize size) .writeBack] else [] := by
  rw [ramRegions, armPlatformGetVirtualMemoryMap, regions]
  split <;> rfl

theorem devices_eq (size : UInt64) :
    devices (armPlatformGetVirtualMemoryMap size) = [.flat 0xF8000000 0x08000000 .device] := by
  rw [devices, armPlatformGetVirtualMemoryMap, regions]
  split <;> rfl

theorem table_ended (size : UInt64) :
    (armPlatformGetVirtualMemoryMap size).length ≤ maxVirtualMemoryMapDescriptors ∧
      (armPlatformGetVirtualMemoryMap size).getLast? = some endOfTable := by
  refine ⟨?_, List.getLast?_concat⟩
  rw [armPlatformGetVirtualMemoryMap, regions, maxVirtualMemoryMapDescriptors]
  split <;> simp

theorem rk3399_ramMapped_iff {total : Nat} (capped : size.toNat = min total 0xF8000000) :
    RamMapped (armPlatformGetVirtualMemoryMap size) (ramRegions size)
      maxVirtualMemoryMapDescriptors total ↔ 0x40000000 ≤ total := by
  have first : (Descriptor.flat 0 0x40000000 .writeBack).range = ⟨0, 0x40000000⟩ := rfl
  have periph : (Descriptor.flat 0xF8000000 0x08000000 .device).range =
      ⟨0xF8000000, 0x08000000⟩ := rfl
  constructor
  · intro mapped
    have inside := mapped.inside (.flat 0 0x40000000 .writeBack)
      (ramRegions_eq size ▸ List.mem_cons_self)
    rwa [first, Interval.finish, Nat.zero_add] at inside
  · intro enough
    have extra : (Descriptor.flat 0x40000000 (additionalMemorySize size) .writeBack).range =
        ⟨0x40000000, size.toNat - 0x40000000⟩ := by
      rw [Descriptor.range, Descriptor.flat, additionalMemorySize_eq (by omega)]
      rfl
    rw [ramRegions_eq]
    split
    · refine ⟨table_ended size, ?_, ?_, ?_, ?_⟩
      · simp only [List.forall_mem_cons, first, extra, Interval.finish]
        exact ⟨by omega, by omega, by simp⟩
      · simp only [List.pairwise_cons, List.forall_mem_cons, first, extra, Interval.Disjoint,
          Interval.finish]
        exact ⟨⟨by omega, by simp⟩, by simp⟩
      · simp only [devices_eq, List.forall_mem_cons, first, extra, periph, Interval.Disjoint,
          Interval.finish]
        exact ⟨⟨by omega, by simp⟩, ⟨by omega, by simp⟩, by simp⟩
      · simp only [List.forall_mem_cons, first, extra, Interval.finish]
        exact ⟨by omega, by omega, by simp⟩
    · refine ⟨table_ended size, ?_, List.pairwise_singleton _ _, ?_, ?_⟩
      · simp only [List.forall_mem_singleton, first, Interval.finish]
        omega
      · simp only [devices_eq, List.forall_mem_singleton, first, periph, Interval.Disjoint,
          Interval.finish]
        omega
      · simp only [List.forall_mem_singleton, first, Interval.finish]
        omega

end

end Rk3399

/-! ### From the registers to the map -/

def Rk356x.MemoryRight (osReg osReg1 : UInt32) (pcds : Rk356x.Pcds) : Prop :=
  ∃ size, Rk356x.sdramGetMemorySize osReg osReg1 = some size ∧
    size.toNat = capacity (Rk356x.channels osReg osReg1) ∧
    RamMapped (Rk356x.armPlatformGetVirtualMemoryMap pcds size) (Rk356x.ramRegions pcds size)
      Rk356x.maxVirtualMemoryMapDescriptors (capacity (Rk356x.channels osReg osReg1))

/-- The size of the RK3399 is that of the memory below the peripherals and the map is right for
it. -/
def Rk3399.MemoryRight (sysReg : UInt32) : Prop :=
  ∃ size, Rk3399.rk3399InitMemorySize sysReg = some size ∧
    size.toNat = min (capacity (Rk3399.channels sysReg)) Rk3399.periphBase.toNat ∧
    RamMapped (Rk3399.armPlatformGetVirtualMemoryMap size) (Rk3399.ramRegions size)
      Rk3399.maxVirtualMemoryMapDescriptors (capacity (Rk3399.channels sysReg))

theorem Rk356x.capacity_lt (osReg osReg1 : UInt32) :
    capacity (Rk356x.channels osReg osReg1) < 2 ^ 64 := by
  have most := Rk356x.megabytes_channels_le osReg osReg1
  rw [capacity_eq]
  omega

/-- Size and map of both families are right exactly when no channel has a second rank larger than
its first, and the memory is not too large for the map of the RK356x and not too small for that of
the RK3399. -/
theorem memoryMap_exact_iff (osReg osReg1 : UInt32) (pcds : Rk356x.Pcds) (sysReg : UInt32) :
    (Rk356x.MemoryRight osReg osReg1 pcds ↔
      (∀ channel ∈ Rk356x.channels osReg osReg1, channel.Ordered) ∧
        capacity (Rk356x.channels osReg osReg1) ≤ 0x300000000) ∧
    (Rk3399.MemoryRight sysReg ↔
      (∀ channel ∈ Rk3399.channels sysReg, channel.Ordered) ∧
        0x40000000 ≤ capacity (Rk3399.channels sysReg)) := by
  constructor
  · have fits := Rk356x.capacity_lt osReg osReg1
    rw [Rk356x.MemoryRight, Rk356x.sdramGetMemorySize_eq]
    by_cases ordered : ∀ channel ∈ Rk356x.channels osReg osReg1, channel.Ordered
    · have same : (UInt64.ofNat (capacity (Rk356x.channels osReg osReg1))).toNat =
          capacity (Rk356x.channels osReg osReg1) := UInt64.toNat_ofNat_of_lt' fits
      have mapped := @Rk356x.rk356x_ramMapped_iff pcds
        (UInt64.ofNat (capacity (Rk356x.channels osReg osReg1)))
      rw [same] at mapped
      rw [if_pos ordered]
      constructor
      · rintro ⟨size, found, -, right⟩
        obtain rfl := Option.some.inj found
        exact ⟨ordered, mapped.mp right⟩
      · rintro ⟨-, most⟩
        exact ⟨_, rfl, same, mapped.mpr most⟩
    · rw [if_neg ordered]
      refine ⟨?_, fun right => absurd right.1 ordered⟩
      rintro ⟨size, found, -⟩
      exact nomatch found
  · rw [Rk3399.MemoryRight, Rk3399.rk3399InitMemorySize_eq]
    by_cases ordered : ∀ channel ∈ Rk3399.channels sysReg, channel.Ordered
    · have same : (UInt64.ofNat (min (capacity (Rk3399.channels sysReg)) 0xF8000000)).toNat =
          min (capacity (Rk3399.channels sysReg)) 0xF8000000 := by
        refine UInt64.toNat_ofNat_of_lt' ?_
        exact Nat.lt_of_le_of_lt (Nat.min_le_right _ _) (by decide)
      have mapped := Rk3399.rk3399_ramMapped_iff same
      rw [if_pos ordered]
      constructor
      · rintro ⟨size, found, -, right⟩
        obtain rfl := Option.some.inj found
        exact ⟨ordered, mapped.mp right⟩
      · rintro ⟨-, enough⟩
        exact ⟨_, rfl, same, mapped.mpr enough⟩
    · rw [if_neg ordered]
      refine ⟨?_, fun right => absurd right.1 ordered⟩
      rintro ⟨size, found, -⟩
      exact nomatch found

/-- On the RK356x two ranks of which the second has one more row bit, whose size would be shifted by
a negative amount; on the RK3399 half a gigabyte, of which one and more are mapped. -/
theorem memoryMap_not_exact :
    ¬ Rk356x.MemoryRight 0x00000810 0 Rk356x.buildPcds ∧
      ¬ Rk3399.MemoryRight 0x00000080 := by
  constructor
  · rintro ⟨size, found, -⟩
    have none : Rk356x.sdramGetMemorySize 0x00000810 0 = none := by decide
    rw [none] at found
    exact nomatch found
  · rintro ⟨size, -, same, right⟩
    have half : capacity (Rk3399.channels 0x00000080) = 0x20000000 := by decide
    have enough := (Rk3399.rk3399_ramMapped_iff same).mp right
    rw [half] at enough
    exact absurd enough (by decide)

end MuRockchip.Dram
