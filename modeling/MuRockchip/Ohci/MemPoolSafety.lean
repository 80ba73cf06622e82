/-
The invariant of the OHCI memory pool.

Allocation scans and marks the bits of a block, freeing clears them by a loop of its
own. Both go over the units an allocation covers, which is what keeps the set bits
of a block equal to the units of its live allocations.

* `usbHcAllocMemFromBlock_spec`, `UsbhcMemBlock.freed_spec`: what one block does.
* `PoolSound.serve`, `PoolSound.insert`, `PoolSound.free`, `PoolSound.remove`: the
  invariant through each edit of the pool.
* `memPool_invariant`: the invariant on every run, with what each call does.
-/
import Mathlib.Data.List.Nodup
import Mathlib.Data.List.Pairwise
import MuRockchip.Base.Run
import MuRockchip.Ohci.MemPool

namespace MuRockchip.Ohci
open MuRockchip.Base

/-! ### Searching, marking and clearing -/

def FreeRun (bits : List UInt8) (start units : Nat) : Prop :=
  start + units ≤ 8 * bits.length ∧
    ∀ unit, start ≤ unit → unit < start + units → bitAt bits unit = false

variable {bits : List UInt8} {start : BitCursor} {size mem : UInt64} {allocation : Allocation}
  {block : UsbhcMemBlock} {blocks : List UsbhcMemBlock} {host : HostReply} {pool : UsbhcMemPool}

theorem searchUnits_spec {units : Nat} (rounds : Nat) {cursor : BitCursor} {available : Nat}
    (inByte : cursor.bit < 8) (startInByte : start.bit < 8)
    (row : start.index + available = cursor.index)
    (free : ∀ unit, start.index ≤ unit → unit < cursor.index → bitAt bits unit = false)
    (few : available < units) (left : cursor.index + rounds = 8 * bits.length) :
    (searchUnits bits units rounds cursor start available).1.bit < 8 ∧
      (units ≤ (searchUnits bits units rounds cursor start available).2 →
        FreeRun bits (searchUnits bits units rounds cursor start available).1.index units) ∧
      ((searchUnits bits units rounds cursor start available).2 < units →
        ∀ other, start.index ≤ other → ¬ FreeRun bits other units) := by
  induction rounds generalizing cursor start available with
  | zero =>
    refine ⟨startInByte, fun enough => absurd enough (Nat.not_le.mpr few), ?_⟩
    rintro - other after ⟨inside, -⟩
    omega
  | succ rounds ih =>
    have inside : cursor.byte < bits.length :=
      (BitCursor.index_lt_iff inByte bits.length).mp (by omega)
    have looked : usbHcBitIsSet (bits.getD cursor.byte 0) cursor.bit = bitAt bits cursor.index := by
      rw [BitCursor.bitAt_index inByte, usbHcBitIsSet, bitMask_and_eq inByte]
    have stepped := BitCursor.index_next inByte
    unfold searchUnits
    rw [if_pos inside, looked]
    cases set : bitAt bits cursor.index with
    | false =>
      have freeHere : ∀ unit, start.index ≤ unit → unit < cursor.index + 1 →
          bitAt bits unit = false := by
        intro unit after before
        rcases Nat.lt_or_eq_of_le (Nat.le_of_lt_succ before) with earlier | rfl
        · exact free unit after earlier
        · exact set
      simp only [Bool.not_false, if_true]
      by_cases enough : available + 1 ≥ units
      · rw [if_pos enough]
        have run : FreeRun bits start.index units := by
          refine ⟨by omega, fun unit after before => ?_⟩
          exact freeHere unit after (by omega)
        exact ⟨startInByte, fun _ => run, fun lacking => absurd enough (Nat.not_le.mpr lacking)⟩
      · rw [if_neg enough]
        exact ih (BitCursor.bit_next inByte) startInByte (by omega)
          (fun unit after before => freeHere unit after (by omega)) (by omega) (by omega)
    | true =>
      simp only [Bool.not_true, Bool.false_eq_true, if_false]
      have nextInByte := BitCursor.bit_next inByte
      have nothing : ∀ unit, cursor.next.index ≤ unit → unit < cursor.next.index →
          bitAt bits unit = false := by
        intro unit after before
        exact absurd before (Nat.not_lt.mpr after)
      obtain ⟨bounded, found, missing⟩ :=
        ih nextInByte nextInByte (Nat.add_zero _) nothing (by omega) (by omega)
      refine ⟨bounded, found, fun lacking other after run => ?_⟩
      -- a run that starts no later than the set bit contains it
      by_cases past : cursor.index < other
      · exact missing lacking other (by omega) run
      · have clear := run.2 cursor.index (by omega) (by omega)
        rw [set] at clear
        cases clear

theorem markUnits_spec (count : Nat) (inByte : start.bit < 8)
    (inside : start.index + count ≤ 8 * bits.length) :
    (markUnits bits count start).length = bits.length ∧ ∀ unit,
      bitAt (markUnits bits count start) unit =
        (bitAt bits unit || decide (start.index ≤ unit ∧ unit < start.index + count)) := by
  induction count generalizing bits start with
  | zero =>
    refine ⟨rfl, fun unit => ?_⟩
    have nothing : ¬ (start.index ≤ unit ∧ unit < start.index + 0) := by omega
    rw [markUnits, decide_eq_false nothing, Bool.or_false]
  | succ count ih =>
    have stepped := BitCursor.index_next inByte
    have byteInside : start.byte < bits.length :=
      (BitCursor.index_lt_iff inByte bits.length).mp (by omega)
    have same : (bits.modify start.byte (· ||| bitMask start.bit)).length = bits.length := by
      simp
    have later : start.next.index + count ≤
        8 * (bits.modify start.byte (· ||| bitMask start.bit)).length := by omega
    obtain ⟨length, marked⟩ := ih (BitCursor.bit_next inByte) later
    refine ⟨length.trans same, fun unit => ?_⟩
    rw [markUnits, marked, bitAt_modify_or byteInside inByte, Bool.or_assoc, ← Bool.decide_or]
    congr 2
    rw [stepped]
    apply propext
    unfold BitCursor.index
    omega

theorem clearUnits_spec (count : Nat) (inByte : start.bit < 8)
    (inside : start.index + count ≤ 8 * bits.length) :
    (clearUnits bits count start).length = bits.length ∧ ∀ unit,
      bitAt (clearUnits bits count start) unit =
        (bitAt bits unit ^^ decide (start.index ≤ unit ∧ unit < start.index + count)) := by
  induction count generalizing bits start with
  | zero =>
    refine ⟨rfl, fun unit => ?_⟩
    have nothing : ¬ (start.index ≤ unit ∧ unit < start.index + 0) := by omega
    rw [clearUnits, decide_eq_false nothing, Bool.xor_false]
  | succ count ih =>
    have stepped := BitCursor.index_next inByte
    have byteInside : start.byte < bits.length :=
      (BitCursor.index_lt_iff inByte bits.length).mp (by omega)
    have same : (bits.modify start.byte (· ^^^ bitMask start.bit)).length = bits.length := by
      simp
    have later : start.next.index + count ≤
        8 * (bits.modify start.byte (· ^^^ bitMask start.bit)).length := by omega
    obtain ⟨length, cleared⟩ := ih (BitCursor.bit_next inByte) later
    refine ⟨length.trans same, fun unit => ?_⟩
    rw [clearUnits, cleared, bitAt_modify_xor byteInside inByte, Bool.xor_assoc]
    congr 1
    rw [stepped]
    by_cases here : unit = 8 * start.byte + start.bit
    · have now : start.index ≤ unit ∧ unit < start.index + (count + 1) := by
        unfold BitCursor.index
        omega
      have notLater : ¬ (start.index + 1 ≤ unit ∧ unit < start.index + 1 + count) := by
        unfold BitCursor.index
        omega
      rw [decide_eq_true here, decide_eq_true now, decide_eq_false notLater, Bool.xor_false]
    · have same : (start.index + 1 ≤ unit ∧ unit < start.index + 1 + count) ↔
          (start.index ≤ unit ∧ unit < start.index + (count + 1)) := by
        unfold BitCursor.index
        omega
      rw [decide_eq_false here, Bool.false_xor, decide_eq_decide]
      exact same

/-! ### Units of a block -/

namespace UsbhcMemBlock

variable {block : UsbhcMemBlock}

def buffer (block : UsbhcMemBlock) : Interval := ⟨block.bufHost.toNat, block.bufLen.toNat⟩

/-- A unit of the buffer. -/
def unit (block : UsbhcMemBlock) (index : Nat) : Interval :=
  ⟨block.bufHost.toNat + 64 * index, 64⟩

/-- The number of units. -/
def unitCount (block : UsbhcMemBlock) : Nat := 8 * block.bits.length

/-- The buffer is a real range of addresses, and there is a bit for each unit. -/
structure Placed (block : UsbhcMemBlock) : Prop where
  nonempty : 0 < block.unitCount
  nonzero : 0 < block.bufHost.toNat
  bounded : block.bufHost.toNat + block.bufLen.toNat < 2 ^ 64
  covered : 64 * block.unitCount = block.bufLen.toNat

def withBits (block : UsbhcMemBlock) (bits : List UInt8) : UsbhcMemBlock := { block with bits }

@[simp]
theorem buffer_withBits (bits : List UInt8) : (block.withBits bits).buffer = block.buffer := rfl

@[simp]
theorem unit_withBits (bits : List UInt8) : (block.withBits bits).unit = block.unit := rfl

@[simp]
theorem bits_withBits (bits : List UInt8) : (block.withBits bits).bits = bits := rfl

theorem Placed.withBits (placed : block.Placed) {bits : List UInt8}
    (same : bits.length = block.bits.length) : (block.withBits bits).Placed where
  nonempty := by
    rw [unitCount, bits_withBits, same]
    exact placed.nonempty
  nonzero := placed.nonzero
  bounded := placed.bounded
  covered := by
    rw [unitCount, bits_withBits, same]
    exact placed.covered

theorem unit_within_buffer (placed : block.Placed) {index : Nat}
    (inside : index < block.unitCount) :
    (block.unit index).Within block.buffer := by
  have covered := placed.covered
  unfold Interval.Within Interval.finish unit buffer
  dsimp only
  omega

end UsbhcMemBlock

/-- Memory the pool has handed out. -/
structure Allocation where
  mem : UInt64
  size : UInt64
  deriving DecidableEq, Repr

namespace Allocation

/-- The number of units an allocation takes. -/
def units (allocation : Allocation) : Nat := (allocation.size.toNat + 63) / 64

def extent (allocation : Allocation) : Interval :=
  ⟨allocation.mem.toNat, 64 * allocation.units⟩

/-- The size is positive, and rounding it does not overflow. -/
def Sized (allocation : Allocation) : Prop :=
  0 < allocation.size.toNat ∧ allocation.size.toNat + 63 < 2 ^ 64

/-- The allocation takes the units of the block from `first` on. -/
def TakesFrom (allocation : Allocation) (block : UsbhcMemBlock) (first : Nat) : Prop :=
  allocation.mem.toNat = block.bufHost.toNat + 64 * first ∧
    allocation.extent.Within block.buffer

variable {allocation other : Allocation} {block : UsbhcMemBlock} {first : Nat}

theorem units_pos (sized : allocation.Sized) : 0 < allocation.units := by
  unfold units
  have positive := sized.1
  omega

theorem TakesFrom.fits (takes : allocation.TakesFrom block first) (placed : block.Placed) :
    first + allocation.units ≤ block.unitCount := by
  obtain ⟨start, within⟩ := takes
  have covered := placed.covered
  unfold Interval.Within Interval.finish extent UsbhcMemBlock.buffer at within
  dsimp only at within
  omega

theorem TakesFrom.unit_within_iff (takes : allocation.TakesFrom block first) (index : Nat) :
    (block.unit index).Within allocation.extent ↔
      first ≤ index ∧ index < first + allocation.units := by
  obtain ⟨start, -⟩ := takes
  unfold Interval.Within Interval.finish extent UsbhcMemBlock.unit
  dsimp only
  omega

end Allocation

/-! ### Allocation from one block -/

theorem usbhcMemRound_toNat (fits : size.toNat + 63 < 2 ^ 64) :
    (usbhcMemRound size).toNat = 64 * ((size.toNat + 63) / 64) := by
  have rounded : usbhcMemRound size = alignDown (size + 63) 64 := rfl
  have sum : (size + 63).toNat = size.toNat + 63 := by
    rw [UInt64.toNat_add]
    exact Nat.mod_eq_of_lt fits
  rw [rounded, alignDown_toNat 6 (by decide) rfl, sum]
  rfl

theorem Allocation.round_toNat (sized : allocation.Sized) :
    (usbhcMemRound allocation.size).toNat = 64 * allocation.units :=
  usbhcMemRound_toNat sized.2

/-- The number of units `UsbHcAllocateMem` and `UsbHcFreeMem` go over. -/
theorem Allocation.round_div (sized : allocation.Sized) :
    (usbhcMemRound allocation.size / usbhcMemUnit).toNat = allocation.units := by
  rw [UInt64.toNat_div, allocation.round_toNat sized]
  exact Nat.mul_div_cancel_left _ (by decide)

/-- What a block is after the allocation was made in it. -/
structure Serves (block : UsbhcMemBlock) (allocation : Allocation) (bits : List UInt8) :
    Prop where
  takes : ∃ first, allocation.TakesFrom block first
  sameLength : bits.length = block.bits.length
  wasFree : ∀ index, (block.unit index).Within allocation.extent → bitAt block.bits index = false
  marked : ∀ index, bitAt bits index =
    (bitAt block.bits index || decide ((block.unit index).Within allocation.extent))

/-- `UsbHcAllocMemFromBlock` serves the request, or leaves the block as it was and
the block has too few units free in a row. -/
theorem usbHcAllocMemFromBlock_spec (placed : block.Placed) {units : UInt64}
    (positive : 0 < units.toNat) {after : UsbhcMemBlock}
    (called : usbHcAllocMemFromBlock block units = (mem, after)) :
    mem = 0 ∧ after = block ∧ (∀ start, ¬ FreeRun block.bits start units.toNat) ∨
      mem ≠ 0 ∧ ∃ bits, after = block.withBits bits ∧
        ∀ size, Allocation.units ⟨mem, size⟩ = units.toNat → Serves block ⟨mem, size⟩ bits := by
  have zero : BitCursor.index ⟨0, 0⟩ = 0 := rfl
  have nothing : ∀ unit, BitCursor.index ⟨0, 0⟩ ≤ unit → unit < BitCursor.index ⟨0, 0⟩ →
      bitAt block.bits unit = false := by
    intro unit after before
    exact absurd before (Nat.not_lt.mpr after)
  have rounds : BitCursor.index ⟨0, 0⟩ + 8 * block.bits.length = 8 * block.bits.length :=
    Nat.zero_add _
  have searched := searchUnits_spec _ (show (0 : Nat) < 8 by decide) (show (0 : Nat) < 8 by decide)
    rfl nothing positive rounds
  unfold usbHcAllocMemFromBlock at called
  revert called searched
  generalize searchUnits block.bits units.toNat (8 * block.bits.length) ⟨0, 0⟩ ⟨0, 0⟩ 0 = result
  obtain ⟨start, available⟩ := result
  rintro called ⟨inByte, found, missing⟩
  dsimp only at called found missing inByte
  split at called
  · next lacking =>
    cases called
    exact Or.inl ⟨rfl, rfl, fun start => missing lacking start (by simp [BitCursor.index])⟩
  · next enough =>
    have run := found (Nat.le_of_not_lt enough)
    have offset : start.byte * 8 + start.bit = start.index := by
      unfold BitCursor.index
      omega
    have covered := placed.covered
    have bounded := placed.bounded
    have nonzero := placed.nonzero
    have fits := run.1
    unfold UsbhcMemBlock.unitCount at covered
    cases called
    have address :
        (block.bufHost + UInt64.ofNat (start.byte * 8 + start.bit) * usbhcMemUnit).toNat =
          block.bufHost.toNat + 64 * start.index := by
      rw [offset]
      have unit : usbhcMemUnit.toNat = 64 := rfl
      rw [UInt64.toNat_add, UInt64.toNat_mul, UInt64.toNat_ofNat', unit]
      omega
    revert address
    generalize block.bufHost + UInt64.ofNat (start.byte * 8 + start.bit) * usbhcMemUnit = mem
    intro address
    obtain ⟨sameLength, marked⟩ := markUnits_spec units.toNat inByte fits
    refine Or.inr ⟨?_, markUnits block.bits units.toNat start, rfl, ?_⟩
    · intro null
      rw [null] at address
      simp at address
      omega
    · intro size same
      have takes : Allocation.TakesFrom ⟨mem, size⟩ block start.index := by
        refine ⟨address, ?_⟩
        unfold Interval.Within Interval.finish Allocation.extent UsbhcMemBlock.buffer
        dsimp only
        rw [address, same]
        omega
      refine ⟨⟨_, takes⟩, sameLength, ?_, ?_⟩
      · intro index within
        obtain ⟨after, before⟩ := (takes.unit_within_iff index).mp within
        exact run.2 index after (same ▸ before)
      · intro index
        rw [marked]
        congr 1
        rw [decide_eq_decide, takes.unit_within_iff, same]

/-- The first block that can serves the request, or none could and all are as they were. -/
theorem allocFromBlocks_spec (placed : ∀ block ∈ blocks, block.Placed) {units : UInt64}
    (positive : 0 < units.toNat) {after : List UsbhcMemBlock}
    (called : allocFromBlocks units blocks = (mem, after)) :
    mem = 0 ∧ after = blocks ∨
      mem ≠ 0 ∧ ∃ before block rest bits, blocks = before ++ block :: rest ∧
        after = before ++ block.withBits bits :: rest ∧
        ∀ size, Allocation.units ⟨mem, size⟩ = units.toNat → Serves block ⟨mem, size⟩ bits := by
  induction blocks generalizing after with
  | nil =>
    cases called
    exact Or.inl ⟨rfl, rfl⟩
  | cons block rest ih =>
    cases answer : usbHcAllocMemFromBlock block units with
    | mk got afterBlock =>
      have spec := usbHcAllocMemFromBlock_spec (placed block List.mem_cons_self) positive answer
      rw [allocFromBlocks, answer] at called
      dsimp only at called
      rcases spec with ⟨rfl, rfl, -⟩ | ⟨nonzero, bits, rfl, serves⟩
      · simp only [ne_eq, not_true_eq_false, if_false] at called
        cases later : allocFromBlocks units rest with
        | mk got afterRest =>
          rw [later] at called
          cases called
          rcases ih (fun other member => placed other (List.mem_cons_of_mem _ member)) later with
            ⟨null, same⟩ | ⟨nonzero, before, server, behind, bits, split, served, serves⟩
          · exact Or.inl ⟨null, by rw [same]⟩
          · refine Or.inr ⟨nonzero, afterBlock :: before, server, behind, bits, ?_, ?_, serves⟩
            · rw [split, List.cons_append]
            · rw [served, List.cons_append]
      · rw [if_pos nonzero] at called
        cases called
        exact Or.inr ⟨nonzero, [], block, rest, bits, rfl, rfl, serves⟩

/-! ### The invariant -/

/-- The blocks are real and apart, the allocations lie in them and apart from each
other, and in every block the bits set are exactly the units the allocations cover. -/
structure PoolSound (blocks : List UsbhcMemBlock) (live : List Allocation) : Prop where
  placed : ∀ block ∈ blocks, block.Placed
  apart : (blocks.map UsbhcMemBlock.buffer).Pairwise Interval.Disjoint
  sized : ∀ allocation ∈ live, allocation.Sized
  disjoint : (live.map Allocation.extent).Pairwise Interval.Disjoint
  inside : ∀ allocation ∈ live, ∃ block ∈ blocks, ∃ first, allocation.TakesFrom block first
  marked : ∀ block ∈ blocks, ∀ index < block.unitCount,
    bitAt block.bits index = true ↔
      ∃ allocation ∈ live, (block.unit index).Within allocation.extent

section

variable {before rest : List UsbhcMemBlock} {block : UsbhcMemBlock} {live : List Allocation}
  {allocation : Allocation} {bits : List UInt8}

theorem not_covered {other : UsbhcMemBlock} (apart : other.buffer.Disjoint block.buffer)
    (placed : other.Placed) (within : allocation.extent.Within block.buffer) {index : Nat}
    (inside : index < other.unitCount) : ¬ (other.unit index).Within allocation.extent := by
  intro covered
  have first := other.unit_within_buffer placed inside
  have second := covered.trans within
  exact apart.not_within (show 0 < 64 by decide) first second

theorem mem_middle {α : Type*} {before rest : List α} {middle other : α} :
    other ∈ before ++ middle :: rest ↔ other = middle ∨ other ∈ before ++ rest := by
  simp only [List.mem_append, List.mem_cons]
  grind

theorem apart_middle
    (apart : ((before ++ block :: rest).map UsbhcMemBlock.buffer).Pairwise Interval.Disjoint) :
    ∀ other ∈ before ++ rest, other.buffer.Disjoint block.buffer := by
  intro other member
  rw [List.map_append, List.map_cons, List.pairwise_middle fun h => h.symm, List.pairwise_cons,
    ← List.map_append] at apart
  exact (apart.1 _ (List.mem_map_of_mem member)).symm

variable {other : Allocation}

theorem apart_of_units {first otherFirst : Nat} (takes : allocation.TakesFrom block first)
    (otherTakes : other.TakesFrom block otherFirst) (sized : allocation.Sized)
    (otherSized : other.Sized) (shared : ∀ index, (block.unit index).Within allocation.extent →
      ¬ (block.unit index).Within other.extent) :
    allocation.extent.Disjoint other.extent := by
  have units := Allocation.units_pos sized
  have otherUnits := Allocation.units_pos otherSized
  have start := takes.1
  have otherStart := otherTakes.1
  -- the later of the two first units would be shared
  have later := shared (max first otherFirst)
  rw [takes.unit_within_iff, otherTakes.unit_within_iff] at later
  unfold Interval.Disjoint Interval.finish Allocation.extent
  dsimp only
  omega

/-- Blocks whose bits alone changed are as real and as apart. -/
theorem placed_withBits (placed : ∀ other ∈ before ++ block :: rest, other.Placed)
    (same : bits.length = block.bits.length) :
    ∀ other ∈ before ++ block.withBits bits :: rest, other.Placed := by
  intro other member
  rcases mem_middle.mp member with rfl | old
  · exact (placed block (mem_middle.mpr (Or.inl rfl))).withBits same
  · exact placed other (mem_middle.mpr (Or.inr old))

theorem inside_withBits
    (inside : ∃ holder ∈ before ++ block :: rest, ∃ first, other.TakesFrom holder first) :
    ∃ holder ∈ before ++ block.withBits bits :: rest, ∃ first, other.TakesFrom holder first := by
  obtain ⟨holder, member, first, takes⟩ := inside
  rcases mem_middle.mp member with rfl | old
  · exact ⟨holder.withBits bits, mem_middle.mpr (Or.inl rfl), first, takes⟩
  · exact ⟨holder, mem_middle.mpr (Or.inr old), first, takes⟩

/-- A served request keeps the invariant. -/
theorem PoolSound.serve (sound : PoolSound (before ++ block :: rest) live)
    (sized : allocation.Sized) (serves : Serves block allocation bits) :
    PoolSound (before ++ block.withBits bits :: rest) (allocation :: live) := by
  have others := apart_middle sound.apart
  have here : block ∈ before ++ block :: rest := mem_middle.mpr (Or.inl rfl)
  obtain ⟨first, takes⟩ := serves.takes
  refine ⟨placed_withBits sound.placed serves.sameLength, ?_, ?_, ?_, ?_, ?_⟩
  · simpa using sound.apart
  · intro other member
    rcases List.mem_cons.mp member with rfl | old
    · exact sized
    · exact sound.sized other old
  · rw [List.map_cons, List.pairwise_cons]
    refine ⟨fun extent member => ?_, sound.disjoint⟩
    obtain ⟨other, old, rfl⟩ := List.mem_map.mp member
    obtain ⟨holder, holds, otherFirst, otherTakes⟩ := sound.inside other old
    rcases mem_middle.mp holds with rfl | elsewhere
    · refine apart_of_units takes otherTakes sized (sound.sized other old) ?_
      -- a unit of both is clear because it is given out and set because it is taken
      intro index given taken
      have clear := serves.wasFree index given
      have bound : index < holder.unitCount := by
        have last := (otherTakes.unit_within_iff index).mp taken
        have fits := otherTakes.fits (sound.placed holder here)
        omega
      have set := (sound.marked holder here index bound).mpr ⟨other, old, taken⟩
      rw [clear] at set
      cases set
    · exact (others holder elsewhere).symm.mono takes.2 otherTakes.2
  · intro other member
    rcases List.mem_cons.mp member with rfl | old
    · exact ⟨block.withBits bits, mem_middle.mpr (Or.inl rfl), first, takes⟩
    · exact inside_withBits (sound.inside other old)
  · intro other member index bound
    rcases mem_middle.mp member with rfl | elsewhere
    · rw [UsbhcMemBlock.unitCount, UsbhcMemBlock.bits_withBits, serves.sameLength] at bound
      have old := sound.marked block here index bound
      simp only [UsbhcMemBlock.bits_withBits, UsbhcMemBlock.unit_withBits, serves.marked,
        Bool.or_eq_true, decide_eq_true_eq, old, List.mem_cons, exists_eq_or_imp]
      exact or_comm
    · have same := sound.marked other (mem_middle.mpr (Or.inr elsewhere)) index bound
      have apart := not_covered (others other elsewhere)
        (sound.placed other (mem_middle.mpr (Or.inr elsewhere))) takes.2 bound
      simp only [List.mem_cons, exists_eq_or_imp, apart, false_or]
      exact same

/-- A new block without allocations keeps the invariant. -/
theorem PoolSound.insert (sound : PoolSound (before ++ rest) live) (placed : block.Placed)
    (apart : ∀ other ∈ before ++ rest, block.buffer.Disjoint other.buffer)
    (clear : ∀ index, bitAt block.bits index = false) :
    PoolSound (before ++ block :: rest) live := by
  refine ⟨?_, ?_, sound.sized, sound.disjoint, ?_, ?_⟩
  · intro other member
    rcases mem_middle.mp member with rfl | old
    · exact placed
    · exact sound.placed other old
  · rw [List.map_append, List.map_cons, List.pairwise_middle fun h => h.symm, List.pairwise_cons,
      ← List.map_append]
    refine ⟨fun buffer member => ?_, sound.apart⟩
    obtain ⟨other, old, rfl⟩ := List.mem_map.mp member
    exact apart other old
  · intro other member
    obtain ⟨holder, holds, taken⟩ := sound.inside other member
    exact ⟨holder, mem_middle.mpr (Or.inr holds), taken⟩
  · intro other member index bound
    rcases mem_middle.mp member with rfl | old
    · rw [clear index]
      constructor
      · intro set
        cases set
      · rintro ⟨allocation, taken, covered⟩
        obtain ⟨holder, holds, first, takes⟩ := sound.inside allocation taken
        exact absurd covered (not_covered (apart holder holds) placed takes.2 bound)
    · exact sound.marked other old index bound

/-- A block without allocations can go. -/
theorem PoolSound.remove (sound : PoolSound (before ++ block :: rest) live)
    (clear : ∀ index < block.unitCount, bitAt block.bits index = false) :
    PoolSound (before ++ rest) live := by
  have here : block ∈ before ++ block :: rest := mem_middle.mpr (Or.inl rfl)
  refine ⟨fun other member => sound.placed other (mem_middle.mpr (Or.inr member)), ?_,
    sound.sized, sound.disjoint, ?_,
    fun other member => sound.marked other (mem_middle.mpr (Or.inr member))⟩
  · have apart := sound.apart
    rw [List.map_append, List.map_cons, List.pairwise_middle fun h => h.symm, List.pairwise_cons,
      ← List.map_append] at apart
    exact apart.2
  · intro allocation member
    obtain ⟨holder, holds, first, takes⟩ := sound.inside allocation member
    rcases mem_middle.mp holds with rfl | elsewhere
    · -- its first unit would be set
      have units := Allocation.units_pos (sound.sized allocation member)
      have fits := takes.fits (sound.placed holder here)
      have covered := (takes.unit_within_iff first).mpr ⟨le_rfl, by omega⟩
      have set := (sound.marked holder here first (by omega)).mpr ⟨allocation, member, covered⟩
      rw [clear first (by omega)] at set
      cases set
    · exact ⟨holder, elsewhere, first, takes⟩

/-- What the bits of a block are after an allocation in it was freed. -/
structure Frees (block : UsbhcMemBlock) (allocation : Allocation) (bits : List UInt8) : Prop where
  sameLength : bits.length = block.bits.length
  cleared : ∀ index < block.unitCount, bitAt bits index =
    (bitAt block.bits index && !decide ((block.unit index).Within allocation.extent))

theorem PoolSound.nodup (sound : PoolSound before live) : live.Nodup := by
  have distinct := sound.disjoint
  rw [List.pairwise_map] at distinct
  refine distinct.imp_of_mem ?_
  rintro left right member - apart rfl
  have positive : 0 < left.extent.length :=
    Nat.mul_pos (by decide) (Allocation.units_pos (sound.sized left member))
  exact apart.ne_of_pos positive rfl

theorem PoolSound.covered_once (sound : PoolSound before live) (member : allocation ∈ live)
    (otherMember : other ∈ live) {index : Nat}
    (covered : (block.unit index).Within allocation.extent)
    (otherCovered : (block.unit index).Within other.extent) : other = allocation := by
  by_contra different
  have distinct := sound.disjoint
  rw [List.pairwise_map] at distinct
  have symmetric : Std.Symm fun (left right : Allocation) => left.extent.Disjoint right.extent :=
    ⟨fun _ _ apart => apart.symm⟩
  have apart := distinct.forall otherMember member different
  exact apart.not_within (show 0 < 64 by decide) otherCovered covered

/-- Freeing an allocation keeps the invariant. -/
theorem PoolSound.free (sound : PoolSound (before ++ block :: rest) live)
    (member : allocation ∈ live) {first : Nat} (takes : allocation.TakesFrom block first)
    (frees : Frees block allocation bits) :
    PoolSound (before ++ block.withBits bits :: rest) (live.erase allocation) := by
  have others := apart_middle sound.apart
  have here : block ∈ before ++ block :: rest := mem_middle.mpr (Or.inl rfl)
  have left : ∀ other, other ∈ live.erase allocation ↔ other ≠ allocation ∧ other ∈ live :=
    fun other => sound.nodup.mem_erase_iff
  refine ⟨placed_withBits sound.placed frees.sameLength, ?_, ?_, ?_, ?_, ?_⟩
  · simpa using sound.apart
  · intro other stays
    exact sound.sized other ((left other).mp stays).2
  · exact sound.disjoint.sublist (List.erase_sublist.map _)
  · intro other stays
    exact inside_withBits (sound.inside other ((left other).mp stays).2)
  · intro other holds index bound
    rcases mem_middle.mp holds with rfl | elsewhere
    · rw [UsbhcMemBlock.unitCount, UsbhcMemBlock.bits_withBits, frees.sameLength] at bound
      have old := sound.marked block here index bound
      simp only [UsbhcMemBlock.bits_withBits, UsbhcMemBlock.unit_withBits,
        frees.cleared index bound, Bool.and_eq_true, Bool.not_eq_true', decide_eq_false_iff_not,
        old, left]
      constructor
      · rintro ⟨⟨other, taken, covered⟩, outside⟩
        refine ⟨other, ⟨?_, taken⟩, covered⟩
        rintro rfl
        exact outside covered
      · rintro ⟨other, ⟨different, taken⟩, covered⟩
        refine ⟨⟨other, taken, covered⟩, fun freed => different ?_⟩
        exact sound.covered_once member taken freed covered
    · have same := sound.marked other (mem_middle.mpr (Or.inr elsewhere)) index bound
      have apart := not_covered (others other elsewhere)
        (sound.placed other (mem_middle.mpr (Or.inr elsewhere))) takes.2 bound
      rw [same]
      simp only [left]
      constructor
      · rintro ⟨holder, taken, covered⟩
        refine ⟨holder, ⟨?_, taken⟩, covered⟩
        rintro rfl
        exact apart covered
      · rintro ⟨holder, ⟨-, taken⟩, covered⟩
        exact ⟨holder, taken, covered⟩

end

/-! ### Freeing -/

/-- The test of `UsbHcFreeMem` finds the block that contains the allocation. -/
theorem UsbhcMemBlock.holds_iff (placed : block.Placed) (sized : allocation.Sized)
    (bounded : allocation.extent.finish < 2 ^ 64) :
    block.holds allocation.mem (usbhcMemRound allocation.size) = true ↔
      allocation.extent.Within block.buffer := by
  have limit := placed.bounded
  unfold Interval.finish Allocation.extent at bounded
  dsimp only at bounded
  have last : (allocation.mem + usbhcMemRound allocation.size).toNat =
      allocation.mem.toNat + 64 * allocation.units := by
    rw [UInt64.toNat_add, Allocation.round_toNat sized, Nat.mod_eq_of_lt bounded]
  have finish : (block.bufHost + block.bufLen).toNat =
      block.bufHost.toNat + block.bufLen.toNat := by
    rw [UInt64.toNat_add, Nat.mod_eq_of_lt limit]
  simp only [UsbhcMemBlock.holds, Bool.and_eq_true, decide_eq_true_eq, UInt64.le_iff_toNat_le,
    last, finish]
  rfl

/-- The clearing covers exactly the units the marking covered. -/
theorem UsbhcMemBlock.freed_spec (placed : block.Placed) (sized : allocation.Sized) {first : Nat}
    (takes : allocation.TakesFrom block first)
    (taken : ∀ index < block.unitCount, (block.unit index).Within allocation.extent →
      bitAt block.bits index = true) :
    ∃ bits, block.freed allocation.mem (usbhcMemRound allocation.size) = block.withBits bits ∧
      Frees block allocation bits := by
  have fits := takes.fits placed
  have start := takes.1
  have bounded := placed.bounded
  have index : ((allocation.mem - block.bufHost) / usbhcMemUnit).toNat = first := by
    have unit : usbhcMemUnit.toNat = 64 := rfl
    have below := allocation.mem.toNat_lt
    rw [UInt64.toNat_div, UInt64.toNat_sub, unit]
    omega
  let cursor : BitCursor := ⟨first / 8, first % 8⟩
  have inByte : cursor.bit < 8 := Nat.mod_lt _ (by decide)
  have here : cursor.index = first := Nat.div_add_mod first 8
  have inside : cursor.index + allocation.units ≤ 8 * block.bits.length := by
    rw [here]
    exact fits
  obtain ⟨sameLength, cleared⟩ := clearUnits_spec allocation.units inByte inside
  refine ⟨clearUnits block.bits allocation.units cursor, ?_, sameLength, ?_⟩
  · rw [UsbhcMemBlock.freed, index, Allocation.round_div sized]
    rfl
  · intro unit bound
    have covers := takes.unit_within_iff unit
    rw [cleared unit, here]
    by_cases covered : (block.unit unit).Within allocation.extent
    · rw [decide_eq_true covered, decide_eq_true (covers.mp covered), taken unit bound covered]
      rfl
    · rw [decide_eq_false covered, decide_eq_false fun range => covered (covers.mpr range)]
      simp

/-- The walk of `UsbHcFreeMem` stops at the first block that contains the memory. -/
theorem freeFromBlocks_spec {before rest : List UsbhcMemBlock} {toFree allocSize : UInt64}
    (isHead : Bool) (passed : ∀ other ∈ before, other.holds toFree allocSize = false)
    (found : block.holds toFree allocSize = true) :
    freeFromBlocks toFree allocSize isHead (before ++ block :: rest) =
      some (before ++
        if !(isHead && before.isEmpty) && usbHcIsMemBlockEmpty (block.freed toFree allocSize) then
          rest
        else block.freed toFree allocSize :: rest) := by
  induction before generalizing isHead with
  | nil =>
    rw [List.nil_append, freeFromBlocks, if_pos found]
    simp only [List.isEmpty_nil, Bool.and_true, List.nil_append]
    split
    · rfl
    · rfl
  | cons other before ih =>
    have notHere := passed other List.mem_cons_self
    rw [List.cons_append, freeFromBlocks, notHere,
      ih false fun other member => passed other (List.mem_cons_of_mem _ member)]
    simp

theorem usbHcIsMemBlockEmpty_iff (block : UsbhcMemBlock) :
    usbHcIsMemBlockEmpty block = true ↔
      ∀ index < block.unitCount, bitAt block.bits index = false := by
  rw [usbHcIsMemBlockEmpty, List.all_eq_true, UsbhcMemBlock.unitCount, ← all_zero_iff]
  simp only [beq_iff_eq]

/-! ### New blocks -/

/-- The host hands out memory outside the blocks: `DmaAllocateBuffer` returns pages
nobody else has. -/
def HostReply.Fresh (host : HostReply) (blocks : List UsbhcMemBlock) (pages : UInt64) : Prop :=
  ∀ bufHost ∈ host.buffer,
    0 < bufHost.toNat ∧ bufHost.toNat + 4096 * pages.toNat < 2 ^ 64 ∧
      ∀ block ∈ blocks, (Interval.mk bufHost.toNat (4096 * pages.toNat)).Disjoint block.buffer

instance (host : HostReply) (blocks : List UsbhcMemBlock) (pages : UInt64) :
    Decidable (host.Fresh blocks pages) :=
  Option.decidableForallMem host.buffer

theorem usbHcAllocMemBlock_spec {pages : UInt64}
    (created : usbHcAllocMemBlock pool pages host = some block) (fresh : host.Fresh blocks pages)
    (some_pages : 0 < pages.toNat) :
    block.Placed ∧ (∀ other ∈ blocks, block.buffer.Disjoint other.buffer) ∧
      (∀ index, bitAt block.bits index = false) ∧ 64 * block.unitCount = 4096 * pages.toNat := by
  unfold usbHcAllocMemBlock at created
  split at created
  · cases created
  · simp only at created
    split at created
    · cases created
    · split at created
      · next bufHost bytes mappedAddr buffer mapping =>
        split at created
        · cases created
        · split at created
          · cases created
          · cases created
            obtain ⟨nonzero, bounded, apart⟩ := fresh bufHost buffer
            have length : (efiPagesToSize pages).toNat = 4096 * pages.toNat := by
              rw [efiPagesToSize, UInt64.toNat_shiftLeft, Nat.shiftLeft_eq]
              have twelve : (12 : UInt64).toNat % 64 = 12 := rfl
              rw [twelve]
              omega
            have units : 64 * (8 * ((efiPagesToSize pages) / (usbhcMemUnit * 8)).toNat) =
                4096 * pages.toNat := by
              have chunk : (usbhcMemUnit * 8).toNat = 512 := rfl
              rw [UInt64.toNat_div, length, chunk]
              omega
            refine ⟨⟨?_, nonzero, ?_, ?_⟩, ?_, bitAt_replicate_zero _, ?_⟩
            · unfold UsbhcMemBlock.unitCount
              dsimp only
              rw [List.length_replicate]
              omega
            · dsimp only
              rw [length]
              exact bounded
            · unfold UsbhcMemBlock.unitCount
              dsimp only
              rw [List.length_replicate, units, length]
            · intro other member
              unfold UsbhcMemBlock.buffer
              dsimp only
              rw [length]
              exact apart other member
            · unfold UsbhcMemBlock.unitCount
              dsimp only
              rw [List.length_replicate, units]
      · cases created

theorem newBlockPages_enough (allocSize : UInt64) :
    0 < (newBlockPages allocSize).toNat ∧
      allocSize.toNat ≤ 4096 * (newBlockPages allocSize).toNat := by
  have default : (efiPagesToSize usbhcMemDefaultPages).toNat = 65536 := rfl
  have pages : usbhcMemDefaultPages.toNat = 16 := rfl
  unfold newBlockPages
  split
  · have below := allocSize.toNat_lt
    have one : (1 : UInt64).toNat = 1 := rfl
    rw [UInt64.toNat_add, efiSizeToPages_toNat, one]
    omega
  · next small =>
    rw [gt_iff_lt, UInt64.lt_iff_toNat_lt, default] at small
    omega

/-! ### Runs -/

/-- A call of the pool's interface. -/
inductive PoolRequest
  | allocate (size : UInt64) (host : HostReply)
  | free (mem size : UInt64)

/-- The pool and what it has handed out. -/
structure PoolState where
  pool : UsbhcMemPool
  live : List Allocation

/-- One call. A call without an outcome changes nothing. -/
def servePool (state : PoolState) : PoolRequest → PoolState
  | .allocate size host =>
    let (mem, pool) := usbHcAllocateMem state.pool size host
    ⟨pool, if mem ≠ 0 then ⟨mem, size⟩ :: state.live else state.live⟩
  | .free mem size =>
    match usbHcFreeMem state.pool mem size with
    | some pool => ⟨pool, state.live.erase ⟨mem, size⟩⟩
    | none => state

/-- The calls of the drivers: sizes are positive and can be rounded, the host hands out
memory that is not in use, and what is freed is live, with its size. -/
def PoolRequest.Admitted (state : PoolState) : PoolRequest → Prop
  | .allocate size host =>
    Allocation.Sized ⟨0, size⟩ ∧
      host.Fresh state.pool.blocks (newBlockPages (usbhcMemRound size))
  | .free mem size => ⟨mem, size⟩ ∈ state.live

instance (allocation : Allocation) : Decidable allocation.Sized :=
  inferInstanceAs (Decidable (_ ∧ _))

instance (state : PoolState) : (request : PoolRequest) → Decidable (request.Admitted state)
  | .allocate _ _ => inferInstanceAs (Decidable (_ ∧ _))
  | .free mem size => inferInstanceAs (Decidable (⟨mem, size⟩ ∈ state.live))

/-- The block of `before` is not in `after`. -/
def Released (after : List UsbhcMemBlock) (block : UsbhcMemBlock) : Prop :=
  ∀ kept ∈ after, kept.buffer ≠ block.buffer

/-- What one call does to the blocks. -/
structure CallSafe (state : PoolState) (request : PoolRequest) : Prop where
  /-- A failed allocation changes nothing. -/
  failed : ∀ size host, request = .allocate size host →
    (usbHcAllocateMem state.pool size host).1 = 0 → servePool state request = state
  /-- Freeing finds its block, and leaves every bitmap as without the allocation. -/
  freed : ∀ mem size, request = .free mem size →
    ∃ after, usbHcFreeMem state.pool mem size = some after ∧
      ∀ kept ∈ after.blocks, ∃ block ∈ state.pool.blocks, kept.buffer = block.buffer ∧
        Frees block ⟨mem, size⟩ kept.bits
  /-- A released block holds no allocation that is still live. -/
  released : ∀ block ∈ state.pool.blocks, Released (servePool state request).pool.blocks block →
    ∀ allocation ∈ (servePool state request).live, allocation.extent.Disjoint block.buffer
  /-- The head block stays. -/
  head : (servePool state request).pool.blocks.head?.map UsbhcMemBlock.buffer =
    state.pool.blocks.head?.map UsbhcMemBlock.buffer

/-- The invariant of the pool, with its head. -/
def PoolState.Sound (state : PoolState) : Prop :=
  PoolSound state.pool.blocks state.live ∧ state.pool.blocks ≠ []

/-- What an allocation does: it changes nothing, or a block serves it, or a new block does. -/
theorem usbHcAllocateMem_spec (placed : ∀ block ∈ pool.blocks, block.Placed)
    (nonempty : pool.blocks ≠ []) (sized : Allocation.Sized ⟨0, size⟩)
    (fresh : host.Fresh pool.blocks (newBlockPages (usbhcMemRound size))) {after : UsbhcMemPool}
    (called : usbHcAllocateMem pool size host = (mem, after)) :
    mem = 0 ∧ after = pool ∨
      mem ≠ 0 ∧ (∃ before block rest bits, pool.blocks = before ++ block :: rest ∧
        after.blocks = before ++ block.withBits bits :: rest ∧ Serves block ⟨mem, size⟩ bits) ∨
      mem ≠ 0 ∧ (∃ head rest block bits, pool.blocks = head :: rest ∧
        after.blocks = head :: block.withBits bits :: rest ∧ block.Placed ∧
        (∀ other ∈ pool.blocks, block.buffer.Disjoint other.buffer) ∧
        (∀ index, bitAt block.bits index = false) ∧ Serves block ⟨mem, size⟩ bits) := by
  have units (mem : UInt64) : Allocation.units ⟨mem, size⟩ =
      (usbhcMemRound size / usbhcMemUnit).toNat := by
    have sizedThere : Allocation.Sized ⟨mem, size⟩ := sized
    have divided := Allocation.round_div sizedThere
    exact divided.symm
  have positive : 0 < (usbhcMemRound size / usbhcMemUnit).toNat := by
    rw [← units 0]
    exact Allocation.units_pos sized
  unfold usbHcAllocateMem at called
  cases tried : allocFromBlocks (usbhcMemRound size / usbhcMemUnit) pool.blocks with
  | mk got blocks =>
    simp only [tried] at called
    rcases allocFromBlocks_spec placed positive tried with
      ⟨rfl, rfl⟩ | ⟨nonzero, before, block, rest, bits, split, served, serves⟩
    · simp only [ne_eq, not_true_eq_false, if_false] at called
      split at called
      · cases called
        exact Or.inl ⟨rfl, rfl⟩
      · next block created =>
        obtain ⟨enoughPages, enough⟩ := newBlockPages_enough (usbhcMemRound size)
        obtain ⟨real, apart, clear, length⟩ := usbHcAllocMemBlock_spec created fresh enoughPages
        cases answer : usbHcAllocMemFromBlock block (usbhcMemRound size / usbhcMemUnit) with
        | mk got served =>
          rw [answer] at called
          cases called
          have rounded := Allocation.round_toNat sized
          dsimp only at rounded
          have all : FreeRun block.bits 0 (usbhcMemRound size / usbhcMemUnit).toNat := by
            refine ⟨?_, fun index _ _ => clear index⟩
            rw [← units 0]
            unfold UsbhcMemBlock.unitCount at length
            omega
          rcases usbHcAllocMemFromBlock_spec real positive answer with
            ⟨-, -, none⟩ | ⟨nonzero, bits, rfl, serves⟩
          · exact absurd all (none 0)
          · right; right
            cases blocks : pool.blocks with
            | nil => exact absurd blocks nonempty
            | cons head rest =>
              refine ⟨nonzero, head, rest, block, bits, rfl, ?_, real, ?_, clear,
                serves size (units _)⟩
              · rfl
              · rw [← blocks]
                exact apart
    · rw [if_pos nonzero] at called
      cases called
      exact Or.inr (Or.inl ⟨nonzero, before, block, rest, bits, split, served,
        serves size (units _)⟩)

/-- What freeing a live allocation does: the block that holds it is cleared of it, and
goes when it is empty and not the head. -/
theorem usbHcFreeMem_spec {live : List Allocation} (sound : PoolSound pool.blocks live)
    (member : allocation ∈ live) :
    ∃ before block rest bits first, pool.blocks = before ++ block :: rest ∧
      allocation.TakesFrom block first ∧ Frees block allocation bits ∧
      usbHcFreeMem pool allocation.mem allocation.size = some { pool with
        blocks := before ++ if !before.isEmpty && usbHcIsMemBlockEmpty (block.withBits bits) then
          rest else block.withBits bits :: rest } := by
  obtain ⟨block, holds, first, takes⟩ := sound.inside allocation member
  have sized := sound.sized allocation member
  have placed := sound.placed block holds
  obtain ⟨before, rest, split⟩ := List.append_of_mem holds
  have bounded : allocation.extent.finish < 2 ^ 64 := lt_of_le_of_lt takes.2.2 placed.bounded
  have found := (UsbhcMemBlock.holds_iff placed sized bounded).mpr takes.2
  have passed : ∀ other ∈ before,
      other.holds allocation.mem (usbhcMemRound allocation.size) = false := by
    intro other early
    have inPool : other ∈ pool.blocks := by
      rw [split]
      exact mem_middle.mpr (Or.inr (List.mem_append_left _ early))
    rw [Bool.eq_false_iff, ne_eq,
      UsbhcMemBlock.holds_iff (sound.placed other inPool) sized bounded]
    intro within
    have apart := apart_middle (split ▸ sound.apart) other (List.mem_append_left _ early)
    have positive : 0 < allocation.extent.length :=
      Nat.mul_pos (by decide) (Allocation.units_pos sized)
    exact apart.not_within positive within takes.2
  have taken : ∀ index < block.unitCount, (block.unit index).Within allocation.extent →
      bitAt block.bits index = true := by
    intro index bound covered
    exact (sound.marked block holds index bound).mpr ⟨allocation, member, covered⟩
  obtain ⟨bits, freed, frees⟩ := UsbhcMemBlock.freed_spec placed sized takes taken
  refine ⟨before, block, rest, bits, first, split, takes, frees, ?_⟩
  rw [usbHcFreeMem, split, freeFromBlocks_spec true passed found, freed, Bool.true_and]
  rfl

theorem allocate_sound {state : PoolState} (sound : state.Sound)
    (admitted : (PoolRequest.allocate size host).Admitted state) :
    (servePool state (.allocate size host)).Sound ∧ CallSafe state (.allocate size host) := by
  obtain ⟨pool, live⟩ := state
  obtain ⟨invariant, nonempty⟩ := sound
  obtain ⟨sized, fresh⟩ := admitted
  dsimp only at invariant nonempty fresh
  cases called : usbHcAllocateMem pool size host with
  | mk mem after =>
    have serve : servePool ⟨pool, live⟩ (.allocate size host) =
        ⟨after, if mem ≠ 0 then ⟨mem, size⟩ :: live else live⟩ := by
      simp only [servePool, called]
    -- an allocation keeps every block, so nothing is released
    have safe : (servePool ⟨pool, live⟩ (.allocate size host)).Sound →
        (mem = 0 → after = pool) →
        (∀ block ∈ pool.blocks, ∃ kept ∈ after.blocks, kept.buffer = block.buffer) →
        after.blocks.head?.map UsbhcMemBlock.buffer =
          pool.blocks.head?.map UsbhcMemBlock.buffer →
        (servePool ⟨pool, live⟩ (.allocate size host)).Sound ∧
          CallSafe ⟨pool, live⟩ (.allocate size host) := by
      intro soundAfter unchanged kept head
      refine ⟨soundAfter, ?_, ?_, ?_, ?_⟩
      · rintro size' host' ⟨⟩ failed
        rw [called] at failed
        have null : mem = 0 := failed
        rw [serve, unchanged null, if_neg (not_not_intro null)]
      · rintro _ _ ⟨⟩
      · intro block member gone
        obtain ⟨same, stays, buffer⟩ := kept block member
        rw [serve] at gone
        exact absurd buffer (gone same stays)
      · rw [serve]
        exact head
    rcases usbHcAllocateMem_spec invariant.placed nonempty sized fresh called with
      ⟨rfl, rfl⟩ | ⟨nonzero, before, block, rest, bits, split, served, serves⟩ |
        ⟨nonzero, head, rest, block, bits, split, served, real, apart, clear, serves⟩
    · refine safe ?_ (fun _ => rfl) (fun block member => ⟨block, member, rfl⟩) rfl
      rw [serve]
      exact ⟨invariant, nonempty⟩
    · refine safe ?_ (fun null => absurd null nonzero) ?_ ?_
      · rw [serve, if_pos nonzero]
        refine ⟨?_, ?_⟩
        · dsimp only
          rw [served]
          exact PoolSound.serve (split ▸ invariant) sized serves
        · dsimp only
          rw [served]
          simp
      · intro other member
        rw [split] at member
        rw [served]
        rcases mem_middle.mp member with rfl | elsewhere
        · exact ⟨other.withBits bits, mem_middle.mpr (Or.inl rfl), rfl⟩
        · exact ⟨other, mem_middle.mpr (Or.inr elsewhere), rfl⟩
      · rw [split, served]
        cases before with
        | nil => rfl
        | cons first before => rfl
    · refine safe ?_ (fun null => absurd null nonzero) ?_ ?_
      · rw [serve, if_pos nonzero]
        refine ⟨?_, ?_⟩
        · dsimp only
          rw [served]
          rw [split] at invariant apart
          have grown : PoolSound ([head] ++ block :: rest) live :=
            PoolSound.insert invariant real apart clear
          exact grown.serve sized serves
        · dsimp only
          rw [served]
          simp
      · intro other member
        rw [split] at member
        rw [served]
        exact ⟨other, by grind, rfl⟩
      · rw [split, served]
        rfl

theorem free_sound {state : PoolState} (sound : state.Sound) (member : ⟨mem, size⟩ ∈ state.live) :
    (servePool state (.free mem size)).Sound ∧ CallSafe state (.free mem size) := by
  obtain ⟨pool, live⟩ := state
  obtain ⟨invariant, nonempty⟩ := sound
  obtain ⟨before, block, rest, bits, first, split, takes, frees, freed⟩ :=
    usbHcFreeMem_spec invariant member
  dsimp only at invariant nonempty member split freed
  have cleared : PoolSound (before ++ block.withBits bits :: rest) (live.erase ⟨mem, size⟩) :=
    PoolSound.free (split ▸ invariant) member takes frees
  have others := apart_middle (split ▸ invariant.apart)
  have unchanged : ∀ other ∈ before ++ rest, Frees other ⟨mem, size⟩ other.bits := by
    intro other elsewhere
    have inPool : other ∈ pool.blocks := by
      rw [split]
      exact mem_middle.mpr (Or.inr elsewhere)
    refine ⟨rfl, fun index bound => ?_⟩
    have apart := not_covered (others other elsewhere) (invariant.placed other inPool) takes.2 bound
    simp [apart]
  have kept : ∀ stays ∈ before ++ block.withBits bits :: rest,
      ∃ other ∈ pool.blocks, stays.buffer = other.buffer ∧ Frees other ⟨mem, size⟩ stays.bits := by
    intro stays member
    rw [split]
    rcases mem_middle.mp member with rfl | elsewhere
    · exact ⟨block, mem_middle.mpr (Or.inl rfl), rfl, frees⟩
    · exact ⟨stays, mem_middle.mpr (Or.inr elsewhere), rfl, unchanged stays elsewhere⟩
  by_cases gone : (!before.isEmpty && usbHcIsMemBlockEmpty (block.withBits bits)) = true
  · rw [if_pos gone] at freed
    have serve : servePool ⟨pool, live⟩ (.free mem size) =
        ⟨{ pool with blocks := before ++ rest }, live.erase ⟨mem, size⟩⟩ := by
      simp only [servePool, freed]
    obtain ⟨notHead, empty⟩ := Bool.and_eq_true_iff.mp gone
    have removed := cleared.remove ((usbHcIsMemBlockEmpty_iff _).mp empty)
    refine ⟨?_, ?_, ?_, ?_, ?_⟩
    · rw [serve]
      refine ⟨removed, ?_⟩
      rintro nothing
      simp [(List.append_eq_nil_iff.mp nothing).1] at notHead
    · rintro _ _ ⟨⟩
    · rintro _ _ ⟨⟩
      refine ⟨_, freed, fun stays member => kept stays ?_⟩
      exact mem_middle.mpr (Or.inr member)
    · intro other member released allocation stays
      rw [serve] at released stays
      dsimp only at released stays member
      rw [split] at member
      rcases mem_middle.mp member with rfl | elsewhere
      · obtain ⟨holder, holds, first, taken⟩ := removed.inside allocation stays
        exact (others holder holds).mono taken.2 ⟨le_rfl, le_rfl⟩
      · exact absurd rfl (released other elsewhere)
    · rw [serve, split]
      cases before with
      | nil => simp at notHead
      | cons head before => rfl
  · rw [if_neg gone] at freed
    have serve : servePool ⟨pool, live⟩ (.free mem size) =
        ⟨{ pool with blocks := before ++ block.withBits bits :: rest },
          live.erase ⟨mem, size⟩⟩ := by
      simp only [servePool, freed]
    refine ⟨?_, ?_, ?_, ?_, ?_⟩
    · rw [serve]
      exact ⟨cleared, by simp⟩
    · rintro _ _ ⟨⟩
    · rintro _ _ ⟨⟩
      exact ⟨_, freed, kept⟩
    · intro other member released allocation stays
      rw [serve] at released
      dsimp only at released member
      rw [split] at member
      rcases mem_middle.mp member with rfl | elsewhere
      · exact absurd rfl (released (other.withBits bits) (mem_middle.mpr (Or.inl rfl)))
      · exact absurd rfl (released other (mem_middle.mpr (Or.inr elsewhere)))
    · rw [serve, split]
      cases before with
      | nil => rfl
      | cons head before => rfl

theorem servePool_sound (state : PoolState) (request : PoolRequest) (sound : state.Sound)
    (admitted : request.Admitted state) :
    (servePool state request).Sound ∧ CallSafe state request := by
  cases request with
  | allocate size host => exact allocate_sound sound admitted
  | free mem size => exact free_sound sound admitted

theorem usbHcInitMemPool_sound {check4G : Bool} {which4G : UInt32} {poolAllocated : Bool}
    (started : usbHcInitMemPool check4G which4G poolAllocated host = some pool)
    (fresh : host.Fresh [] usbhcMemDefaultPages) : PoolState.Sound ⟨pool, []⟩ := by
  unfold usbHcInitMemPool at started
  split at started
  · cases started
  · dsimp only at started
    obtain ⟨head, created, rfl⟩ := Option.map_eq_some_iff.mp started
    obtain ⟨placed, apart, clear, -⟩ := usbHcAllocMemBlock_spec created fresh (by decide)
    have empty : PoolSound ([] ++ []) [] := by
      constructor
      all_goals simp
    exact ⟨empty.insert placed apart clear, List.cons_ne_nil head []⟩

/-- In every run of admitted calls from initialization on, every state is sound and
every call is safe. -/
theorem memPool_invariant {check4G : Bool} {which4G : UInt32} {poolAllocated : Bool}
    {host : HostReply} {pool : UsbhcMemPool}
    (started : usbHcInitMemPool check4G which4G poolAllocated host = some pool)
    (fresh : host.Fresh [] usbhcMemDefaultPages) {requests : List PoolRequest}
    (admitted : AllSteps servePool PoolRequest.Admitted ⟨pool, []⟩ requests) :
    (∀ count, (run servePool ⟨pool, []⟩ (requests.take count)).Sound) ∧
      AllSteps servePool CallSafe ⟨pool, []⟩ requests := by
  have initial := usbHcInitMemPool_sound started fresh
  have keep : ∀ (state : PoolState) request, state.Sound → request.Admitted state →
      (servePool state request).Sound := by
    intro state request sound allowed
    exact (servePool_sound state request sound allowed).1
  have safe : ∀ (state : PoolState) request, state.Sound → request.Admitted state →
      CallSafe state request := by
    intro state request sound allowed
    exact (servePool_sound state request sound allowed).2
  exact ⟨run_invariant_throughout keep initial admitted,
    admitted.imp_of_invariant keep safe initial⟩

/-- A host with sixteen pages at 16 MiB, mapped one to one. -/
def lowPages : HostReply := ⟨true, true, some 0x1000000, some (0x10000, 0x1000000)⟩

/-- The pool of `OhciDxe`, on the first host. -/
def lowPool : UsbhcMemPool := ⟨false, 0, [⟨List.replicate 128 0, 0x1000000, 0x1000000, 0x10000⟩]⟩

/-- A host without memory. -/
def noPages : HostReply := ⟨false, false, none, none⟩

/-- Two allocations, and then the frees in another order. -/
def poolTraffic : List PoolRequest :=
  [.allocate 100 noPages, .allocate 64 noPages, .free 0x1000000 100, .free 0x1000080 64]

theorem lowPool_started : usbHcInitMemPool false 0 true lowPages = some lowPool := by
  decide +kernel

theorem memPool_invariant_traffic :
    (∀ count, (run servePool ⟨lowPool, []⟩ (poolTraffic.take count)).Sound) ∧
      AllSteps servePool CallSafe ⟨lowPool, []⟩ poolTraffic :=
  memPool_invariant lowPool_started (by decide +kernel) (by decide +kernel)

end MuRockchip.Ohci
