/-
Run-length maps.

A map of consecutive blocks is stored as runs: so many blocks of this size, then so
many of that size. Looking a block up walks the runs with a running offset. The
laws say that the blocks tile the area the runs describe.

* `locate_isSome_iff`: the blocks are the indices below the number of blocks.
* `locate_zero`, `locate_succ`: each block begins where the one before it ends.
* `locate_last`: the last block ends where the area ends.
-/
import Mathlib.Tactic.Ring

namespace MuRockchip.Base

/-- So many blocks of one size. -/
structure Run where
  count : Nat
  size : Nat
  deriving DecidableEq, Repr

namespace RunMap

/-- The number of blocks. -/
def blocks : List Run → Nat
  | [] => 0
  | run :: rest => run.count + blocks rest

/-- The size of the area. -/
def bytes : List Run → Nat
  | [] => 0
  | run :: rest => run.count * run.size + bytes rest

/-- Where a block begins, and its size. -/
def locate : List Run → Nat → Option (Nat × Nat)
  | [], _ => none
  | run :: rest, index =>
    if index < run.count then some (index * run.size, run.size)
    else (locate rest (index - run.count)).map fun found =>
      (run.count * run.size + found.1, found.2)

variable {runs : List Run} {found : Nat × Nat} {index : Nat}

/-- Without blocks there is no area. -/
theorem bytes_eq_zero (none : blocks runs = 0) : bytes runs = 0 := by
  induction runs with
  | nil => rfl
  | cons run rest ih =>
    simp only [blocks] at none
    have empty : run.count = 0 := by omega
    have later : blocks rest = 0 := by omega
    simp [bytes, empty, ih later]

theorem locate_isSome_iff (runs : List Run) (index : Nat) :
    (locate runs index).isSome ↔ index < blocks runs := by
  induction runs generalizing index with
  | nil => simp [locate, blocks]
  | cons run rest ih =>
    simp only [locate, blocks]
    split
    · simp only [Option.isSome_some, true_iff]
      omega
    · rw [Option.isSome_map, ih]
      omega

/-- A block lies in the area. -/
theorem locate_within
    (located : locate runs index = some found) : found.1 + found.2 ≤ bytes runs := by
  induction runs generalizing index found with
  | nil => cases located
  | cons run rest ih =>
    simp only [locate] at located
    split at located
    · rename_i inside
      obtain rfl := Option.some.inj located
      have whole : (index + 1) * run.size ≤ run.count * run.size := Nat.mul_le_mul_right _ inside
      rw [Nat.succ_mul] at whole
      simp only [bytes]
      omega
    · obtain ⟨found, later, rfl⟩ := Option.map_eq_some_iff.mp located
      have := ih later
      simp only [bytes]
      omega

/-- A run lies in the area. -/
theorem run_bytes_le {run : Run} (member : run ∈ runs) :
    run.count * run.size ≤ bytes runs := by
  induction runs with
  | nil => cases member
  | cons first rest ih =>
    simp only [bytes]
    rcases List.mem_cons.mp member with rfl | later
    · omega
    · have := ih later
      omega

/-- The first block begins where the area begins. -/
theorem locate_zero (located : locate runs 0 = some found) : found.1 = 0 := by
  induction runs generalizing found with
  | nil => cases located
  | cons run rest ih =>
    simp only [locate] at located
    split at located
    · obtain rfl := Option.some.inj located
      simp
    · rename_i empty
      have none : run.count = 0 := by omega
      obtain ⟨found, later, rfl⟩ := Option.map_eq_some_iff.mp located
      rw [none, Nat.sub_zero] at later
      simp [none, ih later]

/-- A block begins where the one before it ends. -/
theorem locate_succ {next : Nat × Nat} (located : locate runs index = some found)
    (after : locate runs (index + 1) = some next) :
    next.1 = found.1 + found.2 := by
  induction runs generalizing index found next with
  | nil => cases located
  | cons run rest ih =>
    simp only [locate] at located after
    split at located
    · rename_i inside
      obtain rfl := Option.some.inj located
      split at after
      · obtain rfl := Option.some.inj after
        ring
      · obtain ⟨next, later, rfl⟩ := Option.map_eq_some_iff.mp after
        have boundary : run.count = index + 1 := by omega
        rw [boundary, Nat.sub_self] at later
        rw [locate_zero later, boundary]
        ring
    · rename_i outside
      rw [if_neg (by omega)] at after
      obtain ⟨found, here, rfl⟩ := Option.map_eq_some_iff.mp located
      obtain ⟨next, later, rfl⟩ := Option.map_eq_some_iff.mp after
      rw [Nat.sub_add_comm (by omega)] at later
      rw [ih here later]
      omega

/-- Later blocks lie behind earlier ones. -/
theorem locate_le {distance : Nat} {later : Nat × Nat} (located : locate runs index = some found)
    (after : locate runs (index + 1 + distance) = some later) : found.1 + found.2 ≤ later.1 := by
  induction distance generalizing later with
  | zero => exact (locate_succ located after).ge
  | succ distance ih =>
    have below : index + 1 + distance < blocks runs := by
      have := (locate_isSome_iff runs _).mp (Option.isSome_of_eq_some after)
      omega
    obtain ⟨middle, between⟩ := Option.isSome_iff_exists.mp ((locate_isSome_iff runs _).mpr below)
    have := ih between
    have := locate_succ between after
    omega

theorem locate_last (located : locate runs index = some found) (last : index + 1 = blocks runs) :
    found.1 + found.2 = bytes runs := by
  induction runs generalizing index found with
  | nil => cases located
  | cons run rest ih =>
    simp only [locate, blocks, bytes] at located last ⊢
    split at located
    · obtain rfl := Option.some.inj located
      have only : blocks rest = 0 := by omega
      have boundary : run.count = index + 1 := by omega
      rw [boundary, bytes_eq_zero only]
      ring
    · obtain ⟨found, later, rfl⟩ := Option.map_eq_some_iff.mp located
      have := ih later (by omega)
      simp only
      omega

end RunMap

end MuRockchip.Base
