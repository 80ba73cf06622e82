/-
Blocks of memory that are written as a whole.

A block is the list of its bytes. Storing bytes in it gives the block behind the store, and nothing
if the store reaches out of it.

* `storeBytes_append`: a store at the border of what is written already.
* `storeBytes_inside`: a store that has a result is inside the block.
-/
import Mathlib.Data.List.Basic

namespace MuRockchip.Base

/-- Store bytes in a block of memory. A store that reaches out of it has no result. -/
def storeBytes (block : List UInt8) (offset : Nat) (bytes : List UInt8) : Option (List UInt8) :=
  if offset + bytes.length ≤ block.length then
    some (block.take offset ++ bytes ++ block.drop (offset + bytes.length))
  else none

section

variable {block before after bytes : List UInt8} {offset : Nat}

theorem storeBytes_append (fits : bytes.length ≤ after.length) :
    storeBytes (before ++ after) before.length bytes =
      some (before ++ bytes ++ after.drop bytes.length) := by
  rw [storeBytes, if_pos (by rw [List.length_append]; omega), List.take_left, List.drop_append,
    List.drop_eq_nil_of_le (Nat.le_add_right _ _), Nat.add_sub_cancel_left, List.nil_append]

theorem storeBytes_inside (stored : storeBytes block offset bytes = some after) :
    offset + bytes.length ≤ block.length ∧ after.length = block.length := by
  rw [storeBytes] at stored
  split at stored
  · next inside =>
    obtain rfl := Option.some.inj stored
    refine ⟨inside, ?_⟩
    simp only [List.length_append, List.length_take, List.length_drop]
    omega
  · exact nomatch stored

end

end MuRockchip.Base
