/-
Strings that end with a NUL.

Memory is what can be read from a pointer on: a list of bytes. A computation that looks past its
end has no result.

* `asciiStrSize_bytes`: the size of a string that is followed by anything.
-/
import Mathlib.Data.List.Basic

namespace MuRockchip.Base

/-- The characters of a string. -/
structure AsciiString where
  chars : List UInt8
  noNul : ∀ c ∈ chars, c ≠ 0
  deriving DecidableEq

/-- `AsciiStrLen`: the characters before the first NUL. -/
def asciiStrLen (memory : List UInt8) : Option Nat := memory.findIdx? (· = 0)

/-- `AsciiStrSize`: with the NUL. -/
def asciiStrSize (memory : List UInt8) : Option Nat := (asciiStrLen memory).map (· + 1)

namespace AsciiString

/-- The string in memory. -/
def bytes (string : AsciiString) : List UInt8 := string.chars ++ [0]

def size (string : AsciiString) : Nat := string.chars.length + 1

@[simp]
theorem length_bytes (string : AsciiString) : string.bytes.length = string.size := by
  simp [bytes, size]

theorem asciiStrLen_bytes (string : AsciiString) (rest : List UInt8) :
    asciiStrLen (string.bytes ++ rest) = some string.chars.length := by
  rw [asciiStrLen, List.findIdx?_eq_some_iff_getElem]
  refine ⟨by simp [bytes], ?_, fun index before => ?_⟩
  · simp [bytes]
  · simpa [bytes, before] using string.noNul _ (List.getElem_mem before)

theorem asciiStrSize_bytes (string : AsciiString) (rest : List UInt8) :
    asciiStrSize (string.bytes ++ rest) = some string.size := by
  rw [asciiStrSize, asciiStrLen_bytes]
  rfl

end AsciiString

end MuRockchip.Base
