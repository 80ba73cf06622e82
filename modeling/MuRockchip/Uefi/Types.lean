/-
Strings, identifiers and pages of the UEFI interfaces.
-/
import MuRockchip.Base.Bytes
import MuRockchip.Uefi.Status

namespace MuRockchip

open MuRockchip.Base

/-- A `CHAR16` string: the characters before the terminator. -/
@[ext]
structure Str16 where
  chars : List UInt16
  unterminated : 0 ∉ chars
  deriving DecidableEq

namespace Str16

/-- The character at the start of the buffer, the terminator of an empty string. -/
def first (string : Str16) : UInt16 := string.chars.headD 0

/-- The bytes of the string, terminator included. -/
def bytes (string : Str16) : List UInt8 :=
  (string.chars ++ [0]).flatMap fun (char : UInt16) => leBytes 2 char.toNat

/-- `StrSize`: the bytes of the string, terminator included. -/
def strSize (string : Str16) : UInt64 := UInt64.ofNat (2 * (string.chars.length + 1))

end Str16

structure EfiGuid where
  data1 : UInt32
  data2 : UInt16
  data3 : UInt16
  data4 : Vector UInt8 8
  deriving DecidableEq, Repr

def efiPagesToSize (pages : UInt64) : UInt64 := pages <<< 12

def efiSizeToPages (size : UInt64) : UInt64 :=
  (size >>> 12) + if size &&& 0xFFF ≠ 0 then 1 else 0

theorem shiftRight_pages_toNat (size : UInt64) : (size >>> 12).toNat = size.toNat / 4096 := by
  rw [UInt64.toNat_shiftRight]
  exact Nat.shiftRight_eq_div_pow _ 12

theorem and_pages_toNat (size : UInt64) : (size &&& 0xFFF).toNat = size.toNat % 4096 := by
  rw [UInt64.toNat_and]
  exact Nat.and_two_pow_sub_one_eq_mod _ 12

theorem efiSizeToPages_toNat (size : UInt64) :
    (efiSizeToPages size).toNat = (size.toNat + 4095) / 4096 := by
  have below := size.toNat_lt
  have one : (1 : UInt64).toNat = 1 := rfl
  have zero : (0 : UInt64).toNat = 0 := rfl
  have part := and_pages_toNat size
  unfold efiSizeToPages
  split
  · next some =>
    have : (size &&& 0xFFF).toNat ≠ 0 := fun none => some (UInt64.toNat_inj.mp none)
    rw [UInt64.toNat_add, shiftRight_pages_toNat, one]
    omega
  · next none =>
    rw [not_ne_iff.mp none, zero] at part
    rw [UInt64.toNat_add, shiftRight_pages_toNat, zero]
    omega

end MuRockchip
