/-
Binary-coded decimal bytes.

The conversions are the services of a library: they are what is documented for them on the
values that have two decimal digits, and anything elsewhere.

* `BcdConversions.toDecimal_ofDecimal`: the conversions are inverse.
* `BcdConversions.ofDecimal_and`: a mask that covers the digits leaves them.
-/
import Mathlib.Data.UInt

namespace MuRockchip.Base

/-- Both digits of a byte are decimal. -/
def IsBcd (value : UInt8) : Prop := value.toNat / 16 < 10 ∧ value.toNat % 16 < 10

/-- Conversions between a number and its two decimal digits. -/
structure BcdConversions where
  toDecimal : UInt8 → UInt8
  ofDecimal : UInt8 → UInt8
  toDecimal_toNat : ∀ value, IsBcd value →
    (toDecimal value).toNat = value.toNat / 16 * 10 + value.toNat % 16
  ofDecimal_toNat : ∀ value, value.toNat < 100 →
    (ofDecimal value).toNat = value.toNat / 10 * 16 + value.toNat % 10

namespace BcdConversions

variable (bcd : BcdConversions) {value : UInt8}

theorem isBcd_ofDecimal (small : value.toNat < 100) : IsBcd (bcd.ofDecimal value) := by
  rw [IsBcd, bcd.ofDecimal_toNat value small]
  omega

theorem toDecimal_ofDecimal (small : value.toNat < 100) :
    bcd.toDecimal (bcd.ofDecimal value) = value := by
  refine UInt8.toNat_inj.mp ?_
  rw [bcd.toDecimal_toNat _ (bcd.isBcd_ofDecimal small), bcd.ofDecimal_toNat value small]
  omega

theorem ofDecimal_and {mask : UInt8} {width : Nat} (small : value.toNat < 100)
    (covers : mask.toNat = 2 ^ width - 1) (fits : value.toNat / 10 * 16 + 15 < 2 ^ width) :
    bcd.ofDecimal value &&& mask = bcd.ofDecimal value := by
  refine UInt8.toNat_inj.mp ?_
  rw [UInt8.toNat_and, covers, Nat.and_two_pow_sub_one_eq_mod, bcd.ofDecimal_toNat value small]
  exact Nat.mod_eq_of_lt (by omega)

end BcdConversions

/-- The conversions as they are computed. -/
def bcdConversions : BcdConversions where
  toDecimal value := value / 16 * 10 + value % 16
  ofDecimal value := value / 10 * 16 + value % 10
  toDecimal_toNat value digits := by
    obtain ⟨high, low⟩ := digits
    rw [UInt8.toNat_add, UInt8.toNat_mul, UInt8.toNat_div, UInt8.toNat_mod]
    show (value.toNat / 16 * 10 % 256 + value.toNat % 16) % 256 = _
    omega
  ofDecimal_toNat value small := by
    rw [UInt8.toNat_add, UInt8.toNat_mul, UInt8.toNat_div, UInt8.toNat_mod]
    show (value.toNat / 10 * 16 % 256 + value.toNat % 10) % 256 = _
    omega

end MuRockchip.Base
