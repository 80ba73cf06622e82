/-
The capacity of the memory (`SdramGetMemorySize`, `Rk3399InitMemorySize`).

The boot loader leaves the geometry of the memory in registers: for every channel the number of
ranks and the address bits of each. The size of the second rank is computed from that of the first,
by a shift by the bits that it has less.

* `chSizeMb_eq`, `chipSizeMb_eq`: the size of a channel, and when there is none.
* `sdramGetMemorySize_eq`, `rk3399InitMemorySize_eq`: the size of the memory.
-/
import Mathlib.Data.Nat.Bitwise
import Mathlib.Tactic.Ring

namespace MuRockchip.Dram

/-! ### Channels -/

/-- The geometry of a channel: how many ranks it has, the row and column bits of each, the bits of
the banks, of the bank groups and of the width of the bus. -/
structure Channel where
  rank : Nat
  cs0Row : Nat
  cs1Row : Nat
  cs0Col : Nat
  cs1Col : Nat
  bk : Nat
  bg : Nat
  bw : Nat
  row34 : Bool
  rows : (12 ≤ cs0Row ∧ cs0Row ≤ 19) ∧ 12 ≤ cs1Row ∧ cs1Row ≤ 19
  cols : (9 ≤ cs0Col ∧ cs0Col ≤ 12) ∧ 9 ≤ cs1Col ∧ cs1Col ≤ 12
  banks : (2 ≤ bk ∧ bk ≤ 3) ∧ bg ≤ 2 ∧ bw ≤ 2

def Channel.rankBytes (channel : Channel) (row col : Nat) : Nat :=
  2 ^ (row + col + channel.bk + channel.bg + channel.bw)

/-- The bytes of a channel. Of some chips only three quarters of the rows are there. -/
def Channel.bytes (channel : Channel) : Nat :=
  let whole := channel.rankBytes channel.cs0Row channel.cs0Col +
    if 1 < channel.rank then channel.rankBytes channel.cs1Row channel.cs1Col else 0
  if channel.row34 then whole * 3 / 4 else whole

/-- The second rank is not larger than the first. -/
def Channel.Ordered (channel : Channel) : Prop :=
  1 < channel.rank → channel.cs1Row + channel.cs1Col ≤ channel.cs0Row + channel.cs0Col

/-! ### The size of a channel -/

/-- Shifts of an `INT32`, for amounts that a shift has a result for. -/
def shiftLeft (value amount : Int) : Option Int :=
  if 0 ≤ amount ∧ amount < 32 then some (value * 2 ^ amount.toNat) else none

def shiftRight (value amount : Int) : Option Int :=
  if 0 ≤ amount ∧ amount < 32 then some (value / 2 ^ amount.toNat) else none

/-- `ChSizeMb` of the RK356x. -/
def chSizeMb (channel : Channel) : Option Int := do
  let size ← shiftLeft 1
    (channel.cs0Row + channel.cs0Col + channel.bk + channel.bg + channel.bw - 20)
  let size ←
    if 1 < channel.rank then do
      let more ← shiftRight size
        ((channel.cs0Row - channel.cs1Row) + (channel.cs0Col - channel.cs1Col))
      some (size + more)
    else some size
  some (if channel.row34 then size * 3 / 4 else size)

/-- Shifts of a `UINT32`, for amounts that a shift has a result for. -/
def shiftLeft32 (value amount : UInt32) : Option UInt32 :=
  if amount < 32 then some (value <<< amount) else none

def shiftRight32 (value amount : UInt32) : Option UInt32 :=
  if amount < 32 then some (value >>> amount) else none

/-- `ChipSizeMb` of the RK3399. -/
def chipSizeMb (channel : Channel) : Option UInt32 := do
  let size ← shiftLeft32 1 (UInt32.ofNat channel.cs0Row + UInt32.ofNat channel.cs0Col +
    UInt32.ofNat channel.bk + UInt32.ofNat channel.bw - 20)
  let size ←
    if 1 < channel.rank then do
      let more ← shiftRight32 size (UInt32.ofNat channel.cs0Row - UInt32.ofNat channel.cs1Row)
      some (size + more)
    else some size
  some (if channel.row34 then size * 3 / 4 else size)

def Channel.megabytes (channel : Channel) : Nat :=
  let first := 2 ^ (channel.cs0Row + channel.cs0Col + channel.bk + channel.bg + channel.bw - 20)
  let whole := first + if 1 < channel.rank then
    2 ^ (channel.cs1Row + channel.cs1Col + channel.bk + channel.bg + channel.bw - 20) else 0
  if channel.row34 then whole * 3 / 4 else whole

section

variable {channel : Channel}

theorem Channel.bytes_eq (channel : Channel) : channel.bytes = channel.megabytes * 2 ^ 20 := by
  obtain ⟨⟨row0, -⟩, row1, -⟩ := channel.rows
  obtain ⟨⟨col0, -⟩, col1, -⟩ := channel.cols
  obtain ⟨⟨bank, -⟩, -⟩ := channel.banks
  have split : ∀ row col, 12 ≤ row → 9 ≤ col → ∃ part,
      2 ^ (row + col + channel.bk + channel.bg + channel.bw) = part * 4 * 2 ^ 20 ∧
        2 ^ (row + col + channel.bk + channel.bg + channel.bw - 20) = part * 4 := by
    intro row col rows cols
    obtain ⟨part, same⟩ := Nat.exists_eq_add_of_le
      (by omega : 22 ≤ row + col + channel.bk + channel.bg + channel.bw)
    have less : 22 + part - 20 = part + 2 := by omega
    rw [same, less]
    exact ⟨2 ^ part, by ring, by ring⟩
  obtain ⟨first, bytes0, size0⟩ := split channel.cs0Row channel.cs0Col row0 col0
  obtain ⟨second, bytes1, size1⟩ := split channel.cs1Row channel.cs1Col row1 col1
  simp only [bytes, megabytes, rankBytes, bytes0, size0, bytes1, size1]
  split <;> split <;> omega

theorem Channel.megabytes_le (channel : Channel) : channel.megabytes ≤ 2 ^ 19 := by
  obtain ⟨⟨-, row0⟩, -, row1⟩ := channel.rows
  obtain ⟨⟨-, col0⟩, -, col1⟩ := channel.cols
  obtain ⟨⟨-, bank⟩, group, width⟩ := channel.banks
  have most : ∀ row col, row ≤ 19 → col ≤ 12 →
      2 ^ (row + col + channel.bk + channel.bg + channel.bw - 20) ≤ 2 ^ 18 := by
    intro row col rows cols
    exact Nat.pow_le_pow_right (by decide) (by omega)
  have first := most channel.cs0Row channel.cs0Col row0 col0
  have second := most channel.cs1Row channel.cs1Col row1 col1
  simp only [megabytes]
  split <;> split <;> omega

theorem shiftLeft_power {amount : Int} {exponent : Nat} (same : amount = exponent)
    (few : exponent < 32) : shiftLeft 1 amount = some ((2 ^ exponent : Nat) : Int) := by
  rw [same, shiftLeft, if_pos ⟨Int.natCast_nonneg _, by omega⟩]
  simp

theorem shiftRight_power {amount : Int} {exponent other less : Nat} (same : amount = less)
    (few : less < 32) (sum : other + less = exponent) :
    shiftRight ((2 ^ exponent : Nat) : Int) amount = some ((2 ^ other : Nat) : Int) := by
  rw [same, shiftRight, if_pos ⟨Int.natCast_nonneg _, by omega⟩, ← sum, Nat.pow_add]
  simp

/-- The size of a channel is exact, or the second rank is larger and there is no result. -/
theorem chSizeMb_eq (channel : Channel) :
    (channel.Ordered → chSizeMb channel = some (channel.megabytes : Int)) ∧
      (¬ channel.Ordered → chSizeMb channel = none) := by
  obtain ⟨row0, row1⟩ := channel.rows
  obtain ⟨col0, col1⟩ := channel.cols
  obtain ⟨bank, group, width⟩ := channel.banks
  have first := @shiftLeft_power
    (channel.cs0Row + channel.cs0Col + channel.bk + channel.bg + channel.bw - 20)
    (channel.cs0Row + channel.cs0Col + channel.bk + channel.bg + channel.bw - 20)
    (by omega) (by omega)
  rw [chSizeMb, first, Channel.Ordered, Channel.megabytes]
  by_cases second : 1 < channel.rank
  · constructor
    · intro ordered
      have fewer := ordered second
      have more := @shiftRight_power
        ((channel.cs0Row - channel.cs1Row) + (channel.cs0Col - channel.cs1Col))
        (channel.cs0Row + channel.cs0Col + channel.bk + channel.bg + channel.bw - 20)
        (channel.cs1Row + channel.cs1Col + channel.bk + channel.bg + channel.bw - 20)
        (channel.cs0Row + channel.cs0Col - (channel.cs1Row + channel.cs1Col))
        (by omega) (by omega) (by omega)
      simp only [second, if_true, more, Option.bind_eq_bind, Option.bind_some]
      split <;> simp
    · intro larger
      have negative : shiftRight
          ((2 ^ (channel.cs0Row + channel.cs0Col + channel.bk + channel.bg + channel.bw - 20) :
            Nat) : Int)
          ((channel.cs0Row - channel.cs1Row) + (channel.cs0Col - channel.cs1Col)) = none :=
        if_neg (by omega)
      simp only [second, if_true, negative, Option.bind_eq_bind, Option.bind_none,
        Option.bind_some]
  · refine ⟨fun _ => ?_, fun larger => absurd (fun some => absurd some second) larger⟩
    simp only [second, if_false, Option.bind_eq_bind, Option.bind_some, Nat.add_zero]
    split <;> simp

theorem shiftLeft32_power {amount : UInt32} {exponent : Nat} (same : amount.toNat = exponent)
    (few : exponent < 32) :
    ∃ size, shiftLeft32 1 amount = some size ∧ size.toNat = 2 ^ exponent := by
  have inside : amount < 32 := UInt32.lt_iff_toNat_lt.mpr (same ▸ few)
  refine ⟨_, if_pos inside, ?_⟩
  rw [UInt32.toNat_shiftLeft, same, Nat.mod_eq_of_lt few, Nat.shiftLeft_eq, UInt32.toNat_one,
    Nat.one_mul, Nat.mod_eq_of_lt (Nat.pow_lt_pow_right (by decide) few)]

theorem shiftRight32_power {size amount : UInt32} {exponent other less : Nat}
    (power : size.toNat = 2 ^ exponent) (same : amount.toNat = less) (few : less < 32)
    (sum : other + less = exponent) :
    ∃ more, shiftRight32 size amount = some more ∧ more.toNat = 2 ^ other := by
  have inside : amount < 32 := UInt32.lt_iff_toNat_lt.mpr (same ▸ few)
  refine ⟨_, if_pos inside, ?_⟩
  rw [UInt32.toNat_shiftRight, same, Nat.mod_eq_of_lt few, Nat.shiftRight_eq_div_pow, power, ← sum,
    Nat.pow_add, Nat.mul_div_cancel _ (Nat.two_pow_pos _)]

/-- Channels of the RK3399 have no bank groups, and the ranks have the same columns. -/
def Channel.Plain (channel : Channel) : Prop :=
  channel.bg = 0 ∧ channel.cs1Col = channel.cs0Col ∧ channel.cs0Row ≤ 16 ∧ channel.cs1Row ≤ 16

theorem chipSizeMb_eq (plain : channel.Plain) :
    (channel.Ordered → ∃ size, chipSizeMb channel = some size ∧ size.toNat = channel.megabytes) ∧
      (¬ channel.Ordered → chipSizeMb channel = none) := by
  obtain ⟨row0, row1⟩ := channel.rows
  obtain ⟨col0, col1⟩ := channel.cols
  obtain ⟨bank, group, width⟩ := channel.banks
  obtain ⟨plainBg, plainCol, low0, low1⟩ := plain
  have small : ∀ n < 2 ^ 32, (UInt32.ofNat n).toNat = n := fun n below =>
    UInt32.toNat_ofNat_of_lt' below
  have sum : (UInt32.ofNat channel.cs0Row + UInt32.ofNat channel.cs0Col + UInt32.ofNat channel.bk +
      UInt32.ofNat channel.bw - 20).toNat =
        channel.cs0Row + channel.cs0Col + channel.bk + channel.bg + channel.bw - 20 := by
    rw [← UInt32.ofNat_add, ← UInt32.ofNat_add, ← UInt32.ofNat_add, UInt32.toNat_sub_of_le,
      small _ (by omega), plainBg]
    · rfl
    · rw [UInt32.le_iff_toNat_le, small _ (by omega)]
      exact Nat.le_trans (by decide : 20 ≤ 21) (by omega)
  obtain ⟨size, first, power⟩ := shiftLeft32_power sum (by omega)
  have bound : size.toNat ≤ 2 ^ 13 := power ▸ Nat.pow_le_pow_right (by decide) (by omega)
  have three : (3 : UInt32).toNat = 3 := rfl
  have four : (4 : UInt32).toNat = 4 := rfl
  have quarters : ∀ whole : UInt32, whole.toNat ≤ 2 ^ 14 →
      (if channel.row34 then whole * 3 / 4 else whole).toNat =
        if channel.row34 then whole.toNat * 3 / 4 else whole.toNat := by
    intro whole fits
    split
    · rw [UInt32.toNat_div, UInt32.toNat_mul, three, four, Nat.mod_eq_of_lt (by omega)]
    · rfl
  rw [chipSizeMb, first, Channel.Ordered, Channel.megabytes]
  by_cases second : 1 < channel.rank
  · constructor
    · intro ordered
      have fewer := ordered second
      have less : (UInt32.ofNat channel.cs0Row - UInt32.ofNat channel.cs1Row).toNat =
          channel.cs0Row - channel.cs1Row := by
        rw [UInt32.toNat_sub_of_le, small _ (by omega), small _ (by omega)]
        rw [UInt32.le_iff_toNat_le, small _ (by omega), small _ (by omega)]
        omega
      obtain ⟨more, shifted, other⟩ := @shiftRight32_power size _ _
        (channel.cs1Row + channel.cs1Col + channel.bk + channel.bg + channel.bw - 20) _ power less
        (by omega) (by omega)
      have rest : more.toNat ≤ 2 ^ 13 := other ▸ Nat.pow_le_pow_right (by decide) (by omega)
      have whole : (size + more).toNat = size.toNat + more.toNat := by
        rw [UInt32.toNat_add, Nat.mod_eq_of_lt (by omega)]
      simp only [second, if_true, shifted, Option.bind_eq_bind, Option.bind_some]
      refine ⟨_, rfl, ?_⟩
      rw [quarters _ (by omega), whole, power, other]
    · intro larger
      have wrapped : ¬ UInt32.ofNat channel.cs0Row - UInt32.ofNat channel.cs1Row < 32 := by
        have width32 : (32 : UInt32).toNat = 32 := rfl
        rw [UInt32.lt_iff_toNat_lt, UInt32.toNat_sub, small _ (by omega), small _ (by omega),
          width32]
        omega
      have negative : shiftRight32 size
          (UInt32.ofNat channel.cs0Row - UInt32.ofNat channel.cs1Row) = none := if_neg wrapped
      simp only [second, if_true, negative, Option.bind_eq_bind, Option.bind_none,
        Option.bind_some]
  · refine ⟨fun _ => ?_, fun larger => absurd (fun some => absurd some second) larger⟩
    simp only [second, if_false, Option.bind_eq_bind, Option.bind_some, Nat.add_zero]
    exact ⟨_, rfl, by rw [quarters _ (by omega), power]⟩

end

/-! ### Several channels -/

instance (channel : Channel) : Decidable channel.Ordered :=
  inferInstanceAs (Decidable (_ → _))

def capacity (channels : List Channel) : Nat :=
  (channels.map Channel.bytes).sum

def megabytes (channels : List Channel) : Nat :=
  (channels.map Channel.megabytes).sum

/-- The loop over the channels of the RK356x. -/
def sizeMb (channels : List Channel) (size : Int) : Option Int :=
  channels.foldlM (fun size channel => do some (size + (← chSizeMb channel))) size

/-- The loop over the channels of the RK3399. -/
def sizeMb64 (channels : List Channel) (size : UInt64) : Option UInt64 :=
  channels.foldlM (fun size channel => do some (size + (← chipSizeMb channel).toUInt64)) size

@[simp]
theorem megabytes_cons (channel : Channel) (rest : List Channel) :
    megabytes (channel :: rest) = channel.megabytes + megabytes rest := by
  simp [megabytes]

theorem sizeMb_cons (channel : Channel) (rest : List Channel) (size : Int) :
    sizeMb (channel :: rest) size =
      (chSizeMb channel).bind fun more => sizeMb rest (size + more) := by
  cases computed : chSizeMb channel <;> simp [sizeMb, computed]

theorem sizeMb64_cons (channel : Channel) (rest : List Channel) (size : UInt64) :
    sizeMb64 (channel :: rest) size =
      (chipSizeMb channel).bind fun more => sizeMb64 rest (size + more.toUInt64) := by
  cases computed : chipSizeMb channel <;> simp [sizeMb64, computed]

theorem capacity_eq (channels : List Channel) :
    capacity channels = megabytes channels * 2 ^ 20 := by
  induction channels with
  | nil => rfl
  | cons channel rest sum =>
    have split : capacity (channel :: rest) = channel.bytes + capacity rest := by
      simp [capacity]
    rw [split, megabytes_cons, sum, channel.bytes_eq, Nat.add_mul]

theorem megabytes_le_length (channels : List Channel) :
    megabytes channels ≤ channels.length * 2 ^ 19 := by
  induction channels with
  | nil => exact Nat.le_refl 0
  | cons channel rest most =>
    have one := channel.megabytes_le
    rw [megabytes_cons, List.length_cons]
    omega

/-- There is a sum when no channel has a larger second rank, and it is exact. -/
theorem sizeMb_eq (channels : List Channel) (size : Int) :
    sizeMb channels size =
      if ∀ channel ∈ channels, channel.Ordered then some (size + megabytes channels) else none := by
  induction channels generalizing size with
  | nil => simp [sizeMb, megabytes]
  | cons channel rest sum =>
    rw [sizeMb_cons]
    by_cases ordered : channel.Ordered
    · simp only [(chSizeMb_eq channel).1 ordered, Option.bind_some, sum, List.forall_mem_cons,
        ordered, true_and, megabytes_cons, Nat.cast_add, Int.add_assoc]
    · simp only [(chSizeMb_eq channel).2 ordered, Option.bind_none, List.forall_mem_cons, ordered,
        false_and, if_false]

theorem sizeMb64_eq (channels : List Channel) (plain : ∀ channel ∈ channels, channel.Plain)
    (size : UInt64) :
    sizeMb64 channels size =
      if ∀ channel ∈ channels, channel.Ordered then
        some (size + UInt64.ofNat (megabytes channels)) else none := by
  induction channels generalizing size with
  | nil => simp [sizeMb64, megabytes]
  | cons channel rest sum =>
    obtain ⟨first, others⟩ := List.forall_mem_cons.mp plain
    rw [sizeMb64_cons]
    by_cases ordered : channel.Ordered
    · obtain ⟨chip, computed, exact⟩ := (chipSizeMb_eq first).1 ordered
      have wide : chip.toUInt64 = UInt64.ofNat channel.megabytes := by
        rw [← exact]
        exact UInt64.toNat_inj.mp (by simp)
      simp only [computed, Option.bind_some, wide, sum others, List.forall_mem_cons, ordered,
        true_and, megabytes_cons, UInt64.ofNat_add, UInt64.add_assoc]
    · simp only [(chipSizeMb_eq first).2 ordered, Option.bind_none, List.forall_mem_cons, ordered,
        false_and, if_false]

/-! ### The registers -/

/-- `(x >> shift) & mask`. -/
def sysRegField (register : UInt32) (shift mask : UInt32) : Nat :=
  ((register >>> shift) &&& mask).toNat

theorem sysRegField_le (register shift mask : UInt32) :
    sysRegField register shift mask ≤ mask.toNat := by
  rw [sysRegField, UInt32.toNat_and]
  exact Nat.and_le_right

theorem sysRegField_le_one (register shift : UInt32) : sysRegField register shift 1 ≤ 1 :=
  sysRegField_le register shift 1

theorem sysRegField_le_three (register shift : UInt32) : sysRegField register shift 3 ≤ 3 :=
  sysRegField_le register shift 3

/-- The width of the bus, `2 >> field`. -/
theorem two_shiftRight_le (field : Nat) : 2 >>> field ≤ 2 := by
  rw [Nat.shiftRight_eq_div_pow]
  exact Nat.div_le_self 2 _

namespace Rk356x

/-! ### `SdramGetMemorySize` -/

def sysRegDdrtype (osReg : UInt32) : Nat := sysRegField osReg 13 7
def sysRegChannelnum (osReg : UInt32) : Nat := sysRegField osReg 12 1
def sysRegRankCh (osReg : UInt32) (ch : Nat) : Nat :=
  sysRegField osReg (if ch ≠ 0 then 27 else 11) 1
def sysRegColCh (osReg : UInt32) (ch : Nat) : Nat :=
  sysRegField osReg (if ch ≠ 0 then 25 else 9) 3
def sysRegBkCh (osReg : UInt32) (ch : Nat) : Nat :=
  sysRegField osReg (if ch ≠ 0 then 24 else 8) 1
def sysRegCs0RowChLo (osReg : UInt32) (ch : Nat) : Nat :=
  sysRegField osReg (if ch ≠ 0 then 22 else 6) 3
def sysRegCs1RowChLo (osReg : UInt32) (ch : Nat) : Nat :=
  sysRegField osReg (if ch ≠ 0 then 20 else 4) 3
def sysRegBwCh (osReg : UInt32) (ch : Nat) : Nat :=
  sysRegField osReg (if ch ≠ 0 then 18 else 2) 3
def sysRegRow34Ch (osReg : UInt32) (ch : Nat) : Nat :=
  sysRegField osReg (if ch ≠ 0 then 31 else 30) 1
def sysRegDbwCh (osReg : UInt32) (ch : Nat) : Nat :=
  sysRegField osReg (if ch ≠ 0 then 16 else 0) 3

def sysReg1Version (osReg1 : UInt32) : Nat := sysRegField osReg1 28 0xF
def sysReg1Cs0RowChHi (osReg1 : UInt32) (ch : Nat) : Nat :=
  sysRegField osReg1 (if ch ≠ 0 then 7 else 5) 1
def sysReg1Cs1RowChHi (osReg1 : UInt32) (ch : Nat) : Nat :=
  sysRegField osReg1 (if ch ≠ 0 then 6 else 4) 1
def sysReg1Cs1ColCh (osReg1 : UInt32) (ch : Nat) : Nat :=
  sysRegField osReg1 (if ch ≠ 0 then 2 else 0) 3

/-- The row bits from the low and the high part of their field; 7 stands for twelve. -/
def rowBits (high low : Nat) : Nat :=
  if (high <<< 2) + low = 7 then 12 else 13 + (high <<< 2) + low

def sdramDdr4 : Nat := 0

theorem rowBits_bounds {high low : Nat} (one : high ≤ 1) (three : low ≤ 3) :
    12 ≤ rowBits high low ∧ rowBits high low ≤ 19 := by
  rw [rowBits, Nat.shiftLeft_eq]
  split <;> omega

/-- The geometry of a channel, as the two registers give it. -/
def channel (osReg osReg1 : UInt32) (ch : Nat) : Channel where
  rank := 1 + sysRegRankCh osReg ch
  cs0Row :=
    if 2 ≤ sysReg1Version osReg1 then
      rowBits (sysReg1Cs0RowChHi osReg1 ch) (sysRegCs0RowChLo osReg ch)
    else 13 + sysRegCs0RowChLo osReg ch
  cs1Row :=
    if 2 ≤ sysReg1Version osReg1 then
      rowBits (sysReg1Cs1RowChHi osReg1 ch) (sysRegCs1RowChLo osReg ch)
    else 13 + sysRegCs1RowChLo osReg ch
  cs0Col := 9 + sysRegColCh osReg ch
  cs1Col :=
    if 2 ≤ sysReg1Version osReg1 then 9 + sysReg1Cs1ColCh osReg1 ch else 9 + sysRegColCh osReg ch
  bk := 3 - sysRegBkCh osReg ch
  bg :=
    if sysRegDdrtype osReg = sdramDdr4 ∧ sysReg1Version osReg1 ≠ 3 then
      if sysRegDbwCh osReg ch = 2 then 2 else 1
    else 0
  bw := 2 >>> sysRegBwCh osReg ch
  row34 := sysRegRow34Ch osReg ch ≠ 0
  rows := by
    have low0 : sysRegCs0RowChLo osReg ch ≤ 3 := sysRegField_le_three _ _
    have low1 : sysRegCs1RowChLo osReg ch ≤ 3 := sysRegField_le_three _ _
    have high0 : sysReg1Cs0RowChHi osReg1 ch ≤ 1 := sysRegField_le_one _ _
    have high1 : sysReg1Cs1RowChHi osReg1 ch ≤ 1 := sysRegField_le_one _ _
    have bits0 := rowBits_bounds high0 low0
    have bits1 := rowBits_bounds high1 low1
    split <;> omega
  cols := by
    have col : sysRegColCh osReg ch ≤ 3 := sysRegField_le_three _ _
    have col1 : sysReg1Cs1ColCh osReg1 ch ≤ 3 := sysRegField_le_three _ _
    split <;> omega
  banks := by
    have bank : sysRegBkCh osReg ch ≤ 1 := sysRegField_le_one _ _
    have width := two_shiftRight_le (sysRegBwCh osReg ch)
    refine ⟨by omega, ?_, width⟩
    split
    · split <;> omega
    · omega

/-- The channels that the loop goes through. -/
def channels (osReg osReg1 : UInt32) : List Channel :=
  (List.range (1 + sysRegChannelnum osReg)).map (channel osReg osReg1)

def sdramGetMemorySize (osReg osReg1 : UInt32) : Option UInt64 := do
  let size ← sizeMb (channels osReg osReg1) 0
  some (UInt64.ofInt size * 1024 * 1024)

theorem megabytes_channels_le (osReg osReg1 : UInt32) :
    megabytes (channels osReg osReg1) ≤ 2 ^ 20 := by
  have most := megabytes_le_length (channels osReg osReg1)
  have number : sysRegChannelnum osReg ≤ 1 := sysRegField_le_one _ _
  have length : (channels osReg osReg1).length = 1 + sysRegChannelnum osReg := by
    simp [channels]
  omega

/-- The size is the capacity of the channels, unless one of them has a larger second rank. -/
theorem sdramGetMemorySize_eq (osReg osReg1 : UInt32) :
    sdramGetMemorySize osReg osReg1 =
      if ∀ channel ∈ channels osReg osReg1, channel.Ordered then
        some (UInt64.ofNat (capacity (channels osReg osReg1))) else none := by
  rw [sdramGetMemorySize, sizeMb_eq, Int.zero_add, capacity_eq]
  split
  · have scale : UInt64.ofNat (2 ^ 20) = 1024 * 1024 := by decide
    have same : ∀ size : Nat, UInt64.ofInt (size : Int) = UInt64.ofNat size := by
      intro size
      have wrapped : ((size : Int) % 2 ^ 64).toNat = size % 2 ^ 64 := by omega
      rw [UInt64.ofInt, wrapped]
      exact UInt64.toNat_inj.mp (by simp)
    rw [UInt64.ofNat_mul, scale, ← UInt64.mul_assoc, ← same]
    rfl
  · rfl

end Rk356x

namespace Rk3399

/-! ### `Rk3399InitMemorySize` -/

/-- `RK3399_PERIPH_BASE`. -/
def periphBase : UInt64 := 0xF8000000

/-- The geometry of a channel: the ranks have the same columns, and there are no bank groups. -/
def channel (sysReg : UInt32) (ch : UInt32) : Channel where
  rank := 1 + sysRegField sysReg (11 + ch * 16) 1
  cs0Row := 13 + sysRegField sysReg (6 + ch * 16) 3
  cs1Row := 13 + sysRegField sysReg (4 + ch * 16) 3
  cs0Col := 9 + sysRegField sysReg (9 + ch * 16) 3
  cs1Col := 9 + sysRegField sysReg (9 + ch * 16) 3
  bk := 3 - sysRegField sysReg (8 + ch * 16) 1
  bg := 0
  bw := 2 >>> sysRegField sysReg (2 + ch * 16) 3
  row34 := sysRegField sysReg (30 + ch) 1 ≠ 0
  rows := by
    have low0 := sysRegField_le_three sysReg (6 + ch * 16)
    have low1 := sysRegField_le_three sysReg (4 + ch * 16)
    omega
  cols := by
    have col := sysRegField_le_three sysReg (9 + ch * 16)
    omega
  banks := by
    have bank := sysRegField_le_one sysReg (8 + ch * 16)
    have width := two_shiftRight_le (sysRegField sysReg (2 + ch * 16) 3)
    omega

/-- The channels that the loop goes through. -/
def channels (sysReg : UInt32) : List Channel :=
  (List.range (1 + sysRegField sysReg 12 1)).map fun ch => channel sysReg (UInt32.ofNat ch)

def rk3399InitMemorySize (sysReg : UInt32) : Option UInt64 := do
  let size ← sizeMb64 (channels sysReg) 0
  let ret := size <<< 20
  some (if periphBase ≤ ret then periphBase else ret)

theorem channel_plain (sysReg ch : UInt32) : (channel sysReg ch).Plain := by
  have low0 := sysRegField_le_three sysReg (6 + ch * 16)
  have low1 := sysRegField_le_three sysReg (4 + ch * 16)
  refine ⟨rfl, rfl, ?_, ?_⟩
  · change 13 + sysRegField sysReg (6 + ch * 16) 3 ≤ 16
    omega
  · change 13 + sysRegField sysReg (4 + ch * 16) 3 ≤ 16
    omega

theorem megabytes_channels_le (sysReg : UInt32) : megabytes (channels sysReg) ≤ 2 ^ 20 := by
  have most := megabytes_le_length (channels sysReg)
  have number := sysRegField_le_one sysReg 12
  have length : (channels sysReg).length = 1 + sysRegField sysReg 12 1 := by
    simp [channels]
  omega

/-- The size is the capacity of the channels up to the peripherals, unless one of the channels has
a larger second rank. -/
theorem rk3399InitMemorySize_eq (sysReg : UInt32) :
    rk3399InitMemorySize sysReg =
      if ∀ channel ∈ channels sysReg, channel.Ordered then
        some (UInt64.ofNat (min (capacity (channels sysReg)) 0xF8000000)) else none := by
  have plain : ∀ channel ∈ channels sysReg, channel.Plain := by
    intro channel member
    obtain ⟨ch, -, rfl⟩ := List.mem_map.mp member
    exact channel_plain sysReg _
  rw [rk3399InitMemorySize, sizeMb64_eq _ plain, UInt64.zero_add, capacity_eq]
  split
  · have most := megabytes_channels_le sysReg
    have base : periphBase.toNat = 0xF8000000 := rfl
    have small : ∀ n < 2 ^ 64, (UInt64.ofNat n).toNat = n := fun n below =>
      UInt64.toNat_ofNat_of_lt' below
    have size : (UInt64.ofNat (megabytes (channels sysReg)) <<< 20).toNat =
        megabytes (channels sysReg) * 2 ^ 20 := by
      have twenty : (20 : UInt64).toNat % 64 = 20 := rfl
      rw [UInt64.toNat_shiftLeft, twenty, small _ (by omega), Nat.shiftLeft_eq,
        Nat.mod_eq_of_lt (by omega)]
    simp only [Option.bind_eq_bind, Option.bind_some, Option.some.injEq]
    apply UInt64.toNat_inj.mp
    rw [small _ (by omega)]
    split
    next above =>
      rw [UInt64.le_iff_toNat_le, size, base] at above
      omega
    next below =>
      rw [UInt64.le_iff_toNat_le, size, base] at below
      omega
  · rfl

end Rk3399

end MuRockchip.Dram
