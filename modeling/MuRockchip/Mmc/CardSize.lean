/-
The size of a card, from its registers (`MmcIdentification.c`, `Mmc.h`).

The CSD says how many blocks the card has and how long they are. The media has blocks of at
most 512 bytes, and as many of them as make up the card.

An eMMC says the number of its blocks in its extended CSD.

* `mediaBlocks_size`: the media is as large as the fields of the CSD say.
* `emmcMedia_blocks`: the media of an eMMC has the blocks of the extended CSD.
-/
import MuRockchip.Base.Fields
import MuRockchip.Base.Layout
import MuRockchip.Base.Words
import MuRockchip.Mmc.Identification

namespace MuRockchip.Mmc

open Base

namespace Response

/-- The 128 bits of a register. -/
def number (csd : Response) : Nat :=
  csd.word0.toNat + csd.word1.toNat * 2 ^ 32 + csd.word2.toNat * 2 ^ 64 + csd.word3.toNat * 2 ^ 96

/-- The field of `width` bits from bit `start` on. -/
def bits (csd : Response) (start width : Nat) : Nat := csd.number / 2 ^ start % 2 ^ width

variable (csd : Response)

theorem readBlLen_toNat : csd.readBlLen.toNat = csd.bits 80 4 := by
  have word := csd.word2.toNat_lt
  have low0 := csd.word0.toNat_lt
  have low1 := csd.word1.toNat_lt
  have masked : csd.readBlLen.toNat = csd.word2.toNat / 2 ^ 16 % 2 ^ 4 := by
    rw [readBlLen, UInt32.toNat_and, UInt32.toNat_shiftRight]
    show csd.word2.toNat >>> 16 &&& (2 ^ 4 - 1) = _
    rw [Nat.and_two_pow_sub_one_eq_mod, Nat.shiftRight_eq_div_pow]
  rw [masked, bits, number]
  omega

theorem deviceSizeMult_toNat : csd.deviceSizeMult.toNat = csd.bits 47 3 := by
  have low0 := csd.word0.toNat_lt
  have low1 := csd.word1.toNat_lt
  have masked : csd.deviceSizeMult.toNat = csd.word1.toNat / 2 ^ 15 % 2 ^ 3 := by
    rw [deviceSizeMult, UInt32.toNat_and, UInt32.toNat_shiftRight]
    show csd.word1.toNat >>> 15 &&& (2 ^ 3 - 1) = _
    rw [Nat.and_two_pow_sub_one_eq_mod, Nat.shiftRight_eq_div_pow]
  rw [masked, bits, number]
  omega

theorem deviceSize_toNat : csd.deviceSize.toNat = csd.bits 62 12 := by
  have low0 := csd.word0.toNat_lt
  have low1 := csd.word1.toNat_lt
  have low : ((csd.word1 >>> 30) &&& 0x3 : UInt32).toNat = csd.word1.toNat / 2 ^ 30 := by
    rw [UInt32.toNat_and, UInt32.toNat_shiftRight]
    refine (Nat.and_two_pow_sub_one_eq_mod _ 2).trans ?_
    show csd.word1.toNat >>> 30 % 2 ^ 2 = _
    rw [Nat.shiftRight_eq_div_pow]
    omega
  have high : (csd.word2 &&& 0x3FF : UInt32).toNat = csd.word2.toNat % 2 ^ 10 := by
    rw [UInt32.toNat_and]
    exact Nat.and_two_pow_sub_one_eq_mod _ 10
  have shifted : ((csd.word2 &&& 0x3FF : UInt32) <<< (2 : UInt32)).toNat =
      (csd.word2.toNat % 2 ^ 10) <<< 2 := by
    rw [UInt32.toNat_shiftLeft, high]
    refine Nat.mod_eq_of_lt ?_
    show (csd.word2.toNat % 2 ^ 10) <<< 2 < 2 ^ 32
    rw [Nat.shiftLeft_eq]
    omega
  have whole : csd.deviceSize.toNat = csd.word2.toNat % 2 ^ 10 * 4 + csd.word1.toNat / 2 ^ 30 := by
    rw [deviceSize, UInt32.toNat_or, low, shifted, Nat.or_comm,
      ← Nat.shiftLeft_add_eq_or_of_lt (by omega), Nat.shiftLeft_eq]
  rw [whole, bits, number]
  omega

theorem hcDeviceSize_toNat : csd.hcDeviceSize.toNat = csd.bits 48 16 + csd.bits 70 1 * 2 ^ 22 := by
  have low0 := csd.word0.toNat_lt
  have low1 := csd.word1.toNat_lt
  have low : (csd.word1 >>> 16).toNat = csd.word1.toNat / 2 ^ 16 := by
    rw [UInt32.toNat_shiftRight]
    exact Nat.shiftRight_eq_div_pow _ _
  have high : (csd.word2 &&& 0x40 : UInt32).toNat = csd.word2.toNat / 2 ^ 6 % 2 * 2 ^ 6 := by
    rw [UInt32.toNat_and]
    exact and_mask_eq csd.word2.toNat 6 1
  have shifted : ((csd.word2 &&& 0x40 : UInt32) <<< (16 : UInt32)).toNat =
      (csd.word2.toNat / 2 ^ 6 % 2) <<< 22 := by
    rw [UInt32.toNat_shiftLeft, high]
    show (csd.word2.toNat / 2 ^ 6 % 2 * 2 ^ 6) <<< 16 % 2 ^ 32 = _
    rw [Nat.shiftLeft_eq, Nat.shiftLeft_eq]
    omega
  have whole : csd.hcDeviceSize.toNat =
      csd.word2.toNat / 2 ^ 6 % 2 * 2 ^ 22 + csd.word1.toNat / 2 ^ 16 := by
    rw [hcDeviceSize, UInt32.toNat_or, low, shifted, Nat.or_comm,
      ← Nat.shiftLeft_add_eq_or_of_lt (by omega), Nat.shiftLeft_eq]
  rw [whole, bits, bits, number]
  omega

end Response

/-! ### The blocks -/

/-- The size that the driver takes a card for, in bytes. A high-capacity card's blocks of 512
bytes come in units of 1024. -/
def cardBytes (cardType : CardType) (csd : Response) : Nat :=
  if cardType = .sd2High then
    (csd.bits 48 16 + csd.bits 70 1 * 2 ^ 22 + 1) * 1024 * 2 ^ csd.bits 80 4
  else (csd.bits 62 12 + 1) * 2 ^ (csd.bits 47 3 + 2) * 2 ^ csd.bits 80 4

theorem toNat_one_shiftLeft {shift : UInt64} (small : shift.toNat < 64) :
    ((1 : UInt64) <<< shift).toNat = 2 ^ shift.toNat := by
  rw [UInt64.toNat_shiftLeft, Nat.mod_eq_of_lt small]
  show 1 <<< shift.toNat % 2 ^ 64 = _
  rw [Nat.shiftLeft_eq, Nat.one_mul]
  exact Nat.mod_eq_of_lt (Nat.pow_lt_pow_right (by decide) small)

theorem cardBlocks_blockSize (cardType : CardType) (csd : Response) :
    (cardBlocks cardType csd).2.toNat = 2 ^ csd.bits 80 4 := by
  have field : csd.readBlLen.toUInt64.toNat = csd.bits 80 4 := by
    rw [UInt32.toNat_toUInt64, csd.readBlLen_toNat]
  have small : csd.bits 80 4 < 2 ^ 4 := Nat.mod_lt _ (by decide)
  have shifted : ((1 : UInt64) <<< csd.readBlLen.toUInt64).toNat = 2 ^ csd.bits 80 4 := by
    rw [toNat_one_shiftLeft (by omega), field]
  rw [cardBlocks]
  split <;> exact shifted

theorem cardBlocks_numBlocks (cardType : CardType) (csd : Response) :
    (cardBlocks cardType csd).1.toNat * 2 ^ csd.bits 80 4 = cardBytes cardType csd ∧
      (cardBlocks cardType csd).1.toNat ≤ 2 ^ 33 ∧ 0 < (cardBlocks cardType csd).1.toNat := by
  rw [cardBlocks, cardBytes]
  by_cases high : cardType = .sd2High
  · simp only [if_pos high]
    have field := csd.hcDeviceSize_toNat
    have low : csd.bits 48 16 < 2 ^ 16 := Nat.mod_lt _ (by decide)
    have top : csd.bits 70 1 < 2 ^ 1 := Nat.mod_lt _ (by decide)
    have count : ((csd.hcDeviceSize.toUInt64 + 1) * 1024 : UInt64).toNat =
        (csd.bits 48 16 + csd.bits 70 1 * 2 ^ 22 + 1) * 1024 := by
      rw [UInt64.toNat_mul, UInt64.toNat_add, UInt32.toNat_toUInt64, field]
      show (csd.bits 48 16 + csd.bits 70 1 * 2 ^ 22 + 1) % 2 ^ 64 * 1024 % 2 ^ 64 = _
      omega
    rw [count]
    omega
  · simp only [if_neg high]
    have field := csd.deviceSize_toNat
    have size : csd.bits 62 12 < 2 ^ 12 := Nat.mod_lt _ (by decide)
    have mult : csd.bits 47 3 < 2 ^ 3 := Nat.mod_lt _ (by decide)
    have exponent : (csd.deviceSizeMult.toUInt64 + 2).toNat = csd.bits 47 3 + 2 := by
      rw [UInt64.toNat_add, UInt32.toNat_toUInt64, csd.deviceSizeMult_toNat]
      show (csd.bits 47 3 + 2) % 2 ^ 64 = _
      omega
    have power : 2 ^ (csd.bits 47 3 + 2) ≤ 2 ^ 9 := Nat.pow_le_pow_right (by decide) (by omega)
    have some : 0 < 2 ^ (csd.bits 47 3 + 2) := Nat.two_pow_pos _
    have bound : (csd.bits 62 12 + 1) * 2 ^ (csd.bits 47 3 + 2) ≤ 2 ^ 12 * 2 ^ 9 :=
      Nat.mul_le_mul (by omega) power
    have count : ((csd.deviceSize.toUInt64 + 1) *
        ((1 : UInt64) <<< (csd.deviceSizeMult.toUInt64 + 2))).toNat =
        (csd.bits 62 12 + 1) * 2 ^ (csd.bits 47 3 + 2) := by
      rw [UInt64.toNat_mul, UInt64.toNat_add, UInt32.toNat_toUInt64, field,
        toNat_one_shiftLeft (by omega), exponent]
      show (csd.bits 62 12 + 1) % 2 ^ 64 * _ % 2 ^ 64 = _
      have inner : (csd.bits 62 12 + 1) % 2 ^ 64 = csd.bits 62 12 + 1 := by omega
      rw [inner]
      exact Nat.mod_eq_of_lt (Nat.lt_of_le_of_lt bound (by decide))
    rw [count]
    exact ⟨rfl, Nat.le_trans bound (by decide), Nat.mul_pos (Nat.succ_pos _) some⟩

theorem mediaBlocks_size (cardType : CardType) (csd : Response) :
    (∃ shift ≤ 9, (mediaBlocks cardType csd).2.toNat = 2 ^ shift) ∧
      (mediaBlocks cardType csd).1.toNat * (mediaBlocks cardType csd).2.toNat =
        cardBytes cardType csd ∧
      0 < (mediaBlocks cardType csd).1.toNat := by
  have length := cardBlocks_blockSize cardType csd
  obtain ⟨bytes, few, some⟩ := cardBlocks_numBlocks cardType csd
  have field : csd.bits 80 4 < 2 ^ 4 := Nat.mod_lt _ (by decide)
  rw [mediaBlocks]
  by_cases large : (cardBlocks cardType csd).2 > 512
  · simp only [if_pos large]
    have above : 512 < (cardBlocks cardType csd).2.toNat := UInt64.lt_iff_toNat_lt.mp large
    rw [length] at above
    have exponent : 9 < csd.bits 80 4 := by
      by_contra short
      have bound : 2 ^ csd.bits 80 4 ≤ 2 ^ 9 := Nat.pow_le_pow_right (by decide) (by omega)
      omega
    obtain ⟨extra, split⟩ := Nat.exists_eq_add_of_lt exponent
    have pieces : ((cardBlocks cardType csd).2 / 512).toNat = 2 ^ (extra + 1) := by
      rw [UInt64.toNat_div, length, split]
      show 2 ^ (9 + extra + 1) / 2 ^ 9 = _
      rw [Nat.add_assoc, Nat.pow_add, Nat.mul_div_cancel_left _ (by decide)]
    have piecesSmall : 2 ^ (extra + 1) ≤ 2 ^ 6 := Nat.pow_le_pow_right (by decide) (by omega)
    have piecesSome : 0 < 2 ^ (extra + 1) := Nat.two_pow_pos _
    have bound := Nat.mul_le_mul few piecesSmall
    have count : ((cardBlocks cardType csd).1 * ((cardBlocks cardType csd).2 / 512)).toNat =
        (cardBlocks cardType csd).1.toNat * 2 ^ (extra + 1) := by
      rw [UInt64.toNat_mul, pieces]
      exact Nat.mod_eq_of_lt (Nat.lt_of_le_of_lt bound (by decide))
    refine ⟨⟨9, Nat.le_refl 9, rfl⟩, ?_, ?_⟩
    · rw [count, ← bytes, split]
      show _ * 2 ^ (extra + 1) * 2 ^ 9 = _
      rw [Nat.mul_assoc, ← Nat.pow_add]
      congr 2
      omega
    · rw [count]
      exact Nat.mul_pos some piecesSome
  · simp only [if_neg large]
    have below : (cardBlocks cardType csd).2.toNat ≤ 512 := Nat.le_of_not_lt fun above =>
      large (UInt64.lt_iff_toNat_lt.mpr above)
    rw [length] at below
    have exponent : csd.bits 80 4 ≤ 9 := by
      by_contra long
      have bound : 2 ^ 10 ≤ 2 ^ csd.bits 80 4 := Nat.pow_le_pow_right (by decide) (by omega)
      omega
    refine ⟨⟨csd.bits 80 4, exponent, length⟩, ?_, some⟩
    rw [length]
    exact bytes

/-! ### eMMC devices -/

/-- `SECTOR_COUNT` of an extended CSD, a little-endian field of four bytes. -/
def ecsdSectors (ecsd : Nat → UInt8) : Nat := leValue (slice ecsd 212 4)

/-- The blocks the driver takes an eMMC for; a count of zero wraps. -/
def ecsdBlocks (ecsd : Nat → UInt8) : Nat :=
  if ecsdSectors ecsd = 0 then 2 ^ 32 else ecsdSectors ecsd

theorem or_mul_two_pow {low high place : Nat} (small : low < 2 ^ place) :
    low ||| high * 2 ^ place = low + high * 2 ^ place := by
  rw [Nat.or_comm, ← Nat.shiftLeft_eq, ← Nat.shiftLeft_add_eq_or_of_lt small, Nat.add_comm]

theorem wordAt_toNat (bytes : Nat → UInt8) (offset : Nat) :
    (wordAt bytes offset).toNat = leValue (slice bytes offset 4) := by
  have byte (place : Nat) (inside : place < 4) :=
    toNat_byte_shiftLeft (bytes (offset + place)) inside
  have below0 := (bytes offset).toNat_lt
  have below1 := (bytes (offset + 1)).toNat_lt
  have below2 := (bytes (offset + 2)).toNat_lt
  have first : (bytes offset).toUInt32.toNat = (bytes offset).toNat := UInt8.toNat_toUInt32 _
  have second : ((bytes (offset + 1)).toUInt32 <<< 8).toNat =
      (bytes (offset + 1)).toNat * 2 ^ 8 := byte 1 (by decide)
  have third : ((bytes (offset + 2)).toUInt32 <<< 16).toNat =
      (bytes (offset + 2)).toNat * 2 ^ 16 := byte 2 (by decide)
  have fourth : ((bytes (offset + 3)).toUInt32 <<< 24).toNat =
      (bytes (offset + 3)).toNat * 2 ^ 24 := byte 3 (by decide)
  have value : leValue (slice bytes offset 4) = (bytes offset).toNat +
      256 * ((bytes (offset + 1)).toNat + 256 * ((bytes (offset + 2)).toNat +
        256 * ((bytes (offset + 3)).toNat + 256 * 0))) := rfl
  have low : (bytes offset).toNat ||| (bytes (offset + 1)).toNat * 2 ^ 8 =
      (bytes offset).toNat + (bytes (offset + 1)).toNat * 2 ^ 8 := or_mul_two_pow below0
  rw [wordAt, UInt32.toNat_or, UInt32.toNat_or, UInt32.toNat_or, first, second, third, fourth, low,
    @or_mul_two_pow _ _ 16 (by omega), @or_mul_two_pow _ _ 24 (by omega), value]
  omega

theorem emmcMedia_blocks (device : MmcDevice) (ecsd : Nat → UInt8) :
    (device.setEcsd ecsd).setEmmcMedia.media.lastBlock.toNat + 1 = ecsdBlocks ecsd := by
  have sectors : (wordAt ecsd 212).toNat = ecsdSectors ecsd := wordAt_toNat ecsd 212
  have below := (wordAt ecsd 212).toNat_lt
  have last : (device.setEcsd ecsd).setEmmcMedia.media.lastBlock.toNat =
      (2 ^ 32 - 1 + ecsdSectors ecsd) % 2 ^ 32 := by
    rw [← sectors]
    exact (UInt32.toNat_toUInt64 _).trans (UInt32.toNat_sub ..)
  rw [last, ecsdBlocks]
  split <;> omega

end MuRockchip.Mmc
