/-
The time of the UEFI runtime services.

A clock counts the date and the time of day; the time zone and the daylight setting are kept
beside it, and the nanoseconds by none of the clocks here.
-/
import Mathlib.Data.UInt
import MuRockchip.Base.Calendar

namespace MuRockchip.Rtc

structure EfiTime where
  year : UInt16
  month : UInt8
  day : UInt8
  hour : UInt8
  minute : UInt8
  second : UInt8
  nanosecond : UInt32
  timeZone : Int16
  daylight : UInt8
  deriving DecidableEq

def efiUnspecifiedTimezone : Int16 := 0x07ff

structure EfiTimeCapabilities where
  resolution : UInt32
  accuracy : UInt32
  setsToZero : Bool
  deriving DecidableEq

/-- The fields that a clock counts are within their ranges. -/
structure EfiTime.InRange (time : EfiTime) : Prop where
  month : 1 ≤ time.month.toNat ∧ time.month.toNat ≤ 12
  day : 1 ≤ time.day.toNat ∧ time.day.toNat ≤ 31
  hour : time.hour.toNat ≤ 23
  minute : time.minute.toNat ≤ 59
  second : time.second.toNat ≤ 59

/-- The ranges that `EFI_TIME` is specified with. -/
structure EfiTime.Valid (time : EfiTime) : Prop where
  month : 1 ≤ time.month.toNat ∧ time.month.toNat ≤ 12
  day : 1 ≤ time.day.toNat ∧
    time.day.toNat ≤ Base.Calendar.daysIn time.year.toNat time.month.toNat
  hour : time.hour.toNat ≤ 23
  minute : time.minute.toNat ≤ 59
  second : time.second.toNat ≤ 59
  nanosecond : time.nanosecond.toNat ≤ 999999999
  timeZone : time.timeZone = efiUnspecifiedTimezone ∨ -1440 ≤ time.timeZone ∧ time.timeZone ≤ 1440
  daylight : time.daylight.toNat ≤ 3

instance (time : EfiTime) : Decidable time.Valid :=
  decidable_of_iff
    ((1 ≤ time.month.toNat ∧ time.month.toNat ≤ 12) ∧
      (1 ≤ time.day.toNat ∧
        time.day.toNat ≤ Base.Calendar.daysIn time.year.toNat time.month.toNat) ∧
      time.hour.toNat ≤ 23 ∧ time.minute.toNat ≤ 59 ∧ time.second.toNat ≤ 59 ∧
      time.nanosecond.toNat ≤ 999999999 ∧
      (time.timeZone = efiUnspecifiedTimezone ∨
        -1440 ≤ time.timeZone ∧ time.timeZone ≤ 1440) ∧
      time.daylight.toNat ≤ 3)
    ⟨fun ⟨month, day, hour, minute, second, nanosecond, timeZone, daylight⟩ =>
      ⟨month, day, hour, minute, second, nanosecond, timeZone, daylight⟩,
    fun valid => ⟨valid.month, valid.day, valid.hour, valid.minute, valid.second,
      valid.nanosecond, valid.timeZone, valid.daylight⟩⟩

/-- The two times have the date and the time of day in common. -/
structure EfiTime.SameClock (time other : EfiTime) : Prop where
  year : time.year = other.year
  month : time.month = other.month
  day : time.day = other.day
  hour : time.hour = other.hour
  minute : time.minute = other.minute
  second : time.second = other.second

end MuRockchip.Rtc
