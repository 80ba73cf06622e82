/-
Reading the clock chip while it counts.

The six registers are read one after another, and the chip may count on between any two of the
transfers. The time put together from them is one that the chip held where each register still
holds what it held when the seconds were read, and in a call of less than a minute only there.

* `libGetTime_held_iff`: when the time read is one that the chip held during the call.
-/
import Mathlib.Data.Fin.Basic
import Mathlib.Order.Monotone.Defs
import Mathlib.Order.Fin.Basic
import Mathlib.Tactic.IntervalCases
import MuRockchip.Base.Calendar
import MuRockchip.Rtc.Hym8563

namespace MuRockchip.Rtc.Hym8563

open Base

/-! ### Readings of a counting chip -/

/-- What a transfer answers are the digits of a number, apart from the bits beside the mask. -/
def Digits (bcd : BcdConversions) (answer : Option UInt8) (mask : UInt8) (value : Nat) : Prop :=
  ∀ byte, answer = some byte → byte &&& mask = bcd.ofDecimal (UInt8.ofNat value)

/-- A call during which the chip counts: the ticks before each transfer and before the end. -/
structure Call where
  start : Calendar
  valid : start.Valid
  instant : Fin 6 → Nat
  inOrder : Monotone instant
  last : Nat
  ends : instant 5 ≤ last

/-- The time of the chip when a register is read. -/
def Call.seen (call : Call) (transfer : Fin 6) : Calendar :=
  Calendar.tick^[call.instant transfer] call.start

/-- The transfers answer what the chip counts. -/
structure Call.Answers (bcd : BcdConversions) (call : Call) (reading : Reading) : Prop where
  seconds : Digits bcd reading.seconds rtcSecondsMask (call.seen 0).second
  minutes : Digits bcd reading.minutes rtcMinutesMask (call.seen 1).minute
  hours : Digits bcd reading.hours rtcHoursMask (call.seen 2).hour
  days : Digits bcd reading.days rtcDaysMask (call.seen 3).day
  monCentury : Digits bcd reading.monCentury rtcMonMask (call.seen 4).month
  years : Digits bcd reading.years 0xff (call.seen 5).year

/-- The time is what the chip counts. -/
structure Holds (held : Calendar) (time : EfiTime) : Prop where
  year : time.year.toNat = 2000 + held.year
  month : time.month.toNat = held.month
  day : time.day.toNat = held.day
  hour : time.hour.toNat = held.hour
  minute : time.minute.toNat = held.minute
  second : time.second.toNat = held.second

def Call.Held (call : Call) (time : EfiTime) : Prop :=
  ∃ ticks ≤ call.last, Holds (Calendar.tick^[ticks] call.start) time

/-- Each register still holds what it held when the seconds were read. -/
structure Call.Steady (call : Call) : Prop where
  minute : (call.seen 1).minute = (call.seen 0).minute
  hour : (call.seen 2).hour = (call.seen 0).hour
  day : (call.seen 3).day = (call.seen 0).day
  month : (call.seen 4).month = (call.seen 0).month
  year : (call.seen 5).year = (call.seen 0).year

/-! ### What the reading puts together -/

variable {bcd : BcdConversions}

theorem Call.seen_valid (call : Call) (transfer : Fin 6) : (call.seen transfer).Valid :=
  Calendar.iterate_tick_valid call.valid _

/-- The digits read give the number. -/
theorem digits_toNat {byte mask : UInt8} {value : Nat} (small : value < 100)
    (digits : byte &&& mask = bcd.ofDecimal (UInt8.ofNat value)) :
    (bcd.toDecimal (byte &&& mask)).toNat = value := by
  have byte : value < 256 := by omega
  have exact : (UInt8.ofNat value).toNat = value := UInt8.toNat_ofNat_of_lt' byte
  rw [digits, bcd.toDecimal_ofDecimal (by omega), exact]

theorem deviceError_ne_success : EfiStatus.deviceError ≠ EfiStatus.success := by decide

theorem libGetTime_success {settings : Settings} {reading : Reading} {before : EfiTime}
    {asked : Bool}
    (success : (libGetTime bcd settings reading before asked).status = EfiStatus.success) :
    ∃ seconds minutes hours days monCentury years,
      reading.bytes = some (seconds, minutes, hours, days, monCentury, years) ∧
      (libGetTime bcd settings reading before asked).time =
        ⟨2000 + (bcd.toDecimal years).toUInt16,
          orFirst (bcd.toDecimal (monCentury &&& rtcMonMask)),
          orFirst (bcd.toDecimal (days &&& rtcDaysMask)),
          bcd.toDecimal (hours &&& rtcHoursMask), bcd.toDecimal (minutes &&& rtcMinutesMask),
          bcd.toDecimal (seconds &&& rtcSecondsMask), before.nanosecond, settings.timeZone,
          settings.daylight⟩ := by
  cases bytes : reading.bytes with
  | none =>
    rw [libGetTime, bytes] at success
    exact absurd success deviceError_ne_success
  | some read =>
    obtain ⟨seconds, minutes, hours, days, monCentury, years⟩ := read
    rw [libGetTime, bytes] at success
    simp only at success
    refine ⟨seconds, minutes, hours, days, monCentury, years, rfl, ?_⟩
    rw [libGetTime, bytes]
    by_cases stopped : seconds &&& rtcSecondsDl ≠ 0
    · rw [if_pos stopped] at success
      exact absurd success deviceError_ne_success
    · simp only [if_neg stopped]

theorem bytes_some {reading : Reading} {seconds minutes hours days monCentury years : UInt8}
    (bytes : reading.bytes = some (seconds, minutes, hours, days, monCentury, years)) :
    reading = ⟨some seconds, some minutes, some hours, some days, some monCentury,
      some years⟩ := by
  obtain ⟨first, second, third, fourth, fifth, sixth⟩ := reading
  simp only [Reading.bytes, Option.bind_eq_bind, Option.bind_eq_some_iff, Option.some.injEq,
    Prod.mk.injEq] at bytes
  obtain ⟨_, rfl, _, rfl, _, rfl, _, rfl, _, rfl, _, rfl, rfl, rfl, rfl, rfl, rfl, rfl⟩ := bytes
  rfl

/-- The fields read are what the chip counted when each of them was read. -/
theorem libGetTime_fields {call : Call} {reading : Reading} (answers : call.Answers bcd reading)
    {settings : Settings} {before : EfiTime} {asked : Bool}
    (success : (libGetTime bcd settings reading before asked).status = EfiStatus.success) :
    Holds ⟨(call.seen 5).year, (call.seen 4).month, (call.seen 3).day, (call.seen 2).hour,
      (call.seen 1).minute, (call.seen 0).second⟩
      (libGetTime bcd settings reading before asked).time := by
  obtain ⟨seconds, minutes, hours, days, monCentury, years, bytes, out⟩ :=
    libGetTime_success success
  obtain rfl := bytes_some bytes
  rw [out]
  have second := (call.seen_valid 0).second
  have minute := (call.seen_valid 1).minute
  have hour := (call.seen_valid 2).hour
  have day := (call.seen_valid 3).day
  have length := Calendar.daysIn_bounds (call.seen 3).year (call.seen 3).month
  have month := (call.seen_valid 4).month
  have year := (call.seen_valid 5).year
  have secondEq := digits_toNat (by omega : (call.seen 0).second < 100) (answers.seconds _ rfl)
  have minuteEq := digits_toNat (by omega : (call.seen 1).minute < 100) (answers.minutes _ rfl)
  have hourEq := digits_toNat (by omega : (call.seen 2).hour < 100) (answers.hours _ rfl)
  have dayEq := digits_toNat (by omega : (call.seen 3).day < 100) (answers.days _ rfl)
  have monthEq := digits_toNat (by omega : (call.seen 4).month < 100) (answers.monCentury _ rfl)
  have yearEq := digits_toNat year (answers.years years rfl)
  have whole : years &&& 0xff = years := by
    refine UInt8.toNat_inj.mp ?_
    rw [UInt8.toNat_and]
    show years.toNat &&& 2 ^ 8 - 1 = _
    rw [Nat.and_two_pow_sub_one_eq_mod]
    exact Nat.mod_eq_of_lt years.toNat_lt
  rw [whole] at yearEq
  refine ⟨?_, ?_, ?_, hourEq, minuteEq, secondEq⟩
  · show (2000 + (bcd.toDecimal years).toUInt16).toNat = _
    rw [UInt16.toNat_add, UInt8.toNat_toUInt16, yearEq]
    show (2000 + (call.seen 5).year) % 65536 = _
    exact Nat.mod_eq_of_lt (by omega)
  · show (orFirst (bcd.toDecimal (monCentury &&& rtcMonMask))).toNat = _
    rw [orFirst_of_pos (by omega)]
    exact monthEq
  · show (orFirst (bcd.toDecimal (days &&& rtcDaysMask))).toNat = _
    rw [orFirst_of_pos (by omega)]
    exact dayEq

/-! ### When it is a time of the chip -/

/-- A time determines what the chip counts. -/
theorem Holds.unique {held other : Calendar} {time : EfiTime} (holds : Holds held time)
    (holds' : Holds other time) : held = other := by
  obtain ⟨year, month, day, hour, minute, second⟩ := held
  obtain ⟨year', month', day', hour', minute', second'⟩ := other
  have years := holds.year.symm.trans holds'.year
  have months := holds.month.symm.trans holds'.month
  have days := holds.day.symm.trans holds'.day
  have hours := holds.hour.symm.trans holds'.hour
  have minutes := holds.minute.symm.trans holds'.minute
  have seconds := holds.second.symm.trans holds'.second
  simp only at years months days hours minutes seconds
  simp only [Calendar.mk.injEq]
  omega

theorem Call.instant_le (call : Call) (transfer : Fin 6) : call.instant transfer ≤ call.last :=
  (call.inOrder (Fin.le_last transfer)).trans call.ends

/-- Where each register still holds what it held when the seconds were read, the time read is
one of the chip, and in a call of less than a minute nowhere else. -/
theorem libGetTime_held_iff {call : Call} {reading : Reading}
    (answers : call.Answers bcd reading) {settings : Settings} {before : EfiTime} {asked : Bool}
    (success : (libGetTime bcd settings reading before asked).status = EfiStatus.success) :
    (call.Steady → call.Held (libGetTime bcd settings reading before asked).time) ∧
      (call.last < 60 →
        (call.Held (libGetTime bcd settings reading before asked).time ↔ call.Steady)) := by
  have fields := libGetTime_fields answers success
  generalize (libGetTime bcd settings reading before asked).time = time at fields
  have enough (steady : call.Steady) : call.Held time := by
    rw [steady.minute, steady.hour, steady.day, steady.month, steady.year] at fields
    exact ⟨call.instant 0, call.instant_le 0, fields⟩
  refine ⟨enough, fun short => ⟨fun held => ?_, enough⟩⟩
  obtain ⟨ticks, inCall, holds⟩ := held
  have same := holds.unique fields
  have seconds := congrArg Calendar.second same
  simp only [Call.seen, Calendar.iterate_tick_second call.valid] at seconds
  have inCall' := call.instant_le 0
  have first : ticks = call.instant 0 := by omega
  subst first
  have whole : call.seen 0 = _ := same
  refine ⟨?_, ?_, ?_, ?_, ?_⟩ <;> rw [whole]

/-- A call at the end of the first minute of 2022, with a tick after so many transfers. -/
def minuteCall (before : Nat) : Call where
  start := ⟨22, 1, 1, 0, 0, 59⟩
  valid := ⟨by decide, by decide, by decide, by decide, by decide, by decide⟩
  instant transfer := if transfer.val < before then 0 else 1
  inOrder first second le := by
    have le' : first.val ≤ second.val := le
    show (if first.val < before then 0 else 1) ≤ if second.val < before then 0 else 1
    split_ifs <;> omega
  last := 1
  ends := by
    split_ifs <;> omega

/-- Before the tick 0:00:59 is read. -/
theorem libGetTime_held_minute :
    let out := libGetTime bcdConversions ⟨0, 0⟩
      ⟨some 0x59, some 0x00, some 0x00, some 0x01, some 0x01, some 0x22⟩
      ⟨0, 0, 0, 0, 0, 0, 0, 0, 0⟩ false
    ((minuteCall 6).Steady → (minuteCall 6).Held out.time) ∧
      ((minuteCall 6).last < 60 → ((minuteCall 6).Held out.time ↔ (minuteCall 6).Steady)) := by
  refine libGetTime_held_iff ⟨?_, ?_, ?_, ?_, ?_, ?_⟩ rfl
  all_goals
    intro byte read
    cases read
    decide

/-- With a tick after the seconds 0:01:59 is read, between 0:00:59 and 0:01:00. -/
theorem libGetTime_torn :
    let reading : Reading := ⟨some 0x59, some 0x01, some 0x00, some 0x01, some 0x01, some 0x22⟩
    let out := libGetTime bcdConversions ⟨0, 0⟩ reading ⟨0, 0, 0, 0, 0, 0, 0, 0, 0⟩ false
    (minuteCall 1).Answers bcdConversions reading ∧ out.status = EfiStatus.success ∧
      ¬ (minuteCall 1).Held out.time := by
  refine ⟨⟨?_, ?_, ?_, ?_, ?_, ?_⟩, rfl, ?_⟩
  iterate 6
    · intro byte read
      cases read
      decide
  · rintro ⟨ticks, inCall, holds⟩
    have minute := holds.minute
    have second := holds.second
    change ticks ≤ 1 at inCall
    interval_cases ticks
    · exact absurd minute (by decide)
    · exact absurd second (by decide)

end MuRockchip.Rtc.Hym8563
