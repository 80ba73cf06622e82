/-
The clock chip of the RK356x boards (`Hym8563RtcLib`, `RtcLib.c`).

The registers of the time are read and written one transfer at a time. The time zone and the
daylight setting are kept by the library, which takes them over before it looks at anything
else.

* `libGetTime_libSetTime`: a time that is set is the time that is read.
* `libSetTime_exact`: and when setting a time that fails leaves everything as it is.
-/
import Mathlib.Data.Nat.Bitwise
import Mathlib.Logic.Function.Basic
import MuRockchip.Base.Bcd
import MuRockchip.Rtc.EfiTime
import MuRockchip.Uefi.Status

namespace MuRockchip.Rtc.Hym8563

open Base

/-! ### The registers -/

def rtcSeconds : UInt8 := 0x02
def rtcSecondsDl : UInt8 := 0x80
def rtcSecondsMask : UInt8 := 0x7f
def rtcMinutes : UInt8 := 0x03
def rtcMinutesMask : UInt8 := 0x7f
def rtcHours : UInt8 := 0x04
def rtcHoursMask : UInt8 := 0x3f
def rtcDays : UInt8 := 0x05
def rtcDaysMask : UInt8 := 0x3f
def rtcMonCentury : UInt8 := 0x07
def rtcMonMask : UInt8 := 0x1f
def rtcYears : UInt8 := 0x08

abbrev Registers : Type := UInt8 → UInt8

/-- `mTimeZone` and `mDaylight`. -/
structure Settings where
  timeZone : Int16
  daylight : UInt8
  deriving DecidableEq

/-! ### Reading the time -/

/-- What the six transfers of a reading answer: nothing where one fails. -/
structure Reading where
  seconds : Option UInt8
  minutes : Option UInt8
  hours : Option UInt8
  days : Option UInt8
  monCentury : Option UInt8
  years : Option UInt8

/-- The bytes of a reading, up to the transfer that fails. -/
def Reading.bytes (reading : Reading) :
    Option (UInt8 × UInt8 × UInt8 × UInt8 × UInt8 × UInt8) := do
  let seconds ← reading.seconds
  let minutes ← reading.minutes
  let hours ← reading.hours
  let days ← reading.days
  let monCentury ← reading.monCentury
  let years ← reading.years
  some (seconds, minutes, hours, days, monCentury, years)

/-- A month or a day of zero is taken for the first. -/
def orFirst (value : UInt8) : UInt8 := if value = 0 then 1 else value

/-- What `LibGetTime` returns, and what it writes. -/
structure GetTime where
  status : EfiStatus
  time : EfiTime
  capabilities : Option EfiTimeCapabilities
  writes : List (UInt8 × UInt8)

variable (bcd : BcdConversions)

/-- `LibGetTime`, with the time of the caller and whether the capabilities are asked for. -/
def libGetTime (settings : Settings) (reading : Reading) (time : EfiTime) (asked : Bool) :
    GetTime :=
  match reading.bytes with
  | none => ⟨EfiStatus.deviceError, time, none, []⟩
  | some (seconds, minutes, hours, days, monCentury, years) =>
    if seconds &&& rtcSecondsDl ≠ 0 then
      ⟨EfiStatus.deviceError, time, none, [(rtcSeconds, seconds &&& ~~~rtcSecondsDl)]⟩
    else
      let time : EfiTime :=
        { time with
          year := 2000 + (bcd.toDecimal years).toUInt16
          month := bcd.toDecimal (monCentury &&& rtcMonMask)
          day := bcd.toDecimal (days &&& rtcDaysMask)
          hour := bcd.toDecimal (hours &&& rtcHoursMask)
          minute := bcd.toDecimal (minutes &&& rtcMinutesMask)
          second := bcd.toDecimal (seconds &&& rtcSecondsMask)
          timeZone := settings.timeZone
          daylight := settings.daylight }
      let time := { time with month := orFirst time.month, day := orFirst time.day }
      ⟨EfiStatus.success, time, if asked then some ⟨1, 10000000, false⟩ else none, []⟩

/-! ### Setting the time -/

/-- How a transfer ends. One that fails may have reached the register. -/
inductive Transfer
  | done
  | failed (reached : Bool)
  deriving DecidableEq, Repr

/-- The bytes that `LibSetTime` writes, in turn. -/
def timeBytes (time : EfiTime) : List (UInt8 × UInt8) :=
  [ (rtcYears, bcd.ofDecimal (time.year % 100).toUInt8),
    (rtcMonCentury, bcd.ofDecimal time.month),
    (rtcDays, bcd.ofDecimal time.day),
    (rtcHours, bcd.ofDecimal time.hour),
    (rtcMinutes, bcd.ofDecimal time.minute),
    (rtcSeconds, bcd.ofDecimal time.second) ]

/-- Writes in turn, up to the transfer that fails. -/
def rtcWriteAll (answer : UInt8 → Transfer) :
    List (UInt8 × UInt8) → Registers → Bool × Registers
  | [], registers => (true, registers)
  | (register, value) :: writes, registers =>
    match answer register with
    | .done => rtcWriteAll answer writes (Function.update registers register value)
    | .failed reached =>
      (false, if reached then Function.update registers register value else registers)

/-- The registers of the chip and what the library keeps. -/
structure RtcState where
  registers : Registers
  settings : Settings

def libSetTime (answer : UInt8 → Transfer) (time : EfiTime) (rtc : RtcState) :
    EfiStatus × RtcState :=
  let rtc := { rtc with settings := ⟨time.timeZone, time.daylight⟩ }
  if time.year < 2000 ∨ 2099 < time.year then (EfiStatus.invalidParameter, rtc)
  else
    let (done, registers) := rtcWriteAll answer (timeBytes bcd time) rtc.registers
    (if done then EfiStatus.success else EfiStatus.deviceError, { rtc with registers })

/-! ### What is set is read -/

/-- A reading of the registers without a failure. -/
def readAll (registers : Registers) : Reading where
  seconds := some (registers rtcSeconds)
  minutes := some (registers rtcMinutes)
  hours := some (registers rtcHours)
  days := some (registers rtcDays)
  monCentury := some (registers rtcMonCentury)
  years := some (registers rtcYears)

variable {bcd} {time : EfiTime}

/-- The bytes are the digits of a time in the years of the chip. -/
structure Supported (time : EfiTime) : Prop where
  inRange : time.InRange
  year : 2000 ≤ time.year.toNat ∧ time.year.toNat ≤ 2099

theorem orFirst_of_pos {value : UInt8} (positive : 1 ≤ value.toNat) : orFirst value = value := by
  have some : value ≠ 0 := by
    rintro rfl
    exact absurd positive (by decide)
  exact if_neg some

/-- The digits of a number that fits the field are read back through its mask. -/
theorem toDecimal_masked {value mask : UInt8} {width : Nat} (small : value.toNat < 100)
    (covers : mask.toNat = 2 ^ width - 1) (fits : value.toNat / 10 * 16 + 15 < 2 ^ width) :
    bcd.toDecimal (bcd.ofDecimal value &&& mask) = value := by
  rw [bcd.ofDecimal_and small covers fits, bcd.toDecimal_ofDecimal small]

theorem year_digits (supported : Supported time) :
    2000 + (bcd.toDecimal (bcd.ofDecimal (time.year % 100).toUInt8)).toUInt16 = time.year := by
  have digits : ((time.year % 100).toUInt8).toNat = time.year.toNat % 100 := by
    rw [UInt16.toNat_toUInt8, UInt16.toNat_mod]
    show time.year.toNat % 100 % 256 = _
    omega
  refine UInt16.toNat_inj.mp ?_
  rw [bcd.toDecimal_ofDecimal (by omega), UInt16.toNat_add, UInt8.toNat_toUInt16, digits]
  show (2000 + time.year.toNat % 100) % 65536 = _
  have := supported.year
  omega

/-- The flag of a stopped clock is written off with the seconds. -/
theorem seconds_dl {value : UInt8} (small : value.toNat ≤ 59) :
    bcd.ofDecimal value &&& rtcSecondsDl = 0 := by
  have below : (bcd.ofDecimal value).toNat < 128 := by
    rw [bcd.ofDecimal_toNat value (by omega)]
    omega
  refine UInt8.toNat_inj.mp ?_
  rw [UInt8.toNat_and]
  show _ &&& 2 ^ 7 = 0
  rw [Nat.and_two_pow, Nat.testBit_lt_two_pow below]
  rfl

/-- The registers show a time. -/
structure Shows (bcd : BcdConversions) (registers : Registers) (time : EfiTime) : Prop where
  seconds : registers rtcSeconds = bcd.ofDecimal time.second
  minutes : registers rtcMinutes = bcd.ofDecimal time.minute
  hours : registers rtcHours = bcd.ofDecimal time.hour
  days : registers rtcDays = bcd.ofDecimal time.day
  monCentury : registers rtcMonCentury = bcd.ofDecimal time.month
  years : registers rtcYears = bcd.ofDecimal (time.year % 100).toUInt8

theorem libGetTime_shows {registers : Registers} (shows : Shows bcd registers time)
    (supported : Supported time) (settings : Settings) (before : EfiTime) (asked : Bool) :
    let out := libGetTime bcd settings (readAll registers) before asked
    out.status = EfiStatus.success ∧ out.time.SameClock time ∧
      out.time.timeZone = settings.timeZone ∧ out.time.daylight = settings.daylight := by
  have year := @year_digits bcd time supported
  obtain ⟨⟨month, day, hour, minute, second⟩, -⟩ := supported
  have going : ¬ registers rtcSeconds &&& rtcSecondsDl ≠ 0 := by
    rw [shows.seconds]
    exact not_not.mpr (seconds_dl second)
  intro out
  have run : out = libGetTime bcd settings (readAll registers) before asked := rfl
  rw [libGetTime, readAll] at run
  simp only [Reading.bytes, Option.bind_eq_bind, Option.bind_some, if_neg going] at run
  rw [run]
  refine ⟨rfl, ⟨?_, ?_, ?_, ?_, ?_, ?_⟩, rfl, rfl⟩
  · show 2000 + (bcd.toDecimal (registers rtcYears)).toUInt16 = time.year
    rw [shows.years, year]
  · show orFirst (bcd.toDecimal (registers rtcMonCentury &&& rtcMonMask)) = time.month
    rw [shows.monCentury, @toDecimal_masked bcd _ rtcMonMask 5 (by omega) rfl (by omega)]
    exact orFirst_of_pos month.1
  · show orFirst (bcd.toDecimal (registers rtcDays &&& rtcDaysMask)) = time.day
    rw [shows.days, @toDecimal_masked bcd _ rtcDaysMask 6 (by omega) rfl (by omega)]
    exact orFirst_of_pos day.1
  · show bcd.toDecimal (registers rtcHours &&& rtcHoursMask) = time.hour
    rw [shows.hours, @toDecimal_masked bcd _ rtcHoursMask 6 (by omega) rfl (by omega)]
  · show bcd.toDecimal (registers rtcMinutes &&& rtcMinutesMask) = time.minute
    rw [shows.minutes, @toDecimal_masked bcd _ rtcMinutesMask 7 (by omega) rfl (by omega)]
  · show bcd.toDecimal (registers rtcSeconds &&& rtcSecondsMask) = time.second
    rw [shows.seconds, @toDecimal_masked bcd _ rtcSecondsMask 7 (by omega) rfl (by omega)]

theorem rtcWriteAll_shows (registers : Registers) :
    (rtcWriteAll (fun _ => .done) (timeBytes bcd time) registers).1 = true ∧
      Shows bcd (rtcWriteAll (fun _ => .done) (timeBytes bcd time) registers).2 time :=
  ⟨rfl, ⟨rfl, rfl, rfl, rfl, rfl, rfl⟩⟩

/-- The years that the chip does not count. -/
def OutOfYears (time : EfiTime) : Prop := time.year < 2000 ∨ 2099 < time.year

theorem libSetTime_inYears {answer : UInt8 → Transfer} {rtc : RtcState}
    (inYears : ¬ OutOfYears time) :
    libSetTime bcd answer time rtc =
      (if (rtcWriteAll answer (timeBytes bcd time) rtc.registers).1 then EfiStatus.success
        else EfiStatus.deviceError,
      ⟨(rtcWriteAll answer (timeBytes bcd time) rtc.registers).2,
        ⟨time.timeZone, time.daylight⟩⟩) :=
  if_neg inYears

theorem libGetTime_libSetTime (supported : Supported time) (rtc : RtcState) (before : EfiTime)
    (asked : Bool) :
    ∃ next, libSetTime bcd (fun _ => .done) time rtc = (EfiStatus.success, next) ∧
      let out := libGetTime bcd next.settings (readAll next.registers) before asked
      out.status = EfiStatus.success ∧ out.time.SameClock time ∧
        out.time.timeZone = time.timeZone ∧ out.time.daylight = time.daylight := by
  have inYears : ¬ OutOfYears time := by
    rw [OutOfYears, UInt16.lt_iff_toNat_lt, UInt16.lt_iff_toNat_lt]
    show ¬ (time.year.toNat < 2000 ∨ 2099 < time.year.toNat)
    have := supported.year
    omega
  obtain ⟨done, shows⟩ := @rtcWriteAll_shows bcd time rtc.registers
  refine ⟨⟨(rtcWriteAll (fun _ => .done) (timeBytes bcd time) rtc.registers).2,
    ⟨time.timeZone, time.daylight⟩⟩, ?_,
    libGetTime_shows shows supported ⟨time.timeZone, time.daylight⟩ before asked⟩
  rw [libSetTime_inYears inYears, done]
  rfl

/-! ### What a failure leaves -/

def reaching (answer : UInt8 → Transfer) : List (UInt8 × UInt8) → List (UInt8 × UInt8)
  | [] => []
  | write :: writes =>
    match answer write.1 with
    | .done => write :: reaching answer writes
    | .failed reached => if reached then [write] else []

theorem rtcWriteAll_frame {answer : UInt8 → Transfer} {writes : List (UInt8 × UInt8)}
    {register : UInt8} (other : ∀ write ∈ writes, write.1 ≠ register) (registers : Registers) :
    (rtcWriteAll answer writes registers).2 register = registers register := by
  induction writes generalizing registers with
  | nil => rfl
  | cons write writes ih =>
    obtain ⟨different, others⟩ := List.forall_mem_cons.mp other
    have kept (value : UInt8) :
        Function.update registers write.1 value register = registers register :=
      Function.update_of_ne (Ne.symm different) _ _
    rw [rtcWriteAll]
    cases answer write.1 with
    | done => exact (ih others _).trans (kept write.2)
    | failed reached =>
      cases reached with
      | true => exact kept write.2
      | false => rfl

/-- Writes to different registers leave them all where the ones that reach the chip change
nothing. -/
theorem rtcWriteAll_eq_iff {answer : UInt8 → Transfer} {writes : List (UInt8 × UInt8)}
    (nodup : (writes.map Prod.fst).Nodup) (registers : Registers) :
    (rtcWriteAll answer writes registers).2 = registers ↔
      ∀ write ∈ reaching answer writes, registers write.1 = write.2 := by
  induction writes generalizing registers with
  | nil => exact iff_of_true rfl (fun _ never => absurd never (List.not_mem_nil))
  | cons write writes ih =>
    rw [List.map_cons, List.nodup_cons] at nodup
    have first : ∀ other ∈ writes, other.1 ≠ write.1 := fun other listed same =>
      nodup.1 (List.mem_map.mpr ⟨other, listed, same⟩)
    have unchanged (same : registers write.1 = write.2) :
        Function.update registers write.1 write.2 = registers := by
      rw [← same]
      exact Function.update_eq_self write.1 registers
    rw [rtcWriteAll, reaching]
    cases answer write.1 with
    | done =>
      show (rtcWriteAll answer writes (Function.update registers write.1 write.2)).2 = _ ↔ _
      rw [List.forall_mem_cons]
      constructor
      · intro same
        have head : registers write.1 = write.2 := by
          rw [← same, rtcWriteAll_frame first, Function.update_self]
        rw [unchanged head] at same
        exact ⟨head, (ih nodup.2 registers).mp same⟩
      · rintro ⟨head, tail⟩
        rw [unchanged head]
        exact (ih nodup.2 registers).mpr tail
    | failed reached =>
      cases reached with
      | true =>
        show Function.update registers write.1 write.2 = registers ↔
          ∀ other ∈ [write], registers other.1 = other.2
        rw [Function.update_eq_self_iff, List.forall_mem_singleton, eq_comm]
      | false => exact iff_of_true rfl (fun _ never => absurd never (List.not_mem_nil))

theorem rtcWriteAll_done_iff {answer : UInt8 → Transfer} {writes : List (UInt8 × UInt8)}
    (registers : Registers) :
    (rtcWriteAll answer writes registers).1 = true ↔ ∀ write ∈ writes, answer write.1 = .done := by
  induction writes generalizing registers with
  | nil => exact iff_of_true rfl (fun _ never => absurd never (List.not_mem_nil))
  | cons write writes ih =>
    rw [rtcWriteAll, List.forall_mem_cons]
    cases answer write.1 with
    | done =>
      refine (ih _).trans ⟨fun others => ⟨rfl, others⟩, And.right⟩
    | failed reached =>
      exact iff_of_false Bool.false_ne_true (fun met => Transfer.noConfusion met.1)

/-- Setting the time cannot fail, or the settings are the ones the library keeps and the writes
that reach the chip, if there are any, are of what it holds. -/
def Undisturbed (bcd : BcdConversions) (answer : UInt8 → Transfer) (time : EfiTime)
    (rtc : RtcState) : Prop :=
  ¬ OutOfYears time ∧ (∀ write ∈ timeBytes bcd time, answer write.1 = .done) ∨
    rtc.settings = ⟨time.timeZone, time.daylight⟩ ∧
      (OutOfYears time ∨
        ∀ write ∈ reaching answer (timeBytes bcd time), rtc.registers write.1 = write.2)

theorem libSetTime_undisturbed_iff (answer : UInt8 → Transfer) (time : EfiTime)
    (rtc : RtcState) :
    ((libSetTime bcd answer time rtc).1.isError = true →
        (libSetTime bcd answer time rtc).2 = rtc) ↔ Undisturbed bcd answer time rtc := by
  by_cases years : OutOfYears time
  · have run : libSetTime bcd answer time rtc =
        (EfiStatus.invalidParameter, { rtc with settings := ⟨time.timeZone, time.daylight⟩ }) :=
      if_pos years
    rw [run, Undisturbed]
    constructor
    · intro kept
      have same := kept rfl
      exact Or.inr ⟨(congrArg RtcState.settings same).symm, Or.inl years⟩
    · rintro (⟨never, -⟩ | ⟨same, -⟩)
      · exact absurd years never
      · rw [← same]
        exact fun _ => rfl
  · have nodup : ((timeBytes bcd time).map Prod.fst).Nodup := by
      show [rtcYears, rtcMonCentury, rtcDays, rtcHours, rtcMinutes, rtcSeconds].Nodup
      decide
    have kept := @rtcWriteAll_eq_iff answer _ nodup rtc.registers
    have allDone := @rtcWriteAll_done_iff answer (timeBytes bcd time) rtc.registers
    rw [libSetTime_inYears years, Undisturbed, ← kept, ← allDone]
    generalize rtcWriteAll answer (timeBytes bcd time) rtc.registers = written
    obtain ⟨done, registers⟩ := written
    cases done with
    | true =>
      refine iff_of_true (fun error => ?_) (Or.inl ⟨years, rfl⟩)
      change EfiStatus.isError EfiStatus.success = true at error
      cases error
    | false =>
      simp only [Bool.false_eq_true, if_false, and_false, false_or, years]
      constructor
      · intro unchanged
        have same := unchanged rfl
        exact ⟨(congrArg RtcState.settings same).symm, congrArg RtcState.registers same⟩
      · rintro ⟨settings, rfl⟩ -
        rw [← settings]

/-- What is set is read, and when an error leaves the chip and the settings as they are. -/
theorem libSetTime_exact (bcd : BcdConversions) :
    (∀ time, Supported time → ∀ rtc before asked,
      ∃ next, libSetTime bcd (fun _ => .done) time rtc = (EfiStatus.success, next) ∧
        let out := libGetTime bcd next.settings (readAll next.registers) before asked
        out.status = EfiStatus.success ∧ out.time.SameClock time ∧
          out.time.timeZone = time.timeZone ∧ out.time.daylight = time.daylight) ∧
      ∀ answer time rtc,
        ((libSetTime bcd answer time rtc).1.isError = true →
            (libSetTime bcd answer time rtc).2 = rtc) ↔ Undisturbed bcd answer time rtc :=
  ⟨fun _ supported rtc before asked => libGetTime_libSetTime supported rtc before asked,
    libSetTime_undisturbed_iff⟩

/-- A time before the years of the chip is refused with its time zone taken over, and a time
whose month is not taken leaves its year behind. -/
theorem libSetTime_disturbs :
    let bcd := bcdConversions
    let rtc : RtcState := ⟨fun _ => 0, ⟨0, 0⟩⟩
    let refused : EfiTime := ⟨1999, 12, 31, 23, 59, 59, 0, 60, 0⟩
    let failed : EfiTime := ⟨2022, 2, 1, 0, 0, 0, 0, 0, 0⟩
    let answer : UInt8 → Transfer := fun register =>
      if register = rtcMonCentury then .failed false else .done
    ((libSetTime bcd (fun _ => .done) refused rtc).1 = EfiStatus.invalidParameter ∧
        (libSetTime bcd (fun _ => .done) refused rtc).2.settings ≠ rtc.settings) ∧
      (libSetTime bcd answer failed rtc).1 = EfiStatus.deviceError ∧
        (libSetTime bcd answer failed rtc).2.registers rtcYears ≠ rtc.registers rtcYears := by
  intro bcd rtc refused failed answer
  have settings : (libSetTime bcd (fun _ => .done) refused rtc).2.settings = ⟨60, 0⟩ := rfl
  have written : (libSetTime bcd answer failed rtc).2.registers rtcYears =
      bcd.ofDecimal ((2022 : UInt16) % 100).toUInt8 := rfl
  refine ⟨⟨rfl, ?_⟩, rfl, fun none => ?_⟩
  · rw [settings]
    decide
  · rw [written] at none
    have digits := bcd.ofDecimal_toNat ((2022 : UInt16) % 100).toUInt8 (by decide)
    rw [none] at digits
    exact absurd digits (by decide)

end MuRockchip.Rtc.Hym8563
