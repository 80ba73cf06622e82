/-
A calendar that counts seconds.

The year is counted in two digits, from a year that is divisible by four.

* `Calendar.tick_valid`: the calendar stays one.
* `Calendar.iterate_tick_second`: the seconds come round once a minute.
-/
import Mathlib.Logic.Function.Iterate
import Mathlib.Tactic.SplitIfs

namespace MuRockchip.Base

structure Calendar where
  year : Nat
  month : Nat
  day : Nat
  hour : Nat
  minute : Nat
  second : Nat
  deriving DecidableEq, Repr

namespace Calendar

/-- The length of a month. -/
def daysIn (year month : Nat) : Nat :=
  if month = 2 then if year % 4 = 0 then 29 else 28
  else if month = 4 ∨ month = 6 ∨ month = 9 ∨ month = 11 then 30
  else 31

structure Valid (time : Calendar) : Prop where
  year : time.year < 100
  month : 1 ≤ time.month ∧ time.month ≤ 12
  day : 1 ≤ time.day ∧ time.day ≤ daysIn time.year time.month
  hour : time.hour < 24
  minute : time.minute < 60
  second : time.second < 60

/-- The next second. -/
def tick (time : Calendar) : Calendar :=
  if time.second < 59 then { time with second := time.second + 1 }
  else if time.minute < 59 then { time with minute := time.minute + 1, second := 0 }
  else if time.hour < 23 then { time with hour := time.hour + 1, minute := 0, second := 0 }
  else if time.day < daysIn time.year time.month then
    { time with day := time.day + 1, hour := 0, minute := 0, second := 0 }
  else if time.month < 12 then ⟨time.year, time.month + 1, 1, 0, 0, 0⟩
  else ⟨(time.year + 1) % 100, 1, 1, 0, 0, 0⟩

theorem daysIn_bounds (year month : Nat) : 28 ≤ daysIn year month ∧ daysIn year month ≤ 31 := by
  unfold daysIn
  split_ifs <;> omega

variable {time : Calendar}

/-- The next second is one of the calendar. -/
theorem tick_valid (valid : time.Valid) : time.tick.Valid := by
  obtain ⟨year, month, day, hour, minute, second⟩ := valid
  have first (year month : Nat) : 1 ≤ 1 ∧ 1 ≤ daysIn year month := by
    have := daysIn_bounds year month
    omega
  have zero {bound : Nat} : 0 < bound + 1 := Nat.succ_pos _
  unfold tick
  split_ifs with seconds minutes hours days months
  · exact ⟨year, month, day, hour, minute, Nat.succ_lt_succ seconds⟩
  · exact ⟨year, month, day, hour, Nat.succ_lt_succ minutes, zero⟩
  · exact ⟨year, month, day, Nat.succ_lt_succ hours, zero, zero⟩
  · exact ⟨year, month, ⟨zero, days⟩, zero, zero, zero⟩
  · exact ⟨year, ⟨zero, months⟩, first _ _, zero, zero, zero⟩
  · exact ⟨Nat.mod_lt _ zero, ⟨Nat.le_refl 1, zero⟩, first _ _, zero, zero, zero⟩

theorem iterate_tick_valid (valid : time.Valid) (ticks : Nat) :
    (tick^[ticks] time).Valid := by
  induction ticks with
  | zero => exact valid
  | succ ticks ih =>
    rw [Function.iterate_succ_apply']
    exact tick_valid ih

theorem tick_second (valid : time.Valid) :
    time.tick.second = (time.second + 1) % 60 := by
  have second := valid.second
  unfold tick
  split_ifs with seconds minutes hours days months
  · exact (Nat.mod_eq_of_lt (Nat.succ_lt_succ seconds)).symm
  all_goals
    show 0 = _
    omega

/-- The seconds come round once a minute. -/
theorem iterate_tick_second (valid : time.Valid) (ticks : Nat) :
    (tick^[ticks] time).second = (time.second + ticks) % 60 := by
  induction ticks with
  | zero => exact (Nat.mod_eq_of_lt valid.second).symm
  | succ ticks ih =>
    rw [Function.iterate_succ_apply', tick_second (iterate_tick_valid valid ticks), ih]
    omega

end Calendar

end MuRockchip.Base
