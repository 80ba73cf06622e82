/-
The clock of the power management chip of the RK3399 boards (`Rk808RealTimeClockLib.c`).

The registers of the time are read and written in one transfer. Months are written one above
what they are and read one below, which comes out even, but leaves December with a month of
thirteen in the chip. The weekday is whatever stood on the stack, and the wrappers of the
transfers report none that fails.

* `libGetTime_libSetTime_iff`: when the chip gives back the time that was set.
* `keepsTime_iff`: when all is as it should be.
-/
import Mathlib.Data.Nat.Bitwise
import Mathlib.Data.UInt
import Mathlib.Tactic.NormNum
import MuRockchip.Base.Bcd
import MuRockchip.Base.ProgCalls
import MuRockchip.Rtc.EfiTime
import MuRockchip.Uefi.Status

namespace MuRockchip.Rtc.Rk808

open Base Base.Prog

/-! ### The bus -/

/-- Transfers with the chip. -/
inductive I2cOp
  | read (register : UInt8) (length : Nat)
  | write (register : UInt8) (bytes : List UInt8)

/-- A transfer answers whether it succeeded; one that reads, with what the buffer holds then. -/
def i2c : Interface where
  Op := I2cOp
  Ret
    | .read _ length => Bool × (Fin length → UInt8)
    | .write _ _ => Bool

abbrev Driver (α : Type) : Type := Prog i2c Empty α

/-- `I2CRead` and `I2CWrite`. -/
def i2cRead (register : UInt8) (length : Nat) : Driver (Bool × (Fin length → UInt8)) :=
  @invoke i2c Empty (I2cOp.read register length)

def i2cWrite (register : UInt8) (bytes : List UInt8) : Driver Bool :=
  @invoke i2c Empty (I2cOp.write register bytes)

/-! ### The registers -/

def rk808SecondsReg : UInt8 := 0x00
def rk808MinutesReg : UInt8 := 0x01
def rk808HoursReg : UInt8 := 0x02
def rk808DaysReg : UInt8 := 0x03
def rk808MonthsReg : UInt8 := 0x04
def rk808YearsReg : UInt8 := 0x05
def rk808WeeksReg : UInt8 := 0x06
def rk808RtcCtrlReg : UInt8 := 0x10
def rk808DcdcEnReg : UInt8 := 0x23

abbrev numTimeRegs : Nat := 7

def secondsRegMsk : UInt8 := 0x7f
def minutesRegMsk : UInt8 := 0x7f
def hoursRegMsk : UInt8 := 0x3f
def daysRegMsk : UInt8 := 0x3f
def monthsRegMsk : UInt8 := 0x1f
def yearsRegMsk : UInt8 := 0xff

def bitRtcCtrlRegStopRtcM : UInt8 := 0x01

/-- The registers that the initialization only prints. -/
def dumpedRegs : List UInt8 :=
  [0x2f, 0x33, 0x38, 0x23, 0x24, 0x3b, 0x3d, 0x3f, 0x41, 0x43, 0x45, 0x47, 0x49]

def bcd2bin (val : UInt8) : UInt8 := (val &&& 0x0f) + (val >>> (4 : UInt8)) * 10

/-- `BIN2BCD`, of an `int`. -/
def bin2bcd (val : Int) : UInt8 := UInt8.ofInt (val.tdiv 10 * 16 + val.tmod 10)

/-! ### The driver -/

/-- `Rk808I2CRead`: the status of the transfer goes nowhere. -/
def rk808I2cRead (register : UInt8) (length : Nat) :
    Driver (EfiStatus × (Fin length → UInt8)) := do
  let answer ← i2cRead register length
  pure (EfiStatus.success, answer.2)

def rk808I2cWrite (register : UInt8) (bytes : List UInt8) : Driver EfiStatus := do
  let _ ← i2cWrite register bytes
  pure EfiStatus.success

/-- Reading registers to print them, with the status of the last. -/
def dump : List UInt8 → EfiStatus → Driver EfiStatus
  | [], status => pure status
  | register :: registers, _ => do
    let read ← rk808I2cRead register 1
    dump registers read.1

def initializeRk808 : Driver EfiStatus := do
  let read ← rk808I2cRead rk808DcdcEnReg 1
  let ret := read.2 0 ||| 0x20 ||| 0x40
  let _ ← rk808I2cWrite rk808DcdcEnReg [ret]
  dump dumpedRegs read.1

/-- What the library remembers of the initialization. -/
def ensureInitialized (initialized : Bool) : Driver EfiStatus :=
  if initialized then pure EfiStatus.success else initializeRk808

/-- The time in the bytes of the registers. -/
def decodeTime (rtcData : Fin numTimeRegs → UInt8) : EfiTime where
  second := bcd2bin (rtcData 0 &&& secondsRegMsk)
  minute := bcd2bin (rtcData 1 &&& minutesRegMsk)
  hour := bcd2bin (rtcData 2 &&& hoursRegMsk)
  day := bcd2bin (rtcData 3 &&& daysRegMsk)
  month := bcd2bin (rtcData 4 &&& monthsRegMsk) - 1
  year := (bcd2bin (rtcData 5 &&& yearsRegMsk)).toUInt16 + 2000
  nanosecond := 0
  daylight := 0
  timeZone := efiUnspecifiedTimezone

/-- The bytes that `LibSetTime` writes. The last one is never set. -/
def encodeTime (time : EfiTime) (stack : UInt8) : List UInt8 :=
  [ bin2bcd time.second.toNat, bin2bcd time.minute.toNat, bin2bcd time.hour.toNat,
    bin2bcd time.day.toNat, bin2bcd (time.month.toNat + 1), bin2bcd (time.year.toNat - 2000),
    stack ]

section

variable (isTimeValid : EfiTime → Bool)

/-- `LibGetTime`, where there is a place for the time. -/
def libGetTime (initialized : Bool) (place : Option EfiTime) :
    Driver (EfiStatus × Option EfiTime) :=
  match place with
  | none => pure (EfiStatus.invalidParameter, none)
  | some place => do
    let status ← ensureInitialized initialized
    if status.isError then pure (EfiStatus.notReady, some place)
    else do
      let read ← rk808I2cRead rk808SecondsReg numTimeRegs
      let time := decodeTime read.2
      if status.isError || !isTimeValid time then pure (EfiStatus.deviceError, some time)
      else pure (EfiStatus.success, some time)

/-- `LibSetTime`, with the byte of the stack that stands for the weekday. -/
def libSetTime (initialized : Bool) (stack : UInt8) (time : EfiTime) : Driver EfiStatus :=
  if !isTimeValid time then pure EfiStatus.invalidParameter
  else do
    let status ← ensureInitialized initialized
    if status.isError then pure status
    else do
      let rtcData := encodeTime time stack
      let _ ← rk808I2cRead rk808RtcCtrlReg 1
      let ctl ← rk808I2cRead rk808RtcCtrlReg 1
      let _ ← rk808I2cWrite rk808RtcCtrlReg [ctl.2 0 ||| bitRtcCtrlRegStopRtcM]
      let _ ← rk808I2cWrite rk808SecondsReg rtcData
      let _ ← rk808I2cRead rk808RtcCtrlReg 1
      let ctl ← rk808I2cRead rk808RtcCtrlReg 1
      let _ ← rk808I2cWrite rk808RtcCtrlReg [ctl.2 0 &&& ~~~bitRtcCtrlRegStopRtcM]
      pure status

end

/-! ### Decimal digits -/

theorem bin2bcd_toNat {val : Nat} (small : val < 100) :
    (bin2bcd val).toNat = val / 10 * 16 + val % 10 := by
  have whole : (val : Int).tdiv 10 * 16 + (val : Int).tmod 10 =
      ((val / 10 * 16 + val % 10 : Nat) : Int) := by
    rw [Int.tdiv_eq_ediv_of_nonneg (Int.natCast_nonneg val), Int.tmod_eq_emod_of_nonneg
      (Int.natCast_nonneg val)]
    push_cast
    rfl
  rw [bin2bcd, whole, UInt8.ofInt, UInt8.toNat_ofNat']
  omega

theorem bcd2bin_toNat {val : UInt8} (digits : IsBcd val) :
    (bcd2bin val).toNat = val.toNat / 16 * 10 + val.toNat % 16 := by
  obtain ⟨high, low⟩ := digits
  rw [bcd2bin, UInt8.toNat_add, UInt8.toNat_mul, UInt8.toNat_and, UInt8.toNat_shiftRight]
  show ((val.toNat &&& 2 ^ 4 - 1) + (val.toNat >>> 4) * 10 % 256) % 256 = _
  rw [Nat.and_two_pow_sub_one_eq_mod, Nat.shiftRight_eq_div_pow]
  omega

/-- The macros are conversions. -/
def rk808Bcd : BcdConversions where
  toDecimal := bcd2bin
  ofDecimal value := bin2bcd value.toNat
  toDecimal_toNat _ digits := bcd2bin_toNat digits
  ofDecimal_toNat _ small := bin2bcd_toNat small

/-! ### Runs -/

/-- A bus that answers every transfer. -/
abbrev Bus (σ : Type) : Type := (op : I2cOp) → σ → i2c.Ret op × σ

/-- A transfer always ends. -/
def Bus.handler {σ : Type} (bus : Bus σ) : Handler i2c σ := fun op state => some (bus op state)

/-- A transfer that failed. -/
def Failed : Made i2c → Prop
  | ⟨.read _ _, some (moved, _)⟩ => moved = false
  | ⟨.write _ _, some moved⟩ => moved = false
  | ⟨_, none⟩ => False

section

variable {σ : Type} (bus : Bus σ)

theorem exec_rk808I2cRead (register : UInt8) (length : Nat) (state : σ) :
    (rk808I2cRead register length).exec bus.handler state =
      some (.ok (EfiStatus.success, (bus (.read register length) state).1.2),
        (bus (.read register length) state).2) := rfl

theorem exec_rk808I2cWrite (register : UInt8) (bytes : List UInt8) (state : σ) :
    (rk808I2cWrite register bytes).exec bus.handler state =
      some (.ok EfiStatus.success, (bus (.write register bytes) state).2) := rfl

/-- No failure of the initialization shows. -/
theorem dump_success (registers : List UInt8) (state : σ) :
    ∃ after, (dump registers EfiStatus.success).exec bus.handler state =
      some (.ok EfiStatus.success, after) := by
  induction registers generalizing state with
  | nil => exact ⟨state, rfl⟩
  | cons register registers ih =>
    rw [dump, exec_bind_ok (exec_rk808I2cRead bus register 1 state)]
    exact ih _

theorem ensureInitialized_success (initialized : Bool) (state : σ) :
    ∃ after, (ensureInitialized initialized).exec bus.handler state =
      some (.ok EfiStatus.success, after) := by
  cases initialized with
  | true => exact ⟨state, rfl⟩
  | false =>
    rw [ensureInitialized, if_neg (by decide), initializeRk808,
      exec_bind_ok (exec_rk808I2cRead bus rk808DcdcEnReg 1 state),
      exec_bind_ok (exec_rk808I2cWrite bus rk808DcdcEnReg _ _)]
    exact dump_success bus dumpedRegs _

end

/-- The initialization reads no more than a register at a time. -/
def Initializes : I2cOp → Prop
  | .read _ length => length = 1
  | .write register bytes => register = rk808DcdcEnReg ∧ bytes.length = 1

theorem dump_all (registers : List UInt8) (status : EfiStatus) :
    (dump registers status).All Initializes := by
  induction registers generalizing status with
  | nil => trivial
  | cons register registers ih => exact ⟨rfl, fun answer => ih _⟩

theorem ensureInitialized_all (initialized : Bool) :
    (ensureInitialized initialized).All Initializes := by
  cases initialized with
  | true => trivial
  | false => exact ⟨rfl, fun _ => ⟨⟨rfl, rfl⟩, fun _ => dump_all dumpedRegs EfiStatus.success⟩⟩

/-! ### Reading the time -/

section

variable {σ : Type} (bus : Bus σ) {isTimeValid : EfiTime → Bool}

/-- What is returned is decided by the bytes of the last transfer alone. -/
theorem libGetTime_run (initialized : Bool) (place : EfiTime) (state : σ) :
    ∃ answer : Bool × (Fin numTimeRegs → UInt8), ∃ after,
      (libGetTime isTimeValid initialized (some place)).exec bus.handler state =
          some (.ok (if isTimeValid (decodeTime answer.2) then EfiStatus.success
            else EfiStatus.deviceError, some (decodeTime answer.2)), after) ∧
        (libGetTime isTimeValid initialized (some place)).made bus.handler state =
          (ensureInitialized initialized).made bus.handler state ++
            [⟨.read rk808SecondsReg numTimeRegs, some answer⟩] := by
  obtain ⟨between, ready⟩ := ensureInitialized_success bus initialized state
  refine ⟨(bus (.read rk808SecondsReg numTimeRegs) between).1,
    (bus (.read rk808SecondsReg numTimeRegs) between).2, ?_, ?_⟩
  · rw [libGetTime, exec_bind_ok ready]
    show ((if EfiStatus.success.isError || !isTimeValid (decodeTime _) then
        pure (EfiStatus.deviceError, some (decodeTime _))
      else pure (EfiStatus.success, some (decodeTime _))) : Driver _).exec bus.handler _ = _
    cases isTimeValid (decodeTime
      (bus (.read rk808SecondsReg numTimeRegs) between).1.2) <;> rfl
  · rw [libGetTime, made_bind, ready]
    refine congrArg (_ ++ ·) ?_
    show [_] ++ ((if EfiStatus.success.isError || !isTimeValid (decodeTime _) then
        pure (EfiStatus.deviceError, some (decodeTime _))
      else pure (EfiStatus.success, some (decodeTime _))) : Driver _).made bus.handler _ = _
    cases isTimeValid (decodeTime
      (bus (.read rk808SecondsReg numTimeRegs) between).1.2) <;> rfl

theorem libSetTime_run {time : EfiTime} (valid : isTimeValid time = true) (initialized : Bool)
    (stack : UInt8) (state : σ) :
    ∃ after, (libSetTime isTimeValid initialized stack time).exec bus.handler state =
      some (.ok EfiStatus.success, after) := by
  obtain ⟨between, ready⟩ := ensureInitialized_success bus initialized state
  rw [libSetTime, if_neg (by rw [valid]; decide), exec_bind_ok ready]
  exact ⟨_, rfl⟩

end

/-! ### The chip -/

abbrev Registers : Type := UInt8 → UInt8

def store (registers : Registers) (register : UInt8) (bytes : List UInt8) : Registers :=
  fun other => bytes.getD (other - register).toNat (registers other)

/-- A chip that does what it is told. -/
def chip : Bus Registers
  | .read register _, registers =>
    ((true, fun index => registers (register + UInt8.ofNat index)), registers)
  | .write register bytes, registers => (true, store registers register bytes)

theorem libSetTime_chip {isTimeValid : EfiTime → Bool} {time : EfiTime}
    (valid : isTimeValid time = true) (initialized : Bool) (stack : UInt8)
    (registers : Registers) :
    ∃ after, (libSetTime isTimeValid initialized stack time).exec chip.handler registers =
        some (.ok EfiStatus.success, after) ∧
      ∀ index : Fin numTimeRegs, after (rk808SecondsReg + UInt8.ofNat index) =
        (encodeTime time stack).get index := by
  obtain ⟨between, ready⟩ := ensureInitialized_success chip initialized registers
  rw [libSetTime, if_neg (by rw [valid]; decide), exec_bind_ok ready]
  refine ⟨_, rfl, fun index => ?_⟩
  match index with
  | 0 | 1 | 2 | 3 | 4 | 5 | 6 => rfl

/-- The digits of a number are read back through a mask that covers them. -/
theorem bcd2bin_masked {value mask : UInt8} {width : Nat} (small : value.toNat < 100)
    (covers : mask.toNat = 2 ^ width - 1) (fits : value.toNat / 10 * 16 + 15 < 2 ^ width) :
    bcd2bin (bin2bcd value.toNat &&& mask) = value := by
  have kept := rk808Bcd.ofDecimal_and small covers fits
  change bin2bcd value.toNat &&& mask = bin2bcd value.toNat at kept
  rw [kept]
  exact rk808Bcd.toDecimal_ofDecimal small

/-- The time that the bytes of a time give: the offset of the months comes out even. -/
theorem decodeTime_encodeTime {time : EfiTime} (valid : time.Valid)
    (years : 2000 ≤ time.year.toNat ∧ time.year.toNat ≤ 2099) (stack : UInt8) :
    decodeTime (fun index => (encodeTime time stack).get index) =
      { time with nanosecond := 0, daylight := 0, timeZone := efiUnspecifiedTimezone } := by
  have length := Calendar.daysIn_bounds time.year.toNat time.month.toNat
  obtain ⟨month, day, hour, minute, second, -⟩ := valid
  have next : (time.month + 1).toNat = time.month.toNat + 1 := by
    rw [UInt8.toNat_add]
    show (time.month.toNat + 1) % 256 = _
    omega
  have since : (UInt8.ofNat (time.year.toNat - 2000)).toNat = time.year.toNat - 2000 :=
    UInt8.toNat_ofNat_of_lt' (by show _ < 256; omega)
  have months : bcd2bin (bin2bcd (time.month.toNat + 1) &&& monthsRegMsk) - 1 = time.month := by
    have same := @bcd2bin_masked (time.month + 1) monthsRegMsk 5 (by omega) rfl (by omega)
    rw [next] at same
    push_cast at same
    rw [same]
    exact UInt8.add_sub_cancel _ _
  have years' : (bcd2bin (bin2bcd (time.year.toNat - 2000) &&& yearsRegMsk)).toUInt16 + 2000 =
      time.year := by
    have same := @bcd2bin_masked (UInt8.ofNat (time.year.toNat - 2000)) yearsRegMsk 8 (by omega)
      rfl (by omega)
    rw [since, Int.ofNat_sub years.1] at same
    refine UInt16.toNat_inj.mp ?_
    rw [show ((2000 : Nat) : Int) = 2000 from rfl] at same
    rw [same, UInt16.toNat_add, UInt8.toNat_toUInt16, since]
    show (time.year.toNat - 2000 + 2000) % 65536 = _
    omega
  have days := @bcd2bin_masked time.day daysRegMsk 6 (by omega) rfl (by omega)
  have hours := @bcd2bin_masked time.hour hoursRegMsk 6 (by omega) rfl (by omega)
  have minutes := @bcd2bin_masked time.minute minutesRegMsk 7 (by omega) rfl (by omega)
  have seconds := @bcd2bin_masked time.second secondsRegMsk 7 (by omega) rfl (by omega)
  show (⟨_, _, _, _, _, _, _, _, _⟩ : EfiTime) = ⟨_, _, _, _, _, _, _, _, _⟩
  rw [EfiTime.mk.injEq]
  exact ⟨years', months, days, hours, minutes, seconds, rfl, rfl, rfl⟩

/-- The service of the library that checks a time is what is specified for it, for the years of
the chip. -/
structure TimeBase where
  isTimeValid : EfiTime → Bool
  isTimeValid_iff : ∀ time : EfiTime, 2000 ≤ time.year.toNat → time.year.toNat ≤ 2099 →
    (isTimeValid time = true ↔ time.Valid)

/-- A valid time in the years of the chip. -/
structure Supported (time : EfiTime) : Prop where
  valid : time.Valid
  years : 2000 ≤ time.year.toNat ∧ time.year.toNat ≤ 2099

section

variable (timeBase : TimeBase) (weekday : UInt8 → Prop)

theorem TimeBase.supported {timeBase : TimeBase} {time : EfiTime} (supported : Supported time) :
    timeBase.isTimeValid time = true :=
  (timeBase.isTimeValid_iff time supported.years.1 supported.years.2).mpr supported.valid

/-! ### What is written -/

/-- Two decimal digits of a number in a range. -/
def DigitsIn (low high : Nat) (value : UInt8) : Prop :=
  IsBcd value ∧ low ≤ value.toNat / 16 * 10 + value.toNat % 16 ∧
    value.toNat / 16 * 10 + value.toNat % 16 ≤ high

/-- What a register of the time may hold. -/
def ValidAt (register value : UInt8) : Prop :=
  if register = rk808SecondsReg ∨ register = rk808MinutesReg then DigitsIn 0 59 value
  else if register = rk808HoursReg then DigitsIn 0 23 value
  else if register = rk808DaysReg then DigitsIn 1 31 value
  else if register = rk808MonthsReg then DigitsIn 1 12 value
  else if register = rk808YearsReg then DigitsIn 0 99 value
  else if register = rk808WeeksReg then weekday value
  else True

/-- A transfer writes nothing to the registers of the time that a calendar does not have. -/
def CalendarValid : I2cOp → Prop
  | .read _ _ => True
  | .write register bytes =>
    ∀ index value, bytes[index]? = some value →
      ValidAt weekday (register + UInt8.ofNat index) value

theorem digitsIn_bin2bcd {low high val : Nat} (small : val < 100) :
    DigitsIn low high (bin2bcd val) ↔ low ≤ val ∧ val ≤ high := by
  have digits := bin2bcd_toNat small
  rw [DigitsIn, IsBcd, digits]
  omega

theorem calendarValid_one {register : UInt8} {bytes : List UInt8}
    (other : register = rk808DcdcEnReg ∨ register = rk808RtcCtrlReg) (one : bytes.length = 1) :
    CalendarValid weekday (.write register bytes) := by
  intro index value here
  obtain ⟨first, rfl⟩ := List.length_eq_one_iff.mp one
  obtain rfl : index = 0 := by
    obtain ⟨small, -⟩ := List.getElem?_eq_some_iff.mp here
    exact Nat.lt_one_iff.mp small
  rcases other with rfl | rfl <;> trivial

variable {time : EfiTime}

theorem calendarValid_encodeTime (supported : Supported time) (stack : UInt8) :
    CalendarValid weekday (.write rk808SecondsReg (encodeTime time stack)) ↔
      time.month ≠ 12 ∧ weekday stack := by
  obtain ⟨⟨month, day, hour, minute, second, -⟩, years⟩ := supported
  have length := Calendar.daysIn_bounds time.year.toNat time.month.toNat
  have months : DigitsIn 1 12 (bin2bcd (time.month.toNat + 1)) ↔ time.month ≠ 12 := by
    have twelve : time.month = 12 ↔ time.month.toNat = 12 := UInt8.toNat_inj.symm
    refine (@digitsIn_bin2bcd 1 12 (time.month.toNat + 1) (by omega)).trans ?_
    rw [ne_eq, twelve]
    omega
  have since : ((time.year.toNat : Int) - 2000) = ((time.year.toNat - 2000 : Nat) : Int) := by
    omega
  constructor
  · intro valid
    exact ⟨months.mp (valid 4 _ rfl), valid 6 _ rfl⟩
  · rintro ⟨december, known⟩ index value here
    match index with
    | 0 => exact Option.some.inj here ▸ (digitsIn_bin2bcd (by omega)).mpr ⟨Nat.zero_le _, second⟩
    | 1 => exact Option.some.inj here ▸ (digitsIn_bin2bcd (by omega)).mpr ⟨Nat.zero_le _, minute⟩
    | 2 => exact Option.some.inj here ▸ (digitsIn_bin2bcd (by omega)).mpr ⟨Nat.zero_le _, hour⟩
    | 3 => exact Option.some.inj here ▸ (digitsIn_bin2bcd (by omega)).mpr ⟨day.1, by omega⟩
    | 4 => exact Option.some.inj here ▸ months.mpr december
    | 5 =>
      cases here
      show DigitsIn 0 99 (bin2bcd (time.year.toNat - 2000))
      rw [since]
      exact (digitsIn_bin2bcd (by omega)).mpr ⟨Nat.zero_le _, by omega⟩
    | 6 => exact Option.some.inj here ▸ known
    | _ + 7 => cases here

theorem libSetTime_all_iff (supported : Supported time) (initialized : Bool) (stack : UInt8) :
    (libSetTime timeBase.isTimeValid initialized stack time).All (CalendarValid weekday) ↔
      time.month ≠ 12 ∧ weekday stack := by
  rw [← calendarValid_encodeTime weekday supported stack, libSetTime,
    if_neg (by rw [TimeBase.supported supported]; decide)]
  constructor
  · intro every
    obtain ⟨between, ready⟩ := ensureInitialized_success chip initialized fun _ => 0
    have rest := every.of_bind ready
    exact (((rest.2 (true, fun _ => 0)).2 (true, fun _ => 0)).2 true).1
  · intro valid
    have control (bytes : List UInt8) (one : bytes.length = 1) :
        CalendarValid weekday (.write rk808RtcCtrlReg bytes) :=
      calendarValid_one weekday (Or.inr rfl) one
    refine all_bind ((ensureInitialized_all initialized).mono ?_) fun status => all_ite trivial ?_
    · rintro (_ | _) initializes
      · trivial
      · exact calendarValid_one weekday (Or.inl initializes.1) initializes.2
    · exact ⟨trivial, fun _ => ⟨trivial, fun _ => ⟨control _ rfl, fun _ => ⟨valid, fun _ =>
        ⟨trivial, fun _ => ⟨trivial, fun _ => ⟨control _ rfl, fun _ => trivial⟩⟩⟩⟩⟩⟩⟩

/-! ### What is read back -/

def ReadsBack (initialized : Bool) (stack : UInt8) (time : EfiTime) : Prop :=
  ∀ registers place, ∃ after last,
    (libSetTime timeBase.isTimeValid initialized stack time).exec chip.handler registers =
        some (.ok EfiStatus.success, after) ∧
      (libGetTime timeBase.isTimeValid true (some place)).exec chip.handler after =
        some (.ok (EfiStatus.success, some time), last)

/-- The fields that the chip does not keep are the ones that are always read. -/
def KeptByNone (time : EfiTime) : Prop :=
  time.nanosecond = 0 ∧ time.daylight = 0 ∧ time.timeZone = efiUnspecifiedTimezone

/-- Only the fields that the chip does not keep are lost. -/
theorem libGetTime_libSetTime (supported : Supported time) (initialized : Bool) (stack : UInt8)
    (registers : Registers) (place : EfiTime) :
    ∃ after last,
      (libSetTime timeBase.isTimeValid initialized stack time).exec chip.handler registers =
          some (.ok EfiStatus.success, after) ∧
        (libGetTime timeBase.isTimeValid true (some place)).exec chip.handler after =
          some (.ok (EfiStatus.success, some
            { time with
              nanosecond := 0, daylight := 0, timeZone := efiUnspecifiedTimezone }), last) := by
  obtain ⟨after, set, held⟩ :=
    libSetTime_chip (TimeBase.supported supported) initialized stack registers
  refine ⟨after, after, set, ?_⟩
  have decoded := decodeTime_encodeTime supported.valid supported.years stack
  rw [← (congrArg decodeTime (funext held) : decodeTime (fun index =>
    after (rk808SecondsReg + UInt8.ofNat index)) = _)] at decoded
  have valid : timeBase.isTimeValid
      { time with nanosecond := 0, daylight := 0, timeZone := efiUnspecifiedTimezone } = true := by
    obtain ⟨⟨month, day, hour, minute, second, -, -, -⟩, years⟩ := supported
    exact TimeBase.supported ⟨⟨month, day, hour, minute, second, Nat.zero_le _, Or.inl rfl,
      Nat.zero_le _⟩, years⟩
  show ((if EfiStatus.success.isError || !timeBase.isTimeValid
      (decodeTime fun index => after (rk808SecondsReg + UInt8.ofNat index)) then
      pure (EfiStatus.deviceError, some (decodeTime _))
    else pure (EfiStatus.success, some (decodeTime fun index =>
      after (rk808SecondsReg + UInt8.ofNat index)))) : Driver _).exec chip.handler after = _
  rw [decoded, valid]
  rfl

theorem readsBack_iff (supported : Supported time) (initialized : Bool)
    (stack : UInt8) : ReadsBack timeBase initialized stack time ↔ KeptByNone time := by
  constructor
  · intro back
    obtain ⟨after, last, set, get⟩ := back (fun _ => 0) time
    obtain ⟨after', last', set', get'⟩ :=
      libGetTime_libSetTime timeBase supported initialized stack (fun _ => 0) time
    rw [set] at set'
    cases set'
    rw [get] at get'
    have same := congrArg (fun run => run.map fun ended :
      Except Empty (EfiStatus × Option EfiTime) ×
      Registers => ended.1) get'
    simp only [Option.map_some, Option.some.injEq, Except.ok.injEq, Prod.mk.injEq, true_and] at same
    exact ⟨congrArg EfiTime.nanosecond same, congrArg EfiTime.daylight same,
      congrArg EfiTime.timeZone same⟩
  · rintro ⟨nanosecond, daylight, timeZone⟩ registers place
    obtain ⟨after, last, set, get⟩ :=
      libGetTime_libSetTime timeBase supported initialized stack registers place
    refine ⟨after, last, set, ?_⟩
    rw [get, ← nanosecond, ← daylight, ← timeZone]

/-! ### What is reported -/

section

variable {σ : Type} (bus : Bus σ)

/-- A run with a transfer that fails ends in an error. -/
def Reports {α : Type} (program : Driver α) (status : α → EfiStatus) (state : σ) : Prop :=
  (∃ call ∈ program.made bus.handler state, Failed call) →
    ∀ value after, program.exec bus.handler state = some (.ok value, after) →
      (status value).isError = true

theorem libSetTime_reports_iff {time : EfiTime} (supported : Supported time) (initialized : Bool)
    (stack : UInt8) (state : σ) :
    Reports bus (libSetTime timeBase.isTimeValid initialized stack time) id state ↔
      ∀ call ∈ (libSetTime timeBase.isTimeValid initialized stack time).made bus.handler state,
        ¬ Failed call := by
  obtain ⟨after, run⟩ :=
    libSetTime_run bus (@TimeBase.supported timeBase time supported) initialized stack state
  constructor
  · intro reports call listed failed
    have error := reports ⟨call, listed, failed⟩ _ after run
    exact absurd error (by decide)
  · rintro none ⟨call, listed, failed⟩
    exact absurd failed (none call listed)

/-- The transfer of the time. -/
def timeRead (answer : Bool × (Fin numTimeRegs → UInt8)) : Made i2c :=
  @Made.mk i2c (I2cOp.read rk808SecondsReg numTimeRegs) (some answer)

/-- The buffer that the transfer of the time leaves does not hold a valid one. -/
def LeavesInvalid (isTimeValid : EfiTime → Bool) (calls : List (Made i2c)) : Prop :=
  ∃ answer, timeRead answer ∈ calls ∧ isTimeValid (decodeTime answer.2) = false

theorem libGetTime_reports_iff (isTimeValid : EfiTime → Bool) (initialized : Bool)
    (place : EfiTime) (state : σ) :
    Reports bus (libGetTime isTimeValid initialized (some place)) Prod.fst state ↔
      ((∃ call ∈ (libGetTime isTimeValid initialized (some place)).made bus.handler state,
          Failed call) →
        LeavesInvalid isTimeValid
          ((libGetTime isTimeValid initialized (some place)).made bus.handler state)) := by
  obtain ⟨answer, after, run, calls⟩ := @libGetTime_run σ bus isTimeValid initialized place state
  have last (other : Bool × (Fin numTimeRegs → UInt8)) :
      timeRead other ∈ (libGetTime isTimeValid initialized (some place)).made bus.handler state ↔
        other = answer := by
    rw [calls, List.mem_append, List.mem_singleton]
    constructor
    · rintro (early | same)
      · have few : numTimeRegs = 1 := (ensureInitialized_all initialized).made state _ early
        exact absurd few (by decide)
      · cases same
        rfl
    · rintro rfl
      exact Or.inr rfl
  refine imp_congr_right fun _ => ?_
  constructor
  · intro reports
    refine ⟨answer, (last answer).mpr rfl, ?_⟩
    have error := reports _ after run
    cases valid : isTimeValid (decodeTime answer.2) with
    | false => rfl
    | true =>
      rw [valid] at error
      cases error
  · rintro ⟨other, listed, invalid⟩ value after' ran
    obtain rfl := (last other).mp listed
    rw [run, invalid] at ran
    cases ran
    rfl

/-! ### All of it -/

/-- A time is set and read as it should be, on a bus that may fail. -/
structure KeepsTime (time : EfiTime) (stack : UInt8) (initialized initialized' : Bool)
    (place : EfiTime) (setState getState : σ) : Prop where
  writes : (libSetTime timeBase.isTimeValid initialized stack time).All (CalendarValid weekday)
  readsBack : ReadsBack timeBase initialized stack time
  setReports : Reports bus (libSetTime timeBase.isTimeValid initialized stack time) id setState
  getReports : Reports bus (libGetTime timeBase.isTimeValid initialized' (some place)) Prod.fst
    getState

/-- When a time is set and read as it should be. -/
theorem keepsTime_iff {time : EfiTime} (supported : Supported time) (stack : UInt8)
    (initialized initialized' : Bool) (place : EfiTime) (setState getState : σ) :
    KeepsTime timeBase weekday bus time stack initialized initialized' place setState getState ↔
      (time.month ≠ 12 ∧ weekday stack) ∧ KeptByNone time ∧
        (∀ call ∈ (libSetTime timeBase.isTimeValid initialized stack time).made bus.handler
          setState, ¬ Failed call) ∧
        ((∃ call ∈ (libGetTime timeBase.isTimeValid initialized' (some place)).made bus.handler
            getState, Failed call) →
          LeavesInvalid timeBase.isTimeValid
            ((libGetTime timeBase.isTimeValid initialized' (some place)).made bus.handler
              getState)) := by
  rw [← libSetTime_all_iff timeBase weekday supported initialized stack,
    ← readsBack_iff timeBase supported initialized stack,
    ← libSetTime_reports_iff timeBase bus supported, ← libGetTime_reports_iff bus]
  exact ⟨fun keeps => ⟨keeps.writes, keeps.readsBack, keeps.setReports, keeps.getReports⟩,
    fun ⟨writes, back, set, get⟩ => ⟨writes, back, set, get⟩⟩

end

end

/-- The check of a time as it is specified. -/
def efiTimeBase : TimeBase where
  isTimeValid time := decide time.Valid
  isTimeValid_iff _ _ _ := decide_eq_true_iff

/-- A day in June, with a byte on the stack that is a weekday. -/
theorem keepsTime_june :
    let time : EfiTime := ⟨2022, 6, 15, 12, 30, 45, 0, efiUnspecifiedTimezone, 0⟩
    KeepsTime efiTimeBase (· ≤ 6) chip time 3 true true time (fun _ => 0) (fun _ => 0) ↔
      (time.month ≠ 12 ∧ (3 : UInt8) ≤ 6) ∧ KeptByNone time ∧
        (∀ call ∈ (libSetTime efiTimeBase.isTimeValid true 3 time).made chip.handler fun _ => 0,
          ¬ Failed call) ∧
        ((∃ call ∈ (libGetTime efiTimeBase.isTimeValid true (some time)).made chip.handler
            fun _ => 0, Failed call) →
          LeavesInvalid efiTimeBase.isTimeValid
            ((libGetTime efiTimeBase.isTimeValid true (some time)).made chip.handler
              fun _ => 0)) :=
  keepsTime_iff efiTimeBase (· ≤ 6) chip ⟨by decide, by decide⟩ 3 true true _ _ _

/-- A bus whose transfers all fail. -/
def deadBus : Bus Unit
  | .read _ _, state => ((false, fun _ => 0), state)
  | .write _ _, state => (false, state)

/-- December is written as the thirteenth month, and no failure of the bus shows. -/
theorem keepsTime_december :
    let december : EfiTime := ⟨2022, 12, 24, 18, 0, 0, 0, efiUnspecifiedTimezone, 0⟩
    let june : EfiTime := ⟨2022, 6, 15, 12, 30, 45, 0, efiUnspecifiedTimezone, 0⟩
    Supported december ∧ Supported june ∧
      ¬ KeepsTime efiTimeBase (· ≤ 6) chip december 3 true true december (fun _ => 0)
        (fun _ => 0) ∧
      ¬ KeepsTime efiTimeBase (· ≤ 6) deadBus june 3 true true june () () := by
  intro december june
  have valid : Supported december := ⟨by decide, by decide⟩
  have valid' : Supported june := ⟨by decide, by decide⟩
  refine ⟨valid, valid', fun keeps => ?_, fun keeps => ?_⟩
  · have written := (libSetTime_all_iff efiTimeBase (· ≤ 6) valid true 3).mp keeps.writes
    exact written.1 rfl
  · have none := (libSetTime_reports_iff efiTimeBase deadBus valid' true 3 ()).mp keeps.setReports
    rw [libSetTime, if_neg (by rw [TimeBase.supported valid']; decide)] at none
    exact none _ (List.Mem.head _) rfl

end MuRockchip.Rtc.Rk808
