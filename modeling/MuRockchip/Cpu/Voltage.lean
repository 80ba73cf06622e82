/-
The CPU clock and its supply (`CpuVoltageLib.c`, `ApplyVariables` of `ConfigDxe.c`).

The rate is changed through the SCMI clock protocol, the voltage through the
selector register of a regulator on the I2C bus. What each call reports and
whether it took effect are independent: a write that times out on the stop
condition has reached the regulator. Calls that change neither are answered by
the environment.

`ASSERT` halts a debug build and is nothing in a release build.
-/
import Mathlib.Logic.Function.Basic
import MuRockchip.Base.Prog
import MuRockchip.Uefi.Status

namespace MuRockchip.Cpu

open MuRockchip.Base

/-! ### The board -/

/-- The rate the CPU runs at and the registers of its regulator. -/
structure Board where
  rate : UInt64
  registers : UInt8 → UInt8

def vselReg : UInt8 := 0x11

def vselNselMask : UInt8 := 0x3f

/-- `VOLTAGE_BASE`, in microvolts. -/
def voltageBase : UInt32 := 600000

/-- `VOLTAGE_STEP`, in microvolts. -/
def voltageStep : UInt32 := 6250

def rampDelay : UInt32 := 2300

/-- The voltage a selector value stands for. -/
def selectedUVol (value : UInt8) : UInt32 :=
  (value &&& vselNselMask).toUInt32 * voltageStep + voltageBase

namespace Board

def vsel (board : Board) : UInt8 := board.registers vselReg

/-- The voltage the regulator supplies. -/
def uVol (board : Board) : UInt32 := selectedUVol board.vsel

def setRegister (board : Board) (register value : UInt8) : Board :=
  { board with registers := Function.update board.registers register value }

def setRate (board : Board) (rate : UInt64) : Board := { board with rate }

@[simp]
theorem rate_setRegister (board : Board) (register value : UInt8) :
    (board.setRegister register value).rate = board.rate := rfl

@[simp]
theorem vsel_setRegister (board : Board) (value : UInt8) :
    (board.setRegister vselReg value).vsel = value := by
  simp [vsel, setRegister]

@[simp]
theorem rate_setRate (board : Board) (rate : UInt64) : (board.setRate rate).rate = rate := rfl

@[simp]
theorem vsel_setRate (board : Board) (rate : UInt64) : (board.setRate rate).vsel = board.vsel :=
  rfl

@[simp]
theorem uVol_setRate (board : Board) (rate : UInt64) : (board.setRate rate).uVol = board.uVol :=
  rfl

@[simp]
theorem uVol_setRegister (board : Board) (value : UInt8) :
    (board.setRegister vselReg value).uVol = selectedUVol value := by
  simp [uVol]

end Board

/-! ### The environment -/

/-- How a call goes: what it reports, and whether it did its work although it
reports an error. -/
structure CallOutcome where
  status : EfiStatus
  effective : Bool

/-- A call that reports no error did its work. -/
def CallOutcome.takesEffect (outcome : CallOutcome) : Bool :=
  !outcome.status.isError || outcome.effective

/-- What `DescribeRates` answers: the buffer is what the caller finds in it. -/
structure RatesReply where
  status : EfiStatus
  discrete : Bool
  totalRates : UInt32
  buffer : UInt32 → UInt64

/-- One run's surroundings: the build, the answers of the calls, and what the
variables hold that are read before they are written. -/
structure Environment where
  asserts : Bool
  /-- `LocateProtocol` in `GetMinMaxCpuSpeed`, `GetCpuSpeed` and `SetCpuSpeed`. -/
  locateForRates : EfiStatus
  locateForGet : EfiStatus
  locateForSet : EfiStatus
  describeSize : RatesReply
  allocatesRates : Bool
  describeRates : RatesReply
  rateGet : EfiStatus
  rateSet : CallOutcome
  rateGetBack : EfiStatus
  readSelector : CallOutcome
  writeSelector : CallOutcome
  staleSpeedHz : UInt64
  staleOldValue : UInt8

/-- The calls that reach the clock or the regulator. -/
inductive BoardOp where
  | rateGet
  | rateSet (rate : UInt64)
  | i2cRead (register : UInt8)
  | i2cWrite (register value : UInt8)
  | stall (microseconds : UInt32)

/-- The interface of `ArmScmiClockProtocol`, `I2cLib` and `gBS->Stall`. A read that
delivers nothing leaves the variable as it is. -/
def boardCalls : Interface where
  Op := BoardOp
  Ret
    | .rateGet => EfiStatus × UInt64
    | .rateSet _ => EfiStatus
    | .i2cRead _ => EfiStatus × Option UInt8
    | .i2cWrite _ _ => EfiStatus
    | .stall _ => Unit

def Environment.answer (env : Environment) :
    (op : BoardOp) → Board → boardCalls.Ret op × Board
  | .rateGet, board => ((env.rateGet, board.rate), board)
  | .rateSet rate, board =>
    (env.rateSet.status, if env.rateSet.takesEffect then board.setRate rate else board)
  | .i2cRead register, board =>
    ((env.readSelector.status,
      if env.readSelector.takesEffect then some (board.registers register) else none), board)
  | .i2cWrite register value, board =>
    (env.writeSelector.status,
      if env.writeSelector.takesEffect then board.setRegister register value else board)
  | .stall _, board => ((), board)

def Environment.handler (env : Environment) : Handler boardCalls Board :=
  fun op board => some (env.answer op board)

/-- `CpuDeadLoop`. -/
inductive Halt where
  | deadLoop

/-- A program of the driver. It stops only at an assertion. -/
abbrev BoardM : Type → Type := Prog boardCalls Halt

def call (op : boardCalls.Op) : BoardM (boardCalls.Ret op) := Prog.invoke op

def assert (env : Environment) (condition : Bool) : BoardM Unit :=
  if env.asserts && !condition then .fail .deadLoop else pure ()

/-! ### `CpuVoltageLib` -/

/-- `mCpuVoltageOpp`, without its terminator. -/
def cpuVoltageOpp : List (UInt64 × UInt32) :=
  [(1200000000, 825000), (1416000000, 900000), (1608000000, 975000), (1800000000, 1050000),
    (1992000000, 1150000)]

def cpuVoltageHzToUVol (hz : UInt64) : Option UInt32 :=
  (cpuVoltageOpp.find? fun opp => hz ≤ opp.1).map Prod.snd

/-- The value `CpuVoltageSet` writes: the quotient is or-ed into the register. -/
def selectorValue (oldValue : UInt8) (newUVol : UInt32) : UInt8 :=
  ((oldValue &&& ~~~vselNselMask).toUInt32 ||| (newUVol - voltageBase) / voltageStep).toUInt8

/-- How long the regulator takes to ramp, in microseconds. -/
def rampTime (curUVol newUVol : UInt32) : UInt32 :=
  (if newUVol < curUVol then curUVol - newUVol else newUVol - curUVol) / voltageStep * rampDelay

/-- `CpuVoltageSet`. The status of the write is not looked at. -/
def cpuVoltageSet (env : Environment) (hz : UInt64) : BoardM EfiStatus :=
  match cpuVoltageHzToUVol hz with
  | none => pure EfiStatus.unsupported
  | some newUVol => do
    let read ← call (.i2cRead vselReg)
    assert env (read.1 == EfiStatus.success)
    let oldValue := read.2.getD env.staleOldValue
    let curUVol := selectedUVol oldValue
    if curUVol = newUVol then
      pure EfiStatus.success
    else
      let _ ← call (.i2cWrite vselReg (selectorValue oldValue newUVol))
      let _ ← call (.stall (rampTime curUVol newUVol))
      pure EfiStatus.success

/-! ### `ConfigDxe` -/

/-- `PcdCpuClock` and `PcdCustomCpuClock`. -/
structure Settings where
  cpuClock : UInt32
  customCpuClock : UInt32

/-- How a function ends that does not return its value. -/
inductive Exit where
  | halted
  | failed (status : EfiStatus)

/-- `ASSERT` before a failure is returned. -/
def Environment.giveUp (env : Environment) (status : EfiStatus) : Exit :=
  if env.asserts then .halted else .failed status

def getMinMaxCpuSpeed (env : Environment) (minSpeed : Bool) : Except Exit UInt64 :=
  let size := env.describeSize
  if env.locateForRates.isError then
    throw (env.giveUp env.locateForRates)
  else if size.status.isError && size.status != EfiStatus.bufferTooSmall then
    throw (env.giveUp size.status)
  else if size.status != EfiStatus.bufferTooSmall || size.totalRates == 0 || !size.discrete then
    throw (env.giveUp EfiStatus.deviceError)
  else if !env.allocatesRates then
    throw (env.giveUp EfiStatus.outOfResources)
  else if env.describeRates.status.isError then
    throw (env.giveUp env.describeRates.status)
  else
    pure (env.describeRates.buffer (if minSpeed then 0 else env.describeRates.totalRates - 1))

def getCpuSpeed (env : Environment) : BoardM (Except EfiStatus UInt64) := do
  if env.locateForGet.isError then
    assert env false
    pure (.error env.locateForGet)
  else
    let reply ← call .rateGet
    if reply.1.isError then
      assert env false
      pure (.error reply.1)
    else
      pure (.ok reply.2)

def setCpuSpeed (env : Environment) (cpuRate : UInt64) : BoardM EfiStatus := do
  if env.locateForSet.isError then
    assert env false
    pure env.locateForSet
  else
    let status ← call (.rateSet cpuRate)
    if status.isError then
      assert env false
      pure status
    else if env.rateGetBack.isError then
      assert env false
      pure env.rateGetBack
    else
      pure EfiStatus.success

/-- The switch of `ApplyVariables`: the rate the settings ask for, zero for none. A
value that is no case leaves the variable as it is. -/
def requestedSpeed (env : Environment) (settings : Settings) : Except Exit UInt64 :=
  if settings.cpuClock = 1 then
    pure 0
  else if settings.cpuClock = 0 ∨ settings.cpuClock = 2 then
    match getMinMaxCpuSpeed env (settings.cpuClock == 0) with
    | .ok speedHz => pure speedHz
    | .error .halted => throw .halted
    | .error (.failed _) => pure 0
  else if settings.cpuClock = 3 then
    pure (settings.customCpuClock.toUInt64 * 1000000)
  else
    pure env.staleSpeedHz

/-- The end of `ApplyVariables`: the order of the two changes depends on the
direction, and the statuses are not looked at. -/
def changeSpeed (env : Environment) (curSpeedHz speedHz : UInt64) : BoardM Unit := do
  if curSpeedHz < speedHz then
    let _ ← cpuVoltageSet env speedHz
  let _ ← setCpuSpeed env speedHz
  if speedHz < curSpeedHz then
    let _ ← cpuVoltageSet env speedHz

/-- `ApplyVariables`, its CPU clock settings. -/
def applyVariables (env : Environment) (settings : Settings) : BoardM Unit := do
  match requestedSpeed env settings with
  | .error _ => .fail .deadLoop
  | .ok speedHz =>
    match ← getCpuSpeed env with
    | .error _ => pure ()
    | .ok curSpeedHz => if speedHz = 0 then pure () else changeSpeed env curSpeedHz speedHz

end MuRockchip.Cpu
