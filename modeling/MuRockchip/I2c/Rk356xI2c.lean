/-
Transfers of the RK356x I2C controller (`I2cRead`, `I2cWrite`).

A transfer has a start, the bytes themselves and a stop, and each is waited for. The bytes go
through eight words of the controller.

* `i2cWait_iff`: when a wait succeeds.
* `i2cRead_outcome`, `i2cWrite_outcome`: what a transfer does, phase by phase.
* `transfers_idle_iff`: when transfers are done as they should be and leave the bus idle.
-/
import Mathlib.Tactic.IntervalCases
import MuRockchip.Base.Blocks
import MuRockchip.Base.Fields
import MuRockchip.Base.Polling
import MuRockchip.Base.Words
import MuRockchip.Uefi.Status

namespace MuRockchip.I2c.Rk356x

open Base

/-! ### The controller -/

/-- The waits of a transfer. -/
inductive I2cPhase where
  | start
  | transfer
  | stop

/-- What the controller shows: the reads of `IPD` in each wait, and the words received. -/
structure I2cDevice where
  ipd : I2cPhase → Nat → UInt32
  rxData : Nat → UInt32

def ack : UInt32 := 0x20
def stop : UInt32 := 0x10
def start : UInt32 := 0x08
def i2cModeTx : UInt32 := 0
def i2cModeRtx : UInt32 := 0x02
def i2cEn : UInt32 := 0x01
def nakRcvIpd : UInt32 := 0x40
def stopIpd : UInt32 := 0x20
def startIpd : UInt32 := 0x10
def mbrfIpd : UInt32 := 0x08
def mbtfIpd : UInt32 := 0x04
def addLVld : UInt32 := (1 : UInt32) <<< 24

/-- The initial value of `Timeout`. -/
def i2cTimeout : Nat := 100000

/-- Bytes whose number is a `UINT8`. -/
structure ShortBytes where
  bytes : List UInt8
  fits : bytes.length < 256

def ShortBytes.length (buffer : ShortBytes) : UInt8 := UInt8.ofNat buffer.bytes.length

/-! ### Waits -/

def i2cWait (ipd : Nat → UInt32) (mask : UInt32) : EfiStatus :=
  let ipdMask := mask ||| nakRcvIpd
  let value := ipd ((firstPoll (fun poll => ipd poll &&& ipdMask != 0) 0 i2cTimeout).getD
    (i2cTimeout - 1))
  if value &&& nakRcvIpd ≠ 0 then EfiStatus.deviceError
  else if value &&& mask ≠ 0 then EfiStatus.success
  else EfiStatus.timeout

/-- The last value of `CON`, of the values that were written to it. -/
def lastCon (con : List UInt32) : UInt32 := con.getLast?.getD 0

/-- `MmioOr32` and `MmioAnd32` of `CON`. -/
def conOr (con : List UInt32) (bits : UInt32) : List UInt32 := con ++ [lastCon con ||| bits]

def conAnd (con : List UInt32) (bits : UInt32) : List UInt32 := con ++ [lastCon con &&& bits]

/-- `I2cStart` and `I2cStop`: a bit of `CON` is set, waited for and cleared. -/
def i2cSignal (ipd : Nat → UInt32) (bit mask : UInt32) (con : List UInt32) :
    EfiStatus × List UInt32 :=
  let con := conOr con bit
  let status := i2cWait ipd mask
  if status.isError then (status, con) else (EfiStatus.success, conAnd con (~~~bit))

def i2cStart (device : I2cDevice) : List UInt32 → EfiStatus × List UInt32 :=
  i2cSignal (device.ipd .start) start startIpd

def i2cStop (device : I2cDevice) : List UInt32 → EfiStatus × List UInt32 :=
  i2cSignal (device.ipd .stop) stop stopIpd

/-- The write of `CON` in `I2cInit`. -/
def i2cInit : List UInt32 := [0]

/-! ### Reading -/

/-- What `I2cRead` returns and writes: the values of `CON`, the addresses of the chip and of the
register, the number of bytes asked for, and the buffer of the caller. -/
structure ReadOutcome where
  status : EfiStatus
  con : List UInt32
  mrxaddr : Option UInt32
  mrxraddr : Option UInt32
  mrxcnt : Option UInt8
  value : Option (List UInt8)
  deriving DecidableEq, Repr

/-- `Mrxraddr`. A shift of an `int` takes its count modulo 32. -/
def registerAddress (register : List UInt8) : UInt32 :=
  (register.zipIdx).foldl (fun mrxraddr (byte, index) =>
    mrxraddr ||| (byte.toUInt32 <<< UInt32.ofNat (index * 8)) |||
      (addLVld <<< UInt32.ofNat index)) 0

/-- The words that are read to `RxData`, which has eight. -/
def readRxData (device : I2cDevice) (words : Nat) : Option (List UInt32) :=
  if words ≤ 8 then some ((List.range words).map device.rxData) else none

/-- `I2cRead`, without its assertions. -/
def i2cRead (device : I2cDevice) (address : UInt8) (register : ShortBytes)
    (valueLength : UInt8) : Option ReadOutcome :=
  let con := i2cInit ++ [i2cEn ||| i2cModeRtx]
  let (status, con) := i2cStart device con
  if status.isError then some ⟨status, con, none, none, none, none⟩
  else
    let mrxaddr := (1 : UInt32) ||| (address.toUInt32 <<< 1) ||| addLVld
    let mrxraddr := registerAddress register.bytes
    let con := conOr con ack
    let status := i2cWait (device.ipd .transfer) mbrfIpd
    if status.isError then some ⟨status, con, some mrxaddr, some mrxraddr, some valueLength, none⟩
    else do
      let rxData ← readRxData device ((valueLength.toNat + 3) / 4)
      let value := (bytesOfWords rxData).take valueLength.toNat
      let (status, con) := i2cStop device con
      if status.isError then
        some ⟨status, con, some mrxaddr, some mrxraddr, some valueLength, some value⟩
      else
        some ⟨EfiStatus.success, con ++ [0], some mrxaddr, some mrxraddr, some valueLength,
          some value⟩

/-! ### Writing -/

/-- What `I2cWrite` returns and writes: the values of `CON`, the words sent, and how many bytes of
them. -/
structure WriteOutcome where
  status : EfiStatus
  con : List UInt32
  txData : List UInt32
  mtxcnt : Option Nat
  deriving DecidableEq, Repr

/-- `TxData.Data8`: the address, the register and the value, over what was there before. -/
def txData8 (address : UInt8) (register value : ShortBytes) (stack : Vector UInt8 32) :
    Option (List UInt8) := do
  let data8 ← storeBytes stack.toList 0 [address <<< 1]
  let data8 ← storeBytes data8 1 register.bytes
  storeBytes data8 (1 + register.bytes.length) value.bytes

/-- `I2cWrite`, without its assertions. `stack` is what `TxData` holds before. -/
def i2cWrite (device : I2cDevice) (address : UInt8) (register value : ShortBytes)
    (stack : Vector UInt8 32) : Option WriteOutcome :=
  let length := register.length + value.length
  let con := i2cInit ++ [i2cEn ||| i2cModeTx]
  let (status, con) := i2cStart device con
  if status.isError then some ⟨status, con, [], none⟩
  else do
    let data8 ← txData8 address register value stack
    let txData ← (List.range ((length.toNat + 1 + 3) / 4)).mapM (loadWord data8)
    let mtxcnt := length.toNat + 1
    let status := i2cWait (device.ipd .transfer) mbtfIpd
    if status.isError then some ⟨status, con, txData, some mtxcnt⟩
    else
      let (status, con) := i2cStop device con
      if status.isError then some ⟨status, con, txData, some mtxcnt⟩
      else some ⟨EfiStatus.success, con ++ [0], txData, some mtxcnt⟩

/-! ### What is wanted -/

/-- A stop has been asked for, and the controller is disabled. -/
def BusIdle (con : List UInt32) : Prop :=
  (∃ value ∈ con, value &&& stop ≠ 0) ∧ lastCon con &&& i2cEn = 0

/-- The register bytes that the controller sends, each with its valid bit. -/
def sentRegister (mrxraddr : UInt32) : List UInt8 :=
  (List.range 3).flatMap fun index =>
    if mrxraddr.toBitVec.getLsbD (24 + index) then [wordByte mrxraddr index] else []

/-- The chip and the register are addressed, and the bytes received for it are stored in order. -/
structure ReadDone (device : I2cDevice) (address : UInt8) (register : ShortBytes)
    (valueLength : UInt8) (outcome : ReadOutcome) : Prop where
  chip : outcome.mrxaddr.map (wordByte · 0) = some ((1 : UInt8) ||| address <<< 1)
  addressed : outcome.mrxraddr.map sentRegister = some register.bytes
  counted : outcome.mrxcnt = some valueLength
  stored : outcome.value = some ((List.range valueLength.toNat).map fun k =>
    wordByte (device.rxData (k / 4)) (k % 4))

/-- The address, the register and the value are sent in order. -/
structure WriteDone (address : UInt8) (register value : ShortBytes) (outcome : WriteOutcome) :
    Prop where
  sent : outcome.mtxcnt.map (fun count => (bytesOfWords outcome.txData).take count) =
    some (address <<< 1 :: (register.bytes ++ value.bytes))

/-- What is waited for is shown in time, and no `NAK` before. -/
def Completes (ipd : Nat → UInt32) (mask : UInt32) : Prop :=
  ∃ poll < i2cTimeout, ipd poll &&& mask ≠ 0 ∧ ∀ earlier ≤ poll, ipd earlier &&& nakRcvIpd = 0

/-! ### Phases -/

section

variable {ipd : Nat → UInt32} {mask : UInt32} {device : I2cDevice}

theorem and_or_eq_zero {value left right : UInt32} :
    value &&& (left ||| right) = 0 ↔ value &&& left = 0 ∧ value &&& right = 0 := by
  rw [UInt32.and_comm, or_and_mask, UInt32.or_eq_zero_iff, UInt32.and_comm left,
    UInt32.and_comm right]

/-- A wait succeeds when what is waited for is shown in time, and no `NAK` before. -/
theorem i2cWait_iff : (i2cWait ipd mask).isError = false ↔ Completes ipd mask := by
  have quiet : ∀ poll, (ipd poll &&& (mask ||| nakRcvIpd) != 0) = false ↔
      ipd poll &&& mask = 0 ∧ ipd poll &&& nakRcvIpd = 0 := fun poll => by
    rw [bne_eq_false_iff_eq, and_or_eq_zero]
  rw [i2cWait]
  cases ended : firstPoll (fun poll => ipd poll &&& (mask ||| nakRcvIpd) != 0) 0 i2cTimeout with
  | some found =>
    obtain ⟨⟨-, before⟩, shown, first⟩ := firstPoll_eq_some_iff.mp ended
    rw [Nat.zero_add] at before
    have early : ∀ earlier < found, ipd earlier &&& mask = 0 ∧ ipd earlier &&& nakRcvIpd = 0 :=
      fun earlier less => (quiet earlier).mp (first earlier (Nat.zero_le _) less)
    simp only [Option.getD_some]
    by_cases nak : ipd found &&& nakRcvIpd = 0
    · have own : ipd found &&& mask ≠ 0 := fun none => by
        rw [(quiet found).mpr ⟨none, nak⟩] at shown
        exact nomatch shown
      rw [if_neg (not_not.mpr nak), if_pos own]
      refine ⟨fun _ => ⟨found, before, own, fun earlier upto => ?_⟩, fun _ => rfl⟩
      rcases Nat.eq_or_lt_of_le upto with rfl | less
      · exact nak
      · exact (early earlier less).2
    · rw [if_pos nak]
      refine ⟨fun fine => (nomatch fine), fun ⟨poll, _, own, silent⟩ => ?_⟩
      rcases Nat.lt_or_ge poll found with less | upto
      · exact absurd (early poll less).1 own
      · exact absurd (silent found upto) nak
  | none =>
    have never := fun poll before =>
      (quiet poll).mp (firstPoll_eq_none_iff.mp ended poll (Nat.zero_le _) before)
    have last := never (i2cTimeout - 1) (by decide)
    simp only [Option.getD_none]
    rw [if_neg (not_not.mpr last.2), if_neg (not_not.mpr last.1)]
    refine ⟨fun fine => (nomatch fine), fun ⟨poll, before, own, _⟩ => ?_⟩
    exact absurd (never poll (by rwa [Nat.zero_add])).1 own

theorem i2cSignal_error {bit : UInt32} {con : List UInt32}
    (failed : (i2cWait ipd mask).isError = true) :
    i2cSignal ipd bit mask con = (i2cWait ipd mask, conOr con bit) := by
  simp only [i2cSignal, failed, if_true]

theorem i2cSignal_success {bit : UInt32} {con : List UInt32}
    (done : (i2cWait ipd mask).isError = false) :
    i2cSignal ipd bit mask con = (EfiStatus.success, conAnd (conOr con bit) (~~~bit)) := by
  simp only [i2cSignal, done, Bool.false_eq_true, if_false]

instance : DecidablePred BusIdle := fun _ => inferInstanceAs (Decidable (_ ∧ _))

end

/-! ### Reading -/

section

variable (device : I2cDevice) (address : UInt8) (register : ShortBytes) (valueLength : UInt8)

/-- What is wanted of a call of `I2cRead`. -/
def ReadKept : Prop :=
  ∃ outcome, i2cRead device address register valueLength = some outcome ∧
    (outcome.status = EfiStatus.success →
      ReadDone device address register valueLength outcome) ∧ BusIdle outcome.con

theorem wordByte_chip : wordByte ((1 : UInt32) ||| (address.toUInt32 <<< 1) ||| addLVld) 0 =
    (1 : UInt8) ||| address <<< 1 := by
  refine wordByte_eq fun bit inside => ?_
  interval_cases bit <;> simp [addLVld]

theorem sentRegister_eq {mrxraddr : UInt32} {register : List UInt8} (short : register.length ≤ 3)
    (valid : ∀ index < 3,
      mrxraddr.toBitVec.getLsbD (24 + index) = decide (index < register.length))
    (bytes : ∀ index (inside : index < register.length),
      wordByte mrxraddr index = register[index]) :
    sentRegister mrxraddr = register := by
  simp only [sentRegister, List.range, List.range.loop, List.flatMap_cons, List.flatMap_nil]
  rw [valid 0 (by decide), valid 1 (by decide), valid 2 (by decide)]
  rcases register with _ | ⟨first, _ | ⟨second, _ | ⟨third, _ | ⟨fourth, rest⟩⟩⟩⟩
  · rfl
  · simp [bytes]
  · simp [bytes]
  · simp [bytes]
  · simp only [List.length_cons] at short
    omega

/-- The bytes of a register address are where the controller looks for them. -/
theorem sentRegister_short {register : List UInt8} (short : register.length ≤ 3) :
    sentRegister (registerAddress register) = register := by
  match register, short with
  | [], _ => rfl
  | [first], _ =>
    refine sentRegister_eq (by simp) (fun index inside => ?_) fun index inside =>
      wordByte_eq fun bit low => ?_
    · interval_cases index <;> simp [registerAddress, addLVld]
    · rw [List.length_singleton] at inside
      interval_cases index
      interval_cases bit <;> simp [registerAddress, addLVld]
  | [first, second], _ =>
    refine sentRegister_eq (by simp) (fun index inside => ?_) fun index inside =>
      wordByte_eq fun bit low => ?_
    · interval_cases index <;> simp [registerAddress, addLVld]
    · replace inside : index < 2 := inside
      interval_cases index <;> interval_cases bit <;> simp [registerAddress, addLVld]
  | [first, second, third], _ =>
    refine sentRegister_eq (by simp) (fun index inside => ?_) fun index inside =>
      wordByte_eq fun bit low => ?_
    · interval_cases index <;> simp [registerAddress, addLVld]
    · replace inside : index < 3 := inside
      interval_cases index <;> interval_cases bit <;> simp [registerAddress, addLVld]

theorem sentRegister_registerAddress {register : List UInt8} :
    sentRegister (registerAddress register) = register ↔ register.length ≤ 3 := by
  constructor
  · intro same
    have most : ∀ index, (if (registerAddress register).toBitVec.getLsbD (24 + index) then
        [wordByte (registerAddress register) index] else []).length ≤ 1 := fun index => by
      split <;> simp
    have sum := congrArg List.length same
    simp only [sentRegister, List.length_flatMap, List.range, List.range.loop, List.map_cons,
      List.map_nil, List.sum_cons, List.sum_nil] at sum
    have first := most 0
    have second := most 1
    have third := most 2
    omega
  · exact sentRegister_short

theorem readRxData_fits (fits : valueLength.toNat ≤ 32) :
    ∃ rxData, readRxData device ((valueLength.toNat + 3) / 4) = some rxData ∧
      (bytesOfWords rxData).take valueLength.toNat = (List.range valueLength.toNat).map fun k =>
        wordByte (device.rxData (k / 4)) (k % 4) := by
  refine ⟨_, if_pos (by omega), ?_⟩
  rw [bytesOfWords_map_range, ← List.map_take, List.take_range]
  congr 2
  omega

theorem i2cRead_idle_iff :
    ReadKept device address register valueLength ↔
      (Completes (device.ipd .start) startIpd ∧ Completes (device.ipd .transfer) mbrfIpd ∧
        Completes (device.ipd .stop) stopIpd) ∧
      register.bytes.length ≤ 3 ∧ valueLength.toNat ≤ 32 := by
  simp only [← i2cWait_iff, ReadKept, i2cRead, i2cStart, i2cStop]
  cases started : (i2cWait (device.ipd .start) startIpd).isError with
  | true =>
    simp only [i2cSignal_error started, started, if_true, Option.some.injEq, exists_eq_left']
    refine ⟨fun ⟨_, idle⟩ => absurd idle (by decide), fun ⟨⟨fine, _⟩, _⟩ => nomatch fine⟩
  | false =>
    simp only [i2cSignal_success started, EfiStatus.isError_success, Bool.false_eq_true, if_false]
    cases moved : (i2cWait (device.ipd .transfer) mbrfIpd).isError with
    | true =>
      simp only [if_true, Option.some.injEq, exists_eq_left']
      refine ⟨fun ⟨_, idle⟩ => absurd idle (by decide), fun ⟨⟨_, fine, _⟩, _⟩ => nomatch fine⟩
    | false =>
      simp only [Bool.false_eq_true, if_false]
      by_cases fits : valueLength.toNat ≤ 32
      · obtain ⟨rxData, read, bytes⟩ := readRxData_fits device valueLength fits
        simp only [read, Option.bind_eq_bind, Option.bind_some]
        cases stopped : (i2cWait (device.ipd .stop) stopIpd).isError with
        | true =>
          simp only [i2cSignal_error stopped, stopped, if_true, Option.some.injEq,
            exists_eq_left']
          refine ⟨fun ⟨_, idle⟩ => absurd idle (by decide), fun ⟨⟨_, _, fine⟩, _⟩ => nomatch fine⟩
        | false =>
          simp only [i2cSignal_success stopped, EfiStatus.isError_success, Bool.false_eq_true,
            if_false, Option.some.injEq, exists_eq_left']
          constructor
          · rintro ⟨done, -⟩
            have addressed := Option.some.inj (done trivial).addressed
            exact ⟨⟨trivial, trivial, trivial⟩, sentRegister_registerAddress.mp addressed, fits⟩
          · rintro ⟨-, short, -⟩
            refine ⟨fun _ => ⟨?_, ?_, rfl, ?_⟩, by decide⟩
            · exact congrArg some (wordByte_chip address)
            · exact congrArg some (sentRegister_registerAddress.mpr short)
            · exact congrArg some bytes
      · have out : readRxData device ((valueLength.toNat + 3) / 4) = none := if_neg (by omega)
        simp only [out, Option.bind_eq_bind, Option.bind_none]
        refine ⟨fun ⟨_, same, _⟩ => (nomatch same), fun ⟨_, _, inside⟩ => absurd inside fits⟩

end

/-! ### Writing -/

section

variable (device : I2cDevice) (address : UInt8) (register value : ShortBytes)
  (stack : Vector UInt8 32)

/-- What is wanted of a call of `I2cWrite`. -/
def WriteKept : Prop :=
  ∃ outcome, i2cWrite device address register value stack = some outcome ∧
    (outcome.status = EfiStatus.success → WriteDone address register value outcome) ∧
      BusIdle outcome.con

theorem txData8_fits (fits : register.bytes.length + value.bytes.length ≤ 31) :
    txData8 address register value stack =
      some (address <<< 1 :: (register.bytes ++ value.bytes) ++
        stack.toList.drop (1 + register.bytes.length + value.bytes.length)) := by
  have size : stack.toList.length = 32 := stack.length_toList
  have first := @storeBytes_append [] stack.toList [address <<< 1]
    (by rw [size, List.length_singleton]; decide)
  have second := @storeBytes_append [address <<< 1] (stack.toList.drop 1) register.bytes
    (by rw [List.length_drop, size]; omega)
  have third := @storeBytes_append (address <<< 1 :: register.bytes)
    (stack.toList.drop (1 + register.bytes.length)) value.bytes
    (by rw [List.length_drop, size]; omega)
  rw [List.drop_drop] at second third
  rw [List.length_cons, Nat.add_comm _ 1] at third
  simp only [List.nil_append, List.length_nil, List.length_singleton] at first second
  simp only [txData8, first, second, Option.bind_eq_bind, Option.bind_some]
  exact third

theorem fits_of_txData8 {data8 : List UInt8}
    (stored : txData8 address register value stack = some data8) :
    register.bytes.length + value.bytes.length ≤ 31 := by
  obtain ⟨first, one, stored⟩ := Option.bind_eq_some_iff.mp stored
  obtain ⟨second, two, three⟩ := Option.bind_eq_some_iff.mp stored
  have size : stack.toList.length = 32 := stack.length_toList
  have inside := (storeBytes_inside three).1
  rw [(storeBytes_inside two).2, (storeBytes_inside one).2, size] at inside
  omega

/-- The number of bytes to send, if the buffer holds them. -/
theorem length_toNat {register value : ShortBytes}
    (fits : register.bytes.length + value.bytes.length ≤ 31) :
    (register.length + value.length).toNat = register.bytes.length + value.bytes.length := by
  rw [UInt8.toNat_add, ShortBytes.length, ShortBytes.length, UInt8.toNat_ofNat_of_lt' register.fits,
    UInt8.toNat_ofNat_of_lt' value.fits]
  omega

theorem txData_fits (fits : register.bytes.length + value.bytes.length ≤ 31) :
    ∃ data8 txData, txData8 address register value stack = some data8 ∧
      (List.range (((register.length + value.length).toNat + 1 + 3) / 4)).mapM (loadWord data8) =
        some txData ∧
      (bytesOfWords txData).take ((register.length + value.length).toNat + 1) =
        address <<< 1 :: (register.bytes ++ value.bytes) := by
  have size : stack.toList.length = 32 := stack.length_toList
  rw [txData8_fits address register value stack fits, length_toNat fits]
  obtain ⟨txData, loaded, bytes⟩ := @bytesOfWords_loadWord
    (address <<< 1 :: (register.bytes ++ value.bytes) ++
      stack.toList.drop (1 + register.bytes.length + value.bytes.length))
    ((register.bytes.length + value.bytes.length + 1 + 3) / 4) (by
      simp only [List.length_append, List.length_cons, List.length_drop, size]
      omega)
  refine ⟨_, txData, rfl, loaded, ?_⟩
  have whole : (address <<< 1 :: (register.bytes ++ value.bytes)).length =
      register.bytes.length + value.bytes.length + 1 := by simp
  rw [bytes, List.take_take, Nat.min_eq_left (by omega), ← whole, List.take_left]

theorem i2cWrite_idle_iff :
    WriteKept device address register value stack ↔
      (Completes (device.ipd .start) startIpd ∧ Completes (device.ipd .transfer) mbtfIpd ∧
        Completes (device.ipd .stop) stopIpd) ∧
      register.bytes.length + value.bytes.length ≤ 31 := by
  simp only [← i2cWait_iff, WriteKept, i2cWrite, i2cStart, i2cStop]
  cases started : (i2cWait (device.ipd .start) startIpd).isError with
  | true =>
    simp only [i2cSignal_error started, started, if_true, Option.some.injEq, exists_eq_left']
    exact ⟨fun ⟨_, idle⟩ => absurd idle (by decide), fun ⟨⟨fine, _⟩, _⟩ => nomatch fine⟩
  | false =>
    simp only [i2cSignal_success started, EfiStatus.isError_success, Bool.false_eq_true, if_false]
    by_cases fits : register.bytes.length + value.bytes.length ≤ 31
    · obtain ⟨data8, txData, stored, loaded, sent⟩ :=
        txData_fits address register value stack fits
      simp only [stored, loaded, Option.bind_eq_bind, Option.bind_some]
      cases moved : (i2cWait (device.ipd .transfer) mbtfIpd).isError with
      | true =>
        simp only [if_true, Option.some.injEq, exists_eq_left']
        exact ⟨fun ⟨_, idle⟩ => absurd idle (by decide), fun ⟨⟨_, fine, _⟩, _⟩ => nomatch fine⟩
      | false =>
        simp only [Bool.false_eq_true, if_false]
        cases stopped : (i2cWait (device.ipd .stop) stopIpd).isError with
        | true =>
          simp only [i2cSignal_error stopped, stopped, if_true, Option.some.injEq,
            exists_eq_left']
          exact ⟨fun ⟨_, idle⟩ => absurd idle (by decide), fun ⟨⟨_, _, fine⟩, _⟩ => nomatch fine⟩
        | false =>
          simp only [i2cSignal_success stopped, EfiStatus.isError_success, Bool.false_eq_true,
            if_false, Option.some.injEq, exists_eq_left']
          exact ⟨fun _ => ⟨⟨trivial, trivial, trivial⟩, fits⟩,
            fun _ => ⟨fun _ => ⟨congrArg some sent⟩, by decide⟩⟩
    · cases stored : txData8 address register value stack with
      | some data8 => exact absurd (fits_of_txData8 address register value stack stored) fits
      | none =>
        simp only [Option.bind_eq_bind, Option.bind_none]
        exact ⟨fun ⟨_, same, _⟩ => (nomatch same), fun ⟨_, inside⟩ => absurd inside fits⟩

end

/-- Transfers stay inside their buffers, move all bytes if they succeed and leave the bus idle
exactly when the start, the bytes and the stop are all acknowledged in time and the bytes fit the
words of the controller. -/
theorem transfers_idle_iff (device : I2cDevice) (address : UInt8) (register value : ShortBytes)
    (valueLength : UInt8) (stack : Vector UInt8 32) :
    (ReadKept device address register valueLength ↔
      (Completes (device.ipd .start) startIpd ∧ Completes (device.ipd .transfer) mbrfIpd ∧
        Completes (device.ipd .stop) stopIpd) ∧
      register.bytes.length ≤ 3 ∧ valueLength.toNat ≤ 32) ∧
    (WriteKept device address register value stack ↔
      (Completes (device.ipd .start) startIpd ∧ Completes (device.ipd .transfer) mbtfIpd ∧
        Completes (device.ipd .stop) stopIpd) ∧
      register.bytes.length + value.bytes.length ≤ 31) :=
  ⟨i2cRead_idle_iff device address register valueLength,
    i2cWrite_idle_iff device address register value stack⟩

/-- A chip that does not acknowledge its address leaves the controller enabled, without a stop. -/
theorem transfers_leave_bus :
    ¬ ReadKept ⟨fun _ _ => nakRcvIpd, fun _ => 0⟩ 0x51 ⟨[2], by decide⟩ 1 ∧
      ¬ WriteKept ⟨fun _ _ => nakRcvIpd, fun _ => 0⟩ 0x51 ⟨[2], by decide⟩ ⟨[0], by decide⟩
        (Vector.replicate 32 0) := by
  have unacknowledged : ¬ Completes (fun _ => nakRcvIpd) startIpd := by
    rintro ⟨poll, -, shown, -⟩
    have none : nakRcvIpd &&& startIpd = 0 := by decide
    exact shown none
  constructor
  · intro read
    exact unacknowledged ((i2cRead_idle_iff _ _ _ _).mp read).1.1
  · intro write
    exact unacknowledged ((i2cWrite_idle_iff _ _ _ _ _).mp write).1.1

end MuRockchip.I2c.Rk356x
