/-
Transfers of the RK3399 I2C controller (`RkI2CWrite`, `RkI2CRead`).

A message is the address of the chip, that of a register and the bytes of the caller. It goes
through eight words of the controller, in chunks, and every chunk of a written message is filled
as if it were the first.

* `txWords_bytes`: the bytes of a chunk.
* `rkI2CWrite_sends`, `rkI2CRead_stores`: the bytes of a transfer, and how it ends.
* `transfers_framed_iff`: when transfers are done as they should be.
-/
import MuRockchip.Base.Fields
import MuRockchip.Base.Words
import MuRockchip.I2c.Rk3399Waits

namespace MuRockchip.I2c.Rk3399

open Base

/-! ### The controller -/

/-- What the controller shows: the reads of `IPD` in the wait for the start, the two of each poll of
a chunk, and the words received. -/
structure I2cDevice where
  startIpd : Nat → UInt32
  chunkIpd : Nat → Nat → UInt32 × UInt32
  rxData : Nat → Nat → UInt32

def i2cMbtfIpd : UInt32 := 0x04
def i2cMbrfIpd : UInt32 := 0x08
def i2cStartIpd : UInt32 := 0x10
def i2cNakRcvIpd : UInt32 := 0x40

def startWait (device : I2cDevice) : Wait where
  done poll := device.startIpd poll &&& i2cStartIpd != 0
  nak poll := device.startIpd poll &&& i2cNakRcvIpd != 0

def chunkWait (device : I2cDevice) (mask : UInt32) (chunk : Nat) : Wait where
  done poll := (device.chunkIpd chunk poll).2 &&& mask != 0
  nak poll := (device.chunkIpd chunk poll).1 &&& i2cNakRcvIpd != 0 ||
    (device.chunkIpd chunk poll).2 &&& i2cNakRcvIpd != 0

/-- A register of a chip. -/
structure I2cTarget where
  chip : UInt8
  reg : UInt32
  rLen : UInt32
  short : rLen.toNat ≤ 3

/-- The arguments of `RkI2CWrite`. -/
structure I2cMessage extends I2cTarget where
  buf : List UInt8
  fits : buf.length < 2 ^ 32

def I2cMessage.bytes (message : I2cMessage) : List UInt8 :=
  message.chip <<< 1 ::
    ((List.range message.rLen.toNat).map (wordByte message.reg) ++ message.buf)

/-! ### Writing -/

/-- A byte of `TxData`, and `PBuf` as an offset. -/
def txByte (message : I2cMessage) (i j : Nat) (txData : UInt32) (pBuf : Nat) :
    Option (UInt32 × Nat) :=
  if i = 0 ∧ j = 0 then some (txData ||| (message.chip.toUInt32 <<< 1), pBuf)
  else if i = 0 ∧ j ≤ message.rLen.toNat then
    some (txData ||| ((message.reg &&& ((0xff : UInt32) <<< UInt32.ofNat ((j - 1) * 8))) <<< 8),
      pBuf)
  else do
    let byte ← message.buf[pBuf]?
    some (txData ||| (byte.toUInt32 <<< UInt32.ofNat (j * 8)), pBuf + 1)

/-- The loop over the bytes of a word. -/
def txWord (message : I2cMessage) (transferred i : Nat) :
    Nat → Nat → UInt32 → Nat → Option (UInt32 × Nat)
  | 0, _, txData, pBuf => some (txData, pBuf)
  | left + 1, j, txData, pBuf =>
    if i * 4 + j = transferred then some (txData, pBuf)
    else do
      let (txData, pBuf) ← txByte message i j txData pBuf
      txWord message transferred i left (j + 1) txData pBuf

/-- The loop over the words of a chunk. -/
def txWords (message : I2cMessage) (transferred : Nat) :
    Nat → Nat → Nat → Option (List UInt32 × Nat)
  | 0, _, pBuf => some ([], pBuf)
  | left + 1, i, pBuf => do
    let (txData, pBuf) ← txWord message transferred i 4 0 0 pBuf
    let (words, pBuf) ← txWords message transferred left (i + 1) pBuf
    some (txData :: words, pBuf)

/-- What is written for a chunk: the words, and `MTXCNT`. -/
structure TxChunk where
  words : List UInt32
  mtxcnt : UInt32
  deriving DecidableEq, Repr

def TxChunk.bytes (chunk : TxChunk) : List UInt8 :=
  (bytesOfWords chunk.words).take chunk.mtxcnt.toNat

structure WriteOutcome where
  status : EfiStatus
  chunks : List TxChunk
  deriving DecidableEq, Repr

def WriteOutcome.sent (outcome : WriteOutcome) : List UInt8 := outcome.chunks.flatMap TxChunk.bytes

/-- `BytesTranferedLen`. -/
def chunkLength (bytesRemainLen : UInt32) : UInt32 :=
  if bytesRemainLen > 32 then 32 else bytesRemainLen

/-- `RK_CEIL(BytesTranferedLen, 4)`. -/
def chunkWords (transferred : UInt32) : Nat := (transferred.toNat + 4 - 1) / 4

/-- The loop over the chunks of a message, for a number of rounds. -/
def writeChunks (device : I2cDevice) (message : I2cMessage) :
    Nat → Nat → UInt32 → Nat → Option WriteOutcome
  | 0, _, bytesRemainLen, _ =>
    if bytesRemainLen ≠ 0 then none else some ⟨EfiStatus.success, []⟩
  | rounds + 1, chunk, bytesRemainLen, pBuf =>
    if bytesRemainLen ≠ 0 then do
      let transferred := chunkLength bytesRemainLen
      let (words, pBuf) ← txWords message transferred.toNat (chunkWords transferred) 0 pBuf
      if chunkTimesOut (chunkWait device i2cMbtfIpd chunk) then
        some ⟨efiLoadError, [⟨words, transferred⟩]⟩
      else
        let later ←
          writeChunks device message rounds (chunk + 1) (bytesRemainLen - transferred) pBuf
        some { later with chunks := ⟨words, transferred⟩ :: later.chunks }
    else some ⟨EfiStatus.success, []⟩

/-- `BytesRemainLen` at the start of a message. -/
def I2cMessage.total (message : I2cMessage) : UInt32 :=
  UInt32.ofNat message.buf.length + message.rLen + 1

/-- `RkI2CWrite`. The stop behind a transfer, whose outcome is not looked at, is left out. -/
def rkI2CWrite (device : I2cDevice) (message : I2cMessage) : Option WriteOutcome :=
  let status := sendStartBit (startWait device)
  if status.isError then some ⟨status, []⟩
  else writeChunks device message message.total.toNat 0 message.total 0

/-! ### Reading -/

/-- What `RkI2CRead` returns, writes and stores: the addresses, `MRXCNT` for each chunk, and the
bytes of the caller. -/
structure ReadOutcome where
  status : EfiStatus
  mrxaddr : Option UInt32
  mrxraddr : Option UInt32
  counts : List UInt32
  stored : List UInt8
  deriving DecidableEq, Repr

/-- The loop over the bytes of a word. -/
def rxWord (rxData : UInt32) (transferred i : Nat) : Nat → Nat → List UInt8
  | 0, _ => []
  | left + 1, j =>
    if i * 4 + j = transferred then []
    else ((rxData >>> UInt32.ofNat (j * 8)) &&& 0xff).toUInt8 ::
      rxWord rxData transferred i left (j + 1)

/-- The loop over the words of a chunk. -/
def rxWords (rxData : Nat → UInt32) (transferred : Nat) : Nat → Nat → List UInt8
  | 0, _ => []
  | left + 1, i => rxWord (rxData i) transferred i 4 0 ++ rxWords rxData transferred left (i + 1)

/-- The loop over the chunks that are read, for a number of rounds: the status, `MRXCNT` for each
chunk and the bytes stored. -/
def readChunks (device : I2cDevice) :
    Nat → Nat → UInt32 → Option (EfiStatus × List UInt32 × List UInt8)
  | 0, _, bytesRemainLen => if bytesRemainLen ≠ 0 then none else some (EfiStatus.success, [], [])
  | rounds + 1, chunk, bytesRemainLen =>
    if bytesRemainLen ≠ 0 then do
      let transferred := chunkLength bytesRemainLen
      if chunkTimesOut (chunkWait device i2cMbrfIpd chunk) then
        some (efiLoadError, [transferred], [])
      else
        let (status, counts, stored) ←
          readChunks device rounds (chunk + 1) (bytesRemainLen - transferred)
        some (status, transferred :: counts,
          rxWords (device.rxData chunk) transferred.toNat (chunkWords transferred) 0 ++ stored)
    else some (EfiStatus.success, [], [])

/-- `RkI2CRead`, without the stop behind it. -/
def rkI2CRead (device : I2cDevice) (target : I2cTarget) (bLen : UInt32) : Option ReadOutcome :=
  let status := sendStartBit (startWait device)
  if status.isError then some ⟨status, none, none, [], []⟩
  else
    let mrxaddr := ((1 : UInt32) <<< 24) ||| (target.chip.toUInt32 <<< 1 ||| 1)
    if target.rLen ≥ 4 then some ⟨efiLoadError, some mrxaddr, none, [], []⟩
    else
      let mrxraddr := if target.rLen = 0 then (0 : UInt32) else (target.rLen <<< 24) ||| target.reg
      do
        let (status, counts, stored) ← readChunks device bLen.toNat 0 bLen
        some ⟨status, some mrxaddr, some mrxraddr, counts, stored⟩

/-! ### The bytes of a chunk -/

theorem range'_congr {start other count : Nat} (same : count ≠ 0 → start = other) :
    List.range' start count = List.range' other count := by
  by_cases none : count = 0
  · rw [none]
    rfl
  · rw [same none]

section

variable {message : I2cMessage}

/-- How many bytes stand before those of the caller. -/
def I2cMessage.header (message : I2cMessage) : Nat := message.rLen.toNat + 1

/-- Where a byte that is sent stands in the message. -/
def I2cMessage.source (message : I2cMessage) (place : Nat) : Nat :=
  if place % 32 ≤ message.rLen.toNat then place % 32 else place - place / 32 * message.header

/-- A byte that is sent. The highest bit of the address runs into the second byte of a chunk. -/
def I2cMessage.sentByte (message : I2cMessage) (place : Nat) : UInt8 :=
  message.bytes.getD (message.source place) 0 |||
    if place % 32 = 1 then message.chip >>> 7 else 0

theorem I2cMessage.header_pos (message : I2cMessage) :
    0 < message.header ∧ message.header ≤ 4 := by
  have short := message.short
  rw [header]
  omega

theorem wordByte_chip (chip : UInt8) {k : Nat} (inside : k < 4) :
    wordByte (chip.toUInt32 <<< 1) k =
      if k = 0 then chip <<< 1 else if k = 1 then chip >>> 7 else 0 := by
  have below := chip.toNat_lt
  refine UInt8.toNat_inj.mp ?_
  have shifted : (chip.toUInt32 <<< 1).toNat = chip.toNat * 2 := by
    have one : (1 : UInt32).toNat % 32 = 1 := rfl
    rw [UInt32.toNat_shiftLeft, UInt8.toNat_toUInt32, Nat.shiftLeft_eq, one]
    omega
  rw [wordByte, shifted, UInt8.toNat_ofNat']
  interval_cases k <;> simp [Nat.shiftRight_eq_div_pow, Nat.shiftLeft_eq] <;> omega

/-- A byte of the register is moved behind the address. -/
theorem regByte_eq (reg : UInt32) {j : Nat} (pos : 0 < j) (inside : j < 4) :
    (reg &&& ((0xff : UInt32) <<< UInt32.ofNat ((j - 1) * 8))) <<< 8 =
      (wordByte reg (j - 1)).toUInt32 <<< UInt32.ofNat (j * 8) := by
  refine UInt32.toNat_inj.mp ?_
  have mask : ((0xff : UInt32) <<< UInt32.ofNat ((j - 1) * 8)).toNat =
      (2 ^ 8 - 1) * 2 ^ ((j - 1) * 8) := by
    interval_cases j <;> rfl
  have eight : (8 : UInt32).toNat % 32 = 8 := rfl
  rw [toNat_byte_shiftLeft _ inside, UInt32.toNat_shiftLeft, UInt32.toNat_and, mask, and_mask_eq,
    wordByte, UInt8.toNat_ofNat', eight, Nat.shiftLeft_eq]
  interval_cases j <;> simp <;> omega

theorem I2cMessage.bytes_length (message : I2cMessage) :
    message.bytes.length = message.header + message.buf.length := by
  simp only [bytes, header, List.length_cons, List.length_append, List.length_map,
    List.length_range]
  omega

theorem I2cMessage.bytes_register {j : Nat} (pos : 0 < j) (inside : j ≤ message.rLen.toNat) :
    message.bytes.getD j 0 = wordByte message.reg (j - 1) := by
  obtain ⟨k, rfl⟩ := Nat.exists_eq_add_one_of_ne_zero (Nat.ne_of_gt pos)
  rw [bytes, List.getD_cons_succ, List.getD_append _ _ _ _ (by simpa using inside),
    List.getD_eq_getElem?_getD, List.getElem?_map, List.getElem?_range inside]
  rfl

theorem I2cMessage.bytes_buf {k : Nat} (inside : k < message.buf.length) :
    message.buf[k]? = some (message.bytes.getD (message.header + k) 0) := by
  have place : message.header + k = message.rLen.toNat + k + 1 := by
    rw [header]
    omega
  rw [place, bytes, List.getD_cons_succ, List.getD_append_right _ _ _ _ (by simp),
    List.length_map, List.length_range, Nat.add_sub_cancel_left, List.getD_eq_getElem?_getD,
    List.getElem?_eq_getElem inside]
  rfl

/-- `PBuf` when a number of bytes of a chunk are written. -/
def I2cMessage.pBuf (message : I2cMessage) (chunk written : Nat) : Nat :=
  chunk * (32 - message.header) + (written - message.header)

theorem txByte_places {chunk i j : Nat} (txData : UInt32) (inside : j < 4) (below : 4 * i + j < 32)
    (stored : message.header ≤ 4 * i + j → message.pBuf chunk (4 * i + j) < message.buf.length) :
    ∃ after, txByte message i j txData (message.pBuf chunk (4 * i + j)) =
        some (after, message.pBuf chunk (4 * i + j + 1)) ∧
      ∀ k < 4, wordByte after k = wordByte txData k |||
        ((if k = j then message.bytes.getD (message.source (32 * chunk + (4 * i + j))) 0 else 0) |||
          if i = 0 ∧ j = 0 ∧ k = 1 then message.chip >>> 7 else 0) := by
  obtain ⟨pos, few⟩ := message.header_pos
  have place : (32 * chunk + (4 * i + j)) % 32 = 4 * i + j ∧
      (32 * chunk + (4 * i + j)) / 32 = chunk := by omega
  rw [txByte, I2cMessage.source, place.1, place.2]
  by_cases first : i = 0 ∧ j = 0
  · obtain ⟨rfl, rfl⟩ := first
    have same : message.pBuf chunk (4 * 0 + 0 + 1) = message.pBuf chunk (4 * 0 + 0) := by
      rw [I2cMessage.pBuf, I2cMessage.pBuf]
      omega
    rw [if_pos ⟨rfl, rfl⟩, same]
    refine ⟨_, rfl, fun k other => ?_⟩
    rw [wordByte_or, wordByte_chip _ other, if_pos (Nat.zero_le _)]
    have head : message.bytes.getD (4 * 0 + 0) 0 = message.chip <<< 1 := rfl
    rw [head]
    by_cases zero : k = 0
    · simp [zero]
    · simp [zero]
  · rw [if_neg first]
    have leak : ∀ k, ¬ (i = 0 ∧ j = 0 ∧ k = 1) := fun k all => first ⟨all.1, all.2.1⟩
    by_cases register : i = 0 ∧ j ≤ message.rLen.toNat
    · obtain ⟨rfl, short⟩ := register
      have positive : 0 < j := by omega
      have header : message.header = message.rLen.toNat + 1 := rfl
      have same : message.pBuf chunk (4 * 0 + j + 1) = message.pBuf chunk (4 * 0 + j) := by
        rw [I2cMessage.pBuf, I2cMessage.pBuf]
        omega
      rw [if_pos ⟨rfl, short⟩, same]
      refine ⟨_, rfl, fun k other => ?_⟩
      rw [wordByte_or, regByte_eq _ positive inside, wordByte_shiftLeft _ inside other,
        if_neg (leak k), UInt8.or_zero, Nat.mul_zero, Nat.zero_add, if_pos short,
        I2cMessage.bytes_register positive short]
    · have header : message.header = message.rLen.toNat + 1 := rfl
      have behind : message.header ≤ 4 * i + j := by omega
      have outside : ¬ 4 * i + j ≤ message.rLen.toNat := by omega
      have index : 32 * chunk + (4 * i + j) - chunk * message.header =
          message.header + message.pBuf chunk (4 * i + j) := by
        rw [I2cMessage.pBuf, Nat.mul_sub]
        have bound : chunk * message.header ≤ chunk * 32 :=
          Nat.mul_le_mul_left _ (Nat.le_trans few (by decide))
        omega
      have next : message.pBuf chunk (4 * i + j + 1) = message.pBuf chunk (4 * i + j) + 1 := by
        rw [I2cMessage.pBuf, I2cMessage.pBuf]
        omega
      rw [if_neg register, I2cMessage.bytes_buf (stored behind), next, if_neg outside, index]
      refine ⟨_, rfl, fun k other => ?_⟩
      rw [wordByte_or, wordByte_shiftLeft _ inside other, if_neg (leak k), UInt8.or_zero]

theorem I2cMessage.sentByte_eq (message : I2cMessage) {chunk i k : Nat} (below : 4 * i + k < 32)
    (inside : k < 4) :
    message.sentByte (32 * chunk + (4 * i + k)) =
      message.bytes.getD (message.source (32 * chunk + (4 * i + k))) 0 |||
        if i = 0 ∧ k = 1 then message.chip >>> 7 else 0 := by
  have second : (32 * chunk + (4 * i + k)) % 32 = 1 ↔ i = 0 ∧ k = 1 := by omega
  simp only [sentByte, second]

/-- The bytes of a word that is not full yet. -/
def Placed (message : I2cMessage) (chunk i j : Nat) (txData : UInt32) : Prop :=
  ∀ k < 4, wordByte txData k =
    (if k < j then message.bytes.getD (message.source (32 * chunk + (4 * i + k))) 0 else 0) |||
      if i = 0 ∧ 0 < j ∧ k = 1 then message.chip >>> 7 else 0

theorem Placed.zero (message : I2cMessage) (chunk i : Nat) : Placed message chunk i 0 0 := by
  intro k inside
  simp [wordByte_zero]

theorem Placed.next {chunk i j : Nat} {txData after : UInt32}
    (placed : Placed message chunk i j txData)
    (byte : ∀ k < 4, wordByte after k = wordByte txData k |||
      ((if k = j then message.bytes.getD (message.source (32 * chunk + (4 * i + j))) 0 else 0) |||
        if i = 0 ∧ j = 0 ∧ k = 1 then message.chip >>> 7 else 0)) :
    Placed message chunk i (j + 1) after := by
  intro k inside
  rw [byte k inside, placed k inside]
  rcases Nat.lt_trichotomy k j with before | rfl | behind
  · have pos : j ≠ 0 := by omega
    simp [before, Nat.lt_succ_of_lt before, Nat.ne_of_lt before, pos, Nat.pos_of_ne_zero pos]
  · have second : (i = 0 ∧ 0 < k ∧ k = 1) ↔ i = 0 ∧ k = 1 := by omega
    have first : ¬ (i = 0 ∧ k = 0 ∧ k = 1) := by omega
    simp [second, first, UInt8.or_comm]
  · have late : ¬ k < j + 1 ∧ ¬ k < j ∧ k ≠ j := by omega
    have before : ¬ (i = 0 ∧ 0 < j ∧ k = 1) := by omega
    have second : (i = 0 ∧ j = 0 ∧ k = 1) ↔ i = 0 ∧ 0 < j + 1 ∧ k = 1 := by omega
    rw [if_neg late.2.1, if_neg before, if_neg late.2.2, if_neg late.1]
    simp only [second, UInt8.zero_or]

theorem txWord_bytes {chunk transferred i left j : Nat} {txData : UInt32}
    (whole : j + left = 4) (here : 4 * i + j ≤ transferred) (few : transferred ≤ 32)
    (stored : message.header ≤ transferred →
      message.pBuf chunk transferred ≤ message.buf.length)
    (placed : Placed message chunk i j txData) :
    ∃ after, txWord message transferred i left j txData (message.pBuf chunk (4 * i + j)) =
        some (after, message.pBuf chunk (min (4 * i + 4) transferred)) ∧
      ∀ k < 4, 4 * i + k < transferred →
        wordByte after k = message.sentByte (32 * chunk + (4 * i + k)) := by
  have full : ∀ {j txData}, Placed message chunk i j txData →
      min (4 * i + 4) transferred ≤ 4 * i + j →
      ∀ k < 4, 4 * i + k < transferred →
        wordByte txData k = message.sentByte (32 * chunk + (4 * i + k)) := by
    intro j txData placed last k inside below
    have before : k < j := by omega
    have pos : 0 < j := by omega
    rw [placed k inside, message.sentByte_eq (by omega) inside, if_pos before]
    simp only [pos, true_and]
  induction left generalizing j txData with
  | zero =>
    have last : min (4 * i + 4) transferred = 4 * i + j := by omega
    exact ⟨txData, by rw [txWord, last], full placed (Nat.le_of_eq last)⟩
  | succ left ih =>
    rw [txWord]
    by_cases ends : i * 4 + j = transferred
    · have last : min (4 * i + 4) transferred = 4 * i + j := by omega
      exact ⟨txData, by rw [if_pos ends, last], full placed (Nat.le_of_eq last)⟩
    · obtain ⟨next, put, byte⟩ := @txByte_places message chunk i j txData (by omega) (by omega)
        fun behind => by
          have bound := stored (by omega)
          rw [I2cMessage.pBuf] at bound ⊢
          omega
      obtain ⟨after, rest, bytes⟩ := ih (j := j + 1) (by omega) (by omega) (placed.next byte)
      refine ⟨after, ?_, bytes⟩
      simp only [if_neg ends, put, Option.bind_eq_bind, Option.bind_some]
      exact rest

theorem txWords_bytes {chunk transferred left i : Nat} (few : transferred ≤ 32)
    (all : i + left = (transferred + 3) / 4)
    (stored : message.header ≤ transferred →
      message.pBuf chunk transferred ≤ message.buf.length) :
    ∃ words, txWords message transferred left i (message.pBuf chunk (min (4 * i) transferred)) =
        some (words, message.pBuf chunk transferred) ∧
      words.length = left ∧
      ∀ word k, word < left → k < 4 → 4 * (i + word) + k < transferred →
        words[word]?.map (wordByte · k) =
          some (message.sentByte (32 * chunk + (4 * (i + word) + k))) := by
  induction left generalizing i with
  | zero =>
    have last : min (4 * i) transferred = transferred := by omega
    exact ⟨[], by rw [txWords, last], rfl, fun word k below => absurd below (Nat.not_lt_zero _)⟩
  | succ left ih =>
    have here : min (4 * i) transferred = 4 * i + 0 := by omega
    obtain ⟨first, filled, bytes⟩ := @txWord_bytes message chunk transferred i 4 0 0 rfl (by omega)
      few stored (Placed.zero message chunk i)
    have next : min (4 * i + 4) transferred = min (4 * (i + 1)) transferred := by omega
    obtain ⟨words, rest, length, later⟩ := @ih (i + 1) (by omega)
    refine ⟨first :: words, ?_, congrArg (· + 1) length, fun word k below inside sent => ?_⟩
    · rw [next] at filled
      simp only [txWords, here, filled, rest, Option.bind_eq_bind, Option.bind_some]
    · cases word with
      | zero => exact congrArg some (bytes k inside sent)
      | succ word =>
        have place : i + (word + 1) = i + 1 + word := by omega
        rw [place] at sent ⊢
        exact later word k (Nat.lt_of_succ_lt_succ below) inside sent

theorem txChunk_bytes {chunk : Nat} {transferred : UInt32} (few : transferred.toNat ≤ 32)
    (stored : message.header ≤ transferred.toNat →
      message.pBuf chunk transferred.toNat ≤ message.buf.length) :
    ∃ words, txWords message transferred.toNat (chunkWords transferred) 0
          (chunk * (32 - message.header)) =
        some (words, message.pBuf chunk transferred.toNat) ∧
      TxChunk.bytes ⟨words, transferred⟩ =
        (List.range' (32 * chunk) transferred.toNat).map message.sentByte := by
  have start : message.pBuf chunk (min (4 * 0) transferred.toNat) =
      chunk * (32 - message.header) := by
    rw [I2cMessage.pBuf]
    omega
  obtain ⟨words, sent, length, bytes⟩ := @txWords_bytes message chunk transferred.toNat
    (chunkWords transferred) 0 few (by rw [chunkWords]; omega) stored
  rw [start] at sent
  refine ⟨words, sent, List.ext_getElem? fun place => ?_⟩
  rw [chunkWords] at length bytes
  rw [TxChunk.bytes, List.getElem?_take]
  by_cases inside : place < transferred.toNat
  · have split : 4 * (0 + place / 4) + place % 4 = place := by omega
    have byte := bytes (place / 4) (place % 4) (by omega) (by omega) (by omega)
    rw [if_pos inside, getElem?_bytesOfWords, byte, split, List.getElem?_map,
      List.getElem?_range' inside, Nat.one_mul]
    rfl
  · rw [if_neg inside, List.getElem?_eq_none (by simpa using inside)]

end

/-! ### Messages -/

section

variable {device : I2cDevice} {message : I2cMessage}

theorem chunkLength_toNat (bytesRemainLen : UInt32) :
    (chunkLength bytesRemainLen).toNat = min bytesRemainLen.toNat 32 := by
  have large : bytesRemainLen > 32 ↔ 32 < bytesRemainLen.toNat := UInt32.lt_iff_toNat_lt
  simp only [chunkLength, large]
  split
  · next more =>
    have size : (32 : UInt32).toNat = 32 := rfl
    omega
  · omega

theorem remaining_toNat (bytesRemainLen : UInt32) :
    (bytesRemainLen - chunkLength bytesRemainLen).toNat =
      bytesRemainLen.toNat - min bytesRemainLen.toNat 32 := by
  have length := chunkLength_toNat bytesRemainLen
  rw [UInt32.toNat_sub_of_le _ _ (UInt32.le_iff_toNat_le.mpr (by omega)), length]

/-- The bytes of the caller that a chunk is filled with are there. -/
theorem pBuf_inside {chunk written : Nat}
    (total : 32 * chunk + written ≤ message.header + message.buf.length)
    (behind : message.header ≤ written) :
    message.pBuf chunk written ≤ message.buf.length := by
  rw [I2cMessage.pBuf, Nat.mul_sub]
  omega

/-- What is sent from a chunk on, and how the transfer ends. -/
theorem writeChunks_sends {rounds chunk : Nat} {bytesRemainLen : UInt32} {pBuf : Nat}
    (total : bytesRemainLen.toNat ≠ 0 →
      32 * chunk + bytesRemainLen.toNat ≤ message.header + message.buf.length)
    (there : bytesRemainLen.toNat ≠ 0 → pBuf = chunk * (32 - message.header))
    (enough : bytesRemainLen.toNat ≤ rounds) :
    ∃ outcome, writeChunks device message rounds chunk bytesRemainLen pBuf = some outcome ∧
      outcome.sent = (List.range' (32 * chunk)
        (min bytesRemainLen.toNat (32 * outcome.chunks.length))).map message.sentByte ∧
      Looped (chunkWait device i2cMbtfIpd) chunk ((bytesRemainLen.toNat + 31) / 32)
        outcome.chunks.length outcome.status.isError := by
  induction rounds generalizing chunk bytesRemainLen pBuf with
  | zero =>
    have none : bytesRemainLen.toNat = 0 := Nat.le_zero.mp enough
    have stop : ¬ bytesRemainLen ≠ 0 := not_not.mpr (UInt32.toNat_inj.mp none)
    rw [writeChunks, if_neg stop, none]
    exact ⟨_, rfl, rfl, Looped.nil _ _⟩
  | succ rounds ih =>
    by_cases more : bytesRemainLen.toNat = 0
    · have stop : ¬ bytesRemainLen ≠ 0 := not_not.mpr (UInt32.toNat_inj.mp more)
      rw [writeChunks, if_neg stop, more]
      exact ⟨_, rfl, rfl, Looped.nil _ _⟩
    · have goes : bytesRemainLen ≠ 0 := fun none => more (UInt32.toNat_inj.mpr none)
      have length := chunkLength_toNat bytesRemainLen
      have rest := remaining_toNat bytesRemainLen
      have whole := total more
      obtain ⟨words, filled, bytes⟩ := @txChunk_bytes message chunk (chunkLength bytesRemainLen)
        (by omega) (pBuf_inside (by omega))
      have count : (bytesRemainLen.toNat + 31) / 32 =
          ((bytesRemainLen - chunkLength bytesRemainLen).toNat + 31) / 32 + 1 := by omega
      simp only [writeChunks, if_pos goes, there more, filled, Option.bind_eq_bind,
        Option.bind_some]
      by_cases late : chunkTimesOut (chunkWait device i2cMbtfIpd chunk) = true
      · rw [if_pos late, count]
        refine ⟨_, rfl, ?_, Looped.stop (chunkTimesOut_iff.mp late)⟩
        rw [WriteOutcome.sent, List.flatMap_singleton, bytes, length]
        rfl
      · have early : (chunkWait device i2cMbtfIpd chunk).Early := by
          by_contra other
          exact late (chunkTimesOut_iff.mpr other)
        obtain ⟨later, looped, sent, ends⟩ := @ih (chunk + 1)
          (bytesRemainLen - chunkLength bytesRemainLen)
          (message.pBuf chunk (chunkLength bytesRemainLen).toNat) (by omega)
          (fun left => by
            have full : (chunkLength bytesRemainLen).toNat = 32 := by omega
            have past : 32 - message.header + chunk * (32 - message.header) =
                (chunk + 1) * (32 - message.header) := by rw [Nat.succ_mul, Nat.add_comm]
            rw [full, I2cMessage.pBuf]
            omega) (by omega)
        rw [if_neg late, looped]
        refine ⟨_, rfl, ?_, count ▸ Looped.cons early ends⟩
        have split : min bytesRemainLen.toNat (32 * (later.chunks.length + 1)) =
            (chunkLength bytesRemainLen).toNat +
              min (bytesRemainLen - chunkLength bytesRemainLen).toNat
                (32 * later.chunks.length) := by omega
        have next : List.range' (32 * (chunk + 1))
              (min (bytesRemainLen - chunkLength bytesRemainLen).toNat
                (32 * later.chunks.length)) =
            List.range' (32 * chunk + (chunkLength bytesRemainLen).toNat)
              (min (bytesRemainLen - chunkLength bytesRemainLen).toNat
                (32 * later.chunks.length)) := by
          refine range'_congr fun some => ?_
          have left : (bytesRemainLen - chunkLength bytesRemainLen).toNat ≠ 0 := by omega
          omega
        rw [WriteOutcome.sent, List.flatMap_cons, ← WriteOutcome.sent, bytes, sent, next,
          List.length_cons, split, ← List.range'_append_1, List.map_append]

end

/-! ### Received bytes -/

section

variable {device : I2cDevice}

/-- A byte received. -/
def I2cDevice.rxByte (device : I2cDevice) (place : Nat) : UInt8 :=
  wordByte (device.rxData (place / 32) (place % 32 / 4)) (place % 4)

theorem rxByte_eq (rxData : UInt32) {j : Nat} (inside : j < 4) :
    ((rxData >>> UInt32.ofNat (j * 8)) &&& 0xff).toUInt8 = wordByte rxData j := by
  refine UInt8.toNat_inj.mp ?_
  have few : j * 8 < 32 := by omega
  have count : (UInt32.ofNat (j * 8)).toNat = j * 8 :=
    UInt32.toNat_ofNat_of_lt' (Nat.lt_of_lt_of_le few (by decide))
  have power : 2 ^ (j * 8) = 256 ^ j := (Nat.mul_comm j 8) ▸ pow_mul 2 8 j
  have mask : ∀ n : Nat, n &&& (0xff : UInt32).toNat = n % 256 := fun n =>
    Nat.and_two_pow_sub_one_eq_mod n 8
  rw [UInt32.toNat_toUInt8, UInt32.toNat_and, mask, UInt32.toNat_shiftRight, count,
    Nat.mod_eq_of_lt few, Nat.shiftRight_eq_div_pow, power, wordByte, UInt8.toNat_ofNat']
  exact Nat.mod_mod _ _

theorem rxWord_bytes (rxData : UInt32) {transferred i left j : Nat} (whole : j + left = 4)
    (here : 4 * i + j ≤ transferred) :
    rxWord rxData transferred i left j =
      (List.range' j (min left (transferred - (4 * i + j)))).map (wordByte rxData) := by
  induction left generalizing j with
  | zero => rw [rxWord, Nat.zero_min]; rfl
  | succ left ih =>
    rw [rxWord]
    by_cases ends : i * 4 + j = transferred
    · have none : min (left + 1) (transferred - (4 * i + j)) = 0 := by omega
      rw [if_pos ends, none]
      rfl
    · have some : min (left + 1) (transferred - (4 * i + j)) =
          min left (transferred - (4 * i + (j + 1))) + 1 := by omega
      rw [if_neg ends, ih (by omega) (by omega), some, List.range'_succ, List.map_cons,
        rxByte_eq rxData (by omega)]

/-- The bytes of a chunk that are stored. -/
theorem rxWords_bytes (rxData : Nat → UInt32) {transferred left i : Nat}
    (all : i + left = (transferred + 3) / 4) :
    rxWords rxData transferred left i =
      (List.range' (4 * i) (transferred - 4 * i)).map fun place =>
        wordByte (rxData (place / 4)) (place % 4) := by
  induction left generalizing i with
  | zero =>
    have none : transferred - 4 * i = 0 := by omega
    rw [rxWords, none]
    rfl
  | succ left ih =>
    have split : transferred - 4 * i =
        min 4 (transferred - (4 * i + 0)) + (transferred - 4 * (i + 1)) := by omega
    have first : (List.range' 0 (min 4 (transferred - (4 * i + 0)))).map (wordByte (rxData i)) =
        (List.range' (4 * i) (min 4 (transferred - (4 * i + 0)))).map fun place =>
          wordByte (rxData (place / 4)) (place % 4) := by
      rw [List.range'_eq_map_range, List.range'_eq_map_range, List.map_map, List.map_map]
      refine List.map_congr_left fun k below => ?_
      have small := List.mem_range.mp below
      have own : (4 * i + k) / 4 = i ∧ (4 * i + k) % 4 = k := by omega
      simp only [Function.comp_apply, own, Nat.zero_add]
    have next : List.range' (4 * (i + 1)) (transferred - 4 * (i + 1)) =
        List.range' (4 * i + min 4 (transferred - (4 * i + 0))) (transferred - 4 * (i + 1)) :=
      range'_congr fun some => by omega
    rw [rxWords, rxWord_bytes (rxData i) rfl (by omega), ih (by omega), first, next, split,
      ← List.range'_append_1, List.map_append]

/-- What is stored from a chunk on, and how the transfer ends. -/
theorem readChunks_stores {rounds chunk : Nat} {bytesRemainLen : UInt32}
    (enough : bytesRemainLen.toNat ≤ rounds) :
    ∃ status counts stored, readChunks device rounds chunk bytesRemainLen =
        some (status, counts, stored) ∧
      (∃ count ≤ bytesRemainLen.toNat,
        stored = (List.range' (32 * chunk) count).map device.rxByte ∧
          (status.isError = false → count = bytesRemainLen.toNat)) ∧
      Looped (chunkWait device i2cMbrfIpd) chunk ((bytesRemainLen.toNat + 31) / 32)
        counts.length status.isError := by
  induction rounds generalizing chunk bytesRemainLen with
  | zero =>
    have none : bytesRemainLen.toNat = 0 := Nat.le_zero.mp enough
    have stop : ¬ bytesRemainLen ≠ 0 := not_not.mpr (UInt32.toNat_inj.mp none)
    rw [readChunks, if_neg stop, none]
    exact ⟨_, _, _, rfl, ⟨0, Nat.le_refl _, rfl, fun _ => rfl⟩, Looped.nil _ _⟩
  | succ rounds ih =>
    by_cases more : bytesRemainLen.toNat = 0
    · have stop : ¬ bytesRemainLen ≠ 0 := not_not.mpr (UInt32.toNat_inj.mp more)
      rw [readChunks, if_neg stop, more]
      exact ⟨_, _, _, rfl, ⟨0, Nat.le_refl _, rfl, fun _ => rfl⟩, Looped.nil _ _⟩
    · have goes : bytesRemainLen ≠ 0 := fun none => more (UInt32.toNat_inj.mpr none)
      have length := chunkLength_toNat bytesRemainLen
      have rest := remaining_toNat bytesRemainLen
      have count : (bytesRemainLen.toNat + 31) / 32 =
          ((bytesRemainLen - chunkLength bytesRemainLen).toNat + 31) / 32 + 1 := by omega
      rw [readChunks, if_pos goes]
      by_cases late : chunkTimesOut (chunkWait device i2cMbrfIpd chunk) = true
      · rw [if_pos late, count]
        exact ⟨_, _, _, rfl, ⟨0, Nat.zero_le _, rfl, fun fine => (nomatch fine)⟩,
          Looped.stop (chunkTimesOut_iff.mp late)⟩
      · have early : (chunkWait device i2cMbrfIpd chunk).Early := by
          by_contra other
          exact late (chunkTimesOut_iff.mpr other)
        obtain ⟨status, counts, stored, looped, ⟨taken, inside, bytes, whole⟩, ends⟩ :=
          @ih (chunk + 1) (bytesRemainLen - chunkLength bytesRemainLen) (by omega)
        simp only [if_neg late, looped, Option.bind_eq_bind, Option.bind_some]
        refine ⟨_, _, _, rfl, ⟨(chunkLength bytesRemainLen).toNat + taken, by omega, ?_, ?_⟩,
          count ▸ Looped.cons early ends⟩
        · have own : rxWords (device.rxData chunk) (chunkLength bytesRemainLen).toNat
                (chunkWords (chunkLength bytesRemainLen)) 0 =
              (List.range' (32 * chunk) (chunkLength bytesRemainLen).toNat).map device.rxByte := by
            rw [rxWords_bytes _ (by rw [chunkWords]; omega), List.range'_eq_map_range,
              List.range'_eq_map_range, List.map_map, List.map_map]
            refine List.map_congr_left fun k below => ?_
            have small := List.mem_range.mp below
            have place : (32 * chunk + k) / 32 = chunk ∧ (32 * chunk + k) % 32 = k ∧
                (32 * chunk + k) % 4 = k % 4 := by omega
            simp only [Function.comp_apply, I2cDevice.rxByte, place, Nat.mul_zero, Nat.zero_add]
          have next : List.range' (32 * (chunk + 1)) taken =
              List.range' (32 * chunk + (chunkLength bytesRemainLen).toNat) taken :=
            range'_congr fun some => by omega
          rw [own, bytes, next, ← List.range'_append_1, List.map_append]
        · intro fine
          have last := whole fine
          omega

end

/-! ### Transfers -/

section

variable {device : I2cDevice} {message : I2cMessage}

/-- What is wanted of a transfer: it moves the bytes in order, all of them if it succeeds, and it
returns an error exactly if the start or a chunk fails. -/
structure Framed (bytes moved : List UInt8) (error : Bool) (start : Wait) (chunks : Nat → Wait)
    (executed : Nat) : Prop where
  stream : moved <+: bytes
  whole : error = false → moved = bytes
  told : error = true ↔ ¬ start.Succeeds ∨ ∃ chunk < executed, ¬ (chunks chunk).Succeeds

def chunkCount (bytes : UInt32) : Nat := (bytes.toNat + 31) / 32

theorem I2cMessage.total_toNat (message : I2cMessage) :
    message.total.toNat = (message.header + message.buf.length) % 2 ^ 32 := by
  have size : (UInt32.ofNat message.buf.length).toNat = message.buf.length :=
    UInt32.toNat_ofNat_of_lt' message.fits
  rw [total, UInt32.toNat_add, UInt32.toNat_add, size, UInt32.toNat_one, header]
  omega

/-- What a call of `RkI2CWrite` sends, and how it ends. -/
theorem rkI2CWrite_sends (device : I2cDevice) (message : I2cMessage) :
    ∃ outcome, rkI2CWrite device message = some outcome ∧
      outcome.sent =
        (List.range (min message.total.toNat (32 * outcome.chunks.length))).map message.sentByte ∧
      Ran (startWait device) (chunkWait device i2cMbtfIpd) (chunkCount message.total)
        outcome.chunks.length outcome.status.isError := by
  rw [rkI2CWrite]
  by_cases failed : (sendStartBit (startWait device)).isError = true
  · simp only [if_pos failed]
    refine ⟨_, rfl, ?_, .inl ⟨sendStartBit_isError_iff.mp failed, failed, rfl⟩⟩
    rw [List.length_nil, Nat.mul_zero, Nat.min_zero]
    rfl
  · have total := message.total_toNat
    obtain ⟨outcome, sent, bytes, looped⟩ := @writeChunks_sends device message
      message.total.toNat 0 message.total 0 (fun _ => by omega) (fun _ => (Nat.zero_mul _).symm)
      (Nat.le_refl _)
    simp only [if_neg failed, sent]
    refine ⟨outcome, rfl, ?_, .inr ⟨fun last => ?_, looped⟩⟩
    · rw [bytes, List.range_eq_range']
    · exact failed (sendStartBit_isError_iff.mpr last)

/-- What a call of `RkI2CRead` stores, and how it ends. -/
theorem rkI2CRead_stores (device : I2cDevice) (target : I2cTarget) (bLen : UInt32) :
    ∃ outcome, rkI2CRead device target bLen = some outcome ∧
      (∃ count ≤ bLen.toNat, outcome.stored = (List.range count).map device.rxByte ∧
        (outcome.status.isError = false → count = bLen.toNat)) ∧
      Ran (startWait device) (chunkWait device i2cMbrfIpd) (chunkCount bLen)
        outcome.counts.length outcome.status.isError := by
  rw [rkI2CRead]
  by_cases failed : (sendStartBit (startWait device)).isError = true
  · simp only [if_pos failed]
    refine ⟨_, rfl, ⟨0, Nat.zero_le _, rfl, fun fine => ?_⟩,
      .inl ⟨sendStartBit_isError_iff.mp failed, failed, rfl⟩⟩
    exact nomatch failed.symm.trans fine
  · have few : ¬ target.rLen ≥ 4 := fun many => by
      have above := UInt32.le_iff_toNat_le.mp many
      exact absurd (Nat.le_trans above target.short) (by decide)
    obtain ⟨status, counts, stored, read, ⟨count, inside, bytes, whole⟩, looped⟩ :=
      @readChunks_stores device bLen.toNat 0 bLen (Nat.le_refl _)
    simp only [if_neg failed, if_neg few, read, Option.bind_eq_bind, Option.bind_some]
    refine ⟨_, rfl, ⟨count, inside, ?_, whole⟩, .inr ⟨fun last => ?_, looped⟩⟩
    · rw [bytes, List.range_eq_range']
    · exact failed (sendStartBit_isError_iff.mpr last)

theorem map_range_prefix_iff {f : Nat → UInt8} {count : Nat} {bytes : List UInt8} :
    (List.range count).map f <+: bytes ↔ ∀ k < count, bytes[k]? = some (f k) := by
  rw [List.prefix_iff_getElem?]
  simp

theorem sent_right_iff {outcome : WriteOutcome}
    (sent : outcome.sent =
      (List.range (min message.total.toNat (32 * outcome.chunks.length))).map message.sentByte)
    (ran : Ran (startWait device) (chunkWait device i2cMbtfIpd) (chunkCount message.total)
      outcome.chunks.length outcome.status.isError) :
    (outcome.sent <+: message.bytes ∧
      (outcome.status.isError = false → outcome.sent = message.bytes)) ↔
    (∀ chunk, Reached (startWait device) (chunkWait device i2cMbtfIpd) (chunkCount message.total)
        chunk → ∀ k < 32, 32 * chunk + k < message.total.toNat →
          message.bytes[32 * chunk + k]? = some (message.sentByte (32 * chunk + k))) ∧
      (¬ Stops (startWait device) (chunkWait device i2cMbtfIpd) (chunkCount message.total) →
        message.header + message.buf.length < 2 ^ 32) := by
  obtain ⟨stops, reached⟩ := ran.reached
  have total := message.total_toNat
  have stream : outcome.sent <+: message.bytes ↔
      ∀ chunk, Reached (startWait device) (chunkWait device i2cMbtfIpd)
        (chunkCount message.total) chunk → ∀ k < 32, 32 * chunk + k < message.total.toNat →
          message.bytes[32 * chunk + k]? = some (message.sentByte (32 * chunk + k)) := by
    rw [sent, map_range_prefix_iff]
    constructor
    · intro all chunk got k small below
      have inside := (reached chunk).mpr got
      exact all (32 * chunk + k) (by omega)
    · intro all place below
      have got := (reached (place / 32)).mp (by omega)
      have split : 32 * (place / 32) + place % 32 = place := Nat.div_add_mod place 32
      have byte := all (place / 32) got (place % 32) (Nat.mod_lt _ (by decide)) (by omega)
      rwa [split] at byte
  rw [← stream]
  refine and_congr_right fun right => ?_
  have fine : outcome.status.isError = false ↔
      ¬ Stops (startWait device) (chunkWait device i2cMbtfIpd) (chunkCount message.total) := by
    rw [← stops, Bool.not_eq_true]
  rw [← fine]
  refine imp_congr_right fun success => ?_
  have executed : outcome.chunks.length = chunkCount message.total := by
    rcases ran with ⟨-, failed, -⟩ | ⟨-, ⟨-, same, -⟩ | ⟨failed, -⟩⟩
    · exact nomatch failed.symm.trans success
    · exact same
    · exact nomatch failed.symm.trans success
  have length : outcome.sent.length = message.total.toNat := by
    rw [sent, List.length_map, List.length_range, executed, chunkCount]
    omega
  constructor
  · intro same
    rw [same, message.bytes_length] at length
    have below := message.total.toNat_lt
    omega
  · intro below
    refine right.eq_of_length ?_
    rw [length, message.bytes_length]
    omega

end

/-- Both transfers are done as they should be exactly when: the start and the chunks are all over
before their last poll and succeed, or the transfer stops and one of them has failed; the bytes of
a message in all chunks that are filled are those which a chunk is filled with, and the length of a
message that goes through does not overflow. -/
theorem transfers_framed_iff (device : I2cDevice) (message : I2cMessage) (target : I2cTarget)
    (bLen : UInt32) :
    ((∃ outcome, rkI2CWrite device message = some outcome ∧
        Framed message.bytes outcome.sent outcome.status.isError (startWait device)
          (chunkWait device i2cMbtfIpd) outcome.chunks.length) ↔
      ((∀ chunk, Reached (startWait device) (chunkWait device i2cMbtfIpd)
          (chunkCount message.total) chunk → ∀ k < 32, 32 * chunk + k < message.total.toNat →
            message.bytes[32 * chunk + k]? = some (message.sentByte (32 * chunk + k))) ∧
        (¬ Stops (startWait device) (chunkWait device i2cMbtfIpd) (chunkCount message.total) →
          message.header + message.buf.length < 2 ^ 32)) ∧
      (Clean (startWait device) (chunkWait device i2cMbtfIpd) (chunkCount message.total) ∨
        Stops (startWait device) (chunkWait device i2cMbtfIpd) (chunkCount message.total) ∧
          SomeFails (startWait device) (chunkWait device i2cMbtfIpd)
            (chunkCount message.total))) ∧
    ((∃ outcome, rkI2CRead device target bLen = some outcome ∧
        Framed ((List.range bLen.toNat).map device.rxByte) outcome.stored outcome.status.isError
          (startWait device) (chunkWait device i2cMbrfIpd) outcome.counts.length) ↔
      (Clean (startWait device) (chunkWait device i2cMbrfIpd) (chunkCount bLen) ∨
        Stops (startWait device) (chunkWait device i2cMbrfIpd) (chunkCount bLen) ∧
          SomeFails (startWait device) (chunkWait device i2cMbrfIpd) (chunkCount bLen))) := by
  constructor
  · obtain ⟨outcome, returned, sent, ran⟩ := rkI2CWrite_sends device message
    rw [← sent_right_iff sent ran, ← ran_told_iff ran]
    constructor
    · rintro ⟨other, same, stream, whole, told⟩
      obtain rfl := Option.some.inj (returned.symm.trans same)
      exact ⟨⟨stream, whole⟩, told⟩
    · exact fun ⟨⟨stream, whole⟩, told⟩ => ⟨outcome, returned, stream, whole, told⟩
  · obtain ⟨outcome, returned, ⟨count, inside, bytes, whole⟩, ran⟩ :=
      rkI2CRead_stores device target bLen
    rw [← ran_told_iff ran]
    constructor
    · rintro ⟨other, same, -, -, told⟩
      obtain rfl := Option.some.inj (returned.symm.trans same)
      exact told
    · intro told
      refine ⟨outcome, returned, ?_, fun fine => ?_, told⟩
      · rw [bytes, map_range_prefix_iff]
        intro k below
        rw [List.getElem?_map, List.getElem?_range (Nat.lt_of_lt_of_le below inside)]
        rfl
      · rw [bytes, whole fine]

/-- A controller that shows everything at once. -/
def promptDevice : I2cDevice where
  startIpd _ := i2cStartIpd
  chunkIpd _ _ := (0, i2cMbtfIpd ||| i2cMbrfIpd)
  rxData _ _ := 0

/-- A register and 32 bytes, two more than fit into the first chunk with the address. -/
def longMessage : I2cMessage where
  chip := 0x20
  reg := 0
  rLen := 1
  short := by decide
  buf := List.replicate 32 1
  fits := by decide

/-- The second chunk of a message starts with the address again. -/
theorem transfers_repeat_address :
    ¬ ∃ outcome, rkI2CWrite promptDevice longMessage = some outcome ∧
      Framed longMessage.bytes outcome.sent outcome.status.isError (startWait promptDevice)
        (chunkWait promptDevice i2cMbtfIpd) outcome.chunks.length := by
  rintro ⟨other, same, stream, whole, -⟩
  obtain ⟨outcome, returned, sent, ran⟩ := rkI2CWrite_sends promptDevice longMessage
  obtain rfl := Option.some.inj (returned.symm.trans same)
  have shown : (i2cMbtfIpd ||| i2cMbrfIpd) &&& i2cMbtfIpd != 0 := by decide
  have early : ∀ k, (chunkWait promptDevice i2cMbtfIpd k).Early := fun _ => by
    refine ⟨0, by decide, ?_⟩
    simp only [chunkWait, promptDevice]
    exact shown
  have goes : ¬ (startWait promptDevice).Last := fun last =>
    last.2 ⟨0, by decide, by decide⟩
  have bytes := ((sent_right_iff sent ran).mp ⟨stream, whole⟩).1 1
    ⟨by decide, goes, fun k _ => early k⟩ 0 (by decide) (by decide)
  exact absurd bytes (by decide)

end MuRockchip.I2c.Rk3399
