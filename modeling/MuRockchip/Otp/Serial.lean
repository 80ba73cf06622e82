/-
The serial number of a board (`OtpGetSerial`).

Sixteen bytes of the one-time programmable memory are checked by a table of 256 words, the bytes at
odd places first and those at even places from what came of these. The two results are the halves
of the serial number.

* `calculateCrc32NoComp_eq`: the table is that of the polynomial, so a check is one bit by bit.
* `otpGetSerial_eq`: the serial number of what is read.
* `otpGetSerial_distinguishes`: memories that differ, and only within eight bytes one after the
  other, have different serial numbers.
-/
import MuRockchip.Base.Crc
import MuRockchip.Otp.OtpRead

namespace MuRockchip.Otp

open Base

/-! ### The code -/

def mCrcTable : List UInt32 := [
    0x00000000, 0x77073096, 0xEE0E612C, 0x990951BA, 0x076DC419, 0x706AF48F, 0xE963A535,
    0x9E6495A3, 0x0EDB8832, 0x79DCB8A4, 0xE0D5E91E, 0x97D2D988, 0x09B64C2B, 0x7EB17CBD,
    0xE7B82D07, 0x90BF1D91, 0x1DB71064, 0x6AB020F2, 0xF3B97148, 0x84BE41DE, 0x1ADAD47D,
    0x6DDDE4EB, 0xF4D4B551, 0x83D385C7, 0x136C9856, 0x646BA8C0, 0xFD62F97A, 0x8A65C9EC,
    0x14015C4F, 0x63066CD9, 0xFA0F3D63, 0x8D080DF5, 0x3B6E20C8, 0x4C69105E, 0xD56041E4,
    0xA2677172, 0x3C03E4D1, 0x4B04D447, 0xD20D85FD, 0xA50AB56B, 0x35B5A8FA, 0x42B2986C,
    0xDBBBC9D6, 0xACBCF940, 0x32D86CE3, 0x45DF5C75, 0xDCD60DCF, 0xABD13D59, 0x26D930AC,
    0x51DE003A, 0xC8D75180, 0xBFD06116, 0x21B4F4B5, 0x56B3C423, 0xCFBA9599, 0xB8BDA50F,
    0x2802B89E, 0x5F058808, 0xC60CD9B2, 0xB10BE924, 0x2F6F7C87, 0x58684C11, 0xC1611DAB,
    0xB6662D3D, 0x76DC4190, 0x01DB7106, 0x98D220BC, 0xEFD5102A, 0x71B18589, 0x06B6B51F,
    0x9FBFE4A5, 0xE8B8D433, 0x7807C9A2, 0x0F00F934, 0x9609A88E, 0xE10E9818, 0x7F6A0DBB,
    0x086D3D2D, 0x91646C97, 0xE6635C01, 0x6B6B51F4, 0x1C6C6162, 0x856530D8, 0xF262004E,
    0x6C0695ED, 0x1B01A57B, 0x8208F4C1, 0xF50FC457, 0x65B0D9C6, 0x12B7E950, 0x8BBEB8EA,
    0xFCB9887C, 0x62DD1DDF, 0x15DA2D49, 0x8CD37CF3, 0xFBD44C65, 0x4DB26158, 0x3AB551CE,
    0xA3BC0074, 0xD4BB30E2, 0x4ADFA541, 0x3DD895D7, 0xA4D1C46D, 0xD3D6F4FB, 0x4369E96A,
    0x346ED9FC, 0xAD678846, 0xDA60B8D0, 0x44042D73, 0x33031DE5, 0xAA0A4C5F, 0xDD0D7CC9,
    0x5005713C, 0x270241AA, 0xBE0B1010, 0xC90C2086, 0x5768B525, 0x206F85B3, 0xB966D409,
    0xCE61E49F, 0x5EDEF90E, 0x29D9C998, 0xB0D09822, 0xC7D7A8B4, 0x59B33D17, 0x2EB40D81,
    0xB7BD5C3B, 0xC0BA6CAD, 0xEDB88320, 0x9ABFB3B6, 0x03B6E20C, 0x74B1D29A, 0xEAD54739,
    0x9DD277AF, 0x04DB2615, 0x73DC1683, 0xE3630B12, 0x94643B84, 0x0D6D6A3E, 0x7A6A5AA8,
    0xE40ECF0B, 0x9309FF9D, 0x0A00AE27, 0x7D079EB1, 0xF00F9344, 0x8708A3D2, 0x1E01F268,
    0x6906C2FE, 0xF762575D, 0x806567CB, 0x196C3671, 0x6E6B06E7, 0xFED41B76, 0x89D32BE0,
    0x10DA7A5A, 0x67DD4ACC, 0xF9B9DF6F, 0x8EBEEFF9, 0x17B7BE43, 0x60B08ED5, 0xD6D6A3E8,
    0xA1D1937E, 0x38D8C2C4, 0x4FDFF252, 0xD1BB67F1, 0xA6BC5767, 0x3FB506DD, 0x48B2364B,
    0xD80D2BDA, 0xAF0A1B4C, 0x36034AF6, 0x41047A60, 0xDF60EFC3, 0xA867DF55, 0x316E8EEF,
    0x4669BE79, 0xCB61B38C, 0xBC66831A, 0x256FD2A0, 0x5268E236, 0xCC0C7795, 0xBB0B4703,
    0x220216B9, 0x5505262F, 0xC5BA3BBE, 0xB2BD0B28, 0x2BB45A92, 0x5CB36A04, 0xC2D7FFA7,
    0xB5D0CF31, 0x2CD99E8B, 0x5BDEAE1D, 0x9B64C2B0, 0xEC63F226, 0x756AA39C, 0x026D930A,
    0x9C0906A9, 0xEB0E363F, 0x72076785, 0x05005713, 0x95BF4A82, 0xE2B87A14, 0x7BB12BAE,
    0x0CB61B38, 0x92D28E9B, 0xE5D5BE0D, 0x7CDCEFB7, 0x0BDBDF21, 0x86D3D2D4, 0xF1D4E242,
    0x68DDB3F8, 0x1FDA836E, 0x81BE16CD, 0xF6B9265B, 0x6FB077E1, 0x18B74777, 0x88085AE6,
    0xFF0F6A70, 0x66063BCA, 0x11010B5C, 0x8F659EFF, 0xF862AE69, 0x616BFFD3, 0x166CCF45,
    0xA00AE278, 0xD70DD2EE, 0x4E048354, 0x3903B3C2, 0xA7672661, 0xD06016F7, 0x4969474D,
    0x3E6E77DB, 0xAED16A4A, 0xD9D65ADC, 0x40DF0B66, 0x37D83BF0, 0xA9BCAE53, 0xDEBB9EC5,
    0x47B2CF7F, 0x30B5FFE9, 0xBDBDF21C, 0xCABAC28A, 0x53B39330, 0x24B4A3A6, 0xBAD03605,
    0xCDD70693, 0x54DE5729, 0x23D967BF, 0xB3667A2E, 0xC4614AB8, 0x5D681B02, 0x2A6F2B94,
    0xB40BBE37, 0xC30C8EA1, 0x5A05DF1B, 0x2D02EF8D]

def calculateCrc32NoComp (crc : UInt32) (buffer : List UInt8) : UInt32 :=
  buffer.foldl
    (fun crc byte => (crc >>> 8) ^^^ mCrcTable.getD (crc.toUInt8 ^^^ byte).toNat 0) crc

/-- The bytes that `OtpGetSerial` reads. -/
def serialRange : OtpRange := ⟨0x07, 16, by decide⟩

def serialLo (otpData : List UInt8) : List UInt8 :=
  (List.range 8).map fun index => otpData.getD (index * 2 + 1) 0

def serialHi (otpData : List UInt8) : List UInt8 :=
  (List.range 8).map fun index => otpData.getD (index * 2) 0

/-- The serial number of what was read. -/
def boardSerial (otpData : List UInt8) : UInt64 :=
  let low := (calculateCrc32NoComp 0 (serialLo otpData)).toUInt64
  low ||| (calculateCrc32NoComp low.toUInt32 (serialHi otpData)).toUInt64 <<< 32

def otpGetSerial (device : OtpDevice) : Option UInt64 := do
  let (_, outcome) ← otpRead device serialRange
  some (boardSerial outcome.data)

/-! ### The check -/

/-- The polynomial of the table. -/
def crcPolynomial : BitVec 32 := 0xEDB88320

theorem mCrcTable_entry (index : Fin 256) :
    (mCrcTable.getD index 0).toBitVec = crcBits crcPolynomial 8 (BitVec.ofNat 32 index) := by
  revert index
  decide +kernel

theorem calculateCrc32NoComp_eq (crc : UInt32) (buffer : List UInt8) :
    (calculateCrc32NoComp crc buffer).toBitVec = crcBytes crcPolynomial crc.toBitVec buffer := by
  induction buffer generalizing crc with
  | nil => rfl
  | cons byte buffer ih =>
    have small : (crc.toUInt8 ^^^ byte).toNat < 256 := (crc.toUInt8 ^^^ byte).toNat_lt
    have entry := mCrcTable_entry ⟨(crc.toUInt8 ^^^ byte).toNat, small⟩
    have index : BitVec.ofNat 32 (crc.toUInt8 ^^^ byte).toNat =
        (crc.toBitVec.setWidth 8 ^^^ byte.toBitVec).setWidth 32 := by
      apply BitVec.eq_of_toNat_eq
      rw [BitVec.toNat_ofNat, BitVec.toNat_setWidth]
      rfl
    have step : ((crc >>> 8) ^^^ mCrcTable.getD (crc.toUInt8 ^^^ byte).toNat 0).toBitVec =
        crcByte crcPolynomial crc.toBitVec byte := by
      rw [crcByte_table, ← index, ← entry]
      rfl
    rw [calculateCrc32NoComp, List.foldl_cons]
    refine (ih _).trans ?_
    rw [step]
    rfl

variable {left right : List UInt8} {index : Nat}

/-- Buffers that differ, and only in four bytes one after the other, have different checks. -/
theorem calculateCrc32NoComp_ne (crc : UInt32) (length : left.length = right.length) (start : Nat)
    (agree : ∀ index, index < start ∨ start + 4 ≤ index → left[index]? = right[index]?)
    (different : left ≠ right) :
    calculateCrc32NoComp crc left ≠ calculateCrc32NoComp crc right := by
  intro same
  have checks := congrArg UInt32.toBitVec same
  rw [calculateCrc32NoComp_eq, calculateCrc32NoComp_eq] at checks
  exact crcBytes_differ (by decide) _ length (by decide) agree different checks

/-! ### What is read -/

/-- Every word is accessed before ten thousand polls are made. -/
def OtpDevice.Prompt (device : OtpDevice) : Prop :=
  ∀ addr, ∃ poll < 10000, device.userDone addr poll = true

theorem waitPolls_ended {device : OtpDevice} (prompt : device.Prompt) {retry : UInt64}
    {words : List UInt16} (enough : 10000 * words.length < retry.toNat) {polls : Nat}
    (made : (waitPolls device retry words)[index]? = some polls) :
    ∃ addr, words[index]? = some addr ∧ ∃ poll < polls, device.userDone addr poll = true := by
  induction words generalizing retry index with
  | nil => simp [waitPolls] at made
  | cons addr words ih =>
    rw [List.length_cons] at enough
    obtain ⟨poll, soon, ended⟩ := prompt addr
    have budget : waitBudget retry = retry.toNat := by
      have less : (retry - 1).toNat = retry.toNat - 1 :=
        UInt64.toNat_sub_of_le _ 1 (UInt64.le_iff_toNat_le.mpr (by simp; omega))
      rw [waitBudget, less]
      omega
    obtain ⟨found, first⟩ : ∃ found,
        firstPoll (device.userDone addr) 0 (waitBudget retry) = some found := by
      rw [← Option.isSome_iff_exists, firstPoll_isSome_iff]
      exact ⟨poll, Nat.zero_le _, by omega, ended⟩
    obtain ⟨-, done, least⟩ := firstPoll_eq_some_iff.mp first
    have early : found ≤ poll := by
      apply Nat.le_of_not_lt
      intro later
      have never := least poll (Nat.zero_le _) later
      rw [ended] at never
      cases never
    have result : waitResult (device.userDone addr) retry =
        (retry - UInt64.ofNat found, found + 1) := by
      rw [waitResult, first]
    rw [waitPolls, result] at made
    cases index with
    | zero =>
      refine ⟨addr, rfl, found, ?_, done⟩
      rw [← Option.some.inj made]
      exact Nat.lt_succ_self _
    | succ index =>
      have count : (UInt64.ofNat found).toNat = found :=
        UInt64.toNat_ofNat_of_lt' (Nat.lt_of_le_of_lt early (Nat.lt_trans soon (by decide)))
      have left : (retry - UInt64.ofNat found).toNat = retry.toNat - found := by
        rw [UInt64.toNat_sub_of_le _ _ (UInt64.le_iff_toNat_le.mpr (by rw [count]; omega)), count]
      exact ih (by omega) made

/-- The sixteen bytes that are read, of a memory. -/
def OtpDevice.serialData (device : OtpDevice) : List UInt8 :=
  (List.range 16).map fun k => device.byte (7 + k)

/-- The serial number is that of the bytes of the memory. -/
theorem otpGetSerial_eq {device : OtpDevice} (prompt : device.Prompt) :
    otpGetSerial device = some (boardSerial device.serialData) := by
  obtain ⟨eccPolls, outcome, read, -, stored⟩ := otpRead_stored device serialRange
  have exact := stored.exact
  have words : wordsFrom 7 16 = (List.range' 3 9).map UInt16.ofNat := rfl
  have data : outcome.data = device.serialData := by
    apply List.ext_getElem?
    intro k
    by_cases inside : k < 16
    · obtain ⟨polls, made, byte⟩ := exact.bytes k inside
      have waits := stored.polls
      rw [show serialRange.offset.toNat = 7 from rfl, show serialRange.length.toNat = 16 from rfl,
        words] at waits
      rw [waits] at made
      obtain ⟨addr, here, poll, before, ended⟩ :=
        waitPolls_ended prompt (by decide : 10000 * _ < otpRetry.toNat) made
      have place : (serialRange.offset.toNat + k) / 2 - serialRange.offset.toNat / 2 < 9 := by
        rw [show serialRange.offset.toNat = 7 from rfl]
        omega
      have same : addr = UInt16.ofNat ((serialRange.offset.toNat + k) / 2) := by
        rw [List.getElem?_map, List.getElem?_range' place, Option.map_some] at here
        rw [← Option.some.inj here, show serialRange.offset.toNat = 7 from rfl]
        congr 1
        omega
      rw [byte ⟨poll, before, same ▸ ended⟩, OtpDevice.serialData, List.getElem?_map,
        List.getElem?_range inside, Option.map_some]
      rfl
    · have long : outcome.data.length ≤ k := by
        rw [stored.length]
        exact Nat.le_of_not_lt inside
      rw [List.getElem?_eq_none long, OtpDevice.serialData, List.getElem?_eq_none]
      rw [List.length_map, List.length_range]
      exact Nat.le_of_not_lt inside
  simp only [otpGetSerial, read, Option.bind_eq_bind, Option.bind_some, data]

/-! ### Serial numbers -/

/-- The halves of a serial number. -/
theorem boardSerial_toNat (otpData : List UInt8) :
    (boardSerial otpData).toNat =
      2 ^ 32 * (calculateCrc32NoComp (calculateCrc32NoComp 0 (serialLo otpData))
        (serialHi otpData)).toNat + (calculateCrc32NoComp 0 (serialLo otpData)).toNat := by
  have low := (calculateCrc32NoComp 0 (serialLo otpData)).toNat_lt
  have high := (calculateCrc32NoComp (calculateCrc32NoComp 0 (serialLo otpData))
    (serialHi otpData)).toNat_lt
  unfold boardSerial
  dsimp only
  rw [UInt32.toUInt32_toUInt64, UInt64.toNat_or, UInt64.toNat_shiftLeft, UInt32.toNat_toUInt64,
    UInt32.toNat_toUInt64, show (32 : UInt64).toNat % 64 = 32 from rfl, Nat.shiftLeft_eq,
    Nat.mod_eq_of_lt (by omega), Nat.or_comm, Nat.mul_comm, Nat.two_pow_add_eq_or_of_lt low]

theorem boardSerial_eq_iff :
    boardSerial left = boardSerial right ↔
      calculateCrc32NoComp 0 (serialLo left) = calculateCrc32NoComp 0 (serialLo right) ∧
        calculateCrc32NoComp (calculateCrc32NoComp 0 (serialLo left)) (serialHi left) =
          calculateCrc32NoComp (calculateCrc32NoComp 0 (serialLo right)) (serialHi right) := by
  have leftLow := (calculateCrc32NoComp 0 (serialLo left)).toNat_lt
  have rightLow := (calculateCrc32NoComp 0 (serialLo right)).toNat_lt
  rw [← UInt64.toNat_inj, boardSerial_toNat, boardSerial_toNat, ← UInt32.toNat_inj,
    ← UInt32.toNat_inj]
  constructor
  · intro same
    constructor
    · omega
    · omega
  · rintro ⟨low, high⟩
    rw [low, high]

/-- The bytes at even places of what is read are `SerialHi`, those at odd places `SerialLo`. -/
theorem serialLo_get (device : OtpDevice) (inside : index < 8) :
    (serialLo device.serialData)[index]? = some (device.byte (8 + 2 * index)) := by
  have place : index * 2 + 1 < 16 := by omega
  rw [serialLo, List.getElem?_map, List.getElem?_range inside, Option.map_some,
    OtpDevice.serialData, List.getD_eq_getElem?_getD, List.getElem?_map, List.getElem?_range place,
    Option.map_some, Option.getD_some]
  congr 2
  omega

theorem serialHi_get (device : OtpDevice) (inside : index < 8) :
    (serialHi device.serialData)[index]? = some (device.byte (7 + 2 * index)) := by
  have place : index * 2 < 16 := by omega
  rw [serialHi, List.getElem?_map, List.getElem?_range inside, Option.map_some,
    OtpDevice.serialData, List.getD_eq_getElem?_getD, List.getElem?_map, List.getElem?_range place,
    Option.map_some, Option.getD_some]
  congr 2
  omega

theorem serialLo_length (otpData : List UInt8) : (serialLo otpData).length = 8 := by
  rw [serialLo, List.length_map, List.length_range]

theorem serialHi_length (otpData : List UInt8) : (serialHi otpData).length = 8 := by
  rw [serialHi, List.length_map, List.length_range]

theorem get_agree (leftEight : left.length = 8) (rightEight : right.length = 8)
    (agree : index < 8 → left[index]? = right[index]?) : left[index]? = right[index]? := by
  by_cases inside : index < 8
  · exact agree inside
  · rw [List.getElem?_eq_none (by omega), List.getElem?_eq_none (by omega)]

/-- For every two memories whose bytes of the serial number differ, but only within eight bytes one
after the other, wherever these are: the serial numbers of their boards are different. -/
theorem otpGetSerial_distinguishes {left right : OtpDevice} (leftPrompt : left.Prompt)
    (rightPrompt : right.Prompt) (first : Nat)
    (agree : ∀ place, 7 ≤ place → place < 23 → place < first ∨ first + 8 ≤ place →
      left.byte place = right.byte place)
    (different : ∃ place, 7 ≤ place ∧ place < 23 ∧ left.byte place ≠ right.byte place) :
    otpGetSerial left ≠ otpGetSerial right := by
  rw [otpGetSerial_eq leftPrompt, otpGetSerial_eq rightPrompt]
  intro same
  obtain ⟨low, high⟩ := boardSerial_eq_iff.mp (Option.some.inj same)
  have lowSame : serialLo left.serialData = serialLo right.serialData := by
    refine not_not.mp fun other => ?_
    refine calculateCrc32NoComp_ne 0 ?_ ((first + 1) / 2 - 4) ?_ other low
    · rw [serialLo_length, serialLo_length]
    · intro index outside
      apply get_agree (serialLo_length _) (serialLo_length _)
      intro inside
      rw [serialLo_get left inside, serialLo_get right inside,
        agree _ (by omega) (by omega) (by omega)]
  have highSame : serialHi left.serialData = serialHi right.serialData := by
    rw [low] at high
    refine not_not.mp fun other => ?_
    refine calculateCrc32NoComp_ne _ ?_ (first / 2 - 3) ?_ other high
    · rw [serialHi_length, serialHi_length]
    · intro index outside
      apply get_agree (serialHi_length _) (serialHi_length _)
      intro inside
      rw [serialHi_get left inside, serialHi_get right inside,
        agree _ (by omega) (by omega) (by omega)]
  obtain ⟨place, after, before, other⟩ := different
  apply other
  -- every byte of the serial number is in one of the two lists
  rcases Nat.even_or_odd' (place - 7) with ⟨index, even | odd⟩
  · have inside : index < 8 := by omega
    have byte := serialHi_get left inside
    rw [highSame, serialHi_get right inside] at byte
    rw [show place = 7 + 2 * index by omega, Option.some.inj byte]
  · have inside : index < 8 := by omega
    have byte := serialLo_get left inside
    rw [lowSame, serialLo_get right inside] at byte
    rw [show place = 8 + 2 * index by omega, Option.some.inj byte]

/-- A memory whose words are accessed at once. -/
def promptDevice (word : UInt16 → UInt16) : OtpDevice where
  words := word
  sbpiDone := fun _ => true
  userDone := fun _ _ => true
  userQ := fun addr _ => (word addr).toUInt32
  shows := fun _ _ _ _ _ => UInt16.toUInt16_toUInt32 _

theorem promptDevice_prompt (word : UInt16 → UInt16) : (promptDevice word).Prompt :=
  fun _ => ⟨0, by decide, rfl⟩

/-- Boards whose memories differ in one word. -/
theorem otpGetSerial_distinguishes_oneWord :
    otpGetSerial (promptDevice fun _ => 0) ≠
      otpGetSerial (promptDevice fun addr => if addr = 5 then 0x0102 else 0) := by
  refine otpGetSerial_distinguishes (promptDevice_prompt _) (promptDevice_prompt _) 10
    ?_ ⟨10, by decide, by decide, by decide⟩
  intro place after before outside
  have other : UInt16.ofNat (place / 2) ≠ 5 := by
    intro same
    have index := congrArg UInt16.toNat same
    rw [UInt16.toNat_ofNat_of_lt' (show place / 2 < 2 ^ 16 by omega)] at index
    simp only [UInt16.reduceToNat] at index
    omega
  simp [OtpDevice.byte, promptDevice, other]

end MuRockchip.Otp
