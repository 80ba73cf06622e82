/-
Reading the one-time programmable memory (`OtpRead`).

The memory holds words of 16 bits and is read word by word. Each word is selected, its access is
waited for, and it is read then. All waits of a call share one counter.

* `readWords_places`: the bytes and the words of a run of the loop.
* `otpRead_exact`: every byte comes from its word, and every word is accessed once.
* `otpRead_bounded_iff`: when each wait ends after the polls it may make.
-/
import Mathlib.Data.List.Nodup
import MuRockchip.Base.Polling

namespace MuRockchip.Otp

open Base

/-! ### The controller -/

/-- The memory and its controller: the polls that show the end of an access, and what `USER_Q`
shows of a word after a number of polls. After a poll that shows its end, that is the word. -/
structure OtpDevice where
  words : UInt16 → UInt16
  sbpiDone : Nat → Bool
  userDone : UInt16 → Nat → Bool
  userQ : UInt16 → Nat → UInt32
  shows : ∀ addr polls poll, poll < polls → userDone addr poll = true →
    (userQ addr polls).toUInt16 = words addr

/-- A byte of the memory. -/
def OtpDevice.byte (device : OtpDevice) (place : Nat) : UInt8 :=
  let word := device.words (UInt16.ofNat (place / 2))
  if place % 2 = 0 then word.toUInt8 else (word >>> 8).toUInt8

/-- The bytes of a call. -/
structure OtpRange where
  offset : UInt16
  length : UInt16
  fits : offset.toNat + length.toNat ≤ 65536

/-! ### The code -/

/-- The initial value of `Retry`. -/
def otpRetry : UInt64 := 100000

/-- A wait, for a number of rounds: what is left of `Retry`, and how many polls were made. -/
def waitDone (done : Nat → Bool) : Nat → UInt64 → Nat → Option (UInt64 × Nat)
  | 0, _, _ => none
  | rounds + 1, retry, poll =>
    if done poll then some (retry, poll + 1)
    else
      let retry := retry - 1
      if retry = 0 then some (retry, poll + 1) else waitDone done rounds retry (poll + 1)

/-- What a call stores and does: the writes to `USER_ADDR` and the polls of each wait. -/
structure OtpOutcome where
  data : List UInt8
  accesses : List UInt32
  polls : List Nat
  deriving DecidableEq, Repr

/-- The value that selects a word, with the write enable of every bit. -/
def userAddr (addr : UInt16) : UInt32 := ((0xFFFF : UInt32) <<< 16) ||| addr.toUInt32

def lowByte (value : UInt32) : UInt8 := (value &&& 0xFF).toUInt8

def highByte (value : UInt32) : UInt8 := ((value >>> 8) &&& 0xFF).toUInt8

/-- The bytes that a word gives, and `BytesRemaining` behind them. -/
def takeBytes (range : OtpRange) (value : UInt32) (bytesRemaining : UInt16) :
    List UInt8 × UInt16 :=
  if bytesRemaining = range.length ∧ range.offset &&& 1 ≠ 0 then
    ([highByte value], bytesRemaining - 1)
  else if bytesRemaining = 1 then ([lowByte value], bytesRemaining - 1)
  else ([lowByte value, highByte value], bytesRemaining - 2)

/-- The loop over the words, for a number of rounds. No wait makes more than `2 ^ 64` polls. -/
def readWords (device : OtpDevice) (range : OtpRange) :
    Nat → UInt16 → UInt16 → UInt64 → Option OtpOutcome
  | 0, _, bytesRemaining, _ => if 0 < bytesRemaining then none else some ⟨[], [], []⟩
  | rounds + 1, addr, bytesRemaining, retry =>
    if 0 < bytesRemaining then do
      let (retry, polls) ← waitDone (device.userDone addr) (2 ^ 64) retry 0
      let value := device.userQ addr polls
      let (data, bytesRemaining) := takeBytes range value bytesRemaining
      let later ← readWords device range rounds (addr + 1) bytesRemaining retry
      some ⟨data ++ later.data, userAddr addr :: later.accesses, polls :: later.polls⟩
    else some ⟨[], [], []⟩

/-- `OtpDisableEcc`: the polls of its wait. -/
def otpDisableEcc (device : OtpDevice) : Option Nat := do
  let (_, polls) ← waitDone device.sbpiDone (2 ^ 64) otpRetry 0
  some polls

/-- `OtpRead`: the polls of the wait in `OtpDisableEcc`, and what the loop does. -/
def otpRead (device : OtpDevice) (range : OtpRange) : Option (Nat × OtpOutcome) := do
  let eccPolls ← otpDisableEcc device
  let outcome ← readWords device range range.length.toNat (range.offset / 2) range.length otpRetry
  some (eccPolls, outcome)

/-! ### Words -/

section

variable {device : OtpDevice} {range : OtpRange}

/-- The words from a byte on that hold some of a number of bytes. -/
def wordsFrom (place count : Nat) : List UInt16 :=
  (List.range' (place / 2) (if count = 0 then 0 else (place + count + 1) / 2 - place / 2)).map
    UInt16.ofNat

/-- The words that hold the bytes of a call. -/
def OtpRange.words (range : OtpRange) : List UInt16 :=
  wordsFrom range.offset.toNat range.length.toNat

/-- What is read as a byte, in the word that holds it. -/
def byteOf (value : UInt32) (place : Nat) : UInt8 :=
  if place % 2 = 0 then lowByte value else highByte value

theorem lowByte_eq (value : UInt32) : lowByte value = value.toUInt16.toUInt8 := by
  refine UInt8.toNat_inj.mp ?_
  have mask : value.toNat &&& 255 = value.toNat % 256 := Nat.and_two_pow_sub_one_eq_mod _ 8
  simp only [lowByte, UInt32.toNat_toUInt8, UInt32.toNat_and, UInt16.toNat_toUInt8,
    UInt32.toNat_toUInt16, UInt32.reduceToNat, mask]
  omega

theorem highByte_eq (value : UInt32) : highByte value = (value.toUInt16 >>> 8).toUInt8 := by
  refine UInt8.toNat_inj.mp ?_
  have mask : ∀ n : Nat, n &&& 255 = n % 256 := fun n => Nat.and_two_pow_sub_one_eq_mod n 8
  simp only [highByte, UInt32.toNat_toUInt8, UInt32.toNat_and, UInt16.toNat_toUInt8,
    UInt32.toNat_toUInt16, UInt32.toNat_shiftRight, UInt16.toNat_shiftRight, UInt32.reduceToNat,
    UInt16.reduceToNat, mask, Nat.shiftRight_eq_div_pow, Nat.reduceMod, Nat.reducePow]
  omega

/-- After a poll that shows the end of the access, a byte of the memory is read. -/
theorem byteOf_shown {place polls poll : Nat} (before : poll < polls)
    (shown : device.userDone (UInt16.ofNat (place / 2)) poll = true) :
    byteOf (device.userQ (UInt16.ofNat (place / 2)) polls) place = device.byte place := by
  have same := device.shows _ _ _ before shown
  rw [byteOf, OtpDevice.byte, lowByte_eq, highByte_eq, same]

end

/-! ### Waits -/

section

variable {done : Nat → Bool} {retry : UInt64}

/-- How many polls a wait makes at most. A counter that is used up starts over. -/
def waitBudget (retry : UInt64) : Nat := (retry - 1).toNat + 1

/-- What a wait leaves of `Retry`, and the polls it makes. -/
def waitResult (done : Nat → Bool) (retry : UInt64) : UInt64 × Nat :=
  match firstPoll done 0 (waitBudget retry) with
  | some found => (retry - UInt64.ofNat found, found + 1)
  | none => (0, waitBudget retry)

theorem waitBudget_le (retry : UInt64) : waitBudget retry ≤ 2 ^ 64 := (retry - 1).toNat_lt

theorem waitBudget_pred (left : retry - 1 ≠ 0) :
    waitBudget retry = waitBudget (retry - 1) + 1 := by
  have pos : 0 < (retry - 1).toNat :=
    Nat.pos_of_ne_zero fun zero => left (UInt64.toNat_inj.mp zero)
  have pred : (retry - 1 - 1).toNat = (retry - 1).toNat - 1 :=
    UInt64.toNat_sub_of_le _ 1 (UInt64.le_iff_toNat_le.mpr pos)
  rw [waitBudget, waitBudget, pred]
  omega

theorem waitDone_eq (rounds poll : Nat) (enough : waitBudget retry ≤ rounds) :
    waitDone done rounds retry poll =
      some (match firstPoll done poll (waitBudget retry) with
        | some found => (retry - UInt64.ofNat (found - poll), found + 1)
        | none => (0, poll + waitBudget retry)) := by
  induction rounds generalizing retry poll with
  | zero => exact absurd enough (Nat.not_succ_le_zero _)
  | succ rounds ih =>
    rw [waitDone]
    cases now : done poll with
    | true =>
      have first : firstPoll done poll (waitBudget retry) = some poll := by
        rw [waitBudget, firstPoll, if_pos now]
      simp [first]
    | false =>
      have later : firstPoll done poll (waitBudget retry) =
          firstPoll done (poll + 1) (retry - 1).toNat := by
        rw [waitBudget, firstPoll, if_neg (Bool.eq_false_iff.mp now)]
      rw [if_neg Bool.false_ne_true, later]
      by_cases left : retry - 1 = 0
      · simp only [left, if_true, UInt64.toNat_zero, firstPoll, waitBudget, Nat.zero_add]
      · have budget := waitBudget_pred left
        have same : (retry - 1).toNat = waitBudget (retry - 1) := by
          rw [waitBudget] at budget
          omega
        simp only [if_neg left]
        rw [ih (poll + 1) (by omega), same]
        cases ended : firstPoll done (poll + 1) (waitBudget (retry - 1)) with
        | none => simp only [budget, Nat.add_assoc, Nat.add_comm 1]
        | some found =>
          have after := (firstPoll_eq_some_iff.mp ended).1.1
          have split : found - poll = found - (poll + 1) + 1 := by omega
          have back : ∀ x : UInt64, retry - 1 - x = retry - (x + 1) := by grind
          simp only [split, UInt64.ofNat_add, back]
          rfl

theorem waitDone_result (done : Nat → Bool) (retry : UInt64) :
    waitDone done (2 ^ 64) retry 0 = some (waitResult done retry) := by
  rw [waitDone_eq _ _ (waitBudget_le retry), waitResult]
  simp only [Nat.sub_zero, Nat.zero_add]

def waitPolls (device : OtpDevice) : UInt64 → List UInt16 → List Nat
  | _, [] => []
  | retry, addr :: addrs =>
    let (retry, polls) := waitResult (device.userDone addr) retry
    polls :: waitPolls device retry addrs

end

/-! ### The loop -/

section

variable {device : OtpDevice} {range : OtpRange} {place : Nat} {addr bytesRemaining : UInt16}

/-- Where the loop is while there are bytes left: the next byte is in the next word, and the second
in it only at the start of the call. -/
structure Reads (range : OtpRange) (place : Nat) (addr bytesRemaining : UInt16) : Prop where
  more : 0 < bytesRemaining.toNat
  whole : place + bytesRemaining.toNat = range.offset.toNat + range.length.toNat
  addr : addr = UInt16.ofNat (place / 2)
  begin : place = range.offset.toNat ∨ range.offset.toNat < place ∧ place % 2 = 0

/-- How many bytes a word gives. -/
def takeCount (place remaining : Nat) : Nat := if place % 2 = 1 ∨ remaining = 1 then 1 else 2

theorem Reads.start (more : 0 < range.length.toNat) :
    Reads range range.offset.toNat (range.offset / 2) range.length where
  more := more
  whole := rfl
  addr := by
    have half : range.offset.toNat / 2 < 2 ^ 16 :=
      Nat.lt_of_le_of_lt (Nat.div_le_self _ _) range.offset.toNat_lt
    refine UInt16.toNat_inj.mp ?_
    rw [UInt16.toNat_div, UInt16.toNat_ofNat_of_lt' half]
    rfl
  begin := .inl rfl

theorem odd_iff (offset : UInt16) : offset &&& 1 ≠ 0 ↔ offset.toNat % 2 = 1 := by
  have mask : (offset &&& 1).toNat = offset.toNat % 2 := Nat.and_one_is_mod _
  rw [Ne, ← UInt16.toNat_inj, mask, UInt16.toNat_zero]
  omega

/-- A word gives the bytes that are wanted of it. -/
theorem takeBytes_eq (reads : Reads range place addr bytesRemaining) (value : UInt32) :
    takeBytes range value bytesRemaining =
      ((List.range' place (takeCount place bytesRemaining.toNat)).map (byteOf value),
        bytesRemaining - UInt16.ofNat (takeCount place bytesRemaining.toNat)) := by
  have whole := reads.whole
  have first : bytesRemaining = range.length ∧ range.offset &&& 1 ≠ 0 ↔ place % 2 = 1 := by
    rw [odd_iff, ← UInt16.toNat_inj]
    rcases reads.begin with begin | ⟨behind, even⟩ <;> omega
  have last : bytesRemaining = 1 ↔ bytesRemaining.toNat = 1 := UInt16.toNat_inj.symm
  simp only [takeBytes, first, last, takeCount]
  by_cases odd : place % 2 = 1
  · rw [if_pos odd, if_pos (.inl odd)]
    simp [List.range', byteOf, odd]
  · have even : place % 2 = 0 := by omega
    rw [if_neg odd]
    by_cases single : bytesRemaining.toNat = 1
    · rw [if_pos single, if_pos (.inr single)]
      simp [List.range', byteOf, even]
    · have next : (place + 1) % 2 ≠ 0 := by omega
      rw [if_neg single, if_neg (not_or.mpr ⟨odd, single⟩)]
      simp [List.range', byteOf, even, next]

variable {remaining : Nat}

theorem takeCount_le (place : Nat) (more : 0 < remaining) :
    0 < takeCount place remaining ∧ takeCount place remaining ≤ remaining := by
  rw [takeCount]
  split <;> omega

theorem toNat_remaining (more : 0 < bytesRemaining.toNat) :
    (bytesRemaining - UInt16.ofNat (takeCount place bytesRemaining.toNat)).toNat =
      bytesRemaining.toNat - takeCount place bytesRemaining.toNat := by
  have fewer := (takeCount_le place more).2
  have small : (UInt16.ofNat (takeCount place bytesRemaining.toNat)).toNat =
      takeCount place bytesRemaining.toNat :=
    UInt16.toNat_ofNat_of_lt' (Nat.lt_of_le_of_lt fewer bytesRemaining.toNat_lt)
  rw [UInt16.toNat_sub_of_le _ _ (UInt16.le_iff_toNat_le.mpr (by rw [small]; exact fewer)), small]

theorem next_word (left : takeCount place remaining < remaining) :
    (place + takeCount place remaining) % 2 = 0 ∧
      (place + takeCount place remaining) / 2 = place / 2 + 1 := by
  rw [takeCount] at left ⊢
  split at left <;> split <;> omega

theorem Reads.next (reads : Reads range place addr bytesRemaining)
    (left : takeCount place bytesRemaining.toNat < bytesRemaining.toNat) :
    Reads range (place + takeCount place bytesRemaining.toNat) (addr + 1)
      (bytesRemaining - UInt16.ofNat (takeCount place bytesRemaining.toNat)) := by
  have remaining := @toNat_remaining place _ reads.more
  obtain ⟨even, word⟩ := next_word left
  have count := (takeCount_le place reads.more).1
  have whole := reads.whole
  refine ⟨by omega, by omega, ?_, .inr ⟨?_, even⟩⟩
  · rw [word, reads.addr]
    exact (UInt16.ofNat_add _ 1).symm
  · rcases reads.begin with begin | ⟨behind, -⟩ <;> omega

/-- The words from a byte on are that of the byte and those from the next word on. -/
theorem wordsFrom_cons (more : 0 < remaining) :
    wordsFrom place remaining =
      UInt16.ofNat (place / 2) :: wordsFrom (place + takeCount place remaining)
        (remaining - takeCount place remaining) := by
  have fewer := (takeCount_le place more).2
  have count : (place + remaining + 1) / 2 - place / 2 =
      (place + remaining + 1) / 2 - place / 2 - 1 + 1 := by omega
  rw [wordsFrom, if_neg (Nat.ne_of_gt more), count, List.range'_succ, List.map_cons, wordsFrom]
  split
  · next none =>
    have last : (place + remaining + 1) / 2 - place / 2 - 1 = 0 := by
      have all : takeCount place remaining = remaining := by omega
      rw [takeCount] at all
      split at all <;> omega
    rw [last]
    rfl
  · next some =>
    have left : takeCount place remaining < remaining := by omega
    rw [(next_word left).2]
    congr 3
    omega

/-- What the loop stores and does from a byte on. -/
structure Stored (device : OtpDevice) (retry : UInt64) (place remaining : Nat)
    (outcome : OtpOutcome) : Prop where
  length : outcome.data.length = remaining
  accesses : outcome.accesses = (wordsFrom place remaining).map userAddr
  polls : outcome.polls = waitPolls device retry (wordsFrom place remaining)
  bytes : ∀ k < remaining, ∃ polls, outcome.polls[(place + k) / 2 - place / 2]? = some polls ∧
    outcome.data[k]? =
      some (byteOf (device.userQ (UInt16.ofNat ((place + k) / 2)) polls) (place + k))

theorem Stored.nil (device : OtpDevice) (retry : UInt64) (place : Nat) :
    Stored device retry place 0 ⟨[], [], []⟩ where
  length := rfl
  accesses := rfl
  polls := rfl
  bytes := nofun

theorem Stored.cons {retry : UInt64} {later : OtpOutcome} (more : 0 < remaining)
    (stored : Stored device (waitResult (device.userDone (UInt16.ofNat (place / 2))) retry).1
      (place + takeCount place remaining) (remaining - takeCount place remaining) later) :
    Stored device retry place remaining
      ⟨(List.range' place (takeCount place remaining)).map
          (byteOf (device.userQ (UInt16.ofNat (place / 2))
            (waitResult (device.userDone (UInt16.ofNat (place / 2))) retry).2)) ++ later.data,
        userAddr (UInt16.ofNat (place / 2)) :: later.accesses,
        (waitResult (device.userDone (UInt16.ofNat (place / 2))) retry).2 :: later.polls⟩ := by
  have fewer := (takeCount_le place more).2
  refine ⟨?_, ?_, ?_, fun k inside => ?_⟩
  · rw [List.length_append, List.length_map, List.length_range', stored.length]
    omega
  · rw [wordsFrom_cons more, stored.accesses, List.map_cons]
  · rw [wordsFrom_cons more, waitPolls, stored.polls]
  · by_cases own : k < takeCount place remaining
    · have word : (place + k) / 2 = place / 2 := by
        rw [takeCount] at own
        split at own <;> omega
      refine ⟨_, by rw [word, Nat.sub_self]; rfl, ?_⟩
      rw [List.getElem?_append_left (by simpa using own), List.getElem?_map,
        List.getElem?_range' (by simpa using own), word, Nat.one_mul]
      rfl
    · have left : takeCount place remaining < remaining := by omega
      have word := (next_word left).2
      obtain ⟨polls, made, read⟩ := stored.bytes (k - takeCount place remaining) (by omega)
      have same : place + takeCount place remaining + (k - takeCount place remaining) =
          place + k := by
        omega
      rw [same] at made read
      have place_ : (place + k) / 2 - place / 2 =
          (place + k) / 2 - (place + takeCount place remaining) / 2 + 1 := by omega
      refine ⟨polls, by rw [place_]; exact made, ?_⟩
      rw [List.getElem?_append_right (by simpa using own), List.length_map, List.length_range']
      exact read

/-- What a run of the loop stores and does. -/
theorem readWords_places {retry : UInt64} {rounds : Nat}
    (reads : 0 < bytesRemaining.toNat → Reads range place addr bytesRemaining)
    (enough : bytesRemaining.toNat ≤ rounds) :
    ∃ outcome, readWords device range rounds addr bytesRemaining retry = some outcome ∧
      Stored device retry place bytesRemaining.toNat outcome := by
  induction rounds generalizing place addr bytesRemaining retry with
  | zero =>
    have none : bytesRemaining.toNat = 0 := Nat.le_zero.mp enough
    have stop : ¬ 0 < bytesRemaining := fun more =>
      Nat.not_lt_zero _ (none ▸ UInt16.lt_iff_toNat_lt.mp more)
    rw [readWords, if_neg stop, none]
    exact ⟨_, rfl, Stored.nil device retry place⟩
  | succ rounds ih =>
    by_cases more : 0 < bytesRemaining.toNat
    · have now := reads more
      have remaining := @toNat_remaining place _ more
      have count := (takeCount_le place more).1
      obtain ⟨later, read, stored⟩ := @ih (place + takeCount place bytesRemaining.toNat) (addr + 1)
        (bytesRemaining - UInt16.ofNat (takeCount place bytesRemaining.toNat))
        (waitResult (device.userDone (UInt16.ofNat (place / 2))) retry).1
        (fun left => now.next (by omega)) (by omega)
      rw [remaining] at stored
      have goes : 0 < bytesRemaining := UInt16.lt_iff_toNat_lt.mpr more
      rw [now.addr] at read
      simp only [readWords, if_pos goes, now.addr, waitDone_result, takeBytes_eq now, read,
        Option.bind_eq_bind, Option.bind_some]
      exact ⟨_, rfl, stored.cons more⟩
    · have none : bytesRemaining.toNat = 0 := Nat.eq_zero_of_not_pos more
      have stop : ¬ 0 < bytesRemaining := fun goes => more (UInt16.lt_iff_toNat_lt.mp goes)
      rw [readWords, if_neg stop, none]
      exact ⟨_, rfl, Stored.nil device retry place⟩

end

/-! ### Bounds -/

section

variable {device : OtpDevice} {retry : UInt64} {addr : UInt16} {addrs : List UInt16}

/-- The access to a word ends within the polls of one wait. -/
def EndsInTime (device : OtpDevice) (addr : UInt16) : Prop :=
  ∃ poll < otpRetry.toNat, device.userDone addr poll = true

/-- The polls of a word that do not show the end of its access, of those one wait may make. -/
def failedPolls (device : OtpDevice) (addr : UInt16) : Nat :=
  (firstPoll (device.userDone addr) 0 otpRetry.toNat).getD otpRetry.toNat

/-- Once as many polls have failed as a wait may make, words are accessed in time. -/
def EndInTime (device : OtpDevice) : Nat → List UInt16 → Prop
  | _, [] => True
  | failed, addr :: addrs =>
    (otpRetry.toNat ≤ failed → EndsInTime device addr) ∧
      EndInTime device (failed + failedPolls device addr) addrs

/-- What is left of `Retry` after a number of polls that failed: the counter is used up, and as
long as every access ends in time it stays large. -/
def Counts (count failed : Nat) (retry : UInt64) : Prop :=
  if failed < otpRetry.toNat then retry.toNat + failed = otpRetry.toNat
  else retry = 0 ∨ otpRetry.toNat * (count + 1) < retry.toNat

theorem endsInTime_iff :
    EndsInTime device addr ↔ (firstPoll (device.userDone addr) 0 otpRetry.toNat).isSome := by
  rw [firstPoll_isSome_iff, EndsInTime, Nat.zero_add]
  exact exists_congr fun poll => ⟨fun ⟨before, shown⟩ => ⟨Nat.zero_le _, before, shown⟩,
    fun ⟨_, before, shown⟩ => ⟨before, shown⟩⟩

theorem otpRetry_toNat : otpRetry.toNat = 100000 := rfl

theorem waitBudget_pos (pos : 0 < retry.toNat) : waitBudget retry = retry.toNat := by
  have pred := UInt64.toNat_sub_of_le retry 1 (UInt64.le_iff_toNat_le.mpr pos)
  rw [waitBudget, pred, UInt64.toNat_one]
  omega

theorem Counts.waits {count failed : Nat} (counts : Counts (count + 1) failed retry)
    (device : OtpDevice) (addr : UInt16) (left : failed < otpRetry.toNat) :
    (waitResult (device.userDone addr) retry).2 ≤ otpRetry.toNat ∧
      Counts count (failed + failedPolls device addr)
        (waitResult (device.userDone addr) retry).1 := by
  rw [Counts, if_pos left] at counts
  have budget := @waitBudget_pos retry (by omega)
  rw [waitResult, budget, Counts, failedPolls]
  cases ended : firstPoll (device.userDone addr) 0 retry.toNat with
  | some found =>
    obtain ⟨⟨-, before⟩, shown, first⟩ := firstPoll_eq_some_iff.mp ended
    have same : firstPoll (device.userDone addr) 0 otpRetry.toNat = some found :=
      firstPoll_eq_some_iff.mpr ⟨⟨Nat.zero_le _, by omega⟩, shown, first⟩
    have small : (UInt64.ofNat found).toNat = found :=
      UInt64.toNat_ofNat_of_lt' (Nat.lt_of_le_of_lt (by omega) retry.toNat_lt)
    have less := UInt64.toNat_sub_of_le retry (UInt64.ofNat found)
      (UInt64.le_iff_toNat_le.mpr (by omega))
    rw [same, Option.getD_some, if_pos (by omega)]
    simp only [less, small]
    omega
  | none =>
    have never := firstPoll_eq_none_iff.mp ended
    have used : retry.toNat ≤
        (firstPoll (device.userDone addr) 0 otpRetry.toNat).getD otpRetry.toNat := by
      cases full : firstPoll (device.userDone addr) 0 otpRetry.toNat with
      | none => exact Nat.le.intro counts
      | some found =>
        by_contra early
        have shown := (firstPoll_eq_some_iff.mp full).2.1
        rw [never found (Nat.zero_le _) (by rw [Option.getD_some] at early; omega)] at shown
        exact nomatch shown
    rw [if_neg (by omega)]
    exact ⟨Nat.le.intro counts, .inl rfl⟩

theorem Counts.overruns {count failed : Nat} (counts : Counts (count + 1) failed retry)
    (device : OtpDevice) (addr : UInt16) (few : otpRetry.toNat * (count + 3) < 2 ^ 64)
    (used : otpRetry.toNat ≤ failed) :
    ((waitResult (device.userDone addr) retry).2 ≤ otpRetry.toNat ↔ EndsInTime device addr) ∧
      (EndsInTime device addr → Counts count (failed + failedPolls device addr)
        (waitResult (device.userDone addr) retry).1) := by
  rw [Counts, if_neg (by omega)] at counts
  have long : otpRetry.toNat < waitBudget retry := by
    rcases counts with rfl | large
    · decide
    · rw [waitBudget_pos (by omega)]
      rw [otpRetry_toNat] at large ⊢
      omega
  have spent : ¬ failed + failedPolls device addr < otpRetry.toNat := by omega
  rw [Counts, if_neg spent, endsInTime_iff, waitResult]
  cases ended : firstPoll (device.userDone addr) 0 (waitBudget retry) with
  | some found =>
    obtain ⟨-, shown, first⟩ := firstPoll_eq_some_iff.mp ended
    have time : (firstPoll (device.userDone addr) 0 otpRetry.toNat).isSome ↔
        found < otpRetry.toNat := by
      rw [firstPoll_isSome_iff]
      constructor
      · rintro ⟨poll, -, before, shows⟩
        by_contra late
        rw [first poll (Nat.zero_le _) (by omega)] at shows
        exact nomatch shows
      · exact fun early => ⟨found, Nat.zero_le _, by omega, shown⟩
    rw [time]
    refine ⟨Nat.succ_le_iff, fun early => ?_⟩
    have small : (UInt64.ofNat found).toNat = found :=
      UInt64.toNat_ofNat_of_lt' (Nat.lt_trans early (by decide))
    rw [otpRetry_toNat] at counts early few ⊢
    have after : (retry - UInt64.ofNat found).toNat =
        (2 ^ 64 - found + retry.toNat) % 2 ^ 64 := by
      rw [UInt64.toNat_sub, small]
    have same : retry - UInt64.ofNat found = 0 ↔ (retry - UInt64.ofNat found).toNat = 0 :=
      UInt64.toNat_inj.symm
    rw [same, after]
    rcases counts with rfl | large
    · rw [UInt64.toNat_zero]
      omega
    · have below := retry.toNat_lt
      omega
  | none =>
    have never := firstPoll_eq_none_iff.mp ended
    have late : ¬ (firstPoll (device.userDone addr) 0 otpRetry.toNat).isSome := by
      rw [firstPoll_isSome_iff]
      rintro ⟨poll, -, before, shows⟩
      rw [never poll (Nat.zero_le _) (by omega)] at shows
      exact nomatch shows
    exact ⟨⟨fun short => absurd short (by simpa using long), fun early => absurd early late⟩,
      fun early => absurd early late⟩

/-- The waits for words are bounded exactly when words are accessed in time once the counter is
used up. -/
theorem waitPolls_bounded_iff {failed : Nat} (counts : Counts addrs.length failed retry)
    (few : otpRetry.toNat * (addrs.length + 2) < 2 ^ 64) :
    (∀ polls ∈ waitPolls device retry addrs, polls ≤ otpRetry.toNat) ↔
      EndInTime device failed addrs := by
  induction addrs generalizing retry failed with
  | nil => exact ⟨fun _ => trivial, fun _ => nofun⟩
  | cons addr addrs ih =>
    have fewer : otpRetry.toNat * (addrs.length + 2) < 2 ^ 64 :=
      Nat.lt_of_le_of_lt (Nat.mul_le_mul_left _ (by rw [List.length_cons]; omega)) few
    rw [waitPolls, List.forall_mem_cons, EndInTime]
    by_cases left : failed < otpRetry.toNat
    · obtain ⟨bounded, next⟩ := counts.waits device addr left
      rw [ih next fewer]
      exact and_congr ⟨fun _ late => absurd left (Nat.not_lt.mpr late), fun _ => bounded⟩ Iff.rfl
    · have used := Nat.not_lt.mp left
      obtain ⟨bounded, next⟩ := counts.overruns device addr few used
      rw [bounded]
      constructor
      · rintro ⟨intime, later⟩
        exact ⟨fun _ => intime, (ih (next intime) fewer).mp later⟩
      · rintro ⟨intime, later⟩
        exact ⟨intime used, (ih (next (intime used)) fewer).mpr later⟩

end

/-! ### The call -/

section

variable {device : OtpDevice} {range : OtpRange}

/-- The bytes of a call are written, and each word that holds some of them is accessed once, in
order. A byte is that of the memory if the wait for its word has seen the end of the access. -/
structure OtpExact (device : OtpDevice) (range : OtpRange) (outcome : OtpOutcome) : Prop where
  length : outcome.data.length = range.length.toNat
  accesses : outcome.accesses = range.words.map userAddr
  once : outcome.accesses.Nodup
  waits : outcome.polls.length = range.words.length
  bytes : ∀ k < range.length.toNat, ∃ polls,
    outcome.polls[(range.offset.toNat + k) / 2 - range.offset.toNat / 2]? = some polls ∧
      ((∃ poll < polls,
          device.userDone (UInt16.ofNat ((range.offset.toNat + k) / 2)) poll = true) →
        outcome.data[k]? = some (device.byte (range.offset.toNat + k)))

theorem toUInt16_userAddr (addr : UInt16) : (userAddr addr).toUInt16 = addr := by
  have mask : ((0xFFFF : UInt32) <<< 16).toUInt16 = 0 := rfl
  rw [userAddr, UInt32.toUInt16_or, mask, UInt16.zero_or, UInt16.toUInt16_toUInt32]

theorem OtpRange.last_word (range : OtpRange) {word : Nat}
    (used : word ∈ List.range' (range.offset.toNat / 2) (if range.length.toNat = 0 then 0 else
      (range.offset.toNat + range.length.toNat + 1) / 2 - range.offset.toNat / 2)) :
    word < 2 ^ 16 := by
  have fits := range.fits
  rw [List.mem_range'_1] at used
  split at used <;> omega

theorem OtpRange.words_nodup (range : OtpRange) : range.words.Nodup := by
  refine List.Nodup.map_on (fun word used other usedOther same => ?_) List.nodup_range'
  rw [← UInt16.toNat_inj, UInt16.toNat_ofNat_of_lt' (range.last_word used),
    UInt16.toNat_ofNat_of_lt' (range.last_word usedOther)] at same
  exact same

theorem OtpRange.few_words (range : OtpRange) :
    otpRetry.toNat * (range.words.length + 2) < 2 ^ 64 := by
  have fits := range.fits
  rw [OtpRange.words, wordsFrom, List.length_map, List.length_range', otpRetry_toNat]
  split <;> omega

theorem waitPolls_length (device : OtpDevice) (retry : UInt64) (addrs : List UInt16) :
    (waitPolls device retry addrs).length = addrs.length := by
  induction addrs generalizing retry with
  | nil => rfl
  | cons addr addrs ih => rw [waitPolls, List.length_cons, ih, List.length_cons]

theorem otpRead_stored (device : OtpDevice) (range : OtpRange) :
    ∃ eccPolls outcome, otpRead device range = some (eccPolls, outcome) ∧
      eccPolls ≤ otpRetry.toNat ∧
        Stored device otpRetry range.offset.toNat range.length.toNat outcome := by
  obtain ⟨outcome, read, stored⟩ := @readWords_places device range range.offset.toNat
    (range.offset / 2) range.length otpRetry range.length.toNat Reads.start (Nat.le_refl _)
  simp only [otpRead, otpDisableEcc, waitDone_result, read, Option.bind_eq_bind, Option.bind_some]
  refine ⟨_, outcome, rfl, ?_, stored⟩
  rw [waitResult]
  cases ended : firstPoll device.sbpiDone 0 (waitBudget otpRetry) with
  | none => exact Nat.le_refl _
  | some found =>
    have inside := (firstPoll_eq_some_iff.mp ended).1.2
    rwa [Nat.zero_add] at inside

theorem Stored.exact {outcome : OtpOutcome}
    (stored : Stored device otpRetry range.offset.toNat range.length.toNat outcome) :
    OtpExact device range outcome where
  length := stored.length
  accesses := stored.accesses
  once := by
    rw [stored.accesses]
    refine range.words_nodup.map fun addr other same => ?_
    rw [← toUInt16_userAddr addr, same, toUInt16_userAddr]
  waits := by rw [stored.polls, waitPolls_length, OtpRange.words]
  bytes k inside := by
    obtain ⟨polls, made, read⟩ := stored.bytes k inside
    refine ⟨polls, made, fun ⟨poll, before, shown⟩ => ?_⟩
    rw [read, byteOf_shown before shown]

theorem counts_start (count : Nat) : Counts count 0 otpRetry := by
  rw [Counts, if_pos (by decide)]
  rfl

end

/-- The bytes of a call are always those of the memory. Its waits end after the polls that each may
make exactly when, once as many polls have failed in the call as one wait may make, every further
word is accessed within that many. -/
theorem otpRead_exact_bounded_iff (device : OtpDevice) (range : OtpRange) :
    (∃ eccPolls outcome, otpRead device range = some (eccPolls, outcome) ∧
      OtpExact device range outcome ∧ eccPolls ≤ otpRetry.toNat ∧
        ∀ polls ∈ outcome.polls, polls ≤ otpRetry.toNat) ↔
      EndInTime device 0 range.words := by
  obtain ⟨eccPolls, outcome, returned, ecc, stored⟩ := otpRead_stored device range
  have bounded : (∀ polls ∈ outcome.polls, polls ≤ otpRetry.toNat) ↔
      EndInTime device 0 range.words := by
    rw [stored.polls]
    exact waitPolls_bounded_iff (counts_start _) range.few_words
  constructor
  · rintro ⟨otherPolls, other, same, -, -, short⟩
    obtain ⟨-, rfl⟩ := Prod.mk.inj (Option.some.inj (returned.symm.trans same))
    exact bounded.mp short
  · exact fun intime => ⟨eccPolls, outcome, returned, stored.exact, ecc, bounded.mpr intime⟩

/-- A memory that never ends an access. -/
def deadDevice : OtpDevice where
  words := fun _ => 0
  sbpiDone := fun _ => false
  userDone := fun _ _ => false
  userQ := fun _ _ => 0
  shows := nofun

/-- Two words whose access never ends: the counter is used up by the first, and the wait for the
second one goes on. -/
theorem otpRead_waits_on :
    ¬ ∃ eccPolls outcome, otpRead deadDevice ⟨0, 3, by decide⟩ = some (eccPolls, outcome) ∧
      OtpExact deadDevice ⟨0, 3, by decide⟩ outcome ∧ eccPolls ≤ otpRetry.toNat ∧
        ∀ polls ∈ outcome.polls, polls ≤ otpRetry.toNat := by
  rintro ⟨eccPolls, outcome, returned, -, -, short⟩
  obtain ⟨otherPolls, other, same, -, stored⟩ := otpRead_stored deadDevice ⟨0, 3, by decide⟩
  obtain ⟨-, rfl⟩ := Prod.mk.inj (Option.some.inj (same.symm.trans returned))
  rw [stored.polls] at short
  have few : otpRetry.toNat * (2 + 2) < 2 ^ 64 := by decide
  have intime := (@waitPolls_bounded_iff deadDevice otpRetry [0, 1] 0 (counts_start 2) few).mp short
  have failed : failedPolls deadDevice 0 = otpRetry.toNat := by
    have never : firstPoll (deadDevice.userDone 0) 0 otpRetry.toNat = none :=
      firstPoll_eq_none_iff.mpr fun _ _ _ => rfl
    rw [failedPolls, never, Option.getD_none]
  obtain ⟨poll, -, shown⟩ := intime.2.1 (by
    rw [Nat.zero_add]
    exact Nat.le_of_eq failed.symm)
  exact nomatch shown

end MuRockchip.Otp
