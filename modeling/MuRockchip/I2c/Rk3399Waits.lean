/-
The waits of RK3399 I2C transfers.

A transfer is started and then done in chunks of at most 32 bytes, and the start and each chunk are
waited for. The counters of these waits stop at different values.

* `timeOutBehind_eq`: what is left of a counter behind its loop.
* `sendStartBit_isError_iff`, `chunkTimesOut_iff`: which waits the code takes for failed.
* `ran_told_iff`: when a transfer returns an error exactly if some of its waits failed.
-/
import MuRockchip.Base.Polling
import MuRockchip.Uefi.Status

namespace MuRockchip.I2c.Rk3399

open Base

/-! ### Waits -/

/-- What the polls of a wait show: the end of what is waited for, and a `NAK`. -/
structure Wait where
  done : Nat → Bool
  nak : Nat → Bool

def i2cTimeoutUs : Nat := 100000

def efiLoadError : EfiStatus := EfiStatus.encodeError 1

/-- What is waited for is shown by one of the polls, and no `NAK` before. -/
def Wait.Succeeds (wait : Wait) : Prop :=
  ∃ poll < i2cTimeoutUs, wait.done poll = true ∧ ∀ earlier ≤ poll, wait.nak earlier = false

/-- What is waited for is shown by a poll before the last one. -/
def Wait.Early (wait : Wait) : Prop := ∃ poll < i2cTimeoutUs - 1, wait.done poll = true

/-- What is waited for is shown by the last poll and by none before. -/
def Wait.Last (wait : Wait) : Prop :=
  wait.done (i2cTimeoutUs - 1) = true ∧ ¬ wait.Early

/-- `while (TimeOut--)`: what is left of `TimeOut`, before the counter gets its type. -/
def timeOutBehind (done : Nat → Bool) : Nat → Nat → Int
  | 0, _ => -1
  | timeOut + 1, poll => if done poll then timeOut else timeOutBehind done timeOut (poll + 1)

/-- `RkI2CSendStartBit`, whose counter is a `UINT32`. -/
def sendStartBit (wait : Wait) : EfiStatus :=
  let timeOut := UInt32.ofInt (timeOutBehind wait.done i2cTimeoutUs 0)
  if timeOut ≤ 0 then efiLoadError else EfiStatus.success

/-- The wait for a chunk, whose counter is an `int`. A `NAK` is cleared and forgotten. -/
def chunkTimesOut (wait : Wait) : Bool := timeOutBehind wait.done i2cTimeoutUs 0 ≤ 0

section

variable {wait : Wait}

theorem timeOutBehind_eq (done : Nat → Bool) (timeOut poll : Nat) :
    timeOutBehind done timeOut poll =
      match firstPoll done poll timeOut with
      | some found => (timeOut : Int) - 1 - (found - poll)
      | none => -1 := by
  induction timeOut generalizing poll with
  | zero => rfl
  | succ timeOut ih =>
    rw [timeOutBehind, firstPoll]
    cases now : done poll with
    | true => simp
    | false =>
      simp only [Bool.false_eq_true, if_false, ih]
      cases firstPoll done (poll + 1) timeOut with
      | none => rfl
      | some found =>
        simp only
        omega

theorem Wait.cases (wait : Wait) :
    (wait.Early ∧ ∃ left : Nat, 0 < left ∧ left < i2cTimeoutUs ∧
      timeOutBehind wait.done i2cTimeoutUs 0 = left) ∨
    (wait.Last ∧ timeOutBehind wait.done i2cTimeoutUs 0 = 0) ∨
    (¬ wait.Early ∧ ¬ wait.Last ∧ timeOutBehind wait.done i2cTimeoutUs 0 = -1) := by
  rw [timeOutBehind_eq]
  cases ended : firstPoll wait.done 0 i2cTimeoutUs with
  | some found =>
    obtain ⟨⟨-, before⟩, shown, first⟩ := firstPoll_eq_some_iff.mp ended
    rw [Nat.zero_add] at before
    by_cases last : found = i2cTimeoutUs - 1
    · refine .inr (.inl ⟨⟨last ▸ shown, ?_⟩, ?_⟩)
      · rintro ⟨poll, early, shows⟩
        exact nomatch (first poll (Nat.zero_le _) (by omega)).symm.trans shows
      · simp only [i2cTimeoutUs] at last ⊢
        omega
    · refine .inl ⟨⟨found, by omega, shown⟩, i2cTimeoutUs - 1 - found, by omega, by omega, ?_⟩
      simp only [i2cTimeoutUs] at last before ⊢
      omega
  | none =>
    have never := firstPoll_eq_none_iff.mp ended
    refine .inr (.inr ⟨?_, ?_, rfl⟩)
    · rintro ⟨poll, early, shows⟩
      exact nomatch (never poll (Nat.zero_le _) (by omega)).symm.trans shows
    · rintro ⟨shows, -⟩
      exact nomatch (never _ (Nat.zero_le _) (by decide)).symm.trans shows

/-- A start is taken for failed if it is over with the last poll. -/
theorem sendStartBit_isError_iff : (sendStartBit wait).isError = true ↔ wait.Last := by
  rw [sendStartBit]
  rcases wait.cases with ⟨early, left, pos, below, behind⟩ | ⟨last, behind⟩ |
      ⟨-, late, behind⟩
  · have none : ¬ UInt32.ofInt (left : Int) ≤ 0 := by
      have value : (UInt32.ofInt (left : Int)).toNat = left := by
        rw [UInt32.ofInt, UInt32.toNat_ofNat']
        simp only [i2cTimeoutUs] at below
        omega
      rw [UInt32.le_iff_toNat_le, value, UInt32.toNat_zero]
      omega
    rw [behind]
    simp only [if_neg none]
    exact ⟨fun error => (nomatch error), fun last => absurd early last.2⟩
  · rw [behind]
    exact ⟨fun _ => last, fun _ => by decide⟩
  · rw [behind]
    exact ⟨fun error => absurd error (by decide), fun last => absurd last late⟩

/-- A chunk is taken for failed unless it is over before the last poll. -/
theorem chunkTimesOut_iff : chunkTimesOut wait = true ↔ ¬ wait.Early := by
  rw [chunkTimesOut, decide_eq_true_iff]
  rcases wait.cases with ⟨early, left, pos, -, behind⟩ | ⟨last, behind⟩ | ⟨late, -, behind⟩
  · rw [behind]
    exact ⟨fun below => by omega, fun late => absurd early late⟩
  · rw [behind]
    exact ⟨fun _ => last.2, fun _ => Int.le_refl _⟩
  · rw [behind]
    exact ⟨fun _ => late, fun _ => by decide⟩

end

/-! ### Runs -/

section

variable {start : Wait} {chunks : Nat → Wait} {first count executed : Nat} {error : Bool}

/-- How the loop over chunks ends: all are over early, or it stops with the first that is not. -/
def Looped (chunks : Nat → Wait) (first count executed : Nat) (error : Bool) : Prop :=
  (error = false ∧ executed = count ∧ ∀ k < count, (chunks (first + k)).Early) ∨
  (error = true ∧ ∃ last < count, executed = last + 1 ∧ ¬ (chunks (first + last)).Early ∧
    ∀ k < last, (chunks (first + k)).Early)

/-- How a transfer ends: with its start, or with its chunks. -/
def Ran (start : Wait) (chunks : Nat → Wait) (count executed : Nat) (error : Bool) : Prop :=
  (start.Last ∧ error = true ∧ executed = 0) ∨
  (¬ start.Last ∧ Looped chunks 0 count executed error)

/-- A chunk that a transfer gets to. -/
def Reached (start : Wait) (chunks : Nat → Wait) (count chunk : Nat) : Prop :=
  chunk < count ∧ ¬ start.Last ∧ ∀ k < chunk, (chunks k).Early

def Stops (start : Wait) (chunks : Nat → Wait) (count : Nat) : Prop :=
  start.Last ∨ ∃ chunk, Reached start chunks count chunk ∧ ¬ (chunks chunk).Early

def SomeFails (start : Wait) (chunks : Nat → Wait) (count : Nat) : Prop :=
  ¬ start.Succeeds ∨ ∃ chunk, Reached start chunks count chunk ∧ ¬ (chunks chunk).Succeeds

/-- No wait of a transfer fails, and none is over with its last poll. -/
def Clean (start : Wait) (chunks : Nat → Wait) (count : Nat) : Prop :=
  (start.Early ∧ start.Succeeds) ∧ ∀ k < count, (chunks k).Early ∧ (chunks k).Succeeds

theorem Looped.nil (chunks : Nat → Wait) (first : Nat) : Looped chunks first 0 0 false :=
  .inl ⟨rfl, rfl, fun _ below => absurd below (Nat.not_lt_zero _)⟩

theorem Looped.stop (late : ¬ (chunks first).Early) : Looped chunks first (count + 1) 1 true :=
  .inr ⟨rfl, 0, Nat.succ_pos _, rfl, late, fun _ below => absurd below (Nat.not_lt_zero _)⟩

theorem Looped.cons (early : (chunks first).Early)
    (later : Looped chunks (first + 1) count executed error) :
    Looped chunks first (count + 1) (executed + 1) error := by
  have shift : ∀ bound, (∀ k < bound, (chunks (first + 1 + k)).Early) →
      ∀ k < bound + 1, (chunks (first + k)).Early := by
    intro bound all k below
    cases k with
    | zero => exact early
    | succ k =>
      have place : first + (k + 1) = first + 1 + k := by omega
      exact place ▸ all k (Nat.lt_of_succ_lt_succ below)
  rcases later with ⟨fine, whole, all⟩ | ⟨failed, last, inside, stopped, late, before⟩
  · exact .inl ⟨fine, congrArg (· + 1) whole, shift count all⟩
  · have place : first + (last + 1) = first + 1 + last := by omega
    exact .inr ⟨failed, last + 1, Nat.succ_lt_succ inside, congrArg (· + 1) stopped, place ▸ late,
      shift last before⟩

theorem Ran.reached (ran : Ran start chunks count executed error) :
    (error = true ↔ Stops start chunks count) ∧
      ∀ chunk, chunk < executed ↔ Reached start chunks count chunk := by
  rcases ran with ⟨last, rfl, rfl⟩ |
    ⟨goes, ⟨rfl, rfl, all⟩ | ⟨rfl, stop, inside, rfl, late, before⟩⟩
  · exact ⟨⟨fun _ => .inl last, fun _ => rfl⟩, fun chunk =>
      ⟨fun below => absurd below (Nat.not_lt_zero _), fun reached => absurd last reached.2.1⟩⟩
  · simp only [Nat.zero_add] at all
    refine ⟨⟨fun fine => (nomatch fine), fun stops => ?_⟩, fun chunk => ?_⟩
    · rcases stops with last | ⟨chunk, reached, late⟩
      · exact absurd last goes
      · exact absurd (all chunk reached.1) late
    · exact ⟨fun below => ⟨below, goes, fun k less => all k (Nat.lt_trans less below)⟩,
        fun reached => reached.1⟩
  · simp only [Nat.zero_add] at late before
    refine ⟨⟨fun _ => .inr ⟨stop, ⟨inside, goes, before⟩, late⟩, fun _ => rfl⟩, fun chunk => ?_⟩
    constructor
    · intro below
      exact ⟨by omega, goes, fun k less => before k (by omega)⟩
    · rintro ⟨-, -, early⟩
      by_contra behind
      exact late (early stop (by omega))

theorem Wait.early_of_succeeds {wait : Wait} (fine : wait.Succeeds) (other : ¬ wait.Last) :
    wait.Early := by
  obtain ⟨poll, before, shown, -⟩ := fine
  by_contra late
  have last : poll = i2cTimeoutUs - 1 := by
    by_contra differs
    exact late ⟨poll, by omega, shown⟩
  exact other ⟨last ▸ shown, late⟩

/-- A transfer goes through without a failure when all its waits are over early and succeed. -/
theorem clean_iff : Clean start chunks count ↔
    ¬ Stops start chunks count ∧ ¬ SomeFails start chunks count := by
  constructor
  · rintro ⟨⟨early, fine⟩, all⟩
    refine ⟨?_, ?_⟩
    · rintro (last | ⟨chunk, reached, late⟩)
      · exact last.2 early
      · exact late (all chunk reached.1).1
    · rintro (failed | ⟨chunk, reached, failed⟩)
      · exact failed fine
      · exact failed (all chunk reached.1).2
  · rintro ⟨runs, fine⟩
    have goes : ¬ start.Last := fun last => runs (.inl last)
    have started : start.Succeeds := not_not.mp fun failed => fine (.inl failed)
    have early : ∀ chunk < count, (chunks chunk).Early := by
      intro chunk
      induction chunk using Nat.strongRecOn with
      | _ chunk ih =>
        intro below
        by_contra late
        exact runs (.inr ⟨chunk, ⟨below, goes, fun k less => ih k less (Nat.lt_trans less below)⟩,
          late⟩)
    refine ⟨⟨Wait.early_of_succeeds started goes, started⟩, fun chunk below =>
      ⟨early chunk below, ?_⟩⟩
    by_contra failed
    exact fine (.inr ⟨chunk, ⟨below, goes, fun k less => early k (Nat.lt_trans less below)⟩,
      failed⟩)

/-- A transfer returns an error exactly if one of its waits failed when all are over early and
succeed, or it stops and one has failed. -/
theorem ran_told_iff (ran : Ran start chunks count executed error) :
    (error = true ↔ ¬ start.Succeeds ∨ ∃ chunk < executed, ¬ (chunks chunk).Succeeds) ↔
      Clean start chunks count ∨ Stops start chunks count ∧ SomeFails start chunks count := by
  obtain ⟨stops, reached⟩ := ran.reached
  have fails : (¬ start.Succeeds ∨ ∃ chunk < executed, ¬ (chunks chunk).Succeeds) ↔
      SomeFails start chunks count := by
    rw [SomeFails]
    exact or_congr Iff.rfl (exists_congr fun chunk => and_congr (reached chunk) Iff.rfl)
  rw [stops, fails, clean_iff]
  exact iff_iff_and_or_not_and_not.trans or_comm

end

end MuRockchip.I2c.Rk3399
