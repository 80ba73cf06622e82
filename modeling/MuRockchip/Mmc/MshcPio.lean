/-
The data phase of MSHC transfers (`MshcReadBlockData`, `MshcWriteBlockData`).

The words of a transfer go through the FIFO of the controller. A read looks at the flags, takes
what the FIFO has, and gives up when nothing has come for a while. A write waits for room before
every word and looks at the flags when all words are in the FIFO.

* `readWords_ended`, `readWords_ends`: the outcome of the loop of a read, and that there is one.
* `writeWords_ends_iff`: the writes that get all their words into the FIFO.
* `pio_exact_iff`: the transfers that are as they should be.
-/
import MuRockchip.Mmc.MshcCommand

namespace MuRockchip.Mmc.Mshc

open Base

/-! ### Reads -/

/-- What a read finds. In each of its rounds the flags are looked at, then the FIFO has some words
until it is empty, or until the read has all it wants, and then the flags may be looked at again. -/
structure ReadSchedule where
  rintsts : Nat → UInt32
  burst : Nat → List UInt32
  sticky : Sticky rintsts

namespace ReadSchedule

/-- The flags before and behind the words of a round. -/
def flags (schedule : ReadSchedule) (round : Nat) : UInt32 := schedule.rintsts (2 * round)

def flagsBehind (schedule : ReadSchedule) (round : Nat) : UInt32 :=
  schedule.rintsts (2 * round + 1)

/-- The words that the FIFO has in a number of rounds. -/
def words (schedule : ReadSchedule) (rounds : Nat) : List UInt32 :=
  (List.range rounds).flatMap schedule.burst

def arrived (schedule : ReadSchedule) (rounds : Nat) : Nat := (schedule.words rounds).length

/-- The rounds since there was a word, that one included. -/
def idle (schedule : ReadSchedule) : Nat → Nat
  | 0 => 0
  | rounds + 1 => if schedule.burst rounds = [] then schedule.idle rounds + 1 else 1

end ReadSchedule

/-- The status of a read, what is in the buffer, and how many rounds were begun. -/
structure ReadOutcome where
  status : EfiStatus
  stored : List UInt32
  rounds : Nat
  deriving DecidableEq, Repr

def ReadOutcome.prepend (stored : List UInt32) (outcome : ReadOutcome) : ReadOutcome :=
  { outcome with stored := stored ++ outcome.stored }

/-- The inner loop of a read: what is stored, and `DataLen` behind it. -/
def takeBurst : List UInt32 → Nat → List UInt32 × Nat
  | data :: burst, dataLen + 1 =>
    let (stored, left) := takeBurst burst dataLen
    (data :: stored, left)
  | _, dataLen => ([], dataLen)

/-- The initial value of `TimeOut`. -/
def readTimeOut : Nat := 1000000

/-- The outer loop of a read, for a number of rounds. -/
def readWords (schedule : ReadSchedule) : Nat → Nat → Nat → Nat → Option ReadOutcome
  | 0, _, _, _ => none
  | rounds + 1, round, dataLen, timeOut =>
    if dataLen = 0 then some ⟨EfiStatus.success, [], round⟩
    else if schedule.flags round &&& readErrorFlags ≠ 0 then
      some ⟨EfiStatus.deviceError, [], round + 1⟩
    else
      let (stored, dataLen) := takeBurst (schedule.burst round) dataLen
      let timeOut := if stored = [] then timeOut else readTimeOut
      if dataLen = 0 then
        some ⟨if schedule.flagsBehind round &&& readErrorFlags ≠ 0 then EfiStatus.deviceError
          else EfiStatus.success, stored, round + 1⟩
      else if timeOut - 1 = 0 then some ⟨EfiStatus.deviceError, stored, round + 1⟩
      else (readWords schedule rounds (round + 1) dataLen (timeOut - 1)).map
        (ReadOutcome.prepend stored)

/-- `MshcReadBlockData`. `DataLen` is a `UINT32`. -/
def mshcReadBlockData (rounds : Nat) (mshcCommand : UInt32) (answers : CommandAnswers)
    (schedule : ReadSchedule) (length : UInt64) : Option ReadOutcome := do
  let status ← commandPhase answers (waitsPrvdata mshcCommand) (resetsBeforeRead mshcCommand) rounds
  if status.isError then some ⟨EfiStatus.deviceError, [], 0⟩
  else readWords schedule rounds 0 (length >>> 2).toUInt32.toNat readTimeOut

/-- The words come, the last of them in a round, before the read gives up and without a flag that
it looks at. -/
structure Delivered (schedule : ReadSchedule) (count last : Nat) : Prop where
  enough : count ≤ schedule.arrived (last + 1)
  first : schedule.arrived last < count
  steady : ∀ round ≤ last, schedule.idle round < readTimeOut
  clear : schedule.flagsBehind last &&& readErrorFlags = 0

section

variable {schedule : ReadSchedule} {rounds round count last : Nat} {outcome : ReadOutcome}

theorem takeBurst_eq (burst : List UInt32) (dataLen : Nat) :
    takeBurst burst dataLen = (burst.take dataLen, dataLen - burst.length) := by
  induction burst generalizing dataLen with
  | nil => cases dataLen <;> rfl
  | cons data burst ih =>
    cases dataLen with
    | zero => simp [takeBurst]
    | succ dataLen => simp [takeBurst, ih]

theorem ReadSchedule.words_succ (schedule : ReadSchedule) (rounds : Nat) :
    schedule.words (rounds + 1) = schedule.words rounds ++ schedule.burst rounds := by
  simp [words, List.range_succ]

theorem ReadSchedule.arrived_succ (schedule : ReadSchedule) (rounds : Nat) :
    schedule.arrived (rounds + 1) = schedule.arrived rounds + (schedule.burst rounds).length := by
  rw [arrived, words_succ, List.length_append]
  rfl

theorem ReadSchedule.arrived_mono (schedule : ReadSchedule) {earlier later : Nat}
    (before : earlier ≤ later) : schedule.arrived earlier ≤ schedule.arrived later := by
  refine monotone_nat_of_le_succ (fun rounds => ?_) before
  rw [arrived_succ]
  exact Nat.le_add_right _ _

/-- There is one round with the last word. -/
theorem Delivered.unique {other : Nat} (delivered : Delivered schedule count last)
    (enough : count ≤ schedule.arrived (other + 1)) (first : schedule.arrived other < count) :
    last = other := by
  rcases Nat.lt_trichotomy last other with before | same | behind
  · exact absurd (delivered.enough.trans (schedule.arrived_mono before)) (Nat.not_le.mpr first)
  · exact same
  · exact absurd (enough.trans (schedule.arrived_mono behind)) (Nat.not_le.mpr delivered.first)

/-- A word that is wanted still comes in this round or later. -/
theorem Delivered.not_before (delivered : Delivered schedule count last)
    (few : schedule.arrived round < count) : round ≤ last := by
  by_contra before
  exact absurd (delivered.enough.trans (schedule.arrived_mono (Nat.not_le.mp before)))
    (Nat.not_le.mpr few)

theorem readWords_round (few : schedule.arrived round < count) :
    readWords schedule (rounds + 1) round (count - schedule.arrived round)
        (readTimeOut - schedule.idle round) =
      if schedule.flags round &&& readErrorFlags ≠ 0 then
        some ⟨EfiStatus.deviceError, [], round + 1⟩
      else if count ≤ schedule.arrived (round + 1) then
        some ⟨if schedule.flagsBehind round &&& readErrorFlags ≠ 0 then EfiStatus.deviceError
          else EfiStatus.success, (schedule.burst round).take (count - schedule.arrived round),
          round + 1⟩
      else if readTimeOut ≤ schedule.idle (round + 1) then
        some ⟨EfiStatus.deviceError, schedule.burst round, round + 1⟩
      else
        (readWords schedule rounds (round + 1) (count - schedule.arrived (round + 1))
          (readTimeOut - schedule.idle (round + 1))).map
            (ReadOutcome.prepend (schedule.burst round)) := by
  have wanted : count - schedule.arrived round ≠ 0 := by omega
  have arrives := schedule.arrived_succ round
  have left : count - schedule.arrived round - (schedule.burst round).length =
      count - schedule.arrived (round + 1) := by omega
  have none : (schedule.burst round).take (count - schedule.arrived round) = [] ↔
      schedule.burst round = [] := by
    simp [wanted]
  have timeOut : (if (schedule.burst round).take (count - schedule.arrived round) = [] then
      readTimeOut - schedule.idle round else readTimeOut) - 1 =
        readTimeOut - schedule.idle (round + 1) := by
    rw [ReadSchedule.idle]
    by_cases empty : schedule.burst round = []
    · rw [if_pos (none.mpr empty), if_pos empty]
      omega
    · rw [if_neg (mt none.mp empty), if_neg empty]
  rw [readWords, if_neg wanted, takeBurst_eq]
  simp only [left, timeOut, Nat.sub_eq_zero_iff_le]
  refine if_congr Iff.rfl rfl (ite_congr rfl (fun _ => rfl) fun more => ?_)
  rw [List.take_of_length_le (by omega)]

def Ended (schedule : ReadSchedule) (count round : Nat) (outcome : ReadOutcome) : Prop :=
  (outcome.status = EfiStatus.success ∧ ∃ last, outcome.rounds = last + 1 ∧
      Delivered schedule count last ∧
        schedule.words round ++ outcome.stored = (schedule.words (last + 1)).take count) ∨
    (outcome.status = EfiStatus.deviceError ∧ ∀ last, ¬ Delivered schedule count last)

theorem readWords_ended (few : schedule.arrived round < count)
    (steady : ∀ earlier ≤ round, schedule.idle earlier < readTimeOut)
    (run : readWords schedule rounds round (count - schedule.arrived round)
      (readTimeOut - schedule.idle round) = some outcome) :
    Ended schedule count round outcome := by
  induction rounds generalizing round outcome with
  | zero => exact nomatch run
  | succ rounds ih =>
    rw [readWords_round few] at run
    split at run
    · next error =>
      obtain rfl := Option.some.inj run
      refine .inr ⟨rfl, fun last delivered => ?_⟩
      have later := delivered.not_before few
      exact error (schedule.sticky.clear (by omega) delivered.clear)
    · split at run
      · next all =>
        obtain rfl := Option.some.inj run
        by_cases error : schedule.flagsBehind round &&& readErrorFlags = 0
        · refine .inl ⟨if_neg (not_not.mpr error), round, rfl, ⟨all, few, steady, error⟩, ?_⟩
          rw [schedule.words_succ, List.take_append,
            List.take_of_length_le (Nat.le_of_lt few)]
          rfl
        · refine .inr ⟨if_pos error, fun last delivered => error ?_⟩
          obtain rfl := delivered.unique all few
          exact delivered.clear
      · next more =>
        split at run
        · next late =>
          obtain rfl := Option.some.inj run
          refine .inr ⟨rfl, fun last delivered => ?_⟩
          have later := delivered.not_before (Nat.not_le.mp more)
          exact absurd (delivered.steady _ later) (Nat.not_lt.mpr late)
        · next early =>
          obtain ⟨rest, ran, rfl⟩ := Option.map_eq_some_iff.mp run
          have steadyBehind : ∀ earlier ≤ round + 1, schedule.idle earlier < readTimeOut := by
            intro earlier before
            rcases Nat.lt_or_eq_of_le before with inside | rfl
            · exact steady earlier (by omega)
            · exact Nat.not_le.mp early
          rcases ih (Nat.not_le.mp more) steadyBehind ran with
            ⟨success, last, ended, delivered, stored⟩ | ⟨error, never⟩
          · refine .inl ⟨success, last, ended, delivered, ?_⟩
            rw [schedule.words_succ, List.append_assoc] at stored
            exact stored
          · exact .inr ⟨error, never⟩

/-- A read ends: with every round there is less to wait for. -/
theorem readWords_ends {dataLen timeOut : Nat} (ticks : timeOut ≤ readTimeOut)
    (enough : dataLen * readTimeOut + timeOut < rounds) :
    (readWords schedule rounds round dataLen timeOut).isSome := by
  induction rounds generalizing round dataLen timeOut with
  | zero => omega
  | succ rounds ih =>
    rw [readWords, takeBurst_eq]
    split
    · rfl
    · split
      · rfl
      · simp only
        split
        · rfl
        · next wanted =>
          by_cases none : (schedule.burst round).take dataLen = []
          · rw [if_pos none]
            split
            · rfl
            · rw [Option.isSome_map]
              have less := Nat.mul_le_mul_right readTimeOut
                (Nat.sub_le dataLen (schedule.burst round).length)
              exact ih (by omega) (by omega)
          · have some : (schedule.burst round).length ≠ 0 := by
              intro empty
              rw [List.length_eq_zero_iff.mp empty, List.take_nil] at none
              exact none rfl
            rw [if_neg none]
            split
            · rfl
            · rw [Option.isSome_map]
              have less := Nat.mul_le_mul_right readTimeOut
                (by omega : dataLen - (schedule.burst round).length + 1 ≤ dataLen)
              rw [Nat.add_mul, Nat.one_mul] at less
              exact ih (Nat.sub_le _ _) (by omega)

end

/-- The call ends when the controller raises an error before the command is done, and in any case
once the command is accepted; if it succeeds, exactly the words of the transfer are stored, the
first that the FIFO had; and if the controller raised an error in one of its rounds, it fails. -/
structure ReadRight (mshcCommand : UInt32) (answers : CommandAnswers) (schedule : ReadSchedule)
    (length : UInt64) : Prop where
  ends : answers.Erred (waitsPrvdata mshcCommand) (resetsBeforeRead mshcCommand) ∨
      answers.Accepted (waitsPrvdata mshcCommand) (resetsBeforeRead mshcCommand) →
    ∃ rounds, (mshcReadBlockData rounds mshcCommand answers schedule length).isSome
  exact : ∀ rounds outcome,
    mshcReadBlockData rounds mshcCommand answers schedule length = some outcome →
      outcome.status = EfiStatus.success →
        outcome.stored.length = length.toNat / 4 ∧
          ∃ rounds, outcome.stored <+: schedule.words rounds
  told : ∀ rounds outcome,
    mshcReadBlockData rounds mshcCommand answers schedule length = some outcome →
      (∃ round < outcome.rounds, schedule.flagsBehind round &&& mmcDataErrorFlags ≠ 0) →
        outcome.status = EfiStatus.deviceError

/-- The number of words that a read counts down from. -/
def readCount (length : UInt64) : Nat := length.toNat / 4 % 2 ^ 32

/-- A command is done, sooner or later, if an error is raised; the count is that of the transfer,
unless the words do not come to the last; and no flag that a read does not look at is raised before
all words have come. -/
def ReadCondition (answers : CommandAnswers) (waits resets : Bool) (schedule : ReadSchedule)
    (length : UInt64) : Prop :=
  (answers.Erred waits resets → ∃ poll, answers.Ends poll) ∧ (answers.Accepted waits resets →
    (length.toNat < 2 ^ 34 ∨
      (readCount length ≠ 0 ∧ ∀ last, ¬ Delivered schedule (readCount length) last)) ∧
    ∀ last, Delivered schedule (readCount length) last →
      schedule.flagsBehind last &&& mmcDataErrorFlags = 0)

section

variable {mshcCommand : UInt32} {answers : CommandAnswers} {schedule : ReadSchedule}
  {length : UInt64} {rounds : Nat} {outcome : ReadOutcome}

theorem dataLen_eq (length : UInt64) : (length >>> 2).toUInt32.toNat = readCount length := by
  rw [UInt64.toNat_toUInt32, UInt64.toNat_shiftRight, readCount]
  exact congrArg (· % 2 ^ 32) (Nat.shiftRight_eq_div_pow _ 2)

/-- The outcome of a read: the command is not accepted, no words are wanted, or that of the
loop. -/
theorem read_cases (run : mshcReadBlockData rounds mshcCommand answers schedule length =
    some outcome) :
    (outcome = ⟨EfiStatus.deviceError, [], 0⟩ ∧
        ¬ answers.Accepted (waitsPrvdata mshcCommand) (resetsBeforeRead mshcCommand)) ∨
      (answers.Accepted (waitsPrvdata mshcCommand) (resetsBeforeRead mshcCommand) ∧ (
        (readCount length = 0 ∧ outcome = ⟨EfiStatus.success, [], 0⟩) ∨
          (readCount length ≠ 0 ∧ Ended schedule (readCount length) 0 outcome))) := by
  obtain ⟨status, phase, run⟩ := Option.bind_eq_some_iff.mp run
  rcases commandPhase_cases phase with ⟨rfl, accepted⟩ | ⟨rfl, refused⟩
  · refine .inr ⟨accepted, ?_⟩
    rw [EfiStatus.isError_success, if_neg Bool.false_ne_true, dataLen_eq] at run
    by_cases none : readCount length = 0
    · refine .inl ⟨none, ?_⟩
      cases rounds with
      | zero => exact nomatch run
      | succ rounds =>
        rw [readWords, if_pos none] at run
        exact (Option.some.inj run).symm
    · refine .inr ⟨none, readWords_ended (Nat.pos_of_ne_zero none) ?_ run⟩
      intro earlier before
      obtain rfl := Nat.le_zero.mp before
      exact (by decide : 0 < readTimeOut)
  · rw [EfiStatus.isError_deviceError, if_pos rfl] at run
    exact .inl ⟨(Option.some.inj run).symm, refused⟩

theorem read_ends
    (sent : answers.Sent (waitsPrvdata mshcCommand) (resetsBeforeRead mshcCommand))
    (answered : ∃ poll, answers.Ends poll) (schedule : ReadSchedule) (length : UInt64) :
    ∃ rounds, (mshcReadBlockData rounds mshcCommand answers schedule length).isSome := by
  obtain ⟨enough, phase⟩ := commandPhase_ends sent answered
  refine ⟨enough + ((length >>> 2).toUInt32.toNat * readTimeOut + readTimeOut + 1), ?_⟩
  obtain ⟨status, done⟩ := Option.isSome_iff_exists.mp (phase _ (Nat.le_add_right _ _))
  rw [mshcReadBlockData, done, Option.bind_eq_bind, Option.bind_some]
  split
  · rfl
  · exact readWords_ends (Nat.le_refl _) (by omega)

theorem readCount_eq (small : length.toNat < 2 ^ 34) : readCount length = length.toNat / 4 :=
  Nat.mod_eq_of_lt (by omega)

theorem readCount_lt (length : UInt64) : readCount length < 2 ^ 32 := Nat.mod_lt _ (by decide)

/-- The buffer behind a read that succeeds. -/
theorem stored_eq {count last : Nat} {stored : List UInt32}
    (delivered : Delivered schedule count last)
    (filled : schedule.words 0 ++ stored = (schedule.words (last + 1)).take count) :
    stored = (schedule.words (last + 1)).take count ∧ stored.length = count := by
  have same : stored = (schedule.words (last + 1)).take count := filled
  refine ⟨same, ?_⟩
  rw [same, List.length_take]
  exact Nat.min_eq_left delivered.enough

theorem success_ne_deviceError : EfiStatus.success ≠ EfiStatus.deviceError := by decide

theorem readRight_iff :
    ReadRight mshcCommand answers schedule length ↔
      ReadCondition answers (waitsPrvdata mshcCommand) (resetsBeforeRead mshcCommand) schedule
        length := by
  constructor
  · intro right
    refine ⟨fun erred => ?_, fun accepted => ?_⟩
    · obtain ⟨rounds, some⟩ := right.ends (.inl erred)
      obtain ⟨outcome, run⟩ := Option.isSome_iff_exists.mp some
      obtain ⟨status, phase, -⟩ := Option.bind_eq_some_iff.mp run
      exact answered_of_commandPhase erred.1 phase
    obtain ⟨rounds, some⟩ := right.ends (.inr accepted)
    obtain ⟨outcome, run⟩ := Option.isSome_iff_exists.mp some
    rcases read_cases run with ⟨-, refused⟩ | ⟨-, ⟨none, rfl⟩ | ⟨wanted, ended⟩⟩
    · exact absurd accepted refused
    · have all := (right.exact rounds _ run rfl).1
      rw [List.length_nil] at all
      refine ⟨.inl (by omega), fun last delivered => ?_⟩
      have first := delivered.first
      omega
    · rcases ended with ⟨success, last, begun, delivered, filled⟩ | ⟨error, never⟩
      · have all := (right.exact rounds _ run success).1
        rw [(stored_eq delivered filled).2] at all
        have below := readCount_lt length
        refine ⟨.inl (by omega), fun other also => not_ne_iff.mp fun raised => ?_⟩
        obtain rfl := delivered.unique also.enough also.first
        have told := right.told rounds _ run ⟨last, by omega, raised⟩
        exact success_ne_deviceError (success.symm.trans told)
      · exact ⟨.inr ⟨wanted, never⟩, fun last delivered => absurd delivered (never last)⟩
  · rintro ⟨answered, condition⟩
    refine ⟨?_, ?_, ?_⟩
    · rintro (erred | ⟨sent, poll, ends, -⟩)
      · exact read_ends erred.1 (answered erred) schedule length
      · exact read_ends sent ⟨poll, ends⟩ schedule length
    · intro rounds outcome run success
      rcases read_cases run with ⟨rfl, -⟩ | ⟨accepted, ⟨none, rfl⟩ | ⟨wanted, ended⟩⟩
      · exact absurd success.symm success_ne_deviceError
      · rcases (condition accepted).1 with small | ⟨wanted, -⟩
        · rw [readCount_eq small] at none
          exact ⟨none.symm, 0, List.nil_prefix⟩
        · exact absurd none wanted
      · rcases ended with ⟨-, last, -, delivered, filled⟩ | ⟨error, -⟩
        · obtain ⟨same, size⟩ := stored_eq delivered filled
          rcases (condition accepted).1 with small | ⟨-, never⟩
          · exact ⟨size.trans (readCount_eq small), last + 1, same ▸ List.take_prefix _ _⟩
          · exact absurd delivered (never last)
        · exact absurd (success.symm.trans error) success_ne_deviceError
    · rintro rounds outcome run ⟨round, before, raised⟩
      rcases read_cases run with ⟨rfl, -⟩ | ⟨accepted, ⟨-, rfl⟩ | ⟨-, ended⟩⟩
      · rfl
      · exact absurd before (Nat.not_lt_zero _)
      · rcases ended with ⟨-, last, begun, delivered, -⟩ | ⟨error, -⟩
        · have clear := (condition accepted).2 last delivered
          exact absurd clear (schedule.sticky.raised (by omega) raised)
        · exact error

end

/-! ### Writes -/

/-- What a write finds at the polls of its data phase: how many words the controller has taken from
the FIFO, if they were there, and the flags. -/
structure WriteSchedule where
  taken : Nat → Nat
  rintsts : Nat → UInt32
  advances : ∀ poll, taken poll ≤ taken (poll + 1)
  sticky : Sticky rintsts

/-- `MMC_GET_FCNT`: the words in the FIFO, of a number that were pushed. -/
def WriteSchedule.fcnt (schedule : WriteSchedule) (poll pushed : Nat) : Nat :=
  pushed - schedule.taken poll

/-- The status of a write, what was pushed, and the polls of its data phase. -/
structure WriteOutcome where
  status : EfiStatus
  pushed : List UInt32
  polls : Nat
  deriving DecidableEq, Repr

/-- The loop over the words, for a number of rounds: what is pushed, and the next poll. -/
def writeWords (schedule : WriteSchedule) :
    Nat → List UInt32 → Nat → Nat → Option (List UInt32 × Nat)
  | _, [], _, poll => some ([], poll)
  | 0, _ :: _, _, _ => none
  | rounds + 1, word :: words, count, poll =>
    if 32 < schedule.fcnt poll count then
      writeWords schedule rounds (word :: words) count (poll + 1)
    else
      (writeWords schedule rounds words (count + 1) (poll + 1)).map fun (pushed, poll) =>
        (word :: pushed, poll)

/-- The wait for the end of the transfer, for a number of rounds. -/
def waitOver (schedule : WriteSchedule) : Nat → Nat → Option (EfiStatus × Nat)
  | 0, _ => none
  | rounds + 1, poll =>
    let mask := schedule.rintsts poll
    if mask &&& mmcDataErrorFlags ≠ 0 then some (EfiStatus.deviceError, poll + 1)
    else if mask &&& dwemmcIntDto ≠ 0 then some (EfiStatus.success, poll + 1)
    else waitOver schedule rounds (poll + 1)

def mshcWriteBlockData (rounds : Nat) (mshcCommand : UInt32) (answers : CommandAnswers)
    (schedule : WriteSchedule) (buffer : Nat → UInt32) (length : UInt64) : Option WriteOutcome := do
  let status ←
    commandPhase answers (waitsPrvdata mshcCommand) (resetsBeforeWrite mshcCommand) rounds
  if status.isError then some ⟨EfiStatus.deviceError, [], 0⟩
  else do
    let (pushed, poll) ←
      writeWords schedule rounds ((List.range (length / 4).toNat).map buffer) 0 0
    let (status, polls) ← waitOver schedule rounds poll
    some ⟨status, pushed, polls⟩

section

variable {schedule : WriteSchedule} {rounds count poll next : Nat} {words pushed : List UInt32}
  {status : EfiStatus} {polls : Nat}

theorem WriteSchedule.taken_mono (schedule : WriteSchedule) {earlier later : Nat}
    (before : earlier ≤ later) : schedule.taken earlier ≤ schedule.taken later :=
  monotone_nat_of_le_succ schedule.advances before

/-- All words are pushed, and before the last there is room. -/
theorem writeWords_some (run : writeWords schedule rounds words count poll = some (pushed, next)) :
    pushed = words ∧
      (words ≠ [] → ∃ poll, count + words.length ≤ schedule.taken poll + 33) := by
  induction rounds generalizing words count poll pushed with
  | zero =>
    cases words with
    | nil =>
      obtain ⟨rfl, rfl⟩ := Prod.mk.inj (Option.some.inj run)
      exact ⟨rfl, fun some => absurd rfl some⟩
    | cons word words => exact nomatch run
  | succ rounds ih =>
    cases words with
    | nil =>
      obtain ⟨rfl, rfl⟩ := Prod.mk.inj (Option.some.inj run)
      exact ⟨rfl, fun some => absurd rfl some⟩
    | cons word words =>
      rw [writeWords] at run
      split at run
      · exact ih run
      · next room =>
        obtain ⟨⟨rest, after⟩, ran, same⟩ := Option.map_eq_some_iff.mp run
        obtain ⟨rfl, rfl⟩ := Prod.mk.inj same
        obtain ⟨rfl, later⟩ := ih ran
        refine ⟨rfl, fun _ => ?_⟩
        by_cases last : rest = []
        · refine ⟨poll, ?_⟩
          rw [WriteSchedule.fcnt] at room
          rw [last, List.length_singleton]
          omega
        · obtain ⟨poll, room⟩ := later last
          refine ⟨poll, ?_⟩
          rw [List.length_cons]
          omega

theorem writeWords_ends {room : Nat}
    (takes : count + words.length ≤ schedule.taken room + 33)
    (enough : room - poll + words.length ≤ rounds) :
    (writeWords schedule rounds words count poll).isSome := by
  induction rounds generalizing words count poll with
  | zero =>
    cases words with
    | nil => rfl
    | cons word words =>
      rw [List.length_cons] at enough
      omega
  | succ rounds ih =>
    cases words with
    | nil => rfl
    | cons word words =>
      rw [List.length_cons] at takes enough
      rw [writeWords]
      split
      · next full =>
        -- there is room from `room` on, so that this poll is before
        have before : poll < room := by
          by_contra behind
          have taken := schedule.taken_mono (Nat.not_lt.mp behind)
          rw [WriteSchedule.fcnt] at full
          omega
        refine ih ?_ ?_
        · rw [List.length_cons]
          omega
        · rw [List.length_cons]
          omega
      · rw [Option.isSome_map]
        exact ih (by omega) (by omega)

/-- A wait ends with an error, or with the end of the transfer and none. -/
theorem waitOver_some (run : waitOver schedule rounds poll = some (status, polls)) :
    ∃ last, polls = last + 1 ∧
      ((status = EfiStatus.deviceError ∧ schedule.rintsts last &&& mmcDataErrorFlags ≠ 0) ∨
        (status = EfiStatus.success ∧ schedule.rintsts last &&& mmcDataErrorFlags = 0 ∧
          schedule.rintsts last &&& dwemmcIntDto ≠ 0)) := by
  induction rounds generalizing poll with
  | zero => exact nomatch run
  | succ rounds ih =>
    rw [waitOver] at run
    split at run
    · next error =>
      obtain ⟨rfl, rfl⟩ := Prod.mk.inj (Option.some.inj run)
      exact ⟨poll, rfl, .inl ⟨rfl, error⟩⟩
    · next none =>
      split at run
      · next done =>
        obtain ⟨rfl, rfl⟩ := Prod.mk.inj (Option.some.inj run)
        exact ⟨poll, rfl, .inr ⟨rfl, not_ne_iff.mp none, done⟩⟩
      · exact ih run

theorem waitOver_ends {last : Nat}
    (raised : schedule.rintsts last &&& mmcDataErrorFlags ≠ 0 ∨
      schedule.rintsts last &&& dwemmcIntDto ≠ 0)
    (enough : last - poll < rounds) : (waitOver schedule rounds poll).isSome := by
  induction rounds generalizing poll with
  | zero => exact absurd enough (Nat.not_lt_zero _)
  | succ rounds ih =>
    rw [waitOver]
    split
    · rfl
    · next none =>
      split
      · rfl
      · next not =>
        have before : poll < last := by
          by_contra behind
          rcases raised with error | done
          · exact none (schedule.sticky.raised (Nat.not_lt.mp behind) error)
          · exact not (schedule.sticky.raised (Nat.not_lt.mp behind) done)
        exact ih (by omega)

end

/-- The call ends when the controller raises an error before the command is done or, once it is
accepted, raises a data error or has taken all words and says so; if it
succeeds, exactly the words of the buffer are pushed, and the end of the transfer was seen without
an error; and if the controller raised an error by one of its polls, it fails. -/
structure WriteRight (mshcCommand : UInt32) (answers : CommandAnswers) (schedule : WriteSchedule)
    (buffer : Nat → UInt32) (length : UInt64) : Prop where
  ends : answers.Erred (waitsPrvdata mshcCommand) (resetsBeforeWrite mshcCommand) ∨
      (answers.Accepted (waitsPrvdata mshcCommand) (resetsBeforeWrite mshcCommand) ∧
        ((∃ poll, schedule.rintsts poll &&& mmcDataErrorFlags ≠ 0) ∨
          ∃ poll, length.toNat / 4 ≤ schedule.taken poll ∧
            schedule.rintsts poll &&& dwemmcIntDto ≠ 0)) →
    ∃ rounds, (mshcWriteBlockData rounds mshcCommand answers schedule buffer length).isSome
  exact : ∀ rounds outcome,
    mshcWriteBlockData rounds mshcCommand answers schedule buffer length = some outcome →
      outcome.status = EfiStatus.success →
        outcome.pushed = (List.range (length.toNat / 4)).map buffer ∧
          ∃ poll < outcome.polls, schedule.rintsts poll &&& dwemmcIntDto ≠ 0 ∧
            schedule.rintsts poll &&& mmcDataErrorFlags = 0
  told : ∀ rounds outcome,
    mshcWriteBlockData rounds mshcCommand answers schedule buffer length = some outcome →
      (∃ poll < outcome.polls, schedule.rintsts poll &&& mmcDataErrorFlags ≠ 0) →
        outcome.status = EfiStatus.deviceError

/-- A command is done, sooner or later, if an error is raised; and when a data error is raised, the
controller has taken or still takes all words but 33. -/
def WriteCondition (answers : CommandAnswers) (waits resets : Bool) (schedule : WriteSchedule)
    (length : UInt64) : Prop :=
  (answers.Erred waits resets → ∃ poll, answers.Ends poll) ∧ (answers.Accepted waits resets →
    (∃ poll, schedule.rintsts poll &&& mmcDataErrorFlags ≠ 0) →
      ∃ poll, length.toNat / 4 ≤ schedule.taken poll + 33)

section

variable {mshcCommand : UInt32} {answers : CommandAnswers} {schedule : WriteSchedule}
  {buffer : Nat → UInt32} {length : UInt64} {rounds : Nat} {outcome : WriteOutcome}

theorem size32_eq (length : UInt64) : (length / 4).toNat = length.toNat / 4 :=
  UInt64.toNat_div length 4

/-- The outcome of a write: the command is not accepted, or that of the two loops. -/
theorem write_cases (run : mshcWriteBlockData rounds mshcCommand answers schedule buffer length =
    some outcome) :
    (outcome = ⟨EfiStatus.deviceError, [], 0⟩ ∧
        ¬ answers.Accepted (waitsPrvdata mshcCommand) (resetsBeforeWrite mshcCommand)) ∨
      (answers.Accepted (waitsPrvdata mshcCommand) (resetsBeforeWrite mshcCommand) ∧
        outcome.pushed = (List.range (length.toNat / 4)).map buffer ∧
        (∃ poll, length.toNat / 4 ≤ schedule.taken poll + 33) ∧
        ∃ last, outcome.polls = last + 1 ∧
          ((outcome.status = EfiStatus.deviceError ∧
              schedule.rintsts last &&& mmcDataErrorFlags ≠ 0) ∨
            (outcome.status = EfiStatus.success ∧
              schedule.rintsts last &&& mmcDataErrorFlags = 0 ∧
              schedule.rintsts last &&& dwemmcIntDto ≠ 0))) := by
  obtain ⟨status, phase, run⟩ := Option.bind_eq_some_iff.mp run
  rcases commandPhase_cases phase with ⟨rfl, accepted⟩ | ⟨rfl, refused⟩
  · rw [EfiStatus.isError_success, if_neg Bool.false_ne_true, size32_eq] at run
    obtain ⟨⟨pushed, next⟩, wrote, run⟩ := Option.bind_eq_some_iff.mp run
    obtain ⟨⟨status, polls⟩, waited, run⟩ := Option.bind_eq_some_iff.mp run
    obtain rfl := Option.some.inj run
    obtain ⟨rfl, room⟩ := writeWords_some wrote
    refine .inr ⟨accepted, rfl, ?_, waitOver_some waited⟩
    by_cases none : (List.range (length.toNat / 4)).map buffer = []
    · rw [List.map_eq_nil_iff, List.range_eq_nil] at none
      exact ⟨0, by omega⟩
    · obtain ⟨poll, room⟩ := room none
      rw [List.length_map, List.length_range] at room
      exact ⟨poll, by omega⟩
  · rw [EfiStatus.isError_deviceError, if_pos rfl] at run
    exact .inl ⟨(Option.some.inj run).symm, refused⟩

/-- A write ends when its command fails, or its words get into the FIFO and an error or the end is
raised. -/
theorem write_ends {last : Nat}
    (sent : answers.Sent (waitsPrvdata mshcCommand) (resetsBeforeWrite mshcCommand))
    (answered : ∃ poll, answers.Ends poll)
    (takes : answers.Cleared → (∃ poll, length.toNat / 4 ≤ schedule.taken poll + 33) ∧
      (schedule.rintsts last &&& mmcDataErrorFlags ≠ 0 ∨
        schedule.rintsts last &&& dwemmcIntDto ≠ 0)) :
    ∃ rounds, (mshcWriteBlockData rounds mshcCommand answers schedule buffer length).isSome := by
  obtain ⟨enough, phase⟩ := commandPhase_ends sent answered
  by_cases cleared : answers.Cleared
  · obtain ⟨⟨room, takes⟩, raised⟩ := takes cleared
    refine ⟨enough + (room + length.toNat / 4) + (last + 1), ?_⟩
    obtain ⟨status, done⟩ := Option.isSome_iff_exists.mp
      (phase (enough + (room + length.toNat / 4) + (last + 1)) (by omega))
    rcases commandPhase_cases done with ⟨rfl, -⟩ | ⟨-, refused⟩
    · have size : ((List.range (length.toNat / 4)).map buffer).length = length.toNat / 4 := by
        rw [List.length_map, List.length_range]
      obtain ⟨⟨pushed, next⟩, wrote⟩ := Option.isSome_iff_exists.mp
        (@writeWords_ends schedule (enough + (room + length.toNat / 4) + (last + 1)) 0 0
          ((List.range (length.toNat / 4)).map buffer) room (by omega) (by omega))
      obtain ⟨⟨status, polls⟩, waited⟩ := Option.isSome_iff_exists.mp
        (@waitOver_ends schedule (enough + (room + length.toNat / 4) + (last + 1)) next last raised
          (by omega))
      simp only [mshcWriteBlockData, done, EfiStatus.isError_success, size32_eq, wrote, waited,
        Option.bind_eq_bind, Option.bind_some, Bool.false_eq_true, if_false, Option.isSome_some]
    · exact absurd ⟨sent, cleared⟩ refused
  · refine ⟨enough, ?_⟩
    obtain ⟨status, done⟩ := Option.isSome_iff_exists.mp (phase enough (Nat.le_refl _))
    rcases commandPhase_cases done with ⟨-, accepted⟩ | ⟨rfl, -⟩
    · exact absurd accepted.2 cleared
    · simp only [mshcWriteBlockData, done, EfiStatus.isError_deviceError, Option.bind_eq_bind,
        Option.bind_some, if_true, Option.isSome_some]

theorem writeRight_iff :
    WriteRight mshcCommand answers schedule buffer length ↔
      WriteCondition answers (waitsPrvdata mshcCommand) (resetsBeforeWrite mshcCommand) schedule
        length := by
  constructor
  · intro right
    refine ⟨fun erred => ?_, fun accepted raised => ?_⟩
    · obtain ⟨rounds, some⟩ := right.ends (.inl erred)
      obtain ⟨outcome, run⟩ := Option.isSome_iff_exists.mp some
      obtain ⟨status, phase, -⟩ := Option.bind_eq_some_iff.mp run
      exact answered_of_commandPhase erred.1 phase
    · obtain ⟨rounds, some⟩ := right.ends (.inr ⟨accepted, .inl raised⟩)
      obtain ⟨outcome, run⟩ := Option.isSome_iff_exists.mp some
      rcases write_cases run with ⟨-, refused⟩ | ⟨-, -, room, -⟩
      · exact absurd accepted refused
      · exact room
  · rintro ⟨answered, condition⟩
    refine ⟨?_, ?_, ?_⟩
    · rintro (erred | ⟨accepted, raised⟩)
      · exact @write_ends _ _ _ _ _ 0 erred.1 (answered erred)
          fun cleared => absurd cleared erred.2.not_cleared
      · obtain ⟨poll, ends, -⟩ := accepted.2
        rcases raised with ⟨last, error⟩ | ⟨last, all, done⟩
        · exact write_ends accepted.1 ⟨poll, ends⟩
            fun _ => ⟨condition accepted ⟨last, error⟩, .inl error⟩
        · exact write_ends accepted.1 ⟨poll, ends⟩ fun _ => ⟨⟨last, by omega⟩, .inr done⟩
    · intro rounds outcome run success
      rcases write_cases run with ⟨rfl, -⟩ | ⟨-, pushed, -, last, polls, ended⟩
      · exact absurd success.symm success_ne_deviceError
      · rcases ended with ⟨error, -⟩ | ⟨-, none, done⟩
        · exact absurd (success.symm.trans error) success_ne_deviceError
        · exact ⟨pushed, last, by omega, done, none⟩
    · rintro rounds outcome run ⟨poll, before, raised⟩
      rcases write_cases run with ⟨rfl, -⟩ | ⟨-, -, -, last, polls, ended⟩
      · rfl
      · rcases ended with ⟨error, -⟩ | ⟨-, none, -⟩
        · exact error
        · exact absurd none (schedule.sticky.raised (by omega) raised)

end

/-! ### Transfers -/

/-- Transfers are right exactly under the conditions for reads and for writes. -/
theorem pio_exact_iff (mshcCommand : UInt32) (answers : CommandAnswers) (length : UInt64)
    (reads : ReadSchedule) (writes : WriteSchedule) (buffer : Nat → UInt32) :
    (ReadRight mshcCommand answers reads length ↔
      ReadCondition answers (waitsPrvdata mshcCommand) (resetsBeforeRead mshcCommand) reads
        length) ∧
    (WriteRight mshcCommand answers writes buffer length ↔
      WriteCondition answers (waitsPrvdata mshcCommand) (resetsBeforeWrite mshcCommand) writes
        length) :=
  ⟨readRight_iff, writeRight_iff⟩

/-- `CMD17` and `CMD24`, as `MshcSendCommand` leaves them for the data phase. -/
def readCommand : UInt32 := 0xA0002351
def writeCommand : UInt32 := 0xA0002758

/-- The command is done without an error at once. -/
def quietAnswers : CommandAnswers where
  prvBusy _ := false
  fifoEmpty := true
  resetting _ := false
  busy _ := false
  rintsts _ := dwemmcIntCmdDone
  sticky _ := UInt32.and_self

/-- The command is not taken, for the hardware is locked, and never done. -/
def lockedAnswers : CommandAnswers where
  __ := quietAnswers
  rintsts _ := dwemmcIntHle
  sticky _ := UInt32.and_self

/-- The data times out when the controller has taken five words. -/
def stalledSchedule : WriteSchedule where
  taken _ := 5
  rintsts _ := dwemmcIntDrt
  advances _ := Nat.le_refl 5
  sticky _ := UInt32.and_self

/-- The FIFO has the only word of a read, and has overrun. -/
def overrunSchedule : ReadSchedule where
  rintsts _ := dwemmcIntFrun
  burst _ := [7]
  sticky _ := UInt32.and_self

/-- The read of that word succeeds; the write of a block never returns, for the FIFO has no room for
all of its words; and a read whose command is not taken never returns. -/
theorem pio_not_exact :
    ¬ ReadRight readCommand quietAnswers overrunSchedule 4 ∧
      ¬ WriteRight writeCommand quietAnswers stalledSchedule (fun _ => 0) 512 ∧
      ¬ ReadRight readCommand lockedAnswers overrunSchedule 4 := by
  refine ⟨fun right => ?_, fun right => ?_, fun right => ?_⟩
  · have told := right.told 2 ⟨EfiStatus.success, [7], 1⟩ (by decide) ⟨0, by decide, by decide⟩
    exact success_ne_deviceError told
  · obtain ⟨poll, room⟩ := (writeRight_iff.mp right).2
      ⟨⟨fun _ => ⟨0, rfl⟩, fun _ left => absurd left (by decide), 0, rfl⟩, 0, by decide, by decide⟩
      ⟨0, by decide⟩
    have five : stalledSchedule.taken poll = 5 := rfl
    rw [five] at room
    exact absurd room (by decide)
  · have sent : lockedAnswers.Sent (waitsPrvdata readCommand) (resetsBeforeRead readCommand) :=
      ⟨fun _ => ⟨0, rfl⟩, fun _ left => absurd left (by decide), 0, rfl⟩
    obtain ⟨poll, ends⟩ := (readRight_iff.mp right).1 ⟨sent, 0, by decide, nofun⟩
    have never : dwemmcIntHle &&& (dwemmcIntDto ||| dwemmcIntCmdDone) = 0 := by decide
    exact ends never

end MuRockchip.Mmc.Mshc
