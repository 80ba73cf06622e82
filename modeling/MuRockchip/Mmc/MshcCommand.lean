/-
The command of an MSHC transfer (`SendCommand`, and what comes before it).

Before data is moved, the card is waited for, the FIFO is reset when something is left in it, and
the command is sent. The flags of the controller are cleared with that, and stay from then on.

* `commandPhase_cases`: the data phase is reached exactly when the command is accepted.
* `commandPhase_ends`, `answered_of_commandPhase`: the command phase of a command that is sent ends
  exactly when it is answered.
-/
import MuRockchip.Base.Fields
import MuRockchip.Base.Polling
import MuRockchip.Uefi.Status

namespace MuRockchip.Mmc.Mshc

open Base

/-! ### Flags and commands -/

def dwemmcIntEbe : UInt32 := (1 : UInt32) <<< 15
def dwemmcIntSbe : UInt32 := (1 : UInt32) <<< 13
def dwemmcIntHle : UInt32 := (1 : UInt32) <<< 12
def dwemmcIntFrun : UInt32 := (1 : UInt32) <<< 11
def intmskHto : UInt32 := (1 : UInt32) <<< 10
def dwemmcIntDrt : UInt32 := (1 : UInt32) <<< 9
def dwemmcIntRto : UInt32 := (1 : UInt32) <<< 8
def dwemmcIntDcrc : UInt32 := (1 : UInt32) <<< 7
def dwemmcIntRcrc : UInt32 := (1 : UInt32) <<< 6
def dwemmcIntDto : UInt32 := (1 : UInt32) <<< 3
def dwemmcIntCmdDone : UInt32 := (1 : UInt32) <<< 2
def dwemmcIntRe : UInt32 := (1 : UInt32) <<< 1

/-- `ErrMask` of `SendCommand`. -/
def errMask : UInt32 :=
  dwemmcIntEbe ||| dwemmcIntHle ||| dwemmcIntRto ||| dwemmcIntRcrc ||| dwemmcIntRe |||
    (dwemmcIntDcrc ||| dwemmcIntDrt ||| dwemmcIntSbe)

def readErrorFlags : UInt32 := dwemmcIntDrt ||| dwemmcIntSbe ||| dwemmcIntEbe ||| dwemmcIntDcrc

def mmcDataErrorFlags : UInt32 :=
  dwemmcIntDrt ||| dwemmcIntDcrc ||| dwemmcIntFrun ||| dwemmcIntHle ||| intmskHto |||
    dwemmcIntSbe ||| dwemmcIntEbe

def bitCmdDataExpected : UInt32 := (1 : UInt32) <<< 9
def bitCmdWaitPrvdataComplete : UInt32 := (1 : UInt32) <<< 13
def bitCmdStopAbortCmd : UInt32 := (1 : UInt32) <<< 14

/-- The card is waited for before the command. -/
def waitsPrvdata (mshcCommand : UInt32) : Bool := mshcCommand &&& bitCmdWaitPrvdataComplete ≠ 0

/-- What is left in the FIFO is thrown away before a read. -/
def resetsBeforeRead (mshcCommand : UInt32) : Bool :=
  mshcCommand &&& bitCmdStopAbortCmd ≠ 0 ∨ mshcCommand &&& bitCmdDataExpected ≠ 0

/-- Before a write it is not for two commands. -/
def resetsBeforeWrite (mshcCommand : UInt32) : Bool :=
  ¬ (mshcCommand &&& 0x3f = 6 ∨ mshcCommand &&& 0x3f = 51) ∧
    resetsBeforeRead mshcCommand = true

/-! ### The command phase -/

/-- What the registers show before the data phase: whether the card is busy with earlier data,
what is left in the FIFO, the reset of it, whether the controller is busy, and its flags from the
command on. -/
structure CommandAnswers where
  prvBusy : Nat → Bool
  fifoEmpty : Bool
  resetting : Nat → Bool
  busy : Nat → Bool
  rintsts : Nat → UInt32
  sticky : Sticky rintsts

/-- The wait for the reset of the FIFO, for a value of `TimeOut`: whether it is over in time. -/
def fifoReset (resetting : Nat → Bool) : Nat → Nat → Bool
  | 0, _ => false
  | timeOut + 1, poll => if resetting poll then fifoReset resetting timeOut (poll + 1) else true

/-- The loop of `SendCommand` over the flags, for a number of rounds. -/
def sendLoop (rintsts : Nat → UInt32) : Nat → Nat → EfiStatus → Option EfiStatus
  | 0, _, _ => none
  | rounds + 1, poll, status =>
    let data := rintsts poll
    let status :=
      if status = EfiStatus.success ∧ data &&& errMask ≠ 0 then EfiStatus.deviceError else status
    if data &&& dwemmcIntDto ≠ 0 then some status
    else if data &&& dwemmcIntCmdDone ≠ 0 then some status
    else sendLoop rintsts rounds (poll + 1) status

def sendCommand (answers : CommandAnswers) (rounds : Nat) : Option EfiStatus := do
  let _ ← firstPoll (fun poll => !answers.busy poll) 0 rounds
  sendLoop answers.rintsts rounds 0 EfiStatus.success

/-- What comes before the data phase. -/
def commandPhase (answers : CommandAnswers) (waits resets : Bool) (rounds : Nat) :
    Option EfiStatus :=
  match if waits then firstPoll (fun poll => !answers.prvBusy poll) 0 rounds else some 0 with
  | none => none
  | some _ =>
    if resets && !answers.fifoEmpty && !fifoReset answers.resetting 100000 0 then
      some EfiStatus.deviceError
    else sendCommand answers rounds

namespace CommandAnswers

/-- The command is sent: what is waited for gets idle, and the FIFO is reset in time where it has
to be. -/
structure Sent (answers : CommandAnswers) (waits resets : Bool) : Prop where
  prvIdles : waits = true → ∃ poll, answers.prvBusy poll = false
  ready : resets = true → answers.fifoEmpty = false →
    ∃ poll < 100000, answers.resetting poll = false
  idles : ∃ poll, answers.busy poll = false

/-- The controller says that the command or the transfer is done. -/
def Ends (answers : CommandAnswers) (poll : Nat) : Prop :=
  answers.rintsts poll &&& (dwemmcIntDto ||| dwemmcIntCmdDone) ≠ 0

instance (answers : CommandAnswers) (poll : Nat) : Decidable (answers.Ends poll) :=
  inferInstanceAs (Decidable (_ ≠ _))

/-- It raises an error while the command is not done. -/
def Raises (answers : CommandAnswers) : Prop :=
  ∃ poll, answers.rintsts poll &&& errMask ≠ 0 ∧ ∀ before < poll, ¬ answers.Ends before

def Erred (answers : CommandAnswers) (waits resets : Bool) : Prop :=
  answers.Sent waits resets ∧ answers.Raises

/-- It says so without an error. -/
def Cleared (answers : CommandAnswers) : Prop :=
  ∃ poll, answers.Ends poll ∧ answers.rintsts poll &&& errMask = 0

def Accepted (answers : CommandAnswers) (waits resets : Bool) : Prop :=
  answers.Sent waits resets ∧ answers.Cleared

end CommandAnswers

section

variable {answers : CommandAnswers} {waits resets : Bool} {rounds : Nat} {status : EfiStatus}

theorem fifoReset_iff (resetting : Nat → Bool) (timeOut poll : Nat) :
    fifoReset resetting timeOut poll = true ↔
      ∃ found, poll ≤ found ∧ found < poll + timeOut ∧ resetting found = false := by
  have first : fifoReset resetting timeOut poll =
      (firstPoll (fun poll => !resetting poll) poll timeOut).isSome := by
    induction timeOut generalizing poll with
    | zero => rfl
    | succ timeOut ih =>
      rw [fifoReset, firstPoll]
      cases resetting poll with
      | true => exact ih (poll + 1)
      | false => rfl
  rw [first, firstPoll_isSome_iff]
  simp only [Bool.not_eq_true']

theorem ended_iff (data : UInt32) :
    data &&& (dwemmcIntDto ||| dwemmcIntCmdDone) ≠ 0 ↔
      data &&& dwemmcIntDto ≠ 0 ∨ data &&& dwemmcIntCmdDone ≠ 0 := by
  rw [UInt32.and_comm, or_and_mask, Ne, UInt32.or_eq_zero_iff, not_and_or,
    UInt32.and_comm dwemmcIntDto, UInt32.and_comm dwemmcIntCmdDone]

/-- The loop ends with the first poll that shows an end, and then knows of every error so far. -/
theorem sendLoop_eq {rintsts : Nat → UInt32} (sticky : Sticky rintsts) (rounds poll : Nat)
    (told : status = EfiStatus.success ∨
      (status = EfiStatus.deviceError ∧ rintsts poll &&& errMask ≠ 0)) :
    sendLoop rintsts rounds poll status =
      (firstPoll (fun poll => rintsts poll &&& (dwemmcIntDto ||| dwemmcIntCmdDone) ≠ 0) poll
        rounds).map fun found =>
          if rintsts found &&& errMask ≠ 0 then EfiStatus.deviceError else EfiStatus.success := by
  induction rounds generalizing poll status with
  | zero => rfl
  | succ rounds ih =>
    have knows : (if status = EfiStatus.success ∧ rintsts poll &&& errMask ≠ 0 then
        EfiStatus.deviceError else status) =
          if rintsts poll &&& errMask ≠ 0 then EfiStatus.deviceError else EfiStatus.success := by
      by_cases error : rintsts poll &&& errMask = 0
      · rcases told with rfl | ⟨-, some⟩
        · simp [error]
        · exact absurd error some
      · rcases told with rfl | ⟨rfl, -⟩ <;> simp [error]
    rw [sendLoop, firstPoll, knows]
    by_cases ended : rintsts poll &&& dwemmcIntDto ≠ 0 ∨ rintsts poll &&& dwemmcIntCmdDone ≠ 0
    · have shown := (ended_iff (rintsts poll)).mpr ended
      rw [decide_eq_true shown, if_pos rfl, Option.map_some]
      rcases ended with dto | done
      · rw [if_pos dto]
      · rw [if_pos done, ite_self]
    · have shown := mt (ended_iff (rintsts poll)).mp ended
      obtain ⟨dto, done⟩ := not_or.mp ended
      rw [if_neg dto, if_neg done, decide_eq_false shown, if_neg Bool.false_ne_true]
      refine ih (poll + 1) ?_
      by_cases error : rintsts poll &&& errMask = 0
      · exact .inl (if_neg (not_not.mpr error))
      · exact .inr ⟨if_pos error, sticky.raised (Nat.le_succ poll) error⟩

theorem firstPoll_ends {ends : Nat → Bool} (some : ∃ poll, ends poll = true) :
    ∃ enough, ∀ rounds, enough ≤ rounds → (firstPoll ends 0 rounds).isSome := by
  obtain ⟨poll, shown⟩ := some
  refine ⟨poll + 1, fun rounds many => firstPoll_isSome_iff.mpr ⟨poll, Nat.zero_le _, ?_, shown⟩⟩
  omega

theorem commandPhase_ends (sent : answers.Sent waits resets)
    (answered : ∃ poll, answers.Ends poll) :
    ∃ enough, ∀ rounds, enough ≤ rounds →
      (commandPhase answers waits resets rounds).isSome := by
  obtain ⟨idle, idles⟩ := sent.idles
  obtain ⟨poll, ends⟩ := answered
  obtain ⟨first, waited⟩ : ∃ enough, ∀ rounds, enough ≤ rounds →
      (if waits then firstPoll (fun poll => !answers.prvBusy poll) 0 rounds
        else some 0).isSome := by
    cases waits with
    | false => exact ⟨0, fun _ _ => rfl⟩
    | true =>
      obtain ⟨idle, idles⟩ := sent.prvIdles rfl
      exact firstPoll_ends ⟨idle, by rw [idles]; rfl⟩
  obtain ⟨second, begun⟩ := @firstPoll_ends (fun poll => !answers.busy poll)
    ⟨idle, by rw [idles]; rfl⟩
  obtain ⟨third, loops⟩ := @firstPoll_ends
    (fun poll => answers.rintsts poll &&& (dwemmcIntDto ||| dwemmcIntCmdDone) ≠ 0)
    ⟨poll, decide_eq_true ends⟩
  refine ⟨first + second + third, fun rounds many => ?_⟩
  obtain ⟨found, passed⟩ := Option.isSome_iff_exists.mp (waited rounds (by omega))
  obtain ⟨begins, started⟩ := Option.isSome_iff_exists.mp (begun rounds (by omega))
  rw [commandPhase, passed]
  simp only
  split
  · rfl
  · rw [sendCommand, started, Option.bind_eq_bind, Option.bind_some,
      sendLoop_eq answers.sticky rounds 0 (.inl rfl), Option.isSome_map]
    exact loops rounds (by omega)

theorem CommandAnswers.Raises.not_cleared (raises : answers.Raises) : ¬ answers.Cleared := by
  rintro ⟨poll, ends, clear⟩
  obtain ⟨first, raised, open'⟩ := raises
  have behind : first ≤ poll := by
    by_contra before
    exact open' poll (Nat.not_le.mp before) ends
  exact answers.sticky.raised behind raised clear

theorem sendCommand_status (sent : sendCommand answers rounds = some status) :
    (∃ poll, answers.busy poll = false) ∧ (∃ poll, answers.Ends poll) ∧
      ((status = EfiStatus.success ∧ answers.Cleared) ∨
        (status = EfiStatus.deviceError ∧ ¬ answers.Cleared)) := by
  obtain ⟨found, begun, sent⟩ := Option.bind_eq_some_iff.mp sent
  obtain ⟨-, idle, -⟩ := firstPoll_eq_some_iff.mp begun
  rw [sendLoop_eq answers.sticky rounds 0 (.inl rfl)] at sent
  obtain ⟨last, ended, rfl⟩ := Option.map_eq_some_iff.mp sent
  obtain ⟨-, shown, first⟩ := firstPoll_eq_some_iff.mp ended
  refine ⟨⟨found, by simpa using idle⟩, ⟨last, of_decide_eq_true shown⟩, ?_⟩
  by_cases error : answers.rintsts last &&& errMask = 0
  · exact .inl ⟨if_neg (not_not.mpr error), last, of_decide_eq_true shown, error⟩
  · refine .inr ⟨if_pos error, ?_⟩
    rintro ⟨poll, answered, none⟩
    rcases Nat.lt_or_ge poll last with before | behind
    · exact absurd answered (of_decide_eq_false (first poll (Nat.zero_le _) before))
    · exact answers.sticky.raised behind error none

/-- A command phase that ends: the FIFO is not reset in time, or the command is sent and
answered. -/
theorem commandPhase_some (run : commandPhase answers waits resets rounds = some status) :
    (status = EfiStatus.deviceError ∧ ¬ answers.Sent waits resets) ∨
      (answers.Sent waits resets ∧ sendCommand answers rounds = some status) := by
  have inTime := fifoReset_iff answers.resetting 100000 0
  rw [commandPhase] at run
  split at run
  · exact nomatch run
  · next found passed =>
    by_cases late : (resets && !answers.fifoEmpty && !fifoReset answers.resetting 100000 0) = true
    · rw [if_pos late] at run
      simp only [Bool.and_eq_true, Bool.not_eq_true'] at late
      obtain ⟨⟨reset, left⟩, still⟩ := late
      refine .inl ⟨(Option.some.inj run).symm, fun sent => ?_⟩
      obtain ⟨poll, before, ended⟩ := sent.ready reset left
      have done := inTime.mpr ⟨poll, Nat.zero_le _, by omega, ended⟩
      exact nomatch done.symm.trans still
    · rw [if_neg late] at run
      refine .inr ⟨⟨fun waits => ?_, fun reset left => ?_, (sendCommand_status run).1⟩, run⟩
      · rw [if_pos waits] at passed
        obtain ⟨-, idle, -⟩ := firstPoll_eq_some_iff.mp passed
        exact ⟨found, by simpa using idle⟩
      · have done : fifoReset answers.resetting 100000 0 = true := by
          simpa [reset, left] using late
        obtain ⟨poll, -, before, ended⟩ := inTime.mp done
        exact ⟨poll, by omega, ended⟩

theorem commandPhase_cases (run : commandPhase answers waits resets rounds = some status) :
    (status = EfiStatus.success ∧ answers.Accepted waits resets) ∨
      (status = EfiStatus.deviceError ∧ ¬ answers.Accepted waits resets) := by
  rcases commandPhase_some run with ⟨error, unsent⟩ | ⟨sent, run⟩
  · exact .inr ⟨error, fun accepted => unsent accepted.1⟩
  · rcases (sendCommand_status run).2.2 with ⟨success, cleared⟩ | ⟨error, not⟩
    · exact .inl ⟨success, sent, cleared⟩
    · exact .inr ⟨error, fun accepted => not accepted.2⟩

theorem answered_of_commandPhase (sent : answers.Sent waits resets)
    (run : commandPhase answers waits resets rounds = some status) :
    ∃ poll, answers.Ends poll := by
  rcases commandPhase_some run with ⟨-, unsent⟩ | ⟨-, run⟩
  · exact absurd sent unsent
  · exact (sendCommand_status run).2.1

end

end MuRockchip.Mmc.Mshc
