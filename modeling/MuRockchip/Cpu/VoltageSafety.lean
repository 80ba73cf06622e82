/-
Whether the regulator covers the CPU rate at every instant of `ApplyVariables`.

A raise is safe only if the voltage is there before the rate, a reduction only if
the rate is gone before the voltage. The driver has the order right and ignores
the statuses, so it is safe exactly when the calls it does not look at take
effect, and when the selector of the new voltage fits its field: those of the two
highest voltages of the table do not.

* `selectorValue_listed`: what the value written to the register decodes to.
* `exec_cpuVoltageSet`, `throughout_cpuVoltageSet`: one `CpuVoltageSet`.
* `exec_setCpuSpeed`, `throughout_setCpuSpeed`: one `SetCpuSpeed`.
* `staysCovered_iff`, `voltageSetSound_iff`: the criterion for a run of
  `ApplyVariables`, and for a call of `CpuVoltageSet`.
-/
import MuRockchip.Cpu.Voltage

namespace MuRockchip.Cpu

open MuRockchip.Base

/-! ### The table and the selector -/

/-- The highest voltage the selector field can ask for. -/
def highestUVol : UInt32 := selectedUVol vselNselMask

def quotient (uVol : UInt32) : UInt8 := ((uVol - voltageBase) / voltageStep).toUInt8

theorem or_and_mask (high low mask : UInt8) :
    (high ||| low) &&& mask = high &&& mask ||| low &&& mask :=
  UInt8.toBitVec_inj.mp BitVec.and_or_distrib_right

theorem selectorValue_eq (oldValue : UInt8) (uVol : UInt32) :
    selectorValue oldValue uVol = (oldValue &&& ~~~vselNselMask) ||| quotient uVol := by
  rw [selectorValue, UInt32.toUInt8_or, UInt8.toUInt8_toUInt32, quotient]

theorem selectorValue_and_mask (oldValue : UInt8) (uVol : UInt32) :
    selectorValue oldValue uVol &&& vselNselMask = quotient uVol &&& vselNselMask := by
  rw [selectorValue_eq, or_and_mask, UInt8.and_assoc]
  simp

theorem selectorValue_and_rest (oldValue : UInt8) (uVol : UInt32) :
    selectorValue oldValue uVol &&& ~~~vselNselMask =
      (oldValue &&& ~~~vselNselMask) ||| (quotient uVol &&& ~~~vselNselMask) := by
  rw [selectorValue_eq, or_and_mask, UInt8.and_assoc]
  simp

variable {uVol : UInt32} {hz speedHz : UInt64} {env : Environment}

theorem mem_listed (listed : uVol ∈ cpuVoltageOpp.map Prod.snd) :
    uVol = 825000 ∨ uVol = 900000 ∨ uVol = 975000 ∨ uVol = 1050000 ∨ uVol = 1150000 := by
  simpa [cpuVoltageOpp] using listed

/-- The quotient fits the field and decodes to the voltage, or what is left of it in the
field stands for less than every voltage in the table. -/
theorem quotient_listed (listed : uVol ∈ cpuVoltageOpp.map Prod.snd) :
    if uVol ≤ highestUVol then
      selectedUVol (quotient uVol) = uVol ∧ quotient uVol &&& ~~~vselNselMask = 0
    else
      selectedUVol (quotient uVol) < 825000 := by
  rcases mem_listed listed with rfl | rfl | rfl | rfl | rfl
  all_goals decide +kernel

/-- The value written decodes to the voltage asked for and keeps the other bits, or
the quotient is wider than the field and the voltage is below every one in the
table. -/
theorem selectorValue_listed (listed : uVol ∈ cpuVoltageOpp.map Prod.snd) (oldValue : UInt8) :
    if uVol ≤ highestUVol then
      selectedUVol (selectorValue oldValue uVol) = uVol ∧
        selectorValue oldValue uVol &&& ~~~vselNselMask = oldValue &&& ~~~vselNselMask
    else
      selectedUVol (selectorValue oldValue uVol) < 825000 := by
  have selected : selectedUVol (selectorValue oldValue uVol) = selectedUVol (quotient uVol) := by
    rw [selectedUVol, selectorValue_and_mask, selectedUVol]
  have here := quotient_listed listed
  rw [selected]
  split at here
  · next fits =>
    rw [if_pos fits, selectorValue_and_rest, here.2, UInt8.or_zero]
    exact ⟨here.1, rfl⟩
  · next wide =>
    rw [if_neg wide]
    exact here

theorem cpuVoltageHzToUVol_listed
    (found : cpuVoltageHzToUVol hz = some uVol) : uVol ∈ cpuVoltageOpp.map Prod.snd := by
  obtain ⟨opp, hit, rfl⟩ := Option.map_eq_some_iff.mp found
  exact List.mem_map_of_mem (List.mem_of_find?_eq_some hit)

theorem lowest_le (listed : uVol ∈ cpuVoltageOpp.map Prod.snd) :
    825000 ≤ uVol := by
  rcases mem_listed listed with rfl | rfl | rfl | rfl | rfl
  all_goals decide

theorem find?_le {higher : UInt64} (below : hz ≤ higher) {opps : List (UInt64 × UInt32)}
    (rising : opps.Pairwise fun first second => first.2 ≤ second.2) {opp : UInt64 × UInt32}
    (hit : opps.find? (fun opp => higher ≤ opp.1) = some opp) :
    ∃ earlier, opps.find? (fun opp => hz ≤ opp.1) = some earlier ∧ earlier.2 ≤ opp.2 := by
  induction opps with
  | nil => simp at hit
  | cons head rest ih =>
    obtain ⟨before, risingRest⟩ := List.pairwise_cons.mp rising
    by_cases here : hz ≤ head.1
    · refine ⟨head, by simp [here], ?_⟩
      rcases List.mem_cons.mp (List.mem_of_find?_eq_some hit) with rfl | later
      · exact UInt32.le_refl _
      · exact before opp later
    · have past : ¬ higher ≤ head.1 := fun reached => here (UInt64.le_trans below reached)
      rw [List.find?_cons_of_neg (by simpa using past)] at hit
      rw [List.find?_cons_of_neg (by simpa using here)]
      exact ih risingRest hit

/-- A lower rate needs no higher voltage. -/
theorem cpuVoltageHzToUVol_mono {higher : UInt64} (below : hz ≤ higher)
    (found : cpuVoltageHzToUVol higher = some uVol) :
    ∃ less, cpuVoltageHzToUVol hz = some less ∧ less ≤ uVol := by
  obtain ⟨opp, hit, rfl⟩ := Option.map_eq_some_iff.mp found
  obtain ⟨earlier, first, le⟩ := find?_le below (by decide) hit
  exact ⟨earlier.2, Option.map_eq_some_iff.mpr ⟨earlier, first, rfl⟩, le⟩

/-! ### The safety of a run -/

/-- The regulator supplies what the rate needs. -/
def Board.Covered (board : Board) : Prop :=
  ∃ uVol, cpuVoltageHzToUVol board.rate = some uVol ∧ uVol ≤ board.uVol

/-- What holds in each state of a run that started on `entry`: the rate is covered,
and a reduction that has not happened has not lowered the voltage. -/
structure Safe (env : Environment) (settings : Settings) (entry board : Board) : Prop where
  covered : board.Covered
  notLowered : ∀ speedHz, requestedSpeed env settings = .ok speedHz → speedHz < entry.rate →
    board.rate = entry.rate → entry.uVol ≤ board.uVol

def StaysCovered (env : Environment) (settings : Settings) (entry : Board) : Prop :=
  (applyVariables env settings).Throughout env.handler (Safe env settings entry) entry

/-- Only the selector field of the selector register may differ. -/
structure FieldOnly (before after : Board) : Prop where
  rate : after.rate = before.rate
  others : ∀ register, register ≠ vselReg →
    after.registers register = before.registers register
  bits : after.vsel &&& ~~~vselNselMask = before.vsel &&& ~~~vselNselMask

/-- `CpuVoltageSet` changes the selector field only, and reports success only if the
voltage is the one asked for. -/
def VoltageSetSound (env : Environment) (hz : UInt64) (board : Board) : Prop :=
  Prog.wp env.handler (cpuVoltageSet env hz)
    (fun status after => FieldOnly board after ∧
      (status = EfiStatus.success → cpuVoltageHzToUVol hz = some after.uVol))
    (fun _ after => FieldOnly board after) board

/-! ### The conditions -/

namespace Environment

/-- The value `CpuVoltageSet` takes for the register's. -/
def oldValue (env : Environment) (board : Board) : UInt8 :=
  if env.readSelector.takesEffect then board.vsel else env.staleOldValue

/-- The selector is written: the voltage is not taken for the right one already, and
the write takes effect. -/
def Reprograms (env : Environment) (board : Board) (uVol : UInt32) : Prop :=
  selectedUVol (env.oldValue board) ≠ uVol ∧ env.writeSelector.takesEffect = true

instance (env : Environment) (board : Board) (uVol : UInt32) :
    Decidable (env.Reprograms board uVol) := inferInstanceAs (Decidable (_ ∧ _))

/-- A build with assertions stops at a read that fails. -/
def HaltsAtRead (env : Environment) : Prop :=
  env.asserts = true ∧ env.readSelector.status ≠ EfiStatus.success

instance (env : Environment) : Decidable env.HaltsAtRead := inferInstanceAs (Decidable (_ ∧ _))

/-- `SetCpuSpeed` changes the rate. -/
def ChangesRate (env : Environment) : Prop :=
  env.locateForSet.isError = false ∧ env.rateSet.takesEffect = true

instance (env : Environment) : Decidable env.ChangesRate := inferInstanceAs (Decidable (_ ∧ _))

/-- `ApplyVariables` goes on to change the rate to this one. -/
structure Requests (env : Environment) (settings : Settings) (speedHz : UInt64) : Prop where
  requested : requestedSpeed env settings = .ok speedHz
  nonzero : speedHz ≠ 0
  located : env.locateForGet.isError = false
  rateKnown : env.rateGet.isError = false

end Environment

/-- A raise is safe: without an entry for the rate it must fail; with one, the
selector must fit its field if it is written, and if it is not, the voltage must
suffice already or the raise must fail. -/
def RaiseSafe (env : Environment) (board : Board) (speedHz : UInt64) : Prop :=
  match cpuVoltageHzToUVol speedHz with
  | none => ¬ env.ChangesRate
  | some uVol =>
    env.HaltsAtRead ∨
      if env.Reprograms board uVol then uVol ≤ highestUVol
      else uVol ≤ board.uVol ∨ ¬ env.ChangesRate

theorem raiseSafe_listed {board : Board} (found : cpuVoltageHzToUVol speedHz = some uVol) :
    RaiseSafe env board speedHz ↔
      env.HaltsAtRead ∨
        if env.Reprograms board uVol then uVol ≤ highestUVol
        else uVol ≤ board.uVol ∨ ¬ env.ChangesRate := by
  simp only [RaiseSafe, found]

/-- A reduction is safe: it takes effect, or an assertion stops the run, or the
voltage stays. -/
def ReductionSafe (env : Environment) (board : Board) (speedHz : UInt64) : Prop :=
  env.ChangesRate ∨ env.asserts = true ∨
    ∀ uVol, cpuVoltageHzToUVol speedHz = some uVol → env.Reprograms board uVol →
      uVol = board.uVol

/-- The settings and the calls leave the rate covered. -/
def ChangeSafe (env : Environment) (settings : Settings) (board : Board) : Prop :=
  ∀ speedHz, env.Requests settings speedHz →
    (board.rate < speedHz → RaiseSafe env board speedHz) ∧
      (speedHz < board.rate → ReductionSafe env board speedHz)

/-- `CpuVoltageSet` is safe: an assertion stops it, or it writes a selector that fits
next to the bits the register has, or the voltage is right already. -/
def VoltageSetSafe (env : Environment) (hz : UInt64) (board : Board) : Prop :=
  ∀ uVol, cpuVoltageHzToUVol hz = some uVol →
    env.HaltsAtRead ∨
      if env.Reprograms board uVol then
        uVol ≤ highestUVol ∧
          env.oldValue board &&& ~~~vselNselMask = board.vsel &&& ~~~vselNselMask
      else uVol = board.uVol

/-! ### What the calls do -/

/-- The board after `CpuVoltageSet`. -/
def programmed (env : Environment) (uVol : UInt32) (board : Board) : Board :=
  if env.Reprograms board uVol then
    board.setRegister vselReg (selectorValue (env.oldValue board) uVol)
  else board

theorem exec_call (env : Environment) (op : BoardOp) (board : Board) :
    (call op).exec env.handler board =
      some (.ok (env.answer op board).1, (env.answer op board).2) := rfl

theorem read_value (env : Environment) (board : Board) :
    (env.answer (.i2cRead vselReg) board).1.2.getD env.staleOldValue = env.oldValue board := by
  unfold Environment.oldValue
  cases delivered : env.readSelector.takesEffect <;>
    simp [Environment.answer, delivered, Board.vsel]

theorem read_status (env : Environment) (register : UInt8) (board : Board) :
    (env.answer (.i2cRead register) board).1.1 = env.readSelector.status := rfl

theorem read_board (env : Environment) (register : UInt8) (board : Board) :
    (env.answer (.i2cRead register) board).2 = board := rfl

theorem write_board (env : Environment) (register value : UInt8) (board : Board) :
    (env.answer (.i2cWrite register value) board).2 =
      if env.writeSelector.takesEffect then board.setRegister register value else board := rfl

theorem stall_board (env : Environment) (microseconds : UInt32) (board : Board) :
    (env.answer (.stall microseconds) board).2 = board := rfl

theorem assert_of_halts (halts : env.HaltsAtRead) :
    assert env (env.readSelector.status == EfiStatus.success) = .fail .deadLoop := by
  have stops : (env.asserts && !(env.readSelector.status == EfiStatus.success)) = true := by
    simpa [Environment.HaltsAtRead] using halts
  simp [assert, stops]

theorem assert_of_goesOn (goesOn : ¬ env.HaltsAtRead) :
    assert env (env.readSelector.status == EfiStatus.success) = pure () := by
  have passes : (env.asserts && !(env.readSelector.status == EfiStatus.success)) = false := by
    simpa [Environment.HaltsAtRead] using goesOn
  simp [assert, passes]

theorem exec_cpuVoltageSet (found : cpuVoltageHzToUVol hz = some uVol) (board : Board) :
    (cpuVoltageSet env hz).exec env.handler board =
      some (if env.HaltsAtRead then (.error .deadLoop, board)
        else (.ok EfiStatus.success, programmed env uVol board)) := by
  unfold cpuVoltageSet
  rw [found]
  simp only [Prog.exec_bind, exec_call, read_status, read_board, Option.bind_some]
  rw [read_value]
  by_cases halts : env.HaltsAtRead
  · rw [assert_of_halts halts, if_pos halts]
    rfl
  · rw [assert_of_goesOn halts, if_neg halts]
    by_cases right : selectedUVol (env.oldValue board) = uVol
    · have kept : ¬ env.Reprograms board uVol := fun both => both.1 right
      rw [programmed, if_neg kept, if_pos right]
      rfl
    · rw [if_neg right]
      have reprogrammed : env.Reprograms board uVol ↔ env.writeSelector.takesEffect = true :=
        and_iff_right right
      simp only [Prog.exec_bind, exec_call, write_board, stall_board, programmed, reprogrammed]
      rfl

theorem throughout_call (env : Environment) (op : BoardOp) (holds : Board → Prop)
    (board : Board) :
    (call op).Throughout env.handler holds board ↔
      holds board ∧ holds (env.answer op board).2 := by
  simp [call, Prog.invoke, Prog.Throughout, Environment.handler]

theorem wp_call (env : Environment) (op : BoardOp) {ok : boardCalls.Ret op → Board → Prop}
    {err : Halt → Board → Prop} (board : Board) :
    Prog.wp env.handler (call op) ok err board ↔
      ok (env.answer op board).1 (env.answer op board).2 :=
  Prog.wp_of_exec (exec_call env op board)

theorem throughout_cpuVoltageSet (found : cpuVoltageHzToUVol hz = some uVol) (holds : Board → Prop)
    (board : Board) :
    (cpuVoltageSet env hz).Throughout env.handler holds board ↔
      holds board ∧ (env.HaltsAtRead ∨ holds (programmed env uVol board)) := by
  unfold cpuVoltageSet
  rw [found]
  simp only [Prog.throughout_bind, throughout_call, wp_call, read_status, read_board]
  rw [read_value]
  by_cases halts : env.HaltsAtRead
  · rw [assert_of_halts halts]
    simp [halts]
  · rw [assert_of_goesOn halts]
    by_cases right : selectedUVol (env.oldValue board) = uVol
    · have kept : ¬ env.Reprograms board uVol := fun both => both.1 right
      rw [programmed, if_neg kept, if_pos right]
      simp [halts]
    · rw [if_neg right]
      have reprogrammed : env.Reprograms board uVol ↔ env.writeSelector.takesEffect = true :=
        and_iff_right right
      simp only [Prog.throughout_bind, throughout_call, wp_call, write_board, stall_board,
        programmed, reprogrammed]
      simp [halts]

theorem wp_cpuVoltageSet (found : cpuVoltageHzToUVol hz = some uVol) (next : Board → Prop)
    (board : Board) :
    Prog.wp env.handler (cpuVoltageSet env hz) (fun _ after => next after) (fun _ _ => True)
        board ↔ env.HaltsAtRead ∨ next (programmed env uVol board) := by
  rw [Prog.wp_of_exec (exec_cpuVoltageSet found board)]
  by_cases halts : env.HaltsAtRead <;> simp [halts, Prog.Ends]

theorem cpuVoltageSet_unsupported (missing : cpuVoltageHzToUVol hz = none) :
    cpuVoltageSet env hz = pure EfiStatus.unsupported := by
  simp [cpuVoltageSet, missing]

/-- The board after `SetCpuSpeed`. -/
def changed (env : Environment) (speedHz : UInt64) (board : Board) : Board :=
  if env.ChangesRate then board.setRate speedHz else board

/-- A build with assertions stops in `SetCpuSpeed`. -/
def Environment.HaltsAtSet (env : Environment) : Prop :=
  env.asserts = true ∧ (env.locateForSet.isError = true ∨ env.rateSet.status.isError = true ∨
    env.rateGetBack.isError = true)

theorem rateSet_board (env : Environment) (rate : UInt64) (board : Board) :
    (env.answer (.rateSet rate) board).2 =
      if env.rateSet.takesEffect then board.setRate rate else board := rfl

theorem rateSet_status (env : Environment) (rate : UInt64) (board : Board) :
    (env.answer (.rateSet rate) board).1 = env.rateSet.status := rfl

theorem rateGet_board (env : Environment) (board : Board) :
    (env.answer .rateGet board).2 = board := rfl

theorem rateGet_status (env : Environment) (board : Board) :
    (env.answer .rateGet board).1.1 = env.rateGet := rfl

theorem rateGet_rate (env : Environment) (board : Board) :
    (env.answer .rateGet board).1.2 = board.rate := rfl

theorem assert_false (env : Environment) :
    assert env false = if env.asserts then .fail .deadLoop else pure () := by
  simp [assert]

theorem throughout_setCpuSpeed (env : Environment) (speedHz : UInt64) (holds : Board → Prop)
    (board : Board) :
    (setCpuSpeed env speedHz).Throughout env.handler holds board ↔
      holds board ∧ holds (changed env speedHz board) := by
  unfold setCpuSpeed changed Environment.ChangesRate
  by_cases located : env.locateForSet.isError = true
  · by_cases asserts : env.asserts = true <;>
      simp [located, assert_false, asserts, Prog.throughout_bind]
  · rw [if_neg located, Prog.throughout_bind, throughout_call, wp_call, rateSet_board,
      rateSet_status]
    by_cases failed : env.rateSet.status.isError = true
    · by_cases asserts : env.asserts = true <;>
        simp [located, failed, assert_false, asserts, Prog.throughout_bind]
    · by_cases unread : env.rateGetBack.isError = true
      · by_cases asserts : env.asserts = true <;>
          simp [located, failed, unread, assert_false, asserts, Prog.throughout_bind]
      · simp [located, failed, unread]

theorem wp_setCpuSpeed (env : Environment) (speedHz : UInt64) (next : Board → Prop)
    (board : Board) :
    Prog.wp env.handler (setCpuSpeed env speedHz) (fun _ after => next after) (fun _ _ => True)
        board ↔ env.HaltsAtSet ∨ next (changed env speedHz board) := by
  unfold setCpuSpeed changed Environment.ChangesRate Environment.HaltsAtSet
  by_cases located : env.locateForSet.isError = true
  · by_cases asserts : env.asserts = true <;>
      simp [located, assert_false, asserts]
  · rw [if_neg located, Prog.wp_bind, wp_call, rateSet_board, rateSet_status]
    by_cases failed : env.rateSet.status.isError = true
    · by_cases asserts : env.asserts = true <;>
        simp [located, failed, assert_false, asserts]
    · by_cases unread : env.rateGetBack.isError = true
      · by_cases asserts : env.asserts = true <;>
          simp [located, failed, unread, assert_false, asserts]
      · simp [located, failed, unread]

theorem changeSpeed_raise {curSpeedHz : UInt64} (raise : curSpeedHz < speedHz) :
    changeSpeed env curSpeedHz speedHz =
      cpuVoltageSet env speedHz >>= fun _ => setCpuSpeed env speedHz >>= fun _ => pure () := by
  have notReduced : ¬ speedHz < curSpeedHz := UInt64.not_lt.mpr (UInt64.le_of_lt raise)
  simp [changeSpeed, raise, notReduced]
  

theorem changeSpeed_reduction {curSpeedHz : UInt64} (reduction : speedHz < curSpeedHz) :
    changeSpeed env curSpeedHz speedHz =
      setCpuSpeed env speedHz >>= fun _ => cpuVoltageSet env speedHz >>= fun _ => pure () := by
  have notRaised : ¬ curSpeedHz < speedHz := UInt64.not_lt.mpr (UInt64.le_of_lt reduction)
  simp [changeSpeed, reduction, notRaised]

theorem changeSpeed_same (env : Environment) (speedHz : UInt64) :
    changeSpeed env speedHz speedHz = setCpuSpeed env speedHz >>= fun _ => pure () := by
  simp [changeSpeed]

section

variable {env : Environment} {board : Board} {speedHz : UInt64} (holds : Board → Prop)

theorem throughout_raise_unsupported (raise : board.rate < speedHz)
    (missing : cpuVoltageHzToUVol speedHz = none) :
    (changeSpeed env board.rate speedHz).Throughout env.handler holds board ↔
      holds board ∧ holds (changed env speedHz board) := by
  rw [changeSpeed_raise raise, cpuVoltageSet_unsupported missing, Prog.pure_bind,
    Prog.throughout_bind, throughout_setCpuSpeed]
  simp only [Prog.throughout_pure, wp_setCpuSpeed]
  grind

theorem throughout_raise (raise : board.rate < speedHz) {uVol : UInt32}
    (found : cpuVoltageHzToUVol speedHz = some uVol) :
    (changeSpeed env board.rate speedHz).Throughout env.handler holds board ↔
      holds board ∧ (env.HaltsAtRead ∨
        holds (programmed env uVol board) ∧
          holds (changed env speedHz (programmed env uVol board))) := by
  rw [changeSpeed_raise raise, Prog.throughout_bind, throughout_cpuVoltageSet found]
  simp only [Prog.throughout_bind, throughout_setCpuSpeed, Prog.throughout_pure, wp_setCpuSpeed,
    wp_cpuVoltageSet found (fun after => (holds after ∧ holds (changed env speedHz after)) ∧
      (env.HaltsAtSet ∨ holds (changed env speedHz after)))]
  grind

theorem throughout_reduction (reduction : speedHz < board.rate) {uVol : UInt32}
    (found : cpuVoltageHzToUVol speedHz = some uVol) :
    (changeSpeed env board.rate speedHz).Throughout env.handler holds board ↔
      holds board ∧ holds (changed env speedHz board) ∧
        (env.HaltsAtSet ∨ env.HaltsAtRead ∨
          holds (programmed env uVol (changed env speedHz board))) := by
  rw [changeSpeed_reduction reduction, Prog.throughout_bind, throughout_setCpuSpeed]
  simp only [Prog.throughout_bind, throughout_cpuVoltageSet found, Prog.throughout_pure]
  rw [wp_setCpuSpeed env speedHz (fun after =>
      (holds after ∧ (env.HaltsAtRead ∨ holds (programmed env uVol after))) ∧
        Prog.wp env.handler (cpuVoltageSet env speedHz) (fun _ after => holds after)
          (fun _ _ => True) after),
    wp_cpuVoltageSet found]
  grind

theorem throughout_applyVariables (settings : Settings) :
    (applyVariables env settings).Throughout env.handler holds board ↔
      holds board ∧ ∀ speedHz, env.Requests settings speedHz →
        (changeSpeed env board.rate speedHz).Throughout env.handler holds board := by
  have noRequest (blocked : ∀ speedHz, ¬ env.Requests settings speedHz) :
      holds board ↔ holds board ∧ ∀ speedHz, env.Requests settings speedHz →
        (changeSpeed env board.rate speedHz).Throughout env.handler holds board :=
    ⟨fun here => ⟨here, fun speedHz requests => (blocked speedHz requests).elim⟩, And.left⟩
  unfold applyVariables
  cases requested : requestedSpeed env settings with
  | error exit =>
    refine noRequest fun speedHz requests => ?_
    have := requests.requested
    simp [requested] at this
  | ok speedHz =>
    simp only
    unfold getCpuSpeed
    by_cases located : env.locateForGet.isError = true
    · have blocked : ∀ other, ¬ env.Requests settings other := by
        intro other requests
        simp [requests.located] at located
      rw [← noRequest blocked]
      by_cases asserts : env.asserts = true <;>
        simp [located, assert_false, asserts, Prog.throughout_bind]
    · rw [if_neg located]
      simp only [Prog.throughout_bind, throughout_call, Prog.wp_bind, wp_call, rateGet_status,
        rateGet_rate, rateGet_board]
      by_cases failed : env.rateGet.isError = true
      · have blocked : ∀ other, ¬ env.Requests settings other := by
          intro other requests
          simp [requests.rateKnown] at failed
        rw [← noRequest blocked]
        by_cases asserts : env.asserts = true <;>
          simp [failed, assert_false, asserts, Prog.throughout_bind]
      · by_cases zero : speedHz = 0
        · have blocked : ∀ other, ¬ env.Requests settings other := by
            intro other requests
            have same := requested.symm.trans requests.requested
            cases same
            exact requests.nonzero zero
          rw [← noRequest blocked]
          simp [failed, zero]
        · have requests : env.Requests settings speedHz :=
            ⟨requested, zero, by simpa using located, by simpa using failed⟩
          have only : ∀ other, env.Requests settings other ↔ other = speedHz := by
            intro other
            constructor
            · intro others
              have same := requested.symm.trans others.requested
              cases same
              rfl
            · rintro rfl
              exact requests
          simp [failed, zero, only]

end

/-! ### The criterion -/

theorem selectedUVol_le (value : UInt8) : selectedUVol value ≤ highestUVol := by
  have low : (value &&& vselNselMask).toNat ≤ 63 := by
    rw [UInt8.toNat_and]
    exact Nat.and_le_right
  have step : voltageStep.toNat = 6250 := rfl
  have base : voltageBase.toNat = 600000 := rfl
  have highest : highestUVol.toNat = 993750 := rfl
  rw [UInt32.le_iff_toNat_le, highest, selectedUVol, UInt32.toNat_add, UInt32.toNat_mul,
    UInt8.toNat_toUInt32, step, base]
  have product := Nat.mod_le ((value &&& vselNselMask).toNat * 6250) (2 ^ 32)
  refine Nat.le_trans (Nat.mod_le _ _) ?_
  omega
section

variable {env : Environment} {settings : Settings} {board : Board} {speedHz : UInt64}

variable {uVol : UInt32}

theorem programmed_of_reprograms (reprograms : env.Reprograms board uVol) :
    programmed env uVol board =
      board.setRegister vselReg (selectorValue (env.oldValue board) uVol) := if_pos reprograms

theorem programmed_of_kept (kept : ¬ env.Reprograms board uVol) :
    programmed env uVol board = board := if_neg kept

theorem changed_of_changes (changes : env.ChangesRate) :
    changed env speedHz board = board.setRate speedHz := if_pos changes

theorem changed_of_fails (fails : ¬ env.ChangesRate) : changed env speedHz board = board :=
  if_neg fails

theorem uVol_programmed (found : cpuVoltageHzToUVol speedHz = some uVol) (fits : uVol ≤ highestUVol)
    (reprograms : env.Reprograms board uVol) :
    (programmed env uVol board).uVol = uVol := by
  have listed := selectorValue_listed (cpuVoltageHzToUVol_listed found) (env.oldValue board)
  rw [if_pos fits] at listed
  rw [programmed_of_reprograms reprograms, Board.uVol_setRegister, listed.1]

theorem uVol_programmed_lt (found : cpuVoltageHzToUVol speedHz = some uVol)
    (tooHigh : ¬ uVol ≤ highestUVol) (reprograms : env.Reprograms board uVol) :
    (programmed env uVol board).uVol < 825000 := by
  have listed := selectorValue_listed (cpuVoltageHzToUVol_listed found) (env.oldValue board)
  rw [if_neg tooHigh] at listed
  rwa [programmed_of_reprograms reprograms, Board.uVol_setRegister]

theorem rate_programmed (uVol : UInt32) : (programmed env uVol board).rate = board.rate := by
  unfold programmed
  split <;> rfl

theorem Board.Covered.of_le {lower : Board} (covered : board.Covered)
    (rate : lower.rate = board.rate) (enough : board.uVol ≤ lower.uVol) : lower.Covered := by
  obtain ⟨uVol, found, supplied⟩ := covered
  exact ⟨uVol, rate ▸ found, UInt32.le_trans supplied enough⟩

theorem not_covered_of_lt (low : board.uVol < 825000) : ¬ board.Covered := by
  rintro ⟨uVol, found, supplied⟩
  have lowest := lowest_le (cpuVoltageHzToUVol_listed found)
  exact absurd low (UInt32.not_lt.mpr (UInt32.le_trans lowest supplied))

theorem Safe.start (covered : board.Covered) : Safe env settings board board :=
  ⟨covered, fun _ _ _ _ => UInt32.le_refl _⟩

theorem safe_iff_of_raise (requested : requestedSpeed env settings = .ok speedHz)
    (raise : board.rate < speedHz) {state : Board} :
    Safe env settings board state ↔ state.Covered := by
  constructor
  · exact Safe.covered
  · intro covered
    refine ⟨covered, fun other asked lower _ => ?_⟩
    have same := requested.symm.trans asked
    cases same
    exact absurd lower (UInt64.not_lt.mpr (UInt64.le_of_lt raise))

theorem raiseSafe_iff (covered : board.Covered)
    (requested : requestedSpeed env settings = .ok speedHz) (raise : board.rate < speedHz) :
    (changeSpeed env board.rate speedHz).Throughout env.handler (Safe env settings board) board ↔
      RaiseSafe env board speedHz := by
  have holds : Safe env settings board = Board.Covered :=
    funext fun state => propext (safe_iff_of_raise requested raise)
  rw [holds]
  cases found : cpuVoltageHzToUVol speedHz with
  | none =>
    simp only [throughout_raise_unsupported _ raise found, RaiseSafe, found]
    by_cases changes : env.ChangesRate
    · have lost : ¬ (board.setRate speedHz).Covered := by
        rintro ⟨uVol, entry, -⟩
        simp [found] at entry
      simp [changed_of_changes changes, changes, lost]
    · simp [changed_of_fails changes, changes, covered]
  | some uVol =>
    rw [throughout_raise _ raise found, raiseSafe_listed found]
    obtain ⟨less, needed, le⟩ := cpuVoltageHzToUVol_mono (UInt64.le_of_lt raise) found
    by_cases reprograms : env.Reprograms board uVol
    · simp only [if_pos reprograms]
      by_cases fits : uVol ≤ highestUVol
      · have supplied := uVol_programmed found fits reprograms
        have before : (programmed env uVol board).Covered :=
          ⟨less, by rw [rate_programmed, needed], by rwa [supplied]⟩
        have after : (changed env speedHz (programmed env uVol board)).Covered := by
          by_cases changes : env.ChangesRate
          · rw [changed_of_changes changes]
            exact ⟨uVol, found, by rw [Board.uVol_setRate, supplied]; exact UInt32.le_refl _⟩
          · rwa [changed_of_fails changes]
        simp [covered, before, after, fits]
      · have lost := not_covered_of_lt (uVol_programmed_lt found fits reprograms)
        simp [covered, lost, fits]
    · simp only [if_neg reprograms, programmed_of_kept reprograms]
      by_cases changes : env.ChangesRate
      · have later : (board.setRate speedHz).Covered ↔ uVol ≤ board.uVol := by
          simp [Board.Covered, found]
        simp [changed_of_changes changes, changes, covered, later]
      · simp [changed_of_fails changes, changes, covered]

theorem reductionSafe_iff (covered : board.Covered)
    (requested : requestedSpeed env settings = .ok speedHz) (reduction : speedHz < board.rate) :
    (changeSpeed env board.rate speedHz).Throughout env.handler (Safe env settings board) board ↔
      ReductionSafe env board speedHz := by
  have start : Safe env settings board board := .start covered
  obtain ⟨needed, entry, supplied⟩ := covered
  obtain ⟨uVol, found, less⟩ := cpuVoltageHzToUVol_mono (UInt64.le_of_lt reduction) entry
  have enough : uVol ≤ board.uVol := UInt32.le_trans less supplied
  have fits : uVol ≤ highestUVol := UInt32.le_trans enough (selectedUVol_le _)
  rw [throughout_reduction _ reduction found]
  have moved {state : Board} (rate : state.rate = speedHz) (above : uVol ≤ state.uVol) :
      Safe env settings board state := by
    refine ⟨⟨uVol, rate ▸ found, above⟩, fun _ _ _ stayed => ?_⟩
    exact absurd (rate.symm.trans stayed) (UInt64.ne_of_lt reduction)
  by_cases changes : env.ChangesRate
  · rw [changed_of_changes changes]
    have lowered : uVol ≤ (programmed env uVol (board.setRate speedHz)).uVol := by
      by_cases reprograms : env.Reprograms (board.setRate speedHz) uVol
      · rw [uVol_programmed found fits reprograms]
        exact UInt32.le_refl _
      · have stays := programmed_of_kept reprograms
        simpa only [stays, Board.uVol_setRate] using enough
    have reduced : Safe env settings board (board.setRate speedHz) := moved rfl enough
    have after : Safe env settings board (programmed env uVol (board.setRate speedHz)) :=
      moved (rate_programmed uVol) lowered
    simp [start, reduced, after, ReductionSafe, changes]
  · rw [changed_of_fails changes]
    by_cases asserts : env.asserts = true
    · have stops : env.HaltsAtSet := by
        refine ⟨asserts, ?_⟩
        by_cases located : env.locateForSet.isError = true
        · exact .inl located
        · refine .inr (.inl ?_)
          by_cases failed : env.rateSet.status.isError = true
          · exact failed
          · have effective : env.rateSet.takesEffect = true := by
              simp [CallOutcome.takesEffect, failed]
            exact (changes ⟨by simpa using located, effective⟩).elim
      simp [start, stops, ReductionSafe, asserts]
    · have runs : ¬ env.HaltsAtSet ∧ ¬ env.HaltsAtRead :=
        ⟨fun halts => asserts halts.1, fun halts => asserts halts.1⟩
      by_cases reprograms : env.Reprograms board uVol
      · have set := uVol_programmed found fits reprograms
        have safe : Safe env settings board (programmed env uVol board) ↔ uVol = board.uVol := by
          constructor
          · intro safe
            have kept := safe.notLowered speedHz requested reduction (rate_programmed uVol)
            exact UInt32.le_antisymm enough (set ▸ kept)
          · intro same
            have voltage : (programmed env uVol board).uVol = board.uVol := set.trans same
            have noLess : board.uVol ≤ (programmed env uVol board).uVol := by
              rw [voltage]
              exact UInt32.le_refl _
            exact ⟨start.covered.of_le (rate_programmed uVol) noLess, fun _ _ _ _ => noLess⟩
        simp [start, runs, safe, ReductionSafe, changes, asserts, found, reprograms]
      · simp [start, runs, programmed_of_kept reprograms, ReductionSafe, changes, asserts, found,
          reprograms]

theorem staysCovered_iff (covered : board.Covered) :
    StaysCovered env settings board ↔ ChangeSafe env settings board := by
  have start : Safe env settings board board := .start covered
  unfold StaysCovered ChangeSafe
  rw [throughout_applyVariables, and_iff_right start]
  refine forall_congr' fun speedHz => imp_congr_right fun requests => ?_
  by_cases raise : board.rate < speedHz
  · have notReduced : ¬ speedHz < board.rate := UInt64.not_lt.mpr (UInt64.le_of_lt raise)
    simp [raise, notReduced, raiseSafe_iff covered requests.requested raise]
  · by_cases reduction : speedHz < board.rate
    · simp [raise, reduction, reductionSafe_iff covered requests.requested reduction]
    · have same : speedHz = board.rate :=
        UInt64.le_antisymm (UInt64.not_lt.mp raise) (UInt64.not_lt.mp reduction)
      have unchanged : changed env board.rate board = board := by
        unfold changed
        split <;> rfl
      subst same
      rw [changeSpeed_same, Prog.throughout_bind, throughout_setCpuSpeed]
      simp only [Prog.throughout_pure, wp_setCpuSpeed, unchanged]
      simp [start]

theorem FieldOnly.refl (board : Board) : FieldOnly board board := ⟨rfl, fun _ _ => rfl, rfl⟩

theorem voltageSetSound_iff (env : Environment) (hz : UInt64) (board : Board) :
    VoltageSetSound env hz board ↔ VoltageSetSafe env hz board := by
  unfold VoltageSetSound VoltageSetSafe
  cases found : cpuVoltageHzToUVol hz with
  | none =>
    have reported : EfiStatus.unsupported ≠ EfiStatus.success := by decide
    simp [cpuVoltageSet_unsupported found, FieldOnly.refl, reported]
  | some uVol =>
    rw [Prog.wp_of_exec (exec_cpuVoltageSet found board)]
    by_cases halts : env.HaltsAtRead
    · simp [halts, Prog.Ends, FieldOnly.refl]
    · by_cases reprograms : env.Reprograms board uVol
      · by_cases fits : uVol ≤ highestUVol
        · have set := uVol_programmed found fits reprograms
          have listed := selectorValue_listed (cpuVoltageHzToUVol_listed found) (env.oldValue board)
          rw [if_pos fits] at listed
          have field : FieldOnly board (programmed env uVol board) ↔
              env.oldValue board &&& ~~~vselNselMask = board.vsel &&& ~~~vselNselMask := by
            rw [programmed_of_reprograms reprograms]
            constructor
            · intro field
              rw [← field.bits, Board.vsel_setRegister, listed.2]
            · intro bits
              refine ⟨rfl, fun register other => Function.update_of_ne other _ _, ?_⟩
              rw [Board.vsel_setRegister, listed.2, bits]
          simp [halts, Prog.Ends, reprograms, fits, field, set]
        · have low := uVol_programmed_lt found fits reprograms
          have wrong : uVol ≠ (programmed env uVol board).uVol := by
            intro same
            have lowest := lowest_le (cpuVoltageHzToUVol_listed found)
            exact absurd low (UInt32.not_lt.mpr (same ▸ lowest))
          simp [halts, Prog.Ends, reprograms, fits, wrong]
      · simp [halts, Prog.Ends, reprograms, programmed_of_kept reprograms, FieldOnly.refl]

end

/-- The exact criteria: for a run of `ApplyVariables` from a covered state, and for a
call of `CpuVoltageSet` in any state. -/
theorem cpuVoltage_covers_iff (env : Environment) (settings : Settings) :
    (∀ entry : Board, entry.Covered →
      (StaysCovered env settings entry ↔ ChangeSafe env settings entry)) ∧
    ∀ hz board, VoltageSetSound env hz board ↔ VoltageSetSafe env hz board := by
  constructor
  · intro entry covered
    exact staysCovered_iff covered
  · intro hz board
    exact voltageSetSound_iff env hz board

/-! ### Runs that are not covered -/

/-- A release build in which every call succeeds. -/
def Environment.reliable : Environment where
  asserts := false
  locateForRates := EfiStatus.success
  locateForGet := EfiStatus.success
  locateForSet := EfiStatus.success
  describeSize := ⟨EfiStatus.bufferTooSmall, true, 1, fun _ => 0⟩
  allocatesRates := true
  describeRates := ⟨EfiStatus.success, true, 1, fun _ => 1992000000⟩
  rateGet := EfiStatus.success
  rateSet := ⟨EfiStatus.success, true⟩
  rateGetBack := EfiStatus.success
  readSelector := ⟨EfiStatus.success, true⟩
  writeSelector := ⟨EfiStatus.success, true⟩
  staleSpeedHz := 0
  staleOldValue := 0

/-- 816 MHz at 825 mV, with the buck enabled. -/
def Board.boot : Board where
  rate := 816000000
  registers := fun register => if register = vselReg then 0xa4 else 0

/-- 1416 MHz at 900 mV. -/
def Board.fast : Board where
  rate := 1416000000
  registers := fun register => if register = vselReg then 0xb0 else 0

/-- A custom clock, in MHz. -/
def Settings.custom (megahertz : UInt32) : Settings := ⟨3, megahertz⟩

/-- At 816 MHz the voltage covers the rate, and the criterion says which raises keep it so. -/
theorem cpuVoltage_covers_raise :
    Board.boot.Covered ∧ (StaysCovered .reliable (.custom 1416) .boot ↔
      ChangeSafe .reliable (.custom 1416) .boot) := by
  have covered : Board.boot.Covered := ⟨825000, by decide, by decide⟩
  exact ⟨covered, (cpuVoltage_covers_iff .reliable (.custom 1416)).1 .boot covered⟩

/-- With every call successful, a raise to 1800 MHz programs 650 mV. With a regulator
that does not acknowledge, the rate is raised all the same and success is
reported. With a clock that refuses, the voltage is lowered all the same. -/
theorem cpuVoltage_uncovered :
    Board.boot.Covered ∧ Board.fast.Covered ∧
    ¬ StaysCovered .reliable (.custom 1800) .boot ∧
    ¬ VoltageSetSound .reliable 1800000000 .boot ∧
    ¬ StaysCovered { Environment.reliable with writeSelector := ⟨EfiStatus.timeout, false⟩ }
      (.custom 1416) .boot ∧
    ¬ VoltageSetSound { Environment.reliable with writeSelector := ⟨EfiStatus.timeout, false⟩ }
      1416000000 .boot ∧
    ¬ StaysCovered { Environment.reliable with rateSet := ⟨EfiStatus.deviceError, false⟩ }
      (.custom 816) .fast := by
  have boot : Board.boot.Covered := ⟨825000, by decide, by decide⟩
  have fast : Board.fast.Covered := ⟨900000, by decide, by decide⟩
  refine ⟨boot, fast, ?_, ?_, ?_, ?_, ?_⟩
  · rw [staysCovered_iff boot]
    intro safe
    have raise := (safe 1800000000 ⟨rfl, by decide, rfl, rfl⟩).1 (by decide)
    rw [raiseSafe_listed (show cpuVoltageHzToUVol 1800000000 = some 1050000 by decide)] at raise
    exact absurd raise (by decide)
  · rw [voltageSetSound_iff]
    intro safe
    exact absurd (safe 1050000 (by decide)) (by decide)
  · rw [staysCovered_iff boot]
    intro safe
    have raise := (safe 1416000000 ⟨rfl, by decide, rfl, rfl⟩).1 (by decide)
    rw [raiseSafe_listed (show cpuVoltageHzToUVol 1416000000 = some 900000 by decide)] at raise
    exact absurd raise (by decide)
  · rw [voltageSetSound_iff]
    intro safe
    exact absurd (safe 900000 (by decide)) (by decide)
  · rw [staysCovered_iff fast]
    intro safe
    have reduction := (safe 816000000 ⟨rfl, by decide, rfl, rfl⟩).2 (by decide)
    rcases reduction with changes | asserts | keeps
    · exact absurd changes (by decide)
    · exact absurd asserts (by decide)
    · exact absurd (keeps 825000 (by decide) (by decide)) (by decide)

end MuRockchip.Cpu
