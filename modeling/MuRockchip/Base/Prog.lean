/-
Programs that call an interface.

A driver reaches its surroundings through a fixed set of operations. A program is
a tree of such calls that ends in a value or in an error; a handler gives the
operations a meaning over a state, and may be undefined where an operation has
not been given one yet. What a program does is computed by `exec`, and reasoned
about through `wp`, with one rule for each way of building a program.

* `wp_bind`, `wp_invoke`, `wp_catching`, `wp_mono`: the rules proofs about
  programs are built from.
* `wp_of_preserves`: a reflexive and transitive relation kept by every operation a
  program may call is kept by the program.
* `twp_bind`, `twp_of_defined`: a program ends if its parts do, and its parts do if
  the operations they call are defined.
* `Guarded.wp`: a relation kept by the operations a program calls before it gives
  up is kept whenever the program succeeds.
* `keeps_bind`, `keeps_catching`: what runs keep whose calls are all made in states
  that meet a condition.
-/

namespace MuRockchip.Base

/-- An interface: its operations and what each of them answers. -/
structure Interface where
  Op : Type
  Ret : Op → Type

/-- A program over an interface. -/
inductive Prog (interface : Interface) (ε α : Type) : Type where
  | done (value : α)
  | fail (error : ε)
  | call (op : interface.Op) (next : interface.Ret op → Prog interface ε α)

/-- A meaning of the operations over states `σ`. -/
abbrev Handler (interface : Interface) (σ : Type) : Type :=
  (op : interface.Op) → σ → Option (interface.Ret op × σ)

namespace Prog

variable {interface : Interface} {ε δ α β σ : Type}

/-! ### Building programs -/

def bind : Prog interface ε α → (α → Prog interface ε β) → Prog interface ε β
  | .done value, next => next value
  | .fail error, _ => .fail error
  | .call op rest, next => .call op fun answer => (rest answer).bind next

instance : Monad (Prog interface ε) where
  pure := Prog.done
  bind := Prog.bind

/-- Call one operation. -/
def invoke (op : interface.Op) : Prog interface ε (interface.Ret op) :=
  .call op .done

/-- Run a program and continue its errors with a recovery. -/
def catching : Prog interface ε α → (ε → Prog interface δ α) → Prog interface δ α
  | .done value, _ => .done value
  | .fail error, recovery => recovery error
  | .call op next, recovery => .call op fun answer => (next answer).catching recovery

/-- Change the errors of a program. -/
def mapError (f : ε → δ) : Prog interface ε α → Prog interface δ α
  | .done value => .done value
  | .fail error => .fail (f error)
  | .call op next => .call op fun answer => (next answer).mapError f

/-- Every operation the program can call satisfies `allowed`. -/
def All (allowed : interface.Op → Prop) : Prog interface ε α → Prop
  | .done _ => True
  | .fail _ => True
  | .call op next => allowed op ∧ ∀ answer, (next answer).All allowed

/-- Every path of the program ends in an error, and calls only operations in
`last` on its way there. -/
def Abandons (last : interface.Op → Prop) : Prog interface ε α → Prop
  | .done _ => False
  | .fail _ => True
  | .call op next => last op ∧ ∀ answer, (next answer).Abandons last

/-- The program calls operations in `allowed`, until it gives up: from there on it
calls operations in `last`, and ends in an error. -/
def Guarded (allowed last : interface.Op → Prop) : Prog interface ε α → Prop
  | .done _ => True
  | .fail _ => True
  | .call op next =>
    (allowed op ∧ ∀ answer, (next answer).Guarded allowed last) ∨
      (last op ∧ ∀ answer, (next answer).Abandons last)

/-! ### Running programs -/

/-- Run a program under a handler. -/
def exec (handler : Handler interface σ) : Prog interface ε α → σ → Option (Except ε α × σ)
  | .done value, state => some (.ok value, state)
  | .fail error, state => some (.error error, state)
  | .call op next, state =>
    (handler op state).bind fun answered => (next answered.1).exec handler answered.2

/-- An outcome meets the postcondition of its kind. -/
def Ends (ok : α → σ → Prop) (err : ε → σ → Prop) : Except ε α × σ → Prop
  | (.ok value, state) => ok value state
  | (.error error, state) => err error state

/-- Run from this state, the program can only end in a value with `ok` or in an
error with `err`. -/
def wp (handler : Handler interface σ) (program : Prog interface ε α) (ok : α → σ → Prop)
    (err : ε → σ → Prop) (state : σ) : Prop :=
  ∀ outcome, program.exec handler state = some outcome → Ends ok err outcome

/-- Run from this state, the program does end, and as `wp` says. -/
def twp (handler : Handler interface σ) (program : Prog interface ε α) (ok : α → σ → Prop)
    (err : ε → σ → Prop) (state : σ) : Prop :=
  ∃ outcome, program.exec handler state = some outcome ∧ Ends ok err outcome

/-- Every call the run makes meets `holds` in the state in which it is made. -/
def Along (handler : Handler interface σ) (holds : interface.Op → σ → Prop) :
    Prog interface ε α → σ → Prop
  | .done _, _ => True
  | .fail _, _ => True
  | .call op next, state =>
    holds op state ∧ ∀ answered ∈ handler op state,
      (next answered.1).Along handler holds answered.2

/-- Runs whose calls all meet `holds` keep the relation. -/
def Keeps (handler : Handler interface σ) (holds : interface.Op → σ → Prop)
    (relation : σ → σ → Prop) (program : Prog interface ε α) : Prop :=
  ∀ state, program.Along handler holds state →
    wp handler program (fun _ after => relation state after) (fun _ after => relation state after)
      state

/-- Every state of the run meets the condition, from the first to the last. -/
def Throughout (handler : Handler interface σ) (holds : σ → Prop) :
    Prog interface ε α → σ → Prop
  | .done _, state => holds state
  | .fail _, state => holds state
  | .call op next, state =>
    holds state ∧ ∀ answered ∈ handler op state,
      (next answered.1).Throughout handler holds answered.2

instance along_decidable (handler : Handler interface σ) (holds : interface.Op → σ → Prop)
    [∀ op state, Decidable (holds op state)] :
    ∀ (program : Prog interface ε α) (state : σ), Decidable (program.Along handler holds state)
  | .done _, _ => isTrue trivial
  | .fail _, _ => isTrue trivial
  | .call op next, state =>
    have (answered : interface.Ret op × σ) :
        Decidable ((next answered.1).Along handler holds answered.2) :=
      along_decidable handler holds (next answered.1) answered.2
    inferInstanceAs (Decidable (_ ∧ ∀ answered ∈ handler op state, _))

@[simp]
theorem throughout_pure (handler : Handler interface σ) (holds : σ → Prop) (value : α)
    (state : σ) :
    (Pure.pure value : Prog interface ε α).Throughout handler holds state ↔ holds state := Iff.rfl

@[simp]
theorem throughout_fail (handler : Handler interface σ) (holds : σ → Prop) (error : ε)
    (state : σ) :
    (.fail error : Prog interface ε α).Throughout handler holds state ↔ holds state := Iff.rfl

theorem exec_bind (handler : Handler interface σ) (program : Prog interface ε α)
    (next : α → Prog interface ε β) (state : σ) :
    (program >>= next).exec handler state =
      (program.exec handler state).bind fun outcome =>
        match outcome with
        | (.ok value, after) => (next value).exec handler after
        | (.error error, after) => some (.error error, after) := by
  induction program generalizing state with
  | done value => rfl
  | fail error => rfl
  | call op rest ih =>
    change ((handler op state).bind fun answered =>
      ((rest answered.1) >>= next).exec handler answered.2) = _
    rw [exec, Option.bind_assoc]
    exact Option.bind_congr fun answered _ => ih answered.1 answered.2

variable {handler : Handler interface σ} {program : Prog interface ε α}

theorem exec_bind_ok {value : α} {state after : σ}
    (ended : program.exec handler state = some (.ok value, after)) (next : α → Prog interface ε β) :
    (program >>= next).exec handler state = (next value).exec handler after := by
  rw [exec_bind, ended]
  rfl

/-- A sequence that succeeds has succeeded in its first part. -/
theorem exec_bind_eq_ok {next : α → Prog interface ε β} {state after : σ} {result : β}
    (ended : (program >>= next).exec handler state = some (.ok result, after)) :
    ∃ value middle, program.exec handler state = some (.ok value, middle) ∧
      (next value).exec handler middle = some (.ok result, after) := by
  rw [exec_bind] at ended
  obtain ⟨⟨error | value, middle⟩, first, later⟩ := Option.bind_eq_some_iff.mp ended
  · cases later
  · exact ⟨value, middle, first, later⟩

theorem bind_assoc {γ : Type} (program : Prog interface ε α) (next : α → Prog interface ε β)
    (last : β → Prog interface ε γ) :
    (program >>= next) >>= last = program >>= fun value => next value >>= last := by
  induction program with
  | done value => rfl
  | fail error => rfl
  | call op rest ih => exact congrArg (Prog.call op) (funext ih)

theorem pure_bind (value : α) (next : α → Prog interface ε β) :
    (Pure.pure value >>= next) = next value := rfl

theorem bind_pure (program : Prog interface ε α) :
    (program >>= fun value => Pure.pure value) = program := by
  induction program with
  | done value => rfl
  | fail error => rfl
  | call op rest ih => exact congrArg (Prog.call op) (funext ih)

theorem ite_bind (condition : Prop) [Decidable condition] (yes no : Prog interface ε α)
    (next : α → Prog interface ε β) :
    ((if condition then yes else no) >>= next) =
      if condition then yes >>= next else no >>= next := by
  split <;> rfl

theorem fail_bind (error : ε) (next : α → Prog interface ε β) :
    ((.fail error : Prog interface ε α) >>= next) = .fail error := rfl

theorem exec_catching (handler : Handler interface σ) (program : Prog interface ε α)
    (recovery : ε → Prog interface δ α) (state : σ) :
    (program.catching recovery).exec handler state =
      (program.exec handler state).bind fun outcome =>
        match outcome with
        | (.ok value, after) => some (.ok value, after)
        | (.error error, after) => (recovery error).exec handler after := by
  induction program generalizing state with
  | done value => rfl
  | fail error => rfl
  | call op rest ih =>
    rw [catching, exec, exec, Option.bind_assoc]
    exact Option.bind_congr fun answered _ => ih answered.1 answered.2

theorem mapError_bind (f : ε → δ) (program : Prog interface ε α)
    (next : α → Prog interface ε β) :
    (program >>= next).mapError f =
      program.mapError f >>= fun value => (next value).mapError f := by
  induction program with
  | done value => rfl
  | fail error => rfl
  | call op rest ih => exact congrArg (Prog.call op) (funext ih)

theorem mapError_ite (f : ε → δ) (condition : Prop) [Decidable condition]
    (yes no : Prog interface ε α) :
    (if condition then yes else no).mapError f =
      if condition then yes.mapError f else no.mapError f := by
  split <;> rfl

theorem mapError_leftInverse {f : ε → δ} {g : δ → ε} (back : ∀ error, g (f error) = error)
    (program : Prog interface ε α) : (program.mapError f).mapError g = program := by
  induction program with
  | done value => rfl
  | fail error => exact congrArg Prog.fail (back error)
  | call op rest ih => exact congrArg (Prog.call op) (funext ih)

theorem exec_mapError (f : ε → δ) (handler : Handler interface σ) (program : Prog interface ε α)
    (state : σ) :
    (program.mapError f).exec handler state =
      (program.exec handler state).map fun outcome => (outcome.1.mapError f, outcome.2) := by
  induction program generalizing state with
  | done value => rfl
  | fail error => rfl
  | call op rest ih =>
    rw [mapError, exec, exec, Option.map_bind]
    exact Option.bind_congr fun answered _ => ih answered.1 answered.2

section

variable {handler : Handler interface σ} {ok : α → σ → Prop} {err : ε → σ → Prop} {state : σ}

@[simp]
theorem wp_pure (value : α) :
    wp handler (Pure.pure value : Prog interface ε α) ok err state ↔ ok value state :=
  ⟨fun spec => spec _ rfl, fun holds _ ended => Option.some.inj ended ▸ holds⟩

@[simp]
theorem wp_fail (error : ε) :
    wp handler (.fail error : Prog interface ε α) ok err state ↔ err error state :=
  ⟨fun spec => spec _ rfl, fun holds _ ended => Option.some.inj ended ▸ holds⟩

theorem wp_call {op : interface.Op} {next : interface.Ret op → Prog interface ε α} :
    wp handler (.call op next) ok err state ↔
      ∀ answered ∈ handler op state, wp handler (next answered.1) ok err answered.2 := by
  constructor
  · intro spec answered defined outcome ended
    exact spec outcome (Option.bind_eq_some_iff.mpr ⟨answered, defined, ended⟩)
  · intro later outcome ended
    obtain ⟨answered, defined, ended⟩ := Option.bind_eq_some_iff.mp ended
    exact later answered defined outcome ended

theorem wp_invoke (op : interface.Op) (ok : interface.Ret op → σ → Prop) :
    wp handler (invoke op : Prog interface ε _) ok err state ↔
      ∀ answered, handler op state = some answered → ok answered.1 answered.2 := by
  rw [invoke, wp_call]
  exact forall₂_congr fun answered _ => wp_pure answered.1

@[simp]
theorem wp_bind (program : Prog interface ε α) (next : α → Prog interface ε β)
    (ok : β → σ → Prop) :
    wp handler (program >>= next) ok err state ↔
      wp handler program (fun value after => wp handler (next value) ok err after) err state := by
  unfold wp
  rw [exec_bind]
  rcases program.exec handler state with _ | ⟨value | error, after⟩ <;> simp [Ends]

@[simp]
theorem wp_catching (program : Prog interface δ α) (recovery : δ → Prog interface ε α) :
    wp handler (program.catching recovery) ok err state ↔
      wp handler program ok (fun error after => wp handler (recovery error) ok err after)
        state := by
  unfold wp
  rw [exec_catching]
  rcases program.exec handler state with _ | ⟨value | error, after⟩ <;> simp [Ends]

@[simp]
theorem wp_mapError {program : Prog interface δ α} {f : δ → ε} :
    wp handler (program.mapError f) ok err state ↔
      wp handler program ok (fun error after => err (f error) after) state := by
  unfold wp
  rw [exec_mapError]
  rcases program.exec handler state with _ | ⟨error | value, after⟩
  · simp
  · simp only [Option.map_some, Option.some.injEq, forall_eq']
    exact Iff.rfl
  · simp only [Option.map_some, Option.some.injEq, forall_eq']
    exact Iff.rfl

/-- Nothing is asked of the program. -/
theorem wp_trivial (program : Prog interface ε α) :
    wp handler program (fun _ _ => True) (fun _ _ => True) state := by
  rintro ⟨error | value, after⟩ _ <;> trivial

variable {program : Prog interface ε α} {next : α → Prog interface ε β}

/-- A specification of a run that is known to end. -/
theorem wp_of_exec {outcome : Except ε α × σ} (ended : program.exec handler state = some outcome) :
    wp handler program ok err state ↔ Ends ok err outcome := by
  constructor
  · intro spec
    exact spec outcome ended
  · intro holds other finished
    rw [ended] at finished
    exact Option.some.inj finished ▸ holds

theorem wp_ite (condition : Prop) [Decidable condition] (yes no : Prog interface ε α) :
    wp handler (if condition then yes else no) ok err state ↔
      (condition → wp handler yes ok err state) ∧ (¬ condition → wp handler no ok err state) := by
  by_cases holds : condition <;> simp [holds]

/-- A specification implies every weaker one. -/
theorem wp_mono {ok' : α → σ → Prop} {err' : ε → σ → Prop} (spec : wp handler program ok err state)
    (weakenOk : ∀ value after, ok value after → ok' value after)
    (weakenErr : ∀ error after, err error after → err' error after) :
    wp handler program ok' err' state := by
  rintro ⟨error | value, after⟩ ended
  · exact weakenErr error after (spec _ ended)
  · exact weakenOk value after (spec _ ended)

/-- Two specifications of one program hold together. -/
theorem wp_and {ok' : α → σ → Prop} {err' : ε → σ → Prop} (spec : wp handler program ok err state)
    (other : wp handler program ok' err' state) :
    wp handler program (fun value after => ok value after ∧ ok' value after)
      (fun error after => err error after ∧ err' error after) state := by
  rintro ⟨error | value, after⟩ ended
  · exact ⟨spec _ ended, other _ ended⟩
  · exact ⟨spec _ ended, other _ ended⟩

theorem wp_after {ok : β → σ → Prop}
    (rest : ∀ value after, wp handler (next value) ok (fun _ _ => True) after) :
    wp handler (program >>= next) ok (fun _ _ => True) state :=
  (wp_bind _ _ _).mpr
    (wp_mono (wp_trivial program) (fun value after _ => rest value after) fun _ _ _ => trivial)

theorem twp_invoke {op : interface.Op} {answered : interface.Ret op × σ}
    {ok : interface.Ret op → σ → Prop} (defined : handler op state = some answered)
    (holds : ok answered.1 answered.2) :
    twp handler (invoke op : Prog interface ε _) ok err state :=
  ⟨(.ok answered.1, answered.2), by rw [invoke, exec, defined]; rfl, holds⟩

theorem twp_bind {ok : β → σ → Prop}
    (first : twp handler program (fun value after => twp handler (next value) ok err after) err
      state) :
    twp handler (program >>= next) ok err state := by
  obtain ⟨⟨error | value, after⟩, ended, holds⟩ := first
  · exact ⟨(.error error, after), by rw [exec_bind, ended]; rfl, holds⟩
  · obtain ⟨outcome, finished, holds⟩ := holds
    exact ⟨outcome, by rw [exec_bind, ended]; exact finished, holds⟩

theorem twp_catching {program : Prog interface δ α} {recovery : δ → Prog interface ε α}
    (first : twp handler program ok
      (fun error after => twp handler (recovery error) ok err after) state) :
    twp handler (program.catching recovery) ok err state := by
  obtain ⟨⟨error | value, after⟩, ended, holds⟩ := first
  · obtain ⟨outcome, finished, holds⟩ := holds
    exact ⟨outcome, by rw [exec_catching, ended]; exact finished, holds⟩
  · exact ⟨(.ok value, after), by rw [exec_catching, ended]; rfl, holds⟩

/-! ### What every operation keeps -/

section

variable {allowed : interface.Op → Prop}

@[simp]
theorem all_pure (value : α) : (Pure.pure value : Prog interface ε α).All allowed := trivial

@[simp]
theorem all_fail (error : ε) : (.fail error : Prog interface ε α).All allowed := trivial

@[simp]
theorem all_invoke (op : interface.Op) :
    (invoke op : Prog interface ε _).All allowed ↔ allowed op :=
  ⟨And.left, fun holds => ⟨holds, fun _ => trivial⟩⟩

variable {next : α → Prog interface ε β} {program : Prog interface ε α}

theorem all_bind (first : program.All allowed) (later : ∀ value, (next value).All allowed) :
    (program >>= next).All allowed := by
  induction program with
  | done value => exact later value
  | fail error => trivial
  | call op rest ih => exact ⟨first.1, fun answer => ih answer (first.2 answer)⟩

theorem All.of_bind {handler : Handler interface σ} (every : (program >>= next).All allowed)
    {value : α} {state after : σ} (ended : program.exec handler state = some (.ok value, after)) :
    (next value).All allowed := by
  induction program generalizing state with
  | done first =>
    cases ended
    exact every
  | fail error => cases ended
  | call op rest ih =>
    obtain ⟨answered, _, later⟩ := Option.bind_eq_some_iff.mp ended
    exact ih answered.1 (every.2 answered.1) later

theorem all_catching {recovery : ε → Prog interface δ α} (every : program.All allowed)
    (recovers : ∀ error, (recovery error).All allowed) :
    (program.catching recovery).All allowed := by
  induction program with
  | done value => trivial
  | fail error => exact recovers error
  | call op rest ih => exact ⟨every.1, fun answer => ih answer (every.2 answer)⟩

theorem all_ite {condition : Prop} [Decidable condition] {yes no : Prog interface ε α}
    (first : yes.All allowed) (second : no.All allowed) :
    (if condition then yes else no).All allowed := by
  split <;> assumption

theorem All.mono {other : interface.Op → Prop} (every : program.All allowed)
    (weaken : ∀ op, allowed op → other op) : program.All other := by
  induction program with
  | done value => trivial
  | fail error => trivial
  | call op rest ih => exact ⟨weaken op every.1, fun answer => ih answer (every.2 answer)⟩

theorem wp_of_preserves {relation : σ → σ → Prop} (refl : ∀ state, relation state state)
    (trans : ∀ {first second third}, relation first second → relation second third →
      relation first third)
    (keeps : ∀ op state answered, allowed op → handler op state = some answered →
      relation state answered.2) (every : program.All allowed) (state : σ) :
    wp handler program (fun _ after => relation state after) (fun _ after => relation state after)
      state := by
  induction program generalizing state with
  | done value => exact (wp_pure value).mpr (refl state)
  | fail error => exact (wp_fail error).mpr (refl state)
  | call op rest ih =>
    refine wp_call.mpr fun answered defined => ?_
    have kept := keeps op state answered every.1 defined
    exact wp_mono (ih answered.1 (every.2 _) answered.2) (fun _ _ later => trans kept later)
      fun _ _ later => trans kept later

/-- A program ends if the operations it can call are defined, and lead from one
state of an invariant to another. -/
theorem twp_of_defined {invariant : σ → Prop} (defined : ∀ op state, allowed op → invariant state →
      ∃ answered, handler op state = some answered ∧ invariant answered.2)
    (every : program.All allowed) {state : σ} (initial : invariant state) :
    twp handler program (fun _ after => invariant after) (fun _ after => invariant after)
      state := by
  induction program generalizing state with
  | done value => exact ⟨_, rfl, initial⟩
  | fail error => exact ⟨_, rfl, initial⟩
  | call op rest ih =>
    obtain ⟨answered, answers, kept⟩ := defined op state every.1 initial
    obtain ⟨outcome, ended, holds⟩ := ih answered.1 (every.2 _) kept
    exact ⟨outcome, by rw [exec, answers]; exact ended, holds⟩

end

/-! ### Runs whose calls meet a condition -/

section

variable {holds : interface.Op → σ → Prop} {relation : σ → σ → Prop}

theorem along_invoke {op : interface.Op} :
    (invoke op : Prog interface ε _).Along handler holds state ↔ holds op state :=
  ⟨And.left, fun met => ⟨met, fun _ _ => trivial⟩⟩

variable {next : α → Prog interface ε β} {program : Prog interface ε α}
  {recovery : δ → Prog interface ε α}

/-- What holds of each answer in two parts is required in two parts. -/
theorem answers_and_iff {α : Type} {met : Prop} {answers : Option α} {whole first later : α → Prop}
    (parts : ∀ answered, whole answered ↔ first answered ∧ later answered) :
    (met ∧ ∀ answered ∈ answers, whole answered) ↔
      (met ∧ ∀ answered ∈ answers, first answered) ∧ ∀ answered ∈ answers, later answered := by
  simp only [parts, and_assoc, forall_and]

theorem along_bind :
    (program >>= next).Along handler holds state ↔
      program.Along handler holds state ∧
        wp handler program (fun value after => (next value).Along handler holds after)
          (fun _ _ => True) state := by
  induction program generalizing state with
  | done value => exact ⟨fun later => ⟨trivial, (wp_pure value).mpr later⟩,
      fun both => (wp_pure value).mp both.2⟩
  | fail error => exact ⟨fun _ => ⟨trivial, (wp_fail error).mpr trivial⟩, fun _ => trivial⟩
  | call op rest ih =>
    rw [wp_call]
    exact answers_and_iff fun (answered : interface.Ret op × σ) => ih answered.1

theorem along_catching {program : Prog interface δ α} :
    (program.catching recovery).Along handler holds state ↔
      program.Along handler holds state ∧
        wp handler program (fun _ _ => True)
          (fun error after => (recovery error).Along handler holds after) state := by
  induction program generalizing state with
  | done value => exact ⟨fun _ => ⟨trivial, (wp_pure value).mpr trivial⟩, fun _ => trivial⟩
  | fail error => exact ⟨fun later => ⟨trivial, (wp_fail error).mpr later⟩,
      fun both => (wp_fail error).mp both.2⟩
  | call op rest ih =>
    rw [wp_call]
    exact answers_and_iff fun (answered : interface.Ret op × σ) => ih answered.1

/-- Where every permitted operation meets the condition in every state, so does the run. -/
theorem All.along {allowed : interface.Op → Prop} (every : program.All allowed)
    (meets : ∀ op state, allowed op → holds op state) (state : σ) :
    program.Along handler holds state := by
  induction program generalizing state with
  | done value => trivial
  | fail error => trivial
  | call op rest ih =>
    exact ⟨meets op state every.1, fun answered _ => ih answered.1 (every.2 _) answered.2⟩

/-- A condition without content is met along every run. -/
theorem along_trivial (program : Prog interface ε α) (state : σ) :
    program.Along handler (fun _ _ => True) state := by
  induction program generalizing state with
  | done value => trivial
  | fail error => trivial
  | call op rest ih => exact ⟨trivial, fun answered _ => ih answered.1 answered.2⟩

theorem Throughout.start {holds : σ → Prop}
    (throughout : program.Throughout handler holds state) : holds state := by
  cases program with
  | done value => exact throughout
  | fail error => exact throughout
  | call op rest => exact throughout.1

theorem throughout_bind {holds : σ → Prop} :
    (program >>= next).Throughout handler holds state ↔
      program.Throughout handler holds state ∧
        wp handler program (fun value after => (next value).Throughout handler holds after)
          (fun _ _ => True) state := by
  induction program generalizing state with
  | done value => exact ⟨fun later => ⟨later.start, (wp_pure value).mpr later⟩,
      fun both => (wp_pure value).mp both.2⟩
  | fail error => exact ⟨fun here => ⟨here, (wp_fail error).mpr trivial⟩, And.left⟩
  | call op rest ih =>
    rw [wp_call]
    exact answers_and_iff fun (answered : interface.Ret op × σ) => ih answered.1

theorem keeps_pure (refl : ∀ state, relation state state) (value : α) :
    (Pure.pure value : Prog interface ε α).Keeps handler holds relation :=
  fun state _ => (wp_pure value).mpr (refl state)

theorem keeps_fail (refl : ∀ state, relation state state) (error : ε) :
    (.fail error : Prog interface ε α).Keeps handler holds relation :=
  fun state _ => (wp_fail error).mpr (refl state)

theorem keeps_ite {condition : Prop} [Decidable condition] {yes no : Prog interface ε α}
    (first : yes.Keeps handler holds relation) (second : no.Keeps handler holds relation) :
    (if condition then yes else no).Keeps handler holds relation := by
  split <;> assumption

theorem keeps_bind (first : program.Keeps handler holds relation)
    (later : ∀ value, (next value).Keeps handler holds relation)
    (trans : ∀ {first second third}, relation first second → relation second third →
      relation first third) :
    (program >>= next).Keeps handler holds relation := by
  intro state along
  obtain ⟨here, onward⟩ := along_bind.mp along
  rw [wp_bind]
  refine wp_mono (wp_and (first state here) onward) (fun value middle both => ?_)
    fun _ _ both => both.1
  exact wp_mono (later value middle both.2) (fun _ _ kept => trans both.1 kept)
    fun _ _ kept => trans both.1 kept

theorem keeps_catching {program : Prog interface δ α} (first : program.Keeps handler holds relation)
    (later : ∀ error, (recovery error).Keeps handler holds relation)
    (trans : ∀ {first second third}, relation first second → relation second third →
      relation first third) :
    (program.catching recovery).Keeps handler holds relation := by
  intro state along
  obtain ⟨here, onward⟩ := along_catching.mp along
  rw [wp_catching]
  refine wp_mono (wp_and (first state here) onward) (fun _ _ both => both.1)
    fun error middle both => ?_
  exact wp_mono (later error middle both.2) (fun _ _ kept => trans both.1 kept)
    fun _ _ kept => trans both.1 kept

end

/-! ### What success keeps -/

section

variable {allowed last : interface.Op → Prop}

variable {program : Prog interface ε α} {recovery : ε → Prog interface δ α}
  {other : interface.Op → Prop}

theorem abandons_bind (abandons : program.Abandons last)
    (next : α → Prog interface ε β) : (program >>= next).Abandons last := by
  induction program with
  | done value => exact abandons.elim
  | fail error => trivial
  | call op rest ih => exact ⟨abandons.1, fun answer => ih answer (abandons.2 answer)⟩

theorem abandons_catching (abandons : program.Abandons last)
    (recovers : ∀ error, (recovery error).Abandons last) :
    (program.catching recovery).Abandons last := by
  induction program with
  | done value => exact abandons.elim
  | fail error => exact recovers error
  | call op rest ih => exact ⟨abandons.1, fun answer => ih answer (abandons.2 answer)⟩

theorem Abandons.guarded (abandons : program.Abandons last) :
    program.Guarded allowed last := by
  cases program with
  | done value => exact abandons.elim
  | fail error => trivial
  | call op rest => exact .inr abandons

@[simp]
theorem guarded_pure (value : α) :
    (Pure.pure value : Prog interface ε α).Guarded allowed last := trivial

@[simp]
theorem guarded_fail (error : ε) :
    (.fail error : Prog interface ε α).Guarded allowed last := trivial

theorem guarded_invoke {op : interface.Op} (holds : allowed op) :
    (invoke op : Prog interface ε _).Guarded allowed last :=
  .inl ⟨holds, fun _ => trivial⟩

theorem guarded_bind {next : α → Prog interface ε β} (first : program.Guarded allowed last)
    (later : ∀ value, (next value).Guarded allowed last) :
    (program >>= next).Guarded allowed last := by
  induction program with
  | done value => exact later value
  | fail error => trivial
  | call op rest ih =>
    rcases first with ⟨holds, rest⟩ | ⟨holds, abandons⟩
    · exact .inl ⟨holds, fun answer => ih answer (rest answer)⟩
    · exact .inr ⟨holds, fun answer => abandons_bind (abandons answer) next⟩

theorem guarded_catching (first : program.Guarded allowed last)
    (recovers : ∀ error, (recovery error).Abandons last) :
    (program.catching recovery).Guarded allowed last := by
  induction program with
  | done value => trivial
  | fail error => exact (recovers error).guarded
  | call op rest ih =>
    rcases first with ⟨holds, rest⟩ | ⟨holds, abandons⟩
    · exact .inl ⟨holds, fun answer => ih answer (rest answer)⟩
    · exact .inr ⟨holds, fun answer => abandons_catching (abandons answer) recovers⟩

theorem guarded_ite {condition : Prop} [Decidable condition] {yes no : Prog interface ε α}
    (first : yes.Guarded allowed last) (second : no.Guarded allowed last) :
    (if condition then yes else no).Guarded allowed last := by
  split <;> assumption

theorem Abandons.all (abandons : program.Abandons last) :
    program.All last := by
  induction program with
  | done value => trivial
  | fail error => trivial
  | call op rest ih => exact ⟨abandons.1, fun answer => ih answer (abandons.2 answer)⟩

theorem Guarded.mono (guarded : program.Guarded allowed last)
    (weaken : ∀ op, allowed op → other op) :
    program.Guarded other last := by
  induction program with
  | done value => trivial
  | fail error => trivial
  | call op rest ih =>
    rcases guarded with ⟨holds, rest⟩ | abandons
    · exact .inl ⟨weaken op holds, fun answer => ih answer (rest answer)⟩
    · exact .inr abandons

theorem Abandons.mono {last' : interface.Op → Prop} (abandons : program.Abandons last)
    (weaken : ∀ op, last op → last' op) : program.Abandons last' := by
  induction program with
  | done value => exact abandons
  | fail error => trivial
  | call op rest ih => exact ⟨weaken op abandons.1, fun answer => ih answer (abandons.2 answer)⟩

/-- What is called on the way out matters less. -/
theorem Guarded.mono_last {last' : interface.Op → Prop} (guarded : program.Guarded allowed last)
    (weaken : ∀ op, last op → last' op) : program.Guarded allowed last' := by
  induction program with
  | done value => trivial
  | fail error => trivial
  | call op rest ih =>
    rcases guarded with ⟨holds, rest⟩ | ⟨holds, abandons⟩
    · exact .inl ⟨holds, fun answer => ih answer (rest answer)⟩
    · exact .inr ⟨weaken op holds, fun answer => (abandons answer).mono weaken⟩

theorem abandons_bind_fail (program : Prog interface ε α) (error : ε) :
    (program >>= fun _ => (.fail error : Prog interface ε β)).Abandons fun _ => True := by
  induction program with
  | done value => trivial
  | fail error => trivial
  | call op rest ih => exact ⟨trivial, ih⟩

/-- Every operation of a guarded program is of one of the two kinds. -/
theorem Guarded.all (guarded : program.Guarded allowed last)
    (ofAllowed : ∀ op, allowed op → other op)
    (ofLast : ∀ op, last op → other op) : program.All other := by
  induction program with
  | done value => trivial
  | fail error => trivial
  | call op rest ih =>
    rcases guarded with ⟨holds, rest⟩ | ⟨holds, abandons⟩
    · exact ⟨ofAllowed op holds, fun answer => ih answer (rest answer)⟩
    · exact ⟨ofLast op holds, fun answer => (abandons answer).all.mono ofLast⟩

theorem Abandons.fails (abandons : program.Abandons last)
    (state : σ) : wp handler program (fun _ _ => False) (fun _ _ => True) state := by
  induction program generalizing state with
  | done value => exact abandons.elim
  | fail error => exact (wp_fail error).mpr trivial
  | call op rest ih =>
    exact wp_call.mpr fun answered _ => ih answered.1 (abandons.2 _) answered.2

/-- When a guarded program succeeds, it has called operations in `allowed` only. -/
theorem Guarded.wp {relation : σ → σ → Prop} (refl : ∀ state, relation state state)
    (trans : ∀ {first second third}, relation first second → relation second third →
      relation first third)
    (keeps : ∀ op state answered, allowed op → handler op state = some answered →
      relation state answered.2) (guarded : program.Guarded allowed last) (state : σ) :
    Prog.wp handler program (fun _ after => relation state after) (fun _ _ => True) state := by
  induction program generalizing state with
  | done value => exact (wp_pure value).mpr (refl state)
  | fail error => exact (wp_fail error).mpr trivial
  | call op next ih =>
    refine wp_call.mpr fun answered defined => ?_
    rcases guarded with ⟨holds, later⟩ | ⟨-, abandons⟩
    · have kept := keeps op state answered holds defined
      exact wp_mono (ih answered.1 (later _) answered.2) (fun _ _ after => trans kept after)
        fun _ _ _ => trivial
    · exact wp_mono ((abandons answered.1).fails answered.2)
        (fun _ _ impossible => impossible.elim) fun _ _ _ => trivial

end

end

end Prog

end MuRockchip.Base
