/-
The calls a run makes, and interfaces whose operations are programs.

A run is observed through the operations it calls and their answers. A function that
is written over other functions is a program over an interface of parts: each part
is a program of its own, and answers how it ended.

* `made_bind`, `made_catching`: the calls of a program are those of its pieces.
* `inline_bind`, `inline_catching`, `inline_perform`: putting the programs of the
  parts in their places goes through every way of building a program.
* `exec_observing`: a run is not changed by what is recorded of it.
* `exec_inline`: the run is the same whether parts are calls or in their places.
-/
import MuRockchip.Base.Prog

namespace MuRockchip.Base.Prog

variable {interface : Interface} {ε δ α β σ : Type}

/-! ### Calls -/

/-- A call and its answer, if it was given one. -/
structure Made (interface : Interface) where
  op : interface.Op
  answer : Option (interface.Ret op)

/-- The calls a run makes, in order. -/
def made (handler : Handler interface σ) : Prog interface ε α → σ → List (Made interface)
  | .done _, _ => []
  | .fail _, _ => []
  | .call op next, state =>
    match handler op state with
    | none => [⟨op, none⟩]
    | some answered => ⟨op, some answered.1⟩ :: (next answered.1).made handler answered.2

section

variable {handler : Handler interface σ} {state : σ}

/-- What is made of an outcome by a program that goes on with its value. -/
def madeThen (handler : Handler interface σ) (next : α → Prog interface ε β) :
    Option (Except ε α × σ) → List (Made interface)
  | some (.ok value, after) => (next value).made handler after
  | _ => []

def madeAfterError (handler : Handler interface σ) (recovery : δ → Prog interface ε α) :
    Option (Except δ α × σ) → List (Made interface)
  | some (.error error, after) => (recovery error).made handler after
  | _ => []

theorem made_bind (program : Prog interface ε α) (next : α → Prog interface ε β) (state : σ) :
    (program >>= next).made handler state =
      program.made handler state ++ madeThen handler next (program.exec handler state) := by
  induction program generalizing state with
  | done value => rfl
  | fail error => rfl
  | call op rest ih =>
    change (Prog.call op fun answer => (rest answer) >>= next).made handler state = _
    rw [made, made, exec]
    cases answered : handler op state with
    | none => rfl
    | some answered =>
      simp only [Option.bind_some, List.cons_append]
      rw [ih]

theorem made_catching (program : Prog interface δ α) (recovery : δ → Prog interface ε α)
    (state : σ) :
    (program.catching recovery).made handler state =
      program.made handler state ++
        madeAfterError handler recovery (program.exec handler state) := by
  induction program generalizing state with
  | done value => rfl
  | fail error => rfl
  | call op rest ih =>
    rw [catching, made, made, exec]
    cases answered : handler op state with
    | none => rfl
    | some answered =>
      simp only [Option.bind_some, List.cons_append]
      rw [ih]

theorem made_invoke (op : interface.Op) :
    (invoke op : Prog interface ε _).made handler state =
      [⟨op, (handler op state).map Prod.fst⟩] := by
  rw [invoke, made]
  cases handler op state <;> rfl

variable {call : Made interface} {program : Prog interface ε α}

theorem mem_made_bind {next : α → Prog interface ε β} :
    call ∈ (program >>= next).made handler state ↔
      call ∈ program.made handler state ∨
        ∃ value after, program.exec handler state = some (.ok value, after) ∧
          call ∈ (next value).made handler after := by
  rw [made_bind, List.mem_append]
  refine or_congr_right ?_
  constructor
  · intro mem
    rcases ended : program.exec handler state with _ | ⟨error | value, after⟩
    · simp [ended, madeThen] at mem
    · simp [ended, madeThen] at mem
    · rw [ended] at mem
      exact ⟨value, after, rfl, mem⟩
  · rintro ⟨value, after, ended, mem⟩
    rw [ended]
    exact mem

theorem mem_made_catching {program : Prog interface δ α} {recovery : δ → Prog interface ε α} :
    call ∈ (program.catching recovery).made handler state ↔
      call ∈ program.made handler state ∨
        ∃ error after, program.exec handler state = some (.error error, after) ∧
          call ∈ (recovery error).made handler after := by
  rw [made_catching, List.mem_append]
  refine or_congr_right ?_
  constructor
  · intro mem
    rcases ended : program.exec handler state with _ | ⟨error | value, after⟩
    · simp [ended, madeAfterError] at mem
    · rw [ended] at mem
      exact ⟨error, after, rfl, mem⟩
    · simp [ended, madeAfterError] at mem
  · rintro ⟨error, after, ended, mem⟩
    rw [ended]
    exact mem

theorem All.made {allowed : interface.Op → Prop} (every : program.All allowed) (state : σ) :
    ∀ call ∈ program.made handler state, allowed call.op := by
  induction program generalizing state with
  | done | fail => exact fun _ mem => absurd mem List.not_mem_nil
  | call op rest ih =>
    intro call mem
    rw [Prog.made] at mem
    cases answered : handler op state with
    | none =>
      simp only [answered, List.mem_singleton] at mem
      exact mem ▸ every.1
    | some answered' =>
      simp only [answered, List.mem_cons] at mem
      rcases mem with rfl | later
      · exact every.1
      · exact ih answered'.1 (every.2 _) answered'.2 call later

end

/-! ### Observations -/

variable {τ : Type}

/-- The handler that also records what is observed of each call. -/
def observing (handler : Handler interface σ) (observe : (op : interface.Op) → σ → List τ) :
    Handler interface (σ × List τ) :=
  fun op state => (handler op state.1).map fun answered =>
    (answered.1, answered.2, state.2 ++ observe op state.1)

section

variable {handler : Handler interface σ} {observe : (op : interface.Op) → σ → List τ}

theorem exec_observing (program : Prog interface ε α) (state : σ × List τ) :
    program.exec handler state.1 =
      (program.exec (observing handler observe) state).map fun outcome =>
        (outcome.1, outcome.2.1) := by
  induction program generalizing state with
  | done value => rfl
  | fail error => rfl
  | call op rest ih =>
    rw [exec, exec, observing]
    cases handler op state.1 with
    | none => rfl
    | some answered => exact ih answered.1 (answered.2, state.2 ++ observe op state.1)

def observed (handler : Handler interface σ) (observe : (op : interface.Op) → σ → List τ)
    (program : Prog interface ε α) (state : σ) : List τ :=
  ((program.exec (observing handler observe) (state, [])).map fun outcome =>
    outcome.2.2).getD []

theorem exec_observing_of_exec {program : Prog interface ε α} {state : σ}
    {outcome : Except ε α × σ} (ended : program.exec handler state = some outcome) :
    program.exec (observing handler observe) (state, []) =
      some (outcome.1, outcome.2, program.observed handler observe state) := by
  rw [exec_observing program ((state, []) : σ × List τ)] at ended
  obtain ⟨⟨result, after, seen⟩, ended, rfl⟩ := Option.map_eq_some_iff.mp ended
  rw [observed, ended]
  rfl

end

/-! ### Parts -/

/-- The interface whose operations are programs that end in a result or in an error. -/
abbrev Parts (Op : Type) (ε : Type) (Result : Op → Type) : Interface :=
  ⟨Op, fun op => Except ε (Result op)⟩

variable {Op : Type} {Result : Op → Type}

/-- Each part runs its program. -/
def partsHandler (handler : Handler interface σ) (part : (op : Op) → Prog interface ε (Result op)) :
    Handler (Parts Op ε Result) σ :=
  fun op state => (part op).exec handler state

/-- The program that ends as told. -/
def ended : Except ε α → Prog interface ε α
  | .ok value => .done value
  | .error error => .fail error

def perform (op : Op) : Prog (Parts Op ε Result) ε (Result op) :=
  .call op ended

/-- Run a program to its end, whichever that is. -/
def attempt : Prog interface ε α → Prog interface δ (Except ε α)
  | .done value => .done (.ok value)
  | .fail error => .done (.error error)
  | .call op next => .call op fun answer => (next answer).attempt

/-- Put the program of each part in its place. -/
def inline (part : (op : Op) → Prog interface ε (Result op)) :
    Prog (Parts Op ε Result) δ α → Prog interface δ α
  | .done value => .done value
  | .fail error => .fail error
  | .call op next => (part op).attempt >>= fun answer => (next answer).inline part

theorem attempt_bind_ended (program : Prog interface ε α) :
    program.attempt >>= ended = program := by
  induction program with
  | done value => rfl
  | fail error => rfl
  | call op next ih => exact congrArg (Prog.call op) (funext ih)

theorem attempt_bind_catching {γ : Type} (program : Prog interface ε β)
    (next : Except ε β → Prog interface δ α) (recovery : δ → Prog interface γ α) :
    (program.attempt >>= next).catching recovery =
      program.attempt >>= fun answer => (next answer).catching recovery := by
  induction program with
  | done value => rfl
  | fail error => rfl
  | call op rest ih => exact congrArg (Prog.call op) (funext ih)

section

variable {handler : Handler interface σ} {part : (op : Op) → Prog interface ε (Result op)}

theorem exec_attempt (program : Prog interface ε α) (state : σ) :
    (program.attempt : Prog interface δ _).exec handler state =
      (program.exec handler state).map fun outcome => (.ok outcome.1, outcome.2) := by
  induction program generalizing state with
  | done value => rfl
  | fail error => rfl
  | call op rest ih =>
    rw [attempt, exec, exec]
    cases handler op state with
    | none => rfl
    | some answered => exact ih answered.1 answered.2

theorem inline_ended (answer : Except ε α) : (ended answer).inline part = ended answer := by
  cases answer <;> rfl

theorem inline_perform (op : Op) : (perform op).inline part = part op := by
  rw [perform, inline]
  simp only [inline_ended]
  exact attempt_bind_ended (part op)

theorem inline_bind (program : Prog (Parts Op ε Result) δ α)
    (next : α → Prog (Parts Op ε Result) δ β) :
    (program >>= next).inline part =
      program.inline part >>= fun value => (next value).inline part := by
  induction program with
  | done value => rfl
  | fail error => rfl
  | call op rest ih =>
    change (part op).attempt >>= (fun answer => (rest answer >>= next).inline part) = _
    rw [inline, bind_assoc]
    exact congrArg ((part op).attempt >>= ·) (funext ih)

theorem inline_catching {γ : Type} (program : Prog (Parts Op ε Result) δ α)
    (recovery : δ → Prog (Parts Op ε Result) γ α) :
    (program.catching recovery).inline part =
      (program.inline part).catching fun error => (recovery error).inline part := by
  induction program with
  | done value => rfl
  | fail error => rfl
  | call op rest ih =>
    rw [catching, inline, inline, attempt_bind_catching]
    exact congrArg ((part op).attempt >>= ·) (funext ih)

theorem inline_ite (condition : Prop) [Decidable condition]
    (yes no : Prog (Parts Op ε Result) δ α) :
    (if condition then yes else no).inline part =
      if condition then yes.inline part else no.inline part := by
  split <;> rfl

/-- Parts run alike as calls and in their places. -/
theorem exec_inline (program : Prog (Parts Op ε Result) δ α) (state : σ) :
    (program.inline part).exec handler state = program.exec (partsHandler handler part) state := by
  induction program generalizing state with
  | done value => rfl
  | fail error => rfl
  | call op rest ih =>
    rw [inline, exec_bind, exec_attempt, exec, partsHandler]
    cases (part op).exec handler state with
    | none => rfl
    | some outcome => exact ih outcome.1 outcome.2

theorem exec_perform (op : Op) (state : σ) :
    (perform op).exec (partsHandler handler part) state = (part op).exec handler state := by
  rw [← exec_inline, inline_perform]

theorem made_perform (op : Op) (state : σ) :
    (perform op).made (partsHandler handler part) state =
      [⟨op, ((part op).exec handler state).map Prod.fst⟩] := by
  rw [perform, made, partsHandler]
  rcases (part op).exec handler state with _ | ⟨_ | _, _⟩ <;> rfl

end

end MuRockchip.Base.Prog
