/-
Disciplines of an interface.

The other side of an interface is in a state of its own, which the calls and their answers
move on; a discipline says which call may be made in which state. A program obeys a
discipline if it does so whatever it is answered.

* `obeys_bind`, `obeys_mono`: the rules proofs about programs are built from.
* `Obeys.along`, `Obeys.ends`: under any handler, a program that obeys a discipline makes
  only calls that are due, and ends as it says.
* `Obeys.concludes`: the same of a program that may make any call, and is only to end so.
-/
import MuRockchip.Base.Prog

namespace MuRockchip.Base

/-- What the other side is known to be in, and what it is due. -/
structure Discipline (interface : Interface) (τ : Type) where
  due : interface.Op → τ → Prop
  after : (op : interface.Op) → interface.Ret op → τ → τ

/-- Every call may be made. -/
def Discipline.free (interface : Interface) : Discipline interface Unit where
  due _ _ := True
  after _ _ _ := ()

namespace Prog

variable {interface : Interface} {ε δ α β σ τ : Type}

/-- Whatever it is answered, the program makes only calls that are due, and ends in a value
with `ok` or in an error with `err`. -/
def Obeys (discipline : Discipline interface τ) :
    Prog interface ε α → (α → τ → Prop) → (ε → τ → Prop) → τ → Prop
  | .done value, ok, _, track => ok value track
  | .fail error, _, err, track => err error track
  | .call op next, ok, err, track =>
    discipline.due op track ∧
      ∀ answer, (next answer).Obeys discipline ok err (discipline.after op answer track)

section

variable {discipline : Discipline interface τ} {ok : α → τ → Prop} {err : ε → τ → Prop}
  {track : τ}

variable {next : α → Prog interface ε β} {program : Prog interface ε α}

theorem obeys_bind {ok : β → τ → Prop} :
    (program >>= next).Obeys discipline ok err track ↔
      program.Obeys discipline
        (fun value after => (next value).Obeys discipline ok err after) err track := by
  induction program generalizing track with
  | done value => exact Iff.rfl
  | fail error => exact Iff.rfl
  | call op rest ih => exact and_congr_right fun _ => forall_congr' fun answer => ih answer

theorem obeys_ite {condition : Prop} [Decidable condition] {yes no : Prog interface ε α} :
    (if condition then yes else no).Obeys discipline ok err track ↔
      (condition → yes.Obeys discipline ok err track) ∧
        (¬ condition → no.Obeys discipline ok err track) := by
  split
  · rename_i holds
    simp [holds]
  · rename_i fails
    simp [fails]

theorem obeys_mono {ok' : α → τ → Prop} {err' : ε → τ → Prop}
    (obeys : program.Obeys discipline ok err track)
    (okImp : ∀ value after, ok value after → ok' value after)
    (errImp : ∀ error after, err error after → err' error after) :
    program.Obeys discipline ok' err' track := by
  induction program generalizing track with
  | done value => exact okImp value track obeys
  | fail error => exact errImp error track obeys
  | call op rest ih => exact ⟨obeys.1, fun answer => ih answer (obeys.2 answer)⟩

/-- What obeys is continued by what obeys in each state it may end in. -/
theorem Obeys.andThen {ok' : β → τ → Prop} (first : program.Obeys discipline ok err track)
    (later : ∀ value after, ok value after → (next value).Obeys discipline ok' err after) :
    (program >>= next).Obeys discipline ok' err track :=
  obeys_bind.mpr (obeys_mono first later fun _ _ failed => failed)

end

/-! ### Under a handler -/

/-- Answer as the handler does, and keep track. -/
def watch (discipline : Discipline interface τ) (handler : Handler interface σ) :
    Handler interface (σ × τ) := fun op state =>
  (handler op state.1).map fun answered =>
    (answered.1, answered.2, discipline.after op answered.1 state.2)

variable {discipline : Discipline interface τ} {handler : Handler interface σ}
  {ok : α → τ → Prop} {err : ε → τ → Prop}

variable {state : σ × τ} {program : Prog interface ε α}

theorem mem_watch {op : interface.Op} {answered : interface.Ret op × (σ × τ)}
    (answers : answered ∈ watch discipline handler op state) :
    answered.2.2 = discipline.after op answered.1 state.2 := by
  obtain ⟨plain, -, rfl⟩ := Option.map_eq_some_iff.mp answers
  rfl

theorem Obeys.along (obeys : program.Obeys discipline ok err state.2) :
    program.Along (watch discipline handler) (fun op state => discipline.due op state.2) state := by
  induction program generalizing state with
  | done value => trivial
  | fail error => trivial
  | call op rest ih =>
    refine ⟨obeys.1, fun answered answers => ih answered.1 ?_⟩
    rw [mem_watch answers]
    exact obeys.2 answered.1

theorem Obeys.ends (obeys : program.Obeys discipline ok err state.2) :
    wp (watch discipline handler) program (fun value state => ok value state.2)
      (fun error state => err error state.2) state := by
  induction program generalizing state with
  | done value => exact (wp_pure value).mpr obeys
  | fail error => exact (wp_fail error).mpr obeys
  | call op rest ih =>
    intro outcome ended
    obtain ⟨answered, answers, finished⟩ := Option.bind_eq_some_iff.mp ended
    refine ih answered.1 ?_ outcome finished
    rw [mem_watch answers]
    exact obeys.2 answered.1

/-- A program that may make any call ends as it says, under any handler. -/
theorem Obeys.concludes {ok : α → Unit → Prop} {err : ε → Unit → Prop}
    (obeys : program.Obeys (Discipline.free interface) ok err ()) (handler : Handler interface σ)
    (state : σ) :
    wp handler program (fun value _ => ok value ()) (fun error _ => err error ()) state := by
  induction program generalizing state with
  | done value => exact (wp_pure value).mpr obeys
  | fail error => exact (wp_fail error).mpr obeys
  | call op rest ih =>
    intro outcome ended
    obtain ⟨answered, answers, finished⟩ := Option.bind_eq_some_iff.mp ended
    exact ih answered.1 (obeys.2 answered.1) answered.2 outcome finished

end Prog

end MuRockchip.Base
