/-
What was last asked for.

The inputs of a run ask for things, some of them for the same one. Where every input keeps
what it does not ask about, the last request about a thing is the one that counts.

* `lastRequest_holds`: what the last request about a thing has established holds at the end
  of a run, where no other request undoes it.
* `lastRequest_none`: what no request is about is as it was.
* `answered_getD`: the same of a machine that answers its inputs, where an input may ask for
  nothing because of its answer.
-/
import Mathlib.Data.List.Basic

namespace MuRockchip.Base

universe u

/-- The first of two steps that succeed, and the second. -/
theorem bind_eq_ok {ε : Type*} {α β : Type u} {first : Except ε α} {next : α → Except ε β}
    {value : β} (ended : first >>= next = .ok value) :
    ∃ middle, first = .ok middle ∧ next middle = .ok value := by
  cases first with
  | error fault => cases ended
  | ok middle => exact ⟨middle, rfl, ended⟩

section

variable {σ ι ρ ε α : Type*}

def lastRequest (asked : ι → Option ρ) : List ι → Option ρ
  | [] => none
  | input :: rest => (lastRequest asked rest).or (asked input)

variable {asked : ι → Option ρ} {step : σ → ι → Except ε σ} {admitted : ι → Prop}
  {inputs : List ι} {state last : σ}

variable {input : ι} {rest : List ι}

theorem lastRequest_getD_cons {default : ρ} :
    (lastRequest asked (input :: rest)).getD default =
      (lastRequest asked rest).getD ((asked input).getD default) := by
  rw [lastRequest]
  cases lastRequest asked rest <;> rfl

theorem lastRequest_cons_some {request : ρ}
    (wanted : lastRequest asked (input :: rest) = some request) :
    lastRequest asked rest = some request ∨
      lastRequest asked rest = none ∧ asked input = some request := by
  cases later : lastRequest asked rest with
  | some found =>
    rw [lastRequest, later] at wanted
    exact .inl wanted
  | none =>
    rw [lastRequest, later] at wanted
    exact .inr ⟨rfl, wanted⟩

theorem lastRequest_cons_none (unasked : lastRequest asked (input :: rest) = none) :
    asked input = none ∧ lastRequest asked rest = none := by
  cases later : lastRequest asked rest with
  | some found =>
    rw [lastRequest, later] at unasked
    cases unasked
  | none =>
    rw [lastRequest, later] at unasked
    exact ⟨unasked, rfl⟩

theorem foldlM_cons_ok (ended : (input :: rest).foldlM step state = .ok last) :
    ∃ next, step state input = .ok next ∧ rest.foldlM step next = .ok last := by
  rw [List.foldlM_cons] at ended
  exact bind_eq_ok ended

theorem lastRequest_none (view : σ → α)
    (keeps : ∀ state input next, admitted input → step state input = .ok next →
      asked input = none → view next = view state)
    (all : ∀ input ∈ inputs, admitted input) (ended : inputs.foldlM step state = .ok last)
    (unasked : lastRequest asked inputs = none) : view last = view state := by
  induction inputs generalizing state with
  | nil =>
    cases ended
    rfl
  | cons input rest ih =>
    rw [List.forall_mem_cons] at all
    obtain ⟨next, taken, rest⟩ := foldlM_cons_ok ended
    obtain ⟨here, later⟩ := lastRequest_cons_none unasked
    rw [ih all.2 rest later]
    exact keeps state input next all.1 taken here

theorem lastRequest_getD {view : σ → ρ}
    (steps : ∀ state input next, admitted input → step state input = .ok next →
      view next = (asked input).getD (view state))
    (all : ∀ input ∈ inputs, admitted input) (ended : inputs.foldlM step state = .ok last) :
    view last = (lastRequest asked inputs).getD (view state) := by
  induction inputs generalizing state with
  | nil =>
    cases ended
    rfl
  | cons input rest ih =>
    rw [List.forall_mem_cons] at all
    obtain ⟨next, taken, rest⟩ := foldlM_cons_ok ended
    rw [ih all.2 rest, steps state input next all.1 taken, lastRequest_getD_cons]

theorem foldlM_keeps {holds : σ → Prop}
    (keeps : ∀ state input next, admitted input → step state input = .ok next →
      asked input = none → holds state → holds next)
    (all : ∀ input ∈ inputs, admitted input) (ended : inputs.foldlM step state = .ok last)
    (unasked : lastRequest asked inputs = none) (initial : holds state) : holds last := by
  induction inputs generalizing state with
  | nil =>
    cases ended
    exact initial
  | cons input rest ih =>
    rw [List.forall_mem_cons] at all
    obtain ⟨next, taken, rest⟩ := foldlM_cons_ok ended
    obtain ⟨here, later⟩ := lastRequest_cons_none unasked
    exact ih all.2 rest later (keeps state input next all.1 taken here initial)

theorem lastRequest_holds (holds : ρ → σ → Prop)
    (sets : ∀ state input next request, admitted input → step state input = .ok next →
      asked input = some request → holds request next)
    (keeps : ∀ request state input next, admitted input → step state input = .ok next →
      asked input = none → holds request state → holds request next)
    (all : ∀ input ∈ inputs, admitted input) (ended : inputs.foldlM step state = .ok last)
    {request : ρ} (wanted : lastRequest asked inputs = some request) : holds request last := by
  induction inputs generalizing state with
  | nil => cases wanted
  | cons input rest ih =>
    rw [List.forall_mem_cons] at all
    obtain ⟨next, taken, rest⟩ := foldlM_cons_ok ended
    rcases lastRequest_cons_some wanted with later | ⟨none, here⟩
    · exact ih all.2 rest later
    · exact foldlM_keeps (keeps request) all.2 rest none
        (sets state input next request all.1 taken here)

end

/-! ### Machines that answer -/

section

variable {σ ι ο ρ : Type*}

/-- The inputs of a run with their answers, and where the run ends. -/
def answered (step : σ → ι → ο × σ) (state : σ) : List ι → List (ι × ο) × σ
  | [] => ([], state)
  | input :: rest =>
    let taken := step state input
    let later := answered step taken.2 rest
    ((input, taken.1) :: later.1, later.2)

variable {admitted : ι → Prop} {holds : σ → Prop} {inputs : List ι} {state : σ}

theorem answered_getD (step : σ → ι → ο × σ) (view : σ → ρ) (asked : ι × ο → Option ρ)
    (steps : ∀ state input, admitted input → holds state → holds (step state input).2 ∧
      view (step state input).2 = (asked (input, (step state input).1)).getD (view state))
    (all : ∀ input ∈ inputs, admitted input) (initial : holds state) :
    holds (answered step state inputs).2 ∧
      view (answered step state inputs).2 =
        (lastRequest asked (answered step state inputs).1).getD (view state) := by
  induction inputs generalizing state with
  | nil => exact ⟨initial, rfl⟩
  | cons input rest ih =>
    rw [List.forall_mem_cons] at all
    obtain ⟨kept, set⟩ := steps state input all.1 initial
    obtain ⟨last, reads⟩ := ih all.2 kept
    refine ⟨last, ?_⟩
    rw [answered, lastRequest_getD_cons, ← set]
    exact reads

end

end MuRockchip.Base
