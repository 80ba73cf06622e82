/-
Runs of a deterministic machine over a list of inputs.

A run folds a step function over its inputs. A condition on steps is read at the
state in which each step is taken, so conditions and invariants of a run are
related by induction on the inputs.

* `run_invariant`: an invariant kept by every step that meets a condition holds
  at the end of every run whose steps all meet it.
* `AllSteps.imp_of_invariant`: a condition passes to what follows from it and an
  invariant.
* `AllSteps.congr_of_invariant`: conditions that an invariant makes equivalent are
  equivalent on whole runs.
* `AllSteps.at_step`: the condition of a step, at the state the run has reached.
* `foldlM_invariant`: a machine that may get stuck does not, while an invariant holds.
* `AllSteps.take`: the condition holds of every prefix, so an invariant of the
  end of a run is an invariant of every state on the way.
-/
import Mathlib.Data.List.Basic

namespace MuRockchip.Base

variable {σ ι : Type*}

def run (step : σ → ι → σ) (state : σ) (inputs : List ι) : σ :=
  inputs.foldl step state

/-- Every step of the run meets `condition` at the state in which it is taken. -/
def AllSteps (step : σ → ι → σ) (condition : σ → ι → Prop) : σ → List ι → Prop
  | _, [] => True
  | state, input :: rest => condition state input ∧ AllSteps step condition (step state input) rest

instance {step : σ → ι → σ} {condition : σ → ι → Prop}
    [∀ state input, Decidable (condition state input)] (inputs : List ι) :
    ∀ state, Decidable (AllSteps step condition state inputs) :=
  match inputs with
  | [] => fun _ => .isTrue trivial
  | input :: rest => fun state =>
    have : Decidable (AllSteps step condition (step state input) rest) :=
      instDecidableAllSteps rest (step state input)
    inferInstanceAs (Decidable (condition state input ∧ _))

section

variable {step : σ → ι → σ} {condition other : σ → ι → Prop} {invariant : σ → Prop}

@[simp]
theorem run_nil (state : σ) : run step state [] = state := rfl

@[simp]
theorem run_cons (state : σ) (input : ι) (rest : List ι) :
    run step state (input :: rest) = run step (step state input) rest := rfl

theorem run_append (state : σ) (first second : List ι) :
    run step state (first ++ second) = run step (run step state first) second :=
  List.foldl_append

variable {inputs : List ι} {state : σ}

theorem run_invariant
    (keep : ∀ state input, invariant state → condition state input → invariant (step state input))
    (initial : invariant state)
    (met : AllSteps step condition state inputs) : invariant (run step state inputs) := by
  induction inputs generalizing state with
  | nil => exact initial
  | cons input rest ih => exact ih (keep state input initial met.1) met.2

theorem AllSteps.take (met : AllSteps step condition state inputs)
    (count : Nat) : AllSteps step condition state (inputs.take count) := by
  induction inputs generalizing state count with
  | nil => simp [AllSteps]
  | cons input rest ih =>
    cases count with
    | zero => trivial
    | succ count => exact ⟨met.1, ih met.2 count⟩

/-- The steps of a run that is continued, and those it is continued with. -/
theorem AllSteps.append {first second : List ι}
    (met : AllSteps step condition state (first ++ second)) :
    AllSteps step condition state first ∧
      AllSteps step condition (run step state first) second := by
  induction first generalizing state with
  | nil => exact ⟨trivial, met⟩
  | cons input first ih =>
    obtain ⟨here, later⟩ := met
    obtain ⟨earlier, rest⟩ := ih later
    exact ⟨⟨here, earlier⟩, rest⟩

theorem AllSteps.at_step (met : AllSteps step condition state inputs) {count : Nat} {input : ι}
    (next : inputs[count]? = some input) :
    condition (run step state (inputs.take count)) input := by
  induction inputs generalizing state count with
  | nil => simp at next
  | cons first rest ih =>
    cases count with
    | zero =>
      obtain rfl : first = input := by simpa using next
      exact met.1
    | succ count => exact ih met.2 (by simpa using next)

theorem AllSteps.imp_of_invariant
    (keep : ∀ state input, invariant state → condition state input → invariant (step state input))
    (implies : ∀ state input, invariant state → condition state input → other state input)
    (initial : invariant state)
    (met : AllSteps step condition state inputs) : AllSteps step other state inputs := by
  induction inputs generalizing state with
  | nil => trivial
  | cons input rest ih =>
    exact ⟨implies state input initial met.1, ih (keep state input initial met.1) met.2⟩

/-- Where an invariant makes two conditions on a step equivalent, and steps that
meet them keep it, the conditions are equivalent on whole runs. -/
theorem AllSteps.congr_of_invariant
    (keep : ∀ state input, invariant state → condition state input → invariant (step state input))
    (same : ∀ state input, invariant state → (other state input ↔ condition state input))
    (initial : invariant state) :
    AllSteps step other state inputs ↔ AllSteps step condition state inputs := by
  induction inputs generalizing state with
  | nil => exact Iff.rfl
  | cons input rest ih =>
    constructor
    · rintro ⟨first, later⟩
      have met := (same state input initial).mp first
      exact ⟨met, (ih (keep state input initial met)).mp later⟩
    · rintro ⟨met, later⟩
      exact ⟨(same state input initial).mpr met, (ih (keep state input initial met)).mpr later⟩

/-- An invariant kept by every step that meets a condition holds in every state
a run whose steps all meet it goes through. -/
theorem run_invariant_throughout
    (keep : ∀ state input, invariant state → condition state input → invariant (step state input))
    (initial : invariant state) (met : AllSteps step condition state inputs) (count : Nat) :
    invariant (run step state (inputs.take count)) :=
  run_invariant keep initial (met.take count)

end

theorem foldlM_invariant {step : σ → ι → Option σ} {invariant : σ → Prop}
    (keep : ∀ state input, invariant state → ∃ next ∈ step state input, invariant next)
    (inputs : List ι) {state : σ} (initial : invariant state) :
    ∃ last ∈ inputs.foldlM step state, invariant last := by
  induction inputs generalizing state with
  | nil => exact ⟨state, rfl, initial⟩
  | cons input rest ih =>
    obtain ⟨next, reached, kept⟩ := keep state input initial
    obtain ⟨last, ended, holds⟩ := ih kept
    refine ⟨last, ?_, holds⟩
    rw [List.foldlM_cons, Option.mem_def.mp reached]
    exact ended

end MuRockchip.Base
