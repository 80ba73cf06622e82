/-
Handlers that answer from a script.

A handler may take its answers from a script, one for each call, where the state
counts the calls. Another handler is realized by the scripted ones if each of its
answers is what some script answers there: then every run of it is a run under a
single script, and what holds under every script holds of it.

* `Realized.bind`: two runs that are realized one after the other are realized
  together, since they read the script in different places.
* `exec_realized`: programs are realized where their operations are.
-/
import MuRockchip.Base.Prog

namespace MuRockchip.Base

variable {interface : Interface} {ε α β γ ρ σ : Type} {count : σ → Nat}

/-- A call that lies between the start of a run and its end, if it ends. -/
def CallOf (count : σ → Nat) (start : σ) (result : Option (β × σ)) (call : Nat) : Prop :=
  count start ≤ call ∧ ∀ ended ∈ result, call < count ended.2

/-- Some script leads to this result, wherever it agrees on the calls of the run. -/
structure Realized (count : σ → Nat) (scripted : (Nat → ρ) → Option (β × σ)) (start : σ)
    (result : Option (β × σ)) : Prop where
  counts : ∀ ended ∈ result, count start ≤ count ended.2
  script : ∃ script : Nat → ρ, ∀ other : Nat → ρ,
    (∀ call, CallOf count start result call → other call = script call) → scripted other = result

variable {result : Option (β × σ)} {scripted : (Nat → ρ) → Option (β × σ)} {start : σ}

theorem Realized.exists_script (realized : Realized count scripted start result) :
    ∃ script, scripted script = result := by
  obtain ⟨script, leads⟩ := realized.script
  exact ⟨script, leads script fun _ _ => rfl⟩

/-- What no script changes is realized by any. -/
theorem Realized.constant [Nonempty ρ] (counts : ∀ ended ∈ result, count start ≤ count ended.2) :
    Realized count (fun _ : Nat → ρ => result) start result := by
  obtain ⟨reply⟩ := ‹Nonempty ρ›
  exact ⟨counts, fun _ => reply, fun _ _ => rfl⟩

theorem Realized.bind {continued : (Nat → ρ) → β × σ → Option (γ × σ)}
    {continuation : β × σ → Option (γ × σ)} (first : Realized count scripted start result)
    (later : ∀ ended ∈ result, Realized count (fun script => continued script ended) ended.2
      (continuation ended)) :
    Realized count (fun script => (scripted script).bind (continued script)) start
      (result.bind continuation) := by
  obtain ⟨script, leads⟩ := first.script
  cases result with
  | none =>
    refine ⟨fun _ impossible => absurd impossible (Option.not_mem_none _), script, ?_⟩
    intro other agrees
    have undefined : scripted other = none := by
      apply leads
      intro call member
      apply agrees
      exact ⟨member.1, fun _ impossible => absurd impossible (Option.not_mem_none _)⟩
    simp only [undefined, Option.bind_none]
  | some middle =>
    have upto := first.counts middle rfl
    obtain ⟨counts, rest, continues⟩ := later middle rfl
    refine ⟨fun ended last => Nat.le_trans upto (counts ended last), ?_⟩
    -- the first run reads the script up to its end, and the second one from there on
    refine ⟨fun call => if call < count middle.2 then script call else rest call, ?_⟩
    intro other agrees
    have reached : scripted other = some middle := by
      apply leads
      intro call member
      have early : call < count middle.2 := member.2 middle rfl
      have same := agrees call
        ⟨member.1, fun ended last => Nat.lt_of_lt_of_le early (counts ended last)⟩
      exact same.trans (if_pos early)
    have finished : continued other middle = continuation middle := by
      apply continues
      intro call member
      have late : ¬ call < count middle.2 := Nat.not_lt.mpr member.1
      have same := agrees call ⟨Nat.le_trans upto member.1, member.2⟩
      exact same.trans (if_neg late)
    simp only [reached, Option.bind_some, finished]

/-- A change of the answer alone changes nothing. -/
theorem Realized.map (realized : Realized count scripted start result) (f : β → γ) :
    Realized count (fun script => (scripted script).map fun ended => (f ended.1, ended.2)) start
      (result.map fun ended => (f ended.1, ended.2)) := by
  obtain ⟨counts, script, leads⟩ := realized
  have last : ∀ ended ∈ result.map fun ended => (f ended.1, ended.2),
      ∃ original ∈ result, ended.2 = original.2 := by
    intro ended member
    obtain ⟨original, there, rfl⟩ := Option.map_eq_some_iff.mp member
    exact ⟨original, there, rfl⟩
  refine ⟨fun ended member => ?_, script, fun other agrees => ?_⟩
  · obtain ⟨original, there, same⟩ := last ended member
    rw [same]
    exact counts original there
  · have same : scripted other = result := by
      apply leads
      intro call member
      refine agrees call ⟨member.1, fun ended there => ?_⟩
      obtain ⟨original, inResult, equal⟩ := last ended there
      rw [equal]
      exact member.2 original inResult
    simp only [same]

theorem exec_realized [Nonempty ρ] {scripted : (Nat → ρ) → Handler interface σ}
    {handler : Handler interface σ}
    (operations : ∀ op state,
      Realized count (fun script => scripted script op state) state (handler op state))
    (program : Prog interface ε α) (state : σ) :
    Realized count (fun script => program.exec (scripted script) state) state
      (program.exec handler state) := by
  induction program generalizing state with
  | done | fail => exact Realized.constant fun ended last => by cases last; exact Nat.le_refl _
  | call op next ih =>
    exact (operations op state).bind fun answered _ => ih answered.1 answered.2

end MuRockchip.Base
