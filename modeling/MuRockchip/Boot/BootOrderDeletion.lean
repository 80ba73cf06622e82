/-
What is deleted from the boot order form (`BootMenu.c`).

Deletions are told from the count of the entries that come back. All displayed options that the
new order lacks are then asked about, those that were never shown as well.

* `askAll_bootOrder`: what the deletions leave of the boot order.
* `finishOrder_facts`: what a list that is taken leaves behind.
* `undeleted_eq`: the options that stay, by what the dialogs say.
-/
import MuRockchip.Boot.BootOrderLoop

namespace MuRockchip.Boot

open Base

/-! ### The options that are asked about -/

section

variable (answers : MenuAnswers)

/-- The loop over the options that are left, with their indices. -/
def Deletion.askAll (deletion : Deletion) (left : List (LoadOption × Nat)) : Deletion :=
  left.foldl (fun deletion entry =>
    deletion.offer answers entry.2 entry.1.optionNumber) deletion

theorem offerAll_unassignListed (deletion : Deletion) (newBootOrder : List UInt16)
    (options : List LoadOption) :
    deletion.offerAll answers (unassignListed newBootOrder options) =
      deletion.askAll answers ((options.take (bootOptionLimit options)).zipIdx.filter
        fun entry => entry.1.optionNumber ∉ newBootOrder) := by
  rw [Deletion.offerAll, unassignListed, List.zipIdx_map, List.foldl_map, Deletion.askAll,
    List.foldl_filter]
  congr 1
  funext deletion entry
  by_cases listed : entry.1.optionNumber ∈ newBootOrder <;> simp [listed]

def confirmedOf (left : List (LoadOption × Nat)) : List (LoadOption × Nat) :=
  left.filter fun entry => answers.swm && (answers.deleteMessageBox entry.2).2

theorem confirmedOf_cons (entry : LoadOption × Nat) (rest : List (LoadOption × Nat)) :
    confirmedOf answers (entry :: rest) =
      if answers.swm && (answers.deleteMessageBox entry.2).2 then
        entry :: confirmedOf answers rest
      else confirmedOf answers rest :=
  List.filter_cons

variable (deletion : Deletion) (index : Nat) (number : UInt16)

theorem offer_store : (deletion.offer answers index number).outcome.store =
    if answers.swm && (answers.deleteMessageBox index).2 then
      deletion.outcome.store.delete answers index number
    else deletion.outcome.store := by
  unfold Deletion.offer
  obtain ⟨status, ok⟩ := answers.deleteMessageBox index
  cases answers.swm <;> cases ok <;> rfl

theorem offer_allow : (deletion.offer answers index number).allowSetBootorder =
    (deletion.allowSetBootorder || (answers.swm && (answers.deleteMessageBox index).2)) := by
  unfold Deletion.offer
  obtain ⟨status, ok⟩ := answers.deleteMessageBox index
  cases answers.swm <;> cases ok <;> simp

theorem offer_dialogs : (deletion.offer answers index number).outcome.dialogs =
    deletion.outcome.dialogs ++
      if answers.swm then [(index, (answers.deleteMessageBox index).2)] else [] := by
  unfold Deletion.offer
  obtain ⟨status, ok⟩ := answers.deleteMessageBox index
  cases answers.swm <;> cases ok <;> simp

variable (left : List (LoadOption × Nat))

theorem askAll_dialogs : (deletion.askAll answers left).outcome.dialogs =
    deletion.outcome.dialogs ++
      if answers.swm then left.map fun entry => (entry.2, (answers.deleteMessageBox entry.2).2)
      else [] := by
  induction left generalizing deletion with
  | nil => cases answers.swm <;> simp [Deletion.askAll]
  | cons entry rest ih =>
    rw [Deletion.askAll, List.foldl_cons, ← Deletion.askAll, ih, offer_dialogs]
    cases answers.swm <;> simp

theorem askAll_allow : (deletion.askAll answers left).allowSetBootorder = true ↔
    deletion.allowSetBootorder = true ∨ confirmedOf answers left ≠ [] := by
  induction left generalizing deletion with
  | nil => simp [Deletion.askAll, confirmedOf]
  | cons entry rest ih =>
    rw [Deletion.askAll, List.foldl_cons, ← Deletion.askAll, ih, offer_allow, confirmedOf_cons]
    cases answers.swm && (answers.deleteMessageBox entry.2).2 <;> simp

theorem askAll_bootOrder : (deletion.askAll answers left).outcome.store.bootOrder =
    deletion.outcome.store.bootOrder.diff
      (((confirmedOf answers left).filter fun entry => answers.dropReference entry.2).map
        fun entry => entry.1.optionNumber) := by
  induction left generalizing deletion with
  | nil => simp [Deletion.askAll, confirmedOf]
  | cons entry rest ih =>
    rw [Deletion.askAll, List.foldl_cons, ← Deletion.askAll, ih, offer_store, confirmedOf_cons]
    cases answers.swm && (answers.deleteMessageBox entry.2).2 with
    | false => simp
    | true =>
      cases dropped : answers.dropReference entry.2 <;> simp [BootVariables.delete, dropped]

theorem askAll_option {other : UInt16}
    (apart : ∀ entry ∈ confirmedOf answers left, entry.1.optionNumber ≠ other) :
    (deletion.askAll answers left).outcome.store.option other =
      deletion.outcome.store.option other := by
  induction left generalizing deletion with
  | nil => rfl
  | cons entry rest ih =>
    rw [confirmedOf_cons] at apart
    rw [Deletion.askAll, List.foldl_cons, ← Deletion.askAll]
    cases confirms : answers.swm && (answers.deleteMessageBox entry.2).2 with
    | false =>
      rw [if_neg (by simp [confirms])] at apart
      rw [ih _ apart, offer_store, confirms]
      rfl
    | true =>
      rw [if_pos confirms] at apart
      obtain ⟨different, later⟩ := List.forall_mem_cons.mp apart
      rw [ih _ later, offer_store, confirms]
      simp only [if_true, BootVariables.delete]
      split
      · exact Function.update_of_ne different.symm _ _
      · rfl

end

/-! ### What is asked for -/

/-- The numbers of the options that come back, in their order. -/
def chosen (kept : List (LoadOption × Bool)) : List UInt16 :=
  kept.map fun entry => entry.1.optionNumber

section

variable (options : List LoadOption) (kept : List (LoadOption × Bool)) (answers : MenuAnswers)

def askedOrder : List UInt16 :=
  chosen kept ++ (options.drop (bootOptionLimit options)).map LoadOption.optionNumber

/-- The options that the order leaves out, with their indices. -/
def leftOut : List (LoadOption × Nat) :=
  (options.take (bootOptionLimit options)).zipIdx.filter
    fun entry => entry.1.optionNumber ∉ askedOrder options kept

def confirmed : List (LoadOption × Nat) := confirmedOf answers (leftOut options kept)

/-- The numbers of the options that are deleted and taken out of `BootOrder` for it. -/
def dropped : List UInt16 :=
  ((confirmed options kept answers).filter fun entry => answers.dropReference entry.2).map
    fun entry => entry.1.optionNumber

/-- `BootOrder` is written. -/
def Rewrites : Prop :=
  answers.setBootOrder.isError = false ∧
    (kept.length = bootOptionLimit options ∨ confirmed options kept answers ≠ [])

/-- `RouteConfig` gets as far as the list. -/
def MenuAnswers.accepts : Bool :=
  !answers.locked && answers.configToBlock.isNone && answers.allocated

end

section

variable {options : List LoadOption} {kept : List (LoadOption × Bool)} (answers : MenuAnswers)

theorem askedOrder_length : (askedOrder options kept).length =
    kept.length + (options.length - bootOptionLimit options) := by
  simp [askedOrder, chosen]

/-- Where all options come back, none is left out. -/
theorem leftOut_of_complete (shown : (kept.map Prod.fst).Subperm (shownOptions options))
    (complete : kept.length = bootOptionLimit options) : leftOut options kept = [] := by
  have first : (kept.map Prod.fst).Subperm (options.take (bootOptionLimit options)) :=
    shown.trans List.filter_sublist.subperm
  have all : (kept.map Prod.fst).Perm (options.take (bootOptionLimit options)) := by
    refine first.perm_of_length_le ?_
    rw [List.length_map, complete]
    exact List.length_take_le ..
  refine List.filter_eq_nil_iff.mpr fun entry member => ?_
  have there := all.mem_iff.mpr (List.fst_mem_of_mem_zipIdx member)
  obtain ⟨back, inKept, is⟩ := List.mem_map.mp there
  have listed : entry.1.optionNumber ∈ askedOrder options kept :=
    List.mem_append_left _ (List.mem_map.mpr ⟨back, inKept, by rw [is]⟩)
  simpa using listed

theorem unassignListed_congr {left right : List LoadOption} (newBootOrder : List UInt16)
    (same : left.map LoadOption.optionNumber = right.map LoadOption.optionNumber) :
    unassignListed newBootOrder left = unassignListed newBootOrder right := by
  have length : left.length = right.length := by simpa using congrArg List.length same
  have byNumber : ∀ options, unassignListed newBootOrder options =
      ((options.map LoadOption.optionNumber).take (bootOptionLimit options)).map
        fun number => if number ∈ newBootOrder then none else some number := by
    intro options
    rw [unassignListed, ← List.map_take, List.map_map]
    rfl
  rw [byNumber, byNumber, same, bootOptionLimit, bootOptionLimit, length]

/-- What a list that is taken leaves behind. -/
theorem finishOrder_facts (store : BootVariables)
    (shown : (kept.map Prod.fst).Subperm (shownOptions options)) :
    let draft := Draft.placeAll answers ⟨options, [], store⟩ kept
    let outcome := finishOrder answers draft
    outcome.dialogs = (if answers.swm then (leftOut options kept).map fun entry =>
        (entry.2, (answers.deleteMessageBox entry.2).2) else []) ∧
      (Rewrites options kept answers → outcome.store.bootOrder = askedOrder options kept) ∧
      (¬ Rewrites options kept answers →
        outcome.store.bootOrder = store.bootOrder.diff (dropped options kept answers)) ∧
      ∀ number, (∀ entry ∈ confirmed options kept answers, entry.1.optionNumber ≠ number) →
        outcome.store.option number = draft.store.option number := by
  intro draft outcome
  have numbers : draft.bootOptions.map LoadOption.optionNumber =
    options.map LoadOption.optionNumber := placeAll_numbers ..
  have length : draft.bootOptions.length = options.length := by
    simpa using congrArg List.length numbers
  have order : draft.newBootOrder ++ (draft.bootOptions.drop
      (bootOptionLimit draft.bootOptions)).map LoadOption.optionNumber =
        askedOrder options kept := by
    have limit : bootOptionLimit draft.bootOptions = bootOptionLimit options := by
      rw [bootOptionLimit, bootOptionLimit, length]
    rw [placeAll_newBootOrder, limit, List.map_drop, numbers, ← List.map_drop]
    rfl
  let complete : Bool := kept.length = bootOptionLimit options
  let deletion : Deletion :=
    Deletion.askAll answers ⟨⟨EfiStatus.success, draft.store, []⟩, complete⟩ (leftOut options kept)
  have counts : options.length ≠ (askedOrder options kept).length ↔ complete = false := by
    have bound := Nat.min_le_left options.length maxBootOptionsSupported
    have limit : bootOptionLimit options = min options.length maxBootOptionsSupported := rfl
    rw [askedOrder_length, decide_eq_false_iff_not]
    omega
  have loop : (if draft.bootOptions.length ≠ (askedOrder options kept).length then
      Deletion.offerAll answers ⟨⟨EfiStatus.success, draft.store, []⟩, false⟩
        (unassignListed (askedOrder options kept) draft.bootOptions)
      else ⟨⟨EfiStatus.success, draft.store, []⟩, true⟩) = deletion := by
    rw [length]
    by_cases whole : complete = true
    · have none := leftOut_of_complete shown (of_decide_eq_true whole)
      rw [if_neg (fun differ => by simp [counts.mp differ] at whole)]
      simp only [deletion, none, whole]
      rfl
    · have partly : complete = false := Bool.eq_false_iff.mpr whole
      rw [if_pos (counts.mpr partly), unassignListed_congr _ numbers, offerAll_unassignListed]
      simp only [deletion, partly]
      rfl
  have finish : outcome =
      if deletion.allowSetBootorder then
        if answers.setBootOrder.isError then
          { deletion.outcome with status := answers.setBootOrder }
        else
          { deletion.outcome with
            status := answers.setBootOrder
            store := { deletion.outcome.store with bootOrder := askedOrder options kept } }
      else deletion.outcome := by
    change finishOrder answers draft = _
    simp only [finishOrder, order]
    rw [loop]
  have allow : deletion.allowSetBootorder = true ↔
      kept.length = bootOptionLimit options ∨ confirmed options kept answers ≠ [] := by
    rw [askAll_allow, decide_eq_true_iff]
    rfl
  have dialogs : outcome.dialogs = deletion.outcome.dialogs := by
    rw [finish]
    split
    · split <;> rfl
    · rfl
  have option : outcome.store.option = deletion.outcome.store.option := by
    rw [finish]
    split
    · split <;> rfl
    · rfl
  refine ⟨?_, fun rewrites => ?_, fun keeps => ?_, fun number apart => ?_⟩
  · rw [dialogs, askAll_dialogs]
    exact List.nil_append _
  · rw [finish, if_pos (allow.mpr rewrites.2), if_neg (by simp [rewrites.1])]
  · have same : outcome.store.bootOrder = deletion.outcome.store.bootOrder := by
      rw [finish]
      split
      · next allowed =>
        split
        · rfl
        · next written =>
          exact absurd ⟨Bool.eq_false_iff.mpr written, allow.mp allowed⟩ keeps
      · rfl
    rw [same, askAll_bootOrder]
    exact congrArg (List.diff · _) (placeAll_bootOrder ..)
  · rw [option]
    exact askAll_option _ _ _ apart

/-! ### What is left of the order -/

def spared (options : List LoadOption) (kept : List (LoadOption × Bool)) (answers : MenuAnswers) :
    List (LoadOption × Nat) :=
  (options.take (bootOptionLimit options)).zipIdx.filter fun entry =>
    !(decide (entry.1.optionNumber ∉ askedOrder options kept) &&
      (answers.swm && (answers.deleteMessageBox entry.2).2))

theorem confirmed_eq : confirmed options kept answers =
    (options.take (bootOptionLimit options)).zipIdx.filter fun entry =>
      decide (entry.1.optionNumber ∉ askedOrder options kept) &&
        (answers.swm && (answers.deleteMessageBox entry.2).2) := by
  rw [confirmed, confirmedOf, leftOut, List.filter_filter]
  congr 1
  funext entry
  rw [Bool.and_comm]

variable (options kept) in
theorem confirmed_append_spared :
    (confirmed options kept answers ++ spared options kept answers).Perm
      (options.take (bootOptionLimit options)).zipIdx := by
  rw [confirmed_eq]
  exact List.filter_append_perm ..

/-- What comes back is among the options that are not deleted. -/
theorem chosen_subperm (shown : (kept.map Prod.fst).Subperm (shownOptions options)) :
    (chosen kept).Subperm
      ((spared options kept answers).map fun entry => entry.1.optionNumber) := by
  have listed : ∀ option ∈ kept.map Prod.fst,
      decide (option.optionNumber ∈ askedOrder options kept) = true := by
    intro option member
    obtain ⟨entry, inKept, rfl⟩ := List.mem_map.mp member
    exact decide_eq_true (List.mem_append_left _ (List.mem_map.mpr ⟨entry, inKept, rfl⟩))
  have first : (kept.map Prod.fst).Subperm (options.take (bootOptionLimit options)) :=
    shown.trans List.filter_sublist.subperm
  have back := first.filter fun option : LoadOption =>
    decide (option.optionNumber ∈ askedOrder options kept)
  rw [List.filter_eq_self.mpr listed] at back
  have indexed : (options.take (bootOptionLimit options)).filter (fun option =>
      decide (option.optionNumber ∈ askedOrder options kept)) =
        ((options.take (bootOptionLimit options)).zipIdx.filter fun entry =>
          decide (entry.1.optionNumber ∈ askedOrder options kept)).map Prod.fst := by
    rw [← List.zipIdx_map_fst 0 (options.take _), List.filter_map, List.zipIdx_map_fst]
    rfl
  have apart : ((options.take (bootOptionLimit options)).zipIdx.filter fun entry =>
      decide (entry.1.optionNumber ∈ askedOrder options kept)).Sublist
        (spared options kept answers) := by
    refine List.monotone_filter_right _ fun entry inside => ?_
    simp [of_decide_eq_true inside]
  rw [indexed] at back
  have numbers :=
    subperm_map LoadOption.optionNumber (back.trans (apart.map Prod.fst).subperm)
  rwa [List.map_map, List.map_map] at numbers

variable (options kept) in
theorem confirmed_length_add : (confirmed options kept answers).length +
    (spared options kept answers).length = bootOptionLimit options := by
  have whole := (confirmed_append_spared options kept answers).length_eq
  rw [List.length_append, List.length_zipIdx, List.length_take] at whole
  exact whole.trans (Nat.min_eq_left (bootOptionLimit_le options))

variable {entry : LoadOption × Nat}

theorem mem_leftOut : entry ∈ leftOut options kept ↔
    entry ∈ options.zipIdx ∧ entry.2 < bootOptionLimit options ∧
      entry.1.optionNumber ∉ askedOrder options kept := by
  rw [leftOut, List.mem_filter, List.mem_zipIdx_iff_getElem?, List.mem_zipIdx_iff_getElem?,
    List.getElem?_take, decide_eq_true_iff]
  split
  · next inside => simp [inside]
  · next outside => simp [outside]

/-- The dialogs about some options. -/
def dialogsOf (left : List (LoadOption × Nat)) : List (Nat × Bool) :=
  if answers.swm then left.map fun entry => (entry.2, (answers.deleteMessageBox entry.2).2) else []

theorem mem_dialogsOf (member : entry ∈ options.zipIdx) (ok : Bool) :
    (entry.2, ok) ∈ dialogsOf answers (leftOut options kept) ↔
      answers.swm = true ∧ entry ∈ leftOut options kept ∧
        (answers.deleteMessageBox entry.2).2 = ok := by
  unfold dialogsOf
  cases answers.swm with
  | false => simp
  | true =>
    simp only [if_true, List.mem_map, Prod.mk.injEq, true_and]
    constructor
    · rintro ⟨other, left, index, rfl⟩
      have same : other = entry := by
        have here := List.mem_zipIdx_iff_getElem?.mp member
        have there := List.mem_zipIdx_iff_getElem?.mp (mem_leftOut.mp left).1
        rw [index] at there
        exact Prod.ext (Option.some.inj (there.symm.trans here)) index
      subst same
      exact ⟨left, rfl⟩
    · rintro ⟨left, rfl⟩
      exact ⟨entry, left, rfl, rfl⟩

theorem mem_confirmed : entry ∈ confirmed options kept answers ↔
    entry ∈ leftOut options kept ∧ answers.swm = true ∧
      (answers.deleteMessageBox entry.2).2 = true := by
  rw [confirmed, confirmedOf, List.mem_filter, Bool.and_eq_true]

theorem undeleted_eq :
    (options.zipIdx.filter fun entry =>
        (entry.2, true) ∉ dialogsOf answers (leftOut options kept)).map
      (fun entry => entry.1.optionNumber) =
    (spared options kept answers).map (fun entry => entry.1.optionNumber) ++
      (options.drop (bootOptionLimit options)).map LoadOption.optionNumber := by
  set limit := bootOptionLimit options with limitEq
  have length : (options.take limit).length = limit :=
    List.length_take_of_le (bootOptionLimit_le options)
  have parts : options.zipIdx =
      (options.take limit).zipIdx ++ (options.drop limit).zipIdx limit := by
    have split := @List.zipIdx_append _ (options.take limit) (options.drop limit) 0
    rw [List.take_append_drop, length, Nat.zero_add] at split
    exact split
  have first : ((options.take limit).zipIdx.filter fun entry =>
      decide ((entry.2, true) ∉ dialogsOf answers (leftOut options kept))) =
        spared options kept answers := by
    refine List.filter_congr fun entry member => ?_
    have whole : entry ∈ options.zipIdx := by
      rw [parts]
      exact List.mem_append_left _ member
    have inside : entry.2 < limit := by
      have bound := List.snd_lt_of_mem_zipIdx member
      rwa [length, Nat.add_zero] at bound
    have asked : (entry.2, true) ∈ dialogsOf answers (leftOut options kept) ↔ _ :=
      mem_dialogsOf answers whole true
    rw [mem_leftOut] at asked
    rw [Bool.eq_iff_iff]
    simp only [asked, whole, ← limitEq, inside, decide_not, true_and]
    simp
    exact or_left_comm
  have last : ((options.drop limit).zipIdx limit).filter (fun entry =>
      decide ((entry.2, true) ∉ dialogsOf answers (leftOut options kept))) =
        (options.drop limit).zipIdx limit := by
    refine List.filter_eq_self.mpr fun entry member => ?_
    have whole : entry ∈ options.zipIdx := by
      rw [parts]
      exact List.mem_append_right _ member
    have beyond := List.le_snd_of_mem_zipIdx member
    refine decide_eq_true fun asked => ?_
    have inside := (mem_leftOut.mp ((mem_dialogsOf answers whole true).mp asked).2.1).2.1
    exact absurd inside (Nat.not_lt.mpr beyond)
  rw [parts, List.filter_append, first, last, List.map_append]
  congr 1
  have numbers := congrArg (List.map LoadOption.optionNumber)
    (List.zipIdx_map_fst limit (options.drop limit))
  rwa [List.map_map] at numbers

end

end MuRockchip.Boot
