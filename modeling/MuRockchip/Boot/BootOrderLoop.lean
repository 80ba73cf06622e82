/-
The loop over the entries of the boot order form (`BootMenu.c`).

Each entry puts its option at the end of the new order, and its check box into the option.

* `rebuildOrderList_entries`: the entries of the list that the form shows.
* `takeOrder_entries`: the loop takes the entries for what they stand for.
* `placeAll_changed`: which writes decide about the check box of an option.
-/
import MuRockchip.Boot.BootMenu

namespace MuRockchip.Boot

open Base

/-! ### The list that is shown -/

section

variable (flags : OrderedListFlags) (isDefault : LoadOption → Bool)

/-- The options that the form shows. -/
def shownOptions (options : List LoadOption) : List LoadOption :=
  (options.take (bootOptionLimit options)).filter LoadOption.isShown

theorem optionValue_ne_zero (option : LoadOption) : optionValue flags isDefault option ≠ 0 := by
  have number := successor_ne_zero option.optionNumber
  unfold optionValue
  cases option.isActive <;> cases isDefault option <;>
    simp [UInt32.or_eq_zero_iff, number]

def listEntry (option : LoadOption) : UInt32 :=
  if option.isShown then optionValue flags isDefault option else 0

theorem rebuildOrderList_eq (options : List LoadOption) :
    let first := options.take (bootOptionLimit options)
    rebuildOrderList flags isDefault options =
      first.map (listEntry flags isDefault) ++
        List.replicate (maxBootOptionsSupported - first.length) 0 := by
  intro first
  have short : first.length ≤ maxBootOptionsSupported := by
    rw [List.length_take]
    exact (Nat.min_le_left _ _).trans (Nat.min_le_right _ _)
  apply List.ext_getElem
  · simp [rebuildOrderList, Nat.add_sub_cancel' short]
  · intro index inside _
    simp only [rebuildOrderList, List.getElem_map, List.getElem_range, List.getElem_append,
      List.getElem_replicate, List.length_map, listEntry]
    split
    · next option there =>
      obtain ⟨inside, rfl⟩ := List.getElem?_eq_some_iff.mp there
      rw [dif_pos inside]
    · next missing =>
      rw [dif_neg (Nat.not_lt.mpr (List.getElem?_eq_none_iff.mp missing))]

theorem listEntries_shown (options : List LoadOption) :
    (options.map (listEntry flags isDefault)).filter (· ≠ 0) =
      (options.filter LoadOption.isShown).map (optionValue flags isDefault) := by
  induction options with
  | nil => rfl
  | cons option rest ih =>
    by_cases shown : option.isShown = true
    · simp [listEntry, shown, optionValue_ne_zero] at ih ⊢
      exact ih
    · simp [listEntry, shown] at ih ⊢
      exact ih

theorem rebuildOrderList_entries (options : List LoadOption) :
    ((rebuildOrderList flags isDefault options).take (bootOptionLimit options)).filter (· ≠ 0) =
      (shownOptions options).map (optionValue flags isDefault) := by
  have length : (options.take (bootOptionLimit options)).length = bootOptionLimit options :=
    List.length_take_of_le (bootOptionLimit_le options)
  rw [rebuildOrderList_eq, List.take_append_of_le_length (by rw [List.length_map, length]),
    List.take_of_length_le (by rw [List.length_map, length]), listEntries_shown, shownOptions]

end

/-! ### The loop over the list -/

theorem LoadOption.isActive_toggle (option : LoadOption) :
    option.toggle.isActive = !option.isActive := by
  have flip : (option.attributes ^^^ loadOptionActive) &&& loadOptionActive =
      loadOptionActive ^^^ (option.attributes &&& loadOptionActive) := by
    refine UInt32.toBitVec_inj.mp (BitVec.eq_of_getLsbD_eq fun bit inside => ?_)
    simp only [UInt32.toBitVec_and, UInt32.toBitVec_xor, BitVec.getLsbD_and, BitVec.getLsbD_xor]
    cases option.attributes.toBitVec.getLsbD bit <;> cases loadOptionActive.toBitVec.getLsbD bit <;>
      rfl
  have bit : option.attributes &&& loadOptionActive = 0 ∨
      option.attributes &&& loadOptionActive = loadOptionActive := by
    have low : (option.attributes &&& loadOptionActive).toNat = option.attributes.toNat % 2 := by
      rw [UInt32.toNat_and]
      exact Nat.and_two_pow_sub_one_eq_mod _ 1
    rcases Nat.mod_two_eq_zero_or_one option.attributes.toNat with even | odd
    · exact Or.inl (UInt32.toNat_inj.mp (low.trans even))
    · exact Or.inr (UInt32.toNat_inj.mp (low.trans odd))
  unfold isActive toggle
  rw [flip]
  rcases bit with clear | set
  · rw [clear]; decide
  · rw [set]; decide

/-- The first of the displayed options with a number. -/
def Draft.current (draft : Draft) (number : UInt16) : Option LoadOption :=
  (draft.bootOptions.take (bootOptionLimit draft.bootOptions)).find?
    fun option => option.optionNumber == number

theorem Draft.current_number {draft : Draft} {number : UInt16} {option : LoadOption}
    (current : draft.current number = some option) : option.optionNumber = number := by
  have found := List.find?_some current
  exact eq_of_beq found

/-- The branches of the loop for some options and their check boxes. -/
def Draft.placeAll (answers : MenuAnswers) (draft : Draft) (kept : List (LoadOption × Bool)) :
    Draft :=
  kept.foldl (fun draft entry =>
    draft.place entry.1.optionNumber entry.2 (answers.writeOption draft.newBootOrder.length)) draft

/-- The loop over the entries. -/
theorem takeOrder_entries {flags : OrderedListFlags} {isDefault : LoadOption → Bool}
    (answers : MenuAnswers) {values : List UInt32} {kept : List (LoadOption × Bool)}
    (entries : values.filter (· ≠ 0) = kept.map (checkedValue flags isDefault)) (draft : Draft) :
    takeOrder flags answers values draft = .ok (draft.placeAll answers kept) := by
  induction values generalizing kept draft with
  | nil =>
    obtain rfl : kept = [] := List.map_eq_nil_iff.mp entries.symm
    rfl
  | cons value rest ih =>
    rw [takeOrder]
    by_cases zero : value = 0
    · rw [if_pos zero]
      refine ih ?_ draft
      simpa [zero] using entries
    · rw [if_neg zero]
      rw [List.filter_cons_of_pos (by simpa using zero)] at entries
      obtain ⟨entry, later, rfl, rfl, others⟩ := List.map_eq_cons_iff.mp entries.symm
      obtain ⟨-, boot, number, box⟩ := checkedValue_facts flags isDefault entry
      simp only [boot, ne_eq, not_true_eq_false, if_false, number]
      rw [ih others.symm]
      simp only [ne_eq] at box
      rw [box]
      rfl

section

variable (draft : Draft) (thisOption : UInt16) (thisActive write : Bool)

theorem place_cases :
    (draft.place thisOption thisActive write =
        { draft with newBootOrder := draft.newBootOrder ++ [thisOption] } ∧
      ∀ option, draft.current thisOption = some option → option.isActive = thisActive) ∨
    ∃ option, draft.current thisOption = some option ∧ option.isActive ≠ thisActive ∧
      draft.place thisOption thisActive write =
        { bootOptions := draft.bootOptions.replaceF
            (replaceKind (fun option => option.optionNumber == thisOption) LoadOption.toggle)
          newBootOrder := draft.newBootOrder ++ [thisOption]
          store := if write then draft.store.write option.toggle else draft.store } := by
  cases found : draft.current thisOption with
  | none =>
    refine Or.inl ⟨?_, fun _ there => nomatch there⟩
    rw [Draft.current] at found
    simp only [Draft.place, found]
  | some option =>
    rw [Draft.current] at found
    by_cases same : option.isActive = thisActive
    · refine Or.inl ⟨?_, fun other there => Option.some.inj there ▸ same⟩
      simp only [Draft.place, found]
      rw [if_neg (not_not.mpr same)]
    · refine Or.inr ⟨option, rfl, same, ?_⟩
      simp only [Draft.place, found]
      rw [if_pos same]

@[simp]
theorem place_newBootOrder : (draft.place thisOption thisActive write).newBootOrder =
    draft.newBootOrder ++ [thisOption] := by
  rcases place_cases draft thisOption thisActive write with ⟨same, -⟩ | ⟨_, -, -, changed⟩
  · rw [same]
  · rw [changed]

@[simp]
theorem place_numbers : (draft.place thisOption thisActive write).bootOptions.map
    LoadOption.optionNumber = draft.bootOptions.map LoadOption.optionNumber := by
  rcases place_cases draft thisOption thisActive write with ⟨same, -⟩ | ⟨_, -, -, changed⟩
  · rw [same]
  · rw [changed]
    have same : ∀ option : LoadOption, option.toggle.optionNumber = option.optionNumber :=
      fun _ => rfl
    exact map_replaceF same _

theorem place_bootOrder : (draft.place thisOption thisActive write).store.bootOrder =
    draft.store.bootOrder := by
  rcases place_cases draft thisOption thisActive write with ⟨same, -⟩ | ⟨_, -, -, changed⟩
  · rw [same]
  · rw [changed]
    cases write <;> rfl

theorem place_isSome {number : UInt16} (there : (draft.store.option number).isSome) :
    ((draft.place thisOption thisActive write).store.option number).isSome := by
  rcases place_cases draft thisOption thisActive write with ⟨same, -⟩ | ⟨option, -, -, changed⟩
  · rwa [same]
  · rw [changed]
    cases write with
    | false => exact there
    | true =>
      simp only [if_true, BootVariables.write, Function.update_apply]
      split
      · rfl
      · exact there

variable {draft thisOption thisActive write}

theorem place_current_same {option : LoadOption}
    (current : draft.current thisOption = some option) :
    (draft.place thisOption thisActive write).current thisOption =
      some (if option.isActive = thisActive then option else option.toggle) := by
  rcases place_cases draft thisOption thisActive write with ⟨same, settled⟩ |
    ⟨other, found, differs, changed⟩
  · rw [same, if_pos (settled option current)]
    exact current
  · obtain rfl : other = option := Option.some.inj (found.symm.trans current)
    rw [changed, if_neg differs]
    simp only [Draft.current, bootOptionLimit, List.length_replaceF, take_replaceF] at found ⊢
    rw [find?_replaceF_same, found, Option.map_some]
    exact fun _ same => same

theorem place_current_other {number : UInt16} (different : thisOption ≠ number) :
    (draft.place thisOption thisActive write).current number = draft.current number := by
  rcases place_cases draft thisOption thisActive write with ⟨same, -⟩ | ⟨_, -, -, changed⟩
  · rw [same]
    rfl
  · rw [changed]
    simp only [Draft.current, bootOptionLimit, List.length_replaceF, take_replaceF]
    refine find?_replaceF_other (fun item same => ?_) _
    have there : item.optionNumber = thisOption := eq_of_beq same
    have off : (item.optionNumber == number) = false := beq_eq_false_iff_ne.mpr (there ▸ different)
    exact ⟨off, off⟩

/-- The variable of an option with the check box as it was is left alone. -/
theorem place_option_settled {option : LoadOption}
    (current : draft.current thisOption = some option) (settled : option.isActive = thisActive) :
    (draft.place thisOption thisActive write).store = draft.store := by
  rcases place_cases draft thisOption thisActive write with ⟨same, -⟩ | ⟨_, found, differs, -⟩
  · rw [same]
  · obtain rfl := Option.some.inj (found.symm.trans current)
    exact absurd settled differs

theorem place_option_differs {option : LoadOption}
    (current : draft.current thisOption = some option) (differs : option.isActive ≠ thisActive) :
    (draft.place thisOption thisActive write).store =
      if write then draft.store.write option.toggle else draft.store := by
  rcases place_cases draft thisOption thisActive write with ⟨-, settled⟩ | ⟨_, found, -, changed⟩
  · exact absurd (settled option current) differs
  · obtain rfl := Option.some.inj (found.symm.trans current)
    rw [changed]

theorem place_option_other {number : UInt16} (different : thisOption ≠ number) :
    (draft.place thisOption thisActive write).store.option number = draft.store.option number := by
  rcases place_cases draft thisOption thisActive write with ⟨same, -⟩ | ⟨option, found, -, changed⟩
  · rw [same]
  · have there := Draft.current_number found
    rw [changed]
    cases write with
    | false => rfl
    | true => exact Function.update_of_ne (there ▸ different.symm) _ _

end

section

variable (answers : MenuAnswers) (draft : Draft) (kept : List (LoadOption × Bool))

theorem placeAll_newBootOrder : (draft.placeAll answers kept).newBootOrder =
    draft.newBootOrder ++ kept.map fun entry => entry.1.optionNumber := by
  induction kept generalizing draft with
  | nil => simp [Draft.placeAll]
  | cons entry rest ih =>
    rw [Draft.placeAll, List.foldl_cons, ← Draft.placeAll, ih, place_newBootOrder]
    simp

theorem placeAll_numbers : (draft.placeAll answers kept).bootOptions.map LoadOption.optionNumber =
    draft.bootOptions.map LoadOption.optionNumber := by
  induction kept generalizing draft with
  | nil => rfl
  | cons entry rest ih => exact (ih _).trans (place_numbers ..)

theorem placeAll_bootOrder :
    (draft.placeAll answers kept).store.bootOrder = draft.store.bootOrder := by
  induction kept generalizing draft with
  | nil => rfl
  | cons entry rest ih => exact (ih _).trans (place_bootOrder ..)

variable {draft}

theorem placeAll_isSome {number : UInt16} (there : (draft.store.option number).isSome) :
    ((draft.placeAll answers kept).store.option number).isSome := by
  induction kept generalizing draft with
  | nil => exact there
  | cons entry rest ih => exact ih (place_isSome _ _ _ _ there)

variable {kept} {option : LoadOption} {number : UInt16}

/-- An option whose check box stays as it is keeps its variable. -/
theorem placeAll_settled (current : draft.current number = some option)
    (settled : ∀ entry ∈ kept, entry.1.optionNumber = number → option.isActive = entry.2) :
    (draft.placeAll answers kept).store.option number = draft.store.option number := by
  induction kept generalizing draft with
  | nil => rfl
  | cons entry rest ih =>
    obtain ⟨first, later⟩ := List.forall_mem_cons.mp settled
    rw [Draft.placeAll, List.foldl_cons, ← Draft.placeAll]
    by_cases same : entry.1.optionNumber = number
    · subst same
      have still := @place_current_same draft _ entry.2
        (answers.writeOption draft.newBootOrder.length) _ current
      rw [if_pos (first rfl)] at still
      rw [ih still later, place_option_settled current (first rfl)]
    · rw [ih ((place_current_other same).trans current) later, place_option_other same]

/-- The first entry of an option whose check box has changed is written. -/
theorem placeAll_changed {active : Bool} (current : draft.current number = some option)
    (differs : option.isActive ≠ active)
    (agree : ∀ entry ∈ kept, entry.1.optionNumber = number → entry.2 = active)
    (occurs : ∃ entry ∈ kept, entry.1.optionNumber = number) :
    (draft.placeAll answers kept).store.option number =
      if answers.writeOption (draft.newBootOrder.length +
          kept.findIdx fun entry => entry.1.optionNumber == number) then
        some option.toggle.attributes
      else draft.store.option number := by
  induction kept generalizing draft with
  | nil => exact absurd occurs (by simp)
  | cons entry rest ih =>
    obtain ⟨first, later⟩ := List.forall_mem_cons.mp agree
    rw [Draft.placeAll, List.foldl_cons, ← Draft.placeAll, List.findIdx_cons]
    by_cases same : entry.1.optionNumber = number
    · subst same
      obtain rfl := first rfl
      have there := Draft.current_number current
      have toggled := @place_current_same draft _ entry.2
        (answers.writeOption draft.newBootOrder.length) _ current
      rw [if_neg differs] at toggled
      rw [placeAll_settled answers toggled, place_option_differs current differs]
      · simp only [beq_self_eq_true, cond_true, Nat.add_zero]
        split
        · rw [BootVariables.write, ← there]
          exact Function.update_self ..
        · rfl
      · intro other member is
        rw [later other member is, LoadOption.isActive_toggle]
        exact Bool.not_eq.mpr differs
    · have off : (entry.1.optionNumber == number) = false := beq_eq_false_iff_ne.mpr same
      obtain ⟨other, member, is⟩ := occurs
      have inRest : other ∈ rest := by
        rcases List.mem_cons.mp member with rfl | inRest
        · exact absurd is same
        · exact inRest
      rw [ih ((place_current_other same).trans current) later ⟨other, inRest, is⟩,
        place_option_other same, off, place_newBootOrder]
      simp [Nat.add_assoc, Nat.add_comm]

end

end MuRockchip.Boot
