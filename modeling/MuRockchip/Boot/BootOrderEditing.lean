/-
What becomes of the boot order when it is edited (`BootMenu.c`).

An option that is never shown is offered for deletion, and one whose deletion is declined is lost
when another one is confirmed.

* `rebuildOrderList_returned`: what comes back where nothing was edited.
* `asked_perm_iff`, `diff_dropped_perm_iff`: when no option is lost.
* `placeAll_checked_iff`: when the check boxes are in the options.
* `routeBootOrderConfig_edited_iff`: when editing loses nothing.
-/
import MuRockchip.Boot.BootOrderDeletion

namespace MuRockchip.Boot

open Base

/-! ### What the form hands back -/

/-- `mBootOptions` are the options of `BootOrder` that can be read, as
`EfiBootManagerGetLoadOptions` returns them. -/
structure Loaded (store : BootVariables) (options : List LoadOption) : Prop where
  order : options.map LoadOption.optionNumber =
    store.bootOrder.filter fun number => (store.option number).isSome
  attributes : ∀ option ∈ options, store.option option.optionNumber = some option.attributes

/-- The list that comes back has entries of options that are shown, each once at most, in any
order, anywhere in the list and with any check boxes. -/
structure Returned (flags : OrderedListFlags) (isDefault : LoadOption → Bool)
    (options : List LoadOption) (kept : List (LoadOption × Bool))
    (orderOptions : Vector UInt32 maxBootOptionsSupported) : Prop where
  shown : (kept.map Prod.fst).Subperm (shownOptions options)
  entries : (orderOptions.toList.take (bootOptionLimit options)).filter (· ≠ 0) =
    kept.map (checkedValue flags isDefault)

/-- An entry that has its option's own check box is the entry of the list. -/
theorem checkedValue_unchanged (flags : OrderedListFlags) (isDefault : LoadOption → Bool)
    (option : LoadOption) :
    checkedValue flags isDefault (option, option.isActive) =
      optionValue flags isDefault option := by
  have number := and_not_of_apart (successor_and_high option.optionNumber flags.checkbox_high)
  have delete := and_not_of_apart flags.allowDelete_checkbox
  unfold checkedValue optionValue
  cases option.isActive <;> cases isDefault option <;>
    simp [or_and_mask, number, delete]
  rw [UInt32.or_assoc, UInt32.or_comm flags.allowDelete, ← UInt32.or_assoc]

variable {orderOptions : Vector UInt32 maxBootOptionsSupported} {answers : MenuAnswers}

/-- The list as the form was given it comes back where nothing was edited. -/
theorem rebuildOrderList_returned (flags : OrderedListFlags) (isDefault : LoadOption → Bool)
    (options : List LoadOption)
    (unchanged : orderOptions.toList = rebuildOrderList flags isDefault options) :
    Returned flags isDefault options
      ((shownOptions options).map fun option => (option, option.isActive)) orderOptions where
  shown := by
    rw [List.map_map]
    exact (List.map_id _).symm ▸ List.Subperm.refl _
  entries := by
    rw [unchanged, rebuildOrderList_entries, List.map_map]
    exact List.map_congr_left fun option _ => (checkedValue_unchanged flags isDefault option).symm

/-- Editing has lost nothing. -/
structure Edited (options : List LoadOption) (kept : List (LoadOption × Bool))
    (before : BootVariables) (outcome : MenuOutcome) : Prop where
  /-- Each option is still listed once, but for those whose deletion was confirmed. -/
  listed : (outcome.store.bootOrder.filter fun number => (before.option number).isSome).Perm
    ((options.zipIdx.filter fun entry => (entry.2, true) ∉ outcome.dialogs).map
      fun entry => entry.1.optionNumber)
  ordered : (chosen kept).Sublist outcome.store.bootOrder
  deleted : ∀ number, (before.option number).isSome → outcome.store.option number = none →
    ∃ entry ∈ options.zipIdx, entry.1.optionNumber = number ∧ (entry.2, true) ∈ outcome.dialogs
  offered : ∀ entry ∈ options.zipIdx, ∀ ok, (entry.2, ok) ∈ outcome.dialogs → entry.1.isShown
  kept_hidden : ∀ option ∈ options, option.isShown = false →
    option.optionNumber ∈ outcome.store.bootOrder
  checked : ∀ entry ∈ kept, ∃ attributes,
    outcome.store.option entry.1.optionNumber = some attributes ∧
      (LoadOption.mk entry.1.optionNumber attributes).isActive = entry.2

/-! ### What is left of the order -/

section

variable {options : List LoadOption} {kept : List (LoadOption × Bool)} (answers : MenuAnswers)

variable {store : BootVariables}

theorem Loaded.mem_isSome (loaded : Loaded store options) {option : LoadOption}
    (member : option ∈ options) : (store.option option.optionNumber).isSome := by
  rw [loaded.attributes option member]
  rfl

theorem Loaded.eq_of_number (loaded : Loaded store options) {left right : LoadOption}
    (leftIn : left ∈ options) (rightIn : right ∈ options)
    (same : left.optionNumber = right.optionNumber) : left = right := by
  have attributes : left.attributes = right.attributes := by
    have fromLeft := loaded.attributes left leftIn
    rw [same, loaded.attributes right rightIn] at fromLeft
    exact (Option.some.inj fromLeft).symm
  obtain ⟨number, leftAttributes⟩ := left
  exact LoadOption.mk.injEq .. |>.mpr ⟨same, attributes⟩

variable {entry : LoadOption × Bool}

theorem kept_mem_take (shown : (kept.map Prod.fst).Subperm (shownOptions options))
    (member : entry ∈ kept) :
    entry.1 ∈ options.take (bootOptionLimit options) :=
  (List.mem_filter.mp (shown.subset (List.mem_map_of_mem member))).1

/-- When the order is written, or only what was deleted has gone. -/
structure OrderExact (options : List LoadOption) (kept : List (LoadOption × Bool))
    (answers : MenuAnswers) (store : BootVariables) : Prop where
  rewritten : Rewrites options kept answers →
    kept.length + (confirmed options kept answers).length = bootOptionLimit options
  unwritten : ¬ Rewrites options kept answers →
    (∀ entry ∈ confirmed options kept answers, answers.dropReference entry.2 = true) ∧
      (chosen kept).Sublist store.bootOrder

theorem asked_isSome (loaded : Loaded store options)
    (shown : (kept.map Prod.fst).Subperm (shownOptions options)) :
    ∀ number ∈ askedOrder options kept, (store.option number).isSome = true := by
  intro number member
  rcases List.mem_append.mp member with back | beyond
  · obtain ⟨entry, inKept, rfl⟩ := List.mem_map.mp back
    exact loaded.mem_isSome (List.mem_of_mem_take (kept_mem_take shown inKept))
  · obtain ⟨option, inRest, rfl⟩ := List.mem_map.mp beyond
    exact loaded.mem_isSome (List.mem_of_mem_drop inRest)

theorem asked_perm_iff (shown : (kept.map Prod.fst).Subperm (shownOptions options)) :
    (askedOrder options kept).Perm
        ((spared options kept answers).map (fun entry => entry.1.optionNumber) ++
          (options.drop (bootOptionLimit options)).map LoadOption.optionNumber) ↔
      kept.length + (confirmed options kept answers).length = bootOptionLimit options := by
  have total := confirmed_length_add options kept answers
  have sub := chosen_subperm answers shown
  rw [askedOrder, List.perm_append_right_iff]
  constructor
  · intro perm
    have sizes := perm.length_eq
    rw [chosen, List.length_map, List.length_map] at sizes
    omega
  · intro sizes
    refine sub.perm_of_length_le ?_
    rw [chosen, List.length_map, List.length_map]
    omega

theorem diff_dropped_perm_iff (loaded : Loaded store options) :
    ((store.bootOrder.diff (dropped options kept answers)).filter
          fun number => (store.option number).isSome).Perm
        ((spared options kept answers).map (fun entry => entry.1.optionNumber) ++
          (options.drop (bootOptionLimit options)).map LoadOption.optionNumber) ↔
      ∀ entry ∈ confirmed options kept answers, answers.dropReference entry.2 = true := by
  have there : ∀ number ∈ dropped options kept answers, (store.option number).isSome = true := by
    intro number member
    obtain ⟨entry, isDropped, rfl⟩ := List.mem_map.mp member
    have left := ((mem_confirmed answers).mp (List.mem_filter.mp isDropped).1).1
    exact loaded.mem_isSome (List.fst_mem_of_mem_zipIdx (mem_leftOut.mp left).1)
  have parts : (options.map LoadOption.optionNumber).Perm
      ((confirmed options kept answers).map (fun entry => entry.1.optionNumber) ++
        ((spared options kept answers).map (fun entry => entry.1.optionNumber) ++
          (options.drop (bootOptionLimit options)).map LoadOption.optionNumber)) := by
    have first := (confirmed_append_spared options kept answers).map
      fun entry => entry.1.optionNumber
    have indexed := congrArg (List.map LoadOption.optionNumber)
      (List.zipIdx_map_fst 0 (options.take (bootOptionLimit options)))
    rw [List.map_map] at indexed
    rw [List.map_append] at first
    have whole := List.take_append_drop (bootOptionLimit options) options
    have split := congrArg (List.map LoadOption.optionNumber) whole
    rw [List.map_append, ← indexed] at split
    rw [← split, ← List.append_assoc]
    exact first.symm.append_right _
  have sub : (dropped options kept answers).Sublist
      ((confirmed options kept answers).map fun entry => entry.1.optionNumber) :=
    List.filter_sublist.map _
  rw [filter_diff _ _ there, ← loaded.order, diff_perm_iff parts sub]
  constructor
  · intro same
    have sizes := congrArg List.length same
    rw [dropped, List.length_map, List.length_map] at sizes
    exact List.length_filter_eq_length_iff.mp sizes
  · intro all
    rw [dropped, List.filter_eq_self.mpr all]

theorem chosen_sublist_diff_iff : (chosen kept).Sublist
    (store.bootOrder.diff (dropped options kept answers)) ↔
      (chosen kept).Sublist store.bootOrder := by
  refine sublist_diff_iff fun number back isDropped => ?_
  obtain ⟨entry, member, rfl⟩ := List.mem_map.mp isDropped
  have left := ((mem_confirmed answers).mp (List.mem_filter.mp member).1).1
  exact (mem_leftOut.mp left).2.2 (List.mem_append_left _ back)

/-! ### Check boxes -/

/-- When every check box gets into the variable of its option. -/
structure BoxesWritten (kept : List (LoadOption × Bool)) (answers : MenuAnswers) : Prop where
  agree : ∀ entry ∈ kept, ∀ other ∈ kept,
    other.1.optionNumber = entry.1.optionNumber → other.2 = entry.2
  written : ∀ entry ∈ kept, entry.1.isActive ≠ entry.2 →
    answers.writeOption
      (kept.findIdx fun other => other.1.optionNumber == entry.1.optionNumber) = true

/-- The first option of a number is the one that has come back. -/
theorem current_of_kept (loaded : Loaded store options)
    (shown : (kept.map Prod.fst).Subperm (shownOptions options)) (member : entry ∈ kept) :
    Draft.current ⟨options, [], store⟩ entry.1.optionNumber = some entry.1 := by
  have there := kept_mem_take shown member
  cases found : Draft.current ⟨options, [], store⟩ entry.1.optionNumber with
  | none =>
    have absent := List.find?_eq_none.mp found entry.1 there
    simp at absent
  | some option =>
    have number := Draft.current_number found
    have inTake := List.mem_of_find?_eq_some found
    rw [loaded.eq_of_number (List.mem_of_mem_take inTake) (List.mem_of_mem_take there) number]

/-- The check boxes are in the variables exactly when the writes that decide have succeeded. -/
theorem placeAll_checked_iff (loaded : Loaded store options)
    (shown : (kept.map Prod.fst).Subperm (shownOptions options)) :
    (∀ entry ∈ kept, ∃ attributes,
      (Draft.placeAll answers ⟨options, [], store⟩ kept).store.option entry.1.optionNumber =
          some attributes ∧
        (LoadOption.mk entry.1.optionNumber attributes).isActive = entry.2) ↔
      BoxesWritten kept answers := by
  have before : ∀ entry ∈ kept,
      store.option entry.1.optionNumber = some entry.1.attributes := fun entry member =>
    loaded.attributes _ (List.mem_of_mem_take (kept_mem_take shown member))
  constructor
  · intro checked
    have agree : ∀ entry ∈ kept, ∀ other ∈ kept,
        other.1.optionNumber = entry.1.optionNumber → other.2 = entry.2 := by
      intro entry member other otherMember same
      obtain ⟨attributes, stored, active⟩ := checked entry member
      obtain ⟨otherAttributes, otherStored, otherActive⟩ := checked other otherMember
      rw [same, stored] at otherStored
      obtain rfl := Option.some.inj otherStored
      rw [← active, ← otherActive]
      rfl
    refine ⟨agree, fun entry member differs => ?_⟩
    by_contra failed
    obtain ⟨attributes, stored, active⟩ := checked entry member
    rw [placeAll_changed answers (current_of_kept loaded shown member) differs
      (fun other otherMember same => agree entry member other otherMember same)
      ⟨entry, member, rfl⟩] at stored
    simp only [List.length_nil, Nat.zero_add, failed] at stored
    obtain rfl := Option.some.inj ((before entry member).symm.trans stored)
    exact differs active
  · rintro ⟨agree, written⟩ entry member
    have current := current_of_kept loaded shown member
    by_cases settled : entry.1.isActive = entry.2
    · refine ⟨entry.1.attributes, ?_, settled⟩
      rw [placeAll_settled answers current]
      · exact before entry member
      · exact fun other otherMember same =>
          settled.trans (agree entry member other otherMember same).symm
    · refine ⟨entry.1.toggle.attributes, ?_, ?_⟩
      · rw [placeAll_changed answers current settled
          (fun other otherMember same => agree entry member other otherMember same)
          ⟨entry, member, rfl⟩]
        rw [if_pos]
        simpa using written entry member settled
      · exact (LoadOption.isActive_toggle entry.1).trans (Bool.not_eq.mpr settled)

/-! ### Editing -/

/-- Hidden options are not asked about. -/
def OffersShown (options : List LoadOption) (kept : List (LoadOption × Bool))
    (answers : MenuAnswers) : Prop :=
  answers.swm = true → ∀ entry ∈ leftOut options kept, entry.1.isShown = true

theorem finishOrder_listed_iff (loaded : Loaded store options)
    (shown : (kept.map Prod.fst).Subperm (shownOptions options)) :
    let outcome := finishOrder answers (Draft.placeAll answers ⟨options, [], store⟩ kept)
    ((outcome.store.bootOrder.filter fun number => (store.option number).isSome).Perm
        ((options.zipIdx.filter fun entry => (entry.2, true) ∉ outcome.dialogs).map
          fun entry => entry.1.optionNumber) ∧
      (chosen kept).Sublist outcome.store.bootOrder) ↔
        OrderExact options kept answers store := by
  intro outcome
  obtain ⟨dialogs, rewritten, unwritten, -⟩ := finishOrder_facts answers store shown
  change outcome.dialogs = dialogsOf answers (leftOut options kept) at dialogs
  rw [dialogs, undeleted_eq]
  by_cases rewrites : Rewrites options kept answers
  · have order : outcome.store.bootOrder = _ := rewritten rewrites
    rw [order, List.filter_eq_self.mpr (asked_isSome loaded shown), asked_perm_iff answers shown]
    exact ⟨fun exact => ⟨fun _ => exact.1, fun keeps => absurd rewrites keeps⟩,
      fun exact => ⟨exact.rewritten rewrites, List.sublist_append_left _ _⟩⟩
  · have order : outcome.store.bootOrder = _ := unwritten rewrites
    rw [order, diff_dropped_perm_iff answers loaded, chosen_sublist_diff_iff]
    exact ⟨fun exact => ⟨fun writes => absurd writes rewrites, fun _ => exact⟩,
      fun exact => exact.unwritten rewrites⟩

theorem finishOrder_edited_iff (loaded : Loaded store options)
    (shown : (kept.map Prod.fst).Subperm (shownOptions options)) :
    Edited options kept store
        (finishOrder answers (Draft.placeAll answers ⟨options, [], store⟩ kept)) ↔
      OrderExact options kept answers store ∧ OffersShown options kept answers ∧
        BoxesWritten kept answers := by
  have order := finishOrder_listed_iff answers loaded shown
  obtain ⟨dialogs, -, -, option⟩ := finishOrder_facts answers store shown
  set draft := Draft.placeAll answers ⟨options, [], store⟩ kept with draftEq
  set outcome := finishOrder answers draft with outcomeEq
  change outcome.dialogs = dialogsOf answers (leftOut options kept) at dialogs
  have boxes : (∀ entry ∈ kept, ∃ attributes,
      outcome.store.option entry.1.optionNumber = some attributes ∧
        (LoadOption.mk entry.1.optionNumber attributes).isActive = entry.2) ↔
      BoxesWritten kept answers := by
    rw [← placeAll_checked_iff answers loaded shown]
    refine forall₂_congr fun entry member => ?_
    rw [option entry.1.optionNumber fun other isConfirmed same => ?_]
    have left := ((mem_confirmed answers).mp isConfirmed).1
    refine (mem_leftOut.mp left).2.2 (List.mem_append_left _ ?_)
    rw [same]
    exact List.mem_map_of_mem member
  constructor
  · intro edited
    refine ⟨order.mp ⟨edited.listed, edited.ordered⟩, fun swm entry left => ?_,
      boxes.mp edited.checked⟩
    have member := (mem_leftOut.mp left).1
    refine edited.offered entry member (answers.deleteMessageBox entry.2).2 ?_
    rw [dialogs]
    exact (mem_dialogsOf answers member _).mpr ⟨swm, left, rfl⟩
  · rintro ⟨orderExact, offers, written⟩
    have listed := order.mpr orderExact
    have offered : ∀ entry ∈ options.zipIdx, ∀ ok, (entry.2, ok) ∈ outcome.dialogs →
        entry.1.isShown = true := by
      intro entry member ok asked
      rw [dialogs] at asked
      obtain ⟨swm, left, -⟩ := (mem_dialogsOf answers member ok).mp asked
      exact offers swm entry left
    refine ⟨listed.1, listed.2, ?_, offered, ?_, boxes.mpr written⟩
    · intro number there gone
      by_contra unasked
      have spared : ∀ entry ∈ confirmed options kept answers,
          entry.1.optionNumber ≠ number := by
        intro entry isConfirmed same
        obtain ⟨left, swm, ok⟩ := (mem_confirmed answers).mp isConfirmed
        have member := (mem_leftOut.mp left).1
        refine unasked ⟨entry, member, same, ?_⟩
        rw [dialogs]
        exact (mem_dialogsOf answers member true).mpr ⟨swm, left, ok⟩
      have still : (draft.store.option number).isSome := placeAll_isSome answers kept there
      rw [← option number spared, gone] at still
      exact Bool.false_ne_true still
    · intro hidden member isHidden
      obtain ⟨index, inside, rfl⟩ := List.mem_iff_getElem.mp member
      have entry : (options[index], index) ∈ options.zipIdx :=
        List.mk_mem_zipIdx_iff_getElem?.mpr (List.getElem?_eq_getElem inside)
      have stays : (index, true) ∉ outcome.dialogs := fun asked =>
        absurd (offered _ entry true asked) (by simp [isHidden])
      have inOrder := listed.1.mem_iff.mpr (List.mem_map.mpr
        ⟨(options[index], index), List.mem_filter.mpr ⟨entry, decide_eq_true stays⟩, rfl⟩)
      exact (List.mem_filter.mp inOrder).1

/-- A request that is not taken changes nothing. -/
theorem edited_untouched_iff (loaded : Loaded store options)
    (shown : (kept.map Prod.fst).Subperm (shownOptions options)) {outcome : MenuOutcome}
    (untouched : outcome.store = store) (silent : outcome.dialogs = []) :
    Edited options kept store outcome ↔
      (chosen kept).Sublist store.bootOrder ∧ ∀ entry ∈ kept, entry.1.isActive = entry.2 := by
  have before : ∀ entry ∈ kept,
      store.option entry.1.optionNumber = some entry.1.attributes := fun entry member =>
    loaded.attributes _ (List.mem_of_mem_take (kept_mem_take shown member))
  constructor
  · intro edited
    refine ⟨untouched ▸ edited.ordered, fun entry member => ?_⟩
    obtain ⟨attributes, stored, active⟩ := edited.checked entry member
    rw [untouched, before entry member] at stored
    obtain rfl := Option.some.inj stored
    exact active
  · rintro ⟨ordered, active⟩
    have numbers : (options.zipIdx.filter fun entry => (entry.2, true) ∉ outcome.dialogs).map
        (fun entry => entry.1.optionNumber) = options.map LoadOption.optionNumber := by
      have all : ∀ entry ∈ options.zipIdx, decide ((entry.2, true) ∉ outcome.dialogs) = true := by
        simp [silent]
      have indexed := congrArg (List.map LoadOption.optionNumber) (List.zipIdx_map_fst 0 options)
      rw [List.filter_eq_self.mpr all]
      rwa [List.map_map] at indexed
    refine ⟨?_, untouched ▸ ordered, ?_, ?_, ?_, ?_⟩
    · rw [numbers, untouched, loaded.order]
    · intro number there gone
      rw [untouched] at gone
      simp [gone] at there
    · intro entry _ ok asked
      simp [silent] at asked
    · intro hidden member _
      have inOrder := List.mem_map_of_mem (f := LoadOption.optionNumber) member
      rw [loaded.order] at inOrder
      exact untouched ▸ (List.mem_filter.mp inOrder).1
    · intro entry member
      exact ⟨entry.1.attributes, untouched ▸ before entry member, active entry member⟩

end

theorem routeBootOrderConfig_accepted {flags : OrderedListFlags} {isDefault : LoadOption → Bool}
    {options : List LoadOption} {kept : List (LoadOption × Bool)} (store : BootVariables)
    (returned : Returned flags isDefault options kept orderOptions)
    (accepts : answers.accepts = true) :
    routeBootOrderConfig flags answers options orderOptions store =
      finishOrder answers (Draft.placeAll answers ⟨options, [], store⟩ kept) := by
  rw [MenuAnswers.accepts, Bool.and_eq_true, Bool.and_eq_true] at accepts
  obtain ⟨⟨unlocked, block⟩, allocated⟩ := accepts
  have filled : answers.configToBlock = none := Option.isNone_iff_eq_none.mp block
  have loop := takeOrder_entries answers returned.entries ⟨options, [], store⟩
  have free : answers.locked = false := by simpa using unlocked
  simp [routeBootOrderConfig, free, filled, allocated, loop]

theorem routeBootOrderConfig_refused (flags : OrderedListFlags) (options : List LoadOption)
    (orderOptions : Vector UInt32 maxBootOptionsSupported) (store : BootVariables)
    (refuses : answers.accepts = false) :
    (routeBootOrderConfig flags answers options orderOptions store).store = store ∧
      (routeBootOrderConfig flags answers options orderOptions store).dialogs = [] := by
  unfold routeBootOrderConfig
  cases locked : answers.locked with
  | true => exact ⟨rfl, rfl⟩
  | false =>
    cases block : answers.configToBlock with
    | some error => exact ⟨rfl, rfl⟩
    | none =>
      cases allocated : answers.allocated with
      | false => exact ⟨rfl, rfl⟩
      | true => simp [MenuAnswers.accepts, locked, block, allocated] at refuses

/-- When editing loses nothing. -/
def EditsExactly (options : List LoadOption) (kept : List (LoadOption × Bool))
    (answers : MenuAnswers) (store : BootVariables) : Prop :=
  if answers.accepts then
    OrderExact options kept answers store ∧ OffersShown options kept answers ∧
      BoxesWritten kept answers
  else (chosen kept).Sublist store.bootOrder ∧ ∀ entry ∈ kept, entry.1.isActive = entry.2

/-- Editing loses nothing where hidden options are not asked about, all deletions that are asked
about are confirmed if one is, and the writes that decide succeed. -/
theorem routeBootOrderConfig_edited_iff (flags : OrderedListFlags)
    (isDefault : LoadOption → Bool) (answers : MenuAnswers) {store : BootVariables}
    {options : List LoadOption} (loaded : Loaded store options)
    {kept : List (LoadOption × Bool)} {orderOptions : Vector UInt32 maxBootOptionsSupported}
    (returned : Returned flags isDefault options kept orderOptions) :
    Edited options kept store (routeBootOrderConfig flags answers options orderOptions store) ↔
      EditsExactly options kept answers store := by
  unfold EditsExactly
  cases accepts : answers.accepts with
  | true =>
    rw [routeBootOrderConfig_accepted store returned accepts, if_pos rfl]
    exact finishOrder_edited_iff answers loaded returned.shown
  | false =>
    obtain ⟨untouched, silent⟩ :=
      routeBootOrderConfig_refused flags options orderOptions store accepts
    rw [if_neg Bool.false_ne_true]
    exact edited_untouched_iff loaded returned.shown untouched silent

/-! ### A hidden option -/

/-- Flags in the upper byte. -/
def menuFlags : OrderedListFlags where
  checkbox := 0x01000000
  allowDelete := 0x02000000
  boot := 0x04000000
  checkbox_set := by decide
  checkbox_high := by decide
  allowDelete_high := by decide
  boot_high := by decide
  allowDelete_checkbox := by decide
  checkbox_boot := by decide
  allowDelete_boot := by decide

/-- All services succeed, and deletions are declined. -/
def declining : MenuAnswers where
  bootOrderLock := .ok 0
  configToBlock := none
  allocated := true
  swm := true
  bootMessageBox := (EfiStatus.success, false)
  deleteMessageBox := fun _ => (EfiStatus.success, false)
  setBootNext := EfiStatus.success
  setMsBootNext := EfiStatus.success
  writeOption := fun _ => true
  dropReference := fun _ => true
  deleteOption := fun _ => true
  setDeleted := fun _ => EfiStatus.notFound
  setBootOrder := EfiStatus.success

def twoOptions (attributes : UInt32) : List LoadOption := [⟨1, loadOptionActive⟩, ⟨2, attributes⟩]

def twoVariables (attributes : UInt32) : BootVariables where
  bootOrder := [1, 2]
  option := fun number =>
    if number = 1 then some loadOptionActive else if number = 2 then some attributes else none
  bootNext := none
  msBootNext := false

theorem twoVariables_loaded (attributes : UInt32) :
    Loaded (twoVariables attributes) (twoOptions attributes) where
  order := rfl
  attributes option member := by
    rcases List.mem_cons.mp member with rfl | rest
    · rfl
    · obtain rfl := List.mem_singleton.mp rest
      rfl

/-- The two options change places, and the second one is activated. -/
theorem routeBootOrderConfig_edited_iff_swapped :
    Edited (twoOptions 0) [(⟨2, 0⟩, true), (⟨1, loadOptionActive⟩, true)] (twoVariables 0)
        (routeBootOrderConfig menuFlags declining (twoOptions 0)
          #v[0x03000003, 0x03000002, 0, 0, 0, 0] (twoVariables 0)) ↔
      EditsExactly (twoOptions 0) [(⟨2, 0⟩, true), (⟨1, loadOptionActive⟩, true)] declining
        (twoVariables 0) := by
  apply routeBootOrderConfig_edited_iff menuFlags fun _ => false
  · exact twoVariables_loaded 0
  · exact ⟨(List.Perm.swap ..).subperm, rfl⟩

/-- A form that is left as it is asks whether to delete the hidden option. -/
theorem hidden_option_offered :
    let options := twoOptions (loadOptionActive ||| loadOptionHidden)
    let store := twoVariables (loadOptionActive ||| loadOptionHidden)
    let kept := [((⟨1, loadOptionActive⟩ : LoadOption), true)]
    let orderOptions := #v[0x03000002, 0, 0, 0, 0, 0]
    Loaded store options ∧ Returned menuFlags (fun _ => false) options kept orderOptions ∧
      ¬ Edited options kept store
        (routeBootOrderConfig menuFlags declining options orderOptions store) := by
  refine ⟨twoVariables_loaded _, rebuildOrderList_returned _ _ _ rfl, fun edited => ?_⟩
  have hidden := edited.offered (⟨2, loadOptionActive ||| loadOptionHidden⟩, 1) (by decide) false
    (by decide)
  exact absurd hidden (by decide)

end MuRockchip.Boot
