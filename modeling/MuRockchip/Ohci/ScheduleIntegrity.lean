/-
The interrupt schedule over insertions and cancellations (`OhciUrb.c`).

`OhciInitializeInterruptList` builds the tree: a descriptor for each slot of the HCCA, and
five levels of descriptors that two lists of the level below run into each. A submission
inserts behind the least list of a level, and a cancellation takes out what was inserted for
an endpoint.

* `initialize_tree`: what is built is a tree with nothing inserted.
* `schedule_intact`: what insertions and cancellations do to the lists of the slots, over runs.
-/
import MuRockchip.Base.Run
import MuRockchip.Ohci.IntervalTree

namespace MuRockchip.Ohci

open MuRockchip.Base

/-! ### Building the tree -/

def leaf : List Nat :=
  [0, 16, 8, 24, 4, 20, 12, 28, 2, 18, 10, 26, 6, 22, 14, 30, 1, 17,
    9, 25, 5, 21, 13, 29, 3, 19, 11, 27, 7, 23, 15, 31]

/-- The first loop of `OhciInitializeInterruptList`: a descriptor for each slot. -/
def createLeaves (answers : Nat → Option UInt32) : List Nat → UsbOhciHcDev →
    EfiStatus × UsbOhciHcDev
  | [], dev => (EfiStatus.success, dev)
  | index :: rest, dev =>
    match ohciCreateEd dev.mem (answers index) with
    | none => (EfiStatus.outOfResources, dev)
    | some (newEd, mem) =>
      createLeaves answers rest { dev with
        mem := mem
        hccaInterruptTable := Function.update dev.hccaInterruptTable index newEd }

/-- `Ohc->IntervalList[Level][Index]` is set. -/
def setIntervalList (dev : UsbOhciHcDev) (level index : Nat) (ed : UInt32) : UsbOhciHcDev :=
  let lists := Function.update (dev.intervalList level) index ed
  { dev with intervalList := Function.update dev.intervalList level lists }

section

variable {dev : UsbOhciHcDev} {level index l i : Nat} {ed : UInt32}

@[simp] theorem setIntervalList_mem : (setIntervalList dev level index ed).mem = dev.mem := rfl

@[simp] theorem setIntervalList_hccaInterruptTable :
    (setIntervalList dev level index ed).hccaInterruptTable = dev.hccaInterruptTable := rfl

@[simp] theorem setIntervalList_same :
    (setIntervalList dev level index ed).intervalList level index = ed := by
  simp [setIntervalList]

theorem setIntervalList_ne (differ : ¬ (l = level ∧ i = index)) :
    (setIntervalList dev level index ed).intervalList l i = dev.intervalList l i := by
  by_cases same : l = level
  · subst same
    have other : i ≠ index := fun equal => differ ⟨rfl, equal⟩
    simp [setIntervalList, Function.update_of_ne other]
  · simp [setIntervalList, Function.update_of_ne same]

end

/-- The loop over one level: two lists of the level below run into each new descriptor. -/
def linkLevel (answers : Nat → Option UInt32) (level : Nat) : List Nat → UsbOhciHcDev →
    EfiStatus × UsbOhciHcDev
  | [], dev => (EfiStatus.success, dev)
  | index :: rest, dev =>
    let (newEd, mem) := (ohciCreateEd dev.mem (answers index)).getD (0, dev.mem)
    let dev := setIntervalList { dev with mem := mem } level index newEd
    -- the slot is looked at, not the new descriptor
    if dev.hccaInterruptTable index = 0 then (EfiStatus.outOfResources, dev)
    else
      let mem := setNextEd dev.mem (dev.intervalList (level - 1) (index * 2)) newEd
      let mem := setNextEd mem (dev.intervalList (level - 1) (index * 2 + 1)) newEd
      linkLevel answers level rest { dev with mem := mem }

/-- The loop over the levels. -/
def linkLevels (answers : Nat → Nat → Option UInt32) : List Nat → UsbOhciHcDev →
    EfiStatus × UsbOhciHcDev
  | [], dev => (EfiStatus.success, dev)
  | level :: rest, dev =>
    let (status, dev) := linkLevel (answers level) level (List.range (32 >>> level)) dev
    if status.isError then (status, dev) else linkLevels answers rest dev

/-- `OhciInitializeInterruptList`. `answers` is what the pool answers, level by level. -/
def ohciInitializeInterruptList (answers : Nat → Nat → Option UInt32) (dev : UsbOhciHcDev) :
    EfiStatus × UsbOhciHcDev :=
  let (status, dev) := createLeaves (answers 0) (List.range 32) dev
  if status.isError then (status, dev)
  else
    let lists := fun index => dev.hccaInterruptTable (leaf.getD index 0)
    linkLevels answers [1, 2, 3, 4, 5]
      { dev with intervalList := Function.update dev.intervalList 0 lists }

/-- The pool gives every descriptor of the tree: each is available, and no two are the same. -/
structure Granted (live : UInt32 → Bool) (created : Nat → Nat → UInt32) : Prop where
  available : ∀ level ≤ 5, ∀ index < 32 >>> level, Available live (created level index)
  distinct : ∀ level ≤ 5, ∀ index < 32 >>> level, ∀ level' ≤ 5, ∀ index' < 32 >>> level',
    created level index = created level' index' → level = level' ∧ index = index'

/-- The descriptors in the order of the lists. -/
def listed (created : Nat → Nat → UInt32) (level index : Nat) : UInt32 :=
  if level = 0 then created 0 (leaf.getD index 0) else created level index

theorem leaf_lt : ∀ index < 32, leaf.getD index 0 < 32 := by decide

theorem leaf_leaf : ∀ index < 32, leaf.getD (leaf.getD index 0) 0 = index := by decide

variable {live : UInt32 → Bool} {dev : UsbOhciHcDev} {index level : Nat}
  {nodes : Nat → Nat → UInt32}

theorem Granted.listed {created : Nat → Nat → UInt32}
    (granted : Granted live created) : Granted live (listed created) where
  available level small index inside := by
    unfold Ohci.listed
    split
    · next zero =>
      subst zero
      exact granted.available 0 small _ (leaf_lt index inside)
    · exact granted.available level small index inside
  distinct level small index inside level' small' index' inside' same := by
    unfold Ohci.listed at same
    split at same
    · next zero =>
      subst zero
      split at same
      · next zero' =>
        subst zero'
        obtain ⟨-, equal⟩ := granted.distinct 0 small _ (leaf_lt index inside) 0 small'
          _ (leaf_lt index' inside') same
        refine ⟨rfl, ?_⟩
        rw [← leaf_leaf index inside, equal, leaf_leaf index' inside']
      · next other =>
        exact absurd (granted.distinct 0 small _ (leaf_lt index inside) level' small' index'
          inside' same).1.symm other
    · next other =>
      split at same
      · next zero' =>
        subst zero'
        exact absurd (granted.distinct level small index inside 0 small' _
          (leaf_lt index' inside') same).1 other
      · exact granted.distinct level small index inside level' small' index' inside' same

/-- A descriptor as `OhciCreateED` leaves it. -/
def EdDescriptor.created : EdDescriptor := { EdDescriptor.empty with skip := 1 }

theorem createLeaves_spec (created : Nat → UInt32) {slots : List Nat} (once : slots.Nodup)
    (dev : UsbOhciHcDev) (available : ∀ slot ∈ slots, Available dev.mem.live (created slot))
    (distinct : ∀ slot ∈ slots, ∀ slot' ∈ slots, created slot = created slot' → slot = slot') :
    ∃ after, createLeaves (fun slot => some (created slot)) slots dev =
        (EfiStatus.success, after) ∧
      after.intervalList = dev.intervalList ∧
      (∀ slot ∈ slots, after.hccaInterruptTable slot = created slot ∧
        after.mem.live (created slot) = true ∧
        after.mem.ed (created slot) = EdDescriptor.created) ∧
      (∀ slot, slot ∉ slots → after.hccaInterruptTable slot = dev.hccaInterruptTable slot) ∧
      ∀ ed, (∀ slot ∈ slots, ed ≠ created slot) →
        after.mem.live ed = dev.mem.live ed ∧ after.mem.ed ed = dev.mem.ed ed := by
  induction slots generalizing dev with
  | nil => exact ⟨dev, rfl, rfl, by simp, fun _ _ => rfl, fun _ _ => ⟨rfl, rfl⟩⟩
  | cons slot rest ih =>
    obtain ⟨notAgain, once⟩ := List.nodup_cons.mp once
    have good := available slot List.mem_cons_self
    set mem := (dev.mem.setEd (created slot) EdDescriptor.created).setLive (created slot) true
    have apart : ∀ slot' ∈ rest, created slot' ≠ created slot := by
      intro slot' member same
      have equal := distinct slot' (List.mem_cons_of_mem _ member) slot List.mem_cons_self same
      exact notAgain (equal ▸ member)
    obtain ⟨after, result, lists, news, table, others⟩ := ih once
      { dev with
        mem := mem
        hccaInterruptTable := Function.update dev.hccaInterruptTable slot (created slot) }
      (by
        intro slot' member
        obtain ⟨nonzero, aligned, unused⟩ := available slot' (List.mem_cons_of_mem _ member)
        refine ⟨nonzero, aligned, ?_⟩
        exact (Descriptors.setLive_live_ne (apart slot' member)).trans unused)
      (fun left onLeft right onRight => distinct left (List.mem_cons_of_mem _ onLeft) right
        (List.mem_cons_of_mem _ onRight))
    have here := others (created slot) fun slot' member => (apart slot' member).symm
    refine ⟨after, ?_, lists, ?_, ?_, ?_⟩
    · rw [createLeaves, ohciCreateEd]
      simp only [if_pos good]
      exact result
    · intro slot' member
      rcases List.mem_cons.mp member with rfl | later
      · rw [table slot' notAgain, here.1, here.2]
        refine ⟨Function.update_self _ _ _, Descriptors.setLive_live_same, ?_⟩
        exact Descriptors.setEd_ed_same
      · exact news slot' later
    · intro slot' outside
      rw [List.mem_cons, not_or] at outside
      rw [table slot' outside.2]
      exact Function.update_of_ne outside.1 _ _
    · intro ed outside
      have differs := outside slot List.mem_cons_self
      obtain ⟨live, content⟩ :=
        others ed fun slot' member => outside slot' (List.mem_cons_of_mem _ member)
      rw [live, content]
      exact ⟨Descriptors.setLive_live_ne differs, Descriptors.setEd_ed_ne differs⟩

/-! ### The levels -/

/-- The order in which the descriptors are created. -/
def Before (level index level' index' : Nat) : Prop :=
  level < level' ∨ level = level' ∧ index < index'

instance (level index level' index' : Nat) : Decidable (Before level index level' index') :=
  inferInstanceAs (Decidable (_ ∨ _))

/-- The tree when the descriptors before one have been created and linked. -/
structure Grown (nodes : Nat → Nat → UInt32) (level index : Nat) (dev : UsbOhciHcDev) : Prop where
  slots : ∀ slot < 32, dev.hccaInterruptTable slot = nodes 0 (leaf.getD slot 0)
  lists : ∀ l ≤ 5, ∀ i < 32 >>> l, Before l i level index → dev.intervalList l i = nodes l i
  live : ∀ l ≤ 5, ∀ i < 32 >>> l, Before l i level index → dev.mem.live (nodes l i) = true
  contents : ∀ l ≤ 5, ∀ i < 32 >>> l, Before l i level index →
    dev.mem.ed (nodes l i) = { EdDescriptor.created with
      nextEd := if l < 5 ∧ Before (l + 1) (i / 2) level index then nodes (l + 1) (i / 2) else 0 }
  unused : ∀ l ≤ 5, ∀ i < 32 >>> l, ¬ Before l i level index →
    Available dev.mem.live (nodes l i)

theorem linkLevel_cons {answers : Nat → Option UInt32} {new : UInt32} {mem : Descriptors}
    (rest : List Nat) (given : ohciCreateEd dev.mem (answers index) = some (new, mem))
    (slot : dev.hccaInterruptTable index ≠ 0) :
    linkLevel answers (level + 1) (index :: rest) dev =
      linkLevel answers (level + 1) rest
        { setIntervalList { dev with mem := mem } (level + 1) index new with
          mem := setNextEd (setNextEd mem (dev.intervalList level (index * 2)) new)
            (dev.intervalList level (index * 2 + 1)) new } := by
  rw [linkLevel]
  simp only [given, Option.getD_some, setIntervalList_hccaInterruptTable, if_neg slot,
    setIntervalList_mem, Nat.add_sub_cancel]
  rw [setIntervalList_ne (by omega), setIntervalList_ne (by omega)]

theorem linkLevel_step (granted : Granted live nodes) (small : level < 5)
    (inside : index < 32 >>> (level + 1)) (grown : Grown nodes (level + 1) index dev)
    (rest : List Nat) :
    ∃ after, linkLevel (fun index => some (nodes (level + 1) index)) (level + 1)
        (index :: rest) dev =
        linkLevel (fun index => some (nodes (level + 1) index)) (level + 1) rest after ∧
      Grown nodes (level + 1) (index + 1) after := by
  have half : 32 >>> (level + 1) = (32 >>> level) / 2 := Nat.shiftRight_succ 32 level
  have inside0 : index * 2 < 32 >>> level := by omega
  have inside1 : index * 2 + 1 < 32 >>> level := by omega
  set new := nodes (level + 1) index with newEq
  have available : Available dev.mem.live new :=
    grown.unused (level + 1) small index inside (by unfold Before; omega)
  have apart : ∀ l ≤ 5, ∀ i < 32 >>> l, ∀ l' ≤ 5, ∀ i' < 32 >>> l', ¬ (l = l' ∧ i = i') →
      nodes l i ≠ nodes l' i' :=
    fun l small i inside l' small' i' inside' differ same =>
      differ (granted.distinct l small i inside l' small' i' inside' same)
  have first := grown.lists level small.le _ inside0 (by unfold Before; omega)
  have second := grown.lists level small.le _ inside1 (by unfold Before; omega)
  set created := (dev.mem.setEd new EdDescriptor.created).setLive new true with createdEq
  set left := setNextEd created (nodes level (index * 2)) new with leftEq
  set right := setNextEd left (nodes level (index * 2 + 1)) new with rightEq
  have slot : dev.hccaInterruptTable index ≠ 0 := by
    have within : index < 32 := by
      have bound := Nat.shiftRight_le 32 (level + 1)
      omega
    rw [grown.slots index within]
    exact (granted.available 0 (Nat.zero_le 5) _ (leaf_lt index within)).1
  -- what the two links leave
  have edNew : right.ed new = EdDescriptor.created := by
    rw [rightEq, setNextEd, Descriptors.setEd_ed_ne (apart _ small _ inside _ small.le _ inside1
        (by omega)), leftEq, setNextEd, Descriptors.setEd_ed_ne (apart _ small _ inside _ small.le
        _ inside0 (by omega)), createdEq, Descriptors.setLive_ed, Descriptors.setEd_ed_same]
  have edChild : ∀ i, i / 2 = index → i < 32 >>> level →
      right.ed (nodes level i) = { dev.mem.ed (nodes level i) with nextEd := new } := by
    intro i parent within
    have notNew : nodes level i ≠ new := apart _ small.le _ within _ small _ inside (by omega)
    have old : created.ed (nodes level i) = dev.mem.ed (nodes level i) := by
      rw [createdEq, Descriptors.setLive_ed, Descriptors.setEd_ed_ne notNew]
    rcases Nat.mod_two_eq_zero_or_one i with even | odd
    · obtain rfl : i = index * 2 := by omega
      rw [rightEq, setNextEd, Descriptors.setEd_ed_ne (apart _ small.le _ inside0 _ small.le _
        inside1 (by omega)), leftEq, setNextEd, Descriptors.setEd_ed_same, old]
    · obtain rfl : i = index * 2 + 1 := by omega
      rw [rightEq, setNextEd, Descriptors.setEd_ed_same, leftEq, setNextEd,
        Descriptors.setEd_ed_ne (apart _ small.le _ inside1 _ small.le _ inside0 (by omega)), old]
  have edOther : ∀ l ≤ 5, ∀ i < 32 >>> l, ¬ (l = level + 1 ∧ i = index) →
      ¬ (l = level ∧ i / 2 = index) → right.ed (nodes l i) = dev.mem.ed (nodes l i) := by
    intro l fits i within notNew notChild
    rw [rightEq, setNextEd, Descriptors.setEd_ed_ne (apart _ fits _ within _ small.le _ inside1
        (by omega)), leftEq, setNextEd, Descriptors.setEd_ed_ne (apart _ fits _ within _ small.le
        _ inside0 (by omega)), createdEq, Descriptors.setLive_ed,
      Descriptors.setEd_ed_ne (apart _ fits _ within _ small _ inside notNew)]
  have lives : right.live = Function.update dev.mem.live new true := rfl
  have given : ohciCreateEd dev.mem (some new) = some (new, created) := if_pos available
  refine ⟨{ setIntervalList { dev with mem := created } (level + 1) index new with
    mem := right }, ?_, ?_⟩
  · rw [linkLevel_cons rest given slot, first, second]
  · constructor
    · exact grown.slots
    · intro l fits i within before
      by_cases isNew : l = level + 1 ∧ i = index
      · obtain ⟨rfl, rfl⟩ := isNew
        exact setIntervalList_same
      · rw [← grown.lists l fits i within (by unfold Before at *; omega)]
        exact setIntervalList_ne isNew
    · intro l fits i within before
      show right.live _ = true
      rw [lives]
      by_cases isNew : l = level + 1 ∧ i = index
      · obtain ⟨rfl, rfl⟩ := isNew
        exact Function.update_self _ _ _
      · rw [Function.update_of_ne (apart _ fits _ within _ small _ inside isNew)]
        exact grown.live l fits i within (by unfold Before at *; omega)
    · intro l fits i within before
      show right.ed _ = _
      by_cases isNew : l = level + 1 ∧ i = index
      · obtain ⟨rfl, rfl⟩ := isNew
        rw [edNew, if_neg (by unfold Before; omega)]
        rfl
      · have old := grown.contents l fits i within (by unfold Before at *; omega)
        by_cases child : l = level ∧ i / 2 = index
        · obtain ⟨rfl, parent⟩ := child
          have linked : l < 5 ∧ Before (l + 1) (i / 2) (l + 1) (index + 1) :=
            ⟨small, Or.inr ⟨rfl, by omega⟩⟩
          rw [edChild i parent within, old, if_pos linked, parent]
        · rw [edOther l fits i within isNew child, old]
          have same : (l < 5 ∧ Before (l + 1) (i / 2) (level + 1) (index + 1)) ↔
              (l < 5 ∧ Before (l + 1) (i / 2) (level + 1) index) := by
            unfold Before
            omega
          simp only [same]
    · intro l fits i within later
      obtain ⟨nonzero, aligned, free⟩ :=
        grown.unused l fits i within (by unfold Before at *; omega)
      refine ⟨nonzero, aligned, ?_⟩
      show right.live _ = false
      rw [lives, Function.update_of_ne (apart _ fits _ within _ small _ inside
        (by unfold Before at later; omega))]
      exact free

theorem linkLevel_grown (granted : Granted live nodes) (small : level < 5) (count : Nat)
    (all : index + count = 32 >>> (level + 1)) (grown : Grown nodes (level + 1) index dev) :
    ∃ after, linkLevel (fun index => some (nodes (level + 1) index)) (level + 1)
        (List.range' index count) dev = (EfiStatus.success, after) ∧
      Grown nodes (level + 1) (32 >>> (level + 1)) after := by
  induction count generalizing index dev with
  | zero =>
    obtain rfl : index = 32 >>> (level + 1) := by omega
    exact ⟨dev, rfl, grown⟩
  | succ count ih =>
    obtain ⟨middle, step, grown'⟩ :=
      linkLevel_step granted small (by omega) grown (List.range' (index + 1) count)
    obtain ⟨after, result, whole⟩ := ih (by omega) grown'
    exact ⟨after, by rw [List.range'_succ, step, result], whole⟩

theorem parent_lt (upper : level < 5) (inside : index < 32 >>> level) :
    index / 2 < 32 >>> (level + 1) := by
  interval_cases level <;> omega

theorem Grown.next
    (grown : Grown nodes level (32 >>> level) dev) : Grown nodes (level + 1) 0 dev := by
  have same : ∀ l i, i < 32 >>> l →
      (Before l i (level + 1) 0 ↔ Before l i level (32 >>> level)) := by
    intro l i inside
    by_cases equal : l = level
    · subst equal
      unfold Before
      omega
    · unfold Before
      omega
  constructor
  · exact grown.slots
  · exact fun l fits i inside before => grown.lists l fits i inside ((same l i inside).mp before)
  · exact fun l fits i inside before => grown.live l fits i inside ((same l i inside).mp before)
  · intro l fits i inside before
    rw [grown.contents l fits i inside ((same l i inside).mp before)]
    by_cases upper : l < 5
    · simp only [same (l + 1) (i / 2) (parent_lt upper inside)]
    · simp only [upper, false_and]
  · exact fun l fits i inside later =>
      grown.unused l fits i inside fun before => later ((same l i inside).mpr before)

theorem linkLevels_grown (granted : Granted live nodes) (answers : Nat → Nat → Option UInt32)
    (given : ∀ level ≠ 0, answers level = fun index => some (nodes level index)) (count level : Nat)
    (all : level + count = 5) (grown : Grown nodes (level + 1) 0 dev) :
    ∃ after, linkLevels answers (List.range' (level + 1) count) dev =
        (EfiStatus.success, after) ∧ Grown nodes 6 0 after := by
  induction count generalizing level dev with
  | zero =>
    obtain rfl : level = 5 := by omega
    exact ⟨dev, rfl, grown⟩
  | succ count ih =>
    obtain ⟨middle, linked, whole⟩ :=
      linkLevel_grown granted (by omega) (32 >>> (level + 1)) (Nat.zero_add _) grown
    obtain ⟨after, result, complete⟩ := ih (level + 1) (by omega) whole.next
    refine ⟨after, ?_, complete⟩
    rw [List.range'_succ, linkLevels, List.range_eq_range', given (level + 1) (by omega)]
    simp only [linked]
    exact result

theorem initialize_eq {answers : Nat → Nat → Option UInt32} {middle : UsbOhciHcDev}
    (leaves : createLeaves (answers 0) (List.range 32) dev = (EfiStatus.success, middle)) :
    ohciInitializeInterruptList answers dev =
      let lists := fun index => middle.hccaInterruptTable (leaf.getD index 0)
      linkLevels answers (List.range' 1 5)
        { middle with intervalList := Function.update middle.intervalList 0 lists } := by
  have good : ¬ EfiStatus.success.isError = true := by decide
  rw [ohciInitializeInterruptList, leaves]
  exact if_neg good

/-- `OhciInitializeInterruptList` succeeds if the pool gives every descriptor. -/
theorem initialize_grown {created : Nat → Nat → UInt32} (granted : Granted dev.mem.live created) :
    ∃ after, ohciInitializeInterruptList (fun level index => some (created level index)) dev =
        (EfiStatus.success, after) ∧ Grown (listed created) 6 0 after := by
  obtain ⟨middle, leaves, -, news, -, others⟩ :=
    createLeaves_spec (created 0) (@List.nodup_range 32) dev
      (fun slot member => granted.available 0 (Nat.zero_le 5) slot (List.mem_range.mp member))
      (fun left onLeft right onRight same => (granted.distinct 0 (Nat.zero_le 5) left
        (List.mem_range.mp onLeft) 0 (Nat.zero_le 5) right (List.mem_range.mp onRight) same).2)
  set lists := fun index => middle.hccaInterruptTable (leaf.getD index 0) with listsEq
  have leafNews : ∀ i < 32, middle.hccaInterruptTable (leaf.getD i 0) = listed created 0 i ∧
      middle.mem.live (listed created 0 i) = true ∧
      middle.mem.ed (listed created 0 i) = EdDescriptor.created :=
    fun i inside => news _ (List.mem_range.mpr (leaf_lt i inside))
  have first : Grown (listed created) 1 0
      { middle with intervalList := Function.update middle.intervalList 0 lists } := by
    constructor
    · intro slot inside
      rw [← (leafNews _ (leaf_lt slot inside)).1, leaf_leaf slot inside]
    · intro l fits i inside before
      obtain rfl : l = 0 := by unfold Before at before; omega
      have atZero : Function.update middle.intervalList 0 lists 0 = lists :=
        Function.update_self 0 lists middle.intervalList
      refine (congrFun atZero i).trans ?_
      exact (leafNews i inside).1
    · intro l fits i inside before
      obtain rfl : l = 0 := by unfold Before at before; omega
      exact (leafNews i inside).2.1
    · intro l fits i inside before
      obtain rfl : l = 0 := by unfold Before at before; omega
      rw [if_neg (by unfold Before; omega)]
      exact (leafNews i inside).2.2
    · intro l fits i inside later
      have higher : l ≠ 0 := by unfold Before at later; omega
      obtain ⟨nonzero, aligned, unused⟩ := granted.listed.available l fits i inside
      refine ⟨nonzero, aligned, ?_⟩
      refine (others _ fun slot member same => higher ?_).1.trans unused
      rw [listed, if_neg higher] at same
      exact (granted.distinct l fits i inside 0 (Nat.zero_le 5) slot (List.mem_range.mp member)
        same).1
  have given : ∀ level ≠ 0, (fun index => some (created level index)) =
      fun index => some (listed created level index) := by
    intro level higher
    funext index
    rw [listed, if_neg higher]
  obtain ⟨after, linked, whole⟩ := linkLevels_grown granted.listed
    (fun level index => some (created level index)) given 5 0 rfl first
  exact ⟨after, (initialize_eq leaves).trans linked, whole⟩

/-! ### The tree -/

/-- The descriptors from one of the tree to the root. -/
def pathUp (nodes : Nat → Nat → UInt32) : Nat → Nat → Nat → List UInt32
  | 0, _, _ => []
  | count + 1, level, index => nodes level index :: pathUp nodes count (level + 1) (index / 2)

theorem mem_pathUp (nodes : Nat → Nat → UInt32) (count up : Nat) (inside : up < count)
    (level index : Nat) : nodes (level + up) (index / 2 ^ up) ∈ pathUp nodes count level index := by
  induction up generalizing count level index with
  | zero =>
    obtain ⟨count, rfl⟩ := Nat.exists_eq_succ_of_ne_zero (Nat.ne_of_gt inside)
    rw [pathUp, Nat.add_zero, Nat.pow_zero, Nat.div_one]
    exact List.mem_cons_self
  | succ up ih =>
    obtain ⟨count, rfl⟩ := Nat.exists_eq_succ_of_ne_zero (Nat.ne_of_gt (Nat.zero_lt_of_lt inside))
    have above := ih count (Nat.lt_of_succ_lt_succ inside) (level + 1) (index / 2)
    rw [Nat.div_div_eq_div_mul, ← Nat.pow_succ', Nat.add_assoc, Nat.add_comm 1 up] at above
    exact List.mem_cons_of_mem _ above

theorem of_mem_pathUp {count : Nat} {ed : UInt32} (all : level + count = 6)
    (inside : count ≠ 0 → index < 32 >>> level) (member : ed ∈ pathUp nodes count level index) :
    ∃ l ≤ 5, ∃ i < 32 >>> l, ed = nodes l i := by
  induction count generalizing level index with
  | zero => cases member
  | succ count ih =>
    have here := inside (Nat.succ_ne_zero count)
    rcases List.mem_cons.mp member with rfl | above
    · exact ⟨level, by omega, index, here, rfl⟩
    · exact ih (by omega) (fun more => parent_lt (by omega) here) above

section

variable {nodes : Nat → Nat → UInt32} {live : UInt32 → Bool} {dev : UsbOhciHcDev}

theorem Grown.segment (granted : Granted live nodes) (grown : Grown nodes 6 0 dev) (count level
    index : Nat) (all : level + count = 6) (inside : count ≠ 0 → index < 32 >>> level) :
    Segment (nextEd dev.mem) (if count = 0 then 0 else nodes level index)
      (pathUp nodes count level index) 0 := by
  induction count generalizing level index with
  | zero => rfl
  | succ count ih =>
    have here := inside (Nat.succ_ne_zero count)
    have nonzero := (granted.available level (by omega) index here).1
    rw [if_neg (Nat.succ_ne_zero count)]
    refine ⟨rfl, nonzero, ?_⟩
    have above := ih _ _ (by omega) (fun more => parent_lt (by omega) here)
    have contents := grown.contents level (by omega) index here (Or.inl (by omega))
    have next : nextEd dev.mem (nodes level index) =
        if count = 0 then 0 else nodes (level + 1) (index / 2) := by
      rw [nextEd, contents]
      by_cases last : count = 0
      · have top : ¬ (level < 5 ∧ Before (level + 1) (index / 2) 6 0) := by omega
        simp only [if_neg top, if_pos last]
      · have more : level < 5 ∧ Before (level + 1) (index / 2) 6 0 :=
          ⟨by omega, Or.inl (by omega)⟩
        simp only [if_pos more, if_neg last]
    rw [next]
    exact above

theorem Grown.tree (granted : Granted live nodes) (grown : Grown nodes 6 0 dev) :
    IntervalTree ⟨dev, fun _ => none⟩ fun slot => pathUp nodes 6 0 (leaf.getD slot 0) := by
  have place : ∀ ed, Visited (fun slot => pathUp nodes 6 0 (leaf.getD slot 0)) ed →
      ∃ l ≤ 5, ∃ i < 32 >>> l, ed = nodes l i := by
    rintro ed ⟨slot, inside, member⟩
    exact of_mem_pathUp rfl (fun _ => leaf_lt slot inside) member
  have contents : ∀ ed, Visited (fun slot => pathUp nodes 6 0 (leaf.getD slot 0)) ed →
      (dev.mem.ed ed).Like EdDescriptor.created := by
    intro ed visited
    obtain ⟨l, small, i, inside, rfl⟩ := place ed visited
    rw [grown.contents l small i inside (Or.inl (by omega))]
    exact ⟨rfl, rfl, rfl⟩
  constructor
  · intro slot inside
    have list := grown.segment granted 6 0 _ rfl fun _ => leaf_lt slot inside
    rw [if_neg (by decide)] at list
    show Segment _ (dev.hccaInterruptTable slot) _ _
    rw [grown.slots slot inside]
    exact list
  · intro ed visited
    obtain ⟨l, small, i, inside, rfl⟩ := place ed visited
    exact grown.live l small i inside (Or.inl (by omega))
  · intro ed visited
    obtain ⟨l, small, i, inside, rfl⟩ := place ed visited
    exact (granted.available l small i inside).2.1
  · intro depth small index inside
    show Visited _ (dev.intervalList depth index) ∧ none = none
    rw [grown.lists depth small index inside (Or.inl (by omega))]
    refine ⟨⟨leaf.getD (index * 2 ^ depth) 0, leaf_lt _ ?_, ?_⟩, rfl⟩
    · interval_cases depth <;> omega
    · have inSlots : index * 2 ^ depth < 32 := by interval_cases depth <;> omega
      have member := mem_pathUp nodes 6 depth (by omega) 0 (index * 2 ^ depth)
      rw [Nat.zero_add, Nat.mul_div_cancel _ (Nat.two_pow_pos depth)] at member
      show _ ∈ pathUp nodes 6 0 (leaf.getD (leaf.getD _ 0) 0)
      rw [leaf_leaf _ inSlots]
      exact member
  · intro slot inside
    show dev.hccaInterruptTable slot ≠ 0 ∧ none = none
    rw [grown.slots slot inside]
    exact ⟨(granted.available 0 (Nat.zero_le 5) _ (leaf_lt slot inside)).1, rfl⟩
  · intro ed visited _
    exact ⟨(contents ed visited).address, (contents ed visited).endPoint⟩
  · exact fun ed visited => (contents ed visited).direction
  · intro ed address endPoint visited carries
    cases carries
  · intro ed visited carries
    exact absurd rfl carries

end

/-! ### Insertions and cancellations -/

/-- What is asked of the schedule: a submission inserts, with what the pool answers, and a
cancellation takes out. -/
inductive ScheduleRequest
  | insert (call : InterruptCall) (answer : Option UInt32)
  | cancel (deviceAddress endPointAddress : UInt8)

namespace Schedule

/-- The schedule `OhciInitializeInterruptList` leaves, if the pool gives every descriptor. -/
def initial (dev : UsbOhciHcDev) (created : Nat → Nat → UInt32) : Schedule :=
  ⟨(ohciInitializeInterruptList (fun level index => some (created level index)) dev).2,
    fun _ => none⟩

/-- The ED stage of `OhciInterruptTransfer`. -/
def insert (schedule : Schedule) (call : InterruptCall) (answer : Option UInt32) : Schedule :=
  let headEd := ohciFindMinInterruptEdList schedule.dev (intervalDepth call.pollingInterval 5 1)
  match interruptEd call answer headEd schedule.dev.mem with
  | none => schedule
  | some (ed, mem) =>
    ⟨{ schedule.dev with mem := mem }, Function.update schedule.owner ed
      (some (call.deviceAddress, call.endPointAddress &&& 0xF))⟩

/-- `OhciFreeInterruptEdByAddr`, as a cancellation calls it. -/
def cancel (schedule : Schedule) (deviceAddress endPointAddress : UInt8) : Schedule :=
  let endPointNum := endPointAddress &&& 0xF
  ⟨(ohciFreeInterruptEdByAddr schedule.dev deviceAddress endPointNum).2, fun ed =>
    if schedule.owner ed = some (deviceAddress, endPointNum) then none else schedule.owner ed⟩

def step (schedule : Schedule) : ScheduleRequest → Schedule
  | .insert call answer => schedule.insert call answer
  | .cancel deviceAddress endPointAddress => schedule.cancel deviceAddress endPointAddress

/-- The lists of all slots end, and every descriptor that was inserted and not cancelled is
on one of them. -/
structure Intact (schedule : Schedule) : Prop where
  ends : ∀ slot < 32, Segment (nextEd schedule.dev.mem) (schedule.dev.hccaInterruptTable slot)
    (schedule.walk slot) 0
  reached : ∀ ed, schedule.owner ed ≠ none → Visited schedule.walk ed

/-- An insertion adds one descriptor to the lists, behind another, or fails. A cancellation
frees the descriptors that were inserted for the endpoint, each once and no others, takes
them off all lists and leaves the others on the lists they are on. -/
def Keeps (schedule : Schedule) : ScheduleRequest → Prop
  | .insert call answer =>
    schedule.insert call answer = schedule ∨
      ∃ head new, Visited schedule.walk head ∧ ¬ Visited schedule.walk new ∧
        (schedule.insert call answer).owner new =
          some (call.deviceAddress, call.endPointAddress &&& 0xF) ∧
        ∀ slot < 32, (schedule.insert call answer).walk slot =
          insertAfter head new (schedule.walk slot)
  | .cancel deviceAddress endPointAddress =>
    let endPointNum := endPointAddress &&& 0xF
    let after := schedule.cancel deviceAddress endPointAddress
    let freed := freedEds schedule.dev deviceAddress endPointNum (List.range 32) schedule.dev.mem
    freed.Nodup ∧
      (∀ ed, ed ∈ freed ↔ schedule.owner ed = some (deviceAddress, endPointNum)) ∧
      (∀ depth ≤ 5, ∀ index < 32 >>> depth, schedule.dev.intervalList depth index ∉ freed) ∧
      (∀ ed ∈ freed, schedule.dev.mem.live ed = true) ∧
      (∀ ed, after.dev.mem.live ed = (schedule.dev.mem.live ed && !decide (ed ∈ freed))) ∧
      ∀ slot < 32, after.walk slot = (schedule.walk slot).filter fun ed => ed ∉ freed

/-- A cancellation is not for endpoint zero of device zero, and no descriptor was inserted
for an address of more than seven bits that ends like the one cancelled. -/
def Distinguishes (schedule : Schedule) : ScheduleRequest → Prop
  | .insert _ _ => True
  | .cancel deviceAddress endPointAddress =>
    (deviceAddress ≠ 0 ∨ endPointAddress &&& 0xF ≠ 0) ∧
      ∀ ed other, schedule.owner ed = some (other, endPointAddress &&& 0xF) →
        other.toNat % 128 = deviceAddress.toNat % 128 → other.toNat < 128

/-- The tree, over the lists of the slots as they are. -/
structure Sound (schedule : Schedule) : Prop where
  tree : IntervalTree schedule schedule.walk
  reached : ∀ ed, schedule.owner ed ≠ none → Visited schedule.walk ed

variable {schedule : Schedule} {walks : Nat → List UInt32}

theorem Sound.intact (sound : Sound schedule) : Intact schedule :=
  ⟨sound.tree.ends, sound.reached⟩

theorem initial_owner (dev : UsbOhciHcDev) (created : Nat → Nat → UInt32) (ed : UInt32) :
    (initial dev created).owner ed = none := rfl

theorem insert_owner {call : InterruptCall} {answer : Option UInt32} {ed : UInt32}
    {owner : UInt8 × UInt8} (owned : (schedule.insert call answer).owner ed = some owner) :
    schedule.owner ed = some owner ∨
      owner = (call.deviceAddress, call.endPointAddress &&& 0xF) := by
  rw [Schedule.insert] at owned
  simp only at owned
  split at owned
  · exact Or.inl owned
  · next new mem _ =>
    change Function.update schedule.owner new _ ed = some owner at owned
    by_cases isNew : ed = new
    · rw [isNew, Function.update_self] at owned
      exact Or.inr (Option.some.inj owned).symm
    · rw [Function.update_of_ne isNew] at owned
      exact Or.inl owned

theorem Sound.insert (sound : Sound schedule) (call : InterruptCall) (answer : Option UInt32) :
    Sound (schedule.insert call answer) ∧ schedule.Keeps (.insert call answer) := by
  set head := ohciFindMinInterruptEdList schedule.dev (intervalDepth call.pollingInterval 5 1)
    with headEq
  have visited : Visited schedule.walk head := sound.tree.findMin (intervalDepth_le _ 5 1)
  rcases sound.tree.interruptEd_inserted visited call answer with
    none | ⟨new, mem, some, inserted⟩
  · have result : schedule.insert call answer = schedule := by
      rw [Schedule.insert]
      simp only [← headEq, none]
    rw [result]
    exact ⟨sound, Or.inl result⟩
  · set owner := Function.update schedule.owner new
      (Option.some (call.deviceAddress, call.endPointAddress &&& 0xF)) with ownerEq
    have result : schedule.insert call answer = ⟨{ schedule.dev with mem := mem }, owner⟩ := by
      rw [Schedule.insert]
      simp only [← headEq, some, ownerEq]
    have tree := sound.tree.attach visited inserted
    have fresh : ¬ Visited schedule.walk new := by
      intro old
      have unused := inserted.available.2.2
      rw [sound.tree.live new old] at unused
      cases unused
    constructor
    · rw [result]
      refine ⟨tree.over_walk fun ed _ => rfl, ?_⟩
      intro ed owned
      rw [tree.visited_walk]
      by_cases isNew : ed = new
      · obtain ⟨slot, inside, member⟩ := visited
        exact ⟨slot, inside, mem_insertAfter.mpr (Or.inr ⟨isNew, member⟩)⟩
      · have carried : owner ed = schedule.owner ed := Function.update_of_ne isNew _ _
        obtain ⟨slot, inside, member⟩ := sound.reached ed fun none => owned (carried.trans none)
        exact ⟨slot, inside, mem_insertAfter.mpr (Or.inl member)⟩
    · refine Or.inr ⟨head, new, visited, fresh, ?_, ?_⟩
      · rw [result]
        exact Function.update_self _ _ _
      · intro slot inside
        rw [result]
        exact tree.walk_eq inside

theorem Sound.cancel (sound : Sound schedule) {deviceAddress endPointAddress : UInt8}
    (distinguishes : schedule.Distinguishes (.cancel deviceAddress endPointAddress)) :
    Sound (schedule.cancel deviceAddress endPointAddress) ∧
      schedule.Keeps (.cancel deviceAddress endPointAddress) := by
  set endPoint := endPointAddress &&& 0xF with endPointEq
  have telling := sound.tree.telling distinguishes.1 distinguishes.2
  obtain ⟨once, members, tree, -, live⟩ := IntervalTree.freeLists
    (fun slot (member : slot ∈ List.range 32) => List.mem_range.mp member) sound.tree telling
  set freed := freedEds schedule.dev deviceAddress endPoint (List.range 32) schedule.dev.mem
    with freedEq
  have freedIff : ∀ ed, ed ∈ freed ↔ schedule.owner ed = some (deviceAddress, endPoint) := by
    intro ed
    rw [members ed]
    refine ⟨fun both => both.1, fun mine => ⟨mine, ?_⟩⟩
    obtain ⟨slot, inside, member⟩ := sound.reached ed (by rw [mine]; exact Option.some_ne_none _)
    exact ⟨slot, List.mem_range.mpr inside, member⟩
  have kept : ∀ ed, Visited (fun slot => (schedule.walk slot).filter fun ed => ed ∉ freed) ed →
      ed ∉ freed := by
    rintro ed ⟨slot, inside, member⟩
    simpa using (List.mem_filter.mp member).2
  have owner : ∀ ed, ed ∉ freed →
      (schedule.cancel deviceAddress endPointAddress).owner ed = schedule.owner ed :=
    fun ed stays => if_neg fun mine => stays ((freedIff ed).mpr mine)
  have after : Visited (schedule.cancel deviceAddress endPointAddress).walk =
      Visited fun slot => (schedule.walk slot).filter fun ed => ed ∉ freed := tree.visited_walk
  constructor
  · refine ⟨tree.over_walk fun ed visited => owner ed (kept ed visited), ?_⟩
    intro ed owned
    have stays : ed ∉ freed := by
      intro gone
      exact owned (if_pos ((freedIff ed).mp gone))
    rw [owner ed stays] at owned
    obtain ⟨slot, inside, member⟩ := sound.reached ed owned
    rw [after]
    exact ⟨slot, inside, List.mem_filter.mpr ⟨member, by simpa using stays⟩⟩
  · refine ⟨once, freedIff, ?_, ?_, ?_, ?_⟩
    · intro depth small index inside gone
      have free := (sound.tree.heads depth small index inside).2
      rw [(freedIff _).mp gone] at free
      cases free
    · intro ed gone
      obtain ⟨-, slot, among, member⟩ := (members ed).mp gone
      exact sound.tree.live ed ⟨slot, List.mem_range.mp among, member⟩
    · exact fun ed => congrFun live ed
    · exact fun slot inside => tree.walk_eq inside

theorem Sound.step (sound : Sound schedule) {request : ScheduleRequest}
    (distinguishes : schedule.Distinguishes request) :
    Sound (schedule.step request) ∧ schedule.Keeps request := by
  cases request with
  | insert call answer => exact sound.insert call answer
  | cancel deviceAddress endPointAddress => exact sound.cancel distinguishes

theorem sound_initial {dev : UsbOhciHcDev} {created : Nat → Nat → UInt32}
    (granted : Granted dev.mem.live created) : Sound (initial dev created) := by
  obtain ⟨after, result, grown⟩ := initialize_grown granted
  have same : initial dev created = ⟨after, fun _ => none⟩ := by
    rw [initial, result]
  rw [same]
  exact ⟨(grown.tree granted.listed).over_walk fun _ _ => rfl, fun ed owned => absurd rfl owned⟩

end Schedule

/-- In every run of insertions and cancellations that distinguish what they cancel, the lists
of all slots end and reach every descriptor that is inserted, and each step does what it
should. -/
theorem schedule_intact {dev : UsbOhciHcDev} {created : Nat → Nat → UInt32}
    (granted : Granted dev.mem.live created) (requests : List ScheduleRequest)
    (distinguished : AllSteps Schedule.step Schedule.Distinguishes (.initial dev created) requests)
    (count : Nat) :
    let schedule := run Schedule.step (.initial dev created) (requests.take count)
    schedule.Intact ∧ ∀ request, requests[count]? = some request → schedule.Keeps request := by
  intro schedule
  have keep : ∀ (schedule : Schedule) (request : ScheduleRequest), schedule.Sound →
      schedule.Distinguishes request → (schedule.step request).Sound :=
    fun _ _ sound distinguishes => (sound.step distinguishes).1
  have sound : schedule.Sound :=
    run_invariant_throughout keep (Schedule.sound_initial granted) distinguished count
  exact ⟨sound.intact, fun request next => (sound.step (distinguished.at_step next)).2⟩

/-- A tree in memory: the descriptors are numbered like the cells of a heap. -/
def heapTree (level index : Nat) : UInt32 := UInt32.ofNat (64 * (2 ^ (5 - level) + index))

theorem heapTree_toNat (small : level ≤ 5) (inside : index < 32 >>> level) :
    (heapTree level index).toNat = 64 * (2 ^ (5 - level) + index) := by
  rw [heapTree, UInt32.toNat_ofNat']
  refine Nat.mod_eq_of_lt ?_
  interval_cases level <;> omega

theorem heapTree_granted : Granted UsbOhciHcDev.idle.mem.live heapTree where
  available level small index inside := by
    have place := heapTree_toNat small inside
    have positive := Nat.two_pow_pos (5 - level)
    refine ⟨fun zero => ?_, by omega, rfl⟩
    rw [zero] at place
    change 0 = _ at place
    omega
  distinct level small index inside level' small' index' inside' same := by
    have place := heapTree_toNat small inside
    rw [same, heapTree_toNat small' inside'] at place
    interval_cases level <;> interval_cases level' <;> omega

def insertAndCancel : List ScheduleRequest :=
  [.insert keyboard (some 0x2000), .cancel 1 0x81]

theorem insertAndCancel_distinguished {schedule : Schedule}
    (free : ∀ ed, schedule.owner ed = none) :
    AllSteps Schedule.step Schedule.Distinguishes schedule insertAndCancel := by
  refine ⟨trivial, ⟨Or.inl (by decide), ?_⟩, trivial⟩
  intro ed other owned _
  rw [Schedule.step] at owned
  rcases Schedule.insert_owner owned with old | same
  · rw [free ed] at old
    cases old
  · obtain ⟨rfl, -⟩ := Prod.mk.inj same
    decide

theorem schedule_intact_keyboard :
    let schedule := run Schedule.step (.initial .idle heapTree) (insertAndCancel.take 1)
    schedule.Intact ∧
      ∀ request, insertAndCancel[1]? = some request → schedule.Keeps request :=
  @schedule_intact .idle heapTree heapTree_granted insertAndCancel
    (insertAndCancel_distinguished (Schedule.initial_owner .idle heapTree)) 1

/-- Cancelling endpoint zero of device zero frees descriptors of `IntervalList`. -/
theorem root_freed : ¬ (Schedule.initial .idle heapTree).Keeps (.cancel 0 0x80) := by
  intro keeps
  obtain ⟨after, result, grown⟩ := initialize_grown heapTree_granted
  have first : Schedule.initial .idle heapTree = ⟨after, fun _ => none⟩ := by
    rw [Schedule.initial, result]
  rw [first] at keeps
  obtain ⟨-, -, spared, -⟩ := keeps
  refine spared 1 (by decide) 0 (by decide) ?_
  have granted := heapTree_granted.listed
  have slot : after.hccaInterruptTable 0 = listed heapTree 0 0 := grown.slots 0 (by decide)
  have start := grown.contents 0 (by decide) 0 (by decide) (Or.inl (by decide))
  have above := grown.contents 1 (by decide) 0 (by decide) (Or.inl (by decide))
  have linked : nextEd after.mem (after.hccaInterruptTable 0) = listed heapTree 1 0 := by
    rw [slot]
    have higher : 0 < 5 ∧ Before (0 + 1) (0 / 2) 6 0 := ⟨by decide, Or.inl (by decide)⟩
    rw [nextEd, start]
    simp only [if_pos higher]
  have some : after.hccaInterruptTable 0 ≠ 0 := by
    rw [slot]
    exact (granted.available 0 (by decide) 0 (by decide)).1
  have more : listed heapTree 1 0 ≠ 0 := (granted.available 1 (by decide) 0 (by decide)).1
  have found : (after.mem.ed (listed heapTree 1 0)).matches 0 0 = true := by
    rw [above]
    rfl
  show after.intervalList 1 0 ∈ freedEds after 0 0 (0 :: List.range' 1 31) after.mem
  rw [grown.lists 1 (by decide) 0 (by decide) (Or.inl (by decide)), freedEds]
  simp only [if_neg some]
  refine List.mem_append_left _ ?_
  rw [show walkLimit = 4294967295 + 1 from rfl, matchingEds]
  simp only [linked, if_neg more, if_pos found]
  exact List.mem_cons_self

end MuRockchip.Ohci
