/-
The tree of interrupt lists (`OhciUrb.c`).

The lists of the 32 slots of the HCCA run together in a tree: a descriptor of `IntervalList`
is behind two others, and what hangs behind it is on many lists. A descriptor of a transfer
is linked from one other descriptor only, so that taking it out there takes it off all lists.

* `IntervalTree.unlink`, `IntervalTree.attach`: taking one descriptor out, and putting one in,
  changes each list by that descriptor.
* `IntervalTree.freeLists`: taking out what matches, slot after slot, takes it off all lists.
-/
import MuRockchip.Ohci.InterruptTransfer

namespace MuRockchip.Ohci

open MuRockchip.Base

/-! ### The schedule -/

/-- The endpoint descriptors from one on. -/
def edsFrom (mem : Descriptors) : Nat → UInt32 → List UInt32
  | 0, _ => []
  | fuel + 1, ed => if ed = 0 then [] else ed :: edsFrom mem fuel (nextEd mem ed)

/-- The controller, and for every transfer descriptor the device address and the endpoint
number it was inserted for. -/
structure Schedule where
  dev : UsbOhciHcDev
  owner : UInt32 → Option (UInt8 × UInt8)

/-- What the controller visits from a slot. -/
def Schedule.walk (schedule : Schedule) (slot : Nat) : List UInt32 :=
  edsFrom schedule.dev.mem walkLimit (schedule.dev.hccaInterruptTable slot)

/-- A descriptor is visited from some slot. -/
def Visited (walks : Nat → List UInt32) (ed : UInt32) : Prop := ∃ slot < 32, ed ∈ walks slot

/-- The lists of the slots end, and visit the heads of all interrupt lists. The descriptors
of `IntervalList` have address and endpoint number zero, the others are linked from one
place and carry what they were inserted for. -/
structure IntervalTree (schedule : Schedule) (walks : Nat → List UInt32) : Prop where
  ends : ∀ slot < 32, Segment (nextEd schedule.dev.mem)
    (schedule.dev.hccaInterruptTable slot) (walks slot) 0
  live : ∀ ed, Visited walks ed → schedule.dev.mem.live ed = true
  aligned : ∀ ed, Visited walks ed → ed.toNat % 64 = 0
  heads : ∀ depth ≤ 5, ∀ index < 32 >>> depth,
    Visited walks (schedule.dev.intervalList depth index) ∧
      schedule.owner (schedule.dev.intervalList depth index) = none
  starts : ∀ slot < 32, schedule.dev.hccaInterruptTable slot ≠ 0 ∧
    schedule.owner (schedule.dev.hccaInterruptTable slot) = none
  skeleton : ∀ ed, Visited walks ed → schedule.owner ed = none →
    (schedule.dev.mem.ed ed).functionAddress = 0 ∧ (schedule.dev.mem.ed ed).endPointNum = 0
  direct : ∀ ed, Visited walks ed → (schedule.dev.mem.ed ed).direction = 0
  stored : ∀ ed address endPoint, Visited walks ed →
    schedule.owner ed = some (address, endPoint) →
    (schedule.dev.mem.ed ed).functionAddress.toNat = address.toNat % 128 ∧
      (schedule.dev.mem.ed ed).endPointNum.toNat = endPoint.toNat
  once : ∀ ed, Visited walks ed → schedule.owner ed ≠ none → ∀ left right,
    Visited walks left → Visited walks right → nextEd schedule.dev.mem left = ed →
    nextEd schedule.dev.mem right = ed → left = right

/-- Two descriptors are for the same endpoint and direction. -/
structure EdDescriptor.Like (ed other : EdDescriptor) : Prop where
  address : ed.functionAddress = other.functionAddress
  endPoint : ed.endPointNum = other.endPointNum
  direction : ed.direction = other.direction

/-- The fields of the descriptors in the tree tell which were inserted for the endpoint. -/
def Telling (mem : Descriptors) (walks : Nat → List UInt32)
    (owner : UInt32 → Option (UInt8 × UInt8)) (address endPoint : UInt8) : Prop :=
  ∀ ed, Visited walks ed →
    ((mem.ed ed).matches address endPoint = true ↔ owner ed = some (address, endPoint))

theorem edsFrom_eq {mem : Descriptors} {start : UInt32} {eds : List UInt32} {fuel : Nat}
    (list : Segment (nextEd mem) start eds 0) (enough : eds.length ≤ fuel) :
    edsFrom mem fuel start = eds := by
  induction eds generalizing start fuel with
  | nil =>
    have null : start = 0 := list
    cases fuel with
    | zero => rfl
    | succ fuel => rw [edsFrom, if_pos null]
  | cons head rest ih =>
    obtain ⟨rfl, nonzero, tail⟩ := list
    cases fuel with
    | zero => exact absurd enough (Nat.not_succ_le_zero _)
    | succ fuel => rw [edsFrom, if_neg nonzero, ih tail (Nat.le_of_succ_le_succ enough)]

theorem nextEd_setNextEd (mem : Descriptors) (ed next : UInt32) :
    nextEd (setNextEd mem ed next) = Function.update (nextEd mem) ed next := by
  funext other
  rw [nextEd, setNextEd]
  by_cases same : other = ed
  · rw [same, Descriptors.setEd_ed_same, Function.update_self]
  · rw [Descriptors.setEd_ed_ne same, Function.update_of_ne same, nextEd]

theorem setNextEd_like (mem : Descriptors) (place next ed : UInt32) :
    ((setNextEd mem place next).ed ed).Like (mem.ed ed) := by
  rw [setNextEd]
  by_cases same : ed = place
  · rw [same, Descriptors.setEd_ed_same]
    exact ⟨rfl, rfl, rfl⟩
  · rw [Descriptors.setEd_ed_ne same]
    exact ⟨rfl, rfl, rfl⟩

variable {other : EdDescriptor}

theorem EdDescriptor.Like.trans {ed third : EdDescriptor} (like : ed.Like other)
    (like' : other.Like third) : ed.Like third :=
  ⟨like.address.trans like'.address, like.endPoint.trans like'.endPoint,
    like.direction.trans like'.direction⟩

theorem EdDescriptor.Like.matches {ed : EdDescriptor} (like : ed.Like other)
    (functionAddress endPointNum : UInt8) :
    ed.matches functionAddress endPointNum = other.matches functionAddress endPointNum := by
  rw [EdDescriptor.matches, EdDescriptor.matches, like.address, like.endPoint]

namespace IntervalTree

variable {schedule : Schedule} {walks : Nat → List UInt32}

/-- The lists are what the controller visits. -/
theorem walk_eq (tree : IntervalTree schedule walks) {slot : Nat} (inside : slot < 32) :
    schedule.walk slot = walks slot :=
  edsFrom_eq (tree.ends slot inside) (tree.ends slot inside).length_le

theorem start_visited (tree : IntervalTree schedule walks) {slot : Nat} (inside : slot < 32) :
    Visited walks (schedule.dev.hccaInterruptTable slot) := by
  refine ⟨slot, inside, ?_⟩
  have list := tree.ends slot inside
  cases cells : walks slot with
  | nil =>
    rw [cells] at list
    exact absurd list (tree.starts slot inside).1
  | cons head rest =>
    rw [cells] at list
    rw [list.1]
    exact List.mem_cons_self

theorem visited_walk (tree : IntervalTree schedule walks) :
    Visited schedule.walk = Visited walks := by
  funext ed
  refine propext ⟨?_, ?_⟩
  · rintro ⟨slot, inside, member⟩
    exact ⟨slot, inside, tree.walk_eq inside ▸ member⟩
  · rintro ⟨slot, inside, member⟩
    exact ⟨slot, inside, (tree.walk_eq inside).symm ▸ member⟩

theorem over_walk (tree : IntervalTree schedule walks) {owner : UInt32 → Option (UInt8 × UInt8)}
    (same : ∀ ed, Visited walks ed → owner ed = schedule.owner ed) :
    IntervalTree ⟨schedule.dev, owner⟩ schedule.walk where
  ends slot inside := by
    rw [tree.walk_eq inside]
    exact tree.ends slot inside
  live := by
    rw [tree.visited_walk]
    exact tree.live
  aligned := by
    rw [tree.visited_walk]
    exact tree.aligned
  heads depth small index inside := by
    obtain ⟨visited, free⟩ := tree.heads depth small index inside
    rw [tree.visited_walk]
    exact ⟨visited, (same _ visited).trans free⟩
  starts slot inside := by
    obtain ⟨nonzero, free⟩ := tree.starts slot inside
    exact ⟨nonzero, (same _ (tree.start_visited inside)).trans free⟩
  skeleton ed visited free := by
    rw [tree.visited_walk] at visited
    exact tree.skeleton ed visited ((same ed visited).symm.trans free)
  direct := by
    rw [tree.visited_walk]
    exact tree.direct
  stored ed address endPoint visited owned := by
    rw [tree.visited_walk] at visited
    exact tree.stored ed address endPoint visited ((same ed visited).symm.trans owned)
  once ed visited owned left right onLeft onRight := by
    rw [tree.visited_walk] at visited onLeft onRight
    have carried : schedule.owner ed ≠ none := fun none => owned ((same ed visited).trans none)
    exact tree.once ed visited carried left right onLeft onRight

theorem next_visited (tree : IntervalTree schedule walks) {ed : UInt32} (visited : Visited walks ed)
    (more : nextEd schedule.dev.mem ed ≠ 0) : Visited walks (nextEd schedule.dev.mem ed) := by
  obtain ⟨slot, inside, member⟩ := visited
  exact ⟨slot, inside, (tree.ends slot inside).next_mem member more⟩

/-! #### Taking one out -/

section

variable {before gone : UInt32}

variable {ed : UInt32}

theorem visited_of_remains
    (remaining : Visited (fun slot => (walks slot).filter fun ed => ed ≠ gone) ed) :
    Visited walks ed ∧ ed ≠ gone := by
  obtain ⟨slot, inside, member⟩ := remaining
  obtain ⟨old, differs⟩ := List.mem_filter.mp member
  exact ⟨⟨slot, inside, old⟩, by simpa using differs⟩

theorem remains_of_visited (visited : Visited walks ed) (differs : ed ≠ gone) :
    Visited (fun slot => (walks slot).filter fun ed => ed ≠ gone) ed := by
  obtain ⟨slot, inside, member⟩ := visited
  exact ⟨slot, inside, List.mem_filter.mpr ⟨member, by simpa using differs⟩⟩

/-- Once one descriptor is taken out, the others are still linked from one place. -/
theorem unlink_once (tree : IntervalTree schedule walks) (gone_visited : Visited walks gone)
    {left right : UInt32} (old : Visited walks ed) (owned : schedule.owner ed ≠ none)
    (oldLeft : Visited walks left) (leftStays : left ≠ gone) (oldRight : Visited walks right)
    (rightStays : right ≠ gone)
    (fromLeft : Function.update (nextEd schedule.dev.mem) before (nextEd schedule.dev.mem gone)
      left = ed)
    (fromRight : Function.update (nextEd schedule.dev.mem) before (nextEd schedule.dev.mem gone)
      right = ed) : left = right := by
  by_cases atLeft : left = before
  · by_cases atRight : right = before
    · rw [atLeft, atRight]
    · rw [atLeft, Function.update_self] at fromLeft
      rw [Function.update_of_ne atRight] at fromRight
      exact absurd (tree.once ed old owned gone right gone_visited oldRight fromLeft
        fromRight).symm rightStays
  · rw [Function.update_of_ne atLeft] at fromLeft
    by_cases atRight : right = before
    · rw [atRight, Function.update_self] at fromRight
      exact absurd (tree.once ed old owned left gone oldLeft gone_visited fromLeft fromRight)
        leftStays
    · rw [Function.update_of_ne atRight] at fromRight
      exact tree.once ed old owned left right oldLeft oldRight fromLeft fromRight

/-- A descriptor of a transfer is taken out of the lists, and given back. -/
theorem unlink (tree : IntervalTree schedule walks) (visited : Visited walks before)
    (linked : nextEd schedule.dev.mem before = gone) (nonzero : gone ≠ 0)
    (transfer : schedule.owner gone ≠ none) :
    IntervalTree { schedule with dev := { schedule.dev with
      mem := usbHcFreeDescriptor
        (setNextEd schedule.dev.mem before (nextEd schedule.dev.mem gone)) gone } }
      fun slot => (walks slot).filter fun ed => ed ≠ gone := by
  have gone_visited : Visited walks gone :=
    linked ▸ tree.next_visited visited (by rw [linked]; exact nonzero)
  set mem := usbHcFreeDescriptor
    (setNextEd schedule.dev.mem before (nextEd schedule.dev.mem gone)) gone
  have links : nextEd mem =
      Function.update (nextEd schedule.dev.mem) before (nextEd schedule.dev.mem gone) :=
    nextEd_setNextEd _ _ _
  have fields : ∀ ed, (mem.ed ed).Like (schedule.dev.mem.ed ed) := setNextEd_like _ before _
  exact {
    ends := by
      intro slot inside
      show Segment (nextEd mem) _ _ 0
      rw [links]
      refine (tree.ends slot inside).unlink linked nonzero ?_ fun ed member points =>
        tree.once gone gone_visited transfer ed before ⟨slot, inside, member⟩ visited points linked
      intro same
      exact transfer (same ▸ (tree.starts slot inside).2)
    live := by
      intro ed remaining
      obtain ⟨old, differs⟩ := visited_of_remains remaining
      simp only [mem, usbHcFreeDescriptor, Descriptors.setLive_live_ne differs, setNextEd_live]
      exact tree.live ed old
    aligned := fun ed remaining => tree.aligned ed (visited_of_remains remaining).1
    heads := by
      intro depth small index inside
      obtain ⟨head, free⟩ := tree.heads depth small index inside
      exact ⟨remains_of_visited head fun same => transfer (same ▸ free), free⟩
    starts := tree.starts
    skeleton := by
      intro ed remaining free
      rw [(fields ed).address, (fields ed).endPoint]
      exact tree.skeleton ed (visited_of_remains remaining).1 free
    direct := fun ed remaining =>
      (fields ed).direction.trans (tree.direct ed (visited_of_remains remaining).1)
    stored := by
      intro ed address endPoint remaining owned
      rw [(fields ed).address, (fields ed).endPoint]
      exact tree.stored ed address endPoint (visited_of_remains remaining).1 owned
    once := by
      intro ed remaining owned left right onLeft onRight fromLeft fromRight
      change nextEd mem left = ed at fromLeft
      change nextEd mem right = ed at fromRight
      rw [links] at fromLeft fromRight
      obtain ⟨oldLeft, leftStays⟩ := visited_of_remains onLeft
      obtain ⟨oldRight, rightStays⟩ := visited_of_remains onRight
      exact tree.unlink_once gone_visited (visited_of_remains remaining).1 owned oldLeft
        leftStays oldRight rightStays fromLeft fromRight }

end

variable {head : UInt32}

theorem list_from (tree : IntervalTree schedule walks) (visited : Visited walks head) :
    ∃ eds, Segment (nextEd schedule.dev.mem) head eds 0 ∧ head ∈ eds ∧
      ∀ ed ∈ eds, Visited walks ed := by
  obtain ⟨slot, inside, member⟩ := visited
  have list := tree.ends slot inside
  have nonzero := list.ne_zero member
  obtain ⟨before, after, split⟩ := List.append_of_mem member
  rw [split] at list
  refine ⟨head :: after, ⟨rfl, nonzero, list.suffix⟩, List.mem_cons_self, ?_⟩
  intro ed among
  exact ⟨slot, inside, by rw [split]; exact List.mem_append_right before among⟩

/-- A list has fewer descriptors than there are places for them. -/
theorem length_lt (tree : IntervalTree schedule walks) {eds : List UInt32}
    (list : Segment (nextEd schedule.dev.mem) head eds 0) (visited : ∀ ed ∈ eds, Visited walks ed) :
    eds.length < 0xFFFFFFFF := by
  have once : (eds.map fun ed => ed.toNat / 64).Nodup := by
    refine list.nodup.map_on fun left onLeft right onRight same => UInt32.toNat_inj.mp ?_
    have alignedLeft := tree.aligned left (visited left onLeft)
    have alignedRight := tree.aligned right (visited right onRight)
    omega
  have inside : (eds.map fun ed => ed.toNat / 64) ⊆ List.range (2 ^ 26) := by
    intro place member
    obtain ⟨ed, -, rfl⟩ := List.mem_map.mp member
    have bound := ed.toNat_lt
    exact List.mem_range.mpr (by omega)
  have short := (List.subperm_of_subset once inside).length_le
  rw [List.length_map, List.length_range] at short
  omega

/-- `OhciFindMinInterruptEDList` finds a head of the tree. -/
theorem findMin (tree : IntervalTree schedule walks) {depth : Nat} (small : depth ≤ 5) :
    Visited walks (ohciFindMinInterruptEdList schedule.dev depth) := by
  have some : 0 < 32 >>> depth := by
    interval_cases depth <;> decide
  obtain ⟨eds, list, -, visited⟩ := tree.list_from (tree.heads depth small 0 some).1
  obtain ⟨index, inside, found⟩ :=
    ohciFindMinInterruptEdList_mem small list (tree.length_lt list visited)
  rw [found]
  exact (tree.heads depth small index inside).1

/-- What inserting `new` behind `head` makes of memory. -/
structure Inserted (before after : Descriptors) (head new : UInt32) (address endPoint : UInt8) :
    Prop where
  available : Available before.live new
  links : nextEd after = Function.update (Function.update (nextEd before) head new) new
    (nextEd before head)
  live : after.live = Function.update before.live new true
  others : ∀ ed, ed ≠ new → (after.ed ed).Like (before.ed ed)
  address : (after.ed new).functionAddress.toNat = address.toNat % 128
  endPoint : (after.ed new).endPointNum.toNat = endPoint.toNat
  direction : (after.ed new).direction = 0

/-- The ED stage inserts a new descriptor, or fails: no descriptor of the tree has a direction
of its own, so that none of them works for the endpoint. -/
theorem interruptEd_inserted (tree : IntervalTree schedule walks) (visited : Visited walks head)
    (call : InterruptCall) (answer : Option UInt32) :
    interruptEd call answer head schedule.dev.mem = none ∨
      ∃ new mem, interruptEd call answer head schedule.dev.mem = some (new, mem) ∧
        Inserted schedule.dev.mem mem head new call.deviceAddress
          (call.endPointAddress &&& 0xF) := by
  obtain ⟨eds, list, atHead, all⟩ := tree.list_from visited
  have nonzero := list.ne_zero atHead
  have idle : ohciFindWorkingEd schedule.dev.mem call.deviceAddress (call.endPointAddress &&& 0xF)
      (edDir call.endPointAddress) walkLimit head = 0 := by
    by_contra works
    obtain ⟨member, working⟩ := ohciFindWorkingEd_spec list _ _ _ _ works
    have direct := tree.direct _ (all _ member)
    simp only [EdDescriptor.working, Bool.and_eq_true, decide_eq_true_eq] at working
    rw [direct, edDir] at working
    split at working
    · exact absurd working.2 (by decide)
    · exact absurd working.2 (by decide)
  rw [interruptEd]
  simp only [idle, ne_eq, not_true_eq_false, if_false]
  cases answer with
  | none => exact Or.inl rfl
  | some new =>
    rw [ohciCreateEd]
    by_cases available : Available schedule.dev.mem.live new
    · refine Or.inr ⟨new, _, by rw [if_pos available], ?_⟩
      have apart : head ≠ new := by
        rintro rfl
        have unused := available.2.2
        rw [tree.live head visited] at unused
        cases unused
      simp only
      set contents := endpoint call.deviceAddress (call.endPointAddress &&& 0xF) call.isSlowDevice
        call.maxPacketLength
      set mem := ((schedule.dev.mem.setEd new { EdDescriptor.empty with skip := 1 }).setLive new
        true).setEd new contents with memEq
      have atNew : mem.ed new = contents := Descriptors.setEd_ed_same
      have others : ∀ ed, ed ≠ new → mem.ed ed = schedule.dev.mem.ed ed := by
        intro ed differs
        rw [memEq, Descriptors.setEd_ed_ne differs, Descriptors.setLive_ed,
          Descriptors.setEd_ed_ne differs]
      have unlinked : nextEd mem new = 0 := by
        rw [nextEd, atNew]
        rfl
      have attached := ohciAttachEd_ed nonzero apart.symm unlinked
      have behind : nextEd mem head = nextEd schedule.dev.mem head := by
        rw [nextEd, others head apart, nextEd]
      exact {
        available := available
        links := by
          funext ed
          rw [nextEd, attached]
          by_cases isNew : ed = new
          · rw [isNew, Function.update_self, Function.update_self, behind]
          · rw [Function.update_of_ne isNew, Function.update_of_ne isNew]
            by_cases isHead : ed = head
            · rw [isHead, Function.update_self, Function.update_self]
            · rw [Function.update_of_ne isHead, Function.update_of_ne isHead, others ed isNew,
                nextEd]
        live := by
          rw [ohciAttachEd_live]
          rfl
        others := by
          intro ed isNew
          rw [attached, Function.update_of_ne isNew]
          by_cases isHead : ed = head
          · rw [isHead, Function.update_self, others head apart]
            exact ⟨rfl, rfl, rfl⟩
          · rw [Function.update_of_ne isHead, others ed isNew]
            exact ⟨rfl, rfl, rfl⟩
        address := by
          rw [attached, Function.update_self, atNew]
          exact BitVec.toNat_ofNat _ _
        endPoint := by
          rw [attached, Function.update_self, atNew]
          have small : (call.endPointAddress &&& 0xF).toNat < 16 := by
            rw [UInt8.toNat_and]
            exact Nat.lt_of_le_of_lt Nat.and_le_right (by decide)
          exact (BitVec.toNat_ofNat _ _).trans (Nat.mod_eq_of_lt small)
        direction := by
          rw [attached, Function.update_self, atNew]
          rfl }
    · rw [if_neg available]
      exact Or.inl rfl

/-! #### Putting one in -/

section

variable {head new : UInt32} {address endPoint : UInt8} {mem : Descriptors}

variable {ed : UInt32}

theorem visited_insertAfter (visited : Visited (fun slot => insertAfter head new (walks slot)) ed) :
    Visited walks ed ∨ ed = new := by
  obtain ⟨slot, inside, member⟩ := visited
  rcases mem_insertAfter.mp member with old | ⟨isNew, -⟩
  · exact Or.inl ⟨slot, inside, old⟩
  · exact Or.inr isNew

theorem insertAfter_of_visited (visited : Visited walks ed) :
    Visited (fun slot => insertAfter head new (walks slot)) ed := by
  obtain ⟨slot, inside, member⟩ := visited
  exact ⟨slot, inside, mem_insertAfter.mpr (Or.inl member)⟩

variable (tree : IntervalTree schedule walks) (visited : Visited walks head)
  (inserted : Inserted schedule.dev.mem mem head new address endPoint)

include tree inserted

theorem Inserted.fresh (old : Visited walks ed) : ed ≠ new := by
  rintro rfl
  have unused := inserted.available.2.2
  rw [tree.live ed old] at unused
  cases unused

theorem Inserted.owner (old : Visited walks ed) :
    Function.update schedule.owner new (some (address, endPoint)) ed = schedule.owner ed :=
  Function.update_of_ne (inserted.fresh tree old) _ _

/-- No link led to the new descriptor. -/
theorem Inserted.unlinked (old : Visited walks ed) :
    nextEd schedule.dev.mem ed ≠ new := by
  intro same
  have more : nextEd schedule.dev.mem ed ≠ 0 := by
    rw [same]
    exact inserted.available.1
  exact inserted.fresh tree (tree.next_visited old more) same

theorem Inserted.behind_old {place : UInt32} (old : Visited walks ed)
    (onList : Visited (fun slot => insertAfter head new (walks slot)) place)
    (points : nextEd mem place = ed) :
    (place = new ∧ nextEd schedule.dev.mem head = ed) ∨
      (place ≠ new ∧ place ≠ head ∧ Visited walks place ∧
        nextEd schedule.dev.mem place = ed) := by
  rw [inserted.links] at points
  rcases visited_insertAfter onList with oldPlace | rfl
  · have differs := inserted.fresh tree oldPlace
    rw [Function.update_of_ne differs] at points
    by_cases atHead : place = head
    · rw [atHead, Function.update_self] at points
      exact absurd points.symm (inserted.fresh tree old)
    · rw [Function.update_of_ne atHead] at points
      exact Or.inr ⟨differs, atHead, oldPlace, points⟩
  · rw [Function.update_self] at points
    exact Or.inl ⟨rfl, points⟩

include visited

theorem Inserted.behind_head {place : UInt32}
    (onList : Visited (fun slot => insertAfter head new (walks slot)) place)
    (points : nextEd mem place = new) : place = head := by
  by_contra notHead
  rw [inserted.links] at points
  rcases visited_insertAfter onList with oldPlace | rfl
  · rw [Function.update_of_ne (inserted.fresh tree oldPlace),
      Function.update_of_ne notHead] at points
    exact inserted.unlinked tree oldPlace points
  · rw [Function.update_self] at points
    exact inserted.unlinked tree visited points

/-- Once a descriptor is put in, each one is still linked from one place. -/
theorem attach_once {left right : UInt32}
    (remaining : Visited (fun slot => insertAfter head new (walks slot)) ed)
    (carries : Function.update schedule.owner new (some (address, endPoint)) ed ≠ none)
    (onLeft : Visited (fun slot => insertAfter head new (walks slot)) left)
    (onRight : Visited (fun slot => insertAfter head new (walks slot)) right)
    (fromLeft : nextEd mem left = ed) (fromRight : nextEd mem right = ed) : left = right := by
  rcases visited_insertAfter remaining with old | rfl
  · have mine : schedule.owner ed ≠ none := by
      rwa [← inserted.owner tree old]
    rcases inserted.behind_old tree old onLeft fromLeft with
      ⟨rfl, behind⟩ | ⟨-, notHead, oldLeft, behind⟩
    · rcases inserted.behind_old tree old onRight fromRight with
        ⟨rfl, -⟩ | ⟨-, notHead, oldRight, behind'⟩
      · rfl
      · exact absurd (tree.once ed old mine right head oldRight visited behind' behind) notHead
    · rcases inserted.behind_old tree old onRight fromRight with
        ⟨rfl, behind'⟩ | ⟨-, -, oldRight, behind'⟩
      · exact absurd (tree.once ed old mine left head oldLeft visited behind behind') notHead
      · exact tree.once ed old mine left right oldLeft oldRight behind behind'
  · rw [inserted.behind_head tree visited onLeft fromLeft,
      inserted.behind_head tree visited onRight fromRight]

/-- A new descriptor is put in behind one of the tree. -/
theorem attach :
    IntervalTree
      ⟨{ schedule.dev with mem := mem },
        Function.update schedule.owner new (some (address, endPoint))⟩
      fun slot => insertAfter head new (walks slot) where
  ends slot inside := by
    show Segment (nextEd mem) _ _ 0
    rw [inserted.links]
    exact (tree.ends slot inside).splice inserted.available.1
      (fun member => inserted.fresh tree ⟨slot, inside, member⟩ rfl)
      (inserted.fresh tree visited)
  live ed remaining := by
    show mem.live ed = true
    rw [inserted.live]
    rcases visited_insertAfter remaining with old | rfl
    · rw [Function.update_of_ne (inserted.fresh tree old)]
      exact tree.live ed old
    · rw [Function.update_self]
  aligned ed remaining := by
    rcases visited_insertAfter remaining with old | rfl
    · exact tree.aligned ed old
    · exact inserted.available.2.1
  heads depth small index inside := by
    obtain ⟨first, free⟩ := tree.heads depth small index inside
    exact ⟨insertAfter_of_visited first, (inserted.owner tree first).trans free⟩
  starts slot inside := by
    obtain ⟨some, free⟩ := tree.starts slot inside
    exact ⟨some, (inserted.owner tree (tree.start_visited inside)).trans free⟩
  skeleton ed remaining free := by
    rcases visited_insertAfter remaining with old | rfl
    · have like := inserted.others ed (inserted.fresh tree old)
      rw [like.address, like.endPoint]
      exact tree.skeleton ed old ((inserted.owner tree old).symm.trans free)
    · have owned := Function.update_self ed (some (address, endPoint)) schedule.owner
      cases owned.symm.trans free
  direct ed remaining := by
    rcases visited_insertAfter remaining with old | rfl
    · have like := inserted.others ed (inserted.fresh tree old)
      exact like.direction.trans (tree.direct ed old)
    · exact inserted.direction
  stored ed address' endPoint' remaining carries := by
    rcases visited_insertAfter remaining with old | rfl
    · have like := inserted.others ed (inserted.fresh tree old)
      rw [like.address, like.endPoint]
      exact tree.stored ed address' endPoint' old
        ((inserted.owner tree old).symm.trans carries)
    · have owned := Function.update_self ed (some (address, endPoint)) schedule.owner
      cases owned.symm.trans carries
      exact ⟨inserted.address, inserted.endPoint⟩
  once _ remaining carries _ _ onLeft onRight fromLeft fromRight :=
    attach_once tree visited inserted remaining carries onLeft onRight fromLeft fromRight

end

/-- A cancellation tells the descriptors of an endpoint from all others, unless it is for
endpoint zero of device zero, as the descriptors of `IntervalList` are, or an address of more
than seven bits comes into play. -/
theorem telling (tree : IntervalTree schedule walks) {address endPoint : UInt8}
    (given : address ≠ 0 ∨ endPoint ≠ 0)
    (apart : ∀ ed other, schedule.owner ed = some (other, endPoint) →
      other.toNat % 128 = address.toNat % 128 → other.toNat < 128) :
    Telling schedule.dev.mem walks schedule.owner address endPoint := by
  intro ed visited
  rw [EdDescriptor.matches, Bool.and_eq_true, decide_eq_true_eq, decide_eq_true_eq]
  cases mine : schedule.owner ed with
  | none =>
    obtain ⟨address0, endPoint0⟩ := tree.skeleton ed visited mine
    rw [address0, endPoint0]
    constructor
    · rintro ⟨zero, zero'⟩
      have isZero : address = 0 := UInt8.toNat_inj.mp zero.symm
      have isZero' : endPoint = 0 := UInt8.toNat_inj.mp zero'.symm
      exact absurd isZero' (given.resolve_left (not_not.mpr isZero))
    · intro same
      cases same
  | some owner =>
    obtain ⟨other, endPoint'⟩ := owner
    obtain ⟨low, equal⟩ := tree.stored ed other endPoint' visited mine
    rw [low, equal]
    constructor
    · rintro ⟨sameLow, same⟩
      obtain rfl : endPoint' = endPoint := UInt8.toNat_inj.mp same
      have small := apart ed other mine (by omega)
      obtain rfl : other = address := UInt8.toNat_inj.mp (by omega)
      rfl
    · intro same
      obtain ⟨rfl, rfl⟩ := Prod.mk.inj (Option.some.inj same)
      have small := apart ed other mine rfl
      exact ⟨Nat.mod_eq_of_lt small, rfl⟩

end IntervalTree

/-! ### Taking out what matches -/

/-- What `freeMatchingEds` frees, one after another. -/
def matchingEds (functionAddress endPointNum : UInt8) : Nat → Descriptors → UInt32 → List UInt32
  | 0, _, _ => []
  | fuel + 1, mem, ed =>
    let tempEd := nextEd mem ed
    if tempEd = 0 then []
    else if (mem.ed tempEd).matches functionAddress endPointNum then
      tempEd :: matchingEds functionAddress endPointNum fuel
        (usbHcFreeDescriptor (setNextEd mem ed (nextEd mem tempEd)) tempEd) ed
    else matchingEds functionAddress endPointNum fuel mem tempEd

/-- The rounds of `OhciFreeInterruptEdByAddr` for some slots. -/
def freeSlots (dev : UsbOhciHcDev) (functionAddress endPointNum : UInt8) (slots : List Nat)
    (mem : Descriptors) : Descriptors :=
  slots.foldl (fun mem index =>
    if dev.hccaInterruptTable index = 0 then mem
    else freeMatchingEds functionAddress endPointNum walkLimit mem (dev.hccaInterruptTable index))
    mem

/-- What these rounds free, one after another. -/
def freedEds (dev : UsbOhciHcDev) (functionAddress endPointNum : UInt8) :
    List Nat → Descriptors → List UInt32
  | [], _ => []
  | index :: rest, mem =>
    let start := dev.hccaInterruptTable index
    if start = 0 then freedEds dev functionAddress endPointNum rest mem
    else
      matchingEds functionAddress endPointNum walkLimit mem start ++
        freedEds dev functionAddress endPointNum rest
          (freeMatchingEds functionAddress endPointNum walkLimit mem start)

namespace IntervalTree

variable {dev : UsbOhciHcDev} {mem : Descriptors} {owner : UInt32 → Option (UInt8 × UInt8)}
  {walks : Nat → List UInt32} {address endPoint : UInt8}

/-- What taking the descriptors of an endpoint off all lists has made of the memory. -/
structure Freed (dev : UsbOhciHcDev) (owner : UInt32 → Option (UInt8 × UInt8))
    (walks : Nat → List UInt32) (before after : Descriptors) (freed : List UInt32) : Prop where
  tree : IntervalTree ⟨{ dev with mem := after }, owner⟩
    (fun slot => (walks slot).filter fun ed => ed ∉ freed)
  like : ∀ ed, (after.ed ed).Like (before.ed ed)
  live : after.live = fun ed => before.live ed && !decide (ed ∈ freed)

theorem Freed.nothing (tree : IntervalTree ⟨{ dev with mem := mem }, owner⟩ walks) :
    Freed dev owner walks mem mem [] where
  tree := by simpa using tree
  like _ := ⟨rfl, rfl, rfl⟩
  live := by simp

/-- What is taken off first and what is taken off then. -/
theorem Freed.append {middle after : Descriptors} {early late : List UInt32}
    (first : Freed dev owner walks mem middle early)
    (second : Freed dev owner (fun slot => (walks slot).filter fun ed => ed ∉ early) middle after
      late) : Freed dev owner walks mem after (early ++ late) where
  tree := by
    have same : (fun slot => (walks slot).filter fun ed => ed ∉ early ++ late) =
        fun slot => ((walks slot).filter fun ed => ed ∉ early).filter fun ed => ed ∉ late := by
      funext slot
      rw [List.filter_filter]
      refine List.filter_congr fun ed _ => ?_
      rw [Bool.eq_iff_iff]
      simp [and_comm]
    rw [same]
    exact second.tree
  like ed := (second.like ed).trans (first.like ed)
  live := by
    rw [second.live, first.live]
    funext ed
    rw [Bool.eq_iff_iff]
    simp [and_assoc]

theorem Freed.telling {after : Descriptors} {freed : List UInt32}
    (done : Freed dev owner walks mem after freed)
    (telling : Telling mem walks owner address endPoint) :
    Telling after (fun slot => (walks slot).filter fun ed => ed ∉ freed) owner address
      endPoint := by
  rintro ed ⟨slot, inside, member⟩
  rw [(done.like ed).matches]
  exact telling ed ⟨slot, inside, (List.mem_filter.mp member).1⟩

theorem Freed.one (tree : IntervalTree ⟨{ dev with mem := mem }, owner⟩ walks)
    {before gone : UInt32} (visited : Visited walks before) (linked : nextEd mem before = gone)
    (nonzero : gone ≠ 0) (transfer : owner gone ≠ none) :
    Freed dev owner walks mem
      (usbHcFreeDescriptor (setNextEd mem before (nextEd mem gone)) gone) [gone] where
  tree := by
    have unlinked := tree.unlink visited linked nonzero transfer
    simpa using unlinked
  like := setNextEd_like mem before _
  live := by
    funext ed
    by_cases same : ed = gone
    · simp [usbHcFreeDescriptor, same]
    · simp [usbHcFreeDescriptor, Descriptors.setLive_live_ne same, same]

theorem split_without {before rest : List UInt32} {ed next : UInt32}
    (once : (before ++ ed :: next :: rest).Nodup) :
    (before ++ ed :: next :: rest).filter (fun other => other ∉ [next]) = before ++ ed :: rest := by
  rw [List.nodup_append, List.nodup_cons, List.nodup_cons] at once
  obtain ⟨-, ⟨notEd, notNext, -⟩, apart⟩ := once
  have differs : ed ≠ next := fun same => notEd (by rw [same]; exact List.mem_cons_self)
  rw [List.filter_append, List.filter_cons_of_pos (by simpa using differs),
    List.filter_cons_of_neg (by simp), List.filter_eq_self.mpr, List.filter_eq_self.mpr]
  · intro other member
    simpa using ne_of_mem_of_not_mem member notNext
  · intro other member
    simpa using apart other member next (by simp)

/-- The loop along one list takes the descriptors of the endpoint off all lists. -/
theorem freeList {slot : Nat} (before : List UInt32) {rest : List UInt32} {ed : UInt32}
    {fuel : Nat} (tree : IntervalTree ⟨{ dev with mem := mem }, owner⟩ walks)
    (telling : Telling mem walks owner address endPoint) (inside : slot < 32)
    (split : walks slot = before ++ ed :: rest) (enough : rest.length ≤ fuel) :
    let freed := matchingEds address endPoint fuel mem ed
    freed = rest.filter (fun ed => owner ed = some (address, endPoint)) ∧
      Freed dev owner walks mem (freeMatchingEds address endPoint fuel mem ed) freed := by
  induction rest generalizing mem walks before ed fuel with
  | nil =>
    have list := tree.ends slot inside
    rw [split] at list
    have last : nextEd mem ed = 0 := list.suffix
    have nothing : matchingEds address endPoint fuel mem ed = [] := by
      cases fuel with
      | zero => rfl
      | succ fuel => rw [matchingEds, if_pos last]
    have unchanged : freeMatchingEds address endPoint fuel mem ed = mem := by
      cases fuel with
      | zero => rfl
      | succ fuel => rw [freeMatchingEds, if_pos last]
    rw [nothing, unchanged]
    exact ⟨rfl, Freed.nothing tree⟩
  | cons next rest ih =>
    have list := tree.ends slot inside
    rw [split] at list
    obtain ⟨linked, nonzero, -⟩ := list.suffix
    change nextEd mem ed = next at linked
    have atEd : Visited walks ed := ⟨slot, inside, by rw [split]; simp⟩
    have atNext : Visited walks next := ⟨slot, inside, by rw [split]; simp⟩
    cases fuel with
    | zero => exact absurd enough (Nat.not_succ_le_zero _)
    | succ fuel =>
      have enough' := Nat.le_of_succ_le_succ enough
      by_cases mine : owner next = some (address, endPoint)
      · -- it is unlinked, and the loop goes on behind the same descriptor
        have found := (telling next atNext).mpr mine
        set unlinked := usbHcFreeDescriptor (setNextEd mem ed (nextEd mem next)) next
        have freedEq : matchingEds address endPoint (fuel + 1) mem ed =
            [next] ++ matchingEds address endPoint fuel unlinked ed := by
          rw [matchingEds]
          simp only [linked, if_neg nonzero, if_pos found, unlinked, List.singleton_append]
        have afterEq : freeMatchingEds address endPoint (fuel + 1) mem ed =
            freeMatchingEds address endPoint fuel unlinked ed := by
          rw [freeMatchingEds]
          simp only [linked, if_neg nonzero, if_pos found, unlinked]
        have first : Freed dev owner walks mem unlinked [next] :=
          Freed.one tree atEd linked nonzero (by rw [mine]; simp)
        have split' : (walks slot).filter (fun other => other ∉ [next]) =
            before ++ ed :: rest := by
          rw [split]
          exact split_without list.nodup
        obtain ⟨freed, done⟩ := ih before first.tree (first.telling telling) split' enough'
        intro freedAll
        simp only [freedAll, freedEq, afterEq]
        refine ⟨?_, first.append done⟩
        rw [freed, List.filter_cons_of_pos (by simpa using mine), List.singleton_append]
      · -- it stays, and the loop goes on behind it
        have other : ¬ (mem.ed next).matches address endPoint = true :=
          fun found => mine ((telling next atNext).mp found)
        have freedEq : matchingEds address endPoint (fuel + 1) mem ed =
            matchingEds address endPoint fuel mem next := by
          rw [matchingEds]
          simp only [linked, if_neg nonzero, if_neg other]
        have afterEq : freeMatchingEds address endPoint (fuel + 1) mem ed =
            freeMatchingEds address endPoint fuel mem next := by
          rw [freeMatchingEds]
          simp only [linked, if_neg nonzero, if_neg other]
        rw [freedEq, afterEq, List.filter_cons_of_neg (by simpa using mine)]
        exact ih (before ++ [ed]) tree telling (by rw [split]; simp) enough'

/-- The round for one slot takes the descriptors of the endpoint that are on its list off all
lists. -/
theorem freeSlot {slot : Nat} (tree : IntervalTree ⟨{ dev with mem := mem }, owner⟩ walks)
    (telling : Telling mem walks owner address endPoint) (inside : slot < 32) :
    let start := dev.hccaInterruptTable slot
    let freed := matchingEds address endPoint walkLimit mem start
    start ≠ 0 ∧ freed.Nodup ∧
      (∀ ed, ed ∈ freed ↔ owner ed = some (address, endPoint) ∧ ed ∈ walks slot) ∧
      Freed dev owner walks mem (freeMatchingEds address endPoint walkLimit mem start) freed := by
  intro start freed
  obtain ⟨nonzero, free⟩ := tree.starts slot inside
  change start ≠ 0 at nonzero
  change owner start = none at free
  have list := tree.ends slot inside
  cases cells : walks slot with
  | nil =>
    rw [cells] at list
    exact absurd list nonzero
  | cons head behind =>
    rw [cells] at list
    obtain rfl : start = head := list.1
    have enough : behind.length ≤ walkLimit := (Nat.le_succ _).trans list.length_le
    obtain ⟨first, done⟩ := freeList [] tree telling inside cells enough
    refine ⟨nonzero, ?_, fun ed => ?_, done⟩
    · rw [show freed = _ from first]
      exact (List.nodup_cons.mp list.nodup).2.filter _
    · rw [show freed = _ from first, List.mem_filter, List.mem_cons, decide_eq_true_eq]
      constructor
      · rintro ⟨member, mine⟩
        exact ⟨mine, Or.inr member⟩
      · rintro ⟨mine, rfl | member⟩
        · rw [free] at mine
          cases mine
        · exact ⟨member, mine⟩

/-- The rounds for some slots take the descriptors of the endpoint that are on their lists off
all lists, each once. -/
theorem freeLists {slots : List Nat} (inside : ∀ slot ∈ slots, slot < 32)
    (tree : IntervalTree ⟨{ dev with mem := mem }, owner⟩ walks)
    (telling : Telling mem walks owner address endPoint) :
    let freed := freedEds dev address endPoint slots mem
    freed.Nodup ∧
      (∀ ed, ed ∈ freed ↔
        owner ed = some (address, endPoint) ∧ ∃ slot ∈ slots, ed ∈ walks slot) ∧
      Freed dev owner walks mem (freeSlots dev address endPoint slots mem) freed := by
  induction slots generalizing mem walks with
  | nil => exact ⟨List.nodup_nil, by simp [freedEds], Freed.nothing tree⟩
  | cons slot rest ih =>
    obtain ⟨some, onceEarly, inEarly, first⟩ :=
      freeSlot tree telling (inside slot List.mem_cons_self)
    set early := matchingEds address endPoint walkLimit mem (dev.hccaInterruptTable slot)
    set middle := freeMatchingEds address endPoint walkLimit mem (dev.hccaInterruptTable slot)
    obtain ⟨onceLate, members, done⟩ :=
      ih (fun slot member => inside slot (List.mem_cons_of_mem _ member)) first.tree
        (first.telling telling)
    have freedEq : freedEds dev address endPoint (slot :: rest) mem =
        early ++ freedEds dev address endPoint rest middle := by
      rw [freedEds]
      exact if_neg some
    have afterEq : freeSlots dev address endPoint (slot :: rest) mem =
        freeSlots dev address endPoint rest middle := by
      rw [freeSlots, List.foldl_cons, if_neg some]
      rfl
    have inLate : ∀ ed, ed ∈ freedEds dev address endPoint rest middle ↔
        owner ed = Option.some (address, endPoint) ∧ ∃ slot ∈ rest, ed ∈ walks slot ∧
          ed ∉ early := by
      intro ed
      rw [members]
      simp only [List.mem_filter, decide_eq_true_eq]
    simp only [freedEq, afterEq]
    refine ⟨List.nodup_append.mpr ⟨onceEarly, onceLate, ?_⟩, fun ed => ?_, first.append done⟩
    · rintro ed member _ again rfl
      obtain ⟨-, _, -, -, notEarly⟩ := (inLate ed).mp again
      exact notEarly member
    · rw [List.mem_append, inEarly, inLate]
      constructor
      · rintro (⟨mine, member⟩ | ⟨mine, other, among, member, -⟩)
        · exact ⟨mine, slot, List.mem_cons_self, member⟩
        · exact ⟨mine, other, List.mem_cons_of_mem _ among, member⟩
      · rintro ⟨mine, other, among, member⟩
        by_cases gone : ed ∈ early
        · exact Or.inl ((inEarly ed).mp gone)
        · rcases List.mem_cons.mp among with rfl | later
          · exact absurd ((inEarly ed).mpr ⟨mine, member⟩) gone
          · exact Or.inr ⟨mine, other, later, member, gone⟩

end IntervalTree

end MuRockchip.Ohci
