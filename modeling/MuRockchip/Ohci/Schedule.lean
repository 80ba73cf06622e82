/-
The interrupt schedule and the interrupt contexts of the OHCI driver (`OhciUrb.c`,
`OhciSched.c`).

Interrupt endpoint descriptors hang behind the skeleton descriptors of `IntervalList`, which
form a tree under the 32 slots of the HCCA. Interrupt contexts are kept in a list of their
own, and own the transfer descriptors of their transfer.

* `freeTdChain_eq`: freeing a chain frees its descriptors and changes nothing else.
* `detach_attach`: taking an endpoint descriptor off again leaves the list as it was.
* `ohciFindMinInterruptEdList_mem`: the least list is one of the interrupt lists.
* `Contexts.add`: a context that is added is the last of the list.
-/
import Mathlib.Tactic.IntervalCases
import MuRockchip.Ohci.Device

namespace MuRockchip.Ohci

open MuRockchip.Base

/-! ### Finding a place -/

def countEdNum (mem : Descriptors) : Nat → UInt32 → Nat
  | 0, _ => 0
  | fuel + 1, ed => if ed = 0 then 0 else countEdNum mem fuel (nextEd mem ed) + 1

/-- `while (PollingInterval >= Index * 2 && Depth > 0)`. -/
def intervalDepth (pollingInterval : UInt64) : Nat → UInt64 → Nat
  | 0, _ => 0
  | depth + 1, index =>
    if index * 2 ≤ pollingInterval then intervalDepth pollingInterval depth (index * 2)
    else depth + 1

/-- One round of `OhciFindMinInterruptEDList`: the least count so far and its list. -/
def minEdList (dev : UsbOhciHcDev) (depth : Nat) (least : Nat × UInt32) (index : Nat) :
    Nat × UInt32 :=
  let headEd := dev.intervalList depth index
  let edNum := countEdNum dev.mem walkLimit headEd
  if edNum < least.1 then (edNum, headEd) else least

def ohciFindMinInterruptEdList (dev : UsbOhciHcDev) (depth : Nat) : UInt32 :=
  if depth > 5 then 0
  else ((List.range (32 >>> depth)).foldl (minEdList dev depth) (0xFFFFFFFF, 0)).2

/-- An endpoint descriptor `OhciFindWorkingEd` looks for. -/
def EdDescriptor.working (ed : EdDescriptor) (deviceAddress endPointNum : UInt8)
    (edDir : BitVec 2) : Bool :=
  ed.halted = 0 && ed.skip = 0 && ed.functionAddress.toNat = deviceAddress.toNat &&
    ed.endPointNum.toNat = endPointNum.toNat && ed.direction = edDir

def ohciFindWorkingEd (mem : Descriptors) (deviceAddress endPointNum : UInt8)
    (edDir : BitVec 2) : Nat → UInt32 → UInt32
  | 0, _ => 0
  | fuel + 1, ed =>
    if ed = 0 then 0
    else if (mem.ed ed).working deviceAddress endPointNum edDir then ed
    else ohciFindWorkingEd mem deviceAddress endPointNum edDir fuel (nextEd mem ed)

/-- `while (HeadEd->NextED != Ed)`. -/
def edBefore (mem : Descriptors) (ed : UInt32) : Nat → UInt32 → UInt32
  | 0, headEd => headEd
  | fuel + 1, headEd =>
    if nextEd mem headEd = ed then headEd else edBefore mem ed fuel (nextEd mem headEd)

/-! ### Taking descriptors off -/

/-- The descriptor is one of those `OhciFreeInterruptEdByAddr` removes. -/
def EdDescriptor.matches (ed : EdDescriptor) (functionAddress endPointNum : UInt8) : Bool :=
  ed.functionAddress.toNat = functionAddress.toNat && ed.endPointNum.toNat = endPointNum.toNat

/-- `while (Ed->NextED != 0)` of `OhciFreeInterruptEdByAddr`. -/
def freeMatchingEds (functionAddress endPointNum : UInt8) : Nat → Descriptors → UInt32 →
    Descriptors
  | 0, mem, _ => mem
  | fuel + 1, mem, ed =>
    let tempEd := nextEd mem ed
    if tempEd = 0 then mem
    else if (mem.ed tempEd).matches functionAddress endPointNum then
      freeMatchingEds functionAddress endPointNum fuel
        (usbHcFreeDescriptor (setNextEd mem ed (nextEd mem tempEd)) tempEd) ed
    else freeMatchingEds functionAddress endPointNum fuel mem tempEd

def ohciFreeInterruptEdByAddr (dev : UsbOhciHcDev) (functionAddress endPointNum : UInt8) :
    EfiStatus × UsbOhciHcDev :=
  let mem := (List.range 32).foldl (fun mem index =>
    if dev.hccaInterruptTable index = 0 then mem
    else freeMatchingEds functionAddress endPointNum walkLimit mem (dev.hccaInterruptTable index))
    dev.mem
  (EfiStatus.success, { dev with mem := mem })

/-! ### Contexts -/

/-- No list of contexts is longer than there are pointers. -/
def contextLimit : Nat := 2 ^ 64

/-- The links of the context list. -/
def nextEntry (dev : UsbOhciHcDev) (entry : UInt64) : UInt64 := (dev.entry entry).nextEntry

/-- `Entry->NextEntry` is set. -/
def setNextEntry (dev : UsbOhciHcDev) (entry next : UInt64) : UsbOhciHcDev :=
  { dev with entry := Function.update dev.entry entry { dev.entry entry with nextEntry := next } }

/-- `AllocatePool` of a context. An answer that is null or in use counts as a failed one. -/
def allocateEntry (dev : UsbOhciHcDev) (answer : Option UInt64)
    (contents : InterruptContextEntry) : Option (UInt64 × UsbOhciHcDev) :=
  match answer with
  | none => none
  | some entry =>
    if entry = 0 ∨ dev.entryLive entry = true then none
    else some (entry, { dev with
      entry := Function.update dev.entry entry contents
      entryLive := Function.update dev.entryLive entry true })

def ohciAddInterruptContextEntry (dev : UsbOhciHcDev) (newEntry : UInt64) : UsbOhciHcDev :=
  if dev.interruptContextList = 0 then { dev with interruptContextList := newEntry }
  else
    let entry := walkEnd (nextEntry dev) contextLimit dev.interruptContextList
    setNextEntry dev entry newEntry

def ohciFreeInterruptContextEntry (dev : UsbOhciHcDev) (entry : UInt64) :
    EfiStatus × UsbOhciHcDev :=
  if entry = 0 then (EfiStatus.invalidParameter, dev)
  else
    let contents := dev.entry entry
    let dev := if contents.ucBufferMapping ≠ 0 then dev.dmaUnmap contents.ucBufferMapping else dev
    let dev :=
      if contents.ucBuffer ≠ 0 then
        { dev with buffer := Function.update dev.buffer contents.ucBuffer false }
      else dev
    (EfiStatus.success, { dev with
      mem := freeTdChain walkLimit dev.mem contents.dataTd
      entry := Function.update dev.entry entry { contents with dataTd := 0 }
      entryLive := Function.update dev.entryLive entry false })

/-- The context is one of those `OhciFreeInterruptContext` frees. -/
def InterruptContextEntry.matches (entry : InterruptContextEntry)
    (deviceAddress endPointAddress : UInt8) : Bool :=
  entry.deviceAddress = deviceAddress && entry.endPointAddress = endPointAddress

/-- `*DataToggle` of a context that is freed. -/
def contextToggle (dev : UsbOhciHcDev) (entry : UInt64) : UInt8 :=
  UInt8.ofNat (dev.mem.td (dev.entry entry).dataTd).dataToggle.toNat &&& 1

/-- The first loop of `OhciFreeInterruptContext`: matching contexts at the head. -/
def freeLeadingContexts (deviceAddress endPointAddress : UInt8) : Nat → UsbOhciHcDev → UInt8 →
    UsbOhciHcDev × UInt8
  | 0, dev, dataToggle => (dev, dataToggle)
  | fuel + 1, dev, dataToggle =>
    let tempEntry := dev.interruptContextList
    if tempEntry ≠ 0 ∧ (dev.entry tempEntry).matches deviceAddress endPointAddress = true then
      let toggle := contextToggle dev tempEntry
      let dev := { dev with interruptContextList := nextEntry dev tempEntry }
      freeLeadingContexts deviceAddress endPointAddress fuel
        (ohciFreeInterruptContextEntry dev tempEntry).2 toggle
    else (dev, dataToggle)

/-- The second loop: matching contexts behind one that stays. -/
def freeLaterContexts (deviceAddress endPointAddress : UInt8) : Nat → UsbOhciHcDev → UInt64 →
    UInt8 → UsbOhciHcDev × UInt8
  | 0, dev, _, dataToggle => (dev, dataToggle)
  | fuel + 1, dev, entry, dataToggle =>
    let tempEntry := nextEntry dev entry
    if tempEntry = 0 then (dev, dataToggle)
    else if (dev.entry tempEntry).matches deviceAddress endPointAddress then
      let toggle := contextToggle dev tempEntry
      let dev := setNextEntry dev entry (nextEntry dev tempEntry)
      freeLaterContexts deviceAddress endPointAddress fuel
        (ohciFreeInterruptContextEntry dev tempEntry).2 entry toggle
    else freeLaterContexts deviceAddress endPointAddress fuel dev tempEntry dataToggle

def ohciFreeInterruptContext (dev : UsbOhciHcDev)
    (deviceAddress endPointAddress dataToggle : UInt8) :
    UsbOhciHcDev × UInt8 :=
  let (dev, dataToggle) :=
    freeLeadingContexts deviceAddress endPointAddress contextLimit dev dataToggle
  if dev.interruptContextList = 0 then (dev, dataToggle)
  else
    freeLaterContexts deviceAddress endPointAddress contextLimit dev dev.interruptContextList
      dataToggle

/-! ### Freeing a chain -/

variable {head new : UInt32} {mem : Descriptors} {eds : List UInt32} {dev : UsbOhciHcDev}

/-- Freeing a chain frees its descriptors and changes nothing else. -/
theorem freeTdChain_eq {cells : List UInt32} {fuel : Nat}
    (chain : Segment (nextTdPointer mem) head cells 0) (enough : cells.length ≤ fuel) :
    freeTdChain fuel mem head =
      { mem with live := fun pointer => mem.live pointer && !decide (pointer ∈ cells) } := by
  induction cells generalizing mem head fuel with
  | nil =>
    have null : head = 0 := chain
    have result : freeTdChain fuel mem head = mem := by
      cases fuel with
      | zero => rfl
      | succ fuel => rw [freeTdChain, if_pos null]
    simp [result]
  | cons td rest ih =>
    obtain ⟨rfl, nonzero, tail⟩ := chain
    cases fuel with
    | zero => exact absurd enough (Nat.not_succ_le_zero _)
    | succ fuel =>
      have same : nextTdPointer (usbHcFreeDescriptor mem head) = nextTdPointer mem := rfl
      rw [freeTdChain, if_neg nonzero,
        ih (by rw [same]; exact tail) (Nat.le_of_succ_le_succ enough)]
      have live : (fun pointer => (usbHcFreeDescriptor mem head).live pointer &&
          !decide (pointer ∈ rest)) =
          fun pointer => mem.live pointer && !decide (pointer ∈ head :: rest) := by
        funext pointer
        by_cases here : pointer = head
        · simp [usbHcFreeDescriptor, here]
        · simp [usbHcFreeDescriptor, Descriptors.setLive_live_ne here, here]
      rw [live]
      rfl

theorem freeTdChain_chain {cells : List UInt32} (chain : TdChain mem head cells) :
    freeTdChain walkLimit mem head =
      { mem with live := fun pointer => mem.live pointer && !decide (pointer ∈ cells) } :=
  freeTdChain_eq chain.driver chain.driver.length_le

/-! ### Endpoint descriptors on a list -/

theorem ohciAttachEd_ed (nonzero : head ≠ 0) (apart : new ≠ head) (unlinked : nextEd mem new = 0) :
    (ohciAttachEd mem head new).ed =
      Function.update (Function.update mem.ed head { mem.ed head with nextEd := new }) new
        { mem.ed new with nextEd := nextEd mem head } := by
  unfold ohciAttachEd
  rw [if_neg nonzero]
  by_cases last : nextEd mem head = 0
  · rw [if_pos last, last]
    funext pointer
    by_cases same : pointer = new
    · subst same
      rw [Function.update_self, setNextEd, Descriptors.setEd_ed_ne apart]
      have none : (mem.ed pointer).nextEd = 0 := unlinked
      cases content : mem.ed pointer
      simp only [content] at none
      simp only [none]
    · rw [Function.update_of_ne same]
      rfl
  · rw [if_neg last]
    funext pointer
    by_cases same : pointer = new
    · subst same
      rw [Function.update_self]
      simp only [setNextEd, Descriptors.setEd_ed_same, Descriptors.setEd_ed_ne apart]
    · rw [Function.update_of_ne same]
      simp only [setNextEd, Descriptors.setEd_ed_ne same]
      rfl

theorem nextEd_attached (nonzero : head ≠ 0) (apart : new ≠ head) (unlinked : nextEd mem new = 0) :
    nextEd (ohciAttachEd mem head new) head = new ∧
      nextEd (ohciAttachEd mem head new) new = nextEd mem head := by
  constructor
  · rw [nextEd, ohciAttachEd_ed nonzero apart unlinked, Function.update_of_ne apart.symm,
      Function.update_self]
  · rw [nextEd, ohciAttachEd_ed nonzero apart unlinked, Function.update_self]

/-- Taking the descriptor off again leaves all others as they were. -/
theorem detach_attach (nonzero : head ≠ 0) (apart : new ≠ head) (unlinked : nextEd mem new = 0)
    {other : UInt32} (differs : other ≠ new) :
    (setNextEd (ohciAttachEd mem head new) head
      (nextEd (ohciAttachEd mem head new) new)).ed other = mem.ed other := by
  rw [(nextEd_attached nonzero apart unlinked).2]
  by_cases same : other = head
  · subst same
    rw [setNextEd, Descriptors.setEd_ed_same, ohciAttachEd_ed nonzero apart unlinked,
      Function.update_of_ne differs, Function.update_self]
    rfl
  · rw [setNextEd, Descriptors.setEd_ed_ne same, ohciAttachEd_ed nonzero apart unlinked,
      Function.update_of_ne differs, Function.update_of_ne same]

/-! ### Schedules -/

/-- The interrupt lists end, are not empty, and hold endpoint descriptors in use, each with
the transfer descriptors queued on it. -/
structure Scheduled (dev : UsbOhciHcDev) : Prop where
  lists : ∀ depth ≤ 5, ∀ index < 32 >>> depth, ∃ eds, eds ≠ [] ∧
    Segment (nextEd dev.mem) (dev.intervalList depth index) eds 0 ∧ eds.length < 0xFFFFFFFF ∧
    ∀ ed ∈ eds, dev.mem.live ed = true ∧ ∃ queue, Queued dev.mem ed queue

theorem countEdNum_eq {ed : UInt32} {fuel : Nat} (list : Segment (nextEd mem) ed eds 0)
    (enough : eds.length ≤ fuel) :
    countEdNum mem fuel ed = eds.length := by
  induction eds generalizing ed fuel with
  | nil =>
    have null : ed = 0 := list
    cases fuel with
    | zero => rfl
    | succ fuel => rw [countEdNum, if_pos null]; rfl
  | cons head rest ih =>
    obtain ⟨rfl, nonzero, tail⟩ := list
    cases fuel with
    | zero => exact absurd enough (Nat.not_succ_le_zero _)
    | succ fuel =>
      rw [countEdNum, if_neg nonzero, ih tail (Nat.le_of_succ_le_succ enough)]
      rfl

theorem intervalDepth_le (pollingInterval : UInt64) (depth : Nat) (index : UInt64) :
    intervalDepth pollingInterval depth index ≤ depth := by
  induction depth generalizing index with
  | zero => exact Nat.le_refl 0
  | succ depth ih =>
    rw [intervalDepth]
    split
    · exact Nat.le_succ_of_le (ih _)
    · exact Nat.le_refl _

theorem minEdList_foldl (dev : UsbOhciHcDev) (depth : Nat) (indices : List Nat)
    (least : Nat × UInt32) :
    let result := indices.foldl (minEdList dev depth) least
    result.1 ≤ least.1 ∧
      (∀ index ∈ indices, result.1 ≤ countEdNum dev.mem walkLimit (dev.intervalList depth index)) ∧
      (result = least ∨ ∃ index ∈ indices, result.2 = dev.intervalList depth index) := by
  induction indices generalizing least with
  | nil => exact ⟨Nat.le_refl _, by simp, Or.inl rfl⟩
  | cons index rest ih =>
    rw [List.foldl_cons]
    obtain ⟨below, all, found⟩ := ih (minEdList dev depth least index)
    have step : (minEdList dev depth least index).1 ≤ least.1 ∧
        (minEdList dev depth least index).1 ≤
          countEdNum dev.mem walkLimit (dev.intervalList depth index) ∧
        (minEdList dev depth least index = least ∨
          (minEdList dev depth least index).2 = dev.intervalList depth index) := by
      unfold minEdList
      simp only
      split
      · next less => exact ⟨Nat.le_of_lt less, Nat.le_refl _, Or.inr rfl⟩
      · next more => exact ⟨Nat.le_refl _, Nat.not_lt.mp more, Or.inl rfl⟩
    refine ⟨below.trans step.1, ?_, ?_⟩
    · intro other member
      rcases List.mem_cons.mp member with rfl | inRest
      · exact below.trans step.2.1
      · exact all other inRest
    · rcases found with same | ⟨other, member, same⟩
      · rcases step.2.2 with kept | taken
        · exact Or.inl (same.trans kept)
        · exact Or.inr ⟨index, List.mem_cons_self, by rw [same, taken]⟩
      · exact Or.inr ⟨other, List.mem_cons_of_mem index member, same⟩

/-- `OhciFindMinInterruptEDList` finds one of the lists, if the first of them is short. -/
theorem ohciFindMinInterruptEdList_mem {depth : Nat} (inside : depth ≤ 5)
    (list : Segment (nextEd dev.mem) (dev.intervalList depth 0) eds 0)
    (short : eds.length < 0xFFFFFFFF) :
    ∃ index < 32 >>> depth,
      ohciFindMinInterruptEdList dev depth = dev.intervalList depth index := by
  rw [ohciFindMinInterruptEdList, if_neg (Nat.not_lt.mpr inside)]
  have some : 0 < 32 >>> depth := by
    interval_cases depth <;> decide
  obtain ⟨-, all, found⟩ := minEdList_foldl dev depth
    (List.range (32 >>> depth)) (0xFFFFFFFF, 0)
  rcases found with same | ⟨index, member, result⟩
  · have least := all 0 (List.mem_range.mpr some)
    have enough : eds.length ≤ walkLimit := list.length_le
    rw [same, countEdNum_eq list enough] at least
    exact absurd least (Nat.not_le.mpr short)
  · exact ⟨index, List.mem_range.mp member, result⟩

theorem Scheduled.findMin (scheduled : Scheduled dev) {depth : Nat} (inside : depth ≤ 5) :
    ∃ index < 32 >>> depth,
      ohciFindMinInterruptEdList dev depth = dev.intervalList depth index := by
  have some : 0 < 32 >>> depth := by
    interval_cases depth <;> decide
  obtain ⟨eds, -, list, short, -⟩ := scheduled.lists depth inside 0 some
  exact ohciFindMinInterruptEdList_mem inside list short

/-- `OhciFindWorkingEd` finds a working descriptor of the list, or none. -/
theorem ohciFindWorkingEd_spec (list : Segment (nextEd mem) head eds 0)
    (deviceAddress endPointNum : UInt8) (edDir : BitVec 2) (fuel : Nat) :
    let ed := ohciFindWorkingEd mem deviceAddress endPointNum edDir fuel head
    ed ≠ 0 → ed ∈ eds ∧ (mem.ed ed).working deviceAddress endPointNum edDir = true := by
  induction fuel generalizing head eds with
  | zero => exact fun some => absurd rfl some
  | succ fuel ih =>
    intro ed some
    cases eds with
    | nil =>
      have null : head = 0 := list
      have none : ed = 0 := by simp only [ed, ohciFindWorkingEd, if_pos null]
      exact absurd none some
    | cons first rest =>
      obtain ⟨rfl, nonzero, tail⟩ := list
      by_cases works : (mem.ed head).working deviceAddress endPointNum edDir = true
      · have found : ed = head := by simp only [ed, ohciFindWorkingEd, if_neg nonzero, if_pos works]
        rw [found]
        exact ⟨List.mem_cons_self, works⟩
      · have further : ed = ohciFindWorkingEd mem deviceAddress endPointNum edDir fuel
            (nextEd mem head) := by
          simp only [ed, ohciFindWorkingEd, if_neg nonzero, if_neg works]
        rw [further] at some ⊢
        obtain ⟨member, working⟩ := ih tail some
        exact ⟨List.mem_cons_of_mem head member, working⟩

/-! ### The context list -/

/-- The contexts on the list of the driver. -/
structure Contexts (dev : UsbOhciHcDev) (entries : List UInt64) : Prop where
  segment : Segment (nextEntry dev) dev.interruptContextList entries 0
  live : ∀ entry ∈ entries, dev.entryLive entry = true

theorem Contexts.add {entries : List UInt64} {entry : UInt64} (contexts : Contexts dev entries)
    (contents : InterruptContextEntry) (nonzero : entry ≠ 0) (fresh : dev.entryLive entry = false)
    (unlinked : contents.nextEntry = 0) :
    let allocated := { dev with
      entry := Function.update dev.entry entry contents
      entryLive := Function.update dev.entryLive entry true }
    let after := ohciAddInterruptContextEntry allocated entry
    Contexts after (entries ++ [entry]) ∧ after.entry entry = contents ∧
      after.mem = dev.mem := by
  intro allocated after
  have apart : ∀ other ∈ entries, other ≠ entry := by
    rintro other member rfl
    rw [contexts.live other member] at fresh
    cases fresh
  have segment : Segment (nextEntry allocated) allocated.interruptContextList entries 0 :=
    contexts.segment.congr fun other member => by
      simp only [nextEntry, allocated, Function.update_of_ne (apart other member)]
  have lives : ∀ other ∈ entries ++ [entry], allocated.entryLive other = true := by
    intro other member
    by_cases same : other = entry
    · simp only [allocated, same, Function.update_self]
    · have old : other ∈ entries := by simpa [same] using member
      simp only [allocated, Function.update_of_ne same]
      exact contexts.live other old
  have last : nextEntry allocated entry = 0 := by
    simp only [nextEntry, allocated, Function.update_self, unlinked]
  rcases entries.eq_nil_or_concat with empty | ⟨cells, tail, full⟩
  · subst empty
    have null : allocated.interruptContextList = 0 := segment
    have result : after = { allocated with interruptContextList := entry } := by
      simp only [after, ohciAddInterruptContextEntry, if_pos null]
    rw [result]
    refine ⟨⟨⟨rfl, nonzero, last⟩, lives⟩, ?_, rfl⟩
    simp only [allocated, Function.update_self]
  · rw [List.concat_eq_append] at full
    subst full
    have some : allocated.interruptContextList ≠ 0 := by
      cases cells with
      | nil => exact segment.1 ▸ segment.2.1
      | cons cell rest => exact segment.1 ▸ segment.2.1
    have short : cells.length ≤ contextLimit := by
      have bound := segment.length_le_of_injective
        (fun _ _ same => UInt64.toNat_inj.mp same) UInt64.toNat_lt
      rw [List.length_append, List.length_singleton] at bound
      exact (Nat.le_succ _).trans bound
    have result : after = setNextEntry allocated tail entry := by
      simp only [after, ohciAddInterruptContextEntry, if_neg some, walkEnd_eq segment short]
    have once := List.nodup_append.mp segment.nodup
    have notTail : entry ≠ tail := (apart tail (by simp)).symm
    rw [result]
    refine ⟨⟨Segment.extend (Segment.relink segment ?_ ?_) nonzero ?_, lives⟩, ?_, rfl⟩
    · intro cell member
      have differs := once.2.2 cell member tail (List.mem_singleton_self tail)
      simp only [nextEntry, setNextEntry, Function.update_of_ne differs]
    · simp only [nextEntry, setNextEntry, Function.update_self]
    · simp only [nextEntry, setNextEntry, Function.update_of_ne notTail]
      exact last
    · simp only [setNextEntry, Function.update_of_ne notTail, allocated, Function.update_self]

end MuRockchip.Ohci
