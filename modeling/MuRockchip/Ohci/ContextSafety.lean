/-
The list of interrupt contexts under the interrupt timer (`OhciSched.c`, `Ohci.c`).

Callbacks run in the middle of a pass over the list, and may submit and cancel transfers. A
cancellation takes the matching contexts off the list and frees them; a submission adds its
context at the end.

* `ohciFreeInterruptContext_spec`: what a cancellation does to the list.
* `houseKeeper_listSafe_iff`: which passes leave the list as it has to be, and touch no
  context that has been freed.
-/
import MuRockchip.Ohci.HouseKeeper

namespace MuRockchip.Ohci

open MuRockchip.Base

/-! ### Freeing contexts -/

/-- The contexts `gone` have been freed, and the endpoints of all contexts are kept. -/
structure FreesContexts (before after : UsbOhciHcDev) (gone : List UInt64) : Prop where
  live : ∀ entry, after.entryLive entry = (before.entryLive entry && !decide (entry ∈ gone))
  endpoints : ∀ entry address endPoint,
    (after.entry entry).matches address endPoint = (before.entry entry).matches address endPoint

theorem FreesContexts.refl (dev : UsbOhciHcDev) : FreesContexts dev dev [] :=
  ⟨fun _ => by simp, fun _ _ _ => rfl⟩

variable {first second third after before between dev : UsbOhciHcDev} {entries : List UInt64}

theorem FreesContexts.trans {gone gone' : List UInt64} (frees : FreesContexts first second gone)
    (frees' : FreesContexts second third gone') :
    FreesContexts first third (gone ++ gone') where
  live entry := by
    rw [frees'.live, frees.live]
    simp only [List.mem_append, Bool.decide_or, Bool.not_or, Bool.and_assoc]
  endpoints entry address endPoint := by rw [frees'.endpoints, frees.endpoints]

theorem ohciFreeInterruptContextEntry_spec (dev : UsbOhciHcDev) {entry : UInt64}
    (nonzero : entry ≠ 0) :
    let after := (ohciFreeInterruptContextEntry dev entry).2
    nextEntry after = nextEntry dev ∧ after.interruptContextList = dev.interruptContextList ∧
      FreesContexts dev after [entry] := by
  intro after
  have entries : after.entry =
      Function.update dev.entry entry { dev.entry entry with dataTd := 0 } := by
    simp only [after, ohciFreeInterruptContextEntry, if_neg nonzero]
    split <;> split <;> rfl
  have lives : after.entryLive = Function.update dev.entryLive entry false := by
    simp only [after, ohciFreeInterruptContextEntry, if_neg nonzero]
    split <;> split <;> rfl
  have list : after.interruptContextList = dev.interruptContextList := by
    simp only [after, ohciFreeInterruptContextEntry, if_neg nonzero]
    split <;> split <;> rfl
  refine ⟨?_, list, ?_, ?_⟩
  · funext other
    rw [nextEntry, entries, nextEntry]
    by_cases same : other = entry
    · rw [same, Function.update_self]
    · rw [Function.update_of_ne same]
  · intro other
    rw [lives]
    by_cases same : other = entry
    · simp [same]
    · rw [Function.update_of_ne same]
      simp [same]
  · intro other address endPoint
    rw [entries]
    by_cases same : other = entry
    · rw [same, Function.update_self]
      rfl
    · rw [Function.update_of_ne same]

section

variable (address endPoint : UInt8)

variable {dev : UsbOhciHcDev} {entries : List UInt64}

theorem freeLeadingContexts_spec {fuel : Nat}
    (list : Segment (nextEntry dev) dev.interruptContextList entries 0)
    (enough : entries.length ≤ fuel) (toggle : UInt8) :
    let after := (freeLeadingContexts address endPoint fuel dev toggle).1
    ∃ gone rest, entries = gone ++ rest ∧
      (∀ entry ∈ gone, (dev.entry entry).matches address endPoint = true) ∧
      (∀ entry ∈ rest.head?, (dev.entry entry).matches address endPoint = false) ∧
      Segment (nextEntry after) after.interruptContextList rest 0 ∧
      nextEntry after = nextEntry dev ∧ FreesContexts dev after gone := by
  induction entries generalizing dev fuel toggle with
  | nil =>
    intro after
    have null : dev.interruptContextList = 0 := list
    have result : after = dev := by
      cases fuel with
      | zero => rfl
      | succ fuel => simp only [after, freeLeadingContexts, null, ne_eq, not_true_eq_false,
          false_and, if_false]
    rw [result]
    exact ⟨[], [], rfl, by simp, by simp, list, rfl, FreesContexts.refl dev⟩
  | cons entry rest ih =>
    intro after
    obtain ⟨here, nonzero, tail⟩ := list
    cases fuel with
    | zero => exact absurd enough (Nat.not_succ_le_zero _)
    | succ fuel =>
      by_cases goes : (dev.entry entry).matches address endPoint = true
      · let unlinked := { dev with interruptContextList := nextEntry dev entry }
        obtain ⟨links, head, frees⟩ := ohciFreeInterruptContextEntry_spec unlinked nonzero
        have result : after = (freeLeadingContexts address endPoint fuel
            (ohciFreeInterruptContextEntry unlinked entry).2 (contextToggle dev entry)).1 := by
          simp only [after, freeLeadingContexts, here, ne_eq, nonzero, not_false_eq_true, goes,
            and_self, if_true, unlinked]
        have list' : Segment (nextEntry (ohciFreeInterruptContextEntry unlinked entry).2)
            (ohciFreeInterruptContextEntry unlinked entry).2.interruptContextList rest 0 := by
          rw [links, head]
          exact tail
        obtain ⟨gone, kept, split, matching, first, segment, sameLinks, freed⟩ :=
          ih list' (Nat.le_of_succ_le_succ enough) (contextToggle dev entry)
        have step : FreesContexts dev (ohciFreeInterruptContextEntry unlinked entry).2 [entry] :=
          ⟨frees.live, frees.endpoints⟩
        rw [result]
        refine ⟨entry :: gone, kept, by rw [split]; rfl, ?_, ?_, segment, ?_, step.trans freed⟩
        · intro other member
          rcases List.mem_cons.mp member with rfl | inGone
          · exact goes
          · rw [← step.endpoints]
            exact matching other inGone
        · intro other member
          rw [← step.endpoints]
          exact first other member
        · rw [sameLinks, links]
          rfl
      · have stays : ¬ (entry ≠ 0 ∧ (dev.entry entry).matches address endPoint = true) :=
          fun both => goes both.2
        have result : after = dev := by
          simp only [after, freeLeadingContexts, here]
          rw [if_neg stays]
        rw [result]
        refine ⟨[], entry :: rest, rfl, by simp, ?_, ⟨here, nonzero, tail⟩, rfl,
          FreesContexts.refl dev⟩
        intro other member
        obtain rfl : entry = other := by simpa using member
        exact Bool.eq_false_iff.mpr goes

/-- The second loop frees the matching contexts behind `entry`. -/
theorem freeLaterContexts_spec {entry : UInt64} {rest : List UInt64} {fuel : Nat}
    (list : Segment (nextEntry dev) (nextEntry dev entry) rest 0) (apart : entry ∉ rest)
    (enough : rest.length ≤ fuel) (toggle : UInt8) :
    let after := (freeLaterContexts address endPoint fuel dev entry toggle).1
    Segment (nextEntry after) (nextEntry after entry)
        (rest.filter fun other => !(dev.entry other).matches address endPoint) 0 ∧
      after.interruptContextList = dev.interruptContextList ∧
      (∀ other, other ∉ entry :: rest → nextEntry after other = nextEntry dev other) ∧
      FreesContexts dev after
        (rest.filter fun other => (dev.entry other).matches address endPoint) := by
  induction rest generalizing dev entry fuel toggle with
  | nil =>
    intro after
    have null : nextEntry dev entry = 0 := list
    have result : after = dev := by
      cases fuel with
      | zero => rfl
      | succ fuel => simp only [after, freeLaterContexts, null, if_true]
    rw [result]
    exact ⟨list, rfl, fun _ _ => rfl, FreesContexts.refl dev⟩
  | cons next rest ih =>
    intro after
    obtain ⟨here, nonzero, tail⟩ := list
    have whole : Segment (nextEntry dev) next (next :: rest) 0 := ⟨rfl, nonzero, tail⟩
    have once := List.nodup_cons.mp whole.nodup
    rw [List.mem_cons, not_or] at apart
    cases fuel with
    | zero => exact absurd enough (Nat.not_succ_le_zero _)
    | succ fuel =>
      have enough' : rest.length ≤ fuel := Nat.le_of_succ_le_succ enough
      by_cases goes : (dev.entry next).matches address endPoint = true
      · let unlinked := setNextEntry dev entry (nextEntry dev next)
        obtain ⟨links, head, frees⟩ := ohciFreeInterruptContextEntry_spec unlinked nonzero
        set freed := (ohciFreeInterruptContextEntry unlinked next).2
        have result : after =
            (freeLaterContexts address endPoint fuel freed entry (contextToggle dev next)).1 := by
          simp only [after, freeLaterContexts, here, nonzero, if_false, goes, if_true, freed,
            unlinked]
        have others : ∀ other, other ≠ entry → nextEntry freed other = nextEntry dev other := by
          intro other differs
          rw [links]
          simp only [nextEntry, unlinked, setNextEntry, Function.update_of_ne differs]
        have jumps : nextEntry freed entry = nextEntry dev next := by
          rw [links]
          simp only [nextEntry, unlinked, setNextEntry, Function.update_self]
        have step : FreesContexts dev freed [next] := by
          refine ⟨frees.live, fun other a e => ?_⟩
          rw [frees.endpoints]
          simp only [unlinked, setNextEntry]
          by_cases same : other = entry
          · rw [same, Function.update_self]
            rfl
          · rw [Function.update_of_ne same]
        have list' : Segment (nextEntry freed) (nextEntry freed entry) rest 0 := by
          rw [jumps]
          exact tail.congr fun other member => others other fun same => apart.2 (same ▸ member)
        obtain ⟨segment, sameHead, outside, gone⟩ :=
          ih list' apart.2 enough' (contextToggle dev next)
        simp only [step.endpoints] at segment gone
        rw [result]
        refine ⟨?_, sameHead.trans head, ?_, ?_⟩
        · rw [List.filter_cons_of_neg (by simp [goes])]
          exact segment
        · intro other off
          simp only [List.mem_cons, not_or] at off
          rw [outside other (by simp [off.1, off.2.2]), others other off.1]
        · rw [List.filter_cons_of_pos (by simp [goes])]
          exact step.trans gone
      · have result : after = (freeLaterContexts address endPoint fuel dev next toggle).1 := by
          simp only [after, freeLaterContexts, here, nonzero, if_false, goes, Bool.false_eq_true]
        obtain ⟨segment, sameHead, outside, gone⟩ := ih tail once.1 enough' toggle
        have behind := outside entry (by simp [apart.1, apart.2])
        rw [result]
        refine ⟨?_, sameHead, ?_, ?_⟩
        · rw [List.filter_cons_of_pos (by simp [goes]), behind, here]
          exact ⟨rfl, nonzero, segment⟩
        · intro other off
          simp only [List.mem_cons, not_or] at off
          exact outside other (by simp [off.2.1, off.2.2])
        · rw [List.filter_cons_of_neg (by simp [goes])]
          exact gone

theorem ohciFreeInterruptContext_spec (contexts : Contexts dev entries) (toggle : UInt8) :
    let after := (ohciFreeInterruptContext dev address endPoint toggle).1
    Contexts after (entries.filter fun entry => !(dev.entry entry).matches address endPoint) ∧
      FreesContexts dev after
        (entries.filter fun entry => (dev.entry entry).matches address endPoint) := by
  intro after
  have short : entries.length ≤ contextLimit := contexts.segment.length_le_of_injective
    (fun _ _ same => UInt64.toNat_inj.mp same) UInt64.toNat_lt
  obtain ⟨gone, rest, split, matching, first, segment, links, frees⟩ :=
    freeLeadingContexts_spec address endPoint contexts.segment short toggle
  set leading := freeLeadingContexts address endPoint contextLimit dev toggle with leadingEq
  have goneAll : gone.filter (fun entry => (dev.entry entry).matches address endPoint) = gone :=
    List.filter_eq_self.mpr matching
  have goneNone :
      gone.filter (fun entry => !(dev.entry entry).matches address endPoint) = [] := by
    refine List.filter_eq_nil_iff.mpr fun entry member => ?_
    simp [matching entry member]
  have result : Segment (nextEntry after) after.interruptContextList
      (entries.filter fun entry => !(dev.entry entry).matches address endPoint) 0 ∧
      FreesContexts dev after
        (entries.filter fun entry => (dev.entry entry).matches address endPoint) := by
    rw [split, List.filter_append, List.filter_append, goneAll, goneNone, List.nil_append]
    cases rest with
    | nil =>
      have null : leading.1.interruptContextList = 0 := segment
      have same : after = leading.1 := by
        simp only [after, ohciFreeInterruptContext, ← leadingEq, null, if_true]
      rw [same, List.filter_nil, List.filter_nil, List.append_nil]
      exact ⟨segment, frees⟩
    | cons head tail =>
      obtain ⟨here, nonzero, behind⟩ := segment
      have stays : (dev.entry head).matches address endPoint = false := first head rfl
      have whole : Segment (nextEntry leading.1) head (head :: tail) 0 := ⟨rfl, nonzero, behind⟩
      have once := List.nodup_cons.mp whole.nodup
      have same : after = (freeLaterContexts address endPoint contextLimit leading.1 head
          leading.2).1 := by
        simp only [after, ohciFreeInterruptContext, ← leadingEq, here, nonzero, if_false]
      have short' : tail.length ≤ contextLimit := by
        rw [split, List.length_append, List.length_cons] at short
        omega
      obtain ⟨later, sameHead, -, freed⟩ :=
        freeLaterContexts_spec address endPoint behind once.1 short' leading.2
      simp only [frees.endpoints] at later freed
      rw [same, List.filter_cons_of_pos (by simp [stays]),
        List.filter_cons_of_neg (by simp [stays])]
      exact ⟨⟨sameHead.trans here, nonzero, later⟩, frees.trans freed⟩
  refine ⟨⟨result.1, fun entry member => ?_⟩, result.2⟩
  obtain ⟨inside, stays⟩ := List.mem_filter.mp member
  rw [result.2.live, contexts.live entry inside, Bool.true_and, Bool.not_eq_true',
    decide_eq_false_iff_not, List.mem_filter, not_and]
  intro _ goes
  simp [goes] at stays

end

/-! ### Adding contexts -/

/-- Nothing has happened to the contexts. -/
structure SameContexts (before after : UsbOhciHcDev) : Prop where
  entry : after.entry = before.entry
  entryLive : after.entryLive = before.entryLive
  list : after.interruptContextList = before.interruptContextList

theorem SameContexts.refl (dev : UsbOhciHcDev) : SameContexts dev dev := ⟨rfl, rfl, rfl⟩

theorem SameContexts.links (same : SameContexts before after) :
    nextEntry after = nextEntry before := by
  funext entry
  rw [nextEntry, same.entry, nextEntry]

theorem SameContexts.contexts (same : SameContexts before after)
    (contexts : Contexts before entries) : Contexts after entries where
  segment := by
    rw [same.links, same.list]
    exact contexts.segment
  live entry member := by
    rw [same.entryLive]
    exact contexts.live entry member

/-- A context was added to the list, or nothing has happened to the contexts. -/
inductive Adds (before : UsbOhciHcDev) : UsbOhciHcDev → Prop
  | nothing {after : UsbOhciHcDev} (same : SameContexts before after) : Adds before after
  | context {between after : UsbOhciHcDev} (entry : UInt64) (contents : InterruptContextEntry)
      (start : SameContexts before between) (nonzero : entry ≠ 0)
      (unused : between.entryLive entry = false) (unlinked : contents.nextEntry = 0)
      (same : SameContexts (ohciAddInterruptContextEntry { between with
        entry := Function.update between.entry entry contents
        entryLive := Function.update between.entryLive entry true } entry) after) :
      Adds before after

theorem addContext_adds {call : InterruptCall} {answer : Option UInt64} {ed headTd : UInt32}
    {mapping : UInt64} {dev after : UsbOhciHcDev}
    (added : addContext call answer ed headTd mapping dev = some after) : Adds dev after := by
  unfold addContext at added
  split at added
  · cases added
    exact .nothing (.refl dev)
  · cases answer with
    | none =>
      simp only [allocateEntry] at added
      cases added
    | some entry =>
      by_cases unusable : entry = 0 ∨ dev.entryLive entry = true
      · simp only [allocateEntry, if_pos unusable] at added
        cases added
      · simp only [allocateEntry, if_neg unusable] at added
        cases added
        obtain ⟨nonzero, used⟩ := not_or.mp unusable
        exact .context entry _ (.refl dev) nonzero (Bool.eq_false_iff.mpr used) rfl (.refl _)

theorem Adds.of_same (adds : Adds between after)
    (same : SameContexts before between) : Adds before after := by
  cases adds with
  | nothing same' =>
    exact .nothing ⟨same'.entry.trans same.entry, same'.entryLive.trans same.entryLive,
      same'.list.trans same.list⟩
  | context entry contents start nonzero unused unlinked same' =>
    exact .context entry contents ⟨start.entry.trans same.entry,
      start.entryLive.trans same.entryLive, start.list.trans same.list⟩ nonzero unused unlinked
      same'

theorem Adds.trans_same (adds : Adds before between)
    (same : SameContexts between after) : Adds before after := by
  cases adds with
  | nothing same' =>
    exact .nothing ⟨same.entry.trans same'.entry, same.entryLive.trans same'.entryLive,
      same.list.trans same'.list⟩
  | context entry contents start nonzero unused unlinked same' =>
    exact .context entry contents start nonzero unused unlinked ⟨same.entry.trans same'.entry,
      same.entryLive.trans same'.entryLive, same.list.trans same'.list⟩

theorem interruptStages_adds (call : InterruptCall) (answers : InterruptAnswers call)
    (mapping : Mapping call.dataLength) (headEd ed : UInt32) (dev : UsbOhciHcDev) :
    Adds dev (interruptStages call answers mapping headEd ed dev).dev := by
  unfold interruptStages
  generalize transferChain (dataPidDir call.endPointAddress) call.maxPacketLength answers.tds
    dev.mem ed call.dataToggle mapping.address mapping.length = stage
  simp only
  split
  · exact .nothing ⟨rfl, rfl, rfl⟩
  · cases added : addContext call answers.entry ed stage.head mapping.handle
        { dev with mem := stage.mem } with
    | none => exact .nothing ⟨rfl, rfl, rfl⟩
    | some after =>
      have adds : Adds dev after := (addContext_adds added).of_same ⟨rfl, rfl, rfl⟩
      have same : SameContexts after
          { after with mem := setSkip after.mem ed 0, periodicEnable := true } := ⟨rfl, rfl, rfl⟩
      exact adds.trans_same same

/-- A submission adds one context at most. -/
theorem interruptTransfer_adds (call : InterruptCall) (answers : InterruptAnswers call)
    (dev : UsbOhciHcDev) : Adds dev (ohciInterruptTransfer call answers dev).dev := by
  unfold ohciInterruptTransfer
  split
  · exact .nothing (.refl dev)
  cases opened : dev.dmaMap answers.mapping with
  | error status => exact .nothing (.refl dev)
  | ok pair =>
    obtain ⟨mapping, mapped⟩ := pair
    have same : SameContexts dev mapped := by
      unfold UsbOhciHcDev.dmaMap at opened
      split at opened
      · cases opened
      · split at opened
        · cases opened
        · cases opened
          exact ⟨rfl, rfl, rfl⟩
    simp only
    split
    · exact .nothing ⟨same.entry, same.entryLive, same.list⟩
    · exact (interruptStages_adds call answers mapping _ _ _).of_same
        ⟨same.entry, same.entryLive, same.list⟩

/-- The list behind a submission: what was added is at its end. -/
theorem Adds.contexts (adds : Adds before after) (contexts : Contexts before entries) :
    ∃ new, Contexts after (entries ++ new) ∧
      ∀ entry, after.entryLive entry = (before.entryLive entry || decide (entry ∈ new)) := by
  cases adds with
  | nothing same =>
    refine ⟨[], ?_, fun entry => by rw [same.entryLive]; simp⟩
    rw [List.append_nil]
    exact same.contexts contexts
  | @context between _ entry contents start nonzero unused unlinked same =>
    obtain ⟨added, -, -⟩ := (start.contexts contexts).add contents nonzero unused unlinked
    refine ⟨[entry], same.contexts added, fun other => ?_⟩
    have lives : after.entryLive = Function.update between.entryLive entry true := by
      rw [same.entryLive, ohciAddInterruptContextEntry]
      split <;> rfl
    rw [lives, ← start.entryLive]
    by_cases here : other = entry
    · simp [here]
    · rw [Function.update_of_ne here]
      simp [here]

/-! ### Requests -/

/-- The arguments of `OhciAsyncInterruptTransfer`. -/
structure AsyncCall where
  deviceAddress : UInt8
  endPointAddress : UInt8
  isSlowDevice : Bool
  maxPacketLength : UInt8
  isNewTransfer : Bool
  dataToggle : UInt8
  toggle : UInt64
  pollingInterval : UInt64
  dataLength : UInt64
  callBackFunction : UInt64
  context : UInt64
  deriving DecidableEq, Repr

def AsyncCall.submission (call : AsyncCall) (ucBuffer : UInt64) : InterruptCall where
  deviceAddress := call.deviceAddress
  endPointAddress := call.endPointAddress
  isSlowDevice := call.isSlowDevice
  maxPacketLength := call.maxPacketLength
  dataToggle := call.dataToggle
  toggle := call.toggle
  pollingInterval := call.pollingInterval
  ucBuffer := ucBuffer
  dataLength := call.dataLength
  callBackFunction := call.callBackFunction
  context := call.context
  isPeriodic := true

/-- What the call asks of the world. -/
structure AsyncAnswers (call : AsyncCall) where
  ucBuffer : Option UInt64
  mapping : Except ErrorStatus (Mapping call.dataLength)
  ed : Option UInt32
  tds : List (Option UInt32)
  entry : Option UInt64

/-- `OhciAsyncInterruptTransfer`. The pages of `DmaAllocateBuffer` count as a buffer. -/
def ohciAsyncInterruptTransfer (call : AsyncCall) (answers : AsyncAnswers call)
    (dev : UsbOhciHcDev) : EfiStatus × UInt8 × UsbOhciHcDev :=
  if ¬ AsyncInterruptAccepts call.endPointAddress call.isNewTransfer call.dataToggle
      call.pollingInterval call.dataLength then
    (EfiStatus.invalidParameter, call.dataToggle, dev)
  else if call.isNewTransfer then
    match dev.allocatePool answers.ucBuffer with
    | none => (EfiStatus.outOfResources, call.dataToggle, dev)
    | some (ucBuffer, dev) =>
      let outcome := ohciInterruptTransfer (call.submission ucBuffer)
        ⟨answers.mapping, answers.ed, answers.tds, answers.entry⟩ dev
      let dev :=
        if outcome.status.isError then
          { outcome.dev with buffer := Function.update outcome.dev.buffer ucBuffer false }
        else outcome.dev
      (outcome.status, outcome.dataToggle, dev)
  else
    ohciCancelInterruptTransfer dev call.deviceAddress call.endPointAddress call.dataToggle

/-- What can happen while a callback runs: an asynchronous transfer is submitted or
cancelled, or something that leaves the contexts alone. -/
inductive Request
  | async (call : AsyncCall) (answers : AsyncAnswers call)
  | other (change : UsbOhciHcDev → UsbOhciHcDev) (keeps : ∀ dev, SameContexts dev (change dev))

def Request.perform (dev : UsbOhciHcDev) : Request → UsbOhciHcDev
  | .async call answers => (ohciAsyncInterruptTransfer call answers dev).2.2
  | .other change _ => change dev

/-- What is left of the list `before`, in order, and what was added behind it. -/
def Edits (before after : List UInt64) : Prop :=
  ∃ kept new, kept.Sublist before ∧ after = kept ++ new

theorem Edits.refl (entries : List UInt64) : Edits entries entries :=
  ⟨entries, [], .refl entries, (List.append_nil entries).symm⟩

theorem Edits.trans {first second third : List UInt64} (edits : Edits first second)
    (edits' : Edits second third) : Edits first third := by
  obtain ⟨kept, new, sub, rfl⟩ := edits
  obtain ⟨kept', new', sub', rfl⟩ := edits'
  obtain ⟨left, right, rfl, subLeft, -⟩ := List.sublist_append_iff.mp sub'
  exact ⟨left, right ++ new', subLeft.trans sub, List.append_assoc _ _ _⟩

/-- The list `before` has become `after`: what is still in use of it is still on it. -/
structure Edited (before after : UsbOhciHcDev) (entries entries' : List UInt64) : Prop where
  contexts : Contexts after entries'
  edits : Edits entries entries'
  listed : ∀ entry, (before.entryLive entry = true → entry ∈ entries) →
    after.entryLive entry = true → entry ∈ entries'

theorem Edited.refl (contexts : Contexts dev entries) :
    Edited dev dev entries entries :=
  ⟨contexts, .refl entries, fun _ listed live => listed live⟩

theorem Edited.trans {entries' entries'' : List UInt64}
    (edited : Edited first second entries entries')
    (edited' : Edited second third entries' entries'') :
    Edited first third entries entries'' :=
  ⟨edited'.contexts, edited.edits.trans edited'.edits, fun entry listed live =>
    edited'.listed entry (edited.listed entry listed) live⟩

theorem SameContexts.edited (same : SameContexts before after)
    (contexts : Contexts before entries) :
    Edited before after entries entries :=
  ⟨same.contexts contexts, .refl entries, fun entry listed live =>
    listed (by rwa [← same.entryLive])⟩

theorem Adds.edited (adds : Adds before after) (contexts : Contexts before entries) :
    ∃ entries', Edited before after entries entries' := by
  obtain ⟨new, contexts', live⟩ := adds.contexts contexts
  refine ⟨entries ++ new, contexts', ⟨entries, new, .refl entries, rfl⟩,
    fun entry listed used => ?_⟩
  rw [live, Bool.or_eq_true, decide_eq_true_eq] at used
  exact List.mem_append.mpr (used.imp listed id)

theorem ohciCancelInterruptTransfer_edited (contexts : Contexts dev entries)
    (address endPoint toggle : UInt8) :
    ∃ entries', Edited dev (ohciCancelInterruptTransfer dev address endPoint toggle).2.2 entries
      entries' := by
  let disabled := { dev with periodicEnable := false }
  have contexts' : Contexts disabled entries := ⟨contexts.segment, contexts.live⟩
  obtain ⟨freed, frees⟩ := ohciFreeInterruptContext_spec address endPoint contexts' toggle
  refine ⟨_, ⟨freed.segment, freed.live⟩, ⟨_, [], List.filter_sublist, (List.append_nil _).symm⟩,
    fun entry listed live => ?_⟩
  have used := (frees.live entry).symm.trans live
  rw [Bool.and_eq_true, Bool.not_eq_true', decide_eq_false_iff_not, List.mem_filter,
    not_and] at used
  have inside := listed used.1
  refine List.mem_filter.mpr ⟨inside, ?_⟩
  have stays := used.2 inside
  simpa using stays

theorem freeBuffer_same (dev : UsbOhciHcDev) (ucBuffer : UInt64) :
    SameContexts dev { dev with buffer := Function.update dev.buffer ucBuffer false } :=
  ⟨rfl, rfl, rfl⟩

theorem ohciAsyncInterruptTransfer_edited (contexts : Contexts dev entries) (call : AsyncCall)
    (answers : AsyncAnswers call) :
    ∃ entries', Edited dev (ohciAsyncInterruptTransfer call answers dev).2.2 entries entries' := by
  unfold ohciAsyncInterruptTransfer
  split
  · exact ⟨entries, .refl contexts⟩
  split
  swap
  · exact ohciCancelInterruptTransfer_edited contexts _ _ _
  cases given : dev.allocatePool answers.ucBuffer with
  | none => exact ⟨entries, .refl contexts⟩
  | some pair =>
    obtain ⟨ucBuffer, allocated⟩ := pair
    have same : SameContexts dev allocated := by
      unfold UsbOhciHcDev.allocatePool at given
      split at given
      · cases given
      · split at given
        · cases given
        · cases given
          exact ⟨rfl, rfl, rfl⟩
    have adds := (interruptTransfer_adds (call.submission ucBuffer)
      ⟨answers.mapping, answers.ed, answers.tds, answers.entry⟩ allocated).of_same same
    simp only
    split
    · exact (adds.trans_same (freeBuffer_same _ ucBuffer)).edited contexts
    · exact adds.edited contexts

theorem Request.perform_edited (contexts : Contexts dev entries) (request : Request) :
    ∃ entries', Edited dev (request.perform dev) entries entries' := by
  cases request with
  | async call answers => exact ohciAsyncInterruptTransfer_edited contexts call answers
  | other change keeps => exact ⟨entries, (keeps dev).edited contexts⟩

theorem performs_edited (contexts : Contexts dev entries) (requests : List Request) :
    ∃ entries', Edited dev (requests.foldl Request.perform dev) entries entries' := by
  induction requests generalizing dev entries with
  | nil => exact ⟨entries, .refl contexts⟩
  | cons request rest ih =>
    obtain ⟨entries', first⟩ := request.perform_edited contexts
    obtain ⟨entries'', others⟩ := ih first.contexts
    exact ⟨entries'', first.trans others⟩

/-! ### Passes -/

variable {World : Type}

/-- What the callbacks ask for, by their address, and what becomes of the world. -/
abbrev Behaviour (World : Type) : Type :=
  UInt64 → CallBackArguments → Firmware World → List Request × World

/-- The requests of a callback are performed one after the other. -/
def Behaviour.callBacks (behaviour : Behaviour World) : CallBacks World where
  invoke callBack arguments fw :=
    let (requests, world) := behaviour callBack arguments fw
    { fw with dev := requests.foldl Request.perform fw.dev, world := world }
  balanced _ _ _ := rfl

/-- The state behind a round. -/
def Turn.fw : Turn World → Firmware World
  | .next place => place.fw
  | .stop fw => fw

/-- The state behind the callback, where the transfer has finished. -/
def Place.ran (callBacks : CallBacks World) (place : Place World) : Firmware World :=
  if waiting place.result then place.fw else place.calledBack callBacks

/-- The transfer has finished, and is not periodic. -/
def Place.Retires (callBacks : CallBacks World) (place : Place World) : Prop :=
  place.Settled callBacks ∧
    ((place.calledBack callBacks).dev.entry place.entry).isPeriodic = false

/-- A round finds its entry on the list `before`, which the callback edits to `after`; it
reads the entry again only if it is still there. It unlinks and frees the entry if it has
finished and is not periodic, and keeps the others. -/
structure Place.ListSafe (callBacks : CallBacks World) (originalTpl : Nat) (place : Place World)
    (before after : List UInt64) : Prop where
  contexts : Contexts place.fw.dev before
  listed : place.entry ∈ before
  edits : Edits before after
  ran : Contexts (place.ran callBacks).dev after
  reads : place.Settled callBacks → place.entry ∈ after
  kept : ¬ place.Retires callBacks → Contexts (place.turn callBacks originalTpl).fw.dev after
  retired : place.Retires callBacks →
    Contexts (place.turn callBacks originalTpl).fw.dev (after.erase place.entry) ∧
      (place.turn callBacks originalTpl).fw.dev.entryLive place.entry = false

/-- Where the transfer has finished and the list is not empty, the callback has not freed the
entry, and the entry is periodic. -/
def Place.Undisturbed (callBacks : CallBacks World) (place : Place World) : Prop :=
  place.Settled callBacks →
    (place.calledBack callBacks).dev.entryLive place.entry = true ∧
      ((place.calledBack callBacks).dev.entry place.entry).isPeriodic = true

theorem Behaviour.calledBack_edited (behaviour : Behaviour World) {place : Place World}
    {entries : List UInt64} (contexts : Contexts place.fw.dev entries) :
    ∃ entries',
      Edited place.fw.dev (place.calledBack behaviour.callBacks).dev entries entries' := by
  unfold Place.calledBack
  split
  · unfold ohciInvokeInterruptCallBack
    simp only
    split
    · exact performs_edited contexts _
    · exact performs_edited contexts _
  · exact ⟨entries, .refl contexts⟩

/-- The branch for transfers that are not periodic never does what it has to: it leaves the
entry on the list, or in use. -/
theorem retire_unsafe {entry : UInt64} (contexts : Contexts dev entries) (member : entry ∈ entries)
    (preEntry : UInt64) :
    ¬ (Contexts (retire dev preEntry entry) (entries.erase entry) ∧
      (retire dev preEntry entry).entryLive entry = false) := by
  rintro ⟨erased, freed⟩
  unfold retire at erased freed
  by_cases first : preEntry = 0
  · rw [if_pos first] at freed
    have used : dev.entryLive entry = false := freed
    rw [contexts.live entry member] at used
    cases used
  · rw [if_neg first] at erased
    obtain ⟨links, head, -⟩ := ohciFreeInterruptContextEntry_spec
      (setNextEntry dev entry (nextEntry dev entry)) (contexts.segment.ne_zero member)
    have same : nextEntry (setNextEntry dev entry (nextEntry dev entry)) = nextEntry dev := by
      funext other
      simp only [nextEntry, setNextEntry]
      by_cases here : other = entry
      · rw [here, Function.update_self]
      · rw [Function.update_of_ne here]
    have segment := erased.segment
    rw [links, same, head] at segment
    have whole := contexts.segment.unique segment
    have lengths := congrArg List.length whole
    have some := List.length_pos_of_mem member
    rw [List.length_erase_of_mem member] at lengths
    omega

theorem Place.turn_retires {callBacks : CallBacks World} {place : Place World}
    (retires : place.Retires callBacks) (originalTpl : Nat) :
    (place.turn callBacks originalTpl).fw.dev =
      retire (place.calledBack callBacks).dev place.preEntry place.entry := by
  obtain ⟨⟨done, stays⟩, once⟩ := retires
  have round := place.turn_round callBacks originalTpl
  generalize place.turn callBacks originalTpl = turn at round ⊢
  cases round with
  | waits waits =>
    rw [done] at waits
    cases waits
  | emptied _ empty =>
    rw [stays] at empty
    cases empty
  | armed _ _ periodic =>
    rw [once] at periodic
    cases periodic
  | failed _ periodic =>
    rw [once] at periodic
    cases periodic
  | retired => rfl

theorem Place.listSafe (behaviour : Behaviour World) (originalTpl : Nat) {place : Place World}
    {before : List UInt64} (contexts : Contexts place.fw.dev before) (listed : place.entry ∈ before)
    (undisturbed : place.Undisturbed behaviour.callBacks) :
    ∃ after, place.ListSafe behaviour.callBacks originalTpl before after ∧
      ∀ next, place.turn behaviour.callBacks originalTpl = .next next →
        Contexts next.fw.dev after ∧ (next.entry ≠ 0 → next.entry ∈ after) := by
  have never : ¬ place.Retires behaviour.callBacks := by
    rintro ⟨settled, once⟩
    have periodic := (undisturbed settled).2
    rw [once] at periodic
    cases periodic
  have round := place.turn_round behaviour.callBacks originalTpl
  by_cases waits : waiting place.result = true
  · have unsettled : ¬ place.Settled behaviour.callBacks := fun settled => by
      rw [settled.done] at waits
      cases waits
    have ran : place.ran behaviour.callBacks = place.fw := if_pos waits
    have turn : place.turn behaviour.callBacks originalTpl =
        .next ⟨place.entry, nextEntry place.fw.dev place.entry, place.fw⟩ := if_pos waits
    refine ⟨before, ⟨contexts, listed, .refl before, ran ▸ contexts,
      fun settled => absurd settled unsettled, fun _ => turn ▸ contexts,
      fun retires => absurd retires never⟩, fun next goes => ?_⟩
    rw [turn] at goes
    cases goes
    exact ⟨contexts, contexts.segment.next_mem listed⟩
  obtain ⟨after, edited⟩ := behaviour.calledBack_edited contexts
  have ran : place.ran behaviour.callBacks = place.calledBack behaviour.callBacks := if_neg waits
  have reads : place.Settled behaviour.callBacks → place.entry ∈ after := fun settled =>
    edited.listed place.entry (fun _ => listed) (undisturbed settled).1
  generalize turnEq : place.turn behaviour.callBacks originalTpl = turn at round
  have kept : Contexts turn.fw.dev after ∧
      ∀ next, turn = .next next →
        Contexts next.fw.dev after ∧ (next.entry ≠ 0 → next.entry ∈ after) := by
    cases round with
    | waits waits' => exact absurd waits' waits
    | emptied done empty => exact ⟨⟨edited.contexts.segment, edited.contexts.live⟩, by simp⟩
    | armed settled mem periodic good linked =>
      have kept : Contexts { (place.calledBack behaviour.callBacks).dev with mem := mem } after :=
        ⟨edited.contexts.segment, edited.contexts.live⟩
      refine ⟨kept, fun next goes => ?_⟩
      cases goes
      exact ⟨kept, edited.contexts.segment.next_mem (reads settled)⟩
    | failed settled periodic bad => exact ⟨edited.contexts, by simp⟩
    | retired settled once => exact absurd ⟨settled, once⟩ never
  rw [← turnEq] at kept
  exact ⟨after, ⟨contexts, listed, edited.edits, ran ▸ edited.contexts, reads, fun _ => kept.1,
    fun retires => absurd retires never⟩, turnEq ▸ kept.2⟩

/-- The keyboard and the mouse are waited for, and the packet of the keyboard is good. -/
def keyboardAndMouse : Firmware Unit :=
  let mouse : InterruptCall := { keyboard with endPointAddress := 0x82 }
  let dev := (ohciInterruptTransfer mouse
    ⟨.ok .eightBytesAgain, some 320, [some 384, some 448], some 2⟩
    (ohciInterruptTransfer keyboard (keyboardAnswers (some 1)) .oneList).dev).dev
  let poll : Poll :=
    ⟨false, fun td => if td = 192 then some ⟨2, 0, 0, 0, 256⟩ else none, fun _ => none⟩
  ⟨⟨tplNotify, []⟩, { dev with mem := poll.observe dev.mem }, ()⟩

theorem keyboardAndMouse_contexts : Contexts keyboardAndMouse.dev [1, 2] where
  segment := ⟨rfl, by decide, rfl, by decide, rfl⟩
  live entry member := by
    rcases List.mem_cons.mp member with rfl | rest
    · rfl
    · rw [List.mem_singleton.mp rest]
      rfl

def asksNothing : Behaviour Unit := fun _ _ _ => ([], ())

/-- Every callback cancels the transfer of the keyboard. -/
def cancelsKeyboard : Behaviour Unit := fun _ _ _ =>
  ([.async ⟨1, 0x81, true, 8, false, 0, 0x1000, 0, 0, 0, 0⟩
    ⟨none, .error ⟨EfiStatus.outOfResources, EfiStatus.isError_outOfResources⟩, none, [], none⟩],
    ())

end MuRockchip.Ohci
