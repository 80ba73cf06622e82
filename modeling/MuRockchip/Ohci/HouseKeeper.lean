/-
The interrupt timer of the OHCI driver (`OhciSched.c`, `OhciHouseKeeper`).

A pass walks the list of interrupt contexts. It leaves the transfers alone that have not
finished or have stalled, calls back the others, arms a periodic one again, and ends behind
the first it cannot arm. What a callback does to the driver and to the rest of the firmware
is a parameter; the task priority level it leaves as it found it.

* `houseKeeper_balanced_iff`: which passes return at the task priority level they were
  entered with.
-/
import Mathlib.Logic.Relation
import MuRockchip.Ohci.InterruptTransfer

namespace MuRockchip.Ohci

open MuRockchip.Base

/-! ### Task priorities -/

/-- The task priority level, and the levels `RestoreTPL` is still owed, innermost first. -/
structure TaskPriority where
  current : Nat
  raised : List Nat
  deriving DecidableEq, Repr

def tplCallback : Nat := 8
def tplNotify : Nat := 16

/-- `RaiseTPL`. -/
def TaskPriority.raise (tpl : TaskPriority) (newTpl : Nat) : Nat × TaskPriority :=
  (tpl.current, ⟨newTpl, tpl.current :: tpl.raised⟩)

/-- `RestoreTPL`. -/
def TaskPriority.restore (tpl : TaskPriority) (oldTpl : Nat) : TaskPriority :=
  ⟨oldTpl, tpl.raised.tail⟩

/-- Raising and restoring once goes back to where it started. -/
theorem TaskPriority.restore_raise (tpl : TaskPriority) (newTpl : Nat) :
    (tpl.raise newTpl).2.restore (tpl.raise newTpl).1 = tpl := rfl

theorem TaskPriority.raise_ne (tpl : TaskPriority) (newTpl : Nat) :
    (tpl.raise newTpl).2 ≠ tpl := by
  intro same
  have lengths := congrArg (fun tpl => tpl.raised.length) same
  simp [TaskPriority.raise] at lengths

/-! ### The firmware around the timer -/

/-- The state the timer and its callbacks share. `World` is what the driver does not see. -/
structure Firmware (World : Type) where
  tpl : TaskPriority
  dev : UsbOhciHcDev
  world : World

/-- The arguments of `EFI_ASYNC_USB_TRANSFER_CALLBACK`. -/
structure CallBackArguments where
  data : UInt32
  dataLength : UInt32
  context : UInt64
  result : UInt32
  deriving DecidableEq, Repr

/-- What the callbacks do, by their address. -/
structure CallBacks (World : Type) where
  invoke : UInt64 → CallBackArguments → Firmware World → Firmware World
  balanced : ∀ (callBack : UInt64) (arguments : CallBackArguments) (fw : Firmware World),
    (invoke callBack arguments fw).tpl = fw.tpl

variable {World : Type}

/-- `OhciCheckTDsResults`, from what it has collected so far. -/
def ohciCheckTdsResults (mem : Descriptors) : Nat → UInt32 → UInt32 → UInt32
  | 0, _, result => result
  | fuel + 1, td, result =>
    if td = 0 then result
    else
      let result := result ||| convertErrorCode (mem.td td).conditionCode
      if result ≠ 0 then result
      else ohciCheckTdsResults mem fuel (nextTdPointer mem td) result

def ohciInvokeInterruptCallBack (callBacks : CallBacks World) (entry : UInt64) (result : UInt32)
    (fw : Firmware World) : Firmware World :=
  let contents := fw.dev.entry entry
  let td := fw.dev.mem.td contents.dataTd
  if result ≠ 0 then
    callBacks.invoke contents.callBackFunction ⟨0, 0, contents.context, result⟩ fw
  else
    callBacks.invoke contents.callBackFunction
      ⟨td.dataBuffer, td.actualSendLength, contents.context, result⟩ fw

/-! ### Arming a chain again -/

/-- The toggles of the chain, from the one the endpoint goes on with. -/
def setToggles : Nat → Descriptors → UInt32 → UInt8 → Descriptors
  | 0, mem, _, _ => mem
  | fuel + 1, mem, dataTd, toggle =>
    if dataTd = 0 then mem
    else if nextTdPointer mem dataTd = 0 then
      mem.setTd dataTd { mem.td dataTd with dataToggle := 0 }
    else
      setToggles fuel (mem.setTd dataTd { mem.td dataTd with dataToggle := tdToggle toggle })
        (nextTdPointer mem dataTd) (toggle ^^^ 1)

/-- The fields of the chain the controller has updated, and the descriptor it ends at. -/
def rearmTds : Nat → Descriptors → UInt32 → Descriptors × UInt32
  | 0, mem, dataTd => (mem, dataTd)
  | fuel + 1, mem, dataTd =>
    if dataTd = 0 then (mem, 0)
    else if nextTdPointer mem dataTd = 0 then
      (mem.setTd dataTd { mem.td dataTd with
        errorCount := 0, conditionCode := 0, currBufferPointer := 0, nextTd := 0 }, dataTd)
    else
      rearmTds fuel (mem.setTd dataTd { mem.td dataTd with
          errorCount := 0
          conditionCode := tdTobeProcessed
          nextTd := nextTdPointer mem dataTd
          currBufferPointer := (mem.td dataTd).dataBuffer })
        (nextTdPointer mem dataTd)

/-- The endpoint descriptor and the chain of a periodic transfer are submitted again. -/
def resubmit (mem : Descriptors) (ed headTd : UInt32) : Descriptors :=
  let mem := if headTd ≠ 0 then setSkip mem ed 1 else mem
  let toggle := UInt8.ofNat (mem.ed ed).toggleCarry.toNat
  let mem := setToggles walkLimit mem headTd toggle
  let (mem, dataTd) := rearmTds walkLimit mem headTd
  if dataTd ≠ 0 then
    mem.setEd ed { mem.ed ed with
      tdHeadPointer := rightShift4 headTd, halted := 0, toggleCarry := 0, skip := 0 }
  else mem

/-! ### The pass -/

/-- Where a pass is in the list: `PreEntry` and `Entry`, and the state. -/
structure Place (World : Type) where
  preEntry : UInt64
  entry : UInt64
  fw : Firmware World

/-- One round of the loop goes on, or ends the pass. -/
inductive Turn (World : Type)
  | next (place : Place World)
  | stop (fw : Firmware World)

/-- The transfer has not finished, or has stalled. -/
def waiting (result : UInt32) : Bool :=
  result &&& efiUsbErrStall = efiUsbErrStall || result &&& efiUsbErrNotexecute = efiUsbErrNotexecute

def Firmware.restoreTpl (fw : Firmware World) (originalTpl : Nat) : Firmware World :=
  { fw with tpl := fw.tpl.restore originalTpl }

def Place.result (place : Place World) : UInt32 :=
  ohciCheckTdsResults place.fw.dev.mem walkLimit (place.fw.dev.entry place.entry).dataTd 0

/-- The callback of an entry, if it has one. -/
def Place.calledBack (callBacks : CallBacks World) (place : Place World) : Firmware World :=
  if (place.fw.dev.entry place.entry).callBackFunction ≠ 0 then
    ohciInvokeInterruptCallBack callBacks place.entry place.result place.fw
  else place.fw

/-- The callback has left no entry on the list. -/
def Place.emptied (callBacks : CallBacks World) (place : Place World) : Bool :=
  (place.fw.dev.entry place.entry).callBackFunction ≠ 0 &&
    (place.calledBack callBacks).dev.interruptContextList = 0

/-- The branch for transfers that are not periodic. -/
def retire (dev : UsbOhciHcDev) (preEntry entry : UInt64) : UsbOhciHcDev :=
  if preEntry = 0 then
    -- `PreEntry` is null: nothing is freed
    (ohciFreeInterruptContextEntry
      { dev with interruptContextList := nextEntry dev entry } 0).2
  else
    -- `PreEntry` is the entry itself by now
    (ohciFreeInterruptContextEntry (setNextEntry dev entry (nextEntry dev entry)) entry).2

/-- One round of the loop of `OhciHouseKeeper`. -/
def Place.turn (callBacks : CallBacks World) (originalTpl : Nat) (place : Place World) :
    Turn World :=
  if waiting place.result then
    .next ⟨place.entry, nextEntry place.fw.dev place.entry, place.fw⟩
  else
    let fw := place.calledBack callBacks
    if place.emptied callBacks then .stop (fw.restoreTpl originalTpl)
    else
      let contents := fw.dev.entry place.entry
      if contents.isPeriodic then
        if place.result = efiUsbNoerror then
          if contents.ed = 0 then .stop fw
          else
            let dev := { fw.dev with mem := resubmit fw.dev.mem contents.ed contents.dataTd }
            .next ⟨place.entry, nextEntry dev place.entry, { fw with dev := dev }⟩
        else .stop fw
      else
        .stop ({ fw with dev := retire fw.dev place.preEntry place.entry }.restoreTpl originalTpl)

/-- The loop of `OhciHouseKeeper`, or nothing where it does not end in time. -/
def passLoop (callBacks : CallBacks World) (originalTpl : Nat) : Nat → Place World →
    Option (Firmware World)
  | 0, _ => none
  | fuel + 1, place =>
    if place.entry = 0 then some (place.fw.restoreTpl originalTpl)
    else
      match place.turn callBacks originalTpl with
      | .stop fw => some fw
      | .next place => passLoop callBacks originalTpl fuel place

def Firmware.passStart (fw : Firmware World) : Place World :=
  ⟨0, fw.dev.interruptContextList, { fw with tpl := (fw.tpl.raise tplNotify).2 }⟩

def ohciHouseKeeper (callBacks : CallBacks World) (fuel : Nat) (fw : Firmware World) :
    Option (Firmware World) :=
  passLoop callBacks (fw.tpl.raise tplNotify).1 fuel fw.passStart

/-! ### Rounds -/

/-- A transfer that has finished, and whose callback has left entries on the list. -/
structure Place.Settled (callBacks : CallBacks World) (place : Place World) : Prop where
  done : waiting place.result = false
  kept : place.emptied callBacks = false

/-- What a round can do. -/
inductive Round (callBacks : CallBacks World) (originalTpl : Nat) (place : Place World) :
    Turn World → Prop
  | waits (waits : waiting place.result = true) :
      Round callBacks originalTpl place
        (.next ⟨place.entry, nextEntry place.fw.dev place.entry, place.fw⟩)
  | emptied (done : waiting place.result = false) (empty : place.emptied callBacks = true) :
      Round callBacks originalTpl place
        (.stop ((place.calledBack callBacks).restoreTpl originalTpl))
  | armed (settled : place.Settled callBacks) (mem : Descriptors)
      (periodic : ((place.calledBack callBacks).dev.entry place.entry).isPeriodic = true)
      (good : place.result = efiUsbNoerror)
      (linked : ((place.calledBack callBacks).dev.entry place.entry).ed ≠ 0) :
      Round callBacks originalTpl place
        (.next ⟨place.entry, nextEntry (place.calledBack callBacks).dev place.entry,
          { place.calledBack callBacks with
            dev := { (place.calledBack callBacks).dev with mem := mem } }⟩)
  | failed (settled : place.Settled callBacks)
      (periodic : ((place.calledBack callBacks).dev.entry place.entry).isPeriodic = true)
      (bad : place.result ≠ efiUsbNoerror ∨
        ((place.calledBack callBacks).dev.entry place.entry).ed = 0) :
      Round callBacks originalTpl place (.stop (place.calledBack callBacks))
  | retired (settled : place.Settled callBacks)
      (once : ((place.calledBack callBacks).dev.entry place.entry).isPeriodic = false) :
      Round callBacks originalTpl place (.stop ({ place.calledBack callBacks with
        dev := retire (place.calledBack callBacks).dev place.preEntry place.entry }.restoreTpl
          originalTpl))

theorem Place.turn_round (callBacks : CallBacks World) (originalTpl : Nat) (place : Place World) :
    Round callBacks originalTpl place (place.turn callBacks originalTpl) := by
  unfold Place.turn
  by_cases waits : waiting place.result = true
  · rw [if_pos waits]
    exact .waits waits
  rw [if_neg waits]
  have done : waiting place.result = false := Bool.eq_false_iff.mpr waits
  simp only
  by_cases empty : place.emptied callBacks = true
  · rw [if_pos empty]
    exact .emptied done empty
  rw [if_neg empty]
  have settled : place.Settled callBacks := ⟨done, Bool.eq_false_iff.mpr empty⟩
  by_cases periodic : ((place.calledBack callBacks).dev.entry place.entry).isPeriodic = true
  swap
  · rw [if_neg periodic]
    exact .retired settled (Bool.eq_false_iff.mpr periodic)
  rw [if_pos periodic]
  by_cases good : place.result = efiUsbNoerror
  swap
  · rw [if_neg good]
    exact .failed settled periodic (Or.inl good)
  rw [if_pos good]
  by_cases unlinked : ((place.calledBack callBacks).dev.entry place.entry).ed = 0
  · rw [if_pos unlinked]
    exact .failed settled periodic (Or.inr unlinked)
  · rw [if_neg unlinked]
    exact .armed settled _ periodic good unlinked

/-! ### The task priority level -/

/-- The round ends the pass without `RestoreTPL`: a periodic transfer has failed, though it
has not stalled, or has no endpoint descriptor. -/
def Place.Unrestored (callBacks : CallBacks World) (place : Place World) : Prop :=
  let contents := (place.calledBack callBacks).dev.entry place.entry
  place.Settled callBacks ∧ contents.isPeriodic = true ∧
    (place.result ≠ efiUsbNoerror ∨ contents.ed = 0)

section

variable {callBacks : CallBacks World} {originalTpl : Nat} {place : Place World}

theorem ohciInvokeInterruptCallBack_tpl (entry : UInt64) (result : UInt32) (fw : Firmware World) :
    (ohciInvokeInterruptCallBack callBacks entry result fw).tpl = fw.tpl := by
  unfold ohciInvokeInterruptCallBack
  simp only
  split
  · exact callBacks.balanced _ _ _
  · exact callBacks.balanced _ _ _

theorem Place.calledBack_tpl : (place.calledBack callBacks).tpl = place.fw.tpl := by
  unfold Place.calledBack
  split
  · exact ohciInvokeInterruptCallBack_tpl _ _ _
  · rfl

/-- A round that goes on keeps the level. -/
theorem Place.next_tpl {next : Place World} (turn : place.turn callBacks originalTpl = .next next) :
    next.fw.tpl = place.fw.tpl ∧ ¬ place.Unrestored callBacks := by
  have round := place.turn_round callBacks originalTpl
  rw [turn] at round
  cases round with
  | waits waits =>
    refine ⟨rfl, fun ends => ?_⟩
    rw [ends.1.done] at waits
    cases waits
  | armed settled mem periodic good linked =>
    refine ⟨Place.calledBack_tpl, fun ends => ?_⟩
    exact ends.2.2.elim (fun bad => bad good) linked

/-- A round that ends the pass restores the level, or leaves it raised. -/
theorem Place.stop_tpl {fw : Firmware World} (turn : place.turn callBacks originalTpl = .stop fw) :
    (place.Unrestored callBacks ∧ fw.tpl = place.fw.tpl) ∨
      (¬ place.Unrestored callBacks ∧ fw.tpl = place.fw.tpl.restore originalTpl) := by
  have called : (place.calledBack callBacks).tpl = place.fw.tpl := Place.calledBack_tpl
  have round := place.turn_round callBacks originalTpl
  rw [turn] at round
  cases round with
  | emptied done empty =>
    refine Or.inr ⟨fun ends => ?_, by rw [Firmware.restoreTpl, called]⟩
    have kept := ends.1.kept
    rw [empty] at kept
    cases kept
  | failed settled periodic bad => exact Or.inl ⟨⟨settled, periodic, bad⟩, called⟩
  | retired settled once =>
    refine Or.inr ⟨fun ends => ?_, by rw [Firmware.restoreTpl, called]⟩
    have periodic := ends.2.1
    rw [once] at periodic
    cases periodic

end

/-- The pass goes on from one place to the next. -/
def Follows (callBacks : CallBacks World) (originalTpl : Nat) (place next : Place World) : Prop :=
  place.entry ≠ 0 ∧ place.turn callBacks originalTpl = .next next

def Reaches (callBacks : CallBacks World) (fw : Firmware World) (place : Place World) : Prop :=
  Relation.ReflTransGen (Follows callBacks fw.tpl.current) fw.passStart place ∧ place.entry ≠ 0

/-- No round of the pass ends it without `RestoreTPL`. -/
def RestoresTpl (callBacks : CallBacks World) (fw : Firmware World) : Prop :=
  ∀ place, Reaches callBacks fw place → ¬ place.Unrestored callBacks

/-- The callbacks leave the links of the context list alone. -/
def LeavesLinks (callBacks : CallBacks World) : Prop :=
  ∀ (callBack : UInt64) (arguments : CallBackArguments) (fw : Firmware World),
    nextEntry (callBacks.invoke callBack arguments fw).dev = nextEntry fw.dev

variable {callBacks : CallBacks World} {place : Place World}

theorem passLoop_tpl {originalTpl fuel : Nat} {final : Firmware World}
    (returns : passLoop callBacks originalTpl fuel place = some final)
    (raised : place.fw.tpl ≠ place.fw.tpl.restore originalTpl) :
    final.tpl = place.fw.tpl.restore originalTpl ↔
      ∀ other, Relation.ReflTransGen (Follows callBacks originalTpl) place other →
        other.entry ≠ 0 → ¬ other.Unrestored callBacks := by
  induction fuel generalizing place with
  | zero => cases returns
  | succ fuel ih =>
    rw [passLoop] at returns
    by_cases last : place.entry = 0
    · rw [if_pos last] at returns
      cases returns
      refine ⟨fun _ other reached some => ?_, fun _ => rfl⟩
      rcases reached.cases_head with rfl | ⟨next, ⟨more, -⟩, -⟩
      · exact absurd last some
      · exact absurd last more
    rw [if_neg last] at returns
    cases turn : place.turn callBacks originalTpl with
    | stop fw =>
      rw [turn] at returns
      cases returns
      have only : (∀ other, Relation.ReflTransGen (Follows callBacks originalTpl) place other →
          other.entry ≠ 0 → ¬ other.Unrestored callBacks) ↔ ¬ place.Unrestored callBacks := by
        refine ⟨fun all => all place .refl last, fun here other reached _ => ?_⟩
        rcases reached.cases_head with rfl | ⟨next, ⟨-, goes⟩, -⟩
        · exact here
        · rw [turn] at goes
          cases goes
      rw [only]
      rcases Place.stop_tpl turn with ⟨ends, level⟩ | ⟨restores, level⟩
      · rw [level]
        exact ⟨fun same => absurd same raised, fun none => absurd ends none⟩
      · exact ⟨fun _ => restores, fun _ => level⟩
    | next next =>
      rw [turn] at returns
      obtain ⟨same, here⟩ := Place.next_tpl turn
      have later := ih returns (by rw [same]; exact raised)
      rw [same] at later
      rw [later]
      have goes : Follows callBacks originalTpl place next := ⟨last, turn⟩
      refine ⟨fun all other reached some => ?_,
        fun all other reached some => all other (.head goes reached) some⟩
      rcases reached.cases_head with rfl | ⟨next', ⟨-, goes'⟩, rest⟩
      · exact here
      · rw [turn] at goes'
        cases goes'
        exact all other rest some

/-- The links a round follows, where callbacks leave them alone. -/
theorem Place.turn_links (leaves : LeavesLinks callBacks) {originalTpl : Nat} {next : Place World}
    (turn : place.turn callBacks originalTpl = .next next) :
    nextEntry next.fw.dev = nextEntry place.fw.dev ∧
      next.entry = nextEntry place.fw.dev place.entry := by
  have called : nextEntry (place.calledBack callBacks).dev = nextEntry place.fw.dev := by
    unfold Place.calledBack
    split
    · unfold ohciInvokeInterruptCallBack
      simp only
      split
      · exact leaves _ _ _
      · exact leaves _ _ _
    · rfl
  have round := place.turn_round callBacks originalTpl
  rw [turn] at round
  cases round with
  | waits waits => exact ⟨rfl, rfl⟩
  | armed settled mem periodic good linked => exact ⟨called, congrFun called place.entry⟩

theorem passLoop_returns (leaves : LeavesLinks callBacks) (originalTpl : Nat)
    {entries : List UInt64} (list : Segment (nextEntry place.fw.dev) place.entry entries 0) :
    ∃ final, passLoop callBacks originalTpl (entries.length + 1) place = some final := by
  induction entries generalizing place with
  | nil =>
    have null : place.entry = 0 := list
    exact ⟨_, by rw [passLoop, if_pos null]⟩
  | cons entry rest ih =>
    obtain ⟨here, nonzero, tail⟩ := list
    rw [← here] at nonzero tail
    rw [passLoop, if_neg nonzero]
    cases turn : place.turn callBacks originalTpl with
    | stop fw => exact ⟨fw, rfl⟩
    | next next =>
      obtain ⟨links, entryEq⟩ := Place.turn_links leaves turn
      exact ih (by rw [links, entryEq]; exact tail)

/-- A pass returns at the level it was entered with, and owes no `RestoreTPL`, exactly where
no round ends it without one; and it returns where callbacks leave the list alone. -/
theorem houseKeeper_balanced_iff (callBacks : CallBacks World) (fw : Firmware World) :
    (∀ (fuel : Nat) (final : Firmware World), ohciHouseKeeper callBacks fuel fw = some final →
      (final.tpl = fw.tpl ↔ RestoresTpl callBacks fw)) ∧
    (LeavesLinks callBacks → ∀ entries, Contexts fw.dev entries →
      ∃ final, ohciHouseKeeper callBacks (entries.length + 1) fw = some final) := by
  constructor
  · intro fuel final returns
    have level := passLoop_tpl returns (fw.tpl.raise_ne tplNotify)
    have back : fw.passStart.fw.tpl.restore (fw.tpl.raise tplNotify).1 = fw.tpl :=
      fw.tpl.restore_raise tplNotify
    rw [back] at level
    refine level.trans ⟨fun all place reached => all place reached.1 reached.2,
      fun all place reached some => all place ⟨reached, some⟩⟩
  · intro leaves entries contexts
    exact passLoop_returns leaves _ contexts.segment

/-! ### A transient error -/

/-- Callbacks that do nothing. -/
def CallBacks.silent : CallBacks Unit := ⟨fun _ _ fw => fw, fun _ _ _ => rfl⟩

/-- The keyboard is waited for, and the controller has retired its packet with `code`. -/
def keyboardRetired (code : BitVec 4) (tpl : Nat) : Firmware Unit :=
  let dev := (ohciInterruptTransfer keyboard (keyboardAnswers (some 1)) .oneList).dev
  let poll : Poll :=
    ⟨false, fun td => if td = 192 then some ⟨2, 0, code, 0, 256⟩ else none, fun _ => none⟩
  ⟨⟨tpl, []⟩, { dev with mem := poll.observe dev.mem }, ()⟩

theorem houseKeeper_balanced_iff_keyboard :
    ∃ final, ohciHouseKeeper .silent 2 (keyboardRetired tdNoError tplNotify) = some final ∧
      (final.tpl = ⟨tplNotify, []⟩ ↔
        RestoresTpl .silent (keyboardRetired tdNoError tplNotify)) := by
  have balanced := houseKeeper_balanced_iff .silent (keyboardRetired tdNoError tplNotify)
  obtain ⟨final, returns⟩ :=
    balanced.2 (fun _ _ _ => rfl) [1] ⟨⟨rfl, by decide, rfl⟩, fun entry member => by
      rw [List.mem_singleton.mp member]
      rfl⟩
  exact ⟨final, returns, balanced.1 2 final returns⟩

/-- After a CRC error the pass returns and owes a `RestoreTPL`; entered below `TPL_NOTIFY` it
leaves the level raised. -/
theorem crc_error_stays_raised :
    (∃ final, ohciHouseKeeper .silent 2 (keyboardRetired tdCrcError tplNotify) = some final ∧
      final.tpl ≠ (keyboardRetired tdCrcError tplNotify).tpl) ∧
    ∃ final, ohciHouseKeeper .silent 2 (keyboardRetired tdCrcError tplCallback) = some final ∧
      final.tpl.current ≠ (keyboardRetired tdCrcError tplCallback).tpl.current :=
  ⟨⟨_, rfl, by decide⟩, _, rfl, by decide⟩

end MuRockchip.Ohci
