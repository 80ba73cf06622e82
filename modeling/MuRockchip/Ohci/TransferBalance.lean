/-
What the synchronous transfers take and give back (`Ohci.c`).

Control and bulk transfers give back everything they have taken, wherever they fail. A
synchronous interrupt transfer ends with a cancellation, which frees what contexts own; its
own submission adds no context, so that nobody owns its buffer, its mapping and its chain.

* `bulkTransfer_balanced`: every way out of a bulk transfer gives back all of it.
* `Unclaimed.syncStages`: a buffer no context owns is still in use behind the transfer.
* `transfers_balanced`: in which sequences of transfers each one is balanced.
-/
import MuRockchip.Base.Run
import MuRockchip.Ohci.ControlTransfer
import MuRockchip.Ohci.SyncInterrupt

namespace MuRockchip.Ohci

open MuRockchip.Base

/-! ### Bulk transfers -/

variable {before dev : UsbOhciHcDev}

/-- The cleanup of a bulk transfer gives back all that was taken. -/
theorem freeBulk_balanced {held : UInt32 → Bool} {ed headEd headTd : UInt32} {cells : List UInt32}
    {mapping : UInt64} (inUse : InUse before held (Function.update before.mapped mapping true) dev)
    (holds : Holds (Function.update before.mem.live ed true) dev.mem headTd cells)
    (fresh : before.mem.live ed = false) (unused : before.mapped mapping = false) :
    Balanced before (freeBulk dev ed headEd headTd mapping) := by
  obtain ⟨descriptors, mappings, buffers, contexts⟩ := inUse
  unfold freeBulk
  set off : UsbOhciHcDev := if headEd = ed
    then { dev with mem := setSkip dev.mem ed 1, bulkHead := 0 }
    else { dev with
      mem := setNextEd (setSkip dev.mem ed 1) headEd (nextEd (setSkip dev.mem ed 1) ed) }
    with offEq
  have inUse : InUse before held (Function.update before.mapped mapping true) off := by
    rw [offEq]
    split <;> exact ⟨descriptors, mappings, buffers, contexts⟩
  have holds' : Holds (Function.update before.mem.live ed true) off.mem headTd cells := by
    rw [offEq]
    split <;> exact holds.congr rfl rfl
  exact (((inUse.freeChain holds').dmaUnmap unused).freeDescriptor fresh).balanced

theorem bulkStages_balanced {call : BulkCall} (answers : BulkAnswers call) {ed : UInt32}
    (headEd : UInt32) (mapping : Mapping call.dataLength)
    (inUse : InUse before (Function.update before.mem.live ed true)
      (Function.update before.mapped mapping.handle true) dev) (queued : Queued dev.mem ed [])
    (fresh : before.mem.live ed = false) (unused : before.mapped mapping.handle = false) :
    Balanced before (bulkStages call answers ed headEd mapping dev).dev := by
  obtain ⟨cells, held⟩ := transferChain_holds (dataPidDir call.endPointAddress)
    call.maxPacketLength queued call.dataToggle mapping.address mapping.positive answers.tds
  rw [inUse.descriptors] at held
  unfold bulkStages
  simp only
  generalize transferChain (dataPidDir call.endPointAddress) call.maxPacketLength answers.tds
    dev.mem ed call.dataToggle mapping.address mapping.length = stage at held ⊢
  have taken (mem : Descriptors) : InUse before mem.live
      (Function.update before.mapped mapping.handle true) { dev with mem := mem } :=
    ⟨rfl, inUse.mappings, inUse.buffers, inUse.contexts⟩
  split
  · exact freeBulk_balanced (taken stage.mem) held fresh unused
  · refine freeBulk_balanced (taken _) (held.congr ?_ rfl) fresh unused
    rw [Poll.nextTdPointer_observe]
    rfl

/-- Every way out of a bulk transfer gives back all that it has taken. -/
theorem bulkTransfer_balanced (call : BulkCall) (answers : BulkAnswers call)
    (dev : UsbOhciHcDev) : Balanced dev (ohciBulkTransfer call answers dev).dev := by
  unfold ohciBulkTransfer
  split
  · exact .refl dev
  rcases createBulkEd_eq dev call answers.ed with ⟨none, -⟩ |
    ⟨ed, -, available, mem, created, live, queued⟩
  · rw [none]
    exact ⟨rfl, rfl, rfl, rfl⟩
  have fresh : dev.mem.live ed = false := available.2.2
  rw [created]
  simp only
  cases opened : UsbOhciHcDev.dmaMap { dev with mem := mem, bulkHead := ed } answers.mapping with
  | error status =>
    have inUse : InUse dev (Function.update dev.mem.live ed true) dev.mapped
        { dev with mem := mem, bulkHead := ed } := ⟨live, rfl, rfl, rfl⟩
    exact (inUse.freeDescriptor fresh).balanced
  | ok pair =>
    obtain ⟨mapping, after⟩ := pair
    obtain ⟨unused, rfl⟩ := dmaMap_ok opened
    exact bulkStages_balanced answers ed mapping ⟨live, rfl, rfl, rfl⟩ queued fresh unused

/-! ### Synchronous interrupt transfers -/

/-- The buffer is in use, and no context owns it. -/
structure Unclaimed (dev : UsbOhciHcDev) (buffer : UInt64) : Prop where
  inUse : dev.buffer buffer = true
  unowned : ∀ entry, (dev.entry entry).ucBuffer ≠ buffer

section

variable {dev : UsbOhciHcDev} {buffer : UInt64}

theorem Unclaimed.update (unclaimed : Unclaimed dev buffer) {after : UsbOhciHcDev}
    {entry : UInt64} {contents : InterruptContextEntry}
    (entries : after.entry = Function.update dev.entry entry contents)
    (own : contents.ucBuffer = (dev.entry entry).ucBuffer)
    (inUse : after.buffer buffer = true) : Unclaimed after buffer := by
  refine ⟨inUse, fun other => ?_⟩
  rw [entries]
  by_cases same : other = entry
  · rw [same, Function.update_self, own]
    exact unclaimed.unowned entry
  · rw [Function.update_of_ne same]
    exact unclaimed.unowned other

theorem Unclaimed.freeEntry (unclaimed : Unclaimed dev buffer) (entry : UInt64) :
    Unclaimed (ohciFreeInterruptContextEntry dev entry).2 buffer := by
  have kept : Function.update dev.buffer (dev.entry entry).ucBuffer false buffer = true := by
    rw [Function.update_of_ne (unclaimed.unowned entry).symm]
    exact unclaimed.inUse
  unfold ohciFreeInterruptContextEntry
  split
  · exact unclaimed
  simp only
  split
  · split <;> exact unclaimed.update rfl rfl kept
  · split <;> exact unclaimed.update rfl rfl unclaimed.inUse

variable (address endPoint : UInt8)

theorem Unclaimed.freeLeading (unclaimed : Unclaimed dev buffer) (fuel : Nat) (toggle : UInt8) :
    Unclaimed (freeLeadingContexts address endPoint fuel dev toggle).1 buffer := by
  induction fuel generalizing dev toggle with
  | zero => exact unclaimed
  | succ fuel ih =>
    rw [freeLeadingContexts]
    split
    · have unlinked : Unclaimed { dev with
          interruptContextList := nextEntry dev dev.interruptContextList } buffer :=
        ⟨unclaimed.inUse, unclaimed.unowned⟩
      exact ih (unlinked.freeEntry _) _
    · exact unclaimed

theorem Unclaimed.freeLater (unclaimed : Unclaimed dev buffer) (fuel : Nat) (entry : UInt64)
    (toggle : UInt8) :
    Unclaimed (freeLaterContexts address endPoint fuel dev entry toggle).1 buffer := by
  induction fuel generalizing dev entry toggle with
  | zero => exact unclaimed
  | succ fuel ih =>
    simp only [freeLaterContexts]
    split
    · exact unclaimed
    · split
      · have unlinked : Unclaimed (setNextEntry dev entry
            (nextEntry dev (nextEntry dev entry))) buffer :=
          unclaimed.update rfl rfl unclaimed.inUse
        exact ih (unlinked.freeEntry _) _ _
      · exact ih unclaimed _ _

theorem Unclaimed.cancel (unclaimed : Unclaimed dev buffer) (toggle : UInt8) :
    Unclaimed (ohciCancelInterruptTransfer dev address endPoint toggle).2.2 buffer := by
  have stopped : Unclaimed { dev with periodicEnable := false } buffer :=
    ⟨unclaimed.inUse, unclaimed.unowned⟩
  have leading := stopped.freeLeading address endPoint contextLimit toggle
  have freed : Unclaimed (ohciFreeInterruptContext { dev with periodicEnable := false } address
      endPoint toggle).1 buffer := by
    unfold ohciFreeInterruptContext
    simp only
    split
    · exact leading
    · exact leading.freeLater address endPoint contextLimit _ _
  exact ⟨freed.inUse, freed.unowned⟩

end

/-- A submission without a callback leaves the contexts and the buffers alone. -/
theorem Unclaimed.submit {buffer : UInt64} (unclaimed : Unclaimed dev buffer) {call : InterruptCall}
    (answers : InterruptAnswers call) (plain : call.callBackFunction = 0) :
    Unclaimed (ohciInterruptTransfer call answers dev).dev buffer := by
  have stages (mapping : Mapping call.dataLength) (headEd ed : UInt32) {dev : UsbOhciHcDev}
      (unclaimed : Unclaimed dev buffer) :
      Unclaimed (interruptStages call answers mapping headEd ed dev).dev buffer := by
    unfold interruptStages
    simp only [addContext, plain, if_true]
    split <;> exact ⟨unclaimed.inUse, unclaimed.unowned⟩
  unfold ohciInterruptTransfer
  split
  · exact unclaimed
  cases opened : dev.dmaMap answers.mapping with
  | error status => exact unclaimed
  | ok pair =>
    obtain ⟨mapping, after⟩ := pair
    obtain ⟨-, rfl⟩ := dmaMap_ok opened
    simp only
    split
    · exact ⟨unclaimed.inUse, unclaimed.unowned⟩
    · exact stages mapping _ _ ⟨unclaimed.inUse, unclaimed.unowned⟩

/-- Nobody frees the buffer of a synchronous interrupt transfer. -/
theorem Unclaimed.syncStages {buffer : UInt64} (unclaimed : Unclaimed dev buffer) {call : SyncCall}
    (answers : SyncAnswers call)
    (ucBuffer : UInt64) : Unclaimed (syncStages call answers ucBuffer dev).dev buffer := by
  have plain : (call.submission ucBuffer).callBackFunction = 0 := rfl
  have submitted := unclaimed.submit (answers.submission ucBuffer) plain
  unfold Ohci.syncStages
  simp only
  generalize ohciInterruptTransfer (call.submission ucBuffer) (answers.submission ucBuffer) dev =
    submission at submitted ⊢
  split
  · exact submitted.cancel call.deviceAddress call.endPointAddress submission.dataToggle
  · have settled (mem : Descriptors) : Unclaimed { submission.dev with mem := mem } buffer :=
      ⟨submitted.inUse, submitted.unowned⟩
    exact (settled _).cancel call.deviceAddress call.endPointAddress submission.dataToggle

/-! ### Sequences of transfers -/

/-- A synchronous transfer, and what the world answers to it. -/
inductive TransferCall
  | control (call : ControlCall) (answers : ControlAnswers call)
  | bulk (call : BulkCall) (answers : BulkAnswers call)
  | syncInterrupt (call : SyncCall) (answers : SyncAnswers call)

namespace TransferCall

def perform (dev : UsbOhciHcDev) : TransferCall → UsbOhciHcDev
  | control call answers => (ohciControlTransfer call answers dev).dev
  | bulk call answers => (ohciBulkTransfer call answers dev).dev
  | syncInterrupt call answers => (ohciSyncInterruptTransfer call answers dev).dev

def Releases (dev : UsbOhciHcDev) : TransferCall → Prop
  | control _ _ => True
  | bulk _ _ => True
  | syncInterrupt call answers =>
    SyncInterruptAccepts call.endPointAddress call.isSlowDevice call.maxPacketLength call.data
      call.dataLength call.dataToggle → dev.allocatePool answers.ucBuffer = none

theorem Releases.balanced {dev : UsbOhciHcDev} {call : TransferCall}
    (releases : call.Releases dev) : Balanced dev (call.perform dev) := by
  cases call with
  | control call answers => exact controlTransfer_balanced call answers dev
  | bulk call answers => exact bulkTransfer_balanced call answers dev
  | syncInterrupt call answers =>
    unfold perform ohciSyncInterruptTransfer
    by_cases accepted : SyncInterruptAccepts call.endPointAddress call.isSlowDevice
      call.maxPacketLength call.data call.dataLength call.dataToggle
    · simp only [accepted, not_true_eq_false, if_false, releases accepted]
      exact .refl dev
    · simp only [accepted, not_false_eq_true, if_true]
      exact .refl dev

/-- A synchronous interrupt transfer that gets a buffer no context names keeps it. -/
theorem not_balanced_of_buffer {dev : UsbOhciHcDev} {call : SyncCall} {answers : SyncAnswers call}
    (accepted : SyncInterruptAccepts call.endPointAddress call.isSlowDevice call.maxPacketLength
      call.data call.dataLength call.dataToggle)
    {buffer : UInt64} {allocated : UsbOhciHcDev}
    (given : dev.allocatePool answers.ucBuffer = some (buffer, allocated))
    (unowned : ∀ entry, (dev.entry entry).ucBuffer ≠ buffer) :
    ¬ Balanced dev ((syncInterrupt call answers).perform dev) := by
  intro balanced
  have performed : (syncInterrupt call answers).perform dev =
      (syncStages call answers buffer allocated).dev := by
    simp only [perform, ohciSyncInterruptTransfer, accepted, not_true_eq_false, if_false, given]
  obtain ⟨free, rfl⟩ : dev.buffer buffer = false ∧
      allocated = { dev with buffer := Function.update dev.buffer buffer true } := by
    unfold UsbOhciHcDev.allocatePool at given
    split at given
    · cases given
    · split at given
      · cases given
      · next usable =>
        cases given
        exact ⟨Bool.eq_false_iff.mpr (not_or.mp usable).2, rfl⟩
  have unclaimed : Unclaimed { dev with buffer := Function.update dev.buffer buffer true }
      buffer := ⟨Function.update_self _ _ _, unowned⟩
  have kept := (unclaimed.syncStages answers buffer).inUse
  rw [← performed, balanced.buffers, free] at kept
  cases kept

end TransferCall

/-- In every sequence of transfers that release what they take, after each call the
descriptors, mappings and buffers in use are those that were in use before it. -/
theorem transfers_balanced (dev : UsbOhciHcDev) (calls : List TransferCall)
    (releases : AllSteps TransferCall.perform TransferCall.Releases dev calls) :
    ∀ count < calls.length,
      Balanced (run TransferCall.perform dev (calls.take count))
        (run TransferCall.perform dev (calls.take (count + 1))) := by
  intro count inside
  have next : calls[count]? = some calls[count] := List.getElem?_eq_getElem inside
  have step : run TransferCall.perform dev (calls.take (count + 1)) =
      TransferCall.perform (run TransferCall.perform dev (calls.take count)) calls[count] := by
    rw [List.take_add_one, next, run_append]
    rfl
  rw [step]
  exact (releases.at_step next).balanced

/-! ### One buffer -/

/-- A device descriptor of eight bytes. -/
def getDescriptor : ControlCall := ⟨0, false, 8, .dataIn, 0x200000, 8, 100⟩

/-- The pool runs out behind the setup descriptor. -/
def getDescriptorAnswers : ControlAnswers getDescriptor :=
  ⟨some 64, .ok .eightBytes, .ok .eightBytesAgain, [some 128],
    fun _ => ⟨false, fun _ => none, fun _ => none⟩⟩

def unbuffered : List TransferCall :=
  [.control getDescriptor getDescriptorAnswers, .bulk onePacket (onePacketAnswers none),
    .syncInterrupt report { reportAnswers none with ucBuffer := none }]

theorem transfers_balanced_unbuffered :
    Balanced (run TransferCall.perform .idle (unbuffered.take 2))
      (run TransferCall.perform .idle (unbuffered.take 3)) := by
  apply transfers_balanced
  · exact ⟨trivial, trivial, fun _ => rfl, trivial⟩
  · decide

/-- The report is read into a buffer that is never freed. -/
theorem report_keeps_buffer :
    Scheduled .oneList ∧ ¬ Balanced .oneList
      (TransferCall.perform .oneList (.syncInterrupt report (reportAnswers none))) := by
  have given : UsbOhciHcDev.oneList.allocatePool (reportAnswers none).ucBuffer =
      some (1, { UsbOhciHcDev.oneList with
        buffer := Function.update UsbOhciHcDev.oneList.buffer 1 true }) := rfl
  refine ⟨oneList_scheduled, TransferCall.not_balanced_of_buffer (by decide) given ?_⟩
  intro entry
  exact (by decide : (0 : UInt64) ≠ 1)

end MuRockchip.Ohci
