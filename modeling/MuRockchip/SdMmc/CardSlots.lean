/-
Several slots under one driver (`SdMmc.c`).

Each host controller has an instance of its own, with its handle and its card, and
the timer checks all of them. What the instances share is the protocol database:
the RPMB protocol may be on one handle of the system only, and a soft reset looks
for it before it installs it. Soft resets happen in card checks and, nested in
one another, in the recoveries of any command of any slot.

* `slotHandler_realized`: a slot among others runs as a single one does, under some
  environment.
* `softReset_unclaimed`: while another slot has the protocol, a soft reset does not
  install it.
* `slots_safe`: what holds of all slots after every sequence of events.
-/
import MuRockchip.Base.Run
import MuRockchip.Base.Scripts
import MuRockchip.SdMmc.PartitionSafety
import MuRockchip.SdMmc.SoftResetSafety

namespace MuRockchip.SdMmc

open MuRockchip.Base
open MuRockchip.Base.Prog

/-- The check of `CheckCardsCallback` on one instance: it is reset where the presence of
a card has changed. -/
def checkCard : Sd Unit := do
  let isCardPresent ← call .isCardPresent
  let device ← instanceData
  let cardEjected := device.media.mediaPresent && !isCardPresent
  let cardInserted := !device.media.mediaPresent && isCardPresent
  if cardEjected || cardInserted then ignoringErrors softReset else pure ()

/-! ### A slot among others -/

/-- The status of `LocateProtocol`. -/
def locateStatus (found : Bool) : EfiStatus :=
  if found then EfiStatus.success else EfiStatus.notFound

/-- The replies to an operation of a slot. The RPMB protocol is located on the whole
system: `elsewhere` says whether another slot has it. -/
def slotReplies (elsewhere : Bool) (env : Environment) (world : World) : SdmmcOp → Environment
  | .service .locateRpmbIo =>
    Function.update env world.calls
      { env world.calls with status := locateStatus (elsewhere || world.installed .rpmbIo) }
  | _ => env

def slotEffect (elsewhere : Bool) (env : Environment) (op : SdmmcOp) (world : World) :
    op.Answer × World :=
  hostEffect (slotReplies elsewhere env world op) op world

/-- The driver's interface on a slot among others. -/
def slotHandler (elsewhere : Bool) (env : Environment) : Nat → Handler sdmmc World
  | 0, .recoverFromErrors _, _ => none
  | depth + 1, .recoverFromErrors cmd, world =>
    ((sdhcRecoverFromErrors cmd).exec (slotHandler elsewhere env depth) world).map
      fun outcome => ((), outcome.2)
  | _, op, world => some (slotEffect elsewhere env op world)

variable {depth slot : Nat} {env : Environment} {op : SdmmcOp} {world : World}
  {commands : SdCommand → UInt32 → Prop} {slots : List World}

theorem slotHandler_eq_slotEffect {elsewhere : Bool} (noRecovery : ¬ IsRecovery op) :
    slotHandler elsewhere env depth op world = some (slotEffect elsewhere env op world) := by
  cases op with
  | recoverFromErrors cmd => exact absurd trivial noRecovery
  | _ => cases depth <;> rfl

/-! ### Slots and environments -/

instance : Nonempty HostReply := ⟨HostReply.failing⟩

/-- An operation reads the reply to its own call, if it makes one. -/
theorem hostEffect_congr {other : Environment}
    (same : world.calls < (hostEffect env op world).2.calls →
      other world.calls = env world.calls) :
    hostEffect other op world = hostEffect env op world := by
  cases op with
  | service service =>
    have calls : (hostEffect env (.service service) world).2.calls = world.calls + 1 := by
      cases service with
      | readBlockData lengthInBytes buffer => cases buffer <;> rfl
      | _ => rfl
    have reply := same (calls ▸ Nat.lt_succ_self world.calls)
    rw [hostEffect, hostEffect, reply]
  | isCardPresent | isReadOnly | convertDevicePathToText | nullCmdEquals =>
    rw [hostEffect, hostEffect, same (Nat.lt_succ_self world.calls)]
  | _ => rfl

theorem hostEffect_calls (env : Environment) (op : SdmmcOp) (world : World) :
    world.calls ≤ (hostEffect env op world).2.calls := by
  cases op with
  | service service =>
    cases service with
    | readBlockData lengthInBytes buffer => cases buffer <;> exact Nat.le_succ _
    | _ => exact Nat.le_succ _
  | isCardPresent | isReadOnly | convertDevicePathToText | nullCmdEquals => exact Nat.le_succ _
  | _ => exact le_rfl

theorem slotEffect_realized (elsewhere : Bool) (env : Environment) (depth : Nat) (world : World)
    (noRecovery : ¬ IsRecovery op) :
    Realized World.calls (fun script => handler script depth op world) world
      (some (slotEffect elsewhere env op world)) := by
  refine ⟨fun ended last => ?_, slotReplies elsewhere env world op, fun other agrees => ?_⟩
  · obtain rfl := Option.some.inj last
    exact hostEffect_calls _ op world
  · have same : hostEffect other op world = slotEffect elsewhere env op world := by
      apply hostEffect_congr
      intro made
      exact agrees world.calls ⟨le_rfl, fun ended last => Option.some.inj last ▸ made⟩
    rw [handler_eq_hostEffect noRecovery, same]

/-- The interface of a slot among others is that of a single one, under scripts. -/
theorem slotHandler_realized (elsewhere : Bool) (env : Environment) (depth : Nat) (op : SdmmcOp)
    (world : World) :
    Realized World.calls (fun script => handler script depth op world) world
      (slotHandler elsewhere env depth op world) := by
  induction depth generalizing op world with
  | zero =>
    by_cases recovery : IsRecovery op
    · cases op with
      | recoverFromErrors cmd => exact Realized.constant fun _ impossible => by cases impossible
      | _ => exact recovery.elim
    · rw [slotHandler_eq_slotEffect recovery]
      exact slotEffect_realized elsewhere env _ world recovery
  | succ depth ih =>
    by_cases recovery : IsRecovery op
    · cases op with
      | recoverFromErrors cmd =>
        exact (exec_realized ih (sdhcRecoverFromErrors cmd) world).map fun _ => ()
      | _ => exact recovery.elim
    · rw [slotHandler_eq_slotEffect recovery]
      exact slotEffect_realized elsewhere env _ world recovery

/-- Every run of a slot among others is the run of a single one: what is proved under
every environment holds of it. -/
theorem exec_slot (elsewhere : Bool) (env : Environment) (depth : Nat) {α : Type}
    (program : Sd α) (world : World) :
    ∃ script, program.exec (handler script depth) world =
      program.exec (slotHandler elsewhere env depth) world :=
  (exec_realized (slotHandler_realized elsewhere env depth) program world).exists_script

/-! ### The RPMB protocol of another slot -/

def Unclaiming : SdmmcOp → Prop
  | .service (.installProtocol protocol) => protocol ≠ .rpmbIo
  | _ => True

/-- The operation leaves the protocols alone, and the books but for the partition. -/
def Unpublishing (op : SdmmcOp) : Prop :=
  Routine (fun _ _ => True) op ∨ ∃ partition, op = .recordPartition partition

theorem Routine.unpublishing (op : SdmmcOp) (routine : Routine commands op) : Unpublishing op := by
  left
  cases op with
  | service service =>
    cases service with
    | installProtocol protocol => exact routine
    | uninstallProtocol protocol => exact routine
    | _ => trivial
  | modifyInstance change => exact routine
  | recordPartition partition => exact routine
  | _ => trivial

theorem Unpublishing.unclaiming (op : SdmmcOp) (unpublishing : Unpublishing op) :
    Unclaiming op := by
  rcases unpublishing with routine | ⟨partition, rfl⟩
  · cases op with
    | service service =>
      cases service with
      | installProtocol protocol => exact routine.elim
      | _ => trivial
    | _ => trivial
  · trivial

theorem Routine.unclaiming (op : SdmmcOp) (routine : Routine commands op) : Unclaiming op :=
  (routine.unpublishing op).unclaiming op

/-- The slot is without the RPMB protocol after if it was before. -/
def StaysUnclaimed (before after : World) : Prop :=
  before.installed .rpmbIo = false → after.installed .rpmbIo = false

theorem StaysUnclaimed.refl (world : World) : StaysUnclaimed world world := id

theorem StaysUnclaimed.trans {first second third : World} (one : StaysUnclaimed first second)
    (other : StaysUnclaimed second third) : StaysUnclaimed first third :=
  fun unclaimed => other (one unclaimed)

theorem slotEffect_unclaimed {elsewhere : Bool} (unclaiming : Unclaiming op) (world : World) :
    StaysUnclaimed world (slotEffect elsewhere env op world).2 := by
  intro unclaimed
  cases op with
  | service service =>
    cases service with
    | installProtocol protocol =>
      have other : ¬ InstalledProtocol.rpmbIo = protocol := fun same => unclaiming same.symm
      simp [slotEffect, hostEffect, serviceEffect, World.called, installedAfter, other, unclaimed]
    | uninstallProtocol protocol =>
      simp [slotEffect, hostEffect, serviceEffect, World.called, installedAfter, unclaimed]
    | readBlockData lengthInBytes buffer => cases buffer <;> exact unclaimed
    | _ => exact unclaimed
  | _ => exact unclaimed

/-- While another slot has the protocol, the program does not install it. -/
abbrev KeepsUnclaimed {α : Type} (env : Environment) (depth : Nat) (program : Sd α) : Prop :=
  program.Keeps (slotHandler true env depth) (fun _ _ => True) StaysUnclaimed

theorem isRpmbInstalled_elsewhere (world : World) :
    wp (slotHandler true env depth) isRpmbInstalledOnTheSystem
      (fun taken after => taken = true ∧ after.installed = world.installed) (fun _ _ => False)
      world := by
  rw [isRpmbInstalledOnTheSystem, wp_bind, call, wp_invoke]
  intro answered defined
  rw [slotHandler_eq_slotEffect id] at defined
  obtain rfl := Option.some.inj defined
  simp [slotEffect, hostEffect, slotReplies, locateStatus, serviceEffect, World.called]

section

variable {env : Environment} {depth : Nat}

theorem installRpmbIo_unclaimed : KeepsUnclaimed env depth installRpmbIo := by
  intro world _
  rw [installRpmbIo, wp_bind]
  refine wp_mono (isRpmbInstalled_elsewhere world) (fun taken after located => ?_)
    fun _ _ impossible => impossible.elim
  obtain ⟨rfl, same⟩ := located
  rw [if_pos rfl, wp_pure]
  intro unclaimed
  rw [same]
  exact unclaimed

variable (recovers : ∀ cmd world answered,
  slotHandler true env depth (.recoverFromErrors cmd) world = some answered →
    StaysUnclaimed world answered.2)

include recovers

theorem unclaiming_keeps {α : Type} {program : Sd α} (every : program.All Unclaiming) :
    KeepsUnclaimed env depth program := by
  intro world _
  refine wp_of_preserves StaysUnclaimed.refl StaysUnclaimed.trans ?_ every world
  intro op state answered unclaiming defined
  by_cases recovery : IsRecovery op
  · cases op with
    | recoverFromErrors cmd => exact recovers cmd state answered defined
    | _ => exact recovery.elim
  · rw [slotHandler_eq_slotEffect recovery] at defined
    obtain rfl := Option.some.inj defined
    exact slotEffect_unclaimed unclaiming state

theorem routine_unclaimed {commands : SdCommand → UInt32 → Prop} {α : Type} {program : Sd α}
    (routine : program.All (Routine commands)) : KeepsUnclaimed env depth program :=
  unclaiming_keeps recovers (routine.mono Routine.unclaiming)

theorem installCardProtocols_unclaimed : KeepsUnclaimed env depth installCardProtocols := by
  have installs (protocol : InstalledProtocol) (other : protocol ≠ .rpmbIo) :
      (install protocol).All Unclaiming :=
    all_bind (callService_all other) fun _ => (all_invoke _).mpr trivial
  refine keeps_bind (unclaiming_keeps recovers ((all_invoke _).mpr trivial)) (fun text => ?_)
    StaysUnclaimed.trans
  refine keeps_ite ?_ (unclaiming_keeps recovers (raise_all _ _))
  refine keeps_bind (unclaiming_keeps recovers (installs .blockIo (by decide))) (fun _ => ?_)
    StaysUnclaimed.trans
  refine keeps_bind (unclaiming_keeps recovers (installs .devicePath (by decide))) (fun _ => ?_)
    StaysUnclaimed.trans
  refine keeps_bind (unclaiming_keeps recovers (instanceData_all trivial)) (fun device => ?_)
    StaysUnclaimed.trans
  exact keeps_ite installRpmbIo_unclaimed (keeps_pure StaysUnclaimed.refl ())

theorem softResetBody_unclaimed : KeepsUnclaimed env depth softResetBody := by
  have uninstalls (protocol : InstalledProtocol) : (uninstallIfInstalled protocol).All Unclaiming :=
    all_bind (instanceData_all trivial) fun _ =>
      all_ite (all_bind (callService_all trivial) fun _ => (all_invoke _).mpr trivial) (all_pure _)
  have clears : uninstallAllProtocols.All Unclaiming :=
    all_bind (uninstalls _) fun _ => all_bind (uninstalls _) fun _ => uninstalls _
  have installsBlockIo : (install .blockIo).All Unclaiming :=
    all_bind (callService_all (show InstalledProtocol.blockIo ≠ .rpmbIo by decide)) fun _ =>
      (all_invoke _).mpr trivial
  refine keeps_bind (unclaiming_keeps recovers clears) (fun _ => ?_) StaysUnclaimed.trans
  refine keeps_bind (unclaiming_keeps recovers ((all_invoke _).mpr trivial)) (fun _ => ?_)
    StaysUnclaimed.trans
  refine keeps_bind (unclaiming_keeps recovers ((all_invoke _).mpr trivial)) (fun present => ?_)
    StaysUnclaimed.trans
  refine keeps_bind (unclaiming_keeps recovers ((all_invoke _).mpr trivial)) (fun _ => ?_)
    StaysUnclaimed.trans
  refine keeps_ite ?_ (unclaiming_keeps recovers installsBlockIo)
  refine keeps_bind (unclaiming_keeps recovers ((all_invoke _).mpr trivial)) (fun readOnly => ?_)
    StaysUnclaimed.trans
  refine keeps_bind (unclaiming_keeps recovers ((all_invoke _).mpr trivial)) (fun _ => ?_)
    StaysUnclaimed.trans
  refine keeps_bind (routine_unclaimed recovers initializeDevice_routine) (fun _ => ?_)
    StaysUnclaimed.trans
  exact installCardProtocols_unclaimed recovers

theorem softReset_unclaimed : KeepsUnclaimed env depth softReset := by
  have withdraws (protocol : InstalledProtocol) (status : EfiStatus) :
      (withdraw protocol status).All Unclaiming :=
    all_bind (instanceData_all trivial) fun _ =>
      all_ite
        (all_bind ((all_invoke _).mpr trivial) fun _ =>
          all_bind (onlyIf_all ((all_invoke _).mpr trivial)) fun _ => all_pure _)
        (all_pure _)
  have exits (error : ErrorStatus) : (softResetExit error).All Unclaiming :=
    all_bind (withdraws _ _) fun _ => all_bind (withdraws _ _) fun _ => check_all _
  exact keeps_catching (softResetBody_unclaimed recovers)
    (fun error => unclaiming_keeps recovers (exits error)) StaysUnclaimed.trans

theorem recoverySteps_unclaimed (cmd : SdCommand) :
    KeepsUnclaimed env depth (recoverySteps cmd) := by
  refine keeps_bind (unclaiming_keeps recovers (instanceData_all trivial)) (fun device => ?_)
    StaysUnclaimed.trans
  refine keeps_ite (unclaiming_keeps recovers (raise_all _ _)) ?_
  refine keeps_bind (routine_unclaimed recovers (resetLines_routine cmd)) (fun status => ?_)
    StaysUnclaimed.trans
  refine keeps_bind ?_ (fun _ => routine_unclaimed recovers (stopIfTransferring_routine cmd))
    StaysUnclaimed.trans
  exact keeps_ite (softReset_unclaimed recovers) (keeps_pure StaysUnclaimed.refl ())

theorem sdhcRecoverFromErrors_unclaimed (cmd : SdCommand) :
    KeepsUnclaimed env depth (sdhcRecoverFromErrors cmd) := by
  have counts (change : UInt32 → UInt32) : (changeAttemptCount change).All Unclaiming :=
    (all_invoke _).mpr trivial
  refine keeps_bind (unclaiming_keeps recovers (counts _)) (fun _ => ?_) StaysUnclaimed.trans
  refine keeps_bind ?_ (fun _ => unclaiming_keeps recovers (counts _)) StaysUnclaimed.trans
  refine keeps_catching (recoverySteps_unclaimed recovers cmd) (fun error => ?_)
    StaysUnclaimed.trans
  exact unclaiming_keeps recovers (all_bind (counts _) fun _ => all_fail _)

end

/-- Nor does any recovery, however deep it nests. -/
theorem slotHandler_recover_unclaimed (env : Environment) (depth : Nat) (cmd : SdCommand)
    (world : World) (answered : Unit × World)
    (defined : slotHandler true env depth (.recoverFromErrors cmd) world = some answered) :
    StaysUnclaimed world answered.2 := by
  induction depth generalizing cmd world answered with
  | zero => cases defined
  | succ depth ih =>
    obtain ⟨outcome, ended, rfl⟩ := Option.map_eq_some_iff.mp defined
    have along : (sdhcRecoverFromErrors cmd).Along (slotHandler true env depth) (fun _ _ => True)
        world :=
      along_trivial _ world
    have kept := sdhcRecoverFromErrors_unclaimed ih cmd world along outcome ended
    rcases outcome with ⟨error | value, after⟩
    · exact kept
    · exact kept

/-! ### Calls of a slot -/

/-- What happens on one slot: the timer checks it, or a client makes a call. -/
inductive SlotCall where
  | check
  | driver (call : DriverCall)
  | rpmbRequest (request response : RpmbDataBuffer)

def SlotCall.program : SlotCall → Sd Unit
  | .check => checkCard
  | .driver call => call.program
  | .rpmbRequest request response => SdMmc.rpmbRequest request response

theorem sdhcSwitchPartitionMmc_unpublishing (partition : PartitionAccess) :
    (sdhcSwitchPartitionMmc partition).All Unpublishing :=
  have sends (arg : UInt32) : (sdhcSendCommand cmdSwitchMmc arg).All Unpublishing :=
    (routine_all (sdhcSendCommand_guarded commandOps_routine trivial)).mono Routine.unpublishing
  all_bind (instanceData_all (.inl trivial)) fun _ =>
    all_bind (sends _) fun _ =>
      all_bind (sdhcSendExtCsdMmc_routine.mono Routine.unpublishing) fun _ =>
        all_bind (instanceData_all (.inl trivial)) fun _ =>
          all_ite (raise_all _ _) ((all_invoke _).mpr (.inr ⟨partition, rfl⟩))

theorem rpmbRequest_unpublishing (request response : RpmbDataBuffer) :
    (rpmbRequest request response).All Unpublishing :=
  all_bind (instanceData_all (.inl trivial)) fun _ =>
    all_bind (sdhcSwitchPartitionMmc_unpublishing _) fun _ =>
      all_bind
        (all_catching ((rpmbDispatch_routine request response).mono Routine.unpublishing)
          fun _ =>
            all_bind (all_catching (sdhcSwitchPartitionMmc_unpublishing _) fun _ => all_pure _)
              fun _ => all_fail _)
        fun _ => sdhcSwitchPartitionMmc_unpublishing _

theorem checkCard_recording : checkCard.All Recording :=
  all_bind ((all_invoke _).mpr trivial) fun _ =>
    all_bind (instanceData_all trivial) fun _ =>
      all_ite
        (all_catching (softReset_resetting.mono Resetting.recording) fun _ => all_pure _)
        (all_pure _)

theorem SlotCall.program_recording (call : SlotCall) : call.program.All Recording := by
  cases call with
  | check => exact checkCard_recording
  | driver call => exact call.program_recording
  | rpmbRequest request response => exact rpmbRequest_recording request response

/-- No call installs the RPMB protocol on a slot while another one has it. -/
theorem SlotCall.program_unclaimed (env : Environment) (depth : Nat) (call : SlotCall) :
    KeepsUnclaimed env depth call.program := by
  have recovers := slotHandler_recover_unclaimed env depth
  cases call with
  | check =>
    refine keeps_bind (unclaiming_keeps recovers ((all_invoke _).mpr trivial)) (fun present => ?_)
      StaysUnclaimed.trans
    refine keeps_bind (unclaiming_keeps recovers (instanceData_all trivial)) (fun device => ?_)
      StaysUnclaimed.trans
    refine keeps_ite ?_ (keeps_pure StaysUnclaimed.refl ())
    exact keeps_catching (softReset_unclaimed recovers)
      (fun _ => keeps_pure StaysUnclaimed.refl ()) StaysUnclaimed.trans
  | driver call =>
    cases call with
    | sendCommand cmd arg =>
      exact routine_unclaimed recovers
        (routine_all (sdhcSendCommand_guarded commandOps_routine trivial))
    | sendDataCommand cmd arg bufferByteSize buffer =>
      have guarded : (sdhcSendDataCommand cmd arg bufferByteSize buffer).Guarded
          (Routine fun _ _ => True) IsRecovery :=
        sdhcSendDataCommand_guarded commandOps_routine (fun _ => trivial) trivial trivial
      exact routine_unclaimed recovers (routine_all guarded)
    | recoverFromErrors cmd => exact unclaiming_keeps recovers ((all_invoke _).mpr trivial)
    | softReset => exact softReset_unclaimed recovers
    | initializeDevice => exact routine_unclaimed recovers initializeDevice_routine
  | rpmbRequest request response =>
    exact unclaiming_keeps recovers
      ((rpmbRequest_unpublishing request response).mono Unpublishing.unclaiming)

theorem unpublishing_synced (unpublishing : Unpublishing op)
    (world : World) : KeepsSynced world (hostEffect env op world).2 := by
  rintro ⟨protocols, installs⟩
  rcases unpublishing with routine | ⟨partition, rfl⟩
  · exact ⟨protocols, hostEffect_installs routine installs⟩
  · exact ⟨protocols, installs.flagged, installs.present⟩

/-- The flags of an instance agree with its protocols after a call if they did before. -/
theorem SlotCall.program_synced (call : SlotCall) (synced : Synced world) :
    wp (handler env depth) call.program (fun _ after => Synced after) (fun _ after => Synced after)
      world := by
  have recovers := handler_recoverFromErrors_synced env depth
  cases call with
  | check =>
    have queried : Synced (world.called []) := by
      obtain ⟨protocols, installs⟩ := synced
      exact ⟨protocols, installs.flagged, installs.present⟩
    rw [program, checkCard, wp_bind, wp_call id, wp_bind, wp_instanceData, wp_ite]
    refine ⟨fun _ => ?_, fun _ => (wp_pure ()).mpr queried⟩
    rw [ignoringErrors, wp_catching]
    exact wp_mono (wp_softReset_synced recovers queried) (fun _ _ kept => kept)
      fun _ _ kept => (wp_pure ()).mpr kept
  | driver call => exact wp_call_synced call synced
  | rpmbRequest request response =>
    have spec := wp_of_preserves KeepsSynced.refl KeepsSynced.trans
      (handler_keeps recovers fun _ world holds => unpublishing_synced holds world)
      (rpmbRequest_unpublishing request response) world
    exact wp_mono spec (fun _ _ kept => kept synced) fun _ _ kept => kept synced

/-! ### All slots -/

/-- Another slot has the RPMB protocol. -/
def rpmbElsewhere (slots : List World) (slot : Nat) : Bool :=
  (slots.eraseIdx slot).any fun other => other.installed .rpmbIo

/-- A call on one slot of the pool. It has no outcome if its recoveries nest without end. -/
def callSlot (slots : List World) (slot : Nat) (host : Environment) (call : SlotCall) :
    Option (List World) :=
  match slots[slot]? with
  | none => some slots
  | some world =>
    (call.program.exec (slotHandler (rpmbElsewhere slots slot) host recoveryDepth) world).map
      fun outcome => slots.set slot outcome.2

/-- `CheckCardsCallback`: the instances are checked in the order of the pool. -/
def checkCardsCallback (hosts : Nat → Environment) (slots : List World) : Option (List World) :=
  (List.range slots.length).foldlM (fun slots slot => callSlot slots slot (hosts slot) .check) slots

/-- `SdMmcDriverStart` on a controller with this card. The new instance comes last, and
all of them are checked; where it cannot be created there is nothing to check. -/
def sdMmcDriverStart (created : Bool) (card : Card) (hosts : Nat → Environment)
    (slots : List World) : Option (List World) :=
  if created then checkCardsCallback hosts (slots ++ [World.start card]) else some slots

inductive SlotEvent where
  | driverStart (created : Bool) (card : Card) (hosts : Nat → Environment)
  | checkCards (hosts : Nat → Environment)
  | call (slot : Nat) (host : Environment) (call : SlotCall)

def serveSlots (slots : List World) : SlotEvent → Option (List World)
  | .driverStart created card hosts => sdMmcDriverStart created card hosts slots
  | .checkCards hosts => checkCardsCallback hosts slots
  | .call slot host call => callSlot slots slot host call

/-- Every instance knows its own protocols and has no recovery under way, and at most one
of them has the RPMB protocol. -/
structure SlotsSafe (slots : List World) : Prop where
  synced : ∀ slot ∈ slots, Synced slot
  idle : ∀ slot ∈ slots, slot.Idle
  single : slots.countP (fun slot => slot.installed .rpmbIo) ≤ 1

theorem slots_split (found : slots[slot]? = some world) :
    ∃ before after, slots = before ++ world :: after ∧
      slots.eraseIdx slot = before ++ after ∧
      ∀ next, slots.set slot next = before ++ next :: after := by
  obtain ⟨inside, there⟩ := List.getElem?_eq_some_iff.mp found
  refine ⟨slots.take slot, slots.drop (slot + 1), ?_, List.eraseIdx_eq_take_drop_succ _ _, ?_⟩
  · rw [← there, List.getElem_cons_drop, List.take_append_drop]
  · intro next
    rw [List.set_eq_take_append_cons_drop, if_pos inside]

theorem rpmbElsewhere_eq_false :
    rpmbElsewhere slots slot = false ↔
      (slots.eraseIdx slot).countP (fun other => other.installed .rpmbIo) = 0 := by
  rw [rpmbElsewhere, List.any_eq_false, List.countP_eq_zero]

theorem single_after {before after : List World} {last : World}
    (single : slots.countP (fun slot => slot.installed .rpmbIo) ≤ 1)
    (split : slots = before ++ world :: after) (others : slots.eraseIdx slot = before ++ after)
    (stays : rpmbElsewhere slots slot = true → StaysUnclaimed world last) :
    (before ++ last :: after).countP (fun slot => slot.installed .rpmbIo) ≤ 1 := by
  have elsewhere : rpmbElsewhere slots slot = false ↔ _ := rpmbElsewhere_eq_false
  rw [others, List.countP_append] at elsewhere
  rw [split, List.countP_append, List.countP_cons] at single
  rw [List.countP_append, List.countP_cons]
  cases taken : rpmbElsewhere slots slot with
  | false =>
    have none := elsewhere.mp taken
    split <;> omega
  | true =>
    have some : ¬ _ = 0 := fun none => by
      rw [elsewhere.mpr none] at taken
      cases taken
    cases unclaimed : world.installed .rpmbIo with
    | true =>
      rw [unclaimed, if_pos rfl] at single
      omega
    | false =>
      rw [stays taken unclaimed, if_neg Bool.false_ne_true]
      rw [unclaimed, if_neg Bool.false_ne_true] at single
      exact single

theorem callSlot_safe (safe : SlotsSafe slots) (slot : Nat) (host : Environment) (call : SlotCall) :
    ∃ after ∈ callSlot slots slot host call, SlotsSafe after := by
  unfold callSlot
  cases found : slots[slot]? with
  | none => exact ⟨slots, rfl, safe⟩
  | some world =>
    obtain ⟨before, after, split, others, put⟩ := slots_split found
    have member : world ∈ slots := by
      rw [split]
      exact List.mem_append_right _ List.mem_cons_self
    -- what holds of a single instance under every host holds of this one
    obtain ⟨script, same⟩ :=
      exec_slot (rpmbElsewhere slots slot) host recoveryDepth call.program world
    obtain ⟨outcome, ended, idle⟩ :
        ∃ outcome, call.program.exec (driver script) world = some outcome ∧ outcome.2.Idle :=
      exec_idle call.program_recording (safe.idle world member)
    have synced : Synced outcome.2 := by
      have kept := call.program_synced (safe.synced world member) outcome ended
      rcases outcome with ⟨error | value, last⟩
      · exact kept
      · exact kept
    have here : call.program.exec
        (slotHandler (rpmbElsewhere slots slot) host recoveryDepth) world = some outcome :=
      same.symm.trans ended
    have stays : rpmbElsewhere slots slot = true → StaysUnclaimed world outcome.2 := by
      intro taken
      rw [taken] at here
      have kept := call.program_unclaimed host recoveryDepth world (along_trivial _ _) outcome here
      rcases outcome with ⟨error | value, last⟩
      · exact kept
      · exact kept
    have known : ∀ other ∈ before ++ outcome.2 :: after, other = outcome.2 ∨ other ∈ slots := by
      intro other inPool
      rw [split]
      rcases List.mem_append.mp inPool with early | late
      · exact .inr (List.mem_append_left _ early)
      · rcases List.mem_cons.mp late with rfl | late
        · exact .inl rfl
        · exact .inr (List.mem_append_right _ (List.mem_cons_of_mem _ late))
    refine ⟨before ++ outcome.2 :: after, ?_, ?_, ?_, single_after safe.single split others stays⟩
    · dsimp only
      rw [here, Option.map_some, put]
      rfl
    · intro other inPool
      rcases known other inPool with rfl | old
      · exact synced
      · exact safe.synced other old
    · intro other inPool
      rcases known other inPool with rfl | old
      · exact idle
      · exact safe.idle other old

theorem checkCardsCallback_safe (safe : SlotsSafe slots) (hosts : Nat → Environment) :
    ∃ after ∈ checkCardsCallback hosts slots, SlotsSafe after :=
  foldlM_invariant (fun _ slot kept => callSlot_safe kept slot (hosts slot) .check) _ safe

/-- A new instance has no protocols yet. -/
theorem SlotsSafe.start (safe : SlotsSafe slots) (card : Card) :
    SlotsSafe (slots ++ [World.start card]) := by
  have started : Synced (World.start card) := by
    refine ⟨fun _ => false, ?_, rfl⟩
    funext protocol
    cases protocol <;> rfl
  refine ⟨?_, ?_, ?_⟩
  · intro slot member
    rcases List.mem_append.mp member with old | new
    · exact safe.synced slot old
    · exact List.mem_singleton.mp new ▸ started
  · intro slot member
    rcases List.mem_append.mp member with old | new
    · exact safe.idle slot old
    · exact List.mem_singleton.mp new ▸ World.start_idle card
  · rw [List.countP_append]
    exact safe.single

theorem serveSlots_safe (safe : SlotsSafe slots) (event : SlotEvent) :
    ∃ after ∈ serveSlots slots event, SlotsSafe after := by
  cases event with
  | driverStart created card hosts =>
    cases created with
    | false => exact ⟨slots, rfl, safe⟩
    | true => exact checkCardsCallback_safe (safe.start card) hosts
  | checkCards hosts => exact checkCardsCallback_safe safe hosts
  | call slot host call => exact callSlot_safe safe slot host call

/-- From an empty pool on, whatever the controllers that are started, the cards that come and
go, the calls that are made on any slot and the failures of any host: every event ends,
every instance knows the protocols on its handle, no recovery is left under way, and the
RPMB protocol is on one handle of the system at most. -/
theorem slots_safe (events : List SlotEvent) :
    ∃ slots ∈ events.foldlM serveSlots [], SlotsSafe slots :=
  foldlM_invariant (fun _ event safe => serveSlots_safe safe event) events
    ⟨List.forall_mem_nil _, List.forall_mem_nil _, Nat.zero_le _⟩

end MuRockchip.SdMmc
