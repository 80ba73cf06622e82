/-
What commands that succeed leave in the log.

A command that the driver takes to have succeeded has been sent and answered, and
nothing else has happened but polls of the card's status. A trace holds the events
in order, with the host's answers as far as the driver checks them.

* `wp_sdhcSendCommandHelper`: the world after a command that succeeds.
* `wp_sdhcWaitForTranState`: waiting for the card polls its status and does no more.
* `wp_sdhcSendDataCommand`: a counted transfer is a command, its blocks and polls.
-/
import MuRockchip.SdMmc.StopTransmission

namespace MuRockchip.SdMmc

open MuRockchip.Base
open MuRockchip.Base.Prog

section

variable {env : Environment} {depth : Nat} {world : World}

/-! ### Exchanges -/

def SdCommand.HasCardStatus (cmd : SdCommand) : Prop :=
  cmd.responseType = .r1 ∨ cmd.responseType = .r1b
  deriving Decidable

/-- The world after a command that the driver takes to have succeeded. -/
def World.exchanged (env : Environment) (world : World) (cmd : SdCommand) (arg : UInt32)
    (xfrInfo : Option SdCommandXfrInfo) : World :=
  (serviceEffect (env (world.calls + 1))
    (serviceEffect (env world.calls) world (.sendCommand cmd arg xfrInfo))
    (.receiveResponse cmd)).remembered cmd

/-- The driver takes a command sent from here to have succeeded. -/
structure Passed (env : Environment) (world : World) (cmd : SdCommand) : Prop where
  sent : (env world.calls).status.isError = false
  answered : (env (world.calls + 1)).status.isError = false
  checked : cmd.HasCardStatus →
    isCardStatusError world.device.cardInfo.cardFunction (env (world.calls + 1)).response.word0 =
      false

variable {cmd : SdCommand} {arg : UInt32} {first second third : World}

theorem wp_sdhcSendCommandHelper (standard : cmd.cls ≠ .app) (arg : UInt32)
    (xfrInfo : Option SdCommandXfrInfo) (world : World) :
    wp (handler env depth) (sdhcSendCommandHelper cmd arg xfrInfo)
      (fun _ after => Passed env world cmd ∧ after = world.exchanged env cmd arg xfrInfo)
      (fun _ _ => True) world := by
  rw [sdhcSendCommandHelper, sendAppCmdPrefix, if_neg standard]
  simp only [wp_bind, wp_pure, wp_callService]
  refine ⟨fun sent => ⟨fun answered => ?_, fun _ => trivial⟩, fun _ => trivial⟩
  have answers : (env (world.calls + 1)).status.isError = false := answered
  rw [checkCardStatus, wp_ite]
  constructor
  · intro _
    rw [wp_bind, wp_instanceData, wp_ite]
    refine ⟨fun _ => (wp_fail _).mpr trivial, fun passed => ?_⟩
    rw [wp_pure, wp_call id]
    exact ⟨⟨sent, answers, fun _ => Bool.eq_false_iff.mpr passed⟩, rfl⟩
  · intro unchecked
    rw [wp_pure, wp_call id]
    exact ⟨⟨sent, answers, fun checked => absurd checked unchecked⟩, rfl⟩

theorem exchanged_card (xfrInfo : Option SdCommandXfrInfo) (world : World)
    (noReset : cmd ≠ cmdGoIdleState) (noSwitch : NoSwitch cmd arg) :
    (world.exchanged env cmd arg xfrInfo).card = world.card := by
  have same : world.card.execute cmd arg = world.card :=
    execute_of_otherCommand world.card noReset noSwitch
  simp [World.exchanged, World.remembered, serviceEffect, World.called, cardAfter, same]

theorem wp_recovering {α : Type} {part : Sd α} {ok : α → World → Prop} {world : World}
    (spec : wp (handler env depth) part ok (fun _ _ => True) world) :
    wp (handler env depth) (recovering cmd part) ok (fun _ _ => True) world := by
  rw [recovering, wp_catching]
  refine wp_mono spec (fun _ _ holds => holds) fun error after _ => ?_
  rw [wp_bind]
  exact wp_mono (wp_trivial _) (fun _ _ _ => (wp_fail _).mpr trivial) fun _ _ _ => trivial

/-! ### Traces -/

/-- The driver's checks of the event are passed. -/
def Event.Passes (cardFunction : CardFunction) : Event → Prop
  | .command _ _ _ status _ _ => status.isError = false
  | .response cmd status words =>
    status.isError = false ∧
      (cmd.HasCardStatus → isCardStatusError cardFunction words.word0 = false)
  | .read status _ => status.isError = false
  | .written status _ => status.isError = false
  | .accepted _ => True
  | .recorded _ _ => True

def Event.Succeeds (mask : UInt32) : Event → Prop
  | .command _ _ _ status _ _ => status.isError = false
  | .response cmd status words =>
    status.isError = false ∧ (cmd.HasCardStatus → words.word0 &&& mask = 0)
  | .read status _ => status.isError = false
  | .written status _ => status.isError = false
  | .accepted _ => True
  | .recorded _ _ => True

/-- If the card reports errors in the event, one of them is in the low byte of its status. -/
def Event.ErrorVisible (mask : UInt32) : Event → Prop
  | .response cmd _ words =>
    cmd.HasCardStatus → words.word0 &&& mask = 0 ∨ words.word0 &&& mask &&& 0xFF ≠ 0
  | _ => True

instance (mask : UInt32) : DecidablePred (Event.ErrorVisible mask)
  | .response cmd _ words =>
    inferInstanceAs (Decidable (cmd.HasCardStatus →
      words.word0 &&& mask = 0 ∨ words.word0 &&& mask &&& 0xFF ≠ 0))
  | .command _ _ _ _ _ _ => isTrue trivial
  | .read _ _ => isTrue trivial
  | .written _ _ => isTrue trivial
  | .accepted _ => isTrue trivial
  | .recorded _ _ => isTrue trivial

theorem Event.Passes.succeeds_iff {cardFunction : CardFunction} {event : Event}
    (passes : event.Passes cardFunction) :
    event.Succeeds cardFunction.errorMask ↔ event.ErrorVisible cardFunction.errorMask := by
  cases event with
  | response cmd status words =>
    obtain ⟨answered, checked⟩ := passes
    constructor
    · exact fun succeeds carries => .inl (succeeds.2 carries)
    · intro visible
      refine ⟨answered, fun carries => ?_⟩
      have unseen : words.word0 &&& cardFunction.errorMask &&& 0xFF = 0 := by
        have passed := checked carries
        rw [isCardStatusError, decide_eq_false_iff_not, not_not, toUInt8_eq_zero_iff] at passed
        exact passed
      rcases visible carries with none | seen
      · exact none
      · exact absurd unseen seen
  | command | read | written => exact ⟨fun _ => trivial, fun _ => passes⟩
  | accepted cmd => exact Iff.rfl
  | recorded partition card => exact Iff.rfl

/-- These events have happened, and passed the driver's checks. -/
structure Traced (events : List Event) (before after : World) : Prop where
  log : after.log = before.log ++ events
  passes : ∀ event ∈ events, event.Passes before.device.cardInfo.cardFunction
  cardFunction : after.device.cardInfo.cardFunction = before.device.cardInfo.cardFunction

theorem Traced.refl (world : World) : Traced [] world world :=
  ⟨(List.append_nil _).symm, List.forall_mem_nil _, rfl⟩

theorem Traced.trans {events more : List Event} (one : Traced events first second)
    (other : Traced more second third) :
    Traced (events ++ more) first third := by
  refine ⟨by rw [other.log, one.log, List.append_assoc], ?_,
    other.cardFunction.trans one.cardFunction⟩
  exact List.forall_mem_append.mpr ⟨one.passes, one.cardFunction ▸ other.passes⟩

/-- The events of one command: it is sent, answered and accepted. -/
def Exchange (cmd : SdCommand) (arg : UInt32) (xfrInfo : Option SdCommandXfrInfo) (card : Card)
    (events : List Event) : Prop :=
  ∃ sent executed answered words,
    events =
      [.command cmd arg xfrInfo sent executed card, .response cmd answered words, .accepted cmd]

theorem exchanged_traced (arg : UInt32) (xfrInfo : Option SdCommandXfrInfo)
    (passed : Passed env world cmd) :
    ∃ events, Exchange cmd arg xfrInfo world.card events ∧
      Traced events world (world.exchanged env cmd arg xfrInfo) := by
  refine ⟨_, ⟨(env world.calls).status, (env world.calls).executed,
    (env (world.calls + 1)).status, (env (world.calls + 1)).response, rfl⟩, ?_, ?_, rfl⟩
  · simp [World.exchanged, World.remembered, serviceEffect, World.called]
  · intro event member
    simp only [List.mem_cons, List.not_mem_nil, or_false] at member
    rcases member with rfl | rfl | rfl
    · exact passed.sent
    · exact ⟨passed.answered, passed.checked⟩
    · trivial

/-! ### Polls -/

/-- The card, and what the driver holds of it, are the same in both worlds. -/
structure Unmoved (before after : World) : Prop where
  card : after.card = before.card
  extCsd : after.device.cardInfo.extCsd = before.device.cardInfo.extCsd
  cardFunction : after.device.cardInfo.cardFunction = before.device.cardInfo.cardFunction
  blockBuffer : after.device.blockBuffer = before.device.blockBuffer

theorem Unmoved.refl (world : World) : Unmoved world world := ⟨rfl, rfl, rfl, rfl⟩

theorem Unmoved.trans (one : Unmoved first second)
    (other : Unmoved second third) : Unmoved first third :=
  ⟨other.1.trans one.1, other.2.trans one.2, other.3.trans one.3, other.4.trans one.4⟩

theorem exchanged_unmoved (xfrInfo : Option SdCommandXfrInfo) (world : World)
    (noReset : cmd ≠ cmdGoIdleState) (noSwitch : NoSwitch cmd arg) :
    Unmoved world (world.exchanged env cmd arg xfrInfo) :=
  ⟨exchanged_card xfrInfo world noReset noSwitch, rfl, rfl, rfl⟩

theorem exchanged_memory (env : Environment) (cmd : SdCommand) (arg : UInt32)
    (xfrInfo : Option SdCommandXfrInfo) (world : World) :
    (world.exchanged env cmd arg xfrInfo).memory = world.memory := rfl

theorem exchanged_bufferBytes (env : Environment) (cmd : SdCommand) (arg : UInt32)
    (xfrInfo : Option SdCommandXfrInfo) (world : World) (buffer : TransferBuffer) (length : Nat) :
    (world.exchanged env cmd arg xfrInfo).bufferBytes buffer length =
      world.bufferBytes buffer length := by
  cases buffer <;> rfl

def Event.cmd? : Event → Option SdCommand
  | .command cmd _ _ _ _ _ => some cmd
  | .response cmd _ _ => some cmd
  | .accepted cmd => some cmd
  | _ => none

/-- The events are those of `SEND_STATUS` commands. -/
def StatusPolls (events : List Event) : Prop := ∀ event ∈ events, event.cmd? = some cmdSendStatus

/-- The driver has asked for the card's status, and nothing else has happened. -/
structure Polled (before after : World) : Prop where
  trace : ∃ events, StatusPolls events ∧ Traced events before after
  unmoved : Unmoved before after
  partition : after.device.currentMmcPartition = before.device.currentMmcPartition
  memory : after.memory = before.memory

theorem Polled.refl (world : World) : Polled world world :=
  ⟨⟨[], List.forall_mem_nil _, Traced.refl world⟩, Unmoved.refl world, rfl, rfl⟩

theorem Polled.trans (one : Polled first second)
    (other : Polled second third) : Polled first third := by
  obtain ⟨events, polls, traced⟩ := one.trace
  obtain ⟨more, morePolls, moreTraced⟩ := other.trace
  exact ⟨⟨events ++ more, List.forall_mem_append.mpr ⟨polls, morePolls⟩, traced.trans moreTraced⟩,
    one.unmoved.trans other.unmoved, other.partition.trans one.partition,
    other.memory.trans one.memory⟩

theorem Exchange.cmd? {xfrInfo : Option SdCommandXfrInfo} {card : Card} {events : List Event}
    (exchange : Exchange cmd arg xfrInfo card events) :
    ∀ event ∈ events, event.cmd? = some cmd := by
  obtain ⟨sent, executed, answered, words, rfl⟩ := exchange
  intro event member
  simp only [List.mem_cons, List.not_mem_nil, or_false] at member
  rcases member with rfl | rfl | rfl <;> rfl

/-- A command without data that is not announced. -/
theorem wp_sdhcSendSimpleCommand (standard : cmd.cls ≠ .app) (arg : UInt32) (world : World) :
    wp (handler env depth) (sdhcSendSimpleCommand cmd arg)
      (fun _ after => Passed env world cmd ∧ after = world.exchanged env cmd arg none)
      (fun _ _ => True) world :=
  wp_recovering (wp_sdhcSendCommandHelper standard arg none world)

theorem wp_sdhcSendStatus (world : World) :
    wp (handler env depth) sdhcSendStatus (fun _ after => Polled world after) (fun _ _ => True)
      world := by
  simp only [sdhcSendStatus, rcaArgument, wp_bind, wp_instanceData, wp_pure]
  refine wp_mono (wp_sdhcSendSimpleCommand (by decide) _ world) (fun _ after spec => ?_)
    fun _ _ _ => trivial
  obtain ⟨passed, rfl⟩ := spec
  obtain ⟨events, exchange, traced⟩ := exchanged_traced _ none passed
  exact ⟨⟨events, exchange.cmd?, traced⟩,
    exchanged_unmoved none world (by decide) (noSwitch_of_ne _ (by decide)), rfl, rfl⟩

theorem wp_pollTranState (retry : Nat) (cardStatus : UInt32) (world : World) :
    wp (handler env depth) (pollTranState retry cardStatus) (fun _ after => Polled world after)
      (fun _ _ => True) world := by
  induction retry generalizing cardStatus world with
  | zero => exact (wp_fail _).mpr trivial
  | succ retry ih =>
    rw [pollTranState, wp_ite]
    refine ⟨fun _ => (wp_pure ()).mpr (Polled.refl world), fun _ => ?_⟩
    rw [wp_bind]
    refine wp_mono (wp_sdhcSendStatus world) (fun next polled first => ?_) fun _ _ _ => trivial
    exact wp_mono (ih next polled) (fun _ _ rest => first.trans rest) fun _ _ _ => trivial

theorem wp_sdhcWaitForTranState (world : World) :
    wp (handler env depth) sdhcWaitForTranStateAndReadyForData (fun _ after => Polled world after)
      (fun _ _ => True) world := by
  rw [sdhcWaitForTranStateAndReadyForData, wp_bind]
  refine wp_mono (wp_sdhcSendStatus world) (fun status polled first => ?_) fun _ _ _ => trivial
  exact wp_mono (wp_pollTranState _ status polled) (fun _ _ rest => first.trans rest)
    fun _ _ _ => trivial

/-! ### Data commands -/

theorem wp_endTransfer {ok : Unit → World → Prop} {err : ErrorStatus → World → Prop}
    (closed : cmd.isMultiBlock = false ∨ world.device.lastSuccessfulCmd ≠ none ∧
      world.device.preLastSuccessfulCmd = some cmdSetBlockCount) :
    wp (handler env depth) (endTransfer cmd) ok err world ↔ ok () world := by
  rcases closed with single | ⟨some, counted⟩
  · rw [endTransfer, if_neg (by simp [single]), wp_pure]
  · rw [endTransfer]
    split
    · rw [wp_bind, wp_blockCountPreceded some counted, if_pos (by simp), wp_pure]
    · rw [wp_pure]

def transferService (cmd : SdCommand) (bufferByteSize : UInt32) (buffer : TransferBuffer) :
    Service :=
  if cmd.transferDirection = .read then .readBlockData bufferByteSize buffer
  else .writeBlockData bufferByteSize buffer

theorem transferBlocks_eq (cmd : SdCommand) (bufferByteSize : UInt32) (buffer : TransferBuffer) :
    transferBlocks cmd bufferByteSize buffer =
      callService (transferService cmd bufferByteSize buffer) := by
  unfold transferBlocks transferService
  split <;> rfl

def World.announced (env : Environment) (world : World) (cmd : SdCommand)
    (arg bufferByteSize : UInt32) (buffer : TransferBuffer) : World :=
  world.exchanged env cmd arg
    (some ⟨sdBlockLengthBytes, bufferByteSize / sdBlockLengthBytes, buffer⟩)

theorem announced_unmoved (env : Environment) (bufferByteSize : UInt32) (buffer : TransferBuffer)
    (world : World) (noReset : cmd ≠ cmdGoIdleState) (noSwitch : NoSwitch cmd arg) :
    Unmoved world (world.announced env cmd arg bufferByteSize buffer) :=
  exchanged_unmoved _ world noReset noSwitch

theorem announced_lastSent (env : Environment) (cmd : SdCommand) (arg bufferByteSize : UInt32)
    (buffer : TransferBuffer) (world : World) :
    (world.announced env cmd arg bufferByteSize buffer).lastSent = some cmd := rfl

theorem wp_sdhcSendDataCommand (standard : cmd.cls ≠ .app) (arg bufferByteSize : UInt32)
    (buffer : TransferBuffer)
    (closed : cmd.isMultiBlock = false ∨ world.device.lastSuccessfulCmd = some cmdSetBlockCount) :
    wp (handler env depth) (sdhcSendDataCommand cmd arg bufferByteSize buffer)
      (fun _ after => Passed env world cmd ∧ (env (world.calls + 2)).status.isError = false ∧
        Polled (serviceEffect (env (world.calls + 2))
          (world.announced env cmd arg bufferByteSize buffer)
          (transferService cmd bufferByteSize buffer)) after)
      (fun _ _ => True) world := by
  rw [sdhcSendDataCommand]
  apply wp_recovering
  rw [wp_bind]
  refine wp_mono (wp_sdhcSendCommandHelper standard arg _ world) (fun _ sent spec => ?_)
    fun _ _ _ => trivial
  obtain ⟨passed, rfl⟩ := spec
  rw [wp_bind, transferBlocks_eq, wp_callService]
  refine ⟨fun moved => ?_, fun _ => trivial⟩
  rw [wp_bind, wp_endTransfer]
  · exact wp_mono (wp_sdhcWaitForTranState _) (fun _ _ polled => ⟨passed, moved, polled⟩)
      fun _ _ _ => trivial
  · -- Moving the blocks leaves the command on record, and what was recorded before it.
    obtain ⟨records, -⟩ := serviceEffect_device (env (world.calls + 2))
      (world.announced env cmd arg bufferByteSize buffer)
      (transferService cmd bufferByteSize buffer)
    rcases closed with single | counted
    · exact .inl single
    · exact .inr ⟨fun none => Option.some_ne_none cmd (records.last.symm.trans none),
        records.preLast.trans counted⟩

end

end MuRockchip.SdMmc
