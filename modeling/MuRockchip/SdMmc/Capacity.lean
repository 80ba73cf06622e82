/-
The capacity of a card (`SdhcSendCsd`, `SdhcSendExtCsdMmc`, `InitializeMmcDevice`).

The capacity and the last block are computed from the CSD, in 32-bit products for the
first version of it. An MMC then reads its EXT_CSD, whose sector count replaces both,
and is zero on a card of standard capacity.

* `csdByteCapacity_toNat`, `csd2ByteCapacity_toNat`: the computed capacities.
* `registersSent`: the CSD and the EXT_CSD that a log says the card has sent.
* `wp_initializeDevice`: what a successful initialization has recorded of them.
* `capacity_exact_iff`: when that is the card's capacity.
-/
import MuRockchip.SdMmc.PartitionSafety
import MuRockchip.SdMmc.Transcript

namespace MuRockchip.SdMmc

open MuRockchip.Base
open MuRockchip.Base.Prog

/-! ### Products -/

theorem CmdResponse.field_lt (response : CmdResponse) (low width : Nat) :
    response.field low width < 2 ^ width :=
  Nat.mod_lt _ (Nat.two_pow_pos width)

/-- `(C_SIZE + 1) * 2 ^ (C_SIZE_MULT + 2) * 2 ^ READ_BL_LEN`. -/
def csdCapacity (csd : CmdResponse) : Nat :=
  (csd.field 54 12 + 1) * 2 ^ (csd.field 39 3 + 2) * 2 ^ csd.field 72 4

/-- `(C_SIZE + 1)` times 512 KiB. -/
def csd2Capacity (csd : CmdResponse) : Nat := (csd.field 40 22 + 1) * (512 * 1024)

theorem shift_toNat {count : Nat} (small : count < 32) :
    ((1 : UInt32) <<< UInt32.ofNat count).toNat = 2 ^ count := by
  have word : (UInt32.ofNat count).toNat = count := by
    rw [UInt32.toNat_ofNat', Nat.mod_eq_of_lt (by omega)]
  have power : 2 ^ count < 2 ^ 32 := Nat.pow_lt_pow_right (by omega) small
  rw [UInt32.toNat_shiftLeft, word, Nat.mod_eq_of_lt small, Nat.shiftLeft_eq,
    show (1 : UInt32).toNat = 1 from rfl, Nat.one_mul, Nat.mod_eq_of_lt power]

/-- The product is formed in 32 bits. -/
theorem csdByteCapacity_toNat (csd : CmdResponse) :
    (csdByteCapacity csd).toNat = csdCapacity csd % 2 ^ 32 := by
  have size := csd.field_lt 54 12
  have mult := csd.field_lt 39 3
  have length := csd.field_lt 72 4
  rw [csdByteCapacity, UInt32.toNat_toUInt64, UInt32.toNat_mul, UInt32.toNat_mul,
    shift_toNat (by omega), shift_toNat (by omega), UInt32.toNat_add, UInt32.toNat_ofNat',
    Nat.mod_eq_of_lt (show csd.field 54 12 < 2 ^ 32 by omega),
    show (1 : UInt32).toNat = 1 from rfl,
    Nat.mod_eq_of_lt (show csd.field 54 12 + 1 < 2 ^ 32 by omega), Nat.mod_mul_mod, csdCapacity]

theorem csd2ByteCapacity_toNat (csd : CmdResponse) :
    (csd2ByteCapacity csd).toNat = csd2Capacity csd := by
  have size := csd.field_lt 40 22
  rw [csd2ByteCapacity, UInt64.toNat_mul, UInt64.toNat_mul, UInt64.toNat_ofNat', csd2Capacity,
    show (512 : UInt64).toNat = 512 from rfl, show (1024 : UInt64).toNat = 1024 from rfl]
  omega

theorem lastBlockOfCapacity_toNat (byteCapacity : UInt64) :
    (lastBlockOfCapacity byteCapacity).toNat = byteCapacity.toNat / 512 - 1 := by
  have quotient : (byteCapacity / sdBlockLengthBytes.toUInt64).toNat = byteCapacity.toNat / 512 :=
    UInt64.toNat_div _ _
  unfold lastBlockOfCapacity
  dsimp only
  split
  · rename_i positive
    have above : 1 ≤ byteCapacity / sdBlockLengthBytes.toUInt64 := by
      rw [UInt64.le_iff_toNat_le]
      exact UInt64.lt_iff_toNat_lt.mp positive
    rw [UInt64.toNat_sub_of_le _ _ above, quotient]
    rfl
  · rename_i none
    have zero : byteCapacity.toNat / 512 = 0 := by
      have := UInt64.le_iff_toNat_le.mp (UInt64.not_lt.mp none)
      rw [quotient] at this
      exact Nat.le_zero.mp this
    rw [zero]
    rfl

/-! ### What the card sends -/

/-- The registers a card has sent: the response to the last `SEND_CSD`, the data after the
last `SEND_EXT_CSD`, and whether one of them is still due. -/
structure RegistersSent where
  csdDue : Bool
  csd : Option CmdResponse
  extCsdDue : Bool
  extCsd : Option (List UInt8)
  deriving DecidableEq, Repr

namespace RegistersSent

def after (sent : RegistersSent) : Event → RegistersSent
  | .command cmd _ _ _ _ _ =>
    { sent with
      csdDue := decide (cmd = cmdSendCsd)
      extCsdDue := decide (cmd = cmdSendExtCsdMmc) }
  | .response _ status words =>
    if sent.csdDue then
      { sent with csdDue := false, csd := if status.isError then none else some words }
    else sent
  | .read status bytes =>
    if sent.extCsdDue then
      { sent with extCsdDue := false, extCsd := if status.isError then none else some bytes }
    else sent
  | .written _ _ => sent
  | .accepted _ => sent
  | .recorded _ _ => sent

/-- Nothing is due. -/
def Settled (sent : RegistersSent) : Prop := sent.csdDue = false ∧ sent.extCsdDue = false

end RegistersSent

/-- What a log says that the card sent. -/
def registersSent (log : List Event) : RegistersSent :=
  log.foldl RegistersSent.after ⟨false, none, false, none⟩

theorem registersSent_append (log events : List Event) :
    registersSent (log ++ events) = events.foldl RegistersSent.after (registersSent log) :=
  List.foldl_append

/-- The event asks for neither register. -/
def Event.AsksOther : Event → Prop
  | .command cmd _ _ _ _ _ => cmd ≠ cmdSendCsd ∧ cmd ≠ cmdSendExtCsdMmc
  | _ => True

variable {sent : RegistersSent} {world : World}

theorem RegistersSent.Settled.after_eq (settled : sent.Settled) {event : Event}
    (other : event.AsksOther) : sent.after event = sent := by
  obtain ⟨csdDue, csd, extCsdDue, extCsd⟩ := sent
  obtain ⟨rfl, rfl⟩ : csdDue = false ∧ extCsdDue = false := settled
  cases event with
  | command cmd arg xfrInfo status executed card =>
    rw [after, decide_eq_false other.1, decide_eq_false other.2]
  | _ => rfl

theorem RegistersSent.Settled.foldl_eq (settled : sent.Settled) {events : List Event}
    (others : ∀ event ∈ events, event.AsksOther) :
    events.foldl RegistersSent.after sent = sent := by
  induction events with
  | nil => rfl
  | cons event events ih =>
    rw [List.forall_mem_cons] at others
    rw [List.foldl_cons, settled.after_eq others.1]
    exact ih others.2

/-! ### What an initialization records -/

/-- The kind of the card and the sizes that were taken over from it. -/
structure SameSizes (before after : SdhcInstance) : Prop where
  cardFunction : after.cardInfo.cardFunction = before.cardInfo.cardFunction
  highCapacity : after.cardInfo.highCapacity = before.cardInfo.highCapacity
  byteCapacity : after.cardInfo.byteCapacity = before.cardInfo.byteCapacity
  lastBlock : after.media.lastBlock = before.media.lastBlock

theorem SameSizes.refl (device : SdhcInstance) : SameSizes device device :=
  ⟨rfl, rfl, rfl, rfl⟩

theorem SameSizes.trans {first second third : SdhcInstance} (one : SameSizes first second)
    (other : SameSizes second third) : SameSizes first third where
  cardFunction := other.cardFunction.trans one.cardFunction
  highCapacity := other.highCapacity.trans one.highCapacity
  byteCapacity := other.byteCapacity.trans one.byteCapacity
  lastBlock := other.lastBlock.trans one.lastBlock

/-- The sizes are the same in both worlds, and so are the registers the card has sent. -/
structure SizesKept (before after : World) : Prop where
  sizes : SameSizes before.device after.device
  registers : (registersSent before.log).Settled →
    registersSent after.log = registersSent before.log

theorem SizesKept.trans {first second third : World} (one : SizesKept first second)
    (other : SizesKept second third) : SizesKept first third := by
  refine ⟨one.sizes.trans other.sizes, fun settled => ?_⟩
  have same := one.registers settled
  rw [other.registers (by rwa [same]), same]

theorem sizesKept_of_events {before after : World} {events : List Event}
    (sizes : SameSizes before.device after.device) (log : after.log = before.log ++ events)
    (others : ∀ event ∈ events, event.AsksOther) : SizesKept before after := by
  refine ⟨sizes, fun settled => ?_⟩
  rw [log, registersSent_append, settled.foldl_eq others]

/-- The operation keeps the sizes, and asks for neither register. -/
def KeepsSizes : SdmmcOp → Prop
  | .service (.sendCommand cmd _ _) => cmd ≠ cmdSendCsd ∧ cmd ≠ cmdSendExtCsdMmc
  | .modifyInstance change => ∀ device, SameSizes device (change device)
  | .recoverFromErrors _ => False
  | _ => True

theorem commandOps_keepsSizes : CommandOps KeepsSizes where
  instanceData := trivial
  receive _ := trivial
  remember _ := trivial
  nullCmd _ := trivial
  auxiliary cmd arg member := by
    simp only [List.mem_cons, List.not_mem_nil, or_false] at member
    rcases member with rfl | rfl | rfl
    · exact ⟨by decide, by decide⟩
    · exact ⟨by decide, by decide⟩
    · exact ⟨by decide, by decide⟩

section

variable {env : Environment} {depth : Nat}

theorem serviceEffect_keepsSizes {service : Service} (keeps : KeepsSizes (.service service))
    (reply : HostReply) (world : World) :
    SizesKept world (serviceEffect reply world service) := by
  have same : SameSizes world.device world.device := SameSizes.refl _
  have alone {event : Event} (other : event.AsksOther) :
      ∀ one ∈ [event], one.AsksOther := List.forall_mem_singleton.mpr other
  cases service with
  | sendCommand cmd arg xfrInfo => exact sizesKept_of_events same rfl (alone keeps)
  | receiveResponse cmd =>
    exact sizesKept_of_events ⟨rfl, rfl, rfl, rfl⟩ rfl (alone trivial)
  | readBlockData lengthInBytes buffer =>
    cases buffer <;> exact sizesKept_of_events ⟨rfl, rfl, rfl, rfl⟩ rfl (alone trivial)
  | writeBlockData lengthInBytes buffer => exact sizesKept_of_events same rfl (alone trivial)
  | _ => exact sizesKept_of_events same rfl (List.forall_mem_nil _)

theorem hostEffect_keepsSizes {op : SdmmcOp} (keeps : KeepsSizes op) (world : World) :
    SizesKept world (hostEffect env op world).2 := by
  have same : SameSizes world.device world.device := SameSizes.refl _
  have unlogged : world.log = world.log ++ [] := (List.append_nil _).symm
  cases op with
  | service service => exact serviceEffect_keepsSizes keeps _ world
  | modifyInstance change =>
    exact sizesKept_of_events (keeps world.device) unlogged (List.forall_mem_nil _)
  | recoverFromErrors cmd => exact keeps.elim
  | rememberCommand | recordPartition =>
    exact sizesKept_of_events ⟨rfl, rfl, rfl, rfl⟩ rfl (List.forall_mem_singleton.mpr trivial)
  | isCardPresent | isReadOnly | convertDevicePathToText | nullCmdEquals =>
    exact sizesKept_of_events same rfl (List.forall_mem_nil _)
  | instanceData | readMemory => exact sizesKept_of_events same unlogged (List.forall_mem_nil _)

theorem wp_keepsSizes {α : Type} {program : Sd α}
    (guarded : program.Guarded KeepsSizes IsRecovery) (world : World) :
    wp (handler env depth) program (fun _ after => SizesKept world after) (fun _ _ => True)
      world := by
  have refl : ∀ world, SizesKept world world := fun world => ⟨SameSizes.refl _, fun _ => rfl⟩
  refine Guarded.wp refl SizesKept.trans ?_ guarded world
  intro op before answered keeps defined
  have noRecovery : ¬ IsRecovery op := by
    intro recovery
    cases op with
    | recoverFromErrors cmd => exact keeps
    | _ => exact recovery
  rw [handler_eq_hostEffect noRecovery] at defined
  cases defined
  exact hostEffect_keepsSizes keeps before

theorem sdhcSendCommand_keepsSizes {cmd : SdCommand} (arg : UInt32)
    (other : cmd ≠ cmdSendCsd ∧ cmd ≠ cmdSendExtCsdMmc) :
    (sdhcSendCommand cmd arg).Guarded KeepsSizes IsRecovery :=
  sdhcSendCommand_guarded commandOps_keepsSizes other

theorem rcaArgument_keepsSizes : rcaArgument.Guarded KeepsSizes IsRecovery :=
  rcaArgument_guarded commandOps_keepsSizes

theorem instanceData_keepsSizes : instanceData.Guarded KeepsSizes IsRecovery :=
  instanceData_guarded commandOps_keepsSizes

theorem checkSpecVers_keepsSizes : checkSpecVers.Guarded KeepsSizes IsRecovery :=
  guarded_bind instanceData_keepsSizes fun _ => guarded_ite (raise_guarded _ _) (guarded_pure _)

theorem sdhcSelectDevice_keepsSizes : sdhcSelectDevice.Guarded KeepsSizes IsRecovery :=
  guarded_bind rcaArgument_keepsSizes fun _ => sdhcSendCommand_keepsSizes _ (by decide)

theorem sdhcSwitchBusWidthSd_keepsSizes : sdhcSwitchBusWidthSd.Guarded KeepsSizes IsRecovery :=
  guarded_bind (sdhcSendCommand_keepsSizes _ (by decide)) fun _ => callService_guarded trivial

theorem sdhcSetMaxClockFrequency_keepsSizes :
    sdhcSetMaxClockFrequency.Guarded KeepsSizes IsRecovery :=
  guarded_bind instanceData_keepsSizes fun _ =>
    guarded_ite (callService_guarded trivial) (raise_guarded _ _)

/-- The part of an initialization from the CSD on, under a postcondition on success. -/
abbrev Succeeds (env : Environment) (depth : Nat) {α : Type} (program : Sd α)
    (holds : World → Prop) (world : World) : Prop :=
  wp (handler env depth) program (fun _ after => holds after) (fun _ _ => True) world

theorem succeeds_bind {α β : Type} {program : Sd α} {next : α → Sd β}
    {middle holds : World → Prop} {world : World}
    (first : Succeeds env depth program middle world)
    (later : ∀ value after, middle after → Succeeds env depth (next value) holds after) :
    Succeeds env depth (program >>= next) holds world := by
  rw [Succeeds, wp_bind]
  exact wp_mono first (fun value after kept => later value after kept) fun _ _ _ => trivial

theorem succeeds_kept {α : Type} {program : Sd α} {holds : World → Prop} {world : World}
    (guarded : program.Guarded KeepsSizes IsRecovery)
    (kept : ∀ {before after}, holds before → SizesKept before after → holds after)
    (initial : holds world) : Succeeds env depth program holds world :=
  wp_mono (wp_keepsSizes guarded world) (fun _ _ same => kept initial same) fun _ _ _ => trivial

/-! ### The two card kinds -/

/-- `SEC_COUNT` of the block that holds an EXT_CSD. -/
def extCsdSectors (block : List UInt8) : Nat := leValue ((block.drop 212).take 4)

/-- The card is of this kind, and has sent a CSD. -/
structure CsdTold (cardFunction : CardFunction) (world : World) : Prop where
  kind : world.device.cardInfo.cardFunction = cardFunction
  settled : (registersSent world.log).Settled
  csd : (registersSent world.log).csd.isSome = true

variable {before : World} {cardFunction : CardFunction}

theorem CsdTold.kept {after : World} (told : CsdTold cardFunction before)
    (same : SizesKept before after) :
    CsdTold cardFunction after := by
  have registers := same.registers told.settled
  exact ⟨same.sizes.cardFunction.trans told.kind, by rw [registers]; exact told.settled,
    by rw [registers]; exact told.csd⟩

/-- What the CSD gave. -/
structure CsdTaken (cardFunction : CardFunction) (world : World) : Prop
    extends CsdTold cardFunction world where
  capacity : ∀ csd ∈ (registersSent world.log).csd,
    world.device.cardInfo.byteCapacity = world.device.cardInfo.capacityOfCsd csd
  lastBlock : world.device.media.lastBlock =
    lastBlockOfCapacity world.device.cardInfo.byteCapacity

theorem CsdTaken.kept {after : World} (taken : CsdTaken cardFunction before)
    (same : SizesKept before after) :
    CsdTaken cardFunction after where
  toCsdTold := taken.toCsdTold.kept same
  capacity csd sent := by
    rw [same.registers taken.settled] at sent
    rw [same.sizes.byteCapacity, taken.capacity csd sent, CardInfo.capacityOfCsd,
      CardInfo.capacityOfCsd, same.sizes.cardFunction, same.sizes.highCapacity]
  lastBlock := by rw [same.sizes.lastBlock, same.sizes.byteCapacity, taken.lastBlock]

/-- What the EXT_CSD of an MMC gave. -/
structure ExtCsdTaken (world : World) : Prop extends CsdTold .mmc world where
  sectors : ∃ block, (registersSent world.log).extCsd = some block ∧
    world.device.cardInfo.byteCapacity.toNat = extCsdSectors block * 512 ∧
    (extCsdSectors block ≠ 0 → world.device.media.lastBlock.toNat + 1 = extCsdSectors block)

theorem ExtCsdTaken.kept {after : World} (taken : ExtCsdTaken before)
    (same : SizesKept before after) : ExtCsdTaken after where
  toCsdTold := taken.toCsdTold.kept same
  sectors := by
    obtain ⟨block, sent, capacity, last⟩ := taken.sectors
    refine ⟨block, ?_, ?_, ?_⟩
    · rw [same.registers taken.settled, sent]
    · rw [same.sizes.byteCapacity, capacity]
    · rw [same.sizes.lastBlock]
      exact last

theorem succeeds_quiet {α : Type} {program : Sd α} {cardFunction : CardFunction} {world : World}
    (quiet : program.Guarded Quiet IsRecovery)
    (initial : world.device.cardInfo.cardFunction = cardFunction) :
    Succeeds env depth program (fun after => after.device.cardInfo.cardFunction = cardFunction)
      world :=
  wp_mono (wp_quiet quiet world) (fun _ _ unmoved => unmoved.cardFunction.trans initial)
    fun _ _ _ => trivial

/-- What the card has sent after it has answered `SEND_CSD`. -/
theorem registersSent_csd {world : World} {arg : UInt32} (passed : Passed env world cmdSendCsd) :
    registersSent (world.exchanged env cmdSendCsd arg none).log =
      { registersSent world.log with
        csdDue := false
        csd := some (env (world.calls + 1)).response
        extCsdDue := false } := by
  have log : (world.exchanged env cmdSendCsd arg none).log = world.log ++
      [.command cmdSendCsd arg none (env world.calls).status (env world.calls).executed world.card,
        .response cmdSendCsd (env (world.calls + 1)).status (env (world.calls + 1)).response,
        .accepted cmdSendCsd] := by
    simp [World.exchanged, World.remembered, serviceEffect, World.called]
  rw [log, registersSent_append]
  simp [RegistersSent.after, passed.answered, show cmdSendCsd ≠ cmdSendExtCsdMmc by decide]

theorem succeeds_sendCsd {cardFunction : CardFunction} {world : World}
    (initial : world.device.cardInfo.cardFunction = cardFunction) :
    Succeeds env depth sdhcSendCsd (CsdTaken cardFunction) world := by
  refine succeeds_bind (succeeds_quiet rcaArgument_quiet initial) fun arg middle kind => ?_
  rw [Succeeds, wp_bind, sdhcSendCommand, if_neg (by decide), wp_bind]
  refine wp_mono (wp_sdhcSendSimpleCommand (by decide) arg middle) (fun _ last sent => ?_)
    fun _ _ _ => trivial
  obtain ⟨passed, rfl⟩ := sent
  rw [wp_pure, wp_modifyInstance]
  have registers := @registersSent_csd env middle arg passed
  refine ⟨⟨kind, ?_, ?_⟩, ?_, rfl⟩
  · show (registersSent (middle.exchanged env cmdSendCsd arg none).log).Settled
    rw [registers]
    exact ⟨rfl, rfl⟩
  · show (registersSent (middle.exchanged env cmdSendCsd arg none).log).csd.isSome = true
    rw [registers]
    rfl
  · intro csd sent
    have same : (registersSent (middle.exchanged env cmdSendCsd arg none).log).csd = some csd :=
      sent
    rw [registers] at same
    cases same
    rfl

theorem extCsdSectors_lt (block : List UInt8) : extCsdSectors block < 2 ^ 32 := by
  have below := leValue_lt ((block.drop 212).take 4)
  have few : ((block.drop 212).take 4).length ≤ 4 := List.length_take_le _ _
  have power : 256 ^ ((block.drop 212).take 4).length ≤ 256 ^ 4 :=
    Nat.pow_le_pow_right (by decide) few
  exact Nat.lt_of_lt_of_le below (Nat.le_trans power (by decide))

theorem takeExtCsd_sizes (device : SdhcInstance) :
    device.takeExtCsd.cardInfo.byteCapacity.toNat = extCsdSectors device.blockBuffer * 512 ∧
      (extCsdSectors device.blockBuffer ≠ 0 →
        device.takeExtCsd.media.lastBlock.toNat + 1 = extCsdSectors device.blockBuffer) := by
  have below := extCsdSectors_lt device.blockBuffer
  have sectors : (MmcExtCsd.ofBlock device.blockBuffer).sectorCount.toNat =
      extCsdSectors device.blockBuffer := UInt32.toNat_ofNat_of_lt' below
  constructor
  · show ((MmcExtCsd.ofBlock device.blockBuffer).sectorCount.toUInt64 * 512).toNat = _
    rw [UInt64.toNat_mul, UInt32.toNat_toUInt64, sectors, show (512 : UInt64).toNat = 512 from rfl]
    omega
  · intro some
    have above : 1 ≤ (MmcExtCsd.ofBlock device.blockBuffer).sectorCount := by
      rw [UInt32.le_iff_toNat_le, sectors]
      exact Nat.pos_of_ne_zero some
    show ((MmcExtCsd.ofBlock device.blockBuffer).sectorCount - 1).toUInt64.toNat + 1 = _
    rw [UInt32.toNat_toUInt64, UInt32.toNat_sub_of_le _ _ above, sectors,
      show (1 : UInt32).toNat = 1 from rfl]
    omega

def World.readExtCsd (env : Environment) (world : World) (arg : UInt32) : World :=
  serviceEffect (env (world.calls + 2))
    (world.announced env cmdSendExtCsdMmc arg sdBlockLengthBytes .blockBuffer)
    (.readBlockData sdBlockLengthBytes .blockBuffer)

/-- What the card has sent after it has been asked for its EXT_CSD. -/
theorem registersSent_extCsd {world : World} {arg : UInt32}
    (settled : (registersSent world.log).Settled)
    (moved : (env (world.calls + 2)).status.isError = false) :
    registersSent (world.readExtCsd env arg).log =
      { registersSent world.log with
        extCsd := some (world.readExtCsd env arg).device.blockBuffer } := by
  have log : (world.readExtCsd env arg).log = world.log ++
      [.command cmdSendExtCsdMmc arg
          (some ⟨sdBlockLengthBytes, sdBlockLengthBytes / sdBlockLengthBytes, .blockBuffer⟩)
          (env world.calls).status (env world.calls).executed world.card,
        .response cmdSendExtCsdMmc (env (world.calls + 1)).status
          (env (world.calls + 1)).response,
        .accepted cmdSendExtCsdMmc,
        .read (env (world.calls + 2)).status (world.readExtCsd env arg).device.blockBuffer] := by
    simp [World.readExtCsd, World.announced, World.exchanged, World.remembered, serviceEffect,
      World.called, World.storeBuffer]
  rw [log, registersSent_append]
  obtain ⟨csd, extCsd⟩ := settled
  simp [RegistersSent.after, moved, csd, extCsd,
    show cmdSendExtCsdMmc ≠ cmdSendCsd by decide]

theorem asksOther_of_statusPolls {events : List Event} (polls : StatusPolls events) :
    ∀ event ∈ events, event.AsksOther := by
  intro event member
  cases event with
  | command cmd arg xfrInfo status executed card =>
    obtain rfl : cmd = cmdSendStatus := Option.some.inj (polls _ member)
    exact ⟨by decide, by decide⟩
  | _ => trivial

theorem succeeds_sendExtCsd {world : World} (initial : CsdTold .mmc world) :
    Succeeds env depth sdhcSendExtCsdMmc ExtCsdTaken world := by
  refine succeeds_bind (succeeds_kept rcaArgument_keepsSizes CsdTold.kept initial)
    fun arg middle told => ?_
  rw [Succeeds, wp_bind]
  refine wp_mono (wp_sdhcSendDataCommand (by decide) arg sdBlockLengthBytes .blockBuffer
    (.inl (by decide))) (fun _ last sent => ?_) fun _ _ _ => trivial
  obtain ⟨-, moved, polled⟩ := sent
  obtain ⟨events, polls, traced⟩ := polled.trace
  have read := @registersSent_extCsd env middle arg told.settled moved
  have settled : (registersSent (middle.readExtCsd env arg).log).Settled := by
    rw [read]
    exact told.settled
  have registers : registersSent last.log = { registersSent middle.log with
      extCsd := some (middle.readExtCsd env arg).device.blockBuffer } := by
    rw [traced.log, registersSent_append]
    exact (settled.foldl_eq (asksOther_of_statusPolls polls)).trans read
  have buffer : last.device.blockBuffer = (middle.readExtCsd env arg).device.blockBuffer :=
    polled.unmoved.blockBuffer
  rw [wp_modifyInstance]
  refine ⟨⟨polled.unmoved.cardFunction.trans told.kind, ?_, ?_⟩, last.device.blockBuffer, ?_,
    takeExtCsd_sizes last.device⟩
  · show (registersSent last.log).Settled
    rw [registers]
    exact told.settled
  · show (registersSent last.log).csd.isSome = true
    rw [registers]
    exact told.csd
  · show (registersSent last.log).extCsd = _
    rw [registers, buffer]

/-- What a successful initialization has recorded, by the kind of the card. -/
def SizesRecorded (world : World) : Prop := CsdTaken .sd world ∨ ExtCsdTaken world

theorem SizesRecorded.kept {after : World} (recorded : SizesRecorded before)
    (same : SizesKept before after) : SizesRecorded after := by
  rcases recorded with taken | taken
  · exact .inl (taken.kept same)
  · exact .inr (taken.kept same)

theorem succeeds_initializeSdDevice {world : World}
    (initial : world.device.cardInfo.cardFunction = .sd) :
    Succeeds env depth initializeSdDevice SizesRecorded world := by
  refine succeeds_bind (succeeds_quiet sdhcSendOpCondSd_quiet initial) fun _ _ kind => ?_
  refine succeeds_bind (succeeds_quiet sdhcSendCidAll_quiet kind) fun _ _ kind => ?_
  refine succeeds_bind (succeeds_quiet sdhcSendRelativeAddr_quiet kind) fun _ _ kind => ?_
  refine succeeds_bind (succeeds_quiet sdhcSendCid_quiet kind) fun _ _ kind => ?_
  refine succeeds_bind (succeeds_sendCsd kind) fun _ after taken => ?_
  have recorded : SizesRecorded after := .inl taken
  refine succeeds_bind (succeeds_kept sdhcSelectDevice_keepsSizes SizesRecorded.kept recorded)
    fun _ _ recorded => ?_
  refine succeeds_bind (succeeds_kept sdhcSwitchBusWidthSd_keepsSizes SizesRecorded.kept recorded)
    fun _ _ recorded => ?_
  exact succeeds_kept sdhcSetMaxClockFrequency_keepsSizes SizesRecorded.kept recorded

theorem succeeds_switchPowerClass {world : World} (initial : ExtCsdTaken world) :
    Succeeds env depth switchPowerClass ExtCsdTaken world := by
  refine succeeds_bind (succeeds_kept instanceData_keepsSizes ExtCsdTaken.kept initial)
    fun device _ recorded => ?_
  dsimp only
  split
  · refine succeeds_bind (succeeds_kept (sdhcSendCommand_keepsSizes _ (by decide))
      ExtCsdTaken.kept recorded) fun _ _ recorded => ?_
    refine succeeds_bind (succeeds_sendExtCsd recorded.toCsdTold) fun _ _ recorded => ?_
    exact succeeds_kept (guarded_bind instanceData_keepsSizes fun _ =>
      guarded_ite (raise_guarded _ _) (guarded_pure _)) ExtCsdTaken.kept recorded
  · exact (wp_pure _).mpr recorded

theorem succeeds_switchBusWidthMmc {world : World} (initial : ExtCsdTaken world) :
    Succeeds env depth sdhcSwitchBusWidthMmc ExtCsdTaken world := by
  refine succeeds_bind (succeeds_sendExtCsd initial.toCsdTold) fun _ _ recorded => ?_
  refine succeeds_bind (succeeds_switchPowerClass recorded) fun _ _ recorded => ?_
  exact succeeds_kept (guarded_bind (sdhcSendCommand_keepsSizes _ (by decide)) fun _ =>
    callService_guarded trivial) ExtCsdTaken.kept recorded

theorem succeeds_switchSpeedModeMmc {world : World} (initial : ExtCsdTaken world) :
    Succeeds env depth sdhcSwitchSpeedModeMmc ExtCsdTaken world := by
  refine succeeds_bind (succeeds_kept (sdhcSendCommand_keepsSizes _ (by decide))
    ExtCsdTaken.kept initial) fun _ _ recorded => ?_
  have keeps : (modifyCardInfo fun info => { info with currentSpeedMode := .highSpeed }).Guarded
      KeepsSizes IsRecovery :=
    guarded_invoke fun _ => ⟨rfl, rfl, rfl, rfl⟩
  refine succeeds_bind (succeeds_kept keeps ExtCsdTaken.kept recorded) fun _ _ recorded => ?_
  refine succeeds_bind (succeeds_sendExtCsd recorded.toCsdTold) fun _ _ recorded => ?_
  exact succeeds_kept (guarded_bind instanceData_keepsSizes fun _ =>
    guarded_ite (raise_guarded _ _) (guarded_pure _)) ExtCsdTaken.kept recorded

theorem succeeds_initializeMmcDevice {world : World}
    (initial : world.device.cardInfo.cardFunction = .mmc) :
    Succeeds env depth initializeMmcDevice SizesRecorded world := by
  refine succeeds_bind (succeeds_quiet sdhcSendCidAll_quiet initial) fun _ _ kind => ?_
  refine succeeds_bind (succeeds_quiet sdhcSendRelativeAddr_quiet kind) fun _ _ kind => ?_
  refine succeeds_bind (succeeds_quiet sdhcSendCid_quiet kind) fun _ _ kind => ?_
  refine succeeds_bind (succeeds_sendCsd kind) fun _ _ taken => ?_
  refine succeeds_bind (succeeds_kept checkSpecVers_keepsSizes CsdTold.kept taken.toCsdTold)
    fun _ _ told => ?_
  refine succeeds_bind (succeeds_kept sdhcSelectDevice_keepsSizes CsdTold.kept told)
    fun _ _ told => ?_
  refine succeeds_bind (succeeds_sendExtCsd told) fun _ _ recorded => ?_
  refine succeeds_bind (succeeds_switchSpeedModeMmc recorded) fun _ _ recorded => ?_
  refine succeeds_bind (succeeds_switchBusWidthMmc recorded) fun _ after recorded => ?_
  have recorded : SizesRecorded after := .inr recorded
  exact succeeds_kept sdhcSetMaxClockFrequency_keepsSizes SizesRecorded.kept recorded

theorem wp_initializeDevice (world : World) :
    Succeeds env depth initializeDevice SizesRecorded world := by
  have anything {α : Type} (program : Sd α) (state : World) :
      Succeeds env depth program (fun _ => True) state := wp_trivial program
  refine succeeds_bind (anything _ _) fun _ _ _ => ?_
  refine succeeds_bind (anything _ _) fun _ _ _ => ?_
  refine succeeds_bind (anything _ _) fun _ _ _ => ?_
  refine succeeds_bind (anything _ _) fun _ queried _ => ?_
  have sizes : Succeeds env depth initializeByFunction SizesRecorded queried := by
    rw [Succeeds, initializeByFunction, wp_bind, wp_instanceData, wp_ite]
    refine ⟨succeeds_initializeSdDevice, fun _ => ?_⟩
    rw [wp_ite]
    exact ⟨succeeds_initializeMmcDevice, fun _ => (wp_fail _).mpr trivial⟩
  refine succeeds_bind sizes fun _ _ recorded => ?_
  refine succeeds_bind (succeeds_kept (sdhcSendCommand_keepsSizes _ (by decide))
    SizesRecorded.kept recorded) fun _ _ recorded => ?_
  rw [Succeeds, wp_modifyInstance]
  exact recorded.kept ⟨⟨rfl, rfl, rfl, rfl⟩, fun _ => rfl⟩

end

/-! ### Exactness -/

/-- The recorded capacity is the one that the registers which the card has sent give, and
the last block goes with it. -/
structure CapacityExact (world : World) : Prop where
  sd : world.device.cardInfo.cardFunction = .sd → ∃ csd ∈ (registersSent world.log).csd,
    (csdStructure csd = 0 →
      world.device.cardInfo.byteCapacity.toNat = csdCapacity csd) ∧
    (csdStructure csd = 1 →
      world.device.cardInfo.byteCapacity.toNat = csd2Capacity csd)
  standardMmc : world.device.cardInfo.cardFunction = .mmc →
    world.device.cardInfo.highCapacity = false → ∃ csd ∈ (registersSent world.log).csd,
      world.device.cardInfo.byteCapacity.toNat = csdCapacity csd
  highCapacityMmc : world.device.cardInfo.cardFunction = .mmc →
    world.device.cardInfo.highCapacity = true → ∃ block ∈ (registersSent world.log).extCsd,
      world.device.cardInfo.byteCapacity.toNat = extCsdSectors block * 512
  lastBlock : 512 ≤ world.device.cardInfo.byteCapacity.toNat →
    (world.device.media.lastBlock.toNat + 1) * 512 = world.device.cardInfo.byteCapacity.toNat

/-- The sizes the card has sent fit what the driver makes of them. -/
structure CapacityFits (world : World) : Prop where
  sd : world.device.cardInfo.cardFunction = .sd → ∀ csd ∈ (registersSent world.log).csd,
    csdStructure csd = 0 →
      csdCapacity csd < 2 ^ 32 ∧ (csdCapacity csd < 512 ∨ 512 ∣ csdCapacity csd)
  mmc : world.device.cardInfo.cardFunction = .mmc →
    world.device.cardInfo.highCapacity = false → ∀ csd ∈ (registersSent world.log).csd,
      ∀ block ∈ (registersSent world.log).extCsd, extCsdSectors block * 512 = csdCapacity csd

theorem CsdTaken.lastBlock_toNat {cardFunction : CardFunction}
    (taken : CsdTaken cardFunction world) : world.device.media.lastBlock.toNat =
      world.device.cardInfo.byteCapacity.toNat / 512 - 1 := by
  rw [taken.lastBlock, lastBlockOfCapacity_toNat]

theorem CsdTaken.byteCapacity_csd (taken : CsdTaken .sd world) {csd : CmdResponse}
    (sent : (registersSent world.log).csd = some csd) (first : csdStructure csd = 0) :
    world.device.cardInfo.byteCapacity.toNat = csdCapacity csd % 2 ^ 32 := by
  rw [taken.capacity csd sent, CardInfo.capacityOfCsd, if_pos taken.kind, if_pos first,
    csdByteCapacity_toNat]

theorem CsdTaken.byteCapacity_csd2 (taken : CsdTaken .sd world) {csd : CmdResponse}
    (sent : (registersSent world.log).csd = some csd) (later : csdStructure csd ≠ 0) :
    world.device.cardInfo.byteCapacity.toNat = csd2Capacity csd := by
  rw [taken.capacity csd sent, CardInfo.capacityOfCsd, if_pos taken.kind, if_neg later,
    csd2ByteCapacity_toNat]

theorem capacity_exact_sd_iff (taken : CsdTaken .sd world) :
    CapacityExact world ↔ CapacityFits world := by
  have notMmc : world.device.cardInfo.cardFunction ≠ .mmc := by
    rw [taken.kind]
    decide
  obtain ⟨csd, sent⟩ := Option.isSome_iff_exists.mp taken.csd
  have last := taken.lastBlock_toNat
  constructor
  · intro sizes
    refine ⟨fun _ other member first => ?_, fun mmc => absurd mmc notMmc⟩
    obtain ⟨reported, present, capacity, -⟩ := sizes.sd taken.kind
    obtain rfl : other = reported := Option.some.inj (member.symm.trans present)
    have computed := taken.byteCapacity_csd member first
    have exact := capacity first
    have together := sizes.lastBlock
    have below := Nat.mod_lt (csdCapacity other) (Nat.two_pow_pos 32)
    omega
  · intro fits
    refine ⟨fun _ => ⟨csd, sent, fun first => ?_, fun second => ?_⟩, fun mmc => absurd mmc notMmc,
      fun mmc => absurd mmc notMmc, fun large => ?_⟩
    · rw [taken.byteCapacity_csd sent first,
        Nat.mod_eq_of_lt (fits.sd taken.kind csd sent first).1]
    · exact taken.byteCapacity_csd2 sent (by rw [second]; decide)
    · by_cases first : csdStructure csd = 0
      · have computed := taken.byteCapacity_csd sent first
        obtain ⟨small, whole⟩ := fits.sd taken.kind csd sent first
        rw [Nat.mod_eq_of_lt small] at computed
        omega
      · have computed := taken.byteCapacity_csd2 sent first
        rw [csd2Capacity] at computed
        omega

theorem capacity_exact_mmc_iff (taken : ExtCsdTaken world) :
    CapacityExact world ↔ CapacityFits world := by
  have notSd : world.device.cardInfo.cardFunction ≠ .sd := by
    rw [taken.kind]
    decide
  obtain ⟨csd, sent⟩ := Option.isSome_iff_exists.mp taken.csd
  obtain ⟨block, read, capacity, last⟩ := taken.sectors
  constructor
  · intro sizes
    refine ⟨fun sd => absurd sd notSd, fun _ standard other member extCsd present => ?_⟩
    obtain ⟨reported, known, exact⟩ := sizes.standardMmc taken.kind standard
    obtain rfl : other = reported := Option.some.inj (member.symm.trans known)
    obtain rfl : extCsd = block := Option.some.inj (present.symm.trans read)
    rw [← capacity, exact]
  · intro fits
    refine ⟨fun sd => absurd sd notSd, fun _ standard => ⟨csd, sent, ?_⟩,
      fun _ _ => ⟨block, read, capacity⟩, fun large => ?_⟩
    · rw [capacity, fits.mmc taken.kind standard csd sent block read]
    · rw [last (by omega), capacity]

/-- After a successful initialization the recorded capacity is the one the card has reported
exactly if the 32-bit product of an SD card's first CSD does not wrap and is a number of
blocks, and the EXT_CSD of an MMC of standard capacity gives the same size as its CSD. -/
theorem capacity_exact_iff (env : Environment) (depth : Nat) {before after : World}
    (initialized : initializeDevice.exec (handler env depth) before = some (.ok (), after)) :
    CapacityExact after ↔ CapacityFits after := by
  rcases wp_initializeDevice before _ initialized with taken | taken
  · exact capacity_exact_sd_iff taken
  · exact capacity_exact_mmc_iff taken

/-- An MMC of 1 GiB, whose EXT_CSD reports high-speed timing and no sectors. -/
def oneGibMmc (ocr : UInt32) : Environment := fun number =>
  if number = 6 then HostReply.failing
  else { HostReply.answering 0 with
    response := #v[ocr, 0xFFC00380, 0x903, 0x100000]
    data := fun index => if index = 185 then 1 else 0 }

/-- The criterion applies where such an MMC is initialized. -/
theorem capacity_exact_oneGib :
    ∃ after, initializeDevice.exec (handler (oneGibMmc 0x80FF8900) recoveryDepth)
        (World.start ⟨0⟩) = some (.ok (), after) ∧
      (CapacityExact after ↔ CapacityFits after) := by
  have ends : (initializeDevice.exec (handler (oneGibMmc 0x80FF8900) recoveryDepth)
      (World.start ⟨0⟩)).map (fun outcome => outcome.1.toBool) = some true := by
    decide +kernel
  obtain ⟨⟨error | value, after⟩, initialized, same⟩ := Option.map_eq_some_iff.mp ends
  · cases same
  · exact ⟨after, initialized, capacity_exact_iff _ _ initialized⟩

/-- The CSD says 1 GiB; the driver records no capacity, and a last block of `2 ^ 32 - 1`. -/
theorem capacity_lost :
    ∃ after, initializeDevice.exec (handler (oneGibMmc 0x80FF8900) recoveryDepth)
        (World.start ⟨0⟩) = some (.ok (), after) ∧
      after.device.cardInfo.cardFunction = .mmc ∧ after.device.cardInfo.highCapacity = false ∧
      (registersSent after.log).csd.map csdCapacity = some (2 ^ 30) ∧
      after.device.media.lastBlock = 0xFFFFFFFF ∧ ¬ CapacityExact after := by
  have ends : (initializeDevice.exec (handler (oneGibMmc 0x80FF8900) recoveryDepth)
      (World.start ⟨0⟩)).map (fun outcome =>
        (outcome.1.toBool, outcome.2.device.cardInfo.cardFunction,
          outcome.2.device.cardInfo.highCapacity)) = some (true, .mmc, false) := by
    decide +kernel
  have sizes : (initializeDevice.exec (handler (oneGibMmc 0x80FF8900) recoveryDepth)
      (World.start ⟨0⟩)).map (fun outcome =>
        ((registersSent outcome.2.log).csd.map csdCapacity,
          outcome.2.device.media.lastBlock, outcome.2.device.cardInfo.byteCapacity)) =
      some (some (2 ^ 30), 0xFFFFFFFF, 0) := by
    decide +kernel
  obtain ⟨⟨error | value, after⟩, initialized, same⟩ := Option.map_eq_some_iff.mp ends
  · cases (Prod.mk.inj same).1
  · rw [initialized, Option.map_some, Option.some.injEq] at sizes
    simp only [Prod.mk.injEq] at same sizes
    obtain ⟨-, kind, standard⟩ := same
    obtain ⟨reported, last, recorded⟩ := sizes
    refine ⟨after, initialized, kind, standard, reported, last, fun sizes => ?_⟩
    obtain ⟨csd, sent, capacity⟩ := sizes.standardMmc kind standard
    rw [sent, Option.map_some, Option.some.injEq] at reported
    rw [recorded, reported] at capacity
    exact absurd capacity (by decide)

end MuRockchip.SdMmc
