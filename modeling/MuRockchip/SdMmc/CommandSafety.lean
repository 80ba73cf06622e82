/-
What a command reports.

A command exchanges a request and a response with the card, checks the card
status of an R1 response, and is then recorded as the last successful command. The
check returns the masked status as an 8-bit boolean, so errors in the upper bytes
pass it.

* `sdhcSendCommandHelper_detects_iff`: when the card's errors are reported.
-/
import MuRockchip.SdMmc.RecoverySafety

namespace MuRockchip.SdMmc

open MuRockchip.Base
open MuRockchip.Base.Prog

/-! ### Exchanges -/

def exchange (cmd : SdCommand) (arg : UInt32) (xfrInfo : Option SdCommandXfrInfo) : Sd Unit := do
  sendAppCmdPrefix cmd
  callService (.sendCommand cmd arg xfrInfo)
  callService (.receiveResponse cmd)

/-- The operation calls a service or reads the instance data. -/
def Serving : SdmmcOp → Prop
  | .service _ => True
  | .instanceData => True
  | _ => False

theorem sendAppCmdPrefix_serving (cmd : SdCommand) : (sendAppCmdPrefix cmd).All Serving :=
  all_ite
    (all_bind (all_bind (instanceData_all trivial) fun _ => all_pure _) fun _ =>
      callService_all trivial)
    (all_pure _)

theorem exchange_serving (cmd : SdCommand) (arg : UInt32) (xfrInfo : Option SdCommandXfrInfo) :
    (exchange cmd arg xfrInfo).All Serving :=
  all_bind (sendAppCmdPrefix_serving cmd) fun _ =>
    all_bind (callService_all trivial) fun _ => callService_all trivial

theorem transferBlocks_serving (cmd : SdCommand) (bufferByteSize : UInt32)
    (buffer : TransferBuffer) : (transferBlocks cmd bufferByteSize buffer).All Serving :=
  all_ite (callService_all trivial) (callService_all trivial)

theorem sdhcSendCommandHelper_eq (cmd : SdCommand) (arg : UInt32)
    (xfrInfo : Option SdCommandXfrInfo) :
    sdhcSendCommandHelper cmd arg xfrInfo = (do
      exchange cmd arg xfrInfo
      checkCardStatus cmd
      call (.rememberCommand cmd)) := by
  simp only [sdhcSendCommandHelper, exchange, bind_assoc]

/-- The driver's records are the same in both worlds. -/
def RecordsKept (before after : World) : Prop := SameRecords before.device after.device

theorem RecordsKept.refl (world : World) : RecordsKept world world := ⟨rfl, rfl, rfl, rfl⟩

theorem RecordsKept.trans {first second third : World} (one : RecordsKept first second)
    (other : RecordsKept second third) : RecordsKept first third :=
  ⟨other.1.trans one.1, other.2.trans one.2, other.3.trans one.3, other.4.trans one.4⟩

section

variable {env : Environment} {depth : Nat}

theorem handler_serving (op : SdmmcOp) (world : World) (answered : op.Answer × World)
    (holds : Serving op) (defined : handler env depth op world = some answered) :
    RecordsKept world answered.2 := by
  cases op with
  | service service =>
    rw [handler_eq_hostEffect id] at defined
    exact Option.some.inj defined ▸ (serviceEffect_device _ _ _).1
  | instanceData =>
    rw [handler_eq_hostEffect id] at defined
    exact Option.some.inj defined ▸ RecordsKept.refl world
  | _ => exact holds.elim

theorem wp_serving {α : Type} {program : Sd α} (serving : program.All Serving) (world : World) :
    wp (handler env depth) program (fun _ after => RecordsKept world after)
      (fun _ after => RecordsKept world after) world :=
  wp_of_preserves RecordsKept.refl RecordsKept.trans handler_serving serving world

/-! ### Card errors -/

/-- The world after a command is recorded. -/
def World.remembered (world : World) (cmd : SdCommand) : World :=
  { world with
    device := world.device.remember cmd
    log := world.log ++ [.accepted cmd] }

theorem exec_sdhcSendCommandHelper {cmd : SdCommand} {arg : UInt32}
    {xfrInfo : Option SdCommandXfrInfo} {world answered : World}
    (checked : cmd.responseType = .r1 ∨ cmd.responseType = .r1b)
    (ended : (exchange cmd arg xfrInfo).exec (handler env depth) world = some (.ok (), answered)) :
    (sdhcSendCommandHelper cmd arg xfrInfo).exec (handler env depth) world = some
      (if isCardStatusError answered.device.cardInfo.cardFunction
          answered.device.cmdResponse.word0 then
        (.error ⟨EfiStatus.deviceError, EfiStatus.isError_deviceError⟩, answered)
      else (.ok (), answered.remembered cmd)) := by
  have read : instanceData.exec (handler env depth) answered =
      some (.ok answered.device, answered) := by
    rw [instanceData, call, invoke, exec, handler_eq_hostEffect id]
    rfl
  have remembers : Prog.exec (handler env depth) (call (.rememberCommand cmd)) answered =
      some (.ok (), answered.remembered cmd) := by
    rw [call, invoke, exec, handler_eq_hostEffect id]
    rfl
  rw [sdhcSendCommandHelper_eq, exec_bind_ok ended, checkCardStatus, if_pos checked, bind_assoc,
    exec_bind_ok read]
  split
  · rfl
  · exact remembers

/-- The card reports errors in a response exactly where the helper does: an error is
returned as such and leaves the record alone, and without one there is no error. -/
def DetectsCardErrors (mask response : UInt32) (before : World)
    (outcome : Except ErrorStatus Unit × World) : Prop :=
  (response &&& mask ≠ 0 → (statusOf outcome).1 = EfiStatus.deviceError ∧
    outcome.2.device.lastSuccessfulCmd = before.device.lastSuccessfulCmd) ∧
  (response &&& mask = 0 → (statusOf outcome).1 = EfiStatus.success)

/-- A boolean sees the low byte of a word. -/
theorem toUInt8_eq_zero_iff (word : UInt32) : word.toUInt8 = 0 ↔ word &&& 0xFF = 0 := by
  rw [← UInt8.toNat_inj, ← UInt32.toNat_inj, UInt32.toNat_toUInt8, UInt32.toNat_and]
  have low : word.toNat &&& 255 = word.toNat % 2 ^ 8 := Nat.and_two_pow_sub_one_eq_mod _ 8
  simp [low]

/-- Card errors are detected if and only if the response has none, or one in the low
byte. -/
theorem sdhcSendCommandHelper_detects_iff {cmd : SdCommand} {arg : UInt32}
    {xfrInfo : Option SdCommandXfrInfo} {world answered : World}
    (checked : cmd.responseType = .r1 ∨ cmd.responseType = .r1b)
    (ended : (exchange cmd arg xfrInfo).exec (handler env depth) world = some (.ok (), answered)) :
    ∃ outcome,
      (sdhcSendCommandHelper cmd arg xfrInfo).exec (handler env depth) world = some outcome ∧
      (DetectsCardErrors answered.device.cardInfo.cardFunction.errorMask
          answered.device.cmdResponse.word0 world outcome ↔
        answered.device.cmdResponse.word0 &&& answered.device.cardInfo.cardFunction.errorMask = 0 ∨
        answered.device.cmdResponse.word0 &&& answered.device.cardInfo.cardFunction.errorMask &&&
          0xFF ≠ 0) := by
  refine ⟨_, exec_sdhcSendCommandHelper checked ended, ?_⟩
  have kept : RecordsKept world answered :=
    wp_serving (exchange_serving cmd arg xfrInfo) world _ ended
  generalize masked : answered.device.cmdResponse.word0 &&&
    answered.device.cardInfo.cardFunction.errorMask = word
  have seen : isCardStatusError answered.device.cardInfo.cardFunction
      answered.device.cmdResponse.word0 = true ↔ word &&& 0xFF ≠ 0 := by
    rw [isCardStatusError, masked, decide_eq_true_iff, Ne, toUInt8_eq_zero_iff]
  unfold DetectsCardErrors
  rw [masked]
  by_cases error : word &&& 0xFF = 0
  · have passed : ¬ isCardStatusError answered.device.cardInfo.cardFunction
        answered.device.cmdResponse.word0 = true := fun found => seen.mp found error
    rw [if_neg passed]
    constructor
    · rintro ⟨reported, -⟩
      by_cases none : word = 0
      · exact .inl none
      · exact absurd (reported none).1 (show EfiStatus.success ≠ EfiStatus.deviceError by decide)
    · rintro (none | found)
      · exact ⟨fun some => absurd none some, fun _ => rfl⟩
      · exact absurd error found
  · rw [if_pos (seen.mpr error)]
    have some : word ≠ 0 := by
      rintro rfl
      exact error rfl
    exact ⟨fun _ => .inr error, fun _ => ⟨fun _ => ⟨rfl, kept.last⟩, fun none => absurd none some⟩⟩

end

def World.startMmc : World :=
  { World.start ⟨0⟩ with
    device := { createSdhcInstance with cardInfo := { CardInfo.zero with cardFunction := .mmc } } }

/-- `SWITCH_ERROR` is bit 7 of the card status: it is detected. -/
theorem sdhcSendCommandHelper_switchError :
    ∃ outcome, (sdhcSendCommandHelper cmdSendStatus 0 none).exec
        (handler (fun _ => HostReply.answering 0x980) 0) World.startMmc = some outcome ∧
      (DetectsCardErrors mmcCardStatusErrorMask 0x980 World.startMmc outcome ↔
        (0x980 : UInt32) &&& mmcCardStatusErrorMask = 0 ∨
          (0x980 : UInt32) &&& mmcCardStatusErrorMask &&& 0xFF ≠ 0) := by
  have ended : (exchange cmdSendStatus 0 none).exec (handler (fun _ => HostReply.answering 0x980) 0)
      World.startMmc = some (.ok (), serviceEffect (HostReply.answering 0x980)
        (serviceEffect (HostReply.answering 0x980) World.startMmc
          (.sendCommand cmdSendStatus 0 none))
        (.receiveResponse cmdSendStatus)) := rfl
  exact sdhcSendCommandHelper_detects_iff (.inl rfl) ended

/-- `ILLEGAL_COMMAND` is bit 22 of the card status: the command is taken to have
succeeded. -/
theorem sdhcSendCommandHelper_illegalCommand :
    ∃ outcome, (sdhcSendCommandHelper cmdSendStatus 0 none).exec
        (handler (fun _ => HostReply.answering 0x400900) 0) World.startMmc = some outcome ∧
      ¬ DetectsCardErrors mmcCardStatusErrorMask 0x400900 World.startMmc outcome := by
  refine ⟨_, rfl, fun detects => ?_⟩
  have reported := (detects.1 (by decide)).1
  exact absurd reported (show EfiStatus.success ≠ EfiStatus.deviceError by decide)

end MuRockchip.SdMmc
