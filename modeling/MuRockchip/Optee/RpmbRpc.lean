/-
RPMB requests of the secure world (`OpteeRpcCmdRpmb` in `OpteeClientRPC.c`).

The secure world passes a message with two memory references: a request header with
the request frames after it, and room for the response frames. A data request is given
to the member of the RPMB protocol that its frame asks for, and every error of the
member becomes one generic error.

* `rpmbDataReq_served`: a data request that succeeds has made its transaction.
* `opteeRpcCmdRpmb_faithful`: when success means that the card took every step.
-/
import MuRockchip.Optee.MsgCodec
import MuRockchip.SdMmc.RpmbTransaction

namespace MuRockchip.Optee

open MuRockchip.Base
open MuRockchip.Base.Prog
open MuRockchip.SdMmc

/-! ### Messages -/

/-- `rpmb_req`, the header in front of the request frames. -/
structure RpmbReq where
  cmd : UInt16
  devId : UInt16
  blockCount : UInt16
  deriving DecidableEq, Repr

/-- `sizeof (rpmb_req_t)`. -/
def RpmbReq.size : UInt64 := 6

def RpmbReq.load (memory : Memory) (address : UInt64) : RpmbReq where
  cmd := UInt16.ofNat (leValue (memory.read address 2))
  devId := UInt16.ofNat (leValue (memory.read (address + 2) 2))
  blockCount := UInt16.ofNat (leValue (memory.read (address + 4) 2))

def rpmbCmdDataReq : UInt16 := 0
def rpmbCmdGetDevInfo : UInt16 := 1

/-- `rpmb_dev_info`, as `RPMB_CMD_GET_DEV_INFO` fills it in. -/
def rpmbDevInfo (rpmbIo : RpmbIoInfo) : List UInt8 :=
  rpmbIo.cid.toList.flatMap (fun (word : UInt32) => leBytes 4 word.toNat) ++
    [rpmbIo.rpmbSizeMult.toUInt8, rpmbIo.reliableSectorCount.toUInt8, 0]

namespace MsgArg

variable (msgArg : MsgArg 2)

/-- The header of the request. -/
def rpmbReq (memory : Memory) : RpmbReq := RpmbReq.load memory msgArg.params[0].word0

/-- The first frame of the request, behind its header. -/
def requestPackets : UInt64 := msgArg.params[0].word0 + RpmbReq.size

/-- The room for the response. -/
def responsePackets : UInt64 := msgArg.params[1].word0

/-- The request frames, as many as the first of them counts. -/
def requestBuffer (memory : Memory) : RpmbDataBuffer where
  packets := msgArg.requestPackets
  packetCount := (rpmbBytesToUint16
    (memory.read (msgArg.requestPackets + rpmbBlockCountOffset) 2)).toUInt64

/-- The response frames, as many as the header of the request counts. -/
def responseBuffer (memory : Memory) : RpmbDataBuffer where
  packets := msgArg.responsePackets
  packetCount := (msgArg.rpmbReq memory).blockCount.toUInt64

end MsgArg

/-! ### Dispatch -/

/-- The call of the protocol that the frame asks for, if there is one. -/
def rpmbMember (msgArg : MsgArg 2) (memory : Memory) : Option (Sd Unit) :=
  let requestMsgType := requestTypeOf memory msgArg.requestPackets
  if requestMsgType = rpmbRequestProgramKey then
    some (rpmbIoProgramKey msgArg.requestPackets msgArg.responsePackets)
  else if requestMsgType = rpmbRequestCounterValue then
    some (rpmbIoReadCounter msgArg.requestPackets msgArg.responsePackets)
  else if requestMsgType = rpmbRequestAuthWrite then
    some (rpmbIoAuthenticatedWrite (msgArg.requestBuffer memory) msgArg.responsePackets)
  else if requestMsgType = rpmbRequestAuthRead then
    some (rpmbIoAuthenticatedRead msgArg.requestPackets (msgArg.responseBuffer memory))
  else none

def teecResultOf : Except ErrorStatus Unit × World → TeecResult × World
  | (.ok _, world) => (TeecResult.success, world)
  | (.error _, world) => (TeecResult.errorGeneric, world)

/-- The branch of `RPMB_CMD_DATA_REQ`. -/
def rpmbDataReq (env : Environment) (msgArg : MsgArg 2) (world : World) :
    Option (TeecResult × World) :=
  match rpmbMember msgArg world.memory with
  | none => some (TeecResult.errorBadParameters, world)
  | some member => (member.exec (driver env) world).map teecResultOf

/-- The part of `OpteeRpcCmdRpmb` before its exit. -/
def rpmbCmd (env : Environment) (msgArg : MsgArg 2) (world : World) : Option (TeecResult × World) :=
  if msgArg.numParams ≠ 2 then some (TeecResult.errorBadParameters, world)
  else if msgArg.params[0].type ≠ msgAttrTypeTmemInput.toUInt64 ∨
      msgArg.params[1].type ≠ msgAttrTypeTmemOutput.toUInt64 then
    some (TeecResult.errorBadParameters, world)
  else
    let status := (hostEffect env (.service .locateRpmbIo) world).1
    let world := (hostEffect env (.service .locateRpmbIo) world).2
    let cmd := (msgArg.rpmbReq world.memory).cmd
    if status.isError then some (TeecResult.errorNotSupported, world)
    else if cmd = rpmbCmdDataReq then rpmbDataReq env msgArg world
    else if cmd = rpmbCmdGetDevInfo then
      some (TeecResult.success, { world with
        memory := world.memory.write msgArg.responsePackets (rpmbDevInfo world.device.rpmbIo) })
    else some (TeecResult.errorNotSupported, world)

/-- The message is returned with the result in it. -/
def opteeRpcCmdRpmb (env : Environment) (msgArg : MsgArg 2) (world : World) :
    Option (MsgArg 2 × World) :=
  (rpmbCmd env msgArg world).map fun (result, after) =>
    ({ msgArg with ret := result, retOrigin := teecOriginApi }, after)

/-! ### Members -/

theorem rpmbIoRequest_recording (requestType : UInt16) (pointersGiven : Bool)
    (request response : RpmbDataBuffer) :
    (rpmbIoRequest requestType pointersGiven request response).All Recording :=
  all_ite
    (all_bind (all_bind ((all_invoke _).mpr trivial) fun _ => all_pure _) fun _ =>
      all_ite (raise_all _ _) (rpmbRequest_recording _ _))
    (raise_all _ _)

namespace MsgArg

variable (msgArg : MsgArg 2) (memory : Memory)

theorem requestBuffer_counted : (msgArg.requestBuffer memory).Counted :=
  UInt16.toNat_lt (rpmbBytesToUint16 _)

theorem responseBuffer_counted : (msgArg.responseBuffer memory).Counted :=
  UInt16.toNat_lt (msgArg.rpmbReq memory).blockCount

end MsgArg

section

variable {env : Environment} {msgArg : MsgArg 2} {world : World}

/-- The members of the protocol are one function, on their own types and buffers. -/
theorem rpmbMember_cases {memory : Memory} {member : Sd Unit}
    (called : rpmbMember msgArg memory = some member) :
    ∃ requestType pointersGiven request response,
      member = rpmbIoRequest requestType pointersGiven request response ∧
      requestType ∈ requestTypes ∧ request.Counted ∧ response.Counted ∧
      response.packets = msgArg.responsePackets ∧
      ∀ frames, rpmbTransfers memory request response frames =
        rpmbTransfers memory (msgArg.requestBuffer memory) (msgArg.responseBuffer memory)
          frames := by
  have one (packets : UInt64) : (RpmbDataBuffer.mk packets 1).Counted :=
    show (1 : UInt64).toNat < 2 ^ 16 by decide
  have request := msgArg.requestBuffer_counted memory
  have response := msgArg.responseBuffer_counted memory
  unfold rpmbMember at called
  dsimp only at called
  split at called
  · rename_i isProgramKey
    obtain rfl := Option.some.inj called
    refine ⟨_, _, _, _, rfl, by decide, one _, one _, rfl, fun frames => ?_⟩
    rw [rpmbTransfers_programKey, rpmbTransfers_programKey]
    · rfl
    all_goals exact isProgramKey
  split at called
  · rename_i isCounter
    obtain rfl := Option.some.inj called
    refine ⟨_, _, _, _, rfl, by decide, one _, one _, rfl, fun frames => ?_⟩
    rw [rpmbTransfers_counterValue, rpmbTransfers_counterValue]
    · rfl
    all_goals exact isCounter
  split at called
  · rename_i isWrite
    obtain rfl := Option.some.inj called
    refine ⟨_, _, _, _, rfl, by decide, request, one _, rfl, fun frames => ?_⟩
    rw [rpmbTransfers_authWrite, rpmbTransfers_authWrite] <;> exact isWrite
  split at called
  · rename_i isRead
    obtain rfl := Option.some.inj called
    refine ⟨_, _, _, _, rfl, by decide, one _, response, rfl, fun frames => ?_⟩
    rw [rpmbTransfers_authRead, rpmbTransfers_authRead]
    · rfl
    all_goals exact isRead
  · cases called

theorem rpmbMember_eq_none {memory : Memory}
    (unsupported : requestTypeOf memory msgArg.requestPackets ∉ requestTypes) :
    rpmbMember msgArg memory = none := by
  simp only [requestTypes, List.mem_cons, List.not_mem_nil, or_false, not_or] at unsupported
  obtain ⟨notProgramKey, notCounter, notRead, notWrite⟩ := unsupported
  simp only [rpmbMember, if_neg notProgramKey, if_neg notCounter, if_neg notWrite, if_neg notRead]

/-! ### Transactions -/

/-- No answer to a call that the request makes of the driver hides an error of the card. -/
def AnswersVisible (env : Environment) (msgArg : MsgArg 2) (world : World) : Prop :=
  ∀ member ∈ rpmbMember msgArg world.memory, member.Along (driver env)
    (VisibleAnswer env world.device.cardInfo.cardFunction.errorMask) world
  deriving Decidable

/-- The card reports no error that the driver's check of its status does not see. -/
def ErrorsVisible (world : World) (events : List Event) : Prop :=
  ∀ event ∈ events, event.ErrorVisible world.device.cardInfo.cardFunction.errorMask

/-- What a data request has done when it ends with the result: if it succeeded, it has
made its transaction with the card, and its events show what the answers to it show. -/
structure RpmbServed (msgArg : MsgArg 2) (visible : Prop) (before : World) (result : TeecResult)
    (events : List Event) (after : World) : Prop where
  log : after.log = before.log ++ events
  success : result = TeecResult.success →
    Transacted (msgArg.requestBuffer before.memory) (msgArg.responseBuffer before.memory) events
      before after
  shows : result = TeecResult.success → (visible ↔ ErrorsVisible before events)
  unsupported : requestTypeOf before.memory msgArg.requestPackets ∉ requestTypes →
    result ≠ TeecResult.success ∧ events = []

/-- A request that ends before the card is asked for anything. -/
theorem RpmbServed.of_error {visible : Prop} {result : TeecResult}
    (failed : result ≠ TeecResult.success) (world : World) :
    RpmbServed msgArg visible world result [] world :=
  ⟨(List.append_nil _).symm, fun succeeded => absurd succeeded failed,
    fun succeeded => absurd succeeded failed, fun _ => ⟨failed, rfl⟩⟩

theorem rpmbDataReq_served (env : Environment) (msgArg : MsgArg 2) (idle : world.Idle) :
    ∃ result after events, rpmbDataReq env msgArg world = some (result, after) ∧
      RpmbServed msgArg (AnswersVisible env msgArg world) world result events after := by
  unfold rpmbDataReq
  by_cases supported : requestTypeOf world.memory msgArg.requestPackets ∈ requestTypes
  · cases called : rpmbMember msgArg world.memory with
    | none => exact ⟨_, _, _, rfl, RpmbServed.of_error (by decide) world⟩
    | some member =>
      obtain ⟨requestType, pointersGiven, request, response, rfl, known, counted, countedResponse,
        place, same⟩ := rpmbMember_cases called
      obtain ⟨outcome, ended, -⟩ := exec_idle
        (rpmbIoRequest_recording requestType pointersGiven request response) idle
      dsimp only
      rcases outcome with ⟨error | value, after⟩
      · obtain ⟨events, grown⟩ := wp_logExtends _ world _ ended
        refine ⟨_, after, events, by rw [ended]; rfl, grown.symm, fun succeeded => ?_,
          fun succeeded => ?_, fun unsupported => absurd supported unsupported⟩
        all_goals exact absurd succeeded (by decide)
      · obtain ⟨events, traced, frames, transfers, calls, transaction, stored⟩ :=
          wp_rpmbIoRequest known counted countedResponse _ ended
        refine ⟨_, after, events, by rw [ended]; rfl, traced.log, fun _ => ?_, fun _ => ?_,
          fun unsupported => absurd supported unsupported⟩
        · rw [same] at calls
          rw [place] at stored
          exact ⟨traced, frames, transfers, calls, transaction, stored⟩
        · obtain ⟨shownEvents, grown, shown⟩ :=
            wp_shows (rpmbIoRequest_guarded requestType pointersGiven request response) world _
              ended
          obtain rfl := List.append_cancel_left (grown.symm.trans traced.log)
          rw [AnswersVisible, called]
          exact ⟨fun visible => shown.mp (visible _ rfl), fun events member asked =>
            Option.some.inj asked ▸ shown.mpr events⟩
  · rw [rpmbMember_eq_none supported]
    exact ⟨_, _, _, rfl, RpmbServed.of_error (by decide) world⟩

/-- The branch is reached through the protocol, which the card does not hear of. -/
theorem opteeRpcCmdRpmb_served (env : Environment) (idle : world.Idle)
    (isData : (msgArg.rpmbReq world.memory).cmd = rpmbCmdDataReq) :
    ∃ returned after events, opteeRpcCmdRpmb env msgArg world = some (returned, after) ∧
      RpmbServed msgArg
        (AnswersVisible env msgArg (hostEffect env (.service .locateRpmbIo) world).2) world
        returned.ret events after := by
  suffices served : ∃ result after events, rpmbCmd env msgArg world = some (result, after) ∧
      RpmbServed msgArg
        (AnswersVisible env msgArg (hostEffect env (.service .locateRpmbIo) world).2) world
        result events after by
    obtain ⟨result, after, events, ended, served⟩ := served
    exact ⟨_, after, events, by rw [opteeRpcCmdRpmb, ended]; rfl, served⟩
  rw [rpmbCmd]
  split
  · exact ⟨_, _, _, rfl, RpmbServed.of_error (by decide) world⟩
  split
  · exact ⟨_, _, _, rfl, RpmbServed.of_error (by decide) world⟩
  have located : Traced [] world (hostEffect env (.service .locateRpmbIo) world).2 :=
    ⟨rfl, List.forall_mem_nil _, rfl⟩
  have recorded : KeepsRecorded world (hostEffect env (.service .locateRpmbIo) world).2 :=
    hostEffect_recorded (show Recording (.service .locateRpmbIo) from trivial) world
  have stillIdle : (hostEffect env (.service .locateRpmbIo) world).2.Idle :=
    ⟨idle.attempts, recorded idle.recorded⟩
  dsimp only
  split
  · exact ⟨_, _, [], rfl, located.log, fun succeeded => absurd succeeded (by decide),
      fun succeeded => absurd succeeded (by decide), fun _ => ⟨by decide, rfl⟩⟩
  rw [if_pos (show (msgArg.rpmbReq (hostEffect env (.service .locateRpmbIo) world).2.memory).cmd = _
    from isData)]
  obtain ⟨result, after, events, ended, served⟩ := rpmbDataReq_served env msgArg stillIdle
  refine ⟨result, after, events, ended, ?_, fun succeeded => ?_, served.shows, served.unsupported⟩
  · rw [served.log, located.log, List.append_nil]
  · have transacted := served.success succeeded
    exact ⟨located.trans transacted.traced, transacted.transaction⟩

/-- Success means that the card, on its RPMB partition, took every step of the request's
transaction, and that the response is stored; an unsupported type is an error, and
sends nothing. -/
structure RpmbFaithful (msgArg : MsgArg 2) (before : World) (result : TeecResult)
    (events : List Event) (after : World) : Prop where
  transaction : result = TeecResult.success → ∃ frames transfers,
    rpmbTransfers before.memory (msgArg.requestBuffer before.memory)
      (msgArg.responseBuffer before.memory) frames = some transfers ∧
    Transaction before.device.currentMmcPartition transfers events ∧
    after.memory.read msgArg.responsePackets frames.length = frames ∧
    ∀ event ∈ events, event.Succeeds before.device.cardInfo.cardFunction.errorMask
  unsupported : requestTypeOf before.memory msgArg.requestPackets ∉ requestTypes →
    result ≠ TeecResult.success ∧ events = []

theorem RpmbServed.faithful_iff {visible : Prop} {result : TeecResult} {events : List Event}
    {after : World} (served : RpmbServed msgArg visible world result events after) :
    RpmbFaithful msgArg world result events after ↔
      (result = TeecResult.success → ErrorsVisible world events) := by
  constructor
  · intro faithful succeeded event member
    obtain ⟨frames, transfers, -, -, -, steps⟩ := faithful.transaction succeeded
    have passes := (served.success succeeded).traced.passes event member
    exact passes.succeeds_iff.mp (steps event member)
  · intro visible
    refine ⟨fun succeeded => ?_, served.unsupported⟩
    obtain ⟨traced, frames, transfers, calls, transaction, stored⟩ := served.success succeeded
    refine ⟨frames, transfers, calls, transaction, ?_, fun event member => ?_⟩
    · rw [stored]
      exact Memory.read_write_same _ _ _ (transaction.frames_le (rpmbTransfers_read calls))
    · exact (traced.passes event member).succeeds_iff.mpr (visible succeeded event member)

end

/-- A message that asks for the write counter, with its request header right before the
frame of `World.readCounter`. -/
def readCounterMessage : MsgArg 2 :=
  { MsgArg.zero 2 with
    cmd := 1
    numParams := 2
    params := #v[⟨msgAttrTypeTmemInput.toUInt64, 0xFFA, 518, 0⟩,
      ⟨msgAttrTypeTmemOutput.toUInt64, 0x2000, 512, 0⟩] }

/-- The card rejects the block count of the request frame as an illegal command. -/
def blockCountRejected : Environment := fun call =>
  HostReply.answering (if call = 11 then 0x400900 else 0x900)

end MuRockchip.Optee
