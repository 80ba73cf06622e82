/-
What becomes of the media's block size.

A soft reset clears the description of the media and then asks the host whether a
card is present. The block size is set again where the card's CSD has been read. A
run is observed at these two places, nested recoveries included: the last mark of a
run tells the block size it leaves.

* `wp_keepsGeometry`: operations that make no mark keep the block size.
* `keepsGeometry_recoverFromErrors`: the induction on the nesting of recoveries.
* `geometry_of_exec`: every function of the driver leaves the block size that its
  last mark tells.
-/
import MuRockchip.Base.ProgCalls
import MuRockchip.SdMmc.PartitionSafety

namespace MuRockchip.SdMmc

open MuRockchip.Base
open MuRockchip.Base.Prog

/-! ### Marks -/

/-- What is observed of a run: a soft reset, which has cleared the media, asks for the
card, and the host passes on a CSD without error. -/
inductive MediaMark where
  | presenceChecked
  | csdRead
  deriving DecidableEq, Repr

/-- The host answers the next two calls, a command and its response, without error. -/
def answersCommand (env : Environment) (world : World) : Bool :=
  !(env world.calls).status.isError && !(env (world.calls + 1)).status.isError

/-- What is observed of an operation; of a recovery, what is observed of its run. -/
def mediaMarks (env : Environment) : Nat → SdmmcOp → World → List MediaMark
  | depth + 1, .recoverFromErrors cmd, world =>
    (sdhcRecoverFromErrors cmd).observed (handler env depth) (mediaMarks env depth) world
  | _, .isCardPresent, _ => [.presenceChecked]
  | _, .service (.sendCommand cmd _ _), world =>
    if cmd = cmdSendCsd ∧ answersCommand env world = true then [.csdRead] else []
  | _, _, _ => []

def sizeAfter (before : UInt32) (marks : List MediaMark) : UInt32 :=
  match marks.getLast? with
  | none => before
  | some .presenceChecked => 0
  | some .csdRead => sdBlockLengthBytes

theorem sizeAfter_append (before : UInt32) (first second : List MediaMark) :
    sizeAfter before (first ++ second) = sizeAfter (sizeAfter before first) second := by
  unfold sizeAfter
  rw [List.getLast?_append]
  cases second.getLast? with
  | none => rfl
  | some mark => cases mark <;> rfl

/-- The block size of the media. -/
abbrev World.blockSize (world : World) : UInt32 := world.device.media.blockSize

/-- The marks made since tell the block size. -/
def KeepsGeometry (before after : World × List MediaMark) : Prop :=
  ∃ marks, after.2 = before.2 ++ marks ∧ after.1.blockSize = sizeAfter before.1.blockSize marks

theorem KeepsGeometry.refl (state : World × List MediaMark) : KeepsGeometry state state :=
  ⟨[], (List.append_nil _).symm, rfl⟩

theorem KeepsGeometry.trans {first second third : World × List MediaMark}
    (one : KeepsGeometry first second) (other : KeepsGeometry second third) :
    KeepsGeometry first third := by
  obtain ⟨marks, grown, size⟩ := one
  obtain ⟨more, grownMore, sizeMore⟩ := other
  refine ⟨marks ++ more, ?_, ?_⟩
  · rw [grownMore, grown, List.append_assoc]
  · rw [sizeMore, size, sizeAfter_append]

/-- The operation makes no mark, and keeps the block size. -/
def Plain : SdmmcOp → Prop
  | .service (.sendCommand cmd _ _) => cmd ≠ cmdSendCsd
  | .isCardPresent => False
  | .modifyInstance change =>
    ∀ device, (change device).media.blockSize = device.media.blockSize
  | _ => True

/-- The driver, observed. -/
abbrev observedHandler (env : Environment) (depth : Nat) :
    Handler sdmmc (World × List MediaMark) :=
  observing (handler env depth) (mediaMarks env depth)

section

variable {env : Environment} {depth : Nat}

theorem serviceEffect_blockSize (reply : HostReply) (world : World) (service : Service) :
    (serviceEffect reply world service).blockSize = world.blockSize := by
  cases service with
  | readBlockData lengthInBytes buffer => cases buffer <;> rfl
  | _ => rfl

variable {op : SdmmcOp} {α : Type}

theorem hostEffect_blockSize (plain : Plain op) (world : World) :
    (hostEffect env op world).2.blockSize = world.blockSize := by
  cases op with
  | service service => exact serviceEffect_blockSize _ _ _
  | modifyInstance change => exact plain world.device
  | isCardPresent => exact plain.elim
  | _ => rfl

theorem mediaMarks_plain (noRecovery : ¬ IsRecovery op) (plain : Plain op)
    (world : World) : mediaMarks env depth op world = [] := by
  cases op with
  | recoverFromErrors cmd => exact absurd trivial noRecovery
  | isCardPresent => exact plain.elim
  | service service =>
    cases service with
    | sendCommand cmd arg xfrInfo => cases depth <;> exact if_neg fun both => plain both.1
    | _ => cases depth <;> rfl
  | _ => cases depth <;> rfl

theorem observedHandler_eq (noRecovery : ¬ IsRecovery op) (state : World × List MediaMark) :
    observedHandler env depth op state =
      some ((hostEffect env op state.1).1, (hostEffect env op state.1).2,
        state.2 ++ mediaMarks env depth op state.1) := by
  change (handler env depth op state.1).map _ = _
  rw [handler_eq_hostEffect noRecovery]
  rfl

theorem wp_observed_call (noRecovery : ¬ IsRecovery op)
    {ok : op.Answer → World × List MediaMark → Prop}
    {err : ErrorStatus → World × List MediaMark → Prop} {state : World × List MediaMark} :
    wp (observedHandler env depth) (call op) ok err state ↔
      ok (hostEffect env op state.1).1
        ((hostEffect env op state.1).2, state.2 ++ mediaMarks env depth op state.1) := by
  rw [call, wp_invoke, observedHandler_eq noRecovery]
  exact ⟨fun spec => spec _ rfl, fun holds _ answered => Option.some.inj answered ▸ holds⟩

def Geometric (env : Environment) (depth : Nat) {α : Type} (program : Sd α) : Prop :=
  ∀ state, wp (observedHandler env depth) program (fun _ after => KeepsGeometry state after)
    (fun _ after => KeepsGeometry state after) state

/-- Nested recoveries keep the geometry. -/
def RecoversGeometric (env : Environment) (depth : Nat) : Prop :=
  ∀ cmd, Geometric env depth (recoverFromErrors cmd)

theorem geometric_of_plain (recovers : RecoversGeometric env depth) {program : Sd α}
    (plain : program.All Plain) : Geometric env depth program := by
  intro state
  refine wp_of_preserves KeepsGeometry.refl KeepsGeometry.trans ?_ plain state
  intro op before answered permitted defined
  by_cases recovery : IsRecovery op
  · cases op with
    | recoverFromErrors cmd =>
      exact (wp_invoke _ _).mp (recovers cmd before) answered defined
    | _ => exact recovery.elim
  · rw [observedHandler_eq recovery] at defined
    cases defined
    refine ⟨[], ?_, hostEffect_blockSize permitted _⟩
    rw [mediaMarks_plain recovery permitted]

theorem geometric_pure (value : α) : Geometric env depth (pure value : Sd α) :=
  fun state => (wp_pure value).mpr (KeepsGeometry.refl state)

theorem geometric_bind {α β : Type} {program : Sd α} {next : α → Sd β}
    (first : Geometric env depth program) (later : ∀ value, Geometric env depth (next value)) :
    Geometric env depth (program >>= next) := by
  intro state
  rw [wp_bind]
  refine wp_mono (first state) (fun value middle kept => ?_) fun _ _ kept => kept
  exact wp_mono (later value middle) (fun _ _ more => kept.trans more) fun _ _ more =>
    kept.trans more

theorem geometric_ite {condition : Prop} [Decidable condition] {yes no : Sd α}
    (first : Geometric env depth yes) (second : Geometric env depth no) :
    Geometric env depth (if condition then yes else no) := by
  split <;> assumption

theorem geometric_catching {α : Type} {program : Sd α} {recovery : ErrorStatus → Sd α}
    (first : Geometric env depth program) (later : ∀ error, Geometric env depth (recovery error)) :
    Geometric env depth (program.catching recovery) := by
  intro state
  rw [wp_catching]
  refine wp_mono (first state) (fun _ _ kept => kept) fun error middle kept => ?_
  exact wp_mono (later error middle) (fun _ _ more => kept.trans more) fun _ _ more =>
    kept.trans more

/-! ### The two places -/

theorem answersCommand_eq_true {world : World} :
    answersCommand env world = true ↔
      (env world.calls).status.isError = false ∧
        (env (world.calls + 1)).status.isError = false := by
  simp [answersCommand]

/-- What is observed of a service. -/
def World.serviceMarks (env : Environment) (world : World) : Service → List MediaMark
  | .sendCommand cmd _ _ =>
    if cmd = cmdSendCsd ∧ answersCommand env world = true then [.csdRead] else []
  | _ => []

section

variable {ok : Unit → World × List MediaMark → Prop}
  {err : ErrorStatus → World × List MediaMark → Prop} {state : World × List MediaMark}

theorem wp_observed_instanceData {ok : SdhcInstance → World × List MediaMark → Prop} :
    wp (observedHandler env depth) instanceData ok err state ↔ ok state.1.device state := by
  have none : mediaMarks env depth .instanceData state.1 = [] := by cases depth <;> rfl
  rw [instanceData, wp_observed_call id, none, List.append_nil]
  exact Iff.rfl

theorem wp_observed_modifyInstance {change : SdhcInstance → SdhcInstance} :
    wp (observedHandler env depth) (modifyInstance change) ok err state ↔
      ok () ({ state.1 with device := change state.1.device }, state.2) := by
  have none : mediaMarks env depth (.modifyInstance change) state.1 = [] := by
    cases depth <;> rfl
  rw [modifyInstance, wp_observed_call id, none, List.append_nil]
  exact Iff.rfl

theorem wp_observed_check {status : EfiStatus} :
    wp (observedHandler env depth) (check status) ok err state ↔
      (status.isError = false → ok () state) ∧
        ∀ failed : status.isError = true, err ⟨status, failed⟩ state := by
  unfold check
  split
  · rename_i failed
    simp [failed]
  · rename_i passed
    simp only [Bool.not_eq_true] at passed
    simp [passed]

theorem wp_observed_callService {service : Service} :
    wp (observedHandler env depth) (callService service) ok err state ↔
      ((env state.1.calls).status.isError = false →
        ok () (serviceEffect (env state.1.calls) state.1 service,
          state.2 ++ state.1.serviceMarks env service)) ∧
      ∀ failed : (env state.1.calls).status.isError = true,
        err ⟨(env state.1.calls).status, failed⟩
          (serviceEffect (env state.1.calls) state.1 service,
            state.2 ++ state.1.serviceMarks env service) := by
  have marks : mediaMarks env depth (.service service) state.1 =
      state.1.serviceMarks env service := by
    cases service <;> cases depth <;> rfl
  rw [callService, wp_bind, wp_observed_call id, marks]
  exact wp_observed_check

end

/-- The command that reads the CSD: it makes its mark exactly if it succeeds. -/
theorem wp_sendCsdCommand (arg : UInt32) (state : World × List MediaMark) :
    wp (observedHandler env depth) (sdhcSendCommandHelper cmdSendCsd arg none)
      (fun _ after => after.2 = state.2 ++ [.csdRead])
      (fun _ after => after.2 = state.2 ∧ after.1.blockSize = state.1.blockSize) state := by
  rw [sdhcSendCommandHelper, sendAppCmdPrefix, if_neg (by decide)]
  simp only [wp_bind, wp_pure, wp_observed_callService]
  have marks : state.1.serviceMarks env (.sendCommand cmdSendCsd arg none) =
      if answersCommand env state.1 = true then [.csdRead] else [] := by
    simp [World.serviceMarks]
  have unanswered (failed : ¬ answersCommand env state.1 = true) :
      state.2 ++ state.1.serviceMarks env (.sendCommand cmdSendCsd arg none) = state.2 := by
    rw [marks, if_neg failed, List.append_nil]
  have response : ∀ world, World.serviceMarks env world (.receiveResponse cmdSendCsd) = [] :=
    fun _ => rfl
  have remember : ∀ world, mediaMarks env depth (.rememberCommand cmdSendCsd) world = [] := by
    intro world
    cases depth <;> rfl
  simp only [response, List.append_nil]
  refine ⟨fun sent => ⟨fun answered => ?_, fun failed => ?_⟩, fun failed => ?_⟩
  · rw [checkCardStatus, if_neg (by decide), wp_pure, wp_observed_call id, remember,
      List.append_nil, marks, if_pos (answersCommand_eq_true.mpr ⟨sent, answered⟩)]
  · refine ⟨unanswered fun both => ?_, rfl⟩
    have answered := (answersCommand_eq_true.mp both).2
    exact absurd (failed.symm.trans answered) (by decide)
  · refine ⟨unanswered fun both => ?_, serviceEffect_blockSize _ _ _⟩
    have sent := (answersCommand_eq_true.mp both).1
    exact absurd (failed.symm.trans sent) (by decide)

/-- Where the CSD is read, the block size is set. -/
theorem sdhcSendCsd_geometric (recovers : RecoversGeometric env depth) :
    Geometric env depth sdhcSendCsd := by
  intro state
  rw [sdhcSendCsd, rcaArgument, wp_bind, wp_bind, wp_observed_instanceData, wp_pure, wp_bind,
    sdhcSendCommand, wp_bind, sdhcSendSimpleCommand, recovering, wp_catching]
  refine wp_mono (wp_sendCsdCommand _ state) (fun _ after marked => ?_) fun error after same => ?_
  · rw [if_neg (by decide), wp_pure, wp_observed_modifyInstance]
    refine ⟨[.csdRead], marked, rfl⟩
  · have kept : KeepsGeometry state after :=
      ⟨[], by rw [same.1, List.append_nil], same.2⟩
    rw [wp_bind]
    exact wp_mono (recovers cmdSendCsd after) (fun _ _ more => (wp_fail _).mpr (kept.trans more))
      fun _ _ more => kept.trans more

theorem clearMedia_geometric {next : Bool → Sd α}
    (later : ∀ present, Geometric env depth (next present)) :
    Geometric env depth (do
      clearMedia
      let present ← call .isCardPresent
      next present) := by
  intro state
  have mark : ∀ world, mediaMarks env depth .isCardPresent world = [.presenceChecked] := by
    intro world
    cases depth <;> rfl
  rw [wp_bind, clearMedia, wp_observed_modifyInstance, wp_bind, wp_observed_call id, mark]
  have kept (world : World) (cleared : world.blockSize = 0) :
      KeepsGeometry state (world, state.2 ++ [.presenceChecked]) :=
    ⟨[.presenceChecked], rfl, cleared⟩
  exact wp_mono (later _ _) (fun _ _ more => (kept _ rfl).trans more) fun _ _ more =>
    (kept _ rfl).trans more

/-! ### Plain functions -/

theorem IsRecovery.plain (op : SdmmcOp) (recovery : IsRecovery op) : Plain op := by
  cases op with
  | recoverFromErrors cmd => trivial
  | _ => exact recovery.elim

theorem commandOps_plain : CommandOps Plain where
  instanceData := trivial
  receive _ := trivial
  remember _ := trivial
  nullCmd _ := trivial
  auxiliary cmd arg member := by
    simp only [List.mem_cons, List.not_mem_nil, or_false] at member
    rcases member with rfl | rfl | rfl
    · exact fun same => absurd same (by decide)
    · exact fun same => absurd same (by decide)
    · exact fun same => absurd same (by decide)

theorem plain_of_guarded {program : Sd α}
    (guarded : program.Guarded Plain IsRecovery) : program.All Plain :=
  guarded.all (fun _ plain => plain) IsRecovery.plain

theorem sdhcSendCommand_isPlain {cmd : SdCommand} (other : cmd ≠ cmdSendCsd) (arg : UInt32) :
    (sdhcSendCommand cmd arg).All Plain :=
  plain_of_guarded (sdhcSendCommand_guarded commandOps_plain other)

theorem sdhcSendDataCommand_isPlain {cmd : SdCommand} (other : cmd ≠ cmdSendCsd)
    (arg bufferByteSize : UInt32) (buffer : TransferBuffer) :
    (sdhcSendDataCommand cmd arg bufferByteSize buffer).All Plain :=
  plain_of_guarded (sdhcSendDataCommand_guarded commandOps_plain (fun _ => other) trivial trivial)

theorem rcaArgument_isPlain : rcaArgument.All Plain :=
  plain_of_guarded (rcaArgument_guarded commandOps_plain)

theorem modifyCardInfo_isPlain (change : CardInfo → CardInfo) : (modifyCardInfo change).All Plain :=
  (all_invoke _).mpr fun _ => rfl

theorem sdhcSendIfCondSd_isPlain : sdhcSendIfCondSd.All Plain :=
  all_bind (sdhcSendCommand_isPlain (by decide) _) fun _ =>
    all_bind (instanceData_all trivial) fun _ =>
      all_ite (raise_all _ _) (modifyCardInfo_isPlain _)

theorem sendOpCondMmcLoop_isPlain (retry : Nat) : (sendOpCondMmcLoop retry).All Plain := by
  induction retry with
  | zero => trivial
  | succ retry ih =>
    exact all_bind (sdhcSendCommand_isPlain (by decide) _) fun _ =>
      all_bind (instanceData_all trivial) fun _ =>
        all_bind (modifyCardInfo_isPlain _) fun _ =>
          all_ite
            (all_bind (modifyCardInfo_isPlain _) fun _ => all_ite (raise_all _ _) (all_pure _))
            ih

theorem sendOpCondSdLoop_isPlain (arg : UInt32) (retry : Nat) :
    (sendOpCondSdLoop arg retry).All Plain := by
  induction retry with
  | zero => trivial
  | succ retry ih =>
    exact all_bind (sdhcSendCommand_isPlain (by decide) _) fun _ =>
      all_bind (instanceData_all trivial) fun _ => all_ite (modifyCardInfo_isPlain _) ih

theorem sdhcSendOpCondSd_isPlain : sdhcSendOpCondSd.All Plain :=
  all_bind (sdhcSendCommand_isPlain (by decide) _) fun _ =>
    all_bind (instanceData_all trivial) fun _ =>
      all_bind (modifyCardInfo_isPlain _) fun _ => sendOpCondSdLoop_isPlain _ _

theorem succeeds_isPlain {part : Sd Unit} (plain : part.All Plain) : (succeeds part).All Plain :=
  all_catching (all_bind plain fun _ => all_pure _) fun _ => all_pure _

theorem queryMmc_isPlain : queryMmc.All Plain :=
  all_bind (instanceData_all trivial) fun _ =>
    all_ite (all_pure _)
      (all_bind (sdhcSendCommand_isPlain (by decide) _) fun _ =>
        all_bind (succeeds_isPlain (sendOpCondMmcLoop_isPlain _)) fun _ =>
          onlyIf_all (modifyCardInfo_isPlain _))

theorem sdhcQueryCardType_isPlain : sdhcQueryCardType.All Plain :=
  all_bind (sdhcSendCommand_isPlain (by decide) _) fun _ =>
    all_bind (modifyCardInfo_isPlain _) fun _ =>
      all_bind (succeeds_isPlain sdhcSendIfCondSd_isPlain) fun _ =>
        all_bind (onlyIf_all (modifyCardInfo_isPlain _)) fun _ =>
          all_bind (succeeds_isPlain (sdhcSendCommand_isPlain (by decide) _)) fun _ =>
            all_bind (onlyIf_all (modifyCardInfo_isPlain _)) fun _ =>
              all_bind queryMmc_isPlain fun _ =>
                all_bind (instanceData_all trivial) fun _ => all_ite (raise_all _ _) (all_pure _)

theorem sdhcSendRelativeAddr_isPlain : sdhcSendRelativeAddr.All Plain :=
  all_bind (instanceData_all trivial) fun _ =>
    all_ite
      (all_bind (modifyCardInfo_isPlain _) fun _ => sdhcSendCommand_isPlain (by decide) _)
      (all_bind (sdhcSendCommand_isPlain (by decide) _) fun _ => (all_invoke _).mpr fun _ => rfl)

theorem sdhcSendCid_isPlain : sdhcSendCid.All Plain :=
  all_bind rcaArgument_isPlain fun _ =>
    all_bind (sdhcSendCommand_isPlain (by decide) _) fun _ =>
      (all_invoke _).mpr fun _ => by
        dsimp only
        split
        · rfl
        · split <;> rfl

theorem sdhcSelectDevice_isPlain : sdhcSelectDevice.All Plain :=
  all_bind rcaArgument_isPlain fun _ => sdhcSendCommand_isPlain (by decide) _

theorem sdhcSetMaxClockFrequency_isPlain : sdhcSetMaxClockFrequency.All Plain :=
  all_bind (instanceData_all trivial) fun _ => all_ite (callService_all trivial) (raise_all _ _)

theorem checkSpecVers_isPlain : checkSpecVers.All Plain :=
  all_bind (instanceData_all trivial) fun _ => all_ite (raise_all _ _) (all_pure _)

theorem sdhcSendExtCsdMmc_isPlain : sdhcSendExtCsdMmc.All Plain :=
  all_bind rcaArgument_isPlain fun _ =>
    all_bind (sdhcSendDataCommand_isPlain (by decide) _ _ _)
      fun _ => (all_invoke _).mpr fun _ => rfl

theorem sdhcSwitchBusWidthMmc_isPlain : sdhcSwitchBusWidthMmc.All Plain :=
  all_bind sdhcSendExtCsdMmc_isPlain fun _ =>
    all_bind
      (all_bind (instanceData_all trivial) fun _ =>
        all_ite
          (all_bind (sdhcSendCommand_isPlain (by decide) _) fun _ =>
            all_bind sdhcSendExtCsdMmc_isPlain fun _ =>
              all_bind (instanceData_all trivial) fun _ => all_ite (raise_all _ _) (all_pure _))
          (all_pure _))
      fun _ =>
        all_bind (sdhcSendCommand_isPlain (by decide) _) fun _ => callService_all trivial

theorem sdhcSwitchSpeedModeMmc_isPlain : sdhcSwitchSpeedModeMmc.All Plain :=
  all_bind (sdhcSendCommand_isPlain (by decide) _) fun _ =>
    all_bind (modifyCardInfo_isPlain _) fun _ =>
      all_bind sdhcSendExtCsdMmc_isPlain fun _ =>
        all_bind (instanceData_all trivial) fun _ => all_ite (raise_all _ _) (all_pure _)

theorem sdhcSwitchPartitionMmc_isPlain (partition : PartitionAccess) :
    (sdhcSwitchPartitionMmc partition).All Plain :=
  all_bind (instanceData_all trivial) fun _ =>
    all_bind (sdhcSendCommand_isPlain (by decide) _) fun _ =>
      all_bind sdhcSendExtCsdMmc_isPlain fun _ =>
        all_bind (instanceData_all trivial) fun _ =>
          all_ite (raise_all _ _) ((all_invoke _).mpr trivial)

theorem setInstalled_isPlain (protocol : InstalledProtocol) (installed : Bool) :
    (setInstalled protocol installed).All Plain :=
  (all_invoke _).mpr fun _ => by cases protocol <;> rfl

theorem install_isPlain (protocol : InstalledProtocol) : (install protocol).All Plain :=
  all_bind (callService_all trivial) fun _ => setInstalled_isPlain _ _

theorem uninstallIfInstalled_isPlain (protocol : InstalledProtocol) :
    (uninstallIfInstalled protocol).All Plain :=
  all_bind (instanceData_all trivial) fun _ =>
    all_ite (all_bind (callService_all trivial) fun _ => setInstalled_isPlain _ _) (all_pure _)

theorem uninstallAllProtocols_isPlain : uninstallAllProtocols.All Plain :=
  all_bind (uninstallIfInstalled_isPlain _) fun _ =>
    all_bind (uninstallIfInstalled_isPlain _) fun _ => uninstallIfInstalled_isPlain _

theorem installCardProtocols_isPlain : installCardProtocols.All Plain :=
  all_bind ((all_invoke _).mpr trivial) fun _ =>
    all_ite
      (all_bind (install_isPlain _) fun _ =>
        all_bind (install_isPlain _) fun _ =>
          all_bind (instanceData_all trivial) fun _ =>
            all_ite
              (all_bind (all_bind ((all_invoke _).mpr trivial) fun _ => all_pure _) fun _ =>
                all_ite (all_pure _)
                  (all_bind (install_isPlain _) fun _ =>
                    all_bind (instanceData_all trivial) fun _ => (all_invoke _).mpr trivial))
              (all_pure _))
      (raise_all _ _)

theorem withdraw_isPlain (protocol : InstalledProtocol) (status : EfiStatus) :
    (withdraw protocol status).All Plain :=
  all_bind (instanceData_all trivial) fun _ =>
    all_ite
      (all_bind ((all_invoke _).mpr trivial) fun _ =>
        all_bind (onlyIf_all (setInstalled_isPlain _ _)) fun _ => all_pure _)
      (all_pure _)

theorem softResetExit_isPlain (error : ErrorStatus) : (softResetExit error).All Plain :=
  all_bind (withdraw_isPlain _ _) fun _ =>
    all_bind (withdraw_isPlain _ _) fun _ => check_all _

theorem rpmbDispatch_isPlain (request response : RpmbDataBuffer) :
    (rpmbDispatch request response).All Plain := by
  have blockCount (count : UInt32) (reliable : Bool) :
      (sdhcSetBlockCount count reliable).All Plain :=
    sdhcSendCommand_isPlain (by decide) _
  have frames {cmd : SdCommand} (other : cmd ≠ cmdSendCsd) (size : UInt32)
      (buffer : TransferBuffer) : (sdhcSendDataCommand cmd 0 size buffer).All Plain :=
    sdhcSendDataCommand_isPlain other 0 size buffer
  have read (buffer : TransferBuffer) (answer : RpmbDataBuffer) :
      (rpmbRead buffer answer).All Plain :=
    all_bind (blockCount _ _) fun _ =>
      all_bind (frames (by decide) _ _) fun _ =>
        all_bind (blockCount _ _) fun _ => frames (by decide) _ _
  have write (data : RpmbDataBuffer) : (rpmbWrite data).All Plain :=
    all_bind (blockCount _ _) fun _ => frames (by decide) _ _
  exact all_bind (all_bind ((all_invoke _).mpr trivial) fun _ => all_pure _) fun _ =>
    all_ite (all_bind (write _) fun _ => read _ _)
      (all_ite (read _ _)
        (all_ite (read _ _) (all_ite (all_bind (write _) fun _ => read _ _) (all_pure _))))

theorem rpmbRequest_isPlain (request response : RpmbDataBuffer) :
    (rpmbRequest request response).All Plain :=
  all_bind (instanceData_all trivial) fun _ =>
    all_bind (sdhcSwitchPartitionMmc_isPlain _) fun _ =>
      all_bind
        (all_catching (rpmbDispatch_isPlain request response) fun _ =>
          all_bind (all_catching (sdhcSwitchPartitionMmc_isPlain _) fun _ => all_pure _) fun _ =>
            all_fail _)
        fun _ => sdhcSwitchPartitionMmc_isPlain _

/-! ### The functions that reset the media -/

section

variable (recovers : RecoversGeometric env depth)

include recovers

theorem initializeSdDevice_geometric : Geometric env depth initializeSdDevice :=
  geometric_bind (geometric_of_plain recovers sdhcSendOpCondSd_isPlain) fun _ =>
    geometric_bind (geometric_of_plain recovers (sdhcSendCommand_isPlain (by decide) _)) fun _ =>
      geometric_bind (geometric_of_plain recovers sdhcSendRelativeAddr_isPlain) fun _ =>
        geometric_bind (geometric_of_plain recovers sdhcSendCid_isPlain) fun _ =>
          geometric_bind (sdhcSendCsd_geometric recovers) fun _ =>
            geometric_of_plain recovers <|
              all_bind sdhcSelectDevice_isPlain fun _ =>
                all_bind
                  (all_bind (sdhcSendCommand_isPlain (by decide) _)
                    fun _ => callService_all trivial)
                  fun _ => sdhcSetMaxClockFrequency_isPlain

theorem initializeMmcDevice_geometric : Geometric env depth initializeMmcDevice :=
  geometric_bind (geometric_of_plain recovers (sdhcSendCommand_isPlain (by decide) _)) fun _ =>
    geometric_bind (geometric_of_plain recovers sdhcSendRelativeAddr_isPlain) fun _ =>
      geometric_bind (geometric_of_plain recovers sdhcSendCid_isPlain) fun _ =>
        geometric_bind (sdhcSendCsd_geometric recovers) fun _ =>
          geometric_of_plain recovers <|
            all_bind checkSpecVers_isPlain fun _ =>
              all_bind sdhcSelectDevice_isPlain fun _ =>
                all_bind sdhcSendExtCsdMmc_isPlain fun _ =>
                  all_bind sdhcSwitchSpeedModeMmc_isPlain fun _ =>
                    all_bind sdhcSwitchBusWidthMmc_isPlain fun _ => sdhcSetMaxClockFrequency_isPlain

theorem initializeDevice_geometric : Geometric env depth initializeDevice :=
  geometric_bind (geometric_of_plain recovers (modifyCardInfo_isPlain _)) fun _ =>
    geometric_bind (geometric_of_plain recovers (callService_all trivial)) fun _ =>
      geometric_bind (geometric_of_plain recovers (callService_all trivial)) fun _ =>
        geometric_bind (geometric_of_plain recovers sdhcQueryCardType_isPlain) fun _ =>
          geometric_bind
            (geometric_bind (geometric_of_plain recovers (instanceData_all trivial)) fun _ =>
              geometric_ite (initializeSdDevice_geometric recovers)
                (geometric_ite (initializeMmcDevice_geometric recovers)
                  (geometric_of_plain recovers (raise_all _ _))))
            fun _ =>
              geometric_of_plain recovers <|
                all_bind (sdhcSendCommand_isPlain (by decide) _) fun _ =>
                  (all_invoke _).mpr fun _ => rfl

theorem softReset_geometric : Geometric env depth softReset :=
  geometric_catching
    (geometric_bind (geometric_of_plain recovers uninstallAllProtocols_isPlain) fun _ =>
      clearMedia_geometric fun _ =>
        geometric_bind (geometric_of_plain recovers ((all_invoke _).mpr fun _ => rfl)) fun _ =>
          geometric_ite
            (geometric_bind (geometric_of_plain recovers ((all_invoke _).mpr trivial)) fun _ =>
              geometric_bind (geometric_of_plain recovers ((all_invoke _).mpr fun _ => rfl))
                fun _ =>
                  geometric_bind (initializeDevice_geometric recovers) fun _ =>
                    geometric_of_plain recovers installCardProtocols_isPlain)
            (geometric_of_plain recovers (install_isPlain _)))
    fun _ => geometric_of_plain recovers (softResetExit_isPlain _)

theorem sdhcRecoverFromErrors_geometric (cmd : SdCommand) :
    Geometric env depth (sdhcRecoverFromErrors cmd) := by
  have counted (change : UInt32 → UInt32) : Geometric env depth (changeAttemptCount change) :=
    geometric_of_plain recovers ((all_invoke _).mpr fun _ => rfl)
  have lines : (resetLines cmd).All Plain :=
    all_bind ((all_invoke _).mpr trivial) fun _ => all_ite (all_pure _) ((all_invoke _).mpr trivial)
  have stop : (stopIfTransferring cmd).All Plain :=
    all_ite
      (all_bind (plain_of_guarded (sdhcSendStatus_guarded commandOps_plain)) fun _ =>
        all_ite (plain_of_guarded (sdhcStopTransmission_guarded commandOps_plain)) (all_pure _))
      (all_pure _)
  have steps : Geometric env depth (recoverySteps cmd) :=
    geometric_bind (geometric_of_plain recovers (instanceData_all trivial)) fun _ =>
      geometric_ite (geometric_of_plain recovers (raise_all _ _))
        (geometric_bind (geometric_of_plain recovers lines) fun _ =>
          geometric_bind
            (geometric_ite (softReset_geometric recovers) (geometric_pure ()))
            fun _ => geometric_of_plain recovers stop)
  exact geometric_bind (counted _) fun _ =>
    geometric_bind
      (geometric_catching steps fun error =>
        geometric_bind (counted _) fun _ => geometric_of_plain recovers (all_fail error))
      fun _ => counted _

end

/-- Recoveries keep the geometry, however deep they nest. -/
theorem recoversGeometric (env : Environment) (depth : Nat) : RecoversGeometric env depth := by
  induction depth with
  | zero =>
    intro cmd state
    refine (wp_invoke _ _).mpr fun answered defined => ?_
    cases defined
  | succ depth ih =>
    intro cmd state
    refine (wp_invoke _ _).mpr fun answered defined => ?_
    obtain ⟨⟨answer, after⟩, recovered, rfl⟩ := Option.map_eq_some_iff.mp defined
    obtain ⟨outcome, ended, same⟩ := Option.map_eq_some_iff.mp recovered
    cases same
    have spec := sdhcRecoverFromErrors_geometric ih cmd (state.1, []) _
      (exec_observing_of_exec ended)
    obtain ⟨marks, grown, size⟩ : KeepsGeometry (state.1, [])
        (outcome.2, (sdhcRecoverFromErrors cmd).observed (handler env depth)
          (mediaMarks env depth) state.1) := by
      rcases outcome with ⟨error | value, after⟩ <;> exact spec
    exact ⟨marks, congrArg (state.2 ++ ·) grown, size⟩

theorem geometry_of_exec {α : Type} {program : Sd α} (geometric : Geometric env depth program)
    {world : World} {outcome : Except ErrorStatus α × World}
    (ended : program.exec (handler env depth) world = some outcome) :
    outcome.2.blockSize = sizeAfter world.blockSize
      (program.observed (handler env depth) (mediaMarks env depth) world) := by
  have spec := geometric (world, []) _ (exec_observing_of_exec ended)
  obtain ⟨marks, grown, size⟩ : KeepsGeometry (world, [])
      (outcome.2, program.observed (handler env depth) (mediaMarks env depth) world) := by
    rcases outcome with ⟨error | value, after⟩ <;> exact spec
  rw [size]
  exact congrArg (sizeAfter world.blockSize) grown.symm

end

end MuRockchip.SdMmc
