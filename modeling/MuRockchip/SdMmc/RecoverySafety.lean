/-
Error recovery ends.

Recovery sends commands, which start recoveries of their own. Each level raises
the attempt count before it does anything else and lowers it on every way out, so
the count is the nesting depth, and the threshold bounds it.

* `handler_recovers`: the induction on the nesting, for what recoveries keep.
* `handler_recoverFromErrors_attempts`: every recovery leaves the count it found.
* `handler_recoverFromErrors_defined`: a recovery returns if the nesting it still
  has room for is allowed to it.
-/
import MuRockchip.SdMmc.Operations

namespace MuRockchip.SdMmc

open MuRockchip.Base
open MuRockchip.Base.Prog

/-! ### One operation -/

theorem serviceEffect_device (reply : HostReply) (world : World) (service : Service) :
    SameRecords world.device (serviceEffect reply world service).device ∧
      (serviceEffect reply world service).device.installed = world.device.installed := by
  cases service with
  | readBlockData lengthInBytes buffer => cases buffer <;> exact ⟨⟨rfl, rfl, rfl, rfl⟩, rfl⟩
  | _ => exact ⟨⟨rfl, rfl, rfl, rfl⟩, rfl⟩

/-! ### Rules for recoveries -/

section

variable {env : Environment} {depth : Nat} {relation : World → World → Prop}

/-- What nested recoveries keep and an operation keeps at once, the interface keeps. -/
theorem handler_keeps {allowed : SdmmcOp → Prop}
    (recovers : ∀ cmd world answered,
      handler env depth (.recoverFromErrors cmd) world = some answered →
      relation world answered.2)
    (keeps : ∀ op world, allowed op → relation world (hostEffect env op world).2)
    (op : SdmmcOp) (world : World) (answered : op.Answer × World) (holds : allowed op)
    (defined : handler env depth op world = some answered) : relation world answered.2 := by
  by_cases recovery : IsRecovery op
  · cases op with
    | recoverFromErrors cmd => exact recovers cmd world answered defined
    | _ => exact recovery.elim
  · rw [handler_eq_hostEffect recovery] at defined
    exact Option.some.inj defined ▸ keeps op world holds

/-- What the steps of a recovery keep wherever nested recoveries do, between a raised
and a lowered attempt count, every recovery keeps. -/
theorem handler_recovers
    (counted : ∀ before after,
      relation { before with device := before.device.changeAttempts (· + 1) } after →
        relation before { after with device := after.device.changeAttempts (· - 1) })
    (steps : ∀ depth,
      (∀ cmd world answered, handler env depth (.recoverFromErrors cmd) world = some answered →
        relation world answered.2) →
      ∀ cmd world, wp (handler env depth) (recoverySteps cmd) (fun _ after => relation world after)
        (fun _ after => relation world after) world)
    (depth : Nat) (cmd : SdCommand) (world : World) (answered : Unit × World)
    (defined : handler env depth (.recoverFromErrors cmd) world = some answered) :
    relation world answered.2 := by
  induction depth generalizing cmd world answered with
  | zero => cases defined
  | succ depth ih =>
    obtain ⟨outcome, ended, rfl⟩ := Option.map_eq_some_iff.mp defined
    have spec : wp (handler env depth) (sdhcRecoverFromErrors cmd)
        (fun _ after => relation world after) (fun _ after => relation world after) world := by
      simp only [sdhcRecoverFromErrors, changeAttemptCount, wp_bind, wp_catching,
        wp_modifyInstance, wp_fail]
      exact wp_mono (steps depth ih cmd _) (fun _ => counted world) fun _ => counted world
    have ends := spec outcome ended
    rcases outcome with ⟨error | value, after⟩ <;> exact ends

end

/-! ### The attempt count -/

/-- The count of recoveries under way is the same in both worlds. -/
def SameAttempts (before after : World) : Prop :=
  after.device.errorRecoveryAttemptCount = before.device.errorRecoveryAttemptCount

theorem SameAttempts.refl (world : World) : SameAttempts world world := rfl

theorem SameAttempts.trans {first second third : World} (one : SameAttempts first second)
    (other : SameAttempts second third) : SameAttempts first third :=
  Eq.trans other one

variable {env : Environment} {depth : Nat} {world : World}

theorem hostEffect_attempts {op : SdmmcOp} (recording : Recording op)
    (world : World) : SameAttempts world (hostEffect env op world).2 := by
  cases op with
  | service service => exact (serviceEffect_device _ _ _).1.attempts
  | modifyInstance change => exact (recording world.device).attempts
  | _ => rfl

theorem recoverySteps_attempts (recovers : ∀ cmd world answered,
      handler env depth (.recoverFromErrors cmd) world = some answered →
      SameAttempts world answered.2) (cmd : SdCommand) (world : World) :
    wp (handler env depth) (recoverySteps cmd) (fun _ after => SameAttempts world after)
      (fun _ after => SameAttempts world after) world :=
  wp_of_preserves SameAttempts.refl SameAttempts.trans
    (handler_keeps recovers fun _ world recording => hostEffect_attempts recording world)
    ((recoverySteps_resetting cmd).mono Resetting.recording) world

/-- Recovery leaves the count it found, on every way out. -/
theorem handler_recoverFromErrors_attempts (env : Environment) (depth : Nat) (cmd : SdCommand)
    (world : World) (answered : Unit × World)
    (defined : handler env depth (.recoverFromErrors cmd) world = some answered) :
    SameAttempts world answered.2 := by
  refine handler_recovers (fun before after raised => ?_)
    (fun _ recovers => recoverySteps_attempts recovers) depth cmd world answered defined
  have count : after.device.errorRecoveryAttemptCount - 1 =
      before.device.errorRecoveryAttemptCount := by
    rw [raised]
    exact UInt32.add_sub_cancel _ 1
  exact count

/-! ### What recovery keeps -/

/-- A relation kept by a set of operations that includes those of a soft reset, and
by the changes of the attempt count, is kept where these operations recover. -/
theorem handler_preserves {relation : World → World → Prop} {allowed : SdmmcOp → Prop}
    (refl : ∀ world, relation world world)
    (trans : ∀ {first second third}, relation first second → relation second third →
      relation first third) (ofResetting : ∀ op, Resetting op → allowed op)
    (keeps : ∀ op world, allowed op → relation world (hostEffect env op world).2)
    (counted : ∀ change world,
      relation world { world with device := world.device.changeAttempts change }) (depth : Nat)
    (op : SdmmcOp) (world : World) (answered : op.Answer × World) (holds : allowed op)
    (defined : handler env depth op world = some answered) :
    relation world answered.2 := by
  refine handler_keeps
    (handler_recovers (fun before after kept => ?_) (fun depth recovers cmd => ?_) depth)
    keeps op world answered holds defined
  · exact trans (trans (counted _ before) kept) (counted _ after)
  · exact wp_of_preserves refl trans (handler_keeps recovers keeps)
      ((recoverySteps_resetting cmd).mono ofResetting)

/-! ### Termination -/

/-- The nesting that a recovery needs when `count` recoveries are under way: none
below one that the threshold turns away. -/
def nestingFrom (count : UInt32) : Nat := max 1 (recoveryDepth - count.toNat)

theorem twp_of_recoveries {count : UInt32}
    (recovers : ∀ cmd world, world.device.errorRecoveryAttemptCount = count →
      ∃ answered, handler env depth (.recoverFromErrors cmd) world = some answered) {α : Type}
    {program : Sd α} (keeps : program.All Recording)
    (initial : world.device.errorRecoveryAttemptCount = count) :
    twp (handler env depth) program
      (fun _ after => after.device.errorRecoveryAttemptCount = count)
      (fun _ after => after.device.errorRecoveryAttemptCount = count) world := by
  refine twp_of_defined (fun op world allowed counted => ?_) keeps initial
  by_cases recovery : IsRecovery op
  · cases op with
    | recoverFromErrors cmd =>
      obtain ⟨answered, defined⟩ := recovers cmd world counted
      have same := handler_recoverFromErrors_attempts env depth cmd world answered defined
      exact ⟨answered, defined, Eq.trans same counted⟩
    | _ => exact recovery.elim
  · exact ⟨_, handler_eq_hostEffect recovery, Eq.trans (hostEffect_attempts allowed world) counted⟩

theorem twp_modifyInstance {change : SdhcInstance → SdhcInstance} {ok : Unit → World → Prop}
    {err : ErrorStatus → World → Prop}
    (holds : ok () { world with device := change world.device }) :
    twp (handler env depth) (modifyInstance change) ok err world :=
  twp_invoke (handler_eq_hostEffect id) holds

/-- A recovery ends if it may nest as deep as the threshold lets it. -/
theorem handler_recoverFromErrors_defined (env : Environment) (cmd : SdCommand)
    (room : nestingFrom world.device.errorRecoveryAttemptCount ≤ depth)
    (counts : world.device.errorRecoveryAttemptCount.toNat + 1 < 2 ^ 32) :
    ∃ answered, handler env depth (.recoverFromErrors cmd) world = some answered := by
  induction depth generalizing cmd world with
  | zero => simp [nestingFrom] at room
  | succ depth ih =>
    let raised : World := { world with device := world.device.changeAttempts (· + 1) }
    have count : raised.device.errorRecoveryAttemptCount.toNat =
        world.device.errorRecoveryAttemptCount.toNat + 1 := by
      simp only [raised, SdhcInstance.changeAttempts, UInt32.toNat_add, UInt32.reduceToNat]
      omega
    have steps : twp (handler env depth) (recoverySteps cmd) (fun _ _ => True) (fun _ _ => True)
        raised := by
      by_cases exceeded :
          raised.device.errorRecoveryAttemptCount > sdmmcErrorRecoveryAttemptThreshold
      · refine twp_bind (twp_invoke (handler_eq_hostEffect id) ?_)
        rw [hostEffect, if_pos exceeded]
        exact ⟨_, rfl, trivial⟩
      · -- The steps run with the count raised, and each recovery they start has room.
        have threshold : sdmmcErrorRecoveryAttemptThreshold.toNat = 3 := rfl
        have within : raised.device.errorRecoveryAttemptCount.toNat ≤ 3 := by
          rw [gt_iff_lt, UInt32.lt_iff_toNat_lt, threshold] at exceeded
          omega
        have left : nestingFrom raised.device.errorRecoveryAttemptCount ≤ depth := by
          simp only [nestingFrom, recoveryDepth, threshold] at room ⊢
          omega
        obtain ⟨outcome, ended, -⟩ := twp_of_recoveries
          (fun cmd world same => ih cmd (by rw [same]; exact left) (by rw [same]; omega))
          ((recoverySteps_resetting cmd).mono Resetting.recording)
          (show raised.device.errorRecoveryAttemptCount = _ from rfl)
        exact ⟨outcome, ended, by rcases outcome with ⟨_ | _, _⟩ <;> trivial⟩
    have whole : twp (handler env depth) (sdhcRecoverFromErrors cmd) (fun _ _ => True)
        (fun _ _ => True) world := by
      refine twp_bind (twp_modifyInstance ?_)
      refine twp_bind (twp_catching ?_)
      obtain ⟨⟨error | value, after⟩, ended, -⟩ := steps
      · exact ⟨_, ended, twp_bind (twp_modifyInstance ⟨_, rfl, trivial⟩)⟩
      · exact ⟨_, ended, twp_modifyInstance trivial⟩
    obtain ⟨outcome, ended, -⟩ := whole
    exact ⟨_, by rw [handler, ended]; rfl⟩

/-- A program of the driver ends where the recoveries it starts have room, and leaves
the count it found. -/
theorem exec_of_room (env : Environment) {α : Type} {program : Sd α}
    (recording : program.All Recording)
    (room : nestingFrom world.device.errorRecoveryAttemptCount ≤ depth)
    (counts : world.device.errorRecoveryAttemptCount.toNat + 1 < 2 ^ 32) :
    ∃ outcome, program.exec (handler env depth) world = some outcome ∧
      outcome.2.device.errorRecoveryAttemptCount = world.device.errorRecoveryAttemptCount := by
  have recovers (cmd : SdCommand) (entered : World)
      (same : entered.device.errorRecoveryAttemptCount = world.device.errorRecoveryAttemptCount) :
      ∃ answered, handler env depth (.recoverFromErrors cmd) entered = some answered := by
    apply handler_recoverFromErrors_defined env cmd
    · rw [same]
      exact room
    · rw [same]
      exact counts
  obtain ⟨outcome, ended, kept⟩ := twp_of_recoveries recovers recording (show
    world.device.errorRecoveryAttemptCount = _ from rfl)
  refine ⟨outcome, ended, ?_⟩
  rcases outcome with ⟨error | value, after⟩ <;> exact kept

/-- Every sequence of calls ends, with recoveries nested no deeper than the threshold
leaves room for, whatever the host and the card do; and every recovery leaves the
attempt count it found. The count is zero when the driver starts. -/
theorem errorRecovery_terminates (env : Environment) (calls : List DriverCall) (world : World)
    (counts : world.device.errorRecoveryAttemptCount ≠ 0xFFFFFFFF) :
    (∃ outcome, (session calls).exec (handler env (sdmmcErrorRecoveryAttemptThreshold.toNat + 1))
        world = some outcome ∧
      outcome.2.device.errorRecoveryAttemptCount = world.device.errorRecoveryAttemptCount) ∧
    ∀ depth cmd entered answered,
      handler env depth (.recoverFromErrors cmd) entered = some answered →
      answered.2.device.errorRecoveryAttemptCount = entered.device.errorRecoveryAttemptCount := by
  refine ⟨?_, handler_recoverFromErrors_attempts env⟩
  have below : world.device.errorRecoveryAttemptCount.toNat + 1 < 2 ^ 32 := by
    have bound := world.device.errorRecoveryAttemptCount.toNat_lt
    have other : world.device.errorRecoveryAttemptCount.toNat ≠ 0xFFFFFFFF := fun equal =>
      counts (UInt32.toNat_inj.mp equal)
    omega
  have room : nestingFrom world.device.errorRecoveryAttemptCount ≤ recoveryDepth := by
    have depth : recoveryDepth = 4 := rfl
    simp only [nestingFrom, depth]
    omega
  exact exec_of_room env (session_recording calls) room below

/-- With a host that answers every call with an error, recovery falls back on a soft
reset, which fails too. -/
theorem errorRecovery_terminates_deadHost :
    (∃ outcome, (session [.softReset, .sendDataCommand cmdReadMultiBlock 0 512 .blockBuffer]).exec
        (handler (fun _ => HostReply.failing) (sdmmcErrorRecoveryAttemptThreshold.toNat + 1))
        (World.start ⟨0⟩) = some outcome ∧
      outcome.2.device.errorRecoveryAttemptCount =
        (World.start ⟨0⟩).device.errorRecoveryAttemptCount) ∧
    ∀ depth cmd entered answered,
      handler (fun _ => HostReply.failing) depth (.recoverFromErrors cmd) entered = some answered →
      answered.2.device.errorRecoveryAttemptCount = entered.device.errorRecoveryAttemptCount :=
  errorRecovery_terminates _ _ _ (by decide)

end MuRockchip.SdMmc
