/-
Memory confinement of variable reads (`AuthVarsDxe.c`).

Whatever the trusted application leaves in the result buffer and in its answer, a
read copies from inside the buffer and stores no more than the caller declared.
What it hands back as the size needed is the application's own figure less the
header, which need not be larger than what the caller offered.

* `reads_confined_iff`: the answers under which both reads are confined.
-/
import MuRockchip.AuthVar.Services

namespace MuRockchip.AuthVar

open MuRockchip.Base MuRockchip.Optee

/-! ### Confinement -/

/-- A read of the variable services. -/
inductive VariableRead where
  | getVariable (args : GetVariableArgs)
  | getNextVariableName (args : GetNextVariableNameArgs)

/-- What a read does to its caller's buffer: its status, the size it hands back,
and the bytes it stores. -/
structure ReadReport where
  status : EfiStatus
  size : Option UInt64
  written : List UInt8

namespace VariableRead

def declared : VariableRead → Option UInt64
  | getVariable args => args.dataSize
  | getNextVariableName args => args.variableNameSize

/-- The read's report; none if it reads past the end of the result buffer. -/
def report (env : Environment) (state : DriverState) : VariableRead → Option ReadReport
  | getVariable args => (opteeRuntimeGetVariable env state args).1.map fun outcome =>
      ⟨outcome.status, outcome.dataSize, outcome.data⟩
  | getNextVariableName args =>
    (opteeRuntimeGetNextVariableName env state args).1.map fun outcome =>
      ⟨outcome.status, outcome.variableNameSize, outcome.variableName⟩

/-- The read stays inside the result buffer, stores at most what the caller
declared, and asks for more only by handing back a larger size. -/
def Confined (env : Environment) (state : DriverState) (read : VariableRead) : Prop :=
  ∃ report, read.report env state = some report ∧
    report.written.length ≤ (read.declared.getD 0).toNat ∧
    (report.status = EfiStatus.bufferTooSmall →
      ∃ offered asked, read.declared = some offered ∧ report.size = some asked ∧ offered < asked)

/-- The answers that keep a read confined: one that asks for a larger buffer names
a size that exceeds, less the header, what the caller offered; and one with data
names no more of it than the buffer holds. -/
def ConfinedAnswer (env : Environment) (state : DriverState) : VariableRead → Prop
  | getVariable args => ∀ request, getVariableRequest state args = .ok request →
      ((env state.position).answer = TeecResult.errorShortBuffer → request.dataSize <
        (env state.position).resultSize.toUInt64 - sizeofVariableGetResult.toUInt64) ∧
      ((env state.position).answer = TeecResult.success →
        headerField (env state.position).result 8 4 ≤ request.localDataSize.toNat →
        12 + headerField (env state.position).result 8 4 ≤ state.resultMem.size.toNat)
  | getNextVariableName args => ∀ request, getNextVariableNameRequest state args = .ok request →
      (env state.position).answer = TeecResult.errorShortBuffer → request.variableNameSize <
        (env state.position).resultSize.toUInt64 - sizeofVariableGetNextResult.toUInt64

end VariableRead

/-! ### The reads -/

section

variable {env : Environment} {state : DriverState}

theorem dataSize_of_hook {args : GetVariableArgs} (hooked : args.isSessionHook = true) :
    args.dataSize = some 8 := by
  unfold GetVariableArgs.isSessionHook at hooked
  split at hooked
  · rename_i sized
    simp only [isSessionHook, Bool.and_eq_true, decide_eq_true_eq] at hooked
    rw [sized, hooked.2]
  · cases hooked

theorem getVariable_confined_iff (args : GetVariableArgs) :
    (VariableRead.getVariable args).Confined env state ↔
      (VariableRead.getVariable args).ConfinedAnswer env state := by
  unfold VariableRead.Confined VariableRead.ConfinedAnswer VariableRead.report
    VariableRead.declared opteeRuntimeGetVariable
  dsimp only
  rcases getVariableRequest_cases state args with ⟨status, refused, ended⟩ |
    ⟨hooked, ended⟩ | ⟨request, sent, sized, narrowed⟩
  · rw [ended]
    constructor
    · intro _ request sent
      cases sent
    · intro _
      exact ⟨_, rfl, Nat.zero_le _, fun short =>
        absurd short (refusal_ne_bufferTooSmall refused)⟩
  · rw [ended]
    constructor
    · intro _ request sent
      cases sent
    · intro _
      refine ⟨_, rfl, ?_, fun short => absurd short success_ne_bufferTooSmall⟩
      rw [dataSize_of_hook hooked]
      exact Nat.le_of_eq (leBytes_length _ _)
  · rw [sent, sized]
    dsimp only
    rw [finishGetVariable_eq, invoked_status]
    have narrow : request.localDataSize.toNat ≤ request.dataSize.toNat := by
      rw [narrowed, UInt64.toNat_toUInt32]
      exact Nat.mod_le _ _
    by_cases success : (env state.position).answer = TeecResult.success
    · -- the data, if it is no more than the caller's, is copied
      have status := invokeStatus_success_iff.mpr success
      rw [invoked_bytes _ _ _ _ _ _ (allocated_of_success success), status]
      dsimp only
      rw [if_neg (by decide : ¬EfiStatus.success.isError = true)]
      by_cases beyond : headerField (env state.position).result 8 4 > request.localDataSize.toNat
      · rw [if_pos beyond]
        constructor
        · intro _ other same
          cases same
          exact ⟨fun short => absurd (success.symm.trans short) (by decide),
            fun _ within => absurd within (Nat.not_le.mpr beyond)⟩
        · intro _
          exact ⟨_, rfl, Nat.zero_le _, fun short => absurd short badBufferSize_ne_bufferTooSmall⟩
      · rw [if_neg beyond]
        have within := Nat.not_lt.mp beyond
        constructor
        · rintro ⟨report, reported, _, _⟩ other same
          cases same
          refine ⟨fun short => absurd (success.symm.trans short) (by decide), fun _ _ => ?_⟩
          by_contra outside
          rw [readResult, if_neg outside] at reported
          cases reported
        · intro answered
          have inside := (answered request rfl).2 success within
          rw [readResult_of_le _ _ inside]
          refine ⟨_, rfl, ?_, fun short => absurd short success_ne_bufferTooSmall⟩
          rw [List.length_map, List.length_range]
          exact Nat.le_trans within narrow
    · have failed := invokeStatus_isError.mpr success
      dsimp only
      rw [if_pos failed]
      by_cases short : (env state.position).answer = TeecResult.errorShortBuffer
      · -- the size asked for is the application's figure less the header
        obtain ⟨reached, returned⟩ := answered_of_short short
        rw [invoked_resultSize _ _ _ _ _ _ reached returned,
          if_pos (invokeStatus_short_iff.mpr short)]
        constructor
        · rintro ⟨report, reported, _, larger⟩ other same
          cases same
          cases reported
          obtain ⟨offered, asked, same, handed, more⟩ := larger (invokeStatus_short_iff.mpr short)
          cases same
          cases handed
          exact ⟨fun _ => more, fun done => absurd done success⟩
        · intro answered
          exact ⟨_, rfl, Nat.zero_le _, fun _ =>
            ⟨_, _, rfl, rfl, (answered request rfl).1 short⟩⟩
      · constructor
        · intro _ other same
          cases same
          exact ⟨fun other => absurd other short, fun done => absurd done success⟩
        · intro _
          exact ⟨_, rfl, Nat.zero_le _, fun other => absurd (invokeStatus_short_iff.mp other) short⟩

/-- A name no longer than the caller's buffer lies inside the result buffer: its
size is a 16-bit field, so this holds even where the size of the request wraps. -/
theorem name_inside {mem : TransportMem} {localSize : UInt32} {size : Nat}
    (small : localSize.toUInt64 < mem.size)
    (fits : (sizeofVariableGetNextResult + localSize).toUInt64 ≤ mem.size)
    (field : size < 256 ^ 2) (within : size ≤ localSize.toNat) : 24 + size ≤ mem.size.toNat := by
  rw [UInt64.lt_iff_toNat_lt, UInt32.toNat_toUInt64] at small
  rw [UInt64.le_iff_toNat_le, UInt32.toNat_toUInt64, UInt32.toNat_add,
    show sizeofVariableGetNextResult.toNat = 28 from rfl] at fits
  omega

theorem getNextVariableName_confined_iff (args : GetNextVariableNameArgs) :
    (VariableRead.getNextVariableName args).Confined env state ↔
      (VariableRead.getNextVariableName args).ConfinedAnswer env state := by
  unfold VariableRead.Confined VariableRead.ConfinedAnswer VariableRead.report
    VariableRead.declared opteeRuntimeGetNextVariableName
  dsimp only
  rcases getNextVariableNameRequest_cases state args with ⟨status, refused, ended⟩ |
    ⟨request, sent, sized, narrowed, small, fits⟩
  · rw [ended]
    constructor
    · intro _ request sent
      cases sent
    · intro _
      exact ⟨_, rfl, Nat.zero_le _, fun short =>
        absurd short (refusal_ne_bufferTooSmall refused)⟩
  · rw [sent, sized]
    dsimp only
    rw [finishGetNextVariableName_eq, invoked_status]
    have narrow : request.localOutVariableNameSize.toNat ≤ request.variableNameSize.toNat := by
      rw [narrowed, UInt64.toNat_toUInt32]
      exact Nat.mod_le _ _
    by_cases success : (env state.position).answer = TeecResult.success
    · have status := invokeStatus_success_iff.mpr success
      rw [invoked_bytes _ _ _ _ _ _ (allocated_of_success success), status]
      dsimp only
      rw [if_neg (by decide : ¬EfiStatus.success.isError = true)]
      refine ⟨fun _ other _ short => absurd (success.symm.trans short) (by decide), fun _ => ?_⟩
      by_cases beyond : headerField (env state.position).result 4 2 >
          request.localOutVariableNameSize.toNat
      · rw [if_pos beyond]
        exact ⟨_, rfl, Nat.zero_le _, fun short => absurd short badBufferSize_ne_bufferTooSmall⟩
      · rw [if_neg beyond]
        have within := Nat.not_lt.mp beyond
        rw [readResult_of_le _ _ (name_inside small fits (headerField_lt _ _ _) within)]
        refine ⟨_, rfl, ?_, fun short => absurd short success_ne_bufferTooSmall⟩
        rw [List.length_map, List.length_range]
        exact Nat.le_trans within narrow
    · have failed := invokeStatus_isError.mpr success
      dsimp only
      rw [if_pos failed]
      by_cases short : (env state.position).answer = TeecResult.errorShortBuffer
      · obtain ⟨reached, returned⟩ := answered_of_short short
        rw [invoked_resultSize _ _ _ _ _ _ reached returned,
          if_pos (invokeStatus_short_iff.mpr short)]
        constructor
        · rintro ⟨report, reported, _, larger⟩ other same _
          cases same
          cases reported
          obtain ⟨offered, asked, same, handed, more⟩ := larger (invokeStatus_short_iff.mpr short)
          cases same
          cases handed
          exact more
        · intro answered
          exact ⟨_, rfl, Nat.zero_le _, fun _ => ⟨_, _, rfl, rfl, answered request rfl short⟩⟩
      · refine ⟨fun _ other _ again => absurd again short, fun _ => ?_⟩
        exact ⟨_, rfl, Nat.zero_le _, fun other => absurd (invokeStatus_short_iff.mp other) short⟩

end

/-- A read is confined exactly under an answer that keeps it so. -/
theorem reads_confined_iff (env : Environment) (state : DriverState) (read : VariableRead) :
    read.Confined env state ↔ read.ConfinedAnswer env state := by
  cases read with
  | getVariable args => exact getVariable_confined_iff args
  | getNextVariableName args => exact getNextVariableName_confined_iff args

/-- An application that finds the buffer short and announces a size of 16 bytes,
which is the header alone. -/
def headerOnlyAnswer : Turn where
  messageAllocated := true
  reply :=
    { arg0 := smcReturnOk
      message :=
        { MsgArg.zero 4 with
          ret := TeecResult.errorShortBuffer
          params := #v[MsgParam.zero, MsgParam.zero, ⟨0, 16, 0, 0⟩, MsgParam.zero] } }
  result _ := 0
  variableArchInstalled := true
  poolAllocated := true

/-- A caller that offers 64 bytes is told that they are too few and that none are
needed. -/
theorem zero_size_asked_not_confined :
    ¬(VariableRead.getVariable ⟨some ⟨[0x50], by decide⟩, some gOpteeAuthVarTaGuid, false, some 64,
      false⟩).Confined (fun _ => headerOnlyAnswer) openedDriver := by
  rintro ⟨report, reported, -, larger⟩
  have computed : some report = some ⟨EfiStatus.bufferTooSmall, some 0, []⟩ :=
    reported.symm.trans (by rfl)
  cases computed
  obtain ⟨offered, asked, same, handed, more⟩ := larger rfl
  cases same
  cases handed
  exact absurd more (by decide)

end MuRockchip.AuthVar
