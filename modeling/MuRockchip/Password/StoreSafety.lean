/-
Safety of the admin-password store.

A call is safe when it leaves the stored record alone, unless a client sets a new
one, and authenticates only candidates that reproduce the last record set. The
invariant of a run is that the variable holds that record, with the attributes
the library writes, and that the policy accepts it.

* `stepSafe_iff`: a call is safe exactly when the read it starts with succeeds,
  or creating the default record does no harm.
* `run_stepSafe_iff`: the same for every call of a run that starts with a
  version 1 record.
-/
import MuRockchip.Base.Run
import MuRockchip.Password.Store

namespace MuRockchip.Password

open MuRockchip.Base

/-! ### What a call must not do -/

/-- The candidate reproduces the record: generating over it gives it back. A
record of no password is reproduced by every candidate. -/
def Reproduces (derive : KeyDerivation) (candidate : Option Str16) (record : List UInt8) : Prop :=
  isDeleteHash record = true ∨
    ∃ password, candidate = some password ∧
      (isPwStringValid (some (safeCopyPassword password)) false).1 = true ∧
      record = HashVer1.bytes
        ⟨hashSalt record, derive (safeCopyPassword password).chars (hashSalt record)⟩

/-- The call leaves the stored variable alone, unless a client sets it, and
authenticates only candidates that reproduce the last record set. -/
structure StepSafe (derive : KeyDerivation) (state : StoreState) (call : Call) : Prop where
  keeps : (∀ value write, call ≠ .setPassword value write) →
    (step derive state call).store = state.store
  authenticates : ∀ password read write secondRead services,
    call = .authenticate password read write secondRead services →
    (passwordStoreAuthenticatePassword derive state.store password read write secondRead
      services).1 = true → Reproduces derive password state.lastSet

/-- A failed read cannot replace the record: the write that would is refused, or
writes what is stored already. -/
def DefaultHarmless (state : StoreState) (write : EfiStatus) : Prop :=
  write.isError = true ∨ state.store = some ⟨nullPasswordHash, adminVariableAttrs⟩

/-- The condition on a call: the read it starts with succeeds, or creating the
default record does no harm and, in an authentication, the candidate is the right
one anyway. -/
def Undisturbed (derive : KeyDerivation) (state : StoreState) (call : Call) : Prop :=
  match call with
  | .initializeLib read write => read = none ∨ DefaultHarmless state write
  | .isPasswordSet read write => read = none ∨ DefaultHarmless state write
  | .authenticate password read write _ _ =>
    read = none ∨ DefaultHarmless state write ∧ Reproduces derive password state.lastSet
  | .setPassword _ _ => True

/-- The variable holds the last record set, and the policy accepts it. -/
structure Stored (state : StoreState) : Prop where
  stored : state.store = some ⟨state.lastSet, adminVariableAttrs⟩
  accepted : (validatePasswordHash (some state.lastSet)).isError = false

theorem holding_stored (hash : HashVer1) : Stored (holding hash) :=
  ⟨rfl, by rw [holding, hash.valid]; rfl⟩

/-! ### Each call -/

theorem createDefault_store (store : VariableStore) (write : EfiStatus) :
    (passwordStoreSetPassword store (some nullPasswordHash) write).2 =
      if write.isError then store else some ⟨nullPasswordHash, adminVariableAttrs⟩ := by
  simp only [passwordStoreSetPassword, nullPasswordHash_valid, EfiStatus.isError_success]
  cases write.isError <;> rfl

/-- The default record leaves the variable alone exactly when it is harmless. -/
theorem createDefault_keeps_iff (state : StoreState) (write : EfiStatus) :
    (passwordStoreSetPassword state.store (some nullPasswordHash) write).2 = state.store ↔
      DefaultHarmless state write := by
  rw [createDefault_store, DefaultHarmless]
  cases failed : write.isError with
  | true => simp
  | false => simp [eq_comm]

/-- With a successful read the password counts as set unless the record says
otherwise, and nothing is written. -/
theorem isPasswordSet_read {state : StoreState} (stored : Stored state) (write : EfiStatus) :
    passwordStoreIsPasswordSet state.store none write =
      (!isDeleteHash state.lastSet, state.store) := by
  have found : getVariable3 state.store none =
      ⟨EfiStatus.success, some state.lastSet, state.lastSet.length, adminVariableAttrs⟩ := by
    rw [stored.stored]
    rfl
  have marker : isDeleteHash state.lastSet = true ↔ state.lastSet.take 4 = nullPasswordHash := by
    constructor
    · intro delete
      simp only [isDeleteHash, Bool.and_eq_true, decide_eq_true_eq] at delete
      have length : (state.lastSet.take 4).length = 4 := by
        rw [List.length_take, Nat.min_eq_left delete.1]
      rw [← leBytes_leValue (state.lastSet.take 4), length, delete.2, nullPasswordHash]
    · intro same
      have length := congrArg List.length same
      simp only [List.length_take, nullPasswordHash, leBytes_length] at length
      simp only [isDeleteHash, same, Bool.and_eq_true, decide_eq_true_eq]
      exact ⟨by omega, by decide⟩
  have size : state.lastSet.length = 4 → isDeleteHash state.lastSet = true := by
    intro four
    rcases validatePasswordHash_cases stored.accepted with delete | ⟨-, long⟩
    · exact delete
    · omega
  have nonempty : state.lastSet.length ≠ 0 := by
    intro empty
    have rejected : (validatePasswordHash (some state.lastSet)).isError = true := by
      rw [List.length_eq_zero_iff.mp empty]
      decide
    rw [stored.accepted] at rejected
    cases rejected
  have success : EfiStatus.success ≠ EfiStatus.notFound := by decide
  simp only [passwordStoreIsPasswordSet, found, nonempty, success, or_self, if_false,
    EfiStatus.isError_success, Option.getD_some, Prod.mk.injEq, and_true]
  have width : nullPasswordHash.length = 4 := rfl
  rw [width]
  cases delete : isDeleteHash state.lastSet with
  | true => simp [marker.mp delete]
  | false =>
    have notFour : state.lastSet.length ≠ 4 := fun four => by
      rw [size four] at delete
      cases delete
    have notMarker : state.lastSet.take 4 ≠ nullPasswordHash := fun same => by
      rw [marker.mpr same] at delete
      cases delete
    simp [notFour, notMarker]

/-- After a failed read the password counts as not set, and the default record is
written. -/
theorem isPasswordSet_failed (state : StoreState) (error : ErrorStatus) (write : EfiStatus) :
    passwordStoreIsPasswordSet state.store (some error) write =
      (false, (passwordStoreSetPassword state.store (some nullPasswordHash) write).2) := by
  simp [passwordStoreIsPasswordSet, getVariable3]

theorem initializeLib_read {state : StoreState} (stored : Stored state) (write : EfiStatus) :
    passwordStoreInitializeLib state.store none write = (EfiStatus.success, state.store) := by
  have success : EfiStatus.success ≠ EfiStatus.notFound := by decide
  simp [passwordStoreInitializeLib, stored.stored, getVariable3, success]

/-- After a failed read the attributes are zero, hence wrong, whatever the error. -/
theorem initializeLib_failed (state : StoreState) (error : ErrorStatus) (write : EfiStatus) :
    passwordStoreInitializeLib state.store (some error) write =
      passwordStoreSetPassword state.store (some nullPasswordHash) write := by
  have wrong : (0 : UInt32) ≠ adminVariableAttrs := by decide
  simp [passwordStoreInitializeLib, getVariable3, wrong]

/-- The variable an authentication leaves is the one its first check leaves. -/
theorem authenticate_store (derive : KeyDerivation) (store : VariableStore)
    (password : Option Str16) (read : Option ErrorStatus) (write : EfiStatus)
    (secondRead : Option ErrorStatus) (services : HashServices) :
    (passwordStoreAuthenticatePassword derive store password read write secondRead services).2 =
      (passwordStoreIsPasswordSet store read write).2 := by
  simp only [passwordStoreAuthenticatePassword]
  split
  · rfl
  · split
    · rfl
    · split
      · rfl
      · split
        · rfl
        · split <;> rfl

/-- With a successful first read, only a candidate that reproduces the record is
let in, whether or not the second read succeeds. -/
theorem authenticate_read {derive : KeyDerivation} {state : StoreState} (stored : Stored state)
    {password : Option Str16} {write : EfiStatus} {secondRead : Option ErrorStatus}
    {services : HashServices}
    (granted : (passwordStoreAuthenticatePassword derive state.store password none write secondRead
      services).1 = true) : Reproduces derive password state.lastSet := by
  simp only [passwordStoreAuthenticatePassword, isPasswordSet_read stored write] at granted
  cases delete : isDeleteHash state.lastSet with
  | true => exact Or.inl delete
  | false =>
    rw [delete] at granted
    simp only [Bool.not_false, Bool.not_true, Bool.false_eq_true, if_false] at granted
    split at granted
    · cases granted
    · next string =>
      split at granted
      · cases granted
      · split at granted
        · cases granted
        · next readable =>
          -- a second read that succeeds returns the same record
          have current : (getVariable3 state.store secondRead).data = some state.lastSet := by
            cases secondRead with
            | none => rw [stored.stored]; rfl
            | some error => exact absurd error.property readable
          rw [current] at granted
          split at granted
          · cases granted
          · next generated ok =>
            obtain ⟨valid, shape⟩ := generate_ok ok
            have whole : state.lastSet.length = 74 := by
              rcases validatePasswordHash_cases stored.accepted with marked | ⟨-, length⟩
              · rw [delete] at marked
                cases marked
              · exact length
            have same : state.lastSet = generated := by
              simp only [Option.getD_some, beq_iff_eq] at granted
              rw [← granted, List.take_of_length_le]
              rw [shape, HashVer1.bytes_length, whole]
            exact Or.inr ⟨string, rfl, valid, same.trans shape⟩

/-- After a failed first read every candidate is let in. -/
theorem authenticate_failed (derive : KeyDerivation) (state : StoreState)
    (password : Option Str16) (error : ErrorStatus) (write : EfiStatus)
    (secondRead : Option ErrorStatus) (services : HashServices) :
    (passwordStoreAuthenticatePassword derive state.store password (some error) write secondRead
      services).1 = true := by
  simp [passwordStoreAuthenticatePassword, isPasswordSet_failed]

/-- In a state that holds the last record set, a call is safe exactly when no
read failure disturbs it. -/
theorem stepSafe_iff (derive : KeyDerivation) (state : StoreState) (call : Call)
    (stored : Stored state) : StepSafe derive state call ↔ Undisturbed derive state call := by
  cases call with
  | initializeLib read write =>
    constructor
    · intro safe
      cases read with
      | none => exact Or.inl rfl
      | some error =>
        have kept := safe.keeps fun _ _ same => by cases same
        simp only [step, initializeLib_failed] at kept
        exact Or.inr ((createDefault_keeps_iff state write).mp kept)
    · intro undisturbed
      refine ⟨fun _ => ?_, fun _ _ _ _ _ same => by cases same⟩
      cases read with
      | none => simp only [step, initializeLib_read stored]
      | some error =>
        simp only [step, initializeLib_failed]
        exact (createDefault_keeps_iff state write).mpr (undisturbed.resolve_left (by simp))
  | isPasswordSet read write =>
    constructor
    · intro safe
      cases read with
      | none => exact Or.inl rfl
      | some error =>
        have kept := safe.keeps fun _ _ same => by cases same
        simp only [step, isPasswordSet_failed] at kept
        exact Or.inr ((createDefault_keeps_iff state write).mp kept)
    · intro undisturbed
      refine ⟨fun _ => ?_, fun _ _ _ _ _ same => by cases same⟩
      cases read with
      | none => simp only [step, isPasswordSet_read stored]
      | some error =>
        simp only [step, isPasswordSet_failed]
        exact (createDefault_keeps_iff state write).mpr (undisturbed.resolve_left (by simp))
  | authenticate password read write secondRead services =>
    constructor
    · intro safe
      cases read with
      | none => exact Or.inl rfl
      | some error =>
        have kept := safe.keeps fun _ _ same => by cases same
        simp only [step, authenticate_store, isPasswordSet_failed] at kept
        exact Or.inr ⟨(createDefault_keeps_iff state write).mp kept,
          safe.authenticates _ _ _ _ _ rfl (authenticate_failed derive state password error write
            secondRead services)⟩
    · intro undisturbed
      cases read with
      | none =>
        refine ⟨fun _ => ?_, ?_⟩
        · simp only [step, authenticate_store, isPasswordSet_read stored]
        · rintro _ _ _ _ _ ⟨⟩ granted
          exact authenticate_read stored granted
      | some error =>
        obtain ⟨harmless, right⟩ := undisturbed.resolve_left (by simp)
        refine ⟨fun _ => ?_, ?_⟩
        · simp only [step, authenticate_store, isPasswordSet_failed]
          exact (createDefault_keeps_iff state write).mpr harmless
        · rintro _ _ _ _ _ ⟨⟩ -
          exact right
  | setPassword value write =>
    refine ⟨fun _ => trivial, fun _ => ⟨fun other => absurd rfl (other value write), ?_⟩⟩
    intro _ _ _ _ _ same
    cases same

theorem step_stored (derive : KeyDerivation) (state : StoreState) (call : Call)
    (stored : Stored state) (undisturbed : Undisturbed derive state call) :
    Stored (step derive state call) := by
  have safe := (stepSafe_iff derive state call stored).mpr undisturbed
  cases call with
  | setPassword value write =>
    cases value with
    | none => exact stored
    | some record =>
      cases accepted : (validatePasswordHash (some record)).isError with
      | true =>
        simp only [step, passwordStoreSetPassword, accepted, if_true]
        exact stored
      | false =>
        cases failed : write.isError with
        | true =>
          have aborted : EfiStatus.aborted.isError = true := rfl
          simp only [step, passwordStoreSetPassword, accepted, failed, if_true, aborted,
            Bool.false_eq_true, if_false]
          exact stored
        | false =>
          simp only [step, passwordStoreSetPassword, accepted, failed, Bool.false_eq_true,
            if_false]
          exact ⟨rfl, accepted⟩
  | initializeLib | isPasswordSet | authenticate =>
    have kept := safe.keeps fun _ _ same => by cases same
    exact ⟨kept.trans stored.stored, stored.accepted⟩

/-- Over any run that starts with a version 1 record, every call leaves the
record alone and authenticates only candidates that reproduce the last record
set, exactly when no read failure disturbs a call. -/
theorem run_stepSafe_iff (derive : KeyDerivation) (hash : HashVer1) (calls : List Call) :
    AllSteps (step derive) (StepSafe derive) (holding hash) calls ↔
      AllSteps (step derive) (Undisturbed derive) (holding hash) calls :=
  AllSteps.congr_of_invariant (step_stored derive) (stepSafe_iff derive) (holding_stored hash)

/-- One device error while the store is asked whether a password is set clears
the password. -/
theorem transient_read_error_clears_password :
    ¬ AllSteps (step fun _ _ => Vector.replicate 40 7) (StepSafe fun _ _ => Vector.replicate 40 7)
        (holding ⟨Vector.replicate 32 1, Vector.replicate 40 7⟩)
        [.isPasswordSet (some ⟨EfiStatus.deviceError, rfl⟩) EfiStatus.success] := by
  rintro ⟨first, -⟩
  have kept := first.keeps fun _ _ same => by cases same
  revert kept
  decide

end MuRockchip.Password
