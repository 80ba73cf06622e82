/-
Deriving the secure-boot state (`InitSecureBootVariables` in `AuthVarsDxe.c`).

At start the driver publishes `SetupMode` and `SecureBoot` from what it finds of
the platform key and of `SecureBootEnable`. It reads the key into one byte: an
answer that the buffer is too small means that there is a key, every other answer
that there is none.

* `initSecureBootVariables_failClosed_iff`: the stores and outcomes under which
  the published state is the stored one.
-/
import MuRockchip.Uefi.Status

namespace MuRockchip.AuthVar

/-! ### The driver -/

/-- The variables the driver reads and writes at start. -/
inductive SecureBootVariable where
  | platformKey
  | setupMode
  | secureBootEnable
  | secureBootMode
  | customMode
  deriving DecidableEq, Repr

/-- `SETUP_MODE`, `USER_MODE`. -/
def setupMode : UInt8 := 1
def userMode : UInt8 := 0

def secureBootEnable : UInt8 := 1
def secureBootDisable : UInt8 := 0
def secureBootModeEnable : UInt8 := 1
def secureBootModeDisable : UInt8 := 0
def standardSecureBootMode : UInt8 := 0

def efiVariableNonVolatile : UInt32 := 1
def efiVariableBootserviceAccess : UInt32 := 2
def efiVariableRuntimeAccess : UInt32 := 4

/-- The variable services over states `σ`: a read into one byte answers with a
status and with the byte if it stored one. -/
structure VariableServices (σ : Type) where
  getVariable : SecureBootVariable → σ → (EfiStatus × Option UInt8) × σ
  setVariable : SecureBootVariable → UInt32 → UInt8 → σ → EfiStatus × σ

section

variable {σ : Type} (services : VariableServices σ)

/-- The end of `InitSecureBootVariables`: publish `SecureBoot`, reset `CustomMode`. -/
def publishSecureBoot (mode enable : UInt8) (state : σ) : EfiStatus × σ :=
  let secureBootMode :=
    if enable = secureBootEnable ∧ mode = userMode then secureBootModeEnable
    else secureBootModeDisable
  let (status, state) := services.setVariable .secureBootMode
    (efiVariableRuntimeAccess ||| efiVariableBootserviceAccess) secureBootMode state
  if status.isError then (status, state)
  else
    services.setVariable .customMode (efiVariableNonVolatile ||| efiVariableBootserviceAccess)
      standardSecureBootMode state

/-- `InitSecureBootVariables`. `data` is what the uninitialised `Data` holds. -/
def initSecureBootVariables (pcdSecureBootEnable : Bool) (data : UInt8) (state : σ) :
    EfiStatus × σ :=
  let ((status, read), state) := services.getVariable .platformKey state
  let data := read.getD data
  let mode := if status = EfiStatus.bufferTooSmall then userMode else setupMode
  let (status, state) := services.setVariable .setupMode
    (efiVariableBootserviceAccess ||| efiVariableRuntimeAccess) mode state
  if status.isError then (status, state)
  else
    let ((status, read), state) := services.getVariable .secureBootEnable state
    let data := read.getD data
    if !status.isError then
      publishSecureBoot services mode (if mode = userMode then data else secureBootDisable) state
    else if mode = userMode then
      -- the variable is taken not to exist, and is created with the default
      let enable := if pcdSecureBootEnable then secureBootEnable else secureBootDisable
      let (status, state) := services.setVariable .secureBootEnable
        (efiVariableNonVolatile ||| efiVariableBootserviceAccess) enable state
      if status.isError then (status, state) else publishSecureBoot services mode enable state
    else publishSecureBoot services mode secureBootDisable state

end

/-! ### Stores and outcomes -/

/-- The variable store: whether there is a platform key, the value of
`SecureBootEnable` if it is stored, and what was written so far. -/
structure SecureBootStore where
  platformKey : Bool
  secureBootEnable : Option UInt8
  published : List (SecureBootVariable × UInt8)
  deriving DecidableEq, Repr

/-- The store the driver finds. -/
def SecureBootStore.found (platformKey : Bool) (secureBootEnable : Option UInt8) :
    SecureBootStore :=
  ⟨platformKey, secureBootEnable, []⟩

/-- A write that succeeds. -/
def SecureBootStore.write (store : SecureBootStore) (name : SecureBootVariable) (value : UInt8) :
    SecureBootStore where
  platformKey := store.platformKey
  secureBootEnable := if name = .secureBootEnable then some value else store.secureBootEnable
  published := store.published ++ [(name, value)]

/-- The outcomes of the reads and writes: an error, or none for success. A read
that succeeds returns the stored byte, and `unstored` where there is none. -/
structure InitOutcomes where
  read : SecureBootVariable → Option ErrorStatus
  write : SecureBootVariable → Option ErrorStatus
  unstored : UInt8

/-- The services whose calls end as the outcomes say. -/
def outcomeServices (outcomes : InitOutcomes) : VariableServices SecureBootStore where
  getVariable name store :=
    match outcomes.read name with
    | some error => ((error.val, none), store)
    | none =>
      ((EfiStatus.success, some (if name = .secureBootEnable then
        store.secureBootEnable.getD outcomes.unstored else outcomes.unstored)), store)
  setVariable name _ value store :=
    match outcomes.write name with
    | some error => (error.val, store)
    | none => (EfiStatus.success, store.write name value)

/-- The published state is the stored one, and no failed read counts as an absent
variable. -/
structure FailClosed (before : SecureBootStore) (outcomes : InitOutcomes)
    (after : SecureBootStore) : Prop where
  userMode : before.platformKey = true → (.setupMode, userMode) ∈ after.published
  setupMode : (.setupMode, setupMode) ∈ after.published → before.platformKey = false
  secureBoot : (.setupMode, AuthVar.userMode) ∈ after.published →
    ∀ value, before.secureBootEnable = some value →
      ((.secureBootMode, secureBootModeEnable) ∈ after.published ↔
        value = AuthVar.secureBootEnable) ∧
      ∀ other, (.secureBootEnable, other) ∉ after.published
  platformKeyRead : ∀ error, outcomes.read .platformKey = some error →
    error.val ≠ EfiStatus.notFound → (.setupMode, AuthVar.setupMode) ∉ after.published
  secureBootEnableRead : ∀ error, outcomes.read .secureBootEnable = some error →
    error.val ≠ EfiStatus.notFound → (.setupMode, AuthVar.userMode) ∈ after.published →
      ∀ value, (.secureBootEnable, value) ∉ after.published

def InitOutcomes.pkPresent (outcomes : InitOutcomes) : Prop :=
  ∃ error ∈ outcomes.read .platformKey, error.val = EfiStatus.bufferTooSmall

/-- One of the writes the driver attempts fails. -/
def InitOutcomes.writeFails (outcomes : InitOutcomes) : Prop :=
  (outcomes.write .setupMode).isSome ∨
    (outcomes.pkPresent ∧ (outcomes.read .secureBootEnable).isSome ∧
      (outcomes.write .secureBootEnable).isSome) ∨
    (outcomes.write .secureBootMode).isSome ∨ (outcomes.write .customMode).isSome

/-- The reads that decide the state tell the truth: the platform key is taken to be
absent only where it is and the read says so, and in user mode the same holds of
`SecureBootEnable`. -/
structure ReadsTrue (before : SecureBootStore) (outcomes : InitOutcomes) : Prop where
  platformKey : ¬outcomes.pkPresent → before.platformKey = false ∧
    ∀ error ∈ outcomes.read .platformKey, error.val = EfiStatus.notFound
  secureBootEnable : outcomes.pkPresent → ∀ error ∈ outcomes.read .secureBootEnable,
    before.secureBootEnable = none ∧ error.val = EfiStatus.notFound

/-! ### What is published -/

section

variable {outcomes : InitOutcomes}

/-- What `SecureBoot` is published as for a value of `SecureBootEnable`. -/
def secureBootModeOf (mode enable : UInt8) : UInt8 :=
  if enable = secureBootEnable ∧ mode = userMode then secureBootModeEnable
  else secureBootModeDisable

/-- The last two writes. -/
def SecureBootStore.publish (store : SecureBootStore) (mode enable : UInt8) : SecureBootStore :=
  (store.write .secureBootMode (secureBootModeOf mode enable)).write .customMode
    standardSecureBootMode

theorem publishSecureBoot_done (first : outcomes.write .secureBootMode = none)
    (second : outcomes.write .customMode = none) (mode enable : UInt8) (store : SecureBootStore) :
    publishSecureBoot (outcomeServices outcomes) mode enable store =
      (EfiStatus.success, store.publish mode enable) := by
  simp only [publishSecureBoot, outcomeServices, first, second, EfiStatus.isError_success,
    Bool.false_eq_true, if_false]
  rfl

theorem publishSecureBoot_fails (fails : (outcomes.write .secureBootMode).isSome = true ∨
      (outcomes.write .customMode).isSome = true) (mode enable : UInt8) (store : SecureBootStore) :
    (publishSecureBoot (outcomeServices outcomes) mode enable store).1.isError = true := by
  cases first : outcomes.write .secureBootMode with
  | some error =>
    simp only [publishSecureBoot, outcomeServices, first, error.property, if_true]
  | none =>
    cases second : outcomes.write .customMode with
    | some error =>
      simp only [publishSecureBoot, outcomeServices, first, second, EfiStatus.isError_success,
        Bool.false_eq_true, if_false, error.property]
    | none => simp [first, second] at fails

def InitOutcomes.mode (outcomes : InitOutcomes) : UInt8 :=
  match outcomes.read .platformKey with
  | some error => if error.val = EfiStatus.bufferTooSmall then userMode else setupMode
  | none => setupMode

theorem mode_of_present (present : outcomes.pkPresent) : outcomes.mode = userMode := by
  obtain ⟨error, read, short⟩ := present
  rw [InitOutcomes.mode, show outcomes.read .platformKey = some error from read]
  exact if_pos short

theorem mode_of_absent (absent : ¬outcomes.pkPresent) : outcomes.mode = setupMode := by
  unfold InitOutcomes.mode
  split
  · rename_i error read
    exact if_neg fun short => absent ⟨error, read, short⟩
  · rfl

/-- What is written to `SecureBootEnable` in user mode when its read fails. -/
def defaultEnable (pcdSecureBootEnable : Bool) : UInt8 :=
  if pcdSecureBootEnable then secureBootEnable else secureBootDisable

/-- The driver after `SetupMode` is published. -/
theorem initSecureBootVariables_eq (written : outcomes.write .setupMode = none)
    (pcdSecureBootEnable : Bool) (data : UInt8) (store : SecureBootStore) :
    initSecureBootVariables (outcomeServices outcomes) pcdSecureBootEnable data store =
      match outcomes.read .secureBootEnable with
      | none => publishSecureBoot (outcomeServices outcomes) outcomes.mode
          (if outcomes.mode = userMode then store.secureBootEnable.getD outcomes.unstored
            else secureBootDisable) (store.write .setupMode outcomes.mode)
      | some _ =>
        if outcomes.mode = userMode then
          match outcomes.write .secureBootEnable with
          | some error => (error.val, store.write .setupMode outcomes.mode)
          | none => publishSecureBoot (outcomeServices outcomes) outcomes.mode
              (defaultEnable pcdSecureBootEnable)
              ((store.write .setupMode outcomes.mode).write .secureBootEnable
                (defaultEnable pcdSecureBootEnable))
        else publishSecureBoot (outcomeServices outcomes) outcomes.mode secureBootDisable
          (store.write .setupMode outcomes.mode) := by
  have derived : (if ((outcomeServices outcomes).getVariable .platformKey store).1.1 =
      EfiStatus.bufferTooSmall then userMode else setupMode) = outcomes.mode := by
    cases key : outcomes.read .platformKey with
    | some error => simp only [InitOutcomes.mode, outcomeServices, key]
    | none =>
      simp only [InitOutcomes.mode, outcomeServices, key]
      rfl
  have kept : ((outcomeServices outcomes).getVariable .platformKey store).2 = store := by
    cases key : outcomes.read .platformKey <;> simp only [outcomeServices, key]
  unfold initSecureBootVariables
  dsimp only
  rw [derived, kept]
  generalize outcomes.mode = mode
  cases read : outcomes.read .secureBootEnable with
  | none =>
    simp only [outcomeServices, written, read, EfiStatus.isError_success, Bool.false_eq_true,
      if_false, Bool.not_false, if_true, Option.getD_some]
    rfl
  | some error =>
    simp only [outcomeServices, written, read, EfiStatus.isError_success, Bool.false_eq_true,
      if_false, error.property, Bool.not_true]
    split
    · cases write : outcomes.write .secureBootEnable with
      | none =>
        simp only [EfiStatus.isError_success, Bool.false_eq_true, if_false]
        rfl
      | some failure => simp only [failure.property, if_true]
    · rfl

theorem initSecureBootVariables_fails (fails : outcomes.writeFails) (pcdSecureBootEnable : Bool)
    (data : UInt8) (store : SecureBootStore) :
    (initSecureBootVariables (outcomeServices outcomes) pcdSecureBootEnable data store).1.isError
      = true := by
  cases written : outcomes.write .setupMode with
  | some error =>
    simp only [initSecureBootVariables, outcomeServices, written, error.property, if_true]
  | none =>
    rw [initSecureBootVariables_eq written]
    rcases fails with first | ⟨present, read, write⟩ | last
    · rw [written] at first
      cases first
    · obtain ⟨error, read⟩ := Option.isSome_iff_exists.mp read
      obtain ⟨failure, write⟩ := Option.isSome_iff_exists.mp write
      rw [read, write, mode_of_present present]
      exact failure.property
    · split
      · exact publishSecureBoot_fails last _ _ _
      split
      · split
        · rename_i failure _
          exact failure.property
        · exact publishSecureBoot_fails last _ _ _
      · exact publishSecureBoot_fails last _ _ _

/-- Without a failed write the driver succeeds, having written `SetupMode`, in user
mode a default for a `SecureBootEnable` it could not read, `SecureBoot` and
`CustomMode`. -/
theorem initSecureBootVariables_done (succeeds : ¬outcomes.writeFails)
    (pcdSecureBootEnable : Bool) (data : UInt8) (store : SecureBootStore) :
    initSecureBootVariables (outcomeServices outcomes) pcdSecureBootEnable data store =
      (EfiStatus.success,
        match outcomes.read .secureBootEnable with
        | none => (store.write .setupMode outcomes.mode).publish outcomes.mode
            (if outcomes.mode = userMode then store.secureBootEnable.getD outcomes.unstored
              else secureBootDisable)
        | some _ =>
          if outcomes.mode = userMode then
            ((store.write .setupMode outcomes.mode).write .secureBootEnable
              (defaultEnable pcdSecureBootEnable)).publish outcomes.mode
                (defaultEnable pcdSecureBootEnable)
          else (store.write .setupMode outcomes.mode).publish outcomes.mode secureBootDisable) := by
  unfold InitOutcomes.writeFails at succeeds
  simp only [not_or, Option.not_isSome_iff_eq_none] at succeeds
  obtain ⟨written, enabled, first, second⟩ := succeeds
  rw [initSecureBootVariables_eq written]
  split
  · exact publishSecureBoot_done first second _ _ _
  · rename_i error read
    by_cases present : outcomes.pkPresent
    · rw [mode_of_present present, if_pos rfl, if_pos rfl]
      cases kept : outcomes.write .secureBootEnable with
      | some failure => exact absurd ⟨present, by rw [read]; rfl, by rw [kept]; rfl⟩ enabled
      | none => exact publishSecureBoot_done first second _ _ _
    · rw [mode_of_absent present, if_neg (by decide), if_neg (by decide)]
      exact publishSecureBoot_done first second _ _ _

end

/-! ### Membership -/

section

variable (platformKey : Bool) (enable : Option UInt8) (mode value : UInt8)

/-- The writes of a driver that leaves `SecureBootEnable` alone. -/
theorem published_kept :
    (((SecureBootStore.found platformKey enable).write .setupMode mode).publish mode
      value).published =
    [(.setupMode, mode), (.secureBootMode, secureBootModeOf mode value),
      (.customMode, standardSecureBootMode)] := rfl

/-- The writes of a driver that creates `SecureBootEnable`. -/
theorem published_created :
    ((((SecureBootStore.found platformKey enable).write .setupMode mode).write .secureBootEnable
      value).publish mode value).published =
    [(.setupMode, mode), (.secureBootEnable, value),
      (.secureBootMode, secureBootModeOf mode value), (.customMode, standardSecureBootMode)] := rfl

theorem userMode_ne_setupMode : userMode ≠ setupMode := by decide

theorem secureBootModeOf_userMode :
    secureBootModeEnable = secureBootModeOf userMode value ↔ value = secureBootEnable := by
  unfold secureBootModeOf
  by_cases enabled : value = secureBootEnable
  · simp [enabled]
  · simp only [enabled, false_and, if_false, iff_false]
    decide

end

section

variable {outcomes : InitOutcomes} {platformKey : Bool} {enable : Option UInt8}

/-- In user mode with `SecureBootEnable` read, its value decides. -/
theorem failClosed_kept (present : outcomes.pkPresent)
    (read : outcomes.read .secureBootEnable = none) :
    FailClosed (.found platformKey enable) outcomes
        (((SecureBootStore.found platformKey enable).write .setupMode userMode).publish userMode
          (enable.getD outcomes.unstored)) ↔
      ReadsTrue (.found platformKey enable) outcomes := by
  refine ⟨fun _ => ⟨fun absent => absurd present absent, by simp [read]⟩, fun _ => ?_⟩
  constructor <;> rw [published_kept]
  · simp
  · simp [userMode_ne_setupMode.symm]
  · intro _ value stored
    rw [show enable = some value from stored]
    simp [secureBootModeOf_userMode]
  · simp [userMode_ne_setupMode.symm]
  · simp [read]

/-- In user mode with `SecureBootEnable` not read, it is created with a default,
which must be because there is none. -/
theorem failClosed_created (present : outcomes.pkPresent) {error : ErrorStatus}
    (read : outcomes.read .secureBootEnable = some error) (byDefault : UInt8) :
    FailClosed (.found platformKey enable) outcomes
        ((((SecureBootStore.found platformKey enable).write .setupMode userMode).write
          .secureBootEnable byDefault).publish userMode byDefault) ↔
      ReadsTrue (.found platformKey enable) outcomes := by
  constructor
  · intro closed
    refine ⟨fun absent => absurd present absent, fun _ other same => ?_⟩
    cases read.symm.trans same
    have secureBoot := closed.secureBoot
    have failed := closed.secureBootEnableRead error read
    rw [published_created] at secureBoot failed
    constructor
    · cases stored : enable with
      | none => rfl
      | some value =>
        have untouched := (secureBoot List.mem_cons_self value stored).2 byDefault
        exact absurd (List.mem_cons_of_mem _ List.mem_cons_self) untouched
    · apply Decidable.byContradiction
      intro different
      exact failed different List.mem_cons_self byDefault
        (List.mem_cons_of_mem _ List.mem_cons_self)
  · intro told
    obtain ⟨unstored, notFound⟩ := told.secureBootEnable present error read
    constructor <;> rw [published_created]
    · simp
    · simp [userMode_ne_setupMode.symm]
    · intro _ value stored
      cases unstored.symm.trans stored
    · simp [userMode_ne_setupMode.symm]
    · intro other same different
      cases read.symm.trans same
      exact absurd notFound different

theorem failClosed_setup (absent : ¬outcomes.pkPresent) :
    FailClosed (.found platformKey enable) outcomes
        (((SecureBootStore.found platformKey enable).write .setupMode setupMode).publish setupMode
          secureBootDisable) ↔
      ReadsTrue (.found platformKey enable) outcomes := by
  constructor
  · intro closed
    have noKey := closed.setupMode
    have failed := closed.platformKeyRead
    rw [published_kept] at noKey failed
    refine ⟨fun _ => ⟨noKey List.mem_cons_self, fun error read => ?_⟩,
      fun present => absurd present absent⟩
    apply Decidable.byContradiction
    intro different
    exact failed error read different List.mem_cons_self
  · intro told
    obtain ⟨noKey, notFound⟩ := told.platformKey absent
    constructor <;> rw [published_kept]
    · intro key
      cases noKey.symm.trans key
    · exact fun _ => noKey
    · simp [userMode_ne_setupMode]
    · intro error read different
      exact absurd (notFound error read) different
    · simp [userMode_ne_setupMode]

end

/-- The driver fails, or publishes what is stored, exactly if a write it attempts
fails or the reads that decide the state tell the truth. -/
theorem initSecureBootVariables_failClosed_iff (outcomes : InitOutcomes)
    (pcdSecureBootEnable : Bool) (data : UInt8) (platformKey : Bool) (enable : Option UInt8) :
    let before := SecureBootStore.found platformKey enable
    let result :=
      initSecureBootVariables (outcomeServices outcomes) pcdSecureBootEnable data before
    (result.1 = EfiStatus.success → FailClosed before outcomes result.2) ↔
      outcomes.writeFails ∨ ReadsTrue before outcomes := by
  dsimp only
  by_cases fails : outcomes.writeFails
  · have failed := initSecureBootVariables_fails fails pcdSecureBootEnable data
      (SecureBootStore.found platformKey enable)
    refine ⟨fun _ => .inl fails, fun _ success => ?_⟩
    rw [success] at failed
    cases failed
  rw [initSecureBootVariables_done fails]
  simp only [fails, false_or, true_implies]
  by_cases present : outcomes.pkPresent
  · rw [mode_of_present present, if_pos rfl, if_pos rfl]
    split
    · rename_i read
      exact failClosed_kept present read
    · rename_i error read
      exact failClosed_created present read _
  · rw [mode_of_absent present, if_neg userMode_ne_setupMode.symm,
      if_neg userMode_ne_setupMode.symm]
    split
    · exact failClosed_setup present
    · exact failClosed_setup present

/-- A store with a platform key whose read fails in the secure world; everything
else succeeds. -/
def unreadableKey : InitOutcomes where
  read name := if name = .platformKey then some ⟨EfiStatus.protocolError, by decide⟩ else none
  write _ := none
  unstored := 0

/-- A platform that cannot read its platform key enters setup mode, with secure
boot off. -/
theorem unreadable_key_enters_setup_mode :
    ¬((initSecureBootVariables (outcomeServices unreadableKey) true 0
          (.found true (some secureBootEnable))).1 = EfiStatus.success →
      FailClosed (.found true (some secureBootEnable)) unreadableKey
        (initSecureBootVariables (outcomeServices unreadableKey) true 0
          (.found true (some secureBootEnable))).2) := by
  intro closed
  have succeeded : (initSecureBootVariables (outcomeServices unreadableKey) true 0
      (.found true (some secureBootEnable))).1 = EfiStatus.success := by rfl
  have absent : true = false := (closed succeeded).setupMode (by decide)
  cases absent

end MuRockchip.AuthVar
