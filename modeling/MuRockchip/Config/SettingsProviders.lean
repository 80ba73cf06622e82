/-
The boot manager's settings behind their providers (`BootManagerSettings.c`).

The configuration interface reaches each setting through a provider, and all providers share
one record. An access reads the whole record and writes it back with one byte changed. At every
boot the record is checked.

* `initializeNvVariable_accepted`: a boot whose services answer leaves a record that later
  boots accept.
* `settings_readBack`: from such a boot on, whatever the order of the accesses and the boots
  and whichever of the accesses fail, every provider reads what its setting was last set to
  with success.
-/
import MuRockchip.Base.LastRequest
import MuRockchip.Config.SettingsSurvival

namespace MuRockchip.Config

open Base

/-! ### The providers -/

/-- How the services answer an access, and what is on the stack. -/
structure AccessAnswers where
  read : Option ReadFailure
  write : Option ErrorStatus
  stack : Nat → UInt8

/-- A `DFCI_SETTING_PROVIDER`, by its `Id`: none where it is not that of a setting. -/
abbrev SettingProvider := Option Setting

section

variable (format : SettingsFormat) (pcd : Setting → UInt8)

def getBootManagerSettingDefault : Option Setting → Except EfiStatus UInt8
  | none => .error EfiStatus.unsupported
  | some setting => .ok (pcd setting)

def bootManagerSettingsSet (store : SettingsStore) (answers : AccessAnswers)
    (this : Option SettingProvider) (valueSize : UInt64) (value : Option UInt8)
    (flagsGiven : Bool) : SetOutcome :=
  match this, value with
  | some id, some value =>
    if flagsGiven ∧ valueSize = 1 then
      setBootManagerSetting format store answers.read answers.write answers.stack id value
        flagsGiven
    else ⟨EfiStatus.invalidParameter, none, store, false⟩
  | _, _ => ⟨EfiStatus.invalidParameter, none, store, false⟩

def bootManagerSettingsGet (store : SettingsStore) (answers : AccessAnswers)
    (this : Option SettingProvider) (valueSize : Option UInt64) (valueGiven : Bool) :
    EfiStatus × Option Nat :=
  match this, valueSize with
  | some id, some valueSize =>
    if valueGiven ∧ valueSize = 1 then
      getBootManagerSetting format pcd store answers.read answers.stack id
    else (EfiStatus.invalidParameter, none)
  | _, _ => (EfiStatus.invalidParameter, none)

def bootManagerSettingsGetDefault (this : Option SettingProvider) (valueSize : Option UInt64)
    (valueGiven : Bool) : EfiStatus × Option Nat :=
  match this, valueSize with
  | some id, some valueSize =>
    if valueGiven ∧ valueSize = 1 then
      match getBootManagerSettingDefault pcd id with
      | .error status => (status, none)
      | .ok value => (EfiStatus.success, some value.toNat)
    else (EfiStatus.invalidParameter, none)
  | _, _ => (EfiStatus.invalidParameter, none)

def bootManagerSettingsSetDefault (store : SettingsStore) (answers : AccessAnswers)
    (this : Option SettingProvider) : SetOutcome :=
  match this with
  | none => ⟨EfiStatus.invalidParameter, none, store, false⟩
  | some id =>
    match getBootManagerSettingDefault pcd id with
    | .error _ => ⟨EfiStatus.invalidParameter, none, store, false⟩
    | .ok value =>
      setBootManagerSetting format store answers.read answers.write answers.stack id value true

/-! ### Runs -/

/-- What reaches the record: the members of a provider, and the boots. -/
inductive SettingsCall
  | set (this : Option SettingProvider) (valueSize : UInt64) (value : Option UInt8)
    (flagsGiven : Bool) (answers : AccessAnswers)
  | get (this : Option SettingProvider) (valueSize : Option UInt64) (valueGiven : Bool)
    (answers : AccessAnswers)
  | getDefault (this : Option SettingProvider) (valueSize : Option UInt64) (valueGiven : Bool)
  | setDefault (this : Option SettingProvider) (answers : AccessAnswers)
  | boot (answers : InitAnswers) (stack : Nat → UInt8)

/-- A boot whose read of the record fails replaces the record by the defaults. -/
def SettingsCall.Admitted : SettingsCall → Prop
  | .boot answers _ => answers.read = none
  | _ => True

/-- The status of a call and the value it gives, and the record after it. -/
def serveSettings (store : SettingsStore) :
    SettingsCall → (EfiStatus × Option Nat) × SettingsStore
  | .set this valueSize value flagsGiven answers =>
    let outcome := bootManagerSettingsSet format store answers this valueSize value flagsGiven
    ((outcome.status, none), outcome.store)
  | .get this valueSize valueGiven answers =>
    (bootManagerSettingsGet format pcd store answers this valueSize valueGiven, store)
  | .getDefault this valueSize valueGiven =>
    (bootManagerSettingsGetDefault pcd this valueSize valueGiven, store)
  | .setDefault this answers =>
    let outcome := bootManagerSettingsSetDefault format pcd store answers this
    ((outcome.status, none), outcome.store)
  | .boot answers stack =>
    let booted := initializeNvVariable format pcd answers stack store
    ((booted.1, none), booted.2)

def setTo (setting : Setting) : SettingsCall × (EfiStatus × Option Nat) → Option Nat
  | (.set (some (some other)) _ (some value) _ _, status, _) =>
    if other = setting ∧ status = EfiStatus.success then some value.toNat else none
  | (.setDefault (some (some other)) _, status, _) =>
    if other = setting ∧ status = EfiStatus.success then some (pcd setting).toNat else none
  | _ => none

/-! ### Records that boots accept -/

/-- A record that a boot leaves as it is. -/
structure Accepted (stored : SettingsVariable) : Prop where
  whole : stored.data.length = format.size
  attributes : stored.attributes = format.attributes
  signature : stored.field format .signature = format.signature
  version : stored.field format .version < format.version1 ∨
    format.version3 ≤ stored.field format .version

/-- There is a record, and it is accepted. -/
def AcceptedStore (store : SettingsStore) : Prop :=
  ∃ stored, store = some stored ∧ Accepted format stored

/-- What a setting is in the record, if there is one. -/
def settingIn (store : SettingsStore) (setting : Setting) : Nat :=
  match store with
  | none => (pcd setting).toNat
  | some stored => stored.field format (.setting setting)

/-- After some calls every provider reads what its setting was last set to with success. -/
structure SettingsReadBack (before : SettingsVariable)
    (log : List (SettingsCall × (EfiStatus × Option Nat))) (after : SettingsStore) : Prop where
  accepted : AcceptedStore format after
  reads : ∀ setting answers, answers.read = none →
    bootManagerSettingsGet format pcd after answers (some (some setting)) (some 1) true =
      (EfiStatus.success,
        some ((lastRequest (setTo pcd setting) log).getD
          (before.field format (.setting setting))))
  /-- Where the record cannot be read, the default stands in for it. -/
  defaults : ∀ setting answers, answers.read.isSome →
    bootManagerSettingsGet format pcd after answers (some (some setting)) (some 1) true =
      (EfiStatus.success, some (pcd setting).toNat)

end

section

variable {format : SettingsFormat} {pcd : Setting → UInt8} {stored : SettingsVariable}

/-! ### Accesses -/

theorem getVariable_accepted (accepted : Accepted format stored) :
    getVariable (some stored) none format.size = .ok stored := by
  rw [getVariable, if_pos accepted.whole.le]

theorem Accepted.get_load (accepted : Accepted format stored) (stack : Nat → UInt8)
    (field : SettingsField) :
    format.get (load stack stored.data) field = stored.field format field :=
  get_load_congr accepted.whole.ge _ _ field

variable {answers : AccessAnswers} {value : UInt8} {outcome : SetOutcome}

/-- A provider reads its setting from the record. -/
theorem bootManagerSettingsGet_accepted (accepted : Accepted format stored) (setting : Setting)
    (read : answers.read = none) :
    bootManagerSettingsGet format pcd (some stored) answers (some (some setting)) (some 1) true =
      (EfiStatus.success, some (stored.field format (.setting setting))) := by
  simp only [bootManagerSettingsGet, getBootManagerSetting, read, getVariable_accepted accepted,
    accepted.get_load]
  rfl

theorem bootManagerSettingsGet_failed (store : SettingsStore) (setting : Setting)
    (read : answers.read.isSome) :
    bootManagerSettingsGet format pcd store answers (some (some setting)) (some 1) true =
      (EfiStatus.success, some (pcd setting).toNat) := by
  obtain ⟨failure, failed⟩ := Option.isSome_iff_exists.mp read
  simp only [bootManagerSettingsGet, getBootManagerSetting, failed, getVariable]
  rfl

/-- The record after a setting was written back. -/
def SettingsVariable.withSetting (format : SettingsFormat) (stack : Nat → UInt8)
    (stored : SettingsVariable) (setting : Setting) (value : UInt8) : SettingsVariable :=
  ⟨format.attributes,
    format.saved (format.set (load stack stored.data) (.setting setting) value.toNat)⟩

theorem field_withSetting_other (accepted : Accepted format stored) {stack : Nat → UInt8}
    {setting : Setting} {field : SettingsField} (different : field ≠ .setting setting) :
    (stored.withSetting format stack setting value).field format field =
      stored.field format field := by
  rw [SettingsVariable.withSetting, field_saved, get_set_other different, accepted.get_load]

theorem field_withSetting_same {stack : Nat → UInt8} {setting : Setting} :
    (stored.withSetting format stack setting value).field format (.setting setting) =
      value.toNat := by
  rw [SettingsVariable.withSetting, field_saved]
  refine get_set_same ?_
  rw [format.oneByte]
  exact value.toNat_lt

theorem accepted_withSetting (accepted : Accepted format stored) (stack : Nat → UInt8)
    (setting : Setting) (value : UInt8) :
    Accepted format (stored.withSetting format stack setting value) where
  whole := saved_length _
  attributes := rfl
  signature := by
    rw [field_withSetting_other accepted (by simp)]
    exact accepted.signature
  version := by
    rw [field_withSetting_other accepted (by simp)]
    exact accepted.version

/-- A set that succeeds sets its setting, and one that fails sets nothing. -/
structure SetsOnly (format : SettingsFormat) (pcd : Setting → UInt8) (stored : SettingsVariable)
    (setting : Option Setting) (value : UInt8) (outcome : SetOutcome) : Prop where
  accepted : AcceptedStore format outcome.store
  sets : ∀ other, settingIn format pcd outcome.store other =
    if setting = some other ∧ outcome.status = EfiStatus.success then value.toNat
    else stored.field format (.setting other)

theorem SetsOnly.refused (accepted : Accepted format stored) {setting : Option Setting}
    (same : outcome.store = some stored) (failed : outcome.status.isError = true) :
    SetsOnly format pcd stored setting value outcome where
  accepted := ⟨stored, same, accepted⟩
  sets other := by
    have unsuccessful : outcome.status ≠ EfiStatus.success := by
      intro success
      rw [success] at failed
      exact absurd failed (by decide)
    rw [if_neg fun both => unsuccessful both.2, same, settingIn]

theorem SetsOnly.getD {id : Option Setting} (sets : SetsOnly format pcd stored id value outcome)
    (setting : Setting) {valueSize : UInt64} {flagsGiven : Bool} :
    settingIn format pcd outcome.store setting =
      (setTo pcd setting
        (.set (some id) valueSize (some value) flagsGiven answers, (outcome.status, none))).getD
          (stored.field format (.setting setting)) := by
  rw [sets.sets setting]
  cases id with
  | none => exact if_neg fun both => nomatch both.1
  | some other =>
    simp only [setTo, Option.some.injEq]
    split <;> rfl

theorem setBootManagerSetting_setsOnly (accepted : Accepted format stored)
    (read : Option ReadFailure) (write : Option ErrorStatus) (stack : Nat → UInt8)
    (id : Option Setting) (value : UInt8) (flagsGiven : Bool) :
    SetsOnly format pcd stored id value
      (setBootManagerSetting format (some stored) read write stack id value flagsGiven) := by
  unfold setBootManagerSetting
  split
  · exact .refused accepted rfl rfl
  cases id with
  | none => exact .refused accepted rfl rfl
  | some setting =>
    cases read with
    | some failure => exact .refused accepted rfl failure.property.1
    | none =>
      simp only [getVariable_accepted accepted, accepted.get_load]
      split
      · cases write with
        | some failure => exact .refused accepted rfl failure.property
        | none =>
          -- the write goes through: the attributes are those of the record
          have written : setVariable (some stored) none format.attributes
              (format.saved (format.set (load stack stored.data) (.setting setting) value.toNat)) =
                (EfiStatus.success, some (stored.withSetting format stack setting value)) := by
            rw [setVariable, if_pos accepted.attributes]
            rfl
          simp only [written]
          refine ⟨⟨_, rfl, accepted_withSetting accepted stack setting value⟩, fun other => ?_⟩
          by_cases same : setting = other
          · subst same
            rw [if_pos ⟨rfl, rfl⟩]
            exact field_withSetting_same
          · rw [if_neg fun both => same (Option.some.inj both.1)]
            refine field_withSetting_other accepted fun named => same ?_
            exact (SettingsField.setting.inj named).symm
      · rename_i already
        rw [not_not] at already
        refine ⟨⟨stored, rfl, accepted⟩, fun other => ?_⟩
        by_cases same : setting = other
        · subst same
          rw [if_pos ⟨rfl, rfl⟩]
          exact already
        · rw [if_neg fun both => same (Option.some.inj both.1)]
          rfl

/-! ### Boots -/

theorem initializeNvVariable_keeps (accepted : Accepted format stored) (answers : InitAnswers)
    (stack : Nat → UInt8) (read : answers.read = none) :
    initializeNvVariable format pcd answers stack (some stored) =
      (EfiStatus.success, some stored) := by
  have opened : getVariable (some stored) answers.read format.size = .ok stored := by
    rw [read, getVariable_accepted accepted]
  have current : ¬ (format.version1 ≤ stored.field format .version ∧
      stored.field format .version < format.version3) := by
    have versions := accepted.version
    omega
  have checked : checkVariable format pcd answers stack stored =
      (EfiStatus.success, some stored) := by
    simp only [checkVariable, accepted.get_load]
    rw [if_neg (not_not.mpr accepted.whole), if_neg, if_neg (not_not.mpr accepted.attributes),
      if_neg (not_not.mpr accepted.signature), if_neg current]
    rintro ⟨-, runtime⟩
    exact attributes_ne_runtime (accepted.attributes.symm.trans runtime)
  simp only [initializeNvVariable, opened, checked]
  rfl

theorem accepted_saved {settings : Nat → UInt8}
    (signature : format.get settings .signature = format.signature)
    (version : format.get settings .version < format.version1 ∨
      format.version3 ≤ format.get settings .version) :
    Accepted format ⟨format.attributes, format.saved settings⟩ where
  whole := saved_length settings
  attributes := rfl
  signature := by rw [field_saved, signature]
  version := by rwa [field_saved]

theorem accepted_defaults :
    Accepted format ⟨format.attributes, format.saved (defaults format pcd)⟩ := by
  refine accepted_saved defaults_signature (.inl ?_)
  rw [defaults_version]
  exact format.version1_pos

theorem writeDefaults_answered {status : EfiStatus} {store : SettingsStore}
    (absent : status = EfiStatus.notFound → store = none) :
    writeDefaults format pcd ⟨none, none, none⟩ status store =
      (EfiStatus.success, some ⟨format.attributes, format.saved (defaults format pcd)⟩) := by
  rw [writeDefaults]
  by_cases missing : status = EfiStatus.notFound
  · rw [if_neg (not_not.mpr missing), absent missing]
    rfl
  · rw [if_pos missing]
    cases store <;> rfl

/-- A record that was read is compromised, or is accepted once it is up to date. -/
theorem checkVariable_answered (stack : Nat → UInt8) (stored : SettingsVariable) :
    checkVariable format pcd ⟨none, none, none⟩ stack stored = (compromisedData, some stored) ∨
      ∃ after, checkVariable format pcd ⟨none, none, none⟩ stack stored =
        (EfiStatus.success, some after) ∧ Accepted format after := by
  simp only [checkVariable]
  split
  · exact .inl rfl
  rename_i whole
  rw [not_not] at whole
  split
  · refine .inr ⟨_, rfl, accepted_saved (convertOld_signature ..) (.inr ?_)⟩
    exact (convertOld_version ..).ge
  split
  · exact .inl rfl
  rename_i attributes
  rw [not_not] at attributes
  split
  · exact .inl rfl
  rename_i signature
  rw [not_not] at signature
  split
  · right
    rw [setVariable, if_pos attributes]
    refine ⟨_, rfl, accepted_saved ?_ (.inr (upgrade_version ..).ge)⟩
    exact (upgrade_signature ..).trans signature
  · rename_i version
    have same : ∀ field, format.get (load stack stored.data) field = stored.field format field :=
      get_load_congr whole.ge _ _
    rw [same] at signature version
    exact .inr ⟨stored, rfl, whole, attributes, signature, by omega⟩

/-- A boot whose services answer leaves a record that is accepted. -/
theorem initializeNvVariable_accepted (store : SettingsStore) (stack : Nat → UInt8) :
    ∃ after, initializeNvVariable format pcd ⟨none, none, none⟩ stack store =
      (EfiStatus.success, some after) ∧ Accepted format after := by
  rw [initializeNvVariable]
  cases opened : getVariable store none format.size with
  | error status =>
    obtain ⟨failed, absent⟩ := getVariable_error opened
    refine ⟨⟨format.attributes, format.saved (defaults format pcd)⟩, ?_, accepted_defaults⟩
    simp only [failed, if_true]
    exact writeDefaults_answered absent
  | ok stored =>
    simp only
    rcases @checkVariable_answered format pcd stack stored with
      compromised | ⟨after, checked, accepted⟩
    · refine ⟨⟨format.attributes, format.saved (defaults format pcd)⟩, ?_, accepted_defaults⟩
      have failed : compromisedData.isError = true := rfl
      have found : compromisedData ≠ EfiStatus.notFound := by decide
      simp only [compromised, failed, if_true]
      exact writeDefaults_answered fun missing => absurd missing found
    · refine ⟨after, ?_, accepted⟩
      rw [checked]
      rfl

/-! ### Whole runs -/

theorem serveSettings_step (call : SettingsCall) (admitted : call.Admitted)
    (accepted : Accepted format stored) (setting : Setting) :
    let served := serveSettings format pcd (some stored) call
    AcceptedStore format served.2 ∧
      settingIn format pcd served.2 setting =
        (setTo pcd setting (call, served.1)).getD (stored.field format (.setting setting)) := by
  cases call with
  | get | getDefault => exact ⟨⟨stored, rfl, accepted⟩, rfl⟩
  | boot answers stack =>
    have kept : initializeNvVariable format pcd answers stack (some stored) =
        (EfiStatus.success, some stored) :=
      initializeNvVariable_keeps accepted answers stack admitted
    simp only [serveSettings, kept]
    exact ⟨⟨stored, rfl, accepted⟩, rfl⟩
  | set this valueSize value flagsGiven answers =>
    cases this with
    | none => exact ⟨⟨stored, rfl, accepted⟩, rfl⟩
    | some id =>
      cases value with
      | none => exact ⟨⟨stored, rfl, accepted⟩, by cases id <;> rfl⟩
      | some value =>
        simp only [serveSettings, bootManagerSettingsSet]
        split
        · have sets : SetsOnly format pcd stored id value _ :=
            setBootManagerSetting_setsOnly accepted answers.read answers.write answers.stack id
              value flagsGiven
          exact ⟨sets.accepted, sets.getD setting⟩
        · have sets : SetsOnly format pcd stored id value
              ⟨EfiStatus.invalidParameter, none, some stored, false⟩ := .refused accepted rfl rfl
          exact ⟨sets.accepted, sets.getD setting⟩
  | setDefault this answers =>
    cases this with
    | none => exact ⟨⟨stored, rfl, accepted⟩, rfl⟩
    | some id =>
      cases id with
      | none => exact ⟨⟨stored, rfl, accepted⟩, rfl⟩
      | some other =>
        have sets : SetsOnly format pcd stored (some other) (pcd other) _ :=
          setBootManagerSetting_setsOnly accepted answers.read answers.write answers.stack
            (some other) (pcd other) true
        simp only [serveSettings, bootManagerSettingsSetDefault, getBootManagerSettingDefault]
        refine ⟨sets.accepted, (sets.sets setting).trans ?_⟩
        simp only [setTo, Option.some.injEq]
        split
        · rename_i both
          rw [both.1]
          rfl
        · rfl

end

/-- Every provider reads what its setting was last set to with success since the record was
brought up to date, whatever the accesses, the boots and the failures in between. -/
theorem settings_readBack (format : SettingsFormat) (pcd : Setting → UInt8)
    (store : SettingsStore) (stack : Nat → UInt8) :
    ∃ before, initializeNvVariable format pcd ⟨none, none, none⟩ stack store =
        (EfiStatus.success, some before) ∧
      ∀ calls : List SettingsCall, (∀ call ∈ calls, call.Admitted) →
        let session := answered (serveSettings format pcd) (some before) calls
        SettingsReadBack format pcd before session.1 session.2 := by
  obtain ⟨before, booted, accepted⟩ := @initializeNvVariable_accepted format pcd store stack
  refine ⟨before, booted, fun calls admitted => ?_⟩
  have step : ∀ setting store call, SettingsCall.Admitted call → AcceptedStore format store →
      AcceptedStore format (serveSettings format pcd store call).2 ∧
        settingIn format pcd (serveSettings format pcd store call).2 setting =
          (setTo pcd setting (call, (serveSettings format pcd store call).1)).getD
            (settingIn format pcd store setting) := by
    rintro setting store call admitted ⟨stored, rfl, accepted⟩
    exact serveSettings_step call admitted accepted setting
  have initial : AcceptedStore format (some before) := ⟨before, rfl, accepted⟩
  have session : ∀ setting, _ := fun setting =>
    answered_getD (serveSettings format pcd) (settingIn format pcd · setting) (setTo pcd setting)
      (step setting) admitted initial
  obtain ⟨last, ended, lastAccepted⟩ := (session .ipv6).1
  refine ⟨⟨last, ended, lastAccepted⟩, fun setting answers read => ?_,
    fun setting answers read => ?_⟩
  · have reads := (session setting).2
    simp only [ended, settingIn] at reads
    rw [ended, bootManagerSettingsGet_accepted lastAccepted setting read, reads]
  · exact bootManagerSettingsGet_failed _ setting read

/-- A setting that is switched on, a boot, and a write of another one that fails. -/
theorem settings_readBack_switchedOn :
    let calls : List SettingsCall :=
      [.set (some (some .ipv6)) 1 (some 1) true ⟨none, none, fun _ => 0⟩,
        .boot ⟨none, none, none⟩ fun _ => 0,
        .set (some (some .altBoot)) 1 (some 1) true
          ⟨none, some ⟨EfiStatus.deviceError, rfl⟩, fun _ => 0⟩]
    ∃ before, initializeNvVariable byteFormat (fun _ => 0) ⟨none, none, none⟩ (fun _ => 0)
          (some disabledRecord) = (EfiStatus.success, some before) ∧
      let session := answered (serveSettings byteFormat fun _ => 0) (some before) calls
      SettingsReadBack byteFormat (fun _ => 0) before session.1 session.2 := by
  obtain ⟨before, booted, reads⟩ :=
    settings_readBack byteFormat (fun _ => 0) (some disabledRecord) fun _ => 0
  exact ⟨before, booted, reads _ (by simp [SettingsCall.Admitted])⟩

end MuRockchip.Config
