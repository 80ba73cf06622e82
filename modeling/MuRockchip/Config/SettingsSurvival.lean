/-
What becomes of the boot manager's settings at boot (`BootManagerSettings.c`).

The defaults are written without a version, so a record made of them is not well formed; a record
that cannot be read is replaced by them; writes that fail while a record is brought up to date are
only reported; and accesses do not check how much of the record was read.

* `recordKind_written`: the records that the initialization writes.
* `initializeNvVariable_survives_iff`: when the settings survive.
-/
import MuRockchip.Base.Fields
import MuRockchip.Config.BootManagerSettings

namespace MuRockchip.Config

open Base

/-! ### Records -/

/-- The layouts a well-formed record can have. -/
inductive RecordKind where
  | old
  | version1
  | version2
  | version3
  deriving DecidableEq, Repr

/-- The settings that a layout has. -/
def RecordKind.defines : RecordKind → Setting → Bool
  | _, .ipv6 | _, .altBoot => true
  | kind, .bootOrderLock => kind ≠ .old
  | kind, .enableUsbBoot => kind = .version2 ∨ kind = .version3
  | kind, .startNetwork => kind = .version3

section

variable (format : SettingsFormat) (pcd : Setting → UInt8)

def SettingsVariable.field (stored : SettingsVariable) (field : SettingsField) : Nat :=
  format.get (load (fun _ => 0) stored.data) field

/-- The layout of a record, if it is well formed. -/
def recordKind (stored : SettingsVariable) : Option RecordKind :=
  if stored.data.length ≠ format.size then none
  else if stored.field format .signature = format.signatureOld ∧
      stored.attributes = format.attributes ||| runtimeAccess then some .old
  else if stored.attributes ≠ format.attributes ∨
      stored.field format .signature ≠ format.signature then none
  else if stored.field format .version = format.version1 then some .version1
  else if stored.field format .version = format.version2 then some .version2
  else if stored.field format .version = format.version3 then some .version3
  else none

/-- What a setting of a record is: the default, if its layout does not have it. -/
def settingOf (stored : SettingsVariable) (kind : RecordKind) (setting : Setting) : Nat :=
  if kind.defines setting then stored.field format (.setting setting) else (pcd setting).toNat

/-- No access depends on what was on the stack. -/
def IndependentOfStack (store : SettingsStore) : Prop :=
  (∀ failure left right id, getBootManagerSetting format pcd store failure left id =
      getBootManagerSetting format pcd store failure right id) ∧
    ∀ failure write left right id value flagsGiven,
      setBootManagerSetting format store failure write left id value flagsGiven =
        setBootManagerSetting format store failure write right id value flagsGiven

/-- The settings survive an initialization. -/
structure Survives (before : SettingsStore) (result : EfiStatus × SettingsStore) : Prop where
  /-- What was set is what is read, and what the layout lacks is the default. -/
  values : ∀ stored kind, before = some stored → recordKind format stored = some kind →
    ∀ stack setting, getBootManagerSetting format pcd result.2 none stack (some setting) =
      (EfiStatus.success, some (settingOf format pcd stored kind setting))
  /-- A well-formed record is not deleted or replaced by the defaults. -/
  replaced : ∀ stored kind, before = some stored → recordKind format stored = some kind →
    ∃ after, result.2 = some after ∧ (recordKind format after).isSome
  /-- Success leaves a record of the current version, with nothing more to do. -/
  current : result.1.isError = false →
    (∃ after, result.2 = some after ∧ recordKind format after = some .version3) ∧
      ∀ answers stack, answers.read = none →
        initializeNvVariable format pcd answers stack result.2 = (EfiStatus.success, result.2)
  accesses : IndependentOfStack format pcd result.2

/-- When writing the defaults over a record does no harm: it fails, and what is left is the whole
truth about the settings. -/
def DefaultsHarmless (answers : InitAnswers) : SettingsStore → Prop
  | none => answers.write.isSome
  | some stored =>
    if answers.delete = none then answers.write.isSome ∧ recordKind format stored = none
    else
      (answers.write.isSome ∨ stored.attributes ≠ format.attributes) ∧
        match recordKind format stored with
        | none => format.size ≤ stored.data.length
        | some kind => ∀ setting, kind.defines setting = false →
            stored.field format (.setting setting) = (pcd setting).toNat

/-- When the settings survive. -/
def KeepsSettings (answers : InitAnswers) (store : SettingsStore) : Prop :=
  match getVariable store answers.read format.size with
  | .error _ => DefaultsHarmless format pcd answers store
  | .ok stored =>
    if stored.data.length ≠ format.size then DefaultsHarmless format pcd answers store
    else if stored.field format .signature = format.signatureOld ∧
        stored.attributes = format.attributes ||| runtimeAccess then
      answers.delete = none ∧ answers.write = none ∧ pcd .bootOrderLock = 0
    else if stored.attributes ≠ format.attributes ∨
        stored.field format .signature ≠ format.signature then
      DefaultsHarmless format pcd answers store
    else if format.version1 ≤ stored.field format .version ∧
        stored.field format .version < format.version3 then answers.write = none
    else stored.field format .version = format.version3

end

section

variable {format : SettingsFormat} {pcd : Setting → UInt8}

/-! ### Records that are written -/

theorem attributes_ne_runtime : format.attributes ≠ format.attributes ||| runtimeAccess := by
  intro same
  have runtime := congrArg (· &&& runtimeAccess) same
  simp only [or_and_mask, format.notRuntime] at runtime
  exact absurd runtime (by decide)

theorem field_saved (attributes : UInt32) (settings : Nat → UInt8) (field : SettingsField) :
    SettingsVariable.field format ⟨attributes, format.saved settings⟩ field =
      format.get settings field :=
  get_load_saved _ field

theorem saved_length (settings : Nat → UInt8) : (format.saved settings).length = format.size :=
  slice_length ..

variable {settings left right : Nat → UInt8} {stored : SettingsVariable}
  {failure : Option ReadFailure} {status : EfiStatus} {answers : InitAnswers}

theorem recordKind_written (signature : format.get settings .signature = format.signature) :
    recordKind format ⟨format.attributes, format.saved settings⟩ =
      if format.get settings .version = format.version1 then some .version1
      else if format.get settings .version = format.version2 then some .version2
      else if format.get settings .version = format.version3 then some .version3
      else none := by
  rw [recordKind, if_neg (not_not.mpr (saved_length settings)),
    if_neg fun old => attributes_ne_runtime old.2, if_neg, field_saved]
  rw [field_saved, not_or, not_not, not_not]
  exact ⟨rfl, signature⟩

theorem recordKind_current (signature : format.get settings .signature = format.signature)
    (version : format.get settings .version = format.version3) :
    recordKind format ⟨format.attributes, format.saved settings⟩ = some .version3 := by
  have first := format.version1_lt
  have second := format.version2_lt
  rw [recordKind_written signature, version, if_neg (by omega), if_neg (by omega), if_pos rfl]

theorem defaults_signature : format.get (defaults format pcd) .signature = format.signature := by
  simp only [defaults, setDefault]
  repeat rw [get_set_other (by decide)]
  exact get_set_same format.signature_fits

theorem defaults_version : format.get (defaults format pcd) .version = 0 := by
  simp only [defaults, setDefault]
  repeat rw [get_set_other (by decide)]
  have zeros : slice (fun _ => (0 : UInt8)) (format.range .version).base
      (format.range .version).length = List.replicate (format.range .version).length 0 := by
    simp [slice]
  rw [SettingsFormat.get, zeros, leValue_zeros]

theorem recordKind_defaults :
    recordKind format ⟨format.attributes, format.saved (defaults format pcd)⟩ = none := by
  have positive := format.version1_pos
  have first := format.version1_lt
  have second := format.version2_lt
  rw [recordKind_written defaults_signature, defaults_version, if_neg (by omega),
    if_neg (by omega), if_neg (by omega)]

theorem RecordKind.length_eq {kind : RecordKind}
    (is : recordKind format stored = some kind) : stored.data.length = format.size := by
  by_contra other
  rw [recordKind, if_pos other] at is
  exact nomatch is

theorem initializeNvVariable_version3 {after : SettingsVariable}
    (is : recordKind format after = some .version3) (answers : InitAnswers)
    (stack : Nat → UInt8) (read : answers.read = none) :
    initializeNvVariable format pcd answers stack (some after) =
      (EfiStatus.success, some after) := by
  have length := RecordKind.length_eq is
  have same : ∀ field, format.get (load stack after.data) field = after.field format field :=
    get_load_congr length.ge _ _
  rw [recordKind, if_neg (not_not.mpr length)] at is
  have opened : getVariable (some after) answers.read format.size = .ok after := by
    rw [read, getVariable, if_pos length.le]
  have checked : checkVariable format pcd answers stack after =
      (EfiStatus.success, some after) := by
    split at is
    · exact nomatch is
    · next current =>
      split at is
      · exact nomatch is
      · next header =>
        obtain ⟨attributes, signature⟩ := not_or.mp header
        split at is
        · exact nomatch is
        · split at is
          · exact nomatch is
          · split at is
            · next version =>
              simp only [checkVariable, same]
              rw [if_neg (not_not.mpr length), if_neg current, if_neg attributes,
                if_neg signature, if_neg (fun older => by omega)]
            · exact nomatch is
  simp only [initializeNvVariable, opened, checked]
  rfl

/-! ### Accesses -/

theorem getVariable_ok {read : SettingsVariable} {size : Nat}
    (opened : getVariable (some stored) failure size = .ok read) : read = stored := by
  cases failure with
  | some failure => exact nomatch opened
  | none =>
    rw [getVariable] at opened
    split at opened
    · exact (Except.ok.inj opened).symm
    · exact nomatch opened

theorem getVariable_error {store : SettingsStore} {size : Nat}
    (refused : getVariable store failure size = .error status) :
    status.isError = true ∧ (status = EfiStatus.notFound → store = none) := by
  cases failure with
  | some failure =>
    obtain rfl := Except.error.inj refused
    exact ⟨failure.property.1, fun absent => (failure.property.2 absent).elim⟩
  | none =>
    cases store with
    | none =>
      obtain rfl := Except.error.inj refused
      exact ⟨rfl, fun _ => rfl⟩
    | some stored =>
      rw [getVariable] at refused
      split at refused
      · exact nomatch refused
      · obtain rfl := Except.error.inj refused
        exact ⟨rfl, fun absent => absurd absent (by decide)⟩

/-- The parts of two structures that are saved agree. -/
def Agree (format : SettingsFormat) (left right : Nat → UInt8) : Prop :=
  ∀ index < format.size, left index = right index

theorem Agree.saved (agree : Agree format left right) :
    format.saved left = format.saved right := by
  refine slice_congr fun index inside => ?_
  rw [Nat.zero_add, agree index inside]

theorem Agree.set (agree : Agree format left right) (field : SettingsField) (value : Nat) :
    Agree format (format.set left field value) (format.set right field value) := by
  intro index inside
  simp only [SettingsFormat.set, place, agree index inside]

theorem Agree.load {data : List UInt8} (whole : format.size ≤ data.length)
    (left right : Nat → UInt8) : Agree format (load left data) (load right data) := by
  intro index inside
  rw [load_inside left (inside.trans_le whole), load_inside right (inside.trans_le whole)]

theorem independent_of_whole
    (whole : format.size ≤ stored.data.length) : IndependentOfStack format pcd (some stored) := by
  have same : ∀ left right field, format.get (load left stored.data) field =
      format.get (load right stored.data) field := get_load_congr whole
  constructor
  · intro failure left right id
    cases id with
    | none => rfl
    | some setting =>
      simp only [getBootManagerSetting]
      split
      · rfl
      · next read opened => rw [getVariable_ok opened, same left right]
  · intro failure write left right id value given
    cases given with
    | false => rfl
    | true =>
      cases id with
      | none => rfl
      | some setting =>
        have saved := ((Agree.load whole left right).set (.setting setting) value.toNat).saved
        simp only [setBootManagerSetting, Bool.not_true, Bool.false_eq_true, if_false]
        split
        · rfl
        · next read opened => rw [getVariable_ok opened, same left right, saved]

/-- A setting that is not at a given place of the record. -/
theorem exists_elsewhere (format : SettingsFormat) (index : Nat) :
    ∃ setting, (format.range (.setting setting)).base ≠ index := by
  by_contra none
  have all := fun setting => not_not.mp (not_exists.mp none setting)
  have apart := format.apart (.setting .ipv6) (.setting .altBoot) (by decide)
  have first := format.oneByte .ipv6
  have second := format.oneByte .altBoot
  have firstBase := all .ipv6
  have secondBase := all .altBoot
  rcases apart with before | after
  · rw [Interval.finish] at before
    omega
  · rw [Interval.finish] at after
    omega

/-- A byte that a set does not reach is saved as it was loaded. -/
theorem saved_set_other {setting : Setting} {index : Nat}
    (elsewhere : (format.range (.setting setting)).base ≠ index) (inside : index < format.size)
    (value : Nat) :
    (format.saved (format.set settings (.setting setting) value))[index]? =
      some (settings index) := by
  have kept : format.set settings (.setting setting) value index = settings index := by
    refine place_outside ?_
    simp only [leBytes_length, format.oneByte]
    omega
  simp [SettingsFormat.saved, slice, inside, kept]

/-- A value other than two given ones. -/
theorem exists_value (first second : Nat) :
    ∃ value : UInt8, first ≠ value.toNat ∧ second ≠ value.toNat := by
  by_contra none
  have all := fun value => not_and.mp (not_exists.mp none value)
  have zero : first ≠ 0 → ¬ second ≠ 0 := all 0
  have one : first ≠ 1 → ¬ second ≠ 1 := all 1
  have two : first ≠ 2 → ¬ second ≠ 2 := all 2
  omega

theorem saves_stack (short : stored.data.length < format.size) :
    ∃ left right setting value,
      setBootManagerSetting format (some stored) none none left (some setting) value true ≠
        setBootManagerSetting format (some stored) none none right (some setting) value true := by
  obtain ⟨setting, elsewhere⟩ := exists_elsewhere format stored.data.length
  let left : Nat → UInt8 := fun _ => 0
  let right : Nat → UInt8 := fun index => if index = stored.data.length then 1 else 0
  have opened : getVariable (some stored) none format.size = .ok stored := by
    rw [getVariable, if_pos short.le]
  obtain ⟨value, leftDiffers, rightDiffers⟩ := exists_value
    (format.get (load left stored.data) (.setting setting))
    (format.get (load right stored.data) (.setting setting))
  refine ⟨left, right, setting, value, fun same => ?_⟩
  have requests := congrArg SetOutcome.request same
  simp only [setBootManagerSetting, opened, Bool.not_true, Bool.false_eq_true, if_false,
    if_pos leftDiffers, if_pos rightDiffers] at requests
  have bytes := congrArg (·[stored.data.length]?) (Option.some.inj requests)
  simp only [saved_set_other elsewhere short] at bytes
  have loaded : ∀ stack, load stack stored.data stored.data.length = stack stored.data.length :=
    fun stack => place_outside (.inr (by simp))
  rw [loaded, loaded] at bytes
  simp [left, right] at bytes

/-- Accesses depend on the stack when a part of the record is missing. -/
theorem independentOfStack_iff (store : SettingsStore) :
    IndependentOfStack format pcd store ↔
      ∀ stored, store = some stored → format.size ≤ stored.data.length := by
  constructor
  · rintro ⟨-, written⟩ stored rfl
    by_contra short
    obtain ⟨left, right, setting, value, different⟩ := saves_stack (Nat.lt_of_not_le short)
    exact different (written ..)
  · intro whole
    cases store with
    | none => exact ⟨fun failure _ _ id => by cases failure <;> cases id <;> rfl,
        fun failure _ _ _ id _ given => by cases failure <;> cases id <;> cases given <;> rfl⟩
    | some stored => exact independent_of_whole (whole stored rfl)

/-- What is read of a record of the right size. -/
theorem getBootManagerSetting_stored (length : stored.data.length = format.size)
    (stack : Nat → UInt8) (setting : Setting) :
    getBootManagerSetting format pcd (some stored) none stack (some setting) =
      (EfiStatus.success, some (stored.field format (.setting setting))) := by
  have opened : getVariable (some stored) none format.size = .ok stored := by
    rw [getVariable, if_pos length.le]
  have same := get_load_congr length.ge stack (fun _ => 0) (.setting setting)
  simp only [getBootManagerSetting, opened, same]
  rfl

/-! ### Outcomes of the initialization -/

theorem not_survives_defaults (before : SettingsStore) :
    ¬ Survives format pcd before (EfiStatus.success,
      some ⟨format.attributes, format.saved (defaults format pcd)⟩) := by
  intro survives
  obtain ⟨⟨after, same, current⟩, -⟩ := survives.current rfl
  rw [← Option.some.inj same, recordKind_defaults] at current
  exact nomatch current

/-- The record is gone and the failure is reported. -/
theorem survives_removed_iff (failed : status.isError = true) (before : SettingsStore) :
    Survives format pcd before (status, none) ↔
      ∀ stored, before = some stored → recordKind format stored = none := by
  constructor
  · intro survives stored was
    cases is : recordKind format stored with
    | none => rfl
    | some kind =>
      obtain ⟨after, same, -⟩ := survives.replaced stored kind was is
      exact nomatch same
  · intro malformed
    refine ⟨?_, ?_, fun succeeded => ?_, (independentOfStack_iff none).mpr nofun⟩
    · intro stored kind was is
      exact nomatch (malformed stored was).symm.trans is
    · intro stored kind was is
      exact nomatch (malformed stored was).symm.trans is
    · exact nomatch failed.symm.trans succeeded

/-- The record is left alone and the failure is reported. -/
theorem survives_kept_iff (failed : status.isError = true) (stored : SettingsVariable) :
    Survives format pcd (some stored) (status, some stored) ↔
      match recordKind format stored with
      | none => format.size ≤ stored.data.length
      | some kind => ∀ setting, kind.defines setting = false →
          stored.field format (.setting setting) = (pcd setting).toNat := by
  constructor
  · intro survives
    cases is : recordKind format stored with
    | none => exact (independentOfStack_iff _).mp survives.accesses stored rfl
    | some kind =>
      intro setting lacks
      have value := survives.values stored kind rfl is (fun _ => 0) setting
      rw [getBootManagerSetting_stored (RecordKind.length_eq is), settingOf, lacks] at value
      exact Option.some.inj (Prod.mk.inj value).2
  · intro truth
    have reported {claim : Prop} (succeeded : status.isError = false) : claim :=
      nomatch failed.symm.trans succeeded
    cases is : recordKind format stored with
    | none =>
      rw [is] at truth
      refine ⟨?_, ?_, reported, independent_of_whole truth⟩
      · rintro _ kind ⟨⟩ other
        exact nomatch is.symm.trans other
      · rintro _ kind ⟨⟩ other
        exact nomatch is.symm.trans other
    | some kind =>
      have length := RecordKind.length_eq is
      rw [is] at truth
      refine ⟨?_, ?_, reported, independent_of_whole length.ge⟩
      · rintro _ other ⟨⟩ same stack setting
        obtain rfl := Option.some.inj (is.symm.trans same)
        rw [getBootManagerSetting_stored length, settingOf]
        split
        · rfl
        · next lacks => rw [truth setting (Bool.not_eq_true _ ▸ lacks)]
      · rintro _ other ⟨⟩ same
        exact ⟨stored, rfl, is ▸ rfl⟩

/-- Nothing is done, and success is reported. -/
theorem survives_accepted_iff (stored : SettingsVariable) :
    Survives format pcd (some stored) (EfiStatus.success, some stored) ↔
      recordKind format stored = some .version3 := by
  constructor
  · intro survives
    obtain ⟨⟨after, same, current⟩, -⟩ := survives.current rfl
    rwa [← Option.some.inj same] at current
  · intro is
    have length := RecordKind.length_eq is
    refine ⟨?_, ?_, fun _ => ⟨⟨stored, rfl, is⟩, ?_⟩, independent_of_whole length.ge⟩
    · rintro _ kind ⟨⟩ same stack setting
      obtain rfl := Option.some.inj (is.symm.trans same)
      rw [getBootManagerSetting_stored length, settingOf, if_pos (by cases setting <;> rfl)]
    · rintro _ kind ⟨⟩ same
      exact ⟨stored, rfl, is ▸ rfl⟩
    · exact fun answers stack => initializeNvVariable_version3 is answers stack

theorem survives_written_iff (signature : format.get settings .signature = format.signature)
    (version : format.get settings .version = format.version3) (stored : SettingsVariable) :
    Survives format pcd (some stored) (EfiStatus.success,
        some ⟨format.attributes, format.saved settings⟩) ↔
      ∀ kind, recordKind format stored = some kind → ∀ setting,
        format.get settings (.setting setting) = settingOf format pcd stored kind setting := by
  have current := recordKind_current signature version
  have read : ∀ stack setting, getBootManagerSetting format pcd
      (some ⟨format.attributes, format.saved settings⟩) none stack (some setting) =
        (EfiStatus.success, some (format.get settings (.setting setting))) := by
    intro stack setting
    rw [getBootManagerSetting_stored (saved_length settings), field_saved]
  constructor
  · intro survives kind is setting
    have value := survives.values stored kind rfl is (fun _ => 0) setting
    rw [read] at value
    exact Option.some.inj (Prod.mk.inj value).2
  · intro truth
    refine ⟨?_, ?_, fun _ => ⟨⟨_, rfl, current⟩, ?_⟩,
      independent_of_whole (saved_length settings).ge⟩
    · rintro _ kind ⟨⟩ is stack setting
      rw [read, truth kind is]
    · rintro _ kind ⟨⟩ is
      exact ⟨_, rfl, current ▸ rfl⟩
    · exact fun answers stack => initializeNvVariable_version3 current answers stack

/-! ### The initialization -/

theorem writeDefaults_survives_iff {before : SettingsStore}
    (reported : status = EfiStatus.notFound → before = none) :
    Survives format pcd before (writeDefaults format pcd answers status before) ↔
      DefaultsHarmless format pcd answers before := by
  -- Once nothing is stored, only a failed write leaves no defaults.
  have absent : Survives format pcd before
      (setVariable none answers.write format.attributes (format.saved (defaults format pcd))) ↔
        answers.write.isSome ∧
          ∀ stored, before = some stored → recordKind format stored = none := by
    cases answers.write with
    | none => exact ⟨fun survives => (not_survives_defaults before survives).elim, nofun⟩
    | some failure =>
      rw [setVariable, survives_removed_iff failure.property]
      exact ⟨fun malformed => ⟨rfl, malformed⟩, And.right⟩
  cases before with
  | none =>
    have removed : (if status ≠ EfiStatus.notFound
        then (deleteVariable none answers.delete).2 else none) = none := by
      split
      · cases answers.delete <;> rfl
      · rfl
    rw [writeDefaults, removed, absent, DefaultsHarmless]
    exact ⟨And.left, fun failed => ⟨failed, nofun⟩⟩
  | some stored =>
    have found : status ≠ EfiStatus.notFound := fun same => nomatch reported same
    rw [writeDefaults, if_pos found, DefaultsHarmless]
    cases deleted : answers.delete with
    | none =>
      rw [deleteVariable, absent, if_pos rfl]
      exact and_congr_right' ⟨fun malformed => malformed stored rfl,
        fun is other same => Option.some.inj same ▸ is⟩
    | some failure =>
      rw [deleteVariable, if_neg nofun]
      cases written : answers.write with
      | some failure =>
        rw [setVariable, survives_kept_iff failure.property]
        exact ⟨fun truth => ⟨.inl rfl, truth⟩, And.right⟩
      | none =>
        by_cases same : stored.attributes = format.attributes
        · rw [setVariable, if_pos same]
          constructor
          · exact fun survives => (not_survives_defaults _ survives).elim
          · rintro ⟨failed | other, -⟩
            · exact nomatch failed
            · exact (other same).elim
        · rw [setVariable, if_neg same, survives_kept_iff rfl]
          exact ⟨fun truth => ⟨.inr same, truth⟩, And.right⟩

section

variable (format pcd) (settings : Nat → UInt8)

theorem convertOld_signature :
    format.get (convertOld format pcd settings) .signature = format.signature := by
  simp only [convertOld, setDefault]
  repeat rw [get_set_other (by decide)]
  exact get_set_same format.signature_fits

theorem convertOld_version :
    format.get (convertOld format pcd settings) .version = format.version3 :=
  get_set_same format.version_fits

theorem convertOld_setting (setting : Setting) :
    format.get (convertOld format pcd settings) (.setting setting) =
      match setting with
      | .ipv6 | .altBoot => format.get settings (.setting setting)
      | .bootOrderLock => 0
      | .enableUsbBoot | .startNetwork => (pcd setting).toNat := by
  have zero : 0 < 256 ^ (format.range (.setting .bootOrderLock)).length := Nat.pow_pos (by decide)
  cases setting <;> simp only [convertOld]
  · repeat rw [get_set_other (by decide)]
    rw [setDefault, setDefault]
    repeat rw [get_set_other (by decide)]
  · repeat rw [get_set_other (by decide)]
    rw [setDefault, setDefault]
    repeat rw [get_set_other (by decide)]
  · rw [get_set_other (by decide), setDefault, get_set_other (by decide), setDefault,
      get_set_other (by decide), get_set_same zero]
  · rw [get_set_other (by decide), setDefault, get_set_other (by decide), get_setDefault_same]
  · rw [get_set_other (by decide), get_setDefault_same]

theorem get_setDefault_if (condition : Prop) [Decidable condition] (setting : Setting)
    (field : SettingsField) :
    format.get (if condition then setDefault format pcd settings setting else settings) field =
      if condition ∧ field = .setting setting then (pcd setting).toNat
      else format.get settings field := by
  by_cases taken : condition
  · rw [if_pos taken]
    by_cases same : field = .setting setting
    · rw [if_pos ⟨taken, same⟩, same, get_setDefault_same]
    · rw [if_neg fun both => same both.2, setDefault, get_set_other same]
  · rw [if_neg taken, if_neg fun both => taken both.1]

theorem upgrade_signature :
    format.get (upgrade format pcd settings) .signature = format.get settings .signature := by
  simp only [upgrade]
  rw [get_set_other (by decide), get_setDefault_if, if_neg (by simp), get_setDefault_if,
    if_neg (by simp)]

theorem upgrade_version :
    format.get (upgrade format pcd settings) .version = format.version3 :=
  get_set_same format.version_fits

theorem upgrade_setting (setting : Setting) :
    format.get (upgrade format pcd settings) (.setting setting) =
      if format.get settings .version ≤ format.version2 ∧ setting = .startNetwork ∨
          format.get settings .version = format.version1 ∧ setting = .enableUsbBoot then
        (pcd setting).toNat
      else format.get settings (.setting setting) := by
  simp only [upgrade]
  rw [get_set_other (by simp), get_setDefault_if, get_setDefault_if]
  simp only [SettingsField.setting.injEq]
  by_cases network : format.get settings .version ≤ format.version2 ∧ setting = .startNetwork
  · rw [if_pos network, if_pos (.inl network), network.2]
  · rw [if_neg network]
    by_cases usb : format.get settings .version = format.version1 ∧ setting = .enableUsbBoot
    · rw [if_pos usb, if_pos (.inr usb), usb.2]
    · rw [if_neg usb, if_neg (not_or.mpr ⟨network, usb⟩)]

end

theorem convertOld_faithful_iff (stored : SettingsVariable) :
    (∀ setting, format.get (convertOld format pcd (load (fun _ => 0) stored.data))
        (.setting setting) = settingOf format pcd stored .old setting) ↔
      pcd .bootOrderLock = 0 := by
  simp only [convertOld_setting, settingOf]
  constructor
  · intro same
    have lock := same .bootOrderLock
    exact UInt8.toNat_inj.mp lock.symm
  · intro zero setting
    cases setting <;> simp [RecordKind.defines, SettingsVariable.field, zero]

theorem upgrade_faithful {kind : RecordKind} (is : recordKind format stored = some kind)
    (current : ¬ (stored.field format .signature = format.signatureOld ∧
      stored.attributes = format.attributes ||| runtimeAccess))
    (older : stored.field format .version < format.version3) (setting : Setting) :
    format.get (upgrade format pcd (load (fun _ => 0) stored.data)) (.setting setting) =
      settingOf format pcd stored kind setting := by
  have first := format.version1_lt
  have length := RecordKind.length_eq is
  have loaded : ∀ field, format.get (load (fun _ => 0) stored.data) field =
      stored.field format field := fun _ => rfl
  rw [recordKind, if_neg (not_not.mpr length), if_neg current] at is
  simp only [upgrade_setting, settingOf, loaded]
  split at is
  · exact nomatch is
  · split at is
    · next version =>
      obtain rfl := Option.some.inj is
      cases setting <;> simp [RecordKind.defines, version, first.le]
    · next notFirst =>
      split at is
      · next version =>
        obtain rfl := Option.some.inj is
        cases setting <;> simp [RecordKind.defines, version, first.ne']
      · split at is
        · next version => exact absurd version older.ne
        · exact nomatch is

theorem recordKind_version3_iff (length : stored.data.length = format.size)
    (current : ¬ (stored.field format .signature = format.signatureOld ∧
      stored.attributes = format.attributes ||| runtimeAccess))
    (header : ¬ (stored.attributes ≠ format.attributes ∨
      stored.field format .signature ≠ format.signature)) :
    recordKind format stored = some .version3 ↔
      stored.field format .version = format.version3 := by
  have first := format.version1_lt
  have second := format.version2_lt
  rw [recordKind, if_neg (not_not.mpr length), if_neg current, if_neg header]
  constructor
  · intro is
    split at is
    · exact nomatch is
    · split at is
      · exact nomatch is
      · split at is
        · assumption
        · exact nomatch is
  · intro version
    rw [version, if_neg (by omega), if_neg (by omega), if_pos rfl]

/-- A record with a header of today is left alone, or brought up to date. -/
theorem survives_checked_iff {answers : InitAnswers} {stored : SettingsVariable}
    (length : stored.data.length = format.size)
    (current : ¬ (stored.field format .signature = format.signatureOld ∧
      stored.attributes = format.attributes ||| runtimeAccess))
    (header : ¬ (stored.attributes ≠ format.attributes ∨
      stored.field format .signature ≠ format.signature)) :
    Survives format pcd (some stored)
        (if format.version1 ≤ stored.field format .version ∧
            stored.field format .version < format.version3 then
          (EfiStatus.success, (setVariable (some stored) answers.write format.attributes
            (format.saved (upgrade format pcd (load (fun _ => 0) stored.data)))).2)
        else (EfiStatus.success, some stored)) ↔
      if format.version1 ≤ stored.field format .version ∧
        stored.field format .version < format.version3 then answers.write = none
      else stored.field format .version = format.version3 := by
  obtain ⟨attributes, signature⟩ := not_or.mp header
  have version3 := recordKind_version3_iff length current header
  split
  · next older =>
    cases answers.write with
    | some failure =>
      rw [setVariable, survives_accepted_iff, version3]
      exact ⟨fun same => absurd same older.2.ne, nofun⟩
    | none =>
      rw [setVariable, if_pos (not_not.mp attributes), survives_written_iff
        ((upgrade_signature ..).trans (not_not.mp signature)) (upgrade_version ..)]
      exact ⟨fun _ => rfl, fun _ kind is => upgrade_faithful is current older.2⟩
  · rw [survives_accepted_iff, version3]

theorem survives_converted_iff (length : stored.data.length = format.size)
    (old : stored.field format .signature = format.signatureOld ∧
      stored.attributes = format.attributes ||| runtimeAccess) :
    Survives format pcd (some stored) (EfiStatus.success,
        (setVariable (deleteVariable (some stored) answers.delete).2 answers.write
          format.attributes
          (format.saved (convertOld format pcd (load (fun _ => 0) stored.data)))).2) ↔
      answers.delete = none ∧ answers.write = none ∧ pcd .bootOrderLock = 0 := by
  have is : recordKind format stored = some .old := by
    rw [recordKind, if_neg (not_not.mpr length), if_pos old]
  have kept : ¬ Survives format pcd (some stored) (EfiStatus.success, some stored) := by
    rw [survives_accepted_iff, is]
    exact nofun
  cases answers.delete with
  | some failure =>
    rw [deleteVariable]
    refine ⟨fun survives => (kept ?_).elim, nofun⟩
    cases written : answers.write with
    | some failure =>
      rw [written] at survives
      exact survives
    | none =>
      have other : stored.attributes ≠ format.attributes := by
        rw [old.2]
        exact attributes_ne_runtime.symm
      rwa [written, setVariable, if_neg other] at survives
  | none =>
    rw [deleteVariable]
    cases answers.write with
    | some failure =>
      refine ⟨fun survives => ?_, nofun⟩
      obtain ⟨⟨after, same, -⟩, -⟩ := survives.current rfl
      exact nomatch same
    | none =>
      rw [setVariable, survives_written_iff (convertOld_signature ..) (convertOld_version ..),
        ← convertOld_faithful_iff stored]
      constructor
      · exact fun truth => ⟨rfl, rfl, truth .old is⟩
      · rintro ⟨-, -, truth⟩ kind same
        obtain rfl := Option.some.inj (is.symm.trans same)
        exact truth

theorem Agree.convertOld (agree : Agree format left right) (pcd : Setting → UInt8) :
    Agree format (convertOld format pcd left) (convertOld format pcd right) := by
  have locked := (agree.set .signature format.signature).set (.setting .bootOrderLock) 0
  exact ((locked.set _ _).set _ _).set _ _

theorem Agree.upgrade (agree : Agree format left right) (pcd : Setting → UInt8) :
    Agree format (upgrade format pcd left) (upgrade format pcd right) := by
  simp only [MuRockchip.Config.upgrade, get_congr agree .version]
  refine Agree.set ?_ .version format.version3
  split <;> split
  · exact (agree.set _ _).set _ _
  · exact agree.set _ _
  · exact agree.set _ _
  · exact agree

/-- What is done to a whole record does not depend on the stack. -/
theorem checkVariable_whole (length : stored.data.length = format.size) (stack : Nat → UInt8) :
    checkVariable format pcd answers stack stored =
      if stored.field format .signature = format.signatureOld ∧
          stored.attributes = format.attributes ||| runtimeAccess then
        (EfiStatus.success, (setVariable (deleteVariable (some stored) answers.delete).2
          answers.write format.attributes
          (format.saved (convertOld format pcd (load (fun _ => 0) stored.data)))).2)
      else if stored.attributes ≠ format.attributes ∨
          stored.field format .signature ≠ format.signature then (compromisedData, some stored)
      else if format.version1 ≤ stored.field format .version ∧
          stored.field format .version < format.version3 then
        (EfiStatus.success, (setVariable (some stored) answers.write format.attributes
          (format.saved (upgrade format pcd (load (fun _ => 0) stored.data)))).2)
      else (EfiStatus.success, some stored) := by
  have agree := Agree.load length.ge stack fun _ => 0
  have loaded : ∀ field, format.get (load (fun _ => 0) stored.data) field =
    stored.field format field := fun _ => rfl
  simp only [checkVariable, get_congr agree, (agree.convertOld pcd).saved,
    (agree.upgrade pcd).saved, loaded, length, ne_eq, not_true_eq_false, if_false]
  by_cases attributes : stored.attributes = format.attributes
  · simp only [attributes, not_true_eq_false, if_false, false_or]
  · simp only [attributes, not_false_eq_true, if_true, true_or]

/-- The settings survive the initialization exactly when its reads and writes do not fail where it
matters, and the record is not one that it leaves or makes malformed. -/
theorem initializeNvVariable_survives_iff (format : SettingsFormat) (pcd : Setting → UInt8)
    (answers : InitAnswers) (stack : Nat → UInt8) (store : SettingsStore) :
    Survives format pcd store (initializeNvVariable format pcd answers stack store) ↔
      KeepsSettings format pcd answers store := by
  rw [KeepsSettings, initializeNvVariable]
  cases opened : getVariable store answers.read format.size with
  | error status =>
    obtain ⟨failed, absent⟩ := getVariable_error opened
    simp only [failed, if_true]
    exact writeDefaults_survives_iff absent
  | ok stored =>
    obtain rfl : store = some stored := by
      cases store with
      | none => cases read : answers.read <;> rw [read] at opened <;> exact nomatch opened
      | some present => rw [getVariable_ok opened]
    have compromised : Survives format pcd (some stored)
        (writeDefaults format pcd answers compromisedData (some stored)) ↔
          DefaultsHarmless format pcd answers (some stored) :=
      writeDefaults_survives_iff fun absent => absurd absent (by decide)
    by_cases length : stored.data.length = format.size
    · simp only [checkVariable_whole length, length, ne_eq, not_true_eq_false, if_false]
      by_cases old : stored.field format .signature = format.signatureOld ∧
          stored.attributes = format.attributes ||| runtimeAccess
      · simp only [if_pos old]
        exact survives_converted_iff length old
      · simp only [if_neg old]
        by_cases header : stored.attributes ≠ format.attributes ∨
            stored.field format .signature ≠ format.signature
        · simp only [ne_eq] at header
          simp only [if_pos header]
          exact compromised
        · have checked : _ ↔ _ := @survives_checked_iff _ pcd answers _ length old header
          simp only [ne_eq] at header
          simp only [if_neg header]
          rw [← checked]
          split <;> rfl
    · simp only [checkVariable, if_pos length]
      exact compromised

/-! ### Records that do not survive -/

def byteFormat : SettingsFormat where
  size := 7
  range
    | .signature => ⟨0, 1⟩
    | .version => ⟨1, 1⟩
    | .setting .ipv6 => ⟨2, 1⟩
    | .setting .altBoot => ⟨3, 1⟩
    | .setting .bootOrderLock => ⟨4, 1⟩
    | .setting .enableUsbBoot => ⟨5, 1⟩
    | .setting .startNetwork => ⟨6, 1⟩
  inside := by rintro (_ | _ | _ | _ | _ | _ | _) <;> decide
  apart := by
    rintro (_ | _ | _ | _ | _ | _ | _) (_ | _ | _ | _ | _ | _ | _) different <;>
      first | decide | exact absurd rfl different
  oneByte := by rintro (_ | _ | _ | _ | _) <;> rfl
  signature := 0x4D
  signatureOld := 0x6D
  attributes := 0x3
  version1 := 1
  version2 := 2
  version3 := 3
  signature_fits := by decide
  version_fits := by decide
  version1_pos := Nat.one_pos
  version1_lt := Nat.one_lt_two
  version2_lt := Nat.lt_succ_self 2
  notRuntime := by decide

/-- A record of the current version, all settings zero. -/
def disabledRecord : SettingsVariable := ⟨0x3, [0x4D, 3, 0, 0, 0, 0, 0]⟩

/-- A read that fails for want of a device replaces a well-formed record by the defaults. -/
theorem initializeNvVariable_replaces :
    ¬ Survives byteFormat (fun _ => 1) (some disabledRecord)
      (initializeNvVariable byteFormat (fun _ => 1)
        ⟨some ⟨EfiStatus.deviceError, by decide⟩, none, none⟩ (fun _ => 0)
        (some disabledRecord)) := by
  intro survives
  have values := survives.values disabledRecord .version3 rfl (by decide) (fun _ => 0) .ipv6
  exact absurd values (by decide)

end

end MuRockchip.Config
