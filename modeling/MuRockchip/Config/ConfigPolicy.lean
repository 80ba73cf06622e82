/-
Creating and publishing the configuration policy (`OemConfigPolicyCreatorPei.c`).

One pass over the knobs adds up the sizes of their entries, a second one writes the entries to the
buffer that was allocated in between. The buffer is given back by the entry point, and on an error
by `CreateConfPolicy` as well.

* `neededSize_eq`: what the first pass adds up to.
* `populate_ends`: what the second pass writes, and when it gets to the end.
* `policySound_iff`: the runs that publish the right policy and give the buffer back once.
-/
import MuRockchip.Config.ProfileOverrides

namespace MuRockchip.Config

open Base

/-! ### The parts outside the repository -/

/-- `CONFIG_VAR_LIST_ENTRY`. -/
structure VarListEntry where
  name : List UInt16
  guid : EfiGuid
  attributes : UInt32
  data : List UInt8
  deriving DecidableEq

/-- What the libraries and services answer, where it is asked for each knob by its place. -/
structure PolicyAnswers where
  locatePpi : EfiStatus
  /-- `GetVarListSize`. -/
  getVarListSize : Nat → Except ErrorStatus UInt32
  allocated : Bool
  /-- `GetActiveProfileIndex`. -/
  activeProfileIndex : Except ErrorStatus UInt32
  /-- `GetConfigKnobOverride`: the bytes it puts into the cache. -/
  configKnobOverride : Nat → Except ErrorStatus (Nat → UInt8)
  /-- An error of `ConvertVariableEntryToVariableList` other than a want of space. -/
  conversion : Nat → Option ErrorStatus
  setPolicy : EfiStatus

section

/- The format of an entry, and `CONF_VAR_NAME_LEN`. -/
variable (encode : VarListEntry → List UInt8) (confVarNameLen : Nat)

variable (knobs : List KnobData) (profiles : List Profile) (answers : PolicyAnswers)

/-! ### The first pass -/

/-- The size of the entries from the one at `i` on, as it is added up. -/
def neededSize : Nat → List KnobData → UInt32 → Except EfiStatus UInt32
  | _, [], needed => .ok needed
  | i, knob :: rest, needed =>
      if 2 ^ 32 ≤ knob.nameSize.toNat * 2 then .error EfiStatus.unsupported
      else
        match answers.getVarListSize i with
        | .error _ => .error EfiStatus.unsupported
        | .ok size =>
            if 2 ^ 32 ≤ needed.toNat + size.toNat then .error EfiStatus.unsupported
            else neededSize (i + 1) rest (needed + size)

/-! ### The second pass -/

/-- The buffers while the entries are written, with what has been written to them. -/
structure Population where
  cache : Cache
  unicodeName : List UInt16
  contents : Nat → UInt8
  offset : Nat
  /-- The characters written to the name buffer, terminators included. -/
  nameWrites : List Nat
  /-- Where the policy was written to, and how many bytes. -/
  policyWrites : List (Nat × Nat)

/-- `AsciiStrToUnicodeStrS`: nothing is written where the name does not fit its size. -/
def asciiStrToUnicodeStrS (knob : KnobData) (state : Population) : Population :=
  if knob.nameSize.toNat ≤ knob.name.length then state
  else
    { state with
      unicodeName := knob.name.map UInt8.toUInt16
      nameWrites := state.nameWrites ++ [knob.name.length + 1] }

/-- The value of a stored override, or the default where the knob does not take it. -/
def validated (knob : KnobData) (value : List UInt8) : List UInt8 :=
  match knob.validator with
  | none => value
  | some validator => if validator value then value else knob.defaultValue

/-- `GetConfigKnobOverride` with the validation of what it has found. -/
def takeOverride (i : Nat) (knob : KnobData) (state : Population) : EfiStatus × Population :=
  match answers.configKnobOverride i with
  | .error status => (status.val, state)
  | .ok bytes =>
      let value := (List.range knob.defaultValue.length).map bytes
      (EfiStatus.success,
        { state with cache := Function.update state.cache i (validated knob value) })

/-- An error that stops the creation, and not one of an override that is missing or stale. -/
def stops (status : EfiStatus) : Bool :=
  status.isError && status != EfiStatus.notFound && status != EfiStatus.badBufferSize

def entryOf (i : Nat) (knob : KnobData) (state : Population) : VarListEntry where
  name := state.unicodeName
  guid := knob.vendorNamespace
  attributes := 7
  data := state.cache i

/-- `ConvertVariableEntryToVariableList` with the step to the place after the entry. -/
def convert (needed i : Nat) (entry : VarListEntry) (state : Population) :
    EfiStatus × Population :=
  match answers.conversion i with
  | some status => (status.val, state)
  | none =>
      let bytes := encode entry
      if needed - state.offset < bytes.length then (EfiStatus.bufferTooSmall, state)
      else
        (EfiStatus.success,
          { state with
            contents := fun index =>
              if state.offset ≤ index ∧ index < state.offset + bytes.length then
                bytes.getD (index - state.offset) 0
              else state.contents index
            offset := state.offset + bytes.length
            policyWrites := state.policyWrites ++ [(state.offset, bytes.length)] })

def populateKnob (needed i : Nat) (knob : KnobData) (state : Population) :
    EfiStatus × Population :=
  let named := asciiStrToUnicodeStrS knob state
  let overridden := takeOverride answers i knob named
  if stops overridden.1 then overridden
  else convert encode answers needed i (entryOf i knob overridden.2) overridden.2

/-- The entries from the one at `i` on are written. -/
def populate (needed : Nat) : Nat → List KnobData → EfiStatus → Population →
    EfiStatus × Population
  | _, [], status, state => (status, state)
  | i, knob :: rest, _, state =>
      let next := populateKnob encode answers needed i knob state
      if next.1.isError then next else populate needed (i + 1) rest next.1 next.2

/-! ### Creating and publishing -/

def loadedCache : Cache := fun i => (knobs[i]?.map fun knob => knob.defaultValue).getD []

def activeProfile : Option Profile :=
  match answers.activeProfileIndex with
  | .ok index => profiles[index.toNat]?
  | .error _ => profiles[2 ^ 32 - 1]?

def profileStatus : EfiStatus :=
  match answers.activeProfileIndex with
  | .ok _ => EfiStatus.success
  | .error status => status.val

def profileCache : Option Cache :=
  match activeProfile profiles answers with
  | some profile => applyProfileOverrides knobs profile (loadedCache knobs)
  | none => some (loadedCache knobs)

/-- What `CreateConfPolicy` leaves. -/
structure Created where
  status : EfiStatus
  /-- `*ConfPolicy` is not NULL. -/
  policy : Bool
  size : UInt16
  frees : Nat
  contents : Nat → UInt8
  nameWrites : List Nat
  policyWrites : List (Nat × Nat)

/-- A creation that has not got to the allocation. -/
def Created.failed (status : EfiStatus) : Created := ⟨status, false, 0, 0, fun _ => 0, [], []⟩

/-- The second pass and what follows it, for a buffer of the size. -/
def fillPolicy (needed : UInt32) (cache : Cache) : Created :=
  let populated := populate encode answers needed.toNat 0 knobs (profileStatus answers)
    ⟨cache, [], fun _ => 0, 0, [], []⟩
  let status :=
    if populated.1.isError then populated.1
    else if populated.2.offset ≠ needed.toNat then EfiStatus.aborted
    else populated.1
  { status
    policy := true
    size := if status.isError then 0 else needed.toUInt16
    frees := if status.isError then 1 else 0
    contents := populated.2.contents
    nameWrites := populated.2.nameWrites
    policyWrites := populated.2.policyWrites }

/-- `CreateConfPolicy`. There is no answer where applying the profile leaves its list. -/
def createConfPolicy : Option Created :=
  match neededSize answers 0 knobs 0 with
  | .error status => some (.failed status)
  | .ok needed =>
      if 2 ^ 16 ≤ needed.toNat then some (.failed EfiStatus.unsupported)
      else if answers.allocated = false then some (.failed EfiStatus.outOfResources)
      else (profileCache knobs profiles answers).map (fillPolicy encode knobs answers needed)

/-- What the entry point has done when it returns. -/
structure EntryOutcome where
  published : Option (List UInt8)
  allocated : Bool
  frees : Nat
  nameWrites : List Nat
  policyWrites : List (Nat × Nat)

/-- What the entry point does with a policy, up to its `Exit`. -/
def publishPolicy (created : Created) : EntryOutcome where
  published :=
    if created.status.isError ∨ created.policy = false ∨ created.size = 0 then none
    else if answers.setPolicy.isError then none
    else some ((List.range created.size.toNat).map created.contents)
  allocated := created.policy
  frees := created.frees + if created.policy then 1 else 0
  nameWrites := created.nameWrites
  policyWrites := created.policyWrites

def oemConfigPolicyCreatorPeiEntry : Option EntryOutcome :=
  if answers.locatePpi.isError then some ⟨none, false, 0, [], []⟩
  else (createConfPolicy encode knobs profiles answers).map (publishPolicy answers)

end

/-! ### What should be published -/

section

variable (encode : VarListEntry → List UInt8) (confVarNameLen : Nat)

variable (knobs : List KnobData) (profiles : List Profile) (answers : PolicyAnswers)

/-- The value of each knob without stored overrides: that of the profile that is active and
applies, or the default. -/
def profileValues : Cache :=
  match activeProfile profiles answers with
  | none => loadedCache knobs
  | some profile =>
      if ∃ override ∈ profile.overrides, Misordered knobs override then loadedCache knobs
      else overridden knobs profile.overrides (loadedCache knobs)

/-- The entry a knob is to have: with its stored override, validated, or its value without. -/
def expectedEntry (values : Cache) (i : Nat) (knob : KnobData) : VarListEntry where
  name := knob.name.map UInt8.toUInt16
  guid := knob.vendorNamespace
  attributes := 7
  data :=
    match answers.configKnobOverride i with
    | .ok bytes => validated knob ((List.range knob.defaultValue.length).map bytes)
    | .error _ => values i

/-- The entries of some knobs from the start of the table, one after the other. -/
def policyOf (values : Cache) (knobs : List KnobData) : List UInt8 :=
  (knobs.mapIdx (expectedEntry answers values)).flatMap encode

/-- The size of the entries from the one at `i` on, where all can be found. -/
def totalSize : Nat → List KnobData → Option Nat
  | _, [] => some 0
  | i, knob :: rest =>
      if 2 ^ 32 ≤ knob.nameSize.toNat * 2 then none
      else
        match answers.getVarListSize i with
        | .error _ => none
        | .ok size => (totalSize (i + 1) rest).map (size.toNat + ·)

/-- A policy that is published is the right one, nothing is written past the name buffer or the
policy, and a policy that was allocated is given back once. -/
structure EntryOutcome.Sound (outcome : EntryOutcome) : Prop where
  published : ∀ policy, outcome.published = some policy →
    policy = policyOf encode answers (profileValues knobs profiles answers) knobs
  names : ∀ count ∈ outcome.nameWrites, count ≤ confVarNameLen
  policy : ∀ write ∈ outcome.policyWrites, ∀ size, totalSize answers 0 knobs = some size →
    write.1 + write.2 ≤ size
  frees : outcome.frees = if outcome.allocated then 1 else 0

/-- The entry point returns, and has done all of this. -/
def PolicySound : Prop :=
  ∃ outcome, oemConfigPolicyCreatorPeiEntry encode knobs profiles answers = some outcome ∧
    outcome.Sound encode confVarNameLen knobs profiles answers

/-- The steps for a knob do not fail. -/
def KnobSucceeds (i : Nat) : Prop :=
  (∀ status, answers.configKnobOverride i = .error status → stops status.val = false) ∧
    answers.conversion i = none

/-- The profile that is active can be applied or taken back, every name fits, no step fails, and
the entries have the size that was found for them. -/
structure Completes : Prop where
  profile : ∀ profile, activeProfile profiles answers = some profile →
    ∀ first, profile.overrides.head? = some first → ¬ Misordered knobs first
  names : ∀ knob ∈ knobs, knob.nameSize.toNat ≤ confVarNameLen
  status : knobs = [] → (profileStatus answers).isError = false
  steps : ∀ i < knobs.length, KnobSucceeds answers i
  size : totalSize answers 0 knobs =
    some (policyOf encode answers (profileValues knobs profiles answers) knobs).length

/-- The creation ends before the policy is allocated, or completes. -/
def PolicyMeets : Prop :=
  answers.locatePpi.isError = true ∨
    (∀ size, totalSize answers 0 knobs = some size → 2 ^ 16 ≤ size) ∨
    answers.allocated = false ∨
    Completes encode confVarNameLen knobs profiles answers

end

/-! ### The size -/

section

variable {answers : PolicyAnswers}

/-- The first pass finds the size that fits in 32 bits. -/
theorem neededSize_ok_iff (i : Nat) (knobs : List KnobData) (needed total : UInt32) :
    neededSize answers i knobs needed = .ok total ↔
      ∃ size, totalSize answers i knobs = some size ∧ needed.toNat + size = total.toNat := by
  induction knobs generalizing i needed with
  | nil => simp [neededSize, totalSize, UInt32.toNat_inj]
  | cons knob rest ih =>
      rw [neededSize, totalSize]
      by_cases long : 2 ^ 32 ≤ knob.nameSize.toNat * 2
      · rw [if_pos long, if_pos long]
        simp
      · rw [if_neg long, if_neg long]
        cases answers.getVarListSize i with
        | error status => simp
        | ok size =>
            dsimp only
            by_cases large : 2 ^ 32 ≤ needed.toNat + size.toNat
            · rw [if_pos large]
              have := total.toNat_lt
              refine iff_of_false (by simp) ?_
              rintro ⟨sum, found, exact⟩
              obtain ⟨more, -, rfl⟩ := Option.map_eq_some_iff.mp found
              omega
            · rw [if_neg large, ih]
              have sum : (needed + size).toNat = needed.toNat + size.toNat := by
                rw [UInt32.toNat_add]
                omega
              simp only [sum, Option.map_eq_some_iff]
              constructor
              · rintro ⟨more, found, exact⟩
                exact ⟨_, ⟨more, found, rfl⟩, by omega⟩
              · rintro ⟨_, ⟨more, found, rfl⟩, exact⟩
                exact ⟨more, found, by omega⟩

/-- The first pass finds a size that the policy may have. -/
theorem neededSize_small_iff (knobs : List KnobData) :
    (∃ total, neededSize answers 0 knobs 0 = .ok total ∧ total.toNat < 2 ^ 16) ↔
      ∃ size, totalSize answers 0 knobs = some size ∧ size < 2 ^ 16 := by
  simp only [neededSize_ok_iff]
  have none : (0 : UInt32).toNat = 0 := rfl
  constructor
  · rintro ⟨total, ⟨size, found, exact⟩, small⟩
    exact ⟨size, found, by omega⟩
  · rintro ⟨size, found, small⟩
    have whole : (UInt32.ofNat size).toNat = size := by
      rw [UInt32.toNat_ofNat']
      omega
    exact ⟨UInt32.ofNat size, ⟨size, found, by omega⟩, by omega⟩

end

/-! ### The entries -/

section

variable (encode : VarListEntry → List UInt8) (answers : PolicyAnswers) (values : Cache)
  (needed : Nat)

/-- The buffers when the entries of some knobs are written. -/
structure Populated (done : List KnobData) (state : Population) : Prop where
  offset : state.offset = (policyOf encode answers values done).length
  contents : (List.range state.offset).map state.contents = policyOf encode answers values done
  cache : ∀ i, done.length ≤ i → state.cache i = values i
  names : state.nameWrites = done.map fun knob => knob.nameSize.toNat
  writes : ∀ write ∈ state.policyWrites, write.1 + write.2 ≤ needed
  fits : state.offset ≤ needed

theorem policyOf_concat (done : List KnobData) (knob : KnobData) :
    policyOf encode answers values (done ++ [knob]) =
      policyOf encode answers values done ++
        encode (expectedEntry answers values done.length knob) := by
  rw [policyOf, List.mapIdx_concat, List.flatMap_append, List.flatMap_singleton]
  rfl

theorem policyOf_length_le (done rest : List KnobData) :
    (policyOf encode answers values done).length ≤
      (policyOf encode answers values (done ++ rest)).length := by
  rw [policyOf, policyOf, List.mapIdx_append, List.flatMap_append, List.length_append]
  exact Nat.le_add_right _ _

/-- Bytes that are written after others. -/
theorem range_append_bytes (old : Nat → UInt8) (offset : Nat) (bytes : List UInt8) :
    (List.range (offset + bytes.length)).map (fun index =>
        if offset ≤ index ∧ index < offset + bytes.length then bytes.getD (index - offset) 0
        else old index) =
      (List.range offset).map old ++ bytes := by
  rw [List.range_add, List.map_append]
  congr 1
  · refine List.map_congr_left fun index member => if_neg ?_
    have := List.mem_range.mp member
    omega
  · apply List.ext_getElem
    · simp
    · intro index _ inside
      simp [inside]

theorem asciiStrToUnicodeStrS_eq (knob : KnobData) (state : Population) :
    asciiStrToUnicodeStrS knob state =
      { state with
        unicodeName := knob.name.map UInt8.toUInt16
        nameWrites := state.nameWrites ++ [knob.nameSize.toNat] } := by
  have fits : ¬ knob.nameSize.toNat ≤ knob.name.length := by
    rw [knob.terminated]
    omega
  rw [asciiStrToUnicodeStrS, if_neg fits, knob.terminated]

variable {state : Population} {done : List KnobData}

/-- The override of a knob is taken, where it is not one that stops the creation. -/
theorem takeOverride_data {i : Nat} (knob : KnobData) (cached : state.cache i = values i) :
    (takeOverride answers i knob state).2 =
      { state with
        cache := Function.update state.cache i
          (expectedEntry answers values i knob).data } := by
  rw [takeOverride, expectedEntry]
  cases answers.configKnobOverride i with
  | error status =>
      dsimp only
      rw [← cached, Function.update_eq_self]
  | ok bytes => rfl

theorem takeOverride_stops_iff (i : Nat) (knob : KnobData) (state : Population) :
    stops (takeOverride answers i knob state).1 = false ↔
      ∀ status, answers.configKnobOverride i = .error status → stops status.val = false := by
  rw [takeOverride]
  cases answers.configKnobOverride i with
  | error status => simp
  | ok bytes => simp [stops]

/-- The steps for the next knob are those of its entry. -/
theorem populateKnob_eq {i : Nat} (knob : KnobData) (cached : state.cache i = values i)
    (goes : ∀ status, answers.configKnobOverride i = .error status → stops status.val = false) :
    populateKnob encode answers needed i knob state =
      convert encode answers needed i (expectedEntry answers values i knob)
        { state with
          unicodeName := knob.name.map UInt8.toUInt16
          nameWrites := state.nameWrites ++ [knob.nameSize.toNat]
          cache := Function.update state.cache i
            (expectedEntry answers values i knob).data } := by
  have named : (asciiStrToUnicodeStrS knob state).cache i = values i := by
    rw [asciiStrToUnicodeStrS_eq]
    exact cached
  have goesOn :
      ¬ stops (takeOverride answers i knob (asciiStrToUnicodeStrS knob state)).1 = true := by
    rw [(takeOverride_stops_iff answers i knob _).mpr goes]
    exact Bool.false_ne_true
  rw [populateKnob, if_neg goesOn, takeOverride_data answers values knob named,
    asciiStrToUnicodeStrS_eq]
  congr 1
  simp [entryOf, expectedEntry]

/-- The entry of the next knob is written, or its steps fail. -/
theorem populateKnob_ends (populated : Populated encode answers values needed done state)
    (knob : KnobData) :
    (KnobSucceeds answers done.length ∧
        (policyOf encode answers values (done ++ [knob])).length ≤ needed ∧
        (populateKnob encode answers needed done.length knob state).1 = EfiStatus.success ∧
        Populated encode answers values needed (done ++ [knob])
          (populateKnob encode answers needed done.length knob state).2) ∨
      (¬ (KnobSucceeds answers done.length ∧
          (policyOf encode answers values (done ++ [knob])).length ≤ needed) ∧
        (populateKnob encode answers needed done.length knob state).1.isError = true) := by
  by_cases goes : ∀ status, answers.configKnobOverride done.length = .error status →
      stops status.val = false
  · rw [populateKnob_eq encode answers values needed knob (populated.cache _ le_rfl) goes, convert]
    cases fails : answers.conversion done.length with
    | some status =>
        right
        refine ⟨?_, status.property⟩
        rintro ⟨⟨-, works⟩, -⟩
        rw [fails] at works
        cases works
    | none =>
        have fits := populated.fits
        have length := congrArg List.length (policyOf_concat encode answers values done knob)
        rw [List.length_append, ← populated.offset] at length
        dsimp only
        by_cases space : needed - state.offset <
            (encode (expectedEntry answers values done.length knob)).length
        · right
          rw [if_pos space]
          refine ⟨?_, rfl⟩
          rintro ⟨-, inside⟩
          omega
        · left
          rw [if_neg space]
          refine ⟨⟨goes, fails⟩, by omega, rfl, ?_⟩
          constructor
          · exact length.symm
          · dsimp only
            rw [range_append_bytes, populated.contents, policyOf_concat]
          · intro i later
            rw [List.length_append, List.length_singleton] at later
            dsimp only
            rw [Function.update_of_ne (by omega)]
            exact populated.cache i (by omega)
          · rw [List.map_append, ← populated.names]
            rfl
          · intro write member
            rcases List.mem_append.mp member with before | last
            · exact populated.writes write before
            · rw [List.mem_singleton] at last
              subst last
              dsimp only
              omega
          · dsimp only
            omega
  · right
    refine ⟨fun ⟨⟨works, _⟩, _⟩ => goes works, ?_⟩
    have stopped : stops (takeOverride answers done.length knob
        (asciiStrToUnicodeStrS knob state)).1 = true := by
      rw [← takeOverride_stops_iff answers done.length knob (asciiStrToUnicodeStrS knob state)]
        at goes
      exact Bool.not_eq_false _ ▸ goes
    rw [populateKnob, if_pos stopped]
    simp only [stops, Bool.and_eq_true] at stopped
    exact stopped.1.1

/-- What the second pass needs to get to the end of some knobs. -/
structure Reaches (done rest : List KnobData) (status : EfiStatus) : Prop where
  status : rest = [] → status.isError = false
  steps : ∀ i < rest.length, KnobSucceeds answers (done.length + i)
  fits : (policyOf encode answers values (done ++ rest)).length ≤ needed

/-- The second pass writes the entries of all knobs, or fails. -/
theorem populate_ends (populated : Populated encode answers values needed done state)
    (rest : List KnobData) (status : EfiStatus) :
    (Reaches encode answers values needed done rest status ∧
        (populate encode answers needed done.length rest status state).1.isError = false ∧
        Populated encode answers values needed (done ++ rest)
          (populate encode answers needed done.length rest status state).2) ∨
      (¬ Reaches encode answers values needed done rest status ∧
        (populate encode answers needed done.length rest status state).1.isError = true) := by
  induction rest generalizing done state status with
  | nil =>
      rw [populate, List.append_nil]
      cases failed : status.isError with
      | false =>
          have fits := populated.fits
          rw [populated.offset] at fits
          refine .inl ⟨⟨fun _ => failed, fun i below => absurd below (Nat.not_lt_zero i), ?_⟩, rfl,
            populated⟩
          rwa [List.append_nil]
      | true =>
          refine .inr ⟨?_, rfl⟩
          rintro ⟨works, -, -⟩
          rw [works rfl] at failed
          cases failed
  | cons knob rest ih =>
      have longer : done ++ knob :: rest = (done ++ [knob]) ++ rest := by simp
      rw [populate]
      rcases populateKnob_ends encode answers values needed populated knob with
        ⟨succeeds, inside, success, next⟩ | ⟨fails, error⟩
      · rw [success, if_neg (by decide)]
        have later := ih next EfiStatus.success
        rw [List.length_append, List.length_singleton] at later
        have same : Reaches encode answers values needed (done ++ [knob]) rest EfiStatus.success ↔
            Reaches encode answers values needed done (knob :: rest) status := by
          constructor
          · rintro ⟨-, steps, fits⟩
            refine ⟨fun empty => absurd empty (List.cons_ne_nil knob rest), ?_, longer ▸ fits⟩
            intro i below
            cases i with
            | zero => exact succeeds
            | succ i =>
                have step := steps i (by simpa using below)
                rwa [List.length_append, List.length_singleton, Nat.add_assoc,
                  Nat.add_comm 1] at step
          · rintro ⟨-, steps, fits⟩
            refine ⟨fun _ => rfl, ?_, longer ▸ fits⟩
            intro i below
            have step := steps (i + 1) (by simpa using below)
            rwa [List.length_append, List.length_singleton, Nat.add_assoc, Nat.add_comm 1]
        rw [longer, ← same]
        exact later
      · rw [if_pos error]
        refine .inr ⟨?_, error⟩
        rintro ⟨-, steps, fits⟩
        refine fails ⟨steps 0 (Nat.succ_pos _), le_trans ?_ fits⟩
        rw [longer]
        exact policyOf_length_le encode answers values (done ++ [knob]) rest

end

/-! ### The policy -/

section

variable {encode : VarListEntry → List UInt8} {confVarNameLen : Nat}

variable {knobs : List KnobData} {profiles : List Profile} {answers : PolicyAnswers}

theorem defaulted_loadedCache (overrides : List KnobOverride) :
    defaulted knobs overrides (loadedCache knobs) = loadedCache knobs := by
  funext knob
  rw [defaulted]
  split <;> rfl

/-- The caches with the profile hold the values it gives, unless applying it leaves its list. -/
theorem profileCache_eq : profileCache knobs profiles answers =
    if ∃ profile, activeProfile profiles answers = some profile ∧
        ∃ first, profile.overrides.head? = some first ∧ Misordered knobs first then none
    else some (profileValues knobs profiles answers) := by
  rw [profileCache, profileValues]
  cases active : activeProfile profiles answers with
  | none => simp
  | some profile =>
      simp only [Option.some.injEq, exists_eq_left', applyProfileOverrides_eq,
        defaulted_loadedCache]
      split
      · rfl
      · split <;> rfl

/-- The second pass starts with nothing written. -/
theorem populated_start (values : Cache) (needed : Nat) :
    Populated encode answers values needed [] ⟨values, [], fun _ => 0, 0, [], []⟩ where
  offset := rfl
  contents := rfl
  cache _ _ := rfl
  names := rfl
  writes _ member := by cases member
  fits := Nat.zero_le needed

theorem fillPolicy_ends (values : Cache) (needed : UInt32) :
    ((knobs = [] → (profileStatus answers).isError = false) ∧
        (∀ i < knobs.length, KnobSucceeds answers i) ∧
        (policyOf encode answers values knobs).length = needed.toNat ∧
        (fillPolicy encode knobs answers needed values).status.isError = false ∧
        (List.range needed.toNat).map (fillPolicy encode knobs answers needed values).contents =
          policyOf encode answers values knobs ∧
        (fillPolicy encode knobs answers needed values).nameWrites =
          knobs.map (fun knob => knob.nameSize.toNat) ∧
        ∀ write ∈ (fillPolicy encode knobs answers needed values).policyWrites,
          write.1 + write.2 ≤ needed.toNat) ∨
      (¬ ((knobs = [] → (profileStatus answers).isError = false) ∧
          (∀ i < knobs.length, KnobSucceeds answers i) ∧
          (policyOf encode answers values knobs).length = needed.toNat) ∧
        (fillPolicy encode knobs answers needed values).status.isError = true) := by
  have ends := populate_ends encode answers values needed.toNat
    (populated_start values needed.toNat) knobs (profileStatus answers)
  simp only [List.length_nil, List.nil_append] at ends
  rcases ends with ⟨⟨status, steps, fits⟩, works, populated⟩ | ⟨fails, error⟩
  · simp only [List.length_nil, Nat.zero_add, List.nil_append] at steps fits
    have goes : ¬ (populate encode answers needed.toNat 0 knobs (profileStatus answers)
        ⟨values, [], fun _ => 0, 0, [], []⟩).1.isError = true := by
      rw [works]
      exact Bool.false_ne_true
    by_cases exact_ : (policyOf encode answers values knobs).length = needed.toNat
    · refine .inl ⟨status, steps, exact_, ?_, ?_, populated.names, populated.writes⟩
      · simp only [fillPolicy]
        rw [if_neg goes, if_neg (by rw [populated.offset]; exact not_not.mpr exact_)]
        exact works
      · rw [← exact_, ← populated.offset]
        exact populated.contents
    · refine .inr ⟨fun all => exact_ all.2.2, ?_⟩
      simp only [fillPolicy]
      rw [if_neg goes, if_pos (by rw [populated.offset]; exact exact_)]
      rfl
  · refine .inr ⟨?_, ?_⟩
    · rintro ⟨status, steps, exact_⟩
      refine fails ⟨status, ?_, ?_⟩
      · simpa only [List.length_nil, Nat.zero_add] using steps
      · rw [List.nil_append, exact_]
    · simp only [fillPolicy]
      rw [if_pos error]
      exact error

theorem sound_of_nothing : EntryOutcome.Sound encode confVarNameLen knobs profiles answers
    ⟨none, false, 0, [], []⟩ where
  published policy same := by cases same
  names count member := by cases member
  policy write member := by cases member
  frees := rfl

variable {needed : UInt32}

theorem totalSize_of_needed (found : neededSize answers 0 knobs 0 = .ok needed) :
    totalSize answers 0 knobs = some needed.toNat := by
  obtain ⟨size, total, exact_⟩ := (neededSize_ok_iff 0 knobs 0 needed).mp found
  have none : (0 : UInt32).toNat = 0 := rfl
  rw [total, ← exact_, none, Nat.zero_add]

theorem frees_publishPolicy_iff (values : Cache) (needed : UInt32) :
    (publishPolicy answers (fillPolicy encode knobs answers needed values)).frees = 1 ↔
      (fillPolicy encode knobs answers needed values).status.isError = false := by
  have once (failed : Bool) :
      ((if failed then 1 else 0) + if true then 1 else 0) = 1 ↔ failed = false := by
    cases failed <;> decide
  exact once _

theorem published_of_filled {values : Cache} (small : needed.toNat < 2 ^ 16)
    (works : (fillPolicy encode knobs answers needed values).status.isError = false)
    {policy : List UInt8}
    (published : (publishPolicy answers (fillPolicy encode knobs answers needed values)).published =
      some policy) :
    policy =
      (List.range needed.toNat).map (fillPolicy encode knobs answers needed values).contents := by
  have size : (fillPolicy encode knobs answers needed values).size = needed.toUInt16 := by
    show (if (fillPolicy encode knobs answers needed values).status.isError then 0 else _) = _
    rw [works]
    rfl
  have whole : needed.toUInt16.toNat = needed.toNat := by
    rw [UInt32.toNat_toUInt16]
    omega
  rw [publishPolicy] at published
  dsimp only at published
  split at published
  · cases published
  · split at published
    · cases published
    · rw [size, whole] at published
      exact (Option.some_inj.mp published).symm

/-- The policy of a table that completes is the one that is wanted, and is given back once. -/
theorem policySound_iff_of_allocated (located : answers.locatePpi.isError = false)
    (found : neededSize answers 0 knobs 0 = .ok needed) (small : needed.toNat < 2 ^ 16)
    (allocated : answers.allocated = true) :
    PolicySound encode confVarNameLen knobs profiles answers ↔
      Completes encode confVarNameLen knobs profiles answers := by
  have total := totalSize_of_needed found
  have goes : ¬ answers.locatePpi.isError = true := by
    rw [located]
    exact Bool.false_ne_true
  have held : ¬ answers.allocated = false := by
    rw [allocated]
    decide
  have created : createConfPolicy encode knobs profiles answers =
      (profileCache knobs profiles answers).map (fillPolicy encode knobs answers needed) := by
    rw [createConfPolicy, found]
    dsimp only
    rw [if_neg (by omega), if_neg held]
  rw [PolicySound, oemConfigPolicyCreatorPeiEntry, if_neg goes, created, profileCache_eq]
  by_cases misordered : ∃ profile, activeProfile profiles answers = some profile ∧
      ∃ first, profile.overrides.head? = some first ∧ Misordered knobs first
  · rw [if_pos misordered]
    refine iff_of_false (by simp) ?_
    intro completes
    obtain ⟨profile, active, first, head, bad⟩ := misordered
    exact completes.profile profile active first head bad
  · rw [if_neg misordered]
    simp only [Option.map_some, Option.some.injEq, exists_eq_left']
    have inPlace : ∀ profile, activeProfile profiles answers = some profile →
        ∀ first, profile.overrides.head? = some first → ¬ Misordered knobs first :=
      fun profile active first head bad => misordered ⟨profile, active, first, head, bad⟩
    rcases fillPolicy_ends (profileValues knobs profiles answers) needed with
      ⟨status, steps, length, works, contents, names, writes⟩ | ⟨fails, error⟩
    · constructor
      · intro sound
        refine ⟨inPlace, ?_, status, steps, ?_⟩
        · intro knob member
          have written : knob.nameSize.toNat ∈ (fillPolicy encode knobs answers needed
              (profileValues knobs profiles answers)).nameWrites := by
            rw [names]
            exact List.mem_map_of_mem member
          exact sound.names _ written
        · rw [total, length]
      · intro completes
        refine ⟨?_, ?_, ?_, ?_⟩
        · intro policy published
          rw [published_of_filled small works published, contents]
        · intro count member
          change count ∈ (fillPolicy encode knobs answers needed _).nameWrites at member
          rw [names] at member
          obtain ⟨knob, inTable, rfl⟩ := List.mem_map.mp member
          exact completes.names knob inTable
        · intro write member size found
          obtain rfl := Option.some_inj.mp (total.symm.trans found)
          exact writes write member
        · exact (frees_publishPolicy_iff _ needed).mpr works
    · refine iff_of_false ?_ ?_
      · intro sound
        have once := (frees_publishPolicy_iff _ needed).mp sound.frees
        rw [error] at once
        cases once
      · intro completes
        have length := Option.some_inj.mp (total.symm.trans completes.size)
        exact fails ⟨completes.status, completes.steps, length.symm⟩

/-- A policy that is not allocated does no harm. -/
theorem policySound_of_failed (status : EfiStatus) (located : answers.locatePpi.isError = false)
    (created : createConfPolicy encode knobs profiles answers = some (.failed status)) :
    PolicySound encode confVarNameLen knobs profiles answers := by
  refine ⟨_, ?_, sound_of_nothing⟩
  rw [oemConfigPolicyCreatorPeiEntry, located, created]
  simp [publishPolicy, Created.failed]

end

/-- The policy is created, published and given back as it should be exactly if the creation ends
before the allocation or completes. -/
theorem configPolicy_sound_iff (encode : VarListEntry → List UInt8) (confVarNameLen : Nat)
    (knobs : List KnobData) (profiles : List Profile) (answers : PolicyAnswers) :
    PolicySound encode confVarNameLen knobs profiles answers ↔
      PolicyMeets encode confVarNameLen knobs profiles answers := by
  cases located : answers.locatePpi.isError with
  | true =>
      refine iff_of_true ⟨_, ?_, sound_of_nothing⟩ (.inl located)
      rw [oemConfigPolicyCreatorPeiEntry, if_pos located]
  | false =>
      cases found : neededSize answers 0 knobs 0 with
      | error status =>
          refine iff_of_true (policySound_of_failed status located ?_) (.inr (.inl ?_))
          · rw [createConfPolicy, found]
          · intro size total
            by_contra small
            obtain ⟨needed, sum, -⟩ :=
              (neededSize_small_iff knobs).mpr ⟨size, total, Nat.not_le.mp small⟩
            rw [found] at sum
            cases sum
      | ok needed =>
          have total := totalSize_of_needed found
          by_cases large : 2 ^ 16 ≤ needed.toNat
          · refine iff_of_true
              (policySound_of_failed EfiStatus.unsupported located ?_) (.inr (.inl ?_))
            · rw [createConfPolicy, found]
              exact if_pos large
            · intro size same
              obtain rfl := Option.some_inj.mp (total.symm.trans same)
              exact large
          · cases allocated : answers.allocated with
            | false =>
                refine iff_of_true (policySound_of_failed EfiStatus.outOfResources located ?_)
                  (.inr (.inr (.inl allocated)))
                rw [createConfPolicy, found]
                dsimp only
                rw [if_neg large, if_pos allocated]
            | true =>
                rw [policySound_iff_of_allocated located found (Nat.not_le.mp large) allocated]
                constructor
                · intro completes
                  exact .inr (.inr (.inr completes))
                · rintro (error | none | fails | completes)
                  · rw [located] at error
                    cases error
                  · exact absurd (none _ total) large
                  · rw [allocated] at fails
                    cases fails
                  · exact completes

/-- The knob of one byte that is enabled by default. -/
def powerOnPort0 : KnobData where
  knob := 0
  defaultValue := [1]
  name := [0x50, 0x30]
  nameSize := 3
  vendorNamespace :=
    ⟨0x5e6a1994, 0xe683, 0x4d8c, ⟨#[0x9d, 0xc1, 0xf1, 0xf6, 0x34, 0x90, 0xfc, 0x60], rfl⟩⟩
  validator := none
  sized := Nat.one_lt_two_pow (Nat.succ_ne_zero 31)
  terminated := rfl

/-- The variable store cannot be read. -/
def unreadable : PolicyAnswers where
  locatePpi := EfiStatus.success
  getVarListSize _ := .ok 48
  allocated := true
  activeProfileIndex := .ok 0
  configKnobOverride _ := .error ⟨EfiStatus.deviceError, EfiStatus.isError_deviceError⟩
  conversion _ := none
  setPolicy := EfiStatus.success

/-- A creation that fails after the allocation gives its policy back twice. -/
theorem configPolicy_freed_twice :
    ¬ PolicySound (fun _ => []) 64 [powerOnPort0] [] unreadable := by
  intro sound
  have found : neededSize unreadable 0 [powerOnPort0] 0 = .ok 48 := rfl
  have completes := (policySound_iff_of_allocated rfl found (by decide) rfl).mp sound
  have continues := (completes.steps 0 Nat.one_pos).1 _ rfl
  exact absurd continues (by decide)

end MuRockchip.Config
