/-
Which candidates the admin password authenticates.

The candidate is copied into a bounded buffer before it is hashed, so a candidate
authenticates when its copy is the password. A password that fills the buffer is
also met by every candidate that goes on after it.

* `authenticate_stored_iff`: when a candidate authenticates against a stored record.
* `authenticate_exact_iff`: when that is the case for the password alone.
-/
import MuRockchip.Password.StoreSafety

namespace MuRockchip.Password

open MuRockchip.Base

/-- The services behind a generation from an old record answer. -/
structure HashServices.Answer (services : HashServices) : Prop where
  pool : services.poolAvailable = true
  locates : services.locate.isError = false
  hashes : services.hashPassword.isError = false

/-- The candidate is the password, which is as long as a password may be, and more. -/
structure Extends (password candidate : Str16) : Prop where
  full : password.chars.length = pwMaxLength
  begins : password.chars <+: candidate.chars
  longer : candidate ≠ password

/-! ### Copies -/

theorem isPwStringValid_spec {string : Str16}
    (valid : (isPwStringValid (some string) false).1 = true) :
    safeCopyPassword string = string ∧ string.chars ≠ [] := by
  simp only [isPwStringValid, Bool.or_false, Bool.and_eq_true, Bool.not_eq_true',
    bne_eq_false_iff_eq, Bool.and_eq_false_iff, decide_eq_false_iff_not, Nat.not_lt] at valid
  obtain ⟨⟨own, short⟩, -⟩ := valid
  refine ⟨own.symm, fun empty => ?_⟩
  rw [← own, empty] at short
  revert short
  simp [pwMinLength]

variable {password : Str16} {derive : KeyDerivation} {services : HashServices}

theorem safeCopyPassword_eq_iff {candidate : Str16} (own : safeCopyPassword password = password) :
    safeCopyPassword candidate = password ↔ candidate = password ∨ Extends password candidate := by
  have fits : password.chars.length ≤ pwMaxLength := safeCopyPassword_self_iff.mp own
  constructor
  · intro copied
    by_cases same : candidate = password
    · exact .inl same
    · have taken : candidate.chars.take pwMaxLength = password.chars := congrArg Str16.chars copied
      refine .inr ⟨?_, ?_, same⟩
      · have long : ¬ candidate.chars.length ≤ pwMaxLength := by
          intro short
          rw [List.take_of_length_le short] at taken
          exact same (Str16.ext taken)
        rw [← taken, List.length_take]
        omega
      · rw [← taken]
        exact List.take_prefix _ _
  · rintro (rfl | goesOn)
    · exact own
    · have taken := List.prefix_iff_eq_take.mp goesOn.begins
      rw [goesOn.full] at taken
      exact Str16.ext taken.symm

/-! ### Records -/

theorem hashSalt_bytes (hash : HashVer1) : hashSalt hash.bytes = hash.salt := by
  have behind : hash.bytes.drop 2 = hash.salt.toList ++ hash.key.toList := by
    rw [HashVer1.bytes, List.append_assoc]
    exact List.drop_left' (leBytes_length 2 hashVer1Version)
  apply Vector.ext
  intro index inside
  simp [hashSalt, behind, List.getElem?_append]

theorem generate_new_ok {record : List UInt8}
    (generated : generatePasswordHash derive services none (some password) = .ok record) :
    (isPwStringValid (some password) false).1 = true ∧
      ∃ salt, record = HashVer1.bytes ⟨salt, derive password.chars salt⟩ := by
  unfold generatePasswordHash at generated
  dsimp only at generated
  split at generated
  · cases generated
  rename_i valid
  split at generated
  · cases generated
  split at generated
  · cases generated
  split at generated
  · cases generated
  rename_i store built
  refine ⟨by simpa using valid, ?_⟩
  rw [← Except.ok.inj generated]
  simp only [buildV1PasswordStore] at built
  split at built
  · cases built
  rename_i salt _
  split at built
  · cases built
  split at built
  · cases built
  rw [← Except.ok.inj built]
  exact ⟨salt, rfl⟩

theorem generate_ok_iff {hash : HashVer1} {record : List UInt8} :
    generatePasswordHash derive services (some hash.bytes) (some password) = .ok record ↔
      services.Answer ∧ (isPwStringValid (some password) false).1 = true ∧
        record = HashVer1.bytes ⟨hash.salt, derive password.chars hash.salt⟩ := by
  constructor
  · intro generated
    obtain ⟨valid, same⟩ := generate_ok generated
    rw [hashSalt_bytes] at same
    refine ⟨?_, valid, same⟩
    unfold generatePasswordHash at generated
    dsimp only at generated
    rw [if_neg (by simp [valid])] at generated
    split at generated
    · cases generated
    split at generated
    · cases generated
    rename_i pool
    split at generated
    · cases generated
    rename_i store built
    simp only [buildV1PasswordStore] at built
    split at built
    · cases built
    rename_i locates
    split at built
    · cases built
    rename_i hashes
    exact ⟨by simpa using pool, by simpa using locates, by simpa using hashes⟩
  · rintro ⟨answer, valid, rfl⟩
    simp [generatePasswordHash, valid, hash.version, answer.pool, buildV1PasswordStore,
      answer.locates, answer.hashes, hashSalt_bytes]

/-! ### Candidates -/

section

variable {derive : KeyDerivation} {services : HashServices} {password candidate : Str16}
  {salt : Vector UInt8 32}

def Separates (derive : KeyDerivation) (salt : Vector UInt8 32) (password candidate : Str16) :
    Prop :=
  derive (safeCopyPassword candidate).chars salt = derive password.chars salt →
    (safeCopyPassword candidate).chars = password.chars

theorem authenticate_stored_iff (valid : (isPwStringValid (some password) false).1 = true)
    (separates : Separates derive salt password candidate) (write : EfiStatus) :
    (passwordStoreAuthenticatePassword derive
        (some ⟨HashVer1.bytes ⟨salt, derive password.chars salt⟩, adminVariableAttrs⟩)
        (some candidate) none write none services).1 = true ↔
      services.Answer ∧ safeCopyPassword candidate = password := by
  obtain ⟨own, nonempty⟩ := isPwStringValid_spec valid
  have isSet := isPasswordSet_read (holding_stored ⟨salt, derive password.chars salt⟩) write
  simp only [holding, HashVer1.not_delete, Bool.not_false] at isSet
  simp only [passwordStoreAuthenticatePassword, isSet, Bool.not_true, Bool.false_eq_true, if_false,
    getVariable3, EfiStatus.isError_success, Option.getD_some]
  split
  · rename_i empty
    constructor
    · intro impossible
      cases impossible
    · rintro ⟨-, copied⟩
      refine absurd ?_ nonempty
      rw [← copied]
      show candidate.chars.take pwMaxLength = []
      rw [empty, List.take_nil]
  · cases generated : generatePasswordHash derive services
        (some (HashVer1.bytes ⟨salt, derive password.chars salt⟩))
        (some (safeCopyPassword candidate)) with
    | error status =>
      constructor
      · intro impossible
        cases impossible
      · rintro ⟨answer, rfl⟩
        rw [generate_ok_iff.mpr ⟨answer, valid, rfl⟩] at generated
        cases generated
    | ok record =>
      obtain ⟨answer, -, rfl⟩ := generate_ok_iff.mp generated
      dsimp only
      constructor
      · intro same
        have records := beq_iff_eq.mp same
        rw [HashVer1.bytes_length, List.take_of_length_le (HashVer1.bytes_length _).le] at records
        have keys := List.append_cancel_left records
        exact ⟨answer, Str16.ext (separates (Vector.toList_inj.mp keys.symm))⟩
      · rintro ⟨-, copied⟩
        rw [copied, HashVer1.bytes_length, List.take_of_length_le (HashVer1.bytes_length _).le]
        exact beq_self_eq_true _

/-- A password that was generated and stored is authenticated by itself and nothing else
if and only if no other candidate begins with it where it fills the copy, and the
services answer for itself. -/
theorem authenticate_exact_iff (derive : KeyDerivation) (generating services : HashServices)
    {password : Str16} {record : List UInt8} {before stored : VariableStore}
    {write status : EfiStatus} (candidate : Str16) (rewrite : EfiStatus)
    (generated : generatePasswordHash derive generating none (some password) = .ok record)
    (stores : passwordStoreSetPassword before (some record) write = (status, stored))
    (succeeds : status.isError = false)
    (separates : Separates derive (hashSalt record) password candidate) :
    ((passwordStoreAuthenticatePassword derive stored (some candidate) none rewrite none
        services).1 = true ↔ candidate = password) ↔
      (services.Answer → ¬ Extends password candidate) ∧
        (¬ services.Answer → candidate ≠ password) := by
  obtain ⟨valid, salt, rfl⟩ := generate_new_ok generated
  rw [hashSalt_bytes] at separates
  have holds : stored = some ⟨HashVer1.bytes ⟨salt, derive password.chars salt⟩,
      adminVariableAttrs⟩ := by
    simp only [passwordStoreSetPassword, HashVer1.valid, EfiStatus.isError_success] at stores
    cases failed : write.isError with
    | true =>
      rw [failed] at stores
      cases stores
      cases succeeds
    | false =>
      rw [failed] at stores
      cases stores
      rfl
  rw [holds, authenticate_stored_iff valid separates,
    safeCopyPassword_eq_iff (isPwStringValid_spec valid).1]
  have different (goesOn : Extends password candidate) : candidate ≠ password := goesOn.longer
  by_cases answer : services.Answer
  · simp only [answer, true_and, not_true_eq_false, false_implies, and_true, true_implies]
    constructor
    · intro own goesOn
      exact different goesOn (own.mp (.inr goesOn))
    · intro none
      exact or_iff_left none
  · simp only [answer, false_and, false_iff, false_implies, not_false_eq_true, true_implies,
      true_and]

end

/-- A derivation for short strings: the characters of the string over the salt. -/
def deriveShort : KeyDerivation := fun chars salt =>
  Vector.ofFn fun index => (chars.getD index 0).toUInt8 ^^^ salt[0]

/-- Every service behind a generation answers. -/
def HashServices.answering : HashServices :=
  ⟨true, some (Vector.replicate 32 1), EfiStatus.success, EfiStatus.success⟩

/-- `secret`. -/
def shortPassword : Str16 := ⟨[0x73, 0x65, 0x63, 0x72, 0x65, 0x74], by decide⟩

/-- `secret0`. -/
def shortCandidate : Str16 := ⟨[0x73, 0x65, 0x63, 0x72, 0x65, 0x74, 0x30], by decide⟩

def shortHash : HashVer1 :=
  ⟨Vector.replicate 32 1, deriveShort shortPassword.chars (Vector.replicate 32 1)⟩

/-- A short password is not authenticated by itself with a character more. -/
theorem authenticate_exact_short :
    (passwordStoreAuthenticatePassword deriveShort (some ⟨shortHash.bytes, adminVariableAttrs⟩)
      (some shortCandidate) none EfiStatus.success none HashServices.answering).1 = true ↔
        shortCandidate = shortPassword := by
  have generated : generatePasswordHash deriveShort HashServices.answering none
      (some shortPassword) = .ok shortHash.bytes := by
    decide +kernel
  have stores : passwordStoreSetPassword none (some shortHash.bytes) EfiStatus.success =
      (EfiStatus.success, some ⟨shortHash.bytes, adminVariableAttrs⟩) := rfl
  refine (authenticate_exact_iff deriveShort HashServices.answering HashServices.answering
    shortCandidate EfiStatus.success generated stores rfl ?_).mpr ⟨?_, ?_⟩
  · intro same
    revert same
    decide +kernel
  · intro _ goesOn
    exact absurd goesOn.full (by decide)
  · intro unanswered
    exact absurd ⟨rfl, rfl, rfl⟩ unanswered

/-- 128 times the letter `A`. -/
def longestPassword : Str16 := ⟨List.replicate 128 0x41, by decide⟩

/-- 129 times the letter `A`. -/
def longerCandidate : Str16 := ⟨List.replicate 129 0x41, by decide⟩

/-- A candidate one character longer than the longest password is authenticated too,
though its copy is told from no other password by the derivation. -/
theorem authenticate_longer :
    ∃ record stored,
      generatePasswordHash deriveShort HashServices.answering none (some longestPassword) =
        .ok record ∧
      passwordStoreSetPassword none (some record) EfiStatus.success =
        (EfiStatus.success, stored) ∧
      Separates deriveShort (hashSalt record) longestPassword longerCandidate ∧
      (passwordStoreAuthenticatePassword deriveShort stored (some longerCandidate) none
        EfiStatus.success none HashServices.answering).1 = true ∧
      longerCandidate ≠ longestPassword := by
  refine ⟨HashVer1.bytes ⟨Vector.replicate 32 1,
    deriveShort longestPassword.chars (Vector.replicate 32 1)⟩, _, ?_, rfl, ?_, ?_, ?_⟩
  · decide +kernel
  · intro _
    decide
  · decide +kernel
  · decide

end MuRockchip.Password
