/-
The admin-password policy (`PasswordPolicyLib.c`).

A password is a string of 16-bit characters. The policy copies it into a bounded
buffer, checks length and character set, and turns it into a record: a version, a
salt and a key derived from the two. A special record of four bytes says that no
password is set.

* `validatePasswordHash_cases`: what an accepted record looks like.
* `generate_ok`: what a successful generation from an old record returns.
* `isPwStringValid_exact`: which strings are valid, and what the bitmap says of the others.
-/
import MuRockchip.Uefi.Types

namespace MuRockchip.Password

open MuRockchip.Base

/-! ### Strings -/

def pwMinLength : Nat := 6

def pwMaxLength : Nat := 128

/-- `PasswordPolicySafeCopyPassword` into a buffer of `PW_MAX_LENGTH + 1`
characters: a longer string is cut. -/
def safeCopyPassword (password : Str16) : Str16 where
  chars := password.chars.take pwMaxLength
  unterminated := fun member => password.unterminated (List.mem_of_mem_take member)

def validChars : List UInt16 :=
  ("ABCDEFGHIJKLMNOPQRSTUVWXYZabcdefghijklmnopqrstuvwxyz0123456789" ++
    "!@#$%^&*()?<>\x7b\x7d[]-_=+|.,;:'`~\"").toList.map fun char => UInt16.ofNat char.toNat

def isValidChar (char : UInt16) : Bool := validChars.contains char

abbrev PwTestBitmap := UInt32

def pwTestStringNull : PwTestBitmap := 0x1
def pwTestStringTooShort : PwTestBitmap := 0x2
def pwTestStringTooLong : PwTestBitmap := 0x4
def pwTestStringInvalidChar : PwTestBitmap := 0x8

/-- `PasswordPolicyIsPwStringValid`. With no bitmap asked for, a failed test
skips the later ones; the bitmap returned is then meaningless and zero. -/
def isPwStringValid (string : Option Str16) (failuresAsked : Bool) : Bool × PwTestBitmap :=
  let report (failed : Bool) (bit bitmap : PwTestBitmap) : PwTestBitmap :=
    if failed && failuresAsked then bitmap ||| bit else bitmap
  match string with
  | none => (false, report true pwTestStringNull 0)
  | some string =>
    let tempPassword := safeCopyPassword string
    let tooLong := string != tempPassword
    let result := !tooLong
    let failures := report tooLong pwTestStringTooLong 0
    let tooShort := (result || failuresAsked) && tempPassword.chars.length < pwMinLength
    let result := result && !tooShort
    let failures := report tooShort pwTestStringTooShort failures
    let invalid := (result || failuresAsked) && !tempPassword.chars.all isValidChar
    (result && !invalid, report invalid pwTestStringInvalidChar failures)

/-! ### Records -/

/-- `PRIVATE_HASH_VER_1_VERSION`. -/
def hashVer1Version : Nat := 1

/-- `PASSWORD_HASH_VER_DELETE`. -/
def hashVerDelete : Nat := 0xADDEADDE

/-- The record of no password, four bytes long. -/
def nullPasswordHash : List UInt8 := leBytes 4 hashVerDelete

/-- `PRIVATE_HASH_VER_1`: salt and key behind the version. -/
structure HashVer1 where
  salt : Vector UInt8 32
  key : Vector UInt8 40
  deriving DecidableEq, Repr

/-- The packed record, 74 bytes long. -/
def HashVer1.bytes (hash : HashVer1) : List UInt8 :=
  leBytes 2 hashVer1Version ++ hash.salt.toList ++ hash.key.toList

/-- The packed header's version. -/
def hashVersion (record : List UInt8) : Nat := leValue (record.take 2)

/-- `Ver1.Salt` of a record. -/
def hashSalt (record : List UInt8) : Vector UInt8 32 :=
  Vector.ofFn fun index => (record.drop 2).getD index 0

/-- The record carries the delete marker. -/
def isDeleteHash (record : List UInt8) : Bool :=
  4 ≤ record.length && leValue (record.take 4) = hashVerDelete

/-- `PasswordPolicyValidatePasswordHash`. -/
def validatePasswordHash (record : Option (List UInt8)) : EfiStatus :=
  match record with
  | none => EfiStatus.invalidParameter
  | some record =>
    if record.length < 2 then EfiStatus.invalidParameter
    else if isDeleteHash record then EfiStatus.success
    else if hashVersion record = hashVer1Version ∧ record.length = 74 then EfiStatus.success
    else EfiStatus.invalidParameter

/-! ### Generation -/

/-- The key `HashPassword` of the PKCS5 protocol derives from a password and a
salt, for the digest, iteration count and key size of version 1. -/
abbrev KeyDerivation := List UInt16 → Vector UInt8 32 → Vector UInt8 40

/-- How the services behind a generation answer: whether the pool has room, the
salt `GenerateSalt` draws, and the statuses of locating the PKCS5 protocol and of
its `HashPassword`. -/
structure HashServices where
  poolAvailable : Bool
  freshSalt : Option (Vector UInt8 32)
  locate : EfiStatus
  hashPassword : EfiStatus
  deriving DecidableEq, Repr

def buildV1PasswordStore (derive : KeyDerivation) (services : HashServices)
    (oldStore : Option (List UInt8)) (password : Str16) : Except EfiStatus HashVer1 :=
  let salt := match oldStore with
    | none => services.freshSalt
    | some record => some (hashSalt record)
  match salt with
  | none => .error EfiStatus.outOfResources
  | some salt =>
    if services.locate.isError then .error services.locate
    else if services.hashPassword.isError then .error services.hashPassword
    else .ok ⟨salt, derive password.chars salt⟩

/-- `PasswordPolicyGeneratePasswordHash`. -/
def generatePasswordHash (derive : KeyDerivation) (services : HashServices)
    (oldSalt : Option (List UInt8)) (password : Option Str16) : Except EfiStatus (List UInt8) :=
  match password with
  | none => if oldSalt.isSome then .error EfiStatus.invalidParameter else .ok nullPasswordHash
  | some string =>
    if !(isPwStringValid (some string) false).1 then .error EfiStatus.invalidParameter
    else if oldSalt.any fun record => hashVersion record != hashVer1Version then
      .error EfiStatus.invalidParameter
    else if !services.poolAvailable then .error EfiStatus.outOfResources
    else match buildV1PasswordStore derive services oldSalt string with
      | .error _ => .error EfiStatus.aborted
      | .ok store => .ok store.bytes

/-! ### What the policy accepts and produces -/

@[simp]
theorem HashVer1.bytes_length (hash : HashVer1) : hash.bytes.length = 74 := by
  simp [HashVer1.bytes]

theorem HashVer1.version (hash : HashVer1) : hashVersion hash.bytes = hashVer1Version := by
  simp [hashVersion, HashVer1.bytes, leBytes, leValue, hashVer1Version]

theorem HashVer1.not_delete (hash : HashVer1) : isDeleteHash hash.bytes = false := by
  have low : leValue (hash.bytes.take 4) % 256 = 1 := by
    simp only [HashVer1.bytes, leBytes, hashVer1Version, List.cons_append, List.take_succ_cons,
      leValue]
    simp [Nat.add_mul_mod_self_left]
  have different : leValue (hash.bytes.take 4) ≠ hashVerDelete := by
    intro same
    rw [same] at low
    exact absurd low (by decide)
  simp [isDeleteHash, different]

theorem HashVer1.valid (hash : HashVer1) :
    validatePasswordHash (some hash.bytes) = EfiStatus.success := by
  simp [validatePasswordHash, hash.version]

theorem nullPasswordHash_valid :
    validatePasswordHash (some nullPasswordHash) = EfiStatus.success := by decide

theorem validatePasswordHash_cases {record : List UInt8}
    (accepted : (validatePasswordHash (some record)).isError = false) :
    isDeleteHash record = true ∨ hashVersion record = hashVer1Version ∧ record.length = 74 := by
  unfold validatePasswordHash at accepted
  split at accepted
  · next absent => cases absent
  · next given =>
    cases given
    split at accepted
    · exact absurd accepted (by decide)
    · split at accepted
      · next delete => exact Or.inl delete
      · split at accepted
        · next version => exact Or.inr version
        · exact absurd accepted (by decide)

variable {derive : KeyDerivation} {services : HashServices}

theorem buildV1_ok {old : List UInt8} {password : Str16} {store : HashVer1}
    (built : buildV1PasswordStore derive services (some old) password = .ok store) :
    store = ⟨hashSalt old, derive password.chars (hashSalt old)⟩ := by
  simp only [buildV1PasswordStore] at built
  split at built
  · cases built
  · split at built
    · cases built
    · exact (Except.ok.inj built).symm

/-- A record generated over an old one keeps its salt; its key is derived from
the password as it was handed in. -/
theorem generate_ok {old generated : List UInt8} {password : Str16}
    (ok : generatePasswordHash derive services (some old) (some password) = .ok generated) :
    (isPwStringValid (some password) false).1 = true ∧
      generated = HashVer1.bytes ⟨hashSalt old, derive password.chars (hashSalt old)⟩ := by
  unfold generatePasswordHash at ok
  dsimp only at ok
  split at ok
  · cases ok
  · next valid =>
    split at ok
    · cases ok
    · split at ok
      · cases ok
      · split at ok
        · cases ok
        · next store built =>
          rw [← Except.ok.inj ok, buildV1_ok built]
          exact ⟨by simpa using valid, rfl⟩

/-! ### What the tests of a string find -/

theorem safeCopyPassword_self_iff {string : Str16} :
    safeCopyPassword string = string ↔ string.chars.length ≤ pwMaxLength := by
  constructor
  · intro same
    have chars := congrArg (fun copy : Str16 => copy.chars.length) same
    simp only [safeCopyPassword, List.length_take] at chars
    omega
  · intro short
    exact Str16.ext (List.take_of_length_le short)

/-- The string is longer than the buffer. -/
def tooLong (string : Str16) : Bool := pwMaxLength < string.chars.length

def tooShort (string : Str16) : Bool := string.chars.length < pwMinLength

/-- One of the characters that are looked at is not in the valid set. -/
def invalidChar (string : Str16) : Bool := !(string.chars.take pwMaxLength).all isValidChar

/-- The three tests, each on what it is about. -/
def testPassword (long short invalid failuresAsked : Bool) : Bool × PwTestBitmap :=
  let report (failed : Bool) (bit bitmap : PwTestBitmap) : PwTestBitmap :=
    if failed && failuresAsked then bitmap ||| bit else bitmap
  let result := !long
  let failures := report long pwTestStringTooLong 0
  let short := (result || failuresAsked) && short
  let result := result && !short
  let failures := report short pwTestStringTooShort failures
  let invalid := (result || failuresAsked) && invalid
  (result && !invalid, report invalid pwTestStringInvalidChar failures)

/-- The length of the copy tells as much of the length as the tests ask for. -/
theorem isPwStringValid_eq (string : Str16) (failuresAsked : Bool) :
    isPwStringValid (some string) failuresAsked =
      testPassword (tooLong string) (tooShort string) (invalidChar string) failuresAsked := by
  have long : (string != safeCopyPassword string) = tooLong string := by
    rw [Bool.eq_iff_iff, bne_iff_ne, tooLong, decide_eq_true_eq, ← Nat.not_le,
      ← safeCopyPassword_self_iff, ne_comm]
  have short : decide ((safeCopyPassword string).chars.length < pwMinLength) = tooShort string := by
    rw [tooShort, safeCopyPassword, List.length_take]
    have apart : pwMinLength < pwMaxLength := by decide
    rw [decide_eq_decide]
    omega
  unfold isPwStringValid testPassword
  simp only [long, short]
  rfl

/-- A password is valid exactly if its length is in bounds and its characters are in the valid
set, whether or not a bitmap is asked for; and the bitmap names exactly the tests that failed. -/
theorem isPwStringValid_exact (string : Str16) :
    (∀ failuresAsked, (isPwStringValid (some string) failuresAsked).1 = true ↔
      pwMinLength ≤ string.chars.length ∧ string.chars.length ≤ pwMaxLength ∧
        ∀ char ∈ string.chars, char ∈ validChars) ∧
    let (result, failures) := isPwStringValid (some string) true
    (failures = 0 ↔ result = true) ∧
      (failures &&& pwTestStringTooLong ≠ 0 ↔ pwMaxLength < string.chars.length) ∧
      (failures &&& pwTestStringTooShort ≠ 0 ↔ string.chars.length < pwMinLength) ∧
      (failures &&& pwTestStringInvalidChar ≠ 0 ↔
        ∃ char ∈ string.chars.take pwMaxLength, char ∉ validChars) ∧
      failures &&& ~~~(pwTestStringTooLong ||| pwTestStringTooShort |||
        pwTestStringInvalidChar) = 0 := by
  have long : pwMaxLength < string.chars.length ↔ tooLong string = true := by
    rw [tooLong, decide_eq_true_eq]
  have short : string.chars.length < pwMinLength ↔ tooShort string = true := by
    rw [tooShort, decide_eq_true_eq]
  have invalid : (∃ char ∈ string.chars.take pwMaxLength, char ∉ validChars) ↔
      invalidChar string = true := by
    simp [invalidChar, isValidChar]
  constructor
  · intro failuresAsked
    have valid : (pwMinLength ≤ string.chars.length ∧ string.chars.length ≤ pwMaxLength ∧
        ∀ char ∈ string.chars, char ∈ validChars) ↔
        tooShort string = false ∧ tooLong string = false ∧ invalidChar string = false := by
      rw [← Nat.not_lt, short, ← Nat.not_lt, long, Bool.not_eq_true, Bool.not_eq_true]
      refine and_congr_right fun _ => and_congr_right fun fits => ?_
      rw [tooLong, decide_eq_false_iff_not, Nat.not_lt] at fits
      rw [← Bool.not_eq_true, ← invalid, List.take_of_length_le fits]
      push Not
      exact Iff.rfl
    rw [valid, isPwStringValid_eq]
    cases tooLong string <;> cases tooShort string <;> cases invalidChar string <;>
      cases failuresAsked <;> decide
  · rw [long, short, invalid, isPwStringValid_eq]
    cases tooLong string <;> cases tooShort string <;> cases invalidChar string <;> decide

end MuRockchip.Password
