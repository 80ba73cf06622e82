/-
The release in the BIOS version string (`BIOSInfoUpdateSmbiosType0`).

The string is scanned for two numbers with a point between them. A number of more than 255 makes
the scan start again behind it, and so does a point that no number follows.

* `Scanned`: what the scan knows when it comes to a character.
* `Scanned.round`: one round of the scan.
* `biosInfoUpdate_exact`: the release is that of the leftmost pair of numbers, or is left alone.
-/
import Mathlib.Algebra.Group.Int.Defs
import Mathlib.Data.List.GetD
import MuRockchip.Base.AsciiString

namespace MuRockchip.Smbios

open Base

/-! ### The scan -/

def smbIsDigit (c : UInt8) : Bool := 0x30 ≤ c && c ≤ 0x39

/-- The variables of the scan; `value0` and `value1` are `Value`. -/
structure Scan where
  i : Nat
  state : Nat
  value0 : Int
  value1 : Int
  deriving DecidableEq, Repr

/-- A result that an `INTN` can hold. -/
def intn (value : Int) : Option Int :=
  if -2 ^ 63 ≤ value ∧ value < 2 ^ 63 then some value else none

namespace Scan

/-- `Value[State / 2]`. -/
def value (scan : Scan) : Int := if scan.state / 2 = 0 then scan.value0 else scan.value1

def setValue (scan : Scan) (value : Int) : Scan :=
  if scan.state / 2 = 0 then { scan with value0 := value } else { scan with value1 := value }

end Scan

section

variable (mBiosVersion : List UInt8)

/-- `while (SMB_IS_DIGIT (mBiosVersion[i + 1])) i++`, for a number of rounds. -/
def skipDigits : Nat → Nat → Option Nat
  | 0, _ => none
  | rounds + 1, i => do
    let next ← mBiosVersion[i + 1]?
    if smbIsDigit next then skipDigits rounds (i + 1) else some i

/-- `case 2`. -/
def pointCase (scan : Scan) : Option Scan := do
  let c ← mBiosVersion[scan.i]?
  if c = 0x2E then
    let next ← mBiosVersion[scan.i + 1]?
    if smbIsDigit next then some { scan with state := scan.state + 1 }
    else some { scan with state := 0 }
  else some { scan with state := 0 }

/-- `case 1` and `case 3`, which may fall through to `case 2`. -/
def digitCase (scan : Scan) : Option Scan := do
  let c ← mBiosVersion[scan.i]?
  if smbIsDigit c then
    let value ← intn (scan.value * 10 + (c.toNat - 0x30))
    let scan := scan.setValue value
    if 255 < value then
      let i ← skipDigits mBiosVersion mBiosVersion.length scan.i
      some { scan with i, state := 0 }
    else some scan
  else
    let scan := { scan with state := scan.state + 1 }
    if scan.state ≠ 2 then some scan else pointCase mBiosVersion scan

/-- The `switch`. -/
def scanCase (scan : Scan) : Option Scan :=
  match scan.state with
  | 0 => do
    let c ← mBiosVersion[scan.i]?
    if smbIsDigit c then
      digitCase mBiosVersion { scan with state := 1, value0 := 0, value1 := 0 }
    else some scan
  | 1 | 3 => digitCase mBiosVersion scan
  | 2 => pointCase mBiosVersion scan
  | _ => some scan

/-- The `for` loop, for a number of rounds. -/
def scanLoop : Nat → Scan → Option Scan
  | 0, _ => none
  | rounds + 1, scan => do
    let length ← asciiStrLen mBiosVersion
    if scan.i < length ∧ scan.state < 4 then
      let scan ← scanCase mBiosVersion scan
      scanLoop rounds { scan with i := scan.i + 1 }
    else some scan

/-- `SMBIOS_TABLE_TYPE0`, the fields of releases. -/
structure BiosInfoType0 where
  systemBiosMajorRelease : UInt8
  systemBiosMinorRelease : UInt8
  embeddedControllerFirmwareMajorRelease : UInt8
  embeddedControllerFirmwareMinorRelease : UInt8
  deriving DecidableEq, Repr

/-- `BIOSInfoUpdateSmbiosType0`, from the version string on. `stale` is what `Value` holds before
it is set. -/
def biosInfoUpdateSmbiosType0 (rounds : Nat) (stale : Int × Int) (mBIOSInfoType0 : BiosInfoType0) :
    Option BiosInfoType0 := do
  let mBIOSInfoType0 := { mBIOSInfoType0 with
    embeddedControllerFirmwareMajorRelease := 0
    embeddedControllerFirmwareMinorRelease := 0 }
  let scan ← scanLoop mBiosVersion rounds ⟨0, 0, stale.1, stale.2⟩
  if scan.state = 3 ∨ scan.state = 4 then
    some { mBIOSInfoType0 with
      systemBiosMajorRelease := UInt8.ofInt scan.value0
      systemBiosMinorRelease := UInt8.ofInt scan.value1 }
  else some mBIOSInfoType0

end

/-! ### Releases in a string -/

/-- The character at a place, which is the NUL behind the last one. -/
def charAt (text : List UInt8) (place : Nat) : UInt8 := text.getD place 0

abbrev DigitAt (text : List UInt8) (place : Nat) : Prop := smbIsDigit (charAt text place)

/-- From `first` up to `last` there are digits, and none before them. -/
structure Digits (text : List UInt8) (first last : Nat) : Prop where
  ordered : first ≤ last
  digits : ∀ place, first ≤ place → place < last → DigitAt text place
  start : ∀ place, place + 1 = first → ¬ DigitAt text place

/-- A maximal run of digits. -/
structure Run (text : List UInt8) (first last : Nat) : Prop extends Digits text first last where
  nonempty : first < last
  stop : ¬ DigitAt text last

/-- The value of some digits, from the highest on. -/
def digitsValue (text : List UInt8) (first : Nat) : Nat → Nat
  | 0 => 0
  | count + 1 => digitsValue text first count * 10 + ((charAt text (first + count)).toNat - 0x30)

/-- The value of the digits from a place up to another. -/
def runValue (text : List UInt8) (first last : Nat) : Nat := digitsValue text first (last - first)

/-- Two numbers with a point between them, each of at most 255. -/
structure Release (text : List UInt8) (first point last : Nat) : Prop where
  major : Run text first point
  separated : charAt text point = 0x2E
  minor : Run text (point + 1) last
  majorFits : runValue text first point ≤ 255
  minorFits : runValue text (point + 1) last ≤ 255

def NoneBefore (text : List UInt8) (place : Nat) : Prop :=
  ∀ first point last, Release text first point last → place ≤ first

/-- The leftmost release. -/
structure LeftmostRelease (text : List UInt8) (first point last : Nat) : Prop
    extends Release text first point last where
  leftmost : NoneBefore text first

section

variable {text : List UInt8} {first last place : Nat}

theorem not_digitAt_of_length_le (beyond : text.length ≤ place) : ¬ DigitAt text place := by
  rw [DigitAt, charAt, List.getD_eq_default _ _ beyond]
  exact nofun

theorem DigitAt.lt_length (digit : DigitAt text place) : place < text.length :=
  Nat.lt_of_not_le fun beyond => not_digitAt_of_length_le beyond digit

theorem DigitAt.toNat_le (digit : DigitAt text place) :
    0x30 ≤ (charAt text place).toNat ∧ (charAt text place).toNat ≤ 0x39 := by
  simpa [DigitAt, smbIsDigit, UInt8.le_iff_toNat_le] using digit

namespace Digits

theorem succ (run : Digits text first last) (digit : DigitAt text last) :
    Digits text first (last + 1) where
  ordered := Nat.le_succ_of_le run.ordered
  digits place from_ upTo := by
    rcases Nat.lt_or_eq_of_le (Nat.le_of_lt_succ upTo) with before | rfl
    · exact run.digits place from_ before
    · exact digit
  start := run.start

/-- Digits reach no further than the run they are part of. -/
theorem le_of_run (digits : Digits text first last) {stop : Nat} (run : Run text first stop) :
    last ≤ stop :=
  Nat.le_of_not_lt fun beyond => run.stop (digits.digits stop run.ordered beyond)

theorem noneBefore (digits : Digits text first last) (none : NoneBefore text first)
    (fails : ∀ point stop, ¬ Release text first point stop) : NoneBefore text last := by
  intro other point stop release
  have after := none other point stop release
  by_contra before
  rcases Nat.lt_or_eq_of_le after with inner | rfl
  · obtain ⟨place, rfl⟩ := Nat.exists_eq_add_one_of_ne_zero (Nat.ne_of_gt (Nat.zero_lt_of_lt inner))
    exact release.major.start place rfl
      (digits.digits place (Nat.le_of_lt_succ inner) (Nat.lt_of_succ_lt (Nat.lt_of_not_le before)))
  · exact fails point stop release

end Digits

theorem Run.unique {stop : Nat} (run : Run text first last) (other : Run text first stop) :
    last = stop :=
  Nat.le_antisymm (run.toDigits.le_of_run other) (other.toDigits.le_of_run run)

theorem NoneBefore.succ (none : NoneBefore text place) (other : ¬ DigitAt text place) :
    NoneBefore text (place + 1) := by
  intro first point last release
  refine Nat.lt_of_le_of_ne (none first point last release) ?_
  rintro rfl
  exact other (release.major.digits place (Nat.le_refl _) release.major.nonempty)

theorem runValue_succ (ordered : first ≤ last) :
    runValue text first (last + 1) =
      runValue text first last * 10 + ((charAt text last).toNat - 0x30) := by
  rw [runValue, Nat.sub_add_comm ordered, digitsValue, Nat.add_sub_cancel' ordered]
  rfl

theorem runValue_mono {middle : Nat} (ordered : first ≤ middle) (later : middle ≤ last) :
    runValue text first middle ≤ runValue text first last := by
  induction later with
  | refl => exact Nat.le_refl _
  | step later ih =>
    rw [runValue_succ (Nat.le_trans ordered later)]
    omega

end

/-! ### What the scan knows -/

/-- What the scan knows when it comes to a character. -/
inductive Scanned (text : List UInt8) (scan : Scan) : Prop where
  | idle (state : scan.state = 0) (inside : scan.i ≤ text.length)
      (boundary : ∀ place, place + 1 = scan.i → DigitAt text scan.i → ¬ DigitAt text place)
      (none : NoneBefore text scan.i)
  | major (first : Nat) (state : scan.state = 1) (digits : Digits text first scan.i)
      (nonempty : first < scan.i) (value0 : scan.value0 = runValue text first scan.i)
      (fits : runValue text first scan.i ≤ 255) (value1 : scan.value1 = 0)
      (none : NoneBefore text first)
  | minor (first point : Nat) (state : scan.state = 3) (major : Run text first point)
      (separated : charAt text point = 0x2E) (digits : Digits text (point + 1) scan.i)
      (follows : DigitAt text (point + 1)) (value0 : scan.value0 = runValue text first point)
      (majorFits : runValue text first point ≤ 255)
      (value1 : scan.value1 = runValue text (point + 1) scan.i)
      (minorFits : runValue text (point + 1) scan.i ≤ 255) (none : NoneBefore text first)
  | found (first point last : Nat) (state : scan.state = 4)
      (release : LeftmostRelease text first point last)
      (value0 : scan.value0 = runValue text first point)
      (value1 : scan.value1 = runValue text (point + 1) last)

section

variable {version : AsciiString} {scan : Scan}

theorem bytes_get {place : Nat} (inside : place ≤ version.chars.length) :
    version.bytes[place]? = some (charAt version.chars place) := by
  rw [AsciiString.bytes, charAt]
  rcases Nat.lt_or_eq_of_le inside with before | rfl
  · rw [List.getElem?_append_left before, List.getElem?_eq_getElem before,
      List.getD_eq_getElem _ _ before]
  · rw [List.getElem?_append_right (Nat.le_refl _), Nat.sub_self,
      List.getD_eq_default _ _ (Nat.le_refl _)]
    rfl

theorem skipDigits_run {first rounds i : Nat} (digits : Digits version.chars first (i + 1))
    (inside : i < version.chars.length) (enough : version.chars.length ≤ i + rounds)
    (nonempty : first ≤ i) :
    ∃ last, skipDigits version.bytes rounds i = some last ∧ i ≤ last ∧
      last < version.chars.length ∧ Run version.chars first (last + 1) := by
  induction rounds generalizing i with
  | zero => exact absurd inside (Nat.not_lt_of_le enough)
  | succ rounds ih =>
    rw [skipDigits, bytes_get (Nat.succ_le_of_lt inside), Option.bind_eq_bind, Option.bind_some]
    by_cases digit : DigitAt version.chars (i + 1)
    · rw [if_pos digit]
      obtain ⟨last, skipped, after, before, run⟩ :=
        ih (digits.succ digit) digit.lt_length (by omega) (Nat.le_succ_of_le nonempty)
      exact ⟨last, skipped, Nat.le_of_succ_le after, before, run⟩
    · rw [if_neg digit]
      exact ⟨i, rfl, Nat.le_refl i, inside, digits, Nat.lt_succ_of_le nonempty, digit⟩

/-- A number that is too large is skipped. No release starts in it, or with its number. -/
theorem Scanned.skip {first : Nat} (digits : Digits version.chars first (scan.i + 1))
    (inside : scan.i < version.chars.length) (nonempty : first ≤ scan.i)
    (large : 255 < runValue version.chars first (scan.i + 1))
    (none : NoneBefore version.chars first) :
    ∃ last, skipDigits version.bytes version.bytes.length scan.i = some last ∧ scan.i ≤ last ∧
      Scanned version.chars { scan with i := last + 1, state := 0 } := by
  have enough : version.chars.length ≤ scan.i + version.bytes.length := by
    rw [AsciiString.length_bytes, AsciiString.size]
    omega
  obtain ⟨last, skipped, after, before, run⟩ := skipDigits_run digits inside enough nonempty
  refine ⟨last, skipped, after, .idle rfl before (fun place _ digit => (run.stop digit).elim) ?_⟩
  refine run.toDigits.noneBefore none fun point stop release => ?_
  have grows : runValue version.chars first (scan.i + 1) ≤ runValue version.chars first point :=
    runValue_mono digits.ordered (digits.le_of_run release.major)
  exact absurd release.majorFits (Nat.not_le_of_lt (Nat.lt_of_lt_of_le large grows))

/-- What a digit adds to a number. -/
theorem intn_digit {first i : Nat} (ordered : first ≤ i) (digit : DigitAt version.chars i)
    (fits : runValue version.chars first i ≤ 255) :
    intn ((runValue version.chars first i : Int) * 10 +
        ((charAt version.chars i).toNat - 0x30)) =
      some (runValue version.chars first (i + 1) : Int) := by
  have range := digit.toNat_le
  rw [runValue_succ ordered, intn, if_pos (by omega)]
  congr 1
  omega

theorem Run.noneBefore {text : List UInt8} {first last : Nat} (run : Run text first last)
    (none : NoneBefore text first)
    (fails : charAt text last = 0x2E → ¬ DigitAt text (last + 1)) :
    NoneBefore text (last + 1) := by
  refine (run.toDigits.noneBefore none fun point stop release => ?_).succ run.stop
  obtain rfl := run.unique release.major
  exact fails release.separated
    (release.minor.digits _ (Nat.le_refl _) release.minor.nonempty)

theorem pointCase_scanned {first : Nat} (inside : scan.i < version.chars.length)
    (state : scan.state = 2) (run : Run version.chars first scan.i)
    (value0 : scan.value0 = runValue version.chars first scan.i)
    (fits : runValue version.chars first scan.i ≤ 255) (value1 : scan.value1 = 0)
    (none : NoneBefore version.chars first) :
    ∃ after, pointCase version.bytes scan = some after ∧ scan.i ≤ after.i ∧
      Scanned version.chars { after with i := after.i + 1 } := by
  have idle (fails : charAt version.chars scan.i = 0x2E →
      ¬ DigitAt version.chars (scan.i + 1)) :
      Scanned version.chars { scan with i := scan.i + 1, state := 0 } := by
    refine .idle rfl inside ?_ (run.noneBefore none fails)
    rintro place same digit
    obtain rfl := Nat.add_right_cancel same
    exact run.stop
  rw [pointCase, bytes_get (Nat.le_of_lt inside), Option.bind_eq_bind, Option.bind_some,
    bytes_get (Nat.succ_le_of_lt inside), Option.bind_some]
  by_cases point : charAt version.chars scan.i = 0x2E
  · rw [if_pos point]
    by_cases digit : DigitAt version.chars (scan.i + 1)
    · rw [if_pos digit]
      have empty : runValue version.chars (scan.i + 1) (scan.i + 1) = 0 := by
        rw [runValue, Nat.sub_self]
        rfl
      refine ⟨_, rfl, Nat.le_refl _, .minor first scan.i (by simp [state]) run point
        ⟨Nat.le_refl _, ?_, ?_⟩ digit value0 fits ?_ (by rw [empty]; decide) none⟩
      · intro place after before
        exact absurd before (Nat.not_lt_of_le after)
      · rintro place same
        obtain rfl := Nat.add_right_cancel same
        exact run.stop
      · rw [empty]
        exact value1
    · rw [if_neg digit]
      exact ⟨_, rfl, Nat.le_refl _, idle fun _ => digit⟩
  · rw [if_neg point]
    exact ⟨_, rfl, Nat.le_refl _, idle fun same => (point same).elim⟩

/-- The digits of the first number go on, or end. -/
theorem digitCase_major {first : Nat} (inside : scan.i < version.chars.length)
    (state : scan.state = 1) (digits : Digits version.chars first scan.i)
    (nonempty : first < scan.i ∨ DigitAt version.chars scan.i)
    (value0 : scan.value0 = runValue version.chars first scan.i)
    (fits : runValue version.chars first scan.i ≤ 255) (value1 : scan.value1 = 0)
    (none : NoneBefore version.chars first) :
    ∃ after, digitCase version.bytes scan = some after ∧ scan.i ≤ after.i ∧
      Scanned version.chars { after with i := after.i + 1 } := by
  have first0 : scan.state / 2 = 0 := by rw [state]
  simp only [digitCase, bytes_get (Nat.le_of_lt inside), Option.bind_eq_bind, Option.bind_some]
  by_cases digit : DigitAt version.chars scan.i
  · have more := digits.succ digit
    simp only [if_pos digit, Scan.value, if_pos first0, value0, Scan.setValue,
      intn_digit digits.ordered digit fits, Option.bind_some]
    by_cases large : 255 < runValue version.chars first (scan.i + 1)
    · obtain ⟨last, skipped, after, scanned⟩ :=
        @Scanned.skip version { scan with value0 := runValue version.chars first (scan.i + 1) }
          first more inside digits.ordered large none
      rw [if_pos (by omega), skipped]
      exact ⟨_, rfl, after, scanned⟩
    · rw [if_neg (by omega)]
      exact ⟨_, rfl, Nat.le_refl _, .major first state more (Nat.lt_succ_of_le digits.ordered) rfl
        (Nat.le_of_not_lt large) value1 none⟩
  · have run : Run version.chars first scan.i := ⟨digits, nonempty.resolve_right digit, digit⟩
    rw [if_neg digit, if_neg (by rw [state]; decide)]
    exact pointCase_scanned inside (by rw [state]) run value0 fits value1 none

/-- The digits of the second number go on, or end. -/
theorem digitCase_minor {first point : Nat} (inside : scan.i < version.chars.length)
    (state : scan.state = 3) (major : Run version.chars first point)
    (separated : charAt version.chars point = 0x2E)
    (digits : Digits version.chars (point + 1) scan.i)
    (follows : DigitAt version.chars (point + 1))
    (value0 : scan.value0 = runValue version.chars first point)
    (majorFits : runValue version.chars first point ≤ 255)
    (value1 : scan.value1 = runValue version.chars (point + 1) scan.i)
    (minorFits : runValue version.chars (point + 1) scan.i ≤ 255)
    (none : NoneBefore version.chars first) :
    ∃ after, digitCase version.bytes scan = some after ∧ scan.i ≤ after.i ∧
      Scanned version.chars { after with i := after.i + 1 } := by
  have second : ¬ scan.state / 2 = 0 := by rw [state]; decide
  simp only [digitCase, bytes_get (Nat.le_of_lt inside), Option.bind_eq_bind, Option.bind_some]
  by_cases digit : DigitAt version.chars scan.i
  · have more := digits.succ digit
    simp only [if_pos digit, Scan.value, if_neg second, value1, Scan.setValue,
      intn_digit digits.ordered digit minorFits, Option.bind_some]
    by_cases large : 255 < runValue version.chars (point + 1) (scan.i + 1)
    · -- The first number starts no release, because the second is too large.
      have before : NoneBefore version.chars (point + 1) := by
        refine NoneBefore.succ (major.toDigits.noneBefore none fun other stop release => ?_)
          major.stop
        obtain rfl := major.unique release.major
        have grows : runValue version.chars (point + 1) (scan.i + 1) ≤
            runValue version.chars (point + 1) stop :=
          runValue_mono more.ordered (more.le_of_run release.minor)
        exact absurd release.minorFits (Nat.not_le_of_lt (Nat.lt_of_lt_of_le large grows))
      obtain ⟨last, skipped, after, scanned⟩ := @Scanned.skip version
        { scan with value1 := runValue version.chars (point + 1) (scan.i + 1) } (point + 1)
        more inside digits.ordered large before
      rw [if_pos (by omega), skipped]
      exact ⟨_, rfl, after, scanned⟩
    · rw [if_neg (by omega)]
      exact ⟨_, rfl, Nat.le_refl _, .minor first point state major separated more follows value0
        majorFits rfl (Nat.le_of_not_lt large) none⟩
  · have nonempty : point + 1 < scan.i := by
      refine Nat.lt_of_le_of_ne digits.ordered ?_
      rintro same
      exact digit (same ▸ follows)
    rw [if_neg digit, if_pos (by rw [state]; decide)]
    exact ⟨_, rfl, Nat.le_refl _, .found first point scan.i (by rw [state])
      ⟨⟨major, separated, ⟨digits, nonempty, digit⟩, majorFits, minorFits⟩, none⟩ value0 value1⟩

theorem Scanned.round (scanned : Scanned version.chars scan)
    (inside : scan.i < version.chars.length) (goesOn : scan.state < 4) :
    ∃ after, scanCase version.bytes scan = some after ∧ scan.i ≤ after.i ∧
      Scanned version.chars { after with i := after.i + 1 } := by
  cases scanned with
  | idle state _ boundary none =>
    simp only [scanCase, state, bytes_get (Nat.le_of_lt inside), Option.bind_eq_bind,
      Option.bind_some]
    by_cases digit : DigitAt version.chars scan.i
    · rw [if_pos digit]
      have empty : runValue version.chars scan.i scan.i = 0 := by
        rw [runValue, Nat.sub_self]
        rfl
      have start : Digits version.chars scan.i scan.i :=
        ⟨Nat.le_refl _, fun place after before => absurd before (Nat.not_lt_of_le after),
          fun place same => boundary place same digit⟩
      exact @digitCase_major version ⟨scan.i, 1, 0, 0⟩ scan.i inside rfl start (.inr digit)
        (by rw [empty]; rfl) (by rw [empty]; decide) rfl none
    · rw [if_neg digit]
      refine ⟨_, rfl, Nat.le_refl _, .idle state inside ?_ (none.succ digit)⟩
      rintro place same _
      obtain rfl := Nat.add_right_cancel same
      exact digit
  | major first state digits nonempty value0 fits value1 none =>
    rw [scanCase, state]
    exact digitCase_major inside state digits (.inl nonempty) value0 fits value1 none
  | minor first point state major separated digits follows value0 majorFits value1 minorFits none =>
    rw [scanCase, state]
    exact digitCase_minor inside state major separated digits follows value0 majorFits value1
      minorFits none
  | found first point last state => exact absurd goesOn (by rw [state]; decide)

theorem scanLoop_ends {rounds : Nat} (enough : version.chars.length - scan.i < rounds)
    (scanned : Scanned version.chars scan) :
    ∃ after, scanLoop version.bytes rounds scan = some after ∧ Scanned version.chars after ∧
      (version.chars.length ≤ after.i ∨ 4 ≤ after.state) := by
  have length := version.asciiStrLen_bytes []
  rw [List.append_nil] at length
  induction rounds generalizing scan with
  | zero => exact absurd enough (Nat.not_lt_zero _)
  | succ rounds ih =>
    simp only [scanLoop, length, Option.bind_eq_bind, Option.bind_some]
    by_cases goesOn : scan.i < version.chars.length ∧ scan.state < 4
    · obtain ⟨after, stepped, forward, scanned⟩ := scanned.round goesOn.1 goesOn.2
      rw [if_pos goesOn, stepped, Option.bind_some]
      exact ih (by simp only; omega) scanned
    · rw [if_neg goesOn]
      exact ⟨scan, rfl, scanned, by omega⟩

/-- At the end of the string, or when it stops before, the scan has found the leftmost release or
there is none. -/
theorem Scanned.verdict (scanned : Scanned version.chars scan)
    (ended : version.chars.length ≤ scan.i ∨ 4 ≤ scan.state) :
    (scan.state = 3 ∨ scan.state = 4) ∧ (∃ first point last,
        LeftmostRelease version.chars first point last ∧
          scan.value0 = runValue version.chars first point ∧
          scan.value1 = runValue version.chars (point + 1) last) ∨
      ¬ (scan.state = 3 ∨ scan.state = 4) ∧
        ∀ first point last, ¬ Release version.chars first point last := by
  have nowhere (none : NoneBefore version.chars version.chars.length) :
      ∀ first point last, ¬ Release version.chars first point last := by
    intro first point last release
    have starts := (release.major.digits first (Nat.le_refl _) release.major.nonempty).lt_length
    exact absurd (none first point last release) (Nat.not_le_of_lt starts)
  cases scanned with
  | idle state inside boundary none =>
    have atEnd : scan.i = version.chars.length := by omega
    exact .inr ⟨by omega, nowhere (atEnd ▸ none)⟩
  | major first state digits nonempty value0 fits value1 none =>
    have run : Run version.chars first scan.i :=
      ⟨digits, nonempty, not_digitAt_of_length_le (by omega)⟩
    refine .inr ⟨by omega, fun other point last release => ?_⟩
    have behind := run.noneBefore none
      (fun _ => not_digitAt_of_length_le (by omega)) other point last release
    have starts := (release.major.digits other (Nat.le_refl _) release.major.nonempty).lt_length
    omega
  | minor first point state major separated digits follows value0 majorFits value1 minorFits none =>
    have stop : ¬ DigitAt version.chars scan.i := not_digitAt_of_length_le (by omega)
    have nonempty : point + 1 < scan.i := by
      refine Nat.lt_of_le_of_ne digits.ordered ?_
      rintro same
      exact stop (same ▸ follows)
    exact .inl ⟨.inl state, first, point, scan.i,
      ⟨⟨major, separated, ⟨digits, nonempty, stop⟩, majorFits, minorFits⟩, none⟩, value0, value1⟩
  | found first point last state release value0 value1 =>
    exact .inl ⟨.inr state, first, point, last, release, value0, value1⟩

end

/-- The scan ends, reads nothing behind the terminator and computes nothing an `INTN` cannot hold.
The release is set to that of the leftmost two numbers with a point between them, or left alone if
there are none. -/
theorem biosInfoUpdate_exact (version : AsciiString) (stale : Int × Int)
    (mBIOSInfoType0 : BiosInfoType0) :
    ∃ after, biosInfoUpdateSmbiosType0 version.bytes version.size stale mBIOSInfoType0 =
        some after ∧
      ((∃ first point last, LeftmostRelease version.chars first point last ∧
          after.systemBiosMajorRelease.toNat = runValue version.chars first point ∧
          after.systemBiosMinorRelease.toNat = runValue version.chars (point + 1) last) ∨
        (∀ first point last, ¬ Release version.chars first point last) ∧
          after.systemBiosMajorRelease = mBIOSInfoType0.systemBiosMajorRelease ∧
          after.systemBiosMinorRelease = mBIOSInfoType0.systemBiosMinorRelease) := by
  have start : Scanned version.chars ⟨0, 0, stale.1, stale.2⟩ :=
    .idle rfl (Nat.zero_le _) (fun place same => nomatch same) fun _ _ _ _ => Nat.zero_le _
  obtain ⟨scan, ends, scanned, ended⟩ :=
    scanLoop_ends (Nat.lt_succ_of_le (Nat.sub_le _ _)) start
  simp only [biosInfoUpdateSmbiosType0, AsciiString.size, ends, Option.bind_eq_bind,
    Option.bind_some]
  rcases scanned.verdict ended with
    ⟨state, first, point, last, release, value0, value1⟩ | ⟨state, none⟩
  · have byte {value : Nat} (fits : value ≤ 255) : (UInt8.ofInt value).toNat = value := by
      simp [UInt8.ofInt]
      omega
    rw [if_pos state, value0, value1]
    exact ⟨_, rfl, .inl ⟨first, point, last, release, byte release.majorFits,
      byte release.minorFits⟩⟩
  · rw [if_neg state]
    exact ⟨_, rfl, .inr ⟨none, rfl, rfl⟩⟩

/-- A number that is too large is passed over: `300.1.23`. -/
example : biosInfoUpdateSmbiosType0 [0x33, 0x30, 0x30, 0x2E, 0x31, 0x2E, 0x32, 0x33, 0] 9 (0, 0)
    ⟨0, 0, 7, 7⟩ = some ⟨1, 23, 0, 0⟩ := by decide

end MuRockchip.Smbios
