/-
Requests for random numbers (`TrngGetRNG`).

The generator makes samples of eight words. A request starts it for every sample, copies the words
as far as the request goes, and stops it.

* `readSample_fills`: the bytes and the words of a sample.
* `trngLoop_fills`: those of a request, and when the generator is stopped behind it.
* `trngGetRng_exact_iff`: when a request is served as it should be.
-/
import Mathlib.Data.List.Nodup
import MuRockchip.Base.Fields
import MuRockchip.Base.Polling
import MuRockchip.Base.Words
import MuRockchip.Uefi.Status
import MuRockchip.Uefi.Types

namespace MuRockchip.Rng

open Base

/-! ### The generator -/

/-- What the generator shows: the reads of `RNG_CTL` after a start that find `RNG_START` clear, and
the words of the samples. -/
structure TrngDevice where
  started : Nat → Nat → Bool
  dout : Nat → Nat → UInt32

def rngLen256 : UInt32 := (3 : UInt32) <<< 4
def ringSelFastest : UInt32 := (3 : UInt32) <<< 2
def rngEnable : UInt32 := 2
def rngStart : UInt32 := 1

def rngStartRetryCount : Nat := 100000

/-- The generator is stopped. -/
abbrev Stopped (ctl : UInt32) : Prop := ctl &&& rngEnable = 0

/-! ### The code -/

/-- `TrngStart`, without its assertion. -/
def trngStart (device : TrngDevice) (sample : Nat) (ctl : UInt32) : EfiStatus × UInt32 :=
  let ctl := hiwordWrite ctl
    (((0xFFFF : UInt32) <<< 16) ||| rngLen256 ||| rngEnable ||| ringSelFastest)
  let ctl := hiwordWrite ctl ((rngStart <<< 16) ||| rngStart)
  match firstPoll (device.started sample) 0 rngStartRetryCount with
  | some _ => (EfiStatus.success, ctl)
  | none => (EfiStatus.deviceError, ctl)

def trngStop (ctl : UInt32) : UInt32 := hiwordWrite ctl ((0xFFFF : UInt32) <<< 16)

/-- `CopyMem` from a word: the offsets that are written and what is written there. -/
def copyWord (val : UInt32) (place count : Nat) : List (Nat × UInt8) :=
  (List.range count).map fun k => (place + k, wordByte val k)

/-- `Count`: how many bytes of a word are wanted. -/
def wordCount (length : UInt64) : UInt8 := (if length < 4 then length else 4).toUInt8

/-- The loop over the words of a sample: the bytes stored, the words read, `RNGValue` as an offset,
and `RNGValueLength`. -/
def readSample (device : TrngDevice) (sample : Nat) :
    Nat → Nat → Nat → UInt64 → List (Nat × UInt8) × List (Nat × Nat) × Nat × UInt64
  | 0, _, place, length => ([], [], place, length)
  | words + 1, index, place, length =>
    let count := wordCount length
    let copied := copyWord (device.dout sample index) place count.toNat
    let place := place + count.toNat
    let length := length - count.toUInt64
    if length = 0 then (copied, [(sample, index)], place, length)
    else
      let (stores, reads, place, length) := readSample device sample words (index + 1) place length
      (copied ++ stores, (sample, index) :: reads, place, length)

/-- What a request returns and does: the bytes it stores, the words it reads, the samples it starts,
and the control bits it leaves. -/
structure RngOutcome where
  status : EfiStatus
  stores : List (Nat × UInt8)
  reads : List (Nat × Nat)
  starts : Nat
  ctl : UInt32
  deriving DecidableEq, Repr

def trngLoop (device : TrngDevice) : Nat → Nat → Nat → UInt64 → UInt32 → Option RngOutcome
  | 0, _, _, length, ctl => if 0 < length then none else some ⟨EfiStatus.success, [], [], 0, ctl⟩
  | rounds + 1, sample, place, length, ctl =>
    if 0 < length then
      let (status, ctl) := trngStart device sample ctl
      if status.isError then some ⟨status, [], [], 1, ctl⟩
      else do
        let (stores, reads, place, length) := readSample device sample 8 0 place length
        let later ← trngLoop device rounds (sample + 1) place length (trngStop ctl)
        some { later with
          stores := stores ++ later.stores
          reads := reads ++ later.reads
          starts := later.starts + 1 }
    else some ⟨EfiStatus.success, [], [], 0, ctl⟩

/-- The arguments of `TrngGetRNG`. -/
structure RngRequest where
  thisGiven : Bool
  algorithm : Option EfiGuid
  length : UInt64
  valueGiven : Bool

/-- `TrngGetRNG`. `raw` is `gEfiRngAlgorithmRaw`. -/
def trngGetRng (raw : EfiGuid) (device : TrngDevice) (request : RngRequest) (ctl : UInt32) :
    Option RngOutcome :=
  if request.thisGiven = false ∨ request.length = 0 ∨ request.valueGiven = false then
    some ⟨EfiStatus.invalidParameter, [], [], 0, ctl⟩
  else if request.algorithm ≠ none ∧ request.algorithm ≠ some raw then
    some ⟨EfiStatus.unsupported, [], [], 0, ctl⟩
  else trngLoop device request.length.toNat 0 0 request.length ctl

/-! ### What is wanted -/

/-- The start of a sample is seen to be over in time. -/
def Starts (device : TrngDevice) (sample : Nat) : Prop :=
  ∃ poll < rngStartRetryCount, device.started sample poll = true

/-- A request that gets as far as the generator. -/
abbrev Accepted (raw : EfiGuid) (request : RngRequest) : Prop :=
  (request.thisGiven = true ∧ request.length ≠ 0 ∧ request.valueGiven = true) ∧
    (request.algorithm = none ∨ request.algorithm = some raw)

/-- The bytes from an offset on, each with what is stored there. -/
def bytesFrom (device : TrngDevice) (place count : Nat) : List (Nat × UInt8) :=
  (List.range' place count).map fun k =>
    (k, wordByte (device.dout (k / 32) (k % 32 / 4)) (k % 4))

/-- The words from one on, as samples and places in them. -/
def wordsFrom (word count : Nat) : List (Nat × Nat) :=
  (List.range' word count).map fun w => (w / 8, w % 8)

/-- Every byte is stored once, in order, and comes from a word of its own four; every word is read
once, and a sample serves 32 bytes. -/
structure Filled (device : TrngDevice) (length : Nat) (outcome : RngOutcome) : Prop where
  stores : outcome.stores = (List.range length).map fun k =>
    (k, wordByte (device.dout (k / 32) (k % 32 / 4)) (k % 4))
  reads : outcome.reads = (List.range ((length + 3) / 4)).map fun w => (w / 8, w % 8)
  once : outcome.reads.Nodup
  starts : outcome.starts = (length + 31) / 32

/-! ### Samples -/

section

variable {device : TrngDevice} {sample place : Nat} {length : UInt64}

theorem bytesFrom_add (device : TrngDevice) (place first second : Nat) :
    bytesFrom device place (first + second) =
      bytesFrom device place first ++ bytesFrom device (place + first) second := by
  rw [bytesFrom, ← List.range'_append_1, List.map_append]
  rfl

theorem wordsFrom_add (word first second : Nat) :
    wordsFrom word (first + second) = wordsFrom word first ++ wordsFrom (word + first) second := by
  rw [wordsFrom, ← List.range'_append_1, List.map_append]
  rfl

theorem count_toNat (length : UInt64) : (wordCount length).toNat = min length.toNat 4 := by
  have four : (4 : UInt64).toNat = 4 := rfl
  rw [wordCount, UInt64.toNat_toUInt8]
  split
  · next few =>
    have below : length.toNat < 4 := UInt64.lt_iff_toNat_lt.mp few
    omega
  · next many =>
    have above : ¬ length.toNat < 4 := fun few => many (UInt64.lt_iff_toNat_lt.mpr few)
    omega

theorem length_sub_count (length : UInt64) :
    (length - (wordCount length).toUInt64).toNat = length.toNat - 4 := by
  have count : (wordCount length).toUInt64.toNat = min length.toNat 4 := by
    rw [UInt8.toNat_toUInt64, count_toNat]
  rw [UInt64.toNat_sub_of_le _ _ (UInt64.le_iff_toNat_le.mpr (by omega)), count]
  omega

theorem copyWord_eq {index count : Nat} (inside : index < 8) (few : count ≤ 4)
    (there : place = 32 * sample + 4 * index) :
    copyWord (device.dout sample index) place count = bytesFrom device place count := by
  rw [copyWord, bytesFrom, List.range'_eq_map_range, List.map_map]
  refine List.map_congr_left fun k below => ?_
  have small := List.mem_range.mp below
  have own : (place + k) / 32 = sample ∧ (place + k) % 32 / 4 = index ∧ (place + k) % 4 = k := by
    omega
  simp only [Function.comp_apply, own]

theorem wordsFrom_one {index : Nat} (inside : index < 8) :
    wordsFrom (8 * sample + index) 1 = [(sample, index)] := by
  have own : (8 * sample + index) / 8 = sample ∧ (8 * sample + index) % 8 = index := by omega
  simp only [wordsFrom, List.range'_one, List.map_cons, List.map_nil, own]

theorem readSample_fills {words index : Nat} (all : index + words = 8)
    (there : place = 32 * sample + 4 * index) (more : 0 < length.toNat) :
    ∃ left, readSample device sample words index place length =
        (bytesFrom device place (min length.toNat (4 * words)),
          wordsFrom (8 * sample + index) (min ((length.toNat + 3) / 4) words),
          place + min length.toNat (4 * words), left) ∧
      left.toNat = length.toNat - 4 * words := by
  induction words generalizing index place length with
  | zero => exact ⟨length, by simp [readSample, bytesFrom, wordsFrom], rfl⟩
  | succ words ih =>
    have inside : index < 8 := by omega
    have copied := @copyWord_eq device sample place index (min length.toNat 4) inside
      (Nat.min_le_right _ _) there
    have rest := length_sub_count length
    have done : length - (wordCount length).toUInt64 = 0 ↔ length.toNat ≤ 4 := by
      rw [← UInt64.toNat_inj, rest, UInt64.toNat_zero]
      omega
    simp only [readSample, count_toNat, copied, done]
    by_cases last : length.toNat ≤ 4
    · have whole : min length.toNat (4 * (words + 1)) = min length.toNat 4 := by omega
      have one : min ((length.toNat + 3) / 4) (words + 1) = 1 := by omega
      rw [if_pos last, whole, one, wordsFrom_one inside]
      exact ⟨_, rfl, by omega⟩
    · obtain ⟨left, read, behind⟩ := @ih (place + min length.toNat 4)
        (length - (wordCount length).toUInt64) (index + 1) (by omega) (by omega) (by omega)
      have whole : min length.toNat (4 * (words + 1)) =
          min length.toNat 4 + min (length.toNat - 4) (4 * words) := by omega
      have all : min ((length.toNat + 3) / 4) (words + 1) =
          1 + min ((length.toNat - 4 + 3) / 4) words := by omega
      rw [if_neg last, read, rest, whole, all, bytesFrom_add, wordsFrom_add, wordsFrom_one inside,
        Nat.add_assoc, Nat.add_assoc]
      exact ⟨left, rfl, by omega⟩

end

/-! ### Requests -/

section

variable {device : TrngDevice} {sample place : Nat} {length : UInt64} {ctl : UInt32}

theorem stopped_trngStop (ctl : UInt32) : Stopped (trngStop ctl) := by
  rw [Stopped, trngStop, hiwordWrite_and ctl ((0xFFFF : UInt32) <<< 16) (by decide)]
  decide

theorem trngStart_runs (device : TrngDevice) (sample : Nat) (ctl : UInt32) :
    ¬ Stopped (trngStart device sample ctl).2 := by
  have enabled : (trngStart device sample ctl).2 &&& rngEnable = rngEnable := by
    have first := @hiwordWrite_and ctl
      (((0xFFFF : UInt32) <<< 16) ||| rngLen256 ||| rngEnable ||| ringSelFastest) rngEnable
      (by decide)
    have later (ctl : UInt32) := @hiwordWrite_and_of_apart ctl ((rngStart <<< 16) ||| rngStart)
      rngEnable (by decide)
    rw [trngStart]
    split <;> exact (later _).trans first
  rw [Stopped, enabled]
  decide

theorem starts_iff (device : TrngDevice) (sample : Nat) (ctl : UInt32) :
    (trngStart device sample ctl).1.isError = false ↔ Starts device sample := by
  have seen := @firstPoll_isSome_iff (device.started sample) 0 rngStartRetryCount
  rw [Nat.zero_add] at seen
  have same : Starts device sample ↔
      (firstPoll (device.started sample) 0 rngStartRetryCount).isSome := by
    rw [seen]
    exact exists_congr fun poll => (and_iff_right (Nat.zero_le poll)).symm
  rw [same, trngStart]
  cases firstPoll (device.started sample) 0 rngStartRetryCount <;>
    simp [EfiStatus.isError_deviceError]

/-- What a request stores, reads and starts from a sample on, and when it leaves the generator
stopped. -/
theorem trngLoop_fills {rounds : Nat} (there : 0 < length.toNat → place = 32 * sample)
    (enough : length.toNat ≤ rounds) (before : length.toNat = 0 → Stopped ctl) :
    ∃ outcome, trngLoop device rounds sample place length ctl = some outcome ∧
      (outcome.status = EfiStatus.success →
        outcome.stores = bytesFrom device place length.toNat ∧
          outcome.reads = wordsFrom (8 * sample) ((length.toNat + 3) / 4) ∧
            outcome.starts = (length.toNat + 31) / 32) ∧
      (Stopped outcome.ctl ↔ ∀ k < (length.toNat + 31) / 32, Starts device (sample + k)) := by
  induction rounds generalizing sample place length ctl with
  | zero =>
    have none : length.toNat = 0 := Nat.le_zero.mp enough
    have stop : ¬ 0 < length := fun more =>
      Nat.not_lt_zero _ (none ▸ UInt64.lt_iff_toNat_lt.mp more)
    rw [trngLoop, if_neg stop, none]
    exact ⟨_, rfl, fun _ => ⟨rfl, rfl, rfl⟩, fun _ => nofun, fun _ => before none⟩
  | succ rounds ih =>
    by_cases more : 0 < length.toNat
    · have goes : 0 < length := UInt64.lt_iff_toNat_lt.mpr more
      simp only [trngLoop, if_pos goes]
      by_cases started : (trngStart device sample ctl).1.isError = false
      · obtain ⟨left, read, behind⟩ := @readSample_fills device sample place length 8 0 rfl
          (by omega) more
        obtain ⟨later, looped, filled, stopped⟩ := @ih (sample + 1) (place + min length.toNat 32)
          left (trngStop (trngStart device sample ctl).2) (by omega) (by omega)
          fun _ => stopped_trngStop _
        have bytes : length.toNat = min length.toNat 32 + left.toNat := by omega
        have words : (length.toNat + 3) / 4 =
            min ((length.toNat + 3) / 4) 8 + (left.toNat + 3) / 4 := by omega
        have samples : (length.toNat + 31) / 32 = (left.toNat + 31) / 32 + 1 := by omega
        rw [if_neg (by simpa using started), read]
        simp only [looped, Option.bind_eq_bind, Option.bind_some]
        refine ⟨_, rfl, fun same => ?_, ?_⟩
        · obtain ⟨stores, reads, starts⟩ := filled same
          have next : wordsFrom (8 * (sample + 1)) ((left.toNat + 3) / 4) =
              wordsFrom (8 * sample + min ((length.toNat + 3) / 4) 8) ((left.toNat + 3) / 4) := by
            by_cases some : 0 < left.toNat
            · congr 1
              omega
            · rw [Nat.eq_zero_of_not_pos some]
              rfl
          refine ⟨?_, ?_, ?_⟩
          · rw [stores, bytes, bytesFrom_add, ← bytes]
          · rw [reads, words, next, wordsFrom_add, ← words]
            rfl
          · rw [starts, samples]
        · rw [stopped, samples, Nat.forall_lt_succ_left]
          have first : Starts device (sample + 0) := (starts_iff device sample ctl).mp started
          rw [and_iff_right first]
          simp only [Nat.add_assoc, Nat.add_comm 1]
      · rw [if_pos (by simpa using started)]
        refine ⟨_, rfl, fun same => ?_, ?_⟩
        · have success : (trngStart device sample ctl).1 = EfiStatus.success := same
          rw [success] at started
          exact absurd EfiStatus.isError_success started
        · refine ⟨fun stopped => absurd stopped (trngStart_runs device sample ctl), fun all => ?_⟩
          have first := all 0 (by omega)
          exact absurd ((starts_iff device sample ctl).mpr first) started
    · have none : length.toNat = 0 := Nat.eq_zero_of_not_pos more
      have stop : ¬ 0 < length := fun goes => more (UInt64.lt_iff_toNat_lt.mp goes)
      rw [trngLoop, if_neg stop, none]
      exact ⟨_, rfl, fun _ => ⟨rfl, rfl, rfl⟩, fun _ => nofun, fun _ => before none⟩

end

theorem wordsFrom_nodup (word count : Nat) : (wordsFrom word count).Nodup := by
  refine List.Nodup.map (fun w other same => ?_) List.nodup_range'
  obtain ⟨samples, places⟩ := Prod.mk.inj same
  omega

/-- What a whole request does when it reaches the generator. -/
theorem trngLoop_filled (device : TrngDevice) {length : UInt64} (more : length ≠ 0)
    (ctl : UInt32) :
    ∃ outcome, trngLoop device length.toNat 0 0 length ctl = some outcome ∧
      (outcome.status = EfiStatus.success → Filled device length.toNat outcome) ∧
      (Stopped outcome.ctl ↔ ∀ sample < (length.toNat + 31) / 32, Starts device sample) := by
  have nonzero : length.toNat ≠ 0 := fun none => more (UInt64.toNat_inj.mp none)
  obtain ⟨outcome, looped, filled, stopped⟩ := @trngLoop_fills device 0 0 length ctl length.toNat
    (fun _ => rfl) (Nat.le_refl _) fun none => absurd none nonzero
  refine ⟨outcome, looped, fun same => ?_, ?_⟩
  · obtain ⟨stores, reads, starts⟩ := filled same
    refine ⟨?_, ?_, ?_, starts⟩
    · rw [stores, bytesFrom, List.range_eq_range']
    · rw [reads, wordsFrom, List.range_eq_range']
    · rw [reads]
      exact wordsFrom_nodup _ _
  · rw [stopped]
    simp only [Nat.zero_add]

/-- A request ends, fills the buffer exactly if it succeeds and leaves the generator stopped
exactly when each of its samples is started in time, or it does not get as far as the generator and
that was stopped. -/
theorem trngGetRng_exact_iff (raw : EfiGuid) (device : TrngDevice) (request : RngRequest)
    (ctl : UInt32) :
    (∃ outcome, trngGetRng raw device request ctl = some outcome ∧
      (outcome.status = EfiStatus.success → Filled device request.length.toNat outcome) ∧
        Stopped outcome.ctl) ↔
      if Accepted raw request then
        ∀ sample < (request.length.toNat + 31) / 32, Starts device sample
      else Stopped ctl := by
  by_cases given : request.thisGiven = false ∨ request.length = 0 ∨ request.valueGiven = false
  · have refused : ¬ Accepted raw request := by
      rintro ⟨⟨this, some, value⟩, -⟩
      simp [this, some, value] at given
    rw [trngGetRng, if_pos given, if_neg refused]
    constructor
    · rintro ⟨outcome, same, -, stopped⟩
      obtain rfl := Option.some.inj same
      exact stopped
    · exact fun stopped =>
        ⟨_, rfl, fun same => absurd same.symm EfiStatus.success_ne_invalidParameter, stopped⟩
  by_cases known : request.algorithm ≠ none ∧ request.algorithm ≠ some raw
  · have refused : ¬ Accepted raw request := fun accepted =>
      accepted.2.elim known.1 known.2
    rw [trngGetRng, if_neg given, if_pos known, if_neg refused]
    constructor
    · rintro ⟨outcome, same, -, stopped⟩
      obtain rfl := Option.some.inj same
      exact stopped
    · have differs : EfiStatus.unsupported ≠ EfiStatus.success := by decide
      exact fun stopped => ⟨_, rfl, fun same => absurd same differs, stopped⟩
  · have accepted : Accepted raw request := by
      simp only [not_or, Bool.not_eq_false] at given
      refine ⟨given, ?_⟩
      by_contra neither
      exact known (not_or.mp neither)
    obtain ⟨outcome, looped, filled, stopped⟩ := trngLoop_filled device accepted.1.2.1 ctl
    rw [trngGetRng, if_neg given, if_neg known, if_pos accepted]
    constructor
    · rintro ⟨other, same, -, ended⟩
      obtain rfl := Option.some.inj (looped.symm.trans same)
      exact stopped.mp ended
    · exact fun all => ⟨outcome, looped, filled, stopped.mpr all⟩

/-- A generator that does not start is left enabled. -/
theorem trngGetRng_leaves_enabled :
    ¬ ∃ outcome, trngGetRng ⟨0, 0, 0, Vector.replicate 8 0⟩ ⟨fun _ _ => false, fun _ _ => 0⟩
        ⟨true, none, 16, true⟩ 0 = some outcome ∧
      (outcome.status = EfiStatus.success →
          Filled ⟨fun _ _ => false, fun _ _ => 0⟩ (16 : UInt64).toNat outcome) ∧
        Stopped outcome.ctl := by
  rintro ⟨other, same, -, ended⟩
  obtain ⟨outcome, looped, -, stopped⟩ :=
    @trngLoop_filled ⟨fun _ _ => false, fun _ _ => 0⟩ 16 (by decide) 0
  rw [trngGetRng, if_neg (by decide), if_neg (by decide)] at same
  obtain rfl := Option.some.inj (looped.symm.trans same)
  obtain ⟨poll, -, shown⟩ := stopped.mp ended 0 (by decide)
  exact nomatch shown

end MuRockchip.Rng
