/-
Parsing the EDID of a display (`DwHdmi.c`).

The first block has a header, a checksum and the timing the display prefers; CEA extension
blocks hold a chain of data blocks that ends at an offset, and the video ones among them name
the modes of the display. The offset is a byte of the display and is not compared with the 128
bytes of the block, so the chain can leave it.

* `parseDataBlocks_inside_iff`: when the chain of a block stays in it.
* `parseEdid_false`: a rejected EDID leaves the timings alone.
* `parseEdid_bounded_iff`: when the parser reads only what it should.
-/
import Mathlib.Data.UInt
import Mathlib.Logic.Relation
import MuRockchip.Base.Traced

namespace MuRockchip.Display

open Base Base.Traced

structure HdmiDisplayTiming where
  vic : UInt8
  frequencyKHz : UInt32
  hDisplay : UInt32
  hSyncStart : UInt32
  hSyncEnd : UInt32
  hTotal : UInt32
  vDisplay : UInt32
  vSyncStart : UInt32
  vSyncEnd : UInt32
  vTotal : UInt32
  hSyncPol : Bool
  vSyncPol : Bool
  deriving DecidableEq, Repr

/-! ### Reading -/

/-- A read of `Edid[address]` that is made for a block. -/
structure EdidRead where
  block : Nat
  address : Nat
  deriving DecidableEq, Repr

abbrev Parser (α : Type) : Type := Traced EdidRead α

variable (edid : Nat → UInt8)

def fetch (block address : Nat) : Parser UInt8 := access ⟨block, address⟩ (edid address)

/-- One line of the dump, sixteen bytes. -/
def dumpLine (index : Nat) : Parser Unit :=
  (List.range 16).foldlM (fun _ column => do
    let _ ← fetch edid (index / 128) (index + column)
    pure ()) ()

/-- The dump of all blocks that `DwHdmiParseEdid` begins with. -/
def dumpEdid (numExt : UInt8) : Parser Unit :=
  (List.range' 0 (8 * (1 + numExt.toNat)) 16).foldlM (fun _ index => dumpLine edid index) ()

/-- The header begins and ends with a zero. -/
def headerByte (index : Nat) : UInt8 := if index = 0 ∨ index = 7 then 0x00 else 0xFF

/-- The first loop of `DwHdmiIsEdidValid`, over the header. -/
def checkHeader : List Nat → UInt8 → Parser (Option UInt8)
  | [], sum => pure (some sum)
  | index :: rest, sum => do
    let byte ← fetch edid 0 index
    if byte = headerByte index then checkHeader rest (sum + byte) else pure none

/-- The second one, over the rest of the block. -/
def sumBytes (indices : List Nat) (sum : UInt8) : Parser UInt8 :=
  indices.foldlM (fun sum index => do
    let byte ← fetch edid 0 index
    pure (sum + byte)) sum

/-- `DwHdmiIsEdidValid`. -/
def isEdidValid : Parser Bool := do
  let header ← checkHeader edid (List.range 8) 0
  match header with
  | none => pure false
  | some sum => do
    let sum ← sumBytes edid (List.range' 8 120) sum
    pure (sum = 0)

/-! ### The preferred timing -/

def pixelClock (low high : UInt8) : UInt16 := low.toUInt16 ||| (high.toUInt16 <<< 8)

/-- The modes the driver knows how to drive. -/
def supportedKHz : List UInt32 := [594000, 297000, 148500, 74250]

/-- A number whose upper bits share a byte with other numbers. -/
def joinBits (low : UInt32) (high : UInt8) (mask shift : UInt32) : UInt32 :=
  low ||| ((high.toUInt32 &&& mask) <<< shift)

/-- `DwHdmiParseDetailedTimingBlock`, on the descriptor at `data`. -/
def parseDetailedTimingBlock (data : Nat) (timings : HdmiDisplayTiming) :
    Parser (Bool × HdmiDisplayTiming) := do
  let data0 ← fetch edid 0 data
  let data1 ← fetch edid 0 (data + 1)
  let clock := (pixelClock data0 data1).toUInt32
  if clock = 0 then pure (false, timings)
  else do
    let data2 ← fetch edid 0 (data + 2)
    let data4 ← fetch edid 0 (data + 4)
    let data5 ← fetch edid 0 (data + 5)
    let data7 ← fetch edid 0 (data + 7)
    -- The warning about an unsupported clock names the mode too.
    let hDisplay := joinBits data2.toUInt32 data4 0xF0 4
    let vDisplay := joinBits data5.toUInt32 data7 0xF0 4
    if clock * 10 ∈ supportedKHz then do
      let data3 ← fetch edid 0 (data + 3)
      let data6 ← fetch edid 0 (data + 6)
      let data8 ← fetch edid 0 (data + 8)
      let data9 ← fetch edid 0 (data + 9)
      let data10 ← fetch edid 0 (data + 10)
      let data11 ← fetch edid 0 (data + 11)
      let data17 ← fetch edid 0 (data + 17)
      let hSyncStart := hDisplay + joinBits data8.toUInt32 data11 0xC0 2
      let vSyncStart := vDisplay + joinBits (data10.toUInt32 >>> 4) data11 0x0C 2
      pure (true,
        { vic := 0
          frequencyKHz := clock * 10
          hDisplay := hDisplay
          hSyncStart := hSyncStart
          hSyncEnd := hSyncStart + joinBits data9.toUInt32 data11 0x30 4
          hTotal := hDisplay + joinBits data3.toUInt32 data4 0x0F 8
          vDisplay := vDisplay
          vSyncStart := vSyncStart
          vSyncEnd := vSyncStart + joinBits (data10.toUInt32 &&& 0x0F) data11 0x03 4
          vTotal := vDisplay + joinBits data6.toUInt32 data7 0x0F 8
          hSyncPol := data17 &&& 0x02 ≠ 0
          vSyncPol := data17 &&& 0x04 ≠ 0 })
    else pure (false, timings)

/-! ### Extension blocks -/

def blockTag (header : UInt8) : UInt8 := (header >>> 5) &&& 0x7

def blockLen (header : UInt8) : Nat := (header &&& 0x1F).toNat

/-- One short video descriptor. The first native one is the mode. -/
def takeSvd (timings : HdmiDisplayTiming) (svd : UInt8) : HdmiDisplayTiming :=
  if timings.vic = 0 ∧ svd &&& 0x80 ≠ 0 then { timings with vic := svd &&& 0x7F } else timings

/-- The entries of a video data block whose header is at `data`. -/
def parseVideo (index data length : Nat) (timings : HdmiDisplayTiming) :
    Parser HdmiDisplayTiming :=
  (List.range' 1 length).foldlM (fun timings entry => do
    let svd ← fetch edid (index / 128) (index + (data + entry))
    pure (takeSvd timings svd)) timings

def parseDataBlock (index data : Nat) (header : UInt8) (timings : HdmiDisplayTiming) :
    Parser HdmiDisplayTiming :=
  if blockTag header = 2 then parseVideo edid index data (blockLen header) timings
  else pure timings

/-- The loop of `DwHdmiParseCea861ExtentionBlock`. -/
def parseDataBlocks (index off data : Nat) (timings : HdmiDisplayTiming) :
    Parser HdmiDisplayTiming :=
  if data < off then do
    let header ← fetch edid (index / 128) (index + data)
    if data + blockLen header + 1 > off then pure timings
    else do
      let timings ← parseDataBlock edid index data header timings
      parseDataBlocks index off (data + (1 + blockLen header)) timings
  else pure timings
termination_by off - data

/-- `DwHdmiParseCea861ExtentionBlock`, on the block at `index`. -/
def parseCea861ExtentionBlock (index : Nat) (rev off : UInt8) (timings : HdmiDisplayTiming) :
    Parser HdmiDisplayTiming :=
  if rev ≠ 3 then pure timings
  else parseDataBlocks edid index off.toNat 4 timings

/-- One round of the loop over the extension blocks. -/
def parseExtension (timings : HdmiDisplayTiming) (index : Nat) : Parser HdmiDisplayTiming := do
  let tag ← fetch edid (index / 128) index
  let rev ← fetch edid (index / 128) (index + 1)
  let off ← fetch edid (index / 128) (index + 2)
  if tag = 0x02 then parseCea861ExtentionBlock edid index rev off timings else pure timings

/-- `DwHdmiGuessVic`. -/
def guessVic (timings : HdmiDisplayTiming) : UInt8 :=
  if timings.hDisplay = 3840 ∧ timings.vDisplay = 2160 then
    if timings.frequencyKHz = 594000 then 97
    else if timings.frequencyKHz = 297000 then 95
    else 0
  else 0

/-- `DwHdmiParseEdid`. -/
def parseEdid (timings : HdmiDisplayTiming) (numExt : UInt8) :
    Parser (Bool × HdmiDisplayTiming) := do
  dumpEdid edid numExt
  let valid ← isEdidValid edid
  if valid then do
    let preferred ← parseDetailedTimingBlock edid 0x36 timings
    if preferred.1 then do
      let timings ← (List.range' 128 numExt.toNat 128).foldlM (parseExtension edid) preferred.2
      pure (true, if timings.vic = 0 then { timings with vic := guessVic timings } else timings)
    else pure (false, preferred.2)
  else pure (false, timings)

/-! ### What a block should be -/

/-- The header and the checksum of the first block are right. -/
def ValidEdid : Prop :=
  (∀ index < 8, edid index = headerByte index) ∧
    (List.range 128).foldl (fun sum index => sum + edid index) 0 = 0

/-- The preferred timing is one the driver knows. -/
def DrivableTiming : Prop :=
  (pixelClock (edid 0x36) (edid 0x37)).toUInt32 * 10 ∈ supportedKHz

/-- The header after the one at `header`, where that is still before the end of the chain. -/
def NextHeader (bytes : Nat → UInt8) (off header next : Nat) : Prop :=
  next = header + (1 + blockLen (bytes header)) ∧ next ≤ off

/-- The chain stops at a header: its data block would go past the end, or ends there and is not
read. -/
def StopsAt (bytes : Nat → UInt8) (off header : Nat) : Prop :=
  off < header + (1 + blockLen (bytes header)) ∨
    header + (1 + blockLen (bytes header)) = off ∧ blockTag (bytes header) ≠ 2

/-- The chain of data blocks from `data` on ends in the block, or stops at a header there. -/
def ContainedFrom (bytes : Nat → UInt8) (off data : Nat) : Prop :=
  off ≤ 128 ∨ off ≤ data ∨
    ∃ header < 128, Relation.ReflTransGen (NextHeader bytes off) data header ∧
      StopsAt bytes off header

/-- The data blocks of an extension block are in it, where it has any. -/
def Contained (bytes : Nat → UInt8) : Prop :=
  bytes 0 = 0x02 → bytes 1 = 3 → ContainedFrom bytes (bytes 2).toNat 4

/-- The read is of the buffer, and of the block it is made for. -/
structure EdidRead.Inside (numExt : UInt8) (read : EdidRead) : Prop where
  inBuffer : read.address < 128 * (1 + numExt.toNat)
  fromBlock : 128 * read.block ≤ read.address
  toBlock : read.address < 128 * read.block + 128

variable {numExt : UInt8}

theorem inside_iff {block offset : Nat} (extension : block ≤ numExt.toNat) :
    EdidRead.Inside numExt ⟨block, 128 * block + offset⟩ ↔ offset < 128 := by
  constructor
  · intro inside
    have := inside.toBlock
    dsimp only at this
    omega
  · intro small
    constructor <;> dsimp only <;> omega

@[simp] theorem all_fetch {allowed : EdidRead → Prop} (block address : Nat) :
    All allowed (fetch edid block address) ↔ allowed ⟨block, address⟩ :=
  all_access _ _

@[simp] theorem value_fetch (block address : Nat) :
    value (fetch edid block address) = edid address := rfl

/-! ### The first block -/

theorem inside_first {address : Nat} (small : address < 128) :
    EdidRead.Inside numExt ⟨0, address⟩ := by
  constructor <;> dsimp only <;> omega

theorem dumpLine_inside {line : Nat} (early : line < 8 * (1 + numExt.toNat)) :
    All (EdidRead.Inside numExt) (dumpLine edid (16 * line)) := by
  refine All.foldlM (fun column member _ => ?_) ()
  have := List.mem_range.mp member
  refine (all_bind _ _).mpr ⟨(all_fetch edid _ _).mpr ?_, all_pure _⟩
  constructor <;> dsimp only <;> omega

theorem dumpEdid_inside : All (EdidRead.Inside numExt) (dumpEdid edid numExt) := by
  refine All.foldlM (fun index member _ => ?_) ()
  obtain ⟨line, early, rfl⟩ := List.mem_range'.mp member
  rw [Nat.zero_add]
  exact dumpLine_inside edid early

theorem checkHeader_inside {indices : List Nat} (small : ∀ index ∈ indices, index < 128)
    (sum : UInt8) : All (EdidRead.Inside numExt) (checkHeader edid indices sum) := by
  induction indices generalizing sum with
  | nil => exact all_pure _
  | cons index rest ih =>
    obtain ⟨first, later⟩ := List.forall_mem_cons.mp small
    rw [checkHeader, all_bind, all_fetch]
    refine ⟨inside_first first, ?_⟩
    split
    · exact ih later _
    · exact all_pure _

theorem value_checkHeader (indices : List Nat) (sum : UInt8) :
    value (checkHeader edid indices sum) =
      if ∀ index ∈ indices, edid index = headerByte index
      then some (indices.foldl (fun sum index => sum + edid index) sum) else none := by
  induction indices generalizing sum with
  | nil => rfl
  | cons index rest ih =>
    rw [checkHeader, value_bind, value_fetch]
    by_cases same : edid index = headerByte index
    · rw [if_pos same, ih]
      simp only [List.forall_mem_cons, same, true_and, List.foldl_cons]
    · rw [if_neg same, value_pure, if_neg fun all => same (all index List.mem_cons_self)]

theorem sumBytes_inside {indices : List Nat} (small : ∀ index ∈ indices, index < 128)
    (sum : UInt8) : All (EdidRead.Inside numExt) (sumBytes edid indices sum) := by
  refine All.foldlM (fun index member _ => ?_) sum
  exact (all_bind _ _).mpr
    ⟨(all_fetch edid _ _).mpr (inside_first (small index member)), all_pure _⟩

theorem value_sumBytes (indices : List Nat) (sum : UInt8) :
    value (sumBytes edid indices sum) =
      indices.foldl (fun sum index => sum + edid index) sum := by
  rw [sumBytes, value_foldlM]
  rfl

theorem isEdidValid_inside : All (EdidRead.Inside numExt) (isEdidValid edid) := by
  rw [isEdidValid, all_bind]
  refine ⟨checkHeader_inside edid (fun index member => ?_) 0, ?_⟩
  · have := List.mem_range.mp member
    omega
  · split
    · exact all_pure _
    · refine (all_bind _ _).mpr ⟨sumBytes_inside edid (fun index member => ?_) _, all_pure _⟩
      obtain ⟨later, small, rfl⟩ := List.mem_range'.mp member
      omega

theorem value_isEdidValid : value (isEdidValid edid) = true ↔ ValidEdid edid := by
  have split : List.range 128 = List.range 8 ++ List.range' 8 120 := by decide
  rw [isEdidValid, value_bind, value_checkHeader, ValidEdid, split, List.foldl_append]
  by_cases header : ∀ index < 8, edid index = headerByte index
  · rw [if_pos fun index member => header index (List.mem_range.mp member)]
    simp only [value_bind, value_sumBytes, value_pure, decide_eq_true_eq]
    exact (and_iff_right header).symm
  · rw [if_neg fun all => header fun index small => all index (List.mem_range.mpr small)]
    exact iff_of_false Bool.false_ne_true fun valid => header valid.1

theorem parseDetailedTimingBlock_inside {data : Nat} (small : data + 17 < 128)
    (timings : HdmiDisplayTiming) :
    All (EdidRead.Inside numExt) (parseDetailedTimingBlock edid data timings) := by
  have inside {index : Nat} (below : index ≤ 17) :
      EdidRead.Inside numExt ⟨0, data + index⟩ := inside_first (by omega)
  have first : EdidRead.Inside numExt ⟨0, data⟩ := inside (Nat.zero_le 17)
  rw [parseDetailedTimingBlock, all_bind, all_fetch, all_bind, all_fetch]
  refine ⟨first, inside (by decide), ?_⟩
  dsimp only
  split
  · exact all_pure _
  · simp only [all_bind, all_fetch]
    refine ⟨inside (by decide), inside (by decide), inside (by decide), inside (by decide), ?_⟩
    split
    · simp only [all_bind, all_fetch, all_pure, and_true]
      exact ⟨inside (by decide), inside (by decide), inside (by decide), inside (by decide),
        inside (by decide), inside (by decide), inside (by decide)⟩
    · exact all_pure _

/-- A timing that is not usable is left alone. -/
theorem parseDetailedTimingBlock_cases (timings : HdmiDisplayTiming) :
    (DrivableTiming edid ∧ (value (parseDetailedTimingBlock edid 0x36 timings)).1 = true) ∨
      (¬ DrivableTiming edid ∧
        value (parseDetailedTimingBlock edid 0x36 timings) = (false, timings)) := by
  have unset {clock : UInt32} (zero : clock = 0) : clock * 10 ∉ supportedKHz := by
    subst zero
    decide
  rw [parseDetailedTimingBlock, value_bind, value_fetch, value_bind, value_fetch]
  dsimp only
  by_cases zero : (pixelClock (edid 0x36) (edid (0x36 + 1))).toUInt32 = 0
  · rw [if_pos zero]
    exact .inr ⟨unset zero, rfl⟩
  · rw [if_neg zero]
    simp only [value_bind]
    by_cases known : (pixelClock (edid 0x36) (edid (0x36 + 1))).toUInt32 * 10 ∈ supportedKHz
    · rw [if_pos known]
      exact .inl ⟨known, rfl⟩
    · rw [if_neg known]
      exact .inr ⟨known, rfl⟩

/-! ### The chain of data blocks -/

section Chain

variable {bytes : Nat → UInt8} {off : Nat}

theorem NextHeader.lt {header next : Nat} (step : NextHeader bytes off header next) :
    header < next := by
  have := step.1
  omega

theorem chain_le {header later : Nat}
    (chain : Relation.ReflTransGen (NextHeader bytes off) header later) : header ≤ later := by
  induction chain with
  | refl => exact Nat.le_refl _
  | tail _ step ih => exact ih.trans step.lt.le

/-- What the walk asks of one header and of the rest of the chain. -/
theorem containedFrom_step {data : Nat} (early : data < off) :
    ContainedFrom bytes off data ↔ data < 128 ∧
      (data + (1 + blockLen (bytes data)) ≤ off →
        (blockTag (bytes data) = 2 → data + (1 + blockLen (bytes data)) ≤ 128) ∧
          ContainedFrom bytes off (data + (1 + blockLen (bytes data)))) := by
  constructor
  · rintro (short | ended | ⟨header, small, chain, stops⟩)
    · exact ⟨by omega, fun inside => ⟨fun _ => by omega, .inl short⟩⟩
    · omega
    · refine ⟨(chain_le chain).trans_lt small, fun inside => ?_⟩
      rcases Relation.ReflTransGen.cases_head chain with rfl | ⟨next, step, rest⟩
      · rcases stops with past | ⟨ends, other⟩
        · omega
        · exact ⟨fun video => absurd video other, .inr (.inl ends.ge)⟩
      · obtain ⟨rfl, -⟩ := step
        have := chain_le rest
        exact ⟨fun _ => by omega, .inr (.inr ⟨header, small, rest, stops⟩)⟩
  · rintro ⟨small, rest⟩
    by_cases inside : data + (1 + blockLen (bytes data)) ≤ off
    · obtain ⟨video, short | ended | ⟨header, below, chain, stops⟩⟩ := rest inside
      · exact .inl short
      · by_cases other : blockTag (bytes data) = 2
        · exact .inl (ended.trans (video other))
        · exact .inr (.inr ⟨data, small, .refl, .inr ⟨Nat.le_antisymm inside ended, other⟩⟩)
      · exact .inr (.inr ⟨header, below, .head ⟨rfl, inside⟩ chain, stops⟩)
    · exact .inr (.inr ⟨data, small, .refl, .inl (Nat.lt_of_not_le inside)⟩)

end Chain

section Extension

variable {block : Nat} (extension : block ≤ numExt.toNat)
include extension

theorem all_fetch_iff (offset : Nat) :
    All (EdidRead.Inside numExt) (fetch edid (128 * block / 128) (128 * block + offset)) ↔
      offset < 128 := by
  rw [all_fetch, Nat.mul_div_cancel_left block (by decide), inside_iff extension]

theorem all_svd_iff {data : Nat} {entries : List Nat} (entry : Nat) (_ : entry ∈ entries)
    (timings : HdmiDisplayTiming) :
    All (EdidRead.Inside numExt) (do
      let svd ← fetch edid (128 * block / 128) (128 * block + (data + entry))
      pure (takeSvd timings svd)) ↔ data + entry < 128 := by
  rw [all_bind, all_fetch_iff edid extension]
  exact and_iff_left (all_pure _)

theorem parseVideo_inside_iff {data length : Nat} (small : data < 128)
    (timings : HdmiDisplayTiming) :
    All (EdidRead.Inside numExt) (parseVideo edid (128 * block) data length timings) ↔
      data + (1 + length) ≤ 128 := by
  rw [parseVideo, all_foldlM (all_svd_iff edid extension)]
  constructor
  · intro all
    rcases Nat.eq_zero_or_pos length with rfl | some
    · omega
    · have := all length (List.mem_range'_1.mpr ⟨some, by omega⟩)
      omega
  · intro short entry member
    have := List.mem_range'_1.mp member
    omega

/-- The walk reads only the block when the chain of data blocks is in it. -/
theorem parseDataBlocks_inside_iff (off data : Nat) (timings : HdmiDisplayTiming) :
    All (EdidRead.Inside numExt) (parseDataBlocks edid (128 * block) off data timings) ↔
      ContainedFrom (fun offset => edid (128 * block + offset)) off data := by
  rw [parseDataBlocks]
  by_cases early : data < off
  · rw [if_pos early, containedFrom_step early, all_bind, all_fetch_iff edid extension,
      value_fetch]
    refine and_congr_right fun small => ?_
    by_cases past : data + blockLen (edid (128 * block + data)) + 1 > off
    · rw [if_pos past]
      exact iff_of_true (all_pure _) fun inside => absurd inside (by omega)
    · have inside : data + (1 + blockLen (edid (128 * block + data))) ≤ off := by omega
      rw [if_neg past, all_bind, parseDataBlocks_inside_iff off (data + _),
        forall_prop_of_true inside, parseDataBlock]
      refine and_congr_left fun _ => ?_
      by_cases video : blockTag (edid (128 * block + data)) = 2
      · rw [if_pos video, parseVideo_inside_iff edid extension small, forall_prop_of_true video]
      · rw [if_neg video]
        exact iff_of_true (all_pure _) fun is => absurd is video
  · rw [if_neg early]
    exact iff_of_true (all_pure _) (.inr (.inl (Nat.le_of_not_lt early)))
termination_by off - data

theorem parseExtension_inside_iff (timings : HdmiDisplayTiming) :
    All (EdidRead.Inside numExt) (parseExtension edid timings (128 * block)) ↔
      Contained fun offset => edid (128 * block + offset) := by
  have first := all_fetch_iff edid extension 0
  rw [Nat.add_zero] at first
  rw [parseExtension, all_bind, first, all_bind, all_fetch_iff edid extension, all_bind,
    all_fetch_iff edid extension, value_fetch, value_fetch, value_fetch]
  simp only [Contained, Nat.add_zero, Nat.reduceLT, true_and]
  by_cases cea : edid (128 * block) = 0x02
  · rw [if_pos cea, forall_prop_of_true cea, parseCea861ExtentionBlock]
    by_cases rev : edid (128 * block + 1) = 3
    · rw [if_neg fun other => other rev, forall_prop_of_true rev,
        parseDataBlocks_inside_iff edid extension]
    · rw [if_pos rev]
      exact iff_of_true (all_pure _) fun is => absurd is rev
  · rw [if_neg cea]
    exact iff_of_true (all_pure _) fun is => absurd is cea

omit extension in
theorem parseExtension_member (index : Nat)
    (member : index ∈ List.range' 128 numExt.toNat 128) (timings : HdmiDisplayTiming) :
    All (EdidRead.Inside numExt) (parseExtension edid timings index) ↔
      Contained fun offset => edid (128 * (index / 128) + offset) := by
  obtain ⟨before, small, rfl⟩ := List.mem_range'.mp member
  have factor : 128 + 128 * before = 128 * (before + 1) := by omega
  rw [factor, Nat.mul_div_cancel_left _ (by decide)]
  exact parseExtension_inside_iff edid small timings

end Extension

/-! ### The whole EDID -/

theorem parseEdid_false {timings : HdmiDisplayTiming}
    (rejected : (value (parseEdid edid timings numExt)).1 = false) :
    (value (parseEdid edid timings numExt)).2 = timings := by
  revert rejected
  rw [parseEdid, value_bind, value_bind]
  by_cases valid : value (isEdidValid edid) = true
  · rw [if_pos valid, value_bind]
    rcases parseDetailedTimingBlock_cases edid timings with ⟨-, usable⟩ | ⟨-, unusable⟩
    · rw [if_pos usable]
      intro rejected
      cases rejected
    · rw [unusable, if_neg Bool.false_ne_true]
      intro _
      rfl
  · rw [if_neg valid]
    intro _
    rfl

theorem parseEdid_inside_iff (timings : HdmiDisplayTiming) :
    All (EdidRead.Inside numExt) (parseEdid edid timings numExt) ↔
      (ValidEdid edid → DrivableTiming edid → ∀ block, 0 < block → block ≤ numExt.toNat →
        Contained fun offset => edid (128 * block + offset)) := by
  rw [parseEdid, all_bind, and_iff_right (dumpEdid_inside edid), all_bind,
    and_iff_right (isEdidValid_inside edid), ← value_isEdidValid]
  by_cases valid : value (isEdidValid edid) = true
  · rw [if_pos valid, forall_prop_of_true valid, all_bind,
      and_iff_right (parseDetailedTimingBlock_inside edid (by decide) timings)]
    rcases parseDetailedTimingBlock_cases edid timings with
      ⟨drivable, usable⟩ | ⟨unknown, unusable⟩
    · rw [if_pos usable, forall_prop_of_true drivable, all_bind, and_iff_left (all_pure _),
        all_foldlM (parseExtension_member edid)]
      constructor
      · intro all block positive extension
        have member : 128 * block ∈ List.range' 128 numExt.toNat 128 :=
          List.mem_range'.mpr ⟨block - 1, by omega, by omega⟩
        have := all _ member
        rwa [Nat.mul_div_cancel_left block (by decide)] at this
      · intro all index member
        obtain ⟨before, small, rfl⟩ := List.mem_range'.mp member
        exact all _ (by omega) (by omega)
    · rw [unusable, if_neg Bool.false_ne_true]
      exact iff_of_true (all_pure _) fun drivable => absurd drivable unknown
  · rw [if_neg valid]
    exact iff_of_true (all_pure _) fun is => absurd is valid

/-- The parser, which ends on every input, reads only the buffer and, for a block, only that
block, and leaves the timings alone when it rejects the EDID: this is so where it does not get
to an extension block whose chain of data blocks leaves the block. -/
theorem parseEdid_bounded_iff (timings : HdmiDisplayTiming) (numExt : UInt8) :
    ((∀ read ∈ (parseEdid edid timings numExt).accesses, read.Inside numExt) ∧
      ((value (parseEdid edid timings numExt)).1 = false →
        (value (parseEdid edid timings numExt)).2 = timings)) ↔
      (ValidEdid edid → DrivableTiming edid → ∀ block, 0 < block → block ≤ numExt.toNat →
        Contained fun offset => edid (128 * block + offset)) := by
  rw [and_iff_left (parseEdid_false edid)]
  exact parseEdid_inside_iff edid timings

/-- A display whose extension block says that its data blocks end at 255, and has none. -/
def overrunEdid (address : Nat) : UInt8 :=
  if 1 ≤ address ∧ address ≤ 6 then 0xFF
  else if address = 0x36 then 0x02
  else if address = 0x37 then 0x3A
  else if address = 127 then 0xCA
  else if address = 128 then 0x02
  else if address = 129 then 3
  else if address = 130 then 255
  else 0

theorem overrunEdid_not_contained :
    ¬ Contained fun offset => overrunEdid (128 * 1 + offset) := by
  intro contained
  have zero {header : Nat} (later : 4 ≤ header) : overrunEdid (128 * 1 + header) = 0 := by
    unfold overrunEdid
    repeat rw [if_neg (by omega)]
  obtain short | ended | ⟨header, small, chain, stops⟩ := contained rfl rfl
  · exact absurd short (by decide)
  · exact absurd ended (by decide)
  · have empty : blockLen 0 = 0 := rfl
    have last : (overrunEdid (128 * 1 + 2)).toNat = 255 := rfl
    rw [StopsAt, zero (chain_le chain), empty, last] at stops
    omega

/-- The walk over the extension block of that display goes on after the block. -/
theorem parseEdid_unbounded :
    ∃ read ∈ (parseEdid overrunEdid ⟨0, 0, 0, 0, 0, 0, 0, 0, 0, 0, false, false⟩ 1).accesses,
      ¬ read.Inside 1 := by
  by_contra bounded
  have inside : ∀ read ∈ (parseEdid overrunEdid ⟨0, 0, 0, 0, 0, 0, 0, 0, 0, 0, false, false⟩
      1).accesses, read.Inside 1 := by
    intro read member
    by_contra outside
    exact bounded ⟨read, member, outside⟩
  have valid : ValidEdid overrunEdid := ⟨by decide, by decide +kernel⟩
  have drivable : DrivableTiming overrunEdid := by
    unfold DrivableTiming
    decide
  exact overrunEdid_not_contained
    ((parseEdid_inside_iff overrunEdid _).mp inside valid drivable 1 (by decide) (by decide))

end MuRockchip.Display
