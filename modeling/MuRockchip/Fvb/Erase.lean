/-
Erasing blocks of the variable volume.

The argument list is checked before anything is erased: by comparing the end of each
pair with the number of blocks, and that end wraps. Then the blocks are erased one by
one, each looked up in the block map as the erased blocks before it have left it.

* `refusesList_iff`: a list that names a block the volume lacks is refused if and only if
  the check notices, or nothing but erased blocks comes before the missing one.
* `erasesList_iff`: the other lists are erased if and only if the blocks found when their
  turn comes cover the bytes of those that were listed.
* `FoundInPlace.found`: what is found, as long as a block leaves the map alone or erases its
  first entry.
* `Regular.foundInPlace`: a block of a volume as start-up expects it does one or the other.
-/
import MuRockchip.Base.BitFields
import MuRockchip.Fvb.BlockMap

namespace MuRockchip.Fvb

open MuRockchip.Base

/-! ### The listed blocks -/

/-- The pairs before the terminator. -/
def listedRanges (ranges : List LbaRange) : List LbaRange :=
  ranges.takeWhile fun range => range.startingLba ≠ lbaListTerminator

/-- The blocks of a pair, in the order of their erasure. -/
def LbaRange.lbas (range : LbaRange) : List UInt64 :=
  (List.range range.numOfLba.toNat).map fun step => range.startingLba + UInt64.ofNat step

def listedLbas (ranges : List LbaRange) : List UInt64 := (listedRanges ranges).flatMap LbaRange.lbas

/-- The first block of a pair. -/
theorem LbaRange.lbas_eq_cons {range : LbaRange} (holds : range.numOfLba ≠ 0) :
    ∃ rest, range.lbas = range.startingLba :: rest := by
  obtain ⟨count, size⟩ := Nat.exists_eq_succ_of_ne_zero
    (fun none => holds (UInt64.toNat_inj.mp none) : range.numOfLba.toNat ≠ 0)
  refine ⟨((List.range count).map Nat.succ).map fun step =>
    range.startingLba + UInt64.ofNat step, ?_⟩
  rw [LbaRange.lbas, size, List.range_succ_eq_map, List.map_cons]
  exact congrArg (· :: _) (UInt64.add_zero _)

/-- The pair names blocks, and no block past the last. -/
def LbaRange.Exists (range : LbaRange) (numOfBlocks : UInt64) : Prop :=
  range.numOfLba ≠ 0 ∧ range.startingLba.toNat + range.numOfLba.toNat ≤ numOfBlocks.toNat

instance (range : LbaRange) (numOfBlocks : UInt64) : Decidable (range.Exists numOfBlocks) :=
  inferInstanceAs (Decidable (_ ∧ _))

/-- What the first pass stops at: an empty pair, or one whose end, in 64 bits, is past the last
block. -/
def LbaRange.Rejected (range : LbaRange) (numOfBlocks : UInt64) : Prop :=
  range.numOfLba = 0 ∨ range.startingLba + range.numOfLba > numOfBlocks

variable {numOfBlocks : UInt64} {ranges : List LbaRange} {memory : Memory} {volume : FwVolume}
  {pcds : FvbPcds}

theorem eraseListAccepted_eq_false_iff :
    eraseListAccepted numOfBlocks ranges = false ↔
      ∃ range ∈ listedRanges ranges, range.Rejected numOfBlocks := by
  induction ranges with
  | nil => simp [eraseListAccepted, listedRanges]
  | cons range rest ih =>
    rw [eraseListAccepted]
    split
    · rename_i last
      simp [listedRanges, last]
    · rename_i more
      have listed : listedRanges (range :: rest) = range :: listedRanges rest :=
        List.takeWhile_cons_of_pos (decide_eq_true more)
      simp only [listed, List.exists_mem_cons_iff, ← ih]
      by_cases stops : range.Rejected numOfBlocks
      · exact iff_of_true (if_pos stops) (.inl stops)
      · rw [or_iff_right stops]
        exact iff_of_eq (congrArg (· = false) (if_neg stops))

theorem eraseListAccepted_of_exists
    (existing : ∀ range ∈ listedRanges ranges, range.Exists numOfBlocks) :
    eraseListAccepted numOfBlocks ranges = true := by
  rw [← Bool.not_eq_false, eraseListAccepted_eq_false_iff]
  rintro ⟨range, listed, zero | past⟩
  · exact (existing range listed).1 zero
  · have within := (existing range listed).2
    have bound := numOfBlocks.toNat_lt
    rw [gt_iff_lt, UInt64.lt_iff_toNat_lt, UInt64.toNat_add] at past
    omega

/-! ### Erasing one after the other -/

def eraseLbas : List UInt64 → FwVolume → Option (EfiStatus × FwVolume)
  | [], volume => some (EfiStatus.success, volume)
  | lba :: rest, volume =>
    (fvbEraseBlock volume lba).bind fun erased =>
      if erased.1.isError then some erased else eraseLbas rest erased.2

theorem eraseLbas_append (first second : List UInt64) (volume : FwVolume) :
    eraseLbas (first ++ second) volume = (eraseLbas first volume).bind fun erased =>
      if erased.1.isError then some erased else eraseLbas second erased.2 := by
  induction first generalizing volume with
  | nil => rfl
  | cons lba rest ih =>
    simp only [List.cons_append, eraseLbas, Option.bind_assoc]
    congr 1
    funext erased
    by_cases failed : erased.1.isError
    · simp [failed]
    · simp [failed, ih]

theorem eraseRange_eq (count : Nat) (lba : UInt64) (volume : FwVolume) :
    eraseRange count lba volume =
      eraseLbas ((List.range count).map fun step => lba + UInt64.ofNat step) volume := by
  induction count generalizing lba volume with
  | zero => rfl
  | succ count ih =>
    have shifted : ((List.range count).map Nat.succ).map (fun step => lba + UInt64.ofNat step) =
        (List.range count).map fun step => lba + 1 + UInt64.ofNat step := by
      rw [List.map_map]
      apply List.map_congr_left
      intro step _
      simp only [Function.comp_apply, Nat.succ_eq_add_one, UInt64.ofNat_add, UInt64.add_assoc]
      congr 1
      exact UInt64.add_comm _ _
    rw [List.range_succ_eq_map, List.map_cons, shifted, eraseRange]
    simp [eraseLbas, ih]

theorem eraseList_eq (ranges : List LbaRange) (volume : FwVolume) :
    eraseList ranges volume = eraseLbas (listedLbas ranges) volume := by
  induction ranges generalizing volume with
  | nil => rfl
  | cons range rest ih =>
    rw [eraseList]
    split
    · rename_i last
      simp [listedLbas, listedRanges, last, eraseLbas]
    · rename_i more
      have listed : listedLbas (range :: rest) = range.lbas ++ listedLbas rest := by
        simp [listedLbas, listedRanges, more]
      rw [listed, eraseLbas_append, eraseRange_eq]
      simp only [LbaRange.lbas, ih]

section

variable {volume : FwVolume} {lba : UInt64} {lbas : List UInt64}

theorem fvbEraseBlock_disabled (disabled : volume.attributes &&& fvb2WriteStatus = 0) :
    fvbEraseBlock volume lba = some (EfiStatus.accessDenied, volume) := by
  rw [fvbEraseBlock, if_pos disabled]

theorem fvbEraseBlock_enabled (enabled : volume.attributes &&& fvb2WriteStatus ≠ 0) :
    fvbEraseBlock volume lba =
      (fvbGetLbaAddress volume.memory volume.base lba).map fun located =>
        match located with
        | .error status => (status, volume)
        | .ok block => (EfiStatus.success, volume.varStoreErase block.address block.length) := by
  unfold fvbEraseBlock
  exact if_neg enabled

variable {erased : EfiStatus × FwVolume}

theorem fvbEraseBlock_after (step : fvbEraseBlock volume lba = some erased) :
    erased.2 = volume ∨
      ∃ block : LbaBlock, erased.2 = volume.varStoreErase block.address block.length := by
  by_cases disabled : volume.attributes &&& fvb2WriteStatus = 0
  · rw [fvbEraseBlock_disabled disabled] at step
    cases step
    exact .inl rfl
  · rw [fvbEraseBlock_enabled disabled] at step
    obtain ⟨located, -, rfl⟩ := Option.map_eq_some_iff.mp step
    cases located with
    | error status => exact .inl rfl
    | ok block => exact .inr ⟨block, rfl⟩

/-- What the erasure of any block keeps, a run of erasures keeps. -/
theorem eraseLbas_preserves {relation : FwVolume → FwVolume → Prop}
    (refl : ∀ volume, relation volume volume)
    (trans : ∀ {first second third}, relation first second → relation second third →
      relation first third)
    (erases : ∀ (volume : FwVolume) (block : LbaBlock),
      relation volume (volume.varStoreErase block.address block.length))
    {erased : EfiStatus × FwVolume} (run : eraseLbas lbas volume = some erased) :
    relation volume erased.2 := by
  induction lbas generalizing volume with
  | nil =>
    cases run
    exact refl volume
  | cons lba rest ih =>
    obtain ⟨next, step, later⟩ := Option.bind_eq_some_iff.mp run
    have first : relation volume next.2 := by
      rcases fvbEraseBlock_after step with same | ⟨block, erased⟩
      · rw [same]
        exact refl volume
      · rw [erased]
        exact erases volume block
    split at later
    · cases later
      exact first
    · exact trans first (ih later)

theorem eraseLbas_keeps {address : UInt64} (run : eraseLbas lbas volume = some erased)
    (already : volume.memory address = 0xFF) :
    erased.2.memory address = 0xFF := by
  have keeps : volume.memory address = 0xFF → erased.2.memory address = 0xFF :=
    @eraseLbas_preserves volume lbas
      (fun before after => before.memory address = 0xFF → after.memory address = 0xFF)
      (fun _ kept => kept) (fun one other kept => other (one kept))
      (fun _ _ => Memory.fill_keeps) erased run
  exact keeps already

/-! ### Refusing a list -/

/-- The call returns `EFI_INVALID_PARAMETER`, and no byte has changed. -/
def RefusesList (volume : FwVolume) (ranges : List LbaRange) : Prop :=
  ∃ after, fvbProtocolEraseBlocks volume ranges = some (EfiStatus.invalidParameter, after) ∧
    after.memory = volume.memory

/-- Every byte of the block is erased. -/
def LbaBlock.Blank (block : LbaBlock) (memory : Memory) : Prop :=
  ∀ address, address - block.address < block.length → memory address = 0xFF

/-- Only erased blocks come before the first that the map lacks. -/
def MissingFirst (memory : Memory) (base : UInt64) : List UInt64 → Prop
  | [] => False
  | lba :: rest =>
    fvbGetLbaAddress memory base lba = some (.error EfiStatus.invalidParameter) ∨
      ∃ block, fvbGetLbaAddress memory base lba = some (.ok block) ∧ block.Blank memory ∧
        MissingFirst memory base rest

/-- The erasure of these blocks fails for a missing one and changes nothing. -/
theorem eraseLbas_unchanged_iff (enabled : volume.attributes &&& fvb2WriteStatus ≠ 0) :
    (∃ after, eraseLbas lbas volume = some (EfiStatus.invalidParameter, after) ∧
        after.memory = volume.memory) ↔
      MissingFirst volume.memory volume.base lbas := by
  induction lbas generalizing volume with
  | nil =>
    constructor
    · rintro ⟨after, run, -⟩
      exact absurd (congrArg Prod.fst (Option.some.inj run))
        EfiStatus.success_ne_invalidParameter
    · exact False.elim
  | cons lba rest ih =>
    rw [eraseLbas, fvbEraseBlock_enabled enabled]
    constructor
    · rintro ⟨after, run, same⟩
      obtain ⟨next, step, later⟩ := Option.bind_eq_some_iff.mp run
      obtain ⟨located, finds, rfl⟩ := Option.map_eq_some_iff.mp step
      cases located with
      | error status => exact .inl (by rw [finds, lbaSearch_error finds])
      | ok block =>
        have goesOn : eraseLbas rest (volume.varStoreErase block.address block.length) =
          some (EfiStatus.invalidParameter, after) := later
        have blank : block.Blank volume.memory := by
          intro address inside
          rw [← same]
          exact eraseLbas_keeps goesOn (if_pos inside)
        have unchanged : (volume.varStoreErase block.address block.length).memory =
          volume.memory := Memory.fill_eq_self_iff.mpr blank
        refine .inr ⟨block, finds, blank, ?_⟩
        have enabledStill : (volume.varStoreErase block.address block.length).attributes &&&
            fvb2WriteStatus ≠ 0 := by
          rw [FwVolume.attributes, unchanged]
          exact enabled
        have missing := (ih enabledStill).mp ⟨after, goesOn, same.trans unchanged.symm⟩
        rwa [unchanged] at missing
    · rintro (missing | ⟨block, finds, blank, missing⟩)
      · exact ⟨volume, by rw [missing]; rfl, rfl⟩
      · have unchanged : (volume.varStoreErase block.address block.length).memory =
          volume.memory := Memory.fill_eq_self_iff.mpr blank
        have enabledStill : (volume.varStoreErase block.address block.length).attributes &&&
            fvb2WriteStatus ≠ 0 := by
          rw [FwVolume.attributes, unchanged]
          exact enabled
        rw [← unchanged] at missing
        obtain ⟨after, run, same⟩ := (ih enabledStill).mpr missing
        exact ⟨after, by rw [finds]; exact run, same.trans unchanged⟩

/-- Without the write status a list that passes the check is not refused for its
parameters. -/
theorem eraseLbas_disabled {after : FwVolume}
    (disabled : volume.attributes &&& fvb2WriteStatus = 0) :
    eraseLbas lbas volume ≠ some (EfiStatus.invalidParameter, after) := by
  cases lbas with
  | nil =>
    intro run
    exact absurd (congrArg Prod.fst (Option.some.inj run)) EfiStatus.success_ne_invalidParameter
  | cons lba rest =>
    intro run
    rw [eraseLbas, fvbEraseBlock_disabled disabled] at run
    exact absurd (congrArg Prod.fst (Option.some.inj run))
      EfiStatus.accessDenied_ne_invalidParameter

theorem refusesList_iff (ranges : List LbaRange) :
    RefusesList volume ranges ↔
      eraseListAccepted volume.fvInstance.numOfBlocks ranges = false ∨
        (volume.attributes &&& fvb2WriteStatus ≠ 0 ∧
          MissingFirst volume.memory volume.base (listedLbas ranges)) := by
  unfold RefusesList fvbProtocolEraseBlocks
  rw [eraseList_eq]
  by_cases accepted : eraseListAccepted volume.fvInstance.numOfBlocks ranges
  · simp only [accepted, if_true, Bool.true_eq_false, false_or]
    constructor
    · intro refused
      have enabled : volume.attributes &&& fvb2WriteStatus ≠ 0 := by
        intro disabled
        obtain ⟨after, run, -⟩ := refused
        exact eraseLbas_disabled disabled run
      exact ⟨enabled, (eraseLbas_unchanged_iff enabled).mp refused⟩
    · rintro ⟨enabled, missing⟩
      exact (eraseLbas_unchanged_iff enabled).mpr missing
  · simp only [accepted, Bool.false_eq_true, if_false, true_or, iff_true]
    exact ⟨volume, rfl, rfl⟩

theorem not_refusesList_of_live {range : LbaRange} {rest : List LbaRange} {block : LbaBlock}
    {address : UInt64}
    (accepted : eraseListAccepted volume.fvInstance.numOfBlocks (range :: rest) = true)
    (listed : range.startingLba ≠ lbaListTerminator) (holds : range.numOfLba ≠ 0)
    (finds : fvbGetLbaAddress volume.memory volume.base range.startingLba = some (.ok block))
    (inside : address - block.address < block.length) (live : volume.memory address ≠ 0xFF) :
    ¬ RefusesList volume (range :: rest) := by
  rw [refusesList_iff]
  rintro (rejected | ⟨-, missing⟩)
  · rw [accepted] at rejected
    cases rejected
  · have ranges : listedRanges (range :: rest) = range :: listedRanges rest :=
      List.takeWhile_cons_of_pos (decide_eq_true listed)
    obtain ⟨others, first⟩ := LbaRange.lbas_eq_cons holds
    rw [listedLbas, ranges, List.flatMap_cons, first] at missing
    rcases missing with absent | ⟨same, again, blank, -⟩
    · rw [finds] at absent
      cases absent
    · rw [finds] at again
      cases again
      exact live (blank address inside)

end

/-! ### Erasing a list -/

def LbaBlock.covers (block : LbaBlock) (address : UInt64) : Bool :=
  address - block.address < block.length

/-- The memory with every byte of these blocks, and no other, set to 0xFF. -/
def eraseBlocks (memory : Memory) (blocks : List LbaBlock) : Memory := fun address =>
  if blocks.any (·.covers address) then 0xFF else memory address

theorem eraseBlocks_cons (memory : Memory) (block : LbaBlock) (blocks : List LbaBlock) :
    eraseBlocks memory (block :: blocks) =
      eraseBlocks (memory.fill block.address block.length 0xFF) blocks := by
  funext address
  simp only [eraseBlocks, List.any_cons, Memory.fill, LbaBlock.covers, Bool.or_eq_true,
    decide_eq_true_eq]
  by_cases inside : address - block.address < block.length
  · simp [inside]
  · simp [inside]

theorem eraseBlocks_nil (memory : Memory) : eraseBlocks memory [] = memory := rfl

theorem eraseBlocks_eq_iff {blocks others : List LbaBlock} :
    eraseBlocks memory blocks = eraseBlocks memory others ↔
      ∀ address, memory address ≠ 0xFF →
        blocks.any (·.covers address) = others.any (·.covers address) := by
  constructor
  · intro same address live
    have here := congrFun same address
    rw [eraseBlocks, eraseBlocks] at here
    split at here
    · rename_i covered
      split at here
      · rename_i covers
        rw [covered, covers]
      · exact absurd here.symm live
    · rename_i uncovered
      split at here
      · exact absurd here live
      · rename_i spares
        rw [Bool.not_eq_true] at uncovered spares
        rw [uncovered, spares]
  · intro alike
    funext address
    by_cases erased : memory address = 0xFF
    · simp [eraseBlocks, erased]
    · rw [eraseBlocks, eraseBlocks, alike address erased]

/-- The block with this number, if the map has it. -/
def blockAt (memory : Memory) (base lba : UInt64) : Option LbaBlock :=
  (fvbGetLbaAddress memory base lba).bind Except.toOption

theorem blockAt_eq_some_iff {base lba : UInt64} {block : LbaBlock} :
    blockAt memory base lba = some block ↔ fvbGetLbaAddress memory base lba = some (.ok block) := by
  rw [blockAt]
  cases fvbGetLbaAddress memory base lba with
  | none => simp
  | some located => cases located <;> simp [Except.toOption]

def FwVolume.listedBlocks (volume : FwVolume) (ranges : List LbaRange) : List LbaBlock :=
  (listedLbas ranges).filterMap (blockAt volume.memory volume.base)

/-- Exactly the bytes of the listed blocks are set to 0xFF. -/
def ErasesList (volume : FwVolume) (ranges : List LbaRange) : Prop :=
  ∃ after, fvbProtocolEraseBlocks volume ranges = some (EfiStatus.success, after) ∧
    after.memory = eraseBlocks volume.memory (volume.listedBlocks ranges)

/-- Looked up one after the other, in the header that the erasures before have left, the
numbers are found to be these blocks, and the volume is write-enabled. -/
def FoundAlong (base : UInt64) : Memory → List UInt64 → List LbaBlock → Prop
  | _, [], [] => True
  | memory, lba :: lbas, block :: blocks =>
    headerAttributes memory base &&& fvb2WriteStatus ≠ 0 ∧
      fvbGetLbaAddress memory base lba = some (.ok block) ∧
      FoundAlong base (memory.fill block.address block.length 0xFF) lbas blocks
  | _, _, _ => False

section

variable {volume : FwVolume} {lba : UInt64} {lbas : List UInt64}

theorem foundAlong_of_success {after : FwVolume}
    (run : eraseLbas lbas volume = some (EfiStatus.success, after)) :
    ∃ blocks, FoundAlong volume.base volume.memory lbas blocks ∧
      after.memory = eraseBlocks volume.memory blocks := by
  induction lbas generalizing volume with
  | nil =>
    cases run
    exact ⟨[], trivial, rfl⟩
  | cons lba rest ih =>
    rw [eraseLbas] at run
    obtain ⟨next, step, later⟩ := Option.bind_eq_some_iff.mp run
    have succeeded : ¬ next.1.isError := by
      intro failed
      rw [if_pos failed] at later
      cases later
      cases failed
    rw [if_neg succeeded] at later
    have enabled : volume.attributes &&& fvb2WriteStatus ≠ 0 := by
      intro disabled
      rw [fvbEraseBlock_disabled disabled] at step
      cases step
      exact succeeded rfl
    rw [fvbEraseBlock_enabled enabled] at step
    obtain ⟨located, finds, rfl⟩ := Option.map_eq_some_iff.mp step
    cases located with
    | error status =>
      rw [lbaSearch_error finds] at succeeded
      exact absurd rfl succeeded
    | ok block =>
      obtain ⟨blocks, found, image⟩ := ih later
      exact ⟨block :: blocks, ⟨enabled, finds, found⟩, by rw [eraseBlocks_cons]; exact image⟩

theorem eraseLbas_of_foundAlong {blocks : List LbaBlock}
    (found : FoundAlong volume.base volume.memory lbas blocks) :
    ∃ after, eraseLbas lbas volume = some (EfiStatus.success, after) ∧
      after.memory = eraseBlocks volume.memory blocks := by
  induction lbas generalizing volume blocks with
  | nil =>
    cases blocks with
    | nil => exact ⟨volume, rfl, rfl⟩
    | cons block blocks => exact found.elim
  | cons lba rest ih =>
    cases blocks with
    | nil => exact found.elim
    | cons block blocks =>
      obtain ⟨enabled, finds, later⟩ := found
      obtain ⟨after, run, image⟩ :=
        @ih (volume.varStoreErase block.address block.length) blocks later
      refine ⟨after, ?_, by rw [eraseBlocks_cons]; exact image⟩
      rw [eraseLbas, fvbEraseBlock_enabled enabled, finds]
      exact run

theorem erasesList_iff {ranges : List LbaRange}
    (existing : ∀ range ∈ listedRanges ranges, range.Exists volume.fvInstance.numOfBlocks) :
    ErasesList volume ranges ↔
      ∃ blocks, FoundAlong volume.base volume.memory (listedLbas ranges) blocks ∧
        ∀ address, volume.memory address ≠ 0xFF →
          blocks.any (·.covers address) = (volume.listedBlocks ranges).any (·.covers address) := by
  unfold ErasesList fvbProtocolEraseBlocks
  rw [if_pos (eraseListAccepted_of_exists existing), eraseList_eq]
  constructor
  · rintro ⟨after, run, image⟩
    obtain ⟨blocks, found, same⟩ := foundAlong_of_success run
    exact ⟨blocks, found, eraseBlocks_eq_iff.mp (same.symm.trans image)⟩
  · rintro ⟨blocks, found, alike⟩
    obtain ⟨after, run, image⟩ := eraseLbas_of_foundAlong found
    exact ⟨after, run, image.trans (eraseBlocks_eq_iff.mpr alike)⟩

end

/-! ### Keeping the header -/

/-- Two memories hold the same header, each at its base, as far as `length` bytes. -/
def HeaderAgrees (left : Memory) (leftBase : UInt64) (right : Memory) (rightBase : UInt64)
    (length : Nat) : Prop :=
  ∀ index < length, left (leftBase + UInt64.ofNat index) = right (rightBase + UInt64.ofNat index)

/-- An address of the volume, seen from another base. -/
def rebase (old new address : UInt64) : UInt64 := new + (address - old)

def LbaBlock.rebased (old new : UInt64) (block : LbaBlock) : LbaBlock :=
  { block with address := rebase old new block.address }

theorem rebase_add (old new offset : UInt64) : rebase old new (old + offset) = new + offset := by
  rw [rebase, UInt64.add_comm old, UInt64.add_sub_cancel]

section

variable {left right : Memory} {leftBase rightBase base lba : UInt64} {length : Nat}

theorem headerField_congr (agree : HeaderAgrees left leftBase right rightBase length)
    {offset width : Nat} (inside : offset + width ≤ length) :
    headerField left leftBase offset width = headerField right rightBase offset width := by
  unfold headerField Memory.read
  congr 1
  apply List.map_congr_left
  intro index member
  have below := List.mem_range.mp member
  rw [UInt64.add_assoc, UInt64.add_assoc, ← UInt64.ofNat_add]
  exact agree (offset + index) (by omega)

variable {index : Nat}

theorem blockMapEntry_congr (agree : HeaderAgrees left leftBase right rightBase length)
    (inside : blockMapOffset + 8 * index + 8 ≤ length) :
    blockMapEntry left leftBase index = blockMapEntry right rightBase index := by
  rw [blockMapEntry, blockMapEntry, headerField_congr agree (by omega),
    headerField_congr agree (by omega)]

theorem lbaSearch_rebased (agree : HeaderAgrees left leftBase right rightBase length) {fuel : Nat}
    (inside : blockMapOffset + 8 * (index + fuel) ≤ length) {startLba offset : UInt64} :
    lbaSearch left leftBase lba fuel index startLba offset =
      (lbaSearch right rightBase lba fuel index startLba offset).map
        (Except.map (LbaBlock.rebased rightBase leftBase)) := by
  induction fuel generalizing index startLba offset with
  | zero => rfl
  | succ fuel ih =>
    have entry : blockMapEntry left leftBase index = blockMapEntry right rightBase index :=
      blockMapEntry_congr agree (by omega)
    have rest : blockMapOffset + 8 * (index + 1 + fuel) ≤ length := by omega
    simp only [lbaSearch, entry, ih rest]
    split
    · rfl
    · split
      · simp only [Option.map_some, Except.map, LbaBlock.rebased, rebase_add]
      · rfl

theorem lbaSearch_more {fuel more : Nat} {startLba offset : UInt64}
    {located : Except EfiStatus LbaBlock} (enough : fuel ≤ more)
    (ended : lbaSearch left base lba fuel index startLba offset = some located) :
    lbaSearch left base lba more index startLba offset = some located := by
  induction fuel generalizing more index startLba offset with
  | zero => cases ended
  | succ fuel ih =>
    obtain ⟨more, rfl⟩ := Nat.exists_eq_add_one.mpr (show 0 < more by omega)
    simp only [lbaSearch] at ended ⊢
    split at ended
    · rename_i last
      rw [if_pos last]
      exact ended
    · rename_i goesOn
      rw [if_neg goesOn]
      split at ended
      · rename_i here
        rw [if_pos here]
        exact ended
      · rename_i behind
        rw [if_neg behind]
        exact ih (by omega) ended

end

/-! ### The map under erasures -/

section

variable {memory now : Memory} {base lba : UInt64} {lbas first rest : List UInt64}

theorem writeEnabled_iff : headerAttributes memory base &&& fvb2WriteStatus ≠ 0 ↔
    byteBit (memory (base + 44)) 5 = true := by
  have some : 0 < (memory.read (base + UInt64.ofNat 44) 4).length := by simp
  have bit := bitAt_leValue (memory.read (base + UInt64.ofNat 44) 4) some (show 5 < 8 by decide)
  have byte : (memory.read (base + UInt64.ofNat 44) 4)[0] = memory (base + 44) := by
    simp [Memory.read]
  have small : headerField memory base 44 4 < 2 ^ 32 := by
    have bound := leValue_lt (memory.read (base + UInt64.ofNat 44) 4)
    rwa [Memory.read_length] at bound
  have status : fvb2WriteStatus.toNat = 2 ^ 5 := rfl
  rw [byte] at bit
  have field : (headerField memory base 44 4).testBit 5 = byteBit (memory (base + 44)) 5 := bit
  rw [← field, Ne, ← UInt32.toNat_inj, UInt32.toNat_and, headerAttributes, UInt32.toNat_ofNat',
    Nat.mod_eq_of_lt small, status, Nat.and_two_pow]
  cases (headerField memory base 44 4).testBit 5 <;> simp

variable {blocks others : List LbaBlock}

theorem writeEnabled_eraseBlocks (blocks : List LbaBlock)
    (enabled : headerAttributes memory base &&& fvb2WriteStatus ≠ 0) :
    headerAttributes (eraseBlocks memory blocks) base &&& fvb2WriteStatus ≠ 0 := by
  rw [writeEnabled_iff] at enabled ⊢
  unfold eraseBlocks
  split
  · rfl
  · exact enabled

theorem foundAlong_append (early : FoundAlong base memory first blocks)
    (late : FoundAlong base (eraseBlocks memory blocks) rest others) :
    FoundAlong base memory (first ++ rest) (blocks ++ others) := by
  induction first generalizing memory blocks with
  | nil =>
    cases blocks with
    | nil => exact late
    | cons block blocks => exact early.elim
  | cons lba first ih =>
    cases blocks with
    | nil => exact early.elim
    | cons block blocks =>
      obtain ⟨enabled, located, later⟩ := early
      rw [eraseBlocks_cons] at late
      exact ⟨enabled, located, ih later late⟩

theorem foundAlong_unique (one : FoundAlong base memory lbas blocks)
    (other : FoundAlong base memory lbas others) :
    blocks = others := by
  induction lbas generalizing memory blocks others with
  | nil => cases blocks <;> cases others <;> first | rfl | exact one.elim | exact other.elim
  | cons lba rest ih =>
    cases blocks with
    | nil => exact one.elim
    | cons block blocks =>
      cases others with
      | nil => exact other.elim
      | cons next others =>
        obtain ⟨-, located, later⟩ := one
        obtain ⟨-, again, later'⟩ := other
        obtain rfl : block = next := by
          rw [located] at again
          cases again
          rfl
        rw [ih later later']

def Consulted (memory : Memory) (base lba : UInt64) (offset : Nat) : Prop :=
  ∃ run, HoldsBlock (headerBytes memory base) lba.toNat run ∧ blockMapOffset ≤ offset ∧
    offset < blockMapOffset + 8 * (run + 1)

/-- A block is found again as long as the bytes it depends on are the same. -/
theorem located_congr {block : LbaBlock}
    (located : fvbGetLbaAddress memory base lba = some (.ok block))
    (agree : ∀ offset, Consulted memory base lba offset →
      headerBytes now base offset = headerBytes memory base offset) :
    fvbGetLbaAddress now base lba = some (.ok block) := by
  obtain ⟨run, below, holds, rfl⟩ := fvbGetLbaAddress_ok_iff.mp located
  have entries : ∀ before ≤ run,
      mapRun (headerBytes now base) before = mapRun (headerBytes memory base) before := by
    intro before reached
    have field : ∀ offset, 8 * before ≤ offset → offset ≤ 8 * before + 4 →
        fieldOf (headerBytes now base) (blockMapOffset + offset) 4 =
          fieldOf (headerBytes memory base) (blockMapOffset + offset) 4 := by
      intro offset above under
      unfold fieldOf
      congr 1
      refine List.map_congr_left fun index member => ?_
      have inside := List.mem_range.mp member
      exact agree _ ⟨run, holds, by omega, by omega⟩
    rw [mapRun, mapRun, field _ (by omega) (by omega), Nat.add_assoc, field _ (by omega) (by omega)]
  have sums : ∀ index ≤ run + 1,
      blocksBefore (headerBytes now base) index = blocksBefore (headerBytes memory base) index ∧
        bytesBefore (headerBytes now base) index =
          bytesBefore (headerBytes memory base) index := by
    intro index
    induction index with
    | zero => exact fun _ => ⟨rfl, rfl⟩
    | succ index ih =>
      intro reached
      obtain ⟨blocks, bytes⟩ := ih (by omega)
      simp only [blocksBefore, bytesBefore, blocks, bytes, entries index (by omega), and_self]
  obtain ⟨blocks, bytes⟩ := sums run (by omega)
  have next := (sums (run + 1) (Nat.le_refl _)).1
  refine fvbGetLbaAddress_ok_iff.mpr ⟨run, below, ⟨?_, ?_, ?_⟩, ?_⟩
  · intro before reached
    rw [entries before reached]
    exact holds.filled before reached
  · rw [blocks]
    exact holds.behind
  · rw [next]
    exact holds.inside
  · rw [heldBlock, heldBlock, blocks, bytes, next, entries run (Nat.le_refl _)]

/-- These blocks are found, and no block but the last covers a byte that finding one of them
depends on, unless it is erased already. -/
structure MapSpared (memory : Memory) (base : UInt64) (lbas : List UInt64) : Prop where
  found : ∀ lba ∈ lbas, ∃ block, fvbGetLbaAddress memory base lba = some (.ok block)
  spared : ∀ lba ∈ lbas.dropLast, ∀ block, blockAt memory base lba = some block →
    ∀ other ∈ lbas, ∀ offset, Consulted memory base other offset →
      block.covers (base + UInt64.ofNat offset) = true → headerBytes memory base offset = 0xFF

theorem foundAlong_of_mapSpared (spared : MapSpared memory base lbas)
    (enabled : headerAttributes now base &&& fvb2WriteStatus ≠ 0)
    (agree : ∀ lba ∈ lbas, ∀ offset, Consulted memory base lba offset →
      headerBytes now base offset = headerBytes memory base offset) :
    FoundAlong base now lbas (lbas.filterMap (blockAt memory base)) := by
  induction lbas generalizing now with
  | nil => trivial
  | cons lba rest ih =>
    obtain ⟨block, finds⟩ := spared.found lba List.mem_cons_self
    have located : blockAt memory base lba = some block := blockAt_eq_some_iff.mpr finds
    rw [List.filterMap_cons_some located]
    refine ⟨enabled, located_congr finds (agree lba List.mem_cons_self), ?_⟩
    cases rest with
    | nil => trivial
    | cons next rest =>
      have dropped : (lba :: next :: rest).dropLast = lba :: (next :: rest).dropLast := rfl
      have one := @writeEnabled_eraseBlocks now base [block] enabled
      rw [eraseBlocks_cons, eraseBlocks_nil] at one
      refine ih ⟨fun other member => spared.found other (List.mem_cons_of_mem _ member),
        fun other member block located third listed => spared.spared other
          (dropped ▸ List.mem_cons_of_mem _ member) block located third
          (List.mem_cons_of_mem _ listed)⟩ one ?_
      intro other member offset consulted
      have before := agree other (List.mem_cons_of_mem _ member) offset consulted
      change (if _ then 0xFF else headerBytes now base offset) = _
      split
      · next covered =>
        exact (spared.spared lba (dropped ▸ List.mem_cons_self) block located other
          (List.mem_cons_of_mem _ member) offset consulted (decide_eq_true covered)).symm
      · exact before

/-- What is found for a block once the first entry of the map is erased. -/
def erasedEntryBlock (base lba : UInt64) : LbaBlock where
  address := base + lba * 0xFFFFFFFF
  length := 0xFFFFFFFF
  numOfBlocks := 0xFFFFFFFF - lba

def FirstEntryErased (memory : Memory) (base : UInt64) : Prop :=
  ∀ place < 8, headerBytes memory base (blockMapOffset + place) = 0xFF

/-- Its blocks are as many, and as long, as an entry can say. -/
theorem fvbGetLbaAddress_of_erased (erased : FirstEntryErased memory base)
    (below : lba < 0xFFFFFFFF) :
    fvbGetLbaAddress memory base lba = some (.ok (erasedEntryBlock base lba)) := by
  have field (offset : Nat) (inside : offset ≤ 4) :
      fieldOf (headerBytes memory base) (blockMapOffset + offset) 4 = 2 ^ 32 - 1 := by
    have bytes : ((List.range 4).map fun index =>
        headerBytes memory base (blockMapOffset + offset + index)) = List.replicate 4 0xFF :=
      List.map_eq_replicate_iff.mpr fun index member => by
        rw [Nat.add_assoc]
        exact erased _ (by have := List.mem_range.mp member; omega)
    rw [fieldOf, bytes]
    decide
  have entry : mapRun (headerBytes memory base) 0 = ⟨2 ^ 32 - 1, 2 ^ 32 - 1⟩ := by
    rw [mapRun, field 0 (by decide), field 4 (by decide)]
  have inside : lba.toNat < 2 ^ 32 - 1 := UInt64.lt_iff_toNat_lt.mp below
  have one : blocksBefore (headerBytes memory base) 1 = 2 ^ 32 - 1 := by
    rw [blocksBefore, blocksBefore, entry, Nat.zero_add]
  refine fvbGetLbaAddress_ok_iff.mpr ⟨0, Nat.two_pow_pos 32, ⟨?_, Nat.zero_le _, ?_⟩, ?_⟩
  · intro before first
    rw [Nat.le_zero.mp first, entry]
    exact ⟨by decide, by decide⟩
  · rwa [one]
  · rw [heldBlock, entry, one, bytesBefore, blocksBefore, erasedEntryBlock]
    rw [Nat.zero_add, Nat.sub_zero, UInt64.ofNat_mul, UInt64.ofNat_sub inside.le,
      UInt64.ofNat_toNat]
    rfl

theorem foundAlong_of_erasedEntry (erased : FirstEntryErased memory base)
    (enabled : headerAttributes memory base &&& fvb2WriteStatus ≠ 0)
    (below : ∀ lba ∈ lbas, lba < 0xFFFFFFFF) :
    FoundAlong base memory lbas (lbas.map (erasedEntryBlock base)) := by
  induction lbas generalizing memory with
  | nil => trivial
  | cons lba rest ih =>
    have one := @writeEnabled_eraseBlocks memory base [erasedEntryBlock base lba] enabled
    rw [eraseBlocks_cons, eraseBlocks_nil] at one
    refine ⟨enabled, fvbGetLbaAddress_of_erased erased (below lba List.mem_cons_self),
      ih (fun place inside => ?_) one fun other member =>
        below other (List.mem_cons_of_mem _ member)⟩
    exact Memory.fill_keeps (erased place inside)

end

/-- The bytes that the search depends on are kept up to the last of `first`, and where blocks come
after that one, it covers the first entry of the map. -/
structure FoundInPlace (memory : Memory) (base : UInt64) (first rest : List UInt64) : Prop where
  spared : MapSpared memory base first
  last : rest ≠ [] → ∃ lba block, first.getLast? = some lba ∧ blockAt memory base lba = some block ∧
    ∀ place < 8, block.covers (base + UInt64.ofNat (blockMapOffset + place)) = true
  below : ∀ lba ∈ rest, lba < 0xFFFFFFFF

/-- Where they are found: the first ones where the map says, the others where an erased entry
says. -/
def inPlace (memory : Memory) (base : UInt64) (first rest : List UInt64) : List LbaBlock :=
  first.filterMap (blockAt memory base) ++ rest.map (erasedEntryBlock base)

theorem FoundInPlace.found {base : UInt64} {first rest : List UInt64}
    (found : FoundInPlace memory base first rest)
    (enabled : headerAttributes memory base &&& fvb2WriteStatus ≠ 0) :
    FoundAlong base memory (first ++ rest) (inPlace memory base first rest) := by
  have early := foundAlong_of_mapSpared found.spared enabled fun _ _ _ _ => rfl
  refine foundAlong_append early ?_
  cases empty : rest with
  | nil => trivial
  | cons next others =>
    rw [← empty]
    obtain ⟨lba, block, last, located, covers⟩ := found.last (by rw [empty]; simp)
    refine foundAlong_of_erasedEntry (fun place inside => ?_)
      (writeEnabled_eraseBlocks _ enabled) found.below
    have member : block ∈ first.filterMap (blockAt memory base) :=
      List.mem_filterMap.mpr ⟨lba, List.mem_of_getLast? last, located⟩
    exact if_pos (List.any_eq_true.mpr ⟨block, member, covers place inside⟩)

/-! ### Regular volumes -/

/-- A volume that start-up takes over and counts the blocks of, whose map fits it, and whose
header fits into its first block. -/
structure Regular (pcds : FvbPcds) (volume : FwVolume) : Prop where
  base : volume.base = pcds.base
  accepted : volumeAccepted pcds volume.memory = true
  counted : (fvbInitialize pcds volume.memory).map (·.fvInstance.numOfBlocks) =
    some volume.fvInstance.numOfBlocks
  fits : MapFits pcds volume.memory
  header : ∀ block, fvbGetLbaAddress volume.memory pcds.base 0 = some (.ok block) →
    headerLength volume.memory pcds.base ≤ block.length.toNat

section

variable {pcds : FvbPcds} {volume : FwVolume} {lba : UInt64} {block : LbaBlock}

theorem Regular.sound (regular : Regular pcds volume) : BlockMapSound pcds volume.memory :=
  blockMapSound_of_mapFits regular.accepted regular.fits

theorem blocks_le_bytes {memory : Memory} {base : UInt64} {index count : Nat}
    (live : Live memory base index count) :
    RunMap.blocks (runsFrom memory base index count) ≤
      RunMap.bytes (runsFrom memory base index count) := by
  induction count generalizing index with
  | zero => exact Nat.le_refl _
  | succ count ih =>
    have size : 0 < (blockMapEntry memory base index).length.toNat :=
      Nat.pos_of_ne_zero fun none => live.head (.inr (UInt32.toNat_inj.mp none))
    exact Nat.add_le_add (Nat.le_mul_of_pos_right _ size) (ih live.tail)

theorem Regular.lt_erasedEntry (regular : Regular pcds volume)
    (existing : lba < volume.fvInstance.numOfBlocks) : lba < 0xFFFFFFFF := by
  obtain ⟨count, inside, live, last, bytes⟩ := regular.fits
  have entries := headerEntries_lt volume.memory pcds.base
  have blocks := blocks_le_bytes live
  have length := length_toNat_lt pcds
  have counted := regular.counted
  rw [fvbInitialize, openVolume, if_pos regular.accepted, Option.map_map,
    countBlocks_of_end live (by rwa [Nat.zero_add]) (by unfold mapWalkLimit; omega)] at counted
  have same : 0 + UInt64.ofNat (RunMap.blocks (runsFrom volume.memory pcds.base 0 count)) =
    volume.fvInstance.numOfBlocks := Option.some.inj counted
  rw [← same, UInt64.zero_add, UInt64.lt_iff_toNat_lt, UInt64.toNat_ofNat'] at existing
  exact UInt64.lt_iff_toNat_lt.mpr (show lba.toNat < 2 ^ 32 - 1 by omega)

theorem Regular.located_iff (regular : Regular pcds volume) :
    (∃ block, fvbGetLbaAddress volume.memory pcds.base lba = some (.ok block)) ↔
      lba < volume.fvInstance.numOfBlocks := by
  obtain ⟨started, starts, accepts⟩ := regular.sound.accepts
  have counted := regular.counted
  rw [starts] at counted
  rw [accepts, ← Option.some.inj counted]

/-- A search depends on bytes of the first block only. -/
theorem Regular.consulted_lt (regular : Regular pcds volume)
    (finds : fvbGetLbaAddress volume.memory pcds.base 0 = some (.ok block)) {offset : Nat}
    (consulted : Consulted volume.memory pcds.base lba offset) :
    offset < block.length.toNat := by
  obtain ⟨count, inside, -, last, -⟩ := regular.fits
  obtain ⟨run, holds, -, below⟩ := consulted
  have before : run < count := by
    by_contra reached
    have filled := (holds.filled count (Nat.le_of_not_lt reached)).1
    rw [mapRun_headerBytes] at filled
    exact filled (congrArg UInt32.toNat last)
  have header := regular.header block finds
  unfold headerEntries at inside
  omega

theorem Regular.covers_iff (regular : Regular pcds volume) {first : LbaBlock}
    (finds : fvbGetLbaAddress volume.memory pcds.base 0 = some (.ok first))
    (located : fvbGetLbaAddress volume.memory pcds.base lba = some (.ok block)) {offset : Nat}
    (inside : offset < first.length.toNat) :
    block.covers (pcds.base + UInt64.ofNat offset) = true ↔ lba = 0 := by
  have base := base_toNat_lt pcds
  have length := length_toNat_lt pcds
  have start := regular.sound.first first finds
  have whole := (regular.sound.inside 0 first finds).2
  have small : offset < 2 ^ 64 := inside.trans first.length.toNat_lt
  rw [start] at whole
  have place : (pcds.base + UInt64.ofNat offset).toNat = pcds.base.toNat + offset := by
    rw [UInt64.toNat_add, UInt64.toNat_ofNat']
    omega
  rw [LbaBlock.covers, decide_eq_true_eq]
  constructor
  · intro covered
    by_contra other
    have apart := regular.sound.disjoint 0 lba first block
      (UInt64.pos_iff_ne_zero.mpr other) finds located
    have within := (regular.sound.inside lba block located).2
    rw [start] at apart
    rw [UInt64.lt_iff_toNat_lt, UInt64.toNat_sub, place] at covered
    omega
  · rintro rfl
    rw [finds] at located
    cases located
    rw [start, UInt64.add_comm, UInt64.add_sub_cancel, UInt64.lt_iff_toNat_lt,
      UInt64.toNat_ofNat_of_lt' small]
    exact inside

end

theorem lt_of_mem_listedLbas {lba : UInt64}
    (existing : ∀ range ∈ listedRanges ranges, range.Exists numOfBlocks)
    (member : lba ∈ listedLbas ranges) : lba < numOfBlocks := by
  obtain ⟨range, listed, inside⟩ := List.mem_flatMap.mp member
  obtain ⟨step, below, rfl⟩ := List.mem_map.mp inside
  obtain ⟨-, within⟩ := existing range listed
  have := List.mem_range.mp below
  have := numOfBlocks.toNat_lt
  rw [UInt64.lt_iff_toNat_lt, UInt64.toNat_add, UInt64.toNat_ofNat']
  omega

/-! ### The law -/

/-- A list that names a block the volume lacks, or an empty pair, is refused; any other
list is erased, if the volume is write-enabled. -/
structure EraseSound (volume : FwVolume) (ranges : List LbaRange) : Prop where
  refuses : (∃ range ∈ listedRanges ranges, ¬ range.Exists volume.fvInstance.numOfBlocks) →
    RefusesList volume ranges
  erases : (∀ range ∈ listedRanges ranges, range.Exists volume.fvInstance.numOfBlocks) →
    volume.attributes &&& fvb2WriteStatus ≠ 0 → ErasesList volume ranges

/-- The first pass stops at a pair of a list that names a missing block, or only erased blocks come
before the missing one; the search finds the blocks of any other list in the map as it is, or in an
erased entry, and those cover, of the bytes not erased yet, the bytes of the listed ones. -/
structure EraseSafe (volume : FwVolume) (ranges : List LbaRange) : Prop where
  rejected : (∃ range ∈ listedRanges ranges, ¬ range.Exists volume.fvInstance.numOfBlocks) →
    (∃ range ∈ listedRanges ranges, range.Rejected volume.fvInstance.numOfBlocks) ∨
      (volume.attributes &&& fvb2WriteStatus ≠ 0 ∧
        MissingFirst volume.memory volume.base (listedLbas ranges))
  found : (∀ range ∈ listedRanges ranges, range.Exists volume.fvInstance.numOfBlocks) →
    volume.attributes &&& fvb2WriteStatus ≠ 0 →
    ∃ first rest, listedLbas ranges = first ++ rest ∧
      FoundInPlace volume.memory volume.base first rest ∧
      ∀ address, volume.memory address ≠ 0xFF →
        (inPlace volume.memory volume.base first rest).any (·.covers address) =
          (volume.listedBlocks ranges).any (·.covers address)

theorem eraseSound_of_eraseSafe (safe : EraseSafe volume ranges) : EraseSound volume ranges := by
  refine ⟨fun missing => (refusesList_iff ranges).mpr ?_, fun existing enabled => ?_⟩
  · rw [eraseListAccepted_eq_false_iff]
    exact safe.rejected missing
  · obtain ⟨first, rest, listed, found, alike⟩ := safe.found existing enabled
    refine (erasesList_iff existing).mpr ⟨_, ?_, alike⟩
    rw [listed]
    exact found.found enabled

theorem Regular.mapSpared (regular : Regular pcds volume) {lbas : List UInt64}
    (existing : ∀ lba ∈ lbas, lba < volume.fvInstance.numOfBlocks)
    (others : 0 ∉ lbas.dropLast) : MapSpared volume.memory pcds.base lbas := by
  refine ⟨fun lba member => regular.located_iff.mpr (existing lba member), ?_⟩
  intro lba member block located other _ offset consulted covered
  have listed := existing lba (List.dropLast_subset _ member)
  obtain ⟨first, finds⟩ := regular.located_iff.mpr (UInt64.lt_of_le_of_lt UInt64.zero_le listed)
  have zero := (regular.covers_iff finds (blockAt_eq_some_iff.mp located)
    (regular.consulted_lt finds consulted)).mp covered
  exact absurd (zero ▸ member) others

theorem Regular.foundInPlace (regular : Regular pcds volume) {lbas : List UInt64}
    (existing : ∀ lba ∈ lbas, lba < volume.fvInstance.numOfBlocks) :
    ∃ first rest, lbas = first ++ rest ∧ FoundInPlace volume.memory volume.base first rest := by
  rw [regular.base]
  by_cases zero : 0 ∈ lbas
  · obtain ⟨before, rest, rfl, others⟩ := List.eq_append_cons_of_mem zero
    refine ⟨before ++ [0], rest, by simp, ?_, fun _ => ?_, fun lba member => ?_⟩
    · refine regular.mapSpared (fun lba member => existing lba ?_) ?_
      · rcases List.mem_append.mp member with early | last
        · exact List.mem_append_left _ early
        · exact List.mem_append_right _ (List.mem_singleton.mp last ▸ List.mem_cons_self)
      · rwa [List.dropLast_concat]
    · obtain ⟨block, finds⟩ := regular.located_iff.mpr (existing 0 zero)
      refine ⟨0, block, List.getLast?_concat, blockAt_eq_some_iff.mpr finds, fun place inside => ?_⟩
      obtain ⟨count, within, -⟩ := regular.fits
      have header := regular.header block finds
      unfold headerEntries at within
      exact (regular.covers_iff finds finds (by omega)).mpr rfl
    · exact regular.lt_erasedEntry
        (existing lba (List.mem_append_right _ (List.mem_cons_of_mem _ member)))
  · refine ⟨lbas, [], by simp, ?_, fun more => absurd rfl more, nofun⟩
    exact regular.mapSpared existing fun member => zero (List.dropLast_subset _ member)

theorem eraseSafe_of_eraseSound (regular : Regular pcds volume) (sound : EraseSound volume ranges) :
    EraseSafe volume ranges := by
  refine ⟨fun missing => ?_, fun existing enabled => ?_⟩
  · rw [← eraseListAccepted_eq_false_iff]
    exact (refusesList_iff ranges).mp (sound.refuses missing)
  · obtain ⟨blocks, along, alike⟩ := (erasesList_iff existing).mp (sound.erases existing enabled)
    obtain ⟨first, rest, listed, found⟩ :=
      regular.foundInPlace fun lba => lt_of_mem_listedLbas existing
    rw [listed] at along
    rw [foundAlong_unique along (found.found enabled)] at alike
    exact ⟨first, rest, listed, found, alike⟩

/-- What is safe is sound, on any volume; on a regular one nothing else is. -/
theorem fvbEraseBlocks_sound_iff (volume : FwVolume) (ranges : List LbaRange) :
    (EraseSafe volume ranges → EraseSound volume ranges) ∧
      ∀ pcds, Regular pcds volume → (EraseSound volume ranges ↔ EraseSafe volume ranges) :=
  ⟨eraseSound_of_eraseSafe, fun _ regular =>
    ⟨eraseSafe_of_eraseSound regular, eraseSound_of_eraseSafe⟩⟩

/-- The volume that is shipped is regular. -/
theorem fvbEraseBlocks_sound_shipped :
    EraseSound shippedVolume [⟨1, 2⟩] ↔ EraseSafe shippedVolume [⟨1, 2⟩] := by
  refine (fvbEraseBlocks_sound_iff shippedVolume [⟨1, 2⟩]).2 rk356xPcds
    ⟨rfl, by decide, by decide, ⟨1, by decide, ?_, by decide, by decide⟩, ?_⟩
  · intro step inside
    obtain rfl : step = 0 := by omega
    decide
  · have first : fvbGetLbaAddress shippedVolume.memory rk356xPcds.base 0 =
        some (.ok ⟨0xAE0000, 0x1000, 32⟩) := by decide
    intro block finds
    rw [first] at finds
    cases finds
    decide

/-- The shipped volume with something in its second block. -/
def occupiedVolume : FwVolume where
  fvInstance := shippedVolume.fvInstance
  memory := shippedVolume.memory.write 0xAE1000 [0xAA, 0x55]

/-- The pair with the most blocks from the second one on: its end wraps to zero. -/
def wrappingList : List LbaRange := [⟨1, 0xFFFFFFFFFFFFFFFF⟩, ⟨lbaListTerminator, 0⟩]

/-- The wrapped end passes the check, and the second block is erased. -/
theorem fvbEraseBlocks_erasesBeforeRefusing :
    volumeAccepted rk356xPcds occupiedVolume.memory = true ∧
      ¬ EraseSound occupiedVolume wrappingList := by
  refine ⟨by decide, fun sound => ?_⟩
  have missing : ∃ range ∈ listedRanges wrappingList,
      ¬ range.Exists occupiedVolume.fvInstance.numOfBlocks :=
    ⟨⟨1, 0xFFFFFFFFFFFFFFFF⟩, by decide, by decide⟩
  have second : fvbGetLbaAddress occupiedVolume.memory occupiedVolume.base 1 =
      some (.ok ⟨0xAE1000, 0x1000, 31⟩) := by decide
  refine @not_refusesList_of_live occupiedVolume ⟨1, 0xFFFFFFFFFFFFFFFF⟩ [⟨lbaListTerminator, 0⟩]
    ⟨0xAE1000, 0x1000, 31⟩ 0xAE1000 ?_ ?_ ?_ second ?_ ?_ (sound.refuses missing)
  · decide
  · decide
  · decide
  · decide
  · decide

end MuRockchip.Fvb
