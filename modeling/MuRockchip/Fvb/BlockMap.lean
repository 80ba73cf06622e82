/-
The block map of the variable volume.

Two loops walk the map: one counts the blocks at start-up, one finds a block. Start-up
looks at the length of the volume and of its first run only, so the map behind them
decides whether the loops agree, and whether the blocks are a division of the volume.

* `fvbGetLbaAddress_ok_iff`: the loop finds the block of the entry that holds it.
* `fvbGetLbaAddress_of_locate`: the loop finds what the runs of the map describe.
* `blockMapSound_iff`: the maps whose blocks divide the volume as they should.
-/
import MuRockchip.Base.RunMap
import MuRockchip.Fvb.Volume

namespace MuRockchip.Fvb

open MuRockchip.Base

section

variable {memory : Memory} {base lba : UInt64}

/-! ### The runs of a map -/

def BlockMapEntry.IsEnd (entry : BlockMapEntry) : Prop := entry.numBlocks = 0 ∨ entry.length = 0

instance (entry : BlockMapEntry) : Decidable entry.IsEnd := inferInstanceAs (Decidable (_ ∨ _))

def BlockMapEntry.toRun (entry : BlockMapEntry) : Run := ⟨entry.numBlocks.toNat, entry.length.toNat⟩

/-- The runs of `count` entries from `index` on. -/
def runsFrom (memory : Memory) (base : UInt64) : Nat → Nat → List Run
  | _, 0 => []
  | index, count + 1 =>
    (blockMapEntry memory base index).toRun :: runsFrom memory base (index + 1) count

theorem blocks_runsFrom_le (index count : Nat) :
    RunMap.blocks (runsFrom memory base index count) ≤ count * (2 ^ 32 - 1) := by
  induction count generalizing index with
  | zero => simp [runsFrom, RunMap.blocks]
  | succ count ih =>
    have below := (blockMapEntry memory base index).numBlocks.toNat_lt
    have := ih (index + 1)
    simp only [runsFrom, RunMap.blocks, BlockMapEntry.toRun]
    omega

/-- More entries describe more blocks. -/
theorem blocks_runsFrom_add (index first second : Nat) :
    RunMap.blocks (runsFrom memory base index (first + second)) =
      RunMap.blocks (runsFrom memory base index first) +
        RunMap.blocks (runsFrom memory base (index + first) second) := by
  induction first generalizing index with
  | zero => simp [runsFrom, RunMap.blocks]
  | succ first ih =>
    have shifted : index + 1 + first = index + (first + 1) := by omega
    rw [Nat.add_right_comm]
    simp only [runsFrom, RunMap.blocks, ih (index + 1), shifted]
    omega

/-- None of `count` entries from `index` on ends the search. -/
def Live (memory : Memory) (base : UInt64) (index count : Nat) : Prop :=
  ∀ step < count, ¬ (blockMapEntry memory base (index + step)).IsEnd

variable {count index fuel : Nat} {offset startLba : UInt64}

theorem Live.head (live : Live memory base index (count + 1)) :
    ¬ (blockMapEntry memory base index).IsEnd := live 0 (Nat.succ_pos count)

theorem Live.tail (live : Live memory base index (count + 1)) :
    Live memory base (index + 1) count := by
  intro step inside
  have later := live (step + 1) (by omega)
  rwa [← Nat.add_assoc, Nat.add_right_comm] at later

/-! ### Finding a block -/

/-- A search over entries that hold no end goes on behind them. -/
theorem lbaSearch_skips (live : ¬ (blockMapEntry memory base index).IsEnd)
    (behind : startLba.toNat + (blockMapEntry memory base index).numBlocks.toNat ≤ lba.toNat) :
    lbaSearch memory base lba (fuel + 1) index startLba offset =
      lbaSearch memory base lba fuel (index + 1)
        (startLba + (blockMapEntry memory base index).numBlocks.toUInt64)
        (offset + ((blockMapEntry memory base index).numBlocks *
          (blockMapEntry memory base index).length).toUInt64) := by
  have bound := lba.toNat_lt
  have outside : ¬ (startLba ≤ lba ∧
      lba < startLba + (blockMapEntry memory base index).numBlocks.toUInt64) := by
    rintro ⟨-, inside⟩
    rw [UInt64.lt_iff_toNat_lt, UInt64.toNat_add, UInt32.toNat_toUInt64] at inside
    omega
  have more : ¬ ((blockMapEntry memory base index).numBlocks = 0 ∨
      (blockMapEntry memory base index).length = 0) := live
  simp only [lbaSearch, if_neg more, if_neg outside]

theorem lbaSearch_undefined (live : Live memory base index fuel)
    (behind : startLba.toNat + RunMap.blocks (runsFrom memory base index fuel) ≤ lba.toNat) :
    lbaSearch memory base lba fuel index startLba offset = none := by
  have bound := lba.toNat_lt
  induction fuel generalizing index startLba offset with
  | zero => rfl
  | succ fuel ih =>
    simp only [runsFrom, RunMap.blocks, BlockMapEntry.toRun] at behind
    rw [lbaSearch_skips live.head (by omega)]
    apply ih live.tail
    rw [UInt64.toNat_add, UInt32.toNat_toUInt64]
    omega

theorem lbaSearch_error {status : EfiStatus}
    (fails : lbaSearch memory base lba fuel index startLba offset = some (.error status)) :
    status = EfiStatus.invalidParameter := by
  induction fuel generalizing index startLba offset with
  | zero => cases fails
  | succ fuel ih =>
    simp only [lbaSearch] at fails
    split at fails
    · cases fails
      rfl
    · split at fails
      · cases fails
      · exact ih fails

theorem lbaSearch_of_end (live : Live memory base index count)
    (ended : (blockMapEntry memory base (index + count)).IsEnd) (enough : count < fuel)
    (behind : startLba.toNat + RunMap.blocks (runsFrom memory base index count) ≤ lba.toNat) :
    lbaSearch memory base lba fuel index startLba offset =
      some (.error EfiStatus.invalidParameter) := by
  have bound := lba.toNat_lt
  induction count generalizing fuel index startLba offset with
  | zero =>
    obtain ⟨fuel, rfl⟩ := Nat.exists_eq_add_one.mpr enough
    have isEnd : (blockMapEntry memory base index).numBlocks = 0 ∨
      (blockMapEntry memory base index).length = 0 := ended
    simp only [lbaSearch, if_pos isEnd]
  | succ count ih =>
    obtain ⟨fuel, rfl⟩ := Nat.exists_eq_add_one.mpr (show 0 < fuel by omega)
    simp only [runsFrom, RunMap.blocks, BlockMapEntry.toRun] at behind
    rw [lbaSearch_skips live.head (by omega)]
    apply ih live.tail
    · rwa [Nat.add_right_comm]
    · omega
    · rw [UInt64.toNat_add, UInt32.toNat_toUInt64]
      omega

/-- A block that a run holds is found, with the length of the run, and where the runs
say if each of them is below 4 GiB. -/
theorem lbaSearch_of_locate {found : Nat × Nat} (live : Live memory base index count)
    (enough : count ≤ fuel) (reached : startLba.toNat ≤ lba.toNat)
    (room : startLba.toNat + RunMap.blocks (runsFrom memory base index count) < 2 ^ 64)
    (located : RunMap.locate (runsFrom memory base index count) (lba.toNat - startLba.toNat) =
      some found) :
    ∃ block, lbaSearch memory base lba fuel index startLba offset = some (.ok block) ∧
      block.length.toNat = found.2 ∧
      ((∀ run ∈ runsFrom memory base index count, run.count * run.size < 2 ^ 32) →
        block.address = base + (offset + UInt64.ofNat found.1)) := by
  induction count generalizing fuel index startLba offset found with
  | zero => cases located
  | succ count ih =>
    obtain ⟨fuel, rfl⟩ := Nat.exists_eq_add_one.mpr (show 0 < fuel by omega)
    simp only [runsFrom, RunMap.blocks, RunMap.locate, BlockMapEntry.toRun] at room located
    have more : ¬ ((blockMapEntry memory base index).numBlocks = 0 ∨
      (blockMapEntry memory base index).length = 0) := live.head
    split at located
    · rename_i inside
      obtain rfl := Option.some.inj located
      have here : startLba ≤ lba ∧
          lba < startLba + (blockMapEntry memory base index).numBlocks.toUInt64 := by
        rw [UInt64.le_iff_toNat_le, UInt64.lt_iff_toNat_lt, UInt64.toNat_add,
          UInt32.toNat_toUInt64]
        omega
      simp only [lbaSearch, if_neg more, if_pos here]
      have distance : (lba - startLba) * (blockMapEntry memory base index).length.toUInt64 =
          UInt64.ofNat ((lba.toNat - startLba.toNat) *
            (blockMapEntry memory base index).length.toNat) := by
        apply UInt64.toNat_inj.mp
        rw [UInt64.toNat_mul, UInt64.toNat_sub_of_le _ _ here.1, UInt32.toNat_toUInt64,
          UInt64.toNat_ofNat']
      exact ⟨_, rfl, UInt32.toNat_toUInt64 _, fun _ => by rw [distance]⟩
    · rename_i outside
      obtain ⟨found, later, rfl⟩ := Option.map_eq_some_iff.mp located
      rw [lbaSearch_skips live.head (by omega)]
      have next : (startLba + (blockMapEntry memory base index).numBlocks.toUInt64).toNat =
          startLba.toNat + (blockMapEntry memory base index).numBlocks.toNat := by
        rw [UInt64.toNat_add, UInt32.toNat_toUInt64]
        omega
      rw [Nat.sub_sub, ← next] at later
      obtain ⟨block, finds, length, address⟩ := ih live.tail (show count ≤ fuel by omega)
        (show _ ≤ lba.toNat by rw [next]; omega) (by rw [next]; omega) later
      refine ⟨block, finds, length, fun small => ?_⟩
      rw [address fun run member => small run (List.mem_cons_of_mem _ member), UInt64.add_assoc]
      congr 3
      have product := small _ (List.mem_cons_self)
      simp only [BlockMapEntry.toRun] at product
      apply UInt64.toNat_inj.mp
      rw [UInt64.toNat_add, UInt32.toNat_toUInt64, UInt32.toNat_mul, UInt64.toNat_ofNat',
        UInt64.toNat_ofNat', Nat.mod_eq_of_lt product, Nat.add_mod]
      simp

/-! ### The block of an entry -/

def headerBytes (memory : Memory) (base : UInt64) (offset : Nat) : UInt8 :=
  memory (base + UInt64.ofNat offset)

/-- A field of a header with these bytes. -/
def fieldOf (header : Nat → UInt8) (offset width : Nat) : Nat :=
  leValue ((List.range width).map fun index => header (offset + index))

def mapRun (header : Nat → UInt8) (index : Nat) : Run where
  count := fieldOf header (blockMapOffset + 8 * index) 4
  size := fieldOf header (blockMapOffset + 8 * index + 4) 4

def blocksBefore (header : Nat → UInt8) : Nat → Nat
  | 0 => 0
  | index + 1 => blocksBefore header index + (mapRun header index).count

/-- The bytes of the entries before one, which are multiplied in 32 bits. -/
def bytesBefore (header : Nat → UInt8) : Nat → Nat
  | 0 => 0
  | index + 1 =>
    bytesBefore header index + (mapRun header index).count * (mapRun header index).size % 2 ^ 32

/-- An entry holds a block: the entries up to it are not empty, and the block comes behind those
before it. -/
structure HoldsBlock (header : Nat → UInt8) (lba index : Nat) : Prop where
  filled : ∀ before ≤ index, (mapRun header before).count ≠ 0 ∧ (mapRun header before).size ≠ 0
  behind : blocksBefore header index ≤ lba
  inside : lba < blocksBefore header (index + 1)

/-- A block that an entry holds. -/
def heldBlock (header : Nat → UInt8) (base : UInt64) (lba index : Nat) : LbaBlock where
  address := base + UInt64.ofNat
    (bytesBefore header index + (lba - blocksBefore header index) * (mapRun header index).size)
  length := UInt64.ofNat (mapRun header index).size
  numOfBlocks := UInt64.ofNat (blocksBefore header (index + 1) - lba)

theorem heldBlock_length (header : Nat → UInt8) (base : UInt64) (lba index : Nat) :
    (heldBlock header base lba index).length.toNat = (mapRun header index).size := by
  have bound := leValue_lt
    ((List.range 4).map fun place => header (blockMapOffset + 8 * index + 4 + place))
  rw [List.length_map, List.length_range] at bound
  exact UInt64.toNat_ofNat_of_lt' (bound.trans (by decide))

theorem fieldOf_headerBytes (offset width : Nat) :
    fieldOf (headerBytes memory base) offset width = headerField memory base offset width := by
  unfold fieldOf headerBytes headerField Memory.read
  simp only [UInt64.ofNat_add, UInt64.add_assoc]

theorem mapRun_headerBytes (index : Nat) :
    mapRun (headerBytes memory base) index = (blockMapEntry memory base index).toRun := by
  have word (offset : Nat) : headerField memory base offset 4 < 2 ^ 32 := by
    have bound := leValue_lt (memory.read (base + UInt64.ofNat offset) 4)
    rwa [Memory.read_length] at bound
  simp only [mapRun, fieldOf_headerBytes, BlockMapEntry.toRun, blockMapEntry, UInt32.toNat_ofNat',
    Nat.mod_eq_of_lt (word _)]

section

variable (header : Nat → UInt8)

theorem blocksBefore_mono {index later : Nat} (le : index ≤ later) :
    blocksBefore header index ≤ blocksBefore header later := by
  induction le with
  | refl => exact Nat.le_refl _
  | step _ ih => exact ih.trans (Nat.le_add_right _ _)

theorem blocksBefore_headerBytes_le (index : Nat) :
    blocksBefore (headerBytes memory base) index ≤ index * (2 ^ 32 - 1) := by
  induction index with
  | zero => exact Nat.zero_le _
  | succ index ih =>
    have bound := (blockMapEntry memory base index).numBlocks.toNat_lt
    simp only [blocksBefore, mapRun_headerBytes, BlockMapEntry.toRun]
    omega

end

theorem blocksBefore_toNat {index : Nat} (room : index ≤ 2 ^ 32) :
    (UInt64.ofNat (blocksBefore (headerBytes memory base) index)).toNat =
      blocksBefore (headerBytes memory base) index := by
  have bound := @blocksBefore_headerBytes_le memory base index
  rw [UInt64.toNat_ofNat', Nat.mod_eq_of_lt (by omega)]

/-- The block that the search makes of an entry. -/
theorem heldBlock_eq (room : index + 1 ≤ 2 ^ 32)
    (behind : blocksBefore (headerBytes memory base) index ≤ lba.toNat)
    (inside : lba.toNat < blocksBefore (headerBytes memory base) (index + 1)) :
    heldBlock (headerBytes memory base) base lba.toNat index =
      ⟨base + (UInt64.ofNat (bytesBefore (headerBytes memory base) index) +
          (lba - UInt64.ofNat (blocksBefore (headerBytes memory base) index)) *
            (blockMapEntry memory base index).length.toUInt64),
        (blockMapEntry memory base index).length.toUInt64,
        UInt64.ofNat (blocksBefore (headerBytes memory base) (index + 1)) - lba⟩ := by
  have start := @blocksBefore_toNat memory base index (by omega)
  have finish := @blocksBefore_toNat memory base (index + 1) room
  have bound := (UInt64.ofNat (blocksBefore (headerBytes memory base) (index + 1))).toNat_lt
  have distance : (lba - UInt64.ofNat (blocksBefore (headerBytes memory base) index)).toNat =
      lba.toNat - blocksBefore (headerBytes memory base) index := by
    rw [UInt64.toNat_sub_of_le _ _ (by rwa [UInt64.le_iff_toNat_le, start]), start]
  have rest : (UInt64.ofNat (blocksBefore (headerBytes memory base) (index + 1)) - lba).toNat =
      blocksBefore (headerBytes memory base) (index + 1) - lba.toNat := by
    rw [UInt64.toNat_sub_of_le _ _ (by rw [UInt64.le_iff_toNat_le, finish]; omega), finish]
  have size : (mapRun (headerBytes memory base) index).size =
      (blockMapEntry memory base index).length.toNat :=
    congrArg Run.size (mapRun_headerBytes index)
  rw [heldBlock, UInt64.ofNat_add, size]
  congr 1
  · congr 2
    apply UInt64.toNat_inj.mp
    rw [UInt64.toNat_mul, distance, UInt32.toNat_toUInt64, UInt64.toNat_ofNat']
  · exact UInt64.toNat_inj.mp (by simp)
  · apply UInt64.toNat_inj.mp
    rw [rest, UInt64.toNat_ofNat', Nat.mod_eq_of_lt (by omega)]

/-- From an entry on, the search finds the block of the entry that holds it. -/
theorem lbaSearch_ok_iff {fuel index : Nat} (room : index + fuel ≤ 2 ^ 32) {block : LbaBlock} :
    let header := headerBytes memory base
    lbaSearch memory base lba fuel index (UInt64.ofNat (blocksBefore header index))
        (UInt64.ofNat (bytesBefore header index)) = some (.ok block) ↔
      ∃ run, index ≤ run ∧ run < index + fuel ∧
        (∀ before, index ≤ before → before ≤ run →
          (mapRun header before).count ≠ 0 ∧ (mapRun header before).size ≠ 0) ∧
        blocksBefore header run ≤ lba.toNat ∧ lba.toNat < blocksBefore header (run + 1) ∧
        block = heldBlock header base lba.toNat run := by
  intro header
  induction fuel generalizing index with
  | zero =>
    refine iff_of_false (fun found => by cases found) ?_
    rintro ⟨run, above, below, -⟩
    omega
  | succ fuel ih =>
    have entry : mapRun header index = (blockMapEntry memory base index).toRun :=
      mapRun_headerBytes index
    have blocks : UInt64.ofNat (blocksBefore header index) +
        (blockMapEntry memory base index).numBlocks.toUInt64 =
          UInt64.ofNat (blocksBefore header (index + 1)) := by
      rw [blocksBefore, entry, UInt64.ofNat_add]
      congr 1
      exact UInt64.toNat_inj.mp (by simp [BlockMapEntry.toRun])
    have bytes : UInt64.ofNat (bytesBefore header index) +
        ((blockMapEntry memory base index).numBlocks *
          (blockMapEntry memory base index).length).toUInt64 =
        UInt64.ofNat (bytesBefore header (index + 1)) := by
      rw [bytesBefore, entry, UInt64.ofNat_add]
      congr 1
      apply UInt64.toNat_inj.mp
      rw [UInt32.toNat_toUInt64, UInt32.toNat_mul, UInt64.toNat_ofNat']
      simp only [BlockMapEntry.toRun]
      omega
    have filled : (mapRun header index).count ≠ 0 ∧ (mapRun header index).size ≠ 0 ↔
        ¬ (blockMapEntry memory base index).IsEnd := by
      rw [entry, BlockMapEntry.IsEnd, not_or, ← UInt32.toNat_inj, ← UInt32.toNat_inj]
      rfl
    simp only [lbaSearch, blocks, bytes]
    split
    · next last =>
      refine iff_of_false (fun found => by cases found) ?_
      rintro ⟨run, above, -, entries, -⟩
      exact filled.mp (entries index (Nat.le_refl _) above) last
    · next more =>
      have within : (UInt64.ofNat (blocksBefore header index) ≤ lba ∧
          lba < UInt64.ofNat (blocksBefore header (index + 1))) ↔
            blocksBefore header index ≤ lba.toNat ∧
              lba.toNat < blocksBefore header (index + 1) := by
        rw [UInt64.le_iff_toNat_le, UInt64.lt_iff_toNat_lt, blocksBefore_toNat (by omega),
          blocksBefore_toNat (by omega)]
      split
      · next here =>
        obtain ⟨behind, inside⟩ := within.mp here
        rw [← heldBlock_eq (by omega) behind inside, Option.some.injEq, Except.ok.injEq]
        constructor
        · rintro rfl
          refine ⟨index, Nat.le_refl _, by omega, ?_, behind, inside, rfl⟩
          intro before above below
          rw [Nat.le_antisymm below above]
          exact filled.mpr more
        · rintro ⟨run, above, -, -, behind', -, rfl⟩
          rcases Nat.eq_or_lt_of_le above with rfl | later
          · rfl
          · have past : blocksBefore header (index + 1) ≤ blocksBefore header run :=
              blocksBefore_mono header later
            omega
      · next elsewhere =>
        rw [ih (by omega)]
        refine exists_congr fun run => ?_
        constructor
        · rintro ⟨above, below, entries, held⟩
          refine ⟨by omega, by omega, fun before after reached => ?_, held⟩
          rcases Nat.eq_or_lt_of_le after with rfl | later
          · exact filled.mpr more
          · exact entries before later reached
        · rintro ⟨above, below, entries, behind, inside, same⟩
          have later : index ≠ run := by
            rintro rfl
            exact elsewhere (within.mpr ⟨behind, inside⟩)
          exact ⟨by omega, by omega, fun before after => entries before (by omega), behind, inside,
            same⟩

theorem fvbGetLbaAddress_ok_iff {block : LbaBlock} :
    fvbGetLbaAddress memory base lba = some (.ok block) ↔
      ∃ run < mapWalkLimit, HoldsBlock (headerBytes memory base) lba.toNat run ∧
        block = heldBlock (headerBytes memory base) base lba.toNat run := by
  have closed := @lbaSearch_ok_iff memory base lba mapWalkLimit 0 (Nat.le_refl _) block
  simp only [Nat.zero_add, Nat.zero_le, true_and] at closed
  refine closed.trans (exists_congr fun run => ?_)
  constructor
  · rintro ⟨below, filled, behind, inside, same⟩
    exact ⟨below, ⟨fun before => filled before trivial, behind, inside⟩, same⟩
  · rintro ⟨below, ⟨filled, behind, inside⟩, same⟩
    exact ⟨below, fun before _ => filled before, behind, inside, same⟩

/-! ### Counting the blocks -/

theorem countBlocks_eq_some {counted total : UInt64}
    (ended : countBlocks memory base fuel index counted = some total) :
    ∃ count < fuel, (∀ step < count, (blockMapEntry memory base (index + step)).numBlocks ≠ 0) ∧
      (blockMapEntry memory base (index + count)).numBlocks = 0 ∧
      total = counted + UInt64.ofNat (RunMap.blocks (runsFrom memory base index count)) := by
  induction fuel generalizing index counted with
  | zero => cases ended
  | succ fuel ih =>
    simp only [countBlocks] at ended
    split at ended
    · rename_i last
      obtain rfl := Option.some.inj ended
      exact ⟨0, by omega, nofun, last, by simp [runsFrom, RunMap.blocks]⟩
    · rename_i more
      obtain ⟨count, within, nonzero, last, rfl⟩ := ih ended
      refine ⟨count + 1, by omega, fun step inside => ?_, ?_, ?_⟩
      · cases step with
        | zero => exact more
        | succ step =>
          have later := nonzero step (by omega)
          rwa [Nat.add_right_comm, Nat.add_assoc] at later
      · rwa [Nat.add_right_comm, Nat.add_assoc] at last
      · simp only [runsFrom, RunMap.blocks, BlockMapEntry.toRun]
        rw [UInt64.ofNat_add, UInt64.add_assoc]
        congr 2
        apply UInt64.toNat_inj.mp
        simp

theorem countBlocks_of_end {counted : UInt64} (live : Live memory base index count)
    (last : (blockMapEntry memory base (index + count)).numBlocks = 0) (enough : count < fuel) :
    countBlocks memory base fuel index counted =
      some (counted + UInt64.ofNat (RunMap.blocks (runsFrom memory base index count))) := by
  induction count generalizing fuel index counted with
  | zero =>
    obtain ⟨fuel, rfl⟩ := Nat.exists_eq_add_one.mpr enough
    have empty : (blockMapEntry memory base index).numBlocks = 0 := last
    simp [countBlocks, empty, runsFrom, RunMap.blocks]
  | succ count ih =>
    obtain ⟨fuel, rfl⟩ := Nat.exists_eq_add_one.mpr (show 0 < fuel by omega)
    have more : (blockMapEntry memory base index).numBlocks ≠ 0 := fun empty =>
      live.head (.inl empty)
    simp only [countBlocks, if_neg more, runsFrom, RunMap.blocks, BlockMapEntry.toRun]
    rw [ih live.tail (by rwa [Nat.add_right_comm]) (by omega), UInt64.ofNat_add, UInt64.add_assoc]
    congr 3
    apply UInt64.toNat_inj.mp
    simp

end

/-! ### Soundness -/

def headerEntries (memory : Memory) (base : UInt64) : Nat :=
  (headerLength memory base - blockMapOffset) / 8

theorem headerEntries_lt (memory : Memory) (base : UInt64) :
    headerEntries memory base < 2 ^ 13 := by
  have bound : headerLength memory base < 256 ^ 2 := by
    have := leValue_lt (memory.read (base + UInt64.ofNat 48) 2)
    rwa [Memory.read_length] at this
  unfold headerEntries blockMapOffset
  omega

/-- The blocks divide the volume: a search ends inside the header, it finds the blocks
that start-up counted, they lie one behind the other from the base on, and inside the
volume. -/
structure BlockMapSound (pcds : FvbPcds) (memory : Memory) : Prop where
  terminates : ∀ lba, lbaSearch memory pcds.base lba (headerEntries memory pcds.base) 0 0 0 ≠ none
  accepts : ∃ volume, fvbInitialize pcds memory = some volume ∧
    ∀ lba, (∃ block, fvbGetLbaAddress memory pcds.base lba = some (.ok block)) ↔
      lba < volume.fvInstance.numOfBlocks
  first : ∀ block, fvbGetLbaAddress memory pcds.base 0 = some (.ok block) →
    block.address = pcds.base
  contiguous : ∀ lba block next, fvbGetLbaAddress memory pcds.base lba = some (.ok block) →
    fvbGetLbaAddress memory pcds.base (lba + 1) = some (.ok next) →
    next.address.toNat = block.address.toNat + block.length.toNat
  disjoint : ∀ lba later block other, lba < later →
    fvbGetLbaAddress memory pcds.base lba = some (.ok block) →
    fvbGetLbaAddress memory pcds.base later = some (.ok other) →
    block.address.toNat + block.length.toNat ≤ other.address.toNat
  inside : ∀ lba block, fvbGetLbaAddress memory pcds.base lba = some (.ok block) →
    pcds.base ≤ block.address ∧
      block.address.toNat + block.length.toNat ≤ pcds.base.toNat + pcds.length.toNat

/-- The map ends with an entry without blocks inside the header, no run before it is
empty, and its runs are no longer than the volume. -/
def MapFits (pcds : FvbPcds) (memory : Memory) : Prop :=
  ∃ count < headerEntries memory pcds.base, Live memory pcds.base 0 count ∧
    (blockMapEntry memory pcds.base count).numBlocks = 0 ∧
    RunMap.bytes (runsFrom memory pcds.base 0 count) ≤ pcds.length.toNat

section

variable {pcds : FvbPcds} {memory : Memory} {count : Nat}

theorem blocks_header_lt (inside : count < headerEntries memory pcds.base) :
    RunMap.blocks (runsFrom memory pcds.base 0 count) < 2 ^ 64 - 1 := by
  have := headerEntries_lt memory pcds.base
  have := @blocks_runsFrom_le memory pcds.base 0 count
  omega

variable {lba : UInt64}

theorem fvbGetLbaAddress_length {found : Nat × Nat}
    (inside : count < headerEntries memory pcds.base) (live : Live memory pcds.base 0 count)
    (located : RunMap.locate (runsFrom memory pcds.base 0 count) lba.toNat = some found) :
    ∃ block, fvbGetLbaAddress memory pcds.base lba = some (.ok block) ∧
      block.length.toNat = found.2 := by
  have entries := headerEntries_lt memory pcds.base
  have room := blocks_header_lt inside
  obtain ⟨block, finds, length, -⟩ := lbaSearch_of_locate live
    (show count ≤ mapWalkLimit by unfold mapWalkLimit; omega) (show (0 : UInt64).toNat ≤ lba.toNat
      from Nat.zero_le _) (by simpa using Nat.lt_of_lt_of_le room (Nat.sub_le _ _)) located
  exact ⟨block, finds, length⟩

theorem fvbGetLbaAddress_beyond (inside : count < headerEntries memory pcds.base)
    (live : Live memory pcds.base 0 count) (ended : (blockMapEntry memory pcds.base count).IsEnd)
    (beyond : RunMap.blocks (runsFrom memory pcds.base 0 count) ≤ lba.toNat) :
    fvbGetLbaAddress memory pcds.base lba = some (.error EfiStatus.invalidParameter) := by
  have entries := headerEntries_lt memory pcds.base
  exact lbaSearch_of_end live (by rwa [Nat.zero_add]) (by unfold mapWalkLimit; omega)
    (by simpa using beyond)

theorem base_toNat_lt (pcds : FvbPcds) : pcds.base.toNat < 2 ^ 32 := by
  rw [FvbPcds.base, UInt32.toNat_toUInt64]
  exact pcds.nvStorageVariableBase.toNat_lt

theorem length_toNat_lt (pcds : FvbPcds) : pcds.length.toNat < 2 ^ 32 := by
  rw [FvbPcds.length, UInt32.toNat_toUInt64]
  exact pcds.volumeLength.toNat_lt

theorem fvbGetLbaAddress_of_locate {found : Nat × Nat}
    (inside : count < headerEntries memory pcds.base) (live : Live memory pcds.base 0 count)
    (fits : RunMap.bytes (runsFrom memory pcds.base 0 count) ≤ pcds.length.toNat)
    (located : RunMap.locate (runsFrom memory pcds.base 0 count) lba.toNat = some found) :
    ∃ block, fvbGetLbaAddress memory pcds.base lba = some (.ok block) ∧
      block.length.toNat = found.2 ∧ block.address.toNat = pcds.base.toNat + found.1 := by
  have entries := headerEntries_lt memory pcds.base
  have room := blocks_header_lt inside
  have base := base_toNat_lt pcds
  have length := length_toNat_lt pcds
  have within := RunMap.locate_within located
  obtain ⟨block, finds, sameLength, address⟩ := lbaSearch_of_locate live
    (show count ≤ mapWalkLimit by unfold mapWalkLimit; omega) (show (0 : UInt64).toNat ≤ lba.toNat
      from Nat.zero_le _) (by simpa using Nat.lt_of_lt_of_le room (Nat.sub_le _ _)) located
  refine ⟨block, finds, sameLength, ?_⟩
  have small (run : Run) (member : run ∈ runsFrom memory pcds.base 0 count) :
      run.count * run.size < 2 ^ 32 := by
    have := RunMap.run_bytes_le member
    omega
  rw [address small, UInt64.zero_add, UInt64.toNat_add, UInt64.toNat_ofNat']
  omega

theorem locate_of_fvbGetLbaAddress {block : LbaBlock}
    (inside : count < headerEntries memory pcds.base) (live : Live memory pcds.base 0 count)
    (ended : (blockMapEntry memory pcds.base count).IsEnd)
    (finds : fvbGetLbaAddress memory pcds.base lba = some (.ok block)) :
    ∃ found, RunMap.locate (runsFrom memory pcds.base 0 count) lba.toNat = some found := by
  by_contra missing
  have beyond : ¬ lba.toNat < RunMap.blocks (runsFrom memory pcds.base 0 count) := by
    rw [← RunMap.locate_isSome_iff, Option.isSome_iff_exists]
    exact missing
  have refused := fvbGetLbaAddress_beyond inside live ended (Nat.le_of_not_lt beyond)
  rw [finds] at refused
  cases refused

theorem fvbInitialize_numOfBlocks (accepted : volumeAccepted pcds memory = true)
    {volume : FwVolume} (started : fvbInitialize pcds memory = some volume) :
    countBlocks memory pcds.base mapWalkLimit 0 0 = some volume.fvInstance.numOfBlocks := by
  rw [fvbInitialize, openVolume, if_pos accepted] at started
  obtain ⟨numOfBlocks, counted, rfl⟩ := Option.map_eq_some_iff.mp started
  exact counted

theorem blockMapSound_of_mapFits (accepted : volumeAccepted pcds memory = true)
    (fits : MapFits pcds memory) : BlockMapSound pcds memory := by
  obtain ⟨count, inside, live, last, bytes⟩ := fits
  have entries := headerEntries_lt memory pcds.base
  have room := blocks_header_lt inside
  have ended : (blockMapEntry memory pcds.base count).IsEnd := .inl last
  have located (lba : UInt64) (block : LbaBlock)
      (finds : fvbGetLbaAddress memory pcds.base lba = some (.ok block)) :
      ∃ found, RunMap.locate (runsFrom memory pcds.base 0 count) lba.toNat = some found ∧
        block.length.toNat = found.2 ∧ block.address.toNat = pcds.base.toNat + found.1 := by
    obtain ⟨found, located⟩ := locate_of_fvbGetLbaAddress inside live ended finds
    obtain ⟨same, again, length, address⟩ := fvbGetLbaAddress_of_locate inside live bytes located
    rw [finds] at again
    cases again
    exact ⟨found, located, length, address⟩
  have below (lba : UInt64) : (∃ block, fvbGetLbaAddress memory pcds.base lba = some (.ok block)) ↔
      lba.toNat < RunMap.blocks (runsFrom memory pcds.base 0 count) := by
    rw [← RunMap.locate_isSome_iff, Option.isSome_iff_exists]
    constructor
    · rintro ⟨block, finds⟩
      exact locate_of_fvbGetLbaAddress inside live ended finds
    · rintro ⟨found, located⟩
      obtain ⟨block, finds, -⟩ := fvbGetLbaAddress_length inside live located
      exact ⟨block, finds⟩
  refine ⟨fun lba => ?_, ?_, fun block finds => ?_, fun lba block next finds follows => ?_,
    fun lba later block other before finds follows => ?_, fun lba block finds => ?_⟩
  · by_cases held : lba.toNat < RunMap.blocks (runsFrom memory pcds.base 0 count)
    · obtain ⟨found, located⟩ :=
        Option.isSome_iff_exists.mp ((RunMap.locate_isSome_iff _ _).mpr held)
      obtain ⟨block, finds, -⟩ := lbaSearch_of_locate live inside.le
        (show (0 : UInt64).toNat ≤ lba.toNat from Nat.zero_le _)
        (by simpa using Nat.lt_of_lt_of_le room (Nat.sub_le _ _)) located
      rw [finds]
      exact nofun
    · rw [lbaSearch_of_end live (by rwa [Nat.zero_add]) inside (by simpa using held)]
      exact nofun
  · have counted : countBlocks memory pcds.base mapWalkLimit 0 0 =
        some (UInt64.ofNat (RunMap.blocks (runsFrom memory pcds.base 0 count))) := by
      rw [countBlocks_of_end live (by rwa [Nat.zero_add]) (by unfold mapWalkLimit; omega),
        UInt64.zero_add]
    refine ⟨_, by rw [fvbInitialize, openVolume, if_pos accepted, counted]; rfl, fun lba => ?_⟩
    rw [below, UInt64.lt_iff_toNat_lt, UInt64.toNat_ofNat', Nat.mod_eq_of_lt (by omega)]
  · obtain ⟨found, held, -, address⟩ := located 0 block finds
    apply UInt64.toNat_inj.mp
    rw [address, RunMap.locate_zero held, Nat.add_zero]
  · obtain ⟨found, held, length, address⟩ := located lba block finds
    obtain ⟨after, behind, -, nextAddress⟩ := located (lba + 1) next follows
    have index : (lba + 1).toNat = lba.toNat + 1 := by
      have := (below lba).mp ⟨block, finds⟩
      rw [UInt64.toNat_add, UInt64.toNat_one]
      omega
    rw [index] at behind
    rw [nextAddress, address, length, RunMap.locate_succ held behind, Nat.add_assoc]
  · obtain ⟨found, held, length, address⟩ := located lba block finds
    obtain ⟨after, behind, -, otherAddress⟩ := located later other follows
    have distance : later.toNat = lba.toNat + 1 + (later.toNat - lba.toNat - 1) := by
      have := UInt64.lt_iff_toNat_lt.mp before
      omega
    rw [distance] at behind
    have := RunMap.locate_le held behind
    omega
  · obtain ⟨found, held, length, address⟩ := located lba block finds
    have := RunMap.locate_within held
    exact ⟨by rw [UInt64.le_iff_toNat_le]; omega, by omega⟩

theorem exists_end_of_terminates
    (terminates : ∀ lba,
      lbaSearch memory pcds.base lba (headerEntries memory pcds.base) 0 0 0 ≠ none) :
    ∃ count < headerEntries memory pcds.base, Live memory pcds.base 0 count ∧
      (blockMapEntry memory pcds.base count).IsEnd := by
  by_cases ends : ∃ count < headerEntries memory pcds.base,
      (blockMapEntry memory pcds.base count).IsEnd
  · obtain ⟨inside, ended⟩ := Nat.find_spec ends
    refine ⟨Nat.find ends, inside, fun step before stops => ?_, ended⟩
    rw [Nat.zero_add] at stops
    exact Nat.find_min ends before ⟨by omega, stops⟩
  · have live : Live memory pcds.base 0 (headerEntries memory pcds.base) := by
      intro step inside stops
      rw [Nat.zero_add] at stops
      exact ends ⟨step, inside, stops⟩
    have entries := headerEntries_lt memory pcds.base
    have blocks := @blocks_runsFrom_le memory pcds.base 0 (headerEntries memory pcds.base)
    have last : (0xFFFFFFFFFFFFFFFF : UInt64).toNat = 2 ^ 64 - 1 := rfl
    refine absurd (lbaSearch_undefined live ?_) (terminates 0xFFFFFFFFFFFFFFFF)
    rw [last]
    simp only [UInt64.reduceToNat]
    omega

theorem mapFits_of_blockMapSound (accepted : volumeAccepted pcds memory = true)
    (sound : BlockMapSound pcds memory) : MapFits pcds memory := by
  obtain ⟨count, inside, live, ended⟩ := exists_end_of_terminates sound.terminates
  have entries := headerEntries_lt memory pcds.base
  have room := blocks_header_lt inside
  refine ⟨count, inside, live, ?_, ?_⟩
  · -- An entry that ends the search but not the count makes start-up count blocks that
    -- the search does not find.
    by_contra more
    obtain ⟨volume, started, accepts⟩ := sound.accepts
    obtain ⟨total, limit, nonzero, empty, counted⟩ :=
      countBlocks_eq_some (fvbInitialize_numOfBlocks accepted started)
    have farther : count < total := by
      by_contra short
      rw [Nat.zero_add] at empty
      rcases Nat.lt_or_eq_of_le (Nat.le_of_not_lt short) with before | same
      · exact live total before (.inl (by rwa [Nat.zero_add]))
      · exact more (same ▸ empty)
    obtain ⟨rest, rfl⟩ := Nat.exists_eq_add_of_lt farther
    have split := @blocks_runsFrom_add memory pcds.base 0 count (rest + 1)
    have counts : 0 < (blockMapEntry memory pcds.base count).numBlocks.toNat :=
      Nat.pos_of_ne_zero fun none => more (UInt32.toNat_inj.mp none)
    have bounded := @blocks_runsFrom_le memory pcds.base 0 (count + rest + 1)
    have index : (UInt64.ofNat (RunMap.blocks (runsFrom memory pcds.base 0 count))).toNat =
        RunMap.blocks (runsFrom memory pcds.base 0 count) := by
      rw [UInt64.toNat_ofNat', Nat.mod_eq_of_lt (by omega)]
    have held : UInt64.ofNat (RunMap.blocks (runsFrom memory pcds.base 0 count)) <
        volume.fvInstance.numOfBlocks := by
      rw [counted, UInt64.lt_iff_toNat_lt, index, UInt64.zero_add, UInt64.toNat_ofNat',
        Nat.mod_eq_of_lt (by unfold mapWalkLimit at limit; omega), Nat.add_assoc, split]
      simp only [runsFrom, RunMap.blocks, BlockMapEntry.toRun, Nat.zero_add]
      omega
    obtain ⟨block, finds⟩ := (accepts _).mpr held
    rw [fvbGetLbaAddress_beyond inside live ended index.ge] at finds
    cases finds
  · -- From the base on, block after block is where the runs say, up to the last.
    have address (index : Nat) : ∀ lba : UInt64, lba.toNat = index → ∀ block found,
        fvbGetLbaAddress memory pcds.base lba = some (.ok block) →
        RunMap.locate (runsFrom memory pcds.base 0 count) index = some found →
        block.address.toNat = pcds.base.toNat + found.1 := by
      induction index with
      | zero =>
        intro lba zero block found finds located
        obtain rfl : lba = 0 := UInt64.toNat_inj.mp zero
        rw [sound.first block finds, RunMap.locate_zero located, Nat.add_zero]
      | succ index ih =>
        intro lba succ block found finds located
        have before : (lba - 1).toNat = index := by
          rw [UInt64.toNat_sub_of_le _ _ (by rw [UInt64.le_iff_toNat_le, UInt64.toNat_one]; omega),
            UInt64.toNat_one]
          omega
        have held : index < RunMap.blocks (runsFrom memory pcds.base 0 count) := by
          have := (RunMap.locate_isSome_iff _ _).mp (Option.isSome_of_eq_some located)
          omega
        obtain ⟨previous, there⟩ :=
          Option.isSome_iff_exists.mp ((RunMap.locate_isSome_iff _ _).mpr held)
        obtain ⟨other, findsOther, length⟩ :=
          fvbGetLbaAddress_length inside live (before ▸ there)
        have next := sound.contiguous (lba - 1) other block findsOther (by
          rwa [UInt64.sub_add_cancel])
        rw [next, ih (lba - 1) before other previous findsOther there, length,
          RunMap.locate_succ there located, Nat.add_assoc]
    by_cases empty : RunMap.blocks (runsFrom memory pcds.base 0 count) = 0
    · rw [RunMap.bytes_eq_zero empty]
      exact Nat.zero_le _
    · obtain ⟨last, lastIndex⟩ := Nat.exists_eq_add_one.mpr (Nat.pos_of_ne_zero empty)
      have held : last < RunMap.blocks (runsFrom memory pcds.base 0 count) := by omega
      obtain ⟨found, located⟩ := Option.isSome_iff_exists.mp
        ((RunMap.locate_isSome_iff _ last).mpr held)
      have index : (UInt64.ofNat last).toNat = last := by
        rw [UInt64.toNat_ofNat', Nat.mod_eq_of_lt (by omega)]
      obtain ⟨block, finds, length⟩ :=
        fvbGetLbaAddress_length inside live (index.symm ▸ located)
      have here := address last _ index block found finds located
      have whole := RunMap.locate_last located (by omega)
      have within := (sound.inside _ block finds).2
      omega

/-- The blocks of an accepted volume divide it if and only if its map fits. -/
theorem blockMapSound_iff (accepted : volumeAccepted pcds memory = true) :
    BlockMapSound pcds memory ↔ MapFits pcds memory :=
  ⟨mapFits_of_blockMapSound accepted, blockMapSound_of_mapFits accepted⟩

/-- The shipped header, whose map is 32 blocks of 4 KiB. -/
theorem blockMapSound_shipped :
    BlockMapSound rk356xPcds (rk356xVolume 0x4FEFF 0xF919 [⟨0x20, 0x1000⟩, ⟨0, 0⟩]) ↔
      MapFits rk356xPcds (rk356xVolume 0x4FEFF 0xF919 [⟨0x20, 0x1000⟩, ⟨0, 0⟩]) :=
  blockMapSound_iff (by decide)

/-- A header with twice the blocks is accepted, and its last block lies behind the
volume. -/
theorem blockMapSound_fails_tooManyBlocks :
    volumeAccepted rk356xPcds (rk356xVolume 0x4FEFF 0xF8F9 [⟨0x40, 0x1000⟩, ⟨0, 0⟩]) = true ∧
      ¬ BlockMapSound rk356xPcds (rk356xVolume 0x4FEFF 0xF8F9 [⟨0x40, 0x1000⟩, ⟨0, 0⟩]) := by
  refine ⟨by decide, fun sound => ?_⟩
  have last : fvbGetLbaAddress (rk356xVolume 0x4FEFF 0xF8F9 [⟨0x40, 0x1000⟩, ⟨0, 0⟩])
      rk356xPcds.base 0x3F = some (.ok ⟨0xB1F000, 0x1000, 1⟩) := by decide
  exact absurd (sound.inside _ _ last).2 (by decide)

end

end MuRockchip.Fvb
