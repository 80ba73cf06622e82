/-
The header of the variable volume, from one boot to the next.

The next start-up erases the volume unless its header passes the validation, checksum
included. Reads, writes and erasures that leave the header's bytes alone leave it valid;
setting an attribute stores it in the header and does not adjust the checksum.

* `volumeAccepted_congr`: the validation sees the header's bytes only.
* `volumeAccepted_withAttributes_iff`: the attributes that can be stored in a valid header.
* `bootable_run_iff`: the runs that keep the volume valid.
-/
import MuRockchip.Base.Run
import MuRockchip.Fvb.Erase

namespace MuRockchip.Fvb

open MuRockchip.Base

/-! ### Calls -/

/-- The calls of the block protocol that can change memory. -/
inductive FvbCall where
  | read (request : FvbRequest)
  | write (request : FvbRequest)
  | eraseBlocks (ranges : List LbaRange)
  | setAttributes (wanted : FvbAttributes2)

/-- The volume after a call. A call that does not return leaves it in no other state. -/
def FwVolume.after (volume : FwVolume) : FvbCall → FwVolume
  | .read request => ((fvbProtocolRead volume request).map FvbOutcome.volume).getD volume
  | .write request => ((fvbProtocolWrite volume request).map FvbOutcome.volume).getD volume
  | .eraseBlocks ranges => ((fvbProtocolEraseBlocks volume ranges).map Prod.snd).getD volume
  | .setAttributes wanted => (fvbSetVolumeAttributes volume wanted).2.2

def erasures : List UInt64 → FwVolume → List LbaBlock
  | [], _ => []
  | lba :: rest, volume =>
    if volume.attributes &&& fvb2WriteStatus = 0 then []
    else
      match blockAt volume.memory volume.base lba with
      | none => []
      | some block => block :: erasures rest (volume.varStoreErase block.address block.length)

/-- A byte that a call stores to, other than an attribute: the destination of a read is
the caller's buffer. -/
def Touches (volume : FwVolume) (address : UInt64) : FvbCall → Prop
  | .read request => ∃ transfer, fvbCheck fvb2ReadStatus volume request = some (.ok transfer) ∧
      address - request.buffer < transfer.numBytes
  | .write request => ∃ transfer, fvbCheck fvb2WriteStatus volume request = some (.ok transfer) ∧
      address - transfer.address < transfer.numBytes
  | .eraseBlocks ranges => eraseListAccepted volume.fvInstance.numOfBlocks ranges = true ∧
      ∃ block ∈ erasures (listedLbas ranges) volume, block.covers address = true
  | .setAttributes _ => False

section

variable {volume : FwVolume} {address : UInt64}

theorem eraseLbas_frame {lbas : List UInt64} {erased : EfiStatus × FwVolume}
    (run : eraseLbas lbas volume = some erased)
    (apart : ∀ block ∈ erasures lbas volume, block.covers address = false) :
    erased.2.memory address = volume.memory address := by
  induction lbas generalizing volume with
  | nil =>
    cases run
    rfl
  | cons lba rest ih =>
    rw [eraseLbas] at run
    by_cases disabled : volume.attributes &&& fvb2WriteStatus = 0
    · rw [fvbEraseBlock_disabled disabled] at run
      cases run
      rfl
    · rw [erasures, if_neg disabled] at apart
      rw [fvbEraseBlock_enabled disabled] at run
      obtain ⟨next, step, later⟩ := Option.bind_eq_some_iff.mp run
      obtain ⟨located, finds, rfl⟩ := Option.map_eq_some_iff.mp step
      cases located with
      | error status =>
        rw [lbaSearch_error finds] at later
        cases later
        rfl
      | ok block =>
        have found : blockAt volume.memory volume.base lba = some block := by
          rw [blockAt, finds]
          rfl
        rw [found] at apart
        have here := apart block (List.mem_cons_self)
        have untouched := ih (show eraseLbas rest
            (volume.varStoreErase block.address block.length) = some erased from later)
          fun other member => apart other (List.mem_cons_of_mem _ member)
        rw [untouched]
        exact if_neg (by simpa [LbaBlock.covers] using here)

/-- A call other than `SetAttributes` changes only what it touches. -/
theorem after_frame {call : FvbCall} (apart : ¬ Touches volume address call)
    (other : ∀ wanted, call ≠ .setAttributes wanted) :
    (volume.after call).memory address = volume.memory address := by
  cases call with
  | read request =>
    simp only [FwVolume.after, fvbProtocolRead]
    cases checked : fvbCheck fvb2ReadStatus volume request with
    | none => rfl
    | some result =>
      cases result with
      | error status => rfl
      | ok transfer => exact if_neg fun inside => apart ⟨transfer, checked, inside⟩
  | write request =>
    simp only [FwVolume.after, fvbProtocolWrite]
    cases checked : fvbCheck fvb2WriteStatus volume request with
    | none => rfl
    | some result =>
      cases result with
      | error status => rfl
      | ok transfer => exact if_neg fun inside => apart ⟨transfer, checked, inside⟩
  | eraseBlocks ranges =>
    simp only [FwVolume.after, fvbProtocolEraseBlocks, eraseList_eq]
    split
    · rename_i accepted
      cases run : eraseLbas (listedLbas ranges) volume with
      | none => rfl
      | some erased =>
        refine eraseLbas_frame run fun block member => ?_
        rw [← Bool.not_eq_true]
        exact fun covers => apart ⟨accepted, block, member, covers⟩
    · rfl
  | setAttributes wanted => exact absurd rfl (other wanted)

end

/-! ### What the validation sees -/

/-- The bytes of the header: the structure with one entry of the block map, and what its
length says. -/
def headerExtent (memory : Memory) (base : UInt64) : Nat := max 64 (headerLength memory base)

theorem calculateSum16_eq (memory : Memory) (base : UInt64) (length : Nat) :
    calculateSum16 memory base length =
      UInt16.ofNat (wordSum (fun index => headerField memory base (2 * index) 2) (length / 2)) :=
  rfl

section

variable {left right : Memory} {base : UInt64}

theorem headerLength_congr
    (agree : HeaderAgrees left base right base (headerExtent right base)) :
    headerLength left base = headerLength right base :=
  headerField_congr agree (by unfold headerExtent; omega)

theorem volumeAccepted_congr {pcds : FvbPcds}
    (agree : HeaderAgrees left pcds.base right pcds.base (headerExtent right pcds.base)) :
    volumeAccepted pcds left = volumeAccepted pcds right := by
  have field (offset width : Nat) (inside : offset + width ≤ 64) :
      headerField left pcds.base offset width = headerField right pcds.base offset width :=
    headerField_congr agree (by unfold headerExtent; omega)
  have sum : calculateSum16 left pcds.base (headerLength left pcds.base) =
      calculateSum16 right pcds.base (headerLength right pcds.base) := by
    rw [headerLength_congr agree, calculateSum16_eq, calculateSum16_eq]
    congr 1
    exact wordSum_congr fun index below =>
      headerField_congr agree (by unfold headerExtent; omega)
  have entry : blockMapEntry left pcds.base 0 = blockMapEntry right pcds.base 0 :=
    blockMapEntry_congr agree (by unfold headerExtent blockMapOffset; omega)
  rw [volumeAccepted, volumeAccepted, validateFvHeader, validateFvHeader, sum, entry,
    headerLength_congr agree, headerRevision, headerRevision, headerSignature, headerSignature,
    headerFvLength, headerFvLength, field 55 1 (by omega), field 40 4 (by omega),
    field 32 8 (by omega)]

end

/-! ### Attributes in the header -/

/-- The header after the attributes were stored. -/
def withAttributes (memory : Memory) (base : UInt64) (attributes : FvbAttributes2) : Memory :=
  memory.write (base + attributesOffset) (leBytes 4 attributes.toNat)

section

variable {memory : Memory} {base : UInt64} {attributes : FvbAttributes2}

theorem headerField_words (memory : Memory) (base : UInt64) (offset : Nat) :
    headerField memory base offset 4 =
      headerField memory base offset 2 + 65536 * headerField memory base (offset + 2) 2 := by
  have parts := memory.read_append (base + UInt64.ofNat offset) 2 2
  rw [headerField, parts, leValue_append, Memory.read_length, UInt64.add_assoc,
    ← UInt64.ofNat_add]
  rfl

theorem headerField_lt (memory : Memory) (base : UInt64) (offset width : Nat) :
    headerField memory base offset width < 256 ^ width := by
  have := leValue_lt (memory.read (base + UInt64.ofNat offset) width)
  rwa [Memory.read_length] at this

/-- Other fields are not changed. -/
theorem headerField_withAttributes {offset width : Nat}
    (fits : base.toNat + (offset + width) < 2 ^ 64) (room : base.toNat + 48 < 2 ^ 64)
    (apart : offset + width ≤ 44 ∨ 48 ≤ offset) :
    headerField (withAttributes memory base attributes) base offset width =
      headerField memory base offset width := by
  have start : (base + attributesOffset).toNat = base.toNat + 44 := by
    rw [UInt64.toNat_add, show attributesOffset.toNat = 44 from rfl]
    omega
  have here : (base + UInt64.ofNat offset).toNat = base.toNat + offset := by
    rw [UInt64.toNat_add, UInt64.toNat_ofNat']
    omega
  unfold headerField withAttributes
  congr 1
  apply Memory.read_write_apart
  · omega
  · rw [leBytes_length]
    omega
  · rw [start, here, leBytes_length]
    simp only [Interval.Disjoint, Interval.finish]
    omega

theorem headerField_attributes :
    headerField (withAttributes memory base attributes) base 44 4 = attributes.toNat := by
  have stored := Memory.read_write_same memory (base + attributesOffset)
    (leBytes 4 attributes.toNat) (by rw [leBytes_length]; decide)
  rw [leBytes_length] at stored
  have read : headerField (withAttributes memory base attributes) base 44 4 =
      leValue ((memory.write (base + attributesOffset) (leBytes 4 attributes.toNat)).read
        (base + attributesOffset) 4) := rfl
  rw [read, stored, leValue_leBytes_of_lt attributes.toNat_lt]

/-- Setting attributes changes the status bits, which are in the low byte. -/
theorem attributes_upper {old wanted : FvbAttributes2} :
    ((old &&& ~~~fvb2Status) ||| (wanted &&& fvb2Status)).toNat / 256 = old.toNat / 256 := by
  have shifted : ((old &&& ~~~fvb2Status) ||| (wanted &&& fvb2Status)) >>> 8 = old >>> 8 := by
    have kept : (~~~fvb2Status) >>> 8 = 0xFFFFFF := by decide
    have none : fvb2Status >>> 8 = 0 := by decide
    rw [UInt32.shiftRight_or, UInt32.shiftRight_and, UInt32.shiftRight_and, kept, none,
      UInt32.and_zero, UInt32.or_zero]
    apply UInt32.toNat_inj.mp
    rw [UInt32.toNat_and, UInt32.toNat_shiftRight]
    have below : old.toNat >>> (UInt32.toNat 8 % 32) < 2 ^ 24 := by
      rw [Nat.shiftRight_eq_div_pow]
      exact Nat.div_lt_of_lt_mul old.toNat_lt
    exact (Nat.and_two_pow_sub_one_eq_mod _ 24).trans (Nat.mod_eq_of_lt below)
  have := congrArg UInt32.toNat shifted
  simpa [UInt32.toNat_shiftRight, Nat.shiftRight_eq_div_pow] using this

/-- What the validation checks. -/
theorem volumeAccepted_iff {pcds : FvbPcds} :
    volumeAccepted pcds memory = true ↔
      (headerRevision memory pcds.base = fvhRevision ∧
        headerSignature memory pcds.base = fvhSignature ∧
        headerFvLength memory pcds.base ≠ 0xFFFFFFFFFFFFFFFF ∧
        headerLength memory pcds.base % 2 = 0) ∧
      calculateSum16 memory pcds.base (headerLength memory pcds.base) = 0 ∧
      headerFvLength memory pcds.base = pcds.length ∧
      (blockMapEntry memory pcds.base 0).length = pcds.firmwareBlockSize := by
  have found : EfiStatus.notFound ≠ EfiStatus.success := by decide
  simp only [volumeAccepted, validateFvHeader, Bool.and_eq_true, decide_eq_true_eq]
  split
  · rename_i malformed
    simp only [found, decide_false, Bool.false_eq_true, false_and, false_iff]
    rintro ⟨⟨revision, signature, length, even⟩, -⟩
    rcases malformed with wrong | wrong | wrong | wrong
    · exact wrong revision
    · exact wrong signature
    · exact length wrong
    · exact wrong even
  · rename_i wellFormed
    simp only [not_or, not_not, ne_eq] at wellFormed
    split
    · rename_i wrong
      simp [found, wrong]
    · rename_i right
      simp only [ne_eq, not_not] at right
      simp [wellFormed, right]

theorem calculateSum16_withAttributes (room : base.toNat + 65536 < 2 ^ 64)
    (high : attributes.toNat / 65536 = (headerAttributes memory base).toNat / 65536)
    {length : Nat} (bound : length < 65536) (valid : calculateSum16 memory base length = 0) :
    calculateSum16 (withAttributes memory base attributes) base length = 0 ↔
      length < 46 ∨ attributes = headerAttributes memory base := by
  have old : (headerAttributes memory base).toNat = headerField memory base 44 4 := by
    have := headerField_lt memory base 44 4
    rw [headerAttributes, UInt32.toNat_ofNat']
    omega
  have oldWords := headerField_words memory base 44
  have newWords := headerField_words (withAttributes memory base attributes) base 44
  have oldLow := headerField_lt memory base 44 2
  have newLow := headerField_lt (withAttributes memory base attributes) base 44 2
  rw [headerField_attributes] at newWords
  have apart (index : Nat) (below : index < length / 2) (other : index ≠ 22) :
      headerField (withAttributes memory base attributes) base (2 * index) 2 =
        headerField memory base (2 * index) 2 := by
    by_cases second : index = 23
    · subst second
      simp only [Nat.reduceAdd, Nat.reduceMul] at *
      omega
    · exact headerField_withAttributes (by omega) (by omega) (by omega)
  rw [calculateSum16_eq] at valid ⊢
  have zero (sum : Nat) : UInt16.ofNat sum = 0 ↔ sum % 65536 = 0 := by
    rw [← UInt16.toNat_inj, UInt16.toNat_ofNat']
    rfl
  rw [zero] at valid ⊢
  by_cases short : length < 46
  · rw [wordSum_congr fun index below => apart index below (by omega)]
    exact iff_of_true valid (.inl short)
  · have update := wordSum_update (show 22 < length / 2 by omega) apart
    rw [← UInt32.toNat_inj, old]
    simp only [Nat.reduceMul, Nat.reduceAdd, Nat.reducePow] at *
    omega

/-- A valid header stays valid with other attributes of the same high word if and only if
they are the same, or the checksum does not cover them. -/
theorem volumeAccepted_withAttributes_iff {pcds : FvbPcds}
    (accepted : volumeAccepted pcds memory = true)
    (high : attributes.toNat / 65536 = (headerAttributes memory pcds.base).toNat / 65536) :
    volumeAccepted pcds (withAttributes memory pcds.base attributes) = true ↔
      headerLength memory pcds.base < 46 ∨ attributes = headerAttributes memory pcds.base := by
  have room := base_toNat_lt pcds
  have field (offset width : Nat) (inside : offset + width ≤ 64)
      (apart : offset + width ≤ 44 ∨ 48 ≤ offset) :
      headerField (withAttributes memory pcds.base attributes) pcds.base offset width =
        headerField memory pcds.base offset width :=
    headerField_withAttributes (by omega) (by omega) apart
  have length : headerLength (withAttributes memory pcds.base attributes) pcds.base =
      headerLength memory pcds.base := field 48 2 (by omega) (by omega)
  have bound : headerLength memory pcds.base < 65536 := headerField_lt memory pcds.base 48 2
  obtain ⟨⟨revision, signature, fvLength, even⟩, valid, same, block⟩ :=
    volumeAccepted_iff.mp accepted
  have entry : (blockMapEntry (withAttributes memory pcds.base attributes) pcds.base 0).length =
      (blockMapEntry memory pcds.base 0).length :=
    congrArg UInt32.ofNat (field 60 4 (by omega) (by omega))
  rw [volumeAccepted_iff, length, entry, headerRevision, headerSignature, headerFvLength,
    field 55 1 (by omega) (by omega), field 40 4 (by omega) (by omega),
    field 32 8 (by omega) (by omega), calculateSum16_withAttributes (by omega) high bound valid]
  constructor
  · rintro ⟨-, kept, -⟩
    exact kept
  · intro kept
    exact ⟨⟨revision, signature, fvLength, even⟩, kept, same, block⟩

end

/-! ### Runs -/

def SparesHeader (volume : FwVolume) (call : FvbCall) : Prop :=
  ∀ index < headerExtent volume.memory volume.base,
    ¬ Touches volume (volume.base + UInt64.ofNat index) call

/-- `SetAttributes` is refused or asks for the status bits that are set; or else the
checksum does not cover them. -/
def KeepsStatus (volume : FwVolume) : FvbCall → Prop
  | .setAttributes wanted =>
    (∃ status, attributesCheck volume.attributes wanted = .error status) ∨
      wanted &&& fvb2Status = volume.attributes &&& fvb2Status ∨
      headerLength volume.memory volume.base < 46
  | _ => True

/-- The next start-up takes the volume over. -/
def Bootable (pcds : FvbPcds) (volume : FwVolume) : Prop :=
  volume.base = pcds.base ∧ volumeAccepted pcds volume.memory = true

section

variable {pcds : FvbPcds} {volume : FwVolume}

theorem eraseLbas_base {lbas : List UInt64} {erased : EfiStatus × FwVolume}
    (run : eraseLbas lbas volume = some erased) : erased.2.base = volume.base :=
  @eraseLbas_preserves volume lbas (fun before after => after.base = before.base) (fun _ => rfl)
    (fun one other => other.trans one) (fun _ _ => rfl) erased run

theorem after_base (call : FvbCall) : (volume.after call).base = volume.base := by
  cases call with
  | read request =>
    simp only [FwVolume.after, fvbProtocolRead]
    rcases fvbCheck fvb2ReadStatus volume request with _ | _ | _ <;> rfl
  | write request =>
    simp only [FwVolume.after, fvbProtocolWrite]
    rcases fvbCheck fvb2WriteStatus volume request with _ | _ | _ <;> rfl
  | eraseBlocks ranges =>
    simp only [FwVolume.after, fvbProtocolEraseBlocks, eraseList_eq]
    split
    · cases run : eraseLbas (listedLbas ranges) volume with
      | none => rfl
      | some erased => exact eraseLbas_base run
    · rfl
  | setAttributes wanted =>
    simp only [FwVolume.after, fvbSetVolumeAttributes]
    cases attributesCheck volume.attributes wanted <;> rfl

theorem attributesCheck_ok {old wanted attributes : FvbAttributes2}
    (checked : attributesCheck old wanted = .ok attributes) :
    attributes = (old &&& ~~~fvb2Status) ||| (wanted &&& fvb2Status) := by
  unfold attributesCheck at checked
  split at checked
  · cases checked
  · split at checked
    · cases checked
    · split at checked
      · exact (Except.ok.inj checked).symm
      · cases checked

theorem replaceBits_eq_iff {old wanted mask : UInt32} :
    (old &&& ~~~mask) ||| (wanted &&& mask) = old ↔ wanted &&& mask = old &&& mask := by
  simp only [← UInt32.toBitVec_inj, BitVec.eq_of_getElem_eq_iff, UInt32.toBitVec_or,
    UInt32.toBitVec_and, UInt32.toBitVec_not, BitVec.getElem_or, BitVec.getElem_and,
    BitVec.getElem_not]
  refine forall_congr' fun index => forall_congr' fun inside => ?_
  cases old.toBitVec[index] <;> cases wanted.toBitVec[index] <;> cases mask.toBitVec[index] <;>
    decide

theorem attributesCheck_locked {old wanted attributes : FvbAttributes2}
    (checked : attributesCheck old wanted = .ok attributes)
    (locked : old &&& fvb2LockStatus ≠ 0) : wanted &&& fvb2Status = old &&& fvb2Status := by
  unfold attributesCheck at checked
  split at checked
  · cases checked
  · split at checked
    · cases checked
    · rename_i same
      have agree := not_and.mp same locked
      rw [ne_eq, not_not, UInt32.xor_eq_zero_iff] at agree
      exact agree.symm

/-- `SetAttributes` leaves a valid header valid if and only if it keeps the status. -/
theorem bootable_setAttributes_iff (bootable : Bootable pcds volume) (wanted : FvbAttributes2) :
    Bootable pcds (volume.after (.setAttributes wanted)) ↔
      KeepsStatus volume (.setAttributes wanted) := by
  obtain ⟨base, accepted⟩ := bootable
  cases checked : attributesCheck volume.attributes wanted with
  | error status =>
    have same : volume.after (.setAttributes wanted) = volume := by
      rw [FwVolume.after, fvbSetVolumeAttributes, checked]
    rw [same]
    exact iff_of_true ⟨base, accepted⟩ (.inl ⟨status, checked⟩)
  | ok attributes =>
    have stored : (volume.after (.setAttributes wanted)).memory =
        withAttributes volume.memory pcds.base attributes := by
      rw [FwVolume.after, fvbSetVolumeAttributes, checked, base]
      rfl
    have upper := @attributes_upper volume.attributes wanted
    rw [← attributesCheck_ok checked, FwVolume.attributes, base] at upper
    have high : attributes.toNat / 65536 =
        (headerAttributes volume.memory pcds.base).toNat / 65536 := by omega
    have kept : attributes = headerAttributes volume.memory pcds.base ↔
        wanted &&& fvb2Status = volume.attributes &&& fvb2Status := by
      rw [attributesCheck_ok checked, ← base]
      exact replaceBits_eq_iff
    simp only [Bootable, after_base, base, true_and, stored, KeepsStatus, checked, reduceCtorEq,
      exists_false, false_or, volumeAccepted_withAttributes_iff accepted high, kept, or_comm]

theorem bootable_after_iff (bootable : Bootable pcds volume) {call : FvbCall}
    (spares : SparesHeader volume call) :
    Bootable pcds (volume.after call) ↔ KeepsStatus volume call := by
  by_cases attributes : ∃ wanted, call = .setAttributes wanted
  · obtain ⟨wanted, rfl⟩ := attributes
    exact bootable_setAttributes_iff bootable wanted
  · have other (wanted) : call ≠ .setAttributes wanted := fun same => attributes ⟨wanted, same⟩
    have agree : HeaderAgrees (volume.after call).memory pcds.base volume.memory pcds.base
        (headerExtent volume.memory pcds.base) := by
      intro index below
      rw [← bootable.1] at below ⊢
      exact after_frame (spares index below) other
    refine iff_of_true ⟨(after_base call).trans bootable.1, ?_⟩ ?_
    · rw [volumeAccepted_congr agree]
      exact bootable.2
    · cases call with
      | setAttributes wanted => exact absurd rfl (other wanted)
      | _ => trivial

theorem bootable_run_iff {calls : List FvbCall} (bootable : Bootable pcds volume)
    (spared : AllSteps FwVolume.after SparesHeader volume calls) :
    (∀ count, Bootable pcds (run FwVolume.after volume (calls.take count))) ↔
      AllSteps FwVolume.after KeepsStatus volume calls := by
  induction calls generalizing volume with
  | nil => exact iff_of_true (fun _ => by simpa using bootable) trivial
  | cons call rest ih =>
    constructor
    · intro valid
      have next : Bootable pcds (volume.after call) := valid 1
      exact ⟨(bootable_after_iff bootable spared.1).mp next,
        (ih next spared.2).mp fun count => valid (count + 1)⟩
    · rintro ⟨keeps, later⟩ count
      have next := (bootable_after_iff bootable spared.1).mpr keeps
      cases count with
      | zero => exact bootable
      | succ count => exact (ih next spared.2).mpr later count

theorem run_base (calls : List FvbCall) : (run FwVolume.after volume calls).base = volume.base := by
  induction calls generalizing volume with
  | nil => rfl
  | cons call rest ih => exact ih.trans (after_base call)

end

/-- Start-up with this image accepts it and takes it over as it is. -/
def SurvivesBoot (pcds : FvbPcds) (memory : Memory) : Prop :=
  volumeAccepted pcds memory = true ∧ openVolume pcds memory = ⟨pcds.newInstance, memory⟩

theorem survivesBoot_iff {pcds : FvbPcds} {memory : Memory} :
    SurvivesBoot pcds memory ↔ volumeAccepted pcds memory = true :=
  and_iff_left_of_imp fun accepted => if_pos accepted

/-- After start-up, calls that spare the header leave an image that the next start-up takes
over, in every state, if and only if they keep the status. -/
theorem variableVolume_survives_iff {pcds : FvbPcds} {memory : Memory} {volume : FwVolume}
    (accepted : volumeAccepted pcds memory = true)
    (started : fvbInitialize pcds memory = some volume) (calls : List FvbCall)
    (spared : AllSteps FwVolume.after SparesHeader volume calls) :
    (∀ count, SurvivesBoot pcds (run FwVolume.after volume (calls.take count)).memory) ↔
      AllSteps FwVolume.after KeepsStatus volume calls := by
  have opened : volume.base = pcds.base ∧ volume.memory = memory := by
    rw [fvbInitialize, openVolume, if_pos accepted] at started
    obtain ⟨numOfBlocks, -, rfl⟩ := Option.map_eq_some_iff.mp started
    exact ⟨rfl, rfl⟩
  have bootable : Bootable pcds volume := ⟨opened.1, by rw [opened.2]; exact accepted⟩
  rw [← bootable_run_iff bootable spared]
  refine forall_congr' fun count => ?_
  rw [survivesBoot_iff, Bootable, run_base, and_iff_right opened.1]

theorem fvbInitialize_shipped :
    fvbInitialize rk356xPcds shippedVolume.memory = some shippedVolume := rfl

/-- A write to the second block, and the attributes the volume has. -/
theorem variableVolume_survives_shipped :
    (∀ count, SurvivesBoot rk356xPcds (run FwVolume.after shippedVolume
        ([.write ⟨1, 0, some 0x100, 0x80000000⟩, .setAttributes 0x4FEFF].take count)).memory) ↔
      AllSteps FwVolume.after KeepsStatus shippedVolume
        [.write ⟨1, 0, some 0x100, 0x80000000⟩, .setAttributes 0x4FEFF] := by
  have spares : SparesHeader shippedVolume (.write ⟨1, 0, some 0x100, 0x80000000⟩) := by
    rintro index below ⟨transfer, checked, inside⟩
    have found : fvbCheck fvb2WriteStatus shippedVolume ⟨1, 0, some 0x100, 0x80000000⟩ =
        some (.ok ⟨0xAE1000, 0x100, EfiStatus.success⟩) := by decide
    rw [found] at checked
    cases checked
    have extent : headerExtent shippedVolume.memory shippedVolume.base = 72 := by decide
    have apart : ∀ index < 72,
        ¬ shippedVolume.base + UInt64.ofNat index - 0xAE1000 < 0x100 := by decide
    exact apart index (extent ▸ below) inside
  exact variableVolume_survives_iff (by decide) fvbInitialize_shipped _
    ⟨spares, fun _ _ touched => touched, trivial⟩

/-- The shipped volume without its lock. -/
def unlockedVolume : FwVolume where
  fvInstance := shippedVolume.fvInstance
  memory := rk356xVolume 0x4FE7F 0xF999 [⟨0x20, 0x1000⟩, ⟨0, 0⟩]

/-- Reading is disabled, which the volume allows, and the next start-up erases it. -/
theorem variableVolume_lost :
    volumeAccepted rk356xPcds unlockedVolume.memory = true ∧
      fvbInitialize rk356xPcds unlockedVolume.memory = some unlockedVolume ∧
      AllSteps FwVolume.after SparesHeader unlockedVolume [.setAttributes 0x4FE7B] ∧
      ¬ SurvivesBoot rk356xPcds
        (run FwVolume.after unlockedVolume [.setAttributes 0x4FE7B]).memory :=
  ⟨by decide, rfl, ⟨fun _ _ touched => touched, trivial⟩, fun survives =>
    absurd survives.1 (by decide)⟩

end MuRockchip.Fvb
