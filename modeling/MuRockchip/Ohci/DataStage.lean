/-
The data stage of the OHCI transfers (`Ohci.c`).

Control, bulk and interrupt transfers cut their mapped buffer into packets with the same
loop: a running address, the length left over and the running toggle. Each round takes a
descriptor from the pool, fills it in and links it to the end of the chain.

* `dataStage_spec`: what the loop has built when it stops, whether it ran out of bytes or
  of descriptors.
-/
import Mathlib.Tactic.IntervalCases
import Mathlib.Tactic.NormNum
import MuRockchip.Ohci.Descriptors

namespace MuRockchip.Ohci

open MuRockchip.Base

/-! ### The loop -/

def tdNoDelay : BitVec 3 := 7

/-- `OhciSetTDField` for `TD_DT_TOGGLE`. -/
def tdToggle (toggle : UInt8) : BitVec 2 := BitVec.ofNat 2 (toggle.toNat ||| 2)

/-- A descriptor of the data stage, before it is linked. -/
def dataTd (pid : BitVec 2) (toggle : UInt8) (address length : UInt64) : TdDescriptor where
  bufferRounding := 1
  dirPid := pid
  delayInterrupt := tdNoDelay
  dataToggle := tdToggle toggle
  errorCount := 0
  conditionCode := tdTobeProcessed
  currBufferPointer := address.toUInt32
  nextTd := 0
  bufferEndPointer := (address + length - 1).toUInt32
  nextTdPointer := 0
  dataBuffer := address.toUInt32
  actualSendLength := length.toUInt32

def actualSendLength (maxPacketLength : UInt8) (leftLength : UInt64) : UInt64 :=
  if leftLength > maxPacketLength.toUInt64 then maxPacketLength.toUInt64 else leftLength

/-- Where the loop stops: the chain so far, the toggle, and the answers of the pool that
are left. -/
structure DataStage where
  status : EfiStatus
  mem : Descriptors
  head : UInt32
  toggle : UInt8
  answers : List (Option UInt32)

/-- One round: the descriptor is filled in and becomes the head, or is linked to it. -/
def placeTd (mem : Descriptors) (head : UInt32) (firstTd : Bool) (td : UInt32)
    (contents : TdDescriptor) : UInt32 × Descriptors :=
  let mem := mem.setTd td contents
  if firstTd then (td, mem) else (head, ohciLinkTd mem head td)

/-- `while (LeftLength > 0)`. The answers of the pool bound the rounds. -/
def dataStage (pid : BitVec 2) (maxPacketLength : UInt8) :
    List (Option UInt32) → Descriptors → UInt32 → Bool → UInt8 → UInt64 → UInt64 → DataStage
  | [], mem, head, _, toggle, _, leftLength =>
    if leftLength = 0 then ⟨EfiStatus.success, mem, head, toggle, []⟩
    else ⟨EfiStatus.outOfResources, mem, head, toggle, []⟩
  | answer :: answers, mem, head, firstTd, toggle, address, leftLength =>
    if leftLength = 0 then ⟨EfiStatus.success, mem, head, toggle, answer :: answers⟩
    else
      match ohciCreateTd mem answer with
      | none => ⟨EfiStatus.outOfResources, mem, head, toggle, answers⟩
      | some (td, mem) =>
        let length := actualSendLength maxPacketLength leftLength
        let (head, mem) := placeTd mem head firstTd td (dataTd pid toggle address length)
        dataStage pid maxPacketLength answers mem head false (toggle ^^^ 1) (address + length)
          (leftLength - length)

/-! ### What the pool hands out -/

/-- The descriptors handed out before the first allocation that fails. -/
def granted (live : UInt32 → Bool) : List (Option UInt32) → List UInt32
  | [] => []
  | none :: _ => []
  | some td :: answers =>
    if Available live td then td :: granted (Function.update live td true) answers else []

/-- A supply of descriptors that are free, each once. -/
def Fresh (live : UInt32 → Bool) (cells : List UInt32) : Prop :=
  cells.Nodup ∧ ∀ cell ∈ cells, Available live cell

variable {live : UInt32 → Bool} {cells old : List UInt32} {toggle maxPacketLength : UInt8}
  {leftLength address : UInt64} {head : UInt32} {mem : Descriptors} {pid : BitVec 2}
  {answers : List (Option UInt32)}

/-- What is left of a supply stays free when its first descriptor is handed out. -/
theorem Fresh.tail {cell : UInt32} {others : List UInt32}
    (fresh : Fresh live (cell :: others)) : Fresh (Function.update live cell true) others := by
  obtain ⟨notIn, once⟩ := List.nodup_cons.mp fresh.1
  refine ⟨once, fun other member => ?_⟩
  have different : other ≠ cell := fun same => notIn (same ▸ member)
  have unused := fresh.2 other (List.mem_cons_of_mem cell member)
  exact ⟨unused.1, unused.2.1, by rw [Function.update_of_ne different]; exact unused.2.2⟩

/-- Handing out the first descriptor and then the others hands out all of them. -/
theorem update_or_mem (live : UInt32 → Bool) (cell : UInt32) (others : List UInt32) :
    (fun pointer => Function.update live cell true pointer || decide (pointer ∈ others)) =
      fun pointer => live pointer || decide (pointer ∈ cell :: others) := by
  funext pointer
  by_cases same : pointer = cell
  · simp [same]
  · simp [same]

theorem Fresh.suffix {before after : List UInt32} (fresh : Fresh live (before ++ after)) :
    Fresh (fun pointer => live pointer || decide (pointer ∈ before)) after := by
  induction before generalizing live with
  | nil => simpa using fresh
  | cons cell others ih =>
    rw [← update_or_mem]
    exact ih fresh.tail

/-- The pool hands out a supply of free descriptors one by one. -/
theorem granted_supply (fresh : Fresh live cells) (rest : List (Option UInt32)) :
    granted live (cells.map some ++ rest) =
      cells ++ granted (fun pointer => live pointer || decide (pointer ∈ cells)) rest := by
  induction cells generalizing live with
  | nil => simp
  | cons cell others ih =>
    rw [List.map_cons, List.cons_append, granted, if_pos (fresh.2 cell List.mem_cons_self),
      ih fresh.tail, update_or_mem]
    rfl

/-! ### What the loop builds -/

/-- The descriptors of a chain hold consecutive packets, in order, with alternating
toggles. -/
def Packets (pid : BitVec 2) (maxPacketLength : UInt8) (mem : Descriptors) :
    List UInt32 → UInt8 → UInt64 → UInt64 → Prop
  | [], _, _, _ => True
  | td :: rest, toggle, address, leftLength =>
    let length := actualSendLength maxPacketLength leftLength
    (mem.td td).unlinked = dataTd pid toggle address length ∧
      Packets pid maxPacketLength mem rest (toggle ^^^ 1) (address + length) (leftLength - length)

/-- The toggle after so many packets. -/
def flips (toggle : UInt8) : Nat → UInt8
  | 0 => toggle
  | count + 1 => flips (toggle ^^^ 1) count

theorem flip_toNat (toggle : UInt8) : (toggle ^^^ 1).toNat % 2 = (toggle.toNat + 1) % 2 := by
  have low : (toggle.toNat ^^^ 1) % 2 = (toggle.toNat % 2) ^^^ 1 :=
    Nat.xor_mod_two_pow (n := 1)
  have bound : toggle.toNat % 2 < 2 := Nat.mod_lt _ (by omega)
  have next : (toggle.toNat + 1) % 2 = (toggle.toNat % 2 + 1) % 2 := by omega
  rw [UInt8.toNat_xor, next]
  change (toggle.toNat ^^^ 1) % 2 = _
  rw [low]
  generalize toggle.toNat % 2 = digit at bound
  interval_cases digit <;> rfl

theorem flip_flip (toggle : UInt8) : toggle ^^^ 1 ^^^ 1 = toggle := by
  rw [UInt8.xor_assoc, UInt8.xor_self, UInt8.xor_zero]

/-- The toggle after so many packets depends on their parity. -/
theorem flips_eq (toggle : UInt8) (count : Nat) :
    flips toggle count = if count % 2 = 0 then toggle else toggle ^^^ 1 := by
  induction count generalizing toggle with
  | zero => rfl
  | succ count ih =>
    rw [flips, ih, flip_flip]
    by_cases even : count % 2 = 0
    · rw [if_pos even, if_neg (by omega)]
    · rw [if_neg even, if_pos (by omega)]

theorem flips_eq_xor (toggle : UInt8) (count : Nat) :
    flips toggle count = toggle ^^^ UInt8.ofNat (count % 2) := by
  rw [flips_eq]
  rcases Nat.mod_two_eq_zero_or_one count with even | odd
  · rw [if_pos even, even]
    exact (UInt8.xor_zero).symm
  · rw [if_neg (by omega), odd]
    rfl

theorem flips_inj {count other : Nat} :
    flips toggle count = flips toggle other ↔ (count + other) % 2 = 0 := by
  have changed : toggle ^^^ 1 ≠ toggle := by
    intro same
    have parity := flip_toNat toggle
    rw [same] at parity
    omega
  rw [flips_eq, flips_eq]
  by_cases even : count % 2 = 0
  · by_cases even' : other % 2 = 0
    · rw [if_pos even, if_pos even']
      exact ⟨fun _ => by omega, fun _ => rfl⟩
    · rw [if_pos even, if_neg even']
      exact ⟨fun same => absurd same.symm changed, fun same => by omega⟩
  · by_cases even' : other % 2 = 0
    · rw [if_neg even, if_pos even']
      exact ⟨fun same => absurd same changed, fun same => by omega⟩
    · rw [if_neg even, if_neg even']
      exact ⟨fun _ => by omega, fun _ => rfl⟩

theorem flips_succ (toggle : UInt8) (count : Nat) :
    flips toggle (count + 1) = flips toggle count ^^^ 1 := by
  rw [flips_eq, flips_eq]
  by_cases even : count % 2 = 0
  · rw [if_pos even, if_neg (by omega)]
  · rw [if_neg even, if_pos (by omega), flip_flip]

/-- The loop runs out of bytes after so many packets. -/
def Exhausts (maxPacketLength : UInt8) (leftLength : UInt64) (count : Nat) : Prop :=
  leftLength.toNat ≤ count * maxPacketLength.toNat ∧
    ∀ fewer < count, fewer * maxPacketLength.toNat < leftLength.toNat

theorem Exhausts.unique {count other : Nat} (first : Exhausts maxPacketLength leftLength count)
    (second : Exhausts maxPacketLength leftLength other) : count = other := by
  rcases Nat.lt_trichotomy count other with less | same | more
  · exact absurd first.1 (Nat.not_le.mpr (second.2 count less))
  · exact same
  · exact absurd second.1 (Nat.not_le.mpr (first.2 other more))

/-- What the loop has done when it stops: `cells` were taken from the pool, linked behind
`old` and filled with packets; nothing else has changed. -/
structure Staged (pid : BitVec 2) (maxPacketLength : UInt8) (mem : Descriptors)
    (old : List UInt32) (toggle : UInt8) (address leftLength : UInt64)
    (answers : List (Option UInt32)) (stage : DataStage) (cells : List UInt32) : Prop where
  fresh : Fresh mem.live cells
  live : ∀ pointer, stage.mem.live pointer = (mem.live pointer || decide (pointer ∈ cells))
  ed : stage.mem.ed = mem.ed
  others : ∀ pointer, pointer ∉ old → pointer ∉ cells → stage.mem.td pointer = mem.td pointer
  kept : ∀ pointer ∈ old, (stage.mem.td pointer).unlinked = (mem.td pointer).unlinked
  chain : TdChain stage.mem stage.head (old ++ cells)
  packets : Packets pid maxPacketLength stage.mem cells toggle address leftLength
  toggle : stage.toggle = flips toggle cells.length
  stopped : (stage.status = EfiStatus.success ∧
      Exhausts maxPacketLength leftLength cells.length ∧
        answers = cells.map some ++ stage.answers) ∨
    (stage.status = EfiStatus.outOfResources ∧ cells = granted mem.live answers ∧
      cells.length * maxPacketLength.toNat < leftLength.toNat)

/-! ### One round -/

/-- What the chain must be for a round: empty, or with a last descriptor. -/
structure Ready (mem : Descriptors) (head : UInt32) (firstTd : Bool) (old : List UInt32) :
    Prop where
  chain : TdChain mem head old
  live : ∀ cell ∈ old, mem.live cell = true
  first : firstTd = true ↔ old = []

theorem Ready.empty (mem : Descriptors) : Ready mem 0 true [] :=
  ⟨⟨rfl, rfl⟩, by simp, by simp⟩

/-- A round has added one descriptor. -/
structure Placed (mem : Descriptors) (old : List UInt32) (td : UInt32) (contents : TdDescriptor)
    (head : UInt32) (after : Descriptors) : Prop where
  ready : Ready after head false (old ++ [td])
  live : after.live = Function.update mem.live td true
  ed : after.ed = mem.ed
  others : ∀ pointer, pointer ∉ old → pointer ≠ td → after.td pointer = mem.td pointer
  kept : ∀ pointer ∈ old, (after.td pointer).unlinked = (mem.td pointer).unlinked
  contents : (after.td td).unlinked = contents.unlinked

theorem placeTd_spec {td : UInt32} {firstTd : Bool} (ready : Ready mem head firstTd old)
    (fresh : Available mem.live td) (contents : TdDescriptor)
    (unlinked : contents.nextTd = 0 ∧ contents.nextTdPointer = 0) :
    let created := (mem.setTd td TdDescriptor.zero).setLive td true
    Placed mem old td contents (placeTd created head firstTd td contents).1
      (placeTd created head firstTd td contents).2 := by
  intro created
  obtain ⟨nonzero, -, unused⟩ := fresh
  have apart : td ∉ old := fun member => by
    rw [ready.live td member] at unused
    cases unused
  have filled (pointer : UInt32) (different : pointer ≠ td) :
      (created.setTd td contents).td pointer = mem.td pointer := by
    rw [Descriptors.setTd_td_ne different, Descriptors.setLive_td,
      Descriptors.setTd_td_ne different]
  have lives : ∀ cell ∈ old ++ [td], (created.setTd td contents).live cell = true := by
    intro cell member
    by_cases same : cell = td
    · simp [created, same]
    · have inOld : cell ∈ old := by simpa [same] using member
      rw [Descriptors.setTd_live, Descriptors.setLive_live_ne same]
      exact ready.live cell inOld
  rcases old.eq_nil_or_concat with empty | ⟨cells, last, full⟩
  · subst empty
    rw [placeTd, if_pos (ready.first.mpr rfl)]
    refine ⟨⟨⟨?_, ?_⟩, lives, by simp⟩, rfl, rfl,
      fun pointer _ different => filled pointer different,
      by simp, by simp⟩
    · exact ⟨rfl, nonzero, by simp [nextTd, unlinked.1, Segment]⟩
    · exact ⟨rfl, nonzero, by simp [nextTdPointer, unlinked.2, Segment]⟩
  · have notFirst : ¬ firstTd = true := fun first => by
      have none := ready.first.mp first
      rw [full] at none
      simp at none
    rw [List.concat_eq_append] at full
    subst full
    rw [placeTd, if_neg notFirst]
    have chain : TdChain (created.setTd td contents) head (cells ++ [last]) :=
      ready.chain.congr fun cell member => filled cell fun same => apart (same ▸ member)
    have linked := chain.link apart nonzero (by simp [nextTd, nextTdPointer, unlinked])
    have result := ohciLinkTd_eq chain apart
    have lastNot : td ≠ last := by
      rintro rfl
      exact apart (List.mem_append_right cells (List.mem_singleton_self td))
    refine ⟨⟨linked, ?_, by simp⟩, ?_, ?_, ?_, ?_, ?_⟩
    · rw [result]
      exact lives
    · rw [result]
      rfl
    · rw [result]
      rfl
    · intro pointer outside different
      have notLast : pointer ≠ last := by
        rintro rfl
        exact outside (List.mem_append_right cells (List.mem_singleton_self pointer))
      rw [result, Descriptors.setTd_td_ne notLast]
      exact filled pointer different
    · intro pointer member
      have different : pointer ≠ td := fun same => apart (same ▸ member)
      rw [result, ← filled pointer different]
      by_cases same : pointer = last
      · rw [same, Descriptors.setTd_td_same]
        rfl
      · rw [Descriptors.setTd_td_ne same]
    · rw [result, Descriptors.setTd_td_ne lastNot, Descriptors.setTd_td_same]

/-! ### The whole loop -/

theorem packets_congr {mem' : Descriptors}
    (same : ∀ cell ∈ cells, (mem'.td cell).unlinked = (mem.td cell).unlinked)
    (packets : Packets pid maxPacketLength mem cells toggle address leftLength) :
    Packets pid maxPacketLength mem' cells toggle address leftLength := by
  induction cells generalizing toggle address leftLength with
  | nil => trivial
  | cons td rest ih =>
    exact ⟨(same td List.mem_cons_self).trans packets.1,
      ih (fun cell member => same cell (List.mem_cons_of_mem td member)) packets.2⟩

theorem actualSendLength_toNat (maxPacketLength : UInt8) (leftLength : UInt64) :
    (actualSendLength maxPacketLength leftLength).toNat =
      min maxPacketLength.toNat leftLength.toNat := by
  unfold actualSendLength
  split
  · next more =>
    have bound := UInt64.lt_iff_toNat_lt.mp more
    rw [UInt8.toNat_toUInt64] at bound ⊢
    omega
  · next fits =>
    have bound := UInt64.le_iff_toNat_le.mp (UInt64.not_lt.mp fits)
    rw [UInt8.toNat_toUInt64] at bound
    omega

theorem leftLength_toNat (maxPacketLength : UInt8) (leftLength : UInt64) :
    (leftLength - actualSendLength maxPacketLength leftLength).toNat =
      leftLength.toNat - maxPacketLength.toNat := by
  have length := actualSendLength_toNat maxPacketLength leftLength
  have bound := leftLength.toNat_lt
  rw [UInt64.toNat_sub, length]
  omega

/-- The loop stops before its first round. -/
theorem staged_nil (chain : TdChain mem head old) {rest : List (Option UInt32)} {status : EfiStatus}
    (stopped : (status = EfiStatus.success ∧ leftLength = 0 ∧ answers = rest) ∨
      (status = EfiStatus.outOfResources ∧ leftLength ≠ 0 ∧ granted mem.live answers = [])) :
    Staged pid maxPacketLength mem old toggle address leftLength answers
      ⟨status, mem, head, toggle, rest⟩ [] where
  fresh := ⟨List.nodup_nil, by simp⟩
  live := by simp
  ed := rfl
  others := fun _ _ _ => rfl
  kept := fun _ _ => rfl
  chain := by simpa using chain
  packets := trivial
  toggle := rfl
  stopped := by
    rcases stopped with ⟨status, none, same⟩ | ⟨status, some, nothing⟩
    · exact Or.inl ⟨status, by simp [Exhausts, none], same⟩
    · refine Or.inr ⟨status, nothing.symm, ?_⟩
      have positive : leftLength.toNat ≠ 0 := fun zero => some (UInt64.toNat_inj.mp zero)
      simp only [List.length_nil, Nat.zero_mul]
      omega

/-- The rest of the loop, seen from before a round. -/
theorem Staged.cons {after : Descriptors} {td : UInt32} {stage : DataStage}
    (staged : Staged pid maxPacketLength after (old ++ [td]) (toggle ^^^ 1)
      (address + actualSendLength maxPacketLength leftLength)
      (leftLength - actualSendLength maxPacketLength leftLength) answers stage cells)
    (some : leftLength ≠ 0) (fresh : Available mem.live td)
    (placed : Placed mem old td (dataTd pid toggle address
      (actualSendLength maxPacketLength leftLength)) head after) :
    Staged pid maxPacketLength mem old toggle address leftLength (.some td :: answers) stage
      (td :: cells) := by
  have positive : 0 < leftLength.toNat :=
    Nat.pos_of_ne_zero fun zero => some (UInt64.toNat_inj.mp zero)
  have before (cell : UInt32) (member : cell ∈ cells) : cell ≠ td ∧ Available mem.live cell := by
    have free := staged.fresh.2 cell member
    have different : cell ≠ td := by
      rintro rfl
      have unused := free.2.2
      rw [placed.live, Function.update_self] at unused
      cases unused
    refine ⟨different, free.1, free.2.1, ?_⟩
    rw [← free.2.2, placed.live, Function.update_of_ne different]
  have left := leftLength_toNat maxPacketLength leftLength
  refine ⟨⟨?_, ?_⟩, ?_, staged.ed.trans placed.ed, ?_, ?_, ?_, ⟨?_, staged.packets⟩, ?_, ?_⟩
  · exact List.nodup_cons.mpr ⟨fun member => (before td member).1 rfl, staged.fresh.1⟩
  · exact List.forall_mem_cons.mpr ⟨fresh, fun cell member => (before cell member).2⟩
  · intro pointer
    rw [staged.live, placed.live]
    by_cases same : pointer = td
    · simp [same]
    · simp [same]
  · intro pointer outside notCell
    rw [List.mem_cons, not_or] at notCell
    obtain ⟨notTd, notRest⟩ := notCell
    rw [staged.others pointer (by simp [outside, notTd]) notRest]
    exact placed.others pointer outside notTd
  · intro pointer member
    rw [staged.kept pointer (List.mem_append_left [td] member)]
    exact placed.kept pointer member
  · have chain := staged.chain
    rwa [List.append_assoc, List.singleton_append] at chain
  · rw [staged.kept td (by simp), placed.contents]
    rfl
  · exact staged.toggle
  · rcases staged.stopped with ⟨status, exhausts, same⟩ | ⟨status, all, more⟩
    · refine Or.inl ⟨status, ⟨?_, ?_⟩, by rw [same]; rfl⟩
      · have enough := exhausts.1
        rw [left] at enough
        rw [List.length_cons, Nat.succ_mul]
        omega
      · intro fewer less
        cases fewer with
        | zero => simpa using positive
        | succ fewer =>
          have short := exhausts.2 fewer (by simpa using less)
          rw [left] at short
          rw [Nat.succ_mul]
          omega
    · refine Or.inr ⟨status, ?_, ?_⟩
      · rw [granted, if_pos fresh, all, placed.live]
      · rw [left] at more
        rw [List.length_cons, Nat.succ_mul]
        omega

theorem dataStage_spec (pid : BitVec 2) (maxPacketLength : UInt8) {firstTd : Bool}
    (ready : Ready mem head firstTd old) (toggle : UInt8) (address leftLength : UInt64)
    (answers : List (Option UInt32)) :
    ∃ cells, Staged pid maxPacketLength mem old toggle address leftLength answers
      (dataStage pid maxPacketLength answers mem head firstTd toggle address leftLength) cells := by
  induction answers generalizing mem head firstTd old toggle address leftLength with
  | nil =>
    rw [dataStage]
    split
    · next none => exact ⟨[], staged_nil ready.chain (Or.inl ⟨rfl, none, rfl⟩)⟩
    · next some => exact ⟨[], staged_nil ready.chain (Or.inr ⟨rfl, some, rfl⟩)⟩
  | cons answer answers ih =>
    rw [dataStage]
    by_cases none : leftLength = 0
    · rw [if_pos none]
      exact ⟨[], staged_nil ready.chain (Or.inl ⟨rfl, none, rfl⟩)⟩
    rw [if_neg none]
    cases answer with
    | none => exact ⟨[], staged_nil ready.chain (Or.inr ⟨rfl, none, rfl⟩)⟩
    | some td =>
      by_cases fresh : Available mem.live td
      · simp only [ohciCreateTd, if_pos fresh]
        have placed := placeTd_spec ready fresh (dataTd pid toggle address
          (actualSendLength maxPacketLength leftLength)) ⟨rfl, rfl⟩
        obtain ⟨cells, staged⟩ := ih placed.ready (toggle ^^^ 1)
          (address + actualSendLength maxPacketLength leftLength)
          (leftLength - actualSendLength maxPacketLength leftLength)
        exact ⟨td :: cells, staged.cons none fresh placed⟩
      · simp only [ohciCreateTd, if_neg fresh]
        exact ⟨[], staged_nil ready.chain (Or.inr ⟨rfl, none, by simp [granted, fresh]⟩)⟩

end MuRockchip.Ohci
