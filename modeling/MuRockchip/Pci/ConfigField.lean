/-
Read-modify-write operations on PCI configuration space (`PciSegmentLib.c`).

Every operation exists in three widths, with the same body: it reads the register, combines what it
read with its data, and writes the result back. Over the library stands a machine whose state is
the single bits of configuration space and whose operations change each bit by itself. A run of the
library is a run of that machine, whatever widths and functions its calls mix.

* `RegisterOp.result_bit`: an operation is made of operations on bits.
* `step_bits`: one call, bit by bit.
* `registers_refine`: any run of calls.
-/
import MuRockchip.Base.BitFields
import MuRockchip.Base.Run
import MuRockchip.Pci.ConfigBuffer

namespace MuRockchip.Pci

open Base

/-! ### The library -/

/-- What is left of a word in a register of some width. -/
def PciCfgWidth.truncate : PciCfgWidth → UInt32 → UInt32
  | uint8, value => value.toUInt8.toUInt32
  | uint16, value => value.toUInt16.toUInt32
  | uint32, value => value

/-- `PciSegmentRead8`, `PciSegmentRead16` and `PciSegmentRead32`. -/
def pciSegmentRead (width : PciCfgWidth) (memory : Memory) (address : UInt64) : UInt32 :=
  match width with
  | .uint8 => (pciSegmentRead8 memory address).toUInt32
  | .uint16 => (pciSegmentRead16 memory address).toUInt32
  | .uint32 => pciSegmentRead32 memory address

/-- `PciSegmentWrite8`, `PciSegmentWrite16` and `PciSegmentWrite32`: the value written, and
memory. -/
def pciSegmentWrite (width : PciCfgWidth) (memory : Memory) (address : UInt64) (value : UInt32) :
    UInt32 × Memory :=
  let value := width.truncate value
  (value, (pciSegmentLibWriteWorker memory address width value).1)

section

variable (width : PciCfgWidth) (memory : Memory) (address : UInt64)

/-- `PciSegmentOr8` and its like. -/
def pciSegmentOr (orData : UInt32) : UInt32 × Memory :=
  pciSegmentWrite width memory address (pciSegmentRead width memory address ||| orData)

/-- `PciSegmentAnd8` and its like. -/
def pciSegmentAnd (andData : UInt32) : UInt32 × Memory :=
  pciSegmentWrite width memory address (pciSegmentRead width memory address &&& andData)

/-- `PciSegmentAndThenOr8` and its like. -/
def pciSegmentAndThenOr (andData orData : UInt32) : UInt32 × Memory :=
  pciSegmentWrite width memory address (pciSegmentRead width memory address &&& andData ||| orData)

/-- `PciSegmentBitFieldWrite8` and its like. -/
def pciSegmentBitFieldWrite (field : BitField) (value : UInt32) : UInt32 × Memory :=
  pciSegmentWrite width memory address (field.write (pciSegmentRead width memory address) value)

/-- `PciSegmentBitFieldOr8` and its like. -/
def pciSegmentBitFieldOr (field : BitField) (orData : UInt32) : UInt32 × Memory :=
  pciSegmentWrite width memory address (field.or (pciSegmentRead width memory address) orData)

/-- `PciSegmentBitFieldAnd8` and its like. -/
def pciSegmentBitFieldAnd (field : BitField) (andData : UInt32) : UInt32 × Memory :=
  pciSegmentWrite width memory address (field.and (pciSegmentRead width memory address) andData)

/-- `PciSegmentBitFieldAndThenOr8` and its like. -/
def pciSegmentBitFieldAndThenOr (field : BitField) (andData orData : UInt32) : UInt32 × Memory :=
  pciSegmentWrite width memory address
    (field.andThenOr (pciSegmentRead width memory address) andData orData)

end

/-! ### Calls -/

/-- An operation that writes a register. -/
inductive RegisterOp where
  | write (value : UInt32)
  | or (orData : UInt32)
  | and (andData : UInt32)
  | andThenOr (andData orData : UInt32)
  | fieldWrite (field : BitField) (value : UInt32)
  | fieldOr (field : BitField) (orData : UInt32)
  | fieldAnd (field : BitField) (andData : UInt32)
  | fieldAndThenOr (field : BitField) (andData orData : UInt32)

/-- A call: the function and its register, aligned to the width of the call. -/
structure RegisterCall where
  function : ConfigFunction
  offset : Nat
  width : PciCfgWidth
  aligned : offset % width.bytes = 0
  inside : offset + width.bytes ≤ 4096
  op : RegisterOp

def RegisterCall.perform (call : RegisterCall) (memory : Memory) : UInt32 × Memory :=
  let address := call.function.register call.offset
  match call.op with
  | .write value => pciSegmentWrite call.width memory address value
  | .or orData => pciSegmentOr call.width memory address orData
  | .and andData => pciSegmentAnd call.width memory address andData
  | .andThenOr andData orData => pciSegmentAndThenOr call.width memory address andData orData
  | .fieldWrite field value => pciSegmentBitFieldWrite call.width memory address field value
  | .fieldOr field orData => pciSegmentBitFieldOr call.width memory address field orData
  | .fieldAnd field andData => pciSegmentBitFieldAnd call.width memory address field andData
  | .fieldAndThenOr field andData orData =>
    pciSegmentBitFieldAndThenOr call.width memory address field andData orData

def registerStep (memory : Memory) (call : RegisterCall) : Memory := (call.perform memory).2

/-! ### Bits -/

namespace RegisterOp

/-- What an operation makes of a bit of its register. -/
def bit (position : Nat) (old : Bool) : RegisterOp → Bool
  | write value => wordBit value position
  | or orData => old || wordBit orData position
  | and andData => old && wordBit andData position
  | andThenOr andData orData => old && wordBit andData position || wordBit orData position
  | fieldWrite field value =>
    if field.covers position then wordBit value (position - field.startBit) else old
  | fieldOr field orData =>
    if field.covers position then old || wordBit orData (position - field.startBit) else old
  | fieldAnd field andData =>
    if field.covers position then old && wordBit andData (position - field.startBit) else old
  | fieldAndThenOr field andData orData =>
    if field.covers position then
      old && wordBit andData (position - field.startBit) ||
        wordBit orData (position - field.startBit)
    else old

def result (read : UInt32) : RegisterOp → UInt32
  | write value => value
  | or orData => read ||| orData
  | and andData => read &&& andData
  | andThenOr andData orData => read &&& andData ||| orData
  | fieldWrite field value => field.write read value
  | fieldOr field orData => field.or read orData
  | fieldAnd field andData => field.and read andData
  | fieldAndThenOr field andData orData => field.andThenOr read andData orData

/-- An operation treats every bit by itself. -/
theorem result_bit (op : RegisterOp) (read : UInt32) {position : Nat} (inside : position < 32) :
    wordBit (op.result read) position = op.bit position (wordBit read position) := by
  cases op with
  | write value => rfl
  | or orData => exact wordBit_or ..
  | and andData => exact wordBit_and ..
  | andThenOr andData orData =>
    rw [result, wordBit_or, wordBit_and]
    rfl
  | fieldWrite field value =>
    rw [result, BitField.write, field.wordBit_andThenOr _ _ _ inside, bit]
    split
    · simp [wordBit]
    · rfl
  | fieldOr field orData =>
    rw [result, field.wordBit_fieldOr _ _ inside, bit]
    split
    · next covered => rw [covered, Bool.true_and]
    · next other => rw [Bool.eq_false_iff.mpr other, Bool.false_and, Bool.or_false]
  | fieldAnd field andData =>
    rw [result, field.wordBit_fieldAnd _ _ inside, bit]
    split
    · next covered => rw [covered, Bool.not_true, Bool.false_or]
    · next other => rw [Bool.eq_false_iff.mpr other, Bool.not_false, Bool.true_or, Bool.and_true]
  | fieldAndThenOr field andData orData => exact field.wordBit_andThenOr _ _ _ inside

end RegisterOp

def bitsOf (memory : Memory) (cell : UInt64) (bit : Nat) : Bool := byteBit (memory cell) bit

namespace RegisterCall

variable (call : RegisterCall)

/-- Where the register is. -/
def target : UInt64 := call.function.home + UInt64.ofNat call.offset

/-- The call reads zero, because the register is a base address register that is hidden. -/
def Hidden : Prop :=
  call.width = .uint32 ∧ call.function.OnRootBus ∧ call.function.FirstDevice ∧
    (call.offset / 4 = 4 ∨ call.offset / 4 = 5)

instance : Decidable call.Hidden := inferInstanceAs (Decidable (_ ∧ _))

/-- The call on single bits: each bit of the register becomes what the operation makes of it, or
of zero where the register is hidden. -/
def stepBits (bits : UInt64 → Nat → Bool) (call : RegisterCall) (cell : UInt64) (bit : Nat) :
    Bool :=
  let place := (cell - call.target).toNat
  if call.function.Present ∧ place < call.width.bytes ∧ bit < 8 then
    call.op.bit (8 * place + bit) (!decide call.Hidden && bits cell bit)
  else bits cell bit

/-- Every call writes what its operation makes of what it reads. -/
theorem perform_eq (memory : Memory) :
    call.perform memory = pciSegmentWrite call.width memory (call.function.register call.offset)
      (call.op.result
        (pciSegmentRead call.width memory (call.function.register call.offset))) := by
  unfold perform
  cases call.op <;> rfl

theorem dword_inside : call.offset / 4 < 1024 := by
  have positive := ConfigDword.PciCfgWidth.bytes_pos call.width
  have inside := call.inside
  omega

theorem hidden_iff : call.Hidden ↔
    call.width = .uint32 ∧ (call.function.dword (call.offset / 4) call.dword_inside).HiddenBar := by
  rw [ConfigFunction.dword_hiddenBar]
  rfl

variable {call}

/-- A call whose register is there reads it, or reads zero. -/
theorem read_present (present : call.function.Present) (memory : Memory) :
    (pciSegmentRead call.width memory (call.function.register call.offset)).toNat =
      if call.Hidden then 0 else leValue (memory.read call.target call.width.bytes) := by
  have positive := ConfigDword.PciCfgWidth.bytes_pos call.width
  have inside := call.inside
  have aligned := call.aligned
  have below : call.offset < 4096 := by omega
  have there := (ConfigFunction.dword_present call.function call.dword_inside).mpr present
  have own : call.offset % 4 < 4 := Nat.mod_lt _ (by omega)
  by_cases hidden : call.Hidden
  · rw [if_pos hidden]
    obtain ⟨wide, bar⟩ := call.hidden_iff.mp hidden
    rw [wide] at aligned ⊢
    have zero : call.offset % 4 = 0 := aligned
    have address : call.function.register call.offset = _ := ConfigFunction.register_byte below
    rw [zero, ConfigDword.byte, show UInt64.ofNat 0 = 0 from rfl, UInt64.add_zero] at address
    rw [pciSegmentRead, pciSegmentRead32, address, ConfigDword.read_hidden bar]
    rfl
  · rw [if_neg hidden]
    have shown : call.width = .uint32 → call.offset % 4 = 0 ∧
        ¬ (call.function.dword (call.offset / 4) call.dword_inside).HiddenBar := by
      intro wide
      rw [wide] at aligned
      exact ⟨aligned, fun bar => hidden (call.hidden_iff.mpr ⟨wide, bar⟩)⟩
    have worker : pciSegmentLibReadWorker memory (call.function.register call.offset) call.width =
        mmioRead memory call.target call.width := by
      rw [ConfigFunction.register_byte below, ConfigDword.read_present there own shown,
        ConfigFunction.target_register below]
      rfl
    obtain ⟨value, small⟩ := ConfigDword.mmioRead_value memory call.target call.width
    cases wide : call.width with
    | uint8 =>
      rw [wide] at worker value small
      rw [pciSegmentRead, pciSegmentRead8, worker, UInt8.toNat_toUInt32, UInt32.toNat_toUInt8,
        value]
      exact Nat.mod_eq_of_lt small
    | uint16 =>
      rw [wide] at worker value small
      rw [pciSegmentRead, pciSegmentRead16, worker, UInt16.toNat_toUInt32, UInt32.toNat_toUInt16,
        value]
      exact Nat.mod_eq_of_lt small
    | uint32 =>
      rw [wide] at worker value
      rw [pciSegmentRead, pciSegmentRead32, worker, value]

theorem read_bit (present : call.function.Present) (memory : Memory) {place bit : Nat}
    (inside : place < call.width.bytes) (own : bit < 8) :
    wordBit (pciSegmentRead call.width memory (call.function.register call.offset))
        (8 * place + bit) =
      (!decide call.Hidden && bitsOf memory (call.target + UInt64.ofNat place) bit) := by
  rw [wordBit, read_present present]
  split
  · next hidden => rw [Nat.zero_testBit, decide_eq_true hidden, Bool.not_true, Bool.false_and]
  · next shown =>
    have bits := bitAt_leValue (memory.read call.target call.width.bytes)
      (show place < (memory.read call.target call.width.bytes).length by
        rwa [Memory.read_length]) own
    rw [bits, decide_eq_false shown, Bool.not_false, Bool.true_and, bitsOf]
    simp only [Memory.read, List.getElem_map, List.getElem_range]

end RegisterCall

theorem PciCfgWidth.bytes_le (width : PciCfgWidth) : width.bytes ≤ 4 := by
  cases width <;> decide

/-- The bytes of a word in a register are those of what is left of it. -/
theorem PciCfgWidth.truncate_bytes (width : PciCfgWidth) (value : UInt32) :
    leBytes width.bytes (width.truncate value).toNat = leBytes width.bytes value.toNat := by
  cases width with
  | uint8 => simp [bytes, truncate, leBytes, ← UInt8.toNat_inj]
  | uint16 =>
    have low : value.toNat % 65536 / 256 % 256 = value.toNat / 256 % 256 := by omega
    have first : value.toNat % 65536 % 256 = value.toNat % 256 := by omega
    simp [bytes, truncate, leBytes, ← UInt8.toNat_inj, low, first]
  | uint32 => rfl

theorem step_bits (memory : Memory) (call : RegisterCall) :
    bitsOf (registerStep memory call) = call.stepBits (bitsOf memory) := by
  funext cell bit
  have positive := ConfigDword.PciCfgWidth.bytes_pos call.width
  have narrow := call.width.bytes_le
  have inside := call.inside
  have written : registerStep memory call =
      if call.function.Present then
        memory.write call.target (leBytes call.width.bytes (call.op.result
          (pciSegmentRead call.width memory (call.function.register call.offset))).toNat)
      else memory := by
    rw [registerStep, call.perform_eq, pciSegmentWrite]
    dsimp only
    rw [ConfigFunction.write_register (by omega), PciCfgWidth.truncate_bytes]
    split
    · rfl
    · rfl
  unfold RegisterCall.stepBits
  dsimp only
  rw [written]
  by_cases present : call.function.Present
  · rw [if_pos present, bitsOf, Memory.write]
    by_cases here : (cell - call.target).toNat < call.width.bytes
    · by_cases own : bit < 8
      · rw [if_pos ⟨present, here, own⟩]
        have bits := bitAt_leBytes call.width.bytes (call.op.result
          (pciSegmentRead call.width memory (call.function.register call.offset))).toNat here own
        have back : call.target + UInt64.ofNat (cell - call.target).toNat = cell := by
          rw [UInt64.ofNat_toNat, UInt64.add_comm, UInt64.sub_add_cancel]
        obtain ⟨byte, found, bitEq⟩ := Option.map_eq_some_iff.mp bits
        rw [found, Option.getD_some, bitEq]
        have result := call.op.result_bit
          (pciSegmentRead call.width memory (call.function.register call.offset))
          (show 8 * (cell - call.target).toNat + bit < 32 by omega)
        rw [RegisterCall.read_bit present memory here own, back] at result
        exact result
      · rw [if_neg fun all => own all.2.2]
        have wide (byte : UInt8) : byteBit byte bit = false := by
          refine Nat.testBit_lt_two_pow (Nat.lt_of_lt_of_le byte.toNat_lt ?_)
          exact Nat.pow_le_pow_right (by omega) (Nat.le_of_not_lt own)
        rw [wide, bitsOf, wide]
    · rw [if_neg fun all => here all.2.1, List.getElem?_eq_none, Option.getD_none, bitsOf]
      rw [leBytes_length]
      exact Nat.le_of_not_lt here
  · rw [if_neg present, if_neg fun all => present all.1]

def ReturnsRegister (memory : Memory) (call : RegisterCall) : Prop :=
  call.function.Present → ∀ place < call.width.bytes, ∀ bit < 8,
    wordBit (call.perform memory).1 (8 * place + bit) =
      bitsOf (registerStep memory call) (call.target + UInt64.ofNat place) bit

theorem PciCfgWidth.wordBit_truncate (width : PciCfgWidth) (value : UInt32) {position : Nat}
    (inside : position < 8 * width.bytes) :
    wordBit (width.truncate value) position = wordBit value position := by
  cases width with
  | uint8 =>
    have below : position < 8 := inside
    rw [truncate, wordBit, UInt8.toNat_toUInt32, UInt32.toNat_toUInt8, Nat.testBit_mod_two_pow,
      decide_eq_true below, Bool.true_and]
    rfl
  | uint16 =>
    have below : position < 16 := inside
    rw [truncate, wordBit, UInt16.toNat_toUInt32, UInt32.toNat_toUInt16, Nat.testBit_mod_two_pow,
      decide_eq_true below, Bool.true_and]
    rfl
  | uint32 => rfl

theorem returnsRegister (memory : Memory) (call : RegisterCall) : ReturnsRegister memory call := by
  intro present place here bit own
  have narrow := call.width.bytes_le
  have cell : (call.target + UInt64.ofNat place - call.target).toNat = place := by
    rw [UInt64.add_comm, UInt64.add_sub_cancel, UInt64.toNat_ofNat']
    omega
  rw [step_bits]
  unfold RegisterCall.stepBits
  dsimp only
  rw [cell, if_pos ⟨present, here, own⟩, call.perform_eq, pciSegmentWrite]
  dsimp only
  rw [PciCfgWidth.wordBit_truncate _ _ (by omega), call.op.result_bit _ (by omega),
    RegisterCall.read_bit present memory here own]

/-- For every run of calls, of any widths, on any registers of any functions: memory goes through
the states of the machine of bits, and each call of a register that is there returns the register
as it leaves it. -/
theorem registers_refine (memory : Memory) (calls : List RegisterCall) :
    bitsOf (run registerStep memory calls) =
        run RegisterCall.stepBits (bitsOf memory) calls ∧
      AllSteps registerStep ReturnsRegister memory calls := by
  induction calls generalizing memory with
  | nil => exact ⟨rfl, trivial⟩
  | cons call calls ih =>
    obtain ⟨later, returned⟩ := ih (registerStep memory call)
    rw [step_bits] at later
    exact ⟨later, returnsRegister memory call, returned⟩

/-- Setting the highest bit of a base address register of the root port clears its other bits. -/
example :
    bitsOf (registerStep (fun _ => 4)
      ⟨rootPort, 0x10, .uint32, by decide, by decide, .fieldWrite ⟨31, 31, by decide, by decide⟩ 1⟩)
        (rootPort.home + 0x10) 2 = false := by
  rw [step_bits]
  decide

end MuRockchip.Pci
