/-
Messages in shared memory (`optee_msg.h`).

The client and the secure world exchange `struct optee_msg_arg` as bytes: eight 32-bit
words, then the parameters, each four 64-bit words.

* `MsgArg.load_of_bytes`: a message is loaded from memory that holds its bytes.
* `MsgArg.load_write`, `MsgArg.load_write_ret`: what a store leaves of a message.
-/
import MuRockchip.Base.Records
import MuRockchip.Optee.MsgCodec

namespace MuRockchip.Optee

open MuRockchip.Base

variable {slots : Nat}

/-- `sizeof (struct optee_msg_param)`. -/
def msgParamSize : Nat := 32

def opteeMsgGetArgSize (slots : Nat) : UInt64 := UInt64.ofNat (32 + msgParamSize * slots)

/-! ### Parameters -/

namespace MsgParam

/-- The words of a parameter in memory. -/
def words (param : MsgParam) : List UInt64 := [param.attr, param.word0, param.word1, param.word2]

def bytes (param : MsgParam) : List UInt8 := bytesOfUInt64s param.words

/-- Read a parameter field by field. -/
def load (memory : Memory) (address : UInt64) : MsgParam where
  attr := loadUInt64 memory address
  word0 := loadUInt64 memory (address + UInt64.ofNat 8)
  word1 := loadUInt64 memory (address + UInt64.ofNat 16)
  word2 := loadUInt64 memory (address + UInt64.ofNat 24)

@[simp]
theorem bytes_length (param : MsgParam) : param.bytes.length = msgParamSize :=
  bytesOfUInt64s_length _

theorem load_of_bytes {memory : Memory} {address : UInt64} {param : MsgParam}
    (held : memory.read address msgParamSize = param.bytes) : load memory address = param := by
  have record : memory.read address (bytesOfUInt64s param.words).length =
      bytesOfUInt64s param.words := by
    rw [bytesOfUInt64s_length]
    exact held
  have word (index : Nat) (inside : index < 4) :
      loadUInt64 memory (address + UInt64.ofNat (8 * index)) = param.words[index] :=
    loadUInt64_item record index inside
  have attr := word 0 (by omega)
  rw [show address + UInt64.ofNat (8 * 0) = address from UInt64.add_zero address] at attr
  calc load memory address
      = ⟨loadUInt64 memory address, loadUInt64 memory (address + UInt64.ofNat (8 * 1)),
          loadUInt64 memory (address + UInt64.ofNat (8 * 2)),
          loadUInt64 memory (address + UInt64.ofNat (8 * 3))⟩ := rfl
    _ = param := by
      rw [attr, word 1 (by omega), word 2 (by omega), word 3 (by omega)]
      rfl

/-- Loading a parameter depends on its own bytes only. -/
theorem load_congr {left right : Memory} {address other : UInt64}
    (agree : left.read address msgParamSize = right.read other msgParamSize) :
    load left address = load right other := by
  have part (offset : Nat) (inside : offset + 8 ≤ msgParamSize) :
      loadUInt64 left (address + UInt64.ofNat offset) =
        loadUInt64 right (other + UInt64.ofNat offset) := by
    rw [loadUInt64, loadUInt64, Memory.read_slice left address inside,
      Memory.read_slice right other inside, agree]
  have first := part 0 (by decide)
  rw [show address + UInt64.ofNat 0 = address from UInt64.add_zero address,
    show other + UInt64.ofNat 0 = other from UInt64.add_zero other] at first
  simp only [load, first, part 8 (by decide), part 16 (by decide), part 24 (by decide)]

/-- The second word of a parameter is set. -/
theorem load_write_word1 {address : UInt64} (room : address.toNat + msgParamSize ≤ 2 ^ 64)
    (memory : Memory) (word1 : UInt64) :
    load (memory.write (address + UInt64.ofNat 16) (leBytes 8 word1.toNat)) address =
      { load memory address with word1 := word1 } := by
  have kept (offset : Nat) (inside : offset + 8 ≤ 32) (apart : offset + 8 ≤ 16 ∨ 24 ≤ offset) :
      loadUInt64 (memory.write (address + UInt64.ofNat 16) (leBytes 8 word1.toNat))
        (address + UInt64.ofNat offset) = loadUInt64 memory (address + UInt64.ofNat offset) := by
    rw [loadUInt64, loadUInt64, Memory.read_write_part memory room inside
      (by rw [leBytes_length]; decide) (by rw [leBytes_length]; omega)]
  have attr := kept 0 (by omega) (by omega)
  rw [show address + UInt64.ofNat 0 = address from UInt64.add_zero address] at attr
  have stored := Memory.read_write_same memory (address + UInt64.ofNat 16)
    (leBytes 8 word1.toNat) (by rw [leBytes_length]; omega)
  rw [leBytes_length] at stored
  simp only [load, attr, kept 8 (by omega) (by omega), kept 24 (by omega) (by omega),
    loadUInt64_of_read stored]

end MsgParam

/-! ### Messages -/

/-- The address of a parameter of the message at an address. -/
def paramAddress (address : UInt64) (index : Nat) : UInt64 :=
  address + UInt64.ofNat 32 + UInt64.ofNat (msgParamSize * index)

/-- The address of `ret` in the message at an address. -/
def retAddress (address : UInt64) : UInt64 := address + UInt64.ofNat 20

/-- The address of `ret_origin` in the message at an address. -/
def retOriginAddress (address : UInt64) : UInt64 := address + UInt64.ofNat 24

theorem paramAddress_eq (address : UInt64) (index : Nat) :
    paramAddress address index = address + UInt64.ofNat (32 + msgParamSize * index) := by
  rw [paramAddress, UInt64.add_assoc, ← UInt64.ofNat_add]

namespace MsgArg

/-- The words of the header of a message. The client leaves `cancel_id` and `pad` zero. -/
def headerWords (msgArg : MsgArg slots) : List UInt32 :=
  [msgArg.cmd, msgArg.func, msgArg.session, 0, 0, msgArg.ret, msgArg.retOrigin, msgArg.numParams]

/-- The bytes of a message. -/
def bytes (msgArg : MsgArg slots) : List UInt8 :=
  bytesOfUInt32s msgArg.headerWords ++ msgArg.params.toList.flatMap MsgParam.bytes

/-- Read a message field by field. -/
def load (slots : Nat) (memory : Memory) (address : UInt64) : MsgArg slots where
  cmd := loadUInt32 memory address
  func := loadUInt32 memory (address + UInt64.ofNat 4)
  session := loadUInt32 memory (address + UInt64.ofNat 8)
  ret := loadUInt32 memory (retAddress address)
  retOrigin := loadUInt32 memory (retOriginAddress address)
  numParams := loadUInt32 memory (address + UInt64.ofNat 28)
  params := Vector.ofFn fun index => MsgParam.load memory (paramAddress address index)

theorem header_length (msgArg : MsgArg slots) : (bytesOfUInt32s msgArg.headerWords).length = 32 :=
  bytesOfUInt32s_length _

theorem bytes_length (msgArg : MsgArg slots) :
    msgArg.bytes.length = 32 + msgParamSize * slots := by
  simp [bytes, header_length, List.length_flatMap, Nat.mul_comm]

theorem load_of_bytes {memory : Memory} {address : UInt64} {msgArg : MsgArg slots}
    (held : memory.read address (32 + msgParamSize * slots) = msgArg.bytes) :
    load slots memory address = msgArg := by
  have split := Memory.read_append memory address 32 (msgParamSize * slots)
  rw [held, bytes] at split
  obtain ⟨header, params⟩ := List.append_inj split.symm (by simp [header_length])
  rw [← msgArg.header_length] at header
  have word (index : Nat) (inside : index < 8) :
      loadUInt32 memory (address + UInt64.ofNat (4 * index)) = msgArg.headerWords[index] :=
    loadUInt32_item header index inside
  have cmd := word 0 (by omega)
  rw [show address + UInt64.ofNat (4 * 0) = address from UInt64.add_zero address] at cmd
  have slot (index : Nat) (inside : index < slots) :
      MsgParam.load memory (paramAddress address index) = msgArg.params[index] := by
    refine MsgParam.load_of_bytes ?_
    have size : (msgArg.params.toList.flatMap MsgParam.bytes).length = msgParamSize * slots := by
      simp [List.length_flatMap, Nat.mul_comm]
    rw [← size] at params
    have item := Memory.read_item MsgParam.bytes_length params index (by simpa using inside)
    rwa [Vector.getElem_toList] at item
  have loaded : (load slots memory address).params = msgArg.params := by
    ext index inside : 1
    rw [load, Vector.getElem_ofFn, slot index inside]
  calc load slots memory address
      = ⟨loadUInt32 memory address, loadUInt32 memory (address + UInt64.ofNat (4 * 1)),
          loadUInt32 memory (address + UInt64.ofNat (4 * 2)),
          loadUInt32 memory (address + UInt64.ofNat (4 * 5)),
          loadUInt32 memory (address + UInt64.ofNat (4 * 6)),
          loadUInt32 memory (address + UInt64.ofNat (4 * 7)),
          (load slots memory address).params⟩ := rfl
    _ = msgArg := by
      rw [cmd, word 1 (by omega), word 2 (by omega), word 5 (by omega), word 6 (by omega),
        word 7 (by omega), loaded]
      rfl

/-- Storing a message and loading it again gives the message. -/
theorem load_write (memory : Memory) (address : UInt64) (msgArg : MsgArg slots)
    (fits : 32 + msgParamSize * slots ≤ 2 ^ 64) :
    load slots (memory.write address msgArg.bytes) address = msgArg := by
  have stored := Memory.read_write_same memory address msgArg.bytes
    (by rw [bytes_length]; exact fits)
  rw [bytes_length] at stored
  exact load_of_bytes stored

/-! ### Stores to single fields -/

section

variable {address : UInt64} (room : address.toNat + (32 + msgParamSize * slots) ≤ 2 ^ 64)
  (memory : Memory)

include room

/-- A header word is not changed by a store elsewhere in the message. -/
theorem loadUInt32_kept {place offset : Nat} {bytes : List UInt8} (header : offset + 4 ≤ 32)
    (placed : place + bytes.length ≤ 32 + msgParamSize * slots)
    (apart : offset + 4 ≤ place ∨ place + bytes.length ≤ offset) :
    loadUInt32 (memory.write (address + UInt64.ofNat place) bytes) (address + UInt64.ofNat offset) =
      loadUInt32 memory (address + UInt64.ofNat offset) := by
  rw [loadUInt32, loadUInt32, Memory.read_write_part memory room (by omega) placed apart]

/-- A parameter is not changed by a store elsewhere in the message. -/
theorem loadParam_kept (index : Nat) {place : Nat} {bytes : List UInt8} (inside : index < slots)
    (placed : place + bytes.length ≤ 32 + msgParamSize * slots)
    (apart : 32 + msgParamSize * (index + 1) ≤ place ∨
      place + bytes.length ≤ 32 + msgParamSize * index) :
    MsgParam.load (memory.write (address + UInt64.ofNat place) bytes) (paramAddress address index) =
      MsgParam.load memory (paramAddress address index) := by
  have below := Nat.mul_le_mul_left msgParamSize (Nat.succ_le_of_lt inside)
  rw [Nat.mul_succ] at below
  rw [Nat.mul_succ] at apart
  rw [paramAddress_eq]
  exact MsgParam.load_congr (Memory.read_write_part memory room (by omega) placed (by omega))

theorem loadUInt32_write_header (word other : Nat) (inside : word < 8) (header : other < 8)
    (value : UInt32) :
    loadUInt32 (memory.write (address + UInt64.ofNat (4 * word)) (leBytes 4 value.toNat))
        (address + UInt64.ofNat (4 * other)) =
      if other = word then value else loadUInt32 memory (address + UInt64.ofNat (4 * other)) := by
  split
  · next same =>
    have stored := Memory.read_write_same memory (address + UInt64.ofNat (4 * word))
      (leBytes 4 value.toNat) (by rw [leBytes_length]; omega)
    rw [leBytes_length] at stored
    rw [same]
    exact loadUInt32_of_read stored
  · exact loadUInt32_kept room memory (by omega) (by rw [leBytes_length]; omega)
      (by rw [leBytes_length]; omega)

theorem loadParam_write_header (word : Nat) (inside : word < 8) (value : UInt32)
    (index : Fin slots) :
    MsgParam.load (memory.write (address + UInt64.ofNat (4 * word)) (leBytes 4 value.toNat))
        (paramAddress address index) =
      MsgParam.load memory (paramAddress address index) :=
  loadParam_kept room memory index.val index.isLt (by rw [leBytes_length]; omega)
    (Or.inr (by rw [leBytes_length]; omega))

/-- `MsgArg->ret` is set. -/
theorem load_write_ret (ret : UInt32) :
    load slots (memory.write (retAddress address) (leBytes 4 ret.toNat)) address =
      { load slots memory address with ret := ret } := by
  have word (other : Nat) (header : other < 8) :=
    loadUInt32_write_header room memory 5 other (by omega) header ret
  have params (index : Fin slots) := loadParam_write_header room memory 5 (by omega) ret index
  have cmd := word 0 (by omega)
  rw [show address + UInt64.ofNat (4 * 0) = address from UInt64.add_zero address] at cmd
  simp only [load, retAddress, retOriginAddress, cmd, word 1 (by omega), word 2 (by omega),
    word 5 (by omega), word 6 (by omega), word 7 (by omega), params]
  rfl

/-- `MsgArg->ret_origin` is set. -/
theorem load_write_retOrigin (retOrigin : UInt32) :
    load slots (memory.write (retOriginAddress address) (leBytes 4 retOrigin.toNat)) address =
      { load slots memory address with retOrigin := retOrigin } := by
  have word (other : Nat) (header : other < 8) :=
    loadUInt32_write_header room memory 6 other (by omega) header retOrigin
  have params (index : Fin slots) :=
    loadParam_write_header room memory 6 (by omega) retOrigin index
  have cmd := word 0 (by omega)
  rw [show address + UInt64.ofNat (4 * 0) = address from UInt64.add_zero address] at cmd
  simp only [load, retAddress, retOriginAddress, cmd, word 1 (by omega), word 2 (by omega),
    word 5 (by omega), word 6 (by omega), word 7 (by omega), params]
  rfl

/-- Some bytes of one parameter are set, and the others are kept. -/
theorem load_write_param {index : Nat} (inside : index < slots) {place : Nat} {bytes : List UInt8}
    (part : place + bytes.length ≤ msgParamSize) :
    load slots (memory.write (paramAddress address index + UInt64.ofNat place) bytes) address =
      { load slots memory address with
        params := (load slots memory address).params.set index
          (MsgParam.load (memory.write (paramAddress address index + UInt64.ofNat place) bytes)
            (paramAddress address index)) } := by
  have below := Nat.mul_le_mul_left msgParamSize (Nat.succ_le_of_lt inside)
  rw [Nat.mul_succ] at below
  have target : paramAddress address index + UInt64.ofNat place =
      address + UInt64.ofNat (32 + msgParamSize * index + place) := by
    rw [paramAddress_eq, UInt64.add_assoc, ← UInt64.ofNat_add]
  have word (other : Nat) (header : other < 8) :
      loadUInt32 (memory.write (paramAddress address index + UInt64.ofNat place) bytes)
          (address + UInt64.ofNat (4 * other)) =
        loadUInt32 memory (address + UInt64.ofNat (4 * other)) := by
    rw [target]
    exact loadUInt32_kept room memory (by omega) (by omega) (by omega)
  have cmd := word 0 (by omega)
  rw [show address + UInt64.ofNat (4 * 0) = address from UInt64.add_zero address] at cmd
  have params : (load slots (memory.write (paramAddress address index + UInt64.ofNat place) bytes)
      address).params = (load slots memory address).params.set index
        (MsgParam.load (memory.write (paramAddress address index + UInt64.ofNat place) bytes)
          (paramAddress address index)) := by
    ext other bound : 1
    rw [Vector.getElem_set, load, Vector.getElem_ofFn]
    split
    · next same => rw [same]
    · next different =>
      rw [load, Vector.getElem_ofFn, target]
      refine loadParam_kept room memory other bound (by omega) ?_
      rcases Nat.lt_or_gt_of_ne different with before | after
      · have step := Nat.mul_le_mul_left msgParamSize (Nat.succ_le_of_lt before)
        rw [Nat.mul_succ] at step
        exact Or.inr (by omega)
      · have step := Nat.mul_le_mul_left msgParamSize (Nat.succ_le_of_lt after)
        exact Or.inl (Nat.le_trans (Nat.add_le_add_left step 32) (by omega))
  calc load slots (memory.write (paramAddress address index + UInt64.ofNat place) bytes) address
      = ⟨loadUInt32 (memory.write (paramAddress address index + UInt64.ofNat place) bytes) address,
          loadUInt32 (memory.write (paramAddress address index + UInt64.ofNat place) bytes)
            (address + UInt64.ofNat (4 * 1)),
          loadUInt32 (memory.write (paramAddress address index + UInt64.ofNat place) bytes)
            (address + UInt64.ofNat (4 * 2)),
          loadUInt32 (memory.write (paramAddress address index + UInt64.ofNat place) bytes)
            (address + UInt64.ofNat (4 * 5)),
          loadUInt32 (memory.write (paramAddress address index + UInt64.ofNat place) bytes)
            (address + UInt64.ofNat (4 * 6)),
          loadUInt32 (memory.write (paramAddress address index + UInt64.ofNat place) bytes)
            (address + UInt64.ofNat (4 * 7)),
          (load slots (memory.write (paramAddress address index + UInt64.ofNat place) bytes)
            address).params⟩ := rfl
    _ = _ := by
      rw [cmd, word 1 (by omega), word 2 (by omega), word 5 (by omega), word 6 (by omega),
        word 7 (by omega), params]
      rfl

end

end MsgArg

end MuRockchip.Optee
