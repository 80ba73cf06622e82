/-
The register convention of secure-world calls (`OpteeRpcCallback`).

The secure world asks for memory through the registers of a monitor call
(`OpteeRpcAlloc`, `OpteeRpcFree`). The request and the reply share registers: the size
comes in where the upper half of the address goes out.

* `opteeRpcCallback_preserved`: the registers every call leaves alone.
* `releasedByCookie`: the cookie of a live block releases the block.
* `rpcAlloc_abi_iff`: when the registers tell the secure world what was allocated.
-/
import MuRockchip.Optee.RpcMemory

namespace MuRockchip.Optee

open MuRockchip.Base

variable {region : SharedRegion}

/-! ### Registers -/

/-- `OPTEE_SMC_RETURN_GET_RPC_FUNC` of `Arg0`. -/
def ArmSmcArgs.rpcFunc (args : ArmSmcArgs) : UInt64 := args.arg0 &&& 0xFFFF

def smcRpcFuncAlloc : UInt64 := 0
def smcRpcFuncFree : UInt64 := 2
def smcRpcFuncForeignIntr : UInt64 := 4
def smcRpcFuncCmd : UInt64 := 5

/-- `OPTEE_SMC_CALL_RETURN_FROM_RPC`. -/
def smcCallReturnFromRpc : UInt64 := 0x32000003

/-- `OpteeRpcCallback`. `command` handles the message at an address. -/
def opteeRpcCallback (shared : SharedMem region) (args : ArmSmcArgs) (allocAnswer : Option Nat)
    (freeAnswer : EfiStatus) (command : UInt64 → SharedMem region → TeecResult × SharedMem region) :
    TeecResult × ArmSmcArgs × SharedMem region :=
  let (teecResult, args, after) : TeecResult × ArmSmcArgs × SharedMem region :=
    if args.rpcFunc = smcRpcFuncAlloc then
      let (teecResult, reply, _, after) := opteeRpcAlloc shared args allocAnswer
      (teecResult, reply, after)
    else if args.rpcFunc = smcRpcFuncFree then
      let (teecResult, after) := opteeRpcFree shared args freeAnswer
      (teecResult, args, after)
    else if args.rpcFunc = smcRpcFuncForeignIntr then (TeecResult.success, args, shared)
    else if args.rpcFunc = smcRpcFuncCmd then
      let (teecResult, after) := command ((args.arg1 <<< 32) ||| low32 args.arg2) shared
      (teecResult, args, after)
    else (TeecResult.errorNotImplemented, args, shared)
  (teecResult, { args with arg0 := smcCallReturnFromRpc }, after)

/-- The address split into two registers is put together again. -/
theorem high32_low32 (address : UInt64) :
    (high32 address <<< 32) ||| low32 (low32 address) = address := by
  have again : low32 (low32 address) = low32 address := by
    rw [low32, low32, UInt64.and_assoc, UInt64.and_self]
  have low : (low32 address).toNat = address.toNat % 2 ^ 32 := by
    rw [low32, UInt64.toNat_and]
    exact Nat.and_two_pow_sub_one_eq_mod _ 32
  have high : (high32 address <<< 32).toNat = (address.toNat / 2 ^ 32) <<< 32 := by
    have bound := address.toNat_lt
    have shift : (32 : UInt64).toNat % 64 = 32 := rfl
    rw [high32, UInt64.toNat_shiftLeft, UInt64.toNat_shiftRight, shift,
      Nat.shiftRight_eq_div_pow, Nat.shiftLeft_eq]
    exact Nat.mod_eq_of_lt (by omega)
  apply UInt64.toNat_inj.mp
  rw [again, UInt64.toNat_or, high, low,
    ← Nat.shiftLeft_add_eq_or_of_lt (Nat.mod_lt _ (by omega)), Nat.shiftLeft_eq]
  omega

/-! ### The register convention -/

/-- The two registers hold an address between them. -/
def registerPair (high low : UInt64) : UInt64 := (high <<< 32) ||| low32 low

/-- Passing the cookie to a later call for `OPTEE_SMC_RPC_FUNC_FREE`, at any time at which
the block is live, releases the block. -/
def ReleasedByCookie (region : SharedRegion) (grant : Grant) (high low : UInt64) : Prop :=
  ∀ (later : SharedMem region) (args : ArmSmcArgs) (allocAnswer : Option Nat)
    (answer : EfiStatus) (command : UInt64 → SharedMem region → TeecResult × SharedMem region),
    grant.LiveIn later → args.rpcFunc = smcRpcFuncFree → args.arg1 = high → args.arg2 = low →
    answer.isError = false →
    (opteeRpcCallback later args allocAnswer answer command).1 = TeecResult.success ∧
      ReleasesOnly later (opteeRpcCallback later args allocAnswer answer command).2.2 grant

/-- The registers the convention declares preserved. -/
structure ArmSmcArgs.Preserves (before after : ArmSmcArgs) : Prop where
  arg3 : after.arg3 = before.arg3
  arg6 : after.arg6 = before.arg6
  arg7 : after.arg7 = before.arg7

/-- What the registers tell the secure world about its request: zero and nothing is
allocated, or the address of a live block with room for the request, which the cookie
releases. -/
def ReplyTells (shared : SharedMem region) (size : UInt64) (reply : ArmSmcArgs)
    (after : SharedMem region) : Prop :=
  (reply.arg1 = 0 ∧ reply.arg2 = 0 ∧ SameBooks shared after) ∨
    ∃ grant, HandsOut shared after size grant ∧
      registerPair reply.arg1 reply.arg2 = grant.pointer ∧
      ReleasedByCookie region grant reply.arg4 reply.arg5

/-- Both halves of an address, as the reply and as the cookie. -/
def ArmSmcArgs.reply (args : ArmSmcArgs) (address : UInt64) : ArmSmcArgs :=
  { args with
    arg1 := high32 address
    arg2 := low32 address
    arg4 := high32 address
    arg5 := low32 address }

variable {args : ArmSmcArgs}

theorem opteeRpcAlloc_zero (zero : args.arg1 = 0) (shared : SharedMem region)
    (answer : Option Nat) :
    opteeRpcAlloc shared args answer =
      (TeecResult.success, args.reply 0, ⟨0, none⟩, shared) := by
  simp [opteeRpcAlloc, zero, ArmSmcArgs.reply]

/-- Where no memory was found, the registers are left as the request filled them. -/
theorem opteeRpcAlloc_registers (nonzero : args.arg1 ≠ 0) (shared : SharedMem region)
    (answer : Option Nat) :
    (opteeRpcAlloc shared args answer).2.1 =
      if (internalMemAlloc shared args.arg1 memByteAlignment answer).1.pointer = 0 then args
      else args.reply (internalMemAlloc shared args.arg1 memByteAlignment answer).1.pointer := by
  by_cases null : (internalMemAlloc shared args.arg1 memByteAlignment answer).1.pointer = 0
  · simp [opteeRpcAlloc, opteeClientMemAlloc, nonzero, null]
  · simp [opteeRpcAlloc, opteeClientMemAlloc, nonzero, null, ArmSmcArgs.reply]

theorem opteeRpcCallback_alloc (func : args.rpcFunc = smcRpcFuncAlloc) (shared : SharedMem region)
    (allocAnswer : Option Nat) (freeAnswer : EfiStatus)
    (command : UInt64 → SharedMem region → TeecResult × SharedMem region) :
    (opteeRpcCallback shared args allocAnswer freeAnswer command).2 =
      ({ (opteeRpcAlloc shared args allocAnswer).2.1 with arg0 := smcCallReturnFromRpc },
        (opteeRpcAlloc shared args allocAnswer).2.2.2) := by
  simp only [opteeRpcCallback, func, if_true]

theorem opteeRpcCallback_free (func : args.rpcFunc = smcRpcFuncFree) (shared : SharedMem region)
    (allocAnswer : Option Nat) (freeAnswer : EfiStatus)
    (command : UInt64 → SharedMem region → TeecResult × SharedMem region) :
    opteeRpcCallback shared args allocAnswer freeAnswer command =
      ((opteeRpcFree shared args freeAnswer).1, { args with arg0 := smcCallReturnFromRpc },
        (opteeRpcFree shared args freeAnswer).2) := by
  have other : smcRpcFuncFree ≠ smcRpcFuncAlloc := by decide
  simp only [opteeRpcCallback, func, if_neg other, if_true]

/-- Whatever the secure world asks for, memory or its release, the registers that hold its
resume information stay as they are. -/
theorem opteeRpcCallback_preserved (shared : SharedMem region) (args : ArmSmcArgs)
    (allocAnswer : Option Nat) (freeAnswer : EfiStatus)
    (command : UInt64 → SharedMem region → TeecResult × SharedMem region) :
    args.Preserves (opteeRpcCallback shared args allocAnswer freeAnswer command).2.1 := by
  have alloc : args.Preserves (opteeRpcAlloc shared args allocAnswer).2.1 := by
    by_cases zero : args.arg1 = 0
    · rw [opteeRpcAlloc_zero zero]
      exact ⟨rfl, rfl, rfl⟩
    · rw [opteeRpcAlloc_registers zero]
      split <;> exact ⟨rfl, rfl, rfl⟩
  by_cases onAlloc : args.rpcFunc = smcRpcFuncAlloc
  · rw [opteeRpcCallback_alloc onAlloc]
    exact ⟨alloc.arg3, alloc.arg6, alloc.arg7⟩
  · by_cases onFree : args.rpcFunc = smcRpcFuncFree
    · rw [opteeRpcCallback_free onFree]
      exact ⟨rfl, rfl, rfl⟩
    · simp only [opteeRpcCallback, if_neg onAlloc, if_neg onFree]
      split
      · exact ⟨rfl, rfl, rfl⟩
      · split
        · exact ⟨rfl, rfl, rfl⟩
        · exact ⟨rfl, rfl, rfl⟩

theorem releasedByCookie (region : SharedRegion) (grant : Grant) :
    ReleasedByCookie region grant (high32 grant.pointer) (low32 grant.pointer) := by
  intro later args allocAnswer answer command live func high low accepted
  obtain ⟨status, released⟩ := live.free accepted
  have freed : opteeRpcFree later args answer =
      (TeecResult.success, (opteeClientMemFree later grant.pointer answer).2) := by
    simp [opteeRpcFree, high, low, high32_low32, status]
  rw [opteeRpcCallback_free func, freed]
  exact ⟨rfl, released⟩

/-- For every request and every answer of the services: the registers tell the secure
world what was allocated exactly when the size is zero, or the request is served by a
block whose size does not wrap; and both calls leave the resume information alone. -/
theorem rpcAlloc_abi_iff (shared : SharedMem region) (args : ArmSmcArgs)
    (func : args.rpcFunc = smcRpcFuncAlloc) (allocAnswer : Option Nat) (freeAnswer : EfiStatus)
    (command : UInt64 → SharedMem region → TeecResult × SharedMem region) :
    (ReplyTells shared args.arg1
        (opteeRpcCallback shared args allocAnswer freeAnswer command).2.1
        (opteeRpcCallback shared args allocAnswer freeAnswer command).2.2 ↔
      args.arg1 = 0 ∨
        (Served shared args.arg1 memByteAlignment allocAnswer ∧ FitsWord args.arg1)) ∧
      ∀ either : ArmSmcArgs,
        either.rpcFunc = smcRpcFuncAlloc ∨ either.rpcFunc = smcRpcFuncFree →
        either.Preserves (opteeRpcCallback shared either allocAnswer freeAnswer command).2.1 := by
  refine ⟨?_, fun either _ =>
    opteeRpcCallback_preserved shared either allocAnswer freeAnswer command⟩
  rw [opteeRpcCallback_alloc func]
  by_cases zero : args.arg1 = 0
  · refine iff_of_true (Or.inl ?_) (Or.inl zero)
    simp [opteeRpcAlloc_zero zero, ArmSmcArgs.reply, high32, low32, SameBooks]
  · have books : (opteeRpcAlloc shared args allocAnswer).2.2.2 =
        (internalMemAlloc shared args.arg1 memByteAlignment allocAnswer).2 :=
      congrArg Prod.snd (opteeRpcAlloc_nonzero shared args allocAnswer zero)
    simp only [books, opteeRpcAlloc_registers zero, zero, false_or]
    constructor
    · rintro (⟨high, -, same⟩ | ⟨grant, out, -, -⟩)
      · have refused := internalMemAlloc_refused fun block obtains => obtains.not_sameBooks same
        rw [refused, if_pos rfl] at high
        exact absurd high zero
      · exact HandsOut.served out
    · rintro ⟨served, fits⟩
      obtain ⟨grant, nonNull, pointer, out⟩ := internalMemAlloc_handsOut served fits
      rw [pointer, if_neg nonNull]
      refine Or.inr ⟨grant, out, ?_, releasedByCookie region grant⟩
      exact high32_low32 grant.pointer

def sixteenBytes (answer : Option Nat) :
    TeecResult × ArmSmcArgs × SharedMem sampleRegion :=
  opteeRpcCallback (SharedMem.fenced sampleRegion)
    ⟨0xFFFF0000, 16, 0, 7, 0, 0, 8, 9⟩ answer EfiStatus.success
    fun _ shared => (TeecResult.success, shared)

theorem rpcAlloc_abi_iff_sixteen :
    ReplyTells (SharedMem.fenced sampleRegion) 16 (sixteenBytes (some 0x103FD000)).2.1
      (sixteenBytes (some 0x103FD000)).2.2 := by
  have tells := rpcAlloc_abi_iff (SharedMem.fenced sampleRegion)
    ⟨0xFFFF0000, 16, 0, 7, 0, 0, 8, 9⟩ (by decide) (some 0x103FD000) EfiStatus.success
    fun _ shared => (TeecResult.success, shared)
  have served : Served (SharedMem.fenced sampleRegion) 16 memByteAlignment (some 0x103FD000) :=
    ⟨by decide, _, _, Pool.allocate_grantable (by decide), by decide +kernel⟩
  rw [sixteenBytes]
  exact tells.1.mpr (Or.inr ⟨served, by decide⟩)

/-- A request the services refuse leaves its size where the secure world reads the upper
half of an address. -/
theorem refused_request_leaves_size :
    ¬ ReplyTells (SharedMem.fenced sampleRegion) 16 (sixteenBytes none).2.1
      (sixteenBytes none).2.2 := by
  rintro (⟨high, -, -⟩ | ⟨grant, out, -, -⟩)
  · revert high
    decide
  · have longer := congrArg List.length out.allocates.held
    have nothing : (sixteenBytes none).2.2.pool.held.length = 0 := by decide
    rw [List.length_cons, nothing] at longer
    omega

end MuRockchip.Optee
