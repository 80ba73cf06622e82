/-
The boot order form (`BootMenu.c`).

The form shows the first options of the boot order in a list, in which each has a check box and
may be moved or deleted. An entry of the list is the number of its option plus one, with flags
above it. What comes back is a new order; options it leaves out are taken for deleted.

* `checkedValue_facts`: what is read from an entry of the list.
-/
import Mathlib.Logic.Function.Basic
import MuRockchip.Base.Fields
import MuRockchip.Base.ListEdits
import MuRockchip.Uefi.Status

namespace MuRockchip.Boot

open Base

/-! ### Options -/

def maxBootOptionsSupported : Nat := 6

def loadOptionActive : UInt32 := 0x00000001
def loadOptionHidden : UInt32 := 0x00000008
def loadOptionCategoryApp : UInt32 := 0x00000100

/-- `EFI_BOOT_MANAGER_LOAD_OPTION`, as far as the menu decides by it. -/
structure LoadOption where
  optionNumber : UInt16
  attributes : UInt32
  deriving DecidableEq, Repr

namespace LoadOption

variable (option : LoadOption)

def isActive : Bool := option.attributes &&& loadOptionActive = loadOptionActive

/-- The option is displayed. -/
def isShown : Bool :=
  ¬ (option.attributes &&& loadOptionHidden ≠ 0 ∨ option.attributes &&& loadOptionCategoryApp ≠ 0)

def toggle : LoadOption := { option with attributes := option.attributes ^^^ loadOptionActive }

end LoadOption

/-- `mBootOptionLimit`. -/
def bootOptionLimit (options : List LoadOption) : Nat := min options.length maxBootOptionsSupported

theorem bootOptionLimit_le (options : List LoadOption) : bootOptionLimit options ≤ options.length :=
  Nat.min_le_left _ _

/-! ### The list of the form -/

/-- `ORDERED_LIST_CHECKBOX_VALUE_32`, `ORDERED_LIST_ALLOW_DELETE_VALUE_32` and
`ORDERED_LIST_BOOT_VALUE_32`: flags apart from each other and from `OptionNumber + 1`. -/
structure OrderedListFlags where
  checkbox : UInt32
  allowDelete : UInt32
  boot : UInt32
  checkbox_set : checkbox ≠ 0
  checkbox_high : checkbox &&& 0x1FFFF = 0
  allowDelete_high : allowDelete &&& 0x1FFFF = 0
  boot_high : boot &&& 0x1FFFF = 0
  allowDelete_checkbox : allowDelete &&& checkbox = 0
  checkbox_boot : checkbox &&& boot = 0
  allowDelete_boot : allowDelete &&& boot = 0

section

variable (flags : OrderedListFlags) (isDefault : LoadOption → Bool)

/-- `OptionValue`. `isDefault` is `IsDefaultBootOption`. -/
def optionValue (option : LoadOption) : UInt32 :=
  let optionValue := option.optionNumber.toUInt32 + 1
  let optionValue := if option.isActive then optionValue ||| flags.checkbox else optionValue
  if !isDefault option then optionValue ||| flags.allowDelete else optionValue

/-- `OrderOptions` after `RebuildOrderList`. -/
def rebuildOrderList (options : List LoadOption) : List UInt32 :=
  (List.range maxBootOptionsSupported).map fun index =>
    match (options.take (bootOptionLimit options))[index]? with
    | some option => if option.isShown then optionValue flags isDefault option else 0
    | none => 0

/-- The entry of an option with the check box set by the user. -/
def checkedValue (entry : LoadOption × Bool) : UInt32 :=
  let value := optionValue flags isDefault entry.1 &&& ~~~flags.checkbox
  if entry.2 then value ||| flags.checkbox else value

end

/-! ### What the menu works with -/

/-- The variables of the boot manager. Of `Boot####` only the attributes are kept. -/
structure BootVariables where
  bootOrder : List UInt16
  option : UInt16 → Option UInt32
  bootNext : Option UInt16
  msBootNext : Bool

/-- `EfiBootManagerLoadOptionToVariable`. -/
def BootVariables.write (store : BootVariables) (option : LoadOption) : BootVariables :=
  { store with
    option := Function.update store.option option.optionNumber (some option.attributes) }

/-- What the services answer. Dialogs for deletion are told apart by the index of the option, and
writes of options by the place in the new order. -/
structure MenuAnswers where
  /-- `GetSetting` of the boot order lock. -/
  bootOrderLock : Except ErrorStatus UInt8
  configToBlock : Option ErrorStatus
  allocated : Bool
  /-- `mSWMProtocol` has been found. -/
  swm : Bool
  bootMessageBox : EfiStatus × Bool
  deleteMessageBox : Nat → EfiStatus × Bool
  setBootNext : EfiStatus
  setMsBootNext : EfiStatus
  /-- `EfiBootManagerLoadOptionToVariable` writes the option. -/
  writeOption : Nat → Bool
  /-- `EfiBootManagerDeleteLoadOptionVariable` takes the option out of `BootOrder`. -/
  dropReference : Nat → Bool
  /-- `EfiBootManagerDeleteLoadOptionVariable` deletes the option. -/
  deleteOption : Nat → Bool
  setDeleted : Nat → EfiStatus
  setBootOrder : EfiStatus

/-- The boot order is locked. An error of `GetSetting` does not lock it. -/
def MenuAnswers.locked (answers : MenuAnswers) : Bool :=
  match answers.bootOrderLock with
  | .ok enableBootOrderLock => enableBootOrderLock ≠ 0
  | .error _ => false

/-- What `RouteConfig` returns and leaves behind, and the deletions it asked about: the index of
the option, and whether the answer was `SWM_MB_IDOK`. -/
structure MenuOutcome where
  status : EfiStatus
  store : BootVariables
  dialogs : List (Nat × Bool)

/-- `mBootOptions`, `NewBootOrder` and the variables. -/
structure Draft where
  bootOptions : List LoadOption
  newBootOrder : List UInt16
  store : BootVariables

/-! ### The new order -/

/-- The branch for an entry to be booted at once. -/
def bootNow (answers : MenuAnswers) (thisOption : UInt16) (store : BootVariables) :
    MenuOutcome :=
  let (status, ok) := if answers.swm then answers.bootMessageBox else (EfiStatus.success, false)
  if !ok then ⟨status, store, []⟩
  else if answers.setBootNext.isError then ⟨EfiStatus.success, store, []⟩
  else
    let store := { store with bootNext := some thisOption }
    if answers.setMsBootNext.isError then ⟨EfiStatus.success, store, []⟩
    else ⟨EfiStatus.success, { store with msBootNext := true }, []⟩

/-- The branch for any other entry. The check box is compared with the first displayed option of
the number. -/
def Draft.place (draft : Draft) (thisOption : UInt16) (thisActive write : Bool) : Draft :=
  let draft := { draft with newBootOrder := draft.newBootOrder ++ [thisOption] }
  let found := fun option : LoadOption => option.optionNumber == thisOption
  match (draft.bootOptions.take (bootOptionLimit draft.bootOptions)).find? found with
  | none => draft
  | some option =>
    if option.isActive ≠ thisActive then
      { draft with
        bootOptions := draft.bootOptions.replaceF (replaceKind found LoadOption.toggle)
        store := if write then draft.store.write option.toggle else draft.store }
    else draft

/-- The loop over the entries of the list. An entry to be booted ends it. -/
def takeOrder (flags : OrderedListFlags) (answers : MenuAnswers) :
    List UInt32 → Draft → Except MenuOutcome Draft
  | [], draft => .ok draft
  | value :: rest, draft =>
    if value = 0 then takeOrder flags answers rest draft
    else
      let thisOption := (value - 1).toUInt16
      if value &&& flags.boot ≠ 0 then .error (bootNow answers thisOption draft.store)
      else
        takeOrder flags answers rest
          (draft.place thisOption (value &&& flags.checkbox ≠ 0)
            (answers.writeOption draft.newBootOrder.length))

/-! ### Deletions -/

/-- `OptionNumber` of the displayed options, where `LoadOptionNumberUnassigned` is none. -/
def unassignListed (newBootOrder : List UInt16) (options : List LoadOption) :
    List (Option UInt16) :=
  (options.take (bootOptionLimit options)).map fun option =>
    if option.optionNumber ∈ newBootOrder then none else some option.optionNumber

/-- What is done about the options that are left, with `AllowSetBootorder`. -/
structure Deletion where
  outcome : MenuOutcome
  allowSetBootorder : Bool

/-- An option is deleted, by the library and once more. -/
def BootVariables.delete (store : BootVariables) (answers : MenuAnswers) (index : Nat)
    (number : UInt16) : BootVariables :=
  let gone := answers.deleteOption index ∨ (answers.setDeleted index).isError = false
  { store with
    bootOrder :=
      if answers.dropReference index then store.bootOrder.erase number
      else store.bootOrder
    option := if gone then Function.update store.option number none else store.option }

/-- The user is asked about one option. -/
def Deletion.offer (answers : MenuAnswers) (deletion : Deletion) (index : Nat) (number : UInt16) :
    Deletion :=
  if !answers.swm then deletion
  else
    let (status, ok) := answers.deleteMessageBox index
    let dialogs := deletion.outcome.dialogs ++ [(index, ok)]
    if ok then
      ⟨⟨answers.setDeleted index, deletion.outcome.store.delete answers index number, dialogs⟩,
        true⟩
    else ⟨⟨status, deletion.outcome.store, dialogs⟩, deletion.allowSetBootorder⟩

/-- The loop over the options that are left. -/
def Deletion.offerAll (answers : MenuAnswers) (deletion : Deletion)
    (numbers : List (Option UInt16)) : Deletion :=
  numbers.zipIdx.foldl (fun deletion entry =>
    match entry.1 with
    | none => deletion
    | some number => deletion.offer answers entry.2 number) deletion

/-! ### `RouteConfig` -/

/-- The new order is complete but for the options beyond the list. -/
def finishOrder (answers : MenuAnswers) (draft : Draft) : MenuOutcome :=
  let options := draft.bootOptions
  let newBootOrder := draft.newBootOrder ++
    (options.drop (bootOptionLimit options)).map LoadOption.optionNumber
  let outcome : MenuOutcome := ⟨EfiStatus.success, draft.store, []⟩
  let deletion :=
    if options.length ≠ newBootOrder.length then
      Deletion.offerAll answers ⟨outcome, false⟩ (unassignListed newBootOrder options)
    else ⟨outcome, true⟩
  if deletion.allowSetBootorder then
    if answers.setBootOrder.isError then { deletion.outcome with status := answers.setBootOrder }
    else
      { deletion.outcome with
        status := answers.setBootOrder
        store := { deletion.outcome.store with bootOrder := newBootOrder } }
  else deletion.outcome

/-- `RouteConfig` of `BootOrderConfig`, with `OrderOptions` as `ConfigToBlock` leaves it. -/
def routeBootOrderConfig (flags : OrderedListFlags) (answers : MenuAnswers)
    (options : List LoadOption) (orderOptions : Vector UInt32 maxBootOptionsSupported)
    (store : BootVariables) : MenuOutcome :=
  if answers.locked then ⟨EfiStatus.success, store, []⟩
  else
    match answers.configToBlock with
    | some error => ⟨error.val, store, []⟩
    | none =>
      if !answers.allocated then ⟨EfiStatus.unsupported, store, []⟩
      else
        let shown := orderOptions.toList.take (bootOptionLimit options)
        match takeOrder flags answers shown ⟨options, [], store⟩ with
        | .error outcome => outcome
        | .ok draft => finishOrder answers draft

/-! ### Entries -/

/-- Flags above an option number plus one. -/
theorem successor_and_high (number : UInt16) {mask : UInt32} (high : mask &&& 0x1FFFF = 0) :
    (number.toUInt32 + 1) &&& mask = 0 := by
  have low : number.toUInt32 + 1 = (number.toUInt32 + 1) &&& 0x1FFFF := by
    apply UInt32.toNat_inj.mp
    have bound := number.toNat_lt
    have mod := Nat.and_two_pow_sub_one_eq_mod (number.toUInt32 + 1).toNat 17
    rw [UInt32.toNat_and]
    change _ = _ &&& (2 ^ 17 - 1)
    rw [mod, UInt32.toNat_add]
    simp
    omega
  rw [low, UInt32.and_assoc, UInt32.and_comm 0x1FFFF, high, UInt32.and_zero]

theorem successor_ne_zero (number : UInt16) : number.toUInt32 + 1 ≠ 0 := by
  intro zero
  have value := congrArg UInt32.toNat zero
  have bound := number.toNat_lt
  rw [UInt32.toNat_add] at value
  simp at value
  omega

theorem toUInt16_high {mask : UInt32} (high : mask &&& 0x1FFFF = 0) : mask.toUInt16 = 0 := by
  apply UInt16.toNat_inj.mp
  have low := congrArg UInt32.toNat high
  have mod := Nat.and_two_pow_sub_one_eq_mod mask.toNat 17
  rw [UInt32.toNat_and] at low
  change _ &&& (2 ^ 17 - 1) = 0 at low
  rw [mod] at low
  simp
  omega

/-- A number is read back from below the flags. -/
theorem successor_or_sub_one (number : UInt16) {mask : UInt32} (high : mask &&& 0x1FFFF = 0) :
    ((number.toUInt32 + 1 ||| mask) - 1).toUInt16 = number := by
  have sum : number.toUInt32 + 1 ||| mask = number.toUInt32 + 1 + mask := by
    apply UInt32.toBitVec_inj.mp
    have apart := congrArg UInt32.toBitVec (successor_and_high number high)
    exact (BitVec.add_eq_or_of_and_eq_zero _ _ apart).symm
  rw [sum, UInt32.add_assoc, UInt32.add_comm 1, ← UInt32.add_assoc, UInt32.add_sub_cancel,
    UInt32.toUInt16_add, toUInt16_high high,
    UInt16.toUInt16_toUInt32, UInt16.add_zero]

section

variable (flags : OrderedListFlags) (isDefault : LoadOption → Bool)

def entryFlags (entry : LoadOption × Bool) : UInt32 :=
  (if !isDefault entry.1 then flags.allowDelete else 0) ||| if entry.2 then flags.checkbox else 0

theorem checkedValue_eq (entry : LoadOption × Bool) :
    checkedValue flags isDefault entry =
      (entry.1.optionNumber.toUInt32 + 1) ||| entryFlags flags isDefault entry := by
  have number := and_not_of_apart (successor_and_high entry.1.optionNumber flags.checkbox_high)
  have delete := and_not_of_apart flags.allowDelete_checkbox
  have unchecked : optionValue flags isDefault entry.1 &&& ~~~flags.checkbox =
      entry.1.optionNumber.toUInt32 + 1 |||
        if !isDefault entry.1 then flags.allowDelete else 0 := by
    unfold optionValue
    cases entry.1.isActive <;> cases isDefault entry.1 <;>
      simp [or_and_mask, number, delete]
  rw [checkedValue, unchecked, entryFlags]
  cases entry.2 <;> simp [UInt32.or_assoc]

theorem entryFlags_high (entry : LoadOption × Bool) :
    entryFlags flags isDefault entry &&& 0x1FFFF = 0 := by
  unfold entryFlags
  cases isDefault entry.1 <;> cases entry.2 <;>
    simp [or_and_mask, flags.checkbox_high, flags.allowDelete_high]

/-- What is read from an entry of the list. -/
theorem checkedValue_facts (entry : LoadOption × Bool) :
    let value := checkedValue flags isDefault entry
    value ≠ 0 ∧ value &&& flags.boot = 0 ∧ (value - 1).toUInt16 = entry.1.optionNumber ∧
      decide (value &&& flags.checkbox ≠ 0) = entry.2 := by
  have number := fun (mask : UInt32) (high : mask &&& 0x1FFFF = 0) =>
    successor_and_high entry.1.optionNumber high
  rw [checkedValue_eq]
  refine ⟨?_, ?_, successor_or_sub_one _ (entryFlags_high flags isDefault entry), ?_⟩
  · exact fun zero => successor_ne_zero _ (UInt32.or_eq_zero_iff.mp zero).1
  · unfold entryFlags
    cases isDefault entry.1 <;> cases entry.2 <;>
      simp [or_and_mask, number _ flags.boot_high, flags.checkbox_boot, flags.allowDelete_boot]
  · unfold entryFlags
    cases isDefault entry.1 <;> cases entry.2 <;>
      simp [or_and_mask, number _ flags.checkbox_high, flags.allowDelete_checkbox,
        flags.checkbox_set]

end

end MuRockchip.Boot
