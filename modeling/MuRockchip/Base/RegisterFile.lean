/-
Files of registers with write masks.

A setting is a field of one of the registers. Several settings share a register, and what is
written to it names in its high half the bits that it is about, so a write about one setting
leaves the others alone.

* `Setting.read_named`, `Setting.read_unnamed`: what a write does to a setting.
-/
import Mathlib.Data.List.Basic
import Mathlib.Logic.Function.Basic
import MuRockchip.Base.Fields

namespace MuRockchip.Base

/-! ### Settings -/

/-- The contents of the registers, by their addresses. -/
abbrev RegisterFile := Nat → UInt32

def maskedWrite (regs : RegisterFile) (address : Nat) (value : UInt32) : RegisterFile :=
  Function.update regs address (hiwordWrite (regs address) value)

/-- A field in the low half of a register. -/
structure Setting where
  address : Nat
  start : Nat
  width : Nat
  low : start + width ≤ 16

def Setting.read (setting : Setting) (regs : RegisterFile) : Nat :=
  field (regs setting.address) setting.start setting.width

/-- The write names every bit of the setting. -/
def Setting.Named (setting : Setting) (value : UInt32) : Prop :=
  field value (16 + setting.start) setting.width = 2 ^ setting.width - 1

/-- The write names no bit of the setting. -/
def Setting.Unnamed (setting : Setting) (value : UInt32) : Prop :=
  field value (16 + setting.start) setting.width = 0

section

variable {regs other : RegisterFile} {setting : Setting} {address : Nat} {value : UInt32}

theorem maskedWrite_same :
    maskedWrite regs address value address = hiwordWrite (regs address) value :=
  Function.update_self address _ regs

theorem maskedWrite_other {elsewhere : Nat} (apart : elsewhere ≠ address) :
    maskedWrite regs address value elsewhere = regs elsewhere :=
  Function.update_of_ne apart _ regs

theorem Setting.read_congr (same : other setting.address = regs setting.address) :
    setting.read other = setting.read regs := by
  rw [Setting.read, Setting.read, same]

theorem Setting.read_named (named : setting.Named value) :
    setting.read (maskedWrite regs setting.address value) =
      field value setting.start setting.width := by
  rw [Setting.read, maskedWrite_same]
  exact field_hiwordWrite_named _ setting.low named

theorem Setting.read_unnamed (unnamed : address = setting.address → setting.Unnamed value) :
    setting.read (maskedWrite regs address value) = setting.read regs := by
  by_cases here : address = setting.address
  · subst here
    rw [Setting.read, maskedWrite_same]
    exact field_hiwordWrite_unnamed _ setting.low (unnamed rfl)
  · exact Setting.read_congr (maskedWrite_other (Ne.symm here))

end

end MuRockchip.Base
