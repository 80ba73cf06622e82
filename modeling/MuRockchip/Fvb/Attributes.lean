/-
The attributes of the variable volume over any sequence of `SetAttributes` calls.

A call that passes the checks merges the requested status bits into the stored
attributes. The invariant is that the status bits are ones the capability bits
allow; the capability bits are outside the merge, so a step has to look at the
requested status only.

* `replaceBits_inside`, `replaceBits_outside`: the masked merge, seen through a part of
  the mask or past it.
* `setAttributes_keeps`: one call.
* `setAttributes_run`: any sequence of calls.
-/
import MuRockchip.Fvb.Header

namespace MuRockchip.Fvb

open MuRockchip.Base

/-! ### Replacing the bits of a mask -/

section

variable {old wanted mask part : UInt32}

theorem replaceBits_inside (inside : mask &&& part = part) :
    ((old &&& ~~~mask) ||| (wanted &&& mask)) &&& part = wanted &&& part := by
  simp only [← UInt32.toBitVec_inj, BitVec.eq_of_getElem_eq_iff, UInt32.toBitVec_or,
    UInt32.toBitVec_and, UInt32.toBitVec_not, BitVec.getElem_or, BitVec.getElem_and,
    BitVec.getElem_not] at inside ⊢
  intro index bound
  have covered := inside index bound
  cases masked : mask.toBitVec[index]
  · rw [masked, Bool.false_and] at covered
    rw [← covered, Bool.and_false, Bool.and_false]
  · rw [Bool.not_true, Bool.and_false, Bool.false_or, Bool.and_true]

theorem replaceBits_outside (outside : mask &&& part = 0) :
    ((old &&& ~~~mask) ||| (wanted &&& mask)) &&& part = old &&& part := by
  simp only [← UInt32.toBitVec_inj, BitVec.eq_of_getElem_eq_iff, UInt32.toBitVec_or,
    UInt32.toBitVec_and, UInt32.toBitVec_not, BitVec.getElem_or, BitVec.getElem_and,
    BitVec.getElem_not] at outside ⊢
  intro index bound
  have apart := outside index bound
  cases masked : mask.toBitVec[index]
  · rw [Bool.not_false, Bool.and_true, Bool.and_false, Bool.or_false]
  · rw [masked, Bool.true_and, show UInt32.toBitVec 0 = 0#32 from rfl,
      BitVec.getElem_zero] at apart
    rw [apart, Bool.and_false, Bool.and_false]

end

/-! ### What the capabilities allow -/

/-- Reading and writing are enabled or disabled, and the volume is locked, only as
the capability bits allow. -/
structure Permitted (attributes : FvbAttributes2) : Prop where
  readDisabled : attributes &&& fvb2ReadStatus = 0 → attributes &&& fvb2ReadDisabledCap ≠ 0
  readEnabled : attributes &&& fvb2ReadStatus ≠ 0 → attributes &&& fvb2ReadEnabledCap ≠ 0
  writeDisabled : attributes &&& fvb2WriteStatus = 0 → attributes &&& fvb2WriteDisabledCap ≠ 0
  writeEnabled : attributes &&& fvb2WriteStatus ≠ 0 → attributes &&& fvb2WriteEnabledCap ≠ 0
  locked : attributes &&& fvb2LockStatus ≠ 0 → attributes &&& fvb2LockCap ≠ 0

/-- A status bit is one of the bits `SetAttributes` looks at. -/
theorem status_and {part : FvbAttributes2} (inside : fvb2Status &&& part = part)
    (attributes : FvbAttributes2) : attributes &&& fvb2Status &&& part = attributes &&& part := by
  rw [UInt32.and_assoc, inside]

/-- The attributes a call stores are permitted: their capability bits are the old
ones and their status bits are those the call has checked. -/
theorem Permitted.of_check {old wanted attributes : FvbAttributes2}
    (checked : attributesCheck old wanted = .ok attributes) : Permitted attributes := by
  have merged := attributesCheck_ok checked
  have allowed : statusPermitted old (wanted &&& fvb2Status) = true := by
    unfold attributesCheck at checked
    split at checked
    · cases checked
    · split at checked
      · cases checked
      · split at checked
        · assumption
        · cases checked
  have capability {part : FvbAttributes2} (outside : fvb2Status &&& part = 0) :
      attributes &&& part = old &&& part := by
    rw [merged, replaceBits_outside outside]
  have status {part : FvbAttributes2} (inside : fvb2Status &&& part = part) :
      attributes &&& part = wanted &&& part := by
    rw [merged, replaceBits_inside inside]
  simp only [statusPermitted, Bool.and_eq_true, Bool.or_eq_true, decide_eq_true_eq,
    status_and (show fvb2Status &&& fvb2ReadStatus = fvb2ReadStatus by decide),
    status_and (show fvb2Status &&& fvb2WriteStatus = fvb2WriteStatus by decide),
    status_and (show fvb2Status &&& fvb2LockStatus = fvb2LockStatus by decide)] at allowed
  obtain ⟨⟨⟨⟨readDisabled, readEnabled⟩, writeDisabled⟩, writeEnabled⟩, locked⟩ := allowed
  refine ⟨?_, ?_, ?_, ?_, ?_⟩
  · rw [status (by decide), capability (by decide)]
    exact fun disabled => readDisabled.resolve_right fun enabled => enabled disabled
  · rw [status (by decide), capability (by decide)]
    exact readEnabled.resolve_right
  · rw [status (by decide), capability (by decide)]
    exact fun disabled => writeDisabled.resolve_right fun enabled => enabled disabled
  · rw [status (by decide), capability (by decide)]
    exact writeEnabled.resolve_right
  · rw [status (by decide), capability (by decide)]
    exact locked.resolve_right

/-! ### Calls -/

/-- The volume after a call of `SetAttributes`. -/
def setAttributesStep (volume : FwVolume) (wanted : FvbAttributes2) : FwVolume :=
  (fvbSetVolumeAttributes volume wanted).2.2

/-- What a call returns, by what its checks say. -/
theorem fvbSetVolumeAttributes_cases (volume : FwVolume) (wanted : FvbAttributes2) :
    (∃ status, attributesCheck volume.attributes wanted = .error status ∧
      fvbSetVolumeAttributes volume wanted = (status, wanted, volume)) ∨
    ∃ attributes, attributesCheck volume.attributes wanted = .ok attributes ∧
      (fvbSetVolumeAttributes volume wanted).1 = EfiStatus.success ∧
      (setAttributesStep volume wanted).attributes = attributes := by
  cases checked : attributesCheck volume.attributes wanted with
  | error status =>
    refine Or.inl ⟨status, rfl, ?_⟩
    rw [fvbSetVolumeAttributes, checked]
  | ok attributes =>
    refine Or.inr ⟨attributes, rfl, ?_, ?_⟩
    · rw [fvbSetVolumeAttributes, checked]
    · rw [setAttributesStep, fvbSetVolumeAttributes, checked]
      have stored := @headerField_attributes volume.memory volume.base attributes
      exact (congrArg UInt32.ofNat stored).trans UInt32.ofNat_toNat

/-- What one call keeps. -/
structure Keeps (before after : FwVolume) : Prop where
  others : after.attributes &&& ~~~fvb2Status = before.attributes &&& ~~~fvb2Status
  permitted : Permitted before.attributes → Permitted after.attributes
  locked : before.attributes &&& fvb2LockStatus ≠ 0 → after.attributes = before.attributes

theorem setAttributes_keeps (volume : FwVolume) (wanted : FvbAttributes2) :
    Keeps volume (setAttributesStep volume wanted) := by
  rcases fvbSetVolumeAttributes_cases volume wanted with
    ⟨status, -, result⟩ | ⟨attributes, checked, -, stored⟩
  · rw [setAttributesStep, result]
    exact ⟨rfl, id, fun _ => rfl⟩
  · have merged := attributesCheck_ok checked
    refine ⟨?_, ?_, ?_⟩
    · rw [stored, merged]
      exact replaceBits_outside (by decide)
    · intro _
      rw [stored]
      exact Permitted.of_check checked
    · intro locked
      rw [stored, merged]
      exact replaceBits_eq_iff.mpr (attributesCheck_locked checked locked)

theorem locked_run {volume : FwVolume} (locked : volume.attributes &&& fvb2LockStatus ≠ 0)
    (requests : List FvbAttributes2) :
    (run setAttributesStep volume requests).attributes = volume.attributes := by
  induction requests generalizing volume with
  | nil => rfl
  | cons wanted rest ih =>
    have same := (setAttributes_keeps volume wanted).locked locked
    rw [run_cons, ih (by rwa [same]), same]

theorem others_run (volume : FwVolume) (requests : List FvbAttributes2) :
    (run setAttributesStep volume requests).attributes &&& ~~~fvb2Status =
      volume.attributes &&& ~~~fvb2Status := by
  induction requests generalizing volume with
  | nil => rfl
  | cons wanted rest ih => rw [run_cons, ih, (setAttributes_keeps volume wanted).others]

theorem permitted_run {volume : FwVolume} (permitted : Permitted volume.attributes)
    (requests : List FvbAttributes2) :
    Permitted (run setAttributesStep volume requests).attributes := by
  induction requests generalizing volume with
  | nil => exact permitted
  | cons wanted rest ih => exact ih ((setAttributes_keeps volume wanted).permitted permitted)

/-- Over any sequence of calls, whatever they ask for: the attributes other than the
status bits stay, the status bits are permitted, they stay from the first state on in
which the volume is locked, and a call that fails changes neither the volume nor the
caller's argument. -/
theorem setAttributes_run (volume : FwVolume) (permitted : Permitted volume.attributes)
    (requests : List FvbAttributes2) (count : Nat) :
    let reached := run setAttributesStep volume (requests.take count)
    reached.attributes &&& ~~~fvb2Status = volume.attributes &&& ~~~fvb2Status ∧
      Permitted reached.attributes ∧
      (reached.attributes &&& fvb2LockStatus ≠ 0 → ∀ later,
        (run setAttributesStep volume (requests.take (count + later))).attributes &&& fvb2Status =
          reached.attributes &&& fvb2Status) ∧
      ∀ wanted, (fvbSetVolumeAttributes reached wanted).1.isError = true →
        (fvbSetVolumeAttributes reached wanted).2 = (wanted, reached) := by
  refine ⟨others_run volume _, permitted_run permitted _, ?_, ?_⟩
  · intro locked later
    rw [List.take_add, run_append, locked_run locked]
  · intro wanted failed
    rcases fvbSetVolumeAttributes_cases _ wanted with ⟨status, -, result⟩ | ⟨_, -, succeeded, -⟩
    · rw [result]
    · rw [succeeded] at failed
      cases failed

/-- The shipped volume without its lock, asked for the lock and then to be unlocked. -/
theorem setAttributes_run_unlocked :
    let reached := run setAttributesStep unlockedVolume ([0x4FEFF, 0x4FE7F].take 1)
    reached.attributes &&& ~~~fvb2Status = unlockedVolume.attributes &&& ~~~fvb2Status ∧
      Permitted reached.attributes ∧
      (reached.attributes &&& fvb2LockStatus ≠ 0 → ∀ later,
        (run setAttributesStep unlockedVolume ([0x4FEFF, 0x4FE7F].take (1 + later))).attributes
            &&& fvb2Status =
          reached.attributes &&& fvb2Status) ∧
      ∀ wanted, (fvbSetVolumeAttributes reached wanted).1.isError = true →
        (fvbSetVolumeAttributes reached wanted).2 = (wanted, reached) :=
  setAttributes_run unlockedVolume
    ⟨by decide, by decide, by decide, by decide, by decide⟩ [0x4FEFF, 0x4FE7F] 1

end MuRockchip.Fvb
