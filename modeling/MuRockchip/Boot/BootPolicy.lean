/-
Which device paths may be booted from (`MsBootPolicyLib.c`).

A path on the SD card is refused by comparing its beginning with the path of the card, and a
path with a USB node is refused when booting from USB is disabled. The comparison is only made
for paths that are longer than that of the card, so the path of the card itself is let through.

* `prevented_iff`: which valid paths are refused.
* `bootPolicy_exact_iff`: for which paths that is as it should be.
-/
import MuRockchip.Uefi.DevicePath
import MuRockchip.Uefi.Status

namespace MuRockchip.Boot

open DevicePath

def messagingDevicePath : UInt8 := 0x03
def msgUsbDp : UInt8 := 0x05
def msgUsbClassDp : UInt8 := 0x0F
def msgUsbWwidDp : UInt8 := 0x10

/-- What `LocateProtocol` and the `Get` of the setting for USB boot answer. `written` is what
`Get` leaves in the variable of its caller, if it writes to it. -/
structure SettingAnswer where
  locate : EfiStatus
  get : EfiStatus
  written : Option UInt8

/-- The service answers with the value of the setting. -/
def SettingAnswer.succeeds (enableUsbBoot : UInt8) : SettingAnswer :=
  ⟨EfiStatus.success, EfiStatus.success, some enableUsbBoot⟩

/-- `EnableUsbBoot` after the service was asked. An error of `Get` is only reported. -/
def enableUsbBoot (answer : SettingAnswer) : UInt8 :=
  if answer.locate.isError then 1 else answer.written.getD 1

def isUsbType (type subType : UInt8) : Bool :=
  type = messagingDevicePath ∧
    (subType = msgUsbDp ∨ subType = msgUsbWwidDp ∨ subType = msgUsbClassDp)

section

variable (lib : DevicePathLib)

/-- The loop over the nodes, for a number of rounds: whether it gets to the end. -/
def noUsbNode : Nat → List UInt8 → Option Bool
  | 0, _ => none
  | rounds + 1, node =>
    if lib.isDevicePathEnd node then some true
    else if isUsbType (node.getD 0 0) (node.getD 1 0) then some false
    else noUsbNode rounds (lib.nextDevicePathNode node)

/-- The first bytes of the path are those of the SD card. -/
def onSdCard (sdCardDevicePath : Option (List UInt8)) (devicePath : List UInt8) : Bool :=
  match sdCardDevicePath with
  | none => false
  | some sdCard =>
    let sdSize := lib.getDevicePathSize sdCard
    sdSize < lib.getDevicePathSize devicePath ∧
      devicePath.take (sdSize - endDevicePathLength) =
        sdCard.take (sdSize - endDevicePathLength)

/-- `MsBootPolicyLibIsDevicePathBootable`. A path has fewer nodes than bytes. -/
def msBootPolicyLibIsDevicePathBootable (sdCardDevicePath : Option (List UInt8))
    (setting : SettingAnswer) : Option (List UInt8) → Option Bool
  | none => some true
  | some devicePath =>
    if lib.isDevicePathValid devicePath = false then some false
    else if onSdCard lib sdCardDevicePath devicePath then some false
    else if enableUsbBoot setting = 0 then noUsbNode lib devicePath.length devicePath
    else some true

/-- What becomes of a request to load an image. -/
inductive LoadAnswer
  | accessDenied
  | systemLoadImage
  deriving DecidableEq, Repr

def localLoadImage (sdCardDevicePath : Option (List UInt8)) (setting : SettingAnswer) :
    Option (List UInt8) → Option LoadAnswer
  | none => some .systemLoadImage
  | some devicePath =>
    (msBootPolicyLibIsDevicePathBootable lib sdCardDevicePath setting (some devicePath)).map
      fun bootable => if !bootable then .accessDenied else .systemLoadImage

end

/-! ### What is refused -/

def IsUsb (node : DevicePathNode) : Prop := isUsbType node.type node.subType = true

section

variable {lib : DevicePathLib}

theorem noUsbNode_flatMap {nodes : List DevicePathNode}
    (inside : ∀ node ∈ nodes, ¬ node.IsEnd) {rounds : Nat} (enough : nodes.length < rounds) :
    ∃ clear, noUsbNode lib rounds (nodes.flatMap DevicePathNode.bytes ++ endBytes) = some clear ∧
      (clear = false ↔ ∃ node ∈ nodes, IsUsb node) := by
  induction nodes generalizing rounds with
  | nil =>
    obtain ⟨rounds, rfl⟩ := Nat.exists_eq_succ_of_ne_zero (Nat.ne_of_gt enough)
    refine ⟨true, if_pos lib.end_end, ?_⟩
    simp only [Bool.true_eq_false, List.not_mem_nil, false_and, exists_false]
  | cons node nodes ih =>
    obtain ⟨rounds, rfl⟩ :=
      Nat.exists_eq_succ_of_ne_zero (Nat.ne_of_gt ((Nat.zero_le _).trans_lt enough))
    obtain ⟨own, later⟩ := List.forall_mem_cons.mp inside
    obtain ⟨clear, run, refused⟩ := ih later (Nat.lt_of_succ_lt_succ enough)
    have goesOn : ¬ lib.isDevicePathEnd
        (node.bytes ++ (nodes.flatMap DevicePathNode.bytes ++ endBytes)) = true := by
      rw [lib.end_node node _ own]
      exact Bool.false_ne_true
    rw [List.flatMap_cons, List.append_assoc, noUsbNode, if_neg goesOn, lib.next]
    change ∃ clear, (if isUsbType node.type node.subType = true then _ else _) = _ ∧ _
    by_cases usb : isUsbType node.type node.subType = true
    · rw [if_pos usb]
      exact ⟨false, rfl, iff_of_true rfl ⟨node, List.mem_cons_self, usb⟩⟩
    · rw [if_neg usb]
      refine ⟨clear, run, refused.trans ⟨?_, ?_⟩⟩
      · rintro ⟨other, member, is⟩
        exact ⟨other, List.mem_cons_of_mem _ member, is⟩
      · rintro ⟨other, member, is⟩
        rcases List.mem_cons.mp member with rfl | member
        · exact absurd is usb
        · exact ⟨other, member, is⟩

def FromSdCard (sdCard : Option DevicePath) (path : DevicePath) : Prop :=
  ∃ card, sdCard = some card ∧ card.nodes <+: path.nodes

theorem onSdCard_iff (sdCard : Option DevicePath) (path : DevicePath) :
    onSdCard lib (sdCard.map DevicePath.bytes) path.bytes = true ↔
      FromSdCard sdCard path ∧ sdCard ≠ some path := by
  cases sdCard with
  | none => exact iff_of_false Bool.false_ne_true fun ⟨⟨_, is, _⟩, _⟩ => nomatch is
  | some card =>
    have before : card.bytes.length - endDevicePathLength = card.inner.length := by
      rw [length_bytes, Nat.add_sub_cancel]
    have start : card.bytes.take card.inner.length = card.inner := List.take_left
    have below : FromSdCard (some card) path ↔ card.nodes <+: path.nodes := by
      refine ⟨?_, fun starts => ⟨card, rfl, starts⟩⟩
      rintro ⟨_, ⟨⟩, starts⟩
      exact starts
    rw [Option.map_some, onSdCard, lib.size, lib.size, before, start, decide_eq_true_iff, below,
      @eq_comm _ _ card.inner, ← List.prefix_iff_eq_take, inner_prefix_iff, and_comm]
    exact and_congr_right fun starts =>
      (length_lt_iff starts).trans (not_congr Option.some_inj).symm

/-- Which valid paths are refused: those below the SD card, and those with a USB node when
booting from USB is disabled. -/
theorem prevented_iff {sdCard : Option DevicePath} {path : DevicePath} (value : UInt8)
    (valid : lib.isDevicePathValid path.bytes = true) :
    ∃ bootable, msBootPolicyLibIsDevicePathBootable lib (sdCard.map DevicePath.bytes)
        (.succeeds value) (some path.bytes) = some bootable ∧
      (bootable = false ↔ FromSdCard sdCard path ∧ sdCard ≠ some path ∨
        value = 0 ∧ ∃ node ∈ path.nodes, IsUsb node) := by
  have sure : ¬ lib.isDevicePathValid path.bytes = false := by
    rw [valid]
    exact Bool.true_eq_false.mp
  have read : enableUsbBoot (.succeeds value) = value := rfl
  rw [msBootPolicyLibIsDevicePathBootable, if_neg sure, read, ← onSdCard_iff sdCard path]
  by_cases card : onSdCard lib (sdCard.map DevicePath.bytes) path.bytes = true
  · rw [if_pos card]
    exact ⟨false, rfl, iff_of_true rfl (.inl card)⟩
  · rw [if_neg card, or_iff_right card]
    by_cases disabled : value = 0
    · rw [if_pos disabled]
      obtain ⟨clear, run, refused⟩ := @noUsbNode_flatMap lib _ path.inside _ path.nodes_length_lt
      exact ⟨clear, run, refused.trans (and_iff_right disabled).symm⟩
    · rw [if_neg disabled]
      exact ⟨true, rfl, iff_of_false Bool.true_eq_false.mp fun is => disabled is.1⟩

/-- The policy refuses what is from the SD card, and USB devices when they are disabled, and
an image is loaded exactly from the paths that it allows. -/
structure BootPolicyExact (lib : DevicePathLib) (sdCard : Option DevicePath) (value : UInt8)
    (path : DevicePath) : Prop where
  returns : (msBootPolicyLibIsDevicePathBootable lib (sdCard.map DevicePath.bytes)
    (.succeeds value) (some path.bytes)).isSome
  prevented : msBootPolicyLibIsDevicePathBootable lib (sdCard.map DevicePath.bytes)
      (.succeeds value) (some path.bytes) = some false ↔
    FromSdCard sdCard path ∨ value = 0 ∧ ∃ node ∈ path.nodes, IsUsb node
  loads : localLoadImage lib (sdCard.map DevicePath.bytes) (.succeeds value)
      (some path.bytes) = some .systemLoadImage ↔
    msBootPolicyLibIsDevicePathBootable lib (sdCard.map DevicePath.bytes) (.succeeds value)
      (some path.bytes) = some true

/-- The policy is exact but for the SD card itself. -/
theorem bootPolicy_exact_iff (lib : DevicePathLib) (sdCard : Option DevicePath) (value : UInt8)
    {path : DevicePath} (valid : lib.isDevicePathValid path.bytes = true) :
    BootPolicyExact lib sdCard value path ↔
      (sdCard = some path → value = 0 ∧ ∃ node ∈ path.nodes, IsUsb node) := by
  obtain ⟨bootable, run, refused⟩ := @prevented_iff lib sdCard path value valid
  constructor
  · intro exact_ card
    have from_ : FromSdCard sdCard path := ⟨path, card, List.prefix_refl _⟩
    have prevented := exact_.prevented.mpr (.inl from_)
    rw [run, Option.some_inj] at prevented
    exact (refused.mp prevented).resolve_left fun below => below.2 card
  · intro usb
    refine ⟨by rw [run]; rfl, ?_, ?_⟩
    · rw [run, Option.some_inj, refused]
      refine ⟨Or.imp_left And.left, ?_⟩
      rintro (card | disabled)
      · by_cases self : sdCard = some path
        · exact .inr (usb self)
        · exact .inl ⟨card, self⟩
      · exact .inr disabled
    · rw [localLoadImage, run]
      cases bootable <;> decide

theorem oneByte_fits : 4 + [(0 : UInt8)].length < 2 ^ 16 := by decide

/-- A card in the first slot. -/
def sdCardNode : DevicePathNode := ⟨0x03, 0x1A, [0], oneByte_fits⟩

theorem sdCardNode_inside : ∀ node ∈ [sdCardNode], ¬ node.IsEnd :=
  List.forall_mem_singleton.mpr (by decide)

/-- The path of the card, without the controller it is below. -/
def sdCardPath : DevicePath := ⟨[sdCardNode], sdCardNode_inside⟩

theorem bootPolicy_exact_iff_sdCardPath :
    devicePathLib.isDevicePathValid sdCardPath.bytes = true ∧
      (BootPolicyExact devicePathLib none 0 sdCardPath ↔
        (none = some sdCardPath → (0 : UInt8) = 0 ∧ ∃ node ∈ sdCardPath.nodes, IsUsb node)) :=
  ⟨by decide, bootPolicy_exact_iff devicePathLib none 0 (by decide)⟩

/-- The SD card itself may be booted from. -/
theorem sdCard_bootable :
    devicePathLib.isDevicePathValid sdCardPath.bytes = true ∧
      ¬ BootPolicyExact devicePathLib (some sdCardPath) 1 sdCardPath := by
  refine ⟨by decide, fun exact_ => ?_⟩
  have prevented := exact_.prevented.mpr (.inl ⟨sdCardPath, rfl, List.prefix_refl _⟩)
  exact absurd prevented (by decide)

end

end MuRockchip.Boot
