/-
Device paths.

A node carries its own length, so paths are read node by node, and a path that begins with the
bytes of another begins with its nodes. The services that walk paths are those of a library:
what is documented for them are laws of `DevicePathLib`.

* `inner_prefix_iff`: the bytes of a path before its end begin another path exactly when its
  nodes do.
-/
import Mathlib.Data.List.Flatten
import Mathlib.Data.UInt

namespace MuRockchip

/-- `EFI_DEVICE_PATH_PROTOCOL` with its data. -/
@[ext]
structure DevicePathNode where
  type : UInt8
  subType : UInt8
  data : List UInt8
  fits : 4 + data.length < 2 ^ 16

namespace DevicePathNode

def length (node : DevicePathNode) : Nat := 4 + node.data.length

/-- A node in memory. The length is little-endian. -/
def bytes (node : DevicePathNode) : List UInt8 :=
  node.type :: node.subType :: UInt8.ofNat (node.length % 256) ::
    UInt8.ofNat (node.length / 256) :: node.data

def endDevicePathType : UInt8 := 0x7F
def endEntireDevicePathSubtype : UInt8 := 0xFF

def IsEnd (node : DevicePathNode) : Prop :=
  node.type = endDevicePathType ∧ node.subType = endEntireDevicePathSubtype

instance isEnd_decidable (node : DevicePathNode) : Decidable node.IsEnd :=
  inferInstanceAs (Decidable (_ ∧ _))

theorem length_bytes (node : DevicePathNode) : node.bytes.length = node.length := by
  rw [bytes, length]
  simp only [List.length_cons]
  omega

/-- Nodes say how long they are: what begins with a node begins with no other. -/
theorem bytes_append_inj {node other : DevicePathNode} {rest rest' : List UInt8}
    (same : node.bytes ++ rest = other.bytes ++ rest') : node = other ∧ rest = rest' := by
  have small := node.fits
  have small' := other.fits
  simp only [bytes, List.cons_append, List.cons.injEq] at same
  obtain ⟨type, subType, low, high, tail⟩ := same
  have byte {n : Nat} (below : n < 256) : (UInt8.ofNat n).toNat = n :=
    UInt8.toNat_ofNat_of_lt' below
  have lowEq := congrArg UInt8.toNat low
  have highEq := congrArg UInt8.toNat high
  rw [byte (Nat.mod_lt _ (by decide)), byte (Nat.mod_lt _ (by decide))] at lowEq
  rw [byte (by rw [length]; omega), byte (by rw [length]; omega)] at highEq
  have lengths : node.data.length = other.data.length := by
    rw [length, length] at lowEq highEq
    omega
  obtain ⟨data, rests⟩ := List.append_inj tail lengths
  exact ⟨DevicePathNode.ext type subType data, rests⟩

end DevicePathNode

/-- A path: nodes that do not end it. Ends of an instance are among them. -/
@[ext]
structure DevicePath where
  nodes : List DevicePathNode
  inside : ∀ node ∈ nodes, ¬ node.IsEnd

namespace DevicePath

def endDevicePathLength : Nat := 4

def endBytes : List UInt8 := [0x7F, 0xFF, 4, 0]

/-- The bytes of the nodes before the end. -/
def inner (path : DevicePath) : List UInt8 := path.nodes.flatMap DevicePathNode.bytes

def bytes (path : DevicePath) : List UInt8 := path.inner ++ endBytes

theorem length_bytes (path : DevicePath) :
    path.bytes.length = path.inner.length + endDevicePathLength :=
  List.length_append

theorem length_le_flatMap (nodes : List DevicePathNode) :
    nodes.length ≤ (nodes.flatMap DevicePathNode.bytes).length := by
  induction nodes with
  | nil => exact Nat.le_refl _
  | cons node nodes ih =>
    rw [List.length_cons, List.flatMap_cons, List.length_append, node.length_bytes,
      DevicePathNode.length]
    omega

theorem nodes_length_lt (path : DevicePath) : path.nodes.length < path.bytes.length := by
  have each := length_le_flatMap path.nodes
  rw [length_bytes, inner, endDevicePathLength]
  omega

theorem length_lt_iff {path other : DevicePath} (starts : path.nodes <+: other.nodes) :
    path.bytes.length < other.bytes.length ↔ path ≠ other := by
  constructor
  · rintro longer rfl
    exact Nat.lt_irrefl _ longer
  · intro different
    obtain ⟨rest, same⟩ := starts
    have some : rest ≠ [] := by
      rintro rfl
      rw [List.append_nil] at same
      exact different (DevicePath.ext same)
    have longer := (List.length_pos_iff.mpr some).trans_le (length_le_flatMap rest)
    rw [length_bytes, length_bytes, inner, inner, ← same, List.flatMap_append,
      List.length_append]
    omega

theorem not_endBytes {node : DevicePathNode} (inside : ¬ node.IsEnd) {rest rest' : List UInt8} :
    node.bytes ++ rest ≠ endBytes ++ rest' := by
  intro same
  simp only [DevicePathNode.bytes, endBytes, List.cons_append, List.cons.injEq] at same
  exact inside ⟨same.1, same.2.1⟩

theorem flatMap_prefix_iff {nodes others : List DevicePathNode}
    (inside : ∀ node ∈ nodes, ¬ node.IsEnd) :
    nodes.flatMap DevicePathNode.bytes <+:
        others.flatMap DevicePathNode.bytes ++ endBytes ↔ nodes <+: others := by
  constructor
  · intro starts
    induction nodes generalizing others with
    | nil => exact List.nil_prefix
    | cons node nodes ih =>
      obtain ⟨own, later⟩ := List.forall_mem_cons.mp inside
      obtain ⟨rest, same⟩ := starts
      rw [List.flatMap_cons, List.append_assoc] at same
      cases others with
      | nil => exact absurd (same.trans (List.append_nil endBytes).symm) (not_endBytes own)
      | cons other others =>
        rw [List.flatMap_cons, List.append_assoc] at same
        obtain ⟨rfl, tail⟩ := DevicePathNode.bytes_append_inj same
        exact List.cons_prefix_cons.mpr ⟨rfl, ih later ⟨rest, tail⟩⟩
  · rintro ⟨rest, rfl⟩
    rw [List.flatMap_append, List.append_assoc]
    exact List.prefix_append _ _

/-- The bytes of a path before its end begin another path exactly when its nodes do. -/
theorem inner_prefix_iff (path other : DevicePath) :
    path.inner <+: other.bytes ↔ path.nodes <+: other.nodes :=
  flatMap_prefix_iff path.inside

end DevicePath

/-- The services of `DevicePathLib`, on the bytes from a pointer on, with what is documented
for them. -/
structure DevicePathLib where
  isDevicePathValid : List UInt8 → Bool
  getDevicePathSize : List UInt8 → Nat
  isDevicePathEnd : List UInt8 → Bool
  nextDevicePathNode : List UInt8 → List UInt8
  size : ∀ path : DevicePath, getDevicePathSize path.bytes = path.bytes.length
  end_node : ∀ (node : DevicePathNode) rest, ¬ node.IsEnd →
    isDevicePathEnd (node.bytes ++ rest) = false
  end_end : isDevicePathEnd DevicePath.endBytes = true
  next : ∀ (node : DevicePathNode) rest, nextDevicePathNode (node.bytes ++ rest) = rest

/-! ### The services as they are computed -/

namespace DevicePath

def nodeType (node : List UInt8) : UInt8 := node.getD 0 0
def nodeSubType (node : List UInt8) : UInt8 := node.getD 1 0
def nodeLength (node : List UInt8) : Nat := (node.getD 2 0).toNat + 256 * (node.getD 3 0).toNat

def isEnd (node : List UInt8) : Bool :=
  nodeType node = DevicePathNode.endDevicePathType ∧
    nodeSubType node = DevicePathNode.endEntireDevicePathSubtype

def nextNode (node : List UInt8) : List UInt8 := node.drop (nodeLength node)

/-- The size of a path, for a number of nodes. -/
def sizeFrom : Nat → List UInt8 → Nat
  | 0, _ => 0
  | rounds + 1, node =>
    if isEnd node then nodeLength node
    else nodeLength node + sizeFrom rounds (nextNode node)

/-- Every node has a header, the name of a file is terminated, and the end is nothing but a
header. -/
def validFrom : Nat → List UInt8 → Bool
  | 0, _ => false
  | rounds + 1, node =>
    if isEnd node then nodeLength node = endDevicePathLength
    else if nodeLength node < 4 then false
    else if nodeType node = 4 ∧ nodeSubType node = 4 ∧
        (node.getD (nodeLength node - 2) 0 ≠ 0 ∨ node.getD (nodeLength node - 1) 0 ≠ 0) then false
    else validFrom rounds (nextNode node)

theorem nodeLength_bytes (node : DevicePathNode) (rest : List UInt8) :
    nodeLength (node.bytes ++ rest) = node.length := by
  have small := node.fits
  have whole : node.length < 2 ^ 16 := small
  change (UInt8.ofNat (node.length % 256)).toNat +
    256 * (UInt8.ofNat (node.length / 256)).toNat = node.length
  have low : (UInt8.ofNat (node.length % 256)).toNat = node.length % 256 :=
    UInt8.toNat_ofNat_of_lt' (Nat.mod_lt _ (by decide))
  have below : node.length / 256 < 256 := by omega
  have high : (UInt8.ofNat (node.length / 256)).toNat = node.length / 256 :=
    UInt8.toNat_ofNat_of_lt' below
  omega

theorem nextNode_bytes (node : DevicePathNode) (rest : List UInt8) :
    nextNode (node.bytes ++ rest) = rest := by
  rw [nextNode, nodeLength_bytes, ← node.length_bytes, List.drop_left]

theorem isEnd_bytes {node : DevicePathNode} (inside : ¬ node.IsEnd) (rest : List UInt8) :
    isEnd (node.bytes ++ rest) = false :=
  decide_eq_false inside

theorem sizeFrom_flatMap {nodes : List DevicePathNode} (inside : ∀ node ∈ nodes, ¬ node.IsEnd)
    {rounds : Nat} (enough : nodes.length < rounds) :
    sizeFrom rounds (nodes.flatMap DevicePathNode.bytes ++ endBytes) =
      (nodes.flatMap DevicePathNode.bytes ++ endBytes).length := by
  induction nodes generalizing rounds with
  | nil =>
    obtain ⟨rounds, rfl⟩ := Nat.exists_eq_succ_of_ne_zero (Nat.ne_of_gt enough)
    rfl
  | cons node nodes ih =>
    obtain ⟨rounds, rfl⟩ :=
      Nat.exists_eq_succ_of_ne_zero (Nat.ne_of_gt ((Nat.zero_le _).trans_lt enough))
    obtain ⟨own, later⟩ := List.forall_mem_cons.mp inside
    have goesOn := isEnd_bytes own (nodes.flatMap DevicePathNode.bytes ++ endBytes)
    rw [List.flatMap_cons, List.append_assoc, sizeFrom, goesOn, if_neg Bool.false_ne_true,
      nextNode_bytes, nodeLength_bytes, ih later (Nat.lt_of_succ_lt_succ enough),
      ← node.length_bytes, ← List.length_append]

end DevicePath

def devicePathLib : DevicePathLib where
  isDevicePathValid path := DevicePath.validFrom path.length path
  getDevicePathSize path := DevicePath.sizeFrom path.length path
  isDevicePathEnd := DevicePath.isEnd
  nextDevicePathNode := DevicePath.nextNode
  size path := DevicePath.sizeFrom_flatMap path.inside path.nodes_length_lt
  end_node _ rest inside := DevicePath.isEnd_bytes inside rest
  end_end := rfl
  next := DevicePath.nextNode_bytes

end MuRockchip
