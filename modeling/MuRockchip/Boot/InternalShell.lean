/-
Whether the current boot option is the internal shell (`BootCurrentIsInternalShell`).

A load option is its attributes, the length of its paths, a description that ends with a zero, and
device paths. The variable is read as if it were one: first up to the zero, then from node to node
by the lengths that they claim. Nothing compares with the size that the variable has.

* `lastNode_iff`: the walks that end, and where.
* `bootCurrentIsInternalShell_bounded_iff`: the variables that are read within their bounds.
-/
import MuRockchip.Uefi.DevicePath
import MuRockchip.Uefi.Types

namespace MuRockchip.Boot

open MuRockchip.Base DevicePath

def mediaDevicePath : UInt8 := 0x04
def mediaPiwgFwFileDp : UInt8 := 0x06

/-- The node is a file of a firmware volume. -/
def isFwVolFile (node : List UInt8) : Bool :=
  nodeType node = mediaDevicePath ∧ nodeSubType node = mediaPiwgFwFileDp

/-- Why there is no outcome: a read behind the memory that there is, or no end so far. -/
inductive Fault where
  | outside
  | unfinished
  deriving DecidableEq, Repr

/-- The services that look at the option, on the bytes from a pointer on, with what is documented
for them. A service that looks further than these bytes has no outcome. -/
structure LoadOptionLib where
  strSize : List UInt8 → Except Fault Nat
  isDevicePathEnd : List UInt8 → Except Fault Bool
  nextDevicePathNode : List UInt8 → Except Fault (List UInt8)
  efiGetNameGuidFromFwVolDevicePathNode : List UInt8 → Except Fault (Option (List UInt8))
  compareGuid : List UInt8 → List UInt8 → Except Fault Bool
  size_string : ∀ (string : Str16) rest,
    strSize (string.bytes ++ rest) = .ok (2 * (string.chars.length + 1))
  size_outside : ∀ memory,
    (¬ ∃ (string : Str16) (rest : List UInt8), memory = string.bytes ++ rest) →
      strSize memory = .error .outside
  end_node : ∀ node, 2 ≤ node.length → isDevicePathEnd node = .ok (isEnd node)
  end_outside : ∀ node, node.length < 2 → isDevicePathEnd node = .error .outside ∨
    isDevicePathEnd node = .ok false
  next_node : ∀ node, 4 ≤ node.length → nextDevicePathNode node = .ok (nextNode node)
  next_outside : ∀ node, node.length < 4 → nextDevicePathNode node = .error .outside
  name_node : ∀ node, 2 ≤ node.length → efiGetNameGuidFromFwVolDevicePathNode node =
    .ok (if isFwVolFile node then some (node.drop 4) else none)
  compare_guid : ∀ memory guid, compareGuid memory guid =
    if memory.length < 16 then .error .outside else .ok (memory.take 16 = guid)

/-- The answer, and whether the copy of the variable was released. -/
structure ShellOutcome where
  result : Bool
  released : Bool
  deriving DecidableEq, Repr

/-! ### The walk -/

section

variable (lib : LoadOptionLib)

/-- The loop over the nodes, for a number of rounds. -/
def lastNode : Nat → List UInt8 → List UInt8 → Except Fault (List UInt8)
  | 0, _, _ => .error .unfinished
  | rounds + 1, lastDeviceNode, tempDevicePath => do
    if ← lib.isDevicePathEnd tempDevicePath then .ok lastDeviceNode
    else lastNode rounds tempDevicePath (← lib.nextDevicePathNode tempDevicePath)

/-- The node is a file of a firmware volume, and the file is one of the two shells. -/
def isShellNode (shellFile uefiShellFile lastDeviceNode : List UInt8) : Except Fault Bool := do
  match ← lib.efiGetNameGuidFromFwVolDevicePathNode lastDeviceNode with
  | none => .ok false
  | some guidPoint =>
    if ← lib.compareGuid guidPoint shellFile then .ok true
    else lib.compareGuid guidPoint uefiShellFile

/-- `BootCurrentIsInternalShell`. `bootCurrent` is what `GetVariable` answers, `bootOptions` what
`GetEfiGlobalVariable2` allocates for the option of a number. -/
def bootCurrentIsInternalShell (rounds : Nat) (shellFile uefiShellFile : List UInt8)
    (bootCurrent : Option UInt16) (bootOptions : UInt16 → Option (List UInt8)) :
    Except Fault ShellOutcome :=
  match bootCurrent with
  | none => .ok ⟨false, true⟩
  | some number =>
    match bootOptions number with
    | none => .ok ⟨false, true⟩
    | some bootOption =>
      if bootOption.length = 0 then .ok ⟨false, false⟩
      else do
        let ptr := bootOption.drop (4 + 2)
        let ptr := ptr.drop (← lib.strSize ptr)
        let lastDeviceNode ← lastNode lib rounds ptr ptr
        let result ← isShellNode lib shellFile uefiShellFile lastDeviceNode
        .ok ⟨result, true⟩

end

/-- From a node on, the claimed lengths lead to an end, and `last` is the node before it; of no
node when there is none, which is what was passed before. -/
inductive Chain : List UInt8 → List UInt8 → List UInt8 → Prop
  | ended {before node : List UInt8} (header : 2 ≤ node.length) (end_ : isEnd node = true) :
    Chain before node before
  | next {before node last : List UInt8} (header : 4 ≤ node.length) (goesOn : isEnd node = false)
    (moves : nodeLength node ≠ 0) (rest : Chain node (nextNode node) last) :
    Chain before node last

section

variable {lib : LoadOptionLib} {rounds : Nat} {before node last : List UInt8}

theorem bind_ok {α β : Type} {first : Except Fault α} {next : α → Except Fault β} {value : β}
    (run : first >>= next = .ok value) :
    ∃ passed, first = .ok passed ∧ next passed = .ok value := by
  cases first with
  | error fault => exact nomatch run
  | ok passed => exact ⟨passed, rfl, run⟩

theorem lastNode_ended (header : 2 ≤ node.length) (end_ : isEnd node = true) :
    lastNode lib (rounds + 1) before node = .ok before := by
  rw [lastNode, lib.end_node node header, end_]
  rfl

theorem lastNode_next (header : 4 ≤ node.length) (goesOn : isEnd node = false) :
    lastNode lib (rounds + 1) before node = lastNode lib rounds node (nextNode node) := by
  rw [lastNode, lib.end_node node (by omega), lib.next_node node header, goesOn]
  rfl

/-- One round of a walk that ends: it is at the end, or it goes on. -/
theorem lastNode_succ (run : lastNode lib (rounds + 1) before node = .ok last) :
    (2 ≤ node.length ∧ isEnd node = true ∧ last = before) ∨
      4 ≤ node.length ∧ isEnd node = false ∧
        lastNode lib rounds node (nextNode node) = .ok last := by
  by_cases header : 4 ≤ node.length
  · cases end_ : isEnd node with
    | true =>
      rw [lastNode_ended (by omega) end_] at run
      exact .inl ⟨by omega, rfl, (Except.ok.inj run).symm⟩
    | false =>
      rw [lastNode_next header end_] at run
      exact .inr ⟨header, rfl, run⟩
  · rw [lastNode] at run
    obtain ⟨atEnd, looked, run⟩ := bind_ok run
    cases atEnd with
    | true =>
      rcases Nat.lt_or_ge node.length 2 with short | some
      · rcases lib.end_outside node short with none | none <;> exact nomatch none.symm.trans looked
      · rw [lib.end_node node some] at looked
        exact .inl ⟨some, Except.ok.inj looked, (Except.ok.inj run).symm⟩
    | false =>
      rw [if_neg Bool.false_ne_true, lib.next_outside node (by omega)] at run
      exact nomatch run

/-- A node that claims no length is looked at again and again. -/
theorem lastNode_stuck (goesOn : isEnd node = false) (still : nodeLength node = 0) :
    lastNode lib rounds before node ≠ .ok last := by
  induction rounds generalizing before with
  | zero => exact fun run => (nomatch run)
  | succ rounds ih =>
    intro run
    rcases lastNode_succ run with ⟨-, end_, -⟩ | ⟨-, -, run⟩
    · exact nomatch goesOn.symm.trans end_
    · rw [nextNode, still, List.drop_zero] at run
      exact ih run

/-- The walk ends in some number of rounds exactly when there is a chain. -/
theorem lastNode_iff :
    (∃ rounds, lastNode lib rounds before node = .ok last) ↔ Chain before node last := by
  constructor
  · rintro ⟨rounds, run⟩
    induction rounds generalizing before node with
    | zero => exact nomatch run
    | succ rounds ih =>
      rcases lastNode_succ run with ⟨header, end_, rfl⟩ | ⟨header, goesOn, rest⟩
      · exact .ended header end_
      · refine .next header goesOn (fun still => ?_) (ih rest)
        exact lastNode_stuck goesOn still run
  · intro chain
    induction chain with
    | ended header end_ => exact ⟨1, lastNode_ended header end_⟩
    | next header goesOn moves rest ih =>
      obtain ⟨rounds, run⟩ := ih
      exact ⟨rounds + 1, (lastNode_next header goesOn).trans run⟩

theorem Chain.unique {other : List UInt8} (chain : Chain before node last)
    (again : Chain before node other) : last = other := by
  induction chain with
  | ended header end_ =>
    cases again with
    | ended => rfl
    | next _ goesOn => exact nomatch goesOn.symm.trans end_
  | next header goesOn moves rest ih =>
    cases again with
    | ended _ end_ => exact nomatch goesOn.symm.trans end_
    | next _ _ _ rest' => exact ih rest'

theorem Chain.header (chain : Chain before node last) : 2 ≤ node.length := by
  cases chain with
  | ended header => exact header
  | next header => exact Nat.le_trans (by decide) header

theorem Chain.last_header (chain : Chain before node last) (some : 2 ≤ before.length) :
    2 ≤ last.length := by
  induction chain with
  | ended => exact some
  | next header goesOn moves rest ih => exact ih (Nat.le_trans (by decide) header)

end

/-! ### The answer -/

/-- The node is a file of a firmware volume with one of the two names. -/
def namesShell (shellFile uefiShellFile node : List UInt8) : Bool :=
  isFwVolFile node ∧
    ((node.drop 4).take 16 = shellFile ∨ (node.drop 4).take 16 = uefiShellFile)

/-- The option can be read: it has a description, the claimed lengths of the nodes behind it lead to
an end, and if the node before that is a file of a firmware volume, there is all of its name. -/
def Readable (bootOption : List UInt8) : Prop :=
  ∃ (description : Str16) (path last : List UInt8),
    bootOption.drop 6 = description.bytes ++ path ∧ Chain path path last ∧
      (isFwVolFile last = true → 20 ≤ last.length)

section

variable {lib : LoadOptionLib} {shellFile uefiShellFile last bootOption : List UInt8}
  {number : UInt16} {bootOptions : UInt16 → Option (List UInt8)}

theorem isShellNode_eq (header : 2 ≤ last.length)
    (whole : isFwVolFile last = true → 20 ≤ last.length) :
    isShellNode lib shellFile uefiShellFile last =
      .ok (namesShell shellFile uefiShellFile last) := by
  rw [isShellNode, lib.name_node last header, namesShell]
  cases file : isFwVolFile last with
  | false => simp [bind, Except.bind]
  | true =>
    have enough : ¬ (last.drop 4).length < 16 := by
      have all := whole file
      rw [List.length_drop]
      omega
    simp only [if_true, bind, Except.bind, lib.compare_guid, if_neg enough, true_and]
    by_cases first : (last.drop 4).take 16 = shellFile
    · simp [first]
    · simp [first]

theorem isShellNode_outside (header : 2 ≤ last.length) (file : isFwVolFile last = true)
    (short : last.length < 20) :
    isShellNode lib shellFile uefiShellFile last = .error .outside := by
  have few : (last.drop 4).length < 16 := by
    rw [List.length_drop]
    omega
  rw [isShellNode, lib.name_node last header, file]
  simp only [if_true, bind, Except.bind, lib.compare_guid, if_pos few]

theorem length_description (description : Str16) :
    description.bytes.length = 2 * (description.chars.length + 1) := by
  simp only [Str16.bytes, List.length_flatMap, leBytes_length, List.map_const', List.length_append,
    List.length_singleton, List.sum_replicate, smul_eq_mul]
  omega

theorem path_unique (lib : LoadOptionLib) {description other : Str16} {path rest : List UInt8}
    (same : description.bytes ++ path = other.bytes ++ rest) : path = rest := by
  have sizes := congrArg lib.strSize same
  rw [lib.size_string, lib.size_string] at sizes
  have lengths : description.bytes.length = other.bytes.length := by
    rw [length_description, length_description]
    exact Except.ok.inj sizes
  exact (List.append_inj same lengths).2

/-- The outcomes of the call for a variable that is there. -/
theorem run_iff {outcome : ShellOutcome} (found : bootOptions number = some bootOption) :
    (∃ rounds, bootCurrentIsInternalShell lib rounds shellFile uefiShellFile (some number)
      bootOptions = .ok outcome) ↔
      (bootOption = [] ∧ outcome = ⟨false, false⟩) ∨
        ∃ (description : Str16) (path last : List UInt8),
          bootOption.drop 6 = description.bytes ++ path ∧ Chain path path last ∧
            (isFwVolFile last = true → 20 ≤ last.length) ∧
              outcome = ⟨namesShell shellFile uefiShellFile last, true⟩ := by
  simp only [bootCurrentIsInternalShell, found]
  constructor
  · rintro ⟨rounds, run⟩
    by_cases empty : bootOption.length = 0
    · rw [if_pos empty] at run
      exact .inl ⟨List.length_eq_zero_iff.mp empty, (Except.ok.inj run).symm⟩
    · rw [if_neg empty] at run
      obtain ⟨size, sized, run⟩ := bind_ok run
      obtain ⟨last, walked, run⟩ := bind_ok run
      obtain ⟨result, named, run⟩ := bind_ok run
      by_cases described : ∃ (description : Str16) (path : List UInt8),
          bootOption.drop 6 = description.bytes ++ path
      · obtain ⟨description, path, same⟩ := described
        rw [same, lib.size_string] at sized
        obtain rfl := Except.ok.inj sized
        rw [same, ← length_description, List.drop_left] at walked
        have chain := lastNode_iff.mp ⟨rounds, walked⟩
        have header := chain.last_header chain.header
        by_cases whole : isFwVolFile last = true → 20 ≤ last.length
        · rw [isShellNode_eq header whole] at named
          obtain rfl := Except.ok.inj named
          exact .inr ⟨description, path, last, same, chain, whole, (Except.ok.inj run).symm⟩
        · obtain ⟨file, short⟩ := Classical.not_imp.mp whole
          rw [isShellNode_outside header file (by omega)] at named
          exact nomatch named
      · rw [lib.size_outside _ described] at sized
        exact nomatch sized
  · rintro (⟨rfl, rfl⟩ | ⟨description, path, last, same, chain, whole, rfl⟩)
    · exact ⟨0, rfl⟩
    · obtain ⟨rounds, walked⟩ := lastNode_iff.mpr chain
      refine ⟨rounds, ?_⟩
      have some : bootOption.length ≠ 0 := by
        intro none
        have lengths := congrArg List.length same
        rw [List.length_append, length_description, List.length_drop] at lengths
        omega
      rw [if_neg some, same, lib.size_string]
      change (do
        let lastDeviceNode ← lastNode lib rounds
          (List.drop (2 * (description.chars.length + 1)) (description.bytes ++ path))
          (List.drop (2 * (description.chars.length + 1)) (description.bytes ++ path))
        let result ← isShellNode lib shellFile uefiShellFile lastDeviceNode
        Except.ok (ShellOutcome.mk result true)) = _
      rw [← length_description, List.drop_left, walked]
      change (do
        let result ← isShellNode lib shellFile uefiShellFile last
        Except.ok (ShellOutcome.mk result true)) = _
      rw [isShellNode_eq (chain.last_header chain.header) whole]
      rfl

end

/-! ### Load options -/

/-- `EFI_LOAD_OPTION`: its first path, and what comes behind it. -/
structure EfiLoadOption where
  attributes : UInt32
  filePathListLength : UInt16
  description : Str16
  path : DevicePath
  rest : List UInt8
  listed : path.bytes.length ≤ filePathListLength.toNat ∧
    filePathListLength.toNat ≤ path.bytes.length + rest.length
  files : ∀ node ∈ path.nodes,
    node.type = mediaDevicePath ∧ node.subType = mediaPiwgFwFileDp → node.data.length = 16

namespace EfiLoadOption

/-- The variable of an option. -/
def bytes (option : EfiLoadOption) : List UInt8 :=
  leBytes 4 option.attributes.toNat ++ (leBytes 2 option.filePathListLength.toNat ++
    (option.description.bytes ++ (option.path.inner ++ (endBytes ++ option.rest))))

/-- The last node before the end is a file of a firmware volume that is one of the shells. -/
def IsShell (option : EfiLoadOption) (shellFile uefiShellFile : List UInt8) : Prop :=
  ∃ node, option.path.nodes.getLast? = some node ∧
    (node.type = mediaDevicePath ∧ node.subType = mediaPiwgFwFileDp) ∧
      (node.data = shellFile ∨ node.data = uefiShellFile)

theorem drop_bytes (option : EfiLoadOption) :
    option.bytes.drop 6 =
      option.description.bytes ++ (option.path.inner ++ (endBytes ++ option.rest)) := by
  rw [bytes, ← List.append_assoc]
  exact List.drop_left' (by rw [List.length_append, leBytes_length, leBytes_length])

theorem chain_nodes {nodes : List DevicePathNode} (inside : ∀ node ∈ nodes, ¬ node.IsEnd)
    (before rest : List UInt8) :
    Chain before (nodes.flatMap DevicePathNode.bytes ++ (endBytes ++ rest))
      (match nodes.getLast? with
      | none => before
      | some node => node.bytes ++ (endBytes ++ rest)) := by
  induction nodes generalizing before with
  | nil => exact .ended (by simp [endBytes]) rfl
  | cons node nodes ih =>
    obtain ⟨own, later⟩ := List.forall_mem_cons.mp inside
    rw [List.flatMap_cons, List.append_assoc]
    have four : 4 ≤ node.length := Nat.le_add_right 4 _
    refine .next ?_ (isEnd_bytes own _) ?_ ?_
    · rw [List.length_append, node.length_bytes]
      omega
    · rw [nodeLength_bytes]
      omega
    · rw [nextNode_bytes]
      have rest := ih later
        (node.bytes ++ (nodes.flatMap DevicePathNode.bytes ++ (endBytes ++ rest)))
      cases nodes with
      | nil => exact rest
      | cons other nodes => rwa [List.getLast?_cons_cons]

theorem namesShell_iff (option : EfiLoadOption) (shellFile uefiShellFile : List UInt8)
    {last : List UInt8} (chain : Chain (option.path.inner ++ (endBytes ++ option.rest))
      (option.path.inner ++ (endBytes ++ option.rest)) last) :
    namesShell shellFile uefiShellFile last = true ↔ option.IsShell shellFile uefiShellFile := by
  obtain rfl := chain.unique (chain_nodes option.path.inside _ option.rest)
  rw [IsShell]
  cases found : option.path.nodes.getLast? with
  | none =>
    have none : option.path.inner = [] := by
      rw [DevicePath.inner, List.getLast?_eq_none_iff.mp found]
      rfl
    simp [none, namesShell, isFwVolFile, nodeType, endBytes, mediaDevicePath]
  | some node =>
    have kind : isFwVolFile (node.bytes ++ (endBytes ++ option.rest)) = true ↔
        node.type = mediaDevicePath ∧ node.subType = mediaPiwgFwFileDp :=
      decide_eq_true_iff
    simp only [namesShell, decide_eq_true_eq, Option.some.injEq, exists_eq_left']
    rw [kind]
    refine and_congr_right fun file => ?_
    have size := option.files node (List.mem_of_getLast? found) file
    have name : ((node.bytes ++ (endBytes ++ option.rest)).drop 4).take 16 = node.data :=
      List.take_left' size
    rw [name]

end EfiLoadOption

/-! ### Bounded parsing -/

/-- The call ends, having read nothing but the variable, whose copy is released, and for a load
option it tells the shells from the others. -/
def ParsedWell (lib : LoadOptionLib) (shellFile uefiShellFile : List UInt8)
    (bootCurrent : Option UInt16) (bootOptions : UInt16 → Option (List UInt8)) : Prop :=
  ∃ rounds outcome,
    bootCurrentIsInternalShell lib rounds shellFile uefiShellFile bootCurrent bootOptions =
      .ok outcome ∧
    outcome.released = true ∧
    ∀ (number : UInt16) (option : EfiLoadOption),
      bootCurrent = some number → bootOptions number = some option.bytes →
        (outcome.result = true ↔ option.IsShell shellFile uefiShellFile)

/-- The call is right exactly when there is no variable to read, or an option can be read from
it. -/
theorem bootCurrentIsInternalShell_bounded_iff (lib : LoadOptionLib)
    (shellFile uefiShellFile : List UInt8) (bootCurrent : Option UInt16)
    (bootOptions : UInt16 → Option (List UInt8)) :
    ParsedWell lib shellFile uefiShellFile bootCurrent bootOptions ↔
      ∀ number bootOption, bootCurrent = some number → bootOptions number = some bootOption →
        Readable bootOption := by
  constructor
  · rintro ⟨rounds, outcome, run, released, -⟩ number bootOption rfl found
    rcases (run_iff found).mp ⟨rounds, run⟩ with ⟨-, rfl⟩ | ⟨description, path, last, can⟩
    · exact nomatch released
    · exact ⟨description, path, last, can.1, can.2.1, can.2.2.1⟩
  · intro readable
    cases bootCurrent with
    | none => exact ⟨0, ⟨false, true⟩, rfl, rfl, fun _ _ same => (nomatch same)⟩
    | some number =>
      cases found : bootOptions number with
      | none =>
        refine ⟨0, ⟨false, true⟩, ?_, rfl, ?_⟩
        · simp only [bootCurrentIsInternalShell, found]
        · rintro other option same there
          rw [← Option.some.inj same, found] at there
          exact nomatch there
      | some bootOption =>
        obtain ⟨description, path, last, same, chain, whole⟩ :=
          readable number bootOption rfl found
        obtain ⟨rounds, run⟩ := (run_iff found).mpr
          (.inr ⟨description, path, last, same, chain, whole, rfl⟩)
        refine ⟨rounds, _, run, rfl, ?_⟩
        intro other option same' there
        obtain rfl := Option.some.inj same'
        obtain rfl := Option.some.inj (found.symm.trans there)
        obtain rfl := path_unique lib (same.symm.trans option.drop_bytes)
        exact option.namesShell_iff shellFile uefiShellFile chain

/-! ### The services as they are computed -/

/-- `StrSize`: characters are read up to the first that is zero. -/
def strSizeFrom : List UInt8 → Except Fault Nat
  | low :: high :: rest =>
    if leValue [low, high] = 0 then .ok 2 else (strSizeFrom rest).map (2 + ·)
  | _ => .error .outside

theorem strSizeFrom_chars {chars : List UInt16} (unterminated : 0 ∉ chars) (rest : List UInt8) :
    strSizeFrom ((chars ++ [0]).flatMap (fun (char : UInt16) => leBytes 2 char.toNat) ++ rest) =
      .ok (2 * (chars.length + 1)) := by
  induction chars with
  | nil => rfl
  | cons char chars ih =>
    have value : leValue (leBytes 2 char.toNat) = char.toNat := leValue_leBytes_of_lt char.toNat_lt
    have some : leValue (leBytes 2 char.toNat) ≠ 0 := by
      rw [value]
      exact fun none => List.ne_of_not_mem_cons unterminated (UInt16.toNat_inj.mp none).symm
    change (if leValue (leBytes 2 char.toNat) = 0 then Except.ok 2 else (strSizeFrom
      ((chars ++ [0]).flatMap (fun (char : UInt16) => leBytes 2 char.toNat) ++ rest)).map (2 + ·)) =
        _
    rw [if_neg some, ih (List.not_mem_of_not_mem_cons unterminated), List.length_cons]
    have size : 2 + 2 * (chars.length + 1) = 2 * (chars.length + 1 + 1) := by omega
    exact congrArg Except.ok size

theorem strSizeFrom_outside (memory : List UInt8) :
    (∃ (string : Str16) (rest : List UInt8), memory = string.bytes ++ rest) ∨
      strSizeFrom memory = .error .outside := by
  induction memory using strSizeFrom.induct with
  | case1 low high rest zero =>
    have both : low.toNat = 0 ∧ high.toNat = 0 := by
      simp only [leValue] at zero
      omega
    obtain rfl := UInt8.toNat_inj.mp (both.1.trans UInt8.toNat_zero.symm)
    obtain rfl := UInt8.toNat_inj.mp (both.2.trans UInt8.toNat_zero.symm)
    exact .inl ⟨⟨[], List.not_mem_nil⟩, rest, rfl⟩
  | case2 low high rest some ih =>
    rcases ih with ⟨string, rest, rfl⟩ | none
    · have below : leValue [low, high] < 2 ^ 16 := by
        have bytes := leValue_lt [low, high]
        simpa using bytes
      have value : (UInt16.ofNat (leValue [low, high])).toNat = leValue [low, high] :=
        UInt16.toNat_ofNat_of_lt' below
      have char : UInt16.ofNat (leValue [low, high]) ≠ 0 := by
        intro zero
        rw [← UInt16.toNat_inj, value] at zero
        exact some zero
      refine .inl ⟨⟨UInt16.ofNat (leValue [low, high]) :: string.chars, ?_⟩, rest, ?_⟩
      · exact List.not_mem_cons_of_ne_of_not_mem char.symm string.unterminated
      · have bytes : leBytes 2 (leValue [low, high]) = [low, high] := leBytes_leValue [low, high]
        change _ = leBytes 2 (UInt16.ofNat (leValue [low, high])).toNat ++ string.bytes ++ rest
        rw [value, bytes]
        rfl
    · rw [strSizeFrom, if_neg some, none]
      exact .inr rfl
  | case3 memory short =>
    refine .inr ?_
    rw [strSizeFrom]
    exact short

def loadOptionLib : LoadOptionLib where
  strSize := strSizeFrom
  isDevicePathEnd node := if node.length < 2 then .error .outside else .ok (isEnd node)
  nextDevicePathNode node := if node.length < 4 then .error .outside else .ok (nextNode node)
  efiGetNameGuidFromFwVolDevicePathNode node :=
    .ok (if isFwVolFile node then some (node.drop 4) else none)
  compareGuid memory guid :=
    if memory.length < 16 then .error .outside else .ok (memory.take 16 = guid)
  size_string string rest := strSizeFrom_chars string.unterminated rest
  size_outside memory none := (strSizeFrom_outside memory).resolve_left none
  end_node _ header := if_neg (Nat.not_lt.mpr header)
  end_outside _ short := .inl (if_pos short)
  next_node _ header := if_neg (Nat.not_lt.mpr header)
  next_outside _ short := if_pos short
  name_node _ _ := rfl
  compare_guid _ _ := rfl

/-- An option with an empty description and a node that claims no length. -/
def stillOption : List UInt8 := [1, 0, 0, 0, 8, 0, 0, 0, 4, 6, 0, 0, 0x7F, 0xFF, 4, 0]

/-- The walk does not get past that node. -/
theorem bootCurrentIsInternalShell_not_bounded :
    ¬ ParsedWell loadOptionLib (List.replicate 16 1) (List.replicate 16 2) (some 0)
      (fun _ => some stillOption) := by
  rintro ⟨rounds, outcome, run, -⟩
  obtain ⟨size, sized, run⟩ := bind_ok run
  obtain rfl : 2 = size := Except.ok.inj sized
  obtain ⟨last, walked, -⟩ := bind_ok run
  exact lastNode_stuck rfl rfl walked

end MuRockchip.Boot
