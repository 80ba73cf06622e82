/-
The media of the RK3399 MMC driver, over insertions and removals (`Mmc.c`, `MmcBlockIo.c`).

A timer looks into every slot. Where a card has come or gone the instance is initialized anew,
or its media is marked as gone; how the initialization ends is not looked at, so a card that
fails in the middle of it leaves its instance as it is then. Block I/O goes by the media.

* `initializeMmcDevice_leaves`: wherever the initialization of a card ends, the block size of
  the media is a power of two of at most 512.
* `cardSlots_safe`: so it is in every slot at any time, and a slot whose last look has found no
  card makes no call for a request.
-/
import MuRockchip.Base.LastRequest
import MuRockchip.Mmc.BlockIo
import MuRockchip.Mmc.IdentificationSafety

namespace MuRockchip.Mmc

open Base Prog

/-! ### What the initialization leaves -/

/-- The size of the blocks is a power of two of at most 512. -/
def SafeMedia (media : Media) : Prop := ∃ shift ≤ 9, media.blockSize.toNat = 2 ^ shift

def Halt.device : Halt → MmcDevice
  | .status _ device => device
  | .polling device => device

/-- Wherever the program ends early, the media is safe, and otherwise it ends with `ok`. -/
def Leaves {β : Type} (program : Ident β) (ok : β → Prop) : Prop :=
  program.Obeys (Discipline.free HostInterface) (fun value _ => ok value)
    (fun halt _ => SafeMedia halt.device.media) ()

def SafeDevice (device : MmcDevice) : Prop := SafeMedia device.media

def Anything {β : Type} : β → Prop := fun _ => True

section

variable {β γ : Type} {program : Ident β} {next : β → Ident γ} {ok : β → Prop} {ok' : γ → Prop}

theorem Leaves.andThen (first : Leaves program ok)
    (later : ∀ value, ok value → Leaves (next value) ok') : Leaves (program >>= next) ok' :=
  Obeys.andThen first fun value _ holds => later value holds

theorem Leaves.steps (first : Leaves program Anything) (later : ∀ value, Leaves (next value) ok') :
    Leaves (program >>= next) ok' :=
  first.andThen fun value _ => later value

theorem leaves_pure {value : β} (holds : ok value) : Leaves (pure value) ok := holds

theorem leaves_ite {condition : Prop} [Decidable condition] {yes no : Ident β}
    (onYes : condition → Leaves yes ok) (onNo : ¬ condition → Leaves no ok) :
    Leaves (if condition then yes else no) ok :=
  obeys_ite.mpr ⟨onYes, onNo⟩

theorem leaves_invoke (op : HostOp) :
    Leaves (@Prog.invoke HostInterface Halt op) Anything :=
  ⟨trivial, fun _ => trivial⟩

end

section

variable {device : MmcDevice}

theorem leaves_orReturn (safe : SafeDevice device) (status : EfiStatus) :
    Leaves (orReturn device status) Anything :=
  leaves_ite (fun _ => safe) fun _ => trivial

theorem leaves_onlyIf {condition : Prop} [Decidable condition] {steps : Ident Unit}
    (leaves : Leaves steps Anything) : Leaves (onlyIf condition steps) Anything :=
  leaves_ite (fun _ => leaves) fun _ => trivial

theorem leaves_command (safe : SafeDevice device) (cmd : CardCommand) (argument : UInt32) :
    Leaves (command device cmd argument) Anything :=
  (leaves_invoke _).steps fun status => leaves_orReturn safe status

theorem leaves_response (safe : SafeDevice device) (type : ResponseType) :
    Leaves (response device type) Anything := by
  refine (leaves_invoke _).steps ?_
  rintro ⟨status, words⟩
  exact (leaves_orReturn safe status).steps fun _ => trivial

theorem leaves_readBlockData (safe : SafeDevice device) (lba length : UInt64) :
    Leaves (readBlockData device lba length) Anything := by
  refine (leaves_invoke _).steps ?_
  rintro ⟨status, bytes⟩
  exact (leaves_orReturn safe status).steps fun _ => trivial

theorem leaves_mmcNotifyState (safe : SafeDevice device) (state : CardState) :
    Leaves (mmcNotifyState device state) SafeDevice := by
  refine (leaves_invoke _).steps fun status => ?_
  have announced : SafeDevice { device with state := state } := safe
  exact Leaves.steps (leaves_orReturn announced status) fun _ => leaves_pure announced

/-! ### eMMC devices -/

theorem emmcGetDeviceState_leaves (safe : SafeDevice device) :
    Leaves (emmcGetDeviceState device) Anything := by
  refine (leaves_command safe _ _).steps fun _ => ?_
  refine (leaves_response safe _).steps fun words => ?_
  exact leaves_ite (fun _ => safe) fun _ => trivial

theorem waitWhile_leaves (safe : SafeDevice device) (left : UInt32) (fuel : Nat) :
    Leaves (waitWhile device left fuel) Anything := by
  induction fuel with
  | zero => exact safe
  | succ fuel ih =>
    refine (emmcGetDeviceState_leaves safe).steps fun state => ?_
    exact leaves_ite (fun _ => ih) fun _ => trivial

theorem emmcSetEXTCSD_leaves (safe : SafeDevice device) (fuel : Nat) (extCmdIndex value : UInt32) :
    Leaves (emmcSetEXTCSD fuel device extCmdIndex value) Anything :=
  (leaves_command safe _ _).steps fun _ => waitWhile_leaves safe _ fuel

theorem tryModes_leaves (safe : SafeDevice device) (fuel : Nat)
    (modes : List (UInt32 × TimingMode)) (last : EfiStatus) :
    Leaves (tryModes fuel device last modes) Anything := by
  induction modes generalizing last with
  | nil => exact leaves_orReturn safe last
  | cons mode rest ih =>
    refine (leaves_invoke _).steps fun status => ?_
    exact leaves_ite (fun _ => ih status) fun _ => emmcSetEXTCSD_leaves safe fuel _ _

theorem initializeEmmcDevice_leaves (safe : SafeDevice device) (fuel : Nat) :
    Leaves (initializeEmmcDevice fuel device) Anything := by
  refine leaves_ite (fun _ => trivial) fun _ => ?_
  refine leaves_ite (fun _ => trivial) fun _ => ?_
  exact (emmcSetEXTCSD_leaves safe fuel _ _).steps fun _ => tryModes_leaves safe fuel _ _

theorem emmcFetch_leaves (safe : SafeDevice device) (fuel : Nat) :
    Leaves (emmcFetch fuel device) SafeDevice := by
  have width : Leaves (do
      let status ← setIos 0 1 .backward
      orReturn device status
      emmcSetEXTCSD fuel device extcsdBusWidth emmcBusWidth1Bit) Anything := by
    refine (leaves_invoke _).steps fun status => ?_
    refine Leaves.steps (leaves_orReturn safe status) fun _ => ?_
    exact emmcSetEXTCSD_leaves safe fuel _ _
  refine (leaves_onlyIf width).steps fun _ => ?_
  refine (leaves_invoke _).steps fun _ => ?_
  refine (leaves_readBlockData safe _ _).steps fun ecsd => ?_
  have fetched : SafeDevice (device.setEcsd ecsd) := safe
  refine Leaves.steps (waitWhile_leaves fetched _ fuel) fun _ => leaves_pure ?_
  exact ⟨9, Nat.le_refl 9, rfl⟩

theorem emmcIdentificationMode_leaves (safe : SafeDevice device) (fuel : Nat) :
    Leaves (emmcIdentificationMode fuel device) SafeDevice := by
  refine (leaves_command safe _ _).steps fun _ => ?_
  refine (leaves_response safe _).steps fun _ => ?_
  have assigned : SafeDevice device.assignRca := safe
  refine (leaves_command assigned _ _).steps fun _ => ?_
  refine (leaves_command assigned _ _).steps fun _ => ?_
  refine (leaves_response assigned _).steps fun csd => ?_
  refine (leaves_invoke _).steps fun _ => ?_
  have known : SafeDevice (device.assignRca.setCsd csd) := safe
  exact emmcFetch_leaves known fuel

/-! ### SD and MMC cards -/

theorem initializeBus_leaves (safe : SafeDevice device) (csd : Response) :
    Leaves (initializeBus device csd) SafeDevice := by
  refine (leaves_command safe _ _).steps fun _ => ?_
  refine (leaves_readBlockData safe _ _).steps fun scr => ?_
  have switched : Leaves (do
      command device .cmd6 switchFunction
      let _ ← readBlockData device 0 64
      pure ()) Anything := by
    refine (leaves_command safe _ _).steps fun _ => ?_
    exact (leaves_readBlockData safe _ _).steps fun _ => trivial
  refine (leaves_onlyIf switched).steps fun _ => ?_
  have widened : Leaves (do
      command device .cmd55 device.rcaArgument
      command device .cmd6 2) Anything :=
    (leaves_command safe _ _).steps fun _ => leaves_command safe _ _
  refine (leaves_onlyIf widened).steps fun _ => ?_
  have clocked : Leaves (do
      let status ← setIos (26 * 1000 * 1000) 4 .backward
      orReturn device status) Anything :=
    (leaves_invoke _).steps fun status => leaves_orReturn safe status
  exact (leaves_onlyIf clocked).steps fun _ => leaves_pure safe

theorem initializeSdMmcDevice_leaves (safe : SafeDevice device) :
    Leaves (initializeSdMmcDevice device) SafeDevice := by
  refine (leaves_command safe _ _).steps fun _ => ?_
  refine (leaves_response safe _).steps fun csd => ?_
  refine (leaves_invoke _).steps fun readOnly => ?_
  have sized : SafeDevice (device.setMedia (mediaBlocks device.cardInfo.cardType csd).1
      (mediaBlocks device.cardInfo.cardType csd).2 readOnly) := (setMedia_sized readOnly).blockSize
  refine (leaves_command sized _ _).steps fun _ => ?_
  refine (leaves_command sized _ _).steps fun _ => ?_
  refine (leaves_response sized _).steps fun status => ?_
  exact leaves_ite (fun _ => leaves_pure sized) fun _ => initializeBus_leaves sized csd

/-! ### The identification -/

theorem askEmmcOnce_leaves (safe : SafeDevice device) : Leaves (askEmmcOnce device) Anything := by
  refine (leaves_invoke _).steps fun status => ?_
  refine leaves_ite (fun _ => trivial) fun _ => (leaves_invoke _).steps ?_
  rintro ⟨status, words⟩
  exact (leaves_orReturn safe status).steps fun _ => trivial

theorem askEmmc_leaves (safe : SafeDevice device) (retries : Nat) :
    Leaves (askEmmc device retries) Anything := by
  induction retries with
  | zero => exact askEmmcOnce_leaves safe
  | succ retries ih =>
    refine (askEmmcOnce_leaves safe).steps ?_
    rintro ⟨status, ocr⟩
    exact leaves_ite (fun _ => trivial) fun _ => ih

theorem askOcr_leaves (safe : SafeDevice device) (cmd : CardCommand) (argument : UInt32) :
    Leaves (askOcr device cmd argument) fun result => SafeDevice result.2 := by
  refine (leaves_invoke _).steps fun status => ?_
  refine leaves_ite (fun _ => leaves_pure safe) fun _ => ?_
  exact (leaves_response safe _).steps fun words => leaves_pure safe

theorem askCard_leaves (safe : SafeDevice device) (isHCS : Bool) :
    Leaves (askCard device isHCS) fun result => SafeDevice result.2 := by
  refine (leaves_invoke _).steps fun (status : EfiStatus) => ?_
  refine leaves_ite (fun _ => ?_) fun _ => ?_
  · have named : SafeDevice (device.setCardType (if isHCS then .sd2 else .sd)) := safe
    exact askOcr_leaves named _ _
  · have named : SafeDevice (device.setCardType .mmc) := safe
    exact askOcr_leaves named _ _

theorem waitForCard_leaves (safe : SafeDevice device) (isHCS : Bool) (timeout : Nat) :
    Leaves (waitForCard isHCS timeout device) SafeDevice := by
  induction timeout generalizing device with
  | zero => exact safe
  | succ timeout ih =>
    refine (askCard_leaves safe isHCS).andThen ?_
    rintro ⟨answered, device⟩ safe
    refine leaves_ite (fun _ => ?_) fun _ => ih safe
    exact leaves_ite (fun _ => leaves_pure safe) fun _ => leaves_pure safe

theorem addressCard_leaves (safe : SafeDevice device) : Leaves (addressCard device) SafeDevice := by
  refine (leaves_mmcNotifyState safe _).andThen fun device safe => ?_
  refine (leaves_command safe _ _).steps fun _ => ?_
  refine (leaves_response safe _).steps fun _ => ?_
  refine (leaves_invoke _).steps fun status => ?_
  refine Leaves.steps (leaves_orReturn safe status) fun _ => ?_
  refine (leaves_command safe _ _).steps fun _ => ?_
  refine (leaves_response safe _).steps fun words => ?_
  have addressed (rca : UInt16) : SafeDevice (device.setRca rca) := safe
  exact leaves_mmcNotifyState (addressed _) _

theorem identifyMemoryCard_leaves (safe : SafeDevice device) :
    Leaves (identifyMemoryCard device) SafeDevice := by
  have checked : Leaves (checkPattern device) Anything := by
    refine (leaves_response safe _).steps fun words => ?_
    exact leaves_ite (fun _ => safe) fun _ => trivial
  refine (leaves_invoke _).steps fun status => ?_
  refine (leaves_onlyIf checked).steps fun _ => ?_
  exact (waitForCard_leaves safe _ _).andThen fun _ => addressCard_leaves

theorem identifyCard_leaves (safe : SafeDevice device) :
    Leaves (identifyCard device) SafeDevice := by
  refine (leaves_invoke _).steps fun (status : EfiStatus) => ?_
  exact leaves_ite (fun _ => safe) fun _ => identifyMemoryCard_leaves safe

theorem mmcIdentificationMode_leaves (safe : SafeDevice device) (fuel : Nat) :
    Leaves (mmcIdentificationMode fuel device) SafeDevice := by
  have announced : Leaves (announceInitialization device) SafeDevice :=
    leaves_ite (fun _ => leaves_mmcNotifyState safe _) fun _ => leaves_pure safe
  refine announced.andThen fun device safe => ?_
  refine (leaves_command safe _ _).steps fun _ => ?_
  refine (leaves_mmcNotifyState safe _).andThen fun device safe => ?_
  refine (askEmmc_leaves safe _).steps ?_
  rintro ⟨status, ocr⟩
  refine leaves_ite (fun _ => ?_) fun _ => identifyCard_leaves safe
  refine leaves_ite (fun _ => safe) fun _ => ?_
  have known (mode : UInt32) : SafeDevice (device.setAccessMode mode) := safe
  exact leaves_ite (fun _ => emmcIdentificationMode_leaves (known _) fuel) fun _ =>
    identifyCard_leaves (known _)

theorem initializeCard_leaves (safe : SafeDevice device) (fuel : Nat) :
    Leaves (initializeCard fuel device) SafeDevice := by
  refine leaves_ite (fun _ => initializeSdMmcDevice_leaves safe) fun _ => ?_
  exact Leaves.steps (initializeEmmcDevice_leaves safe fuel) fun _ => leaves_pure safe

theorem initializeMmcDevice_leaves (safe : SafeDevice device) (fuel : Nat) :
    Leaves (initializeMmcDevice fuel device) SafeDevice := by
  refine (mmcIdentificationMode_leaves safe fuel).andThen fun device safe => ?_
  refine (leaves_mmcNotifyState safe _).andThen fun device safe => ?_
  refine (initializeCard_leaves safe fuel).andThen fun device safe => ?_
  refine (leaves_command safe _ _).steps fun _ => ?_
  exact (leaves_onlyIf (leaves_command safe _ _)).steps fun _ => leaves_pure safe

end

/-! ### The slots -/

/-- An instance of the driver, with its `Initialized`, and whether its host transfers several
blocks at once. -/
structure CardSlot where
  initialized : Bool
  device : MmcDevice
  multiBlock : Bool

/-- `mMmcHostPool` and `mEmmcRcaCount`. -/
structure CardPool where
  slots : List CardSlot
  emmcRcaCount : UInt32

/-- `CreateMmcHostInstance`, with the media of `mMmcMediaTemplate`. -/
def createMmcHostInstance (hasSetIos multiBlock : Bool) : CardSlot where
  initialized := false
  device :=
    { state := .hwInitialization
      cardInfo := ⟨0, .unknown, 0, 0, ⟨0, 0, 0, 0⟩, 0, 0⟩
      media :=
        { mediaId := 0x6F636D6D
          mediaPresent := false
          readOnly := false
          blockSize := 512
          ioAlign := 4
          lastBlock := 0
          logicalBlocksPerPhysicalBlock := 0 }
      hasSetIos := hasSetIos
      emmcRcaCount := 0 }
  multiBlock := multiBlock

/-- What a look into a slot finds: whether a card is present, and the host that answers if the
card is initialized, which is polled at most so often in a row. -/
structure Look (σ : Type) where
  present : Bool
  host : Handler HostInterface σ
  hostState : σ
  fuel : Nat

/-- The device that `InitializeMmcDevice` leaves, unless it is still waiting for the card. -/
def deviceLeft {σ : Type} : Option (Except Halt MmcDevice × σ) → Except Unit MmcDevice
  | some (.ok device, _) => .ok device
  | some (.error (.status _ device), _) => .ok device
  | some (.error (.polling _), _) => .error ()
  | none => .error ()

/-- The device when a look finds that a card has come or gone. -/
def CardSlot.changed (slot : CardSlot) (emmcRcaCount : UInt32) : MmcDevice :=
  { slot.device with
    state := .hwInitialization
    media := { slot.device.media with mediaPresent := !slot.initialized }
    emmcRcaCount := emmcRcaCount }

section

variable {σ : Type}

/-- A turn of the loop of `CheckCardsCallback`. -/
def checkSlot (look : Look σ) (emmcRcaCount : UInt32) (slot : CardSlot) :
    Except Unit (CardSlot × UInt32) :=
  if look.present = !slot.initialized then
    let device := slot.changed emmcRcaCount
    if device.media.mediaPresent then do
      -- the status is not looked at
      let device ← deviceLeft ((initializeMmcDevice look.fuel device).exec look.host look.hostState)
      pure ({ slot with initialized := !slot.initialized, device := device }, device.emmcRcaCount)
    else pure ({ slot with initialized := !slot.initialized, device := device }, emmcRcaCount)
  else pure (slot, emmcRcaCount)

/-- The loop, from a slot of the pool on. -/
def checkCards (looks : Nat → Look σ) :
    Nat → UInt32 → List CardSlot → Except Unit (List CardSlot × UInt32)
  | _, emmcRcaCount, [] => pure ([], emmcRcaCount)
  | index, emmcRcaCount, slot :: rest => do
    let checked ← checkSlot (looks index) emmcRcaCount slot
    let others ← checkCards looks (index + 1) checked.2 rest
    pure (checked.1 :: others.1, others.2)

def checkCardsCallback (looks : Nat → Look σ) (pool : CardPool) : Except Unit CardPool := do
  let checked ← checkCards looks 0 pool.emmcRcaCount pool.slots
  pure ⟨checked.1, checked.2⟩

/-- `MmcDriverBindingStart`, where an instance can be created. -/
def mmcDriverBindingStart (hasSetIos multiBlock : Bool) (looks : Nat → Look σ) (pool : CardPool) :
    Except Unit CardPool :=
  checkCardsCallback looks
    { pool with slots := pool.slots ++ [createMmcHostInstance hasSetIos multiBlock] }

/-- `MmcReset`: without a card, the settings of the media are cleared. -/
def mmcReset (present : Bool) (slot : CardSlot) : CardSlot :=
  if present then slot
  else { slot with device := { slot.device with
    state := .hwInitialization
    media := { slot.device.media with
      mediaPresent := false
      lastBlock := 0
      blockSize := 512
      readOnly := false } } }

/-- What happens to the pool. Block I/O leaves it as it is. -/
inductive PoolEvent (σ : Type)
  | start (hasSetIos multiBlock : Bool) (looks : Nat → Look σ)
  | timer (looks : Nat → Look σ)
  | reset (slot : Nat) (present : Bool)

def servePool (pool : CardPool) : PoolEvent σ → Except Unit CardPool
  | .start hasSetIos multiBlock looks => mmcDriverBindingStart hasSetIos multiBlock looks pool
  | .timer looks => checkCardsCallback looks pool
  | .reset slot present => pure { pool with slots := pool.slots.modify slot (mmcReset present) }

end

/-- The instance, as block I/O goes by it. -/
def CardSlot.host (slot : CardSlot) (safe : SafeDevice slot.device) : MmcHostInstance where
  media :=
    { mediaId := slot.device.media.mediaId
      mediaPresent := slot.device.media.mediaPresent
      readOnly := slot.device.media.readOnly
      blockSize := slot.device.media.blockSize
      ioAlign := slot.device.media.ioAlign
      lastBlock := slot.device.media.lastBlock
      powerOfTwo := safe }
  rca := slot.device.cardInfo.rca
  sectorMode := slot.device.cardInfo.ocrData &&& ocrAccessMode = bit30
  multiBlock := slot.multiBlock

/-- The media is safe, and is there only where a card is known to be. -/
structure SlotSafe (slot : CardSlot) : Prop where
  media : SafeDevice slot.device
  known : slot.device.media.mediaPresent = true → slot.initialized = true

/-- What the rest of the system may rely on. -/
structure PoolSafe (σ : Type) (pool : CardPool) : Prop where
  media : ∀ slot ∈ pool.slots, SafeDevice slot.device
  /-- After a look, a slot knows whether a card is there. -/
  looked : ∀ (looks : Nat → Look σ) next, checkCardsCallback looks pool = .ok next →
    ∀ index slot, next.slots[index]? = some slot → slot.initialized = (looks index).present
  /-- Where no card is known to be, a request is refused, with no call to the host. -/
  refuses : ∀ slot ∈ pool.slots, slot.initialized = false →
    ∀ (safe : SafeDevice slot.device) answers fuel request, ∃ status,
      EfiStatus.isError status = true ∧
        (slot.host safe).mmcIoBlocks answers fuel request = some (status, [])

section

variable {σ : Type} {slot : CardSlot}

theorem deviceLeft_safe {device left : MmcDevice} (safe : SafeDevice device) (look : Look σ)
    (ended : deviceLeft ((initializeMmcDevice look.fuel device).exec look.host look.hostState) =
      .ok left) : SafeDevice left := by
  have leaves := Obeys.concludes (initializeMmcDevice_leaves safe look.fuel) look.host
    look.hostState
  cases outcome : (initializeMmcDevice look.fuel device).exec look.host look.hostState with
  | none =>
    rw [outcome] at ended
    cases ended
  | some result =>
    rw [outcome] at ended
    obtain ⟨halt | device, state⟩ := result
    · cases halt with
      | status status device =>
        cases ended
        exact leaves _ outcome
      | polling device => cases ended
    · cases ended
      exact leaves _ outcome

variable {emmcRcaCount : UInt32} {looks : Nat → Look σ} {after pool : CardPool}

theorem checkSlot_safe {look : Look σ} {next : CardSlot × UInt32} (safe : SlotSafe slot)
    (checked : checkSlot look emmcRcaCount slot = .ok next) :
    SlotSafe next.1 ∧ next.1.initialized = look.present := by
  have begun : SafeDevice (slot.changed emmcRcaCount) := safe.media
  rw [checkSlot] at checked
  split at checked
  · rename_i changed
    dsimp only at checked
    split at checked
    · rename_i arrived
      cases left : deviceLeft ((initializeMmcDevice look.fuel (slot.changed emmcRcaCount)).exec
          look.host look.hostState) with
      | error fault =>
        rw [left] at checked
        cases checked
      | ok device =>
        rw [left] at checked
        cases checked
        exact ⟨⟨deviceLeft_safe begun look left, fun _ => arrived⟩, changed.symm⟩
    · rename_i gone
      cases checked
      exact ⟨⟨begun, fun present => absurd present gone⟩, changed.symm⟩
  · rename_i same
    cases checked
    refine ⟨safe, ?_⟩
    revert same
    cases slot.initialized <;> cases look.present <;> decide

theorem checkCards_safe {slots : List CardSlot} {first : Nat} {after : List CardSlot × UInt32}
    (safe : ∀ slot ∈ slots, SlotSafe slot)
    (checked : checkCards looks first emmcRcaCount slots = .ok after) :
    (∀ slot ∈ after.1, SlotSafe slot) ∧
      ∀ index slot, after.1[index]? = some slot →
        slot.initialized = (looks (first + index)).present := by
  induction slots generalizing first emmcRcaCount after with
  | nil =>
    cases checked
    exact ⟨fun _ member => absurd member List.not_mem_nil, fun _ _ found => by simp at found⟩
  | cons slot rest ih =>
    rw [List.forall_mem_cons] at safe
    obtain ⟨next, here, checked⟩ := bind_eq_ok checked
    obtain ⟨others, later, checked⟩ := bind_eq_ok checked
    cases checked
    obtain ⟨nextSafe, found⟩ := checkSlot_safe safe.1 here
    obtain ⟨othersSafe, othersFound⟩ := ih safe.2 later
    refine ⟨List.forall_mem_cons.mpr ⟨nextSafe, othersSafe⟩, fun index slot there => ?_⟩
    cases index with
    | zero =>
      cases there
      exact found
    | succ index =>
      rw [othersFound index slot there, Nat.add_assoc, Nat.add_comm 1 index]

theorem checkCardsCallback_safe (safe : ∀ slot ∈ pool.slots, SlotSafe slot)
    (checked : checkCardsCallback looks pool = .ok after) :
    (∀ slot ∈ after.slots, SlotSafe slot) ∧
      ∀ index slot, after.slots[index]? = some slot →
        slot.initialized = (looks index).present := by
  obtain ⟨slots, turned, ended⟩ := bind_eq_ok checked
  cases ended
  obtain ⟨kept, found⟩ := checkCards_safe safe turned
  refine ⟨kept, fun index slot there => ?_⟩
  rw [found index slot there, Nat.zero_add]

theorem mmcReset_safe (present : Bool) (safe : SlotSafe slot) :
    SlotSafe (mmcReset present slot) := by
  rw [mmcReset]
  split
  · exact safe
  · exact ⟨⟨9, Nat.le_refl 9, rfl⟩, fun present => by cases present⟩

theorem createMmcHostInstance_safe (hasSetIos multiBlock : Bool) :
    SlotSafe (createMmcHostInstance hasSetIos multiBlock) :=
  ⟨⟨9, Nat.le_refl 9, rfl⟩, fun present => by cases present⟩

theorem servePool_safe (safe : ∀ slot ∈ pool.slots, SlotSafe slot) (event : PoolEvent σ)
    (served : servePool pool event = .ok after) :
    ∀ slot ∈ after.slots, SlotSafe slot := by
  cases event with
  | start hasSetIos multiBlock looks =>
    refine (checkCardsCallback_safe ?_ served).1
    intro slot member
    rcases List.mem_append.mp member with old | new
    · exact safe slot old
    · obtain rfl := List.mem_singleton.mp new
      exact createMmcHostInstance_safe hasSetIos multiBlock
  | timer looks => exact (checkCardsCallback_safe safe served).1
  | reset index present =>
    cases served
    intro slot member
    obtain ⟨place, there⟩ := List.mem_iff_getElem?.mp member
    rw [List.getElem?_modify] at there
    obtain ⟨before, found, rfl⟩ := Option.map_eq_some_iff.mp there
    have known := safe before (List.mem_of_getElem? found)
    split
    · exact mmcReset_safe present known
    · exact known

theorem runPool_safe (safe : ∀ slot ∈ pool.slots, SlotSafe slot) (events : List (PoolEvent σ))
    (ended : events.foldlM servePool pool = .ok after) :
    ∀ slot ∈ after.slots, SlotSafe slot := by
  induction events generalizing pool with
  | nil =>
    cases ended
    exact safe
  | cons event rest ih =>
    obtain ⟨next, served, later⟩ := foldlM_cons_ok ended
    exact ih (servePool_safe safe event served) later

theorem mmcIoBlocks_noMedia (safe : SafeDevice slot.device)
    (absent : slot.device.media.mediaPresent = false) (answers : Nat → ChunkAnswers) (fuel : Nat)
    (request : BlockRequest) :
    ∃ status, EfiStatus.isError status = true ∧
      (slot.host safe).mmcIoBlocks answers fuel request = some (status, []) := by
  have refused : ∃ status, EfiStatus.isError status = true ∧
      (slot.host safe).checkRequest request = some status := by
    rw [MmcHostInstance.checkRequest]
    split
    · exact ⟨_, rfl, rfl⟩
    split
    · exact ⟨_, rfl, rfl⟩
    rw [if_pos (by simp [CardSlot.host, absent])]
    exact ⟨_, rfl, rfl⟩
  obtain ⟨status, failed, checked⟩ := refused
  refine ⟨status, failed, ?_⟩
  rw [MmcHostInstance.mmcIoBlocks, checked]

theorem mmcIoBlocks_empty (safe : SlotSafe slot) (empty : slot.initialized = false)
    (media : SafeDevice slot.device) (answers : Nat → ChunkAnswers) (fuel : Nat)
    (request : BlockRequest) :
    ∃ status, EfiStatus.isError status = true ∧
      (slot.host media).mmcIoBlocks answers fuel request = some (status, []) := by
  have absent : slot.device.media.mediaPresent = false := by
    cases present : slot.device.media.mediaPresent with
    | false => rfl
    | true =>
      rw [safe.known present] at empty
      cases empty
  exact mmcIoBlocks_noMedia media absent answers fuel request

end

/-- Over insertions, removals and resets, and whatever the hosts and the cards answer. -/
theorem cardSlots_safe {σ : Type} (events : List (PoolEvent σ)) {pool : CardPool}
    (ended : events.foldlM servePool ⟨[], 0⟩ = .ok pool) : PoolSafe σ pool := by
  have safe : ∀ slot ∈ pool.slots, SlotSafe slot :=
    runPool_safe (fun _ member => absurd member List.not_mem_nil) events ended
  refine ⟨fun slot member => (safe slot member).media, ?_, ?_⟩
  · intro looks next checked index slot found
    exact (checkCardsCallback_safe safe checked).2 index slot found
  · intro slot member empty media answers fuel request
    exact mmcIoBlocks_empty (safe slot member) empty media answers fuel request

/-- A card is put into a slot and taken out again. -/
def insertedRemoved : List (PoolEvent Unit) :=
  [.start true true fun _ => ⟨false, sdCardHost, (), 1⟩,
    .timer fun _ => ⟨true, sdCardHost, (), 1⟩,
    .timer fun _ => ⟨false, sdCardHost, (), 1⟩]

theorem cardSlots_safe_removed :
    ∃ pool, insertedRemoved.foldlM servePool ⟨[], 0⟩ = .ok pool ∧ PoolSafe Unit pool :=
  ⟨_, rfl, cardSlots_safe insertedRemoved rfl⟩

end MuRockchip.Mmc
