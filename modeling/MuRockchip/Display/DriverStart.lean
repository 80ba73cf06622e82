/-
Starting and stopping the display driver (`DisplayDxe.c`).

A start detects the display, allocates the mode, sets it and installs the graphics output. All
failures after the first go to one label that takes back what was done; the result of setting the
mode is not looked at. The frame buffer belongs to the module, and outlives a stop.

* `attempted_shows_iff`: a mode that has been set has its frame buffer.
* `allOrNothing_iff`: which starts are all-or-nothing.
* `driverStart_run_iff`: the runs whose starts are.
-/
import MuRockchip.Base.Run
import MuRockchip.Uefi.Types

namespace MuRockchip.Display

open Base

/-! ### The driver -/

/-- What is used of `EFI_GRAPHICS_OUTPUT_MODE_INFORMATION`. -/
structure ModeInformation where
  horizontalResolution : UInt32
  verticalResolution : UInt32
  pixelsPerScanLine : UInt32
  deriving DecidableEq, Repr

/-- `EFI_GRAPHICS_OUTPUT_PROTOCOL_MODE`. -/
structure ProtocolMode where
  maxMode : UInt32
  mode : UInt32
  info : Option ModeInformation
  frameBufferBase : UInt64
  frameBufferSize : UInt64
  deriving DecidableEq, Repr

structure GopModeData where
  width : UInt32
  height : UInt32
  deriving DecidableEq, Repr

/-- The pages of an allocation. -/
structure Pages where
  base : UInt64
  count : UInt64
  deriving DecidableEq, Repr

/-- The statics of the module, with what the firmware holds for it. -/
structure DisplayState where
  /-- `gDisplayProto.Mode`. -/
  protoMode : Option ProtocolMode
  mFbBase : UInt64
  mFbNumPages : UInt64
  /-- The controller is held open under the caller id. -/
  opened : Bool
  /-- The graphics output is installed on the controller. -/
  installed : Bool
  /-- Allocations from pool that have not been given back. -/
  pools : Nat
  /-- Allocations of pages that have not been given back. -/
  pages : List Pages
  deriving DecidableEq, Repr

/-- The module as it is loaded. -/
def DisplayState.loaded : DisplayState where
  protoMode := none
  mFbBase := 0
  mFbNumPages := 0
  opened := false
  installed := false
  pools := 0
  pages := []

/-- What the services answer that a start calls, and what the display says. -/
structure StartAnswers where
  /-- `OpenProtocol`, if the driver does not hold the controller already. -/
  openProtocol : EfiStatus
  /-- The preferred timing, where `DwHdmiDetect` finds a display. -/
  detected : Option GopModeData
  modePool : Bool
  infoPool : Bool
  /-- `AllocatePages`, which never gives the page at zero. -/
  frameBuffer : Option { base : UInt64 // base ≠ 0 }
  setMemoryAttributes : EfiStatus
  installProtocol : EfiStatus
  deriving DecidableEq, Repr

/-! ### Setting the mode -/

def GopModeData.fbSize (data : GopModeData) : UInt64 := (data.width * data.height * 4).toUInt64

def GopModeData.numPages (data : GopModeData) : UInt64 := efiSizeToPages data.fbSize

/-- The frame buffer is replaced where it has fewer pages than are needed. -/
def provideFrameBuffer (state : DisplayState) (numPages : UInt64)
    (frameBuffer : Option { base : UInt64 // base ≠ 0 }) : EfiStatus × DisplayState :=
  if state.mFbNumPages < numPages then
    let freed :=
      if state.mFbNumPages ≠ 0 then
        { state with
          pages := state.pages.erase ⟨state.mFbBase, state.mFbNumPages⟩
          mFbNumPages := 0 }
      else state
    match frameBuffer with
    | none => (EfiStatus.deviceError, { freed with mFbBase := 0xFFFFFFFF })
    | some base =>
        (EfiStatus.success,
          { freed with
            mFbBase := base.val
            mFbNumPages := numPages
            pages := ⟨base.val, numPages⟩ :: freed.pages })
  else (EfiStatus.success, state)

/-- `DisplaySetMode` for a mode of the table. It is called with a mode and its information. What
it draws and programs is not part of the state. -/
def displaySetMode (gopModeData : List GopModeData) (modeNumber : UInt32)
    (answers : StartAnswers) (state : DisplayState) (mode : ProtocolMode)
    (info : ModeInformation) : EfiStatus × DisplayState :=
  match gopModeData[modeNumber.toNat]? with
  | none => (EfiStatus.unsupported, state)
  | some data =>
      if modeNumber ≥ mode.maxMode then (EfiStatus.unsupported, state)
      else
        let provided := provideFrameBuffer state data.numPages answers.frameBuffer
        if provided.1.isError then provided
        else if answers.setMemoryAttributes ≠ EfiStatus.success then
          (answers.setMemoryAttributes, provided.2)
        else
          (EfiStatus.success,
            { provided.2 with
              protoMode := some { mode with
                mode := modeNumber
                info := some { info with
                  horizontalResolution := data.width
                  verticalResolution := data.height
                  pixelsPerScanLine := data.width }
                frameBufferBase := provided.2.mFbBase
                frameBufferSize := (data.width * data.height * 4).toUInt64 } })

/-! ### Starting and stopping -/

/-- The label `Done` for a failed start. There is no answer where it follows a NULL pointer. -/
def done (status : EfiStatus) (state : DisplayState) : Option (EfiStatus × DisplayState) :=
  match state.protoMode with
  | none => none
  | some mode =>
      let informed :=
        match mode.info with
        | some _ => { state with pools := state.pools - 1 }
        | none => state
      some (status,
        { informed with protoMode := none, pools := informed.pools - 1, opened := false })

def ModeInformation.zero : ModeInformation := ⟨0, 0, 0⟩

/-- A pool full of zeros, as the mode. -/
def ProtocolMode.zero : ProtocolMode := ⟨0, 0, none, 0, 0⟩

def driverStart (state : DisplayState) (answers : StartAnswers) :
    Option (EfiStatus × DisplayState) :=
  if state.opened then some (EfiStatus.alreadyStarted, state)
  else if answers.openProtocol.isError then some (answers.openProtocol, state)
  else
    let state := { state with opened := true }
    match answers.detected with
    | none => done EfiStatus.notFound state
    | some data =>
        if answers.modePool = false then
          done EfiStatus.outOfResources { state with protoMode := none }
        else
          let state :=
            { state with protoMode := some ProtocolMode.zero, pools := state.pools + 1 }
          if answers.infoPool = false then done EfiStatus.outOfResources state
          else
            let mode := { ProtocolMode.zero with info := some ModeInformation.zero, maxMode := 1 }
            let state := { state with protoMode := some mode, pools := state.pools + 1 }
            let state :=
              (displaySetMode [data] 0 answers state mode ModeInformation.zero).2
            if answers.installProtocol.isError then done answers.installProtocol state
            else some (answers.installProtocol, { state with installed := true })

/-- `DriverStop`, which clears the screen first. -/
def driverStop (state : DisplayState) (uninstallProtocol : EfiStatus) :
    Option (EfiStatus × DisplayState) :=
  match state.protoMode with
  | none => none
  | some mode =>
      match mode.info with
      | none => none
      | some _ =>
          if uninstallProtocol.isError then some (uninstallProtocol, state)
          else
            some (uninstallProtocol,
              { state with
                protoMode := none
                installed := false
                pools := state.pools - 2
                opened := false })

/-- A call of the driver binding. -/
inductive DriverCall where
  | start (answers : StartAnswers)
  | stop (uninstallProtocol : EfiStatus)
  deriving DecidableEq, Repr

/-- What a call makes of the module, as long as no NULL pointer has been followed. -/
def driverStep (state : Option DisplayState) (call : DriverCall) : Option DisplayState :=
  state.bind fun state =>
    match call with
    | .start answers => (driverStart state answers).map Prod.snd
    | .stop uninstallProtocol => (driverStop state uninstallProtocol).map Prod.snd

/-! ### What a start should do -/

/-- The only pages the module holds are those of its frame buffer. -/
def DisplayState.Accounted (state : DisplayState) : Prop :=
  ∀ pages ∈ state.pages, pages = ⟨state.mFbBase, state.mFbNumPages⟩

/-- The mode of the protocol is that of the display, and its frame buffer is allocated and large
enough for it. -/
def DisplayState.Shows (state : DisplayState) (data : GopModeData) : Prop :=
  ∃ mode info, state.protoMode = some mode ∧ mode.info = some info ∧
    info.horizontalResolution = data.width ∧ info.verticalResolution = data.height ∧
    4 * (data.width.toNat * data.height.toNat) ≤ mode.frameBufferSize.toNat ∧
    ∃ pages ∈ state.pages, mode.frameBufferBase = pages.base ∧
      mode.frameBufferSize.toNat ≤ 4096 * pages.count.toNat

/-- A start follows no NULL pointer, and leaves nothing behind or the display running. -/
def AllOrNothing (state : DisplayState) (answers : StartAnswers) : Prop :=
  ∃ status after, driverStart state answers = some (status, after) ∧
    if status.isError then
      after.protoMode = none ∧ after.opened = false ∧ after.installed = false ∧
        after.pools = state.pools ∧ after.Accounted
    else after.installed = true ∧ ∃ data, answers.detected = some data ∧ after.Shows data

/-- Nothing keeps the mode from being set, and there is something to show or a frame buffer from
before. -/
structure SetsMode (state : DisplayState) (answers : StartAnswers) (data : GopModeData) :
    Prop where
  frameBuffer : data.numPages ≤ state.mFbNumPages ∨ answers.frameBuffer ≠ none
  attributes : answers.setMemoryAttributes = EfiStatus.success
  small : 4 * (data.width.toNat * data.height.toNat) < 2 ^ 32
  some : 0 < data.width.toNat * data.height.toNat ∨ state.mFbNumPages ≠ 0

/-- The driver is not running, and the start fails where its cleanup can take it back, or has its
mode set. -/
def StartMeets (state : DisplayState) (answers : StartAnswers) : Prop :=
  state.opened = false ∧
    (answers.openProtocol.isError = true ∨
      ∃ data, answers.detected = some data ∧ answers.modePool = true ∧
        (answers.infoPool = false ∨ answers.installProtocol.isError = true ∨
          SetsMode state answers data))

/-! ### The frame buffer -/

/-- The module holds its frame buffer, if it has one, and no other pages. -/
structure DisplayState.HoldsFrameBuffer (state : DisplayState) : Prop where
  pages : state.pages =
    if state.mFbNumPages = 0 then [] else [⟨state.mFbBase, state.mFbNumPages⟩]
  base : state.mFbNumPages ≠ 0 → state.mFbBase ≠ 0

variable {state after : DisplayState}

theorem DisplayState.HoldsFrameBuffer.accounted
    (holds : state.HoldsFrameBuffer) : state.Accounted := by
  intro pages member
  rw [holds.pages] at member
  split at member
  · cases member
  · exact List.mem_singleton.mp member

section

variable {state : DisplayState} {numPages : UInt64}
  {frameBuffer : Option { base : UInt64 // base ≠ 0 }}

theorem provideFrameBuffer_frame :
    (provideFrameBuffer state numPages frameBuffer).2 =
      { state with
        mFbBase := (provideFrameBuffer state numPages frameBuffer).2.mFbBase
        mFbNumPages := (provideFrameBuffer state numPages frameBuffer).2.mFbNumPages
        pages := (provideFrameBuffer state numPages frameBuffer).2.pages } := by
  unfold provideFrameBuffer
  split
  · split <;> split <;> rfl
  · rfl

theorem provideFrameBuffer_holds (holds : state.HoldsFrameBuffer) :
    (provideFrameBuffer state numPages frameBuffer).2.HoldsFrameBuffer := by
  have pages := holds.pages
  unfold provideFrameBuffer
  split
  · next fewer =>
    have some : numPages ≠ 0 := by
      rintro rfl
      exact absurd (UInt64.lt_iff_toNat_lt.mp fewer) (Nat.not_lt_zero _)
    have freed : (if state.mFbNumPages ≠ 0 then
        { state with
          pages := state.pages.erase ⟨state.mFbBase, state.mFbNumPages⟩
          mFbNumPages := 0 }
        else state).pages = [] ∧ (if state.mFbNumPages ≠ 0 then
        { state with
          pages := state.pages.erase ⟨state.mFbBase, state.mFbNumPages⟩
          mFbNumPages := 0 }
        else state).mFbNumPages = 0 := by
      by_cases none : state.mFbNumPages = 0
      · simp [none, pages]
      · simp [none, pages]
    cases frameBuffer with
    | none =>
        dsimp only
        refine ⟨?_, fun held => absurd freed.2 held⟩
        dsimp only
        rw [freed.1, freed.2, if_pos rfl]
    | some base =>
        dsimp only
        refine ⟨?_, fun _ => base.property⟩
        dsimp only
        rw [freed.1, if_neg some]
  · exact holds

theorem provideFrameBuffer_succeeds_iff :
    (provideFrameBuffer state numPages frameBuffer).1.isError = false ↔
      numPages ≤ state.mFbNumPages ∨ frameBuffer ≠ none := by
  unfold provideFrameBuffer
  split
  · next fewer =>
    have short : ¬ numPages ≤ state.mFbNumPages := by
      rw [UInt64.le_iff_toNat_le]
      rw [UInt64.lt_iff_toNat_lt] at fewer
      omega
    cases frameBuffer with
    | none => simp [short, EfiStatus.isError_deviceError]
    | some base => simp
  · next enough =>
    have : numPages ≤ state.mFbNumPages := by
      rw [UInt64.le_iff_toNat_le]
      rw [UInt64.lt_iff_toNat_lt] at enough
      omega
    simp [this]

theorem provideFrameBuffer_enough
    (succeeds : (provideFrameBuffer state numPages frameBuffer).1.isError = false) :
    numPages.toNat ≤ (provideFrameBuffer state numPages frameBuffer).2.mFbNumPages.toNat := by
  revert succeeds
  unfold provideFrameBuffer
  split
  · cases frameBuffer with
    | none => intro failed; cases failed
    | some base => intro _; exact le_rfl
  · next enough =>
    intro _
    rw [UInt64.lt_iff_toNat_lt] at enough
    exact Nat.not_lt.mp enough

theorem provideFrameBuffer_some_iff
    (succeeds : (provideFrameBuffer state numPages frameBuffer).1.isError = false) :
    (provideFrameBuffer state numPages frameBuffer).2.mFbNumPages ≠ 0 ↔
      numPages ≠ 0 ∨ state.mFbNumPages ≠ 0 := by
  revert succeeds
  unfold provideFrameBuffer
  split
  · next fewer =>
    have some : numPages ≠ 0 := by
      rintro rfl
      exact absurd (UInt64.lt_iff_toNat_lt.mp fewer) (Nat.not_lt_zero _)
    cases frameBuffer with
    | none => intro failed; cases failed
    | some base =>
        intro _
        exact iff_of_true some (.inl some)
  · next enough =>
    intro _
    constructor
    · exact .inr
    · rintro (some | some)
      · rintro none
        rw [none, UInt64.lt_iff_toNat_lt] at enough
        exact some (UInt64.toNat_inj.mp (Nat.le_zero.mp (Nat.not_lt.mp enough)))
      · exact some

end

/-! ### Setting the mode of a start -/

/-- The bytes of the frame buffer of a mode, if they can be counted in 32 bits. -/
theorem fbSize_toNat (data : GopModeData) : data.fbSize.toNat =
    4 * (data.width.toNat * data.height.toNat) % 2 ^ 32 := by
  have four : (4 : UInt32).toNat = 4 := rfl
  rw [GopModeData.fbSize, UInt32.toNat_toUInt64, UInt32.toNat_mul, UInt32.toNat_mul, four]
  omega

theorem numPages_toNat (data : GopModeData) :
    data.numPages.toNat = (data.fbSize.toNat + 4095) / 4096 :=
  efiSizeToPages_toNat data.fbSize

def ProtocolMode.allocated : ProtocolMode :=
  { ProtocolMode.zero with info := some ModeInformation.zero, maxMode := 1 }

def attempted (state : DisplayState) (answers : StartAnswers) (data : GopModeData) :
    DisplayState :=
  (displaySetMode [data] 0 answers
    { state with
      opened := true
      protoMode := some ProtocolMode.allocated
      pools := state.pools + 1 + 1 } ProtocolMode.allocated ModeInformation.zero).2

section

variable {state : DisplayState} {answers : StartAnswers} {data : GopModeData}

theorem provided_eq (state : DisplayState) (answers : StartAnswers) (data : GopModeData) :
    provideFrameBuffer
        { state with
          opened := true
          protoMode := some ProtocolMode.allocated
          pools := state.pools + 1 + 1 } data.numPages answers.frameBuffer =
      ((provideFrameBuffer state data.numPages answers.frameBuffer).1,
        { (provideFrameBuffer state data.numPages answers.frameBuffer).2 with
          opened := true
          protoMode := some ProtocolMode.allocated
          pools := state.pools + 1 + 1 }) := by
  unfold provideFrameBuffer
  dsimp only
  by_cases fewer : state.mFbNumPages < data.numPages
  · rw [if_pos fewer, if_pos fewer]
    by_cases held : state.mFbNumPages ≠ 0
    · rw [if_pos held, if_pos held]
      cases answers.frameBuffer <;> rfl
    · rw [if_neg held, if_neg held]
      cases answers.frameBuffer <;> rfl
  · rw [if_neg fewer, if_neg fewer]

/-- A mode is set, or the start goes on with the zeros it has allocated. -/
theorem attempted_eq : attempted state answers data =
    let provided := provideFrameBuffer state data.numPages answers.frameBuffer
    { provided.2 with
      opened := true
      pools := state.pools + 1 + 1
      protoMode := some
        (if provided.1.isError = false ∧ answers.setMemoryAttributes = EfiStatus.success then
          { ProtocolMode.allocated with
            info := some ⟨data.width, data.height, data.width⟩
            frameBufferBase := provided.2.mFbBase
            frameBufferSize := data.fbSize }
        else ProtocolMode.allocated) } := by
  rw [attempted]
  unfold displaySetMode
  show (if (0 : UInt32) ≥ 1 then (EfiStatus.unsupported, _) else _).2 = _
  rw [if_neg (by decide)]
  dsimp only
  rw [provided_eq]
  generalize provideFrameBuffer state data.numPages answers.frameBuffer = provided
  dsimp only
  cases failed : provided.1.isError with
  | true =>
      simp
  | false =>
      by_cases set : answers.setMemoryAttributes = EfiStatus.success
      · simp [set, ProtocolMode.allocated, ProtocolMode.zero, GopModeData.fbSize]
      · simp [set]

variable (state answers data)

/-- What a start leaves alone, whether it sets the mode or not. -/
theorem attempted_frame : (attempted state answers data).opened = true ∧
    (attempted state answers data).installed = state.installed ∧
    (attempted state answers data).pools = state.pools + 1 + 1 := by
  rw [attempted_eq]
  refine ⟨rfl, ?_, rfl⟩
  dsimp only
  rw [provideFrameBuffer_frame]

theorem attempted_informed : ∃ mode info,
    (attempted state answers data).protoMode = some mode ∧ mode.info = some info := by
  rw [attempted_eq]
  dsimp only
  split
  · exact ⟨_, _, rfl, rfl⟩
  · exact ⟨_, _, rfl, rfl⟩

variable {state}

theorem attempted_holds (holds : state.HoldsFrameBuffer) :
    (attempted state answers data).HoldsFrameBuffer := by
  have held : (provideFrameBuffer state data.numPages answers.frameBuffer).2.HoldsFrameBuffer :=
    provideFrameBuffer_holds holds
  rw [attempted_eq]
  exact ⟨held.pages, held.base⟩

variable {answers data}

/-- The mode that is installed is that of the display exactly if it could be set. -/
theorem attempted_shows_iff (holds : state.HoldsFrameBuffer) :
    (attempted state answers data).Shows data ↔ SetsMode state answers data := by
  have size := fbSize_toNat data
  have held : (provideFrameBuffer state data.numPages answers.frameBuffer).2.HoldsFrameBuffer :=
    provideFrameBuffer_holds holds
  constructor
  · rintro ⟨mode, info, isMode, -, -, -, large, pages, member, isBase, -⟩
    rw [attempted_eq] at isMode member
    dsimp only at isMode member
    have some : (provideFrameBuffer state data.numPages answers.frameBuffer).2.mFbNumPages ≠ 0 := by
      intro none
      rw [held.pages, if_pos none] at member
      cases member
    rw [held.pages, if_neg some, List.mem_singleton] at member
    subst member
    split at isMode
    · next set =>
      obtain ⟨succeeds, attributes⟩ := set
      obtain rfl := Option.some_inj.mp isMode
      dsimp only at large
      refine ⟨provideFrameBuffer_succeeds_iff.mp succeeds, attributes, by omega, ?_⟩
      refine ((provideFrameBuffer_some_iff succeeds).mp some).imp_left ?_
      intro needed
      by_contra empty
      refine needed (UInt64.toNat_inj.mp ?_)
      rw [numPages_toNat, size, Nat.eq_zero_of_not_pos empty]
      rfl
    · obtain rfl := Option.some_inj.mp isMode
      exact absurd isBase.symm (held.base some)
  · rintro ⟨frameBuffer, attributes, small, some⟩
    have succeeds := provideFrameBuffer_succeeds_iff.mpr frameBuffer
    have enough := provideFrameBuffer_enough succeeds
    have pages := numPages_toNat data
    have present : (provideFrameBuffer state data.numPages answers.frameBuffer).2.mFbNumPages ≠
        0 := by
      refine (provideFrameBuffer_some_iff succeeds).mpr (some.imp_left ?_)
      rintro visible none
      rw [none] at pages
      have : (0 : UInt64).toNat = 0 := rfl
      omega
    have member := held.pages
    rw [if_neg present] at member
    rw [attempted_eq]
    dsimp only
    rw [if_pos ⟨succeeds, attributes⟩, member]
    refine ⟨_, _, rfl, rfl, rfl, rfl, ?_, _, List.mem_singleton_self _, rfl, ?_⟩
    · dsimp only
      omega
    · dsimp only
      omega

end

/-! ### The states between the calls -/

/-- The driver is not running. -/
structure DisplayState.Stopped (state : DisplayState) : Prop where
  protoMode : state.protoMode = none
  opened : state.opened = false
  installed : state.installed = false
  holds : state.HoldsFrameBuffer

/-- The driver is running. -/
structure DisplayState.Started (state : DisplayState) : Prop where
  protoMode : ∃ mode info, state.protoMode = some mode ∧ mode.info = some info
  opened : state.opened = true
  holds : state.HoldsFrameBuffer

/-- The module is stopped or started, as long as no NULL pointer has been followed. -/
def Sound (state : Option DisplayState) : Prop :=
  ∀ current, state = some current → current.Stopped ∨ current.Started

section

variable {state : DisplayState} {answers : StartAnswers}

theorem done_of_informed {status : EfiStatus} {mode : ProtocolMode} {info : ModeInformation}
    (isMode : state.protoMode = some mode) (isInfo : mode.info = some info) :
    done status state = some (status,
      { state with protoMode := none, pools := state.pools - 1 - 1, opened := false }) := by
  rw [done, isMode]
  dsimp only
  rw [isInfo]

theorem driverStart_attempted (stopped : state.opened = false)
    (opens : answers.openProtocol.isError = false) {data : GopModeData}
    (detected : answers.detected = some data) (modePool : answers.modePool = true)
    (infoPool : answers.infoPool = true) :
    driverStart state answers =
      if answers.installProtocol.isError then
        done answers.installProtocol (attempted state answers data)
      else
        some (answers.installProtocol,
          { attempted state answers data with installed := true }) := by
  rw [driverStart, if_neg (by rw [stopped]; exact Bool.false_ne_true),
    if_neg (by rw [opens]; exact Bool.false_ne_true), detected]
  dsimp only
  rw [if_neg (by rw [modePool]; decide), if_neg (by rw [infoPool]; decide)]
  rfl

theorem allOrNothing_of_failed {status : EfiStatus} {after : DisplayState}
    (ends : driverStart state answers = some (status, after)) (failed : status.isError = true)
    (stopped : after.Stopped) (pools : after.pools = state.pools) :
    AllOrNothing state answers := by
  refine ⟨status, after, ends, ?_⟩
  rw [if_pos failed]
  exact ⟨stopped.protoMode, stopped.opened, stopped.installed, pools, stopped.holds.accounted⟩

/-- How a start of a driver that is not running ends. -/
inductive StartEnds (state : DisplayState) (answers : StartAnswers) : Prop where
  | crashed (ends : driverStart state answers = none) (fails : ¬ StartMeets state answers)
  | failed (status : EfiStatus) (after : DisplayState)
      (ends : driverStart state answers = some (status, after)) (error : status.isError = true)
      (stopped : after.Stopped) (pools : after.pools = state.pools)
      (meets : StartMeets state answers)
  | installed (data : GopModeData) (detected : answers.detected = some data)
      (ends : driverStart state answers = some (answers.installProtocol,
        { attempted state answers data with installed := true }))
      (success : answers.installProtocol.isError = false)
      (meets_iff : StartMeets state answers ↔ SetsMode state answers data)

theorem startEnds (answers : StartAnswers) (stopped : state.Stopped) :
    StartEnds state answers := by
  have closed := stopped.opened
  have reaches : ¬ state.opened = true := by
    rw [closed]
    exact Bool.false_ne_true
  cases opens : answers.openProtocol.isError with
  | true =>
      refine .failed answers.openProtocol state ?_ opens stopped rfl ⟨closed, .inl opens⟩
      rw [driverStart, if_neg reaches, if_pos opens]
  | false =>
      have goes : ¬ answers.openProtocol.isError = true := by
        rw [opens]
        exact Bool.false_ne_true
      cases detected : answers.detected with
      | none =>
          refine .crashed ?_ ?_
          · rw [driverStart, if_neg reaches, if_neg goes, detected]
            dsimp only
            rw [done, stopped.protoMode]
          · simp [StartMeets, opens, detected]
      | some data =>
          cases modePool : answers.modePool with
          | false =>
              refine .crashed ?_ ?_
              · rw [driverStart, if_neg reaches, if_neg goes, detected]
                dsimp only
                rw [if_pos modePool]
                rfl
              · simp [StartMeets, opens, modePool]
          | true =>
              have allocated : ¬ answers.modePool = false := by
                rw [modePool]
                decide
              cases infoPool : answers.infoPool with
              | false =>
                  have meets : StartMeets state answers :=
                    ⟨closed, .inr ⟨data, detected, modePool, .inl infoPool⟩⟩
                  refine .failed EfiStatus.outOfResources
                    { state with protoMode := none, pools := state.pools + 1 - 1, opened := false }
                    ?_ rfl ⟨rfl, rfl, stopped.installed, stopped.holds.1, stopped.holds.2⟩ rfl meets
                  rw [driverStart, if_neg reaches, if_neg goes, detected]
                  dsimp only
                  rw [if_neg allocated, if_pos infoPool]
                  rfl
              | true =>
                  have ends := driverStart_attempted closed opens detected modePool infoPool
                  cases install : answers.installProtocol.isError with
                  | true =>
                      obtain ⟨mode, info, isMode, isInfo⟩ := attempted_informed state answers data
                      obtain ⟨-, idle, pools⟩ := attempted_frame state answers data
                      have holds := attempted_holds answers data stopped.holds
                      rw [if_pos install, done_of_informed isMode isInfo] at ends
                      refine .failed _ _ ends install
                        ⟨rfl, rfl, idle.trans stopped.installed, holds.1, holds.2⟩ ?_
                        ⟨closed, .inr ⟨data, detected, modePool, .inr (.inl install)⟩⟩
                      dsimp only
                      rw [pools]
                      rfl
                  | false =>
                      rw [if_neg (by rw [install]; exact Bool.false_ne_true)] at ends
                      refine .installed data detected ends install ?_
                      simp [StartMeets, closed, opens, detected, modePool, infoPool, install]

theorem allOrNothing_iff (sound : state.Stopped ∨ state.Started) :
    AllOrNothing state answers ↔ StartMeets state answers := by
  rcases sound with stopped | started
  · cases startEnds answers stopped with
    | crashed ends fails =>
        refine iff_of_false ?_ fails
        rintro ⟨status, after, returned, -⟩
        cases ends.symm.trans returned
    | failed status after ends error stopped pools meets =>
        exact iff_of_true (allOrNothing_of_failed ends error stopped pools) meets
    | installed data detected ends success meets_iff =>
        rw [meets_iff, ← attempted_shows_iff stopped.holds]
        have works : ¬ answers.installProtocol.isError = true := by
          rw [success]
          exact Bool.false_ne_true
        constructor
        · rintro ⟨status, after, returned, holds⟩
          obtain ⟨rfl, rfl⟩ := Prod.mk.inj (Option.some_inj.mp (ends.symm.trans returned))
          rw [if_neg works] at holds
          obtain ⟨-, other, named, shows⟩ := holds
          obtain rfl := Option.some_inj.mp (detected.symm.trans named)
          exact shows
        · intro shows
          refine ⟨_, _, ends, ?_⟩
          rw [if_neg works]
          exact ⟨rfl, data, detected, shows⟩
  · have already : driverStart state answers = some (EfiStatus.alreadyStarted, state) := by
      rw [driverStart, if_pos started.opened]
    refine iff_of_false ?_ ?_
    · rintro ⟨status, after, ends, holds⟩
      obtain ⟨rfl, rfl⟩ := Prod.mk.inj (Option.some_inj.mp (already.symm.trans ends))
      rw [if_pos (by rfl)] at holds
      obtain ⟨mode, info, isMode, -⟩ := started.protoMode
      rw [isMode] at holds
      cases holds.1
    · rintro ⟨closed, -⟩
      rw [started.opened] at closed
      cases closed

end

/-! ### Runs -/

/-- The starts of a run that get to run are all-or-nothing. -/
def CallAllOrNothing (state : Option DisplayState) (call : DriverCall) : Prop :=
  ∀ current, state = some current → ∀ answers, call = .start answers →
    AllOrNothing current answers

/-- The starts of a run meet the condition. -/
def CallMeets (state : Option DisplayState) (call : DriverCall) : Prop :=
  ∀ current, state = some current → ∀ answers, call = .start answers →
    StartMeets current answers

theorem loaded_stopped : DisplayState.loaded.Stopped :=
  ⟨rfl, rfl, rfl, rfl, fun some => absurd rfl some⟩

theorem driverStart_sound {answers : StartAnswers} {status : EfiStatus}
    (sound : state.Stopped ∨ state.Started)
    (ends : driverStart state answers = some (status, after)) :
    after.Stopped ∨ after.Started := by
  rcases sound with stopped | started
  · cases startEnds answers stopped with
    | crashed crashed fails => cases crashed.symm.trans ends
    | failed status other returned error stopped pools meets =>
        obtain ⟨-, rfl⟩ := Prod.mk.inj (Option.some_inj.mp (returned.symm.trans ends))
        exact .inl stopped
    | installed data detected returned success meets_iff =>
        obtain ⟨-, rfl⟩ := Prod.mk.inj (Option.some_inj.mp (returned.symm.trans ends))
        have holds := attempted_holds answers data stopped.holds
        exact .inr ⟨attempted_informed state answers data, (attempted_frame state answers data).1,
          holds.1, holds.2⟩
  · rw [driverStart, if_pos started.opened] at ends
    obtain ⟨-, rfl⟩ := Prod.mk.inj (Option.some_inj.mp ends)
    exact .inr started

theorem driverStop_sound {uninstallProtocol status : EfiStatus}
    (sound : state.Stopped ∨ state.Started)
    (ends : driverStop state uninstallProtocol = some (status, after)) :
    after.Stopped ∨ after.Started := by
  rcases sound with stopped | started
  · rw [driverStop, stopped.protoMode] at ends
    cases ends
  · obtain ⟨mode, info, isMode, isInfo⟩ := started.protoMode
    rw [driverStop, isMode] at ends
    dsimp only at ends
    rw [isInfo] at ends
    dsimp only at ends
    split at ends
    · obtain ⟨-, rfl⟩ := Prod.mk.inj (Option.some_inj.mp ends)
      exact .inr started
    · obtain ⟨-, rfl⟩ := Prod.mk.inj (Option.some_inj.mp ends)
      exact .inl ⟨rfl, rfl, rfl, started.holds.1, started.holds.2⟩

theorem driverStep_sound (state : Option DisplayState) (call : DriverCall)
    (sound : Sound state) : Sound (driverStep state call) := by
  intro after reached
  obtain ⟨current, rfl, next⟩ := Option.bind_eq_some_iff.mp reached
  cases call with
  | start answers =>
      obtain ⟨⟨status, last⟩, ends, rfl⟩ := Option.map_eq_some_iff.mp next
      exact driverStart_sound (sound current rfl) ends
  | stop uninstallProtocol =>
      obtain ⟨⟨status, last⟩, ends, rfl⟩ := Option.map_eq_some_iff.mp next
      exact driverStop_sound (sound current rfl) ends

/-- The starts of a run are all-or-nothing exactly if each is made while the driver is not
running, and fails where its cleanup can take it back or has its mode set. -/
theorem driverStart_run_iff (calls : List DriverCall) :
    AllSteps driverStep CallAllOrNothing (some DisplayState.loaded) calls ↔
      AllSteps driverStep CallMeets (some DisplayState.loaded) calls := by
  have initial : Sound (some DisplayState.loaded) := by
    rintro current same
    obtain rfl := Option.some_inj.mp same
    exact .inl loaded_stopped
  refine AllSteps.congr_of_invariant (fun state call sound _ => driverStep_sound state call sound)
    ?_ initial
  intro state call sound
  constructor
  · intro holds current same answers started
    exact (allOrNothing_iff (sound current same)).mp (holds current same answers started)
  · intro meets current same answers started
    exact (allOrNothing_iff (sound current same)).mpr (meets current same answers started)

/-- A start without a display plugged in. -/
def unplugged : StartAnswers where
  openProtocol := EfiStatus.success
  detected := none
  modePool := true
  infoPool := true
  frameBuffer := none
  setMemoryAttributes := EfiStatus.success
  installProtocol := EfiStatus.success

/-- The cleanup after a start without a display follows the mode, which is NULL. -/
theorem driverStart_follows_null :
    driverStart DisplayState.loaded unplugged = none ∧
      ¬ AllSteps driverStep CallAllOrNothing (some DisplayState.loaded) [.start unplugged] := by
  refine ⟨rfl, fun all => ?_⟩
  obtain ⟨status, after, ends, -⟩ := all.1 _ rfl _ rfl
  cases ends

end MuRockchip.Display
