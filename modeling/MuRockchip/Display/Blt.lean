/-
The frame buffer and the transfers to and from it (`DisplayDxe.c`).

`DisplayBlt` works line by line with addresses in 64 bits that wrap. It checks the operation and
that the size is not zero; where the rectangle lies it does not look at.

* `shows_iff_of_fits`: a rectangle on the screen, and the bytes the lines of a transfer reach.
* `fits_of_shown`: a transfer that keeps to the screen has its rectangle on it.
* `displayBlt_confined_iff`: which calls keep to the screen.
-/
import MuRockchip.Base.Memory
import MuRockchip.Uefi.Status

namespace MuRockchip.Display

open Base

/-! ### The frame buffer -/

/-- What `DisplaySetMode` stores in the mode of the protocol and its information. -/
structure GopMode where
  horizontalResolution : UInt32
  verticalResolution : UInt32
  pixelsPerScanLine : UInt32
  frameBufferBase : UInt64
  frameBufferSize : UInt64
  deriving DecidableEq, Repr

/-- The lines of the frame buffer follow each other without a gap, and end below 4 GB. -/
structure GopMode.Laid (mode : GopMode) : Prop where
  scanLine : mode.pixelsPerScanLine = mode.horizontalResolution
  size : mode.frameBufferSize.toNat =
    4 * (mode.horizontalResolution.toNat * mode.verticalResolution.toNat)
  below : mode.frameBufferBase.toNat + mode.frameBufferSize.toNat ≤ 2 ^ 32

/-- A mode whose frame buffer can be drawn into. -/
structure Screen extends GopMode where
  laid : toGopMode.Laid

def GopMode.posToFb (mode : GopMode) (posX posY : UInt64) : UInt64 :=
  mode.frameBufferBase + posY * mode.pixelsPerScanLine.toUInt64 * 4 + posX * 4

/-! ### The transfers -/

/-- `EFI_GRAPHICS_OUTPUT_BLT_OPERATION`. -/
inductive BltOperation where
  | videoFill
  | videoToBltBuffer
  | bufferToVideo
  | videoToVideo
  deriving DecidableEq, Repr

/-- The operation a number stands for, where it is below `EfiGraphicsOutputBltOperationMax`. -/
def BltOperation.ofValue (value : UInt64) : Option BltOperation :=
  [videoFill, videoToBltBuffer, bufferToVideo, videoToVideo][value.toNat]?

/-- The arguments of a call. -/
structure BltRequest where
  bltBuffer : UInt64
  bltOperation : UInt64
  sourceX : UInt64
  sourceY : UInt64
  destinationX : UInt64
  destinationY : UInt64
  width : UInt64
  height : UInt64
  delta : UInt64
  deriving DecidableEq, Repr

/-- A run of bytes from an address on. -/
structure Span where
  base : UInt64
  length : UInt64
  deriving DecidableEq, Repr

def Span.Covers (span : Span) (address : UInt64) : Prop := address - span.base < span.length

instance (span : Span) (address : UInt64) : Decidable (span.Covers address) :=
  inferInstanceAs (Decidable (_ < _))

/-- `SetMem32`: the four bytes of a number again and again. -/
def setMem32 (memory : Memory) (span : Span) (value : List UInt8) : Memory :=
  fun address =>
    if span.Covers address then value.getD ((address - span.base).toNat % 4) 0
    else memory address

/-- One round of a loop of `DisplayBlt`: what it reads and writes through pointers into the frame
buffer, and what becomes of the memory. -/
structure Round where
  reads : List Span
  writes : List Span
  effect : Memory → Memory

section

variable (mode : GopMode) (request : BltRequest)

/-- The number of bytes in a line of the rectangle. -/
def BltRequest.lineBytes : UInt64 := request.width * 4

/-- `Delta`, or its default. -/
def BltRequest.lineStride : UInt64 :=
  if request.delta = 0 then request.lineBytes else request.delta

/-- An address in the buffer of the caller. -/
def BltRequest.posToBuffer (posX posY : UInt64) : UInt64 :=
  request.bltBuffer + posY * request.lineStride + posX * 4

/-- `EfiBltVideoFill`. -/
def videoFill (i : UInt64) : Round :=
  let vidBuf := mode.posToFb request.destinationX (request.destinationY + i)
  { reads := []
    writes := [⟨vidBuf, request.lineBytes⟩]
    effect := fun memory =>
      setMem32 memory ⟨vidBuf, request.lineBytes⟩ (memory.read request.bltBuffer 4) }

/-- `EfiBltVideoToBltBuffer`. -/
def videoToBltBuffer (i : UInt64) : Round :=
  let vidBuf := mode.posToFb request.sourceX (request.sourceY + i)
  let bltBuf := request.posToBuffer request.destinationX (request.destinationY + i)
  { reads := [⟨vidBuf, request.lineBytes⟩]
    writes := []
    effect := fun memory => memory.copy bltBuf vidBuf request.lineBytes }

/-- `EfiBltBufferToVideo`. -/
def bufferToVideo (i : UInt64) : Round :=
  let vidBuf := mode.posToFb request.destinationX (request.destinationY + i)
  let bltBuf := request.posToBuffer request.sourceX (request.sourceY + i)
  { reads := []
    writes := [⟨vidBuf, request.lineBytes⟩]
    effect := fun memory => memory.copy vidBuf bltBuf request.lineBytes }

/-- `EfiBltVideoToVideo`. -/
def videoToVideo (i : UInt64) : Round :=
  let vidBuf := mode.posToFb request.sourceX (request.sourceY + i)
  let vidBuf1 := mode.posToFb request.destinationX (request.destinationY + i)
  { reads := [⟨vidBuf, request.lineBytes⟩]
    writes := [⟨vidBuf1, request.lineBytes⟩]
    effect := fun memory => memory.copy vidBuf1 vidBuf request.lineBytes }

/-- The body of the loop of an operation. -/
def BltOperation.round (operation : BltOperation) (i : UInt64) : Round :=
  match operation with
  | .videoFill => Display.videoFill mode request i
  | .videoToBltBuffer => Display.videoToBltBuffer mode request i
  | .bufferToVideo => Display.bufferToVideo mode request i
  | .videoToVideo => Display.videoToVideo mode request i

/-- What a call returns and leaves behind, with what it has read and written in the frame
buffer. -/
structure BltResult where
  status : EfiStatus
  memory : Memory
  reads : List Span
  writes : List Span

/-- A call that has touched nothing. -/
def BltResult.untouched (status : EfiStatus) (memory : Memory) : BltResult :=
  ⟨status, memory, [], []⟩

/-- The loop over the lines. -/
def lines (operation : BltOperation) (memory : Memory) (count : Nat) : BltResult :=
  (List.range count).foldl (fun result i =>
    let round := operation.round mode request (UInt64.ofNat i)
    { result with
      memory := round.effect result.memory
      reads := result.reads ++ round.reads
      writes := result.writes ++ round.writes }) (.untouched EfiStatus.success memory)

def displayBlt (memory : Memory) : BltResult :=
  if 4 ≤ request.bltOperation then .untouched EfiStatus.invalidParameter memory
  else if request.width = 0 ∨ request.height = 0 then .untouched EfiStatus.invalidParameter memory
  else
    match BltOperation.ofValue request.bltOperation with
    | some operation => lines mode request operation memory request.height.toNat
    | none => .untouched EfiStatus.invalidParameter memory

end

/-! ### Rectangles -/

/-- A part of the screen, with its corner and its size. -/
structure Rectangle where
  x : Nat
  y : Nat
  width : Nat
  height : Nat
  deriving DecidableEq, Repr

def BltRequest.sourceRectangle (request : BltRequest) : Rectangle :=
  ⟨request.sourceX.toNat, request.sourceY.toNat, request.width.toNat, request.height.toNat⟩

def BltRequest.destinationRectangle (request : BltRequest) : Rectangle :=
  ⟨request.destinationX.toNat, request.destinationY.toNat, request.width.toNat,
    request.height.toNat⟩

def GopMode.Contains (mode : GopMode) (address : UInt64) : Prop :=
  mode.frameBufferBase.toNat ≤ address.toNat ∧
    address.toNat < mode.frameBufferBase.toNat + mode.frameBufferSize.toNat

/-- The number of the pixel a byte of the frame buffer belongs to. -/
def GopMode.pixelAt (mode : GopMode) (address : UInt64) : Nat :=
  (address.toNat - mode.frameBufferBase.toNat) / 4

/-- The byte belongs to a pixel of a rectangle. -/
structure GopMode.Shows (mode : GopMode) (rectangle : Rectangle) (address : UInt64) : Prop where
  contains : mode.Contains address
  left : rectangle.x ≤ mode.pixelAt address % mode.horizontalResolution.toNat
  right : mode.pixelAt address % mode.horizontalResolution.toNat <
    rectangle.x + rectangle.width
  top : rectangle.y ≤ mode.pixelAt address / mode.horizontalResolution.toNat
  bottom : mode.pixelAt address / mode.horizontalResolution.toNat <
    rectangle.y + rectangle.height

/-- The rectangle is on the screen. -/
def Rectangle.Fits (rectangle : Rectangle) (mode : GopMode) : Prop :=
  rectangle.x + rectangle.width ≤ mode.horizontalResolution.toNat ∧
    rectangle.y + rectangle.height ≤ mode.verticalResolution.toNat

/-! ### Addresses on the screen -/

theorem Span.covers_iff {span : Span} {address : UInt64} :
    span.Covers address ↔
      ∃ index < span.length.toNat, address = span.base + UInt64.ofNat index := by
  constructor
  · intro covers
    refine ⟨(address - span.base).toNat, UInt64.lt_iff_toNat_lt.mp covers, ?_⟩
    rw [UInt64.ofNat_toNat, UInt64.add_comm, UInt64.sub_add_cancel]
  · rintro ⟨index, inside, rfl⟩
    have := span.length.toNat_lt
    rw [Covers, UInt64.add_comm, UInt64.add_sub_cancel, UInt64.lt_iff_toNat_lt,
      UInt64.toNat_ofNat']
    omega

section

variable {mode : GopMode} (laid : mode.Laid)

include laid

/-- On the screen the address of a pixel is what it looks like. -/
theorem posToFb_toNat (posX posY : UInt64) (index : Nat)
    (across : posX.toNat ≤ mode.horizontalResolution.toNat)
    (down : posY.toNat ≤ mode.verticalResolution.toNat) (near : index < 2 ^ 62) :
    (mode.posToFb posX posY + UInt64.ofNat index).toNat = mode.frameBufferBase.toNat +
      4 * (posY.toNat * mode.horizontalResolution.toNat + posX.toNat) + index := by
  have before : posY.toNat * mode.horizontalResolution.toNat ≤
      mode.horizontalResolution.toNat * mode.verticalResolution.toNat := by
    rw [Nat.mul_comm mode.horizontalResolution.toNat]
    exact Nat.mul_le_mul_right _ down
  have small := mode.horizontalResolution.toNat_lt
  have size := laid.size
  have below := laid.below
  have four : (4 : UInt64).toNat = 4 := rfl
  rw [GopMode.posToFb, laid.scanLine]
  simp only [UInt64.toNat_add, UInt64.toNat_mul, UInt32.toNat_toUInt64, UInt64.toNat_ofNat', four]
  omega

variable {rectangle : Rectangle}

/-- The byte of a pixel that is given by its column and its line. -/
theorem shows_iff {address : UInt64} (x y part : Nat)
    (place : address.toNat = mode.frameBufferBase.toNat +
      4 * (y * mode.horizontalResolution.toNat + x) + part) (small : part < 4)
    (across : x < mode.horizontalResolution.toNat) (down : y < mode.verticalResolution.toNat) :
    mode.Shows rectangle address ↔ rectangle.x ≤ x ∧ x < rectangle.x + rectangle.width ∧
      rectangle.y ≤ y ∧ y < rectangle.y + rectangle.height := by
  have before : (y + 1) * mode.horizontalResolution.toNat ≤
      mode.horizontalResolution.toNat * mode.verticalResolution.toNat := by
    rw [Nat.mul_comm mode.horizontalResolution.toNat]
    exact Nat.mul_le_mul_right _ down
  have size := laid.size
  have inside : mode.Contains address := by
    rw [Nat.add_mul] at before
    constructor <;> omega
  have pixel : mode.pixelAt address = y * mode.horizontalResolution.toNat + x := by
    rw [GopMode.pixelAt, place]
    omega
  have column : mode.pixelAt address % mode.horizontalResolution.toNat = x := by
    rw [pixel, Nat.mul_add_mod', Nat.mod_eq_of_lt across]
  have line : mode.pixelAt address / mode.horizontalResolution.toNat = y := by
    rw [pixel, Nat.mul_comm, Nat.mul_add_div (by omega), Nat.div_eq_of_lt across, Nat.add_zero]
  constructor
  · rintro ⟨-, left, right, top, bottom⟩
    rw [column] at left right
    rw [line] at top bottom
    exact ⟨left, right, top, bottom⟩
  · rintro ⟨left, right, top, bottom⟩
    exact ⟨inside, column ▸ left, column ▸ right, line ▸ top, line ▸ bottom⟩

/-- A byte past the last line is none of the frame buffer. -/
theorem not_shows_below {address : UInt64} {x : Nat}
    (place : address.toNat = mode.frameBufferBase.toNat +
      4 * (mode.verticalResolution.toNat * mode.horizontalResolution.toNat + x)) :
    ¬ mode.Shows rectangle address := by
  rintro ⟨⟨-, inside⟩, -⟩
  rw [place, laid.size, Nat.mul_comm mode.horizontalResolution.toNat] at inside
  omega

end

/-! ### The lines of a rectangle -/

/-- The bytes that a loop over the lines of a rectangle reaches are of that rectangle. -/
def KeepsTo (mode : GopMode) (request : BltRequest) (x y : UInt64) : Prop :=
  ∀ i < request.height.toNat, ∀ address,
    (⟨mode.posToFb x (y + UInt64.ofNat i), request.lineBytes⟩ : Span).Covers address →
      mode.Shows ⟨x.toNat, y.toNat, request.width.toNat, request.height.toNat⟩ address

/-- The number of columns a line really has, which wraps with the number of its bytes. -/
def BltRequest.columns (request : BltRequest) : Nat := request.width.toNat % 2 ^ 62

theorem lineBytes_toNat (request : BltRequest) :
    request.lineBytes.toNat = 4 * request.columns := by
  have four : (4 : UInt64).toNat = 4 := rfl
  rw [BltRequest.lineBytes, BltRequest.columns, UInt64.toNat_mul, four]
  omega

theorem line_toNat {y : UInt64} {i : Nat} (below : y.toNat + i < 2 ^ 64) :
    (y + UInt64.ofNat i).toNat = y.toNat + i := by
  rw [UInt64.toNat_add, UInt64.toNat_ofNat']
  omega

section

variable {mode : GopMode} (laid : mode.Laid) {request : BltRequest} {x y : UInt64}

include laid

/-- A rectangle on the screen is kept to. -/
theorem keepsTo_of_fits
    (fits : Rectangle.Fits ⟨x.toNat, y.toNat, request.columns, request.height.toNat⟩ mode) :
    KeepsTo mode request x y := by
  intro i below address covers
  obtain ⟨index, inside, rfl⟩ := Span.covers_iff.mp covers
  obtain ⟨across, down⟩ := fits
  dsimp only at inside across down ⊢
  have limit := mode.horizontalResolution.toNat_lt
  have lines := mode.verticalResolution.toNat_lt
  have fewer : request.columns ≤ request.width.toNat := Nat.mod_le _ _
  rw [lineBytes_toNat] at inside
  have line : (y + UInt64.ofNat i).toNat = y.toNat + i := line_toNat (by omega)
  have place := posToFb_toNat laid x (y + UInt64.ofNat i) index (by omega) (by omega) (by omega)
  rw [line] at place
  refine (shows_iff laid (x.toNat + index / 4) (y.toNat + i) (index % 4) (by omega) (by omega)
    (by omega) (by omega)).mpr ?_
  dsimp only
  omega

/-- A transfer of something that keeps to its rectangle has it on the screen. -/
theorem fits_of_keepsTo (some : 0 < request.columns) (high : 0 < request.height.toNat)
    (keeps : KeepsTo mode request x y) :
    Rectangle.Fits ⟨x.toNat, y.toNat, request.columns, request.height.toNat⟩ mode := by
  have limit := mode.horizontalResolution.toNat_lt
  have lines := mode.verticalResolution.toNat_lt
  have reach (i index : Nat) (below : i < request.height.toNat)
      (inside : index < 4 * request.columns) :
      mode.Shows ⟨x.toNat, y.toNat, request.width.toNat, request.height.toNat⟩
        (mode.posToFb x (y + UInt64.ofNat i) + UInt64.ofNat index) := by
    refine keeps i below _ (Span.covers_iff.mpr ⟨index, ?_, rfl⟩)
    rw [lineBytes_toNat]
    exact inside
  obtain ⟨corner, left, -, top, -⟩ := reach 0 0 high (by omega)
  -- The corner is on the screen, so the first addresses do not wrap.
  have pixels : mode.pixelAt (mode.posToFb x (y + UInt64.ofNat 0) + UInt64.ofNat 0) <
      mode.horizontalResolution.toNat * mode.verticalResolution.toNat := by
    have := laid.size
    obtain ⟨_, _⟩ := corner
    rw [GopMode.pixelAt]
    omega
  have across : x.toNat < mode.horizontalResolution.toNat :=
    left.trans_lt (Nat.mod_lt _ (Nat.pos_of_mul_pos_right (Nat.zero_lt_of_lt pixels)))
  have down : y.toNat < mode.verticalResolution.toNat :=
    top.trans_lt (Nat.div_lt_of_lt_mul pixels)
  have bottom : y.toNat + request.height.toNat ≤ mode.verticalResolution.toNat := by
    by_contra beyond
    have below : mode.verticalResolution.toNat - y.toNat < request.height.toNat := by omega
    have line : (y + UInt64.ofNat (mode.verticalResolution.toNat - y.toNat)).toNat =
        mode.verticalResolution.toNat := by
      rw [line_toNat (by omega)]
      omega
    refine not_shows_below laid (x := x.toNat) ?_ (reach _ 0 below (by omega))
    rw [posToFb_toNat laid _ _ _ across.le line.le (by decide), line]
    rfl
  refine ⟨?_, bottom⟩
  by_contra beyond
  dsimp only at beyond
  have last : request.height.toNat - 1 < request.height.toNat := by omega
  have line : (y + UInt64.ofNat (request.height.toNat - 1)).toNat =
      y.toNat + (request.height.toNat - 1) := line_toNat (by omega)
  have shown := reach _ (4 * (mode.horizontalResolution.toNat - x.toNat)) last (by omega)
  have place := posToFb_toNat laid x (y + UInt64.ofNat (request.height.toNat - 1))
    (4 * (mode.horizontalResolution.toNat - x.toNat)) across.le (by omega) (by omega)
  -- The first byte to the right of the last line is the first one below the rectangle.
  have next : (y.toNat + (request.height.toNat - 1)) * mode.horizontalResolution.toNat +
      mode.horizontalResolution.toNat =
        (y.toNat + request.height.toNat) * mode.horizontalResolution.toNat := by
    rw [← Nat.succ_mul]
    congr 1
    omega
  rw [line] at place
  rcases Nat.lt_or_eq_of_le bottom with above | exact
  · have := (shows_iff laid 0 (y.toNat + request.height.toNat) 0 (by omega) (by decide)
      (by omega) above).mp shown
    dsimp only at this
    omega
  · refine not_shows_below laid (x := 0) ?_ shown
    rw [← exact]
    omega

end

variable {mode : GopMode} {request : BltRequest} {operation : BltOperation}

/-- A loop keeps to its rectangle if and only if it has nothing to transfer, or its rectangle is
on the screen. -/
theorem keepsTo_iff (laid : mode.Laid) {x y : UInt64} :
    KeepsTo mode request x y ↔ (0 < request.columns → 0 < request.height.toNat →
      Rectangle.Fits ⟨x.toNat, y.toNat, request.columns, request.height.toNat⟩ mode) := by
  constructor
  · intro keeps some high
    exact fits_of_keepsTo laid some high keeps
  · intro fits i below address covers
    have some : 0 < request.columns := by
      have inside := UInt64.lt_iff_toNat_lt.mp covers
      rw [lineBytes_toNat] at inside
      omega
    exact keepsTo_of_fits laid (fits some (by omega)) i below address covers

/-! ### The loops -/

/-- The operation takes its pixels from the frame buffer. -/
def BltOperation.ReadsVideo (operation : BltOperation) : Prop :=
  operation = videoToBltBuffer ∨ operation = videoToVideo

/-- The operation puts its pixels into the frame buffer. -/
def BltOperation.WritesVideo (operation : BltOperation) : Prop :=
  operation ≠ videoToBltBuffer

instance (operation : BltOperation) : Decidable operation.ReadsVideo :=
  inferInstanceAs (Decidable (_ ∨ _))

instance (operation : BltOperation) : Decidable operation.WritesVideo :=
  inferInstanceAs (Decidable (¬ _))

/-- The lines of the rectangle in the buffer of the caller. -/
def BltRequest.InBuffer (request : BltRequest) (address : UInt64) : Prop :=
  ∃ i < request.height.toNat,
    (⟨request.posToBuffer request.destinationX (request.destinationY + UInt64.ofNat i),
      request.lineBytes⟩ : Span).Covers address

/-- Where an operation is to put its pixels. -/
def BltRequest.Destination (request : BltRequest) (mode : GopMode) (operation : BltOperation)
    (address : UInt64) : Prop :=
  if operation.WritesVideo then mode.Shows request.destinationRectangle address
  else request.InBuffer address

section

variable (mode : GopMode) (request : BltRequest) (operation : BltOperation)

theorem round_reads (i : UInt64) : (operation.round mode request i).reads =
    if operation.ReadsVideo then
      [⟨mode.posToFb request.sourceX (request.sourceY + i), request.lineBytes⟩]
    else [] := by
  cases operation <;> rfl

theorem round_writes (i : UInt64) : (operation.round mode request i).writes =
    if operation.WritesVideo then
      [⟨mode.posToFb request.destinationX (request.destinationY + i), request.lineBytes⟩]
    else [] := by
  cases operation <;> rfl

theorem round_frame {i : Nat} (below : i < request.height.toNat) {address : UInt64}
    (unwritten : ∀ span ∈ (operation.round mode request (UInt64.ofNat i)).writes,
      ¬ span.Covers address)
    (outside : ¬ operation.WritesVideo → ¬ request.InBuffer address) (memory : Memory) :
    (operation.round mode request (UInt64.ofNat i)).effect memory address = memory address := by
  cases operation with
  | videoFill => exact if_neg (unwritten _ (List.mem_singleton_self _))
  | videoToBltBuffer =>
      exact if_neg fun covers => outside (fun writes => writes rfl) ⟨i, below, covers⟩
  | bufferToVideo | videoToVideo => exact if_neg (unwritten _ (List.mem_singleton_self _))

variable (memory : Memory)

theorem lines_succ (count : Nat) :
    lines mode request operation memory (count + 1) =
      let before := lines mode request operation memory count
      let round := operation.round mode request (UInt64.ofNat count)
      { before with
        memory := round.effect before.memory
        reads := before.reads ++ round.reads
        writes := before.writes ++ round.writes } := by
  rw [lines, List.range_succ, List.foldl_append]
  rfl

theorem mem_lines_reads (span : Span) (count : Nat) :
    span ∈ (lines mode request operation memory count).reads ↔
      ∃ i < count, span ∈ (operation.round mode request (UInt64.ofNat i)).reads := by
  induction count with
  | zero => simp [lines, BltResult.untouched]
  | succ count ih =>
      rw [lines_succ, List.mem_append, ih, Nat.exists_lt_succ_right]

theorem mem_lines_writes (span : Span) (count : Nat) :
    span ∈ (lines mode request operation memory count).writes ↔
      ∃ i < count, span ∈ (operation.round mode request (UInt64.ofNat i)).writes := by
  induction count with
  | zero => simp [lines, BltResult.untouched]
  | succ count ih =>
      rw [lines_succ, List.mem_append, ih, Nat.exists_lt_succ_right]

theorem lines_frame {address : UInt64} {count : Nat} (within : count ≤ request.height.toNat)
    (unwritten : ∀ span ∈ (lines mode request operation memory count).writes,
      ¬ span.Covers address)
    (outside : ¬ operation.WritesVideo → ¬ request.InBuffer address) :
    (lines mode request operation memory count).memory address = memory address := by
  induction count with
  | zero => rfl
  | succ count ih =>
      rw [lines_succ] at unwritten ⊢
      dsimp only at unwritten ⊢
      rw [List.forall_mem_append] at unwritten
      rw [round_frame mode request operation (by omega) unwritten.2 outside]
      exact ih (by omega) unwritten.1

/-- The lines that a loop goes over, if it does, are of a rectangle where the loop keeps to it. -/
theorem spans_shown_iff {touched : Prop} [Decidable touched] (x y : UInt64) :
    (∀ span, (∃ i < request.height.toNat, span ∈
        if touched then [(⟨mode.posToFb x (y + UInt64.ofNat i), request.lineBytes⟩ : Span)]
        else []) →
      ∀ address, span.Covers address →
        mode.Shows ⟨x.toNat, y.toNat, request.width.toNat, request.height.toNat⟩ address) ↔
      (touched → KeepsTo mode request x y) := by
  by_cases taken : touched
  · simp only [if_pos taken, List.mem_singleton, forall_prop_of_true taken]
    constructor
    · intro shown i below address covers
      exact shown _ ⟨i, below, rfl⟩ address covers
    · rintro keeps span ⟨i, below, rfl⟩ address covers
      exact keeps i below address covers
  · simp [taken]

theorem reads_shown_iff :
    (∀ span ∈ (lines mode request operation memory request.height.toNat).reads, ∀ address,
      span.Covers address → mode.Shows request.sourceRectangle address) ↔
        (operation.ReadsVideo → KeepsTo mode request request.sourceX request.sourceY) := by
  simp only [mem_lines_reads, round_reads]
  exact spans_shown_iff mode request request.sourceX request.sourceY

theorem writes_shown_iff :
    (∀ span ∈ (lines mode request operation memory request.height.toNat).writes, ∀ address,
      span.Covers address → mode.Shows request.destinationRectangle address) ↔
        (operation.WritesVideo →
          KeepsTo mode request request.destinationX request.destinationY) := by
  simp only [mem_lines_writes, round_writes]
  exact spans_shown_iff mode request request.destinationX request.destinationY

end

/-! ### Transfers that keep to the screen -/

/-- A transfer reads and writes only in its rectangles on the screen, and leaves the other pixels
as they were. -/
structure BltResult.Confined (result : BltResult) (mode : GopMode) (request : BltRequest)
    (operation : BltOperation) (before : Memory) : Prop where
  reads : ∀ span ∈ result.reads, ∀ address, span.Covers address →
    mode.Shows request.sourceRectangle address
  writes : ∀ span ∈ result.writes, ∀ address, span.Covers address →
    mode.Shows request.destinationRectangle address
  outside : ∀ address, mode.Contains address → ¬ request.Destination mode operation address →
    result.memory address = before address

/-- The call fails with nothing touched, or is a transfer that keeps to the screen. -/
def BltConfined (mode : GopMode) (request : BltRequest) (memory : Memory) : Prop :=
  displayBlt mode request memory = .untouched EfiStatus.invalidParameter memory ∨
    ∃ operation, BltOperation.ofValue request.bltOperation = some operation ∧
      (displayBlt mode request memory).Confined mode request operation memory

/-- The rectangles that a call has in the frame buffer are on the screen, if it has something to
transfer. -/
def BltRequest.Fits (request : BltRequest) (mode : GopMode) : Prop :=
  ∀ operation, BltOperation.ofValue request.bltOperation = some operation →
    0 < request.columns → 0 < request.height.toNat →
      (operation.ReadsVideo → Rectangle.Fits ⟨request.sourceX.toNat, request.sourceY.toNat,
        request.columns, request.height.toNat⟩ mode) ∧
      (operation.WritesVideo → Rectangle.Fits ⟨request.destinationX.toNat,
        request.destinationY.toNat, request.columns, request.height.toNat⟩ mode)

theorem lines_confined_iff (mode : GopMode) (request : BltRequest)
    (operation : BltOperation) (memory : Memory) :
    (lines mode request operation memory request.height.toNat).Confined mode request operation
        memory ↔
      (operation.ReadsVideo → KeepsTo mode request request.sourceX request.sourceY) ∧
        (operation.WritesVideo →
          KeepsTo mode request request.destinationX request.destinationY) := by
  rw [← reads_shown_iff mode request operation memory,
    ← writes_shown_iff mode request operation memory]
  constructor
  · intro confined
    exact ⟨confined.reads, confined.writes⟩
  · rintro ⟨reads, writes⟩
    refine ⟨reads, writes, ?_⟩
    intro address _ elsewhere
    rw [BltRequest.Destination] at elsewhere
    refine lines_frame mode request operation memory le_rfl ?_ ?_
    · intro span member covers
      have drawn : operation.WritesVideo := by
        by_contra buffered
        simp [mem_lines_writes, round_writes, buffered] at member
      rw [if_pos drawn] at elsewhere
      exact elsewhere (writes span member address covers)
    · intro buffered
      rwa [if_neg buffered] at elsewhere

theorem lines_status (mode : GopMode) (request : BltRequest) (operation : BltOperation)
    (memory : Memory) (count : Nat) :
    (lines mode request operation memory count).status = EfiStatus.success := by
  induction count with
  | zero => rfl
  | succ count ih =>
      rw [lines_succ]
      exact ih

/-- A number stands for an operation if it is below the first one that does not. -/
theorem ofValue_eq_none_iff (value : UInt64) : BltOperation.ofValue value = none ↔ 4 ≤ value := by
  rw [BltOperation.ofValue, List.getElem?_eq_none_iff, UInt64.le_iff_toNat_le]
  rfl

/-- A call that is not rejected is the loop of its operation. -/
theorem displayBlt_lines (known : BltOperation.ofValue request.bltOperation = some operation)
    (wide : request.width ≠ 0) (high : request.height ≠ 0) (memory : Memory) :
    displayBlt mode request memory =
      lines mode request operation memory request.height.toNat := by
  have valid : ¬ 4 ≤ request.bltOperation := by
    rw [← ofValue_eq_none_iff, known]
    exact Option.some_ne_none operation
  rw [displayBlt, if_neg valid, if_neg (not_or.mpr ⟨wide, high⟩), known]

/-- A call that is not rejected has to keep to the screen in its loop. -/
theorem bltConfined_iff_keepsTo (known : BltOperation.ofValue request.bltOperation = some operation)
    (wide : request.width ≠ 0) (high : request.height ≠ 0) (memory : Memory) :
    BltConfined mode request memory ↔
      (operation.ReadsVideo → KeepsTo mode request request.sourceX request.sourceY) ∧
        (operation.WritesVideo →
          KeepsTo mode request request.destinationX request.destinationY) := by
  have performed : displayBlt mode request memory =
      lines mode request operation memory request.height.toNat :=
    displayBlt_lines known wide high memory
  rw [BltConfined, performed]
  constructor
  · rintro (rejected | ⟨other, named, confined⟩)
    · have status := congrArg BltResult.status rejected
      rw [lines_status] at status
      exact absurd status EfiStatus.success_ne_invalidParameter
    · obtain rfl := Option.some_inj.mp (known.symm.trans named)
      exact (lines_confined_iff mode request _ memory).mp confined
  · intro keeps
    exact .inr ⟨operation, known, (lines_confined_iff mode request operation memory).mpr keeps⟩

/-- A call keeps to the screen exactly if it is rejected, has nothing to transfer, or has its
rectangles on the screen. -/
theorem displayBlt_confined_iff (screen : Screen) (request : BltRequest) (memory : Memory) :
    BltConfined screen.toGopMode request memory ↔ request.Fits screen.toGopMode := by
  cases known : BltOperation.ofValue request.bltOperation with
  | none =>
      have rejected : BltConfined screen.toGopMode request memory := by
        left
        rw [displayBlt, if_pos ((ofValue_eq_none_iff _).mp known)]
      exact iff_of_true rejected fun operation named => by simp [known] at named
  | some operation =>
      have fits_iff : request.Fits screen.toGopMode ↔
          (operation.ReadsVideo →
            KeepsTo screen.toGopMode request request.sourceX request.sourceY) ∧
          (operation.WritesVideo →
            KeepsTo screen.toGopMode request request.destinationX request.destinationY) := by
        simp only [keepsTo_iff screen.laid, BltRequest.Fits, known, Option.some.injEq,
          forall_eq']
        tauto
      by_cases empty : request.width = 0 ∨ request.height = 0
      · have rejected : BltConfined screen.toGopMode request memory := by
          left
          have valid : ¬ 4 ≤ request.bltOperation := by
            rw [← ofValue_eq_none_iff, known]
            exact Option.some_ne_none operation
          rw [displayBlt, if_neg valid, if_pos empty]
        refine iff_of_true rejected ?_
        intro _ _ wide high
        rcases empty with none | none
        · rw [BltRequest.columns, none] at wide
          exact absurd wide (by decide)
        · rw [none] at high
          exact absurd high (by decide)
      · rw [not_or] at empty
        rw [bltConfined_iff_keepsTo known empty.1 empty.2, fits_iff]

def mode720p : GopMode where
  horizontalResolution := 1280
  verticalResolution := 720
  pixelsPerScanLine := 1280
  frameBufferBase := 0xE0000000
  frameBufferSize := 3686400

theorem mode720p_laid : mode720p.Laid := ⟨rfl, by decide, by decide⟩

/-- One pixel is to be filled, to the right of the screen. -/
def fillBeside : BltRequest where
  bltBuffer := 0x80000000
  bltOperation := 0
  sourceX := 0
  sourceY := 0
  destinationX := 1280
  destinationY := 0
  width := 1
  height := 1
  delta := 0

/-- The pixel to the right of a line is the first of the next one, and is filled. -/
theorem displayBlt_not_confined :
    mode720p.Laid ∧ ∀ memory, ¬ BltConfined mode720p fillBeside memory := by
  refine ⟨mode720p_laid, fun memory confined => ?_⟩
  have known : BltOperation.ofValue fillBeside.bltOperation = some .videoFill := rfl
  have keeps := (bltConfined_iff_keepsTo known (by decide) (by decide) memory).mp confined
  have shown := keeps.2 (by decide) 0 (by decide) 0xE0001400 (by decide)
  exact absurd shown.left (by decide)

end MuRockchip.Display
