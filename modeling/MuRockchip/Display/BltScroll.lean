/-
Moving a part of the picture (`DisplayDxe.c`).

`EfiBltVideoToVideo` copies line by line from the top down. A line that is copied after its
source was overwritten brings what was written there.

* `lines_memory`: the lines as moves made one after the other.
* `line_covers_iff`, `line_source`: which pixels a line reaches, and where they come from.
* `videoToVideo_moved_iff`: which moves bring the original picture.
-/
import MuRockchip.Base.Moves
import MuRockchip.Display.Blt

namespace MuRockchip.Display

open Base

/-! ### The picture -/

def GopMode.pixelByte (mode : GopMode) (x y part : Nat) : UInt64 :=
  UInt64.ofNat (mode.frameBufferBase.toNat +
    4 * (y * mode.horizontalResolution.toNat + x) + part)

/-- The pixels of the destination have the values those of the source had, and the others are as
they were. -/
structure PictureMoved (mode : GopMode) (request : BltRequest) (before after : Memory) :
    Prop where
  pixels : ∀ x < request.width.toNat, ∀ y < request.height.toNat, ∀ part < 4,
    after (mode.pixelByte (request.destinationX.toNat + x) (request.destinationY.toNat + y)
        part) =
      before (mode.pixelByte (request.sourceX.toNat + x) (request.sourceY.toNat + y) part)
  outside : ∀ address, mode.Contains address →
    ¬ mode.Shows request.destinationRectangle address → after address = before address

/-- The destination begins in a lower line of the source, and shares columns with it. -/
def BltRequest.OverlapsBelow (request : BltRequest) : Prop :=
  request.sourceY.toNat < request.destinationY.toNat ∧
    request.destinationY.toNat < request.sourceY.toNat + request.height.toNat ∧
    request.sourceX.toNat < request.destinationX.toNat + request.width.toNat ∧
    request.destinationX.toNat < request.sourceX.toNat + request.width.toNat

/-! ### Lines as moves -/

section

variable (mode : GopMode) (request : BltRequest)

/-- The copy of one line. -/
def lineMove (i : Nat) : Move UInt64 where
  target := (⟨mode.posToFb request.destinationX (request.destinationY + UInt64.ofNat i),
    request.lineBytes⟩ : Span).Covers
  source address := mode.posToFb request.sourceX (request.sourceY + UInt64.ofNat i) +
    (address - mode.posToFb request.destinationX (request.destinationY + UInt64.ofNat i))

theorem lines_memory (memory : Memory) (count : Nat) :
    (lines mode request .videoToVideo memory count).memory =
      Move.applyAll (lineMove mode request) count memory := by
  induction count with
  | zero => rfl
  | succ count ih =>
      rw [lines_succ, Move.applyAll, ← ih]
      rfl

end

section

variable {mode : GopMode} (laid : mode.Laid)

include laid

theorem pixelByte_toNat {x y part : Nat} (across : x < mode.horizontalResolution.toNat)
    (down : y < mode.verticalResolution.toNat) (small : part < 4) :
    (mode.pixelByte x y part).toNat = mode.frameBufferBase.toNat +
      4 * (y * mode.horizontalResolution.toNat + x) + part := by
  have before : (y + 1) * mode.horizontalResolution.toNat ≤
      mode.horizontalResolution.toNat * mode.verticalResolution.toNat := by
    rw [Nat.mul_comm mode.horizontalResolution.toNat]
    exact Nat.mul_le_mul_right _ down
  have size := laid.size
  have below := laid.below
  rw [Nat.add_mul] at before
  rw [GopMode.pixelByte, UInt64.toNat_ofNat']
  omega

variable (request : BltRequest)

theorem line_byte (posX posY : UInt64) (i x part : Nat)
    (across : posX.toNat + x < mode.horizontalResolution.toNat)
    (down : posY.toNat + i < mode.verticalResolution.toNat) (small : part < 4) :
    mode.posToFb posX (posY + UInt64.ofNat i) + UInt64.ofNat (4 * x + part) =
      mode.pixelByte (posX.toNat + x) (posY.toNat + i) part := by
  have limit := mode.horizontalResolution.toNat_lt
  have lines := mode.verticalResolution.toNat_lt
  have line : (posY + UInt64.ofNat i).toNat = posY.toNat + i := line_toNat (by omega)
  rw [← UInt64.toNat_inj, pixelByte_toNat laid across down small,
    posToFb_toNat laid _ _ _ (by omega) (by omega) (by omega), line]
  omega

theorem line_covers_iff (i x y part : Nat)
    (wide : request.destinationX.toNat + request.width.toNat ≤ mode.horizontalResolution.toNat)
    (high : request.destinationY.toNat + i < mode.verticalResolution.toNat)
    (across : x < mode.horizontalResolution.toNat) (down : y < mode.verticalResolution.toNat)
    (small : part < 4) :
    (lineMove mode request i).target (mode.pixelByte x y part) ↔
      y = request.destinationY.toNat + i ∧ request.destinationX.toNat ≤ x ∧
        x < request.destinationX.toNat + request.width.toNat := by
  have limit := mode.horizontalResolution.toNat_lt
  have columns : request.columns = request.width.toNat := Nat.mod_eq_of_lt (by omega)
  show Span.Covers _ _ ↔ _
  rw [Span.covers_iff]
  dsimp only
  rw [lineBytes_toNat, columns]
  constructor
  · rintro ⟨index, inside, place⟩
    have corner := line_byte laid request.destinationX request.destinationY i (index / 4)
      (index % 4) (by omega) high (Nat.mod_lt _ (by decide))
    rw [Nat.div_add_mod index 4] at corner
    have bytes := congrArg UInt64.toNat (place.trans corner)
    rw [pixelByte_toNat laid across down small,
      pixelByte_toNat laid (by omega) high (Nat.mod_lt _ (by decide))] at bytes
    have pixels : mode.horizontalResolution.toNat * y + x =
        mode.horizontalResolution.toNat * (request.destinationY.toNat + i) +
          (request.destinationX.toNat + index / 4) := by
      rw [Nat.mul_comm _ y, Nat.mul_comm _ (_ + i)]
      omega
    have some : 0 < mode.horizontalResolution.toNat := by omega
    have line := congrArg (· / mode.horizontalResolution.toNat) pixels
    have column := congrArg (· % mode.horizontalResolution.toNat) pixels
    simp only [Nat.mul_add_div some, Nat.mul_add_mod] at line column
    rw [Nat.div_eq_of_lt across, Nat.div_eq_of_lt (by omega)] at line
    rw [Nat.mod_eq_of_lt across, Nat.mod_eq_of_lt (by omega)] at column
    omega
  · rintro ⟨rfl, left, right⟩
    refine ⟨4 * (x - request.destinationX.toNat) + part, by omega, ?_⟩
    rw [line_byte laid _ _ _ _ _ (by omega) high small, Nat.add_sub_cancel' left]

/-- Where the pixels of a line come from. -/
theorem line_source (i x part : Nat)
    (sourceX : request.sourceX.toNat + x < mode.horizontalResolution.toNat)
    (sourceY : request.sourceY.toNat + i < mode.verticalResolution.toNat)
    (destinationX : request.destinationX.toNat + x < mode.horizontalResolution.toNat)
    (destinationY : request.destinationY.toNat + i < mode.verticalResolution.toNat)
    (small : part < 4) :
    (lineMove mode request i).source (mode.pixelByte (request.destinationX.toNat + x)
        (request.destinationY.toNat + i) part) =
      mode.pixelByte (request.sourceX.toNat + x) (request.sourceY.toNat + i) part := by
  rw [← line_byte laid _ _ i x part destinationX destinationY small,
    ← line_byte laid _ _ i x part sourceX sourceY small, lineMove]
  dsimp only
  rw [UInt64.add_comm (mode.posToFb request.destinationX _), UInt64.add_sub_cancel]

end

/-! ### Moving the picture -/

section

variable {mode : GopMode} (laid : mode.Laid) {request : BltRequest}
  (source : request.sourceRectangle.Fits mode)
  (destination : request.destinationRectangle.Fits mode)

include laid source destination

/-- A move that does not go down into its own source brings the picture. -/
theorem moved_of_apart (apart : ¬ request.OverlapsBelow) (memory : Memory) :
    PictureMoved mode request memory
      (Move.applyAll (lineMove mode request) request.height.toNat memory) := by
  obtain ⟨sourceWide, sourceHigh⟩ := source
  obtain ⟨wide, high⟩ := destination
  dsimp only [BltRequest.sourceRectangle, BltRequest.destinationRectangle] at *
  constructor
  · intro x inWidth y inHeight part small
    have covers {line : Nat} (below : line < request.height.toNat) {column row : Nat}
        (across : column < mode.horizontalResolution.toNat)
        (down : row < mode.verticalResolution.toNat) :=
      line_covers_iff laid request line column row part wide (by omega) across down small
    have origin := line_source laid request y x part (by omega) (by omega) (by omega) (by omega)
      small
    rw [← origin]
    refine Move.applyAll_original memory inHeight
      ((covers inHeight (by omega) (by omega)).mpr ⟨rfl, by omega, by omega⟩) ?_ ?_
    · intro later after below inside
      have := (covers below (by omega) (by omega)).mp inside
      omega
    · intro earlier before inside
      rw [origin] at inside
      have := (covers (by omega) (by omega) (by omega)).mp inside
      refine apart ⟨?_, ?_, ?_, ?_⟩ <;> omega
  · intro address _ elsewhere
    refine Move.applyAll_frame memory fun i below inside => elsewhere ?_
    have limit := mode.horizontalResolution.toNat_lt
    have columns : request.columns = request.width.toNat := Nat.mod_eq_of_lt (by omega)
    have keeps : KeepsTo mode request request.destinationX request.destinationY := by
      refine keepsTo_of_fits laid ⟨?_, high⟩
      rw [columns]
      exact wide
    exact keeps i below address inside

/-- A move down into its own source brings the first line of the source twice. -/
theorem not_moved_of_overlap (overlap : request.OverlapsBelow) :
    ∃ memory, ¬ PictureMoved mode request memory
      (Move.applyAll (lineMove mode request) request.height.toNat memory) := by
  obtain ⟨sourceWide, sourceHigh⟩ := source
  obtain ⟨wide, high⟩ := destination
  obtain ⟨lower, within, left, right⟩ := overlap
  dsimp only [BltRequest.sourceRectangle, BltRequest.destinationRectangle] at *
  -- A column both rectangles have, and the line of the source the destination begins in.
  obtain ⟨column, fromSource, fromDestination, inSource, inDestination⟩ : ∃ column,
      request.sourceX.toNat ≤ column ∧ request.destinationX.toNat ≤ column ∧
        column < request.sourceX.toNat + request.width.toNat ∧
        column < request.destinationX.toNat + request.width.toNat :=
    ⟨max request.sourceX.toNat request.destinationX.toNat, by omega, by omega, by omega, by omega⟩
  obtain ⟨line, positive, isLine⟩ : ∃ line, 0 < line ∧
      request.sourceY.toNat + line = request.destinationY.toNat :=
    ⟨request.destinationY.toNat - request.sourceY.toNat, by omega, by omega⟩
  have zero : (0 : Nat) < 4 := by decide
  have covers {i : Nat} (below : i < request.height.toNat) {x y : Nat}
      (across : x < mode.horizontalResolution.toNat)
      (down : y < mode.verticalResolution.toNat) :=
    line_covers_iff laid request i x y 0 wide (by omega) across down zero
  refine ⟨fun address => if address = mode.pixelByte column request.destinationY.toNat 0 then 1
    else 0, ?_⟩
  intro moved
  have wanted := moved.pixels (column - request.sourceX.toNat) (by omega) line (by omega) 0 zero
  rw [isLine, Nat.add_sub_cancel' fromSource, if_pos rfl] at wanted
  have origin := line_source laid request line (column - request.sourceX.toNat) 0 (by omega)
    (by omega) (by omega) (by omega) zero
  rw [isLine, Nat.add_sub_cancel' fromSource] at origin
  rw [Move.applyAll_target _ (show line < request.height.toNat by omega)
    ((covers (by omega) (by omega) (by omega)).mpr ⟨rfl, by omega, by omega⟩)
    (fun later after below inside => by
      have := (covers below (by omega) (by omega)).mp inside
      omega), origin] at wanted
  have first := line_source laid request 0 (column - request.destinationX.toNat) 0 (by omega)
    (by omega) (by omega) (by omega) zero
  rw [Nat.add_sub_cancel' fromDestination, Nat.add_zero, Nat.add_zero] at first
  have covered : (lineMove mode request 0).target
      (mode.pixelByte column request.destinationY.toNat 0) :=
    (covers (by omega) (by omega) (by omega)).mpr ⟨rfl, by omega, by omega⟩
  rw [Move.applyAll_original _ positive covered
    (fun later after below inside => by
      have := (covers (by omega) (by omega) (by omega)).mp inside
      omega)
    (fun earlier before => absurd before (Nat.not_lt_zero earlier)), first] at wanted
  have same : mode.pixelByte (request.sourceX.toNat + (column - request.destinationX.toNat))
      request.sourceY.toNat 0 = mode.pixelByte column request.destinationY.toNat 0 := by
    by_contra different
    rw [if_neg different] at wanted
    exact absurd wanted (by decide)
  rw [← same] at covered
  have := (covers (by omega) (by omega) (by omega)).mp covered
  omega

end

variable {request : BltRequest}

theorem moved_of_empty {mode : GopMode} (empty : request.width = 0 ∨ request.height = 0)
    (memory : Memory) :
    PictureMoved mode request memory memory := by
  refine ⟨?_, fun _ _ _ => rfl⟩
  intro x inWidth y inHeight
  rcases empty with none | none
  · rw [none] at inWidth
    exact absurd inWidth (Nat.not_lt_zero x)
  · rw [none] at inHeight
    exact absurd inHeight (Nat.not_lt_zero y)

theorem not_overlapsBelow_of_empty
    (empty : request.width = 0 ∨ request.height = 0) : ¬ request.OverlapsBelow := by
  rintro ⟨lower, within, left, right⟩
  have none : (0 : UInt64).toNat = 0 := rfl
  rcases empty with zero | zero
  · rw [zero, none] at left right
    omega
  · rw [zero, none] at within
    omega

theorem displayBlt_videoToVideo {mode : GopMode} (operation : request.bltOperation = 3)
    (wide : request.width ≠ 0) (high : request.height ≠ 0) (memory : Memory) :
    (displayBlt mode request memory).memory =
      Move.applyAll (lineMove mode request) request.height.toNat memory := by
  have known : BltOperation.ofValue request.bltOperation = some .videoToVideo := by
    rw [operation]
    rfl
  rw [displayBlt_lines known wide high, lines_memory]

/-- A call moves the picture of its source exactly if its destination does not begin in a lower
line of the source, in columns they share. -/
theorem videoToVideo_moved_iff (screen : Screen) (request : BltRequest)
    (operation : request.bltOperation = 3)
    (source : request.sourceRectangle.Fits screen.toGopMode)
    (destination : request.destinationRectangle.Fits screen.toGopMode) :
    (∀ memory, PictureMoved screen.toGopMode request memory
      (displayBlt screen.toGopMode request memory).memory) ↔ ¬ request.OverlapsBelow := by
  by_cases empty : request.width = 0 ∨ request.height = 0
  · refine iff_of_true ?_ (not_overlapsBelow_of_empty empty)
    intro memory
    have rejected : displayBlt screen.toGopMode request memory =
        .untouched EfiStatus.invalidParameter memory := by
      rw [displayBlt, operation, if_neg (by decide), if_pos empty]
    rw [rejected]
    exact moved_of_empty empty memory
  · rw [not_or] at empty
    simp only [displayBlt_videoToVideo operation empty.1 empty.2]
    constructor
    · intro moved overlap
      obtain ⟨memory, unmoved⟩ := not_moved_of_overlap screen.laid source destination overlap
      exact unmoved (moved memory)
    · intro apart memory
      exact moved_of_apart screen.laid source destination apart memory

/-- The upper half of the screen is moved down by one line. -/
def scrollDown : BltRequest where
  bltBuffer := 0
  bltOperation := 3
  sourceX := 0
  sourceY := 0
  destinationX := 0
  destinationY := 1
  width := 1280
  height := 360
  delta := 0

theorem scrollDown_fits : scrollDown.sourceRectangle.Fits mode720p ∧
    scrollDown.destinationRectangle.Fits mode720p := by
  unfold Rectangle.Fits
  decide

theorem scrollDown_overlaps : scrollDown.OverlapsBelow := by
  unfold BltRequest.OverlapsBelow
  decide

theorem videoToVideo_moved_iff_scrollDown :
    (∀ memory, PictureMoved mode720p scrollDown memory
      (displayBlt mode720p scrollDown memory).memory) ↔ ¬ scrollDown.OverlapsBelow :=
  videoToVideo_moved_iff ⟨mode720p, mode720p_laid⟩ scrollDown rfl scrollDown_fits.1
    scrollDown_fits.2

/-- Moving the picture down by one line repeats its first line. -/
theorem videoToVideo_not_moved :
    mode720p.Laid ∧ scrollDown.sourceRectangle.Fits mode720p ∧
      scrollDown.destinationRectangle.Fits mode720p ∧
      ∃ memory, ¬ PictureMoved mode720p scrollDown memory
        (displayBlt mode720p scrollDown memory).memory := by
  refine ⟨mode720p_laid, scrollDown_fits.1, scrollDown_fits.2, ?_⟩
  obtain ⟨memory, unmoved⟩ := not_moved_of_overlap mode720p_laid scrollDown_fits.1
    scrollDown_fits.2 scrollDown_overlaps
  rw [← displayBlt_videoToVideo rfl (by decide) (by decide)] at unmoved
  exact ⟨memory, unmoved⟩

end MuRockchip.Display
