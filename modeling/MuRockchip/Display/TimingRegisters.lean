/-
Programming the timing of a display (`DwHdmiCore.c`, `Vop2.c`).

The frame composer takes the parts of a timing in registers of eight bits, the video output
takes them in the halves of registers of 32 bits. Both get differences of the numbers the EDID
parser has added up, and narrow them without looking at them.

* `parseEdid_timing`: the timing of an accepted EDID, from the numbers of its descriptor.
* `parseEdid_programmable_iff`: which accepted timings can be programmed.
-/
import MuRockchip.Display.EdidParse

namespace MuRockchip.Display

open Base Base.Traced

/-! ### The registers -/

/-- The input video mode timings of the frame composer. -/
structure FcTimings where
  inhactiv0 : UInt8
  inhactiv1 : UInt8
  inhblank0 : UInt8
  inhblank1 : UInt8
  invactiv0 : UInt8
  invactiv1 : UInt8
  invblank : UInt8
  hsyncindelay0 : UInt8
  hsyncindelay1 : UInt8
  hsyncinwidth0 : UInt8
  hsyncinwidth1 : UInt8
  vsyncindelay : UInt8
  vsyncinwidth : UInt8
  deriving DecidableEq, Repr

/-- What `DwHdmiFcInit` writes of a timing. -/
def dwHdmiFcInit (timings : HdmiDisplayTiming) : FcTimings :=
  let inhactiv := timings.hDisplay.toUInt16
  let inhblank := (timings.hTotal - timings.hDisplay).toUInt16
  let invactiv := timings.vDisplay.toUInt16
  let invblank := (timings.vTotal - timings.vDisplay).toUInt8
  let hsyncindelay := (timings.hSyncStart - timings.hDisplay).toUInt16
  let hsyncinwidth := (timings.hSyncEnd - timings.hSyncStart).toUInt16
  let vsyncindelay := (timings.vSyncStart - timings.vDisplay).toUInt8
  let vsyncinwidth := (timings.vSyncEnd - timings.vSyncStart).toUInt8
  { inhactiv0 := (inhactiv &&& 0xff).toUInt8
    inhactiv1 := (inhactiv >>> 8).toUInt8
    inhblank0 := (inhblank &&& 0xff).toUInt8
    inhblank1 := (inhblank >>> 8).toUInt8
    invactiv0 := (invactiv &&& 0xff).toUInt8
    invactiv1 := (invactiv >>> 8).toUInt8
    invblank := invblank
    hsyncindelay0 := (hsyncindelay &&& 0xff).toUInt8
    hsyncindelay1 := (hsyncindelay >>> 8).toUInt8
    hsyncinwidth0 := (hsyncinwidth &&& 0xff).toUInt8
    hsyncinwidth1 := (hsyncinwidth >>> 8).toUInt8
    vsyncindelay := vsyncindelay
    vsyncinwidth := vsyncinwidth }

/-- The timing registers of the video output. -/
structure VopTimings where
  preScanHTiming : UInt32
  dspHActInfo : UInt32
  dspVActInfo : UInt32
  dspHTotalHsEnd : UInt32
  dspHActStEnd : UInt32
  dspVTotalVsEnd : UInt32
  dspVActStEnd : UInt32
  region0ActInfo : UInt32
  region0DspInfo : UInt32
  deriving DecidableEq, Repr

/-- What `Vop2SetMode` writes of a timing. The back porches it computes are not written. -/
def vop2SetMode (timings : HdmiDisplayTiming) : VopTimings :=
  let hSyncLen := timings.hSyncEnd - timings.hSyncStart
  let hActSt := timings.hTotal - timings.hSyncStart
  let hActEnd := hActSt + timings.hDisplay
  let vSyncLen := timings.vSyncEnd - timings.vSyncStart
  let vActSt := timings.vTotal - timings.vSyncStart
  let vActEnd := vActSt + timings.vDisplay
  let size := ((timings.vDisplay - 1) <<< 16) ||| (timings.hDisplay - 1)
  { preScanHTiming := (((42 : UInt32) + (timings.hDisplay >>> 1) - 1) <<< 16) ||| hSyncLen
    dspHActInfo := (hActSt <<< 16) ||| hActEnd
    dspVActInfo := (vActSt <<< 16) ||| vActEnd
    dspHTotalHsEnd := (timings.hTotal <<< 16) ||| hSyncLen
    dspHActStEnd := (hActSt <<< 16) ||| hActEnd
    dspVTotalVsEnd := (timings.vTotal <<< 16) ||| vSyncLen
    dspVActStEnd := (vActSt <<< 16) ||| vActEnd
    region0ActInfo := size
    region0DspInfo := size }

/-! ### What the registers should hold -/

/-- A field of the registers: the number it is meant to hold, and the one it is given. -/
structure Field where
  meant : Int
  written : Nat
  deriving DecidableEq, Repr

/-- Nothing was lost on the way, and nothing went below zero. -/
def Field.Exact (field : Field) : Prop := field.meant = field.written

/-- A number in two registers of eight bits. -/
def joinBytes (low high : UInt8) : Nat := low.toNat + 2 ^ 8 * high.toNat

/-- The two numbers in a register of 32 bits. -/
def upperHalf (register : UInt32) : Nat := register.toNat / 2 ^ 16

def lowerHalf (register : UInt32) : Nat := register.toNat % 2 ^ 16

/-- The fields of the frame composer. -/
def fcFields (timings : HdmiDisplayTiming) : List Field :=
  let registers := dwHdmiFcInit timings
  let hDisplay : Int := timings.hDisplay.toNat
  let hSyncStart : Int := timings.hSyncStart.toNat
  let vDisplay : Int := timings.vDisplay.toNat
  let vSyncStart : Int := timings.vSyncStart.toNat
  [⟨hDisplay, joinBytes registers.inhactiv0 registers.inhactiv1⟩,
    ⟨timings.hTotal.toNat - hDisplay, joinBytes registers.inhblank0 registers.inhblank1⟩,
    ⟨vDisplay, joinBytes registers.invactiv0 registers.invactiv1⟩,
    ⟨timings.vTotal.toNat - vDisplay, registers.invblank.toNat⟩,
    ⟨hSyncStart - hDisplay, joinBytes registers.hsyncindelay0 registers.hsyncindelay1⟩,
    ⟨timings.hSyncEnd.toNat - hSyncStart,
      joinBytes registers.hsyncinwidth0 registers.hsyncinwidth1⟩,
    ⟨vSyncStart - vDisplay, registers.vsyncindelay.toNat⟩,
    ⟨timings.vSyncEnd.toNat - vSyncStart, registers.vsyncinwidth.toNat⟩]

/-- The fields of a register of 32 bits. -/
def halves (register : UInt32) (upper lower : Int) : List Field :=
  [⟨upper, upperHalf register⟩, ⟨lower, lowerHalf register⟩]

/-- The fields of the video output. -/
def vopFields (timings : HdmiDisplayTiming) : List Field :=
  let registers := vop2SetMode timings
  let hDisplay : Int := timings.hDisplay.toNat
  let hSyncLen : Int := timings.hSyncEnd.toNat - timings.hSyncStart.toNat
  let hActSt : Int := timings.hTotal.toNat - timings.hSyncStart.toNat
  let vDisplay : Int := timings.vDisplay.toNat
  let vSyncLen : Int := timings.vSyncEnd.toNat - timings.vSyncStart.toNat
  let vActSt : Int := timings.vTotal.toNat - timings.vSyncStart.toNat
  halves registers.preScanHTiming (42 + hDisplay / 2 - 1) hSyncLen ++
    halves registers.dspHActInfo hActSt (hActSt + hDisplay) ++
    halves registers.dspVActInfo vActSt (vActSt + vDisplay) ++
    halves registers.dspHTotalHsEnd timings.hTotal.toNat hSyncLen ++
    halves registers.dspHActStEnd hActSt (hActSt + hDisplay) ++
    halves registers.dspVTotalVsEnd timings.vTotal.toNat vSyncLen ++
    halves registers.dspVActStEnd vActSt (vActSt + vDisplay) ++
    halves registers.region0ActInfo (vDisplay - 1) (hDisplay - 1) ++
    halves registers.region0DspInfo (vDisplay - 1) (hDisplay - 1)

/-- The parts of one direction follow each other, and the visible part and the pulse are not
empty. -/
def Ordered (display syncStart syncEnd total : UInt32) : Prop :=
  0 < display.toNat ∧ display.toNat ≤ syncStart.toNat ∧ syncStart.toNat < syncEnd.toNat ∧
    syncEnd.toNat ≤ total.toNat

/-- The timing is in order, and the registers hold what they are meant to. -/
structure Programmable (timings : HdmiDisplayTiming) : Prop where
  horizontal : Ordered timings.hDisplay timings.hSyncStart timings.hSyncEnd timings.hTotal
  vertical : Ordered timings.vDisplay timings.vSyncStart timings.vSyncEnd timings.vTotal
  frameComposer : ∀ field ∈ fcFields timings, field.Exact
  videoOutput : ∀ field ∈ vopFields timings, field.Exact

/-! ### The numbers of a descriptor -/

/-- One direction of a detailed timing descriptor, in pixels or in lines. -/
structure Direction where
  active : Nat
  blanking : Nat
  front : Nat
  width : Nat
  deriving DecidableEq, Repr

/-- The horizontal numbers of the preferred timing of an EDID. -/
def horizontal (edid : Nat → UInt8) : Direction where
  active := (edid 0x38).toNat + 2 ^ 8 * ((edid 0x3A).toNat / 16)
  blanking := (edid 0x39).toNat + 2 ^ 8 * ((edid 0x3A).toNat % 16)
  front := (edid 0x3E).toNat + 2 ^ 8 * ((edid 0x41).toNat / 64)
  width := (edid 0x3F).toNat + 2 ^ 8 * ((edid 0x41).toNat / 16 % 4)

/-- The vertical ones. -/
def vertical (edid : Nat → UInt8) : Direction where
  active := (edid 0x3B).toNat + 2 ^ 8 * ((edid 0x3D).toNat / 16)
  blanking := (edid 0x3C).toNat + 2 ^ 8 * ((edid 0x3D).toNat % 16)
  front := (edid 0x40).toNat / 16 + 2 ^ 4 * ((edid 0x41).toNat / 4 % 4)
  width := (edid 0x40).toNat % 16 + 2 ^ 4 * ((edid 0x41).toNat % 4)

/-- There is something to see, and a pulse that ends before the blanking does. -/
def Direction.Drivable (direction : Direction) : Prop :=
  direction.active ≠ 0 ∧ direction.width ≠ 0 ∧
    direction.front + direction.width ≤ direction.blanking

/-- The four numbers of a timing are what a descriptor says. -/
structure Describes (direction : Direction) (display syncStart syncEnd total : UInt32) : Prop where
  display : display.toNat = direction.active
  syncStart : syncStart.toNat = direction.active + direction.front
  syncEnd : syncEnd.toNat = direction.active + direction.front + direction.width
  total : total.toNat = direction.active + direction.blanking

/-! ### Putting the numbers together -/

/-- The upper bits of a number are a multiple of its lower range. -/
theorem joinBits_toNat {low : UInt32} {high : UInt8} {mask shift : UInt32} {width upper : Nat}
    (shifted : ((high.toUInt32 &&& mask) <<< shift).toNat = 2 ^ width * upper)
    (small : low.toNat < 2 ^ width) :
    (joinBits low high mask shift).toNat = low.toNat + 2 ^ width * upper := by
  rw [joinBits, UInt32.toNat_or, shifted, Nat.or_comm, ← Nat.two_pow_add_eq_or_of_lt small,
    Nat.add_comm]

set_option maxRecDepth 4096 in
/-- The bits of a shared byte the parser cuts out for each of its numbers. -/
theorem shared_bits (high : UInt8) :
    ((high.toUInt32 &&& 0xF0) <<< 4).toNat = 2 ^ 8 * (high.toNat / 16) ∧
      ((high.toUInt32 &&& 0x0F) <<< 8).toNat = 2 ^ 8 * (high.toNat % 16) ∧
      ((high.toUInt32 &&& 0xC0) <<< 2).toNat = 2 ^ 8 * (high.toNat / 64) ∧
      ((high.toUInt32 &&& 0x30) <<< 4).toNat = 2 ^ 8 * (high.toNat / 16 % 4) ∧
      ((high.toUInt32 &&& 0x0C) <<< 2).toNat = 2 ^ 4 * (high.toNat / 4 % 4) ∧
      ((high.toUInt32 &&& 0x03) <<< 4).toNat = 2 ^ 4 * (high.toNat % 4) := by
  cases high with
  | ofBitVec byte =>
    cases byte with
    | ofFin byte =>
      revert byte
      decide

set_option maxRecDepth 4096 in
theorem nibbles (byte : UInt8) : (byte.toUInt32 >>> 4).toNat = byte.toNat / 16 ∧
    (byte.toUInt32 &&& 0x0F).toNat = byte.toNat % 16 := by
  cases byte with
  | ofBitVec byte =>
    cases byte with
    | ofFin byte =>
      revert byte
      decide

/-- Numbers of a descriptor are added up without wrapping. -/
theorem describes_of_toNat {direction : Direction} {active front width blanking : UInt32}
    (isActive : active.toNat = direction.active) (isFront : front.toNat = direction.front)
    (isWidth : width.toNat = direction.width) (isBlanking : blanking.toNat = direction.blanking)
    (small : direction.active < 2 ^ 12 ∧ direction.front < 2 ^ 12 ∧ direction.width < 2 ^ 12 ∧
      direction.blanking < 2 ^ 12) :
    Describes direction active (active + front) (active + front + width) (active + blanking) := by
  have start : (active + front).toNat = direction.active + direction.front := by
    rw [UInt32.toNat_add]
    omega
  refine ⟨isActive, start, ?_, ?_⟩
  · rw [UInt32.toNat_add, start]
    omega
  · rw [UInt32.toNat_add]
    omega

theorem horizontal_small (edid : Nat → UInt8) :
    (horizontal edid).active < 2 ^ 12 ∧ (horizontal edid).front < 2 ^ 10 ∧
      (horizontal edid).width < 2 ^ 10 ∧ (horizontal edid).blanking < 2 ^ 12 := by
  have bound (address : Nat) : (edid address).toNat < 256 := (edid address).toNat_lt
  have := bound 0x38
  have := bound 0x39
  have := bound 0x3A
  have := bound 0x3E
  have := bound 0x3F
  have := bound 0x41
  simp only [horizontal]
  omega

theorem vertical_small (edid : Nat → UInt8) :
    (vertical edid).active < 2 ^ 12 ∧ (vertical edid).front < 2 ^ 6 ∧
      (vertical edid).width < 2 ^ 6 ∧ (vertical edid).blanking < 2 ^ 12 := by
  have bound (address : Nat) : (edid address).toNat < 256 := (edid address).toNat_lt
  have := bound 0x3B
  have := bound 0x3C
  have := bound 0x3D
  have := bound 0x40
  have := bound 0x41
  simp only [vertical]
  omega

/-! ### The timing of an accepted EDID -/

/-- Two timings differ in their mode number at most. -/
def SameRaster (timings others : HdmiDisplayTiming) : Prop :=
  ∃ vic, timings = { others with vic := vic }

theorem SameRaster.refl (timings : HdmiDisplayTiming) : SameRaster timings timings :=
  ⟨timings.vic, rfl⟩

theorem SameRaster.trans {first second third : HdmiDisplayTiming}
    (left : SameRaster first second) (right : SameRaster second third) :
    SameRaster first third := by
  obtain ⟨vic, rfl⟩ := left
  obtain ⟨_, rfl⟩ := right
  exact ⟨vic, rfl⟩

section

variable (edid : Nat → UInt8)

theorem sameRaster_foldl {ι : Type} {round : HdmiDisplayTiming → ι → HdmiDisplayTiming}
    (each : ∀ timings item, SameRaster (round timings item) timings) (items : List ι)
    (timings : HdmiDisplayTiming) : SameRaster (items.foldl round timings) timings := by
  induction items generalizing timings with
  | nil => exact .refl timings
  | cons item items ih => exact (ih (round timings item)).trans (each timings item)

theorem takeSvd_sameRaster (timings : HdmiDisplayTiming) (svd : UInt8) :
    SameRaster (takeSvd timings svd) timings := by
  unfold takeSvd
  split
  · exact ⟨svd &&& 0x7F, rfl⟩
  · exact .refl timings

theorem parseDataBlock_sameRaster (index data : Nat) (header : UInt8)
    (timings : HdmiDisplayTiming) :
    SameRaster (value (parseDataBlock edid index data header timings)) timings := by
  unfold parseDataBlock
  split
  · rw [parseVideo, value_foldlM]
    exact sameRaster_foldl (fun timings entry => takeSvd_sameRaster timings _) _ timings
  · exact .refl timings

theorem parseDataBlocks_sameRaster (index off data : Nat) (timings : HdmiDisplayTiming) :
    SameRaster (value (parseDataBlocks edid index off data timings)) timings := by
  rw [parseDataBlocks]
  split
  · rw [value_bind]
    split
    · exact .refl timings
    · rw [value_bind]
      exact (parseDataBlocks_sameRaster index off _ _).trans
        (parseDataBlock_sameRaster edid index data _ timings)
  · exact .refl timings
termination_by off - data

theorem parseExtension_sameRaster (timings : HdmiDisplayTiming) (index : Nat) :
    SameRaster (value (parseExtension edid timings index)) timings := by
  unfold parseExtension
  simp only [value_bind]
  split
  · unfold parseCea861ExtentionBlock
    split
    · exact .refl timings
    · exact parseDataBlocks_sameRaster edid index _ 4 timings
  · exact .refl timings

/-- The descriptor of a timing the driver knows is taken as it stands. -/
theorem parseDetailedTimingBlock_describes (drivable : DrivableTiming edid)
    (timings : HdmiDisplayTiming) :
    let result := (value (parseDetailedTimingBlock edid 0x36 timings)).2
    Describes (horizontal edid) result.hDisplay result.hSyncStart result.hSyncEnd result.hTotal ∧
      Describes (vertical edid) result.vDisplay result.vSyncStart result.vSyncEnd
        result.vTotal := by
  have unset {clock : UInt32} (zero : clock = 0) : clock * 10 ∉ supportedKHz := by
    subst zero
    decide
  have some : (pixelClock (edid 0x36) (edid (0x36 + 1))).toUInt32 ≠ 0 :=
    fun zero => unset zero drivable
  have known : (pixelClock (edid 0x36) (edid (0x36 + 1))).toUInt32 * 10 ∈ supportedKHz := drivable
  rw [parseDetailedTimingBlock, value_bind, value_fetch, value_bind, value_fetch]
  dsimp only
  rw [if_neg some]
  dsimp only [value_bind, value_fetch]
  rw [if_pos known]
  have byte (address : Nat) : (edid address).toUInt32.toNat < 2 ^ 8 := (edid address).toNat_lt
  have upper := (nibbles (edid 0x40)).1
  have lower := (nibbles (edid 0x40)).2
  have whole : (edid 0x40).toNat < 256 := (edid 0x40).toNat_lt
  obtain ⟨hActive, hBlanking, -⟩ := shared_bits (edid 0x3A)
  obtain ⟨vActive, vBlanking, -⟩ := shared_bits (edid 0x3D)
  obtain ⟨-, -, hFront, hWidth, vFront, vWidth⟩ := shared_bits (edid 0x41)
  have hSmall := horizontal_small edid
  have vSmall := vertical_small edid
  constructor
  · exact describes_of_toNat (joinBits_toNat hActive (byte 0x38))
      (joinBits_toNat hFront (byte 0x3E)) (joinBits_toNat hWidth (byte 0x3F))
      (joinBits_toNat hBlanking (byte 0x39)) (by omega)
  · refine describes_of_toNat (joinBits_toNat vActive (byte 0x3B)) ?_ ?_
      (joinBits_toNat vBlanking (byte 0x3C)) (by omega)
    · refine (joinBits_toNat vFront ?_).trans (congrArg (· + _) upper)
      rw [upper]
      omega
    · refine (joinBits_toNat vWidth ?_).trans (congrArg (· + _) lower)
      rw [lower]
      omega

theorem Describes.sameRaster {timings others : HdmiDisplayTiming}
    (same : SameRaster timings others) {across down : Direction}
    (describes : Describes across others.hDisplay others.hSyncStart others.hSyncEnd others.hTotal ∧
      Describes down others.vDisplay others.vSyncStart others.vSyncEnd others.vTotal) :
    Describes across timings.hDisplay timings.hSyncStart timings.hSyncEnd timings.hTotal ∧
      Describes down timings.vDisplay timings.vSyncStart timings.vSyncEnd timings.vTotal := by
  obtain ⟨vic, rfl⟩ := same
  exact describes

theorem parseEdid_timing {timings : HdmiDisplayTiming} {numExt : UInt8}
    (accepted : (value (parseEdid edid timings numExt)).1 = true) :
    let result := (value (parseEdid edid timings numExt)).2
    Describes (horizontal edid) result.hDisplay result.hSyncStart result.hSyncEnd result.hTotal ∧
      Describes (vertical edid) result.vDisplay result.vSyncStart result.vSyncEnd
        result.vTotal := by
  revert accepted
  rw [parseEdid, value_bind, value_bind]
  by_cases valid : value (isEdidValid edid) = true
  · rw [if_pos valid, value_bind]
    rcases parseDetailedTimingBlock_cases edid timings with
      ⟨drivable, usable⟩ | ⟨-, unusable⟩
    · rw [if_pos usable, value_bind, value_foldlM]
      intro _
      have preferred := parseDetailedTimingBlock_describes edid drivable timings
      have extended := sameRaster_foldl (parseExtension_sameRaster edid)
        (List.range' 128 numExt.toNat 128)
        (value (parseDetailedTimingBlock edid 0x36 timings)).2
      refine Describes.sameRaster (SameRaster.trans ?_ extended) preferred
      rw [value_pure]
      dsimp only
      split
      · exact ⟨_, rfl⟩
      · exact .refl _
    · rw [unusable, if_neg Bool.false_ne_true]
      intro rejected
      cases rejected
  · rw [if_neg valid]
    intro rejected
    cases rejected

end

/-! ### Narrowing -/

theorem joinBytes_split (value : UInt16) :
    joinBytes (value &&& 0xff).toUInt8 (value >>> 8).toUInt8 = value.toNat := by
  have bound := value.toNat_lt
  have low : (value &&& 0xff).toUInt8.toNat = value.toNat % 2 ^ 8 := by
    rw [UInt16.toNat_toUInt8, UInt16.toNat_and]
    show (value.toNat &&& (2 ^ 8 - 1)) % 2 ^ 8 = _
    rw [Nat.and_two_pow_sub_one_eq_mod, Nat.mod_mod]
  have high : (value >>> 8).toUInt8.toNat = value.toNat / 2 ^ 8 := by
    rw [UInt16.toNat_toUInt8, UInt16.toNat_shiftRight]
    show (value.toNat >>> 8) % 2 ^ 8 = _
    rw [Nat.shiftRight_eq_div_pow]
    omega
  rw [joinBytes, low, high]
  omega

/-- A number below 2¹⁶ is what its two registers of eight bits hold. -/
theorem joined_exact {number : UInt32} {meant : Int} (isNumber : meant = number.toNat)
    (small : number.toNat < 2 ^ 16) :
    Field.Exact ⟨meant, joinBytes (number.toUInt16 &&& 0xff).toUInt8
      (number.toUInt16 >>> 8).toUInt8⟩ := by
  rw [Field.Exact, isNumber, joinBytes_split, UInt32.toNat_toUInt16, Nat.mod_eq_of_lt small]

/-- A number below 2⁸ is what its register of eight bits holds. -/
theorem byte_exact {number : UInt32} {meant : Int} (isNumber : meant = number.toNat)
    (small : number.toNat < 2 ^ 8) : Field.Exact ⟨meant, number.toUInt8.toNat⟩ := by
  rw [Field.Exact, isNumber, UInt32.toNat_toUInt8, Nat.mod_eq_of_lt small]

theorem halves_join {upper lower : UInt32} (upperSmall : upper.toNat < 2 ^ 16)
    (lowerSmall : lower.toNat < 2 ^ 16) :
    upperHalf ((upper <<< 16) ||| lower) = upper.toNat ∧
      lowerHalf ((upper <<< 16) ||| lower) = lower.toNat := by
  have shifted : (upper <<< 16).toNat = 2 ^ 16 * upper.toNat := by
    rw [UInt32.toNat_shiftLeft]
    show (upper.toNat <<< 16) % 2 ^ 32 = _
    rw [Nat.shiftLeft_eq]
    omega
  have joined : ((upper <<< 16) ||| lower).toNat = 2 ^ 16 * upper.toNat + lower.toNat := by
    rw [UInt32.toNat_or, shifted, Nat.two_pow_add_eq_or_of_lt lowerSmall]
  rw [upperHalf, lowerHalf, joined]
  omega

/-- A register of 32 bits holds what its two halves are meant to hold. -/
theorem halves_exact {upper lower : UInt32} {meantUpper meantLower : Int}
    (isUpper : meantUpper = upper.toNat) (isLower : meantLower = lower.toNat)
    (upperSmall : upper.toNat < 2 ^ 16) (lowerSmall : lower.toNat < 2 ^ 16) :
    ∀ field ∈ halves ((upper <<< 16) ||| lower) meantUpper meantLower, field.Exact := by
  obtain ⟨first, second⟩ := halves_join upperSmall lowerSmall
  simp only [halves, List.forall_mem_cons, Field.Exact, first, second]
  exact ⟨isUpper, isLower, List.forall_mem_nil _⟩

/-- A difference that is not negative is formed without wrapping. -/
theorem difference_toNat {larger smaller : UInt32} (ordered : smaller.toNat ≤ larger.toNat) :
    ((larger - smaller).toNat : Int) = larger.toNat - smaller.toNat := by
  rw [UInt32.toNat_sub_of_le _ _ (UInt32.le_iff_toNat_le.mpr ordered)]
  omega

/-! ### Which timings can be programmed -/

section

variable {timings : HdmiDisplayTiming}

/-- The frame composer can hold a timing in order whose vertical blanking has eight bits. -/
theorem fcFields_exact
    (horizontal : Ordered timings.hDisplay timings.hSyncStart timings.hSyncEnd timings.hTotal)
    (vertical : Ordered timings.vDisplay timings.vSyncStart timings.vSyncEnd timings.vTotal)
    (hSmall : timings.hTotal.toNat < 2 ^ 16) (vSmall : timings.vTotal.toNat < 2 ^ 16)
    (short : timings.vTotal.toNat - timings.vDisplay.toNat < 2 ^ 8) :
    ∀ field ∈ fcFields timings, field.Exact := by
  obtain ⟨-, hStart, hPulse, hEnd⟩ := horizontal
  obtain ⟨-, vStart, vPulse, vEnd⟩ := vertical
  have hBlank := difference_toNat (hStart.trans (hPulse.le.trans hEnd))
  have vBlank := difference_toNat (vStart.trans (vPulse.le.trans vEnd))
  have hDelay := difference_toNat hStart
  have hWidth := difference_toNat hPulse.le
  have vDelay := difference_toNat vStart
  have vWidth := difference_toNat vPulse.le
  simp only [fcFields, List.forall_mem_cons]
  refine ⟨joined_exact rfl ?_, joined_exact hBlank.symm ?_, joined_exact rfl ?_,
    byte_exact vBlank.symm ?_, joined_exact hDelay.symm ?_, joined_exact hWidth.symm ?_,
    byte_exact vDelay.symm ?_, byte_exact vWidth.symm ?_, List.forall_mem_nil _⟩ <;> omega

theorem vopFields_exact
    (horizontal : Ordered timings.hDisplay timings.hSyncStart timings.hSyncEnd timings.hTotal)
    (vertical : Ordered timings.vDisplay timings.vSyncStart timings.vSyncEnd timings.vTotal)
    (hSmall : timings.hTotal.toNat < 2 ^ 14) (vSmall : timings.vTotal.toNat < 2 ^ 14) :
    ∀ field ∈ vopFields timings, field.Exact := by
  obtain ⟨hSome, hStart, hPulse, hEnd⟩ := horizontal
  obtain ⟨vSome, vStart, vPulse, vEnd⟩ := vertical
  have hWidth := difference_toNat hPulse.le
  have vWidth := difference_toNat vPulse.le
  have hBack := difference_toNat (hPulse.le.trans hEnd)
  have vBack := difference_toNat (vPulse.le.trans vEnd)
  have middle : ((42 : UInt32) + (timings.hDisplay >>> 1) - 1).toNat =
      42 + timings.hDisplay.toNat / 2 - 1 := by
    have half : (timings.hDisplay >>> 1).toNat = timings.hDisplay.toNat / 2 := by
      rw [UInt32.toNat_shiftRight]
      exact Nat.shiftRight_eq_div_pow _ 1
    have sum : ((42 : UInt32) + (timings.hDisplay >>> 1)).toNat =
        42 + timings.hDisplay.toNat / 2 := by
      rw [UInt32.toNat_add, half]
      show (42 + _) % 2 ^ 32 = _
      omega
    have one : (1 : UInt32).toNat = 1 := rfl
    have some : (1 : UInt32).toNat ≤ ((42 : UInt32) + (timings.hDisplay >>> 1)).toNat := by
      omega
    have := difference_toNat some
    omega
  have hStop : (timings.hTotal - timings.hSyncStart + timings.hDisplay).toNat =
      (timings.hTotal - timings.hSyncStart).toNat + timings.hDisplay.toNat := by
    rw [UInt32.toNat_add]
    omega
  have vStop : (timings.vTotal - timings.vSyncStart + timings.vDisplay).toNat =
      (timings.vTotal - timings.vSyncStart).toNat + timings.vDisplay.toNat := by
    rw [UInt32.toNat_add]
    omega
  have one : (1 : UInt32).toNat = 1 := rfl
  have hFirst : (1 : UInt32).toNat ≤ timings.hDisplay.toNat := hSome
  have vFirst : (1 : UInt32).toNat ≤ timings.vDisplay.toNat := vSome
  have hLast := difference_toNat hFirst
  have vLast := difference_toNat vFirst
  simp only [vopFields, vop2SetMode, List.forall_mem_append, and_assoc]
  refine ⟨halves_exact ?_ ?_ ?_ ?_, halves_exact ?_ ?_ ?_ ?_, halves_exact ?_ ?_ ?_ ?_,
    halves_exact ?_ ?_ ?_ ?_, halves_exact ?_ ?_ ?_ ?_, halves_exact ?_ ?_ ?_ ?_,
    halves_exact ?_ ?_ ?_ ?_, halves_exact ?_ ?_ ?_ ?_, halves_exact ?_ ?_ ?_ ?_⟩ <;> omega

/-- The parts of a direction follow each other exactly if its descriptor can be driven. -/
theorem Describes.ordered_iff {direction : Direction} {display syncStart syncEnd total : UInt32}
    (describes : Describes direction display syncStart syncEnd total) :
    Ordered display syncStart syncEnd total ↔ direction.Drivable := by
  obtain ⟨active, start, stop, whole⟩ := describes
  rw [Ordered, Direction.Drivable, active, start, stop, whole]
  omega

/-- A timing can be programmed exactly if its descriptor can be driven, and has no more lines of
blanking than a register of eight bits holds. -/
theorem programmable_iff {across down : Direction}
    (isAcross : Describes across timings.hDisplay timings.hSyncStart timings.hSyncEnd
      timings.hTotal)
    (isDown : Describes down timings.vDisplay timings.vSyncStart timings.vSyncEnd timings.vTotal)
    (acrossSmall : across.active < 2 ^ 12 ∧ across.blanking < 2 ^ 12)
    (downSmall : down.active < 2 ^ 12 ∧ down.blanking < 2 ^ 12) :
    Programmable timings ↔ across.Drivable ∧ down.Drivable ∧ down.blanking < 2 ^ 8 := by
  have hTotal := isAcross.total
  have vTotal := isDown.total
  have vDisplay := isDown.display
  constructor
  · intro programmable
    refine ⟨isAcross.ordered_iff.mp programmable.horizontal,
      isDown.ordered_iff.mp programmable.vertical, ?_⟩
    have written := (dwHdmiFcInit timings).invblank.toNat_lt
    have exact : (⟨timings.vTotal.toNat - timings.vDisplay.toNat,
        (dwHdmiFcInit timings).invblank.toNat⟩ : Field).Exact :=
      programmable.frameComposer _ (by simp [fcFields])
    simp only [Field.Exact] at exact
    omega
  · rintro ⟨acrossDrivable, downDrivable, short⟩
    have horizontal := isAcross.ordered_iff.mpr acrossDrivable
    have vertical := isDown.ordered_iff.mpr downDrivable
    exact ⟨horizontal, vertical,
      fcFields_exact horizontal vertical (by omega) (by omega) (by omega),
      vopFields_exact horizontal vertical (by omega) (by omega)⟩

end

/-- The timing of an accepted EDID can be programmed exactly if the descriptor of its preferred
timing can be driven in both directions, with at most 255 lines of vertical blanking. -/
theorem parseEdid_programmable_iff (edid : Nat → UInt8) (timings : HdmiDisplayTiming)
    (numExt : UInt8) (accepted : (value (parseEdid edid timings numExt)).1 = true) :
    Programmable (value (parseEdid edid timings numExt)).2 ↔
      (horizontal edid).Drivable ∧ (vertical edid).Drivable ∧ (vertical edid).blanking < 2 ^ 8 := by
  obtain ⟨across, down⟩ := parseEdid_timing edid accepted
  have hSmall := horizontal_small edid
  have vSmall := vertical_small edid
  exact programmable_iff across down ⟨hSmall.1, hSmall.2.2.2⟩ ⟨vSmall.1, vSmall.2.2.2⟩

/-- A display whose preferred timing is that of 1280 by 720 pixels. -/
def edid720p (address : Nat) : UInt8 :=
  if 1 ≤ address ∧ address ≤ 6 then 0xFF
  else ([(0x36, 0x01), (0x37, 0x1D), (0x38, 0x00), (0x39, 0x72), (0x3A, 0x51), (0x3B, 0xD0),
    (0x3C, 0x1E), (0x3D, 0x20), (0x3E, 0x6E), (0x3F, 0x28), (0x40, 0x55), (127, 0x2C)] :
      List (Nat × UInt8)).lookup address |>.getD 0

/-- A display that gives a pixel clock, and nothing else. -/
def edidOfClock (address : Nat) : UInt8 :=
  if 1 ≤ address ∧ address ≤ 6 then 0xFF
  else if address = 0x36 then 0x01
  else if address = 0x37 then 0x1D
  else if address = 127 then 0xE8
  else 0

theorem accepted_of_valid {edid : Nat → UInt8} (valid : ValidEdid edid)
    (drivable : DrivableTiming edid) (timings : HdmiDisplayTiming) (numExt : UInt8) :
    (value (parseEdid edid timings numExt)).1 = true := by
  rw [parseEdid, value_bind, value_bind, if_pos ((value_isEdidValid edid).mpr valid), value_bind]
  rcases parseDetailedTimingBlock_cases edid timings with ⟨-, usable⟩ | ⟨unknown, -⟩
  · rw [if_pos usable]
    rfl
  · exact absurd drivable unknown

theorem edid720p_accepted (timings : HdmiDisplayTiming) (numExt : UInt8) :
    (value (parseEdid edid720p timings numExt)).1 = true := by
  refine accepted_of_valid ⟨by decide, by decide +kernel⟩ ?_ timings numExt
  unfold DrivableTiming
  decide +kernel

theorem edidOfClock_accepted (timings : HdmiDisplayTiming) (numExt : UInt8) :
    (value (parseEdid edidOfClock timings numExt)).1 = true := by
  refine accepted_of_valid ⟨by decide, by decide +kernel⟩ ?_ timings numExt
  unfold DrivableTiming
  decide +kernel

theorem parseEdid_programmable_720p :
    Programmable (value (parseEdid edid720p ⟨0, 0, 0, 0, 0, 0, 0, 0, 0, 0, false, false⟩ 0)).2 := by
  refine (parseEdid_programmable_iff edid720p _ 0 (edid720p_accepted _ 0)).mpr ?_
  unfold Direction.Drivable
  decide

/-- A display that gives a pixel clock only is accepted, with nothing to show. -/
theorem parseEdid_not_programmable :
    let parsed := value (parseEdid edidOfClock ⟨0, 0, 0, 0, 0, 0, 0, 0, 0, 0, false, false⟩ 0)
    parsed.1 = true ∧ ¬ Programmable parsed.2 := by
  have accepted := edidOfClock_accepted ⟨0, 0, 0, 0, 0, 0, 0, 0, 0, 0, false, false⟩ 0
  refine ⟨accepted, fun programmable => ?_⟩
  have visible := programmable.horizontal.1
  rw [(parseEdid_timing edidOfClock accepted).1.display] at visible
  exact absurd visible (by decide)

end MuRockchip.Display
