/-
What the identification of a card asks of the card (`MmcIdentification.c`).

A card goes from the idle state over the identification and the stand-by state to the
transfer state, and takes in each of them only some commands: an application command only
after the one that announces it, a command for one card only with that card's address. The
driver knows of the card only what it answers.

* `initializeMmcDevice_disciplined`: whatever the host and the card answer, the driver makes
  no call that is not due, and if it succeeds the card is selected, has been told the size of
  its blocks, and the media is as large as the card's registers say.
-/
import MuRockchip.Base.Discipline
import MuRockchip.Mmc.CardSize

namespace MuRockchip.Mmc

open Base Prog

/-! ### The card -/

/-- The states of a card. -/
inductive Phase
  | off
  | idle
  | ident
  | standBy
  | transfer
  deriving DecidableEq, Repr

/-- What the answers so far say about the card. -/
structure Track where
  phase : Phase
  /-- The command that has just been taken, whose response may be read. -/
  taken : Option CardCommand
  /-- The next command is an application command. -/
  app : Bool
  /-- The card has reported that its power-up is finished. -/
  powered : Bool
  /-- The card is an SD card, which chooses its own address. -/
  sd : Bool
  /-- The address of the card, as an argument, if it has one. -/
  address : Option UInt32
  /-- The card has not let itself be selected. -/
  refused : Bool
  csd : Option Response
  /-- The extended CSD of an eMMC. -/
  ecsd : Option (Nat → UInt8)
  blockLength : Option UInt32

def Track.Selected (track : Track) : Prop := track.phase = .transfer ∨ track.refused = true

/-- The address is that of the card. -/
def Track.Addressed (track : Track) (argument : UInt32) : Prop :=
  ∀ address, track.address = some address → argument = address

/-- The command may be sent. -/
def Track.DueCommand (track : Track) (argument : UInt32) : CardCommand → Prop
  | .cmd0 => True
  | .cmd1 | .cmd5 => track.phase = .idle
  | .cmd2 => track.phase = .idle ∧ track.powered = true
  | .cmd3 => track.phase = .ident
  | .cmd6 => track.Selected
  | .cmd7 => track.phase = .standBy ∧ track.Addressed argument
  | .cmd8 => track.phase = .idle ∨ track.Selected
  | .cmd9 => track.phase = .standBy ∧ track.Addressed argument
  | .cmd13 => (track.phase = .standBy ∨ track.phase = .transfer) ∧ track.Addressed argument
  | .cmd16 | .cmd23 => track.Selected
  | .cmd55 => track.phase = .idle ∨ track.phase = .transfer ∧ track.Addressed argument
  | .acmd41 => track.phase = .idle ∧ track.app = true
  | .acmd51 => track.phase = .transfer ∧ track.app = true

def CardCommand.Answers : CardCommand → ResponseType → Prop
  | .cmd13, .r1 | .cmd55, .r1 | .cmd2, .r2 | .cmd9, .r2 | .cmd8, .r7 | .cmd1, .ocr
  | .acmd41, .ocr | .cmd2, .cid | .cmd9, .csd | .cmd3, .rca => True
  | _, _ => False

def CardCommand.dataLength : CardCommand → UInt64
  | .cmd8 => 512
  | .cmd6 => 64
  | .acmd51 => 8
  | _ => 0

def Track.DueState (track : Track) : CardState → Prop
  | .hwInitialization => True
  | .idle => track.phase = .idle
  | .ready => track.phase = .idle ∧ track.powered = true
  | .identification => track.phase = .ident
  | .standBy => track.phase = .standBy
  | .transfer => track.phase = .standBy ∨ track.Selected

def Track.Due (track : Track) : HostOp → Prop
  | .sendCommand cmd argument => track.DueCommand argument cmd
  | .receiveResponse type => ∃ cmd, track.taken = some cmd ∧ cmd.Answers type
  | .readBlockData _ length =>
    track.Selected ∧ ∀ cmd, track.taken = some cmd → length = cmd.dataLength
  | .setIos _ _ _ => track.Selected
  | .notifyState state => track.DueState state
  | .isReadOnly => True

def Track.take (track : Track) (argument : UInt32) (cmd : CardCommand) : Track :=
  let track := { track with taken := some cmd, app := decide (cmd = .cmd55) }
  match cmd with
  | .cmd0 => { track with
      phase := .idle, powered := false, sd := false, address := none, refused := false
      csd := none, ecsd := none, blockLength := none }
  | .cmd1 => { track with sd := false }
  | .acmd41 => { track with sd := true }
  | .cmd2 => { track with phase := .ident }
  | .cmd3 => { track with
      phase := .standBy
      address := if argument >>> 16 = 0 then none else some argument }
  | .cmd7 => { track with phase := .transfer }
  | .cmd16 => { track with blockLength := some argument }
  | _ => track

/-- The card, or the host, does not take a command. -/
def Track.refuse (track : Track) (cmd : CardCommand) : Track :=
  { track with
    taken := none, app := false, refused := track.refused || decide (cmd = .cmd7) }

/-- The response to the command has been read. -/
def Track.read (track : Track) (words : Response) : ResponseType → Track
  | .ocr => { track with taken := none, powered := decide (words.word0 &&& ocrPowerUp ≠ 0) }
  | .rca => { track with
      taken := none
      address := if track.sd then some ((words.word0 >>> 16).toUInt16.toUInt32 <<< rcaShiftOffset)
        else track.address }
  | .csd | .r2 => { track with taken := none, csd := some words }
  | _ => { track with taken := none }

/-- The card has sent data; data as long as that of CMD8 are the extended CSD. -/
def Track.receive (track : Track) (length : UInt64) (bytes : Nat → UInt8) : Track :=
  if length = CardCommand.dataLength .cmd8 then { track with ecsd := some bytes } else track

def Track.after (track : Track) : (op : HostOp) → HostInterface.Ret op → Track
  | .sendCommand cmd argument, status =>
    if EfiStatus.isError status then track.refuse cmd else track.take argument cmd
  | .receiveResponse type, answer =>
    if EfiStatus.isError answer.1 then { track with taken := none }
    else track.read answer.2 type
  | .readBlockData _ length, answer =>
    if EfiStatus.isError answer.1 then track else track.receive length answer.2
  | _, _ => track

def cardDiscipline : Discipline HostInterface Track where
  due op track := track.Due op
  after op answer track := track.after op answer

/-! ### Calls -/

section

variable {β : Type} {device : MmcDevice} {track : Track} {ok : β → Track → Prop}
  {err : Halt → Track → Prop}

/-- What happens where the identification ends early is left open. -/
abbrev Anyway : Halt → Track → Prop := fun _ _ => True

theorem orReturn_then {status : EfiStatus} {next : Unit → Ident β}
    (later : status.isError = false → (next ()).Obeys cardDiscipline ok Anyway track) :
    (orReturn device status >>= next).Obeys cardDiscipline ok Anyway track := by
  rw [orReturn]
  cases failed : status.isError with
  | true => exact trivial
  | false => exact later failed

variable {argument : UInt32} {cmd : CardCommand} {next : EfiStatus → Ident β}

theorem sendCommand_then (due : track.DueCommand argument cmd)
    (taken : ∀ status, EfiStatus.isError status = false →
      (next status).Obeys cardDiscipline ok err (track.take argument cmd))
    (refused : ∀ status, EfiStatus.isError status = true →
      (next status).Obeys cardDiscipline ok err (track.refuse cmd)) :
    (sendCommand cmd argument >>= next).Obeys cardDiscipline ok err track := by
  refine obeys_bind.mpr ⟨due, fun status => ?_⟩
  have step : cardDiscipline.after (.sendCommand cmd argument) status track =
      if EfiStatus.isError status then track.refuse cmd else track.take argument cmd := rfl
  show (next status).Obeys cardDiscipline ok err (cardDiscipline.after _ status track)
  rw [step]
  cases failed : EfiStatus.isError status with
  | true => exact refused status failed
  | false => exact taken status failed

theorem command_then {next : Unit → Ident β} (due : track.DueCommand argument cmd)
    (later : (next ()).Obeys cardDiscipline ok Anyway (track.take argument cmd)) :
    (command device cmd argument >>= next).Obeys cardDiscipline ok Anyway track := by
  rw [command, Prog.bind_assoc]
  refine sendCommand_then due (fun status fine => orReturn_then fun _ => later) ?_
  intro status failed
  refine orReturn_then fun fine => ?_
  rw [failed] at fine
  cases fine

theorem command_last {ok : Unit → Track → Prop} (due : track.DueCommand argument cmd)
    (ends : ok () (track.take argument cmd)) :
    (command device cmd argument).Obeys cardDiscipline ok Anyway track := by
  rw [← Prog.bind_pure (command device cmd argument)]
  exact command_then due ends

theorem receiveResponse_then {type : ResponseType} {next : EfiStatus × Response → Ident β}
    (cmd : CardCommand) (taken : track.taken = some cmd) (answers : cmd.Answers type)
    (read : ∀ status words, EfiStatus.isError status = false →
      (next (status, words)).Obeys cardDiscipline ok err (track.read words type))
    (failed : ∀ status words, EfiStatus.isError status = true →
      (next (status, words)).Obeys cardDiscipline ok err { track with taken := none }) :
    (receiveResponse type >>= next).Obeys cardDiscipline ok err track := by
  refine obeys_bind.mpr ⟨⟨cmd, taken, answers⟩, ?_⟩
  rintro ⟨status, words⟩
  have step : cardDiscipline.after (.receiveResponse type) (status, words) track =
      if EfiStatus.isError status then { track with taken := none }
      else track.read words type := rfl
  show (next (status, words)).Obeys cardDiscipline ok err (cardDiscipline.after _ _ track)
  rw [step]
  cases error : EfiStatus.isError status with
  | true => exact failed status words error
  | false => exact read status words error

theorem response_then {type : ResponseType} {next : Response → Ident β} (cmd : CardCommand)
    (taken : track.taken = some cmd) (answers : cmd.Answers type)
    (later : ∀ words, (next words).Obeys cardDiscipline ok Anyway (track.read words type)) :
    (response device type >>= next).Obeys cardDiscipline ok Anyway track := by
  rw [response, Prog.bind_assoc]
  refine receiveResponse_then cmd taken answers ?_ ?_
  · intro status words fine
    exact obeys_bind.mpr (orReturn_then fun _ => later words)
  · intro status words failed
    refine obeys_bind.mpr (orReturn_then fun fine => ?_)
    rw [failed] at fine
    cases fine

theorem readBlockData_then {lba length : UInt64} {next : (Nat → UInt8) → Ident β}
    (selected : track.Selected) (fits : ∀ cmd, track.taken = some cmd → length = cmd.dataLength)
    (later : ∀ bytes, (next bytes).Obeys cardDiscipline ok Anyway (track.receive length bytes)) :
    (readBlockData device lba length >>= next).Obeys cardDiscipline ok Anyway track := by
  rw [readBlockData, Prog.bind_assoc]
  refine obeys_bind.mpr ⟨⟨selected, fits⟩, ?_⟩
  rintro ⟨status, bytes⟩
  refine obeys_bind.mpr (orReturn_then fun fine => ?_)
  have step : cardDiscipline.after (.readBlockData lba length) (status, bytes) track =
      track.receive length bytes := if_neg (by rw [fine]; decide)
  show (next bytes).Obeys cardDiscipline ok Anyway
    (cardDiscipline.after (.readBlockData lba length) (status, bytes) track)
  rw [step]
  exact later bytes

theorem setIos_then {busClockFreq busWidth : UInt32} {mode : TimingMode} (selected : track.Selected)
    (later : ∀ status, (next status).Obeys cardDiscipline ok err track) :
    (setIos busClockFreq busWidth mode >>= next).Obeys cardDiscipline ok err track :=
  obeys_bind.mpr ⟨selected, later⟩

theorem notifyState_then {state : CardState} (due : track.DueState state)
    (later : ∀ status, (next status).Obeys cardDiscipline ok err track) :
    (notifyState state >>= next).Obeys cardDiscipline ok err track :=
  obeys_bind.mpr ⟨due, later⟩

theorem mmcNotifyState_then {state : CardState} {next : MmcDevice → Ident β}
    (due : track.DueState state)
    (later : (next { device with state := state }).Obeys cardDiscipline ok Anyway track) :
    (mmcNotifyState device state >>= next).Obeys cardDiscipline ok Anyway track := by
  rw [mmcNotifyState, Prog.bind_assoc]
  refine notifyState_then due fun status => ?_
  exact obeys_bind.mpr (orReturn_then fun _ => later)

end

/-! ### eMMC devices -/

/-- The device is the one that is addressed, is selected unless it has refused to be, and
has sent this extended CSD, if any. -/
structure Track.Reached (track : Track) (argument : UInt32) (ecsd : Option (Nat → UInt8)) :
    Prop where
  phase : track.phase = .transfer ∨ track.phase = .standBy ∧ track.refused = true
  addressed : track.Addressed argument
  ecsd : track.ecsd = ecsd

namespace Track.Reached

variable {track : Track} {argument other : UInt32} {ecsd : Option (Nat → UInt8)}
  {cmd : CardCommand}

theorem selected (reached : track.Reached argument ecsd) : track.Selected := by
  rcases reached.phase with transfer | ⟨-, refused⟩
  · exact .inl transfer
  · exact .inr refused

theorem on (reached : track.Reached argument ecsd) :
    track.phase = .standBy ∨ track.phase = .transfer := by
  rcases reached.phase with transfer | ⟨standBy, -⟩
  · exact .inr transfer
  · exact .inl standBy

/-- The commands that leave the card in its state. -/
theorem take (reached : track.Reached argument ecsd)
    (stays : cmd ∈ [CardCommand.cmd6, .cmd8, .cmd13, .cmd16, .cmd23]) :
    (track.take other cmd).Reached argument ecsd := by
  simp only [List.mem_cons, List.not_mem_nil, or_false] at stays
  rcases stays with rfl | rfl | rfl | rfl | rfl <;>
    exact ⟨reached.phase, reached.addressed, reached.ecsd⟩

theorem refuse (reached : track.Reached argument ecsd) :
    (track.refuse cmd).Reached argument ecsd := by
  refine ⟨?_, reached.addressed, reached.ecsd⟩
  rcases reached.phase with transfer | ⟨standBy, refused⟩
  · exact .inl transfer
  · refine .inr ⟨standBy, ?_⟩
    show (track.refused || decide (cmd = .cmd7)) = true
    rw [refused]
    rfl

theorem read {words : Response} (reached : track.Reached argument ecsd) :
    (track.read words .r1).Reached argument ecsd :=
  ⟨reached.phase, reached.addressed, reached.ecsd⟩

end Track.Reached

section

variable {device : MmcDevice} {track : Track} {ecsd : Option (Nat → UInt8)}

theorem emmcGetDeviceState_obeys (reached : track.Reached device.rcaArgument ecsd) :
    (emmcGetDeviceState device).Obeys cardDiscipline
      (fun _ after => after.Reached device.rcaArgument ecsd) Anyway track := by
  refine command_then ⟨reached.on, reached.addressed⟩ ?_
  refine response_then .cmd13 rfl trivial fun words => ?_
  refine obeys_ite.mpr ⟨fun _ => trivial, fun _ => ?_⟩
  exact (reached.take (by decide)).read

theorem waitWhile_obeys {left : UInt32} (fuel : Nat)
    (reached : track.Reached device.rcaArgument ecsd) :
    (waitWhile device left fuel).Obeys cardDiscipline
      (fun _ after => after.Reached device.rcaArgument ecsd) Anyway track := by
  induction fuel generalizing track with
  | zero => trivial
  | succ fuel ih =>
    refine (emmcGetDeviceState_obeys reached).andThen fun state after kept => ?_
    exact obeys_ite.mpr ⟨fun _ => ih kept, fun _ => kept⟩

variable {fuel : Nat}

theorem emmcSetEXTCSD_obeys {extCmdIndex value : UInt32}
    (reached : track.Reached device.rcaArgument ecsd) :
    (emmcSetEXTCSD fuel device extCmdIndex value).Obeys cardDiscipline
      (fun _ after => after.Reached device.rcaArgument ecsd) Anyway track := by
  refine command_then reached.selected ?_
  exact waitWhile_obeys fuel (reached.take (by decide))

theorem tryModes_obeys {last : EfiStatus} (modes : List (UInt32 × TimingMode))
    (reached : track.Reached device.rcaArgument ecsd) :
    (tryModes fuel device last modes).Obeys cardDiscipline
      (fun _ after => after.Reached device.rcaArgument ecsd) Anyway track := by
  induction modes generalizing last with
  | nil =>
    rw [tryModes, ← Prog.bind_pure (orReturn device last)]
    exact orReturn_then fun _ => reached
  | cons mode rest ih =>
    rw [tryModes]
    refine setIos_then reached.selected fun status => ?_
    exact obeys_ite.mpr ⟨fun _ => ih, fun _ => emmcSetEXTCSD_obeys reached⟩

theorem initializeEmmcDevice_obeys (reached : track.Reached device.rcaArgument ecsd) :
    (initializeEmmcDevice fuel device).Obeys cardDiscipline
      (fun _ after => after.Reached device.rcaArgument ecsd) Anyway track := by
  refine obeys_ite.mpr ⟨fun _ => reached, fun _ => ?_⟩
  refine obeys_ite.mpr ⟨fun _ => reached, fun _ => ?_⟩
  exact (emmcSetEXTCSD_obeys reached).andThen fun _ after kept => tryModes_obeys _ kept

/-- What is known of an eMMC device that has been identified. -/
structure EmmcKnown (device : MmcDevice) (track : Track) : Prop where
  cardType : device.cardInfo.cardType = .emmc
  blockSize : device.media.blockSize = 512
  sized : ∃ ecsd, track.Reached device.rcaArgument (some ecsd) ∧
    device.media.lastBlock.toNat + 1 = ecsdBlocks ecsd

theorem emmcFetch_obeys (reached : track.Reached device.rcaArgument ecsd) :
    (emmcFetch fuel device).Obeys cardDiscipline EmmcKnown Anyway track := by
  have width : (onlyIf (device.hasSetIos = true) do
      let status ← setIos 0 1 .backward
      orReturn device status
      emmcSetEXTCSD fuel device extcsdBusWidth emmcBusWidth1Bit).Obeys cardDiscipline
      (fun _ after => after.Reached device.rcaArgument ecsd) Anyway track := by
    refine obeys_ite.mpr ⟨fun _ => ?_, fun _ => reached⟩
    refine setIos_then reached.selected fun status => ?_
    exact orReturn_then fun _ => emmcSetEXTCSD_obeys reached
  refine width.andThen fun _ after kept => ?_
  have fetched : ∀ (status : EfiStatus) (fetch : Track), fetch.Reached device.rcaArgument ecsd →
      (∀ cmd, fetch.taken = some cmd → (512 : UInt64) = cmd.dataLength) →
      (do
        let ecsd ← readBlockData device 0 512
        let device := device.setEcsd ecsd
        waitWhile device emmcDataState fuel
        pure device.setEmmcMedia).Obeys cardDiscipline EmmcKnown Anyway fetch := by
    intro status fetch reached fits
    refine readBlockData_then reached.selected fits fun bytes => ?_
    have sent : (fetch.receive 512 bytes).Reached device.rcaArgument (some bytes) :=
      ⟨reached.phase, reached.addressed, rfl⟩
    refine Obeys.andThen (waitWhile_obeys fuel sent) fun _ last kept => ?_
    exact ⟨rfl, rfl, bytes, kept, emmcMedia_blocks device bytes⟩
  refine sendCommand_then (.inr kept.selected) ?_ ?_
  · intro status _
    refine fetched status _ (kept.take (by decide)) fun cmd taken => ?_
    cases taken
    rfl
  · intro status _
    refine fetched status _ kept.refuse fun cmd taken => ?_
    cases taken

theorem addressed_of_told {argument : UInt32} {track : Track}
    (told : track.address = if argument >>> 16 = 0 then none else some argument) :
    track.Addressed argument := by
  intro address named
  rw [told] at named
  split at named
  · cases named
  · exact Option.some.inj named

theorem emmcIdentificationMode_obeys (idle : track.phase = .idle) (powered : track.powered = true) :
    (emmcIdentificationMode fuel device).Obeys cardDiscipline EmmcKnown Anyway track := by
  refine command_then ⟨idle, powered⟩ ?_
  refine response_then .cmd2 rfl trivial fun _ => ?_
  refine command_then rfl ?_
  refine command_then ⟨rfl, addressed_of_told rfl⟩ ?_
  refine response_then .cmd9 rfl trivial fun csd => ?_
  refine sendCommand_then ⟨rfl, addressed_of_told rfl⟩ ?_ ?_
  · intro status _
    exact emmcFetch_obeys ⟨.inl rfl, addressed_of_told rfl, rfl⟩
  · intro status _
    refine emmcFetch_obeys ⟨.inr ⟨rfl, ?_⟩, addressed_of_told rfl, rfl⟩
    exact Bool.or_true _

end

/-! ### SD and MMC cards -/

/-- The card is in the transfer state, has this address, and its CSD has been read. -/
structure Track.InTransfer (track : Track) (argument : UInt32) (csd : Response) : Prop where
  phase : track.phase = .transfer
  addressed : track.Addressed argument
  csd : track.csd = some csd

namespace Track.InTransfer

variable {track : Track} {argument other : UInt32} {csd : Response} {cmd : CardCommand}

theorem selected (transfer : track.InTransfer argument csd) : track.Selected := .inl transfer.phase

/-- The commands that leave the card in its state. -/
theorem take (transfer : track.InTransfer argument csd)
    (stays : cmd ∈ [CardCommand.cmd6, .cmd16, .cmd23, .cmd55, .acmd51]) :
    (track.take other cmd).InTransfer argument csd := by
  simp only [List.mem_cons, List.not_mem_nil, or_false] at stays
  rcases stays with rfl | rfl | rfl | rfl | rfl <;>
    exact ⟨transfer.phase, transfer.addressed, transfer.csd⟩

end Track.InTransfer

section

variable {device : MmcDevice} {track : Track} {csd : Response}

theorem initializeBus_obeys (transfer : track.InTransfer device.rcaArgument csd)
    (app : track.app = true) :
    (initializeBus device csd).Obeys cardDiscipline
      (fun result after => result = device ∧ after.InTransfer device.rcaArgument csd)
      Anyway track := by
  refine command_then ⟨transfer.phase, app⟩ ?_
  have scrSent : (track.take 0 .acmd51).InTransfer device.rcaArgument csd :=
    transfer.take (by decide)
  refine readBlockData_then scrSent.selected ?_ fun scr => ?_
  · intro cmd taken
    cases taken
    rfl
  have switched : (onlyIf (csd.ccc &&& sdCccSwitch ≠ 0) do
      command device .cmd6 switchFunction
      let _ ← readBlockData device 0 64
      pure ()).Obeys cardDiscipline (fun _ after => after.InTransfer device.rcaArgument csd)
      Anyway (track.take 0 .acmd51) := by
    refine obeys_ite.mpr ⟨fun _ => ?_, fun _ => scrSent⟩
    refine command_then scrSent.selected ?_
    have sent : ((track.take 0 .acmd51).take switchFunction .cmd6).InTransfer
        device.rcaArgument csd := scrSent.take (by decide)
    refine readBlockData_then sent.selected ?_ fun _ => sent
    intro cmd taken
    cases taken
    rfl
  refine switched.andThen fun _ first kept => ?_
  have widened : (onlyIf (scr 1 &&& 0xF &&& sdBusWidth4Bit ≠ 0) do
      command device .cmd55 device.rcaArgument
      command device .cmd6 2).Obeys cardDiscipline
      (fun _ after => after.InTransfer device.rcaArgument csd) Anyway first := by
    refine obeys_ite.mpr ⟨fun _ => ?_, fun _ => kept⟩
    refine command_then (.inr ⟨kept.phase, kept.addressed⟩) ?_
    have announced : (first.take device.rcaArgument .cmd55).InTransfer device.rcaArgument csd :=
      kept.take (by decide)
    exact command_last announced.selected (announced.take (by decide))
  refine widened.andThen fun _ second kept => ?_
  have clocked : (onlyIf (device.hasSetIos = true) do
      let status ← setIos (26 * 1000 * 1000) 4 .backward
      orReturn device status).Obeys cardDiscipline
      (fun _ after => after.InTransfer device.rcaArgument csd) Anyway second := by
    refine obeys_ite.mpr ⟨fun _ => ?_, fun _ => kept⟩
    refine setIos_then kept.selected fun status => ?_
    rw [← Prog.bind_pure (orReturn device status)]
    exact orReturn_then fun _ => kept
  exact clocked.andThen fun _ after kept => ⟨rfl, kept⟩

/-- The media is as large as the CSD says. -/
structure SizedBy (device : MmcDevice) (csd : Response) : Prop where
  blockSize : ∃ shift ≤ 9, device.media.blockSize.toNat = 2 ^ shift
  bytes : (device.media.lastBlock.toNat + 1) * device.media.blockSize.toNat =
    cardBytes device.cardInfo.cardType csd

theorem setMedia_sized (readOnly : Bool) :
    SizedBy (device.setMedia (mediaBlocks device.cardInfo.cardType csd).1
      (mediaBlocks device.cardInfo.cardType csd).2 readOnly) csd := by
  obtain ⟨⟨shift, short, length⟩, bytes, some⟩ := mediaBlocks_size device.cardInfo.cardType csd
  have power : 2 ^ shift ≤ 2 ^ 9 := Nat.pow_le_pow_right (by decide) short
  have word : (mediaBlocks device.cardInfo.cardType csd).2.toUInt32.toNat = 2 ^ shift := by
    rw [UInt64.toNat_toUInt32, length]
    exact Nat.mod_eq_of_lt (Nat.lt_of_le_of_lt power (by decide))
  have last : ((mediaBlocks device.cardInfo.cardType csd).1 - 1).toNat + 1 =
      (mediaBlocks device.cardInfo.cardType csd).1.toNat := by
    have one : (1 : UInt64) ≤ (mediaBlocks device.cardInfo.cardType csd).1 :=
      UInt64.le_iff_toNat_le.mpr some
    rw [UInt64.toNat_sub_of_le _ _ one]
    exact Nat.sub_add_cancel some
  refine ⟨⟨shift, short, word⟩, ?_⟩
  show (((mediaBlocks device.cardInfo.cardType csd).1 - 1).toNat + 1) *
    (mediaBlocks device.cardInfo.cardType csd).2.toUInt32.toNat = _
  rw [word, last, ← length]
  exact bytes

theorem initializeSdMmcDevice_obeys (standBy : track.phase = .standBy)
    (addressed : track.Addressed device.rcaArgument) :
    (initializeSdMmcDevice device).Obeys cardDiscipline
      (fun result after => result.state = device.state ∧
        result.cardInfo = device.cardInfo ∧ ∃ csd, SizedBy result csd ∧
        after.InTransfer device.rcaArgument csd) Anyway track := by
  refine command_then ⟨standBy, addressed⟩ ?_
  refine response_then .cmd9 rfl trivial fun csd => ?_
  refine obeys_bind.mpr ⟨trivial, fun readOnly => ?_⟩
  refine command_then ⟨standBy, addressed⟩ ?_
  refine command_then (.inr ⟨rfl, addressed⟩) ?_
  refine response_then .cmd55 rfl trivial fun status => ?_
  refine obeys_ite.mpr ⟨fun _ => ?_, fun _ => ?_⟩
  · exact ⟨rfl, rfl, csd, setMedia_sized readOnly, rfl, addressed, rfl⟩
  · refine obeys_mono (initializeBus_obeys ⟨rfl, addressed, rfl⟩ rfl) ?_ fun _ _ _ => trivial
    rintro result after ⟨rfl, kept⟩
    exact ⟨rfl, rfl, csd, setMedia_sized readOnly, kept⟩

end

/-! ### The identification -/

section

variable {device : MmcDevice} {track : Track}

/-- What the card has answered to a request for its OCR. -/
structure Asked (ocr : UInt32) (sd : Bool) (track : Track) : Prop where
  powered : track.powered = decide (ocr &&& ocrPowerUp ≠ 0)
  sd : track.sd = sd

theorem askEmmcOnce_obeys (idle : track.phase = .idle) :
    (askEmmcOnce device).Obeys cardDiscipline
      (fun result after => after.phase = .idle ∧
        (EfiStatus.isError result.1 = false → Asked result.2 false after)) Anyway track := by
  refine sendCommand_then idle ?_ ?_
  · intro status fine
    refine obeys_ite.mpr ⟨fun failed => ?_, fun _ => ?_⟩
    · rw [fine] at failed
      cases failed
    · refine receiveResponse_then .cmd1 rfl trivial ?_ ?_
      · intro status words _
        refine orReturn_then fun _ => ?_
        exact ⟨idle, fun _ => ⟨rfl, rfl⟩⟩
      · intro status words failed
        refine orReturn_then fun fine => ?_
        rw [failed] at fine
        cases fine
  · intro status failed
    refine obeys_ite.mpr ⟨fun _ => ⟨idle, fun fine => ?_⟩, fun fine => absurd failed fine⟩
    rw [failed] at fine
    cases fine

theorem askEmmc_obeys (retries : Nat) (idle : track.phase = .idle) :
    (askEmmc device retries).Obeys cardDiscipline
      (fun result after => after.phase = .idle ∧
        (EfiStatus.isError result.1 = false → Asked result.2 false after)) Anyway track := by
  induction retries generalizing track with
  | zero => exact askEmmcOnce_obeys idle
  | succ retries ih =>
    refine (askEmmcOnce_obeys idle).andThen fun result after asked => ?_
    exact obeys_ite.mpr ⟨fun _ => asked, fun _ => ih asked.1⟩

theorem askOcr_obeys {cmd : CardCommand} {argument : UInt32}
    (due : track.DueCommand argument cmd) (idle : track.phase = .idle)
    (ocr : cmd = .cmd1 ∨ cmd = .acmd41) :
    (askOcr device cmd argument).Obeys cardDiscipline
      (fun result after => after.phase = .idle ∧
        result.2.cardInfo.cardType = device.cardInfo.cardType ∧
        (result.1 = true → Asked result.2.cardInfo.ocrData (decide (cmd = .acmd41)) after))
      Anyway track := by
  refine sendCommand_then due ?_ ?_
  · intro status fine
    refine obeys_ite.mpr ⟨fun failed => ?_, fun _ => ?_⟩
    · rw [fine] at failed
      cases failed
    · rcases ocr with rfl | rfl
      · exact response_then .cmd1 rfl trivial fun words => ⟨idle, rfl, fun _ => ⟨rfl, rfl⟩⟩
      · exact response_then .acmd41 rfl trivial fun words => ⟨idle, rfl, fun _ => ⟨rfl, rfl⟩⟩
  · intro status failed
    exact obeys_ite.mpr ⟨fun _ => ⟨idle, rfl, fun answered => by cases answered⟩,
      fun fine => absurd failed fine⟩

/-- Only an SD card is asked with the command for SD cards. -/
def KindIs (cardType : CardType) (sd : Bool) : Prop :=
  cardType ≠ .emmc ∧ sd = decide (cardType ≠ .mmc)

theorem askCard_obeys {isHCS : Bool} (idle : track.phase = .idle) :
    (askCard device isHCS).Obeys cardDiscipline
      (fun result after => after.phase = .idle ∧
        (result.1 = true → ∃ sd, KindIs result.2.cardInfo.cardType sd ∧
          Asked result.2.cardInfo.ocrData sd after)) Anyway track := by
  have legacy : ∀ track : Track, track.phase = .idle →
      (askOcr (device.setCardType .mmc) .cmd1 0x800000).Obeys cardDiscipline
        (fun result after => after.phase = .idle ∧
          (result.1 = true → ∃ sd, KindIs result.2.cardInfo.cardType sd ∧
            Asked result.2.cardInfo.ocrData sd after)) Anyway track := by
    intro track idle
    refine obeys_mono (askOcr_obeys idle idle (.inl rfl)) ?_ fun _ _ _ => trivial
    rintro result after ⟨idle, same, asked⟩
    refine ⟨idle, fun answered => ⟨false, ?_, asked answered⟩⟩
    rw [KindIs, same]
    exact ⟨CardType.noConfusion, rfl⟩
  refine sendCommand_then (.inl idle) ?_ ?_
  · intro status fine
    refine obeys_ite.mpr ⟨fun _ => ?_, fun _ => legacy _ idle⟩
    refine obeys_mono (askOcr_obeys ⟨idle, rfl⟩ idle (.inr rfl)) ?_ fun _ _ _ => trivial
    rintro result after ⟨idle, same, asked⟩
    refine ⟨idle, fun answered => ⟨true, ?_, asked answered⟩⟩
    rw [KindIs, same]
    cases isHCS
    · exact ⟨CardType.noConfusion, rfl⟩
    · exact ⟨CardType.noConfusion, rfl⟩
  · intro status failed
    refine obeys_ite.mpr ⟨fun fine => ?_, fun _ => legacy _ idle⟩
    rw [fine] at failed
    cases failed

theorem waitForCard_obeys {isHCS : Bool} (timeout : Nat) (idle : track.phase = .idle) :
    (waitForCard isHCS timeout device).Obeys cardDiscipline
      (fun result after => after.phase = .idle ∧ after.powered = true ∧
        KindIs result.cardInfo.cardType after.sd) Anyway track := by
  induction timeout generalizing track device with
  | zero => trivial
  | succ timeout ih =>
    refine (askCard_obeys idle).andThen ?_
    rintro ⟨answered, device⟩ after ⟨idle, known⟩
    refine obeys_ite.mpr ⟨?_, fun _ => ih idle⟩
    rintro ⟨answeredNow, ready⟩
    obtain ⟨sd, kind, asked⟩ := known answeredNow
    have powered : after.powered = true := asked.powered.trans (decide_eq_true ready)
    rw [← asked.sd] at kind
    refine obeys_ite.mpr ⟨?_, fun _ => ⟨idle, powered, kind⟩⟩
    rintro ⟨second, -⟩
    refine ⟨idle, powered, CardType.noConfusion, ?_⟩
    have same : device.cardInfo.cardType = .sd2 := second
    rw [kind.2, same]
    rfl

/-- The card is in the stand-by state, and has the address that the driver goes by. -/
def AtStandBy (device : MmcDevice) (track : Track) : Prop :=
  track.phase = .standBy ∧ track.Addressed device.rcaArgument ∧ device.cardInfo.cardType ≠ .emmc

theorem addressCard_obeys (idle : track.phase = .idle) (powered : track.powered = true)
    (kind : KindIs device.cardInfo.cardType track.sd) :
    (addressCard device).Obeys cardDiscipline AtStandBy Anyway track := by
  refine mmcNotifyState_then ⟨idle, powered⟩ ?_
  refine command_then ⟨idle, powered⟩ ?_
  refine response_then .cmd2 rfl trivial fun _ => ?_
  refine notifyState_then rfl fun status => ?_
  refine orReturn_then fun _ => ?_
  refine command_then rfl ?_
  refine response_then .cmd3 rfl trivial fun words => ?_
  rw [← Prog.bind_pure (mmcNotifyState _ _)]
  refine mmcNotifyState_then rfl ⟨rfl, ?_, kind.1⟩
  intro address named
  by_cases mmc : device.cardInfo.cardType = .mmc
  · -- the card has been told no address
    have plain : track.sd = false := by
      rw [kind.2, mmc]
      rfl
    have none : (if track.sd = true then
        some ((words.word0 >>> 16).toUInt16.toUInt32 <<< rcaShiftOffset)
      else if (1 : UInt32) >>> 16 = 0 then none else some 1) = some address := named
    rw [plain] at none
    cases none
  · have chosen : track.sd = true := by
      rw [kind.2]
      exact decide_eq_true mmc
    have told : (if track.sd = true then
        some ((words.word0 >>> 16).toUInt16.toUInt32 <<< rcaShiftOffset)
      else if (1 : UInt32) >>> 16 = 0 then none else some 1) = some address := named
    rw [if_pos chosen] at told
    rw [← Option.some.inj told, MmcDevice.rcaArgument]
    show (if device.cardInfo.cardType ≠ .mmc then (words.word0 >>> 16).toUInt16 else 1).toUInt32 <<<
      rcaShiftOffset = _
    rw [if_pos mmc]

theorem checkPattern_obeys (idle : track.phase = .idle) (sent : track.taken = some .cmd8) :
    (checkPattern device).Obeys cardDiscipline (fun _ after => after.phase = .idle) Anyway
      track := by
  refine response_then .cmd8 sent trivial fun words => ?_
  exact obeys_ite.mpr ⟨fun _ => trivial, fun _ => idle⟩

theorem identifyMemoryCard_obeys (idle : track.phase = .idle) :
    (identifyMemoryCard device).Obeys cardDiscipline AtStandBy Anyway track := by
  have rest : ∀ (isHCS : Bool) (track : Track), track.phase = .idle →
      (waitForCard isHCS maxRetryCount device >>= addressCard).Obeys cardDiscipline AtStandBy
        Anyway track := by
    intro isHCS track idle
    refine (waitForCard_obeys maxRetryCount idle).andThen ?_
    rintro result after ⟨idle, powered, kind⟩
    exact addressCard_obeys idle powered kind
  refine sendCommand_then (.inl idle) ?_ ?_
  · intro status _
    have checked : (onlyIf (decide (status = EfiStatus.success) = true)
        (checkPattern device)).Obeys cardDiscipline (fun _ after => after.phase = .idle) Anyway
        (track.take 0x1CE .cmd8) :=
      obeys_ite.mpr ⟨fun _ => checkPattern_obeys idle rfl, fun _ => idle⟩
    exact checked.andThen fun _ after idle => rest _ after idle
  · intro status failed
    have older : decide (status = EfiStatus.success) = false := by
      refine decide_eq_false ?_
      rintro rfl
      cases failed
    simp only [older]
    exact rest _ _ idle

theorem identifyCard_obeys (idle : track.phase = .idle) :
    (identifyCard device).Obeys cardDiscipline AtStandBy Anyway track := by
  refine sendCommand_then idle ?_ ?_
  · intro status _
    exact obeys_ite.mpr ⟨fun _ => trivial, fun _ => identifyMemoryCard_obeys idle⟩
  · intro status _
    exact obeys_ite.mpr ⟨fun _ => trivial, fun _ => identifyMemoryCard_obeys idle⟩

/-- What is known of a card that has been identified. -/
def Identified (device : MmcDevice) (track : Track) : Prop :=
  EmmcKnown device track ∨ AtStandBy device track

theorem mmcIdentificationMode_obeys {fuel : Nat} :
    (mmcIdentificationMode fuel device).Obeys cardDiscipline Identified Anyway track := by
  have started : (announceInitialization device).Obeys cardDiscipline (fun _ _ => True) Anyway
      track := by
    refine obeys_ite.mpr ⟨fun _ => ?_, fun _ => trivial⟩
    rw [← Prog.bind_pure (mmcNotifyState _ _)]
    exact mmcNotifyState_then trivial trivial
  refine started.andThen fun device first _ => ?_
  refine command_then trivial ?_
  refine mmcNotifyState_then rfl ?_
  refine (askEmmc_obeys (maxRetryCount - 1) rfl).andThen ?_
  rintro ⟨status, ocr⟩ after ⟨idle, asked⟩
  have others : ∀ device : MmcDevice,
      (identifyCard device).Obeys cardDiscipline Identified Anyway after := fun device =>
    obeys_mono (identifyCard_obeys idle) (fun _ _ known => .inr known) fun _ _ _ => trivial
  refine obeys_ite.mpr ⟨fun fine => ?_, fun _ => others _⟩
  refine obeys_ite.mpr ⟨fun _ => trivial, fun ready => ?_⟩
  have answered := asked (by rw [fine]; rfl)
  have powered : after.powered = true := answered.powered.trans (decide_eq_true ready)
  refine obeys_ite.mpr ⟨fun _ => ?_, fun _ => others _⟩
  exact obeys_mono (emmcIdentificationMode_obeys idle powered) (fun _ _ known => .inl known)
    fun _ _ _ => trivial

end

/-! ### The device is ready -/

/-- What is known before the card is told the size of its blocks. -/
structure Selectable (device : MmcDevice) (track : Track) : Prop where
  state : device.state = .transfer
  selected : track.phase = .transfer ∨ device.cardInfo.cardType = .emmc ∧ track.refused = true
  addressed : track.Addressed device.rcaArgument
  blockSize : ∃ shift ≤ 9, device.media.blockSize.toNat = 2 ^ shift
  emmcSize : device.cardInfo.cardType = .emmc → device.media.blockSize = 512 ∧
    ∃ ecsd, track.ecsd = some ecsd ∧ device.media.lastBlock.toNat + 1 = ecsdBlocks ecsd
  cardSize : device.cardInfo.cardType ≠ .emmc → ∃ csd, track.csd = some csd ∧
    (device.media.lastBlock.toNat + 1) * device.media.blockSize.toNat =
      cardBytes device.cardInfo.cardType csd

/-- What is known once the driver has succeeded. -/
structure Ready (device : MmcDevice) (track : Track) : Prop extends Selectable device track where
  blockLength : track.blockLength = some device.media.blockSize

section

variable {device : MmcDevice} {track : Track}

theorem initializeCard_obeys {fuel : Nat} (identified : Identified device track)
    (state : device.state = .transfer) :
    (initializeCard fuel device).Obeys cardDiscipline Selectable Anyway track := by
  rcases identified with known | ⟨standBy, addressed, notEmmc⟩
  · refine obeys_ite.mpr ⟨fun other => absurd known.cardType other, fun _ => ?_⟩
    obtain ⟨ecsd, reached, blocks⟩ := known.sized
    refine (initializeEmmcDevice_obeys reached).andThen fun _ after reached => ?_
    refine ⟨state, ?_, reached.addressed, ⟨9, Nat.le_refl 9, ?_⟩,
      fun _ => ⟨known.blockSize, ecsd, reached.ecsd, blocks⟩,
      fun other => absurd known.cardType other⟩
    · exact reached.phase.imp id fun ⟨_, refused⟩ => ⟨known.cardType, refused⟩
    · rw [known.blockSize]
      rfl
  · refine obeys_ite.mpr ⟨fun _ => ?_, fun emmc => absurd notEmmc emmc⟩
    refine obeys_mono (initializeSdMmcDevice_obeys standBy addressed) ?_ fun _ _ _ => trivial
    rintro result after ⟨sameState, sameCard, csd, sized, transfer⟩
    have sameAddress : result.rcaArgument = device.rcaArgument :=
      congrArg (fun card : CardInfo => card.rca.toUInt32 <<< rcaShiftOffset) sameCard
    have notEmmcNow : result.cardInfo.cardType ≠ .emmc := by
      rw [sameCard]
      exact notEmmc
    refine ⟨sameState.trans state, .inl transfer.phase, ?_, sized.blockSize,
      fun emmc => absurd emmc notEmmcNow, fun _ => ⟨csd, transfer.csd, sized.bytes⟩⟩
    rw [sameAddress]
    exact transfer.addressed

theorem Selectable.selectedTrack (known : Selectable device track) : track.Selected :=
  known.selected.imp id And.right

theorem initializeMmcDevice_obeys {fuel : Nat} :
    (initializeMmcDevice fuel device).Obeys cardDiscipline Ready Anyway track := by
  refine mmcIdentificationMode_obeys.andThen fun device first identified => ?_
  have due : first.DueState .transfer := by
    rcases identified with known | standBy
    · obtain ⟨ecsd, reached, -⟩ := known.sized
      exact .inr reached.selected
    · exact .inl standBy.1
  refine mmcNotifyState_then due ?_
  have still : Identified { device with state := .transfer } first := by
    rcases identified with known | standBy
    · exact .inl ⟨known.cardType, known.blockSize, known.sized⟩
    · exact .inr standBy
  refine (initializeCard_obeys still rfl).andThen fun device second known => ?_
  refine command_then known.selectedTrack ?_
  have told : Ready device (second.take device.media.blockSize .cmd16) :=
    { known with blockLength := rfl }
  have counted : (onlyIf (device.cardInfo.cardType = .mmc) (command device .cmd23 1)).Obeys
      cardDiscipline (fun _ after => Ready device after) Anyway
      (second.take device.media.blockSize .cmd16) := by
    refine obeys_ite.mpr ⟨fun _ => ?_, fun _ => told⟩
    refine command_last told.selectedTrack ?_
    exact { told with }
  exact counted.andThen fun _ after ready => ready

end

/-- A host with a high-capacity SD card of 16 GiB. -/
def sdCardHost : Handler HostInterface Unit := fun op _ =>
  match op with
  | .sendCommand .cmd1 _ => some (EfiStatus.timeout, ())
  | .sendCommand .cmd5 _ => some (EfiStatus.timeout, ())
  | .sendCommand _ _ => some (EfiStatus.success, ())
  | .receiveResponse .r7 => some ((EfiStatus.success, ⟨0x1CE, 0, 0, 0⟩), ())
  | .receiveResponse .ocr => some ((EfiStatus.success, ⟨0xC0FF8000, 0, 0, 0⟩), ())
  | .receiveResponse .rca => some ((EfiStatus.success, ⟨0x12340500, 0, 0, 0⟩), ())
  | .receiveResponse .csd => some ((EfiStatus.success, ⟨0, 0x7FFF0000, 0x5B590000, 0⟩), ())
  | .receiveResponse _ => some ((EfiStatus.success, ⟨mmcStatusAppCmd, 0, 0, 0⟩), ())
  | .readBlockData _ _ => some ((EfiStatus.success, fun _ => 0xFF), ())
  | .setIos _ _ _ => some (EfiStatus.success, ())
  | .notifyState _ => some (EfiStatus.success, ())
  | .isReadOnly => some (false, ())

/-- An instance as the driver creates it, and a card of which nothing is known. -/
def freshDevice : MmcDevice :=
  ⟨.hwInitialization, ⟨0, .unknown, 0, 0, ⟨0, 0, 0, 0⟩, 0, 0⟩,
    ⟨0x6F636D6D, true, false, 512, 4, 0, 0⟩, true, 0⟩

def unknownCard : Track := ⟨.off, none, false, false, false, none, false, none, none, none⟩

end MuRockchip.Mmc
