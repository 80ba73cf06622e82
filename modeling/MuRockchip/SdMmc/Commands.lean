/-
The command set of the SD/MMC driver (`Sdhc.h`, `Protocol.c`).

A command is described by its index and by the kinds of response and data
transfer it makes. Two descriptions with the same fields are the same command:
the driver compares descriptions field by field (`CmdsAreEqual`), which is
equality here.
-/

namespace MuRockchip.SdMmc

inductive SdCommandType where
  | undefined
  | suspend
  | resume
  | abort
  deriving DecidableEq, Repr

inductive SdCommandClass where
  | undefined
  | standard
  | app
  deriving DecidableEq, Repr

inductive SdResponseType where
  | undefined
  | none
  | r1
  | r1b
  | r2
  | r3
  | r4
  | r5
  | r5b
  | r6
  deriving DecidableEq, Repr

inductive SdTransferType where
  | undefined
  | none
  | singleBlock
  | multiBlock
  | multiBlockNoStop
  deriving DecidableEq, Repr

inductive SdTransferDirection where
  | undefined
  | read
  | write
  deriving DecidableEq, Repr

structure SdCommand where
  index : UInt16
  type : SdCommandType
  cls : SdCommandClass
  responseType : SdResponseType
  transferType : SdTransferType
  transferDirection : SdTransferDirection
  deriving DecidableEq, Repr

def sdBlockLengthBytes : UInt32 := 512

def cmdGoIdleState : SdCommand := ⟨0, .undefined, .standard, .none, .none, .undefined⟩
def cmdSendOpCondMmc : SdCommand := ⟨1, .undefined, .standard, .r3, .none, .undefined⟩
def cmdSendCidAll : SdCommand := ⟨2, .undefined, .standard, .r2, .none, .undefined⟩
def cmdSendRelativeAddr : SdCommand := ⟨3, .undefined, .standard, .r6, .none, .undefined⟩
def cmdSendOpCondSdio : SdCommand := ⟨5, .undefined, .standard, .r4, .none, .undefined⟩
def cmdSwitchSd : SdCommand := ⟨6, .undefined, .standard, .r1, .singleBlock, .read⟩
def cmdSwitchMmc : SdCommand := ⟨6, .undefined, .standard, .r1b, .none, .undefined⟩
def cmdAppSetBusWidthSd : SdCommand := ⟨6, .undefined, .app, .r1, .none, .undefined⟩
def cmdSelect : SdCommand := ⟨7, .undefined, .standard, .r1b, .none, .undefined⟩
def cmdSendIfCondSd : SdCommand := ⟨8, .undefined, .standard, .r6, .none, .undefined⟩
def cmdSendExtCsdMmc : SdCommand := ⟨8, .undefined, .standard, .r1, .singleBlock, .read⟩
def cmdSendCsd : SdCommand := ⟨9, .undefined, .standard, .r2, .none, .undefined⟩
def cmdSendCid : SdCommand := ⟨10, .undefined, .standard, .r2, .none, .undefined⟩
def cmdStopTransmission : SdCommand := ⟨12, .abort, .standard, .r1b, .none, .undefined⟩
def cmdSendStatus : SdCommand := ⟨13, .undefined, .standard, .r1, .none, .undefined⟩
def cmdSetBlockLength : SdCommand := ⟨16, .undefined, .standard, .r1, .none, .undefined⟩
def cmdReadSingleBlock : SdCommand := ⟨17, .undefined, .standard, .r1, .singleBlock, .read⟩
def cmdReadMultiBlock : SdCommand := ⟨18, .undefined, .standard, .r1, .multiBlock, .read⟩
def cmdSetBlockCount : SdCommand := ⟨23, .undefined, .standard, .r1, .none, .undefined⟩
def cmdWriteSingleBlock : SdCommand := ⟨24, .undefined, .standard, .r1, .singleBlock, .write⟩
def cmdWriteMultiBlock : SdCommand := ⟨25, .undefined, .standard, .r1, .multiBlock, .write⟩
def cmdAppSendOpCondSd : SdCommand := ⟨41, .undefined, .app, .r3, .none, .undefined⟩
def cmdAppSd : SdCommand := ⟨55, .undefined, .app, .r1, .none, .undefined⟩

/-- The open-ended transfers, which a card leaves only when told to stop. -/
def SdCommand.isMultiBlock (cmd : SdCommand) : Bool :=
  cmd = cmdWriteMultiBlock || cmd = cmdReadMultiBlock

end MuRockchip.SdMmc
