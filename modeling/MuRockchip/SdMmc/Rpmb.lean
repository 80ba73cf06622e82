/-
The RPMB protocol of the SD/MMC driver (`RpmbIo.c`).

A request switches the card to its RPMB partition, sends the frames the request
type calls for, each transfer preceded by its block count, and switches back to
the partition that was recorded before. The status of the request comes before
that of the switch back.
-/
import MuRockchip.SdMmc.SoftReset

namespace MuRockchip.SdMmc

open MuRockchip.Base

/-! ### Frames -/

/-- `sizeof (EFI_RPMB_DATA_PACKET)`. -/
def rpmbDataPacketSize : UInt64 := 512

/-- The offset of `BlockCount` in a frame. -/
def rpmbBlockCountOffset : UInt64 := 506

/-- The offset of `RequestOrResponseType` in a frame. -/
def rpmbRequestTypeOffset : UInt64 := 510

/-- `EFI_RPMB_DATA_BUFFER`; a null pointer has address zero. -/
structure RpmbDataBuffer where
  packets : UInt64
  packetCount : UInt64
  deriving DecidableEq, Repr

def RpmbDataBuffer.byteSize (buffer : RpmbDataBuffer) : UInt32 :=
  (buffer.packetCount * rpmbDataPacketSize).toUInt32

/-- `RpmbBytesToUint16`: most significant byte first. -/
def rpmbBytesToUint16 (bytes : List UInt8) : UInt16 :=
  UInt16.ofNat (bytes.getD 0 0).toNat <<< 8 ||| UInt16.ofNat (bytes.getD 1 0).toNat

def rpmbRequestProgramKey : UInt16 := 1
def rpmbRequestCounterValue : UInt16 := 2
def rpmbRequestAuthWrite : UInt16 := 3
def rpmbRequestAuthRead : UInt16 := 4

/-- The request type of the frame at this address. -/
def requestTypeAt (packet : UInt64) : Sd UInt16 := do
  let bytes ← call (.readMemory (packet + rpmbRequestTypeOffset) 2)
  pure (rpmbBytesToUint16 bytes)

/-! ### Transfers -/

/-- The data command that writes frames; the card ignores its block address. -/
def writeFrames (byteSize : UInt32) (buffer : TransferBuffer) : Sd Unit :=
  sdhcSendDataCommand cmdWriteMultiBlock 0 byteSize buffer

def readFrames (byteSize : UInt32) (buffer : TransferBuffer) : Sd Unit :=
  sdhcSendDataCommand cmdReadMultiBlock 0 byteSize buffer

def rpmbRead (request : TransferBuffer) (response : RpmbDataBuffer) : Sd Unit := do
  sdhcSetBlockCount 1 false
  writeFrames rpmbDataPacketSize.toUInt32 request
  sdhcSetBlockCount response.packetCount.toUInt32 false
  readFrames response.byteSize (.client response.packets)

def rpmbWrite (request : RpmbDataBuffer) : Sd Unit := do
  sdhcSetBlockCount request.packetCount.toUInt32 true
  writeFrames request.byteSize (.client request.packets)

def rpmbQueryResult (response : UInt64) : Sd Unit :=
  rpmbRead .resultRequest ⟨response, 1⟩

/-! ### Requests -/

def rpmbProgramKeyRequest (request response : UInt64) : Sd Unit := do
  rpmbWrite ⟨request, 1⟩
  rpmbQueryResult response

def rpmbReadCounterRequest (request response : UInt64) : Sd Unit :=
  rpmbRead (.client request) ⟨response, 1⟩

def rpmbAuthenticatedWriteRequest (request : RpmbDataBuffer) (response : UInt64) : Sd Unit := do
  rpmbWrite request
  rpmbQueryResult response

def rpmbAuthenticatedReadRequest (request : UInt64) (response : RpmbDataBuffer) : Sd Unit :=
  rpmbRead (.client request) response

/-- The dispatch on the request type. A type it does not know is caught by an
assertion only, and leaves the status at success. -/
def rpmbDispatch (request response : RpmbDataBuffer) : Sd Unit := do
  let requestType ← requestTypeAt request.packets
  if requestType = rpmbRequestProgramKey then
    rpmbProgramKeyRequest request.packets response.packets
  else if requestType = rpmbRequestCounterValue then
    rpmbReadCounterRequest request.packets response.packets
  else if requestType = rpmbRequestAuthRead then
    rpmbAuthenticatedReadRequest request.packets response
  else if requestType = rpmbRequestAuthWrite then
    rpmbAuthenticatedWriteRequest request response.packets
  else pure ()

def ignoringErrors (part : Sd Unit) : Sd Unit := part.catching fun _ => pure ()

/-- If the first switch fails there is nothing to switch back. Otherwise the card
is switched back whether the request succeeded or not. -/
def rpmbRequest (request response : RpmbDataBuffer) : Sd Unit := do
  let device ← instanceData
  let currentPartition := device.currentMmcPartition
  sdhcSwitchPartitionMmc .rpmb
  (rpmbDispatch request response).catching fun error => do
    ignoringErrors (sdhcSwitchPartitionMmc currentPartition)
    .fail error
  sdhcSwitchPartitionMmc currentPartition

/-! ### `EFI_RPMB_IO_PROTOCOL` -/

/-- The checks and the call the four members share: the pointers given, and the
type of the first request frame. -/
def rpmbIoRequest (requestType : UInt16) (pointersGiven : Bool)
    (request response : RpmbDataBuffer) : Sd Unit :=
  if pointersGiven then do
    let found ← requestTypeAt request.packets
    if found ≠ requestType then raise EfiStatus.invalidParameter EfiStatus.isError_invalidParameter
    else rpmbRequest request response
  else raise EfiStatus.invalidParameter EfiStatus.isError_invalidParameter

def rpmbIoProgramKey (programmingRequest resultResponse : UInt64) : Sd Unit :=
  rpmbIoRequest rpmbRequestProgramKey (programmingRequest ≠ 0 ∧ resultResponse ≠ 0)
    ⟨programmingRequest, 1⟩ ⟨resultResponse, 1⟩

def rpmbIoReadCounter (readRequest readResponse : UInt64) : Sd Unit :=
  rpmbIoRequest rpmbRequestCounterValue (readRequest ≠ 0 ∧ readResponse ≠ 0)
    ⟨readRequest, 1⟩ ⟨readResponse, 1⟩

def rpmbIoAuthenticatedWrite (request : RpmbDataBuffer) (response : UInt64) : Sd Unit :=
  rpmbIoRequest rpmbRequestAuthWrite
    (response ≠ 0 ∧ request.packets ≠ 0 ∧ request.packetCount ≠ 0) request ⟨response, 1⟩

def rpmbIoAuthenticatedRead (readRequest : UInt64) (readResponse : RpmbDataBuffer) : Sd Unit :=
  rpmbIoRequest rpmbRequestAuthRead
    (readRequest ≠ 0 ∧ readResponse.packets ≠ 0 ∧ readResponse.packetCount ≠ 0)
    ⟨readRequest, 1⟩ readResponse

end MuRockchip.SdMmc
