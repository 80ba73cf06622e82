/-
Status codes of the two worlds.

UEFI services answer with an `EFI_STATUS`: zero is success, codes with the high
bit set are errors, and the remaining codes are warnings, which callers that
test `EFI_ERROR` treat like success. Secure-world services answer with a
`TEEC_Result`, where every nonzero code is an error.
-/

namespace MuRockchip

/-- `EFI_STATUS`, a `UINTN` on the 64-bit targets of the platform. -/
abbrev EfiStatus := UInt64

namespace EfiStatus

/-- `ENCODE_ERROR`: an error code carries the high bit. -/
def encodeError (code : UInt64) : EfiStatus := 0x8000000000000000 ||| code

def success : EfiStatus := 0
def invalidParameter : EfiStatus := encodeError 2
def unsupported : EfiStatus := encodeError 3
def badBufferSize : EfiStatus := encodeError 4
def bufferTooSmall : EfiStatus := encodeError 5
def notReady : EfiStatus := encodeError 6
def deviceError : EfiStatus := encodeError 7
def writeProtected : EfiStatus := encodeError 8
def outOfResources : EfiStatus := encodeError 9
def noMedia : EfiStatus := encodeError 12
def mediaChanged : EfiStatus := encodeError 13
def notFound : EfiStatus := encodeError 14
def accessDenied : EfiStatus := encodeError 15
def timeout : EfiStatus := encodeError 18
def alreadyStarted : EfiStatus := encodeError 20
def aborted : EfiStatus := encodeError 21
def protocolError : EfiStatus := encodeError 24
def securityViolation : EfiStatus := encodeError 26

/-- `EFI_ERROR`: the code is negative as an `INTN`. -/
def isError (status : EfiStatus) : Bool := 0x8000000000000000 ≤ status

@[simp]
theorem isError_success : isError success = false := rfl

theorem isError_invalidParameter : isError invalidParameter = true := rfl
theorem isError_unsupported : isError unsupported = true := rfl
theorem isError_deviceError : isError deviceError = true := rfl
theorem isError_outOfResources : isError outOfResources = true := rfl
theorem isError_noMedia : isError noMedia = true := rfl
theorem isError_timeout : isError timeout = true := rfl
theorem isError_protocolError : isError protocolError = true := rfl

theorem success_ne_invalidParameter : success ≠ invalidParameter := by decide

theorem accessDenied_ne_invalidParameter : accessDenied ≠ invalidParameter := by decide

end EfiStatus

/-- The statuses a failed service answers with. -/
abbrev ErrorStatus : Type := { status : EfiStatus // status.isError = true }

abbrev TeecResult := UInt32

namespace TeecResult

def success : TeecResult := 0x00000000
def errorGeneric : TeecResult := 0xFFFF0000
def errorAccessDenied : TeecResult := 0xFFFF0001
def errorBadParameters : TeecResult := 0xFFFF0006
def errorBadState : TeecResult := 0xFFFF0007
def errorItemNotFound : TeecResult := 0xFFFF0008
def errorNotImplemented : TeecResult := 0xFFFF0009
def errorNotSupported : TeecResult := 0xFFFF000A
def errorOutOfMemory : TeecResult := 0xFFFF000C
def errorCommunication : TeecResult := 0xFFFF000E
def errorShortBuffer : TeecResult := 0xFFFF0010

end TeecResult

end MuRockchip
