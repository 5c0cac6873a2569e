import Fsfw.TmTcPacket.PusTcReader

/-!
# Verification reports

A report tells the sender of a telecommand what became of it.  It names the telecommand by its
packet id and its sequence control.  The flags that say which reports are wanted are left as they
are set by default.
-/

/-- The kinds of verification reports. -/
inductive TcVerif where
  | acceptanceSuccess
  | acceptanceFailure
  | startSuccess
  | startFailure
  | progressSuccess
  | progressFailure
  | completionSuccess
  | completionFailure
  deriving DecidableEq, Repr

/-- A report.  In a report of success the error code is `ok`. -/
structure VerificationReport where
  reportId : TcVerif
  tcPacketId : UInt16
  tcPsc : UInt16
  errorCode : ReturnValue
  step : UInt8 := 0
  deriving DecidableEq, Repr

namespace VerificationReport

/-- The report of a success of the telecommand that the reader is set to. -/
def success (reportId : TcVerif) (reader : List UInt8) : VerificationReport where
  reportId := reportId
  tcPacketId := PusTcReader.getPacketIdRaw reader
  tcPsc := PusTcReader.getPacketSeqCtrlRaw reader
  errorCode := .ok

/-- The report of a failure of the telecommand that the reader is set to. -/
def failure (reportId : TcVerif) (reader : List UInt8) (errorCode : ReturnValue) :
    VerificationReport where
  reportId := reportId
  tcPacketId := PusTcReader.getPacketIdRaw reader
  tcPsc := PusTcReader.getPacketSeqCtrlRaw reader
  errorCode := errorCode

end VerificationReport
