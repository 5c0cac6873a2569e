import Mathlib

/-!
# Definitions of the file delivery protocol

The enumerations of the protocol, with the numbers they are encoded by.  A `WidthInBytes` is
read from the wire by a cast, so it may be any byte; only `oneByte`, `twoBytes` and
`fourBytes` are supported.
-/

namespace Cfdp

def versionBits : ℕ := 0b001 <<< 5

inductive PduType where
  | fileDirective
  | fileData
  deriving DecidableEq, Repr

inductive TransmissionMode where
  | acknowledged
  | unacknowledged
  deriving DecidableEq, Repr

inductive SegmentMetadataFlag where
  | notPresent
  | present
  deriving DecidableEq, Repr

inductive Direction where
  | towardsReceiver
  | towardsSender
  deriving DecidableEq, Repr

inductive SegmentationControl where
  | noRecordBoundariesPreservation
  | recordBoundariesPreservation
  deriving DecidableEq, Repr

/-! Flags of one bit, and the casts from the bit that is read back. -/

def PduType.code : PduType → ℕ
  | fileDirective => 0
  | fileData => 1

def PduType.ofCode (n : ℕ) : PduType :=
  if n = 0 then fileDirective else fileData

@[simp]
theorem PduType.ofCode_code (pduType : PduType) :
  ofCode pduType.code = pduType
  := by
  cases pduType with
  | fileDirective => rfl
  | fileData => rfl

theorem PduType.code_lt (pduType : PduType) :
  pduType.code < 2
  := by
  cases pduType with
  | fileDirective => simp [code]
  | fileData => simp [code]

def TransmissionMode.code : TransmissionMode → ℕ
  | acknowledged => 0
  | unacknowledged => 1

def TransmissionMode.ofCode (n : ℕ) : TransmissionMode :=
  if n = 0 then acknowledged else unacknowledged

@[simp]
theorem TransmissionMode.ofCode_code (mode : TransmissionMode) :
  ofCode mode.code = mode
  := by
  cases mode with
  | acknowledged => rfl
  | unacknowledged => rfl

theorem TransmissionMode.code_lt (mode : TransmissionMode) :
  mode.code < 2
  := by
  cases mode with
  | acknowledged => simp [code]
  | unacknowledged => simp [code]

def SegmentMetadataFlag.code : SegmentMetadataFlag → ℕ
  | notPresent => 0
  | present => 1

def SegmentMetadataFlag.ofCode (n : ℕ) : SegmentMetadataFlag :=
  if n = 0 then notPresent else present

@[simp]
theorem SegmentMetadataFlag.ofCode_code (flag : SegmentMetadataFlag) :
  ofCode flag.code = flag
  := by
  cases flag with
  | notPresent => rfl
  | present => rfl

theorem SegmentMetadataFlag.code_lt (flag : SegmentMetadataFlag) :
  flag.code < 2
  := by
  cases flag with
  | notPresent => simp [code]
  | present => simp [code]

def Direction.code : Direction → ℕ
  | towardsReceiver => 0
  | towardsSender => 1

def Direction.ofCode (n : ℕ) : Direction :=
  if n = 0 then towardsReceiver else towardsSender

@[simp]
theorem Direction.ofCode_code (direction : Direction) :
  ofCode direction.code = direction
  := by
  cases direction with
  | towardsReceiver => rfl
  | towardsSender => rfl

theorem Direction.code_lt (direction : Direction) :
  direction.code < 2
  := by
  cases direction with
  | towardsReceiver => simp [code]
  | towardsSender => simp [code]

def SegmentationControl.code : SegmentationControl → ℕ
  | noRecordBoundariesPreservation => 0
  | recordBoundariesPreservation => 1

def SegmentationControl.ofCode (n : ℕ) : SegmentationControl :=
  if n = 0 then noRecordBoundariesPreservation else recordBoundariesPreservation

@[simp]
theorem SegmentationControl.ofCode_code (control : SegmentationControl) :
  ofCode control.code = control
  := by
  cases control with
  | noRecordBoundariesPreservation => rfl
  | recordBoundariesPreservation => rfl

theorem SegmentationControl.code_lt (control : SegmentationControl) :
  control.code < 2
  := by
  cases control with
  | noRecordBoundariesPreservation => simp [code]
  | recordBoundariesPreservation => simp [code]

/-- The width of a field, in bytes. -/
abbrev WidthInBytes := UInt8

abbrev WidthInBytes.oneByte : WidthInBytes := 1
abbrev WidthInBytes.twoBytes : WidthInBytes := 2
abbrev WidthInBytes.fourBytes : WidthInBytes := 4

inductive FileDirective where
  | invalidDirective
  | eofDirective
  | finish
  | ack
  | metadata
  | nak
  | prompt
  | keepAlive
  deriving DecidableEq, Repr

def FileDirective.code : FileDirective → ℕ
  | invalidDirective => 0x0f
  | eofDirective => 0x04
  | finish => 0x05
  | ack => 0x06
  | metadata => 0x07
  | nak => 0x08
  | prompt => 0x09
  | keepAlive => 0x0c

inductive ConditionCode where
  | noConditionField
  | noError
  | positiveAckLimitReached
  | keepAliveLimitReached
  | invalidTransmissionMode
  | filestoreRejection
  | fileChecksumFailure
  | fileSizeError
  | nakLimitReached
  | inactivityDetected
  | checkLimitReached
  | unsupportedChecksumType
  | suspendRequestReceived
  | cancelRequestReceived
  deriving DecidableEq, Repr

def ConditionCode.code : ConditionCode → ℕ
  | noConditionField => 0xff
  | noError => 0b0000
  | positiveAckLimitReached => 0b0001
  | keepAliveLimitReached => 0b0010
  | invalidTransmissionMode => 0b0011
  | filestoreRejection => 0b0100
  | fileChecksumFailure => 0b0101
  | fileSizeError => 0b0110
  | nakLimitReached => 0b0111
  | inactivityDetected => 0b1000
  | checkLimitReached => 0b1010
  | unsupportedChecksumType => 0b1011
  | suspendRequestReceived => 0b1110
  | cancelRequestReceived => 0b1111

inductive FaultHandlerCode where
  | reserved
  | noticeOfCancellation
  | noticeOfSuspension
  | ignoreError
  | abandonTransaction
  deriving DecidableEq, Repr

def FaultHandlerCode.code : FaultHandlerCode → ℕ
  | reserved => 0b0000
  | noticeOfCancellation => 0b0001
  | noticeOfSuspension => 0b0010
  | ignoreError => 0b0011
  | abandonTransaction => 0b0100

inductive ChecksumType where
  | modular
  | crc32Proximity1
  | crc32C
  | crc32
  | nullChecksum
  deriving DecidableEq, Repr

def ChecksumType.code : ChecksumType → ℕ
  | modular => 0
  | crc32Proximity1 => 1
  | crc32C => 2
  | crc32 => 3
  | nullChecksum => 15

inductive AckTransactionStatus where
  | undefined
  | active
  | terminated
  | unrecognized
  deriving DecidableEq, Repr

def AckTransactionStatus.code : AckTransactionStatus → ℕ
  | undefined => 0b00
  | active => 0b01
  | terminated => 0b10
  | unrecognized => 0b11

inductive FileDeliveryCode where
  | dataComplete
  | dataIncomplete
  deriving DecidableEq, Repr

def FileDeliveryCode.code : FileDeliveryCode → ℕ
  | dataComplete => 0
  | dataIncomplete => 1

inductive FileDeliveryStatus where
  | discardedDeliberately
  | discardedFilestoreRejection
  | retainedInFilestore
  | fileStatusUnreported
  deriving DecidableEq, Repr

def FileDeliveryStatus.code : FileDeliveryStatus → ℕ
  | discardedDeliberately => 0
  | discardedFilestoreRejection => 1
  | retainedInFilestore => 2
  | fileStatusUnreported => 3

inductive PromptResponseRequired where
  | promptNak
  | promptKeepAlive
  deriving DecidableEq, Repr

def PromptResponseRequired.code : PromptResponseRequired → ℕ
  | promptNak => 0
  | promptKeepAlive => 1

inductive TlvType where
  | filestoreRequest
  | filestoreResponse
  | msgToUser
  | faultHandler
  | flowLabel
  | entityId
  | invalidTlv
  deriving DecidableEq, Repr

def TlvType.code : TlvType → ℕ
  | filestoreRequest => 0x00
  | filestoreResponse => 0x01
  | msgToUser => 0x02
  | faultHandler => 0x04
  | flowLabel => 0x05
  | entityId => 0x06
  | invalidTlv => 0xff

/-- The cast from a number, for the numbers that `checkType` lets pass. -/
def TlvType.ofCode : ℕ → TlvType
  | 0x00 => filestoreRequest
  | 0x01 => filestoreResponse
  | 0x02 => msgToUser
  | 0x04 => faultHandler
  | 0x05 => flowLabel
  | 0x06 => entityId
  | _ => invalidTlv

@[simp]
theorem TlvType.ofCode_code (type : TlvType) :
  ofCode type.code = type
  := by
  cases type with
  | filestoreRequest => rfl
  | filestoreResponse => rfl
  | msgToUser => rfl
  | faultHandler => rfl
  | flowLabel => rfl
  | entityId => rfl
  | invalidTlv => rfl

inductive RecordContinuationState where
  | noStartNoEnd
  | containsStartNoEnd
  | containsEndNoStart
  | containsStartAndEnd
  deriving DecidableEq, Repr

def RecordContinuationState.code : RecordContinuationState → ℕ
  | noStartNoEnd => 0b00
  | containsStartNoEnd => 0b01
  | containsEndNoStart => 0b10
  | containsStartAndEnd => 0b11

inductive FilestoreActionCode where
  | createFile
  | deleteFile
  | renameFile
  | appendFile
  | replaceFile
  | createDirectory
  | removeDirectory
  | denyFile
  | denyDirectory
  | invalid
  deriving DecidableEq, Repr

def FilestoreActionCode.code : FilestoreActionCode → ℕ
  | createFile => 0b0000
  | deleteFile => 0b0001
  | renameFile => 0b0010
  | appendFile => 0b0011
  | replaceFile => 0b0100
  | createDirectory => 0b0101
  | removeDirectory => 0b0110
  | denyFile => 0b0111
  | denyDirectory => 0b1000
  | invalid => 0b1111

end Cfdp
