import Fsfw.Library.Memory
import Fsfw.ReturnValues

/-!
# TC transfer frames

A transfer frame is a view of memory from the address of its first byte on.  It starts with
a primary header of five bytes, which hold the flags, the spacecraft id, the virtual channel
id, the length of the frame and its sequence number; the data field follows.  The length of
the data is worked out from the length in the header, with 16 bits, and is not compared with
anything here.
-/

/-- A transfer frame, given by the bytes from its start on. -/
structure TcTransferFrame where
  bytes : ℕ → UInt8

namespace TcTransferFrame

/-- The size of the checksum at the end of a frame. -/
abbrev frameCrcSize : UInt16 := 2

section

variable (frame : TcTransferFrame)

/-! ### The primary header -/

def flagsAndScid : UInt8 := frame.bytes 0

def spacecraftId_l : UInt8 := frame.bytes 1

def vcidAndLength_h : UInt8 := frame.bytes 2

def length_l : UInt8 := frame.bytes 3

/-- The first byte of the data field. -/
def dataField : UInt8 := frame.bytes 5

def getVersionNumber : UInt8 := (frame.flagsAndScid &&& 0b11000000) >>> 6

def bypassFlagSet : Bool := (frame.flagsAndScid &&& 0b00100000) != 0

def controlCommandFlagSet : Bool := (frame.flagsAndScid &&& 0b00010000) != 0

def spareIsZero : Bool := (frame.flagsAndScid &&& 0b00001100) == 0

def getSpacecraftId : UInt16 :=
  ((frame.flagsAndScid &&& 0b00000011).toUInt16 <<< 8) + frame.spacecraftId_l.toUInt16

def getVirtualChannelId : UInt8 := (frame.vcidAndLength_h &&& 0b11111100) >>> 2

def getFrameLength : UInt16 :=
  ((frame.vcidAndLength_h &&& 0b00000011).toUInt16 <<< 8) + frame.length_l.toUInt16

def getSequenceNumber : UInt8 := frame.bytes 4

/-- The size of the primary header. -/
def getHeaderSize : UInt16 := 5

/-- The size of the whole frame. -/
def getFullSize : UInt16 := frame.getFrameLength + 1

/-! ### The data field -/

/-- The length of the data after a segment header. -/
def getDataLength : UInt16 :=
  frame.getFrameLength - getHeaderSize - 1 - frameCrcSize + 1

/-- The length of the data when there is no segment header. -/
def getFullDataLength : UInt16 :=
  frame.getFrameLength - getHeaderSize - frameCrcSize + 1

def getSequenceFlags : UInt8 := (frame.dataField &&& 0b11000000) >>> 6

def getMAPId : UInt8 := frame.dataField &&& 0b00111111

/-- The bytes after a segment header. -/
def getDataField : ℕ → UInt8 := fun i => frame.bytes (6 + i)

/-- The bytes of the data field, from its first one on. -/
def getFullDataField : ℕ → UInt8 := fun i => frame.bytes (5 + i)

end

end TcTransferFrame

/-! ### BC frames -/

/-- The content of a BC frame. -/
structure BcFrame where
  byte1 : UInt8 := 0
  byte2 : UInt8 := 0
  vR : UInt8 := 0

namespace BcFrame

abbrev unlockCommand : UInt8 := 0b00000000

abbrev setVR1 : UInt8 := 0b10000010

abbrev setVR2 : UInt8 := 0b00000000

/-- Read the content of a BC frame from `inSize` bytes, and tell which command it is. -/
def initializeContent (content : BcFrame) (inBuffer : ℕ → UInt8) (inSize : UInt16) :
    BcFrame × ReturnValue :=
  if inSize = 1 then
    let content := { content with byte1 := inBuffer 0 }
    if content.byte1 = unlockCommand then
      (content, CCSDSReturnValuesIF.bcIsUnlockCommand)
    else
      (content, CCSDSReturnValuesIF.bcIllegalCommand)
  else if inSize = 3 then
    let content := { byte1 := inBuffer 0, byte2 := inBuffer 1, vR := inBuffer 2 }
    if content.byte1 = setVR1 ∧ content.byte2 = setVR2 then
      (content, CCSDSReturnValuesIF.bcIsSetVrCommand)
    else
      (content, CCSDSReturnValuesIF.bcIllegalCommand)
  else
    (content, CCSDSReturnValuesIF.bcIllegalCommand)

/-- The outcome of reading a BC frame is one of three. -/
theorem initializeContent_cases (content : BcFrame) (inBuffer : ℕ → UInt8) (inSize : UInt16) :
  (content.initializeContent inBuffer inSize).2 = CCSDSReturnValuesIF.bcIsUnlockCommand ∨
  (content.initializeContent inBuffer inSize).2 = CCSDSReturnValuesIF.bcIsSetVrCommand ∨
  (content.initializeContent inBuffer inSize).2 = CCSDSReturnValuesIF.bcIllegalCommand
  := by
  simp only [initializeContent]
  split
  · split <;> simp
  · split
    · split <;> simp
    · simp

end BcFrame
