import Fsfw.ReturnValues

/-!
# The reader of telecommand packets

A telecommand packet starts with the six bytes of the primary header and the five bytes of the
data field header.  The user data follow, and at the end there is a checksum.  The reader does
not copy the packet: its methods look into the bytes it is given.  What lies beyond these bytes
is read as zero here; the length in the header is checked before any use.
-/

namespace PusTcReader

/-- The number that two bytes make, high byte first. -/
def readUInt16 (data : List UInt8) (index : ℕ) : UInt16 :=
  ((data.getD index 0).toUInt16 <<< 8) ||| (data.getD (index + 1) 0).toUInt16

/-! ### The primary header -/

def headerLen : ℕ := 6

def getPacketIdRaw (data : List UInt8) : UInt16 :=
  readUInt16 data 0 &&& 0x1FFF

def getPacketSeqCtrlRaw (data : List UInt8) : UInt16 :=
  readUInt16 data 2

def getPacketDataLen (data : List UInt8) : UInt16 :=
  readUInt16 data 4

def getApid (data : List UInt8) : UInt16 :=
  getPacketIdRaw data &&& 0x7FF

def getSequenceCount (data : List UInt8) : UInt16 :=
  getPacketSeqCtrlRaw data &&& 0x3FFF

def getFullPacketLen (data : List UInt8) : ℕ :=
  headerLen + (getPacketDataLen data).toNat + 1

/-- The version is looked for in the packet id, from which its bits have been cleared. -/
def getVersion (data : List UInt8) : UInt16 :=
  (getPacketIdRaw data >>> 13) &&& 0b111

/-- Whether the packet is a telecommand. -/
def isTc (data : List UInt8) : Bool :=
  (getPacketIdRaw data >>> 12) &&& 0b1 = 1

def hasSecHeader (data : List UInt8) : Bool :=
  (getPacketIdRaw data >>> 11) &&& 0b1 = 1

/-- The result of taking these bytes as the packet.  The bytes must have room for the header, and
for the packet length that it declares. -/
def setReadOnlyData (data : List UInt8) : ReturnValue :=
  if data.length < headerLen then
    SerializeIF.streamTooShort
  else if getFullPacketLen data > data.length then
    SerializeIF.streamTooShort
  else
    .ok

/-! ### The data field header -/

def getPusVersion (data : List UInt8) : UInt8 :=
  (data.getD 6 0 >>> 4) &&& 0b1111

/-- The service.  It is not defined when its byte lies behind the packet. -/
def getService (data : List UInt8) : Option UInt8 :=
  data[7]?

def getAcknowledgeFlags (data : List UInt8) : UInt8 :=
  data.getD 6 0 &&& 0xF

def getSubService (data : List UInt8) : UInt8 :=
  data.getD 8 0

def getSourceId (data : List UInt8) : UInt16 :=
  readUInt16 data 9

/-! ### User data -/

/-- The length of the user data.  It is wrong for packets without room for the headers and the
checksum. -/
def getUserDataLen (data : List UInt8) : ℕ :=
  (getFullPacketLen data + 2 ^ 64 - (headerLen + 5 + 2)) % 2 ^ 64

def getUserData (data : List UInt8) : List UInt8 :=
  (data.drop (headerLen + 5)).take (getUserDataLen data)

end PusTcReader
