import Fsfw.DataLinkLayer.TcTransferFrame
import Fsfw.Library.Run
import Fsfw.StorageManager.StorageManagerIF

/-!
# Map packet extraction

A map channel takes packets out of the frames it is given.  A frame without segmentation
holds whole packets, which are forwarded one after another.  A packet that comes in segments
is collected in a buffer, and is forwarded when its last segment has arrived.

A packet is forwarded by adding it to the packet store and sending its address to the
destination.  What happens to the packets there does not concern a map channel, so `extractPackets`
also gives the list of the packets it has forwarded.
-/

open Memory

/-- What a map channel uses of space packets: their least size, and the full size of the
packet that starts at a position in memory, which is not zero. -/
structure SpacePacketBase where
  minimumSize : ℕ
  getFullSize : (ℕ → UInt8) → ℕ
  getFullSize_pos : ∀ position, 0 < getFullSize position

/-- Where packets go: the packet store, and the queue their addresses are sent to. -/
structure PacketDestination (σ : Type*) where
  packetStore : StorageManagerIF σ
  sendMessage : StoreAddress → σ → ReturnValue × σ

/-- A map channel. -/
structure MapPacketExtraction where
  lastSegmentationFlag : UInt8
  packetLength : ℕ
  bufferPosition : ℕ
  packetBuffer : ℕ → UInt8

namespace MapPacketExtraction

abbrev maxPacketSize : ℕ := 4096

abbrev firstPortion : UInt8 := 0b01

abbrev continuingPortion : UInt8 := 0b00

abbrev lastPortion : UInt8 := 0b10

abbrev noSegmentation : UInt8 := 0b11

/-- A new map channel. -/
def new : MapPacketExtraction where
  lastSegmentationFlag := noSegmentation
  packetLength := 0
  bufferPosition := 0
  packetBuffer _ := 0

variable {σ : Type*}

/-- Add a packet to the store, and send its address to the destination. -/
def sendCompletePacket (D : PacketDestination σ) (packet : List UInt8) (env : σ) :
    ReturnValue × σ :=
  match D.packetStore.addData packet env with
  | (.ok, storeId, env) => D.sendMessage storeId env
  | (status, _, env) => (status, env)

/-- What a call leaves behind: its status, the packets it has forwarded, and the
environment. -/
structure Extraction (σ : Type*) where
  status : ReturnValue
  forwarded : List (List UInt8)
  env : σ

/-- Forward the packets in the `totalLength` bytes at `position`. -/
def unpackPackets (P : SpacePacketBase) (D : PacketDestination σ) (totalLength : ℕ)
    (position : ℕ → UInt8) (status : ReturnValue) (forwarded : List (List UInt8)) (env : σ) :
    Extraction σ :=
  if totalLength > P.minimumSize then
    let packetSize := P.getFullSize position
    if packetSize ≤ totalLength then
      let packet := slice position 0 packetSize
      unpackPackets P D (totalLength - packetSize) (fun i => position (packetSize + i)) .ok
        (forwarded ++ [packet]) (sendCompletePacket D packet env).2
    else
      ⟨CCSDSReturnValuesIF.dataCorrupted, forwarded, env⟩
  else if totalLength > 0 then
    ⟨CCSDSReturnValuesIF.residualData, forwarded, env⟩
  else
    ⟨status, forwarded, env⟩
termination_by totalLength
decreasing_by
  have := P.getFullSize_pos position
  omega

/-- Forward the packets of a frame without segmentation. -/
def unpackBlockingPackets (P : SpacePacketBase) (D : PacketDestination σ)
    (frame : TcTransferFrame) (env : σ) : Extraction σ :=
  if frame.getDataLength.toNat > maxPacketSize then
    ⟨CCSDSReturnValuesIF.contentTooLarge, [], env⟩
  else
    unpackPackets P D frame.getDataLength.toNat frame.getDataField
      CCSDSReturnValuesIF.tooShortBlockedPacket [] env

def clearBuffers (m : MapPacketExtraction) : MapPacketExtraction :=
  { m with
    packetBuffer := fill m.packetBuffer 0 maxPacketSize 0
    bufferPosition := 0
    packetLength := 0
    lastSegmentationFlag := noSegmentation }

/-- The data that a frame carries after its segment header. -/
def dataOf (frame : TcTransferFrame) : List UInt8 :=
  slice frame.getDataField 0 frame.getDataLength.toNat

/-- Copy bytes into the packet buffer, if they fit there. -/
def copyIn (m : MapPacketExtraction) (position : ℕ) (data : List UInt8) :
    Option MapPacketExtraction :=
  if position + data.length ≤ maxPacketSize then
    some { m with packetBuffer := overwrite m.packetBuffer position data }
  else
    none

/-- Start a packet with its first segment. -/
def firstSegment (m : MapPacketExtraction) (frame : TcTransferFrame) (env : σ) :
    Option (MapPacketExtraction × Extraction σ) :=
  let m := { m with packetLength := frame.getDataLength.toNat }
  if m.packetLength ≤ maxPacketSize then
    match m.copyIn 0 (dataOf frame) with
    | none => none
    | some m => some ({ m with bufferPosition := m.packetLength }, ⟨.ok, [], env⟩)
  else
    some (m.clearBuffers, ⟨CCSDSReturnValuesIF.contentTooLarge, [], env⟩)

/-- Add a segment to the packet, and forward the packet if the segment is its last one. -/
def nextSegment (D : PacketDestination σ) (m : MapPacketExtraction) (frame : TcTransferFrame)
    (env : σ) : Option (MapPacketExtraction × Extraction σ) :=
  if m.lastSegmentationFlag = firstPortion ∨ m.lastSegmentationFlag = continuingPortion then
    let m := { m with packetLength := (m.packetLength + frame.getDataLength.toNat) % 2 ^ 32 }
    if m.packetLength ≤ maxPacketSize then
      match m.copyIn m.bufferPosition (dataOf frame) with
      | none => none
      | some m =>
          let m := { m with bufferPosition := m.packetLength }
          if frame.getSequenceFlags = lastPortion then
            let packet := slice m.packetBuffer 0 m.packetLength
            some (m.clearBuffers, ⟨.ok, [packet], (sendCompletePacket D packet env).2⟩)
          else
            some (m, ⟨.ok, [], env⟩)
    else
      some (m.clearBuffers, ⟨CCSDSReturnValuesIF.contentTooLarge, [], env⟩)
  else
    some (m.clearBuffers, ⟨CCSDSReturnValuesIF.illegalSegmentationFlag, [], env⟩)

/-- Handle a frame by its segmentation flag, before that is remembered. -/
def handleSegment (P : SpacePacketBase) (D : PacketDestination σ) (m : MapPacketExtraction)
    (frame : TcTransferFrame) (env : σ) : Option (MapPacketExtraction × Extraction σ) :=
  let segmentationFlag := frame.getSequenceFlags
  if segmentationFlag = noSegmentation then
    some (m, unpackBlockingPackets P D frame env)
  else if segmentationFlag = firstPortion then
    m.firstSegment frame env
  else if segmentationFlag = continuingPortion ∨ segmentationFlag = lastPortion then
    m.nextSegment D frame env
  else
    some (m.clearBuffers, ⟨CCSDSReturnValuesIF.dataCorrupted, [], env⟩)

/-- Take the packets out of a frame. Undefined when bytes are written outside of the packet
buffer. -/
def extractPackets (P : SpacePacketBase) (D : PacketDestination σ) (m : MapPacketExtraction)
    (frame : TcTransferFrame) (env : σ) : Option (MapPacketExtraction × Extraction σ) :=
  match m.handleSegment P D frame env with
  | none => none
  | some (m, extraction) =>
      some ({ m with lastSegmentationFlag := frame.getSequenceFlags }, extraction)

end MapPacketExtraction
