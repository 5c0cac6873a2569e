import Fsfw.DataLinkLayer.Clcw
import Fsfw.DataLinkLayer.TcTransferFrame

/-!
# Virtual channel reception

A virtual channel keeps the FARM-1 machine: its state, the receiver frame sequence number
V(R), the FARM-B counter, and the control word that reports them.  A frame is first given to
the machine, whose current state decides what to do with it; a frame the machine accepts
then goes to the map channel it names.

The map channels are known to a virtual channel by an interface only.  They live in an
environment of type `σ`, and are referred to by values of type `μ`.
-/

/-- The interface of map channels: `extractPackets` receives a frame, and
`initializeChannel` prepares a channel for use. -/
structure MapPacketExtractionIF (μ σ : Type*) where
  extractPackets : μ → TcTransferFrame → σ → ReturnValue × σ
  initializeChannel : μ → σ → ReturnValue × σ

/-- The states of the FARM-1 machine. -/
inductive Farm1State where
  | openState
  | waitState
  | lockoutState
  deriving DecidableEq, Repr

/-- A virtual channel. Its map channels are listed in the order of their ids. -/
structure VirtualChannelReception (μ : Type*) where
  channelId : UInt8
  slidingWindowWidth : UInt8
  positiveWindow : UInt8
  negativeWindow : UInt8
  currentState : Farm1State
  internalClcw : Clcw
  vR : UInt8
  farmBCounter : UInt8
  mapChannels : List (UInt8 × μ)

/-- What a handler of the machine works out: the virtual channel and the control word it
leaves, and the value it returns. -/
abbrev Farm1Result (μ : Type*) := VirtualChannelReception μ × Clcw × ReturnValue

variable {μ σ : Type*}

/-- The difference of two sequence numbers, as a signed number of eight bits. -/
def sequenceDiff (nS vR : UInt8) : ℤ :=
  Int.bmod ((nS.toNat : ℤ) - vR.toNat) 256

/-! ### The open state -/

namespace Farm1StateOpen

/-- An AD frame with the expected number is accepted; one in the positive window asks for
retransmission, one in the negative window is ignored, and any other one locks out. -/
def handleADFrame (myVC : VirtualChannelReception μ) (frame : TcTransferFrame) (clcw : Clcw) :
    Farm1Result μ :=
  let diff := sequenceDiff frame.getSequenceNumber myVC.vR
  if diff = 0 then
    ({ myVC with vR := myVC.vR + 1 }, clcw.setRetransmitFlag false, .ok)
  else if diff < myVC.positiveWindow.toNat ∧ diff > 0 then
    (myVC, clcw.setRetransmitFlag true, CCSDSReturnValuesIF.nsPositiveW)
  else if diff < 0 ∧ diff ≥ -(myVC.negativeWindow.toNat : ℤ) then
    (myVC, clcw, CCSDSReturnValuesIF.nsNegativeW)
  else
    ({ myVC with currentState := .lockoutState }, clcw.setLockoutFlag true,
      CCSDSReturnValuesIF.nsLockout)

def handleBCUnlockCommand (myVC : VirtualChannelReception μ) (clcw : Clcw) : Farm1Result μ :=
  ({ myVC with farmBCounter := myVC.farmBCounter + 1 }, clcw.setRetransmitFlag false,
    CCSDSReturnValuesIF.bcIsUnlockCommand)

def handleBCSetVrCommand (myVC : VirtualChannelReception μ) (clcw : Clcw) (vr : UInt8) :
    Farm1Result μ :=
  ({ myVC with farmBCounter := myVC.farmBCounter + 1, vR := vr },
    clcw.setRetransmitFlag false, CCSDSReturnValuesIF.bcIsSetVrCommand)

end Farm1StateOpen

/-! ### The wait state -/

namespace Farm1StateWait

/-- No AD frame is accepted, and one outside of both windows locks out. -/
def handleADFrame (myVC : VirtualChannelReception μ) (frame : TcTransferFrame) (clcw : Clcw) :
    Farm1Result μ :=
  let diff := sequenceDiff frame.getSequenceNumber myVC.vR
  if diff < -(myVC.negativeWindow.toNat : ℤ) ∨ diff ≥ myVC.positiveWindow.toNat then
    ({ myVC with currentState := .lockoutState }, clcw.setLockoutFlag true,
      CCSDSReturnValuesIF.farmInWait)
  else
    (myVC, clcw, CCSDSReturnValuesIF.farmInWait)

def handleBCUnlockCommand (myVC : VirtualChannelReception μ) (clcw : Clcw) : Farm1Result μ :=
  ({ myVC with farmBCounter := myVC.farmBCounter + 1, currentState := .openState },
    (clcw.setRetransmitFlag false).setWaitFlag false, CCSDSReturnValuesIF.bcIsUnlockCommand)

def handleBCSetVrCommand (myVC : VirtualChannelReception μ) (clcw : Clcw) (vr : UInt8) :
    Farm1Result μ :=
  ({ myVC with
      farmBCounter := myVC.farmBCounter + 1, vR := vr, currentState := .openState },
    (clcw.setWaitFlag false).setRetransmitFlag false, CCSDSReturnValuesIF.bcIsSetVrCommand)

end Farm1StateWait

/-! ### The lockout state -/

namespace Farm1StateLockout

def handleADFrame (myVC : VirtualChannelReception μ) (_frame : TcTransferFrame) (clcw : Clcw) :
    Farm1Result μ :=
  (myVC, clcw, CCSDSReturnValuesIF.farmInLockout)

def handleBCUnlockCommand (myVC : VirtualChannelReception μ) (clcw : Clcw) : Farm1Result μ :=
  ({ myVC with farmBCounter := myVC.farmBCounter + 1, currentState := .openState },
    ((clcw.setRetransmitFlag false).setLockoutFlag false).setWaitFlag false,
    CCSDSReturnValuesIF.bcIsUnlockCommand)

/-- The command is accepted, but V(R) is not set. -/
def handleBCSetVrCommand (myVC : VirtualChannelReception μ) (clcw : Clcw) (_vr : UInt8) :
    Farm1Result μ :=
  ({ myVC with farmBCounter := myVC.farmBCounter + 1 }, clcw,
    CCSDSReturnValuesIF.bcIsSetVrCommand)

end Farm1StateLockout

namespace VirtualChannelReception

/-! ### The handlers of the current state -/

def handleADFrame (vc : VirtualChannelReception μ) (frame : TcTransferFrame) (clcw : Clcw) :
    Farm1Result μ :=
  match vc.currentState with
  | .openState => Farm1StateOpen.handleADFrame vc frame clcw
  | .waitState => Farm1StateWait.handleADFrame vc frame clcw
  | .lockoutState => Farm1StateLockout.handleADFrame vc frame clcw

def handleBCUnlockCommand (vc : VirtualChannelReception μ) (clcw : Clcw) : Farm1Result μ :=
  match vc.currentState with
  | .openState => Farm1StateOpen.handleBCUnlockCommand vc clcw
  | .waitState => Farm1StateWait.handleBCUnlockCommand vc clcw
  | .lockoutState => Farm1StateLockout.handleBCUnlockCommand vc clcw

def handleBCSetVrCommand (vc : VirtualChannelReception μ) (clcw : Clcw) (vr : UInt8) :
    Farm1Result μ :=
  match vc.currentState with
  | .openState => Farm1StateOpen.handleBCSetVrCommand vc clcw vr
  | .waitState => Farm1StateWait.handleBCSetVrCommand vc clcw vr
  | .lockoutState => Farm1StateLockout.handleBCSetVrCommand vc clcw vr

/-! ### The virtual channel -/

/-- A new virtual channel, without map channels. -/
def new (channelId slidingWindowWidth : UInt8) : VirtualChannelReception μ where
  channelId := channelId
  slidingWindowWidth := slidingWindowWidth
  positiveWindow := slidingWindowWidth / 2
  negativeWindow := slidingWindowWidth / 2
  currentState := .openState
  internalClcw := Clcw.new.setVirtualChannel channelId
  vR := 0
  farmBCounter := 0
  mapChannels := []

/-- Add a map channel, unless its id is taken. -/
def addMapChannel (vc : VirtualChannelReception μ) (mapId : UInt8) (object : μ) :
    VirtualChannelReception μ × ReturnValue :=
  match vc.mapChannels.lookup mapId with
  | some _ => (vc, .failed)
  | none =>
      ({ vc with mapChannels :=
          vc.mapChannels.takeWhile (·.1 < mapId) ++
            (mapId, object) :: vc.mapChannels.dropWhile (·.1 < mapId) }, .ok)

/-- Prepare the map channels one after another, up to the first that fails. -/
def initializeMapChannels (I : MapPacketExtractionIF μ σ) :
    List (UInt8 × μ) → ReturnValue → σ → ReturnValue × σ
  | [], returnValue, env => (returnValue, env)
  | (_, object) :: mapChannels, _, env =>
      match I.initializeChannel object env with
      | (.ok, env) => initializeMapChannels I mapChannels .ok env
      | (returnValue, env) => (returnValue, env)

/-- Check the width of the sliding window, and prepare the map channels. -/
def initializeChannel (I : MapPacketExtractionIF μ σ) (vc : VirtualChannelReception μ) (env : σ) :
    ReturnValue × σ :=
  if vc.slidingWindowWidth > 254 ∨ vc.slidingWindowWidth % 2 ≠ 0 then
    (.failed, env)
  else
    initializeMapChannels I vc.mapChannels .failed env

/-- Give the frame to the map channel it names. -/
def mapDemultiplexing
    (I : MapPacketExtractionIF μ σ) (vc : VirtualChannelReception μ) (frame : TcTransferFrame)
    (env : σ) : ReturnValue × σ :=
  match vc.mapChannels.lookup frame.getMAPId with
  | none => (CCSDSReturnValuesIF.vcNotFound, env)
  | some object => I.extractPackets object frame env

def handleBDFrame (vc : VirtualChannelReception μ) (_frame : TcTransferFrame) (clcw : Clcw) :
    Farm1Result μ :=
  ({ vc with farmBCounter := vc.farmBCounter + 1 }, clcw, .ok)

def handleBCFrame (vc : VirtualChannelReception μ) (frame : TcTransferFrame) (clcw : Clcw) :
    Farm1Result μ :=
  match BcFrame.initializeContent {} frame.getFullDataField frame.getFullDataLength with
  | (content, returnValue) =>
      if returnValue = CCSDSReturnValuesIF.bcIsUnlockCommand then
        vc.handleBCUnlockCommand clcw
      else if returnValue = CCSDSReturnValuesIF.bcIsSetVrCommand then
        vc.handleBCSetVrCommand clcw content.vR
      else
        (vc, clcw, returnValue)

abbrev adFrame : UInt8 := 0b00

abbrev bcFrame : UInt8 := 0b11

abbrev bdFrame : UInt8 := 0b10

/-- The type of a frame, made of its bypass flag and its control command flag. -/
def typeValue (frame : TcTransferFrame) : UInt8 :=
  (frame.bypassFlagSet.toUInt8 <<< 1) + frame.controlCommandFlagSet.toUInt8

def doFARM (vc : VirtualChannelReception μ) (frame : TcTransferFrame) (clcw : Clcw) :
    Farm1Result μ :=
  if typeValue frame = adFrame then
    vc.handleADFrame frame clcw
  else if typeValue frame = bdFrame then
    vc.handleBDFrame frame clcw
  else if typeValue frame = bcFrame then
    vc.handleBCFrame frame clcw
  else
    (vc, clcw, CCSDSReturnValuesIF.illegalFlagCombination)

/-- The part of the reception of a frame before it is demultiplexed: the machine handles the
frame, and its numbers are put into the control word. The machine writes to the internal
control word of the channel. -/
def farm (vc : VirtualChannelReception μ) (frame : TcTransferFrame) :
    VirtualChannelReception μ × ReturnValue :=
  match vc.doFARM frame vc.internalClcw with
  | (vc, clcw, result) =>
      ({ vc with internalClcw :=
          (clcw.setReceiverFrameSequenceNumber vc.vR).setFarmBCount vc.farmBCounter }, result)

/-- Receive a frame: give it to the machine, report the state in `clcw`, and hand an
accepted frame on to its map channel. -/
def frameAcceptanceAndReportingMechanism
    (I : MapPacketExtractionIF μ σ) (vc : VirtualChannelReception μ) (frame : TcTransferFrame)
    (clcw : Clcw) (env : σ) : VirtualChannelReception μ × Clcw × ReturnValue × σ :=
  match vc.farm frame with
  | (vc, result) =>
      let clcw := clcw.setWhole vc.internalClcw.getAsWhole
      if result = .ok then
        match vc.mapDemultiplexing I frame env with
        | (result, env) => (vc, clcw, result, env)
      else if result = CCSDSReturnValuesIF.bcIsSetVrCommand ∨
          result = CCSDSReturnValuesIF.bcIsUnlockCommand then
        (vc, clcw, .ok, env)
      else
        (vc, clcw, result, env)

def setToWaitState (vc : VirtualChannelReception μ) : VirtualChannelReception μ :=
  { vc with internalClcw := vc.internalClcw.setWaitFlag true, currentState := .waitState }

end VirtualChannelReception
