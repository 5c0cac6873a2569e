import Fsfw.Ipc.MessageQueueIF
import Fsfw.ReturnValues

/-!
# Mode messages

The commands and replies about the modes of objects.
-/

abbrev Mode := UInt32

abbrev Submode := UInt8

namespace HasModesIF

def modeOff : Mode := 0

def modeOn : Mode := 1

def submodeNone : Submode := 0

end HasModesIF

/-- Any other command keeps its number. -/
inductive ModeMessage where
  | modeCommand (mode : Mode) (submode : Submode)
  | modeCommandForced (mode : Mode) (submode : Submode)
  | modeRead
  | modeAnnounce
  | modeAnnounceRecursively
  | modeReply (mode : Mode) (submode : Submode)
  | modeInfo (mode : Mode) (submode : Submode)
  | cantReachMode (reason : ReturnValue)
  | wrongModeReply (mode : Mode) (submode : Submode)
  | other (command : UInt16)
  deriving DecidableEq, Repr
