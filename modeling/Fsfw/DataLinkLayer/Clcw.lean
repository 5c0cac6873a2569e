import Mathlib

/-!
# The communications link control word

The word a virtual channel reports its state with has four bytes.  The third one holds the
flags and the FARM-B counter, each setter of which leaves the other bits alone.
-/

/-- The four bytes of the control word. -/
structure Clcw where
  status : UInt8
  virtualChannelIdSpare : UInt8
  flags : UInt8
  vRValue : UInt8
  deriving DecidableEq, Repr

namespace Clcw

abbrev statusFieldDefault : UInt8 := 0b00000001

abbrev lockoutFlagPosition : UInt8 := 5

abbrev waitFlagPosition : UInt8 := 4

abbrev retransmitFlagPosition : UInt8 := 3

abbrev lockoutFlagMask : UInt8 := (0xFF : UInt8) ^^^ ((1 : UInt8) <<< lockoutFlagPosition)

abbrev waitFlagMask : UInt8 := (0xFF : UInt8) ^^^ ((1 : UInt8) <<< waitFlagPosition)

abbrev retransmitFlagMask : UInt8 := (0xFF : UInt8) ^^^ ((1 : UInt8) <<< retransmitFlagPosition)

abbrev farmBCountMask : UInt8 := 0b11111001

/-- The word with everything at its default. -/
def new : Clcw where
  status := statusFieldDefault
  virtualChannelIdSpare := 0
  flags := 0
  vRValue := 0

section

variable (clcw : Clcw)

def setVirtualChannel (channel : UInt8) : Clcw :=
  { clcw with virtualChannelIdSpare := (channel &&& 0x3F) <<< 2 }

def setLockoutFlag (lockout : Bool) : Clcw :=
  { clcw with flags :=
      (clcw.flags &&& lockoutFlagMask) ||| (lockout.toUInt8 <<< lockoutFlagPosition) }

def setWaitFlag (waitFlag : Bool) : Clcw :=
  { clcw with flags :=
      (clcw.flags &&& waitFlagMask) ||| (waitFlag.toUInt8 <<< waitFlagPosition) }

def setRetransmitFlag (retransmitFlag : Bool) : Clcw :=
  { clcw with flags :=
      (clcw.flags &&& retransmitFlagMask) |||
        (retransmitFlag.toUInt8 <<< retransmitFlagPosition) }

def setFarmBCount (count : UInt8) : Clcw :=
  { clcw with flags := (clcw.flags &&& farmBCountMask) ||| ((count &&& 0x03) <<< 1) }

def setReceiverFrameSequenceNumber (vR : UInt8) : Clcw :=
  { clcw with vRValue := vR }

/-- The whole word is read and written as the four bytes it is made of. -/
def getAsWhole : Clcw := clcw

def setWhole (_clcw rawClcw : Clcw) : Clcw := rawClcw

/-- The lockout flag is set. -/
def lockoutFlag : Bool := clcw.flags.toBitVec.getLsbD 5

/-- The wait flag is set. -/
def waitFlag : Bool := clcw.flags.toBitVec.getLsbD 4

end

/-! ### What the setters do to the flags -/

@[simp]
theorem lockoutFlag_setLockoutFlag (clcw : Clcw) (lockout : Bool) :
  (clcw.setLockoutFlag lockout).lockoutFlag = lockout
  := by
  cases lockout <;> simp [setLockoutFlag, lockoutFlag]

@[simp]
theorem waitFlag_setLockoutFlag (clcw : Clcw) (lockout : Bool) :
  (clcw.setLockoutFlag lockout).waitFlag = clcw.waitFlag
  := by
  cases lockout <;> simp [setLockoutFlag, waitFlag]

@[simp]
theorem lockoutFlag_setWaitFlag (clcw : Clcw) (wait : Bool) :
  (clcw.setWaitFlag wait).lockoutFlag = clcw.lockoutFlag
  := by
  cases wait <;> simp [setWaitFlag, lockoutFlag]

@[simp]
theorem waitFlag_setWaitFlag (clcw : Clcw) (wait : Bool) :
  (clcw.setWaitFlag wait).waitFlag = wait
  := by
  cases wait <;> simp [setWaitFlag, waitFlag]

@[simp]
theorem lockoutFlag_setRetransmitFlag (clcw : Clcw) (retransmit : Bool) :
  (clcw.setRetransmitFlag retransmit).lockoutFlag = clcw.lockoutFlag
  := by
  cases retransmit <;> simp [setRetransmitFlag, lockoutFlag]

@[simp]
theorem waitFlag_setRetransmitFlag (clcw : Clcw) (retransmit : Bool) :
  (clcw.setRetransmitFlag retransmit).waitFlag = clcw.waitFlag
  := by
  cases retransmit <;> simp [setRetransmitFlag, waitFlag]

@[simp]
theorem lockoutFlag_setFarmBCount (clcw : Clcw) (count : UInt8) :
  (clcw.setFarmBCount count).lockoutFlag = clcw.lockoutFlag
  := by
  simp [setFarmBCount, lockoutFlag]

@[simp]
theorem waitFlag_setFarmBCount (clcw : Clcw) (count : UInt8) :
  (clcw.setFarmBCount count).waitFlag = clcw.waitFlag
  := by
  simp [setFarmBCount, waitFlag]

@[simp]
theorem lockoutFlag_setReceiverFrameSequenceNumber (clcw : Clcw) (vR : UInt8) :
  (clcw.setReceiverFrameSequenceNumber vR).lockoutFlag = clcw.lockoutFlag
  := by
  simp [setReceiverFrameSequenceNumber, lockoutFlag]

@[simp]
theorem waitFlag_setReceiverFrameSequenceNumber (clcw : Clcw) (vR : UInt8) :
  (clcw.setReceiverFrameSequenceNumber vR).waitFlag = clcw.waitFlag
  := by
  simp [setReceiverFrameSequenceNumber, waitFlag]

end Clcw
