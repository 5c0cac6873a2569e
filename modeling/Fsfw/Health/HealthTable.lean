import Fsfw.Ipc.MessageQueueIF

/-!
# The health of objects

A table has the health of the objects that have been registered.
-/

inductive HealthState where
  | faulty
  | healthy
  | externalControl
  | needsRecovery
  | permanentFaulty
  deriving DecidableEq, Repr

/-- The number of a health state, which events have as a parameter. -/
def HealthState.toUInt32 : HealthState → UInt32
  | .faulty => 0
  | .healthy => 1
  | .externalControl => 2
  | .needsRecovery => 3
  | .permanentFaulty => 4

def HealthState.isFaulty : HealthState → Bool
  | faulty | permanentFaulty | needsRecovery => true
  | healthy | externalControl => false

/-- The health of the objects that have one. -/
abbrev HealthTable := ObjectId → Option HealthState

namespace HealthTable

variable (healthTable : HealthTable) (object : ObjectId)

def hasHealth : Bool :=
  (healthTable object).isSome

/-- An object that has no health counts as healthy. -/
def getHealth : HealthState :=
  (healthTable object).getD .healthy

def isFaulty : Bool :=
  match healthTable.getHealth object with
  | .faulty | .permanentFaulty | .needsRecovery => true
  | .healthy | .externalControl => false

def isCommandable : Bool :=
  healthTable.getHealth object ≠ .externalControl

end HealthTable
