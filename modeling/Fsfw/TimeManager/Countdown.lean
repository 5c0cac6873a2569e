import Mathlib

/-!
# Countdowns

A countdown knows when it has been started, and when it times out.  Times are milliseconds since
the system was started.
-/

structure Countdown where
  startTime : UInt32
  timeout : UInt32
  deriving DecidableEq, Repr

namespace Countdown

def setTimeout (currentTime milliseconds : UInt32) : Countdown :=
  ⟨currentTime, milliseconds⟩

def resetTimer (countdown : Countdown) (currentTime : UInt32) : Countdown :=
  setTimeout currentTime countdown.timeout

def timeOut (countdown : Countdown) (currentTime : UInt32) : Countdown :=
  { countdown with startTime := currentTime - countdown.timeout }

def hasTimedOut (countdown : Countdown) (currentTime : UInt32) : Bool :=
  countdown.timeout ≤ currentTime - countdown.startTime

end Countdown
