import Fsfw.TimeManager.Countdown

/-!
# Fault counters

A fault counter is incremented with every fault, and decremented when its timer has run out.  When
it gets above its threshold it starts from zero again.
-/

structure FaultCounter where
  timer : Countdown
  faultCount : UInt32
  failureThreshold : UInt32
  deriving DecidableEq, Repr

namespace FaultCounter

def new (failureThreshold decrementAfterMs currentTime : UInt32) : FaultCounter where
  timer := .setTimeout currentTime decrementAfterMs
  faultCount := 0
  failureThreshold := failureThreshold

def increment (counter : FaultCounter) (currentTime : UInt32) : FaultCounter :=
  { counter with
    timer := if counter.faultCount = 0 then counter.timer.resetTimer currentTime else counter.timer
    faultCount := counter.faultCount + 1 }

def checkForDecrement (counter : FaultCounter) (currentTime : UInt32) : Bool × FaultCounter :=
  if counter.timer.hasTimedOut currentTime then
    let counter := { counter with timer := counter.timer.resetTimer currentTime }
    if counter.faultCount > 0 then
      (true, { counter with faultCount := counter.faultCount - 1 })
    else
      (false, counter)
  else
    (false, counter)

def aboveThreshold (counter : FaultCounter) : Bool × FaultCounter :=
  if counter.faultCount > counter.failureThreshold then
    (true, { counter with faultCount := 0 })
  else
    (false, counter)

def incrementAndCheck (counter : FaultCounter) (currentTime : UInt32) : Bool × FaultCounter :=
  (counter.increment currentTime).aboveThreshold

def clear (counter : FaultCounter) : FaultCounter :=
  { counter with faultCount := 0 }

variable {counter : FaultCounter} {currentTime : UInt32}

@[simp]
theorem failureThreshold_incrementAndCheck :
  (counter.incrementAndCheck currentTime).2.failureThreshold = counter.failureThreshold
  := by
  rw [incrementAndCheck, aboveThreshold]
  split <;> rfl

@[simp]
theorem failureThreshold_checkForDecrement :
  (counter.checkForDecrement currentTime).2.failureThreshold = counter.failureThreshold
  := by
  rw [checkForDecrement]
  split
  · dsimp only
    split <;> rfl
  · rfl

/-- A counter that does not get above its threshold counts one more. -/
theorem faultCount_incrementAndCheck (hbelow : (counter.incrementAndCheck currentTime).1 = false)
    (hcount : counter.faultCount ≤ counter.failureThreshold)
    (hthreshold : counter.failureThreshold.toNat + 1 < 2 ^ 32) :
  (counter.incrementAndCheck currentTime).2.faultCount.toNat = counter.faultCount.toNat + 1 ∧
    (counter.incrementAndCheck currentTime).2.faultCount ≤ counter.failureThreshold
  := by
  rw [UInt32.le_iff_toNat_le] at hcount
  rw [incrementAndCheck, aboveThreshold] at hbelow ⊢
  split at hbelow
  · cases hbelow
  · rename_i h
    rw [if_neg h]
    constructor
    · change (counter.faultCount + 1).toNat = _
      rw [UInt32.toNat_add, UInt32.toNat_one, Nat.mod_eq_of_lt]
      omega
    · apply UInt32.not_lt.mp h

/-- A counter that gets above its threshold starts from zero. -/
theorem faultCount_incrementAndCheck_above
    (habove : (counter.incrementAndCheck currentTime).1 = true) :
  (counter.incrementAndCheck currentTime).2.faultCount = 0
  := by
  rw [incrementAndCheck, aboveThreshold] at habove ⊢
  split at habove
  · rename_i h
    rw [if_pos h]
  · cases habove

/-- The count stays when it is not decremented. -/
theorem faultCount_checkForDecrement (h : (counter.checkForDecrement currentTime).1 = false) :
  (counter.checkForDecrement currentTime).2.faultCount = counter.faultCount
  := by
  rw [checkForDecrement] at h ⊢
  split at h
  · rename_i htimeout
    rw [if_pos htimeout]
    dsimp only at h ⊢
    split at h
    · cases h
    · rename_i hpositive
      rw [if_neg hpositive]
  · rename_i htimeout
    rw [if_neg htimeout]

/-- The count does not grow by decrements. -/
theorem faultCount_checkForDecrement_le :
  (counter.checkForDecrement currentTime).2.faultCount ≤ counter.faultCount
  := by
  cases hdecrement : (counter.checkForDecrement currentTime).1 with
  | false =>
      rw [UInt32.le_iff_toNat_le]
      apply Nat.le_of_eq
      rw [faultCount_checkForDecrement hdecrement]
  | true =>
      rw [checkForDecrement] at hdecrement ⊢
      split at hdecrement
      · rename_i htimeout
        rw [if_pos htimeout]
        dsimp only at hdecrement ⊢
        split at hdecrement
        · rename_i hpositive
          rw [if_pos hpositive]
          dsimp only
          rw [UInt32.le_iff_toNat_le, UInt32.toNat_sub_of_le]
          · apply Nat.sub_le
          · rw [gt_iff_lt, UInt32.lt_iff_toNat_lt] at hpositive
            rw [UInt32.le_iff_toNat_le]
            apply hpositive
        · cases hdecrement
      · cases hdecrement

end FaultCounter
