import Fsfw.Library.Run
import Fsfw.TmTcPacket.SpacePacketCreator

/-!
# The source sequence counter

The counter holds a word of 16 bits.  `increment`, `decrement` and `reset` take the remainder
modulo `LIMIT_SEQUENCE_COUNT`, the assignment of a number does not.  The remainders are computed
with signed integers, where the remainder of a negative number is not positive: from zero,
`decrement` goes to 65535.

The word is always congruent to the expected count (`run_congruent`).  It stays below the limit as
long as no expected count of zero is decremented, and no number from the limit on is assigned
(`SourceSequenceCounter.always_counts_iff`).
-/

structure SourceSequenceCounter where
  sequenceCount : UInt16 := 0
  deriving DecidableEq, Repr

namespace SourceSequenceCounter

/-- The remainder of a signed integer by the limit, stored in a word. -/
def storeRemainder (count : ℤ) : SourceSequenceCounter where
  sequenceCount := UInt16.ofInt (count.tmod Ccsds.limitSequenceCount.toNat)

def increment (c : SourceSequenceCounter) : SourceSequenceCounter :=
  storeRemainder (c.sequenceCount.toNat + 1)

def decrement (c : SourceSequenceCounter) : SourceSequenceCounter :=
  storeRemainder (c.sequenceCount.toNat - 1)

def get (c : SourceSequenceCounter) : UInt16 :=
  c.sequenceCount

def reset (_ : SourceSequenceCounter) (toValue : UInt16) : SourceSequenceCounter :=
  storeRemainder toValue.toNat

/-- The assignment of a number. -/
def assign (_ : SourceSequenceCounter) (newCount : UInt16) : SourceSequenceCounter where
  sequenceCount := newCount

/-- A call of a counter. -/
inductive Call where
  | increment
  | decrement
  | postfixIncrement
  | postfixDecrement
  | reset (toValue : UInt16)
  | assign (newCount : UInt16)
  deriving DecidableEq, Repr

def call (c : SourceSequenceCounter) : Call → SourceSequenceCounter
  | .increment | .postfixIncrement => c.increment
  | .decrement | .postfixDecrement => c.decrement
  | .reset toValue => c.reset toValue
  | .assign newCount => c.assign newCount

/-! ### The expected count -/

/-- What has been done to a counter: the value that was set last, and the numbers of increments and
decrements since then. -/
structure Account where
  lastSet : UInt16
  increments : ℕ := 0
  decrements : ℕ := 0

namespace Account

def record (a : Account) : Call → Account
  | .increment | .postfixIncrement => { a with increments := a.increments + 1 }
  | .decrement | .postfixDecrement => { a with decrements := a.decrements + 1 }
  | .reset toValue => { lastSet := toValue }
  | .assign newCount => { lastSet := newCount }

/-- The value set last plus the increments minus the decrements, without a modulus. -/
def balance (a : Account) : ℤ :=
  a.lastSet.toNat + a.increments - a.decrements

/-- The expected count. -/
def count (a : Account) : ℤ :=
  a.balance % 2 ^ 14

end Account

/-- Calls of a counter, which are entered into its account. -/
def step : Step (SourceSequenceCounter × Account) Call Unit :=
  fun s c => some ((s.1.call c, s.2.record c), ())

/-- A creator of space packets takes the sequence count over, whatever count it had before. -/
def Accepted (seqCount : UInt16) : Prop :=
  ∀ creator : SpacePacketCreator,
    (creator.setSeqCount seqCount).params.packetSeqCtrl.seqCount = seqCount

/-- The count is below the limit, it is the expected one, and it is accepted as a sequence count. -/
structure Counts (s : SourceSequenceCounter × Account) : Prop where
  lt_limit : s.1.get < Ccsds.limitSequenceCount
  get_eq : (s.1.get.toNat : ℤ) = s.2.count
  accepted : Accepted s.1.get

/-- The expected count is not zero where it is decremented, and an assigned number is below the
limit. -/
def StaysInRange (s : SourceSequenceCounter × Account) : Call → Prop
  | .decrement | .postfixDecrement => s.2.count ≠ 0
  | .assign newCount => newCount < Ccsds.limitSequenceCount
  | .increment | .postfixIncrement | .reset _ => True

/-! ### The stored word -/

theorem toNat_ofInt (n : ℤ) :
  ((UInt16.ofInt n).toNat : ℤ) = n % 2 ^ 16
  := by
  have hnonneg : 0 ≤ n % 2 ^ 16 := Int.emod_nonneg n (by simp)
  have hlt : n % 2 ^ 16 < 2 ^ 16 := Int.emod_lt_of_pos n (by simp)
  rw [UInt16.ofInt, UInt16.toNat_ofNat']
  omega

theorem toNat_limitSequenceCount :
  Ccsds.limitSequenceCount.toNat = 2 ^ 14
  := rfl

theorem toNat_storeRemainder (n : ℤ) :
  ((storeRemainder n).get.toNat : ℤ) = n.tmod (2 ^ 14) % 2 ^ 16
  := by
  rw [get, storeRemainder, toNat_ofInt, toNat_limitSequenceCount]
  rfl

/-- The stored word is congruent to the number. -/
theorem storeRemainder_emod (n : ℤ) :
  ((storeRemainder n).get.toNat : ℤ) % 2 ^ 14 = n % 2 ^ 14
  := by
  rw [toNat_storeRemainder, Int.emod_emod_of_dvd _ (by decide)]
  have h := Int.mul_tdiv_add_tmod n (2 ^ 14)
  omega

theorem storeRemainder_lt_iff {n : ℤ} (h : -(2 ^ 14) < n) :
  (storeRemainder n).get < Ccsds.limitSequenceCount ↔ 0 ≤ n
  := by
  have hget := toNat_storeRemainder n
  rw [UInt16.lt_iff_toNat_lt, toNat_limitSequenceCount]
  rcases Int.lt_or_le n 0 with hneg | hnonneg
  · have htmod : n.tmod (2 ^ 14) = n := by
      rw [← Int.neg_neg n, Int.neg_tmod, Int.tmod_eq_of_lt] <;> omega
    omega
  · rw [Int.tmod_eq_emod_of_nonneg hnonneg] at hget
    omega

/-! ### One call -/

section

variable {s : SourceSequenceCounter × Account}

/-- The word is congruent to the expected count. -/
def Congruent (s : SourceSequenceCounter × Account) : Prop :=
  (s.1.get.toNat : ℤ) % 2 ^ 14 = s.2.count

theorem Congruent.call (h : Congruent s) (c : Call) :
  Congruent (s.1.call c, s.2.record c)
  := by
  have hbalance : (s.1.sequenceCount.toNat : ℤ) % 2 ^ 14 = s.2.balance % 2 ^ 14 := h
  rw [Congruent, Account.count]
  cases c with
  | increment | postfixIncrement =>
      simp only [SourceSequenceCounter.call, increment, storeRemainder_emod]
      simp only [Account.record, Account.balance] at hbalance ⊢
      omega
  | decrement | postfixDecrement =>
      simp only [SourceSequenceCounter.call, decrement, storeRemainder_emod]
      simp only [Account.record, Account.balance] at hbalance ⊢
      omega
  | reset toValue =>
      simp only [SourceSequenceCounter.call, reset, storeRemainder_emod]
      simp [Account.record, Account.balance]
  | assign newCount =>
      simp [SourceSequenceCounter.call, assign, get, Account.record, Account.balance]

theorem accepted_of_lt {seqCount : UInt16} (h : seqCount < Ccsds.limitSequenceCount) :
  Accepted seqCount
  := by
  intro creator
  rw [SpacePacketCreator.setSeqCount, if_pos h]
  rfl

theorem counts_iff (h : Congruent s) :
  Counts s ↔ s.1.get < Ccsds.limitSequenceCount
  := by
  constructor
  · intro hcounts
    apply hcounts.lt_limit
  · intro hlt
    use hlt
    · have hnat : s.1.get.toNat < 2 ^ 14 := UInt16.lt_iff_toNat_lt.mp hlt
      rw [Congruent] at h
      omega
    · apply accepted_of_lt hlt

theorem Counts.congruent (h : Counts s) :
  Congruent s
  := by
  rw [Congruent, h.get_eq, Account.count, Int.emod_emod]

/-- A call keeps the count below the limit exactly when it stays in range. -/
theorem call_lt_iff (h : Counts s) (c : Call) :
  (s.1.call c).get < Ccsds.limitSequenceCount ↔ StaysInRange s c
  := by
  have hget : (s.1.sequenceCount.toNat : ℤ) = s.2.count := h.get_eq
  cases c with
  | increment | postfixIncrement =>
      rw [SourceSequenceCounter.call, increment, storeRemainder_lt_iff (by omega), StaysInRange]
      simp only [iff_true]
      omega
  | decrement | postfixDecrement =>
      rw [SourceSequenceCounter.call, decrement, storeRemainder_lt_iff (by omega), StaysInRange,
        ← hget]
      omega
  | reset toValue =>
      rw [SourceSequenceCounter.call, reset, storeRemainder_lt_iff (by omega), StaysInRange]
      simp only [iff_true]
      omega
  | assign newCount =>
      rfl

end

/-! ### Runs -/

/-- In every run the word stays congruent to the expected count. -/
theorem run_congruent
    {s s' : SourceSequenceCounter × Account} {calls : List Call} {os : List Unit}
    (h : Congruent s) (hrun : Step.run step s calls = some (s', os)) :
  Congruent s'
  := by
  apply Step.run_preserves (I := Congruent) _ h hrun
  rintro s c _ _ hs ⟨⟩
  apply hs.call

/-- From a count below the limit, the counter counts modulo `2 ^ 14` exactly as long as its calls
stay in range. -/
theorem always_counts_iff {initial : UInt16} (h : initial < Ccsds.limitSequenceCount)
    (calls : List Call) :
  Step.Always step Counts ({ sequenceCount := initial }, { lastSet := initial }) calls
    ↔ Step.Along step StaysInRange ({ sequenceCount := initial }, { lastSet := initial }) calls
  := by
  apply Step.always_iff_along
  · intro s c hs
    rw [← call_lt_iff hs, ← counts_iff (hs.congruent.call c)]
    constructor
    · intro hcounts
      apply hcounts _ _ rfl
    · rintro hcounts _ _ ⟨⟩
      exact hcounts
  · have hcongruent : Congruent ({ sequenceCount := initial }, { lastSet := initial }) := by
      simp [Congruent, get, Account.count, Account.balance]
    apply (counts_iff hcongruent).mpr h

/-- A decrement and an increment of the count zero.  The first one leaves the range. -/
theorem always_counts_iff_decrement :
  Step.Always step Counts ({ sequenceCount := 0 }, { lastSet := 0 }) [.decrement, .increment]
    ↔ Step.Along step StaysInRange ({ sequenceCount := 0 }, { lastSet := 0 })
        [.decrement, .increment]
  := always_counts_iff (by decide) [.decrement, .increment]

theorem not_always_counts :
  ¬ ∀ (initial : UInt16) (calls : List Call), initial < Ccsds.limitSequenceCount →
    Step.Always step Counts ({ sequenceCount := initial }, { lastSet := initial }) calls
  := by
  intro h
  have hcounts := h 0 [.decrement] (by decide) [.decrement] List.prefix_rfl _ _ rfl
  have hlt := hcounts.lt_limit
  revert hlt
  decide

end SourceSequenceCounter
