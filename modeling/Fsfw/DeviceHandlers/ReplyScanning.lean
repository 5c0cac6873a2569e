import Fsfw.DeviceHandlers.DeviceHandlerBase

/-!
# Scanning for replies

The rounds of parsing should follow each other through the received bytes.  The first round scans
all bytes, and each round scans the rest of the bytes behind what the round before it has found: one
byte further if nothing was found, and otherwise as many bytes further as the child class tells.  A
reply that is handed on should lie inside the received bytes (`Scans`).  Parsing may stop at the end
of the bytes, when the child class ignores the rest, and after as many rounds as there are bytes.

A position moves on by the length alone that the child class leaves in its variable, and not at all
when the child class ignores a part of the bytes.  So this holds exactly when there are less than
`2 ^ 32` bytes, the child class reports the length one when it finds nothing, and the length zero
when it ignores a part of the bytes, and never leaves a length from an earlier round that is too
long for the rest of the bytes (`parsesAll_iff`).
-/

namespace DeviceHandlerBase

variable {σ : Type*} {C : DeviceHandlerChild σ} {receivedData : List UInt8}

namespace ParseRound

/-- How many bytes further the next scan should start. -/
def advance (round : ParseRound) : ℕ :=
  if round.result = .failed then 1 else round.foundLen

/-- The reply that was found is handed on. -/
def HandsOn (round : ParseRound) : Prop :=
  round.result ≠ ignoreReplyData ∧ round.result ≠ ignoreFullPacket

end ParseRound

/-- The rounds scan `length` bytes from a position on, and `left` more rounds are allowed. -/
def Scans (length : ℕ) : ℕ → ℕ → List ParseRound → Prop
  | left, position, [] => left = 0 ∨ length ≤ position
  | 0, _, _ :: _ => False
  | left + 1, position, round :: rounds =>
      round.position = position ∧ position + round.remainingLength = length ∧
      (round.HandsOn → round.foundLen ≤ round.remainingLength) ∧
      if round.result = ignoreFullPacket then rounds = []
      else Scans length left (position + round.advance) rounds

theorem scans_nil_iff {length left position : ℕ} :
  Scans length left position [] ↔ left = 0 ∨ length ≤ position
  := by
  cases left with
  | zero => rfl
  | succ left => rfl

theorem scans_cons_inv {length left position : ℕ} {round : ParseRound} {rounds : List ParseRound}
    (h : Scans length left position (round :: rounds)) :
  round.position = position ∧ position + round.remainingLength = length
  := by
  obtain _ | left := left
  · cases h
  · exact ⟨h.1, h.2.1⟩

/-- Scanning moves on only. -/
theorem Scans.position_le {length left position : ℕ} {rounds : List ParseRound}
    (h : Scans length left position rounds) :
  ∀ round ∈ rounds, position ≤ round.position
  := by
  induction rounds generalizing left position with
  | nil =>
      intro round hmem
      cases hmem
  | cons first rounds ih =>
      obtain _ | left := left
      · cases h
      obtain ⟨rfl, -, -, hrest⟩ := h
      intro round hmem
      obtain _ | ⟨_, hmem⟩ := hmem
      · apply Nat.le_refl
      split_ifs at hrest
      · subst hrest
        cases hmem
      · apply Nat.le_trans _ (ih hrest round hmem)
        apply Nat.le_add_right

/-- No byte belongs to two replies that are handed on. -/
theorem Scans.pairwise {length left position : ℕ} {rounds : List ParseRound}
    (h : Scans length left position rounds) :
  rounds.Pairwise fun round later =>
    round.HandsOn → round.result ≠ .failed → round.position + round.foundLen ≤ later.position
  := by
  induction rounds generalizing left position with
  | nil =>
      apply List.Pairwise.nil
  | cons first rounds ih =>
      obtain _ | left := left
      · cases h
      obtain ⟨rfl, -, -, hrest⟩ := h
      split_ifs at hrest with hfull
      · subst hrest
        apply List.pairwise_singleton
      apply List.Pairwise.cons _ (ih hrest)
      intro later hmem _ hfound
      have hle := hrest.position_le later hmem
      rwa [ParseRound.advance, if_neg hfound] at hle

/-! ### Rounds -/

namespace ParseState

variable {S T : ParseState σ}

/-- The round that a state of the variables leads to. -/
def round (C : DeviceHandlerChild σ) (receivedData : List UInt8) (S : ParseState σ) :
    ParseRound where
  position := S.position
  remainingLength := S.remainingLength.toNat
  result := (S.scan C receivedData).1
  foundLen := (S.scan C receivedData).2.2.1

/-- The loop goes on with other variables. -/
def Goes (C : DeviceHandlerChild σ) (receivedData : List UInt8) (S T : ParseState σ) : Prop :=
  S.count.toNat < receivedData.length ∧ (S.parseRound C receivedData).2 = .inl T

/-- The variables that the loop gets to. -/
def Reaches (C : DeviceHandlerChild σ) (receivedData : List UInt8) :
    ParseState σ → ParseState σ → Prop :=
  Relation.ReflTransGen (Goes C receivedData)

/-- The length that the child class leaves fits into the rest of the bytes, if a reply is handed on;
and unless this is the last round that is allowed, it is zero if a part of the bytes is ignored, and
one if nothing was found. -/
def Advances (C : DeviceHandlerChild σ) (receivedData : List UInt8) (S : ParseState σ) : Prop :=
  let (result, _, foundLen, _) := S.scan C receivedData
  (result ≠ ignoreReplyData → result ≠ ignoreFullPacket → foundLen ≤ S.remainingLength.toNat) ∧
  (S.count.toNat + 1 < receivedData.length →
    (result = ignoreReplyData → foundLen = 0) ∧ (result = .failed → foundLen = 1))

theorem advances_iff :
  S.Advances C receivedData ↔
    ((S.round C receivedData).HandsOn →
      (S.round C receivedData).foundLen ≤ S.remainingLength.toNat) ∧
    (S.count.toNat + 1 < receivedData.length →
      ((S.round C receivedData).result = ignoreReplyData → (S.round C receivedData).foundLen = 0) ∧
      ((S.round C receivedData).result = .failed → (S.round C receivedData).foundLen = 1))
  := by
  rw [ParseRound.HandsOn, and_imp]
  rfl

/-- What a round can do. -/
theorem parseRound_cases (C : DeviceHandlerChild σ) (receivedData : List UInt8)
    (S : ParseState σ) :
  (S.parseRound C receivedData).1 = S.round C receivedData ∧
  (((S.round C receivedData).result = ignoreReplyData ∧
      ∃ T, (S.parseRound C receivedData).2 = .inl T ∧ T.count = S.count + 1 ∧
        T.position = S.position ∧ T.remainingLength = S.remainingLength) ∨
    ((S.round C receivedData).HandsOn ∧
      (S.round C receivedData).foundLen < S.remainingLength.toNat ∧
      ∃ T, (S.parseRound C receivedData).2 = .inl T ∧ T.count = S.count + 1 ∧
        T.position = S.position + (S.round C receivedData).foundLen ∧
        T.remainingLength = S.remainingLength - .ofNat (S.round C receivedData).foundLen) ∨
    (((S.round C receivedData).result = ignoreFullPacket ∨
        (S.round C receivedData).HandsOn ∧
          S.remainingLength.toNat ≤ (S.round C receivedData).foundLen) ∧
      ∃ D, (S.parseRound C receivedData).2 = .inr D))
  := by
  simp only [parseRound, round, ParseRound.HandsOn]
  obtain ⟨result, foundId, foundLen, D⟩ := S.scan C receivedData
  by_cases hignore : result = ignoreReplyData
  · rw [if_pos hignore]
    use rfl
    exact .inl ⟨hignore, _, rfl, rfl, rfl, rfl⟩
  rw [if_neg hignore]
  by_cases hfull : result = ignoreFullPacket
  · rw [if_pos hfull]
    use rfl
    exact .inr (.inr ⟨.inl hfull, _, rfl⟩)
  rw [if_neg hfull]
  by_cases hlen : S.remainingLength.toNat > foundLen
  · rw [if_pos hlen]
    use rfl
    exact .inr (.inl ⟨⟨hignore, hfull⟩, hlen, _, rfl, rfl, rfl, rfl⟩)
  · rw [if_neg hlen]
    use rfl
    exact .inr (.inr ⟨.inr ⟨⟨hignore, hfull⟩, Nat.le_of_not_lt hlen⟩, _, rfl⟩)

/-- The rest of the bytes is at the position. -/
structure Remains (receivedData : List UInt8) (S : ParseState σ) : Prop where
  position_add : S.position + S.remainingLength.toNat = receivedData.length
  remaining_pos : S.count.toNat < receivedData.length → 0 < S.remainingLength.toNat
  length_lt : receivedData.length < 2 ^ 32

theorem Remains.goes (h : S.Remains receivedData) (hgoes : Goes C receivedData S T) :
  T.Remains receivedData ∧ T.count.toNat = S.count.toNat + 1
  := by
  obtain ⟨hposition, hpos, hlength⟩ := h
  obtain ⟨hcount, hgoes⟩ := hgoes
  have hnext : (S.count + 1).toNat = S.count.toNat + 1 := by
    rw [UInt32.toNat_add, UInt32.toNat_one]
    apply Nat.mod_eq_of_lt
    omega
  obtain ⟨-, ⟨-, T', hT, hcount', hposition', hremaining'⟩ |
    ⟨-, hlen, T', hT, hcount', hposition', hremaining'⟩ | ⟨-, D, hD⟩⟩ :=
      parseRound_cases C receivedData S
  · cases hT.symm.trans hgoes
    rw [hcount']
    constructor
    · constructor
      · rwa [hposition', hremaining']
      · intro _
        rw [hremaining']
        exact hpos hcount
      · exact hlength
    · exact hnext
  · cases hT.symm.trans hgoes
    have hsub : T.remainingLength.toNat
        = S.remainingLength.toNat - (S.round C receivedData).foundLen := by
      have hof : (UInt32.ofNat (S.round C receivedData).foundLen).toNat
          = (S.round C receivedData).foundLen := by
        apply UInt32.toNat_ofNat_of_lt'
        exact Nat.lt_trans hlen (UInt32.toNat_lt _)
      rw [hremaining', UInt32.toNat_sub_of_le]
      · rw [hof]
      · rw [UInt32.le_iff_toNat_le, hof]
        exact Nat.le_of_lt hlen
    rw [hcount']
    constructor
    · constructor
      · omega
      · omega
      · exact hlength
    · exact hnext
  · cases hD.symm.trans hgoes

theorem reaches_iff :
  Reaches C receivedData S T ↔ S = T ∨ ∃ U, Goes C receivedData S U ∧ Reaches C receivedData U T
  := Relation.ReflTransGen.cases_head_iff

end ParseState

open ParseState

/-! ### Runs of the loop -/

theorem parseLoop_of_returns {S : ParseState σ} {D : DeviceHandlerBase σ} (fuel : ℕ)
    (hcount : S.count.toNat < receivedData.length) (h : (S.parseRound C receivedData).2 = .inr D) :
  parseLoop C receivedData (fuel + 1) S = some ([S.round C receivedData], D)
  := by
  rw [parseLoop, if_pos hcount, ← (parseRound_cases C receivedData S).1, ← Prod.mk.eta
    (p := S.parseRound C receivedData), h]

theorem parseLoop_of_goes {S T : ParseState σ} (fuel : ℕ) (h : Goes C receivedData S T) :
  parseLoop C receivedData (fuel + 1) S
    = (parseLoop C receivedData fuel T).map fun r => (S.round C receivedData :: r.1, r.2)
  := by
  rw [parseLoop, if_pos h.1, ← (parseRound_cases C receivedData S).1, ← Prod.mk.eta
    (p := S.parseRound C receivedData), h.2]

theorem parseLoop_of_done {S : ParseState σ} (fuel : ℕ)
    (hcount : ¬ S.count.toNat < receivedData.length) :
  parseLoop C receivedData (fuel + 1) S = some ([], S.base)
  := by
  rw [parseLoop, if_neg hcount]

theorem returns_or_goes (C : DeviceHandlerChild σ) {S : ParseState σ}
    (hcount : S.count.toNat < receivedData.length) :
  (∃ D, (S.parseRound C receivedData).2 = .inr D) ∨ ∃ T, Goes C receivedData S T
  := by
  cases h : (S.parseRound C receivedData).2 with
  | inl T => exact .inr ⟨T, hcount, h⟩
  | inr D => exact .inl ⟨D, rfl⟩

/-- The rounds of the loop start with the round that its variables lead to. -/
theorem parseLoop_rounds {fuel : ℕ} {S : ParseState σ} {r : List ParseRound × DeviceHandlerBase σ}
    (h : parseLoop C receivedData fuel S = some r) :
  if S.count.toNat < receivedData.length then
    ∃ later, r.1 = S.round C receivedData :: later
  else
    r.1 = []
  := by
  obtain _ | fuel := fuel
  · cases h
  split_ifs with hcount
  · obtain ⟨D, hD⟩ | ⟨T, hT⟩ := returns_or_goes C hcount
    · rw [parseLoop_of_returns fuel hcount hD] at h
      cases h
      use []
    · rw [parseLoop_of_goes fuel hT] at h
      obtain ⟨later, -, rfl⟩ := Option.map_eq_some_iff.mp h
      use later.1
  · rw [parseLoop_of_done fuel hcount] at h
    cases h
    rfl

/-- The fuel does not change what the loop does. -/
theorem parseLoop_unique {fuel fuel' : ℕ} {S : ParseState σ}
    {r r' : List ParseRound × DeviceHandlerBase σ}
    (h : parseLoop C receivedData fuel S = some r)
    (h' : parseLoop C receivedData fuel' S = some r') :
  r = r'
  := by
  induction fuel generalizing fuel' S r r' with
  | zero =>
      cases h
  | succ fuel ih =>
      obtain _ | fuel' := fuel'
      · cases h'
      by_cases hcount : S.count.toNat < receivedData.length
      · obtain ⟨D, hD⟩ | ⟨T, hT⟩ := returns_or_goes C hcount
        · rw [parseLoop_of_returns _ hcount hD] at h h'
          exact Option.some_inj.mp (h.symm.trans h')
        · rw [parseLoop_of_goes _ hT] at h h'
          obtain ⟨later, hloop, rfl⟩ := Option.map_eq_some_iff.mp h
          obtain ⟨later', hloop', rfl⟩ := Option.map_eq_some_iff.mp h'
          rw [ih hloop hloop']
      · rw [parseLoop_of_done _ hcount] at h h'
        exact Option.some_inj.mp (h.symm.trans h')

/-- The variables with which a round ends the loop are the only ones that it gets to. -/
theorem forall_reaches_of_returns {S : ParseState σ} {D : DeviceHandlerBase σ}
    {P : ParseState σ → Prop} (h : (S.parseRound C receivedData).2 = .inr D) :
  (∀ T, Reaches C receivedData S T → P T) ↔ P S
  := by
  constructor
  · intro hall
    exact hall S .refl
  · intro hS T hT
    obtain rfl | ⟨U, ⟨-, hU⟩, -⟩ := reaches_iff.mp hT
    · exact hS
    · cases h.symm.trans hU

theorem forall_reaches_of_goes {S U : ParseState σ} {P : ParseState σ → Prop}
    (h : Goes C receivedData S U) :
  (∀ T, Reaches C receivedData S T → P T) ↔ P S ∧ ∀ T, Reaches C receivedData U T → P T
  := by
  constructor
  · intro hall
    use hall S .refl
    intro T hT
    exact hall T (.head h hT)
  · rintro ⟨hS, hall⟩ T hT
    obtain rfl | ⟨V, ⟨-, hV⟩, hT⟩ := reaches_iff.mp hT
    · exact hS
    · cases h.2.symm.trans hV
      exact hall T hT

theorem scans_round_iff {left : ℕ} {S : ParseState σ} {rounds : List ParseRound}
    (hremains : S.Remains receivedData) :
  Scans receivedData.length (left + 1) S.position (S.round C receivedData :: rounds) ↔
    ((S.round C receivedData).HandsOn →
      (S.round C receivedData).foundLen ≤ S.remainingLength.toNat) ∧
    if (S.round C receivedData).result = ignoreFullPacket then rounds = []
    else Scans receivedData.length left (S.position + (S.round C receivedData).advance) rounds
  := by
  constructor
  · intro h
    exact h.2.2
  · intro h
    exact ⟨rfl, hremains.position_add, h⟩

/-- A round that ends the loop. -/
theorem scans_of_returns {left : ℕ} {S : ParseState σ} {D : DeviceHandlerBase σ}
    (hremains : S.Remains receivedData) (hleft : S.count.toNat + (left + 1) = receivedData.length)
    (h : (S.parseRound C receivedData).2 = .inr D) :
  Scans receivedData.length (left + 1) S.position [S.round C receivedData]
    ↔ S.Advances C receivedData
  := by
  have hpos := hremains.remaining_pos (by omega)
  have hadd := hremains.position_add
  rw [scans_round_iff hremains, advances_iff]
  apply and_congr_right
  intro hlen
  obtain ⟨-, ⟨-, _, hT, -⟩ | ⟨-, -, _, hT, -⟩ | ⟨hfull | ⟨hhands, hle⟩, -⟩⟩ :=
    parseRound_cases C receivedData S
  · cases h.symm.trans hT
  · cases h.symm.trans hT
  · rw [if_pos hfull, hfull]
    simp
  · have heq := Nat.le_antisymm (hlen hhands) hle
    rw [if_neg hhands.2, ParseRound.advance, scans_nil_iff]
    constructor
    · intro hrest hcount
      use fun hignore => absurd hignore hhands.1
      intro hfailed
      rw [if_pos hfailed] at hrest
      omega
    · intro hrest
      obtain rfl | hleft' := Nat.eq_zero_or_pos left
      · exact .inl rfl
      · apply Or.inr
        split_ifs with hfailed
        · have hone := (hrest (by omega)).2 hfailed
          omega
        · omega

/-- A round that goes on to where the next scan should start. -/
theorem advances_iff_of_goes {S T : ParseState σ} (h : Goes C receivedData S T)
    (hcount : S.count.toNat + 1 < receivedData.length) :
  S.Advances C receivedData ↔
    ((S.round C receivedData).HandsOn →
      (S.round C receivedData).foundLen ≤ S.remainingLength.toNat) ∧
    T.position = S.position + (S.round C receivedData).advance
  := by
  rw [advances_iff, ParseRound.advance]
  apply and_congr_right
  intro _
  rw [forall_prop_of_true hcount]
  obtain ⟨-, ⟨hignore, T', hT, -, hposition, -⟩ | ⟨hhands, -, T', hT, -, hposition, -⟩ |
    ⟨-, _, hD⟩⟩ := parseRound_cases C receivedData S
  · cases hT.symm.trans h.2
    rw [hposition, hignore]
    simp
  · cases hT.symm.trans h.2
    rw [hposition]
    split_ifs with hfailed
    · simp [hfailed]
    · simp [hfailed, hhands.1]
  · cases hD.symm.trans h.2

theorem result_ne_of_goes {S T : ParseState σ} (h : Goes C receivedData S T) :
  (S.round C receivedData).result ≠ ignoreFullPacket
  := by
  obtain ⟨-, ⟨hignore, -⟩ | ⟨hhands, -⟩ | ⟨-, _, hD⟩⟩ := parseRound_cases C receivedData S
  · rw [hignore]
    decide
  · exact hhands.2
  · cases hD.symm.trans h.2

/-- A round that is followed by other rounds. -/
theorem scans_of_goes {left : ℕ} {S T : ParseState σ} {rounds : List ParseRound}
    (hremains : S.Remains receivedData) (hleft : S.count.toNat + (left + 1) = receivedData.length)
    (h : Goes C receivedData S T)
    (hrounds : if T.count.toNat < receivedData.length then
      ∃ later, rounds = T.round C receivedData :: later else rounds = []) :
  Scans receivedData.length (left + 1) S.position (S.round C receivedData :: rounds)
    ↔ S.Advances C receivedData ∧ Scans receivedData.length left T.position rounds
  := by
  have hnext := (hremains.goes h).2
  rw [scans_round_iff hremains, if_neg (result_ne_of_goes h)]
  obtain rfl | hleft' := Nat.eq_zero_or_pos left
  · rw [if_neg (by omega)] at hrounds
    subst hrounds
    rw [advances_iff]
    simp [Scans, hleft.ge]
  · rw [if_pos (by omega)] at hrounds
    obtain ⟨later, rfl⟩ := hrounds
    rw [advances_iff_of_goes h (by omega), and_assoc]
    apply and_congr_right
    intro _
    constructor
    · intro hscans
      have hposition : T.position = _ := (scans_cons_inv hscans).1
      use hposition
      rw [hposition]
      exact hscans
    · rintro ⟨hposition, hscans⟩
      rw [← hposition]
      exact hscans

/-- The loop ends, and its rounds scan the bytes exactly if every round advances. -/
theorem parseLoop_scans {left : ℕ} {S : ParseState σ} (hremains : S.Remains receivedData)
    (hleft : S.count.toNat + left = receivedData.length) :
  ∃ r, parseLoop C receivedData (left + 1) S = some r ∧
    (Scans receivedData.length left S.position r.1 ↔
      ∀ T, Reaches C receivedData S T → T.count.toNat < receivedData.length →
        T.Advances C receivedData)
  := by
  induction left generalizing S with
  | zero =>
      have hcount : ¬ S.count.toNat < receivedData.length := by
        omega
      use ([], S.base), parseLoop_of_done 0 hcount
      constructor
      · intro _ T hT hlt
        obtain rfl | ⟨U, ⟨hlt, -⟩, -⟩ := reaches_iff.mp hT
        · exact absurd hlt hcount
        · exact absurd hlt hcount
      · intro _
        exact .inl rfl
  | succ left ih =>
      have hcount : S.count.toNat < receivedData.length := by
        omega
      obtain ⟨D, hD⟩ | ⟨T, hT⟩ := returns_or_goes C hcount
      · use ([S.round C receivedData], D), parseLoop_of_returns _ hcount hD
        rw [scans_of_returns hremains hleft hD, forall_reaches_of_returns hD]
        simp only [hcount, forall_const]
      · obtain ⟨hremains', hcount'⟩ := hremains.goes hT
        obtain ⟨r, hloop, hscans⟩ := ih hremains' (by omega)
        use (S.round C receivedData :: r.1, r.2)
        use by rw [parseLoop_of_goes _ hT, hloop, Option.map_some]
        rw [scans_of_goes hremains hleft hT (parseLoop_rounds hloop), hscans,
          forall_reaches_of_goes hT]
        simp only [hcount, forall_const]

/-- Parsing ends, and its rounds scan the received bytes from the first one on. -/
def ParsesAll (C : DeviceHandlerChild σ) (D : DeviceHandlerBase σ) (receivedData : List UInt8) :
    Prop :=
  ∃ fuel rounds D', D.parseReply C fuel receivedData = some (rounds, D') ∧
    Scans receivedData.length receivedData.length 0 rounds

theorem remains_parseStart (D : DeviceHandlerBase σ) (h : receivedData.length < 2 ^ 32) :
  (D.parseStart receivedData).Remains receivedData
  := by
  have hlen : (UInt32.ofNat receivedData.length).toNat = receivedData.length :=
    UInt32.toNat_ofNat_of_lt' h
  constructor
  · rw [parseStart, hlen, Nat.zero_add]
  · intro hpos
    rw [parseStart, hlen]
    exact hpos
  · exact h

theorem ParsesAll.length_lt {D : DeviceHandlerBase σ} (h : D.ParsesAll C receivedData) :
  receivedData.length < 2 ^ 32
  := by
  obtain ⟨fuel, rounds, D', hloop, hscans⟩ := h
  by_contra hlen
  have hpos : (D.parseStart receivedData).count.toNat < receivedData.length :=
    Nat.lt_of_lt_of_le (Nat.two_pow_pos 32) (Nat.le_of_not_lt hlen)
  have hfirst := parseLoop_rounds hloop
  rw [if_pos hpos] at hfirst
  obtain ⟨later, rfl⟩ := hfirst
  -- The first round is told the number of the bytes modulo `2 ^ 32`.
  have hremaining := (scans_cons_inv hscans).2
  rw [Nat.zero_add] at hremaining
  exact absurd (hremaining ▸ UInt32.toNat_lt _) hlen

theorem parsesAll_iff_of_length_lt (D : DeviceHandlerBase σ)
    (hlen : receivedData.length < 2 ^ 32) :
  D.ParsesAll C receivedData ↔
    ∀ S, Reaches C receivedData (D.parseStart receivedData) S →
      S.count.toNat < receivedData.length → S.Advances C receivedData
  := by
  obtain ⟨r, hloop, hscans⟩ := parseLoop_scans (C := C) (remains_parseStart D hlen)
    (Nat.zero_add _)
  rw [← hscans]
  constructor
  · rintro ⟨fuel, rounds, D', h, hall⟩
    cases parseLoop_unique h hloop
    exact hall
  · intro hall
    exact ⟨_, r.1, r.2, hloop, hall⟩

/-- Parsing scans all received bytes exactly if there are not too many of them, and in every round
the child class reports the length by which the next scan should start further on. -/
theorem parsesAll_iff (C : DeviceHandlerChild σ) (D : DeviceHandlerBase σ)
    (receivedData : List UInt8) :
  D.ParsesAll C receivedData ↔
    receivedData.length < 2 ^ 32 ∧
    ∀ S, Reaches C receivedData (D.parseStart receivedData) S →
      S.count.toNat < receivedData.length → S.Advances C receivedData
  := by
  constructor
  · intro h
    exact ⟨h.length_lt, (parsesAll_iff_of_length_lt D h.length_lt).mp h⟩
  · rintro ⟨hlen, hall⟩
    exact (parsesAll_iff_of_length_lt D hlen).mpr hall

/-- A device whose replies are single bytes.  When no reply starts at a byte, its handler leaves the
length as it is. -/
def beacon : DeviceHandlerChild Unit where
  scanForReply start foundId foundLen D :=
    if start.head? = some 0xAA then (.ok, 1, 1, D) else (.failed, foundId, foundLen, D)
  interpretDeviceReply _ _ D := (.ok, D)
  scanForReply_len start foundId foundLen D := by
    cases start with
    | nil => exact .inl rfl
    | cons byte start =>
        split_ifs
        · exact .inr (Nat.succ_le_succ (Nat.zero_le _))
        · exact .inl rfl

/-- A device handler that expects the replies of this device. -/
def beaconHandler : DeviceHandlerBase Unit where
  mode := HasModesIF.modeOn
  wiretappingMode := .off
  defaultRawReceiver := MessageQueueIF.noQueue
  requestedRawTraffic := MessageQueueIF.noQueue
  deviceCommandMap := ∅
  deviceReplyMap := (∅ : Std.TreeMap DeviceCommandId DeviceReplyInfo).insert 1
    ⟨5, 5, true, none, none, true⟩
  currentTime := 0
  child := ()
  sent := []

/-- The second of two bytes is a reply, but the first one is scanned twice. -/
theorem not_parsesAll_beacon :
  ¬ beaconHandler.ParsesAll beacon [0x00, 0xAA]
  := by
  rw [parsesAll_iff_of_length_lt beaconHandler (by decide)]
  intro h
  have hadvances := (h _ .refl (by decide)).2 (by decide)
  exact absurd (hadvances.2 rfl) (by decide)

example :
  (beaconHandler.parseReply beacon 3 [0x00, 0xAA]).map (·.1)
    = some [⟨0, 2, .failed, 0⟩, ⟨0, 2, .failed, 0⟩]
  := rfl

end DeviceHandlerBase
