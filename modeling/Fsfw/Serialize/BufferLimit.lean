import Fsfw.Serialize.SerialBuffer

/-!
# The limit of a buffer

A serializer respects the limit of the buffer when it succeeds exactly if there is room for
all of its bytes, and writes nothing at or behind the limit in either case (`Respects`).

`Limited` says of one call when it does: under the given condition, and without it the limit
is overrun.  The condition of two serializers one after another is the one of the first, and
the one of the second if the first has found room (`Limited.andThen`).
-/

namespace Serializer

/-- An object of the given length is serialized exactly when there is room for it, and the
buffer then ends at the limit or in front of it, unless nothing is written.  The length is
missing for an object that cannot be serialized at all. -/
structure Respects (s : Serializer) (length : Option ℕ) (maxSize : ℕ) (e : Endianness)
    (b : SerialBuffer) : Prop where
  ok_iff : (s maxSize e b).1 = .ok ↔ ∃ n ∈ length, b.size + n ≤ maxSize
  size_le : (s maxSize e b).2.size ≤ max b.size maxSize

/-- The serializer takes nothing back. -/
def Grows (s : Serializer) : Prop :=
  ∀ (maxSize : ℕ) (e : Endianness) (b : SerialBuffer), b.size ≤ (s maxSize e b).2.size

/-- Whenever the serializer succeeds, it writes as many bytes as the length says. -/
structure Sized (s : Serializer) (length : Option ℕ) : Prop where
  size_of_ok : ∀ {maxSize : ℕ} {e : Endianness} {b : SerialBuffer},
    (s maxSize e b).1 = .ok → ∃ n ∈ length, (s maxSize e b).2.size = b.size + n
  grows : Grows s

/-- The call respects the limit under the condition, and overruns it otherwise. -/
structure Limited (s : Serializer) (length : Option ℕ) (check : Prop) (maxSize : ℕ)
    (e : Endianness) (b : SerialBuffer) : Prop where
  respects : check → s.Respects length maxSize e b
  overruns : ¬ check → max b.size maxSize < (s maxSize e b).2.size

/-- The calls of a serializer are limited by a condition on the position and the limit. -/
structure Checked (s : Serializer) (length : Option ℕ) (check : ℕ → ℕ → Prop) : Prop extends
    Sized s length where
  limited : ∀ (maxSize : ℕ) (e : Endianness) (b : SerialBuffer),
    Limited s length (check b.size maxSize) maxSize e b

/-- The condition of a serializer that looks for room at the position it is at. -/
def always (_ _ : ℕ) : Prop := True

/-- The length of two objects one after another. -/
def lengthSum (m n : Option ℕ) : Option ℕ :=
  Option.map₂ (· + ·) m n

theorem mem_lengthSum {m n : Option ℕ} {k : ℕ} :
  k ∈ lengthSum m n ↔ ∃ i ∈ m, ∃ j ∈ n, i + j = k
  := by
  simp only [lengthSum, Option.mem_map₂_iff]
  tauto

theorem lengthSum_assoc (l m n : Option ℕ) :
  lengthSum (lengthSum l m) n = lengthSum l (lengthSum m n)
  := Option.map₂_assoc Nat.add_assoc

/-- One serializer after the other. -/
def seq (s t : Serializer) : Serializer :=
  fun maxSize e b => andThen (s maxSize e b) fun b₁ => t maxSize e b₁

section

variable {s t : Serializer} {m n : Option ℕ} {check : Prop} {maxSize : ℕ} {e : Endianness}
  {b : SerialBuffer}

theorem respects_congr (h : s maxSize e b = t maxSize e b) :
  s.Respects m maxSize e b ↔ t.Respects m maxSize e b
  := by
  constructor
  · rintro ⟨hok, hsize⟩
    rw [h] at hok hsize
    exact ⟨hok, hsize⟩
  · rintro ⟨hok, hsize⟩
    rw [← h] at hok hsize
    exact ⟨hok, hsize⟩

theorem Limited.respects_iff (h : Limited s m check maxSize e b) :
  s.Respects m maxSize e b ↔ check
  := by
  constructor
  · intro hs
    by_contra hcheck
    have hover := h.overruns hcheck
    have hle := hs.size_le
    omega
  · exact h.respects

theorem seq_of_ok (h : (s maxSize e b).1 = .ok) :
  seq s t maxSize e b = t maxSize e (s maxSize e b).2
  := by
  rw [seq, andThen, if_pos h]

theorem seq_of_not_ok (h : (s maxSize e b).1 ≠ .ok) :
  seq s t maxSize e b = s maxSize e b
  := by
  rw [seq, andThen, if_neg h]

theorem le_size_seq (hs : Grows s) (ht : Grows t) (maxSize : ℕ) (e : Endianness)
    (b : SerialBuffer) :
  b.size ≤ (s maxSize e b).2.size ∧
    (s maxSize e b).2.size ≤ (seq s t maxSize e b).2.size
  := by
  refine ⟨hs maxSize e b, ?_⟩
  by_cases hok : (s maxSize e b).1 = .ok
  · rw [seq_of_ok hok]
    apply ht
  · rw [seq_of_not_ok hok]

theorem Grows.andThen (hs : Grows s) (ht : Grows t) :
  Grows (seq s t)
  := by
  intro maxSize e b
  obtain ⟨hfirst, hsecond⟩ := le_size_seq hs ht maxSize e b
  exact hfirst.trans hsecond

/-- The bytes of two serializers are counted together. -/
theorem Sized.andThen (hs : Sized s m) (ht : Sized t n) :
  Sized (seq s t) (lengthSum m n)
  := by
  constructor
  · intro maxSize e b hok
    by_cases hfirst : (s maxSize e b).1 = .ok
    · rw [seq_of_ok hfirst] at hok ⊢
      obtain ⟨i, hi, hsize⟩ := hs.size_of_ok hfirst
      obtain ⟨j, hj, hsize'⟩ := ht.size_of_ok hok
      exact ⟨i + j, mem_lengthSum.mpr ⟨i, hi, j, hj, rfl⟩, by omega⟩
    · rw [seq_of_not_ok hfirst] at hok
      cases hfirst hok
  · exact hs.grows.andThen ht.grows

theorem seq_assoc (u : Serializer) :
  seq (seq s t) u = seq s (seq t u)
  := by
  funext maxSize e b
  by_cases hfirst : (s maxSize e b).1 = .ok
  · rw [seq_of_ok hfirst, seq, seq_of_ok hfirst]
    rfl
  · rw [seq_of_not_ok hfirst, seq, seq_of_not_ok hfirst, andThen, if_neg hfirst]

/-- A serializer in front that finds room goes on behind its bytes. -/
theorem Limited.size_of_fits (hs : Limited s m check maxSize e b) (hsized : Sized s m)
    (hcheck : check) {i : ℕ} (hi : i ∈ m) (hroom : b.size + i ≤ maxSize) :
  (s maxSize e b).1 = .ok ∧ (s maxSize e b).2.size = b.size + i
  := by
  have hok := (hs.respects hcheck).ok_iff.mpr ⟨i, hi, hroom⟩
  obtain ⟨j, hj, hsize⟩ := hsized.size_of_ok hok
  rw [Option.mem_unique hi hj]
  exact ⟨hok, hsize⟩

/-- Two serializers respect the limit when the first one does, and the second one does if it
is reached. -/
theorem respects_seq_iff {d : ℕ → Prop} (hs : Limited s m check maxSize e b) (hsized : Sized s m)
    (ht : ∀ b₁, b₁.size ≤ maxSize → (t.Respects n maxSize e b₁ ↔ d b₁.size))
    (hgrows : Grows t) :
  (seq s t).Respects (lengthSum m n) maxSize e b
    ↔ check ∧ ∀ i ∈ m, b.size + i ≤ maxSize → d (b.size + i)
  := by
  constructor
  · intro h
    have hcheck : check := by
      by_contra hcheck
      have hover := hs.overruns hcheck
      have hle₂ := (le_size_seq hsized.grows hgrows maxSize e b).2
      have hle₁ := h.size_le
      omega
    refine ⟨hcheck, ?_⟩
    intro i hi hroom
    obtain ⟨hok, hsize⟩ := hs.size_of_fits hsized hcheck hi hroom
    rw [← hsize, ← ht _ (by omega)]
    obtain ⟨hokIff, hlimit⟩ := h
    rw [seq_of_ok hok] at hokIff hlimit
    constructor
    · rw [hokIff, hsize]
      constructor
      · rintro ⟨k, hk, hfits⟩
        obtain ⟨i', hi', j, hj, rfl⟩ := mem_lengthSum.mp hk
        obtain rfl := Option.mem_unique hi hi'
        exact ⟨j, hj, by omega⟩
      · rintro ⟨j, hj, hfits⟩
        exact ⟨i + j, mem_lengthSum.mpr ⟨i, hi, j, hj, rfl⟩, by omega⟩
    · omega
  · rintro ⟨hcheck, hnext⟩
    have hfirst := hs.respects hcheck
    by_cases hok : (s maxSize e b).1 = .ok
    · obtain ⟨i, hi, hroom⟩ := hfirst.ok_iff.mp hok
      obtain ⟨-, hsize⟩ := hs.size_of_fits hsized hcheck hi hroom
      have hsecond := hnext i hi hroom
      rw [← hsize, ← ht _ (by omega)] at hsecond
      obtain ⟨hokIff, hlimit⟩ := hsecond
      constructor
      · rw [seq_of_ok hok, hokIff, hsize]
        constructor
        · rintro ⟨j, hj, hfits⟩
          exact ⟨i + j, mem_lengthSum.mpr ⟨i, hi, j, hj, rfl⟩, by omega⟩
        · rintro ⟨k, hk, hfits⟩
          obtain ⟨i', hi', j, hj, rfl⟩ := mem_lengthSum.mp hk
          obtain rfl := Option.mem_unique hi hi'
          exact ⟨j, hj, by omega⟩
      · rw [seq_of_ok hok]
        omega
    · constructor
      · rw [seq_of_not_ok hok, iff_false_left hok]
        rintro ⟨k, hk, hfits⟩
        obtain ⟨i, hi, j, -, rfl⟩ := mem_lengthSum.mp hk
        exact hok (hfirst.ok_iff.mpr ⟨i, hi, by omega⟩)
      · rw [seq_of_not_ok hok]
        exact hfirst.size_le

/-- Two serializers that are limited are limited one after the other. -/
theorem Limited.andThen {d : ℕ → Prop} (hs : Limited s m check maxSize e b) (hsized : Sized s m)
    (ht : ∀ b₁, b₁.size ≤ maxSize → Limited t n (d b₁.size) maxSize e b₁)
    (hgrows : Grows t) :
  Limited (seq s t) (lengthSum m n) (check ∧ ∀ i ∈ m, b.size + i ≤ maxSize → d (b.size + i))
    maxSize e b
  := by
  have hiff := respects_seq_iff hs hsized (fun b₁ hb₁ => (ht b₁ hb₁).respects_iff) hgrows
  constructor
  · exact hiff.mpr
  · intro hnot
    by_cases hcheck : check
    · obtain ⟨i, hi, hroom, hd⟩ : ∃ i ∈ m, b.size + i ≤ maxSize ∧ ¬ d (b.size + i) := by
        by_contra hall
        push Not at hall
        exact hnot ⟨hcheck, hall⟩
      obtain ⟨hok, hsize⟩ := hs.size_of_fits hsized hcheck hi hroom
      rw [← hsize] at hd
      have hover := (ht _ (by omega)).overruns hd
      rw [seq_of_ok hok]
      omega
    · have hover := hs.overruns hcheck
      have hle₂ := (le_size_seq hsized.grows hgrows maxSize e b).2
      omega

theorem Checked.respects_iff {c : ℕ → ℕ → Prop} (h : Checked s m c) :
  s.Respects m maxSize e b ↔ c b.size maxSize
  := (h.limited _ _ _).respects_iff

/-- A call that stays within the limit respects it. -/
theorem Checked.respects_of_size_le {c : ℕ → ℕ → Prop} (h : Checked s m c)
    (hle : (s maxSize e b).2.size ≤ max b.size maxSize) :
  s.Respects m maxSize e b
  := by
  rw [h.respects_iff]
  by_contra hcheck
  have hover := (h.limited maxSize e b).overruns hcheck
  omega

theorem Checked.congr {c d : ℕ → ℕ → Prop} (h : Checked s m c)
    (hiff : ∀ size maxSize, c size maxSize ↔ d size maxSize) :
  Checked s m d
  := by
  have hcd : c = d := by
    funext size maxSize
    exact propext (hiff size maxSize)
  exact hcd ▸ h

theorem Checked.respects_seq_iff {c d : ℕ → ℕ → Prop} (hs : Checked s m c)
    (ht : ∀ b₁, b₁.size ≤ maxSize → (t.Respects n maxSize e b₁ ↔ d b₁.size maxSize))
    (hgrows : Grows t) :
  (seq s t).Respects (lengthSum m n) maxSize e b
    ↔ c b.size maxSize ∧ ∀ i ∈ m, b.size + i ≤ maxSize → d (b.size + i) maxSize
  := Serializer.respects_seq_iff (d := fun size => d size maxSize) (hs.limited maxSize e b)
    hs.toSized ht hgrows

/-- Behind `k` bytes that are checked, only the rest has a condition. -/
theorem Checked.respects_behind_iff {d : ℕ → ℕ → Prop} {k : ℕ} (hs : Checked s (some k) always)
    (ht : ∀ b₁, b₁.size ≤ maxSize → (t.Respects n maxSize e b₁ ↔ d b₁.size maxSize))
    (hgrows : Grows t) :
  (seq s t).Respects (lengthSum (some k) n) maxSize e b
    ↔ (b.size + k ≤ maxSize → d (b.size + k) maxSize)
  := by
  rw [hs.respects_seq_iff ht hgrows]
  simp [always]

theorem Checked.andThen {c d : ℕ → ℕ → Prop} (hs : Checked s m c) (ht : Checked t n d) :
  Checked (seq s t) (lengthSum m n) fun size maxSize =>
    c size maxSize ∧ ∀ i ∈ m, size + i ≤ maxSize → d (size + i) maxSize
  := by
  refine ⟨hs.toSized.andThen ht.toSized, ?_⟩
  intro maxSize e b
  apply (hs.limited maxSize e b).andThen (d := fun size => d size maxSize) hs.toSized
  · intro b₁ _
    exact ht.limited maxSize e b₁
  · exact ht.grows

theorem Checked.andThen_always (hs : Checked s m always) (ht : Checked t n always) :
  Checked (seq s t) (lengthSum m n) always
  := by
  apply (hs.andThen ht).congr
  intro size maxSize
  simp [always]

/-! ### Serializers that check for room -/

theorem checked_of_eq {bytes : Endianness → List UInt8} {r : ReturnValue} (hr : r ≠ .ok)
    {k : ℕ} (hlength : ∀ e, (bytes e).length = k)
    (hs : ∀ maxSize e b,
      s maxSize e b = if b.size + k ≤ maxSize then (.ok, b.put (bytes e)) else (r, b)) :
  Checked s (some k) always
  := by
  refine ⟨⟨?_, ?_⟩, ?_⟩
  · intro maxSize e b hok
    rw [hs] at hok ⊢
    split at hok
    · rename_i hroom
      rw [if_pos hroom]
      exact ⟨k, rfl, by rw [SerialBuffer.size_put, hlength]⟩
    · cases hr hok
  · intro maxSize e b
    rw [hs]
    split
    · simp
    · rfl
  · intro maxSize e b
    refine ⟨fun _ => ⟨?_, ?_⟩, fun hnot => (hnot trivial).elim⟩
    · rw [hs]
      split
      · rename_i hroom
        exact iff_of_true rfl ⟨k, rfl, hroom⟩
      · rename_i hroom
        rw [iff_false_left hr]
        rintro ⟨_, ⟨⟩, hroom'⟩
        exact hroom hroom'
    · rw [hs]
      split
      · rename_i hroom
        rw [SerialBuffer.size_put, hlength]
        omega
      · apply le_max_left

theorem checked_number {width : ℕ} (hwidth : 0 < width) (number : ℕ) :
  Checked (SerializeAdapter.serialize width number) (some width) always
  := checked_of_eq (by decide) (SerializeAdapter.length_bytesOf width number)
    (SerializeAdapter.serialize_eq hwidth number)

/-- The items of a list stay within the limit when each of them does. -/
theorem size_all_le {α : Type*} {serialize : α → Serializer}
    (h : ∀ x b, (serialize x maxSize e b).2.size ≤ max b.size maxSize) (xs : List α)
    (b : SerialBuffer) :
  (all serialize xs maxSize e b).2.size ≤ max b.size maxSize
  := by
  induction xs generalizing b with
  | nil =>
      apply le_max_left
  | cons x xs ih =>
      have hx := h x b
      rw [all, andThen]
      split
      · apply (ih _).trans
        apply max_le hx (le_max_right _ _)
      · exact hx

/-- Write `k` bytes if there is room for them. -/
def guarded (k : ℕ) (bytes : List UInt8) : Serializer :=
  fun maxSize _ b =>
    if maxSize < b.size + k then (SerializeIF.bufferTooShort, b) else (.ok, b.put bytes)

theorem checked_guarded {k : ℕ} {bytes : List UInt8} (hk : bytes.length = k) :
  Checked (guarded k bytes) (some k) always
  := by
  have hs : ∀ maxSize e b, guarded k bytes maxSize e b
      = if b.size + k ≤ maxSize then (.ok, b.put bytes)
        else (SerializeIF.bufferTooShort, b) := by
    intro maxSize e b
    rw [guarded]
    by_cases hroom : b.size + k ≤ maxSize
    · rw [if_pos hroom, if_neg (Nat.not_lt.mpr hroom)]
    · rw [if_neg hroom, if_pos (Nat.lt_of_not_le hroom)]
  exact checked_of_eq (by decide) (fun _ => hk) hs

/-- A refusal that leaves the buffer as it is. -/
theorem fails_of_refused {result : ReturnValue} (h : result ≠ .ok) (maxSize : ℕ)
    (b : SerialBuffer) :
  (result, b).1 ≠ .ok ∧ b.size ≤ (result, b).2.size ∧ (result, b).2.size ≤ max b.size maxSize
  := ⟨h, le_rfl, le_max_left _ _⟩

/-- An object that cannot be serialized is refused. -/
theorem checked_of_fails (hfails : ∀ maxSize e b,
    (s maxSize e b).1 ≠ .ok ∧ b.size ≤ (s maxSize e b).2.size ∧
      (s maxSize e b).2.size ≤ max b.size maxSize) :
  Checked s none always
  := by
  refine ⟨⟨?_, ?_⟩, ?_⟩
  · intro maxSize e b hok
    cases (hfails maxSize e b).1 hok
  · intro maxSize e b
    exact (hfails maxSize e b).2.1
  · intro maxSize e b
    refine ⟨fun _ => ⟨?_, (hfails maxSize e b).2.2⟩, fun hnot => (hnot trivial).elim⟩
    rw [iff_false_left (hfails maxSize e b).1]
    rintro ⟨_, ⟨⟩, _⟩

/-! ### Serializers with other checks -/

/-- Write some bytes without looking for room. -/
def raw (bytes : List UInt8) : Serializer :=
  fun _ _ b => (.ok, b.put bytes)

theorem checked_raw {bytes : List UInt8} (hbytes : 0 < bytes.length) :
  Checked (raw bytes) (some bytes.length) fun size maxSize => size + bytes.length ≤ maxSize
  := by
  refine ⟨⟨fun _ => ⟨_, rfl, rfl⟩, fun _ _ _ => Nat.le_add_right _ _⟩, ?_⟩
  intro maxSize e b
  constructor
  · intro hroom
    refine ⟨iff_of_true rfl ⟨_, rfl, hroom⟩, ?_⟩
    rw [raw, SerialBuffer.size_put]
    omega
  · intro hroom
    rw [raw, SerialBuffer.size_put]
    omega

/-- Bytes in front that are written without looking for room. -/
theorem Checked.behind_raw {bytes : List UInt8} {k : ℕ} {d : ℕ → ℕ → Prop}
    (ht : Checked t n d) (hk : bytes.length = k) (hpos : 0 < k) :
  Checked (seq (raw bytes) t) (lengthSum (some k) n) fun size maxSize =>
    size + k ≤ maxSize ∧ d (size + k) maxSize
  := by
  subst hk
  apply ((checked_raw hpos).andThen ht).congr
  intro size maxSize
  simp only [Option.mem_some_iff, forall_eq']
  apply and_congr_right
  intro hroom
  rw [forall_prop_of_true hroom]

/-- Refuse a buffer with less than `k` bytes, whatever is used of it. -/
def atLeast (k : ℕ) (s : Serializer) : Serializer :=
  fun maxSize e b =>
    if maxSize < k then (SerializeIF.bufferTooShort, b) else s maxSize e b

theorem sized_atLeast (k : ℕ) (hs : Sized s m) :
  Sized (atLeast k s) m
  := by
  constructor
  · intro maxSize e b hok
    rw [atLeast] at hok ⊢
    split at hok
    · cases hok
    · rename_i hk
      rw [if_neg hk]
      exact hs.size_of_ok hok
  · intro maxSize e b
    rw [atLeast]
    split
    · rfl
    · exact hs.grows _ _ _

theorem atLeast_of_lt {k : ℕ} (h : maxSize < k) :
  atLeast k s maxSize e b = (SerializeIF.bufferTooShort, b)
  := if_pos h

theorem atLeast_of_le {k : ℕ} (h : k ≤ maxSize) :
  atLeast k s maxSize e b = s maxSize e b
  := if_neg (Nat.not_lt.mpr h)

theorem seq_atLeast (k : ℕ) :
  seq (atLeast k s) t = atLeast k (seq s t)
  := by
  funext maxSize e b
  by_cases hk : k ≤ maxSize
  · rw [atLeast_of_le hk, seq, seq, atLeast_of_le hk]
  · have hlt := Nat.lt_of_not_le hk
    rw [atLeast_of_lt hlt, seq, atLeast_of_lt hlt]
    rfl

/-- Refusing a buffer that has room for the object is an error. -/
theorem respects_atLeast_iff (k : ℕ) :
  (atLeast k s).Respects m maxSize e b
    ↔ (∀ i ∈ m, b.size + i ≤ maxSize → k ≤ maxSize) ∧
      (k ≤ maxSize → s.Respects m maxSize e b)
  := by
  by_cases hk : k ≤ maxSize
  · constructor
    · rintro ⟨hokIff, hlimit⟩
      rw [atLeast_of_le hk] at hokIff hlimit
      exact ⟨fun _ _ _ => hk, fun _ => ⟨hokIff, hlimit⟩⟩
    · rintro ⟨-, h⟩
      obtain ⟨hokIff, hlimit⟩ := h hk
      constructor
      · rwa [atLeast_of_le hk]
      · rwa [atLeast_of_le hk]
  · have hrefuse := atLeast_of_lt (s := s) (e := e) (b := b) (Nat.lt_of_not_le hk)
    constructor
    · rintro ⟨hokIff, -⟩
      rw [hrefuse] at hokIff
      refine ⟨?_, fun hk' => (hk hk').elim⟩
      intro i hi hroom
      cases hokIff.mpr ⟨i, hi, hroom⟩
    · rintro ⟨hfits, -⟩
      constructor
      · rw [hrefuse]
        constructor
        · intro hok
          cases hok
        · rintro ⟨i, hi, hroom⟩
          cases hk (hfits i hi hroom)
      · rw [hrefuse]
        apply le_max_left

theorem checked_atLeast {k : ℕ} {c : ℕ → ℕ → Prop} (hk : ∀ i ∈ m, k ≤ i)
    (hs : Checked s m c) :
  Checked (atLeast k s) m fun size maxSize => k ≤ maxSize → c size maxSize
  := by
  refine ⟨sized_atLeast k hs.toSized, ?_⟩
  intro maxSize e b
  constructor
  · intro hcheck
    rw [respects_atLeast_iff]
    refine ⟨?_, fun hle => (hs.limited _ _ _).respects (hcheck hle)⟩
    intro i hi hroom
    have hle := hk i hi
    omega
  · intro hnot
    push Not at hnot
    rw [atLeast_of_le hnot.1]
    exact (hs.limited _ _ _).overruns hnot.2

/-- Refuse a buffer without room for `k` bytes. -/
def roomFor (k : ℕ) (s : Serializer) : Serializer :=
  fun maxSize e b =>
    if maxSize < b.size + k then (SerializeIF.bufferTooShort, b) else s maxSize e b

theorem roomFor_eq (k : ℕ) :
  roomFor k s maxSize e b = atLeast (b.size + k) s maxSize e b
  := rfl

theorem sized_roomFor (k : ℕ) (hs : Sized s m) :
  Sized (roomFor k s) m
  := by
  constructor
  · intro maxSize e b hok
    exact (sized_atLeast (b.size + k) hs).size_of_ok hok
  · intro maxSize e b
    exact (sized_atLeast (b.size + k) hs).grows maxSize e b

/-- Refusing a buffer without room for the beginning of the object is right. -/
theorem respects_roomFor_iff {k : ℕ} (hk : ∀ i ∈ m, k ≤ i) :
  (roomFor k s).Respects m maxSize e b
    ↔ (b.size + k ≤ maxSize → s.Respects m maxSize e b)
  := by
  rw [respects_congr (roomFor_eq k), respects_atLeast_iff, and_iff_right]
  intro i hi hroom
  have hle := hk i hi
  omega

theorem checked_roomFor {k : ℕ} {c : ℕ → ℕ → Prop} (hk : ∀ i ∈ m, k ≤ i)
    (hs : Checked s m c) :
  Checked (roomFor k s) m fun size maxSize => size + k ≤ maxSize → c size maxSize
  := by
  refine ⟨sized_roomFor k hs.toSized, ?_⟩
  intro maxSize e b
  constructor
  · intro hcheck
    rw [respects_roomFor_iff hk]
    exact fun hroom => (hs.limited _ _ _).respects (hcheck hroom)
  · intro hnot
    push Not at hnot
    rw [roomFor_eq, atLeast_of_le hnot.1]
    exact (hs.limited _ _ _).overruns hnot.2

/-! ### Lists of objects -/

section All

variable {α : Type*} {serialize : α → Serializer} {length : α → Option ℕ}
  {checkItem : α → ℕ → ℕ → Prop}

/-- The length of the objects of a list. -/
def lengthAll (length : α → Option ℕ) : List α → Option ℕ
  | [] => some 0
  | x :: xs => lengthSum (length x) (lengthAll length xs)

/-- The condition of each object that is reached holds where it is written. -/
def CheckAll (length : α → Option ℕ) (checkItem : α → ℕ → ℕ → Prop) (maxSize : ℕ) :
    List α → ℕ → Prop
  | [], _ => True
  | x :: xs, size =>
      checkItem x size maxSize ∧
        ∀ i ∈ length x, size + i ≤ maxSize → CheckAll length checkItem maxSize xs (size + i)

theorem checkAll_always (maxSize : ℕ) (xs : List α) (size : ℕ) :
  CheckAll length (fun _ => always) maxSize xs size
  := by
  induction xs generalizing size with
  | nil => trivial
  | cons x xs ih => exact ⟨trivial, fun i _ _ => ih (size + i)⟩

theorem all_singleton (x : α) :
  all serialize [x] = serialize x
  := by
  funext maxSize e b
  rw [all, andThen]
  split
  · rename_i hok
    exact Prod.ext hok.symm rfl
  · rfl

theorem sized_all (h : ∀ x, Sized (serialize x) (length x)) (xs : List α) :
  Sized (all serialize xs) (lengthAll length xs)
  := by
  induction xs with
  | nil => exact ⟨fun _ => ⟨0, rfl, rfl⟩, fun _ _ _ => le_rfl⟩
  | cons x xs ih => exact (h x).andThen ih

theorem limited_all (h : ∀ x, Checked (serialize x) (length x) (checkItem x)) (xs : List α)
    {b : SerialBuffer} (hroom : b.size ≤ maxSize) :
  Limited (all serialize xs) (lengthAll length xs)
    (CheckAll length checkItem maxSize xs b.size) maxSize e b
  := by
  induction xs generalizing b with
  | nil =>
      refine ⟨fun _ => ⟨?_, le_max_left _ _⟩, fun hnot => (hnot trivial).elim⟩
      exact iff_of_true rfl ⟨0, rfl, hroom⟩
  | cons x xs ih =>
      apply ((h x).limited _ _ _).andThen (h x).toSized
      · intro b₁ hb₁
        exact ih hb₁
      · exact (sized_all (fun x => (h x).toSized) xs).grows

end All

end

end Serializer
