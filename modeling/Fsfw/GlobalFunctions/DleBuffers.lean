import Fsfw.GlobalFunctions.DleEncoder

/-!
# The size of the destination of the DLE encoder

A destination that has room for the result should be enough.  Encoding without the delimiters
needs no more, but a frame with its delimiters needs one more byte than it has, since the last
check is made against the length of the destination itself.  So does decoding, which finds the end
of a frame only while the destination has room for one more byte.

The encoder and the decoder therefore keep to the sizes exactly when the destination is not just as
long as the result, with one exception more for empty frames in the non-escaped variant
(`tight_iff`).  Nothing is ever written behind the end of the destination.
-/

namespace DleEncoder

/-- The encoding of a payload, with the delimiters on demand. -/
def encoding (e : DleEncoder) (payload : List UInt8) (addStxEtx : Bool) : List UInt8 :=
  if addStxEtx then e.frame payload else escapeAll e.escape payload

/-- Encoding succeeds exactly when the destination has room for the encoding, fails in no other way
than for want of room, and writes only to the destination. -/
structure EncodeTight (e : DleEncoder) (payload : List UInt8) (maxDestLen : ℕ)
    (addStxEtx : Bool) : Prop where
  ok_iff : (e.encode payload maxDestLen addStxEtx).status = .ok ↔
    (e.encoding payload addStxEtx).length ≤ maxDestLen
  tooShort : (e.encode payload maxDestLen addStxEtx).status ≠ .ok →
    (e.encode payload maxDestLen addStxEtx).status = streamTooShort
  inBounds : (e.encode payload maxDestLen addStxEtx).destStream.length ≤ maxDestLen

/-- Decoding the frame of a payload succeeds exactly when the destination has room for the payload,
fails in no other way than for want of room, and writes only to the destination. -/
def DecodeTight (e : DleEncoder) (payload : List UInt8) (maxDestStreamlen : ℕ) : Prop :=
  ∃ result, e.decode (e.frame payload) maxDestStreamlen = some result ∧
    (result.status = .ok ↔ payload.length ≤ maxDestStreamlen) ∧
    (result.status ≠ .ok → result.status = streamTooShort) ∧
    result.destStream.length ≤ maxDestStreamlen

/-! ### Encoding -/

theorem escapeAll_cons (escape : UInt8 → Option UInt8) (byte : UInt8) (payload : List UInt8) :
  escapeAll escape (byte :: payload) = escapeByte escape byte ++ escapeAll escape payload
  := List.flatMap_cons

theorem one_le_length_escapeByte (escape : UInt8 → Option UInt8) (byte : UInt8) :
  1 ≤ (escapeByte escape byte).length
  := by
  rw [escapeByte]
  split <;> simp

/-- The loop reads the source to its end when the destination has room for all its bytes. -/
theorem encodeLoop_of_le {escape : UInt8 → Option UInt8} {maxDestLen : ℕ}
    {source dest : List UInt8} (h : dest.length + (escapeAll escape source).length ≤ maxDestLen) :
  encodeLoop escape maxDestLen source dest = (dest ++ escapeAll escape source, true)
  := by
  induction source generalizing dest with
  | nil =>
      simp [encodeLoop, escapeAll]
  | cons byte source ih =>
      rw [escapeAll_cons, List.length_append] at h
      have hone := one_le_length_escapeByte escape byte
      rw [encodeLoop, if_pos (by omega)]
      cases hescape : escape byte with
      | none =>
          have hbyte : escapeByte escape byte = [byte] := by rw [escapeByte, hescape]
          rw [hbyte] at h
          simp only
          rw [ih (by simp at h ⊢; omega), escapeAll_cons, hbyte, List.append_assoc]
      | some escaped =>
          have hbyte : escapeByte escape byte = [dleChar, escaped] := by rw [escapeByte, hescape]
          rw [hbyte] at h
          simp only [List.length_cons, List.length_nil] at h
          simp only
          rw [if_neg (by omega), ih (by simp; omega), escapeAll_cons, hbyte, List.append_assoc]

/-- The loop stops before the end of the source when the destination has no room for all its
bytes. -/
theorem encodeLoop_of_lt {escape : UInt8 → Option UInt8} {maxDestLen : ℕ}
    {source dest : List UInt8} (hdest : dest.length ≤ maxDestLen)
    (h : maxDestLen < dest.length + (escapeAll escape source).length) :
  ∃ dest', encodeLoop escape maxDestLen source dest = (dest', false) ∧ dest'.length ≤ maxDestLen
  := by
  induction source generalizing dest with
  | nil =>
      simp only [escapeAll, List.flatMap_nil, List.length_nil] at h
      omega
  | cons byte source ih =>
      rw [escapeAll_cons, List.length_append] at h
      rw [encodeLoop]
      by_cases hroom : dest.length < maxDestLen
      · rw [if_pos hroom]
        cases hescape : escape byte with
        | none =>
            have hbyte : escapeByte escape byte = [byte] := by rw [escapeByte, hescape]
            rw [hbyte] at h
            simp only
            apply ih
            · simp
              omega
            · simp at h ⊢
              omega
        | some escaped =>
            have hbyte : escapeByte escape byte = [dleChar, escaped] := by
              rw [escapeByte, hescape]
            rw [hbyte] at h
            simp only
            by_cases hone : dest.length + 1 ≥ maxDestLen
            · rw [if_pos hone]
              use dest
            · rw [if_neg hone]
              apply ih
              · simp
                omega
              · simp at h ⊢
                omega
      · rw [if_neg hroom]
        use dest

theorem encode_eq_encodeStream (e : DleEncoder) (payload : List UInt8) (maxDestLen : ℕ)
    (addStxEtx : Bool) :
  e.encode payload maxDestLen addStxEtx =
    encodeStream e.escape e.opening e.closing payload maxDestLen addStxEtx
  := by
  rw [encode, escape, opening, closing]
  split_ifs <;> rfl

theorem length_frame (e : DleEncoder) (payload : List UInt8) :
  (e.frame payload).length =
    e.opening.length + (escapeAll e.escape payload).length + e.closing.length
  := by
  simp [frame]
  omega

/-- With the delimiters, a destination that is longer than the frame is long enough. -/
theorem encode_true_of_lt {e : DleEncoder} {payload : List UInt8} {maxDestLen : ℕ}
    (h : (e.frame payload).length < maxDestLen) :
  e.encode payload maxDestLen true =
    ⟨.ok, e.frame payload, some (e.frame payload).length⟩
  := by
  rw [length_frame] at h
  have hopen : ¬ (True ∧ maxDestLen < e.opening.length) := by omega
  have hclose : ¬ (e.opening ++ escapeAll e.escape payload).length + e.closing.length
      ≥ maxDestLen := by
    rw [List.length_append]
    omega
  rw [encode_eq_encodeStream]
  simp only [encodeStream, if_neg hopen, if_true]
  rw [encodeLoop_of_le (by omega)]
  simp only [if_neg hclose]
  rfl

/-- With the delimiters, a destination that is not longer than the frame is too short. -/
theorem encode_true_of_le {e : DleEncoder} {payload : List UInt8} {maxDestLen : ℕ}
    (h : maxDestLen ≤ (e.frame payload).length) :
  ∃ dest, e.encode payload maxDestLen true = ⟨streamTooShort, dest, none⟩ ∧
    dest.length ≤ maxDestLen
  := by
  rw [length_frame] at h
  rw [encode_eq_encodeStream]
  by_cases hopen : True ∧ maxDestLen < e.opening.length
  · simp only [encodeStream, if_pos hopen]
    use []
    simp
  · simp only [encodeStream, if_neg hopen, if_true]
    have hroom : e.opening.length ≤ maxDestLen :=
      Nat.le_of_not_lt (fun hlt => hopen ⟨trivial, hlt⟩)
    rcases Nat.lt_or_ge maxDestLen (e.opening.length + (escapeAll e.escape payload).length)
      with hlt | hle
    · obtain ⟨dest, hloop, hdest⟩ := encodeLoop_of_lt hroom hlt
      rw [hloop]
      use dest
    · have hclose : (e.opening ++ escapeAll e.escape payload).length + e.closing.length
          ≥ maxDestLen := by
        rw [List.length_append]
        omega
      rw [encodeLoop_of_le hle]
      simp only [if_pos hclose]
      use e.opening ++ escapeAll e.escape payload, rfl
      rw [List.length_append]
      apply hle

/-- Without the delimiters, a destination that is as long as the encoding is long enough. -/
theorem encode_false_of_le {e : DleEncoder} {payload : List UInt8} {maxDestLen : ℕ}
    (h : (escapeAll e.escape payload).length ≤ maxDestLen) :
  e.encode payload maxDestLen false =
    ⟨.ok, escapeAll e.escape payload, some (escapeAll e.escape payload).length⟩
  := by
  rw [encode_eq_encodeStream]
  simp only [encodeStream, Bool.false_eq_true, false_and, if_false]
  rw [encodeLoop_of_le (by simpa using h)]
  rfl

theorem encode_false_of_lt {e : DleEncoder} {payload : List UInt8} {maxDestLen : ℕ}
    (h : maxDestLen < (escapeAll e.escape payload).length) :
  ∃ dest, e.encode payload maxDestLen false = ⟨streamTooShort, dest, none⟩ ∧
    dest.length ≤ maxDestLen
  := by
  rw [encode_eq_encodeStream]
  simp only [encodeStream, Bool.false_eq_true, false_and, if_false]
  have hlt : maxDestLen < ([] : List UInt8).length + (escapeAll e.escape payload).length := by
    simpa using h
  obtain ⟨dest, hloop, hdest⟩ := encodeLoop_of_lt (Nat.zero_le maxDestLen) hlt
  rw [hloop]
  use dest

/-- The encoder keeps to the size of the destination, unless a frame with its delimiters is just as
long. -/
theorem encodeTight_iff (e : DleEncoder) (payload : List UInt8) (maxDestLen : ℕ)
    (addStxEtx : Bool) :
  EncodeTight e payload maxDestLen addStxEtx ↔
    ¬ (addStxEtx = true ∧ maxDestLen = (e.frame payload).length)
  := by
  have hshort : streamTooShort ≠ .ok := by decide
  cases addStxEtx with
  | true =>
      rcases Nat.lt_trichotomy maxDestLen (e.frame payload).length with hlt | heq | hgt
      · obtain ⟨dest, hencode, hdest⟩ := encode_true_of_le (Nat.le_of_lt hlt)
        simp only [Nat.ne_of_lt hlt, and_false, not_false_eq_true, iff_true]
        constructor
        · simp [hencode, encoding, hshort, hlt]
        · simp [hencode]
        · simpa [hencode] using hdest
      · obtain ⟨dest, hencode, hdest⟩ := encode_true_of_le (Nat.le_of_eq heq)
        simp only [heq, and_self, not_true_eq_false, iff_false]
        intro h
        have hok := h.ok_iff.mpr (Nat.le_refl _)
        rw [← heq, hencode] at hok
        exact hshort hok
      · have hencode := encode_true_of_lt hgt
        simp only [Nat.ne_of_gt hgt, and_false, not_false_eq_true, iff_true]
        constructor
        · simp [hencode, encoding, Nat.le_of_lt hgt]
        · simp [hencode]
        · simp [hencode, Nat.le_of_lt hgt]
  | false =>
      simp only [Bool.false_eq_true, false_and, not_false_eq_true, iff_true]
      rcases Nat.lt_or_ge maxDestLen (escapeAll e.escape payload).length with hlt | hge
      · obtain ⟨dest, hencode, hdest⟩ := encode_false_of_lt hlt
        constructor
        · simp [hencode, encoding, hshort, hlt]
        · simp [hencode]
        · simpa [hencode] using hdest
      · have hencode := encode_false_of_le hge
        constructor
        · simp [hencode, encoding, hge]
        · simp [hencode]
        · simpa [hencode] using hge

/-! ### Decoding -/

theorem decodeEnd_full {maxDestStreamlen : ℕ} (encodedIndex : ℕ) {dest : List UInt8}
    (h : dest.length = maxDestStreamlen) :
  decodeEnd maxDestStreamlen encodedIndex dest = ⟨streamTooShort, 0, dest, none⟩
  := by
  rw [decodeEnd, if_pos h]

/-- The loop stops when the destination stream is full. -/
theorem decodeLoopNonEscaped_full {maxDestStreamlen : ℕ} (source : List UInt8)
    (encodedIndex : ℕ) {dest : List UInt8} (h : ¬ dest.length < maxDestStreamlen) :
  decodeLoopNonEscaped maxDestStreamlen source encodedIndex dest =
  decodeEnd maxDestStreamlen encodedIndex dest
  := by
  cases source with
  | nil =>
      rw [decodeLoopNonEscaped]
  | cons byte source =>
      rw [decodeLoopNonEscaped.eq_def]
      simp [h]

/-- A loop that decodes the bytes of a payload one after another and stops when the destination is
full fills the destination when it is not longer than the payload. -/
theorem loop_of_le (loop : List UInt8 → ℕ → List UInt8 → DecodeResult)
    {escape : UInt8 → Option UInt8} {maxDestStreamlen : ℕ}
    (hbyte : ∀ byte source encodedIndex dest, dest.length < maxDestStreamlen →
      loop (escapeByte escape byte ++ source) encodedIndex dest =
        loop source (encodedIndex + (escapeByte escape byte).length) (dest ++ [byte]))
    (hfull : ∀ source encodedIndex dest, ¬ dest.length < maxDestStreamlen →
      loop source encodedIndex dest = decodeEnd maxDestStreamlen encodedIndex dest)
    (payload source : List UInt8) (encodedIndex : ℕ) (dest : List UInt8)
    (hdest : dest.length ≤ maxDestStreamlen)
    (h : maxDestStreamlen ≤ dest.length + payload.length) :
  ∃ dest', loop (escapeAll escape payload ++ source) encodedIndex dest =
    ⟨streamTooShort, 0, dest', none⟩ ∧ dest'.length ≤ maxDestStreamlen
  := by
  induction payload generalizing encodedIndex dest with
  | nil =>
      rw [List.length_nil, Nat.add_zero] at h
      rw [hfull _ _ _ (Nat.not_lt.mpr h), decodeEnd_full _ (Nat.le_antisymm hdest h)]
      use dest
  | cons byte payload ih =>
      rcases Nat.lt_or_ge dest.length maxDestStreamlen with hlt | hge
      · rw [escapeAll_cons, List.append_assoc, hbyte _ _ _ _ hlt]
        apply ih
        · simpa using hlt
        · simp at h ⊢
          omega
      · rw [hfull _ _ _ (Nat.not_lt.mpr hge), decodeEnd_full _ (Nat.le_antisymm hdest hge)]
        use dest

/-- A destination that is not longer than the payload is too short. -/
theorem decode_of_le {e : DleEncoder} {payload : List UInt8} {maxDestStreamlen : ℕ}
    (h : maxDestStreamlen ≤ payload.length) :
  ∃ dest, e.decode (e.frame payload) maxDestStreamlen = some ⟨streamTooShort, 0, dest, none⟩ ∧
    dest.length ≤ maxDestStreamlen
  := by
  cases hescaped : e.escapeStxEtx with
  | true =>
      simp only [decode, decodeStreamEscaped, frame, opening, closing, escape, hescaped, if_true,
        List.cons_append, List.nil_append]
      by_cases hone : maxDestStreamlen < 1
      · rw [if_pos hone]
        use []
        simp
      · rw [if_neg hone, if_neg (by simp)]
        obtain ⟨dest, hloop, hdest⟩ := loop_of_le
          (decodeLoopEscaped e.escapeCr maxDestStreamlen)
          (fun byte source encodedIndex _ => decodeLoopEscaped_escapeByte byte source encodedIndex)
          (fun source encodedIndex _ => decodeLoopEscaped_full e.escapeCr source encodedIndex)
          payload [etxChar] 1 [] (Nat.zero_le maxDestStreamlen) (by simpa using h)
        rw [hloop]
        use dest
  | false =>
      simp only [decode, decodeStreamNonEscaped, frame, opening, closing, escape, hescaped,
        List.cons_append, List.nil_append, Bool.false_eq_true, if_false]
      by_cases htwo : maxDestStreamlen < 2
      · rw [if_pos htwo]
        use []
        simp
      · rw [if_neg htwo, if_neg (by simp), if_neg (by simp)]
        obtain ⟨dest, hloop, hdest⟩ := loop_of_le
          (decodeLoopNonEscaped maxDestStreamlen)
          (fun byte source encodedIndex _ => decodeLoopNonEscaped_escapeByte byte source encodedIndex)
          (fun source encodedIndex _ => decodeLoopNonEscaped_full source encodedIndex)
          payload [dleChar, etxChar] 2 [] (Nat.zero_le maxDestStreamlen) (by simpa using h)
        rw [hloop]
        use dest

/-- In the non-escaped variant, a destination of one byte is too short for every payload. -/
theorem decode_of_one {e : DleEncoder} (he : e.escapeStxEtx = false) (payload : List UInt8) :
  e.decode (e.frame payload) 1 = some ⟨streamTooShort, 0, [], none⟩
  := by
  simp only [decode, he, Bool.false_eq_true, if_false, decodeStreamNonEscaped]
  rw [if_pos (by decide)]

/-- The decoder keeps to the size of the destination, unless the payload is just as long, or a
frame of the non-escaped variant is empty and the destination has one byte. -/
theorem decodeTight_iff (e : DleEncoder) (payload : List UInt8) (maxDestStreamlen : ℕ) :
  DecodeTight e payload maxDestStreamlen ↔
    maxDestStreamlen ≠ payload.length ∧
      ¬ (e.escapeStxEtx = false ∧ payload = [] ∧ maxDestStreamlen = 1)
  := by
  have hshort : streamTooShort ≠ .ok := by decide
  rcases Nat.lt_trichotomy maxDestStreamlen payload.length with hlt | heq | hgt
  · obtain ⟨dest, hdecode, hdest⟩ := decode_of_le (e := e) (Nat.le_of_lt hlt)
    have hne : ¬ (e.escapeStxEtx = false ∧ payload = [] ∧ maxDestStreamlen = 1) := by
      rintro ⟨-, rfl, -⟩
      simp at hlt
    simp only [Nat.ne_of_lt hlt, ne_eq, not_false_eq_true, hne, and_self, iff_true]
    refine ⟨_, hdecode, ?_⟩
    simp [hshort, hlt, hdest]
  · obtain ⟨dest, hdecode, hdest⟩ := decode_of_le (e := e) (Nat.le_of_eq heq)
    simp only [heq, ne_eq, not_true_eq_false, false_and, iff_false]
    rintro ⟨result, hresult, hok, -⟩
    rw [heq] at hdecode
    cases hdecode.symm.trans hresult
    exact hshort (hok.mpr (Nat.le_refl _))
  · by_cases hone : e.escapeStxEtx = false ∧ maxDestStreamlen = 1
    · obtain ⟨he, rfl⟩ := hone
      have hnil : payload = [] := List.eq_nil_of_length_eq_zero (by omega)
      simp only [he, hnil, and_self, not_true_eq_false, and_false, iff_false]
      rintro ⟨result, hresult, hok, -⟩
      cases (decode_of_one he []).symm.trans hresult
      exact hshort (hok.mpr (Nat.zero_le _))
    · have hmode : e.escapeStxEtx = false → 2 ≤ maxDestStreamlen := by
        intro he
        have hmax : maxDestStreamlen ≠ 1 := fun hmax => hone ⟨he, hmax⟩
        omega
      have hdecode := decode_frame e [] hgt hmode
      rw [List.append_nil] at hdecode
      have hne : ¬ (e.escapeStxEtx = false ∧ payload = [] ∧ maxDestStreamlen = 1) := by
        rintro ⟨he, -, hmax⟩
        exact hone ⟨he, hmax⟩
      simp only [Nat.ne_of_gt hgt, ne_eq, not_false_eq_true, hne, and_self, iff_true]
      refine ⟨_, hdecode, ?_⟩
      simp [Nat.le_of_lt hgt]

/-- The encoder and the decoder keep to the sizes of their destinations exactly when no destination
is just as long as the frame or the payload, and none of one byte is given for an empty frame of the
non-escaped variant. -/
theorem tight_iff (e : DleEncoder) (payload : List UInt8) (maxDestLen : ℕ) (addStxEtx : Bool)
    (maxDestStreamlen : ℕ) :
  EncodeTight e payload maxDestLen addStxEtx ∧ DecodeTight e payload maxDestStreamlen ↔
    ¬ (addStxEtx = true ∧ maxDestLen = (e.frame payload).length) ∧
    maxDestStreamlen ≠ payload.length ∧
    ¬ (e.escapeStxEtx = false ∧ payload = [] ∧ maxDestStreamlen = 1)
  := by
  rw [encodeTight_iff, decodeTight_iff]

/-- The frame of one byte has three bytes, and is encoded into four only; the payload is decoded
into two bytes only. -/
theorem not_tight_one :
  ¬ EncodeTight ⟨true, false⟩ [0x05] 3 true ∧ ¬ DecodeTight ⟨true, false⟩ [0x05] 1
  := by
  constructor
  · intro h
    exact absurd (h.ok_iff.mpr (by decide)) (by decide)
  · rintro ⟨result, hresult, hok, -⟩
    cases hresult
    exact absurd (hok.mpr (by decide)) (by decide)

end DleEncoder
