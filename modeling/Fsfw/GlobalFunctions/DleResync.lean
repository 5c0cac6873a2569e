import Fsfw.GlobalFunctions.DleEncoder

/-!
# Going on after a frame that was cut off

When the end of an escaped frame is lost, the decoder finds the start of the next frame, and gives
the number of bytes after which decoding can be resumed.  If the bytes `g` that are left of the
first frame end with a whole byte or escape, or with an invalid escape, this is just the number of
bytes in front of the next frame.

There are two other cases (`resynchronises_iff`).  When the last byte of `g` is the DLE of an
escape, the start of the next frame is taken for the byte that was escaped, and is read with it.
When there is an invalid escape further in front, decoding can be resumed only at a byte that does
not start a frame, where the decoder reads nothing.
-/

namespace DleEncoder

/-- No escape is cut off at the end of the bytes, and no escape is invalid, unless it is their
end. -/
def EndsWhole (escapeCr : Bool) : List UInt8 → Bool
  | [] => true
  | [byte] => byte ≠ dleChar
  | byte :: nextByte :: bytes =>
      if byte = dleChar then
        if nextByte = dleChar ∨ IsShifted escapeCr nextByte then
          EndsWhole escapeCr bytes
        else
          bytes = []
      else
        EndsWhole escapeCr (nextByte :: bytes)

/-- Decode the stream, and resume behind the bytes that were read as long as there is a decoding
error, until a payload is found. -/
def resume (e : DleEncoder) (maxDestStreamlen : ℕ) : ℕ → List UInt8 → Option (List UInt8)
  | 0, _ => none
  | rounds + 1, stream =>
      match e.decode stream maxDestStreamlen with
      | some ⟨.ok, _, destStream, some decodedLen⟩ => some (destStream.take decodedLen)
      | some ⟨status, readLen, _, _⟩ =>
          if status = decodingError then
            e.resume maxDestStreamlen rounds (stream.drop readLen)
          else
            none
      | none => none

/-- The stream of STX, the bytes `g` and the frame of a payload is not decoded, but bytes in front
of the frame are read, and decoding is resumed until the payload is found. -/
def Resynchronises (e : DleEncoder) (g payload : List UInt8) (maxDestStreamlen : ℕ) : Prop :=
  ∃ readLen dest, e.decode (stxChar :: (g ++ e.frame payload)) maxDestStreamlen =
      some ⟨decodingError, readLen, dest, none⟩ ∧
    1 ≤ readLen ∧ readLen ≤ 1 + g.length ∧
    ∃ rounds, e.resume maxDestStreamlen rounds
      ((stxChar :: (g ++ e.frame payload)).drop readLen) = some payload

/-- The start of a frame ends the loop. -/
theorem decodeLoopEscaped_stxChar (escapeCr : Bool) {maxDestStreamlen : ℕ}
    (source : List UInt8) (encodedIndex : ℕ) {dest : List UInt8}
    (h : dest.length < maxDestStreamlen) :
  decodeLoopEscaped escapeCr maxDestStreamlen (stxChar :: source) encodedIndex dest =
  ⟨decodingError, encodedIndex, dest, none⟩
  := by
  rw [decodeLoopEscaped.eq_def]
  simp [h, dleChar_ne_stxChar.symm]

/-- Where the loop stops when the next frame starts behind the bytes `g`: at its start, exactly
when `g` ends with a whole byte or escape, or with an invalid one. -/
theorem decodeLoopEscaped_append_stxChar (escapeCr : Bool) {maxDestStreamlen : ℕ}
    (source : List UInt8) :
    ∀ {g : List UInt8}, IsFree g → ∀ (encodedIndex : ℕ) (dest : List UInt8),
      dest.length + g.length < maxDestStreamlen →
  ∃ readLen dest', decodeLoopEscaped escapeCr maxDestStreamlen (g ++ stxChar :: source)
      encodedIndex dest = ⟨decodingError, readLen, dest', none⟩ ∧
    encodedIndex ≤ readLen ∧ readLen ≤ encodedIndex + g.length + 1 ∧
    (readLen = encodedIndex + g.length ↔ EndsWhole escapeCr g = true)
  | [], _, encodedIndex, dest, h => by
      use encodedIndex, dest, decodeLoopEscaped_stxChar escapeCr source encodedIndex h
      simp [EndsWhole]
  | [byte], hfree, encodedIndex, dest, h => by
      obtain ⟨⟨hstx, hetx⟩, hnil⟩ := isFree_cons.mp hfree
      have hroom : dest.length < maxDestStreamlen := by omega
      by_cases hdle : byte = dleChar
      · -- the start of the frame is taken for the escaped byte
        have hshifted : ¬ IsShifted escapeCr stxChar := by
          cases escapeCr <;> decide
        rw [hdle, List.singleton_append, decodeLoopEscaped_dleChar _ _ _ _ hroom,
          if_neg dleChar_ne_stxChar.symm, if_neg hshifted]
        use encodedIndex + 2, dest, rfl
        simp [EndsWhole]
      · rw [List.singleton_append, decodeLoopEscaped_plain _ _ hroom hdle hstx hetx]
        obtain ⟨readLen, dest', hloop, hle, hge, hiff⟩ :=
          decodeLoopEscaped_append_stxChar escapeCr source hnil (encodedIndex + 1) (dest ++ [byte])
            (by simp at h ⊢; omega)
        use readLen, dest', hloop
        simp [EndsWhole, hdle] at *
        omega
  | byte :: nextByte :: bytes, hfree, encodedIndex, dest, h => by
      obtain ⟨⟨hstx, hetx⟩, hfree'⟩ := isFree_cons.mp hfree
      obtain ⟨-, hfree''⟩ := isFree_cons.mp hfree'
      simp only [List.length_cons] at h
      have hroom : dest.length < maxDestStreamlen := by omega
      by_cases hdle : byte = dleChar
      · by_cases hescape : nextByte = dleChar ∨ IsShifted escapeCr nextByte
        · obtain ⟨byte', hstep⟩ : ∃ byte', decodeLoopEscaped escapeCr maxDestStreamlen
              (dleChar :: nextByte :: (bytes ++ stxChar :: source)) encodedIndex dest =
              decodeLoopEscaped escapeCr maxDestStreamlen (bytes ++ stxChar :: source)
                (encodedIndex + 2) (dest ++ [byte']) := by
            rw [decodeLoopEscaped_dleChar _ _ _ _ hroom]
            by_cases hdle' : nextByte = dleChar
            · rw [if_pos hdle']
              exact ⟨_, rfl⟩
            · rw [if_neg hdle', if_pos (hescape.resolve_left hdle')]
              exact ⟨_, rfl⟩
          have hlen : (dest ++ [byte']).length + bytes.length < maxDestStreamlen := by
            simp
            omega
          obtain ⟨readLen, dest', hloop, hle, hge, hiff⟩ :=
            decodeLoopEscaped_append_stxChar escapeCr source hfree'' (encodedIndex + 2) _ hlen
          use readLen, dest'
          rw [hdle, List.cons_append, List.cons_append, hstep]
          use hloop
          simp only [EndsWhole, if_pos hescape, if_true, List.length_cons]
          rw [← hiff]
          omega
        · -- an invalid escape is read, whatever comes after it
          have hdle' : nextByte ≠ dleChar := fun heq => hescape (.inl heq)
          have hshifted : ¬ IsShifted escapeCr nextByte := fun hs => hescape (.inr hs)
          use encodedIndex + 2, dest
          rw [hdle, List.cons_append, List.cons_append, decodeLoopEscaped_dleChar _ _ _ _ hroom,
            if_neg hdle', if_neg hshifted]
          use rfl
          simp only [EndsWhole, if_neg hescape, if_true, List.length_cons, decide_eq_true_eq]
          rw [← List.length_eq_zero_iff]
          omega
      · have hlen : (dest ++ [byte]).length + (nextByte :: bytes).length < maxDestStreamlen := by
          simp
          omega
        obtain ⟨readLen, dest', hloop, hle, hge, hiff⟩ :=
          decodeLoopEscaped_append_stxChar escapeCr source hfree' (encodedIndex + 1) _ hlen
        use readLen, dest'
        rw [List.cons_append, decodeLoopEscaped_plain _ _ hroom hdle hstx hetx]
        use hloop
        simp only [EndsWhole, if_neg hdle, List.length_cons] at *
        rw [← hiff]
        omega

/-- A stream that does not start a frame is not read. -/
theorem resume_of_ne_stxChar {e : DleEncoder} (he : e.escapeStxEtx = true) {maxDestStreamlen : ℕ}
    (hmax : 1 ≤ maxDestStreamlen) {byte : UInt8} (hbyte : byte ≠ stxChar) (stream : List UInt8)
    (rounds : ℕ) :
  e.resume maxDestStreamlen rounds (byte :: stream) = none
  := by
  have hdecode : e.decode (byte :: stream) maxDestStreamlen =
      some ⟨decodingError, 0, [], none⟩ := by
    rw [decode, if_pos he, decodeStreamEscaped, if_neg (by omega)]
    simp only [if_pos hbyte]
  induction rounds with
  | zero =>
      rfl
  | succ rounds ih =>
      rw [resume, hdecode]
      simp only [if_true, List.drop_zero]
      apply ih

/-- A frame is found in one round. -/
theorem resume_frame (e : DleEncoder) {payload : List UInt8} {maxDestStreamlen : ℕ}
    (h : payload.length < maxDestStreamlen)
    (hmode : e.escapeStxEtx = false → 2 ≤ maxDestStreamlen) :
  e.resume maxDestStreamlen 1 (e.frame payload) = some payload
  := by
  have hdecode := decode_frame e [] h hmode
  rw [List.append_nil] at hdecode
  rw [resume, hdecode]
  simp

/-- Decoding is resumed at the frame exactly when the bytes in front of it end with a whole byte or
escape, or with an invalid escape, and no invalid escape comes before. -/
theorem resynchronises_iff {e : DleEncoder} (he : e.escapeStxEtx = true) {g : List UInt8}
    (hg : IsFree g) (payload : List UInt8) {maxDestStreamlen : ℕ}
    (hmax : g.length < maxDestStreamlen) (hmax' : payload.length < maxDestStreamlen) :
  Resynchronises e g payload maxDestStreamlen ↔ EndsWhole e.escapeCr g = true
  := by
  have hframe : e.frame payload = stxChar :: (escapeAll e.escape payload ++ e.closing) := by
    rw [frame, opening, if_pos he]
    rfl
  obtain ⟨readLen, dest, hloop, hle, hge, hiff⟩ :=
    decodeLoopEscaped_append_stxChar e.escapeCr
      (escapeAll e.escape payload ++ e.closing) hg 1 [] (by simpa using hmax)
  have hdecode : e.decode (stxChar :: (g ++ e.frame payload)) maxDestStreamlen =
      some ⟨decodingError, readLen, dest, none⟩ := by
    rw [decode, if_pos he, decodeStreamEscaped, if_neg (by omega), hframe]
    simp only [ne_eq, not_true_eq_false, if_false, hloop]
  rw [← hiff]
  constructor
  · rintro ⟨readLen', dest', hdecode', hone, hbound, rounds, hresume⟩
    cases hdecode.symm.trans hdecode'
    apply Nat.le_antisymm hbound
    apply Nat.le_of_not_lt
    intro hlt
    -- what is left of `g` does not start with STX
    obtain ⟨k, rfl⟩ := Nat.exists_eq_add_of_le' hone
    obtain ⟨byte, rest, hdrop⟩ : ∃ byte rest, g.drop k = byte :: rest := by
      apply List.exists_cons_of_ne_nil
      rw [ne_eq, List.drop_eq_nil_iff]
      omega
    have hbyte : byte ∈ g := by
      apply List.mem_of_mem_drop
      rw [hdrop]
      apply List.mem_cons_self
    rw [List.drop_succ_cons, List.drop_append_of_le_length (by omega), hdrop, List.cons_append,
      resume_of_ne_stxChar he (by omega) (hg byte hbyte).1] at hresume
    cases hresume
  · intro heq
    refine ⟨readLen, dest, hdecode, hle, Nat.le_of_eq heq, 1, ?_⟩
    have hdrop : (stxChar :: (g ++ e.frame payload)).drop readLen = e.frame payload := by
      rw [heq, Nat.add_comm, List.drop_succ_cons, List.drop_left]
    rw [hdrop]
    apply resume_frame e hmax'
    simp [he]

/-- Decoding is resumed behind five bytes, of which the last two are an invalid escape. -/
theorem resynchronises_iff_five :
  Resynchronises ⟨true, false⟩ [0x05, 0x10, 0x10, 0x10, 0x07] [0x02] 8
  := by
  apply (resynchronises_iff _ _ _ _ _).mpr
  · decide
  · decide
  · intro byte hbyte
    simp at hbyte
    rcases hbyte with rfl | rfl | rfl <;> decide
  · decide
  · decide

/-- The first byte of the frame is read when a DLE comes before it. -/
theorem not_resynchronises_dle :
  ¬ Resynchronises ⟨true, false⟩ [0x05, 0x10] [0x07] 8
  := by
  rintro ⟨readLen, dest, hdecode, hone, hbound, -⟩
  cases hdecode
  exact absurd hbound (by decide)

end DleEncoder
