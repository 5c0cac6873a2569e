import Fsfw.GlobalFunctions.DleParser

/-!
# Streams through the DLE parser

The scan of the parser is a scanner: what it reports depends on a prefix of the bytes only
(`scanner`).  As the ring buffer represents a queue of bytes, the calls of the parser on a
ring buffer act on the content of the queue as the scanner does (`parseAll_eq`,
`passChunks_eq`).  Hence the results of a stream do not depend on its chunks, and a frame at
the end of a stream is delivered last.

This is so exactly for streams of fewer than `2 ^ 32` bytes (`chunkInsensitive_iff`).  The
ring buffer moves its pointers by a number of 32 bits, so a longer chunk is not stored as it
should be.
-/

namespace DleParser

open DleEncoder (stxChar etxChar IsFree isFree_cons)

/-! ### The scan as a scanner -/

/-- The scan has come to `rest`, and from the first STX on it has only met bytes that delimit
no frame. -/
structure Scanned (encoded rest : List UInt8) (vectorIdx : ℕ) (stxIdx : Option ℕ) : Prop where
  drop_eq : encoded.drop vectorIdx = rest
  le_length : vectorIdx ≤ encoded.length
  since_stx : ∀ k, stxIdx = some k → k < vectorIdx ∧
    ∃ bytes, encoded.drop k = stxChar :: (bytes ++ rest) ∧ IsFree bytes

section

variable {decoder : DleEncoder} {decodedBufSize : ℕ} {encoded rest : List UInt8}
  {vectorIdx : ℕ} {stxIdx : Option ℕ} {byte : UInt8}

theorem scanned_start (encoded : List UInt8) :
  Scanned encoded encoded 0 none
  := by
  constructor
  · rfl
  · apply Nat.zero_le
  · intro k hk
    cases hk

theorem Scanned.lt_length (h : Scanned encoded (byte :: rest) vectorIdx stxIdx) :
  vectorIdx < encoded.length
  := by
  have hlen := congrArg List.length h.drop_eq
  rw [List.length_drop, List.length_cons] at hlen
  omega

theorem Scanned.drop_succ (h : Scanned encoded (byte :: rest) vectorIdx stxIdx) :
  encoded.drop (vectorIdx + 1) = rest
  := by
  rw [← List.drop_drop, h.drop_eq]
  rfl

/-- The scan goes on behind the first STX. -/
theorem Scanned.stx (h : Scanned encoded (stxChar :: rest) vectorIdx none) :
  Scanned encoded rest (vectorIdx + 1) (some vectorIdx)
  := by
  constructor
  · apply h.drop_succ
  · apply h.lt_length
  · rintro k ⟨⟩
    use Nat.lt_succ_self vectorIdx, []
    rw [h.drop_eq]
    simp [IsFree]

/-- The scan goes on behind a byte that delimits no frame. -/
theorem Scanned.plain (h : Scanned encoded (byte :: rest) vectorIdx stxIdx)
    (hstx : byte ≠ stxChar) (hetx : byte ≠ etxChar) :
  Scanned encoded rest (vectorIdx + 1) stxIdx
  := by
  constructor
  · apply h.drop_succ
  · apply h.lt_length
  · intro k hk
    obtain ⟨hlt, bytes, hdrop, hfree⟩ := h.since_stx k hk
    use Nat.lt_succ_of_lt hlt, bytes ++ [byte]
    rw [hdrop]
    simp only [List.append_assoc, List.singleton_append, true_and]
    apply DleEncoder.isFree_append.mpr ⟨hfree, isFree_cons.mpr ⟨⟨hstx, hetx⟩, _⟩⟩
    simp [IsFree]

/-- The context of a report does not depend on the context before the call. -/
theorem setErrorContext_eq (ctx : Context) (err : ErrorTypes) (info : ErrorInfo) :
  ctx.setErrorContext err info = ⟨.error, none, (err, info)⟩
  := rfl

/-- The report on a frame depends on the bytes up to its ETX only, and is a packet or a
possible loss of packets. -/
theorem decodeFrame_cases (hd : decoder.escapeStxEtx = true) {bytes : List UInt8}
    (hfree : IsFree bytes) (readSize : ℕ) :
  ∃ result ctx', (result = .ok ∨ result = possiblePacketLoss) ∧
    ∀ ctx t, decodeFrame decoder decodedBufSize (stxChar :: (bytes ++ etxChar :: t)) readSize ctx =
      .report result readSize ctx'
  := by
  have hdecode : ∃ r, decoder.decode (stxChar :: (bytes ++ [etxChar])) decodedBufSize = some r := by
    simp only [DleEncoder.decode, hd, if_true, DleEncoder.decodeStreamEscaped]
    split_ifs
    · exact ⟨_, rfl⟩
    · exact ⟨_, rfl⟩
    · exact ⟨_, rfl⟩
  obtain ⟨⟨status, readLen, destStream, decodedLen⟩, hr⟩ := hdecode
  simp only [decodeFrame, DleEncoder.decode_append hd hfree, hr]
  cases status with
  | ok =>
      exact ⟨_, ⟨.packetFound, some (destStream.take (decodedLen.getD 0)), (.none, .len 0)⟩,
        Or.inl rfl, fun ctx t => rfl⟩
  | failed =>
      exact ⟨_, ⟨.error, none, (.decodeError, .res .failed)⟩, Or.inr rfl, fun ctx t => rfl⟩
  | makeCode classId number =>
      exact ⟨_, ⟨.error, none, (.decodeError, .res (.makeCode classId number))⟩, Or.inr rfl,
        fun ctx t => rfl⟩

/-- What a scan finds: nothing, or a packet or a possible loss of packets, which depends
neither on the bytes that come later nor on the context. -/
theorem scan_cases (hd : decoder.escapeStxEtx = true)
    (h : Scanned encoded rest vectorIdx stxIdx) :
  (∀ ctx, scan decoder decodedBufSize encoded ctx rest vectorIdx stxIdx = .noPacket) ∨
  ∃ result readSize ctx', (result = .ok ∨ result = possiblePacketLoss) ∧
    0 < readSize ∧ readSize ≤ encoded.length ∧
    ∀ ctx t, scan decoder decodedBufSize (encoded ++ t) ctx (rest ++ t) vectorIdx stxIdx =
      .report result readSize ctx'
  := by
  induction rest generalizing vectorIdx stxIdx with
  | nil =>
      left
      intro ctx
      rfl
  | cons byte rest ih =>
      by_cases hstx : byte = stxChar
      · cases stxIdx with
        | none =>
            simp only [scan, List.cons_append, if_pos hstx]
            apply ih
            rw [hstx] at h
            apply h.stx
        | some k =>
            right
            have hlt := (h.since_stx k rfl).1
            simp only [scan, List.cons_append, if_pos hstx, setErrorContext_eq]
            refine ⟨_, _, _, Or.inr rfl, ?_, h.le_length, fun ctx t => rfl⟩
            omega
      · by_cases hetx : byte = etxChar
        · right
          cases stxIdx with
          | none =>
              simp only [scan, List.cons_append, if_neg hstx, if_pos hetx, setErrorContext_eq]
              exact ⟨_, _, _, Or.inr rfl, Nat.succ_pos vectorIdx, h.lt_length, fun ctx t => rfl⟩
          | some k =>
              obtain ⟨hlt, bytes, hdrop, hfree⟩ := h.since_stx k rfl
              obtain ⟨result, ctx', hresult, hreport⟩ :=
                decodeFrame_cases hd hfree (vectorIdx + 1)
              use result, vectorIdx + 1, ctx', hresult, Nat.succ_pos vectorIdx, h.lt_length
              intro ctx t
              have hdrop' : (encoded ++ t).drop k =
                  stxChar :: (bytes ++ etxChar :: (rest ++ t)) := by
                rw [List.drop_append_of_le_length
                  (Nat.le_trans (Nat.le_of_lt hlt) h.le_length), hdrop, hetx]
                simp
              simp only [scan, List.cons_append, if_neg hstx, if_pos hetx, hdrop']
              apply hreport
        · simp only [scan, List.cons_append, if_neg hstx, if_neg hetx]
          apply ih (h.plain hstx hetx)

end

/-- What a scan of all the bytes finds. -/
def next (decoder : DleEncoder) (decodedBufSize : ℕ) (encoded : List UInt8) :
    Option ((ReturnValue × Context) × ℕ) :=
  match scan decoder decodedBufSize encoded ⟨.none, none, (.none, .len 0)⟩ encoded 0 none with
  | .report result readSize ctx => some ((result, ctx), readSize)
  | _ => none

section

variable {decoder : DleEncoder} (hd : decoder.escapeStxEtx = true) {decodedBufSize : ℕ}
include hd

/-- Either a scan finds nothing, or its report is a packet or a possible loss of packets and
depends neither on the bytes that come later nor on the context. -/
theorem next_cases (decodedBufSize : ℕ) (encoded : List UInt8) :
  (next decoder decodedBufSize encoded = none ∧
    ∀ ctx, scan decoder decodedBufSize encoded ctx encoded 0 none = .noPacket) ∨
  ∃ result readSize ctx', (result = .ok ∨ result = possiblePacketLoss) ∧
    0 < readSize ∧ readSize ≤ encoded.length ∧
    (∀ t, next decoder decodedBufSize (encoded ++ t) = some ((result, ctx'), readSize)) ∧
    ∀ ctx, scan decoder decodedBufSize encoded ctx encoded 0 none = .report result readSize ctx'
  := by
  rcases scan_cases hd (scanned_start encoded) with
    h | ⟨result, readSize, ctx', hresult, hpos, hle, h⟩
  · left
    rw [next, h]
    exact ⟨rfl, h⟩
  · right
    use result, readSize, ctx', hresult, hpos, hle
    constructor
    · intro t
      rw [next, h]
    · intro ctx
      have hnil := h ctx []
      rwa [List.append_nil] at hnil

theorem next_some {encoded : List UInt8} {item : ReturnValue × Context} {readSize : ℕ}
    (h : next decoder decodedBufSize encoded = some (item, readSize)) :
  0 < readSize ∧ readSize ≤ encoded.length ∧
  ∀ t, next decoder decodedBufSize (encoded ++ t) = some (item, readSize)
  := by
  rcases next_cases hd decodedBufSize encoded with
    ⟨hnone, -⟩ | ⟨result, k, ctx', -, hpos, hle, happend, -⟩
  · rw [hnone] at h
    cases h
  · have hnil := happend []
    rw [List.append_nil, h] at hnil
    cases hnil
    exact ⟨hpos, hle, happend⟩

/-- The scanner of an escaped stream. -/
def scanner (decodedBufSize : ℕ) : Scanner UInt8 (ReturnValue × Context) where
  next := next decoder decodedBufSize
  next_pos h := (next_some hd h).1
  next_le h := (next_some hd h).2.1
  next_append h := (next_some hd h).2.2

end

/-! ### The parser on the bytes it holds -/

/-- The parser holds the bytes `content`, and has room for up to `limit` bytes. -/
structure Holds (decoder : DleEncoder) (decodedBufSize limit : ℕ) (p : DleParser)
    (content : List UInt8) : Prop where
  decoder_eq : p.decoder = decoder
  decodedBufSize_eq : p.decodedBufSize = decodedBufSize
  limit_le : limit ≤ p.encodedBufSize
  ring : ∃ q : ByteQueue, p.decodeRingBuf.Represents q ∧ q.content = content ∧ limit < q.size

namespace Holds

variable {decoder : DleEncoder} {decodedBufSize limit : ℕ} {p : DleParser}
  {content : List UInt8}

theorem getAvailableReadData_eq (h : Holds decoder decodedBufSize limit p content) :
  p.decodeRingBuf.getAvailableReadData = content.length
  := by
  obtain ⟨q, hq, rfl, -⟩ := h.ring
  apply hq.getAvailableReadData_eq

theorem unread_eq (h : Holds decoder decodedBufSize limit p content) :
  p.unread = some content
  := by
  rw [unread, h.getAvailableReadData_eq]
  obtain ⟨q, hq, rfl, -⟩ := h.ring
  rw [SimpleRingBuffer.copyUnread_eq hq (Nat.le_refl _), List.take_length]

/-- The context plays no part in what the parser holds. -/
theorem withCtx (h : Holds decoder decodedBufSize limit p content) (ctx : Context) :
  Holds decoder decodedBufSize limit { p with ctx := ctx } content
  := by
  constructor
  · apply h.decoder_eq
  · apply h.decodedBufSize_eq
  · apply h.limit_le
  · apply h.ring

/-- Bytes that are passed are held behind the earlier ones. -/
theorem passData_eq (h : Holds decoder decodedBufSize limit p content) (chunk : List UInt8)
    (hlen : content.length + chunk.length ≤ limit) (h32 : limit < 2 ^ 32) :
  ∃ result p', p.passData (some chunk) = some (result, p') ∧
    Holds decoder decodedBufSize limit p' (content ++ chunk)
  := by
  cases chunk with
  | nil =>
      use .failed, p
      rw [List.append_nil]
      exact ⟨rfl, h⟩
  | cons byte bytes =>
      obtain ⟨q, hq, rfl, hsize⟩ := h.ring
      have hfits : q.Fits (byte :: bytes) := Nat.lt_of_le_of_lt hlen hsize
      obtain ⟨r, hwrite, -, hr⟩ := SimpleRingBuffer.writeData_of_fits hq hfits (by omega)
      use .ok, { p with decodeRingBuf := r }
      constructor
      · simp [passData, hwrite]
      · constructor
        · apply h.decoder_eq
        · apply h.decodedBufSize_eq
        · apply h.limit_le
        · use q.append (byte :: bytes) hfits, hr, rfl, hsize

/-- Bytes that are confirmed are held no longer. -/
theorem confirmBytesRead_eq (h : Holds decoder decodedBufSize limit p content) {bytesRead : ℕ}
    (hle : bytesRead ≤ content.length) (h32 : bytesRead < 2 ^ 32) :
  Holds decoder decodedBufSize limit (p.confirmBytesRead bytesRead).2 (content.drop bytesRead)
  := by
  obtain ⟨q, hq, rfl, hsize⟩ := h.ring
  rw [confirmBytesRead, SimpleRingBuffer.deleteData_of_le hq hle]
  constructor
  · apply h.decoder_eq
  · apply h.decodedBufSize_eq
  · apply h.limit_le
  · use q.drop bytesRead, hq.drop hle h32, rfl, hsize

/-- The parser reports what the scanner finds in the bytes it holds. -/
theorem parseRingBuf_eq (h : Holds decoder decodedBufSize limit p content)
    (hd : decoder.escapeStxEtx = true) (hlen : content.length ≤ limit) (readSize : ℕ) :
  (next decoder decodedBufSize content = none ∧
    ∃ ctx, p.parseRingBuf readSize = some (noPacketFound, readSize, { p with ctx := ctx })) ∨
  ∃ result k ctx, next decoder decodedBufSize content = some ((result, ctx), k) ∧
    result ≠ noPacketFound ∧
    p.parseRingBuf readSize = some (result, k, { p with ctx := ctx })
  := by
  have hlimit := h.limit_le
  by_cases hnil : content = []
  · left
    refine ⟨by rw [hnil]; rfl, p.ctx.setType .none, ?_⟩
    simp [parseRingBuf, h.getAvailableReadData_eq, hnil]
  · have hread : p.decodeRingBuf.readData content.length false false =
        some (.ok, some content, p.decodeRingBuf) := by
      obtain ⟨q, hq, rfl, -⟩ := h.ring
      rw [SimpleRingBuffer.readData_of_le hq (Nat.le_refl _), List.take_length]
      rfl
    have hpos : ¬ content.length = 0 := by
      rwa [List.length_eq_zero_iff]
    simp only [parseRingBuf, h.getAvailableReadData_eq, if_neg hpos,
      if_neg (show ¬ content.length > p.encodedBufSize by omega), hread, Option.getD_some,
      h.decoder_eq, h.decodedBufSize_eq]
    rcases next_cases hd decodedBufSize content with
      ⟨hnone, hscan⟩ | ⟨result, k, ctx', hresult, -, -, hnext, hscan⟩
    · left
      use hnone, p.ctx.setType .none
      rw [hscan]
    · right
      have hnil' := hnext []
      rw [List.append_nil] at hnil'
      use result, k, ctx', hnil'
      constructor
      · rcases hresult with rfl | rfl
        · decide
        · decide
      · rw [hscan]

/-- Calling the parser until it finds no packet drains the bytes it holds. One more call than
there are bytes is enough. -/
theorem parseAll_eq (hd : decoder.escapeStxEtx = true) (h32 : limit < 2 ^ 32) {n : ℕ}
    (h : Holds decoder decodedBufSize limit p content) (hlen : content.length ≤ limit)
    (hn : content.length < n) :
  ∃ p', parseAll n p = some (((scanner hd decodedBufSize).drain content).1, p') ∧
    Holds decoder decodedBufSize limit p' ((scanner hd decodedBufSize).drain content).2
  := by
  induction n generalizing p content with
  | zero =>
      omega
  | succ n ih =>
      rcases h.parseRingBuf_eq hd hlen 0 with
        ⟨hnext, ctx, hparse⟩ | ⟨result, k, ctx, hnext, hresult, hparse⟩
      · rw [Scanner.drain_of_none hnext]
        refine ⟨_, ?_, h.withCtx ctx⟩
        simp [parseAll, hparse]
      · obtain ⟨hpos, hle, -⟩ := next_some hd hnext
        have hdrop := (h.withCtx ctx).confirmBytesRead_eq hle (by omega)
        have hlen' := List.length_drop (i := k) (l := content)
        obtain ⟨p', hall, hp'⟩ := ih hdrop (by omega) (by omega)
        rw [Scanner.drain_of_some hnext]
        refine ⟨p', ?_, hp'⟩
        simp only [parseAll, hparse, if_neg hresult, hall]

/-- Passing a chunk drains the bytes held together with the chunk. -/
theorem passChunk_eq (hd : decoder.escapeStxEtx = true) (h32 : limit < 2 ^ 32)
    (h : Holds decoder decodedBufSize limit p content) (chunk : List UInt8)
    (hlen : (content ++ chunk).length ≤ limit) :
  ∃ p', p.passChunk chunk =
      some (((scanner hd decodedBufSize).drain (content ++ chunk)).1, p') ∧
    Holds decoder decodedBufSize limit p' ((scanner hd decodedBufSize).drain (content ++ chunk)).2
  := by
  obtain ⟨result, p₁, hpass, h₁⟩ := h.passData_eq chunk (by rwa [← List.length_append]) h32
  obtain ⟨p₂, hall, h₂⟩ := h₁.parseAll_eq hd h32 hlen (Nat.lt_succ_self _)
  refine ⟨p₂, ?_, h₂⟩
  simp only [passChunk, hpass, h₁.getAvailableReadData_eq, hall]

/-- Passing the chunks of a stream feeds them to the scanner. -/
theorem passChunks_eq (hd : decoder.escapeStxEtx = true) (h32 : limit < 2 ^ 32)
    (h : Holds decoder decodedBufSize limit p content) (chunks : List (List UInt8))
    (hlen : content.length + chunks.flatten.length ≤ limit) :
  ∃ p', p.passChunks chunks = some (((scanner hd decodedBufSize).feedAll content chunks).1, p') ∧
    Holds decoder decodedBufSize limit p' ((scanner hd decodedBufSize).feedAll content chunks).2
  := by
  induction chunks generalizing p content with
  | nil =>
      exact ⟨p, rfl, h⟩
  | cons chunk chunks ih =>
      rw [List.flatten_cons, List.length_append, ← Nat.add_assoc, ← List.length_append] at hlen
      obtain ⟨p₁, hchunk, h₁⟩ := h.passChunk_eq hd h32 chunk (Nat.le_of_add_right_le hlen)
      have hleft := Scanner.length_drain_le (S := scanner hd decodedBufSize) (content ++ chunk)
      obtain ⟨p₂, hchunks, h₂⟩ := ih h₁ (by omega)
      refine ⟨p₂, ?_, h₂⟩
      simp only [passChunks, hchunk, hchunks, Scanner.feedAll]

end Holds

/-- An ETX that ends no frame is reported. -/
theorem next_etxChar (decoder : DleEncoder) (decodedBufSize : ℕ) :
  next decoder decodedBufSize [etxChar] =
    some ((possiblePacketLoss, ⟨.error, none, (.consecutiveEtxChars, .len 0)⟩), 1)
  := by
  simp [next, scan, setErrorContext_eq]

/-! ### A frame at the end of a stream -/

section

variable {decoder : DleEncoder} {decodedBufSize : ℕ} {encoded : List UInt8} {ctx : Context}

/-- Once an STX has been found, only bytes that delimit no frame are not reported. -/
theorem isFree_of_scan_some (hd : decoder.escapeStxEtx = true) {rest : List UInt8}
    {vectorIdx k : ℕ} (hs : Scanned encoded rest vectorIdx (some k))
    (h : scan decoder decodedBufSize encoded ctx rest vectorIdx (some k) = .noPacket) :
  IsFree rest
  := by
  induction rest generalizing vectorIdx with
  | nil =>
      simp [IsFree]
  | cons byte rest ih =>
      simp only [scan] at h
      split_ifs at h with hstx hetx
      · obtain ⟨-, bytes, hdrop, hfree⟩ := hs.since_stx k rfl
        obtain ⟨result, ctx', -, hreport⟩ := decodeFrame_cases hd hfree (vectorIdx + 1)
        rw [hdrop, hetx, hreport] at h
        cases h
      · apply isFree_cons.mpr ⟨⟨hstx, hetx⟩, ih (hs.plain hstx hetx) h⟩

/-- Bytes in which nothing is found hold at most one STX, and no ETX. -/
theorem isFree_of_scan_none (hd : decoder.escapeStxEtx = true) {rest : List UInt8}
    {vectorIdx : ℕ} (hs : Scanned encoded rest vectorIdx none)
    (h : scan decoder decodedBufSize encoded ctx rest vectorIdx none = .noPacket) :
  IsFree rest ∨ ∃ before after, rest = before ++ stxChar :: after ∧ IsFree before ∧ IsFree after
  := by
  induction rest generalizing vectorIdx with
  | nil =>
      left
      simp [IsFree]
  | cons byte rest ih =>
      simp only [scan] at h
      split_ifs at h with hstx hetx
      · right
        rw [hstx] at hs ⊢
        use [], rest, rfl
        constructor
        · simp [IsFree]
        · apply isFree_of_scan_some hd hs.stx h
      · rcases ih (hs.plain hstx hetx) h with hfree | ⟨before, after, rfl, hbefore, hafter⟩
        · left
          apply isFree_cons.mpr ⟨⟨hstx, hetx⟩, hfree⟩
        · right
          use byte :: before, after, rfl
          exact ⟨isFree_cons.mpr ⟨⟨hstx, hetx⟩, hbefore⟩, hafter⟩

/-- Bytes that delimit no frame are passed over. -/
theorem scan_append {bytes : List UInt8} (h : IsFree bytes) (rest : List UInt8) (vectorIdx : ℕ)
    (stxIdx : Option ℕ) :
  scan decoder decodedBufSize encoded ctx (bytes ++ rest) vectorIdx stxIdx =
  scan decoder decodedBufSize encoded ctx rest (vectorIdx + bytes.length) stxIdx
  := by
  induction bytes generalizing vectorIdx with
  | nil =>
      rfl
  | cons byte bytes ih =>
      obtain ⟨⟨hstx, hetx⟩, hfree⟩ := isFree_cons.mp h
      simp only [List.cons_append, scan, if_neg hstx, if_neg hetx]
      rw [ih hfree, List.length_cons, Nat.add_right_comm, Nat.add_assoc]

end

section

variable {decoder : DleEncoder} (hd : decoder.escapeStxEtx = true) {decodedBufSize : ℕ}
include hd

theorem frame_eq (payload : List UInt8) :
  decoder.frame payload =
    stxChar :: (DleEncoder.escapeAll (DleEncoder.escapeEscaped decoder.escapeCr) payload ++ [etxChar])
  := by
  simp [DleEncoder.frame, DleEncoder.opening, DleEncoder.closing, DleEncoder.escape, hd]

/-- A frame is longer than its payload. -/
theorem length_lt_length_frame (payload : List UInt8) :
  payload.length < (decoder.frame payload).length
  := by
  have hescaped : ∀ escape : UInt8 → Option UInt8,
      payload.length ≤ (DleEncoder.escapeAll escape payload).length := by
    intro escape
    induction payload with
    | nil =>
        apply Nat.zero_le
    | cons byte payload ih =>
        have hbyte : 1 ≤ (DleEncoder.escapeByte escape byte).length := by
          rw [DleEncoder.escapeByte]
          split <;> simp
        rw [DleEncoder.escapeAll, List.flatMap_cons, List.length_append, List.length_cons]
        rw [DleEncoder.escapeAll] at ih
        omega
  have h := hescaped (DleEncoder.escapeEscaped decoder.escapeCr)
  rw [frame_eq hd, List.length_cons, List.length_append]
  omega

/-- The report on a packet with the given payload. -/
def delivered (payload : List UInt8) : ReturnValue × Context :=
  (.ok, ⟨.packetFound, some payload, (.none, .len 0)⟩)

/-- A scan that comes to a frame reports its payload. -/
theorem scan_frame {payload encoded : List UInt8} {vectorIdx : ℕ} (ctx : Context)
    (hdrop : encoded.drop vectorIdx = decoder.frame payload)
    (hlen : payload.length < decodedBufSize) :
  scan decoder decodedBufSize encoded ctx (decoder.frame payload) vectorIdx none =
    .report .ok (vectorIdx + (decoder.frame payload).length) (delivered payload).2
  := by
  have hescaped := DleEncoder.isFree_escapeAll decoder.escapeCr payload
  have hdecode := DleEncoder.decode_frame decoder [] hlen (by simp [hd])
  rw [List.append_nil, ← hdrop] at hdecode
  rw [frame_eq hd]
  simp only [scan, if_true]
  rw [scan_append hescaped]
  simp only [scan, DleEncoder.etxChar_ne_stxChar, if_false, if_true, decodeFrame, hdecode]
  simp [delivered, Context.setType, Nat.add_comm, Nat.add_left_comm]

/-- A frame behind bytes that delimit no frame is found. -/
theorem next_frame {bytes payload : List UInt8} (hfree : IsFree bytes)
    (hlen : payload.length < decodedBufSize) :
  next decoder decodedBufSize (bytes ++ decoder.frame payload) =
    some (delivered payload, (bytes ++ decoder.frame payload).length)
  := by
  rw [next, scan_append hfree, scan_frame hd _ (by simp) hlen]
  simp [delivered]

/-- A frame behind an STX that opens no frame is left, and a possible loss is reported. -/
theorem next_stx_frame {before after : List UInt8} (hbefore : IsFree before)
    (hafter : IsFree after) (payload : List UInt8) :
  next decoder decodedBufSize ((before ++ stxChar :: after) ++ decoder.frame payload) =
    some ((possiblePacketLoss, ⟨.error, none, (.consecutiveStxChars, .unset)⟩),
      (before ++ stxChar :: after).length)
  := by
  rw [next, List.append_assoc, scan_append hbefore, List.cons_append]
  simp only [scan, if_true]
  rw [scan_append hafter, frame_eq hd]
  simp only [scan, if_true, setErrorContext_eq]
  simp [Nat.add_comm, Nat.add_left_comm]

/-- A frame behind bytes in which nothing is found is delivered, and nothing is left. -/
theorem drain_append_frame {left payload : List UInt8}
    (hleft : next decoder decodedBufSize left = none) (hlen : payload.length < decodedBufSize) :
  ∃ results, (scanner hd decodedBufSize).drain (left ++ decoder.frame payload) =
    (results ++ [delivered payload], [])
  := by
  have hframe : ∀ bytes, IsFree bytes →
      (scanner hd decodedBufSize).drain (bytes ++ decoder.frame payload) =
        ([delivered payload], []) := by
    intro bytes hfree
    rw [Scanner.drain_of_some (next_frame hd hfree hlen), List.drop_length,
      Scanner.drain_of_none (show next decoder decodedBufSize [] = none from rfl)]
  have hscan : scan decoder decodedBufSize left ⟨.none, none, (.none, .len 0)⟩ left 0 none =
      .noPacket := by
    rcases next_cases hd decodedBufSize left with ⟨-, hscan⟩ | ⟨result, k, ctx', -, -, -, hnext, -⟩
    · apply hscan
    · have hnil := hnext []
      rw [List.append_nil, hleft] at hnil
      cases hnil
  rcases isFree_of_scan_none hd (scanned_start left) hscan with
    hfree | ⟨before, after, rfl, hbefore, hafter⟩
  · use []
    apply hframe left hfree
  · rw [Scanner.drain_of_some (next_stx_frame hd hbefore hafter payload), List.drop_left]
    have hnil := hframe [] (by simp [IsFree])
    rw [List.nil_append] at hnil
    rw [hnil]
    exact ⟨[_], rfl⟩

/-- A frame at the end of a stream is delivered last, and nothing is left. -/
theorem drain_frame (bytes : List UInt8) {payload : List UInt8}
    (hlen : payload.length < decodedBufSize) :
  ∃ results, (scanner hd decodedBufSize).drain (bytes ++ decoder.frame payload) =
    (results ++ [delivered payload], [])
  := by
  obtain ⟨results, hdrain⟩ :=
    drain_append_frame hd (Scanner.next_drain (S := scanner hd decodedBufSize) bytes) hlen
  rw [Scanner.drain_append, hdrain]
  use ((scanner hd decodedBufSize).drain bytes).1 ++ results
  rw [List.append_assoc]

end

/-! ### Insensitivity to chunks -/

/-- Every stream of up to `limit` bytes has the same results and leaves the same bytes unread
when it is passed in non-empty chunks and when it is passed at once; and when it ends in a
frame, the payload of the frame is delivered last and no bytes are left unread. -/
def ChunkInsensitive (p : DleParser) (limit : ℕ) : Prop :=
  ∀ chunks : List (List UInt8), (∀ chunk ∈ chunks, chunk ≠ []) →
    chunks.flatten.length ≤ limit →
    ∃ results p₁ p₂ left,
      p.passChunks chunks = some (results, p₁) ∧ p₁.unread = some left ∧
      p.passChunks [chunks.flatten] = some (results, p₂) ∧ p₂.unread = some left ∧
      ∀ bytes payload, chunks.flatten = bytes ++ p.decoder.frame payload →
        results.getLast? = some (delivered payload) ∧ left = []

section

variable {p : DleParser} {limit : ℕ} (hd : p.decoder.escapeStxEtx = true)
include hd

/-- Streams of fewer than `2 ^ 32` bytes drain the same way whatever their chunks. -/
theorem chunkInsensitive_of_lt (h : Holds p.decoder p.decodedBufSize limit p [])
    (hdec : limit ≤ p.decodedBufSize) (h32 : limit < 2 ^ 32) :
  ChunkInsensitive p limit
  := by
  intro chunks _ hlen
  have hnil : (scanner hd p.decodedBufSize).next [] = none := rfl
  obtain ⟨p₁, hpass₁, h₁⟩ := h.passChunks_eq hd h32 chunks (by simpa using hlen)
  obtain ⟨p₂, hpass₂, h₂⟩ :=
    h.passChunks_eq hd h32 [chunks.flatten] (by simpa using hlen)
  rw [Scanner.feedAll_eq hnil, List.nil_append] at hpass₁ h₁
  rw [Scanner.feedAll_eq hnil, List.nil_append, List.flatten_singleton] at hpass₂ h₂
  refine ⟨_, p₁, p₂, _, hpass₁, h₁.unread_eq, hpass₂, h₂.unread_eq, ?_⟩
  intro bytes payload hstream
  have hpayload : payload.length < p.decodedBufSize := by
    have hframe := length_lt_length_frame hd payload
    rw [hstream, List.length_append] at hlen
    omega
  obtain ⟨results, hdrain⟩ := drain_frame hd bytes hpayload
  rw [hstream, hdrain]
  simp

omit hd in
/-- A chunk of `2 ^ 32` bytes is lost. -/
theorem passChunk_of_wrap {q : ByteQueue} (hq : p.decodeRingBuf.Represents q)
    (hempty : q.content = []) {chunk : List UInt8} (hfits : q.Fits chunk)
    (hlen : chunk.length = 2 ^ 32) :
  ∃ p', p.passChunk chunk = some ([], p')
  := by
  obtain ⟨r, hwrite, havail⟩ := SimpleRingBuffer.writeData_of_wrap hq hfits hlen
  rw [hq.getAvailableReadData_eq, hempty, List.length_nil] at havail
  have hne : ¬ (some chunk = none ∨ some chunk = some []) := by
    rintro (h | h)
    · cases h
    · cases h
      cases hlen
  simp only [passChunk, passData, if_neg hne, hwrite, havail, parseAll, parseRingBuf, if_true]
  exact ⟨_, rfl⟩

/-- Of `2 ^ 32` ETX the first is reported when it is passed on its own, but not when all of
them are passed at once. -/
theorem not_chunkInsensitive_of_le (h : Holds p.decoder p.decodedBufSize limit p [])
    (h32 : 2 ^ 32 ≤ limit) :
  ¬ ChunkInsensitive p limit
  := by
  intro hinsensitive
  obtain ⟨q, hq, hempty, hring⟩ := h.ring
  have hlimit := h.limit_le
  obtain ⟨chunk, hchunk⟩ : ∃ chunk : List UInt8, chunk.length = 2 ^ 32 - 1 :=
    ⟨List.replicate (2 ^ 32 - 1) etxChar, List.length_replicate⟩
  have hne : ∀ c ∈ [[etxChar], chunk], c ≠ [] := by
    rintro c hc rfl
    rcases List.mem_cons.mp hc with h' | h'
    · cases h'
    · rw [← List.mem_singleton.mp h'] at hchunk
      cases hchunk
  have hlen : [[etxChar], chunk].flatten.length = 2 ^ 32 := by
    simp [hchunk]
  obtain ⟨results, p₁, p₂, left, hpass₁, -, hpass₂, -⟩ := hinsensitive _ hne (by omega)
  -- The first chunk on its own is reported.
  have hone : Holds p.decoder p.decodedBufSize 1 p [] :=
    ⟨rfl, rfl, by omega, q, hq, hempty, by omega⟩
  obtain ⟨p', hfirst, -⟩ := hone.passChunk_eq hd (by decide) [etxChar] (Nat.le_refl 1)
  have hresults : results ≠ [] := by
    have hnext : (scanner hd p.decodedBufSize).next [etxChar] = some _ :=
      next_etxChar p.decoder p.decodedBufSize
    rw [List.nil_append, Scanner.drain_of_some hnext] at hfirst
    simp only [passChunks, hfirst] at hpass₁
    split at hpass₁
    · cases hpass₁
    · cases hpass₁
      apply List.cons_ne_nil
  -- Nothing is reported when the chunks are passed at once.
  obtain ⟨p'', hlost⟩ := passChunk_of_wrap hq hempty
    (show q.Fits [[etxChar], chunk].flatten by
      rw [ByteQueue.Fits, hempty, hlen, List.length_nil]
      omega) hlen
  apply hresults
  simp only [passChunks, hlost, List.nil_append] at hpass₂
  cases hpass₂
  rfl

/-- A parser with an empty ring buffer and with room for streams of up to `limit` bytes is
insensitive to how these are cut into chunks exactly when they are shorter than `2 ^ 32`
bytes. -/
theorem chunkInsensitive_iff {q : ByteQueue} (hq : p.decodeRingBuf.Represents q)
    (hempty : q.content = []) (hring : limit < q.size) (henc : limit ≤ p.encodedBufSize)
    (hdec : limit ≤ p.decodedBufSize) :
  ChunkInsensitive p limit ↔ limit < 2 ^ 32
  := by
  have h : Holds p.decoder p.decodedBufSize limit p [] :=
    ⟨rfl, rfl, henc, q, hq, hempty, hring⟩
  constructor
  · intro hinsensitive
    by_contra h32
    apply not_chunkInsensitive_of_le hd h (Nat.not_lt.mp h32) hinsensitive
  · apply chunkInsensitive_of_lt hd h hdec

end

/-- A newly constructed parser with room for streams of up to `limit` bytes. -/
def ofLimit (limit : ℕ) : DleParser where
  decodeRingBuf := SimpleRingBuffer.new (fun _ => 0) (limit + 1) false 0
  decoder := ⟨true, false⟩
  encodedBufSize := limit
  decodedBufSize := limit
  ctx := ⟨.none, none, (.none, .len 0)⟩

theorem represents_ofLimit {limit : ℕ} (h : limit + 1 < 2 ^ 64) :
  (ofLimit limit).decodeRingBuf.Represents (ByteQueue.new (limit + 1) 0 (Nat.succ_pos limit))
  := by
  have hnew : (ofLimit limit).decodeRingBuf.Represents
      (ByteQueue.new (limit + 1) (min 0 (limit + 1)) (Nat.succ_pos limit)) :=
    SimpleRingBuffer.represents_new (fun _ => 0) (Nat.succ_pos limit) (Or.inr h)
  rwa [Nat.zero_min] at hnew

theorem chunkInsensitive_iff_nine :
  ChunkInsensitive (ofLimit 9) 9
  := by
  apply (chunkInsensitive_iff rfl (represents_ofLimit (by decide)) rfl (Nat.lt_succ_self 9)
    (Nat.le_refl 9) (Nat.le_refl 9)).mpr
  decide

/-- With room for `2 ^ 32` bytes, a chunk of that length is lost. -/
theorem not_chunkInsensitive_four_gib :
  ¬ ChunkInsensitive (ofLimit (2 ^ 32)) (2 ^ 32)
  := by
  apply not_chunkInsensitive_of_le rfl _ (Nat.le_refl _)
  exact ⟨rfl, rfl, Nat.le_refl _, _, represents_ofLimit (by decide), rfl, Nat.lt_succ_self _⟩

end DleParser
