import Fsfw.TmTcServices.SpacePacketParser

/-!
# Searching a buffer for space packets

A buffer holds a stream, and may end in a packet that is cut off.  The parser is called until it
finds no packet any more, or until all bytes are consumed.  It should report the packets with their
positions, leave the pointer behind each of them, read no other bytes, and report a packet that is
cut off with its position and size.

It does so exactly when the packets come before the garbage and there are at least five bytes, or
when there is no packet in front of the one that is cut off, whose header is complete, and the
caller has told its position already (`findsEvery_iff`).
-/

/-- A call of the parser: what it has returned and told, and the pointer it has left. -/
structure ParseReport where
  result : ReturnValue
  info : FoundPacketInfo
  buffer : ℕ

namespace SpacePacketParser

open StreamElement

/-- Call the parser until it finds no packet, or all bytes are consumed. -/
def parseAll (memory : List UInt8) (maxSize : ℕ) :
    ℕ → ℕ → FoundPacketInfo → SpacePacketParser → Option (List ParseReport)
  | 0, _, _, _ => none
  | calls + 1, buffer, packetInfo, P =>
      match P.parseSpacePackets memory buffer maxSize packetInfo with
      | none => none
      | some (result, buffer, packetInfo, P) =>
          if result = .ok ∧ P.amountRead < maxSize then
            match parseAll memory maxSize calls buffer packetInfo P with
            | none => none
            | some reports => some (⟨result, packetInfo, buffer⟩ :: reports)
          else
            some [⟨result, packetInfo, buffer⟩]

/-- The reports of the packets of a stream that starts at a position. -/
def found : ℕ → List StreamElement → List ParseReport
  | _, [] => []
  | position, .garbage _ :: es => found (position + 1) es
  | position, .packet bytes :: es =>
      ⟨.ok, ⟨position, bytes.length⟩, position + bytes.length⟩ ::
        found (position + bytes.length) es

/-- The bytes of a packet that is cut off. -/
def cutBytes : Option (List UInt8 × ℕ) → List UInt8
  | none => []
  | some (whole, k) => whole.take k

/-- The reports of a stream, and of the packet behind it that is cut off. -/
def Correct (position : ℕ) (es : List StreamElement) (last : Option (List UInt8 × ℕ))
    (reports : List ParseReport) : Prop :=
  match last with
  | none => ∃ others, reports = found position es ++ others ∧
      ∀ report ∈ others, report.result = noPacketFound
  | some (whole, _) => ∃ buffer, reports = found position es ++
      [⟨splitPacket, ⟨position + (stream es).length, whole.length⟩, buffer⟩]

/-- The parser reports every packet of a buffer, and reads no bytes behind it. -/
def FindsEvery (ids : List UInt16) (packetInfo : FoundPacketInfo) (es : List StreamElement)
    (last : Option (List UInt8 × ℕ)) : Prop :=
  ∃ calls reports,
    parseAll (stream es ++ cutBytes last) (stream es ++ cutBytes last).length calls 0 packetInfo
      (new ids) = some reports ∧
    Correct 0 es last reports

/-- The packets come before the garbage. -/
def PacketsFirst : List StreamElement → Prop
  | [] => True
  | .packet _ :: es => PacketsFirst es
  | .garbage _ :: es => packets es = []

/-- The packets come before the garbage and there are at least five bytes, or all is garbage but the
packet that is cut off, whose header is complete, and its position has been told. -/
def Findable (packetInfo : FoundPacketInfo) (position : ℕ) (es : List StreamElement) :
    Option (List UInt8 × ℕ) → Prop
  | none => PacketsFirst es ∧ 5 ≤ position + (stream es).length
  | some (_, k) => packets es = [] ∧ 6 ≤ k ∧ packetInfo.startIdx = position + (stream es).length

end SpacePacketParser

namespace StreamElement

open SpacePacketParser

variable {ids : List UInt16} {limit idx k : ℕ} {garbage packet : List UInt8}

/-- The search passes over garbage in front of a packet, which may be cut off. -/
theorem findPacketId_skip (hvalid : Valid ids (garbage.map .garbage ++ [.packet packet]))
    (hk : 0 < k) (hlimit : idx + garbage.length ≤ limit) :
  findPacketId ids limit idx (garbage ++ packet.take k)
    = findPacketId ids limit (idx + garbage.length) (packet.take k)
  := by
  induction garbage generalizing idx with
  | nil =>
      rfl
  | cons byte garbage ih =>
      obtain ⟨hid, hvalid⟩ := hvalid
      rw [List.length_cons, Nat.add_comm garbage.length 1, ← Nat.add_assoc] at hlimit ⊢
      rw [← ih hvalid hlimit]
      have hidx : idx < limit := by omega
      obtain ⟨k, rfl⟩ := Nat.exists_eq_add_of_lt hk
      match garbage, packet, hid, hvalid with
      | [], next :: _, hid, _ | next :: _, _, hid, _ =>
          have hid : field byte next ∉ ids := hid
          simp only [Nat.zero_add, List.take_succ_cons, List.nil_append, List.cons_append]
          apply findPacketId_cons hid hidx

/-- A packet of which at least the id is left is found. -/
theorem findPacketId_cut (hvalid : Valid ids (garbage.map .garbage ++ [.packet packet]))
    (hk : 2 ≤ k) (hlimit : idx + garbage.length < limit) :
  findPacketId ids limit idx (garbage ++ packet.take k) = some (some (idx + garbage.length))
  := by
  rw [findPacketId_skip hvalid (by omega) hlimit.le]
  obtain ⟨k, rfl⟩ := Nat.exists_eq_add_of_le' hk
  match packet, hvalid.append_inv with
  | high :: low :: _ :: _ :: _ :: _ :: _, ⟨⟨hid, _⟩, _⟩ =>
      rw [List.take_succ_cons, List.take_succ_cons, findPacketId, if_pos hlimit, if_pos hid]

/-- A packet behind the limit is not found. -/
theorem findPacketId_behind (hvalid : Valid ids (garbage.map .garbage ++ [.packet packet]))
    (hk : 0 < k) (hlimit : limit ≤ idx + garbage.length) :
  findPacketId ids limit idx (garbage ++ packet.take k) = some none
  := by
  obtain hlt | rfl := hlimit.lt_or_eq
  · apply findPacketId_garbage hvalid.append_left (.inl hlt)
  · rw [findPacketId_skip hvalid hk le_rfl]
    apply findPacketId_of_le le_rfl

/-- A search that meets no limit does not come to an end. -/
theorem findPacketId_ne_none {bytes : List UInt8} (hlimit : idx + bytes.length < limit) :
  findPacketId ids limit idx bytes ≠ some none
  := by
  induction bytes generalizing idx with
  | nil =>
      rw [List.length_nil, Nat.add_zero] at hlimit
      rw [findPacketId, if_pos hlimit]
      · simp
      · rintro _ _ _ ⟨⟩
  | cons byte bytes ih =>
      rw [List.length_cons] at hlimit
      cases bytes with
      | nil =>
          rw [findPacketId, if_pos (by omega)]
          · simp
          · rintro _ _ _ ⟨⟩
      | cons next bytes =>
          rw [findPacketId, if_pos (by omega)]
          split
          · simp
          · apply ih
            omega

/-- A stream without packets is garbage. -/
theorem eq_garbage {es : List StreamElement} (h : packets es = []) :
  ∃ garbage : List UInt8, es = garbage.map .garbage
  := by
  induction es with
  | nil =>
      use []
      rfl
  | cons e es ih =>
      cases e with
      | packet bytes => cases h
      | garbage byte =>
          obtain ⟨garbage, rfl⟩ := ih h
          use byte :: garbage
          rfl

/-- A stream is garbage, or has a packet behind garbage. -/
theorem garbage_or_packet (es : List StreamElement) :
  packets es = [] ∨
    ∃ (garbage packet : List UInt8) (rest : List StreamElement),
      es = garbage.map .garbage ++ .packet packet :: rest
  := by
  induction es with
  | nil =>
      left
      rfl
  | cons e es ih =>
      cases e with
      | packet bytes =>
          right
          use [], bytes, es
          rfl
      | garbage byte =>
          obtain h | ⟨garbage, packet, rest, rfl⟩ := ih
          · left
            apply h
          · right
            use byte :: garbage, packet, rest
            rfl

end StreamElement

namespace SpacePacketParser

open StreamElement

variable {P : SpacePacketParser} {memory garbage packet : List UInt8} {position k calls : ℕ}
  {packetInfo : FoundPacketInfo} {es : List StreamElement} {last : Option (List UInt8 × ℕ)}
  {reports : List ParseReport}

/-! ### Reports -/

theorem found_garbage (garbage : List UInt8) (position : ℕ) (es : List StreamElement) :
  found position (garbage.map .garbage ++ es) = found (position + garbage.length) es
  := by
  induction garbage generalizing position with
  | nil =>
      rfl
  | cons byte garbage ih =>
      rw [List.map_cons, List.cons_append, found, ih, List.length_cons]
      congr 1
      omega

theorem found_eq_nil (garbage : List UInt8) (position : ℕ) :
  found position (garbage.map .garbage) = []
  := by
  have hfound := found_garbage garbage position []
  rw [List.append_nil] at hfound
  apply hfound

/-- The reports of a stream that starts with a packet. -/
theorem correct_packet :
  Correct position (.packet packet :: es) last reports ↔
    ∃ others, reports = ⟨.ok, ⟨position, packet.length⟩, position + packet.length⟩ :: others ∧
      Correct (position + packet.length) es last others
  := by
  cases last with
  | none =>
      constructor
      · rintro ⟨others, rfl, hothers⟩
        use found (position + packet.length) es ++ others, rfl, others, rfl, hothers
      · rintro ⟨_, rfl, others, rfl, hothers⟩
        use others, rfl, hothers
  | some last =>
      simp only [Correct, stream_packet, List.length_append, ← Nat.add_assoc]
      constructor
      · rintro ⟨buffer, rfl⟩
        exact ⟨_, rfl, buffer, rfl⟩
      · rintro ⟨_, rfl, buffer, rfl⟩
        use buffer
        rfl

/-- A call after which the parser is not called again. -/
theorem parseAll_stop {result : ReturnValue} {buffer : ℕ} {info : FoundPacketInfo}
    {P' : SpacePacketParser}
    (hparse : P.parseSpacePackets memory position memory.length packetInfo
      = some (result, buffer, info, P'))
    (hstop : ¬ (result = .ok ∧ P'.amountRead < memory.length)) :
  parseAll memory memory.length (calls + 1) position packetInfo P
    = some [⟨result, info, buffer⟩]
  := by
  rw [parseAll, hparse]
  apply if_neg hstop

/-- A call after which the parser is called again. -/
theorem parseAll_next {buffer : ℕ} {info : FoundPacketInfo} {P' : SpacePacketParser}
    (hparse : P.parseSpacePackets memory position memory.length packetInfo
      = some (.ok, buffer, info, P'))
    (hnext : P'.amountRead < memory.length) :
  parseAll memory memory.length (calls + 1) position packetInfo P
    = (parseAll memory memory.length calls buffer info P').map (⟨.ok, info, buffer⟩ :: ·)
  := by
  rw [parseAll, hparse]
  apply (if_pos ⟨rfl, hnext⟩).trans
  cases parseAll memory memory.length calls buffer info P' with
  | none => rfl
  | some reports => rfl

/-- The parser is about to read the stream at a position, of which the pointer knows. -/
structure Aligned (memory : List UInt8) (P : SpacePacketParser) (position : ℕ)
    (es : List StreamElement) (last : Option (List UInt8 × ℕ)) : Prop where
  ids : P.validPacketIds ≠ []
  amountRead : P.amountRead = position
  nextStartIdx : P.nextStartIdx ≤ memory.length
  width : memory.length < 2 ^ 64
  content : memory.drop position = stream es ++ cutBytes last
  size : position + (stream es).length + (cutBytes last).length = memory.length
  valid : Valid P.validPacketIds (es ++ (last.map fun cut => .packet cut.1).toList)
  cut : ∀ whole k, last = some (whole, k) → 0 < k ∧ k < whole.length

/-- The parser reports every packet from a position on. -/
def FindsFrom (memory : List UInt8) (packetInfo : FoundPacketInfo) (P : SpacePacketParser)
    (position : ℕ) (es : List StreamElement) (last : Option (List UInt8 × ℕ)) : Prop :=
  ∃ calls reports, parseAll memory memory.length calls position packetInfo P = some reports ∧
    Correct position es last reports

/-- With less than five bytes the search runs out of the buffer. -/
theorem parseSpacePackets_short (h : Aligned memory P position es last)
    (hshort : memory.length < 5) :
  P.parseSpacePackets memory position memory.length packetInfo = none
  := by
  have hread := h.amountRead
  have hlimit : 0 + (memory.drop position).length
      < (memory.length + 2 ^ 64 - 5) % 2 ^ 64 - P.amountRead := by
    have := h.size
    rw [List.length_drop]
    omega
  rw [parseSpacePackets, if_neg (Nat.not_lt.mpr h.nextStartIdx),
    if_pos (List.length_pos_iff.mpr h.ids)]
  dsimp only
  split
  · rfl
  · rw [verifyLengthField, List.getElem?_eq_none (by omega)]
  · rename_i hnone
    apply absurd hnone (findPacketId_ne_none hlimit)

/-- Garbage is passed over when there are at least five bytes. -/
theorem findsFrom_garbage (h : Aligned memory P position (garbage.map .garbage) none) :
  FindsFrom memory packetInfo P position (garbage.map .garbage) none ↔ 5 ≤ memory.length
  := by
  constructor
  · rintro ⟨calls, reports, hparse, _⟩
    by_contra hshort
    cases calls with
    | zero => cases hparse
    | succ calls =>
        rw [parseAll, parseSpacePackets_short h (by omega)] at hparse
        cases hparse
  · intro hfive
    have hmemory := h.content
    have hvalid := h.valid
    have hsize := h.size
    have hread := h.amountRead
    rw [stream_garbage, cutBytes] at hmemory hsize
    rw [Option.map_none, Option.toList_none, List.append_nil] at hvalid
    rw [List.length_nil] at hsize
    let reports : List ParseReport :=
      [⟨noPacketFound, { packetInfo with sizeFound := memory.length }, position + memory.length⟩]
    refine ⟨1, reports, ?_, reports, ?_, ?_⟩
    · apply parseAll_stop (parseSpacePackets_garbage packetInfo h.ids hvalid hmemory (by omega)
        hfive h.nextStartIdx h.width)
      rintro ⟨⟨⟩, _⟩
    · rw [found_eq_nil]
      rfl
    · intro report hreport
      rw [List.mem_singleton.mp hreport]

/-- The parser is still aligned after a packet. -/
theorem Aligned.next (h : Aligned memory P position (.packet packet :: es) last) :
  Aligned memory
    { P with
      nextStartIdx := position + packet.length
      amountRead := position + packet.length }
    (position + packet.length) es last
  := by
  have hsize := h.size
  have hcontent := h.content
  rw [stream_packet, List.length_append] at hsize
  rw [stream_packet, List.append_assoc] at hcontent
  use h.ids, rfl
  · dsimp only
    omega
  · apply h.width
  · rw [← List.drop_drop, hcontent, List.drop_left]
  · omega
  · apply h.valid.2
  · apply h.cut

/-- A packet behind garbage is found, and the pointer moves by its size. -/
theorem parseSpacePackets_aligned (packetInfo : FoundPacketInfo) (garbage : List UInt8)
    (h : Aligned memory P position (garbage.map .garbage ++ .packet packet :: es) last) :
  P.parseSpacePackets memory position memory.length packetInfo
    = some (.ok, position + packet.length, ⟨position + garbage.length, packet.length⟩,
        { P with
          nextStartIdx := position + garbage.length + packet.length
          amountRead := position + garbage.length + packet.length })
  := by
  have hvalid : Valid P.validPacketIds (garbage.map .garbage ++ [.packet packet]) := by
    have hall := h.valid
    rw [List.append_assoc, List.cons_append, List.append_cons] at hall
    apply hall.append_left
  have hcontent := h.content
  have hsize := h.size
  have hread := h.amountRead
  rw [stream_append, stream_garbage, stream_packet, List.append_assoc, List.append_assoc]
    at hcontent
  rw [stream_append, stream_garbage, stream_packet, List.length_append, List.length_append] at hsize
  rw [parseSpacePackets_packet packetInfo h.ids hvalid hcontent (by omega) h.nextStartIdx h.width,
    hread, Nat.add_comm garbage.length position]

/-- When all bytes have been read, nothing is left. -/
theorem Aligned.eq_nil (h : Aligned memory P position es last) (hend : memory.length ≤ position) :
  es = [] ∧ last = none
  := by
  have hsize := h.size
  constructor
  · apply h.valid.append_left.eq_nil
    apply List.eq_nil_of_length_eq_zero
    omega
  · cases last with
    | none =>
        rfl
    | some last =>
        obtain ⟨hpos, hlt⟩ := h.cut last.1 last.2 rfl
        rw [cutBytes, List.length_take, min_eq_left hlt.le] at hsize
        omega

/-- A packet is reported, and the parser is called again when there are bytes left. -/
theorem findsFrom_packet (h : Aligned memory P position (.packet packet :: es) last) :
  FindsFrom memory packetInfo P position (.packet packet :: es) last ↔
    (es = [] ∧ last = none) ∨
      FindsFrom memory ⟨position, packet.length⟩
        { P with
          nextStartIdx := position + packet.length
          amountRead := position + packet.length }
        (position + packet.length) es last
  := by
  have hparse := parseSpacePackets_aligned packetInfo [] h
  rw [List.length_nil, Nat.add_zero] at hparse
  by_cases hlt : position + packet.length < memory.length
  · constructor
    · rintro ⟨calls, reports, hall, hcorrect⟩
      obtain ⟨others, rfl, hothers⟩ := correct_packet.mp hcorrect
      cases calls with
      | zero =>
          cases hall
      | succ calls =>
          rw [parseAll_next hparse hlt] at hall
          obtain ⟨rest, hrest, heq⟩ := Option.map_eq_some_iff.mp hall
          cases heq
          right
          exact ⟨calls, _, hrest, hothers⟩
    · rintro (⟨rfl, rfl⟩ | ⟨calls, others, hall, hothers⟩)
      · have hsize := h.next.size
        rw [stream_nil, cutBytes, List.length_nil] at hsize
        omega
      · refine ⟨calls + 1, _, ?_, correct_packet.mpr ⟨others, rfl, hothers⟩⟩
        rw [parseAll_next hparse hlt, hall]
        rfl
  · obtain ⟨rfl, rfl⟩ := h.next.eq_nil (Nat.not_lt.mp hlt)
    constructor
    · intro _
      left
      exact ⟨rfl, rfl⟩
    · intro _
      refine ⟨1, _, ?_, correct_packet.mpr ⟨[], rfl, [], rfl, nofun⟩⟩
      apply parseAll_stop hparse
      rintro ⟨_, hmore⟩
      apply hlt hmore

/-- A packet behind garbage is reported, but the pointer is not behind it. -/
theorem not_findsFrom_garbage_packet (garbage : List UInt8) (hne : garbage ≠ [])
    (h : Aligned memory P position (garbage.map .garbage ++ .packet packet :: es) last) :
  ¬ FindsFrom memory packetInfo P position (garbage.map .garbage ++ .packet packet :: es) last
  := by
  have hparse := parseSpacePackets_aligned packetInfo garbage h
  have hpos := List.length_pos_iff.mpr hne
  rintro ⟨calls, reports, hall, hcorrect⟩
  obtain ⟨others, rfl⟩ : ∃ others, reports = ⟨.ok, ⟨position + garbage.length, packet.length⟩,
      position + garbage.length + packet.length⟩ :: others := by
    cases last with
    | none =>
        obtain ⟨others, rfl, _⟩ := hcorrect
        rw [found_garbage]
        exact ⟨_, rfl⟩
    | some last =>
        obtain ⟨buffer, rfl⟩ := hcorrect
        rw [found_garbage]
        exact ⟨_, rfl⟩
  cases calls with
  | zero =>
      cases hall
  | succ calls =>
      have hbuffer : position + packet.length = position + garbage.length + packet.length := by
        by_cases hlt : position + garbage.length + packet.length < memory.length
        · rw [parseAll_next hparse hlt] at hall
          obtain ⟨rest, _, heq⟩ := Option.map_eq_some_iff.mp hall
          injection heq with heq
          injection heq
        · rw [parseAll_stop hparse fun hand => hlt hand.2] at hall
          injection hall with heq
          injection heq with heq
          injection heq
      omega

/-- What the parser tells of a packet that is cut off behind garbage. -/
theorem parseSpacePackets_cut
    (h : Aligned memory P position (garbage.map .garbage) (some (packet, k))) (hk : 6 ≤ k) :
  P.parseSpacePackets memory position memory.length packetInfo
    = some (splitPacket, position, { packetInfo with sizeFound := packet.length }, P)
  := by
  obtain ⟨hpos, hlt⟩ := h.cut packet k rfl
  have hvalid : Valid P.validPacketIds (garbage.map .garbage ++ [.packet packet]) := h.valid
  have hcontent := h.content
  have hsize := h.size
  have hread := h.amountRead
  have hwidth := h.width
  rw [stream_garbage, cutBytes] at hcontent hsize
  rw [List.length_take, min_eq_left hlt.le] at hsize
  have hlimit : (memory.length + 2 ^ 64 - 5) % 2 ^ 64 = memory.length - 5 :=
    limit_eq (by omega) hwidth
  have hfind := findPacketId_cut hvalid (show 2 ≤ k by omega)
    (show 0 + garbage.length < memory.length - 5 - P.amountRead by omega)
  obtain ⟨high, low, hhigh, hlow, hlength⟩ := hvalid.append_inv.1.length_eq
  have hmem : ∀ i byte, i < k → packet[i]? = some byte →
      memory[position + garbage.length + i]? = some byte := by
    intro i byte hi hbyte
    rw [Nat.add_assoc, ← List.getElem?_drop, hcontent, List.getElem?_append_right (by omega),
      Nat.add_sub_cancel_left, List.getElem?_take_of_lt hi, hbyte]
  rw [parseSpacePackets, if_neg (Nat.not_lt.mpr h.nextStartIdx),
    if_pos (List.length_pos_iff.mpr h.ids), hlimit, hcontent]
  simp only [hfind, Nat.zero_add]
  rw [verifyLengthField, hmem 4 high (by omega) hhigh, hmem 5 low (by omega) hlow]
  dsimp only
  rw [hlength, if_pos (by omega)]

/-- A packet whose header is not complete is not found, and with less than five bytes the search
runs out of the buffer. -/
theorem parseSpacePackets_incomplete (packetInfo : FoundPacketInfo)
    (h : Aligned memory P position (garbage.map .garbage) (some (packet, k))) (hk : k < 6) :
  P.parseSpacePackets memory position memory.length packetInfo = none ∨
    ∃ buffer info P', P.parseSpacePackets memory position memory.length packetInfo
      = some (noPacketFound, buffer, info, P')
  := by
  obtain ⟨hpos, hlt⟩ := h.cut packet k rfl
  have hvalid : Valid P.validPacketIds (garbage.map .garbage ++ [.packet packet]) := h.valid
  have hcontent := h.content
  have hsize := h.size
  have hread := h.amountRead
  rw [stream_garbage, cutBytes] at hcontent hsize
  rw [List.length_take, min_eq_left hlt.le] at hsize
  by_cases hfive : memory.length < 5
  · left
    apply parseSpacePackets_short h hfive
  · right
    have hfind := findPacketId_behind hvalid hpos
      (show memory.length - 5 - P.amountRead ≤ 0 + garbage.length by omega)
    rw [parseSpacePackets, if_neg (Nat.not_lt.mpr h.nextStartIdx),
      if_pos (List.length_pos_iff.mpr h.ids), limit_eq (by omega) h.width, hcontent]
    simp only [hfind]
    exact ⟨_, _, _, rfl⟩

/-- A packet that is cut off behind garbage is reported when its header is complete, at the position
that has been told before. -/
theorem findsFrom_cut (h : Aligned memory P position (garbage.map .garbage) (some (packet, k))) :
  FindsFrom memory packetInfo P position (garbage.map .garbage) (some (packet, k)) ↔
    6 ≤ k ∧ packetInfo.startIdx = position + garbage.length
  := by
  constructor
  · rintro ⟨calls, reports, hall, buffer, rfl⟩
    rw [found_eq_nil, List.nil_append, stream_garbage] at hall
    cases calls with
    | zero =>
        cases hall
    | succ calls =>
        obtain hk | hk := lt_or_ge k 6
        · obtain hnone | ⟨buffer', info, P', hparse⟩ :=
            parseSpacePackets_incomplete packetInfo h hk
          · rw [parseAll, hnone] at hall
            cases hall
          · rw [parseAll_stop hparse (by rintro ⟨⟨⟩, _⟩)] at hall
            cases hall
        · use hk
          rw [parseAll_stop (parseSpacePackets_cut h hk) (by rintro ⟨⟨⟩, _⟩)] at hall
          simp only [Option.some.injEq, List.cons.injEq, ParseReport.mk.injEq,
            FoundPacketInfo.mk.injEq] at hall
          apply hall.1.2.1.1
  · rintro ⟨hk, hstart⟩
    refine ⟨1, _, parseAll_stop (parseSpacePackets_cut h hk) (by rintro ⟨⟨⟩, _⟩), position, ?_⟩
    rw [found_eq_nil, stream_garbage, ← hstart]
    rfl

/-- Garbage, with nothing or a packet that is cut off behind it. -/
theorem findsFrom_end (garbage : List UInt8)
    (h : Aligned memory P position (garbage.map .garbage) last) :
  FindsFrom memory packetInfo P position (garbage.map .garbage) last ↔
    Findable packetInfo position (garbage.map .garbage) last
  := by
  cases last with
  | none =>
      have hsize := h.size
      rw [cutBytes, List.length_nil, Nat.add_zero] at hsize
      rw [findsFrom_garbage h, ← hsize, Findable]
      constructor
      · intro hfive
        refine ⟨?_, hfive⟩
        cases garbage with
        | nil => trivial
        | cons byte garbage => apply packets_garbage
      · apply And.right
  | some last =>
      obtain ⟨packet, k⟩ := last
      rw [findsFrom_cut h, Findable, stream_garbage]
      constructor
      · apply And.intro (packets_garbage garbage)
      · apply And.right

/-- The packets after the first one are findable when all are. -/
theorem findable_packet (h : Aligned memory P position (.packet packet :: es) last) :
  Findable packetInfo position (.packet packet :: es) last ↔
    (es = [] ∧ last = none) ∨
      Findable ⟨position, packet.length⟩ (position + packet.length) es last
  := by
  obtain ⟨high, low, -, -, hlength⟩ := h.valid.1.length_eq
  cases last with
  | none =>
      rw [Findable, Findable, stream_packet, List.length_append, PacketsFirst, ← Nat.add_assoc]
      constructor
      · apply Or.inr
      · rintro (⟨rfl, -⟩ | hrest)
        · use trivial
          omega
        · apply hrest
  | some last =>
      constructor
      · rintro ⟨⟨⟩, _⟩
      · rintro (⟨-, ⟨⟩⟩ | ⟨-, -, hstart⟩)
        dsimp only at hstart
        omega

/-- The parser reports every packet from a position on exactly when they are findable. -/
theorem findsFrom_iff (h : Aligned memory P position es last) :
  FindsFrom memory packetInfo P position es last ↔ Findable packetInfo position es last
  := by
  induction es generalizing packetInfo P position with
  | nil =>
      apply findsFrom_end [] h
  | cons e es ih =>
      cases e with
      | packet packet =>
          rw [findsFrom_packet h, findable_packet h, ih h.next]
      | garbage byte =>
          obtain hgarbage | ⟨garbage, packet, rest, rfl⟩ := garbage_or_packet es
          · obtain ⟨garbage, rfl⟩ := eq_garbage hgarbage
            apply findsFrom_end (byte :: garbage) h
          · constructor
            · intro hfinds
              apply absurd hfinds
              apply not_findsFrom_garbage_packet (byte :: garbage) (by nofun) h
            · intro hfindable
              have hpacket : packets (garbage.map .garbage ++ .packet packet :: rest) ≠ [] := by
                rw [packets_append, packets_garbage]
                nofun
              cases last with
              | none => apply absurd hfindable.1 hpacket
              | some last => apply absurd hfindable.1 hpacket

/-- The parser is about to read a buffer from its start. -/
theorem aligned_new {ids : List UInt16} (hids : ids ≠ [])
    (hvalid : Valid ids (es ++ (last.map fun cut => .packet cut.1).toList))
    (hcut : ∀ whole k, last = some (whole, k) → 0 < k ∧ k < whole.length)
    (hwidth : (stream es ++ cutBytes last).length < 2 ^ 64) :
  Aligned (stream es ++ cutBytes last) (new ids) 0 es last
  := by
  have hsize : 0 + (stream es).length + (cutBytes last).length
      = (stream es ++ cutBytes last).length := by
    rw [Nat.zero_add, List.length_append]
  use hids, rfl, Nat.zero_le _, hwidth, rfl, hsize, hvalid, hcut

/-- The parser reports every packet of a buffer with its position, leaves the pointer behind it and
reads no bytes behind the buffer exactly when the packets are findable. -/
theorem findsEvery_iff {ids : List UInt16} (hids : ids ≠ [])
    (hvalid : Valid ids (es ++ (last.map fun cut => .packet cut.1).toList))
    (hcut : ∀ whole k, last = some (whole, k) → 0 < k ∧ k < whole.length)
    (hwidth : (stream es ++ cutBytes last).length < 2 ^ 64) :
  FindsEvery ids packetInfo es last ↔ Findable packetInfo 0 es last
  := by
  apply findsFrom_iff
  apply aligned_new hids hvalid hcut hwidth

/-- Two packets and a byte of garbage behind them. -/
theorem findsEvery_two :
  FindsEvery [0x1801] ⟨0, 0⟩ [.packet [0x18, 1, 0, 0, 0, 0, 7], .packet [0x18, 1, 0, 0, 0, 1, 8, 9],
    .garbage 5] none
  := by
  apply (findsEvery_iff (by decide) ?_ (by rintro _ _ ⟨⟩) (by decide)).mpr
  · use rfl
    decide
  · use ⟨by decide, rfl⟩, ⟨by decide, rfl⟩, trivial
    trivial

/-- The pointer is not behind a packet that has been found behind garbage, the position of a packet
that is cut off is not told, and a buffer with less than five bytes is left. -/
theorem not_findsEvery :
  ¬ FindsEvery [0x1801] ⟨0, 0⟩ [.garbage 5, .packet [0x18, 1, 0, 0, 0, 0, 7]] none ∧
    ¬ FindsEvery [0x1801] ⟨0, 0⟩ [.packet [0x18, 1, 0, 0, 0, 0, 7]]
      (some ([0x18, 1, 0, 0, 0, 0, 7], 6)) ∧
    ¬ FindsEvery [0x1801] ⟨0, 0⟩ [.garbage 5] none
  := by
  refine ⟨mt (findsFrom_iff (aligned_new (by decide) ?_ (by rintro _ _ ⟨⟩) (by decide))).mp ?_,
    mt (findsFrom_iff (aligned_new (by decide) ?_ ?_ (by decide))).mp ?_,
    mt (findsFrom_iff (aligned_new (by decide) ?_ (by rintro _ _ ⟨⟩) (by decide))).mp ?_⟩
  · use (by decide : field 5 0x18 ∉ [0x1801]), ⟨by decide, rfl⟩
    trivial
  · rintro ⟨hfirst, _⟩
    cases hfirst
  · use ⟨by decide, rfl⟩, ⟨by decide, rfl⟩
    trivial
  · rintro _ _ ⟨⟩
    decide
  · rintro ⟨hnone, _⟩
    cases hnone
  · use trivial
    trivial
  · rintro ⟨_, hfive⟩
    contradiction

end SpacePacketParser
