import Fsfw.ReturnValues

/-!
# The parser for space packets

The parser looks for the packet ids that it knows in a buffer, from a pointer on that it moves,
and takes the length of a packet from its header.  It is correct about the position of a packet
as long as the pointer has moved by as many bytes as the parser has read.

A stream consists of bytes at which no packet id starts, and of packets.  The parser finds a packet
behind garbage, and skips garbage at the end (`parseSpacePackets_packet`,
`parseSpacePackets_garbage`).  A part of a stream is straight when it has garbage only in front of
its last packet, or at its end.

Sizes are of type `size_t`, 64 bits wide; a byte outside the buffer is undefined (`none`).
-/

structure FoundPacketInfo where
  startIdx : ℕ
  sizeFound : ℕ

/-- A parser, with the ids of the packets it looks for. -/
structure SpacePacketParser where
  validPacketIds : List UInt16
  nextStartIdx : ℕ
  amountRead : ℕ

namespace SpacePacketParser

def new (validPacketIds : List UInt16) : SpacePacketParser where
  validPacketIds := validPacketIds
  nextStartIdx := 0
  amountRead := 0

def reset (P : SpacePacketParser) : SpacePacketParser :=
  { P with nextStartIdx := 0, amountRead := 0 }

/-- The number in two bytes of a header. -/
def field (high low : UInt8) : UInt16 :=
  (high.toUInt16 <<< 8) ||| low.toUInt16

/-- Take the length of the packet at index `localIdx` from its header.  The pointer moves by the
size of the packet, and not by the index. -/
def verifyLengthField (P : SpacePacketParser) (memory : List UInt8) (buffer maxSize localIdx : ℕ)
    (packetInfo : FoundPacketInfo) :
    Option (ReturnValue × ℕ × FoundPacketInfo × SpacePacketParser) :=
  match memory[buffer + localIdx + 4]?, memory[buffer + localIdx + 5]? with
  | some high, some low =>
      let packetSize := (field high low).toNat + 7
      if packetSize + localIdx + P.amountRead > maxSize then
        some (splitPacket, buffer, { packetInfo with sizeFound := packetSize }, P)
      else
        let nextStartIdx := localIdx + P.amountRead + packetSize
        some (.ok, buffer + packetSize,
          { startIdx := localIdx + P.amountRead, sizeFound := packetSize },
          { P with nextStartIdx := nextStartIdx, amountRead := nextStartIdx })
  | _, _ => none

/-- The index of the first packet id, among those below the limit. -/
def findPacketId (validPacketIds : List UInt16) (limit : ℕ) :
    ℕ → List UInt8 → Option (Option ℕ)
  | idx, high :: low :: bytes =>
      if idx < limit then
        if field high low ∈ validPacketIds then
          some (some idx)
        else
          findPacketId validPacketIds limit (idx + 1) (low :: bytes)
      else
        some none
  | idx, _ => if idx < limit then none else some none

/-- Parse the bytes in the memory from the pointer `buffer` on.  The test whether a packet id that
has been found is below the limit repeats the one of the loop. -/
def parseSpacePackets (P : SpacePacketParser) (memory : List UInt8) (buffer maxSize : ℕ)
    (packetInfo : FoundPacketInfo) :
    Option (ReturnValue × ℕ × FoundPacketInfo × SpacePacketParser) :=
  if P.nextStartIdx > maxSize then
    some (.failed, buffer, packetInfo, P)
  else if P.validPacketIds.length > 0 then
    -- The difference wraps around when there are fewer than five bytes.
    let limit := (maxSize + 2 ^ 64 - 5) % 2 ^ 64 - P.amountRead
    match findPacketId P.validPacketIds limit 0 (memory.drop buffer) with
    | none => none
    | some (some idx) => P.verifyLengthField memory buffer maxSize idx packetInfo
    | some none =>
        some (noPacketFound, buffer + maxSize, { packetInfo with sizeFound := maxSize },
          { P with nextStartIdx := maxSize, amountRead := maxSize })
  else
    P.verifyLengthField memory buffer maxSize 0 packetInfo

end SpacePacketParser

/-! ### Streams -/

/-- What a stream consists of. -/
inductive StreamElement where
  | garbage (byte : UInt8)
  | packet (bytes : List UInt8)

namespace StreamElement

open SpacePacketParser

def bytes : StreamElement → List UInt8
  | .garbage byte => [byte]
  | .packet bytes => bytes

def packet? : StreamElement → Option (List UInt8)
  | .garbage _ => none
  | .packet bytes => some bytes

/-- The bytes of a stream. -/
def stream (es : List StreamElement) : List UInt8 :=
  (es.map bytes).flatten

/-- The packets of a stream. -/
def packets (es : List StreamElement) : List (List UInt8) :=
  es.filterMap packet?

theorem stream_append (es fs : List StreamElement) :
  stream (es ++ fs) = stream es ++ stream fs
  := by
  simp [stream]

theorem packets_append (es fs : List StreamElement) :
  packets (es ++ fs) = packets es ++ packets fs
  := by
  simp [packets]

@[simp]
theorem packets_garbage (garbage : List UInt8) :
  packets (garbage.map .garbage) = []
  := by
  induction garbage with
  | nil => rfl
  | cons byte garbage ih => exact ih

@[simp]
theorem stream_garbage (garbage : List UInt8) :
  stream (garbage.map .garbage) = garbage
  := by
  induction garbage with
  | nil => rfl
  | cons byte garbage ih => exact congrArg (byte :: ·) ih

@[simp]
theorem stream_nil :
  stream [] = []
  := rfl

@[simp]
theorem stream_packet (packet : List UInt8) (es : List StreamElement) :
  stream (.packet packet :: es) = packet ++ stream es
  := rfl

@[simp]
theorem packets_packet (packet : List UInt8) (es : List StreamElement) :
  packets (.packet packet :: es) = packet :: packets es
  := rfl

/-- A complete packet has one of the ids, and as many bytes as its header tells. -/
def IsPacket (ids : List UInt16) : List UInt8 → Prop
  | high :: low :: _ :: _ :: high' :: low' :: data =>
      field high low ∈ ids ∧ data.length = (field high' low').toNat + 1
  | _ => False

/-- No packet id starts at the first byte. -/
def NoId (ids : List UInt16) : List UInt8 → Prop
  | high :: low :: _ => field high low ∉ ids
  | _ => True

/-- The packets of a stream are complete, and no packet id starts at its other bytes. -/
def Valid (ids : List UInt16) : List StreamElement → Prop
  | [] => True
  | .garbage byte :: es => NoId ids (byte :: stream es) ∧ Valid ids es
  | .packet bytes :: es => IsPacket ids bytes ∧ Valid ids es

/-- The packets that are complete after `n` bytes of a stream, and the bytes of the incomplete
packet at the end. -/
def cut : List StreamElement → ℕ → List (List UInt8) × List UInt8
  | [], _ => ([], [])
  | .garbage _ :: es, n => if n = 0 then ([], []) else cut es (n - 1)
  | .packet bytes :: es, n =>
      if n < bytes.length then ([], bytes.take n)
      else (bytes :: (cut es (n - bytes.length)).1, (cut es (n - bytes.length)).2)

/-- There is garbage only in front of the last packet, or at the end. -/
def Straight : List StreamElement → Prop
  | [] => True
  | .packet _ :: es => Straight es
  | .garbage _ :: es => ∃ garbage : List UInt8, ∃ last : Option (List UInt8),
      es = garbage.map .garbage ++ (last.map .packet).toList

/-- A packet has as many bytes as its header tells. -/
theorem IsPacket.length_eq {ids : List UInt16} {packet : List UInt8} (h : IsPacket ids packet) :
  ∃ high low, packet[4]? = some high ∧ packet[5]? = some low ∧
    (field high low).toNat + 7 = packet.length
  := by
  match packet, h with
  | _ :: _ :: _ :: _ :: high :: low :: data, ⟨_, hlength⟩ =>
      use high, low, rfl, rfl
      simp [hlength]

/-- No packet id starts at a byte when the bytes behind it are cut off. -/
theorem NoId.append_left {ids : List UInt16} {bytes rest : List UInt8}
    (h : NoId ids (bytes ++ rest)) :
  NoId ids bytes
  := by
  match bytes, h with
  | [], _ => trivial
  | [_], _ => trivial
  | _ :: _ :: _, h => exact h

/-- A valid stream without bytes has no elements. -/
theorem Valid.eq_nil {ids : List UInt16} {es : List StreamElement} (h : Valid ids es)
    (hempty : stream es = []) :
  es = []
  := by
  match es, h with
  | [], _ => rfl
  | .garbage byte :: es, _ => cases hempty
  | .packet bytes :: es, ⟨hpacket, _⟩ =>
      obtain ⟨high, low, -, -, hlength⟩ := hpacket.length_eq
      rw [stream_packet, List.append_eq_nil_iff] at hempty
      rw [hempty.1] at hlength
      cases hlength

/-- The end of a valid stream is valid. -/
theorem Valid.append_inv {ids : List UInt16} {es fs : List StreamElement}
    (h : Valid ids (es ++ fs)) :
  Valid ids fs
  := by
  induction es with
  | nil => exact h
  | cons e es ih =>
      cases e with
      | garbage byte => exact ih h.2
      | packet bytes => exact ih h.2

/-- A stream that is cut off between two elements is valid. -/
theorem Valid.append_left {ids : List UInt16} {es fs : List StreamElement}
    (h : Valid ids (es ++ fs)) :
  Valid ids es
  := by
  induction es with
  | nil => trivial
  | cons e es ih =>
      cases e with
      | packet bytes => use h.1, ih h.2
      | garbage byte =>
          have hid : NoId ids (byte :: stream es ++ stream fs) := by
            rw [List.cons_append, ← stream_append]
            apply h.1
          use hid.append_left, ih h.2

/-- The packets that are complete between two elements are all those in front. -/
theorem cut_append {ids : List UInt16} {es fs : List StreamElement} (h : Valid ids (es ++ fs)) :
  cut (es ++ fs) (stream es).length = (packets es, [])
  := by
  induction es with
  | nil =>
      match fs, h with
      | [], _ => rfl
      | .garbage _ :: _, _ => rfl
      | .packet bytes :: _, ⟨hpacket, _⟩ =>
          obtain ⟨high, low, -, -, hlength⟩ := hpacket.length_eq
          have hpos : 0 < bytes.length := by omega
          simp [cut, stream, packets, hpos]
  | cons e es ih =>
      cases e with
      | garbage byte =>
          rw [List.cons_append, cut, if_neg (by simp [stream, bytes])]
          apply ih h.2
      | packet bytes =>
          have hlength : (stream (.packet bytes :: es)).length - bytes.length
              = (stream es).length := by
            simp [stream, StreamElement.bytes]
          rw [List.cons_append, cut, if_neg (by simp [stream, StreamElement.bytes]), hlength,
            ih h.2]
          rfl

/-! ### Finding packets -/

variable {ids : List UInt16} {limit idx : ℕ} {garbage packet rest memory : List UInt8}

theorem findPacketId_of_le (h : limit ≤ idx) (bytes : List UInt8) :
  findPacketId ids limit idx bytes = some none
  := by
  rw [findPacketId.eq_def]
  split <;> rw [if_neg (Nat.not_lt.mpr h)]

/-- Garbage in front of a byte is skipped. -/
theorem findPacketId_cons {byte next : UInt8} (hid : field byte next ∉ ids) (h : idx < limit) :
  findPacketId ids limit idx (byte :: next :: rest)
    = findPacketId ids limit (idx + 1) (next :: rest)
  := by
  rw [findPacketId, if_pos h, if_neg hid]

/-- Nothing is found in garbage. -/
theorem findPacketId_garbage (hvalid : Valid ids (garbage.map .garbage))
    (hlimit : limit < idx + garbage.length ∨ limit ≤ idx) :
  findPacketId ids limit idx (garbage ++ rest) = some none
  := by
  induction garbage generalizing idx with
  | nil =>
      apply findPacketId_of_le
      rcases hlimit with h | h
      · apply Nat.le_of_lt h
      · exact h
  | cons byte garbage ih =>
      by_cases hidx : limit ≤ idx
      · apply findPacketId_of_le hidx
      · match garbage, hvalid with
        | [], _ =>
            simp only [List.length_cons, List.length_nil] at hlimit
            omega
        | next :: garbage, ⟨hid, hvalid⟩ =>
            have hid : field byte next ∉ ids := hid
            rw [List.cons_append, List.cons_append, findPacketId_cons hid (Nat.not_le.mp hidx)]
            apply ih hvalid
            simp only [List.length_cons] at hlimit ⊢
            omega

/-- A packet behind garbage is found. -/
theorem findPacketId_packet (rest : List UInt8)
    (hvalid : Valid ids (garbage.map .garbage ++ [.packet packet]))
    (hlimit : idx + garbage.length < limit) :
  findPacketId ids limit idx (garbage ++ (packet ++ rest)) = some (some (idx + garbage.length))
  := by
  induction garbage generalizing idx with
  | nil =>
      match packet, hvalid with
      | high :: low :: _ :: _ :: _ :: _ :: _, ⟨⟨hid, _⟩, _⟩ =>
          rw [List.length_nil, Nat.add_zero] at hlimit ⊢
          rw [List.nil_append, List.cons_append, List.cons_append, findPacketId, if_pos hlimit,
            if_pos hid]
  | cons byte garbage ih =>
      obtain ⟨hid, hvalid⟩ := hvalid
      rw [List.length_cons] at hlimit ⊢
      rw [Nat.add_comm garbage.length 1, ← Nat.add_assoc] at hlimit ⊢
      rw [← ih hvalid hlimit]
      have hidx : idx < limit := by omega
      match garbage, packet, hid, hvalid with
      | [], next :: _, hid, _ | next :: _, _, hid, _ =>
          have hid : field byte next ∉ ids := hid
          apply findPacketId_cons hid hidx

end StreamElement

namespace SpacePacketParser

open StreamElement

variable {P : SpacePacketParser} {memory garbage packet rest : List UInt8} {buffer maxSize : ℕ}
  {packetInfo : FoundPacketInfo}

/-- The length of a packet that ends within the bytes to be parsed is verified. -/
theorem verifyLengthField_packet {ids : List UInt16} {localIdx : ℕ} (hpacket : IsPacket ids packet)
    (hmemory : memory.drop (buffer + localIdx) = packet ++ rest)
    (hsize : packet.length + localIdx + P.amountRead ≤ maxSize) :
  P.verifyLengthField memory buffer maxSize localIdx packetInfo
    = some (.ok, buffer + packet.length, ⟨localIdx + P.amountRead, packet.length⟩,
        { P with
          nextStartIdx := localIdx + P.amountRead + packet.length
          amountRead := localIdx + P.amountRead + packet.length })
  := by
  obtain ⟨high, low, hhigh, hlow, hlength⟩ := hpacket.length_eq
  have hmem : ∀ k byte, packet[k]? = some byte → memory[buffer + localIdx + k]? = some byte := by
    intro k byte hk
    rw [← List.getElem?_drop, hmemory, List.getElem?_append_left, hk]
    apply (List.getElem?_eq_some_iff.mp hk).1
  rw [verifyLengthField, hmem 4 high hhigh, hmem 5 low hlow]
  simp only [hlength]
  rw [if_neg (Nat.not_lt.mpr hsize)]

/-- The limit of the search when there are at least five bytes. -/
theorem limit_eq (hfive : 5 ≤ maxSize) (hwidth : maxSize < 2 ^ 64) :
  (maxSize + 2 ^ 64 - 5) % 2 ^ 64 = maxSize - 5
  := by
  omega

/-- A packet behind garbage is found, and the pointer moves by the size of the packet. -/
theorem parseSpacePackets_packet (packetInfo : FoundPacketInfo) (hids : P.validPacketIds ≠ [])
    (hvalid : Valid P.validPacketIds (garbage.map .garbage ++ [.packet packet]))
    (hmemory : memory.drop buffer = garbage ++ (packet ++ rest))
    (hsize : packet.length + garbage.length + P.amountRead ≤ maxSize)
    (hnext : P.nextStartIdx ≤ maxSize) (hwidth : maxSize < 2 ^ 64) :
  P.parseSpacePackets memory buffer maxSize packetInfo
    = some (.ok, buffer + packet.length, ⟨garbage.length + P.amountRead, packet.length⟩,
        { P with
          nextStartIdx := garbage.length + P.amountRead + packet.length
          amountRead := garbage.length + P.amountRead + packet.length })
  := by
  obtain ⟨high, low, -, -, hlength⟩ := hvalid.append_inv.1.length_eq
  have hfind := findPacketId_packet rest hvalid
    (show 0 + garbage.length < maxSize - 5 - P.amountRead by omega)
  rw [parseSpacePackets, if_neg (Nat.not_lt.mpr hnext), if_pos (List.length_pos_iff.mpr hids),
    limit_eq (by omega) hwidth, hmemory]
  simp only [hfind, Nat.zero_add]
  have hdrop : memory.drop (buffer + garbage.length) = packet ++ rest := by
    rw [← List.drop_drop, hmemory, List.drop_left]
  apply verifyLengthField_packet hvalid.append_inv.1 hdrop hsize

/-- Garbage at the end of the bytes is skipped. -/
theorem parseSpacePackets_garbage (packetInfo : FoundPacketInfo) (hids : P.validPacketIds ≠ [])
    (hvalid : Valid P.validPacketIds (garbage.map .garbage))
    (hmemory : memory.drop buffer = garbage ++ rest)
    (hsize : garbage.length + P.amountRead = maxSize) (hfive : 5 ≤ maxSize)
    (hnext : P.nextStartIdx ≤ maxSize) (hwidth : maxSize < 2 ^ 64) :
  P.parseSpacePackets memory buffer maxSize packetInfo
    = some (noPacketFound, buffer + maxSize, { packetInfo with sizeFound := maxSize },
        { P with nextStartIdx := maxSize, amountRead := maxSize })
  := by
  have hlimit : maxSize - 5 - P.amountRead < 0 + garbage.length
      ∨ maxSize - 5 - P.amountRead ≤ 0 := by
    omega
  rw [parseSpacePackets, if_neg (Nat.not_lt.mpr hnext), if_pos (List.length_pos_iff.mpr hids),
    limit_eq hfive hwidth, hmemory]
  simp only [findPacketId_garbage hvalid hlimit]

end SpacePacketParser
