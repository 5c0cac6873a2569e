import Fsfw.DataLinkLayer.Reassembly
import Fsfw.StorageManager.PacketStore

/-!
# Lost packets

A map channel should return `OK` for a frame only if every packet that the frame completes was
stored and its message was sent; the packets that fill the data field of a frame without
segmentation should be forwarded, with `OK` if nothing fails; and a packet whose message could not
be sent should not stay in the store (`ReportsLosses`).

The status of a packet that was not stored or not sent is overwritten, and nothing is deleted.
So this holds exactly when no message fails to be sent, packets are only not stored when other bytes
of the data field are reported anyway, and the data field of a frame without segmentation is not
empty (`reportsLosses_iff`).
-/

open Memory

namespace MapPacketExtraction

theorem zero_lt_fullSize (position : ℕ → UInt8) :
  0 < (position 4).toNat * 256 + (position 5).toNat + 7
  := by
  apply Nat.succ_pos

/-- Space packets with a primary header of six bytes, of which the last two hold the length of the
data behind it less one. -/
def ccsdsPackets : SpacePacketBase where
  minimumSize := 6
  getFullSize position := (position 4).toNat * 256 + (position 5).toNat + 7
  getFullSize_pos := zero_lt_fullSize

/-- The packet is as long as its header says. -/
def IsSpacePacket (packet : List UInt8) : Prop :=
  ccsdsPackets.getFullSize (fun i => packet.getD i 0) = packet.length

/-! ### The packets that a frame completes -/

/-- The packets in the `totalLength` bytes at `position`, and the number of the bytes behind
them. -/
def splitPackets (P : SpacePacketBase) (totalLength : ℕ) (position : ℕ → UInt8) :
    List (List UInt8) × ℕ :=
  if totalLength > P.minimumSize then
    let packetSize := P.getFullSize position
    if packetSize ≤ totalLength then
      let rest := splitPackets P (totalLength - packetSize) fun i => position (packetSize + i)
      (slice position 0 packetSize :: rest.1, rest.2)
    else
      ([], totalLength)
  else
    ([], totalLength)
termination_by totalLength
decreasing_by
  have := P.getFullSize_pos position
  omega

/-- The packets of a frame without segmentation, and the number of the bytes behind them. -/
def blockedPackets (frame : TcTransferFrame) : List (List UInt8) × ℕ :=
  splitPackets ccsdsPackets frame.getDataLength.toNat frame.getDataField

/-- The packets that a frame completes. -/
def completed (m : MapPacketExtraction) (frame : TcTransferFrame) : List (List UInt8) :=
  if frame.getSequenceFlags = noSegmentation then
    if frame.getDataLength.toNat > maxPacketSize then [] else (blockedPackets frame).1
  else if frame.getSequenceFlags = lastPortion ∧ (m.lastSegmentationFlag = firstPortion ∨
      m.lastSegmentationFlag = continuingPortion) then
    let packetLength := (m.packetLength + frame.getDataLength.toNat) % 2 ^ 32
    if packetLength ≤ maxPacketSize then
      match m.copyIn m.bufferPosition (dataOf frame) with
      | none => []
      | some m => [slice m.packetBuffer 0 packetLength]
    else
      []
  else
    []

/-- The data field of a frame without segmentation ends with bytes that are not a packet. -/
def LeavesBytes (frame : TcTransferFrame) : Prop :=
  frame.getSequenceFlags = noSegmentation ∧ (blockedPackets frame).2 ≠ 0

/-- The frame has room for the headers and the checksum. -/
def HasDataField (frame : TcTransferFrame) : Prop :=
  7 ≤ frame.getFrameLength.toNat

/-! ### What becomes of the packets -/

/-- What becomes of a packet. -/
inductive SendOutcome where
  | notStored
  | notSent (storeId : StoreAddress)
  | sent (storeId : StoreAddress)
  deriving DecidableEq

variable {σ : Type*}

def sendOutcome (D : PacketDestination σ) (packet : List UInt8) (env : σ) : SendOutcome :=
  let added := D.packetStore.addData packet env
  if added.1 ≠ .ok then .notStored
  else if (D.sendMessage added.2.1 added.2.2).1 ≠ .ok then .notSent added.2.1
  else .sent added.2.1

/-- What becomes of packets that are forwarded one after another. -/
def sendOutcomes (D : PacketDestination σ) : List (List UInt8) → σ → List SendOutcome
  | [], _ => []
  | packet :: packets, env =>
      sendOutcome D packet env :: sendOutcomes D packets (sendCompletePacket D packet env).2

/-- The environment after packets were forwarded. -/
def sendAll (D : PacketDestination σ) (packets : List (List UInt8)) (env : σ) : σ :=
  packets.foldl (fun env packet => (sendCompletePacket D packet env).2) env

/-- Every packet was stored and its message sent. -/
def AllSent (outcomes : List SendOutcome) : Prop :=
  ∀ outcome ∈ outcomes, ∃ storeId, outcome = .sent storeId

theorem allSent_iff {outcomes : List SendOutcome} :
  AllSent outcomes
    ↔ SendOutcome.notStored ∉ outcomes ∧ ∀ storeId, .notSent storeId ∉ outcomes
  := by
  constructor
  · intro h
    constructor
    · intro hmem
      obtain ⟨_, heq⟩ := h _ hmem
      cases heq
    · intro storeId hmem
      obtain ⟨_, heq⟩ := h _ hmem
      cases heq
  · rintro ⟨hstored, hsent⟩ outcome hmem
    cases outcome with
    | notStored => exact absurd hmem hstored
    | notSent storeId => exact absurd hmem (hsent storeId)
    | sent storeId => exact ⟨storeId, rfl⟩

section

variable {D : PacketDestination σ} (laws : D.packetStore.Reliable)

/-- Sending a message leaves the store as it is. -/
def SendsOnly : Prop :=
  ∀ storeId env, laws.contents (D.sendMessage storeId env).2 = laws.contents env

variable {laws} {packet : List UInt8} {packets : List (List UInt8)} {env : σ}
  {storeId : StoreAddress}

theorem sendCompletePacket_eq (packet : List UInt8) (env : σ) :
  sendCompletePacket D packet env
    = if (D.packetStore.addData packet env).1 = .ok then
        D.sendMessage (D.packetStore.addData packet env).2.1 (D.packetStore.addData packet env).2.2
      else
        ((D.packetStore.addData packet env).1, (D.packetStore.addData packet env).2.2)
  := by
  rw [sendCompletePacket]
  obtain ⟨status, storeId, env'⟩ := D.packetStore.addData packet env
  by_cases hok : status = .ok
  · rw [hok, if_pos rfl]
  · rw [if_neg hok]
    split
    · rename_i heq
      cases heq
      exact absurd rfl hok
    · rename_i heq
      cases heq
      rfl

/-- A packet that was there stays there. -/
theorem contents_sendCompletePacket (hsends : SendsOnly laws) (packet : List UInt8)
    {data : List UInt8} (h : laws.contents env storeId = some data) :
  laws.contents (sendCompletePacket D packet env).2 storeId = some data
  := by
  rw [sendCompletePacket_eq]
  split_ifs with hok
  · have hfree := laws.free_of_addData packet env hok
    rw [hsends, laws.contents_addData packet env hok, Function.update_of_ne]
    · exact h
    · rintro rfl
      rw [h] at hfree
      cases hfree
  · rw [laws.contents_addData_failed packet env hok]
    exact h

theorem contents_sendAll (hsends : SendsOnly laws) (packets : List (List UInt8))
    {data : List UInt8} (h : laws.contents env storeId = some data) :
  laws.contents (sendAll D packets env) storeId = some data
  := by
  induction packets generalizing env with
  | nil => exact h
  | cons packet packets ih =>
      exact ih (contents_sendCompletePacket hsends packet h)

/-- A packet whose message is not sent is in the store. -/
theorem contents_of_notSent (hsends : SendsOnly laws)
    (h : sendOutcome D packet env = .notSent storeId) :
  laws.contents (sendCompletePacket D packet env).2 storeId = some packet
  := by
  simp only [sendOutcome] at h
  split_ifs at h with hstored hsent
  cases h
  rw [not_not] at hstored
  rw [sendCompletePacket_eq, if_pos hstored, hsends, laws.contents_addData packet env hstored,
    Function.update_self]

/-- All packets whose messages are not sent are in the store at the end. -/
theorem contents_ne_none_of_notSent (hsends : SendsOnly laws)
    (h : .notSent storeId ∈ sendOutcomes D packets env) :
  laws.contents (sendAll D packets env) storeId ≠ none
  := by
  induction packets generalizing env with
  | nil => cases h
  | cons packet packets ih =>
      rcases List.mem_cons.mp h with hfirst | hrest
      · have hin := contents_sendAll hsends packets (contents_of_notSent hsends hfirst.symm)
        exact hin ▸ Option.some_ne_none packet
      · exact ih hrest

end

/-! ### Concatenations of packets -/

/-- A packet has the length that is found at its start in memory. -/
theorem getFullSize_of_slice {packet : List UInt8} (h : IsSpacePacket packet)
    {position : ℕ → UInt8} (hslice : slice position 0 packet.length = packet) :
  ccsdsPackets.getFullSize position = packet.length
  := by
  have hlength : 7 ≤ packet.length := by
    rw [← h]
    exact Nat.le_add_left _ _
  have hbyte : ∀ i < 7, packet.getD i 0 = position i := by
    intro i hi
    rw [List.getD_eq_getElem?_getD, ← hslice, getElem?_slice, if_pos (by omega), Nat.zero_add,
      Option.getD_some]
  rw [← h]
  simp only [ccsdsPackets, hbyte 4 (by decide), hbyte 5 (by decide)]

/-- A concatenation of packets is split into these packets. -/
theorem splitPackets_flatten {packets : List (List UInt8)} (h : ∀ p ∈ packets, IsSpacePacket p)
    {position : ℕ → UInt8} {totalLength : ℕ}
    (hslice : slice position 0 totalLength = packets.flatten) :
  splitPackets ccsdsPackets totalLength position = (packets, 0)
  := by
  induction packets generalizing position totalLength with
  | nil =>
      obtain rfl : totalLength = 0 := by
        rw [← length_slice position 0 totalLength, hslice]
        rfl
      rw [splitPackets, if_neg (Nat.not_lt_zero _)]
  | cons packet packets ih =>
      obtain ⟨hpacket, hpackets⟩ := List.forall_mem_cons.mp h
      have htotal : totalLength = packet.length + packets.flatten.length := by
        rw [← length_slice position 0 totalLength, hslice, List.flatten_cons, List.length_append]
      rw [htotal, slice_add, Nat.zero_add, List.flatten_cons] at hslice
      obtain ⟨hfirst, hrest⟩ := List.append_inj hslice (length_slice ..)
      have hsize := getFullSize_of_slice hpacket hfirst
      have hgt : totalLength > ccsdsPackets.minimumSize := by
        have hpos : 7 ≤ packet.length := by
          rw [← hpacket]
          exact Nat.le_add_left _ _
        exact lt_of_lt_of_le hpos (htotal ▸ Nat.le_add_right _ _)
      have hsplit := ih hpackets (show slice (fun i => position (packet.length + i)) 0
        packets.flatten.length = packets.flatten by rw [slice_shift, Nat.add_zero, hrest])
      rw [splitPackets, if_pos hgt]
      simp only [hsize]
      rw [if_pos (by omega), htotal, Nat.add_sub_cancel_left, hsplit, hfirst]

/-- A frame with room for its headers has at most 1016 bytes of data. -/
theorem getDataLength_lt {frame : TcTransferFrame} (h : HasDataField frame) :
  frame.getDataLength.toNat ≤ 1016
  := by
  have hhigh : ((frame.vcidAndLength_h &&& 0b00000011).toUInt16).toNat ≤ 3 := by
    rw [UInt8.toNat_toUInt16, UInt8.toNat_and]
    exact Nat.and_le_right
  have hlow := frame.length_l.toNat_lt
  have hlength : frame.getFrameLength.toNat ≤ 1023 := by
    have height : (8 : UInt16).toNat % 16 = 8 := rfl
    simp only [TcTransferFrame.getFrameLength, UInt16.toNat_add, UInt16.toNat_shiftLeft,
      Nat.shiftLeft_eq, height, UInt8.toNat_toUInt16] at hhigh ⊢
    omega
  rw [HasDataField] at h
  have hsize : (TcTransferFrame.getHeaderSize).toNat = 5 := rfl
  have hcrc : (TcTransferFrame.frameCrcSize).toNat = 2 := rfl
  rw [TcTransferFrame.getDataLength, UInt16.toNat_add, UInt16.toNat_sub, UInt16.toNat_sub,
    UInt16.toNat_sub, hsize, hcrc, UInt16.toNat_one]
  omega

/-! ### What is returned for a frame -/

variable {D : PacketDestination σ} {m m' : MapPacketExtraction} {frame : TcTransferFrame}
  {env : σ} {x : Extraction σ}

/-- What becomes of a data field is determined by its packets and the bytes behind them. -/
theorem unpackPackets_eq (P : SpacePacketBase) (totalLength : ℕ) (position : ℕ → UInt8)
    (status : ReturnValue) (forwarded : List (List UInt8)) (env : σ) :
  (unpackPackets P D totalLength position status forwarded env).forwarded
      = forwarded ++ (splitPackets P totalLength position).1 ∧
    (unpackPackets P D totalLength position status forwarded env).env
      = sendAll D (splitPackets P totalLength position).1 env ∧
    ((unpackPackets P D totalLength position status forwarded env).status = .ok
      ↔ (splitPackets P totalLength position).2 = 0 ∧
        ((splitPackets P totalLength position).1 = [] → status = .ok))
  := by
  induction totalLength using Nat.strong_induction_on generalizing position status forwarded env with
  | _ totalLength ih =>
      rw [unpackPackets, splitPackets]
      simp only
      split_ifs with hmore hfits hleft
      · have hpos := P.getFullSize_pos position
        obtain ⟨hforwarded, henv, hstatus⟩ := ih (totalLength - P.getFullSize position) (by omega)
          (fun i => position (P.getFullSize position + i)) .ok
          (forwarded ++ [slice position 0 (P.getFullSize position)])
          (sendCompletePacket D (slice position 0 (P.getFullSize position)) env).2
        refine ⟨?_, ?_, ?_⟩
        · rw [hforwarded, List.append_assoc, List.singleton_append]
        · rw [henv]
          rfl
        · simp [hstatus]
      · have hne : totalLength ≠ 0 := by omega
        simp [sendAll, hne]
      · have hne : totalLength ≠ 0 := by omega
        simp [sendAll, hne]
      · have hzero : totalLength = 0 := by omega
        simp [sendAll, hzero]

/-- What a call has done: the completed packets were forwarded, and if there are any, the status
is `OK` unless bytes are left behind them. -/
structure Forwards (D : PacketDestination σ) (m : MapPacketExtraction) (frame : TcTransferFrame)
    (env : σ) (x : Extraction σ) : Prop where
  forwarded_eq : x.forwarded = completed m frame
  env_eq : x.env = sendAll D (completed m frame) env
  status_iff : completed m frame ≠ [] → (x.status = .ok ↔ ¬ LeavesBytes frame)

/-- Nothing is forwarded of a frame that completes no packet. -/
theorem Forwards.of_completed_nil (h : completed m frame = []) (status : ReturnValue) :
  Forwards D m frame env ⟨status, [], env⟩
  := ⟨h.symm, by rw [h]; rfl, fun hne => absurd h hne⟩

theorem unpackBlockingPackets_forwards (hno : frame.getSequenceFlags = noSegmentation) :
  Forwards D m frame env (unpackBlockingPackets ccsdsPackets D frame env)
  := by
  rw [unpackBlockingPackets]
  by_cases hlarge : frame.getDataLength.toNat > maxPacketSize
  · rw [if_pos hlarge]
    apply Forwards.of_completed_nil
    rw [completed, if_pos hno, if_pos hlarge]
  · have hcompleted : completed m frame = (blockedPackets frame).1 := by
      rw [completed, if_pos hno, if_neg hlarge]
    obtain ⟨hforwarded, henv, hstatus⟩ := unpackPackets_eq (D := D) ccsdsPackets
      frame.getDataLength.toNat frame.getDataField CCSDSReturnValuesIF.tooShortBlockedPacket [] env
    rw [if_neg hlarge]
    refine ⟨?_, ?_, ?_⟩
    · rw [hcompleted]
      exact hforwarded
    · rw [hcompleted]
      exact henv
    · intro hne
      rw [hcompleted, blockedPackets] at hne
      rw [hstatus, LeavesBytes, blockedPackets]
      simp [hno, hne]

theorem firstSegment_forwards (hfirst : frame.getSequenceFlags = firstPortion)
    (h : m.firstSegment frame env = some (m', x)) :
  Forwards D m frame env x
  := by
  have hcompleted : completed m frame = [] := by
    have hno : ¬ (firstPortion : UInt8) = noSegmentation := by decide
    have hlast : ¬ (firstPortion : UInt8) = lastPortion := by decide
    rw [completed, hfirst, if_neg hno, if_neg fun h => hlast h.1]
  rw [firstSegment] at h
  simp only at h
  split_ifs at h
  · split at h
    · cases h
    · cases h
      exact .of_completed_nil hcompleted _
  · cases h
    exact .of_completed_nil hcompleted _

/-- Bytes are copied into the buffer alike, whatever the length of the packet is. -/
theorem copyIn_packetLength (m : MapPacketExtraction) (packetLength position : ℕ)
    (data : List UInt8) :
  { m with packetLength := packetLength }.copyIn position data
    = (m.copyIn position data).map fun m => { m with packetLength := packetLength }
  := by
  rw [copyIn, copyIn]
  split_ifs
  · rfl
  · rfl

theorem nextSegment_forwards (hno : frame.getSequenceFlags ≠ noSegmentation)
    (h : m.nextSegment D frame env = some (m', x)) :
  Forwards D m frame env x
  := by
  rw [nextSegment] at h
  by_cases hflag : m.lastSegmentationFlag = firstPortion ∨
      m.lastSegmentationFlag = continuingPortion
  · simp only [if_pos hflag, copyIn_packetLength] at h
    by_cases hle : (m.packetLength + frame.getDataLength.toNat) % 2 ^ 32 ≤ maxPacketSize
    · rw [if_pos hle] at h
      cases hcopy : m.copyIn m.bufferPosition (dataOf frame) with
      | none =>
          rw [hcopy] at h
          cases h
      | some m₁ =>
          rw [hcopy] at h
          simp only [Option.map_some] at h
          by_cases hlast : frame.getSequenceFlags = lastPortion
          · have hcompleted : completed m frame = [slice m₁.packetBuffer 0
                ((m.packetLength + frame.getDataLength.toNat) % 2 ^ 32)] := by
              rw [completed, if_neg hno, if_pos ⟨hlast, hflag⟩]
              simp only [if_pos hle, hcopy]
            rw [if_pos hlast] at h
            cases h
            refine ⟨hcompleted.symm, ?_, fun _ => iff_of_true rfl fun hleaves => hno hleaves.1⟩
            rw [hcompleted]
            rfl
          · rw [if_neg hlast] at h
            cases h
            apply Forwards.of_completed_nil
            rw [completed, if_neg hno, if_neg fun h => hlast h.1]
    · rw [if_neg hle] at h
      cases h
      apply Forwards.of_completed_nil
      rw [completed, if_neg hno]
      simp only [if_neg hle, ite_self]
  · rw [if_neg hflag] at h
    cases h
    apply Forwards.of_completed_nil
    rw [completed, if_neg hno, if_neg fun h => hflag h.2]

theorem extractPackets_forwards (h : m.extractPackets ccsdsPackets D frame env = some (m', x)) :
  Forwards D m frame env x
  := by
  rw [extractPackets] at h
  split at h
  · cases h
  · rename_i m₁ x₁ hhandle
    cases h
    rw [handleSegment] at hhandle
    split_ifs at hhandle with hno hfirst hnext
    · cases hhandle
      exact unpackBlockingPackets_forwards hno
    · exact firstSegment_forwards hfirst hhandle
    · exact nextSegment_forwards hno hhandle
    · cases hhandle
      apply Forwards.of_completed_nil
      rw [not_or] at hnext
      rw [completed, if_neg hno, if_neg fun h => hnext.2 h.1]

/-- The packets of a frame without segmentation are taken out of it in any state. -/
theorem extractPackets_of_noSegmentation (env : σ) (hno : frame.getSequenceFlags = noSegmentation) :
  ∃ m', m.extractPackets ccsdsPackets D frame env
    = some (m', unpackBlockingPackets ccsdsPackets D frame env)
  := by
  rw [extractPackets, handleSegment, if_pos hno]
  exact ⟨_, rfl⟩

/-- A frame that completes packets is handled. -/
theorem exists_extractPackets (env : σ) (h : completed m frame ≠ []) :
  ∃ m' x, m.extractPackets ccsdsPackets D frame env = some (m', x)
  := by
  by_cases hno : frame.getSequenceFlags = noSegmentation
  · obtain ⟨m', hextract⟩ := extractPackets_of_noSegmentation (D := D) (m := m) env hno
    exact ⟨m', _, hextract⟩
  · rw [completed, if_neg hno] at h
    by_cases hlast : frame.getSequenceFlags = lastPortion ∧
        (m.lastSegmentationFlag = firstPortion ∨ m.lastSegmentationFlag = continuingPortion)
    · rw [if_pos hlast] at h
      have hnotFirst : ¬ frame.getSequenceFlags = firstPortion := by
        rw [hlast.1]
        decide
      rw [extractPackets, handleSegment, if_neg hno, if_neg hnotFirst, if_pos (.inr hlast.1),
        nextSegment, if_pos hlast.2]
      simp only [copyIn_packetLength] at h ⊢
      by_cases hle : (m.packetLength + frame.getDataLength.toNat) % 2 ^ 32 ≤ maxPacketSize
      · rw [if_pos hle] at h ⊢
        cases hcopy : m.copyIn m.bufferPosition (dataOf frame) with
        | none =>
            rw [hcopy] at h
            exact absurd rfl h
        | some m₁ =>
            simp only [Option.map_some, if_pos hlast.1]
            exact ⟨_, _, rfl⟩
      · rw [if_neg hle] at h
        exact absurd rfl h
    · rw [if_neg hlast] at h
      exact absurd rfl h

/-! ### What is to hold -/

/-- `OK` is returned only if every completed packet was stored and its message sent; a data field
that is a concatenation of packets is forwarded, with `OK` if nothing fails; and a packet whose
message could not be sent is not in the store. -/
structure ReportsLosses (laws : D.packetStore.Reliable) (m : MapPacketExtraction)
    (frame : TcTransferFrame) (env : σ) : Prop where
  allSent_of_ok : ∀ {m' x}, m.extractPackets ccsdsPackets D frame env = some (m', x) →
    x.status = .ok → AllSent (sendOutcomes D (completed m frame) env)
  forwards : frame.getSequenceFlags = noSegmentation → HasDataField frame →
    ∀ packets, (∀ packet ∈ packets, IsSpacePacket packet) → dataOf frame = packets.flatten →
      AllSent (sendOutcomes D packets env) →
      ∃ m' x, m.extractPackets ccsdsPackets D frame env = some (m', x) ∧ x.status = .ok ∧
        x.forwarded = packets
  not_left : ∀ {m' x}, m.extractPackets ccsdsPackets D frame env = some (m', x) →
    ∀ storeId, .notSent storeId ∈ sendOutcomes D (completed m frame) env →
      laws.contents x.env storeId = none

theorem sendOutcomes_eq_nil {packets : List (List UInt8)} :
  sendOutcomes D packets env = [] ↔ packets = []
  := by
  cases packets with
  | nil => exact iff_of_true rfl rfl
  | cons packet packets => exact iff_of_false (List.cons_ne_nil _ _) (List.cons_ne_nil _ _)

theorem completed_ne_nil_of_mem {outcome : SendOutcome}
    (h : outcome ∈ sendOutcomes D (completed m frame) env) :
  completed m frame ≠ []
  := by
  intro hnil
  rw [sendOutcomes_eq_nil.mpr hnil] at h
  cases h

/-- The data field of a frame that is a concatenation of packets holds just these. -/
theorem blockedPackets_flatten {packets : List (List UInt8)}
    (h : ∀ packet ∈ packets, IsSpacePacket packet) (hdata : dataOf frame = packets.flatten) :
  blockedPackets frame = (packets, 0)
  := splitPackets_flatten h hdata

/-- Where losses are reported, no message fails to be sent, since its packet would be left. -/
theorem ReportsLosses.notSent_notMem {laws : D.packetStore.Reliable} (hsends : SendsOnly laws)
    (h : ReportsLosses laws m frame env) (storeId : StoreAddress) :
  .notSent storeId ∉ sendOutcomes D (completed m frame) env
  := by
  intro hmem
  obtain ⟨m', x, hextract⟩ := exists_extractPackets (D := D) env
    (completed_ne_nil_of_mem hmem)
  have hnone := h.not_left hextract storeId hmem
  rw [(extractPackets_forwards hextract).env_eq] at hnone
  exact contents_ne_none_of_notSent hsends hmem hnone

/-- Losses are reported exactly when no message fails to be sent, packets are only not stored when
bytes behind them are reported, and the data field of a frame without segmentation is not empty. -/
theorem reportsLosses_iff (laws : D.packetStore.Reliable) (hsends : SendsOnly laws)
    (m : MapPacketExtraction) (frame : TcTransferFrame) (env : σ) :
  ReportsLosses laws m frame env
    ↔ (∀ storeId, .notSent storeId ∉ sendOutcomes D (completed m frame) env) ∧
      (.notStored ∈ sendOutcomes D (completed m frame) env → LeavesBytes frame) ∧
      (frame.getSequenceFlags = noSegmentation → HasDataField frame → dataOf frame ≠ [])
  := by
  constructor
  · intro h
    refine ⟨h.notSent_notMem hsends, ?_, ?_⟩
    · intro hmem
      by_contra hleaves
      have hne := completed_ne_nil_of_mem hmem
      obtain ⟨m', x, hextract⟩ := exists_extractPackets (D := D) env hne
      have hstatus := ((extractPackets_forwards hextract).status_iff hne).mpr hleaves
      exact (allSent_iff.mp (h.allSent_of_ok hextract hstatus)).1 hmem
    · intro hno hfield hnil
      obtain ⟨m', x, hextract, hstatus, -⟩ := h.forwards hno hfield [] (by simp) hnil
        (by simp [AllSent, sendOutcomes])
      obtain ⟨_, hextract'⟩ := extractPackets_of_noSegmentation (D := D) (m := m) env hno
      cases hextract.symm.trans hextract'
      have hlength : frame.getDataLength.toNat = 0 := by
        rw [← length_dataOf, hnil]
        rfl
      rw [unpackBlockingPackets, hlength, if_neg (Nat.not_lt_zero _),
        (unpackPackets_eq _ _ _ _ _ _).2.2] at hstatus
      have hempty := blockedPackets_flatten (show ∀ packet ∈ [], IsSpacePacket packet by simp) hnil
      rw [blockedPackets, hlength] at hempty
      cases hstatus.2 (by rw [hempty])
  · rintro ⟨hsent, hstored, hdata⟩
    refine ⟨?_, ?_, ?_⟩
    · intro m' x hextract hstatus
      apply allSent_iff.mpr
      refine ⟨?_, hsent⟩
      intro hmem
      have hne := completed_ne_nil_of_mem hmem
      exact ((extractPackets_forwards hextract).status_iff hne).mp hstatus (hstored hmem)
    · intro hno hfield packets hpackets hflatten _
      have hblocked := blockedPackets_flatten hpackets hflatten
      have hlength := getDataLength_lt hfield
      have hcompleted : completed m frame = packets := by
        rw [completed, if_pos hno, if_neg (by simp only [maxPacketSize]; omega), hblocked]
      have hne : completed m frame ≠ [] := by
        rw [hcompleted]
        rintro rfl
        exact hdata hno hfield hflatten
      obtain ⟨m', x, hextract⟩ := exists_extractPackets (D := D) env hne
      have hfor := extractPackets_forwards hextract
      refine ⟨m', x, hextract, (hfor.status_iff hne).mpr ?_, hfor.forwarded_eq.trans hcompleted⟩
      rintro ⟨-, hleaves⟩
      rw [hblocked] at hleaves
      exact hleaves rfl
    · intro m' x _ storeId hmem
      exact absurd hmem (hsent storeId)

/-- A destination with a store for a single packet, and a queue that takes messages or not. -/
def smallDestination (queueStatus : ReturnValue) :
    PacketDestination (StoreAddress → Option (List UInt8)) where
  packetStore := (tableStore 1).toStorageManagerIF
  sendMessage _ env := (queueStatus, env)

def smallDestination_reliable (queueStatus : ReturnValue) :
    (smallDestination queueStatus).packetStore.Reliable :=
  (tableStore.reliable 1).toReliable

theorem smallDestination_sendsOnly (queueStatus : ReturnValue) :
  SendsOnly (smallDestination_reliable queueStatus)
  := fun _ _ => rfl

/-- A frame without segmentation whose data field is a packet of seven bytes. -/
def blockedFrame : TcTransferFrame where
  bytes i := if i = 3 then 14 else if i = 5 then 0b11000000 else if i = 12 then 9 else 0

/-- Nothing is lost of a frame whose packet is stored and sent. -/
theorem reportsLosses_blockedFrame :
  SendsOnly (smallDestination_reliable .ok) ∧
    ReportsLosses (smallDestination_reliable .ok) new blockedFrame fun _ => none
  := by
  have hsent : sendOutcomes (smallDestination .ok) (completed new blockedFrame) (fun _ => none)
      = [.sent ⟨0, 0⟩] := by
    decide +kernel
  refine ⟨smallDestination_sendsOnly .ok, ?_⟩
  apply (reportsLosses_iff _ (smallDestination_sendsOnly .ok) _ _ _).mpr
  rw [hsent]
  refine ⟨by simp, by simp, ?_⟩
  intro _ _
  decide +kernel

/-- `OK` is returned for a frame whose packet was stored and not sent, and the packet stays in the
store. -/
theorem not_reportsLosses_unsent :
  ((new.extractPackets ccsdsPackets (smallDestination .failed) blockedFrame fun _ => none).map
      fun (_, x) => (x.status, x.env ⟨0, 0⟩)) = some (.ok, some [0, 0, 0, 0, 0, 0, 9]) ∧
    ¬ ReportsLosses (smallDestination_reliable .failed) new blockedFrame fun _ => none
  := by
  have houtcomes : sendOutcomes (smallDestination .failed) (completed new blockedFrame)
      (fun _ => none) = [.notSent ⟨0, 0⟩] := by
    decide +kernel
  refine ⟨by decide +kernel, ?_⟩
  intro h
  have hsent := h.notSent_notMem (smallDestination_sendsOnly .failed) ⟨0, 0⟩
  rw [houtcomes] at hsent
  exact hsent List.mem_cons_self

end MapPacketExtraction
