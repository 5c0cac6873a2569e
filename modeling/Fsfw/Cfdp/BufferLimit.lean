import Fsfw.Cfdp.PduCreators
import Fsfw.Serialize.BufferLimit

/-!
# The limit of the buffer in the serializers

Each object has the length of its serialized form, which is missing when it cannot be
serialized at all: fields of a width that is not supported, null pointers, TLVs of the invalid
type, missing second file names, acknowledgements of other directives.

Some serializers compare the limit with the length of the object alone, as if nothing had been
written in front of it, or write single bytes without looking for room.  `ChecksRoom` is the
condition under which no such check lets through what does not fit, and none refuses what
does.  It is the exact condition for the limit to be respected (`Serializable.respects_iff`).
-/

/-- The length of an adapter that has a block of bytes. -/
def SerialBufferAdapter.serializedLength (a : SerialBufferAdapter) : Option ℕ :=
  if a.buffer.isSome then some a.getSerializedSize else none

namespace Cfdp

open Serializer

/-! ### Fields -/

def VarLenField.serializedLength (field : VarLenField) : Option ℕ :=
  if Supported field.width then some field.width.toNat else none

theorem VarLenField.checked (field : VarLenField) :
  Checked field.serialize field.serializedLength always
  := by
  by_cases hwidth : Supported field.width
  · rw [serializedLength, if_pos hwidth]
    have hs : ∀ maxSize e b, field.serialize maxSize e b
        = if b.size + field.width.toNat ≤ maxSize then (.ok, b.put (field.bytes e))
          else (SerializeIF.bufferTooShort, b) := by
      intro maxSize e b
      rw [serialize_eq, if_neg (not_not.mpr hwidth)]
    apply checked_of_eq (by decide) field.length_bytes hs
  · rw [serializedLength, if_neg hwidth]
    apply checked_of_fails
    intro maxSize e b
    rw [serialize_eq, if_pos hwidth]
    apply fails_of_refused (by decide)

theorem FileSize.checked (size : FileSize) :
  Checked size.serialize (some size.getSerializedSize) always
  := checked_of_eq (by decide) size.length_bytes size.serialize_eq

/-- The adapter looks for room for the length, and then for the block. -/
theorem adapter_checked (a : SerialBufferAdapter) :
  Checked a.serialize a.serializedLength always
  := by
  cases hbuffer : a.buffer with
  | some data =>
      have htake : (data.take a.bufferLength.toNat).length = a.bufferLength.toNat := by
        simpa using a.length_le data hbuffer
      have hsum : a.serializedLength = lengthSum (some 1) (some a.bufferLength.toNat) := by
        simp [SerialBufferAdapter.serializedLength, hbuffer, lengthSum,
          SerialBufferAdapter.getSerializedSize, Nat.add_comm]
      have hseq : a.serialize
          = seq (SerializeAdapter.serialize 1 a.bufferLength.toNat)
            (guarded a.bufferLength.toNat (data.take a.bufferLength.toNat)) := by
        funext maxSize e b
        rw [SerialBufferAdapter.serialize, hbuffer]
        rfl
      rw [hsum, hseq]
      exact (checked_number (by decide) _).andThen_always (checked_guarded htake)
  | none =>
      have hnone : a.serializedLength = none := by
        simp [SerialBufferAdapter.serializedLength, hbuffer]
      rw [hnone]
      apply checked_of_fails
      intro maxSize e b
      rw [SerialBufferAdapter.serialize, SerializeAdapter.serialize_eq (by decide), hbuffer]
      split
      · rename_i hroom
        rw [andThen_ok]
        split
        · exact ⟨by simp, by simp, by simp; omega⟩
        · exact ⟨by simp, by simp, by simp; omega⟩
      · apply fails_of_refused (by decide)

theorem adapter_one_le {a : SerialBufferAdapter} {i : ℕ}
    (hi : i ∈ a.serializedLength) :
  1 ≤ i
  := by
  rw [SerialBufferAdapter.serializedLength] at hi
  split at hi
  · cases hi
    apply Nat.le_add_left
  · cases hi

/-! ### Length-value and type-length-value fields -/

namespace Lv

def serializedLength (lv : Lv) : Option ℕ :=
  if lv.zeroLen then some 1 else lv.value.serializedLength

-- Only the limit itself is looked at before the length of an empty block is written.
def ChecksRoom (lv : Lv) (size maxSize : ℕ) : Prop :=
  lv.zeroLen → 1 ≤ maxSize → size + 1 ≤ maxSize

theorem checked (lv : Lv) :
  Checked lv.serialize lv.serializedLength lv.ChecksRoom
  := by
  have hseq : lv.serialize
      = atLeast 1 (if lv.zeroLen then raw [0] else lv.value.serialize) := by
    funext maxSize e b
    rw [serialize, atLeast]
    split
    · rfl
    · cases lv.zeroLen <;> rfl
  rw [hseq]
  by_cases hzero : lv.zeroLen
  · rw [if_pos hzero, serializedLength, if_pos hzero]
    apply (checked_atLeast (by simp) (checked_raw (by simp))).congr
    intro size maxSize
    simp [ChecksRoom, hzero]
  · rw [if_neg hzero, serializedLength, if_neg hzero]
    apply (checked_atLeast (fun _ => adapter_one_le) (adapter_checked _)).congr
    intro size maxSize
    simp [ChecksRoom, hzero, always]

end Lv

namespace Tlv

def serializedLength (tlv : Tlv) : Option ℕ :=
  if tlv.type = .invalidTlv then none
  else lengthSum (some 1) (if tlv.zeroLen then some 1 else tlv.value.serializedLength)

theorem checked_value (tlv : Tlv) :
  Checked (if tlv.zeroLen then raw [0]
      else if tlv.value.buffer.isNone then fun _ _ b => (.failed, b)
      else tlv.value.serialize)
    (if tlv.zeroLen then some 1 else tlv.value.serializedLength)
    fun size maxSize => tlv.zeroLen → size + 1 ≤ maxSize
  := by
  by_cases hzero : tlv.zeroLen
  · rw [if_pos hzero, if_pos hzero]
    apply (checked_raw (by simp)).congr
    intro size maxSize
    simp [hzero]
  · rw [if_neg hzero, if_neg hzero]
    by_cases hnull : tlv.value.buffer.isNone
    · have hnone : tlv.value.serializedLength = none := by
        simp [SerialBufferAdapter.serializedLength, Option.isNone_iff_eq_none.mp hnull]
      rw [if_pos hnull, hnone]
      apply (checked_of_fails _).congr
      · intro size maxSize
        simp [hzero, always]
      · intro maxSize e b
        apply fails_of_refused (by decide)
    · rw [if_neg hnull]
      apply (adapter_checked _).congr
      intro size maxSize
      simp [hzero, always]

theorem checked (tlv : Tlv) :
  Checked tlv.serialize tlv.serializedLength always
  := by
  by_cases htype : tlv.type = .invalidTlv
  · rw [serializedLength, if_pos htype]
    apply checked_of_fails
    intro maxSize e b
    rw [serialize, if_pos htype]
    split
    · apply fails_of_refused (by decide)
    · apply fails_of_refused (by decide)
  · have hseq : tlv.serialize
        = roomFor 2 (seq (raw [UInt8.ofNat tlv.type.code])
          (if tlv.zeroLen then raw [0]
            else if tlv.value.buffer.isNone then fun _ _ b => (.failed, b)
            else tlv.value.serialize)) := by
      funext maxSize e b
      rw [serialize, roomFor, if_neg htype]
      split
      · rfl
      · rw [seq, raw, andThen_ok]
        split
        · rfl
        · split
          · rfl
          · rfl
    have htwo : ∀ i ∈ lengthSum (some 1)
        (if tlv.zeroLen then some 1 else tlv.value.serializedLength), 2 ≤ i := by
      intro i hi
      obtain ⟨_, ⟨⟩, j, hj, rfl⟩ := mem_lengthSum.mp hi
      split at hj
      · cases hj
        rfl
      · have hone := adapter_one_le hj
        omega
    rw [hseq, serializedLength, if_neg htype]
    apply (checked_roomFor htwo (tlv.checked_value.behind_raw rfl (by decide))).congr
    intro size maxSize
    simp [always]
    omega

end Tlv

namespace EntityIdTlv

def serializedLength (tlv : EntityIdTlv) : Option ℕ :=
  lengthSum (some 2) tlv.entityId.serializedLength

-- The limit is compared with the length of the TLV alone.
def ChecksRoom (tlv : EntityIdTlv) (size maxSize : ℕ) : Prop :=
  tlv.getSerializedSize ≤ maxSize → size + 2 ≤ maxSize

theorem checked (tlv : EntityIdTlv) :
  Checked tlv.serialize tlv.serializedLength tlv.ChecksRoom
  := by
  have hseq : tlv.serialize = atLeast tlv.getSerializedSize
      (seq (raw [UInt8.ofNat TlvType.entityId.code,
        UInt8.ofNat tlv.entityId.getSerializedSize]) tlv.entityId.serialize) := by
    funext maxSize e b
    rw [serialize, atLeast, seq, raw, andThen_ok, SerialBuffer.put_put]
    rfl
  have hle : ∀ i ∈ tlv.serializedLength, tlv.getSerializedSize ≤ i := by
    intro i hi
    obtain ⟨_, ⟨⟩, j, hj, rfl⟩ := mem_lengthSum.mp hi
    rw [VarLenField.serializedLength] at hj
    split at hj
    · rename_i hwidth
      cases hj
      rw [getSerializedSize, getLengthField, VarLenField.getSerializedSize]
      rcases hwidth with hw | hw | hw <;> rw [hw] <;> decide
    · cases hj
  rw [hseq]
  apply (checked_atLeast hle (tlv.entityId.checked.behind_raw rfl (by decide))).congr
  intro size maxSize
  simp [ChecksRoom, always]

end EntityIdTlv

namespace FilestoreResponseTlv

/-- An empty message, which is written wherever the buffer is not at its limit. -/
def emptyMsg : Serializer :=
  fun maxSize _ b =>
    if b.size = maxSize then (SerializeIF.bufferTooShort, b) else (.ok, b.put [0])

theorem checked_emptyMsg :
  Checked emptyMsg (some 1) fun size maxSize => size ≤ maxSize
  := by
  refine ⟨⟨?_, ?_⟩, ?_⟩
  · intro maxSize e b hok
    rw [emptyMsg] at hok ⊢
    split at hok
    · cases hok
    · rename_i hne
      rw [if_neg hne]
      exact ⟨1, rfl, rfl⟩
  · intro maxSize e b
    rw [emptyMsg]
    split
    · rfl
    · apply Nat.le_add_right
  · intro maxSize e b
    by_cases heq : b.size = maxSize
    · refine ⟨fun _ => ⟨?_, ?_⟩, fun hnot => (hnot heq.le).elim⟩
      · rw [emptyMsg, if_pos heq]
        refine ⟨by simp, ?_⟩
        rintro ⟨_, ⟨⟩, hroom⟩
        omega
      · rw [emptyMsg, if_pos heq]
        apply le_max_left
    · constructor
      · intro hle
        constructor
        · rw [emptyMsg, if_neg heq]
          exact iff_of_true rfl ⟨1, rfl, by omega⟩
        · rw [emptyMsg, if_neg heq, SerialBuffer.size_put, List.length_singleton]
          omega
      · intro hnot
        rw [emptyMsg, if_neg heq, SerialBuffer.size_put, List.length_singleton]
        omega

/-- What is written behind the first file name. -/
def serializeMsg (tlv : FilestoreResponseTlv) : Serializer :=
  fun maxSize e b =>
    if tlv.requiresSecondFileName ∧ tlv.secondFileName.isNone then
      (filestoreRequiresSecondFile, b)
    else
      match tlv.filestoreMsg with
      | some msg => msg.serialize maxSize e b
      | none => emptyMsg maxSize e b

def msgLength (tlv : FilestoreResponseTlv) : Option ℕ :=
  if tlv.requiresSecondFileName ∧ tlv.secondFileName.isNone then none
  else
    match tlv.filestoreMsg with
    | some msg => msg.serializedLength
    | none => some 1

def MsgChecksRoom (tlv : FilestoreResponseTlv) (size maxSize : ℕ) : Prop :=
  (tlv.requiresSecondFileName → tlv.secondFileName.isSome) →
    match tlv.filestoreMsg with
    | some msg => msg.ChecksRoom size maxSize
    | none => size ≤ maxSize

def serializedLength (tlv : FilestoreResponseTlv) : Option ℕ :=
  lengthSum (some 3) (lengthSum tlv.firstFileName.serializedLength tlv.msgLength)

def ChecksRoom (tlv : FilestoreResponseTlv) (size maxSize : ℕ) : Prop :=
  3 ≤ maxSize →
    size + 3 ≤ maxSize ∧ tlv.firstFileName.ChecksRoom (size + 3) maxSize ∧
      ∀ n ∈ tlv.firstFileName.serializedLength, size + 3 + n ≤ maxSize →
        tlv.MsgChecksRoom (size + 3 + n) maxSize

theorem checked_serializeMsg (tlv : FilestoreResponseTlv) :
  Checked tlv.serializeMsg tlv.msgLength tlv.MsgChecksRoom
  := by
  by_cases hmissing : tlv.requiresSecondFileName ∧ tlv.secondFileName.isNone
  · have hcheck : ¬ (tlv.requiresSecondFileName → tlv.secondFileName.isSome) := by
      simpa using hmissing
    have hseq : tlv.serializeMsg = fun _ _ b => (filestoreRequiresSecondFile, b) := by
      funext maxSize e b
      exact if_pos hmissing
    rw [hseq, msgLength, if_pos hmissing]
    apply (checked_of_fails _).congr
    · intro size maxSize
      exact iff_of_true trivial fun h => (hcheck h).elim
    · intro maxSize e b
      apply fails_of_refused (by decide)
  · have hpresent : tlv.requiresSecondFileName → tlv.secondFileName.isSome := by
      simpa [Option.isSome_iff_ne_none] using hmissing
    cases hmsg : tlv.filestoreMsg with
    | some msg =>
        have hseq : tlv.serializeMsg = msg.serialize := by
          funext maxSize e b
          rw [serializeMsg, if_neg hmissing, hmsg]
        rw [hseq, msgLength, if_neg hmissing, hmsg]
        apply msg.checked.congr
        intro size maxSize
        rw [MsgChecksRoom, hmsg, forall_prop_of_true hpresent]
    | none =>
        have hseq : tlv.serializeMsg = emptyMsg := by
          funext maxSize e b
          rw [serializeMsg, if_neg hmissing, hmsg]
        rw [hseq, msgLength, if_neg hmissing, hmsg]
        apply checked_emptyMsg.congr
        intro size maxSize
        rw [MsgChecksRoom, hmsg, forall_prop_of_true hpresent]

theorem checked (tlv : FilestoreResponseTlv) :
  Checked tlv.serialize tlv.serializedLength tlv.ChecksRoom
  := by
  have hseq : tlv.serialize
      = atLeast 3 (seq (raw tlv.commonBytes)
        (seq tlv.firstFileName.serialize tlv.serializeMsg)) := by
    funext maxSize e b
    rw [serialize, commonSerialize, atLeast]
    split
    · rfl
    · rfl
  have hthree : ∀ i ∈ tlv.serializedLength, 3 ≤ i := by
    intro i hi
    obtain ⟨_, ⟨⟩, j, -, rfl⟩ := mem_lengthSum.mp hi
    apply Nat.le_add_right
  rw [hseq]
  exact checked_atLeast hthree
    ((tlv.firstFileName.checked.andThen tlv.checked_serializeMsg).behind_raw rfl (by decide))

end FilestoreResponseTlv

namespace FilestoreRequestTlv

def secondLength (tlv : FilestoreRequestTlv) : Option ℕ :=
  if tlv.requiresSecondFileName then tlv.secondFileName.bind Lv.serializedLength else some 0

-- Nobody looks at the result for the second file name, so it has to fit.
def SecondChecksRoom (tlv : FilestoreRequestTlv) (size maxSize : ℕ) : Prop :=
  tlv.requiresSecondFileName →
    ∀ lv ∈ tlv.secondFileName, ∃ n ∈ lv.serializedLength, size + n ≤ maxSize

def serializedLength (tlv : FilestoreRequestTlv) : Option ℕ :=
  lengthSum (some 3) (lengthSum tlv.firstFileName.serializedLength tlv.secondLength)

def ChecksRoom (tlv : FilestoreRequestTlv) (size maxSize : ℕ) : Prop :=
  3 ≤ maxSize →
    size + 3 ≤ maxSize ∧ tlv.firstFileName.ChecksRoom (size + 3) maxSize ∧
      ∀ n ∈ tlv.firstFileName.serializedLength, size + 3 + n ≤ maxSize →
        tlv.SecondChecksRoom (size + 3 + n) maxSize

theorem grows_serializeSecondFileName (tlv : FilestoreRequestTlv) :
  Grows tlv.serializeSecondFileName
  := by
  intro maxSize e b
  rw [serializeSecondFileName]
  split
  · split
    · exact (Lv.checked _).grows maxSize e b
    · rfl
  · rfl

/-- The second file name is reported as written, so it is well written only if it fits. -/
theorem second_respects_iff (tlv : FilestoreRequestTlv) {maxSize : ℕ} (e : Endianness)
    {b : SerialBuffer} (hroom : b.size ≤ maxSize) :
  Respects tlv.serializeSecondFileName tlv.secondLength maxSize e b
    ↔ tlv.SecondChecksRoom b.size maxSize
  := by
  by_cases hrequires : tlv.requiresSecondFileName
  · cases hsecond : tlv.secondFileName with
    | some lv =>
        have hresult : tlv.serializeSecondFileName maxSize e b
            = (.ok, (lv.serialize maxSize e b).2) := by
          rw [serializeSecondFileName, if_pos hrequires, hsecond]
        have hlength : tlv.secondLength = lv.serializedLength := by
          rw [secondLength, if_pos hrequires, hsecond, Option.bind_some]
        have hcheck : tlv.SecondChecksRoom b.size maxSize
            ↔ ∃ n ∈ lv.serializedLength, b.size + n ≤ maxSize := by
          simp [SecondChecksRoom, hrequires, hsecond]
        rw [hcheck, hlength]
        constructor
        · rintro ⟨hokIff, -⟩
          rw [hresult] at hokIff
          exact hokIff.mp rfl
        · intro hfits
          have hrespects : lv.serialize.Respects lv.serializedLength maxSize e b := by
            rw [lv.checked.respects_iff]
            intro hzero _
            obtain ⟨n, hn, hn'⟩ := hfits
            rw [Lv.serializedLength, if_pos hzero] at hn
            cases hn
            exact hn'
          constructor
          · rw [hresult]
            exact iff_of_true rfl hfits
          · rw [hresult]
            exact hrespects.size_le
    | none =>
        have hresult : tlv.serializeSecondFileName maxSize e b
            = (filestoreRequiresSecondFile, b) := by
          rw [serializeSecondFileName, if_pos hrequires, hsecond]
        have hlength : tlv.secondLength = none := by
          rw [secondLength, if_pos hrequires, hsecond, Option.bind_none]
        apply iff_of_true
        · constructor
          · rw [hresult, hlength]
            exact ⟨by simp, by rintro ⟨_, ⟨⟩, _⟩⟩
          · rw [hresult]
            apply le_max_left
        · rw [SecondChecksRoom, hsecond]
          rintro _ _ ⟨⟩
  · have hresult : tlv.serializeSecondFileName maxSize e b = (.ok, b) := by
      rw [serializeSecondFileName, if_neg hrequires]
    have hlength : tlv.secondLength = some 0 := by
      rw [secondLength, if_neg hrequires]
    apply iff_of_true
    · constructor
      · rw [hresult, hlength]
        exact iff_of_true rfl ⟨0, rfl, hroom⟩
      · rw [hresult]
        apply le_max_left
    · exact fun h => (hrequires h).elim

theorem respects_iff (tlv : FilestoreRequestTlv) (maxSize : ℕ) (e : Endianness)
    (b : SerialBuffer) :
  Respects tlv.serialize tlv.serializedLength maxSize e b ↔ tlv.ChecksRoom b.size maxSize
  := by
  have hseq : tlv.serialize
      = atLeast 3 (seq (seq (raw tlv.commonBytes) tlv.firstFileName.serialize)
        tlv.serializeSecondFileName) := by
    funext maxSize e b
    rw [serialize, commonSerialize, atLeast]
    split
    · rfl
    · rw [seq, seq, raw, andThen_ok, andThen_ok]
  have hcommon : tlv.commonBytes.length = 3 := rfl
  have hfront := tlv.firstFileName.checked.behind_raw hcommon (by decide)
  rw [hseq, serializedLength, ← lengthSum_assoc, respects_atLeast_iff,
    hfront.respects_seq_iff (fun b₁ hb₁ => tlv.second_respects_iff e hb₁)
      tlv.grows_serializeSecondFileName, and_iff_right]
  · rw [ChecksRoom, and_assoc]
    apply imp_congr_right
    intro _
    apply and_congr_right
    intro _
    apply and_congr_right
    intro _
    constructor
    · intro h n hn hroom
      have hnext := h (3 + n) (mem_lengthSum.mpr ⟨3, rfl, n, hn, rfl⟩) (by omega)
      rwa [← Nat.add_assoc] at hnext
    · intro h i hi hroom
      obtain ⟨_, ⟨⟩, n, hn, rfl⟩ := mem_lengthSum.mp hi
      rw [← Nat.add_assoc]
      exact h n hn (by omega)
  · intro i hi hroom
    rw [lengthSum_assoc] at hi
    obtain ⟨_, ⟨⟩, n, -, rfl⟩ := mem_lengthSum.mp hi
    omega

end FilestoreRequestTlv

theorem FaultHandlerOverrideTlv.checked (tlv : FaultHandlerOverrideTlv) :
  Checked tlv.serialize (some 3) always
  := by
  have hseq : tlv.serialize = guarded 3 tlv.bytes := by
    funext maxSize e b
    rw [serialize, guarded]
    by_cases hroom : maxSize < b.size + 3
    · rw [if_pos hroom, if_pos (Or.inr hroom)]
    · rw [if_neg hroom, if_neg (by omega)]
  rw [hseq]
  exact checked_guarded rfl

/-! ### Headers and directive codes -/

namespace HeaderCreator

def serializedLength (h : HeaderCreator) : Option ℕ :=
  lengthSum (some 4) (lengthSum h.pduConf.sourceId.serializedLength
    (lengthSum h.pduConf.seqNum.serializedLength h.pduConf.destId.serializedLength))

-- The limit is compared with the length of the header alone, where the destination id is
-- counted as long as the source id.
def ChecksRoom (h : HeaderCreator) (size maxSize : ℕ) : Prop :=
  (∀ n ∈ h.serializedLength, size + n ≤ maxSize → h.getSerializedSize ≤ maxSize) ∧
    (h.getSerializedSize ≤ maxSize → size + 4 ≤ maxSize)

/-- The header behind the look at the limit. -/
def serializeParts (h : HeaderCreator) : Serializer :=
  seq (raw h.fixedBytes) (seq h.pduConf.sourceId.serialize
    (seq h.pduConf.seqNum.serialize h.pduConf.destId.serialize))

theorem serialize_eq_atLeast (h : HeaderCreator) :
  h.serialize = atLeast h.getSerializedSize h.serializeParts
  := rfl

theorem checked_serializeParts (h : HeaderCreator) :
  Checked h.serializeParts h.serializedLength fun size maxSize => size + 4 ≤ maxSize
  := by
  have hfields := h.pduConf.sourceId.checked.andThen_always
    (h.pduConf.seqNum.checked.andThen_always h.pduConf.destId.checked)
  have hfixed : h.fixedBytes.length = 4 := rfl
  apply (hfields.behind_raw hfixed (by decide)).congr
  intro size maxSize
  simp [always]

theorem respects_iff (h : HeaderCreator) (maxSize : ℕ) (e : Endianness) (b : SerialBuffer) :
  Respects h.serialize h.serializedLength maxSize e b ↔ h.ChecksRoom b.size maxSize
  := by
  rw [serialize_eq_atLeast, respects_atLeast_iff, h.checked_serializeParts.respects_iff]
  rfl

end HeaderCreator

namespace FileDirectiveCreator

def serializedLength (c : FileDirectiveCreator) : Option ℕ :=
  lengthSum c.header.serializedLength (some 1)

/-- The condition for a PDU of the given length, from the one for what is behind the directive
code.  The limit is compared with the length of the PDU that the header declares. -/
def ChecksRoom (c : FileDirectiveCreator) (length : Option ℕ) (next : ℕ → ℕ → Prop)
    (size maxSize : ℕ) : Prop :=
  (∀ n ∈ length, size + n ≤ maxSize → c.getWholePduSize ≤ maxSize) ∧
    (c.getWholePduSize ≤ maxSize →
      size + 4 ≤ maxSize ∧
        ∀ n ∈ c.serializedLength, size + n ≤ maxSize → next (size + n) maxSize)

/-- The header and the directive code behind the look at the limit. -/
def serializeParts (c : FileDirectiveCreator) : Serializer :=
  seq c.header.serializeParts (guarded 1 [UInt8.ofNat c.directiveCode.code])

theorem serialize_eq_atLeast (c : FileDirectiveCreator) :
  c.serialize = atLeast c.getWholePduSize c.serializeParts
  := by
  funext maxSize e b
  rw [serialize, atLeast]
  split
  · rfl
  · rename_i hwhole
    have hheader : c.header.getSerializedSize ≤ maxSize := by
      rw [getWholePduSize, HeaderCreator.getWholePduSize] at hwhole
      omega
    rw [HeaderCreator.serialize_eq_atLeast, atLeast_of_le hheader]
    simp only [serializeParts, seq, guarded, Nat.lt_add_one_iff]

theorem checked_serializeParts (c : FileDirectiveCreator) :
  Checked c.serializeParts c.serializedLength fun size maxSize => size + 4 ≤ maxSize
  := by
  have hcode : [UInt8.ofNat c.directiveCode.code].length = 1 := rfl
  apply (c.header.checked_serializeParts.andThen (checked_guarded hcode)).congr
  intro size maxSize
  simp [always]

/-- A PDU is a header, a directive code and contents. -/
theorem respects_seq_iff (c : FileDirectiveCreator) {contents : Serializer} {m : Option ℕ}
    {next : ℕ → ℕ → Prop} {maxSize : ℕ} {e : Endianness} (b : SerialBuffer)
    (hnext : ∀ b₁, b₁.size ≤ maxSize →
      (contents.Respects m maxSize e b₁ ↔ next b₁.size maxSize))
    (hgrows : Grows contents) :
  Respects (seq c.serialize contents) (lengthSum c.serializedLength m) maxSize e b
    ↔ c.ChecksRoom (lengthSum c.serializedLength m) next b.size maxSize
  := by
  rw [serialize_eq_atLeast, seq_atLeast, respects_atLeast_iff,
    c.checked_serializeParts.respects_seq_iff hnext hgrows]
  rfl

theorem respects_iff (c : FileDirectiveCreator) (maxSize : ℕ) (e : Endianness)
    (b : SerialBuffer) :
  Respects c.serialize c.serializedLength maxSize e b
    ↔ c.ChecksRoom c.serializedLength always b.size maxSize
  := by
  rw [serialize_eq_atLeast, respects_atLeast_iff, c.checked_serializeParts.respects_iff]
  simp [ChecksRoom, always]

/-- Contents that are checked are no more condition. -/
theorem respects_behind_iff (c : FileDirectiveCreator) {contents : Serializer}
    {m : Option ℕ} (h : Checked contents m always) {maxSize : ℕ} {e : Endianness}
    (b : SerialBuffer) :
  Respects (seq c.serialize contents) (lengthSum c.serializedLength m) maxSize e b
    ↔ c.ChecksRoom (lengthSum c.serializedLength m) always b.size maxSize
  := c.respects_seq_iff b (fun _ _ => h.respects_iff) h.grows

end FileDirectiveCreator

/-! ### The contents of the PDUs -/

namespace EofPduCreator

def contentLength (c : EofPduCreator) : Option ℕ :=
  lengthSum (some 5) (lengthSum (some c.info.fileSize.getSerializedSize)
    ((c.info.reportedFaultLoc.map EntityIdTlv.serializedLength).getD (some 0)))

def serializedLength (c : EofPduCreator) : Option ℕ :=
  lengthSum c.directive.serializedLength c.contentLength

-- The fault location is serialized behind a file size that found no room as well, and then
-- may find room itself.
def FaultChecksRoom (c : EofPduCreator) (size maxSize : ℕ) : Prop :=
  ∀ faultLoc ∈ c.info.reportedFaultLoc,
    (size + c.info.fileSize.getSerializedSize ≤ maxSize →
      faultLoc.ChecksRoom (size + c.info.fileSize.getSerializedSize) maxSize) ∧
    (maxSize < size + c.info.fileSize.getSerializedSize →
      faultLoc.ChecksRoom size maxSize ∧
        ∀ n ∈ faultLoc.serializedLength, maxSize < size + n)

def ContentChecksRoom (c : EofPduCreator) (size maxSize : ℕ) : Prop :=
  size + 5 ≤ maxSize → c.FaultChecksRoom (size + 5) maxSize

def ChecksRoom (c : EofPduCreator) : ℕ → ℕ → Prop :=
  c.directive.ChecksRoom c.serializedLength c.ContentChecksRoom

/-- What is written behind the checksum. -/
def serializeEnd (c : EofPduCreator) : Serializer :=
  fun maxSize e b =>
    match c.info.reportedFaultLoc with
    | some faultLoc => faultLoc.serialize maxSize e (c.info.fileSize.serialize maxSize e b).2
    | none => c.info.fileSize.serialize maxSize e b

/-- What is written behind the directive code. -/
def serializeContents (c : EofPduCreator) : Serializer :=
  seq (guarded 1 [UInt8.ofNat (c.info.conditionCode.code <<< 4)])
    (seq (SerializeAdapter.serialize 4 c.info.checksum.toNat) c.serializeEnd)

theorem serialize_eq_seq (c : EofPduCreator) :
  c.serialize = seq c.directive.serialize c.serializeContents
  := by
  funext maxSize e b
  rw [serialize, seq]
  congr 1
  funext b₁
  rw [serializeContents, seq, guarded]
  split
  · rfl
  · rfl

theorem grows_serializeEnd (c : EofPduCreator) :
  Grows c.serializeEnd
  := by
  intro maxSize e b
  have hsize := c.info.fileSize.checked.grows maxSize e b
  rw [serializeEnd]
  split
  · rename_i faultLoc _
    have hfault := faultLoc.checked.grows maxSize e (c.info.fileSize.serialize maxSize e b).2
    omega
  · exact hsize

theorem respects_serializeEnd_iff (c : EofPduCreator) (maxSize : ℕ) (e : Endianness)
    (b : SerialBuffer) :
  Respects c.serializeEnd (lengthSum (some c.info.fileSize.getSerializedSize)
      ((c.info.reportedFaultLoc.map EntityIdTlv.serializedLength).getD (some 0))) maxSize e b
    ↔ c.FaultChecksRoom b.size maxSize
  := by
  have hfileSize := c.info.fileSize.serialize_eq maxSize e b
  cases hreported : c.info.reportedFaultLoc with
  | none =>
      have hend : c.serializeEnd maxSize e b = c.info.fileSize.serialize maxSize e b := by
        rw [serializeEnd, hreported]
      have hlength : ∀ n, lengthSum (some n) (some 0) = some n := fun _ => rfl
      rw [Option.map_none, Option.getD_none, respects_congr hend, hlength,
        c.info.fileSize.checked.respects_iff, FaultChecksRoom, hreported]
      apply iff_of_true trivial
      rintro _ ⟨⟩
  | some faultLoc =>
      have hend : c.serializeEnd maxSize e b
          = faultLoc.serialize maxSize e (c.info.fileSize.serialize maxSize e b).2 := by
        rw [serializeEnd, hreported]
      rw [Option.map_some, Option.getD_some, FaultChecksRoom, hreported]
      simp only [Option.mem_some_iff, forall_eq']
      by_cases hroom : b.size + c.info.fileSize.getSerializedSize ≤ maxSize
      · have hseq : c.serializeEnd maxSize e b
            = seq c.info.fileSize.serialize faultLoc.serialize maxSize e b := by
          rw [hend, seq_of_ok]
          rw [hfileSize, if_pos hroom]
        rw [respects_congr hseq,
          (c.info.fileSize.checked.andThen faultLoc.checked).respects_iff]
        simp [always, hroom, Nat.not_lt.mpr hroom]
      · have hsame : c.serializeEnd maxSize e b = faultLoc.serialize maxSize e b := by
          rw [hend, hfileSize, if_neg hroom]
        rw [respects_congr hsame, forall_prop_of_false hroom, true_and,
          forall_prop_of_true (Nat.lt_of_not_le hroom), ← faultLoc.checked.respects_iff]
        have hnot : ¬ ∃ n ∈ lengthSum (some c.info.fileSize.getSerializedSize)
            faultLoc.serializedLength, b.size + n ≤ maxSize := by
          rintro ⟨n, hn, hfits⟩
          obtain ⟨_, ⟨⟩, j, -, rfl⟩ := mem_lengthSum.mp hn
          omega
        constructor
        · rintro ⟨hok, hsize⟩
          have hrespects := faultLoc.checked.respects_of_size_le hsize
          refine ⟨hrespects, ?_⟩
          intro n hn
          by_contra hlt
          exact hnot (hok.mp (hrespects.ok_iff.mpr ⟨n, hn, Nat.le_of_not_lt hlt⟩))
        · rintro ⟨hrespects, hall⟩
          refine ⟨iff_of_false ?_ hnot, hrespects.size_le⟩
          intro hok
          obtain ⟨n, hn, hfits⟩ := hrespects.ok_iff.mp hok
          have hlt := hall n hn
          omega

theorem respects_serializeContents_iff (c : EofPduCreator) {maxSize : ℕ} (e : Endianness)
    (b : SerialBuffer) :
  Respects c.serializeContents c.contentLength maxSize e b
    ↔ c.ContentChecksRoom b.size maxSize
  := by
  have hcode : [UInt8.ofNat (c.info.conditionCode.code <<< 4)].length = 1 := rfl
  have hfront := (checked_guarded hcode).andThen_always
    (checked_number (show 0 < 4 by decide) c.info.checksum.toNat)
  rw [serializeContents, ← seq_assoc]
  exact hfront.respects_behind_iff (fun b₁ _ => c.respects_serializeEnd_iff maxSize e b₁)
    c.grows_serializeEnd

theorem grows_serializeContents (c : EofPduCreator) :
  Grows c.serializeContents
  := by
  have hcode : [UInt8.ofNat (c.info.conditionCode.code <<< 4)].length = 1 := rfl
  apply (checked_guarded hcode).grows.andThen
  exact (checked_number (by decide) _).grows.andThen c.grows_serializeEnd

theorem respects_iff (c : EofPduCreator) (maxSize : ℕ) (e : Endianness) (b : SerialBuffer) :
  Respects c.serialize c.serializedLength maxSize e b ↔ c.ChecksRoom b.size maxSize
  := by
  rw [serialize_eq_seq]
  apply c.directive.respects_seq_iff
  · intro b₁ _
    exact c.respects_serializeContents_iff e b₁
  · exact c.grows_serializeContents

end EofPduCreator

namespace FinishPduCreator

/-- The fault location as a list. -/
def faultLocations (c : FinishPduCreator) : List EntityIdTlv :=
  c.finishInfo.faultLocation.toList

def tlvsLength (c : FinishPduCreator) : Option ℕ :=
  lengthSum (lengthAll FilestoreResponseTlv.serializedLength c.finishInfo.fsResponses)
    (lengthAll EntityIdTlv.serializedLength c.faultLocations)

def serializedLength (c : FinishPduCreator) : Option ℕ :=
  lengthSum c.directive.serializedLength (lengthSum (some 1) c.tlvsLength)

def TlvsCheckRoom (c : FinishPduCreator) (size maxSize : ℕ) : Prop :=
  CheckAll FilestoreResponseTlv.serializedLength FilestoreResponseTlv.ChecksRoom maxSize
      c.finishInfo.fsResponses size ∧
    ∀ n ∈ lengthAll FilestoreResponseTlv.serializedLength c.finishInfo.fsResponses,
      size + n ≤ maxSize →
        CheckAll EntityIdTlv.serializedLength EntityIdTlv.ChecksRoom maxSize
          c.faultLocations (size + n)

def ContentChecksRoom (c : FinishPduCreator) (size maxSize : ℕ) : Prop :=
  size + 1 ≤ maxSize → c.TlvsCheckRoom (size + 1) maxSize

def ChecksRoom (c : FinishPduCreator) : ℕ → ℕ → Prop :=
  c.directive.ChecksRoom c.serializedLength c.ContentChecksRoom

def codeByte (c : FinishPduCreator) : UInt8 :=
  UInt8.ofNat (c.finishInfo.conditionCode.code <<< 4 |||
    c.finishInfo.deliveryCode.code <<< 2 ||| c.finishInfo.fileStatus.code)

def serializeTlvs (c : FinishPduCreator) : Serializer :=
  seq (all FilestoreResponseTlv.serialize c.finishInfo.fsResponses)
    (all EntityIdTlv.serialize c.faultLocations)

theorem serialize_eq_seq (c : FinishPduCreator) :
  c.serialize = seq c.directive.serialize (seq (guarded 1 [c.codeByte]) c.serializeTlvs)
  := by
  have hfault : ∀ maxSize e b, all EntityIdTlv.serialize c.faultLocations maxSize e b
      = match c.finishInfo.faultLocation with
        | some entityId => entityId.serialize maxSize e b
        | none => (.ok, b) := by
    intro maxSize e b
    rw [faultLocations]
    cases c.finishInfo.faultLocation with
    | none => rfl
    | some entityId => rw [Option.toList_some, all_singleton]
  funext maxSize e b
  rw [serialize, seq]
  congr 1
  funext b₁
  rw [seq, guarded]
  split
  · rfl
  · rw [andThen_ok, serializeTlvs, seq]
    simp only [hfault]
    rfl

theorem sized_serializeTlvs (c : FinishPduCreator) :
  Sized c.serializeTlvs c.tlvsLength
  := by
  apply Sized.andThen
  · exact sized_all (fun tlv => tlv.checked.toSized) _
  · exact sized_all (fun tlv => tlv.checked.toSized) _

theorem respects_serializeTlvs_iff (c : FinishPduCreator) {maxSize : ℕ} (e : Endianness)
    {b : SerialBuffer} (hroom : b.size ≤ maxSize) :
  Respects c.serializeTlvs c.tlvsLength maxSize e b ↔ c.TlvsCheckRoom b.size maxSize
  := by
  have hresponses := limited_all FilestoreResponseTlv.checked (e := e)
    c.finishInfo.fsResponses hroom
  apply Serializer.respects_seq_iff hresponses
    (sized_all (fun tlv => tlv.checked.toSized) _)
  · intro b₁ hb₁
    exact (limited_all EntityIdTlv.checked c.faultLocations hb₁).respects_iff
  · exact (sized_all (fun tlv => (EntityIdTlv.checked tlv).toSized) _).grows

theorem respects_iff (c : FinishPduCreator) (maxSize : ℕ) (e : Endianness)
    (b : SerialBuffer) :
  Respects c.serialize c.serializedLength maxSize e b ↔ c.ChecksRoom b.size maxSize
  := by
  have hcode := checked_guarded (show [c.codeByte].length = 1 from rfl)
  rw [serialize_eq_seq]
  apply c.directive.respects_seq_iff
  · intro b₁ _
    apply hcode.respects_behind_iff (d := c.TlvsCheckRoom)
    · intro b₂ hb₂
      exact c.respects_serializeTlvs_iff e hb₂
    · exact c.sized_serializeTlvs.grows
  · exact (hcode.toSized.andThen c.sized_serializeTlvs).grows

end FinishPduCreator

namespace AckPduCreator

-- Acknowledgements of other directives cannot be serialized.
def contentLength (c : AckPduCreator) : Option ℕ :=
  if c.ackInfo.ackedDirective ≠ .finish ∧ c.ackInfo.ackedDirective ≠ .eofDirective then none
  else some 2

def serializedLength (c : AckPduCreator) : Option ℕ :=
  lengthSum c.directive.serializedLength c.contentLength

def ChecksRoom (c : AckPduCreator) : ℕ → ℕ → Prop :=
  c.directive.ChecksRoom c.serializedLength always

/-- What is written behind the directive code. -/
def serializeContents (c : AckPduCreator) : Serializer :=
  if c.ackInfo.ackedDirective ≠ .finish ∧ c.ackInfo.ackedDirective ≠ .eofDirective then
    fun _ _ b => (.failed, b)
  else
    guarded 2
      [UInt8.ofNat (c.ackInfo.ackedDirective.code <<< 4 |||
          c.ackInfo.directiveSubtypeCode.toNat),
        UInt8.ofNat (c.ackInfo.ackedConditionCode.code <<< 4 |||
          c.ackInfo.transactionStatus.code)]

theorem checked_serializeContents (c : AckPduCreator) :
  Checked c.serializeContents c.contentLength always
  := by
  rw [serializeContents, contentLength]
  split
  · apply checked_of_fails
    intro maxSize e b
    apply fails_of_refused (by decide)
  · exact checked_guarded rfl

theorem respects_iff (c : AckPduCreator) (maxSize : ℕ) (e : Endianness) (b : SerialBuffer) :
  Respects c.serialize c.serializedLength maxSize e b ↔ c.ChecksRoom b.size maxSize
  := by
  have hseq : c.serialize = seq c.directive.serialize c.serializeContents := by
    funext maxSize e b
    rw [serialize, seq]
    congr 1
    funext b₁
    rw [serializeContents]
    split
    · rfl
    · rfl
  rw [hseq]
  exact c.directive.respects_behind_iff c.checked_serializeContents b

end AckPduCreator

namespace MetadataPduCreator

def fileNamesLength (c : MetadataPduCreator) : Option ℕ :=
  lengthSum c.info.sourceFileName.serializedLength c.info.destFileName.serializedLength

def restLength (c : MetadataPduCreator) : Option ℕ :=
  lengthSum c.fileNamesLength (lengthAll Tlv.serializedLength c.info.options)

def contentLength (c : MetadataPduCreator) : Option ℕ :=
  lengthSum (some (1 + c.info.fileSize.getSerializedSize)) c.restLength

def serializedLength (c : MetadataPduCreator) : Option ℕ :=
  lengthSum c.directive.serializedLength c.contentLength

def FileNamesCheckRoom (c : MetadataPduCreator) (size maxSize : ℕ) : Prop :=
  c.info.sourceFileName.ChecksRoom size maxSize ∧
    ∀ n ∈ c.info.sourceFileName.serializedLength, size + n ≤ maxSize →
      c.info.destFileName.ChecksRoom (size + n) maxSize

def ContentChecksRoom (c : MetadataPduCreator) (size maxSize : ℕ) : Prop :=
  size + (1 + c.info.fileSize.getSerializedSize) ≤ maxSize →
    c.FileNamesCheckRoom (size + (1 + c.info.fileSize.getSerializedSize)) maxSize

def ChecksRoom (c : MetadataPduCreator) : ℕ → ℕ → Prop :=
  c.directive.ChecksRoom c.serializedLength c.ContentChecksRoom

def flagsByte (c : MetadataPduCreator) : UInt8 :=
  UInt8.ofNat (c.info.closureRequested.toNat <<< 6 ||| c.info.checksumType.code)

/-- What is written behind the file size. -/
def serializeRest (c : MetadataPduCreator) : Serializer :=
  seq (seq c.info.sourceFileName.serialize c.info.destFileName.serialize)
    (all Tlv.serialize c.info.options)

/-- What is written behind the directive code. -/
def serializeContents (c : MetadataPduCreator) : Serializer :=
  roomFor 2 (seq (seq (raw [c.flagsByte]) c.info.fileSize.serialize) c.serializeRest)

theorem serialize_eq_seq (c : MetadataPduCreator) :
  c.serialize = seq c.directive.serialize c.serializeContents
  := by
  funext maxSize e b
  rw [serialize, seq]
  congr 1
  funext b₁
  rw [serializeContents, roomFor]
  have hlimit : maxSize ≤ b₁.size + 1 ↔ maxSize < b₁.size + 2 := Nat.lt_add_one_iff.symm
  simp only [hlimit, seq_assoc, serializeRest]
  split
  · rfl
  · rfl

theorem sized_serializeRest (c : MetadataPduCreator) :
  Sized c.serializeRest c.restLength
  := by
  apply Sized.andThen
  · exact c.info.sourceFileName.checked.toSized.andThen c.info.destFileName.checked.toSized
  · exact sized_all (fun tlv => tlv.checked.toSized) _

theorem respects_serializeRest_iff (c : MetadataPduCreator) {maxSize : ℕ} (e : Endianness)
    (b : SerialBuffer) :
  Respects c.serializeRest c.restLength maxSize e b ↔ c.FileNamesCheckRoom b.size maxSize
  := by
  have hnames := c.info.sourceFileName.checked.andThen c.info.destFileName.checked
  have hrest : Respects c.serializeRest c.restLength maxSize e b
      ↔ c.FileNamesCheckRoom b.size maxSize ∧
        ∀ n ∈ c.fileNamesLength, b.size + n ≤ maxSize → always (b.size + n) maxSize := by
    apply hnames.respects_seq_iff
    · intro b₁ hb₁
      rw [(limited_all Tlv.checked c.info.options hb₁).respects_iff]
      exact iff_of_true (checkAll_always _ _ _) trivial
    · exact (sized_all (fun tlv => (Tlv.checked tlv).toSized) _).grows
  rw [hrest]
  simp [always]

theorem checked_front (c : MetadataPduCreator) :
  Checked (seq (raw [c.flagsByte]) c.info.fileSize.serialize)
    (some (1 + c.info.fileSize.getSerializedSize)) fun size maxSize => size + 1 ≤ maxSize
  := by
  have hflags : [c.flagsByte].length = 1 := rfl
  apply (c.info.fileSize.checked.behind_raw hflags (by decide)).congr
  intro size maxSize
  simp [always]

theorem respects_serializeContents_iff (c : MetadataPduCreator) {maxSize : ℕ}
    (e : Endianness) (b : SerialBuffer) :
  Respects c.serializeContents c.contentLength maxSize e b
    ↔ c.ContentChecksRoom b.size maxSize
  := by
  have hfour : 4 ≤ c.info.fileSize.getSerializedSize := by
    rw [FileSize.getSerializedSize, FileSize.width]
    split <;> omega
  have htwo : ∀ i ∈ c.contentLength, 2 ≤ i := by
    intro i hi
    obtain ⟨_, ⟨⟩, j, -, rfl⟩ := mem_lengthSum.mp hi
    omega
  rw [serializeContents, respects_roomFor_iff htwo]
  have hiff : (seq (seq (raw [c.flagsByte]) c.info.fileSize.serialize)
      c.serializeRest).Respects c.contentLength maxSize e b
      ↔ b.size + 1 ≤ maxSize ∧ c.ContentChecksRoom b.size maxSize := by
    rw [contentLength, c.checked_front.respects_seq_iff
      (fun b₁ _ => c.respects_serializeRest_iff e b₁) c.sized_serializeRest.grows]
    simp [ContentChecksRoom]
  rw [hiff]
  constructor
  · intro h hroom
    exact (h (by omega)).2 hroom
  · intro h hroom
    exact ⟨by omega, h⟩

theorem respects_iff (c : MetadataPduCreator) (maxSize : ℕ) (e : Endianness)
    (b : SerialBuffer) :
  Respects c.serialize c.serializedLength maxSize e b ↔ c.ChecksRoom b.size maxSize
  := by
  rw [serialize_eq_seq]
  apply c.directive.respects_seq_iff
  · intro b₁ _
    exact c.respects_serializeContents_iff e b₁
  · exact (sized_roomFor 2 (c.checked_front.toSized.andThen c.sized_serializeRest)).grows

end MetadataPduCreator

namespace PromptPduCreator

def serializedLength (c : PromptPduCreator) : Option ℕ :=
  lengthSum c.directive.serializedLength (some 1)

def ChecksRoom (c : PromptPduCreator) : ℕ → ℕ → Prop :=
  c.directive.ChecksRoom c.serializedLength always

theorem respects_iff (c : PromptPduCreator) (maxSize : ℕ) (e : Endianness)
    (b : SerialBuffer) :
  Respects c.serialize c.serializedLength maxSize e b ↔ c.ChecksRoom b.size maxSize
  := c.directive.respects_behind_iff
    (checked_guarded (show [UInt8.ofNat (c.responseRequired.code <<< 7)].length = 1 from rfl)) b

end PromptPduCreator

namespace NakPduCreator

def segmentSerializedLength (segment : FileSize × FileSize) : Option ℕ :=
  lengthSum (some segment.1.getSerializedSize) (some segment.2.getSerializedSize)

theorem checked_serializeSegment (segment : FileSize × FileSize) :
  Checked (serializeSegment segment) (segmentSerializedLength segment) always
  := segment.1.checked.andThen_always segment.2.checked

def contentLength (c : NakPduCreator) : Option ℕ :=
  lengthSum (segmentSerializedLength (c.nakInfo.startOfScope, c.nakInfo.endOfScope))
    (lengthAll segmentSerializedLength c.nakInfo.segmentRequests)

def serializedLength (c : NakPduCreator) : Option ℕ :=
  lengthSum c.directive.serializedLength c.contentLength

def ChecksRoom (c : NakPduCreator) : ℕ → ℕ → Prop :=
  c.directive.ChecksRoom c.serializedLength always

/-- What is written behind the directive code. -/
def serializeContents (c : NakPduCreator) : Serializer :=
  seq (serializeSegment (c.nakInfo.startOfScope, c.nakInfo.endOfScope))
    (all serializeSegment c.nakInfo.segmentRequests)

theorem serialize_eq_seq (c : NakPduCreator) :
  c.serialize = seq c.directive.serialize c.serializeContents
  := by
  have hscope : serializeSegment (c.nakInfo.startOfScope, c.nakInfo.endOfScope)
      = seq c.nakInfo.startOfScope.serialize c.nakInfo.endOfScope.serialize := rfl
  rw [serializeContents, hscope, seq_assoc]
  rfl

theorem respects_iff (c : NakPduCreator) (maxSize : ℕ) (e : Endianness) (b : SerialBuffer) :
  Respects c.serialize c.serializedLength maxSize e b ↔ c.ChecksRoom b.size maxSize
  := by
  have hscope := checked_serializeSegment (c.nakInfo.startOfScope, c.nakInfo.endOfScope)
  have hrequests := sized_all (fun segment => (checked_serializeSegment segment).toSized)
    c.nakInfo.segmentRequests
  rw [serialize_eq_seq]
  apply c.directive.respects_seq_iff
  · intro b₁ _
    have hiff : c.serializeContents.Respects c.contentLength maxSize e b₁
        ↔ always b₁.size maxSize ∧
          ∀ i ∈ segmentSerializedLength (c.nakInfo.startOfScope, c.nakInfo.endOfScope),
            b₁.size + i ≤ maxSize → always (b₁.size + i) maxSize := by
      apply hscope.respects_seq_iff
      · intro b₂ hb₂
        rw [(limited_all checked_serializeSegment _ hb₂).respects_iff]
        exact iff_of_true (checkAll_always _ _ _) trivial
      · exact hrequests.grows
    rw [hiff]
    simp [always]
  · exact (hscope.toSized.andThen hrequests).grows

end NakPduCreator

namespace KeepAlivePduCreator

def serializedLength (c : KeepAlivePduCreator) : Option ℕ :=
  lengthSum c.directive.serializedLength (some (FileSize.width c.pduConf.largeFile))

def ChecksRoom (c : KeepAlivePduCreator) : ℕ → ℕ → Prop :=
  c.directive.ChecksRoom c.serializedLength always

theorem respects_iff (c : KeepAlivePduCreator) (maxSize : ℕ) (e : Endianness)
    (b : SerialBuffer) :
  Respects c.serialize c.serializedLength maxSize e b ↔ c.ChecksRoom b.size maxSize
  := c.directive.respects_behind_iff
    (FileSize.checked { c.progress with largeFile := c.pduConf.largeFile }) b

end KeepAlivePduCreator

namespace FileDataCreator

def contentLength (c : FileDataCreator) : ℕ :=
  c.metadataBytes.length + (FileSize.width c.pduConf.largeFile + c.info.fileData.length)

def serializedLength (c : FileDataCreator) : Option ℕ :=
  lengthSum c.header.serializedLength (some c.contentLength)

-- The PDU is counted as if the destination id was as long as the source id.
def ChecksRoom (c : FileDataCreator) (size maxSize : ℕ) : Prop :=
  ∀ n ∈ c.serializedLength, size + n ≤ maxSize → size + c.getSerializedSize ≤ maxSize

/-- What is written behind the header. -/
def serializeContents (c : FileDataCreator) : Serializer :=
  seq (raw c.metadataBytes)
    (seq (c.info.offset.serializeAs c.pduConf.largeFile)
      (guarded c.info.fileData.length c.info.fileData))

theorem serialize_eq_atLeast (c : FileDataCreator) (maxSize : ℕ) (e : Endianness)
    (b : SerialBuffer) :
  c.serialize maxSize e b
    = atLeast (b.size + c.getSerializedSize) (seq c.header.serializeParts c.serializeContents)
      maxSize e b
  := by
  rw [serialize, atLeast]
  split
  · rfl
  · rename_i hwhole
    have hheader : c.header.getSerializedSize ≤ maxSize := by
      rw [getSerializedSize] at hwhole
      omega
    rw [HeaderCreator.serialize_eq_atLeast, atLeast_of_le hheader]
    rfl

theorem checked_serializeContents (c : FileDataCreator) :
  Checked c.serializeContents (some c.contentLength) fun size maxSize =>
    0 < c.metadataBytes.length → size + c.metadataBytes.length ≤ maxSize
  := by
  have hoffset := (FileSize.checked
    { c.info.offset with largeFile := c.pduConf.largeFile }).andThen_always
      (checked_guarded (rfl : c.info.fileData.length = _))
  by_cases hpos : 0 < c.metadataBytes.length
  · apply (hoffset.behind_raw rfl hpos).congr
    intro size maxSize
    simp [always, hpos]
  · have hnil : c.metadataBytes = [] := List.eq_nil_of_length_eq_zero (by omega)
    have hraw : c.serializeContents = seq (c.info.offset.serializeAs c.pduConf.largeFile)
        (guarded c.info.fileData.length c.info.fileData) := by
      funext maxSize e b
      rw [serializeContents, hnil, seq, raw, andThen_ok, SerialBuffer.put_nil]
    have hlength : some c.contentLength = lengthSum (some (FileSize.width c.pduConf.largeFile))
        (some c.info.fileData.length) := by
      rw [contentLength, hnil, List.length_nil, Nat.zero_add]
      rfl
    rw [hraw, hlength]
    apply hoffset.congr
    intro size maxSize
    simp [always, hpos]

/-- The announced size leaves room for the metadata, however long the destination id is. -/
theorem header_add_metadata_le (c : FileDataCreator) {n : ℕ}
    (hn : n ∈ c.header.serializedLength) :
  n + c.metadataBytes.length ≤ c.getSerializedSize
  := by
  have hfield : ∀ {field : VarLenField} {i : ℕ}, i ∈ field.serializedLength →
      i = field.width.toNat ∧ i ≤ 4 := by
    intro field i hi
    rw [VarLenField.serializedLength] at hi
    split at hi
    · rename_i hwidth
      cases hi
      refine ⟨rfl, ?_⟩
      rcases hwidth with hw | hw | hw <;> rw [hw] <;> decide
    · cases hi
  have hoffset : 4 ≤ if c.pduConf.largeFile then 8 else 4 := by
    split <;> omega
  obtain ⟨_, ⟨⟩, j, hj, rfl⟩ := mem_lengthSum.mp hn
  obtain ⟨source, hsource, k, hk, rfl⟩ := mem_lengthSum.mp hj
  obtain ⟨seqNum, hseqNum, dest, hdest, rfl⟩ := mem_lengthSum.mp hk
  obtain ⟨hsource', -⟩ := hfield hsource
  obtain ⟨hseqNum', -⟩ := hfield hseqNum
  obtain ⟨-, hdest'⟩ := hfield hdest
  rw [getSerializedSize, HeaderCreator.getSerializedSize, FileDataInfo.getSerializedSize,
    ← c.length_metadataBytes, ← hsource', ← hseqNum']
  omega

theorem respects_iff (c : FileDataCreator) (maxSize : ℕ) (e : Endianness) (b : SerialBuffer) :
  Respects c.serialize c.serializedLength maxSize e b ↔ c.ChecksRoom b.size maxSize
  := by
  rw [respects_congr (c.serialize_eq_atLeast maxSize e b), respects_atLeast_iff]
  apply and_iff_left
  intro hwhole
  rw [serializedLength, (c.header.checked_serializeParts.andThen
    c.checked_serializeContents).respects_iff]
  have hfour : 4 ≤ c.getSerializedSize := by
    rw [getSerializedSize, HeaderCreator.getSerializedSize]
    omega
  refine ⟨by omega, ?_⟩
  intro n hn _ _
  have hle := c.header_add_metadata_le hn
  omega

end FileDataCreator

/-! ### All objects -/

/-- The objects that can be serialized. -/
inductive Serializable where
  | varLenField (field : VarLenField)
  | fileSize (size : FileSize)
  | lv (lv : Lv)
  | tlv (tlv : Tlv)
  | entityIdTlv (tlv : EntityIdTlv)
  | filestoreRequestTlv (tlv : FilestoreRequestTlv)
  | filestoreResponseTlv (tlv : FilestoreResponseTlv)
  | faultHandlerOverrideTlv (tlv : FaultHandlerOverrideTlv)
  | header (h : HeaderCreator)
  | fileDirective (c : FileDirectiveCreator)
  | eof (c : EofPduCreator)
  | finished (c : FinishPduCreator)
  | ack (c : AckPduCreator)
  | metadata (c : MetadataPduCreator)
  | prompt (c : PromptPduCreator)
  | nak (c : NakPduCreator)
  | keepAlive (c : KeepAlivePduCreator)
  | fileData (c : FileDataCreator)

namespace Serializable

def serialize : Serializable → Serializer
  | varLenField field => field.serialize
  | fileSize size => size.serialize
  | lv field => field.serialize
  | tlv field => field.serialize
  | entityIdTlv field => field.serialize
  | filestoreRequestTlv field => field.serialize
  | filestoreResponseTlv field => field.serialize
  | faultHandlerOverrideTlv field => field.serialize
  | header h => h.serialize
  | fileDirective c => c.serialize
  | eof c => c.serialize
  | finished c => c.serialize
  | ack c => c.serialize
  | metadata c => c.serialize
  | prompt c => c.serialize
  | nak c => c.serialize
  | keepAlive c => c.serialize
  | fileData c => c.serialize

/-- The length of the serialized form, which is missing for an object without one. -/
def serializedLength : Serializable → Option ℕ
  | varLenField field => field.serializedLength
  | fileSize size => some size.getSerializedSize
  | lv field => field.serializedLength
  | tlv field => field.serializedLength
  | entityIdTlv field => field.serializedLength
  | filestoreRequestTlv field => field.serializedLength
  | filestoreResponseTlv field => field.serializedLength
  | faultHandlerOverrideTlv _ => some 3
  | header h => h.serializedLength
  | fileDirective c => c.serializedLength
  | eof c => c.serializedLength
  | finished c => c.serializedLength
  | ack c => c.serializedLength
  | metadata c => c.serializedLength
  | prompt c => c.serializedLength
  | nak c => c.serializedLength
  | keepAlive c => c.serializedLength
  | fileData c => c.serializedLength

/-- No check of the limit lets through what does not fit or refuses what does. -/
def ChecksRoom : Serializable → ℕ → ℕ → Prop
  | varLenField _ | fileSize _ | tlv _ | faultHandlerOverrideTlv _ => always
  | lv field => field.ChecksRoom
  | entityIdTlv field => field.ChecksRoom
  | filestoreRequestTlv field => field.ChecksRoom
  | filestoreResponseTlv field => field.ChecksRoom
  | header h => h.ChecksRoom
  | fileDirective c => c.ChecksRoom c.serializedLength always
  | eof c => c.ChecksRoom
  | finished c => c.ChecksRoom
  | ack c => c.ChecksRoom
  | metadata c => c.ChecksRoom
  | prompt c => c.ChecksRoom
  | nak c => c.ChecksRoom
  | keepAlive c => c.ChecksRoom
  | fileData c => c.ChecksRoom

/-- The limit of the buffer is respected exactly when the checks are good enough. -/
theorem respectsLimit_iff (x : Serializable) (maxSize : ℕ) (e : Endianness)
    (b : SerialBuffer) :
  Respects x.serialize x.serializedLength maxSize e b ↔ x.ChecksRoom b.size maxSize
  := by
  cases x with
  | varLenField field => exact field.checked.respects_iff
  | fileSize size => exact size.checked.respects_iff
  | lv field => exact field.checked.respects_iff
  | tlv field => exact field.checked.respects_iff
  | entityIdTlv field => exact field.checked.respects_iff
  | filestoreRequestTlv field => exact field.respects_iff maxSize e b
  | filestoreResponseTlv field => exact field.checked.respects_iff
  | faultHandlerOverrideTlv field => exact field.checked.respects_iff
  | header h => exact h.respects_iff maxSize e b
  | fileDirective c => exact c.respects_iff maxSize e b
  | eof c => exact c.respects_iff maxSize e b
  | finished c => exact c.respects_iff maxSize e b
  | ack c => exact c.respects_iff maxSize e b
  | metadata c => exact c.respects_iff maxSize e b
  | prompt c => exact c.respects_iff maxSize e b
  | nak c => exact c.respects_iff maxSize e b
  | keepAlive c => exact c.respects_iff maxSize e b
  | fileData c => exact c.respects_iff maxSize e b

/-- A request to rename the file `a` to `b`. -/
def renameRequest : FilestoreRequestTlv where
  actionCode := .renameFile
  firstFileName := .new [0x61]
  secondFileName := some (.new [0x62])

/-- A buffer of five bytes has no room for the second file name, and nobody notices. -/
theorem not_respectsLimit_renameRequest :
  ¬ ∀ (x : Serializable) (maxSize : ℕ) (e : Endianness) (b : SerialBuffer),
    Respects x.serialize x.serializedLength maxSize e b
  := by
  intro hall
  obtain ⟨hok, -⟩ := hall (filestoreRequestTlv renameRequest) 5 .big ⟨[], 0⟩
  obtain ⟨n, hn, hroom⟩ := hok.mp (by decide +kernel)
  have hseven : (filestoreRequestTlv renameRequest).serializedLength = some 7 := by
    decide +kernel
  rw [hseven] at hn
  cases hn
  omega

end Serializable

end Cfdp
