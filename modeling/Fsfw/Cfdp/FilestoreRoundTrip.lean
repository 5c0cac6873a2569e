import Fsfw.Cfdp.ReadBuffer
import Fsfw.Library.BitField

/-!
# Round trips of filestore requests and responses

A filestore request or response with at most 255 value bytes is to be written in as many bytes
as it announces, behind a length byte that counts the value bytes, and to be read back from
any buffer that begins with these bytes.  One with more value bytes is to be refused
(`RoundTrips`).

Neither of the two is refused for its length.  A response does not write a second file name,
and its status code is written over the action code when it has more than four bits.  Shorter
ones are read back, except that an object keeps what it held when an empty block is read into it
(`filestoreTlvs_roundTrip_iff`).
-/

namespace Cfdp

open ReadBuffer

namespace FilestoreTlvBase

/-- The second file name of a TLV for an action that requires one. -/
def secondFileName (actionCode : FilestoreActionCode) (second : List UInt8) : Option Lv :=
  if requiresSecondFileName actionCode.code then some (.new second) else none

/-- The length of the second file name, if one is required. -/
def secondLength (actionCode : FilestoreActionCode) (second : List UInt8) : ℕ :=
  if requiresSecondFileName actionCode.code then 1 + second.length else 0

/-- The bytes of the second file name, if one is required. -/
def secondBytes (actionCode : FilestoreActionCode) (second : List UInt8) : List UInt8 :=
  if requiresSecondFileName actionCode.code then (Lv.new second).bytes else []

/-- The objects for the second file name, into which one has been read if it is required. -/
def receiveSecond (actionCode : FilestoreActionCode) (second : List UInt8) (lv : Option Lv) :
    Option Lv :=
  if requiresSecondFileName actionCode.code then lv.map fun lv => lv.receive second else lv

theorem length_secondBytes {actionCode : FilestoreActionCode} {second : List UInt8}
    (h : secondLength actionCode second ≤ 255) :
  (secondBytes actionCode second).length = secondLength actionCode second
  := by
  rw [secondLength] at h
  rw [secondBytes, secondLength]
  split_ifs at h ⊢
  · rw [Lv.bytes_new (by omega), List.length_cons, Nat.add_comm]
  · rfl

theorem getSerializedSize_secondFileName {actionCode : FilestoreActionCode}
    {second : List UInt8} (h : secondLength actionCode second ≤ 255) :
  ((secondFileName actionCode second).map Lv.getSerializedSize).getD 0
    = secondLength actionCode second
  := by
  rw [secondLength] at h ⊢
  rw [secondFileName]
  split_ifs at h ⊢
  · apply Lv.getSerializedSize_new
    omega
  · rfl

/-- Without a second file name there is nothing to count. -/
theorem if_secondLength (actionCode : FilestoreActionCode) (second : List UInt8) :
  (if requiresSecondFileName actionCode.code then secondLength actionCode second else 0)
    = secondLength actionCode second
  := by
  rw [secondLength]
  split_ifs <;> rfl

/-- A second file name is read when there is an object for it. -/
theorem reads_second (missing : ReturnValue) {actionCode : FilestoreActionCode}
    {second : List UInt8} (h : secondLength actionCode second ≤ 255) {lv : Option Lv}
    (hlv : requiresSecondFileName actionCode.code → lv.isSome) :
  Reads (deSerializeSecondFileName missing actionCode.code lv) (secondBytes actionCode second)
    (receiveSecond actionCode second lv)
  := by
  intro rest k
  rw [secondLength] at h
  simp only [deSerializeSecondFileName, secondBytes, receiveSecond]
  split_ifs at h ⊢ with hrequires
  · obtain ⟨lv, rfl⟩ := Option.isSome_iff_exists.mp (hlv hrequires)
    apply (lv.reads (by omega)).andThen
  · simp

/-- Without an object for it, a second file name that is required is not read. -/
theorem deSerializeSecondFileName_none (missing : ReturnValue) {actionCode : ℕ}
    (h : requiresSecondFileName actionCode) (b : ReadBuffer) :
  deSerializeSecondFileName missing actionCode none b = some (missing, none, b)
  := if_pos h

theorem deSerializeSecondFileName_of_not (missing : ReturnValue) {actionCode : ℕ}
    (h : ¬ requiresSecondFileName actionCode) (lv : Option Lv) (b : ReadBuffer) :
  deSerializeSecondFileName missing actionCode lv b = some (.ok, lv, b)
  := if_neg h

theorem commonDeserialize_cons (type : TlvType) (htype : type ≠ .invalidTlv) {length : UInt8}
    (hlength : length ≠ 0) (memory : List UInt8) {size : ℕ} (hsize : 0 < size) :
  commonDeserialize type ⟨UInt8.ofNat type.code :: length :: memory, size + 2⟩
    = some (.ok, (), ⟨memory, size⟩)
  := by
  obtain ⟨-, hcode⟩ := Tlv.checkType_code htype
  rw [commonDeserialize, if_neg (by simp only; omega)]
  simp [hcode, hlength, advance]

/-- The action code is read back from the upper half of its byte. -/
theorem code_highNibble (actionCode : FilestoreActionCode) {low : UInt8} (hlow : low.toNat < 16) :
  (((UInt8.ofNat (actionCode.code <<< 4) ||| low) >>> 4) &&& 0x0f).toNat = actionCode.code
  := by
  have hhigh := UInt8.highNibble (UInt8.ofNat actionCode.code) hlow
  cases actionCode <;> exact congrArg UInt8.toNat hhigh

/-- The status code is read back from the lower half of its byte when it fits there. -/
theorem code_lowNibble (actionCode : FilestoreActionCode) {low : UInt8} (hlow : low.toNat < 16) :
  (UInt8.ofNat (actionCode.code <<< 4) ||| low) &&& 0x0f = low
  := by
  have hnibble := UInt8.lowNibble (UInt8.ofNat actionCode.code) hlow
  cases actionCode <;> exact hnibble

end FilestoreTlvBase

open FilestoreTlvBase

/-- A TLV with a number of value bytes is written in as many bytes as it announces and read back
from them, or refused when the number does not fit into a byte. -/
def RoundTrips {α : Type} (serialize : Serializer) (announced valueLength : ℕ)
    (read : ReadBuffer → Option (ReadResult α)) (Holds : α → Prop) (maxSize : ℕ) (e : Endianness)
    (b : SerialBuffer) (trailing : List UInt8) : Prop :=
  if valueLength ≤ 255 then
    ∃ bytes object, serialize maxSize e b = (.ok, b.put bytes) ∧
      bytes.length = announced ∧ bytes.length = 2 + ((bytes[1]?).getD 0).toNat ∧
      read ⟨bytes ++ trailing, bytes.length + trailing.length⟩
        = some (.ok, object, ⟨trailing, trailing.length⟩) ∧
      Holds object
  else
    (serialize maxSize e b).1 ≠ .ok

/-- Of a TLV that is written, it depends on the bytes. -/
theorem roundTrips_iff_of_written {α : Type} {serialize : Serializer} {announced valueLength : ℕ}
    {read : ReadBuffer → Option (ReadResult α)} {Holds : α → Prop} {maxSize : ℕ} {e : Endianness}
    {b : SerialBuffer} {trailing bytes : List UInt8}
    (h : serialize maxSize e b = (.ok, b.put bytes)) :
  RoundTrips serialize announced valueLength read Holds maxSize e b trailing ↔
    valueLength ≤ 255 ∧ bytes.length = announced ∧
      bytes.length = 2 + ((bytes[1]?).getD 0).toNat ∧
      ∃ object, read ⟨bytes ++ trailing, bytes.length + trailing.length⟩
        = some (.ok, object, ⟨trailing, trailing.length⟩) ∧ Holds object
  := by
  rw [RoundTrips, h]
  split_ifs with hlength
  · constructor
    · rintro ⟨bytes', object, hput, hannounced, hbyte, hread, hholds⟩
      obtain rfl := SerialBuffer.put_injective (Prod.ext_iff.mp hput).2
      exact ⟨hlength, hannounced, hbyte, object, hread, hholds⟩
    · rintro ⟨-, hannounced, hbyte, object, hread, hholds⟩
      exact ⟨bytes, object, rfl, hannounced, hbyte, hread, hholds⟩
  · simp [hlength]

/-! ### Requests -/

namespace FilestoreRequestTlv

/-- The request with given names. -/
def named (actionCode : FilestoreActionCode) (first second : List UInt8) :
    FilestoreRequestTlv where
  actionCode := actionCode
  firstFileName := .new first
  secondFileName := FilestoreTlvBase.secondFileName actionCode second

/-- The number of value bytes. -/
def contentLength (actionCode : FilestoreActionCode) (first second : List UInt8) : ℕ :=
  1 + (1 + first.length) + secondLength actionCode second

/-- The bytes that are written. -/
def bytes (actionCode : FilestoreActionCode) (first second : List UInt8) : List UInt8 :=
  (named actionCode first second).commonBytes ++
    ((Lv.new first).bytes ++ secondBytes actionCode second)

section

variable {actionCode : FilestoreActionCode} {first second : List UInt8}

theorem requiresSecondFileName_named :
  (named actionCode first second).requiresSecondFileName
    = FilestoreTlvBase.requiresSecondFileName actionCode.code
  := by
  cases actionCode <;> rfl

theorem serialize_named {maxSize : ℕ} (e : Endianness) {b : SerialBuffer}
    (hroom : b.size + 2 + contentLength actionCode first second ≤ maxSize) :
  (named actionCode first second).serialize maxSize e b
    = (.ok, b.put (bytes actionCode first second))
  := by
  have hcommon : (named actionCode first second).commonBytes.length = 3 := rfl
  have hlength := Lv.length_bytes_new_le first
  rw [contentLength] at hroom
  rw [serialize, commonSerialize, if_neg (by omega), Serializer.andThen_ok, bytes]
  generalize (named actionCode first second).commonBytes = common at hcommon ⊢
  rw [show (named actionCode first second).firstFileName = .new first from rfl,
    Lv.serialize_new first e (by rw [SerialBuffer.size_put, hcommon]; omega),
    Serializer.andThen_ok, serializeSecondFileName, requiresSecondFileName_named]
  rw [secondLength] at hroom
  simp only [named, FilestoreTlvBase.secondFileName, secondBytes]
  split_ifs at hroom ⊢
  · simp only [SerialBuffer.put_put]
    rw [Lv.serialize_new second e, SerialBuffer.put_put, List.append_assoc]
    simp only [SerialBuffer.size_put, List.length_append]
    omega
  · simp

theorem getLengthField_named (h : contentLength actionCode first second ≤ 255) :
  (named actionCode first second).getLengthField.toNat = contentLength actionCode first second
  := by
  rw [contentLength] at h ⊢
  have hsecond := getSerializedSize_secondFileName (show secondLength actionCode second ≤ 255 by
    omega)
  rw [getLengthField, requiresSecondFileName_named, UInt8.toNat_ofNat']
  simp only [named, Lv.getSerializedSize_new (show first.length ≤ 255 by omega), hsecond]
  rw [if_secondLength, Nat.mod_eq_of_lt (by omega)]

theorem length_bytes (h : contentLength actionCode first second ≤ 255) :
  (bytes actionCode first second).length = 2 + contentLength actionCode first second
  := by
  rw [contentLength] at h ⊢
  have hcommon : (named actionCode first second).commonBytes.length = 3 := rfl
  rw [bytes, List.length_append, List.length_append, hcommon, Lv.bytes_new (by omega),
    length_secondBytes (by omega), List.length_cons]
  omega

end

namespace Received

/-- The object that a request was read into. -/
def receive (object : Received) (actionCode : FilestoreActionCode) (first second : List UInt8) :
    Received where
  actionCode := actionCode.code
  firstFileName := object.firstFileName.receive first
  secondFileName := receiveSecond actionCode second object.secondFileName

/-- The object holds the request. -/
structure Holds (object : Received) (actionCode : FilestoreActionCode)
    (first second : List UInt8) : Prop where
  actionCode_eq : object.actionCode = actionCode.code
  first_eq : object.firstFileName.getValue = first
  second_eq : FilestoreTlvBase.requiresSecondFileName actionCode.code →
    object.secondFileName.map Lv.getValue = some second

/-- There is an object for a second file name that is required, and empty names go into objects
that were empty. -/
structure Accepts (object : Received) (actionCode : FilestoreActionCode)
    (first second : List UInt8) : Prop where
  first_accepts : object.firstFileName.Accepts first
  second_accepts : FilestoreTlvBase.requiresSecondFileName actionCode.code →
    ∃ lv, object.secondFileName = some lv ∧ lv.Accepts second

variable {actionCode : FilestoreActionCode} {first second : List UInt8}

/-- In front of the second file name, a request is read from its bytes. -/
theorem deSerialize_bytes (object : Received) (h : contentLength actionCode first second ≤ 255)
    (rest : List UInt8) (k : ℕ) :
  object.deSerialize ⟨bytes actionCode first second ++ rest,
      (bytes actionCode first second).length + k⟩
    = andThen (deSerializeSecondFileName .failed actionCode.code object.secondFileName
          ⟨secondBytes actionCode second ++ rest, (secondBytes actionCode second).length + k⟩)
        (fun lv => ⟨actionCode.code, object.firstFileName.receive first, lv⟩)
        fun tlv b => some (.ok, tlv, b)
  := by
  have hlength := getLengthField_named h
  have hbytes : bytes actionCode first second
      = UInt8.ofNat TlvType.filestoreRequest.code :: (named actionCode first second).getLengthField
        :: UInt8.ofNat (actionCode.code <<< 4)
        :: ((Lv.new first).bytes ++ secondBytes actionCode second) := rfl
  rw [contentLength] at h hlength
  have hzero : (named actionCode first second).getLengthField ≠ 0 := by
    intro hzero
    rw [hzero, UInt8.toNat_zero] at hlength
    omega
  have hfirst := object.firstFileName.reads (show first.length ≤ 255 by omega)
  have hcode := code_highNibble actionCode (show (0 : UInt8).toNat < 16 by decide)
  rw [UInt8.or_zero] at hcode
  rw [hbytes, deSerialize]
  simp only [List.cons_append, List.append_assoc, List.length_cons, List.length_append]
  rw [show (Lv.new first).bytes.length + (secondBytes actionCode second).length + 1 + 1 + 1 + k
      = (Lv.new first).bytes.length + ((secondBytes actionCode second).length + k) + 1 + 2
    by omega, commonDeserialize_cons _ (by decide) hzero _ (Nat.succ_pos _)]
  rw [andThen_ok, deSerializeFromValue]
  simp only [byte_cons, Option.bind_eq_bind, Option.bind_some, advance_cons, hcode]
  rw [hfirst.andThen]
  rfl

/-- A request is read from its bytes when there is an object for a second file name. -/
theorem reads (object : Received) (h : contentLength actionCode first second ≤ 255)
    (hsecond : FilestoreTlvBase.requiresSecondFileName actionCode.code →
      object.secondFileName.isSome) :
  Reads object.deSerialize (bytes actionCode first second)
    (object.receive actionCode first second)
  := by
  intro rest k
  have hlength : secondLength actionCode second ≤ 255 := by
    rw [contentLength] at h
    omega
  rw [deSerialize_bytes object h, (reads_second .failed hlength hsecond).andThen]
  rfl

/-- A second file name is not read without an object for it. -/
theorem deSerialize_missing {object : Received} (h : contentLength actionCode first second ≤ 255)
    (hrequires : FilestoreTlvBase.requiresSecondFileName actionCode.code)
    (hsecond : object.secondFileName = none) (rest : List UInt8) (k : ℕ) :
  ∃ object' b', object.deSerialize ⟨bytes actionCode first second ++ rest,
      (bytes actionCode first second).length + k⟩ = some (.failed, object', b')
  := by
  rw [deSerialize_bytes object h, hsecond, deSerializeSecondFileName_none .failed hrequires]
  exact ⟨_, _, rfl⟩

theorem holds_receive_iff {object : Received} (h : contentLength actionCode first second ≤ 255)
    (hsecond : FilestoreTlvBase.requiresSecondFileName actionCode.code →
      object.secondFileName.isSome) :
  (object.receive actionCode first second).Holds actionCode first second ↔
    object.Accepts actionCode first second
  := by
  rw [contentLength, secondLength] at h
  constructor
  · rintro ⟨-, hfirst, hholds⟩
    constructor
    · exact (Lv.getValue_receive_iff (by omega)).mp hfirst
    · intro hrequires
      obtain ⟨lv, hlv⟩ := Option.isSome_iff_exists.mp (hsecond hrequires)
      rw [if_pos hrequires] at h
      have hvalue := hholds hrequires
      simp only [receive, receiveSecond, if_pos hrequires, hlv, Option.map_some,
        Option.some_inj] at hvalue
      exact ⟨lv, hlv, (Lv.getValue_receive_iff (by omega)).mp hvalue⟩
  · rintro ⟨hfirst, haccepts⟩
    constructor
    · rfl
    · exact (Lv.getValue_receive_iff (by omega)).mpr hfirst
    · intro hrequires
      obtain ⟨lv, hlv, hlvAccepts⟩ := haccepts hrequires
      rw [if_pos hrequires] at h
      simp only [receive, receiveSecond, if_pos hrequires, hlv, Option.map_some]
      rw [(Lv.getValue_receive_iff (by omega)).mpr hlvAccepts]

end Received

/-- A request round trips exactly when its value fits into the length byte and the object accepts
its names. -/
theorem requestRoundTrips_iff {actionCode : FilestoreActionCode} {first second : List UInt8}
    (object : Received) {maxSize : ℕ} (e : Endianness) {b : SerialBuffer}
    (hroom : b.size + 2 + contentLength actionCode first second ≤ maxSize)
    (trailing : List UInt8) :
  RoundTrips (named actionCode first second).serialize
      (named actionCode first second).getSerializedSize (contentLength actionCode first second)
      object.deSerialize (fun object => object.Holds actionCode first second) maxSize e b trailing
    ↔ contentLength actionCode first second ≤ 255 ∧ object.Accepts actionCode first second
  := by
  rw [roundTrips_iff_of_written (serialize_named e hroom)]
  constructor
  · rintro ⟨h, -, -, object', hread, hholds⟩
    have hsecond (hrequires : FilestoreTlvBase.requiresSecondFileName actionCode.code) :
        object.secondFileName.isSome := by
      rw [Option.isSome_iff_ne_none]
      intro hnone
      obtain ⟨_, _, hmissing⟩ :=
        Received.deSerialize_missing h hrequires hnone trailing trailing.length
      rw [hmissing] at hread
      cases hread
    rw [Received.reads object h hsecond] at hread
    cases hread
    exact ⟨h, (Received.holds_receive_iff h hsecond).mp hholds⟩
  · rintro ⟨h, haccepts⟩
    have hsecond (hrequires : FilestoreTlvBase.requiresSecondFileName actionCode.code) :
        object.secondFileName.isSome := by
      obtain ⟨lv, hlv, -⟩ := haccepts.second_accepts hrequires
      rw [hlv]
      rfl
    have hlength := length_bytes h
    have hfield := getLengthField_named h
    refine ⟨h, ?_, ?_, _, Received.reads object h hsecond trailing trailing.length,
      (Received.holds_receive_iff h hsecond).mpr haccepts⟩
    · rw [hlength, getSerializedSize, hfield, Nat.add_comm]
    · rw [hlength, ← hfield]
      rfl

end FilestoreRequestTlv

/-! ### Responses -/

namespace FilestoreResponseTlv

/-- The response with given names and message. A message that is not given is written as an
empty one. -/
def named (actionCode : FilestoreActionCode) (statusCode : UInt8) (first second : List UInt8)
    (msg : Option (List UInt8)) : FilestoreResponseTlv where
  actionCode := actionCode
  statusCode := statusCode
  firstFileName := .new first
  secondFileName := FilestoreTlvBase.secondFileName actionCode second
  filestoreMsg := msg.map .new

/-- The number of value bytes. -/
def contentLength (actionCode : FilestoreActionCode) (first second : List UInt8)
    (msg : Option (List UInt8)) : ℕ :=
  1 + (1 + first.length) + secondLength actionCode second + (1 + (msg.getD []).length)

section

variable {actionCode : FilestoreActionCode} {statusCode : UInt8} {first second : List UInt8}
  {msg : Option (List UInt8)}

theorem bytes_named :
  (named actionCode statusCode first second msg).bytes
    = (named actionCode statusCode first second msg).commonBytes ++
      ((Lv.new first).bytes ++ (Lv.new (msg.getD [])).bytes)
  := by
  rw [bytes, List.append_assoc]
  cases msg <;> rfl

theorem requiresSecondFileName_named :
  (named actionCode statusCode first second msg).requiresSecondFileName
    = FilestoreTlvBase.requiresSecondFileName actionCode.code
  := by
  cases actionCode <;> rfl

/-- A response of any length is written when there is room for it. -/
theorem serialize_named {maxSize : ℕ} (e : Endianness) {b : SerialBuffer}
    (hroom : b.size + 2 + contentLength actionCode first second msg ≤ maxSize) :
  (named actionCode statusCode first second msg).serialize maxSize e b
    = (.ok, b.put (named actionCode statusCode first second msg).bytes)
  := by
  have hcommon : (named actionCode statusCode first second msg).commonBytes.length = 3 := rfl
  have hlength := Lv.length_bytes_new_le first
  have hgiven : ¬ (FilestoreTlvBase.requiresSecondFileName actionCode.code ∧
      (named actionCode statusCode first second msg).secondFileName.isNone) := by
    rintro ⟨hrequires, hnone⟩
    simp [named, FilestoreTlvBase.secondFileName, hrequires] at hnone
  rw [contentLength] at hroom
  rw [serialize, commonSerialize, if_neg (by omega), Serializer.andThen_ok, bytes_named,
    requiresSecondFileName_named]
  generalize (named actionCode statusCode first second msg).commonBytes = common at hcommon ⊢
  rw [show (named actionCode statusCode first second msg).firstFileName = .new first from rfl,
    Lv.serialize_new first e (by rw [SerialBuffer.size_put, hcommon]; omega),
    Serializer.andThen_ok, if_neg hgiven]
  simp only [named]
  cases msg with
  | none =>
      simp only [Option.map_none, Option.getD_none]
      rw [if_neg (by simp only [SerialBuffer.size_put]; omega)]
      simp
      rfl
  | some msg =>
      simp only [Option.map_some, Option.getD_some, SerialBuffer.put_put] at hroom ⊢
      rw [Lv.serialize_new msg e, SerialBuffer.put_put, List.append_assoc]
      simp only [SerialBuffer.size_put, List.length_append]
      omega

theorem valueLength_named (h : contentLength actionCode first second msg ≤ 255) :
  (named actionCode statusCode first second msg).valueLength
    = contentLength actionCode first second msg
  := by
  rw [contentLength] at h ⊢
  have hsecond := getSerializedSize_secondFileName (show secondLength actionCode second ≤ 255 by
    omega)
  simp only [valueLength, named, Lv.getSerializedSize_new (show first.length ≤ 255 by omega),
    hsecond]
  cases msg with
  | none => rfl
  | some msg =>
      simp only [Option.getD_some] at h
      simp only [Option.map_some, Option.getD_some,
        Lv.getSerializedSize_new (show msg.length ≤ 255 by omega)]
      omega

theorem length_bytes (statusCode : UInt8)
    (h : contentLength actionCode first second msg ≤ 255) :
  (named actionCode statusCode first second msg).bytes.length + secondLength actionCode second
    = 2 + contentLength actionCode first second msg
  := by
  rw [contentLength] at h ⊢
  have hcommon : (named actionCode statusCode first second msg).commonBytes.length = 3 := rfl
  rw [bytes_named, List.length_append, List.length_append, hcommon, Lv.bytes_new (by omega),
    Lv.bytes_new (by omega), List.length_cons, List.length_cons]
  omega

theorem getLengthField_named (statusCode : UInt8)
    (h : contentLength actionCode first second msg ≤ 255) :
  (named actionCode statusCode first second msg).getLengthField.toNat
    = contentLength actionCode first second msg
  := by
  rw [getLengthField, UInt8.toNat_ofNat', valueLength_named h, Nat.mod_eq_of_lt (by omega)]

end

namespace Received

/-- The object holds the response. -/
structure Holds (object : Received) (actionCode : FilestoreActionCode) (statusCode : UInt8)
    (first second : List UInt8) (msg : Option (List UInt8)) : Prop where
  actionCode_eq : object.actionCode = actionCode.code
  statusCode_eq : object.statusCode = statusCode
  first_eq : object.firstFileName.getValue = first
  second_eq : FilestoreTlvBase.requiresSecondFileName actionCode.code →
    object.secondFileName.map Lv.getValue = some second
  msg_eq : (object.filestoreMsg.map Lv.getValue).getD [] = msg.getD []

/-- An object for the message takes an empty one when it was empty. Without an object, the message
has to be empty, and nothing may follow. -/
def AcceptsMessage (object : Received) (msg : Option (List UInt8)) (k : ℕ) : Prop :=
  match object.filestoreMsg with
  | some lv => lv.Accepts (msg.getD [])
  | none => msg.getD [] = [] ∧ k = 0

variable {actionCode : FilestoreActionCode} {statusCode : UInt8} {first second : List UInt8}
  {msg : Option (List UInt8)}

theorem statusCode_deSerializeMessage {object object' : Received} {b b' : ReadBuffer}
    (h : object.deSerializeMessage b = some (.ok, object', b')) :
  object'.statusCode = object.statusCode
  := by
  rw [deSerializeMessage] at h
  split at h
  · split_ifs at h
    · cases h
    · cases h
      rfl
  · split_ifs at h
    · cases h
    · obtain ⟨msg, b₁, -, hmsg⟩ := andThen_eq_ok h
      cases hmsg
      rfl

/-- Whatever is read, the status code has four bits. -/
theorem statusCode_deSerialize {object object' : Received} {b b' : ReadBuffer}
    (h : object.deSerialize b = some (.ok, object', b')) :
  object'.statusCode.toNat < 16
  := by
  obtain ⟨_, b₁, -, hvalue⟩ := andThen_eq_ok h
  rw [deSerializeFromValue] at hvalue
  obtain ⟨byte, -, hvalue⟩ := Option.bind_eq_some_iff.mp hvalue
  obtain ⟨first, b₂, -, hvalue⟩ := andThen_eq_ok hvalue
  obtain ⟨second, b₃, -, hvalue⟩ := andThen_eq_ok hvalue
  rw [statusCode_deSerializeMessage hvalue]
  exact UInt8.toNat_and_0f_lt byte

/-- In front of the message, a response without a second file name is read from its bytes. -/
theorem deSerialize_bytes (object : Received)
    (h : contentLength actionCode first second msg ≤ 255) (hstatus : statusCode.toNat < 16)
    (hrequires : ¬ FilestoreTlvBase.requiresSecondFileName actionCode.code) (rest : List UInt8)
    (k : ℕ) :
  object.deSerialize ⟨(named actionCode statusCode first second msg).bytes ++ rest,
      (named actionCode statusCode first second msg).bytes.length + k⟩
    = deSerializeMessage
        ⟨actionCode.code, statusCode, object.firstFileName.receive first, object.secondFileName,
          object.filestoreMsg⟩
        ⟨(Lv.new (msg.getD [])).bytes ++ rest, (Lv.new (msg.getD [])).bytes.length + k⟩
  := by
  have hlength := getLengthField_named statusCode h
  have hcommon : (named actionCode statusCode first second msg).commonBytes
      = [UInt8.ofNat TlvType.filestoreResponse.code,
        (named actionCode statusCode first second msg).getLengthField,
        UInt8.ofNat (actionCode.code <<< 4) ||| statusCode] := rfl
  rw [contentLength] at h hlength
  have hzero : (named actionCode statusCode first second msg).getLengthField ≠ 0 := by
    intro hzero
    rw [hzero, UInt8.toNat_zero] at hlength
    omega
  have hfirst := object.firstFileName.reads (show first.length ≤ 255 by omega)
  rw [bytes_named, hcommon, deSerialize]
  generalize (Lv.new (msg.getD [])).bytes = message
  simp only [List.cons_append, List.nil_append, List.append_assoc, List.length_cons,
    List.length_append]
  rw [show (Lv.new first).bytes.length + message.length + 1 + 1 + 1 + k
      = (Lv.new first).bytes.length + (message.length + k) + 1 + 2 by omega,
    commonDeserialize_cons _ (by decide) hzero _ (Nat.succ_pos _)]
  rw [andThen_ok, deSerializeFromValue]
  simp only [byte_cons, Option.bind_eq_bind, Option.bind_some, advance_cons,
    code_highNibble actionCode hstatus, code_lowNibble actionCode hstatus]
  rw [hfirst.andThen, deSerializeSecondFileName_of_not _ hrequires]
  rfl

/-- A response is read back exactly when there is room for what it holds. -/
theorem reads_iff (object : Received)
    (h : contentLength actionCode first second msg ≤ 255) (hstatus : statusCode.toNat < 16)
    (hrequires : ¬ FilestoreTlvBase.requiresSecondFileName actionCode.code) (rest : List UInt8)
    (k : ℕ) :
  (∃ object', object.deSerialize ⟨(named actionCode statusCode first second msg).bytes ++ rest,
      (named actionCode statusCode first second msg).bytes.length + k⟩
      = some (.ok, object', ⟨rest, k⟩) ∧
    object'.Holds actionCode statusCode first second msg)
    ↔ object.firstFileName.Accepts first ∧ object.AcceptsMessage msg k
  := by
  rw [deSerialize_bytes object h hstatus hrequires]
  rw [contentLength] at h
  have hmessage : (msg.getD []).length ≤ 255 := by omega
  have hlength : (Lv.new (msg.getD [])).bytes.length = (msg.getD []).length + 1 := by
    rw [Lv.bytes_new hmessage, List.length_cons]
  rw [← Lv.getValue_receive_iff (show first.length ≤ 255 by omega), deSerializeMessage,
    AcceptsMessage]
  cases hlv : object.filestoreMsg with
  | none =>
      simp only
      rw [hlength, ← List.length_eq_zero_iff]
      split_ifs with hsize
      · -- the message is not empty, or something follows
        constructor
        · rintro ⟨object', hread, -⟩
          cases hread
        · rintro ⟨-, hmsg, hk⟩
          omega
      · have hempty : msg.getD [] = [] := List.length_eq_zero_iff.mp (by omega)
        have hk : k = 0 := by omega
        subst hk
        rw [hempty]
        constructor
        · rintro ⟨object', hread, hholds⟩
          cases hread
          exact ⟨hholds.first_eq, rfl, rfl⟩
        · rintro ⟨hfirst, -, -⟩
          exact ⟨_, rfl, rfl, rfl, hfirst, fun hrequired => absurd hrequired hrequires, hempty.symm⟩
  | some lv =>
      simp only
      rw [if_neg (by omega), (lv.reads hmessage).andThen, ← Lv.getValue_receive_iff hmessage]
      constructor
      · rintro ⟨object', hread, hholds⟩
        cases hread
        exact ⟨hholds.first_eq, hholds.msg_eq⟩
      · rintro ⟨hfirst, hmsg⟩
        exact ⟨_, rfl, rfl, rfl, hfirst, fun hrequired => absurd hrequired hrequires, hmsg⟩

end Received

/-- A response round trips exactly when its value fits into the length byte, its status code has
four bits, it has no second file name, and the object accepts its name and its message. -/
theorem responseRoundTrips_iff {actionCode : FilestoreActionCode} {statusCode : UInt8}
    {first second : List UInt8} {msg : Option (List UInt8)} (object : Received) {maxSize : ℕ}
    (e : Endianness) {b : SerialBuffer}
    (hroom : b.size + 2 + contentLength actionCode first second msg ≤ maxSize)
    (trailing : List UInt8) :
  RoundTrips (named actionCode statusCode first second msg).serialize
      (named actionCode statusCode first second msg).getSerializedSize
      (contentLength actionCode first second msg) object.deSerialize
      (fun object => object.Holds actionCode statusCode first second msg) maxSize e b trailing
    ↔ contentLength actionCode first second msg ≤ 255 ∧ statusCode.toNat < 16 ∧
      ¬ FilestoreTlvBase.requiresSecondFileName actionCode.code ∧
      object.firstFileName.Accepts first ∧ object.AcceptsMessage msg trailing.length
  := by
  rw [roundTrips_iff_of_written (serialize_named e hroom)]
  constructor
  · rintro ⟨h, hannounced, -, object', hread, hholds⟩
    have hstatus : statusCode.toNat < 16 := by
      rw [← hholds.statusCode_eq]
      exact Received.statusCode_deSerialize hread
    have hrequires : ¬ FilestoreTlvBase.requiresSecondFileName actionCode.code := by
      intro hrequires
      have hlength := length_bytes statusCode h
      rw [hannounced, getSerializedSize, getLengthField_named statusCode h, secondLength,
        if_pos hrequires] at hlength
      omega
    exact ⟨h, hstatus, hrequires,
      (Received.reads_iff object h hstatus hrequires _ _).mp ⟨object', hread, hholds⟩⟩
  · rintro ⟨h, hstatus, hrequires, haccepts⟩
    have hlength := length_bytes statusCode h
    have hfield := getLengthField_named statusCode h
    rw [secondLength, if_neg hrequires, Nat.add_zero] at hlength
    refine ⟨h, ?_, ?_, (Received.reads_iff object h hstatus hrequires _ _).mpr haccepts⟩
    · rw [hlength, getSerializedSize, hfield, Nat.add_comm]
    · rw [hlength, ← hfield]
      rfl

end FilestoreResponseTlv

/-! ### Both -/

/-- Filestore requests and responses, written with enough room, round trip exactly under these
conditions. -/
theorem filestoreTlvs_roundTrip_iff (actionCode : FilestoreActionCode) (statusCode : UInt8)
    (first second : List UInt8) (msg : Option (List UInt8))
    (request : FilestoreRequestTlv.Received) (response : FilestoreResponseTlv.Received)
    {maxSize : ℕ} (e : Endianness) {b : SerialBuffer}
    (hroom : b.size + 2 + FilestoreResponseTlv.contentLength actionCode first second msg ≤ maxSize)
    (trailing : List UInt8) :
  (RoundTrips (FilestoreRequestTlv.named actionCode first second).serialize
      (FilestoreRequestTlv.named actionCode first second).getSerializedSize
      (FilestoreRequestTlv.contentLength actionCode first second) request.deSerialize
      (fun object => object.Holds actionCode first second) maxSize e b trailing
    ↔ FilestoreRequestTlv.contentLength actionCode first second ≤ 255 ∧
      request.Accepts actionCode first second) ∧
  (RoundTrips (FilestoreResponseTlv.named actionCode statusCode first second msg).serialize
      (FilestoreResponseTlv.named actionCode statusCode first second msg).getSerializedSize
      (FilestoreResponseTlv.contentLength actionCode first second msg) response.deSerialize
      (fun object => object.Holds actionCode statusCode first second msg) maxSize e b trailing
    ↔ FilestoreResponseTlv.contentLength actionCode first second msg ≤ 255 ∧
      statusCode.toNat < 16 ∧ ¬ requiresSecondFileName actionCode.code ∧
      response.firstFileName.Accepts first ∧ response.AcceptsMessage msg trailing.length)
  := by
  constructor
  · apply FilestoreRequestTlv.requestRoundTrips_iff
    rw [FilestoreResponseTlv.contentLength] at hroom
    rw [FilestoreRequestTlv.contentLength]
    omega
  · apply FilestoreResponseTlv.responseRoundTrips_iff
    exact hroom

/-- A request and a response for the creation of a file, followed by a byte. -/
theorem filestoreTlvs_roundTrip_createFile :
  RoundTrips (FilestoreRequestTlv.named .createFile [0x61] []).serialize
      (FilestoreRequestTlv.named .createFile [0x61] []).getSerializedSize
      (FilestoreRequestTlv.contentLength .createFile [0x61] [])
      (FilestoreRequestTlv.Received.deSerialize ⟨15, .new [], none⟩)
      (fun object => object.Holds .createFile [0x61] []) 64 .big ⟨[], 0⟩ [7] ∧
    RoundTrips (FilestoreResponseTlv.named .createFile 1 [0x61] [] (some [0x62])).serialize
      (FilestoreResponseTlv.named .createFile 1 [0x61] [] (some [0x62])).getSerializedSize
      (FilestoreResponseTlv.contentLength .createFile [0x61] [] (some [0x62]))
      (FilestoreResponseTlv.Received.deSerialize ⟨15, 0, .new [], none, some (.new [])⟩)
      (fun object => object.Holds .createFile 1 [0x61] [] (some [0x62])) 64 .big ⟨[], 0⟩ [7]
  := by
  have hroom : (⟨[], 0⟩ : SerialBuffer).size + 2 +
      FilestoreResponseTlv.contentLength .createFile [0x61] [] (some [0x62]) ≤ 64 := by decide
  obtain ⟨hrequest, hresponse⟩ := filestoreTlvs_roundTrip_iff .createFile 1 [0x61] []
    (some [0x62]) ⟨15, .new [], none⟩ ⟨15, 0, .new [], none, some (.new [])⟩ .big hroom [7]
  constructor
  · exact hrequest.mpr ⟨by decide, nofun, fun hrequires => absurd hrequires (by decide)⟩
  · exact hresponse.mpr ⟨by decide, by decide, by decide, nofun, nofun⟩

/-- The response to a renaming is announced with the second file name, which is not written. -/
theorem not_roundTrips_renameFile :
  ¬ RoundTrips (FilestoreResponseTlv.named .renameFile 0 [0x61] [0x62] none).serialize
      (FilestoreResponseTlv.named .renameFile 0 [0x61] [0x62] none).getSerializedSize
      (FilestoreResponseTlv.contentLength .renameFile [0x61] [0x62] none)
      (FilestoreResponseTlv.Received.deSerialize
        ⟨15, 0, .new [], some (.new []), some (.new [])⟩)
      (fun object => object.Holds .renameFile 0 [0x61] [0x62] none) 64 .big ⟨[], 0⟩ []
  := by
  rw [FilestoreResponseTlv.responseRoundTrips_iff _ _ (by decide)]
  rintro ⟨-, -, hrequires, -⟩
  exact hrequires (by decide)

end Cfdp
