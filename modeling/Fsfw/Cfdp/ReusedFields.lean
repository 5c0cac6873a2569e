import Fsfw.Cfdp.ReadBuffer
import Fsfw.Library.Run

/-!
# Fields that are used again

Objects of a class of fields are constructed, copied and assigned to one another, and further
fields are read into them.  Beside every object we keep the value it was given last, which it
should have then: a user should be given this value, and the object should be serialized to the
bytes of this value, which are then read back.

An empty field has several representations.  An object that had a value keeps it when an empty
field is read into it; and an object of the class `Lv` that is empty is still serialized as an empty
field after another one was assigned to it.  When none of this is done, all objects keep their
values, and otherwise they do not (`keeps_along_iff`).
-/

namespace Cfdp

open ReadBuffer

/-- A class of fields, with the values that they are given. -/
structure FieldClass (Obj Val : Type) where
  /-- The object that is constructed without a value, and the value that it has. -/
  init : Obj
  initValue : Val
  new : Val → Obj
  deSerialize : Obj → ReadBuffer → Option (ReadResult Obj)
  copy : Obj → Obj
  /-- What becomes of the first object when the second one is assigned to it. -/
  assign : Obj → Obj → Obj
  /-- The bytes of a field with a value. -/
  encode : Val → List UInt8

/-- What is done to the objects. -/
inductive FieldStep (Val : Type) where
  | constructDefault
  | construct (value : Val)
  /-- Read a field into an object, from its bytes with others behind them. -/
  | decode (i : ℕ) (value : Val) (trailing : List UInt8) (k : ℕ)
  | copy (i : ℕ)
  /-- Assign the object `j` to the object `i`. -/
  | assign (i j : ℕ)

namespace FieldClass

variable {Obj Val : Type} (c : FieldClass Obj Val)

/-- A step on the objects, each beside the value that it was given last. -/
def step : Step (List (Obj × Val)) (FieldStep Val) ReturnValue
  | s, .constructDefault => some (s ++ [(c.init, c.initValue)], .ok)
  | s, .construct value => some (s ++ [(c.new value, value)], .ok)
  | s, .decode i value trailing k => do
      let (object, old) ← s[i]?
      let bytes := c.encode value
      let (result, object, _) ← c.deSerialize object ⟨bytes ++ trailing, bytes.length + k⟩
      return (s.set i (object, if result = .ok then value else old), result)
  | s, .copy i => do
      let (object, value) ← s[i]?
      return (s ++ [(c.copy object, value)], .ok)
  | s, .assign i j => do
      let (object, _) ← s[i]?
      let (other, value) ← s[j]?
      return (s.set i (c.assign object other, value), .ok)

/-- A condition on steps, given by the values that can be read into an object with another value,
and the values that can be assigned to such an object. -/
def Meets (CanDecode CanAssign : Val → Val → Prop) (s : List (Obj × Val)) : FieldStep Val → Prop
  | .decode i value _ _ => ∀ entry ∈ s[i]?, CanDecode entry.2 value
  | .assign i j => ∀ entry ∈ s[i]?, ∀ other ∈ s[j]?, CanAssign entry.2 other.2
  | _ => True

/-- Every object has the value it was given last. -/
def All (P : Obj → Val → Prop) (s : List (Obj × Val)) : Prop :=
  ∀ entry ∈ s, P entry.1 entry.2

/-- Every object has its value after the step. -/
def AfterStep (P : Obj → Val → Prop) (s : List (Obj × Val)) (i : FieldStep Val) : Prop :=
  ∀ s' o, c.step s i = some (s', o) → All P s'

/-- What a class does: the representation of a value, and the conditions under which reading and
assigning lead to it. -/
structure Laws (Represents Keeps : Obj → Val → Prop) (CanDecode CanAssign : Val → Val → Prop) :
    Prop where
  keeps : ∀ {object value}, Represents object value → Keeps object value
  init : Represents c.init c.initValue
  new : ∀ value, Represents (c.new value) value
  decode : ∀ {object old}, Represents object old → ∀ value trailing k,
    ∃ result object' b',
      c.deSerialize object ⟨c.encode value ++ trailing, (c.encode value).length + k⟩
        = some (result, object', b') ∧
      (CanDecode old value → Represents object' (if result = .ok then value else old)) ∧
        (Keeps object' (if result = .ok then value else old) → CanDecode old value)
  copy : ∀ {object value}, Represents object value → Represents (c.copy object) value
  assign : ∀ {object old other value}, Represents object old → Represents other value →
    (CanAssign old value → Represents (c.assign object other) value) ∧
      (Keeps (c.assign object other) value → CanAssign old value)

variable {c} {Represents Keeps : Obj → Val → Prop} {CanDecode CanAssign : Val → Val → Prop}

theorem all_append_singleton {P : Obj → Val → Prop} {s : List (Obj × Val)} (hs : All P s)
    {object : Obj} {value : Val} (h : P object value) :
  All P (s ++ [(object, value)])
  := by
  intro entry hentry
  rcases List.mem_append.mp hentry with hmem | hmem
  · exact hs entry hmem
  · rw [List.mem_singleton.mp hmem]
    exact h

theorem all_set {P : Obj → Val → Prop} {s : List (Obj × Val)} (hs : All P s) {object : Obj}
    {value : Val} (h : P object value) (i : ℕ) :
  All P (s.set i (object, value))
  := by
  intro entry hentry
  rcases List.mem_or_eq_of_mem_set hentry with hmem | rfl
  · exact hs entry hmem
  · exact h

theorem of_all_set {P : Obj → Val → Prop} {s : List (Obj × Val)} {i : ℕ} {old : Obj × Val}
    (hi : s[i]? = some old) {object : Obj} {value : Val} (h : All P (s.set i (object, value))) :
  P object value
  := by
  apply h (object, value)
  apply List.mem_set
  exact (List.getElem?_eq_some_iff.mp hi).1

/-- A step that meets the condition leads to the representations of the values. -/
theorem Laws.all_step (h : c.Laws Represents Keeps CanDecode CanAssign) {s s' : List (Obj × Val)}
    (hs : All Represents s) {i : FieldStep Val} (hi : Meets CanDecode CanAssign s i)
    {o : ReturnValue} (hstep : c.step s i = some (s', o)) :
  All Represents s'
  := by
  cases i with
  | constructDefault =>
      cases hstep
      exact all_append_singleton hs h.init
  | construct value =>
      cases hstep
      exact all_append_singleton hs (h.new value)
  | decode i value trailing k =>
      simp only [step, Option.bind_eq_bind, Option.bind_eq_some_iff] at hstep
      obtain ⟨entry, hentry, ⟨result, object, b'⟩, hread, hstep⟩ := hstep
      cases hstep
      have hold := hs entry (List.mem_of_getElem? hentry)
      obtain ⟨_, _, _, hread', hrepresents, -⟩ := h.decode hold value trailing k
      cases hread.symm.trans hread'
      exact all_set hs (hrepresents (hi entry hentry)) i
  | copy i =>
      simp only [step, Option.bind_eq_bind, Option.bind_eq_some_iff] at hstep
      obtain ⟨entry, hentry, hstep⟩ := hstep
      cases hstep
      exact all_append_singleton hs (h.copy (hs entry (List.mem_of_getElem? hentry)))
  | assign i j =>
      simp only [step, Option.bind_eq_bind, Option.bind_eq_some_iff] at hstep
      obtain ⟨entry, hentry, other, hother, hstep⟩ := hstep
      cases hstep
      have hold := hs entry (List.mem_of_getElem? hentry)
      have hvalue := hs other (List.mem_of_getElem? hother)
      exact all_set hs ((h.assign hold hvalue).1 (hi entry hentry other hother)) i

/-- A step after which all objects have their values has met the condition. -/
theorem Laws.meets_of_afterStep (h : c.Laws Represents Keeps CanDecode CanAssign)
    {s : List (Obj × Val)} (hs : All Represents s) {i : FieldStep Val} (hafter : c.AfterStep Keeps s i) :
  Meets CanDecode CanAssign s i
  := by
  cases i with
  | constructDefault => trivial
  | construct value => trivial
  | decode i value trailing k =>
      intro entry hentry
      have hold := hs entry (List.mem_of_getElem? hentry)
      obtain ⟨_, _, _, hread, -, hdecode⟩ := h.decode hold value trailing k
      have hkeeps := hafter _ _ (by
        simp only [step, Option.bind_eq_bind, Option.mem_def.mp hentry, Option.bind_some, hread]
        rfl)
      exact hdecode (of_all_set hentry hkeeps)
  | copy i => trivial
  | assign i j =>
      intro entry hentry other hother
      have hkeeps := hafter _ _ (by
        simp only [step, Option.bind_eq_bind, Option.mem_def.mp hentry, Option.mem_def.mp hother,
          Option.bind_some]
        rfl)
      exact (h.assign (hs entry (List.mem_of_getElem? hentry))
        (hs other (List.mem_of_getElem? hother))).2 (of_all_set hentry hkeeps)

/-- All objects have their values after every step of a run exactly when every step meets the
condition. -/
theorem Laws.along_iff (h : c.Laws Represents Keeps CanDecode CanAssign)
    (is : List (FieldStep Val)) :
  c.step.Along (c.AfterStep Keeps) [] is ↔ c.step.Along (Meets CanDecode CanAssign) [] is
  := by
  apply Step.along_congr (I := All Represents)
  · intro s i hs
    constructor
    · exact h.meets_of_afterStep hs
    · intro hi s' o hstep entry hentry
      exact h.keeps (h.all_step hs hi hstep entry hentry)
  · intro s i s' o hs hi hstep
    exact h.all_step hs hi hstep
  · intro entry hentry
    cases hentry

end FieldClass

/-! ### Length-value fields -/

/-- The value of a field, of at most 255 bytes. -/
structure LvValue where
  data : List UInt8
  length_le : data.length ≤ 255

namespace Lv

def init : Lv where
  zeroLen := true
  value := .setConstBuffer none

def copy (other : Lv) : Lv where
  zeroLen := ¬ 0 < other.value.bufferLength
  value := other.value

-- The flag of an empty field is set, but never taken back.
def assign (lv other : Lv) : Lv where
  zeroLen := if other.value.buffer.isNone ∨ other.value.bufferLength = 0 then true else lv.zeroLen
  value := other.value

/-- The length and the value. -/
def encode (value : LvValue) : List UInt8 :=
  UInt8.ofNat value.data.length :: value.data

def fieldClass : FieldClass Lv LvValue where
  init := init
  initValue := ⟨[], Nat.zero_le _⟩
  new value := new value.data
  deSerialize := deSerialize
  copy := copy
  assign := assign
  encode := encode

/-- The object has the value for its users, is serialized to the length and the value, and these
bytes are read in front of any others. -/
structure Keeps (lv : Lv) (value : LvValue) : Prop where
  getValue_eq : lv.getValue = value.data
  serialize_eq : ∀ {maxSize : ℕ} (e : Endianness) {b : SerialBuffer},
    b.size + (encode value).length ≤ maxSize →
    lv.serialize maxSize e b = (.ok, b.put (encode value))
  deSerialize_eq : ∀ (object : Lv) (trailing : List UInt8) (k : ℕ), ∃ object',
    object.deSerialize ⟨encode value ++ trailing, (encode value).length + k⟩
      = some (.ok, object', ⟨trailing, k⟩)

/-- How an object represents a value. -/
structure Represents (lv : Lv) (value : LvValue) : Prop where
  getValue_eq : lv.getValue = value.data
  bufferLength_eq : lv.value.bufferLength.toNat = value.data.length
  zeroLen_iff : lv.zeroLen = true ↔ value.data = []

/-- An empty field is only read into an object that is empty. -/
def CanDecode (old value : LvValue) : Prop :=
  value.data = [] → old.data = []

/-- Only an empty object is assigned to an empty one. -/
def CanAssign (old value : LvValue) : Prop :=
  old.data = [] → value.data = []

variable {lv : Lv} {value old : LvValue}

theorem deSerialize_encode (lv : Lv) (value : LvValue) (trailing : List UInt8) (k : ℕ) :
  lv.deSerialize ⟨encode value ++ trailing, (encode value).length + k⟩
    = some (.ok, lv.receive value.data, ⟨trailing, k⟩)
  := by
  have hreads := Lv.reads lv value.length_le
  rw [bytes_new value.length_le] at hreads
  exact hreads trailing k

theorem bufferLength_eq_zero_iff (h : lv.Represents value) :
  lv.value.bufferLength = 0 ↔ value.data = []
  := by
  rw [← UInt8.toNat_inj, h.bufferLength_eq, UInt8.toNat_zero, List.length_eq_zero_iff]

/-- An object with a value has a block of bytes. -/
theorem exists_buffer (h : lv.Represents value) (hne : value.data ≠ []) :
  ∃ data, lv.value.buffer = some data
  := by
  apply Option.ne_none_iff_exists'.mp
  intro hnone
  apply hne
  rw [← h.getValue_eq, getValue, hnone, Option.getD_none, List.take_nil]

theorem represents_new (value : LvValue) :
  (new value.data).Represents value
  := by
  have hmod : value.data.length % 2 ^ 8 = value.data.length :=
    Nat.mod_eq_of_lt (Nat.lt_succ_of_le value.length_le)
  constructor
  · simp only [new, SerialBufferAdapter.new, getValue, Option.getD_some, UInt8.toNat_ofNat', hmod,
      List.take_length]
  · simp only [new, SerialBufferAdapter.new, UInt8.toNat_ofNat', hmod]
  · simp [new]

theorem Represents.keeps (h : lv.Represents value) :
  lv.Keeps value
  := by
  refine ⟨h.getValue_eq, ?_, fun object trailing k => ⟨_, object.deSerialize_encode ..⟩⟩
  intro maxSize e b hroom
  rw [encode, List.length_cons] at hroom
  rw [serialize, if_neg (by omega)]
  split_ifs with hzero
  · rw [encode, h.zeroLen_iff.mp hzero]
    rfl
  · have hne : value.data ≠ [] := fun hnil => hzero (h.zeroLen_iff.mpr hnil)
    obtain ⟨data, hbuffer⟩ := exists_buffer h hne
    have hdata : data.take lv.value.bufferLength.toNat = value.data := by
      have hget := h.getValue_eq
      rwa [getValue, hbuffer, Option.getD_some] at hget
    have hlength : lv.value.bufferLength = UInt8.ofNat value.data.length := by
      rw [← h.bufferLength_eq, UInt8.ofNat_toNat]
    have hbytes := h.bufferLength_eq
    rw [SerialBufferAdapter.serialize, SerializeAdapter.serialize_eq Nat.one_pos,
      if_pos (by omega), Serializer.andThen_ok, SerialBufferAdapter.bytesOf_one,
      SerialBuffer.size_put, List.length_singleton, if_neg (by omega), hbuffer]
    simp only [hdata, SerialBuffer.put_put, List.singleton_append]
    rw [hlength, encode]

/-- Another value is represented when it is read into the object, unless it is empty and the object
is not. -/
theorem represents_receive (h : lv.Represents old) (hdecode : CanDecode old value) :
  (lv.receive value.data).Represents value
  := by
  rw [receive]
  split_ifs with hnil
  · have hold := hdecode hnil
    refine ⟨?_, ?_, ?_⟩
    · exact (h.getValue_eq.trans hold).trans hnil.symm
    · rw [hnil, ← hold]
      exact h.bufferLength_eq
    · simp [hnil]
  · have hmod : value.data.length % 2 ^ 8 = value.data.length :=
      Nat.mod_eq_of_lt (Nat.lt_succ_of_le value.length_le)
    refine ⟨getValue_setConstBuffer value.length_le, ?_, ?_⟩
    · simp only [SerialBufferAdapter.setConstBuffer, Option.getD_some, UInt8.toNat_ofNat', hmod]
    · simp [hnil]

theorem canDecode_of_keeps (h : lv.Represents old) (hkeeps : (lv.receive value.data).Keeps value) :
  CanDecode old value
  := by
  intro hnil
  have haccepts := (getValue_receive_iff value.length_le).mp hkeeps.getValue_eq
  rw [← h.getValue_eq]
  exact haccepts hnil

theorem represents_copy (h : lv.Represents value) :
  lv.copy.Represents value
  := by
  refine ⟨h.getValue_eq, h.bufferLength_eq, ?_⟩
  rw [← bufferLength_eq_zero_iff h]
  simp [copy, UInt8.pos_iff_ne_zero]

/-- The flag of an object that another one was assigned to. -/
theorem zeroLen_assign {other : Lv} (h : lv.Represents old) (hother : other.Represents value) :
  (lv.assign other).zeroLen = true ↔ value.data = [] ∨ old.data = []
  := by
  rw [assign]
  split_ifs with hempty
  · simp only [true_iff]
    left
    rcases hempty with hnone | hzero
    · by_contra hne
      obtain ⟨data, hbuffer⟩ := exists_buffer hother hne
      rw [hbuffer] at hnone
      cases hnone
    · exact (bufferLength_eq_zero_iff hother).mp hzero
  · rw [h.zeroLen_iff, iff_or_self]
    intro hnil
    exact absurd (Or.inr ((bufferLength_eq_zero_iff hother).mpr hnil)) hempty

theorem laws :
  fieldClass.Laws Represents Keeps CanDecode CanAssign
  where
  keeps := Represents.keeps
  init := ⟨rfl, rfl, iff_of_true rfl rfl⟩
  new := represents_new
  decode := by
    intro lv old h value trailing k
    exact ⟨_, _, _, lv.deSerialize_encode value trailing k, represents_receive h,
      canDecode_of_keeps h⟩
  copy := represents_copy
  assign := by
    intro lv old other value h hother
    have hzero := zeroLen_assign h hother
    constructor
    · intro hassign
      refine ⟨hother.getValue_eq, hother.bufferLength_eq, ?_⟩
      exact hzero.trans (or_iff_left_of_imp hassign)
    · intro hkeeps hold
      -- The object is serialized as an empty field.
      have hflag : (fieldClass.assign lv other).zeroLen = true := hzero.mpr (.inr hold)
      have hserialize := hkeeps.serialize_eq .big (b := ⟨[], 0⟩) le_rfl
      rw [serialize, if_neg (by simp [encode]), if_pos hflag] at hserialize
      have hbytes := SerialBuffer.put_injective (Prod.ext_iff.mp hserialize).2
      rw [encode] at hbytes
      exact (List.cons.inj hbytes).2.symm

end Lv

/-! ### Type-length-value fields -/

/-- The type and the value of a field. -/
structure TlvValue extends LvValue where
  type : TlvType

namespace Tlv

def init : Tlv where
  zeroLen := true
  type := .invalidTlv
  value := .setConstBuffer none

/-- The type, the length and the value. -/
def encode (value : TlvValue) : List UInt8 :=
  UInt8.ofNat value.type.code :: Lv.encode value.toLvValue

-- Fields with a type are copied and assigned member by member.
def fieldClass : FieldClass Tlv TlvValue where
  init := init
  initValue := ⟨⟨[], Nat.zero_le _⟩, .invalidTlv⟩
  new value := new value.type value.data
  deSerialize := deSerialize
  copy tlv := tlv
  assign _ other := other
  encode := encode

/-- The field behind the type. -/
def toLv (tlv : Tlv) : Lv :=
  ⟨tlv.zeroLen, tlv.value⟩

/-- The object has the type and the value for its users, and if the type is one of a field, it is
serialized to the type, the length and the value, and these bytes are read in front of any
others. -/
structure Keeps (tlv : Tlv) (value : TlvValue) : Prop where
  type_eq : tlv.type = value.type
  getValue_eq : tlv.getValue = value.data
  serialize_eq : value.type ≠ .invalidTlv → ∀ {maxSize : ℕ} (e : Endianness) {b : SerialBuffer},
    b.size + (encode value).length ≤ maxSize →
    tlv.serialize maxSize e b = (.ok, b.put (encode value))
  deSerialize_eq : value.type ≠ .invalidTlv → ∀ (object : Tlv) (trailing : List UInt8) (k : ℕ),
    ∃ object', object.deSerialize ⟨encode value ++ trailing, (encode value).length + k⟩
      = some (.ok, object', ⟨trailing, k⟩)

/-- How an object represents a value. -/
structure Represents (tlv : Tlv) (value : TlvValue) : Prop where
  type_eq : tlv.type = value.type
  lv : tlv.toLv.Represents value.toLvValue

/-- An empty field is only read into an object that is empty. -/
def CanDecode (old value : TlvValue) : Prop :=
  value.type ≠ .invalidTlv → Lv.CanDecode old.toLvValue value.toLvValue

variable {tlv : Tlv} {value old : TlvValue}

theorem deSerialize_encode (tlv : Tlv) (htype : value.type ≠ .invalidTlv)
    (trailing : List UInt8) (k : ℕ) :
  tlv.deSerialize ⟨encode value ++ trailing, (encode value).length + k⟩
    = some (.ok, tlv.receive value.type value.data, ⟨trailing, k⟩)
  := by
  have hreads := Tlv.reads tlv htype value.length_le
  have hbytes : (new value.type value.data).bytes = encode value := by
    rw [encode, Lv.encode, ← Lv.bytes_new value.length_le]
    rfl
  rw [hbytes] at hreads
  exact hreads trailing k

/-- A field of no type is refused. -/
theorem deSerialize_invalid (tlv : Tlv) (htype : value.type = .invalidTlv)
    (trailing : List UInt8) (k : ℕ) :
  tlv.deSerialize ⟨encode value ++ trailing, (encode value).length + k⟩
    = some (invalidTlvType, tlv, ⟨encode value ++ trailing, (encode value).length + k⟩)
  := by
  have hcheck : checkType (UInt8.ofNat TlvType.invalidTlv.code) = false := rfl
  have hlength : (encode value).length = 2 + value.data.length := by
    rw [encode, Lv.encode, List.length_cons, List.length_cons, Nat.add_comm 2]
  rw [deSerialize, if_neg (by simp only [hlength]; omega), encode, htype]
  simp only [List.cons_append, byte_cons, Option.bind_eq_bind, Option.bind_some, hcheck]
  rfl

theorem toLv_receive (tlv : Tlv) (type : TlvType) (data : List UInt8) :
  (tlv.receive type data).toLv = tlv.toLv.receive data
  := by
  rw [receive, Lv.receive]
  split_ifs
  · rfl
  · rfl

theorem Represents.keeps (h : tlv.Represents value) :
  tlv.Keeps value
  := by
  have hlv := h.lv.keeps
  refine ⟨h.type_eq, hlv.getValue_eq, ?_, fun htype object trailing k =>
    ⟨_, object.deSerialize_encode htype trailing k⟩⟩
  intro htype maxSize e b hroom
  have htlv : tlv.type ≠ .invalidTlv := h.type_eq ▸ htype
  rw [encode, List.length_cons] at hroom
  have hlength : 1 ≤ (Lv.encode value.toLvValue).length := by
    rw [Lv.encode, List.length_cons]
    omega
  have hserialize := hlv.serialize_eq e
    (show (b.put [UInt8.ofNat tlv.type.code]).size + _ ≤ maxSize by
      rw [SerialBuffer.size_put, List.length_singleton]
      omega)
  rw [SerialBuffer.put_put, List.singleton_append, Lv.serialize, if_neg (by omega)] at hserialize
  rw [serialize, if_neg (by omega), if_neg htlv, encode, ← h.type_eq, ← hserialize]
  by_cases hzero : tlv.zeroLen = true
  · have hflag : tlv.toLv.zeroLen = true := hzero
    rw [if_pos hzero, if_pos hflag]
  · -- A field that is not empty has a block of bytes.
    have hne : value.data ≠ [] := fun hnil => hzero (h.lv.zeroLen_iff.mpr hnil)
    obtain ⟨data, hbuffer⟩ := Lv.exists_buffer h.lv hne
    have hsome : ¬ tlv.value.buffer.isNone := by
      rw [show tlv.value.buffer = some data from hbuffer]
      exact Bool.false_ne_true
    have hflag : ¬ tlv.toLv.zeroLen = true := hzero
    rw [if_neg hzero, if_neg hsome, if_neg hflag]
    rfl

theorem represents_receive (h : tlv.Represents old)
    (hdecode : Lv.CanDecode old.toLvValue value.toLvValue) :
  (tlv.receive value.type value.data).Represents value
  := by
  refine ⟨type_receive _ _ _, ?_⟩
  rw [toLv_receive]
  exact Lv.represents_receive h.lv hdecode

theorem laws :
  fieldClass.Laws Represents Keeps CanDecode fun _ _ => True
  where
  keeps := Represents.keeps
  init := ⟨rfl, rfl, rfl, iff_of_true rfl rfl⟩
  new value := ⟨rfl, Lv.represents_new value.toLvValue⟩
  decode := by
    intro tlv old h value trailing k
    by_cases htype : value.type = .invalidTlv
    · exact ⟨_, _, _, tlv.deSerialize_invalid htype trailing k, fun _ => h,
        fun _ hne => absurd htype hne⟩
    · refine ⟨_, _, _, tlv.deSerialize_encode htype trailing k,
        fun hdecode => represents_receive h (hdecode htype), ?_⟩
      intro hkeeps _ hnil
      have haccepts := (getValue_receive_iff value.length_le).mp hkeeps.getValue_eq
      exact h.lv.getValue_eq.symm.trans (haccepts hnil)
  copy h := h
  assign := by
    intro tlv old other value _ hother
    exact ⟨fun _ => hother, fun _ => trivial⟩

end Tlv

/-- In every run on fields of either class, all objects have the values they were given last after
every step, exactly when no empty field is read into an object that is not empty, and nothing but
empty fields is assigned to an empty field without a type. -/
theorem keeps_along_iff (is : List (FieldStep LvValue)) (js : List (FieldStep TlvValue)) :
  (Lv.fieldClass.step.Along (Lv.fieldClass.AfterStep Lv.Keeps) [] is
      ↔ Lv.fieldClass.step.Along (FieldClass.Meets Lv.CanDecode Lv.CanAssign) [] is) ∧
    (Tlv.fieldClass.step.Along (Tlv.fieldClass.AfterStep Tlv.Keeps) [] js
      ↔ Tlv.fieldClass.step.Along (FieldClass.Meets Tlv.CanDecode fun _ _ => True) [] js)
  := ⟨Lv.laws.along_iff is, Tlv.laws.along_iff js⟩

/-- An object that a field of three bytes and then an empty one are read into. -/
def emptyAfterThreeBytes : List (FieldStep LvValue) :=
  [.constructDefault, .decode 0 ⟨[1, 2, 3], by decide⟩ [] 0, .decode 0 ⟨[], by decide⟩ [] 0]

/-- The object still has the three bytes, and its copy is serialized with them. -/
theorem not_keeps_emptyAfterThreeBytes :
  ((Lv.fieldClass.step.run [] emptyAfterThreeBytes).map fun (s, _) =>
        s.map fun (lv, value) => (lv.getValue, value.data, lv.copy.bytes))
      = some [([1, 2, 3], [], [3, 1, 2, 3])] ∧
    ¬ ∀ is, Lv.fieldClass.step.Along (Lv.fieldClass.AfterStep Lv.Keeps) [] is
  := by
  refine ⟨rfl, ?_⟩
  intro h
  have hmeets := (Lv.laws.along_iff emptyAfterThreeBytes).mp (h emptyAfterThreeBytes)
  have hempty := (((hmeets.2 _ _ rfl).2 _ _ rfl).1 _ rfl) rfl
  cases hempty

end Cfdp
