import Mathlib.Data.Rat.Floor
import Fsfw.Serialize.SerialBuffer
import Fsfw.TimeManager.CCSDSTime

/-!
# Decoding of segmented and unsegmented times

A day segmented code counts days and milliseconds, and micro- or picoseconds behind them.  An
unsegmented code counts seconds with one to four octets, and fractions of a second with up to three.
Both should be decoded as the time that they stand for, rounded down to microseconds.

Days until the beginning of 1970 are rejected, and later ones overflow.  Of the microseconds only
one byte is read, and the picoseconds are taken for nanoseconds.  Fractions of a second are always
read as two octets.  No decoder reads behind the end, and times are decoded exactly where none of
this matters (`decodesExactly_iff`).
-/

/-- The time that is this many seconds after the epoch, rounded down to microseconds. -/
def Timeval.ofSeconds (seconds : ℚ) : Timeval where
  tvSec := ⌊seconds⌋
  tvUsec := ⌊Int.fract seconds * 1000000⌋

theorem Timeval.ofSeconds_add {seconds : ℤ} {part : ℚ} (hnonneg : 0 ≤ part) (hlt : part < 1) :
  Timeval.ofSeconds (seconds + part) = ⟨seconds, ⌊part * 1000000⌋⟩
  := by
  have hfloor : ⌊part⌋ = 0 := Int.floor_eq_zero_iff.mpr ⟨hnonneg, hlt⟩
  have hfract : Int.fract part = part := Int.fract_eq_self.mpr ⟨hnonneg, hlt⟩
  rw [ofSeconds, Int.floor_intCast_add, Int.fract_intCast_add, hfloor, hfract, add_zero]

namespace CCSDSTime

open SerializeAdapter

def codeCucLevel2 : UInt8 := 0b010

/-- The fractions of a second that two octets count. -/
def subsecondsToMicroseconds (subseconds : UInt16) : UInt32 :=
  (subseconds.toUInt64 * (1000000 : UInt64) / ((1 : UInt64) <<< (16 : UInt64))).toUInt32

/-- Add octets to a number, the most significant one first. -/
def readOctets : ℕ → UInt32 → List UInt8 → Option (UInt32 × List UInt8)
  | 0, value, buffer => some (value, buffer)
  | count + 1, value, octet :: buffer =>
      readOctets count (value + (octet.toUInt32 <<< UInt32.ofNat (count * 8))) buffer
  | _ + 1, _, [] => none

/-- Decode an unsegmented code whose p-field is not in the buffer. -/
def convertFromCUC (target : Timeval) (pField : UInt8) (buffer : List UInt8) (maxLength : ℕ) :
    Option Decoded :=
  let nCoarse := (((pField &&& 0b1100) >>> 2) + 1).toNat
  let nFine := (pField &&& 0b11).toNat
  let totalLength := nCoarse + nFine
  if totalLength > maxLength then
    some ⟨lengthMismatch, some totalLength, target⟩
  else do
    let (secs, buffer) ← readOctets nCoarse 0 buffer
    let (subSeconds, _) ← readOctets nFine 0 buffer
    let epoch : ℤ :=
      if pField &&& 0b10000 ≠ 0 then (daysCcsdsToUnixEpoch * secondsPerDay).toNat else 0
    return ⟨.ok, some totalLength,
      ⟨secs.toNat - epoch, (subsecondsToMicroseconds subSeconds.toUInt16).toNat⟩⟩

/-- Decode an unsegmented code in a buffer. -/
def convertFromCUCBuffer (target : Timeval) (buffer : List UInt8) (maxLength : ℕ) :
    Option Decoded :=
  if maxLength < 1 then
    some ⟨invalidTimeFormat, none, target⟩
  else
    match buffer with
    | [] => none
    | pField :: buffer =>
        (convertFromCUC target pField buffer (maxLength - 1)).map fun decoded =>
          if decoded.result = .ok then
            { decoded with foundLength := decoded.foundLength.map (· + 1) }
          else
            decoded

/-! ### Codes and the times they stand for -/

/-- What a day segmented code counts behind the milliseconds. -/
inductive SubMilliseconds where
  | none
  | microseconds (count : ℕ)
  | picoseconds (count : ℕ)
  deriving DecidableEq, Repr

namespace SubMilliseconds

/-- The last bits of the p-field. -/
def identification : SubMilliseconds → UInt8
  | none => 0b00
  | microseconds _ => 0b01
  | picoseconds _ => 0b10

def octets : SubMilliseconds → List UInt8
  | none => []
  | microseconds count => bigEndianBytes 2 count
  | picoseconds count => bigEndianBytes 4 count

def seconds : SubMilliseconds → ℚ
  | none => 0
  | microseconds count => count / 1000000
  | picoseconds count => count / 1000000000000

/-- Less than a millisecond is counted. -/
def IsPart : SubMilliseconds → Prop
  | none => True
  | microseconds count => count ≤ 999
  | picoseconds count => count ≤ 999999999

instance : DecidablePred IsPart
  | none => inferInstanceAs (Decidable True)
  | microseconds count => inferInstanceAs (Decidable (count ≤ 999))
  | picoseconds count => inferInstanceAs (Decidable (count ≤ 999999999))

end SubMilliseconds

/-- A day segmented code, whose epoch is the beginning of 1958. -/
structure CDSCode where
  extendedDays : Bool
  days : ℕ
  msDay : ℕ
  subMilliseconds : SubMilliseconds
  days_lt : days < 2 ^ (if extendedDays then 24 else 16)
  msDay_lt : msDay < 86400000
  isPart : subMilliseconds.IsPart

namespace CDSCode

variable (code : CDSCode)

def pField : UInt8 :=
  (codeCds <<< 4) + (if code.extendedDays then 0b100 else 0) + code.subMilliseconds.identification

def octets : List UInt8 :=
  code.pField :: (bigEndianBytes (if code.extendedDays then 3 else 2) code.days
    ++ (bigEndianBytes 4 code.msDay ++ code.subMilliseconds.octets))

/-- The seconds since the Unix epoch. -/
def seconds : ℚ :=
  ((code.days : ℚ) - 4383) * 86400 + code.msDay / 1000 + code.subMilliseconds.seconds

end CDSCode

/-- An unsegmented code.  Its epoch is the beginning of 1958, or the epoch of an agency, for which
the Unix epoch is taken. -/
structure CUCCode where
  agencyEpoch : Bool
  nCoarse : ℕ
  nFine : ℕ
  coarse : ℕ
  fine : ℕ
  nCoarse_pos : 0 < nCoarse
  nCoarse_le : nCoarse ≤ 4
  nFine_le : nFine ≤ 3
  coarse_lt : coarse < 256 ^ nCoarse
  fine_lt : fine < 256 ^ nFine

namespace CUCCode

variable (code : CUCCode)

def pField : UInt8 :=
  ((if code.agencyEpoch then codeCucLevel2 else codeCucLevel1) <<< 4)
    + UInt8.ofNat ((code.nCoarse - 1) * 4 + code.nFine)

/-- The octets behind the p-field. -/
def body : List UInt8 :=
  bigEndianBytes code.nCoarse code.coarse ++ bigEndianBytes code.nFine code.fine

def octets : List UInt8 :=
  code.pField :: code.body

/-- The seconds since the Unix epoch, as atomic clocks count them. -/
def seconds : ℚ :=
  (code.coarse : ℚ) - (if code.agencyEpoch then 0 else 4383 * 86400)
    + code.fine / 256 ^ code.nFine

end CUCCode

/-! ### Octets -/

theorem bigEndianBytes_succ (width n : ℕ) :
  bigEndianBytes (width + 1) n = UInt8.ofNat (n / 256 ^ width) :: bigEndianBytes width n
  := by
  induction width generalizing n with
  | zero =>
      simp [bigEndianBytes]
  | succ width ih =>
      have hdiv : n / 2 ^ 8 / 256 ^ width = n / 256 ^ (width + 1) := by
        rw [Nat.div_div_eq_div_mul]
        exact congrArg (n / ·) Nat.pow_succ'.symm
      calc bigEndianBytes (width + 2) n
          = bigEndianBytes (width + 1) (n / 2 ^ 8) ++ [UInt8.ofNat n] := rfl
        _ = UInt8.ofNat (n / 256 ^ (width + 1))
              :: (bigEndianBytes width (n / 2 ^ 8) ++ [UInt8.ofNat n]) := by
            rw [ih, hdiv, List.cons_append]

/-- The octets of a number are added to what has been read. -/
theorem readOctets_bigEndianBytes {count : ℕ} (hcount : count ≤ 4) (value : UInt32) (n : ℕ)
    (rest : List UInt8) :
  readOctets count value (bigEndianBytes count n ++ rest)
    = some (value + UInt32.ofNat (n % 256 ^ count), rest)
  := by
  induction count generalizing value with
  | zero =>
      rw [Nat.pow_zero, Nat.mod_one]
      simp [readOctets, bigEndianBytes]
  | succ count ih =>
      have hoctet : (UInt8.ofNat (n / 256 ^ count)).toUInt32 <<< UInt32.ofNat (count * 8)
          = UInt32.ofNat (256 ^ count * (n / 256 ^ count % 256)) := by
        have hshift : (UInt32.ofNat (count * 8)).toNat % 32 = 8 * count := by
          rw [UInt32.toNat_ofNat']
          omega
        have hpow : 2 ^ (8 * count) = 256 ^ count := by
          rw [Nat.pow_mul]
        apply UInt32.toNat_inj.mp
        rw [UInt32.toNat_shiftLeft, hshift, UInt8.toNat_toUInt32, UInt8.toNat_ofNat',
          UInt32.toNat_ofNat', Nat.shiftLeft_eq, hpow, Nat.mul_comm]
      rw [bigEndianBytes_succ, List.cons_append, readOctets, ih (by omega), hoctet,
        Nat.mod_pow_succ, UInt32.ofNat_add, UInt32.add_assoc,
        UInt32.add_comm (UInt32.ofNat (n % 256 ^ count))]

theorem toNat_subsecondsToMicroseconds (subseconds : UInt16) :
  (subsecondsToMicroseconds subseconds).toNat = subseconds.toNat * 1000000 / 65536
  := by
  have hlt := subseconds.toNat_lt
  have hmillion : (1000000 : UInt64).toNat = 1000000 := rfl
  have hpow : ((1 : UInt64) <<< (16 : UInt64)).toNat = 65536 := rfl
  rw [subsecondsToMicroseconds, UInt64.toNat_toUInt32, UInt64.toNat_div, UInt64.toNat_mul,
    UInt16.toNat_toUInt64, hmillion, hpow, Nat.mod_eq_of_lt (by omega : _ < 2 ^ 64),
    Nat.mod_eq_of_lt (by omega : _ < 2 ^ 32)]

/-- The decoder gives a time, and it is the one that is this many seconds after the epoch. -/
def Gives (decoded : Option Decoded) (seconds : ℚ) : Prop :=
  ∃ foundLength, decoded = some ⟨.ok, foundLength, .ofSeconds seconds⟩

/-! ### Unsegmented codes -/

namespace CUCCode

variable (code : CUCCode)

/-- Both decoders give the time, whatever is behind the code. -/
structure DecodesExactly (code : CUCCode) : Prop where
  withPField : ∀ (old : Timeval) (rest : List UInt8) (maxLength : ℕ),
    code.octets.length ≤ maxLength →
      Gives (convertFromCUCBuffer old (code.octets ++ rest) maxLength) code.seconds
  withoutPField : ∀ (old : Timeval) (rest : List UInt8) (maxLength : ℕ),
    code.body.length ≤ maxLength →
      Gives (convertFromCUC old code.pField (code.body ++ rest) maxLength) code.seconds

/-- The microseconds that are decoded. -/
def decodedMicroseconds : ℕ :=
  code.fine % 65536 * 1000000 / 65536

theorem pField_eq (agencyEpoch : Bool) {nCoarse nFine : ℕ} (hpos : 0 < nCoarse)
    (hle : nCoarse ≤ 4) (hfine : nFine ≤ 3) :
  let pField : UInt8 := ((if agencyEpoch then codeCucLevel2 else codeCucLevel1) <<< 4)
    + UInt8.ofNat ((nCoarse - 1) * 4 + nFine)
  (((pField &&& 0b1100) >>> 2) + 1).toNat = nCoarse ∧ (pField &&& 0b11).toNat = nFine
    ∧ (pField &&& 0b10000 ≠ 0 ↔ agencyEpoch = false)
  := by
  interval_cases nCoarse <;> interval_cases nFine <;> cases agencyEpoch <;> decide

theorem length_body :
  code.body.length = code.nCoarse + code.nFine
  := by
  rw [body, List.length_append, length_bigEndianBytes, length_bigEndianBytes]

/-- What is decoded of a code. -/
theorem convertFromCUC_body (old : Timeval) (rest : List UInt8) {maxLength : ℕ}
    (hlength : code.body.length ≤ maxLength) :
  convertFromCUC old code.pField (code.body ++ rest) maxLength
    = some ⟨.ok, some code.body.length,
        ⟨code.coarse - (if code.agencyEpoch then 0 else 4383 * 86400), code.decodedMicroseconds⟩⟩
  := by
  obtain ⟨hcoarse, hfine, hepoch⟩ :=
    pField_eq code.agencyEpoch code.nCoarse_pos code.nCoarse_le code.nFine_le
  have hcoarseLt : code.coarse < 2 ^ 32 := by
    apply lt_of_lt_of_le code.coarse_lt
    exact Nat.pow_le_pow_right (by decide) code.nCoarse_le
  have hfineLt : code.fine < 2 ^ 32 := by
    apply lt_of_lt_of_le code.fine_lt
    exact Nat.pow_le_pow_right (by decide) (Nat.le_succ_of_le code.nFine_le)
  rw [length_body] at hlength ⊢
  rw [convertFromCUC, pField, hcoarse, hfine, if_neg (Nat.not_lt.mpr hlength), body,
    List.append_assoc, readOctets_bigEndianBytes code.nCoarse_le, Nat.mod_eq_of_lt code.coarse_lt]
  simp only [Option.bind_eq_bind, Option.bind_some]
  rw [readOctets_bigEndianBytes (Nat.le_succ_of_le code.nFine_le), Nat.mod_eq_of_lt code.fine_lt]
  have hmicroseconds : (subsecondsToMicroseconds (UInt32.ofNat code.fine).toUInt16).toNat
      = code.decodedMicroseconds := by
    rw [toNat_subsecondsToMicroseconds, UInt32.toNat_toUInt16, UInt32.toNat_ofNat_of_lt' hfineLt]
    rfl
  simp only [Option.bind_some, UInt32.zero_add, UInt32.toNat_ofNat_of_lt' hcoarseLt, hmicroseconds,
    hepoch]
  cases code.agencyEpoch <;> rfl

theorem seconds_eq :
  Timeval.ofSeconds code.seconds
    = ⟨code.coarse - (if code.agencyEpoch then 0 else 4383 * 86400),
        (code.fine * 1000000 / 256 ^ code.nFine : ℕ)⟩
  := by
  have hpow : (0 : ℚ) < 256 ^ code.nFine := by positivity
  have hlt : (code.fine : ℚ) / 256 ^ code.nFine < 1 := by
    rw [div_lt_one hpow]
    exact_mod_cast code.fine_lt
  have hseconds : code.seconds
      = ((code.coarse - (if code.agencyEpoch then 0 else 4383 * 86400) : ℤ) : ℚ)
        + (code.fine : ℚ) / 256 ^ code.nFine := by
    rw [seconds]
    push_cast
    norm_num
  have hpart : (code.fine : ℚ) / 256 ^ code.nFine * 1000000
      = ((code.fine * 1000000 : ℕ) : ℚ) / ((256 ^ code.nFine : ℕ) : ℚ) := by
    push_cast
    ring
  rw [hseconds, Timeval.ofSeconds_add (by positivity) hlt, hpart, Rat.floor_natCast_div_natCast]
  rfl

/-- The numbers of three octets for which the two last ones give the right microseconds. -/
def coincidences : List ℕ :=
  [0, 1, 2, 3, 4, 5, 6, 7, 8, 10, 12, 14].map (fun first => first * 65793)
    ++ [241, 243, 245, 247, 248, 249, 250, 251, 252, 253, 254].map fun first => first * 65793 + 1

/-- Without fractions, or with two octets of them, all codes are decoded exactly. -/
def IsReadable : Prop :=
  match code.nFine with
  | 1 => code.fine = 0
  | 3 => code.fine ∈ coincidences
  | _ => True

/-- One octet is taken for the last one of two. -/
theorem one_octet_iff {fine : ℕ} (hlt : fine < 256) :
  fine % 65536 * 1000000 / 65536 = fine * 1000000 / 256 ↔ fine = 0
  := by
  rw [Nat.mod_eq_of_lt (by omega)]
  constructor
  · intro h
    have hle := Nat.div_mul_le_self (fine * 1000000) 65536
    have hlt := Nat.lt_div_mul_add (a := fine * 1000000) (b := 256) (by decide)
    omega
  · rintro rfl
    rfl

/-- The microseconds of two octets are the ones of all three. -/
theorem eq_multiple_of_le {first last microseconds : ℕ} (hfirst : first < 256)
    (hlast : last < 65536) (hle : microseconds * 65536 ≤ last * 1000000)
    (hlt : last * 1000000 < microseconds * 65536 + 65536)
    (hle' : microseconds * 16777216 ≤ (first * 65536 + last) * 1000000)
    (hlt' : (first * 65536 + last) * 1000000 < microseconds * 16777216 + 16777216) :
  first < 17 ∧ last = first * 257 ∨ 239 ≤ first ∧ last = first * 257 + 1
  := by
  have hcases : last = first * 257 ∨ last = first * 257 + 1 := by omega
  rcases hcases with rfl | rfl
  · left
    omega
  · right
    omega

theorem eq_multiple_of_eq {fine : ℕ} (hlt : fine < 16777216)
    (h : fine % 65536 * 1000000 / 65536 = fine * 1000000 / 16777216) :
  (∃ first < 17, fine = first * 65793) ∨ ∃ part < 16, fine = (239 + part) * 65793 + 1
  := by
  have hsplit := Nat.div_add_mod' fine 65536
  have hfirst : fine / 65536 < 256 := Nat.div_lt_of_lt_mul hlt
  have hlast := Nat.mod_lt fine (by decide : 65536 > 0)
  have hle := Nat.div_mul_le_self (fine * 1000000) 16777216
  have hlt' := Nat.lt_div_mul_add (a := fine * 1000000) (b := 16777216) (by decide)
  rw [← h] at hle hlt'
  have hcases := eq_multiple_of_le hfirst hlast (Nat.div_mul_le_self _ _)
    (Nat.lt_div_mul_add (by decide)) (by rwa [hsplit]) (by rwa [hsplit])
  rcases hcases with ⟨hlow, heq⟩ | ⟨hhigh, heq⟩
  · left
    refine ⟨fine / 65536, hlow, ?_⟩
    omega
  · right
    refine ⟨fine / 65536 - 239, ?_, ?_⟩
    · omega
    · omega

theorem three_octets_iff {fine : ℕ} (hlt : fine < 16777216) :
  fine % 65536 * 1000000 / 65536 = fine * 1000000 / 16777216 ↔ fine ∈ coincidences
  := by
  have hmultiple : ∀ first < 17,
      first * 65793 % 65536 * 1000000 / 65536 = first * 65793 * 1000000 / 16777216 →
        first * 65793 ∈ coincidences := by
    decide +kernel
  have hsucc : ∀ part < 16,
      ((239 + part) * 65793 + 1) % 65536 * 1000000 / 65536
          = ((239 + part) * 65793 + 1) * 1000000 / 16777216 →
        (239 + part) * 65793 + 1 ∈ coincidences := by
    decide +kernel
  have hall : ∀ fine ∈ coincidences,
      fine % 65536 * 1000000 / 65536 = fine * 1000000 / 16777216 := by
    decide +kernel
  constructor
  · intro h
    obtain ⟨first, hfirst, rfl⟩ | ⟨part, hpart, rfl⟩ := eq_multiple_of_eq hlt h
    · exact hmultiple first hfirst h
    · exact hsucc part hpart h
  · exact hall fine

theorem decodedMicroseconds_eq_iff :
  code.decodedMicroseconds = code.fine * 1000000 / 256 ^ code.nFine ↔ code.IsReadable
  := by
  have hlt := code.fine_lt
  have hle := code.nFine_le
  rw [decodedMicroseconds, IsReadable]
  generalize code.fine = fine at hlt ⊢
  generalize code.nFine = nFine at hlt hle ⊢
  interval_cases nFine
  · simp only [iff_true]
    omega
  · exact one_octet_iff hlt
  · simp only [iff_true]
    omega
  · exact three_octets_iff hlt

/-- A code is decoded exactly when its microseconds are. -/
theorem exact_iff :
  code.DecodesExactly ↔ code.IsReadable
  := by
  rw [← decodedMicroseconds_eq_iff]
  constructor
  · intro h
    obtain ⟨foundLength, hdecoded⟩ := h.withoutPField ⟨0, 0⟩ [] code.body.length (le_refl _)
    rw [convertFromCUC_body _ _ _ (le_refl _), seconds_eq] at hdecoded
    injection hdecoded with hdecoded
    injection hdecoded with _ _ htime
    injection htime with _ husec
    exact_mod_cast husec
  · intro h
    have hwithout : ∀ (old : Timeval) (rest : List UInt8) (maxLength : ℕ),
        code.body.length ≤ maxLength →
          convertFromCUC old code.pField (code.body ++ rest) maxLength
            = some ⟨.ok, some code.body.length, .ofSeconds code.seconds⟩ := by
      intro old rest maxLength hlength
      rw [convertFromCUC_body _ _ _ hlength, seconds_eq, h]
    constructor
    · intro old rest maxLength hlength
      rw [octets, List.length_cons] at hlength
      use some (code.body.length + 1)
      rw [octets, List.cons_append]
      simp only [convertFromCUCBuffer]
      rw [if_neg (by omega)]
      rw [hwithout old rest (maxLength - 1) (by omega)]
      rfl
    · intro old rest maxLength hlength
      use some code.body.length
      exact hwithout old rest maxLength hlength

end CUCCode

/-! ### Day segmented codes -/

namespace SubMilliseconds

variable (part : SubMilliseconds)

/-- The microseconds that are counted. -/
def microsecondsOf : SubMilliseconds → ℕ
  | none => 0
  | microseconds count => count
  | picoseconds count => count / 1000000

/-- The microseconds that are decoded.  Many picoseconds are rejected. -/
def decoded : SubMilliseconds → Option ℕ
  | none => some 0
  | microseconds count => some (count % 256)
  | picoseconds count => if count > 999999 then Option.none else some (count / 1000)

/-- Microseconds have one byte, and picoseconds are less than a nanosecond. -/
def IsReadable : SubMilliseconds → Prop
  | none => True
  | microseconds count => count < 256
  | picoseconds count => count < 1000

theorem decoded_eq_iff (h : part.IsPart) :
  part.decoded = some part.microsecondsOf ↔ part.IsReadable
  := by
  cases part with
  | none => simp [decoded, microsecondsOf, IsReadable]
  | microseconds count =>
      simp only [decoded, microsecondsOf, IsReadable, Option.some.injEq]
      omega
  | picoseconds count =>
      simp only [decoded, microsecondsOf, IsReadable]
      split
      · simp
        omega
      · simp only [Option.some.injEq]
        omega

theorem seconds_nonneg :
  0 ≤ part.seconds
  := by
  cases part with
  | none => exact le_refl _
  | microseconds count | picoseconds count =>
      rw [seconds]
      positivity

theorem seconds_lt (h : part.IsPart) :
  part.seconds < 1 / 1000
  := by
  cases part with
  | none => norm_num [seconds]
  | microseconds count =>
      have hle : (count : ℚ) ≤ 999 := by exact_mod_cast h
      rw [seconds]
      linarith
  | picoseconds count =>
      have hle : (count : ℚ) ≤ 999999999 := by exact_mod_cast h
      rw [seconds]
      linarith

theorem floor_seconds :
  ⌊part.seconds * 1000000⌋ = (part.microsecondsOf : ℤ)
  := by
  cases part with
  | none => simp [seconds, microsecondsOf]
  | microseconds count =>
      rw [seconds, div_mul_cancel₀ _ (by norm_num), Int.floor_natCast, microsecondsOf]
  | picoseconds count =>
      have hscale : (count : ℚ) / 1000000000000 * 1000000 = (count : ℚ) / (1000000 : ℕ) := by
        push_cast
        ring
      rw [seconds, hscale, Rat.floor_natCast_div_natCast, microsecondsOf]
      rfl

end SubMilliseconds

theorem fourBytes_eq {hh h l ll : UInt8} {n : ℕ}
    (heq : hh.toNat * 2 ^ 24 + h.toNat * 2 ^ 16 + l.toNat * 2 ^ 8 + ll.toNat = n) :
  fourBytes hh h l ll = UInt32.ofNat n
  := by
  rw [← heq, ← toNat_fourBytes, UInt32.ofNat_toNat]

/-- A number of four octets. -/
theorem fourBytes_bigEndianBytes {n : ℕ} (hlt : n < 2 ^ 32) :
  fourBytes (UInt8.ofNat (n / 2 ^ 8 / 2 ^ 8 / 2 ^ 8)) (UInt8.ofNat (n / 2 ^ 8 / 2 ^ 8))
    (UInt8.ofNat (n / 2 ^ 8)) (UInt8.ofNat n) = UInt32.ofNat n
  := by
  apply fourBytes_eq
  simp only [UInt8.toNat_ofNat']
  omega

namespace CDSCode

variable (code : CDSCode)

theorem pField_eq :
  code.pField &&& 0b1000 = 0 ∧ (code.pField &&& 0b100 ≠ 0 ↔ code.extendedDays = true)
    ∧ code.pField &&& 0b11 = code.subMilliseconds.identification
  := by
  rw [pField]
  cases code.extendedDays <;> cases code.subMilliseconds <;>
    simp only [SubMilliseconds.identification] <;> decide

theorem expectedLength_pField :
  expectedLength code.pField = code.octets.length
  := by
  rw [octets, List.length_cons, List.length_append, List.length_append, length_bigEndianBytes,
    length_bigEndianBytes, pField]
  cases code.extendedDays <;> cases code.subMilliseconds <;>
    simp only [SubMilliseconds.identification, SubMilliseconds.octets, length_bigEndianBytes] <;>
    decide

theorem readDays_octets (rest : List UInt8) :
  readDays code.extendedDays (bigEndianBytes (if code.extendedDays then 3 else 2) code.days ++ rest)
    = some (UInt32.ofNat code.days, rest)
  := by
  have hlt := code.days_lt
  generalize code.days = days at hlt ⊢
  generalize code.extendedDays = extendedDays at hlt ⊢
  cases extendedDays with
  | false =>
      have hlt' : days < 2 ^ 16 := hlt
      have hdays : fourBytes 0 0 (UInt8.ofNat (days / 2 ^ 8)) (UInt8.ofNat days)
          = UInt32.ofNat days := by
        apply fourBytes_eq
        simp only [UInt8.toNat_ofNat', UInt8.toNat_zero]
        omega
      exact congrArg (fun days => some (days, rest)) hdays
  | true =>
      have hlt' : days < 2 ^ 24 := hlt
      have hdays : fourBytes 0 (UInt8.ofNat (days / 2 ^ 8 / 2 ^ 8)) (UInt8.ofNat (days / 2 ^ 8))
          (UInt8.ofNat days) = UInt32.ofNat days := by
        apply fourBytes_eq
        simp only [UInt8.toNat_ofNat', UInt8.toNat_zero]
        omega
      exact congrArg (fun days => some (days, rest)) hdays

theorem addSubMilliseconds_octets (time : Timeval) (rest : List UInt8) :
  addSubMilliseconds code.pField time (code.subMilliseconds.octets ++ rest)
    = some (match code.subMilliseconds.decoded with
        | none => (invalidTimeFormat, time)
        | some usecs => (.ok, { time with tvUsec := time.tvUsec + usecs }))
  := by
  have hpart := code.isPart
  have hidentification := code.pField_eq.2.2
  generalize code.pField = pField at hidentification ⊢
  generalize code.subMilliseconds = part at hpart hidentification ⊢
  cases part with
  | none =>
      have hnone : pField &&& 0b11 = 0b00 := hidentification
      simp [addSubMilliseconds, hnone, SubMilliseconds.decoded]
  | microseconds count =>
      have hle : count ≤ 999 := hpart
      have hmicro : pField &&& 0b11 = 0b01 := hidentification
      have husecs : (fourBytes 0 (UInt8.ofNat (count / 2 ^ 8)) 0 (UInt8.ofNat count)).toUInt16.toNat
          = count % 256 := by
        rw [UInt32.toNat_toUInt16, toNat_fourBytes]
        simp only [UInt8.toNat_ofNat', UInt8.toNat_zero]
        omega
      have hoctets : SubMilliseconds.octets (.microseconds count) ++ rest
          = UInt8.ofNat (count / 2 ^ 8) :: UInt8.ofNat count :: rest := rfl
      rw [hoctets]
      simp only [addSubMilliseconds, hmicro, if_true, gt_iff_lt, UInt16.lt_iff_toNat_lt, husecs,
        SubMilliseconds.decoded]
      have hlimit : ¬ (999 : UInt16).toNat < count % 256 := by
        have hnat : (999 : UInt16).toNat = 999 := rfl
        omega
      rw [if_neg hlimit]
  | picoseconds count =>
      have hle : count ≤ 999999999 := hpart
      have hpico : pField &&& 0b11 = 0b10 := hidentification
      have hpicosecs := fourBytes_bigEndianBytes (n := count) (by omega)
      have hoctets : SubMilliseconds.octets (.picoseconds count) ++ rest
          = UInt8.ofNat (count / 2 ^ 8 / 2 ^ 8 / 2 ^ 8) :: UInt8.ofNat (count / 2 ^ 8 / 2 ^ 8)
            :: UInt8.ofNat (count / 2 ^ 8) :: UInt8.ofNat count :: rest := rfl
      have hnot : ¬ (0b10 : UInt8) = 0b01 := by decide
      rw [hoctets]
      simp only [addSubMilliseconds, hpico, hnot, if_true, if_false, hpicosecs, gt_iff_lt,
        UInt32.lt_iff_toNat_lt, SubMilliseconds.decoded, UInt32.toNat_div]
      have hnat : (UInt32.ofNat count).toNat = count :=
        UInt32.toNat_ofNat_of_lt' (by omega : count < 2 ^ 32)
      have hlimit : (999999 : UInt32).toNat = 999999 := rfl
      have hthousand : (1000 : UInt32).toNat = 1000 := rfl
      rw [hnat, hlimit, hthousand]
      split <;> rfl

/-- What is decoded of a code. -/
theorem convertFromCDSBuffer_octets (old : Timeval) (rest : List UInt8) {maxLength : ℕ}
    (hlength : code.octets.length ≤ maxLength) :
  convertFromCDSBuffer old (code.octets ++ rest) maxLength
    = if code.days ≤ 4383 then some ⟨invalidTimeFormat, some code.octets.length, old⟩
      else
        let time : Timeval :=
          ⟨((code.days - 4383) * 86400 % 2 ^ 32 : ℕ) + (code.msDay / 1000 : ℕ),
            (code.msDay % 1000 * 1000 : ℕ)⟩
        match code.subMilliseconds.decoded with
        | none => some ⟨invalidTimeFormat, some code.octets.length, time⟩
        | some usecs =>
            some ⟨.ok, some code.octets.length, { time with tvUsec := time.tvUsec + usecs }⟩
  := by
  have hms : code.msDay < 2 ^ 32 := lt_trans code.msDay_lt (by decide)
  have hdays : code.days < 2 ^ 32 := by
    apply lt_trans code.days_lt
    cases code.extendedDays <;> decide
  obtain ⟨hepoch, hextended, -⟩ := code.pField_eq
  have hoctets : code.octets ++ rest
      = code.pField :: (bigEndianBytes (if code.extendedDays then 3 else 2) code.days
          ++ (UInt8.ofNat (code.msDay / 2 ^ 8 / 2 ^ 8 / 2 ^ 8)
            :: UInt8.ofNat (code.msDay / 2 ^ 8 / 2 ^ 8) :: UInt8.ofNat (code.msDay / 2 ^ 8)
            :: UInt8.ofNat code.msDay :: (code.subMilliseconds.octets ++ rest))) := by
    rw [octets, List.cons_append, List.append_assoc, List.append_assoc]
    rfl
  have hbool : decide (code.pField &&& 0b100 ≠ 0) = code.extendedDays := by
    rw [Bool.eq_iff_iff, decide_eq_true_iff]
    exact hextended
  rw [hoctets]
  simp only [convertFromCDSBuffer, expectedLength_pField, hepoch, hbool, readDays_octets,
    fourBytes_bigEndianBytes hms, addSubMilliseconds_octets, Option.map_some]
  rw [if_neg (by simp), if_neg (Nat.not_lt.mpr hlength)]
  have hdaysNat := UInt32.toNat_ofNat_of_lt' hdays
  have hmsNat := UInt32.toNat_ofNat_of_lt' hms
  have hle : UInt32.ofNat code.days ≤ daysCcsdsToUnixEpoch ↔ code.days ≤ 4383 := by
    rw [UInt32.le_iff_toNat_le, hdaysNat]
    rfl
  by_cases hearly : code.days ≤ 4383
  · rw [if_pos hearly, if_pos (hle.mpr hearly)]
  · have hsub := UInt32.toNat_sub_of_le (UInt32.ofNat code.days) daysCcsdsToUnixEpoch
      (UInt32.le_of_lt (UInt32.not_le.mp (hle.not.mpr hearly)))
    have hseconds : ((UInt32.ofNat code.days - daysCcsdsToUnixEpoch) * secondsPerDay).toNat
        = (code.days - 4383) * 86400 % 2 ^ 32 := by
      rw [UInt32.toNat_mul, hsub, hdaysNat]
      rfl
    have hdiv : (UInt32.ofNat code.msDay / 1000).toNat = code.msDay / 1000 := by
      rw [UInt32.toNat_div, hmsNat]
      rfl
    have hmod : (UInt32.ofNat code.msDay % 1000 * 1000).toNat = code.msDay % 1000 * 1000 := by
      have hthousand : (1000 : UInt32).toNat = 1000 := rfl
      rw [UInt32.toNat_mul, UInt32.toNat_mod, hmsNat, hthousand]
      omega
    rw [if_neg hearly, if_neg (hle.not.mpr hearly), hseconds, hdiv, hmod]
    cases code.subMilliseconds.decoded <;> rfl

theorem seconds_eq :
  Timeval.ofSeconds code.seconds
    = ⟨((code.days : ℤ) - 4383) * 86400 + (code.msDay / 1000 : ℕ),
        (code.msDay % 1000 * 1000 + code.subMilliseconds.microsecondsOf : ℕ)⟩
  := by
  have hnonneg := code.subMilliseconds.seconds_nonneg
  have hlt := code.subMilliseconds.seconds_lt code.isPart
  have hms : (code.msDay : ℚ) = ((1000 * (code.msDay / 1000) + code.msDay % 1000 : ℕ) : ℚ) := by
    rw [Nat.div_add_mod]
  have hmod := Nat.mod_lt code.msDay (by decide : 0 < 1000)
  rw [seconds, hms]
  generalize code.msDay / 1000 = quotient
  generalize code.msDay % 1000 = remainder at hmod
  have hle : (remainder : ℚ) ≤ 999 := by exact_mod_cast Nat.le_of_lt_succ hmod
  have hseconds : ((code.days : ℚ) - 4383) * 86400 + ((1000 * quotient + remainder : ℕ) : ℚ) / 1000
        + code.subMilliseconds.seconds
      = ((((code.days : ℤ) - 4383) * 86400 + (quotient : ℤ) : ℤ) : ℚ)
        + ((remainder : ℚ) / 1000 + code.subMilliseconds.seconds) := by
    push_cast
    ring
  have hpart : ((remainder : ℚ) / 1000 + code.subMilliseconds.seconds) * 1000000
      = ((remainder * 1000 : ℕ) : ℚ) + code.subMilliseconds.seconds * 1000000 := by
    push_cast
    ring
  rw [hseconds, Timeval.ofSeconds_add (by positivity) (by linarith), hpart,
    Int.floor_natCast_add, SubMilliseconds.floor_seconds, Nat.cast_add]

/-- Both decoders give the time, whatever is behind the code. -/
def DecodesExactly : Prop :=
  ∀ (old : Timeval) (rest : List UInt8) (maxLength : ℕ), code.octets.length ≤ maxLength →
    Gives (convertFromCDSBuffer old (code.octets ++ rest) maxLength) code.seconds

/-- The code is for a day from the 2nd of January 1970 to the 6th of February 2106, and what is
behind the milliseconds is decoded properly. -/
structure IsReadable : Prop where
  late : 4383 < code.days
  early : code.days < 4383 + 49711
  part : code.subMilliseconds.IsReadable

/-- The seconds of these days have 32 bits. -/
theorem seconds_fit_iff {days : ℕ} (hlate : 4383 < days) :
  (((days - 4383) * 86400 % 2 ^ 32 : ℕ) : ℤ) = ((days : ℤ) - 4383) * 86400
    ↔ days < 4383 + 49711
  := by
  have hcast : ((days : ℤ) - 4383) * 86400 = ((days - 4383) * 86400 : ℕ) := by
    rw [Nat.cast_mul, Nat.cast_sub (Nat.le_of_lt hlate)]
    rfl
  rw [hcast, Nat.cast_inj, Nat.mod_eq_iff_lt (by decide)]
  omega

theorem exact_iff :
  code.DecodesExactly ↔ code.IsReadable
  := by
  constructor
  · intro h
    obtain ⟨foundLength, hdecoded⟩ := h ⟨0, 0⟩ [] code.octets.length (le_refl _)
    rw [convertFromCDSBuffer_octets _ _ _ (le_refl _), seconds_eq] at hdecoded
    split at hdecoded
    · cases hdecoded
    · rename_i hlate
      dsimp only at hdecoded
      split at hdecoded
      · cases hdecoded
      · rename_i usecs husecs
        injection hdecoded with hdecoded
        injection hdecoded with _ _ htime
        injection htime with hsec husec
        constructor
        · exact Nat.not_le.mp hlate
        · exact (seconds_fit_iff (Nat.not_le.mp hlate)).mp (add_right_cancel hsec)
        · apply (code.subMilliseconds.decoded_eq_iff code.isPart).mp
          rw [husecs]
          congr 1
          omega
  · rintro ⟨hlate, hearly, hpart⟩ old rest maxLength hlength
    use some code.octets.length
    rw [convertFromCDSBuffer_octets _ _ _ hlength, if_neg (Nat.not_le.mpr hlate), seconds_eq,
      (code.subMilliseconds.decoded_eq_iff code.isPart).mpr hpart]
    dsimp only
    rw [(seconds_fit_iff hlate).mpr hearly, Nat.cast_add]

end CDSCode

/-! ### Reads inside of the buffer -/

theorem readOctets_of_le {count : ℕ} {buffer : List UInt8} (h : count ≤ buffer.length)
    (value : UInt32) :
  ∃ value', readOctets count value buffer = some (value', buffer.drop count)
  := by
  induction count generalizing value buffer with
  | zero =>
      use value
      rfl
  | succ count ih =>
      match buffer with
      | octet :: buffer =>
          rw [readOctets, List.drop_succ_cons]
          apply ih (Nat.le_of_succ_le_succ h)

theorem convertFromCUC_ne_none (old : Timeval) (pField : UInt8) (buffer : List UInt8) :
  convertFromCUC old pField buffer buffer.length ≠ none
  := by
  rw [convertFromCUC]
  dsimp only
  generalize (((pField &&& 0b1100) >>> 2) + 1).toNat = nCoarse
  generalize (pField &&& 0b11).toNat = nFine
  split
  · simp
  · rename_i hlength
    have hcoarse : nCoarse ≤ buffer.length := by omega
    have hfine : nFine ≤ (buffer.drop nCoarse).length := by
      rw [List.length_drop]
      omega
    obtain ⟨secs, hsecs⟩ := readOctets_of_le hcoarse 0
    obtain ⟨subSeconds, hsubSeconds⟩ := readOctets_of_le hfine 0
    simp [hsecs, hsubSeconds]

theorem convertFromCUCBuffer_ne_none (old : Timeval) {buffer : List UInt8}
    (h : 1 ≤ buffer.length) :
  convertFromCUCBuffer old buffer buffer.length ≠ none
  := by
  match buffer with
  | pField :: buffer =>
      rw [convertFromCUCBuffer, if_neg (by simp), List.length_cons, Nat.add_sub_cancel, ne_eq,
        Option.map_eq_none_iff]
      apply convertFromCUC_ne_none

theorem readDays_of_le (extendedDays : Bool) {buffer : List UInt8}
    (h : (if extendedDays then 3 else 2) ≤ buffer.length) :
  ∃ days, readDays extendedDays buffer
    = some (days, buffer.drop (if extendedDays then 3 else 2))
  := by
  cases extendedDays with
  | false =>
      match buffer with
      | day₀ :: day₁ :: rest => exact ⟨_, rfl⟩
  | true =>
      match buffer with
      | day₀ :: day₁ :: day₂ :: rest => exact ⟨_, rfl⟩

theorem exists_eq_four {bytes : List UInt8} (hlen : 4 ≤ bytes.length) :
  ∃ hh h l ll rest, bytes = hh :: h :: l :: ll :: rest
  := by
  rcases bytes with _ | ⟨hh, _ | ⟨h, _ | ⟨l, _ | ⟨ll, rest⟩⟩⟩⟩
  case cons.cons.cons.cons => use hh, h, l, ll, rest
  all_goals simp at hlen

theorem addSubMilliseconds_ne_none {pField : UInt8} {rest : List UInt8}
    (h : (if pField &&& 0b11 = 0b01 then 2 else if pField &&& 0b11 = 0b10 then 4 else 0)
      ≤ rest.length) (time : Timeval) :
  addSubMilliseconds pField time rest ≠ none
  := by
  rw [addSubMilliseconds.eq_def]
  split
  · rename_i hmicro
    rw [if_pos hmicro] at h
    match rest with
    | usec₀ :: usec₁ :: rest =>
        dsimp only
        split <;> simp
  · rename_i hmicro
    rw [if_neg hmicro] at h
    split
    · rename_i hpico
      rw [if_pos hpico] at h
      obtain ⟨pico₀, pico₁, pico₂, pico₃, rest, rfl⟩ := exists_eq_four h
      dsimp only
      split <;> simp
    · simp

theorem convertFromCDSBuffer_ne_none (old : Timeval) {buffer : List UInt8}
    (h : 1 ≤ buffer.length) :
  convertFromCDSBuffer old buffer buffer.length ≠ none
  := by
  obtain ⟨pField, buffer, rfl⟩ := List.exists_cons_of_length_pos h
  rw [convertFromCDSBuffer]
  split
  · simp
  · split
    · simp
    · rename_i hlength
      rw [expectedLength, List.length_cons] at hlength
      generalize hextended : decide (pField &&& 0b100 ≠ 0) = extendedDays
      have hdays : (if extendedDays then 3 else 2)
          = 2 + (if pField &&& 0b100 ≠ 0 then 1 else 0) := by
        rw [← hextended]
        by_cases hbit : pField &&& 0b100 = 0 <;> simp [hbit]
      have hle : (if extendedDays then 3 else 2) ≤ buffer.length := by omega
      obtain ⟨days, hread⟩ := readDays_of_le extendedDays hle
      have hrest := List.length_drop (i := if extendedDays then 3 else 2) (l := buffer)
      rw [hread]
      generalize buffer.drop (if extendedDays then 3 else 2) = rest at hrest
      dsimp only
      split
      · simp
      · have hfour : 4 ≤ rest.length := by omega
        obtain ⟨hh, h, l, ll, rest, rfl⟩ := exists_eq_four hfour
        simp only [List.length_cons] at hrest
        dsimp only
        rw [ne_eq, Option.map_eq_none_iff]
        apply addSubMilliseconds_ne_none
        omega

/-- No decoder reads behind the end of the buffer. -/
structure DecodersStayInside : Prop where
  cds : ∀ (old : Timeval) (buffer : List UInt8), 1 ≤ buffer.length →
    convertFromCDSBuffer old buffer buffer.length ≠ none
  cuc : ∀ (old : Timeval) (buffer : List UInt8), 1 ≤ buffer.length →
    convertFromCUCBuffer old buffer buffer.length ≠ none
  cucWithoutPField : ∀ (old : Timeval) (pField : UInt8) (buffer : List UInt8),
    convertFromCUC old pField buffer buffer.length ≠ none

theorem decodersStayInside : DecodersStayInside where
  cds old _ := convertFromCDSBuffer_ne_none old
  cuc old _ := convertFromCUCBuffer_ne_none old
  cucWithoutPField := convertFromCUC_ne_none

/-! ### Both codes -/

inductive TimeCode where
  | cds (code : CDSCode)
  | cuc (code : CUCCode)

namespace TimeCode

def DecodesExactly : TimeCode → Prop
  | cds code => code.DecodesExactly
  | cuc code => code.DecodesExactly

def IsReadable : TimeCode → Prop
  | cds code => code.IsReadable
  | cuc code => code.IsReadable

/-- The codes that are decoded exactly, without a read behind the end, are the readable ones. -/
theorem decodesExactly_iff (code : TimeCode) :
  code.DecodesExactly ∧ DecodersStayInside ↔ code.IsReadable
  := by
  rw [and_iff_left decodersStayInside]
  cases code with
  | cds code => exact code.exact_iff
  | cuc code => exact code.exact_iff

/-- The first day of 1970, a day in 2106, 256 microseconds and a nanosecond are not decoded properly
from day segmented codes, and half a second of one octet is not from an unsegmented one. -/
theorem not_decodesExactly :
  ¬ (cds ⟨false, 4383, 0, .none, by decide, by decide, trivial⟩).DecodesExactly
    ∧ ¬ (cds ⟨true, 4383 + 49711, 0, .none, by decide, by decide, trivial⟩).DecodesExactly
    ∧ ¬ (cds ⟨false, 20000, 0, .microseconds 256, by decide, by decide, by decide⟩).DecodesExactly
    ∧ ¬ (cds ⟨false, 20000, 0, .picoseconds 1000, by decide, by decide, by decide⟩).DecodesExactly
    ∧ ¬ (cuc ⟨false, 4, 1, 2000000000, 128, by decide, by decide, by decide, by decide,
      by decide⟩).DecodesExactly
  := by
  and_intros
  · intro h
    have hlate := ((CDSCode.exact_iff _).mp h).late
    revert hlate
    decide
  · intro h
    have hearly := ((CDSCode.exact_iff _).mp h).early
    revert hearly
    decide
  · intro h
    have hpart : 256 < 256 := ((CDSCode.exact_iff _).mp h).part
    revert hpart
    decide
  · intro h
    have hpart : 1000 < 1000 := ((CDSCode.exact_iff _).mp h).part
    revert hpart
    decide
  · intro h
    have hfine : 128 = 0 := (CUCCode.exact_iff _).mp h
    revert hfine
    decide

end TimeCode

end CCSDSTime
