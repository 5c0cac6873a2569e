import Fsfw.ReturnValues

/-!
# CCSDS time codes

The day segmented code counts the days since the beginning of 1958, and the milliseconds of the
day.  A `timeval` counts seconds since the Unix epoch, 4383 days later.  The seconds have 64 bits,
and in the conversions they are mixed with counts of 32 bits, which overflow.

The code is decoded from its seven bytes, or from a buffer, where days may have three bytes and
parts of a millisecond may follow.  A buffer may also hold a time in one of the other formats.

A time is decoded as it has been encoded, truncated to milliseconds, from the second day of the Unix
epoch on until the seconds overflow (`roundTrips_iff`).
-/

/-- Seconds since the Unix epoch, and microseconds. -/
structure Timeval where
  tvSec : ℤ
  tvUsec : ℤ
  deriving DecidableEq, Repr

namespace CCSDSTime

def secondsPerDay : UInt32 := 24 * 60 * 60

def daysCcsdsToUnixEpoch : UInt32 := 4383

/-! Time code identifications, the bits 4 to 6 of the p-field. -/

def codeCcs : UInt8 := 0b101
def codeCucLevel1 : UInt8 := 0b001
def codeCds : UInt8 := 0b100

/-- The day segmented code. -/
structure CDSShort where
  pField : UInt8
  dayMSB : UInt8
  dayLSB : UInt8
  msDayHh : UInt8
  msDayH : UInt8
  msDayL : UInt8
  msDayLl : UInt8
  deriving DecidableEq, Inhabited, Repr

/-- The bytes of a code in memory. -/
def CDSShort.bytes (code : CDSShort) : List UInt8 :=
  [code.pField, code.dayMSB, code.dayLSB, code.msDayHh, code.msDayH, code.msDayL, code.msDayLl]

/-- The p-field is set even when the time does not fit. -/
def convertToCcsds (target : CDSShort) (time : Timeval) : ReturnValue × CDSShort :=
  let target := { target with pField := (codeCds <<< 4) + 0 }
  let days := UInt32.ofInt (time.tvSec.tdiv secondsPerDay.toNat + daysCcsdsToUnixEpoch.toNat)
  if days > (1 : UInt32) <<< 16 then
    (timeDoesNotFitFormat, target)
  else
    let msDay :=
      UInt32.ofInt (time.tvSec.tmod secondsPerDay.toNat * 1000 + time.tvUsec.tdiv 1000)
    (.ok, { target with
      dayMSB := ((days &&& 0xFF00) >>> 8).toUInt8
      dayLSB := (days &&& 0xFF).toUInt8
      msDayHh := ((msDay &&& 0xFF000000) >>> 24).toUInt8
      msDayH := ((msDay &&& 0xFF0000) >>> 16).toUInt8
      msDayL := ((msDay &&& 0xFF00) >>> 8).toUInt8
      msDayLl := (msDay &&& 0xFF).toUInt8 })

/-- The number of four bytes, the first one being the most significant. -/
def fourBytes (hh h l ll : UInt8) : UInt32 :=
  (hh.toUInt32 <<< 24) + (h.toUInt32 <<< 16) + (l.toUInt32 <<< 8) + ll.toUInt32

def convertFromCDS (target : Timeval) (code : CDSShort) : ReturnValue × Timeval :=
  let days : UInt16 := (code.dayMSB.toUInt16 <<< 8) + code.dayLSB.toUInt16
  if days.toUInt32 ≤ daysCcsdsToUnixEpoch then
    (invalidTimeFormat, target)
  else
    let days : UInt16 := (days.toUInt32 - daysCcsdsToUnixEpoch).toUInt16
    let msDay := fourBytes code.msDayHh code.msDayH code.msDayL code.msDayLl
    (.ok, ⟨(days.toUInt32 * secondsPerDay).toNat + (msDay / 1000).toNat,
      (msDay % 1000 * 1000).toNat⟩)

/-- What a decoder returns, the length it has found when it tells one, and the time. -/
structure Decoded where
  result : ReturnValue
  foundLength : Option ℕ
  time : Timeval
  deriving DecidableEq, Repr

/-- The length of a day segmented code, with its p-field. -/
def expectedLength (pField : UInt8) : ℕ :=
  7 + (if pField &&& 0b100 ≠ 0 then 1 else 0)
    + (if pField &&& 0b11 = 0b01 then 2 else if pField &&& 0b11 = 0b10 then 4 else 0)

/-- The days of a code in a buffer, and the bytes behind them. -/
def readDays (extendedDays : Bool) : List UInt8 → Option (UInt32 × List UInt8)
  | day₀ :: day₁ :: rest =>
      if extendedDays then
        match rest with
        | day₂ :: rest => some (fourBytes 0 day₀ day₁ day₂, rest)
        | [] => none
      else
        some (fourBytes 0 0 day₀ day₁, rest)
  | _ => none

/-- Add the parts of a millisecond.  Of the microseconds only the last byte is read. -/
def addSubMilliseconds (pField : UInt8) (time : Timeval) (rest : List UInt8) :
    Option (ReturnValue × Timeval) :=
  if pField &&& 0b11 = 0b01 then
    match rest with
    | usec₀ :: usec₁ :: _ =>
        let usecs : UInt16 := (fourBytes 0 usec₀ 0 usec₁).toUInt16
        if usecs > 999 then
          some (invalidTimeFormat, time)
        else
          some (.ok, { time with tvUsec := time.tvUsec + usecs.toNat })
    | _ => none
  else if pField &&& 0b11 = 0b10 then
    match rest with
    | pico₀ :: pico₁ :: pico₂ :: pico₃ :: _ =>
        let picosecs := fourBytes pico₀ pico₁ pico₂ pico₃
        if picosecs > 999999 then
          some (invalidTimeFormat, time)
        else
          some (.ok, { time with tvUsec := time.tvUsec + (picosecs / 1000).toNat })
    | _ => none
  else
    some (.ok, time)

/-- Decode a day segmented code in a buffer. -/
def convertFromCDSBuffer (target : Timeval) (buffer : List UInt8) (maxLength : ℕ) :
    Option Decoded :=
  match buffer with
  | [] => none
  | pField :: buffer =>
      if pField &&& 0b1000 ≠ 0 then
        some ⟨notEnoughInformationForTargetFormat, none, target⟩
      else if expectedLength pField > maxLength then
        some ⟨lengthMismatch, some (expectedLength pField), target⟩
      else
        match readDays (pField &&& 0b100 ≠ 0) buffer with
        | none => none
        | some (days, rest) =>
            if days ≤ daysCcsdsToUnixEpoch then
              some ⟨invalidTimeFormat, some (expectedLength pField), target⟩
            else
              match rest with
              | hh :: h :: l :: ll :: rest =>
                  let msDay := fourBytes hh h l ll
                  let time : Timeval :=
                    ⟨((days - daysCcsdsToUnixEpoch) * secondsPerDay).toNat + (msDay / 1000).toNat,
                      (msDay % 1000 * 1000).toNat⟩
                  (addSubMilliseconds pField time rest).map fun decoded =>
                    ⟨decoded.1, some (expectedLength pField), decoded.2⟩
              | _ => none

/-- The decoders of the other formats: the time of day in text, if there is one, with what the clock
returns when it converts it, and the calendar segmented code. -/
structure OtherFormats where
  convertFromASCII : List UInt8 → ℕ → Option (ReturnValue × Timeval)
  convertFromCCS : Timeval → List UInt8 → ℕ → Option Decoded

/-- Decode a time in any format but the unsegmented one, which would need leap seconds. -/
def convertFromCcsds (formats : OtherFormats) (target : Timeval) (buffer : List UInt8)
    (maxLength : ℕ) : Option Decoded :=
  match if maxLength ≥ 19 then formats.convertFromASCII buffer maxLength else none with
  | some (result, time) => some ⟨result, none, time⟩
  | none =>
      match buffer with
      | [] => none
      | pField :: _ =>
          let codeIdentification := pField >>> 4
          if codeIdentification = codeCucLevel1 then
            some ⟨unsupportedTimeFormat, none, target⟩
          else if codeIdentification = codeCds then
            convertFromCDSBuffer target buffer maxLength
          else if codeIdentification = codeCcs then
            formats.convertFromCCS target buffer maxLength
          else
            some ⟨unsupportedTimeFormat, none, target⟩

/-! ### Bytes and numbers -/

/-- The number of four bytes. -/
theorem toNat_fourBytes (hh h l ll : UInt8) :
  (fourBytes hh h l ll).toNat
    = hh.toNat * 2 ^ 24 + h.toNat * 2 ^ 16 + l.toNat * 2 ^ 8 + ll.toNat
  := by
  have := hh.toNat_lt
  have := h.toNat_lt
  have := l.toNat_lt
  have := ll.toNat_lt
  simp only [fourBytes, UInt32.toNat_add, UInt32.toNat_shiftLeft, UInt8.toNat_toUInt32,
    UInt32.toNat_ofNat, Nat.shiftLeft_eq, Nat.reduceMod, Nat.reducePow]
  omega

/-- A byte of a number. -/
theorem toNat_byte (n mask shift : UInt32) (hshift : shift.toNat < 32)
    (hmask : mask.toNat >>> shift.toNat = 2 ^ 8 - 1) :
  ((n &&& mask) >>> shift).toUInt8.toNat = n.toNat / 2 ^ shift.toNat % 256
  := by
  rw [UInt32.toNat_toUInt8, UInt32.toNat_shiftRight, UInt32.toNat_and, Nat.mod_eq_of_lt hshift,
    Nat.shiftRight_and_distrib, hmask, Nat.and_two_pow_sub_one_eq_mod, Nat.shiftRight_eq_div_pow]
  omega

/-- The least significant byte of a number. -/
theorem toNat_lastByte (n : UInt32) :
  (n &&& 0xFF).toUInt8.toNat = n.toNat % 256
  := by
  have hmask : (0xFF : UInt32).toNat = 2 ^ 8 - 1 := rfl
  rw [UInt32.toNat_toUInt8, UInt32.toNat_and, hmask, Nat.and_two_pow_sub_one_eq_mod]
  omega

/-- A number that is taken apart into its bytes is put together again. -/
theorem fourBytes_bytes (n : UInt32) :
  fourBytes ((n &&& 0xFF000000) >>> 24).toUInt8 ((n &&& 0xFF0000) >>> 16).toUInt8
    ((n &&& 0xFF00) >>> 8).toUInt8 (n &&& 0xFF).toUInt8 = n
  := by
  have hlt := n.toNat_lt
  apply UInt32.toNat_inj.mp
  rw [toNat_fourBytes, toNat_byte n 0xFF000000 24 (by decide) (by decide),
    toNat_byte n 0xFF0000 16 (by decide) (by decide),
    toNat_byte n 0xFF00 8 (by decide) (by decide), toNat_lastByte]
  simp only [UInt32.toNat_ofNat, Nat.reduceMod, Nat.reducePow]
  omega

/-- The two last bytes of a number. -/
theorem fourBytes_lastBytes (n : UInt32) :
  (fourBytes 0 0 ((n &&& 0xFF00) >>> 8).toUInt8 (n &&& 0xFF).toUInt8).toNat = n.toNat % 65536
  := by
  rw [toNat_fourBytes, toNat_byte n 0xFF00 8 (by decide) (by decide), toNat_lastByte]
  simp only [UInt8.toNat_ofNat, UInt32.toNat_ofNat, Nat.reduceMod, Nat.reducePow]
  omega

/-- The number of days since the beginning of 1958. -/
def daysSince1958 (time : Timeval) : ℤ :=
  time.tvSec / 86400 + 4383

/-- The days that are counted with 32 bits. -/
theorem toNat_days {time : Timeval} (hsec : 0 ≤ time.tvSec) :
  ((UInt32.ofInt (time.tvSec.tdiv secondsPerDay.toNat + daysCcsdsToUnixEpoch.toNat)).toNat : ℤ)
    = daysSince1958 time % 2 ^ 32
  := by
  have hseconds : ((secondsPerDay.toNat : ℕ) : ℤ) = 86400 := rfl
  have hepoch : ((daysCcsdsToUnixEpoch.toNat : ℕ) : ℤ) = 4383 := rfl
  rw [Int.tdiv_eq_ediv_of_nonneg hsec, UInt32.ofInt, UInt32.toNat_ofNat', hseconds, hepoch,
    daysSince1958]
  omega

/-- The milliseconds of the day. -/
theorem toNat_msDay {time : Timeval} (hsec : 0 ≤ time.tvSec) (husec : 0 ≤ time.tvUsec)
    (hlt : time.tvUsec < 1000000) :
  ((UInt32.ofInt (time.tvSec.tmod secondsPerDay.toNat * 1000 + time.tvUsec.tdiv 1000)).toNat : ℤ)
    = time.tvSec % 86400 * 1000 + time.tvUsec / 1000
  := by
  have hseconds : ((secondsPerDay.toNat : ℕ) : ℤ) = 86400 := rfl
  rw [Int.tmod_eq_emod_of_nonneg hsec, Int.tdiv_eq_ediv_of_nonneg husec, UInt32.ofInt,
    UInt32.toNat_ofNat', hseconds]
  omega

/-- The days of two bytes, counted with 16 bits. -/
theorem toUInt32_days (high low : UInt8) :
  ((high.toUInt16 <<< 8) + low.toUInt16).toUInt32 = fourBytes 0 0 high low
  := by
  have := high.toNat_lt
  have := low.toNat_lt
  apply UInt32.toNat_inj.mp
  rw [toNat_fourBytes]
  simp only [UInt16.toNat_toUInt32, UInt16.toNat_add, UInt16.toNat_shiftLeft, UInt8.toNat_toUInt16,
    UInt8.toNat_ofNat, UInt16.toNat_ofNat, Nat.shiftLeft_eq, Nat.reduceMod, Nat.reducePow]
  omega

/-- Days that are counted with 16 bits are still so after the shift of the epoch. -/
theorem toUInt32_toUInt16_sub {days : UInt32} (hlt : days.toNat < 65536)
    (hepoch : ¬ days ≤ daysCcsdsToUnixEpoch) :
  (days - daysCcsdsToUnixEpoch).toUInt16.toUInt32 = days - daysCcsdsToUnixEpoch
  := by
  have hle : daysCcsdsToUnixEpoch ≤ days := UInt32.le_of_lt (UInt32.not_le.mp hepoch)
  apply UInt32.toNat_inj.mp
  rw [UInt16.toNat_toUInt32, UInt32.toNat_toUInt16, UInt32.toNat_sub_of_le _ _ hle]
  omega

/-- The short format has no parts of a millisecond. -/
theorem addSubMilliseconds_short (time : Timeval) (rest : List UInt8) :
  addSubMilliseconds (codeCds <<< 4) time rest = some (.ok, time)
  := by
  rfl

/-- Both decoders agree about a code with the p-field of the short format. -/
theorem convertFromCDSBuffer_bytes {code : CDSShort} (hpField : code.pField = codeCds <<< 4)
    (target : Timeval) :
  convertFromCDSBuffer target code.bytes 7
    = some ⟨(convertFromCDS target code).1, some 7, (convertFromCDS target code).2⟩
  := by
  have hlt : (fourBytes 0 0 code.dayMSB code.dayLSB).toNat < 65536 := by
    have := code.dayMSB.toNat_lt
    have := code.dayLSB.toNat_lt
    rw [toNat_fourBytes, UInt8.toNat_zero]
    omega
  have hlength : expectedLength (codeCds <<< 4) = 7 := by decide
  simp only [CDSShort.bytes, convertFromCDSBuffer, hpField, hlength, convertFromCDS, toUInt32_days]
  rw [if_neg (by decide), if_neg (by decide)]
  simp only [readDays]
  rw [if_neg (by decide)]
  dsimp only
  split
  · rfl
  · rename_i hepoch
    rw [toUInt32_toUInt16_sub hlt hepoch, addSubMilliseconds_short]
    rfl

/-! ### The round trip -/

/-- The time, without the parts of a millisecond. -/
def truncated (time : Timeval) : Timeval :=
  ⟨time.tvSec, time.tvUsec / 1000 * 1000⟩

/-- A time is encoded exactly when its number of days fits into 16 bits, and then both decoders
return it truncated to milliseconds, whatever has been in the variables before. -/
structure RoundTrips (formats : OtherFormats) (time : Timeval) : Prop where
  fits : ∀ target, (convertToCcsds target time).1 = .ok ↔ daysSince1958 time < 2 ^ 16
  short : ∀ target old, (convertToCcsds target time).1 = .ok →
    convertFromCDS old (convertToCcsds target time).2 = (.ok, truncated time)
  buffer : ∀ target old, (convertToCcsds target time).1 = .ok →
    convertFromCcsds formats old (convertToCcsds target time).2.bytes 7
      = some ⟨.ok, some 7, truncated time⟩

/-- Either the day lies from the 2nd of January 1970 to the 6th of February 2106, where the seconds
do not overflow, or the number of days is too large also after it has been cut to 32 bits. -/
def Convertible (time : Timeval) : Prop :=
  4383 < daysSince1958 time ∧ daysSince1958 time < 4383 + 49711 ∨
    2 ^ 16 < daysSince1958 time % 2 ^ 32

variable {formats : OtherFormats} {target : CDSShort} {time : Timeval}

/-- A time fits when its days do, cut to 32 bits, or when they are one too many. -/
theorem convertToCcsds_ok_iff (hsec : 0 ≤ time.tvSec) :
  (convertToCcsds target time).1 = .ok ↔ daysSince1958 time % 2 ^ 32 ≤ 2 ^ 16
  := by
  have hdays := toNat_days hsec
  simp only [convertToCcsds, ← hdays, gt_iff_lt, UInt32.lt_iff_toNat_lt]
  have hlimit : ((1 : UInt32) <<< 16).toNat = 2 ^ 16 := rfl
  rw [hlimit]
  split
  · rename_i hlt
    constructor
    · rintro ⟨⟩
    · intro hle
      omega
  · rename_i hle
    constructor
    · intro _
      omega
    · intro _
      rfl

/-- What is decoded of a time that has been encoded. -/
theorem convertFromCDS_convertToCcsds (hsec : 0 ≤ time.tvSec) (husec : 0 ≤ time.tvUsec)
    (hlt : time.tvUsec < 1000000) (hok : (convertToCcsds target time).1 = .ok) (old : Timeval) :
  convertFromCDS old (convertToCcsds target time).2
    = if daysSince1958 time % 2 ^ 16 ≤ 4383 then (invalidTimeFormat, old)
      else (.ok, ⟨(daysSince1958 time % 2 ^ 16 - 4383) * 86400 % 2 ^ 32 + time.tvSec % 86400,
        time.tvUsec / 1000 * 1000⟩)
  := by
  have hdays := toNat_days hsec
  have hms := toNat_msDay hsec husec hlt
  simp only [convertToCcsds] at hok ⊢
  generalize UInt32.ofInt (time.tvSec.tdiv secondsPerDay.toNat + daysCcsdsToUnixEpoch.toNat)
    = days at hdays hok ⊢
  generalize UInt32.ofInt (time.tvSec.tmod secondsPerDay.toNat * 1000 + time.tvUsec.tdiv 1000)
    = msDay at hms ⊢
  split
  · rename_i hbeyond
    rw [if_pos hbeyond] at hok
    cases hok
  · have hlast := fourBytes_lastBytes days
    simp only [convertFromCDS, toUInt32_days, fourBytes_bytes]
    generalize fourBytes 0 0 ((days &&& 0xFF00) >>> 8).toUInt8 (days &&& 0xFF).toUInt8
      = lastDays at hlast ⊢
    have hmod : (lastDays.toNat : ℤ) = daysSince1958 time % 2 ^ 16 := by
      omega
    have hepoch : daysCcsdsToUnixEpoch.toNat = 4383 := rfl
    have hseconds : secondsPerDay.toNat = 86400 := rfl
    by_cases hle : lastDays ≤ daysCcsdsToUnixEpoch
    · rw [if_pos hle, if_pos]
      rw [UInt32.le_iff_toNat_le] at hle
      omega
    · have hsub := UInt32.toNat_sub_of_le _ _ (UInt32.le_of_lt (UInt32.not_le.mp hle))
      rw [if_neg hle, toUInt32_toUInt16_sub (by omega) hle, if_neg]
      · rw [UInt32.toNat_mul, hsub, UInt32.toNat_div, UInt32.toNat_mul, UInt32.toNat_mod]
        simp only [UInt32.toNat_ofNat, Nat.reduceMod, Nat.reducePow, hepoch, hseconds]
        have hday : (msDay.toNat / 1000 : ℤ) = time.tvSec % 86400 := by
          omega
        rw [UInt32.le_iff_toNat_le] at hle
        congr 2
        · omega
        · omega
      · rw [UInt32.le_iff_toNat_le] at hle
        omega

/-- A code of the short format is recognized. -/
theorem convertFromCcsds_bytes {code : CDSShort} (hpField : code.pField = codeCds <<< 4)
    (old : Timeval) :
  convertFromCcsds formats old code.bytes 7
    = some ⟨(convertFromCDS old code).1, some 7, (convertFromCDS old code).2⟩
  := by
  rw [← convertFromCDSBuffer_bytes hpField]
  simp only [convertFromCcsds, CDSShort.bytes, hpField]
  rfl

/-- The code of a time has the p-field of the short format. -/
theorem pField_convertToCcsds :
  (convertToCcsds target time).2.pField = codeCds <<< 4
  := by
  simp only [convertToCcsds]
  split <;> rfl

/-- The times that make the round trip are exactly the convertible ones. -/
theorem roundTrips_iff (hsec : 0 ≤ time.tvSec) (husec : 0 ≤ time.tvUsec)
    (hlt : time.tvUsec < 1000000) :
  RoundTrips formats time ↔ Convertible time
  := by
  have hpos : 4383 ≤ daysSince1958 time := by
    rw [daysSince1958]
    omega
  have hsplit : time.tvSec = (daysSince1958 time - 4383) * 86400 + time.tvSec % 86400 := by
    rw [daysSince1958]
    omega
  constructor
  · intro h
    have hfits := h.fits default
    rw [convertToCcsds_ok_iff hsec] at hfits
    by_cases hbeyond : 2 ^ 16 < daysSince1958 time % 2 ^ 32
    · right
      apply hbeyond
    · left
      have hok : (convertToCcsds default time).1 = .ok :=
        (convertToCcsds_ok_iff hsec).mpr (not_lt.mp hbeyond)
      have hdays := hfits.mp (not_lt.mp hbeyond)
      have hshort := h.short default ⟨0, 0⟩ hok
      rw [convertFromCDS_convertToCcsds hsec husec hlt hok] at hshort
      split at hshort
      · cases hshort
      · have heq := congrArg (fun decoded => decoded.2.tvSec) hshort
        simp only [truncated] at heq
        omega
  · intro h
    have hdecoded : ∀ target old, (convertToCcsds target time).1 = .ok →
        convertFromCDS old (convertToCcsds target time).2 = (.ok, truncated time) := by
      intro target old hok
      have hle := (convertToCcsds_ok_iff hsec).mp hok
      obtain ⟨hlow, hhigh⟩ | hbeyond := h
      · have hmod : daysSince1958 time % 2 ^ 16 = daysSince1958 time :=
          Int.emod_eq_of_lt (by omega) (by omega)
        rw [convertFromCDS_convertToCcsds hsec husec hlt hok, hmod, if_neg (by omega), truncated]
        congr 2
        omega
      · omega
    constructor
    · intro target
      rw [convertToCcsds_ok_iff hsec]
      obtain ⟨hlow, hhigh⟩ | hbeyond := h
      · omega
      · omega
    · apply hdecoded
    · intro target old hok
      rw [convertFromCcsds_bytes pField_convertToCcsds, hdecoded target old hok]

/-- There are no other formats. -/
def noOtherFormats : OtherFormats := ⟨fun _ _ => none, fun _ _ _ => none⟩

/-- The last second of 1999. -/
theorem roundTrips_1999 :
  RoundTrips noOtherFormats ⟨946684799, 999999⟩
  := by
  apply (roundTrips_iff (by decide) (by decide) (by decide)).mpr
  left
  decide

/-- The first day of the Unix epoch is encoded but not decoded.  A day later than the seconds with
32 bits is decoded 2^32 seconds too early, and the day 65536 is encoded with two bytes. -/
theorem not_roundTrips :
  ¬ RoundTrips noOtherFormats ⟨0, 0⟩ ∧ ¬ RoundTrips noOtherFormats ⟨49711 * 86400, 0⟩ ∧
    ¬ RoundTrips noOtherFormats ⟨61153 * 86400, 0⟩
  := by
  and_intros
  · intro h
    cases h.short default ⟨0, 0⟩ rfl
  · intro h
    cases h.short default ⟨0, 0⟩ rfl
  · intro h
    cases (h.fits default).mp rfl

end CCSDSTime
