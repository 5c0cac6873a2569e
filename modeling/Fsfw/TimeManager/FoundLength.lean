import Fsfw.TimeManager.CalendarCode
import Fsfw.TimeManager.TimeDecoding

/-!
# The lengths of time codes

A decoder that succeeds should tell how many octets the code has, with its p-field, so that what is
behind the code can be parsed.  The p-field determines the number.

The decoder of calendar segmented codes counts up to two octets behind the second once more, and a
code that may be read as text is not counted at all.  All other lengths are told properly
(`tellsLength_iff`).
-/

namespace CCSDSTime

/-- The number of octets of a code, with its p-field.  Reserved variants are no codes. -/
def codeLength (pField : UInt8) : Option ℕ :=
  if pField >>> 4 = codeCcs then
    if pField &&& 0b111 = 0b111 then none
    else some (1 + 7 + (pField &&& 0b111).toNat)
  else if pField >>> 4 = codeCds then
    let days := if pField &&& 0b100 = 0 then 2 else 3
    if pField &&& 0b11 = 0b00 then some (1 + days + 4)
    else if pField &&& 0b11 = 0b01 then some (1 + days + 4 + 2)
    else if pField &&& 0b11 = 0b10 then some (1 + days + 4 + 4)
    else none
  else if pField >>> 4 = codeCucLevel1 ∨ pField >>> 4 = codeCucLevel2 then
    some (1 + ((pField &&& 0b1100).toNat / 4 + 1) + (pField &&& 0b11).toNat)
  else
    none

/-- What reads times of day in text, and the conversion of the clock. -/
structure Clock where
  convertFromASCII : List UInt8 → ℕ → Option TimeOfDay
  convertTimeOfDayToTimeval : TimeOfDay → ReturnValue × Timeval

namespace Clock

variable (clock : Clock)

/-- Decode a calendar segmented code, and convert it.  What the variable for it has before does not
matter. -/
def convertFromCCS (target : Timeval) (buffer : List UInt8) (maxLength : ℕ) : Option Decoded :=
  (CCSDSTime.convertFromCCS ⟨0, 0, 0, 0, 0, 0, 0⟩ buffer maxLength).map fun decoded =>
    if decoded.result ≠ .ok then
      ⟨decoded.result, decoded.foundLength, target⟩
    else
      let (result, time) := clock.convertTimeOfDayToTimeval decoded.time
      ⟨result, decoded.foundLength, time⟩

/-- The formats of a buffer that are not segmented into days. -/
def formats : OtherFormats where
  convertFromASCII buffer maxLength :=
    (clock.convertFromASCII buffer maxLength).map clock.convertTimeOfDayToTimeval
  convertFromCCS := clock.convertFromCCS

/-- The bytes are a time in text, and are read as one. -/
def ReadsText (buffer : List UInt8) (maxLength : ℕ) : Prop :=
  19 ≤ maxLength ∧ ∃ time, clock.convertFromASCII buffer maxLength = some time
    ∧ (clock.convertTimeOfDayToTimeval time).1 = .ok

end Clock

/-- A decoder that succeeds has found this length. -/
def Finds (decoded : Option Decoded) (length : ℕ) : Prop :=
  ∀ d, decoded = some d → d.result = .ok → d.foundLength = some length

/-- All decoders of a code find its length.  Without its p-field the code is one octet shorter. -/
structure TellsLength (clock : Clock) (pField : UInt8) (fields : List UInt8)
    (maxLength length : ℕ) : Prop where
  ccsds : ∀ target,
    Finds (convertFromCcsds clock.formats target (pField :: fields) maxLength) length
  ccs : pField >>> 4 = codeCcs → ∀ target decoded,
    convertFromCCS target (pField :: fields) maxLength = some decoded → decoded.result = .ok →
      decoded.foundLength = some length
  ccsConverted : pField >>> 4 = codeCcs → ∀ target,
    Finds (clock.convertFromCCS target (pField :: fields) maxLength) length
  cds : pField >>> 4 = codeCds → ∀ target,
    Finds (convertFromCDSBuffer target (pField :: fields) maxLength) length
  cuc : pField >>> 4 = codeCucLevel1 ∨ pField >>> 4 = codeCucLevel2 → ∀ target,
    Finds (convertFromCUCBuffer target (pField :: fields) maxLength) length
  cucWithoutPField : pField >>> 4 = codeCucLevel1 ∨ pField >>> 4 = codeCucLevel2 → ∀ target,
    Finds (convertFromCUC target pField fields (maxLength - 1)) (length - 1)

/-! ### The lengths that are found -/

section

variable {pField : UInt8} {fields : List UInt8} {maxLength length : ℕ}

theorem expectedLength_eq (hcode : pField >>> 4 = codeCds)
    (hlength : codeLength pField = some length) :
  expectedLength pField = length
  := by
  have hnot : ¬ codeCds = codeCcs := by decide
  rw [codeLength, hcode, if_neg hnot, if_pos rfl] at hlength
  dsimp only at hlength
  rw [expectedLength]
  by_cases hdays : pField &&& 0b100 = 0
  · rw [if_pos hdays] at hlength
    rw [if_neg (not_not.mpr hdays)]
    split_ifs at hlength with hnone hmicro hpico
    · cases hlength
      simp [hnone]
    · cases hlength
      simp [hmicro]
    · cases hlength
      simp [hpico]
  · rw [if_neg hdays] at hlength
    rw [if_pos hdays]
    split_ifs at hlength with hnone hmicro hpico
    · cases hlength
      simp [hnone]
    · cases hlength
      simp [hmicro]
    · cases hlength
      simp [hpico]

/-- The expected length is told. -/
theorem finds_convertFromCDSBuffer (target : Timeval) :
  Finds (convertFromCDSBuffer target (pField :: fields) maxLength) (expectedLength pField)
  := by
  intro d h hok
  rw [convertFromCDSBuffer] at h
  split at h
  · cases h
    cases hok
  · split at h
    · cases h
      rfl
    · split at h
      · cases h
      · split at h
        · cases h
          rfl
        · split at h
          · obtain ⟨decoded, -, rfl⟩ := Option.map_eq_some_iff.mp h
            rfl
          · cases h

theorem finds_convertFromCUC
    (hcode : pField >>> 4 = codeCucLevel1 ∨ pField >>> 4 = codeCucLevel2)
    (hlength : codeLength pField = some length) (target : Timeval) :
  Finds (convertFromCUC target pField fields maxLength) (length - 1)
  := by
  have hccs : ¬ pField >>> 4 = codeCcs := by
    rcases hcode with hcode | hcode <;> rw [hcode] <;> decide
  have hcds : ¬ pField >>> 4 = codeCds := by
    rcases hcode with hcode | hcode <;> rw [hcode] <;> decide
  rw [codeLength, if_neg hccs, if_neg hcds, if_pos hcode] at hlength
  have hcoarse : (((pField &&& 0b1100) >>> 2) + 1).toNat = (pField &&& 0b1100).toNat / 4 + 1 := by
    have hlt := (pField &&& 0b1100).toNat_lt
    have htwo : (2 : UInt8).toNat % 8 = 2 := rfl
    have hone : (1 : UInt8).toNat = 1 := rfl
    rw [UInt8.toNat_add, UInt8.toNat_shiftRight, htwo, hone, Nat.shiftRight_eq_div_pow]
    omega
  injection hlength with hlength
  have htotal : (((pField &&& 0b1100) >>> 2) + 1).toNat + (pField &&& 0b11).toNat = length - 1 := by
    omega
  intro d h _
  rw [convertFromCUC, htotal] at h
  split at h
  · cases h
    rfl
  · obtain ⟨⟨secs, buffer⟩, -, h⟩ := Option.bind_eq_some_iff.mp h
    obtain ⟨⟨subSeconds, buffer'⟩, -, h⟩ := Option.bind_eq_some_iff.mp h
    cases h
    rfl

theorem codeLength_pos (hlength : codeLength pField = some length) :
  0 < length
  := by
  rw [codeLength] at hlength
  dsimp only at hlength
  split_ifs at hlength
  all_goals
    injection hlength with hlength
    omega

theorem finds_convertFromCUCBuffer
    (hcode : pField >>> 4 = codeCucLevel1 ∨ pField >>> 4 = codeCucLevel2)
    (hlength : codeLength pField = some length) (target : Timeval) :
  Finds (convertFromCUCBuffer target (pField :: fields) maxLength) length
  := by
  intro d h hok
  rw [convertFromCUCBuffer] at h
  split at h
  · cases h
    cases hok
  · obtain ⟨decoded, hdecoded, rfl⟩ := Option.map_eq_some_iff.mp h
    split at hok
    · rename_i hok'
      rw [if_pos hok']
      have hfound := finds_convertFromCUC hcode hlength target decoded hdecoded hok'
      have hpos := codeLength_pos hlength
      rw [hfound, Option.map_some, Nat.sub_add_cancel hpos]
    · rename_i hnot
      cases hnot hok

/-- The bytes are accepted as a calendar segmented code, and the year has the day. -/
def IsDecoded (buffer : List UInt8) (maxLength : ℕ) : Prop :=
  Accepted buffer maxLength ∧
    match buffer with
    | pField :: yearMSB :: yearLSB :: month :: day :: _ =>
        isDayOfYear pField →
          twoBytes month day ≤ if isLeapYear (twoBytes yearMSB yearLSB) then 366 else 365
    | _ => True

theorem readDate_eq_ok_iff {pField month day : UInt8} {time : TimeOfDay} :
  (readDate pField month day time).1 = .ok ↔
    (isDayOfYear pField →
      twoBytes month day ≤ if isLeapYear time.year then 366 else 365)
  := by
  rw [readDate]
  by_cases hvariation : isDayOfYear pField
  · rw [if_pos hvariation]
    by_cases hlast : twoBytes month day ≤ if isLeapYear time.year then 366 else 365
    · have hfound : ∃ date, convertDaysOfYear (twoBytes month day) time.year = .ok date := by
        rcases Nat.eq_zero_or_pos (twoBytes month day) with hzero | hpos
        · rw [convertDaysOfYear, if_neg (Nat.not_lt.mpr hlast), if_pos (by omega)]
          exact ⟨_, rfl⟩
        · obtain ⟨m, d, hfound, -⟩ := convertDaysOfYear_isDayOf hpos hlast
          exact ⟨_, hfound⟩
      obtain ⟨date, hfound⟩ := hfound
      rw [hfound]
      exact ⟨fun _ _ => hlast, fun _ => rfl⟩
    · rw [convertDaysOfYear, if_pos (Nat.not_le.mp hlast)]
      constructor
      · intro h
        cases h
      · intro h
        cases hlast (h hvariation)
  · rw [if_neg hvariation]
    exact ⟨fun _ h => (hvariation h).elim, fun _ => rfl⟩

/-- Up to two octets are counted twice. -/
theorem convertFromCCS_of_isDecoded (h : IsDecoded (pField :: fields) maxLength)
    (target : TimeOfDay) :
  ∃ time, convertFromCCS target (pField :: fields) maxLength
    = some ⟨.ok, some ((pField &&& 0b111).toNat + 8 + min (pField &&& 0b111).toNat 2), time⟩
  := by
  obtain ⟨haccepted, hday⟩ := h
  obtain ⟨_, yearMSB, yearLSB, month, day, hour, minute, second, additional, heq, hchecked⟩ :=
    checkCcs_eq_ok haccepted.checked
  injection heq with hpField hfields
  subst hpField hfields
  have hread : (readDate pField month day { target with
      year := twoBytes yearMSB yearLSB
      hour := hour.toNat
      minute := minute.toNat
      second := second.toNat }).1 = .ok := readDate_eq_ok_iff.mpr hday
  rw [convertFromCCS_of_accepted haccepted]
  split
  · obtain ⟨usecond, -, hsubseconds⟩ := readSubseconds_eq hchecked.additional
      ((pField &&& 0b111).toNat + 8) ‹TimeOfDay›
    rw [hsubseconds]
    exact ⟨_, rfl⟩
  · rename_i result time hresult heq
    rw [heq] at hread
    cases hresult hread

theorem isDecoded_of_convertFromCCS {target : TimeOfDay} {decoded : DecodedTimeOfDay}
    (h : convertFromCCS target (pField :: fields) maxLength = some decoded)
    (hok : decoded.result = .ok) :
  IsDecoded (pField :: fields) maxLength
  := by
  have haccepted := accepted_of_convertFromCCS h hok
  use haccepted
  obtain ⟨_, yearMSB, yearLSB, month, day, hour, minute, second, additional, heq, hchecked⟩ :=
    checkCcs_eq_ok haccepted.checked
  injection heq with hpField hfields
  subst hpField hfields
  rw [convertFromCCS_of_accepted haccepted] at h
  split at h
  · rename_i time hread
    exact readDate_eq_ok_iff.mp (congrArg Prod.fst hread)
  · rename_i result time hresult hread
    cases h
    cases hresult hok

/-- The length of an accepted calendar segmented code is found when it has whole seconds. -/
theorem finds_convertFromCCS_iff (hcode : pField >>> 4 = codeCcs)
    (hlength : codeLength pField = some length) :
  (∀ target decoded, convertFromCCS target (pField :: fields) maxLength = some decoded →
      decoded.result = .ok → decoded.foundLength = some length)
    ↔ pField &&& 0b111 = 0 ∨ ¬ IsDecoded (pField :: fields) maxLength
  := by
  have hplaces : length = 1 + 7 + (pField &&& 0b111).toNat := by
    rw [codeLength, if_pos hcode] at hlength
    split at hlength
    · cases hlength
    · injection hlength with hlength
      exact hlength.symm
  constructor
  · intro h
    by_contra hnot
    obtain ⟨hpart, hdecoded⟩ := not_or.mp hnot
    obtain ⟨time, htime⟩ := convertFromCCS_of_isDecoded (not_not.mp hdecoded) ⟨0, 0, 0, 0, 0, 0, 0⟩
    have hfound := h _ _ htime rfl
    injection hfound with hfound
    apply hpart
    apply UInt8.toNat_inj.mp
    rw [UInt8.toNat_zero]
    omega
  · rintro h target decoded hdecoded hok
    have hisDecoded := isDecoded_of_convertFromCCS hdecoded hok
    have hpart := h.resolve_right (not_not.mpr hisDecoded)
    obtain ⟨time, htime⟩ := convertFromCCS_of_isDecoded hisDecoded target
    rw [htime] at hdecoded
    cases hdecoded
    rw [hplaces, hpart]
    rfl

theorem finds_converted (clock : Clock)
    (h : ∀ target decoded, convertFromCCS target (pField :: fields) maxLength = some decoded →
      decoded.result = .ok → decoded.foundLength = some length) (target : Timeval) :
  Finds (clock.convertFromCCS target (pField :: fields) maxLength) length
  := by
  intro d hd hok
  obtain ⟨decoded, hdecoded, rfl⟩ := Option.map_eq_some_iff.mp hd
  split at hok
  · rename_i hnot
    cases hnot hok
  · rename_i hok'
    rw [if_neg hok']
    exact h _ decoded hdecoded (not_not.mp hok')

/-- A time that is read as text has no length. -/
theorem convertFromCcsds_of_readsText {clock : Clock} {buffer : List UInt8}
    (h : clock.ReadsText buffer maxLength) (target : Timeval) :
  ∃ time, convertFromCcsds clock.formats target buffer maxLength = some ⟨.ok, none, time⟩
  := by
  obtain ⟨hlong, time, htext, hok⟩ := h
  use (clock.convertTimeOfDayToTimeval time).2
  have hformats : clock.formats.convertFromASCII buffer maxLength
      = some (clock.convertTimeOfDayToTimeval time) := by
    simp only [Clock.formats, htext, Option.map_some]
  rw [convertFromCcsds.eq_def, if_pos hlong, hformats]
  dsimp only
  rw [hok]

/-- A code that is not read as text goes to its own decoder. -/
theorem finds_convertFromCcsds (clock : Clock)
    (htext : ¬ clock.ReadsText (pField :: fields) maxLength)
    (hccs : pField >>> 4 = codeCcs → ∀ target,
      Finds (clock.convertFromCCS target (pField :: fields) maxLength) length)
    (hcds : pField >>> 4 = codeCds → ∀ target,
      Finds (convertFromCDSBuffer target (pField :: fields) maxLength) length)
    (target : Timeval) :
  Finds (convertFromCcsds clock.formats target (pField :: fields) maxLength) length
  := by
  intro d h hok
  rw [convertFromCcsds] at h
  split at h
  · rename_i result time hread
    cases h
    split at hread
    · rename_i hlong
      obtain ⟨timeOfDay, htimeOfDay, hconverted⟩ := Option.map_eq_some_iff.mp hread
      cases htext ⟨hlong, timeOfDay, htimeOfDay, (congrArg Prod.fst hconverted).trans hok⟩
    · cases hread
  · dsimp only at h
    split at h
    · cases h
      cases hok
    · split at h
      · rename_i hcode
        exact hcds hcode target d h hok
      · split at h
        · rename_i hcode
          exact hccs hcode target d h hok
        · cases h
          cases hok

end

/-- The length of a code is told exactly when it is not read as text, and when it is no calendar
segmented code with places behind the second that is decoded. -/
theorem tellsLength_iff (clock : Clock) {pField : UInt8} {length : ℕ}
    (hlength : codeLength pField = some length) (fields : List UInt8) (maxLength : ℕ) :
  TellsLength clock pField fields maxLength length
    ↔ ¬ clock.ReadsText (pField :: fields) maxLength
      ∧ (pField >>> 4 = codeCcs → pField &&& 0b111 = 0 ∨ ¬ IsDecoded (pField :: fields) maxLength)
  := by
  constructor
  · intro h
    constructor
    · intro htext
      obtain ⟨time, htime⟩ := convertFromCcsds_of_readsText htext ⟨0, 0⟩
      cases h.ccsds ⟨0, 0⟩ _ htime rfl
    · intro hcode
      exact (finds_convertFromCCS_iff hcode hlength).mp (h.ccs hcode)
  · rintro ⟨htext, hplaces⟩
    have hccs : pField >>> 4 = codeCcs → ∀ target,
        Finds (clock.convertFromCCS target (pField :: fields) maxLength) length := fun hcode =>
      finds_converted clock ((finds_convertFromCCS_iff hcode hlength).mpr (hplaces hcode))
    have hcds : pField >>> 4 = codeCds → ∀ target,
        Finds (convertFromCDSBuffer target (pField :: fields) maxLength) length := by
      intro hcode target
      rw [← expectedLength_eq hcode hlength]
      exact finds_convertFromCDSBuffer target
    exact {
      ccsds := finds_convertFromCcsds clock htext hccs hcds
      ccs := fun hcode => (finds_convertFromCCS_iff hcode hlength).mpr (hplaces hcode)
      ccsConverted := hccs
      cds := hcds
      cuc := fun hcode => finds_convertFromCUCBuffer hcode hlength
      cucWithoutPField := fun hcode => finds_convertFromCUC hcode hlength }

/-- Nothing is read as text, and all times are converted. -/
def noText : Clock where
  convertFromASCII _ _ := none
  convertTimeOfDayToTimeval _ := (.ok, ⟨0, 0⟩)

/-- A day segmented code with three bytes for the days, and one more byte behind it. -/
theorem tellsLength_iff_cds :
  TellsLength noText 0x44 [0, 0x58, 0xB0, 0, 0, 0, 0, 0xFF] 9 8
    ↔ ¬ noText.ReadsText [0x44, 0, 0x58, 0xB0, 0, 0, 0, 0, 0xFF] 9
      ∧ ((0x44 : UInt8) >>> 4 = codeCcs → (0x44 : UInt8) &&& 0b111 = 0
        ∨ ¬ IsDecoded [0x44, 0, 0x58, 0xB0, 0, 0, 0, 0, 0xFF] 9)
  := tellsLength_iff noText (by decide) _ 9

/-- A calendar segmented code of ten octets is found to have twelve. -/
theorem not_tellsLength :
  codeLength 0x52 = some 10
    ∧ ¬ TellsLength noText 0x52 [0x07, 0xE8, 2, 29, 13, 24, 45, 12, 34] 10 10
  := by
  use rfl
  intro h
  cases h.ccs rfl ⟨0, 0, 0, 0, 0, 0, 0⟩ ⟨.ok, some 12, ⟨2024, 2, 29, 13, 24, 45, 123400⟩⟩ rfl rfl

end CCSDSTime
