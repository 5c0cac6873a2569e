import Fsfw.TimeManager.CCSDSTime

/-!
# Calendar segmented time codes

The calendar segmented code has the year, the month and the day, or the day of the year, and the
time of the day, with the hundredths of a second and the hundredths of these behind.

The date of a time is checked before it is encoded, and the code is checked before it is decoded.
The year is cut to two bytes, and the check of a code accepts months and days that are zero, and
days that the month does not have.  Times are encoded and decoded properly, and existing dates
decoded, exactly for years of two bytes and for codes that name a date (`calendarCodes_iff`).
-/

/-- A date, and a time of the day. -/
structure TimeOfDay where
  year : ℕ
  month : ℕ
  day : ℕ
  hour : ℕ
  minute : ℕ
  second : ℕ
  usecond : ℕ
  deriving DecidableEq, Repr

namespace CCSDSTime

def isLeapYear (year : ℕ) : Bool :=
  if year % 400 = 0 then true
  else if year % 100 = 0 then false
  else if year % 4 = 0 then true
  else false

/-- The longest day of each month. -/
def daysOfMonth (year month : ℕ) : ℕ :=
  match month with
  | 2 => if isLeapYear year then 29 else 28
  | 4 | 6 | 9 | 11 => 30
  | _ => 31

def checkTimeOfDay (time : TimeOfDay) : ReturnValue :=
  if time.month > 12 ∨ time.month = 0 then
    invalidTimeFormat
  else if time.day = 0 then
    invalidTimeFormat
  else if time.day > daysOfMonth time.year time.month then
    invalidTimeFormat
  else if time.hour > 23 then
    invalidTimeFormat
  else if time.minute > 59 then
    invalidTimeFormat
  else if time.second > 59 then
    invalidTimeFormat
  else if time.usecond > 999999 then
    invalidTimeFormat
  else
    .ok

/-- The code with whole seconds. -/
structure CcsSeconds where
  pField : UInt8
  yearMSB : UInt8
  yearLSB : UInt8
  month : UInt8
  day : UInt8
  hour : UInt8
  minute : UInt8
  second : UInt8
  deriving DecidableEq, Inhabited, Repr

/-- The code with four places behind the second. -/
structure CcsMseconds extends CcsSeconds where
  secondEminus2 : UInt8
  secondEminus4 : UInt8
  deriving DecidableEq, Inhabited, Repr

/-- The bytes of a code in memory. -/
def CcsSeconds.bytes (code : CcsSeconds) : List UInt8 :=
  [code.pField, code.yearMSB, code.yearLSB, code.month, code.day, code.hour, code.minute,
    code.second]

def CcsMseconds.bytes (code : CcsMseconds) : List UInt8 :=
  code.toCcsSeconds.bytes ++ [code.secondEminus2, code.secondEminus4]

/-- What both codes have.  The year is cut to two bytes. -/
def CcsSeconds.ofTimeOfDay (pField : UInt8) (time : TimeOfDay) : CcsSeconds where
  pField := pField
  yearMSB := UInt8.ofNat (time.year >>> 8)
  yearLSB := UInt8.ofNat (time.year &&& 0xFF)
  month := UInt8.ofNat time.month
  day := UInt8.ofNat time.day
  hour := UInt8.ofNat time.hour
  minute := UInt8.ofNat time.minute
  second := UInt8.ofNat time.second

def convertToCcsSeconds (target : CcsSeconds) (time : TimeOfDay) : ReturnValue × CcsSeconds :=
  if checkTimeOfDay time ≠ .ok then
    (checkTimeOfDay time, target)
  else
    (.ok, .ofTimeOfDay (codeCcs <<< 4) time)

def convertToCcsMseconds (target : CcsMseconds) (time : TimeOfDay) : ReturnValue × CcsMseconds :=
  if checkTimeOfDay time ≠ .ok then
    (checkTimeOfDay time, target)
  else
    (.ok, {
      CcsSeconds.ofTimeOfDay ((codeCcs <<< 4) + 2) time with
      secondEminus2 := UInt8.ofNat (time.usecond / 10000)
      secondEminus4 := UInt8.ofNat (time.usecond % 10000 / 100) })

/-- Look for the day in the months from March on, two of them at a time but for July. -/
def convertDaysFromMarch (month dayOfYear : ℕ) : Except ReturnValue (ℕ × ℕ) :=
  if month ≤ 12 then
    if dayOfYear ≤ 31 then
      .ok (month, dayOfYear)
    else if month + 1 = 8 then
      convertDaysFromMarch (month + 1) (dayOfYear - 31)
    else if dayOfYear - 31 ≤ 30 then
      .ok (month + 1, dayOfYear - 31)
    else
      convertDaysFromMarch (month + 2) (dayOfYear - 31 - 30)
  else
    .error invalidDayOfYear
  termination_by 13 - month

/-- The month and the day of a day of the year. -/
def convertDaysOfYear (dayOfYear year : ℕ) : Except ReturnValue (ℕ × ℕ) :=
  if dayOfYear > (if isLeapYear year then 366 else 365) then
    .error invalidDayOfYear
  else if dayOfYear ≤ 31 then
    .ok (1, dayOfYear)
  else if dayOfYear - 31 ≤ (if isLeapYear year then 29 else 28) then
    .ok (2, dayOfYear - 31)
  else
    convertDaysFromMarch 3 (dayOfYear - 31 - (if isLeapYear year then 29 else 28))

/-- The variation with the day of the year. -/
def isDayOfYear (pField : UInt8) : Bool :=
  pField &&& ((1 : UInt8) <<< (3 : UInt8)) ≠ 0

/-- A number of two bytes, the first one being the more significant. -/
def twoBytes (high low : UInt8) : ℕ :=
  (high.toNat <<< 8) + low.toNat

/-- The bytes behind the second are places of two digits. -/
def checkAdditionalBytes : ℕ → List UInt8 → Option ReturnValue
  | 0, _ => some .ok
  | additionalBytes + 1, additionalByte :: rest =>
      if additionalByte > 99 then some invalidTimeFormat
      else checkAdditionalBytes additionalBytes rest
  | _ + 1, [] => none

def checkCcs (time : List UInt8) (length : UInt8) : Option ReturnValue :=
  match time with
  | [] => none
  | pField :: fields =>
      let additionalBytes := (pField &&& 0b111).toNat
      if additionalBytes = 0b111 ∨ length.toNat < additionalBytes + 8 then
        some invalidTimeFormat
      else
        match fields with
        | _ :: _ :: month :: day :: hour :: minute :: second :: additional =>
            if isDayOfYear pField ∧ twoBytes month day > 366 then
              some invalidTimeFormat
            else if ¬ isDayOfYear pField ∧ month > 12 then
              some invalidTimeFormat
            else if ¬ isDayOfYear pField ∧ day > 31 then
              some invalidTimeFormat
            else if hour > 23 then
              some invalidTimeFormat
            else if minute > 59 then
              some invalidTimeFormat
            else if second > 59 then
              some invalidTimeFormat
            else
              checkAdditionalBytes additionalBytes additional
        | _ => none

/-- What the decoder returns, the length it has found when it tells one, and the time. -/
structure DecodedTimeOfDay where
  result : ReturnValue
  foundLength : Option ℕ
  time : TimeOfDay
  deriving DecidableEq, Repr

/-- Read the date of a code. -/
def readDate (pField month day : UInt8) (time : TimeOfDay) : ReturnValue × TimeOfDay :=
  if isDayOfYear pField then
    match convertDaysOfYear (twoBytes month day) time.year with
    | .ok (tempMonth, tempDay) => (.ok, { time with month := tempMonth, day := tempDay })
    | .error result => (result, time)
  else
    (.ok, { time with month := month.toNat, day := day.toNat })

/-- Read two places of two digits, when they are there.  Each of them is added to the length, which
counts them already. -/
def readSubseconds (subsecondsLength foundLength : ℕ) (time : TimeOfDay) (subseconds : List UInt8) :
    Option DecodedTimeOfDay :=
  let time := { time with usecond := 0 }
  if subsecondsLength > 0 then
    match subseconds with
    | [] => none
    | secondEminus2 :: subseconds =>
        if secondEminus2 ≥ 100 then
          some ⟨invalidTimeFormat, some (foundLength + 1), time⟩
        else
          let time := { time with usecond := secondEminus2.toNat * 10000 }
          if subsecondsLength > 1 then
            match subseconds with
            | [] => none
            | secondEminus4 :: _ =>
                if secondEminus4 ≥ 100 then
                  some ⟨invalidTimeFormat, some (foundLength + 2), time⟩
                else
                  some ⟨.ok, some (foundLength + 2),
                    { time with usecond := time.usecond + secondEminus4.toNat * 100 }⟩
          else
            some ⟨.ok, some (foundLength + 1), time⟩
  else
    some ⟨.ok, some foundLength, time⟩

/-- Decode a code in a buffer.  For the check the length is cut to one byte. -/
def convertFromCCS (target : TimeOfDay) (buffer : List UInt8) (maxLength : ℕ) :
    Option DecodedTimeOfDay :=
  match buffer with
  | [] => none
  | pField :: fields =>
      let subsecondsLength := (pField &&& 0b111).toNat
      let totalLength := subsecondsLength + 8
      if maxLength < totalLength then
        some ⟨lengthMismatch, none, target⟩
      else
        (checkCcs buffer (UInt8.ofNat maxLength)).bind fun result =>
          if result ≠ .ok then
            some ⟨result, some totalLength, target⟩
          else
            match fields with
            | yearMSB :: yearLSB :: month :: day :: hour :: minute :: second :: subseconds =>
                let time := { target with
                  year := twoBytes yearMSB yearLSB
                  hour := hour.toNat
                  minute := minute.toNat
                  second := second.toNat }
                match readDate pField month day time with
                | (.ok, time) => readSubseconds subsecondsLength totalLength time subseconds
                | (result, time) => some ⟨result, some totalLength, time⟩
            | _ => none

/-! ### Dates -/

/-- The date exists, and so does the time of the day. -/
structure IsDateAndTime (time : TimeOfDay) : Prop where
  month_pos : 0 < time.month
  month_le : time.month ≤ 12
  day_pos : 0 < time.day
  day_le : time.day ≤ daysOfMonth time.year time.month
  hour_le : time.hour ≤ 23
  minute_le : time.minute ≤ 59
  second_le : time.second ≤ 59
  usecond_le : time.usecond ≤ 999999

theorem checkTimeOfDay_eq_ok_iff {time : TimeOfDay} :
  checkTimeOfDay time = .ok ↔ IsDateAndTime time
  := by
  constructor
  · intro h
    simp only [checkTimeOfDay] at h
    repeat' split at h
    all_goals cases h
    constructor <;> omega
  · rintro ⟨hmonth, hmonth', hday, hday', hhour, hminute, hsecond, husecond⟩
    rw [checkTimeOfDay, if_neg (by omega), if_neg (by omega), if_neg (by omega), if_neg (by omega),
      if_neg (by omega), if_neg (by omega), if_neg (by omega)]

/-- The days of the year before a month. -/
def daysBefore (year : ℕ) : ℕ → ℕ
  | 0 | 1 => 0
  | month + 2 => daysBefore year (month + 1) + daysOfMonth year (month + 1)

/-- The day of the year is a day of a month. -/
def IsDayOf (year dayOfYear month day : ℕ) : Prop :=
  0 < month ∧ month ≤ 12 ∧ 0 < day ∧ day ≤ daysOfMonth year month
    ∧ daysBefore year month + day = dayOfYear

theorem daysBefore_succ (year : ℕ) {month : ℕ} (hpos : 0 < month) :
  daysBefore year (month + 1) = daysBefore year month + daysOfMonth year month
  := by
  cases month with
  | zero => cases hpos
  | succ month => rfl

/-- The months at which the loop goes on. -/
def loopMonths : List ℕ := [3, 5, 7, 8, 10, 12, 14]

theorem pos_of_mem_loopMonths {month : ℕ} (h : month ∈ loopMonths) :
  0 < month
  := by
  simp only [loopMonths, List.mem_cons, List.not_mem_nil, or_false] at h
  omega

theorem daysOfMonth_of_mem {month : ℕ} (h : month ∈ loopMonths) (year : ℕ) :
  daysOfMonth year month = 31
  := by
  simp only [loopMonths, List.mem_cons, List.not_mem_nil, or_false] at h
  rcases h with rfl | rfl | rfl | rfl | rfl | rfl | rfl <;> rfl

/-- Behind each of them but July, and December, there is a month with 30 days. -/
theorem daysOfMonth_succ_of_mem {month : ℕ} (h : month ∈ loopMonths) (hlt : month < 12)
    (hjuly : month + 1 ≠ 8) (year : ℕ) :
  daysOfMonth year (month + 1) = 30 ∧ month + 2 ∈ loopMonths
  := by
  simp only [loopMonths, List.mem_cons, List.not_mem_nil, or_false] at h
  rcases h with rfl | rfl | rfl | rfl | rfl | rfl | rfl
  all_goals first | exact ⟨rfl, by decide⟩ | omega

/-- Behind the 31st of December the year ends. -/
theorem lt_december {year month dayOfYear : ℕ} (hmonth : month ∈ loopMonths) (hle : month ≤ 12)
    (hday : ¬ dayOfYear ≤ 31)
    (hyear : daysBefore year month + dayOfYear ≤ daysBefore year 13) :
  month < 12
  := by
  apply lt_of_le_of_ne hle
  rintro rfl
  have hdays : daysBefore year 13 = daysBefore year 12 + 31 :=
    daysBefore_succ year (pos_of_mem_loopMonths hmonth)
  omega

/-- The loop finds the day before the year ends. -/
theorem convertDaysFromMarch_isDayOf (year : ℕ) {month dayOfYear : ℕ}
    (hmonth : month ∈ loopMonths) (hpos : 0 < dayOfYear)
    (hyear : daysBefore year month + dayOfYear ≤ daysBefore year 13) :
  ∃ m d, convertDaysFromMarch month dayOfYear = .ok (m, d)
    ∧ IsDayOf year (daysBefore year month + dayOfYear) m d
  := by
  induction month, dayOfYear using convertDaysFromMarch.induct with
  | case1 month dayOfYear hle hday =>
      rw [convertDaysFromMarch, if_pos hle, if_pos hday]
      refine ⟨month, dayOfYear, rfl, pos_of_mem_loopMonths hmonth, hle, hpos, ?_, rfl⟩
      rw [daysOfMonth_of_mem hmonth]
      exact hday
  | case2 month dayOfYear hle hday hjuly ih =>
      have hdays := daysBefore_succ year (pos_of_mem_loopMonths hmonth)
      rw [daysOfMonth_of_mem hmonth] at hdays
      have haugust : month + 1 ∈ loopMonths := by
        rw [hjuly]
        decide
      have hsame : daysBefore year (month + 1) + (dayOfYear - 31)
          = daysBefore year month + dayOfYear := by
        omega
      rw [convertDaysFromMarch, if_pos hle, if_neg hday, if_pos hjuly, ← hsame]
      apply ih haugust <;> omega
  | case3 month dayOfYear hle hday hjuly hshort =>
      have hlt := lt_december hmonth hle hday hyear
      have hdays := daysBefore_succ year (pos_of_mem_loopMonths hmonth)
      rw [daysOfMonth_of_mem hmonth] at hdays
      have hthirty := (daysOfMonth_succ_of_mem hmonth hlt hjuly year).1
      rw [convertDaysFromMarch, if_pos hle, if_neg hday, if_neg hjuly, if_pos hshort]
      refine ⟨month + 1, dayOfYear - 31, rfl, Nat.succ_pos month, hlt, ?_, ?_, ?_⟩
      · omega
      · rw [hthirty]
        exact hshort
      · omega
  | case4 month dayOfYear hle hday hjuly hshort ih =>
      have hlt := lt_december hmonth hle hday hyear
      have hdays := daysBefore_succ year (pos_of_mem_loopMonths hmonth)
      have hdays' : daysBefore year (month + 2)
          = daysBefore year (month + 1) + daysOfMonth year (month + 1) :=
        daysBefore_succ year (Nat.succ_pos month)
      obtain ⟨hthirty, hnext⟩ := daysOfMonth_succ_of_mem hmonth hlt hjuly year
      rw [daysOfMonth_of_mem hmonth] at hdays
      rw [hthirty, hdays] at hdays'
      have hsame : daysBefore year (month + 2) + (dayOfYear - 31 - 30)
          = daysBefore year month + dayOfYear := by
        omega
      rw [convertDaysFromMarch, if_pos hle, if_neg hday, if_neg hjuly, if_neg hshort, ← hsame]
      apply ih hnext <;> omega
  | case5 month dayOfYear hlast =>
      -- The last month is not reached.
      simp only [loopMonths, List.mem_cons, List.not_mem_nil, or_false] at hmonth
      have hmonth' : month = 14 := by omega
      have hdays : daysBefore year 14 = daysBefore year 13 + 31 := rfl
      rw [hmonth', hdays] at hyear
      omega

/-- The number of days of a year. -/
theorem daysBefore_thirteen (year : ℕ) :
  daysBefore year 13 = if isLeapYear year then 366 else 365
  := by
  have hyear : daysBefore year 13 = 31 + (if isLeapYear year then 29 else 28) + 306 := rfl
  rw [hyear]
  split <;> rfl

/-- Each day of the year is found. -/
theorem convertDaysOfYear_isDayOf {year dayOfYear : ℕ} (hpos : 0 < dayOfYear)
    (hle : dayOfYear ≤ if isLeapYear year then 366 else 365) :
  ∃ month day, convertDaysOfYear dayOfYear year = .ok (month, day)
    ∧ IsDayOf year dayOfYear month day
  := by
  have hfebruary : daysOfMonth year 2 = if isLeapYear year then 29 else 28 := rfl
  have hmarch : daysBefore year 3 = 31 + daysOfMonth year 2 := rfl
  rw [convertDaysOfYear, if_neg (Nat.not_lt.mpr hle), ← hfebruary]
  split
  · rename_i hjanuary
    exact ⟨1, dayOfYear, rfl, by decide, by decide, hpos, hjanuary, Nat.zero_add dayOfYear⟩
  · rename_i hjanuary
    split
    · rename_i hday
      refine ⟨2, dayOfYear - 31, rfl, by decide, by decide, by omega, hday, ?_⟩
      have hsecond : daysBefore year 2 = 31 := rfl
      omega
    · rename_i hday
      have hsame : daysBefore year 3 + (dayOfYear - 31 - daysOfMonth year 2) = dayOfYear := by
        omega
      have hyear : daysBefore year 3 + (dayOfYear - 31 - daysOfMonth year 2)
          ≤ daysBefore year 13 := by
        rw [hsame, daysBefore_thirteen]
        exact hle
      have hfound := convertDaysFromMarch_isDayOf year (by decide) (by omega) hyear
      rw [hsame] at hfound
      exact hfound

/-! ### Codes that are decoded -/

/-- A code whose length and fields pass the checks of the decoder. -/
structure Accepted (buffer : List UInt8) (maxLength : ℕ) : Prop where
  length : ∃ pField fields, buffer = pField :: fields ∧ (pField &&& 0b111).toNat + 8 ≤ maxLength
  checked : checkCcs buffer (UInt8.ofNat maxLength) = some .ok

/-- What the check of a code says about its fields. -/
structure Checked (pField month day hour minute second : UInt8) (additional : List UInt8) :
    Prop where
  dayOfYear_le : isDayOfYear pField → twoBytes month day ≤ 366
  month_le : ¬ isDayOfYear pField → month.toNat ≤ 12
  hour_le : hour.toNat ≤ 23
  minute_le : minute.toNat ≤ 59
  second_le : second.toNat ≤ 59
  additional : checkAdditionalBytes (pField &&& 0b111).toNat additional = some .ok

theorem checkCcs_eq_ok {time : List UInt8} {length : UInt8} (h : checkCcs time length = some .ok) :
  ∃ pField yearMSB yearLSB month day hour minute second additional,
    time = pField :: yearMSB :: yearLSB :: month :: day :: hour :: minute :: second :: additional
      ∧ Checked pField month day hour minute second additional
  := by
  match time with
  | [] => cases h
  | pField :: fields =>
      simp only [checkCcs] at h
      split at h
      · cases h
      · match fields with
        | yearMSB :: yearLSB :: month :: day :: hour :: minute :: second :: additional =>
            refine ⟨pField, yearMSB, yearLSB, month, day, hour, minute, second, additional, rfl, ?_⟩
            dsimp only at h
            split_ifs at h with hdayOfYear hmonth hday hhour hminute hsecond
            case neg =>
              constructor
              · intro hvariation
                exact Nat.not_lt.mp fun hgt => hdayOfYear ⟨hvariation, hgt⟩
              · intro hvariation
                exact UInt8.le_iff_toNat_le.mp
                  (UInt8.not_lt.mp fun hgt => hmonth ⟨hvariation, hgt⟩)
              · exact UInt8.le_iff_toNat_le.mp (UInt8.not_lt.mp hhour)
              · exact UInt8.le_iff_toNat_le.mp (UInt8.not_lt.mp hminute)
              · exact UInt8.le_iff_toNat_le.mp (UInt8.not_lt.mp hsecond)
              · exact h
            all_goals cases h

/-- The places behind the second are read as they have been checked. -/
theorem readSubseconds_eq {n : ℕ} {additional : List UInt8}
    (h : checkAdditionalBytes n additional = some .ok) (foundLength : ℕ) (time : TimeOfDay) :
  ∃ usecond ≤ 999999, readSubseconds n foundLength time additional
    = some ⟨.ok, some (foundLength + min n 2), { time with usecond }⟩
  := by
  have hdigits : ∀ {byte : UInt8}, ¬ byte > 99 → byte.toNat ≤ 99 ∧ ¬ byte ≥ 100 := by
    intro byte hbyte
    have hle := UInt8.le_iff_toNat_le.mp (UInt8.not_lt.mp hbyte)
    refine ⟨hle, fun hge => ?_⟩
    have hge' := UInt8.le_iff_toNat_le.mp hge
    have h99 : (99 : UInt8).toNat = 99 := rfl
    have h100 : (100 : UInt8).toNat = 100 := rfl
    omega
  match n, additional with
  | 0, _ => exact ⟨0, by decide, rfl⟩
  | 1, secondEminus2 :: _ =>
      rw [checkAdditionalBytes] at h
      split at h
      · cases h
      · rename_i hbyte
        obtain ⟨hle, hnot⟩ := hdigits hbyte
        refine ⟨secondEminus2.toNat * 10000, by omega, ?_⟩
        simp [readSubseconds, hnot]
  | n + 2, secondEminus2 :: additional =>
      rw [checkAdditionalBytes] at h
      split at h
      · cases h
      · rename_i hbyte
        obtain ⟨hle, hnot⟩ := hdigits hbyte
        match additional with
        | secondEminus4 :: _ =>
            rw [checkAdditionalBytes] at h
            split at h
            · cases h
            · rename_i hbyte'
              obtain ⟨hle', hnot'⟩ := hdigits hbyte'
              refine ⟨secondEminus2.toNat * 10000 + secondEminus4.toNat * 100, by omega, ?_⟩
              simp [readSubseconds, hnot, hnot']

/-- Nothing but the date of an accepted code is rejected. -/
theorem convertFromCCS_of_accepted {pField yearMSB yearLSB month day hour minute second : UInt8}
    {additional : List UInt8} {maxLength : ℕ}
    (h : Accepted (pField :: yearMSB :: yearLSB :: month :: day :: hour :: minute :: second
      :: additional) maxLength)
    (target : TimeOfDay) :
  convertFromCCS target (pField :: yearMSB :: yearLSB :: month :: day :: hour :: minute :: second
      :: additional) maxLength
    = match readDate pField month day { target with
          year := twoBytes yearMSB yearLSB
          hour := hour.toNat
          minute := minute.toNat
          second := second.toNat } with
      | (.ok, time) =>
          readSubseconds (pField &&& 0b111).toNat ((pField &&& 0b111).toNat + 8) time additional
      | (result, time) => some ⟨result, some ((pField &&& 0b111).toNat + 8), time⟩
  := by
  obtain ⟨⟨_, _, heq, hlength⟩, hchecked⟩ := h
  injection heq with hpField _
  subst hpField
  simp only [convertFromCCS, hchecked, Option.bind_some]
  rw [if_neg (Nat.not_lt.mpr hlength), if_neg (by simp)]

/-- Only accepted codes are decoded. -/
theorem accepted_of_convertFromCCS {buffer : List UInt8} {maxLength : ℕ} {target : TimeOfDay}
    {decoded : DecodedTimeOfDay} (h : convertFromCCS target buffer maxLength = some decoded)
    (hok : decoded.result = .ok) :
  Accepted buffer maxLength
  := by
  match buffer with
  | [] => cases h
  | pField :: fields =>
      simp only [convertFromCCS] at h
      split at h
      · cases h
        cases hok
      · rename_i hlength
        obtain ⟨result, hchecked, h⟩ := Option.bind_eq_some_iff.mp h
        split at h
        · rename_i hresult
          cases h
          cases hresult hok
        · rename_i hresult
          rw [ne_eq, not_not] at hresult
          subst hresult
          exact ⟨⟨pField, fields, rfl, Nat.not_lt.mp hlength⟩, hchecked⟩

/-- The decoder gives existing dates and times only. -/
def DecodesExisting (buffer : List UInt8) (maxLength : ℕ) : Prop :=
  ∀ (target : TimeOfDay) (decoded : DecodedTimeOfDay),
    convertFromCCS target buffer maxLength = some decoded → decoded.result = .ok →
      checkTimeOfDay decoded.time = .ok

/-- The day of the year is not zero, or else the month has the day. -/
def IsNamedBy (pField month day : UInt8) (year : ℕ) : Prop :=
  if isDayOfYear pField then
    0 < twoBytes month day
  else
    0 < month.toNat ∧ 0 < day.toNat ∧ day.toNat ≤ daysOfMonth year month.toNat

/-- The fields of a code name a date. -/
def NamesDate : List UInt8 → Prop
  | pField :: yearMSB :: yearLSB :: month :: day :: _ =>
      IsNamedBy pField month day (twoBytes yearMSB yearLSB)
  | _ => True

/-- The date that is read exists exactly when the fields name one. -/
theorem readDate_eq_ok {pField month day : UInt8} {time time' : TimeOfDay}
    (h : readDate pField month day time = (.ok, time'))
    (hle : ¬ isDayOfYear pField → month.toNat ≤ 12) :
  ∃ m d, time' = { time with month := m, day := d }
    ∧ ((0 < m ∧ m ≤ 12 ∧ 0 < d ∧ d ≤ daysOfMonth time.year m)
      ↔ IsNamedBy pField month day time.year)
  := by
  rw [readDate] at h
  rw [IsNamedBy]
  by_cases hvariation : isDayOfYear pField
  · rw [if_pos hvariation] at h ⊢
    by_cases hpos : 0 < twoBytes month day
    · by_cases hlast : twoBytes month day ≤ if isLeapYear time.year then 366 else 365
      · obtain ⟨m, d, hfound, hm, hm', hd, hd', -⟩ := convertDaysOfYear_isDayOf hpos hlast
        rw [hfound] at h
        cases h
        exact ⟨m, d, rfl, fun _ => hpos, fun _ => ⟨hm, hm', hd, hd'⟩⟩
      · rw [convertDaysOfYear, if_pos (Nat.not_le.mp hlast)] at h
        cases h
    · -- The day zero is taken for one of January.
      rw [convertDaysOfYear, if_neg (by split <;> omega), if_pos (by omega)] at h
      cases h
      exact ⟨1, twoBytes month day, rfl, fun hdate => hdate.2.2.1,
        fun hdate => (hpos hdate).elim⟩
  · rw [if_neg hvariation] at h ⊢
    cases h
    refine ⟨month.toNat, day.toNat, rfl, ?_, ?_⟩
    · rintro ⟨hm, -, hd, hd'⟩
      exact ⟨hm, hd, hd'⟩
    · rintro ⟨hm, hd, hd'⟩
      exact ⟨hm, hle hvariation, hd, hd'⟩

/-- The date is read unless its day of the year is behind the end of the year. -/
theorem readDate_ok_of_not_named {pField month day : UInt8} (time : TimeOfDay)
    (h : ¬ IsNamedBy pField month day time.year) :
  ∃ time', readDate pField month day time = (.ok, time')
  := by
  rw [IsNamedBy] at h
  rw [readDate]
  by_cases hvariation : isDayOfYear pField
  · rw [if_pos hvariation] at h ⊢
    rw [convertDaysOfYear, if_neg (by split <;> omega), if_pos (by omega)]
    exact ⟨_, rfl⟩
  · rw [if_neg hvariation]
    exact ⟨_, rfl⟩

theorem decodesExisting_iff (buffer : List UInt8) (maxLength : ℕ) :
  DecodesExisting buffer maxLength ↔ (Accepted buffer maxLength → NamesDate buffer)
  := by
  constructor
  · intro h haccepted
    obtain ⟨pField, yearMSB, yearLSB, month, day, hour, minute, second, additional, rfl,
      hchecked⟩ := checkCcs_eq_ok haccepted.checked
    have hdecoded := convertFromCCS_of_accepted haccepted ⟨0, 0, 0, 0, 0, 0, 0⟩
    rw [NamesDate]
    by_contra hnot
    obtain ⟨time', htime'⟩ := readDate_ok_of_not_named
      ⟨twoBytes yearMSB yearLSB, 0, 0, hour.toNat, minute.toNat, second.toNat, 0⟩ hnot
    obtain ⟨m, d, rfl, hdate⟩ := readDate_eq_ok htime' hchecked.month_le
    obtain ⟨usecond, -, hsubseconds⟩ := readSubseconds_eq hchecked.additional
      ((pField &&& 0b111).toNat + 8) ⟨twoBytes yearMSB yearLSB, m, d, hour.toNat, minute.toNat,
        second.toNat, 0⟩
    rw [htime'] at hdecoded
    dsimp only at hdecoded
    rw [hsubseconds] at hdecoded
    obtain ⟨hm, hm', hd, hd', -⟩ := checkTimeOfDay_eq_ok_iff.mp (h _ _ hdecoded rfl)
    exact hnot (hdate.mp ⟨hm, hm', hd, hd'⟩)
  · intro h target decoded hdecoded hok
    have haccepted := accepted_of_convertFromCCS hdecoded hok
    have hnamed := h haccepted
    obtain ⟨pField, yearMSB, yearLSB, month, day, hour, minute, second, additional, rfl,
      hchecked⟩ := checkCcs_eq_ok haccepted.checked
    rw [convertFromCCS_of_accepted haccepted] at hdecoded
    split at hdecoded
    · rename_i time' hread
      obtain ⟨m, d, rfl, hdate⟩ := readDate_eq_ok hread hchecked.month_le
      obtain ⟨hm, hm', hd, hd'⟩ := hdate.mpr hnamed
      obtain ⟨usecond, husecond, hsubseconds⟩ := readSubseconds_eq hchecked.additional
        ((pField &&& 0b111).toNat + 8) { target with
          year := twoBytes yearMSB yearLSB
          month := m
          day := d
          hour := hour.toNat
          minute := minute.toNat
          second := second.toNat }
      rw [hsubseconds] at hdecoded
      cases hdecoded
      exact checkTimeOfDay_eq_ok_iff.mpr ⟨hm, hm', hd, hd', hchecked.hour_le, hchecked.minute_le,
        hchecked.second_le, husecond⟩
    · rename_i result time' hresult hread
      cases hdecoded
      cases hok
      exact (hresult rfl).elim

/-! ### The round trip -/

section RoundTrip

variable {time : TimeOfDay}

theorem daysOfMonth_le (year month : ℕ) :
  daysOfMonth year month ≤ 31
  := by
  rw [daysOfMonth.eq_def]
  split
  · split <;> decide
  all_goals decide

theorem not_ofNat_gt {n : ℕ} {limit : UInt8} (h : n ≤ limit.toNat) :
  ¬ UInt8.ofNat n > limit
  := by
  have hlt := limit.toNat_lt
  rw [gt_iff_lt, UInt8.lt_iff_toNat_lt, UInt8.toNat_ofNat_of_lt' (lt_of_le_of_lt h hlt)]
  exact Nat.not_lt.mpr h

/-- The year is cut to two bytes. -/
theorem twoBytes_year (year : ℕ) :
  twoBytes (UInt8.ofNat (year >>> 8)) (UInt8.ofNat (year &&& 0xFF)) = year % 65536
  := by
  have hmask : year &&& 0xFF = year % 2 ^ 8 := Nat.and_two_pow_sub_one_eq_mod year 8
  rw [twoBytes, hmask, UInt8.toNat_ofNat', UInt8.toNat_ofNat', Nat.shiftRight_eq_div_pow,
    Nat.shiftLeft_eq]
  omega

/-- The fields of an existing date pass the check. -/
theorem checkCcs_ofTimeOfDay (h : IsDateAndTime time) {pField : UInt8}
    (hvariation : isDayOfYear pField = false) {length : UInt8}
    (hreserved : (pField &&& 0b111).toNat ≠ 0b111)
    (hlength : (pField &&& 0b111).toNat + 8 ≤ length.toNat) (additional : List UInt8) :
  checkCcs ((CcsSeconds.ofTimeOfDay pField time).bytes ++ additional) length
    = checkAdditionalBytes (pField &&& 0b111).toNat additional
  := by
  have hday : time.day ≤ (31 : UInt8).toNat := le_trans h.day_le (daysOfMonth_le _ _)
  simp only [checkCcs, CcsSeconds.bytes, CcsSeconds.ofTimeOfDay, List.cons_append, List.nil_append,
    hvariation, Bool.false_eq_true, false_and, not_false_eq_true, true_and, if_false]
  rw [if_neg (by omega), if_neg (not_ofNat_gt h.month_le), if_neg (not_ofNat_gt hday),
    if_neg (not_ofNat_gt h.hour_le), if_neg (not_ofNat_gt h.minute_le),
    if_neg (not_ofNat_gt h.second_le)]

/-- The fields of an existing date are read back. -/
theorem convertFromCCS_ofTimeOfDay (h : IsDateAndTime time) {pField : UInt8}
    (hvariation : isDayOfYear pField = false) (hreserved : (pField &&& 0b111).toNat ≠ 0b111)
    {additional : List UInt8} {maxLength : ℕ} (hmaxLength : maxLength < 256)
    (hlength : (pField &&& 0b111).toNat + 8 ≤ maxLength)
    (hadditional : checkAdditionalBytes (pField &&& 0b111).toNat additional = some .ok)
    (old : TimeOfDay) :
  convertFromCCS old ((CcsSeconds.ofTimeOfDay pField time).bytes ++ additional) maxLength
    = readSubseconds (pField &&& 0b111).toNat ((pField &&& 0b111).toNat + 8)
        { time with
          year := time.year % 65536
          usecond := old.usecond } additional
  := by
  have hchecked : checkCcs ((CcsSeconds.ofTimeOfDay pField time).bytes ++ additional)
      (UInt8.ofNat maxLength) = some .ok := by
    rw [checkCcs_ofTimeOfDay h hvariation hreserved, hadditional]
    rw [UInt8.toNat_ofNat_of_lt' hmaxLength]
    exact hlength
  have hbyte : ∀ {n : ℕ}, n ≤ 59 → (UInt8.ofNat n).toNat = n := fun hle =>
    UInt8.toNat_ofNat_of_lt' (lt_of_le_of_lt hle (by decide))
  have hmonth := hbyte (le_trans h.month_le (by decide))
  have hday := hbyte (le_trans h.day_le (le_trans (daysOfMonth_le _ _) (by decide)))
  have hhour := hbyte (le_trans h.hour_le (by decide))
  have hminute := hbyte h.minute_le
  have hsecond := hbyte h.second_le
  apply (convertFromCCS_of_accepted ⟨⟨_, _, rfl, hlength⟩, hchecked⟩ old).trans
  simp only [readDate, CcsSeconds.ofTimeOfDay, hvariation, Bool.false_eq_true, if_false,
    twoBytes_year, hmonth, hday, hhour, hminute, hsecond]
  rfl

/-- What is encoded is decoded, without the parts of 100 microseconds or of a second. -/
structure RoundTripsCalendar (time : TimeOfDay) : Prop where
  mseconds : ∀ (target : CcsMseconds) (old : TimeOfDay),
    (convertToCcsMseconds target time).1 = .ok ∧ ∃ foundLength,
      convertFromCCS old (convertToCcsMseconds target time).2.bytes
          (convertToCcsMseconds target time).2.bytes.length
        = some ⟨.ok, foundLength, { time with usecond := time.usecond / 100 * 100 }⟩
  seconds : ∀ (target : CcsSeconds) (old : TimeOfDay),
    (convertToCcsSeconds target time).1 = .ok ∧ ∃ foundLength,
      convertFromCCS old (convertToCcsSeconds target time).2.bytes
          (convertToCcsSeconds target time).2.bytes.length
        = some ⟨.ok, foundLength, { time with usecond := 0 }⟩

theorem convertFromCCS_mseconds (h : IsDateAndTime time) (old : TimeOfDay) (target : CcsMseconds) :
  convertFromCCS old (convertToCcsMseconds target time).2.bytes
      (convertToCcsMseconds target time).2.bytes.length
    = some ⟨.ok, some 12, { time with
        year := time.year % 65536
        usecond := time.usecond / 100 * 100 }⟩
  := by
  have husecond := h.usecond_le
  have hlow : (UInt8.ofNat (time.usecond / 10000)).toNat = time.usecond / 10000 :=
    UInt8.toNat_ofNat_of_lt' (show _ < 256 by omega)
  have hhigh : (UInt8.ofNat (time.usecond % 10000 / 100)).toNat = time.usecond % 10000 / 100 :=
    UInt8.toNat_ofNat_of_lt' (show _ < 256 by omega)
  have hcode : (convertToCcsMseconds target time).2.bytes
      = (CcsSeconds.ofTimeOfDay ((codeCcs <<< 4) + 2) time).bytes
        ++ [UInt8.ofNat (time.usecond / 10000), UInt8.ofNat (time.usecond % 10000 / 100)] := by
    rw [convertToCcsMseconds, if_neg (not_not.mpr (checkTimeOfDay_eq_ok_iff.mpr h))]
    rfl
  have hadditional : checkAdditionalBytes (((codeCcs <<< 4) + 2) &&& 0b111).toNat
      [UInt8.ofNat (time.usecond / 10000), UInt8.ofNat (time.usecond % 10000 / 100)]
        = some .ok := by
    have hplaces : (((codeCcs <<< 4) + 2) &&& 0b111).toNat = 2 := rfl
    have h99 : (99 : UInt8).toNat = 99 := rfl
    rw [hplaces, checkAdditionalBytes, if_neg, checkAdditionalBytes, if_neg, checkAdditionalBytes]
    · apply not_ofNat_gt
      omega
    · apply not_ofNat_gt
      omega
  rw [hcode]
  refine (convertFromCCS_ofTimeOfDay h rfl (by decide) (show 10 < 256 by decide)
    (show (((codeCcs <<< 4) + 2) &&& 0b111).toNat + 8 ≤ 10 by decide) hadditional old).trans ?_
  have hnot : ∀ {byte : UInt8}, byte.toNat < 100 → ¬ byte ≥ 100 := fun hlt hge =>
    Nat.not_le.mpr hlt (UInt8.le_iff_toNat_le.mp hge)
  change readSubseconds 2 10 _ _ = _
  simp only [readSubseconds]
  rw [if_pos (by decide), if_neg (hnot (by omega)), if_pos (by decide), if_neg (hnot (by omega)),
    hlow, hhigh]
  have hsum : time.usecond / 10000 * 10000 + time.usecond % 10000 / 100 * 100
      = time.usecond / 100 * 100 := by
    omega
  rw [hsum]

theorem convertFromCCS_seconds (h : IsDateAndTime time) (old : TimeOfDay) (target : CcsSeconds) :
  convertFromCCS old (convertToCcsSeconds target time).2.bytes
      (convertToCcsSeconds target time).2.bytes.length
    = some ⟨.ok, some 8, { time with
        year := time.year % 65536
        usecond := 0 }⟩
  := by
  have hcode : (convertToCcsSeconds target time).2 = .ofTimeOfDay (codeCcs <<< 4) time := by
    rw [convertToCcsSeconds, if_neg (not_not.mpr (checkTimeOfDay_eq_ok_iff.mpr h))]
  rw [hcode, ← List.append_nil (CcsSeconds.bytes _)]
  exact convertFromCCS_ofTimeOfDay h rfl (by decide) (show 8 < 256 by decide)
    (show ((codeCcs <<< 4) &&& 0b111).toNat + 8 ≤ 8 by decide) rfl old

/-- The year is decoded as it is when it has two bytes. -/
theorem roundTripsCalendar_iff (h : IsDateAndTime time) :
  RoundTripsCalendar time ↔ time.year < 65536
  := by
  have hcheck := checkTimeOfDay_eq_ok_iff.mpr h
  constructor
  · intro hroundTrips
    obtain ⟨-, foundLength, hdecoded⟩ := hroundTrips.seconds default ⟨0, 0, 0, 0, 0, 0, 0⟩
    rw [convertFromCCS_seconds h] at hdecoded
    injection hdecoded with hdecoded
    injection hdecoded with _ _ htime
    injection htime with hyear
    rw [← hyear]
    apply Nat.mod_lt
    decide
  · intro hyear
    have hmod := Nat.mod_eq_of_lt hyear
    constructor
    · intro target old
      constructor
      · rw [convertToCcsMseconds, if_neg (not_not.mpr hcheck)]
      · use some 12
        rw [convertFromCCS_mseconds h, hmod]
    · intro target old
      constructor
      · rw [convertToCcsSeconds, if_neg (not_not.mpr hcheck)]
      · use some 8
        rw [convertFromCCS_seconds h, hmod]

end RoundTrip

/-- Times go through their codes, and what is decoded of any bytes exists, exactly for years of two
bytes and bytes that are not accepted or name a date. -/
theorem calendarCodes_iff {time : TimeOfDay} (h : checkTimeOfDay time = .ok)
    (buffer : List UInt8) (maxLength : ℕ) :
  RoundTripsCalendar time ∧ DecodesExisting buffer maxLength
    ↔ time.year < 65536 ∧ (Accepted buffer maxLength → NamesDate buffer)
  := by
  rw [roundTripsCalendar_iff (checkTimeOfDay_eq_ok_iff.mp h), decodesExisting_iff]

/-- The last second of February 2024, and the day 60 of that year. -/
theorem calendarCodes_february :
  RoundTripsCalendar ⟨2024, 2, 29, 23, 59, 59, 999999⟩
      ∧ DecodesExisting [0x58, 0x07, 0xE8, 0, 60, 23, 59, 59] 8
    ↔ 2024 < 65536 ∧ (Accepted [0x58, 0x07, 0xE8, 0, 60, 23, 59, 59] 8
      → NamesDate [0x58, 0x07, 0xE8, 0, 60, 23, 59, 59])
  := calendarCodes_iff (show checkTimeOfDay ⟨2024, 2, 29, 23, 59, 59, 999999⟩ = .ok by decide) _ 8

/-- The year 65536 is decoded as the year 0, and a code with the day zero, or with the 30th of
February, is decoded. -/
theorem not_calendarCodes :
  (∃ time, checkTimeOfDay time = .ok ∧ ¬ RoundTripsCalendar time)
    ∧ ¬ DecodesExisting [0x50, 0x07, 0xE8, 1, 0, 0, 0, 0] 8
    ∧ ¬ DecodesExisting [0x50, 0x07, 0xE8, 2, 30, 0, 0, 0] 8
    ∧ ¬ DecodesExisting [0x58, 0x07, 0xE8, 0, 0, 0, 0, 0] 8
  := by
  and_intros
  · refine ⟨⟨65536, 1, 1, 0, 0, 0, 0⟩, by decide, fun h => ?_⟩
    have hyear := (roundTripsCalendar_iff (checkTimeOfDay_eq_ok_iff.mp (by decide))).mp h
    revert hyear
    decide
  · intro h
    cases h ⟨0, 0, 0, 0, 0, 0, 0⟩ ⟨.ok, some 8, ⟨2024, 1, 0, 0, 0, 0, 0⟩⟩ rfl rfl
  · intro h
    cases h ⟨0, 0, 0, 0, 0, 0, 0⟩ ⟨.ok, some 8, ⟨2024, 2, 30, 0, 0, 0, 0⟩⟩ rfl rfl
  · intro h
    cases h ⟨0, 0, 0, 0, 0, 0, 0⟩ ⟨.ok, some 8, ⟨2024, 1, 0, 0, 0, 0, 0⟩⟩ rfl rfl

end CCSDSTime
