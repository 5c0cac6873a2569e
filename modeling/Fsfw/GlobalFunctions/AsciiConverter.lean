import Fsfw.Library.Digits
import Fsfw.Library.Memory
import Fsfw.ReturnValues

/-!
# Printing integers

`printInteger` prints the digits of a number into a buffer, the most significant one first.  It
divides by a power of ten, which it takes from the length of the buffer, and then by the powers
below it, and leaves out the leading zeros unless they are wanted.  `printSignedInteger` prints a
sign first, and the number behind it.

The buffer is an address in the memory, and the characters are stored from there on.  The powers of
ten are computed with floating point numbers, exactly as far as they are needed.

Both print exactly the decimal representation, whenever it fits into the buffer, and nothing behind
the end of the buffer (`AsciiConverter.prints_integers`).
-/

namespace AsciiConverter

open Digits

/-- What has been printed: the memory, and the number of characters. -/
structure Output where
  memory : ℕ → UInt8
  printedSize : UInt32 := 0

/-- Store a character behind those that have been printed. -/
def Output.put (p : Output) (buffer : ℕ) (character : UInt8) : Output where
  memory := Memory.overwrite p.memory (buffer + p.printedSize.toNat) [character]
  printedSize := p.printedSize + 1

/-- The loop over the digits.  Zeros are printed from the first digit on that is not zero. -/
def printDigits (buffer : ℕ) (value maximumNumber : UInt32) (leadingZeros : Bool) (p : Output) :
    Output :=
  if h : 1 ≤ maximumNumber then
    let number := (value / maximumNumber).toUInt8
    let rest := value - number.toUInt32 * maximumNumber
    if ! leadingZeros && number == 0 then
      printDigits buffer rest (maximumNumber / 10) leadingZeros p
    else
      printDigits buffer rest (maximumNumber / 10) true (p.put buffer (0x30 + number))
  else
    p
termination_by maximumNumber.toNat
decreasing_by
  all_goals
    have hpos : 1 ≤ maximumNumber.toNat := UInt32.le_iff_toNat_le.mp h
    rw [UInt32.toNat_div]
    apply Nat.div_lt_self hpos
    decide

/-- Print a number that has no more digits than its first power of ten. -/
def printValue (buffer : ℕ) (value maximumNumber : UInt32) (leadingZeros : Bool) (p : Output) :
    ReturnValue × Output :=
  if ! leadingZeros && value == 0 then
    (.ok, p.put buffer 0x30)
  else
    (.ok, printDigits buffer value maximumNumber leadingZeros p)

def printInteger (memory : ℕ → UInt8) (buffer : ℕ) (bufferLength value : UInt32)
    (leadingZeros : Bool) : ReturnValue × Output :=
  if bufferLength = 0 then
    (bufferTooSmall, { memory })
  else if bufferLength < 10 then
    let maximumNumber := UInt32.ofNat (10 ^ bufferLength.toNat)
    if maximumNumber ≤ value then
      (bufferTooSmall, { memory })
    else
      printValue buffer value (maximumNumber / 10) leadingZeros { memory }
  else
    -- The largest number of all.
    let maximumNumber : UInt32 := -1
    if ¬ value ≤ maximumNumber then
      (bufferTooSmall, { memory })
    else
      printValue buffer value 1000000000 leadingZeros { memory }

-- The negation wraps, and its result is taken as an unsigned number.
def printSignedInteger (memory : ℕ → UInt8) (buffer : ℕ) (bufferLength : UInt32) (value : Int32) :
    ReturnValue × Output :=
  if 0 < bufferLength ∧ value < 0 then
    let (result, p) := printInteger (Memory.overwrite memory buffer [0x2D]) (buffer + 1)
      (bufferLength - 1) (-value).toUInt32 false
    (result, { p with printedSize := p.printedSize + 1 })
  else
    printInteger memory buffer bufferLength value.toUInt32 false

/-! ### The decimal representation -/

/-- The character of a digit. -/
def character (digit : ℕ) : UInt8 :=
  0x30 + UInt8.ofNat digit

/-- The decimal representation of a number. -/
def decimal (value : ℕ) : List UInt8 :=
  if value = 0 then [0x30] else (places 10 value).map character

/-- The decimal representation of a number with its sign. -/
def signedDecimal (value : ℤ) : List UInt8 :=
  if value < 0 then 0x2D :: decimal value.natAbs else decimal value.natAbs

/-- The decimal representation with zeros in front of it, up to ten digits or the length of the
buffer. -/
def withLeadingZeros (bufferLength : UInt32) (representation : List UInt8) : List UInt8 :=
  List.replicate (min bufferLength.toNat 10 - representation.length) 0x30 ++ representation

/-- A number is printed exactly when its representation fits into the buffer.  Then the characters
`text` are found there, and their number is returned.  Other cells of the memory do not change, and
in no case those in front of the buffer or behind its end. -/
structure Prints (memory : ℕ → UInt8) (buffer : ℕ) (bufferLength : UInt32)
    (representation text : List UInt8) (answer : ReturnValue × Output) : Prop where
  ok_iff : answer.1 = .ok ↔ representation.length ≤ bufferLength.toNat
  printed : answer.1 = .ok → answer.2.memory = Memory.overwrite memory buffer text
  printedSize : answer.1 = .ok → answer.2.printedSize.toNat = text.length
  bounded : ∀ i, i < buffer ∨ buffer + bufferLength.toNat ≤ i → answer.2.memory i = memory i

/-! ### The loop over the digits -/

section

variable {buffer n : ℕ} {value maximumNumber : UInt32} {p : Output}

/-- Store some characters one after another. -/
def Output.puts (p : Output) (buffer : ℕ) (characters : List UInt8) : Output :=
  characters.foldl (fun p character => p.put buffer character) p

@[simp]
theorem Output.puts_nil (p : Output) (buffer : ℕ) :
  p.puts buffer [] = p
  := rfl

@[simp]
theorem Output.puts_cons (p : Output) (buffer : ℕ) (character : UInt8) (characters : List UInt8) :
  p.puts buffer (character :: characters) = (p.put buffer character).puts buffer characters
  := rfl

/-- The first digit, when the number has at most one more digit than the power of ten. -/
theorem toNat_number (hmax : maximumNumber.toNat = 10 ^ n) (hvalue : value.toNat < 10 ^ (n + 1)) :
  (value / maximumNumber).toUInt8.toNat = value.toNat / 10 ^ n
  := by
  have hlt : value.toNat / 10 ^ n < 10 := by
    apply Nat.div_lt_of_lt_mul
    rwa [← Nat.pow_succ]
  rw [UInt32.toNat_toUInt8, UInt32.toNat_div, hmax]
  apply Nat.mod_eq_of_lt
  omega

/-- What is left is the remainder. -/
theorem toNat_rest (hmax : maximumNumber.toNat = 10 ^ n) (hvalue : value.toNat < 10 ^ (n + 1)) :
  (value - (value / maximumNumber).toUInt8.toUInt32 * maximumNumber).toNat = value.toNat % 10 ^ n
  := by
  have hnumber := toNat_number hmax hvalue
  have hmul : value.toNat / 10 ^ n * 10 ^ n ≤ value.toNat := Nat.div_mul_le_self _ _
  have hproduct : ((value / maximumNumber).toUInt8.toUInt32 * maximumNumber).toNat
      = value.toNat / 10 ^ n * 10 ^ n := by
    rw [UInt32.toNat_mul, UInt8.toNat_toUInt32, hnumber, hmax]
    apply Nat.mod_eq_of_lt
    apply lt_of_le_of_lt hmul value.toNat_lt
  have hle : (value / maximumNumber).toUInt8.toUInt32 * maximumNumber ≤ value := by
    rw [UInt32.le_iff_toNat_le, hproduct]
    exact hmul
  rw [UInt32.toNat_sub_of_le _ _ hle, hproduct, Nat.mod_eq_sub_div_mul]

theorem character_number (hmax : maximumNumber.toNat = 10 ^ n)
    (hvalue : value.toNat < 10 ^ (n + 1)) :
  0x30 + (value / maximumNumber).toUInt8 = character (value.toNat / 10 ^ n)
  := by
  rw [character, ← toNat_number hmax hvalue, UInt8.ofNat_toNat]

theorem toNat_div_ten (hmax : maximumNumber.toNat = 10 ^ n) :
  (maximumNumber / 10).toNat = 10 ^ n / 10
  := by
  rw [UInt32.toNat_div, hmax]
  rfl

theorem one_le_of_toNat_eq (hmax : maximumNumber.toNat = 10 ^ n) :
  1 ≤ maximumNumber
  := by
  rw [UInt32.le_iff_toNat_le, hmax]
  apply Nat.one_le_pow
  decide

/-- Below the last digit, nothing is printed. -/
theorem printDigits_done {leadingZeros : Bool} (hmax : maximumNumber.toNat = 10 ^ 0 / 10) :
  printDigits buffer value maximumNumber leadingZeros p = p
  := by
  have hnot : ¬ 1 ≤ maximumNumber := by
    rw [UInt32.le_iff_toNat_le, hmax]
    decide
  rw [printDigits, dif_neg hnot]

/-- With leading zeros, all digits are printed. -/
theorem printDigits_of_leading (hmax : maximumNumber.toNat = 10 ^ n / 10)
    (hvalue : value.toNat < 10 ^ n) :
  printDigits buffer value maximumNumber true p
    = p.puts buffer ((padded 10 n value.toNat).map character)
  := by
  induction n generalizing value maximumNumber p with
  | zero =>
      have hzero : value.toNat = 0 := by simpa using hvalue
      rw [printDigits_done hmax, hzero, padded]
      simp
  | succ n ih =>
      rw [Nat.pow_succ, Nat.mul_div_cancel _ (by decide)] at hmax
      have hrest := toNat_rest hmax hvalue
      have hlt : value.toNat % 10 ^ n < 10 ^ n := by
        apply Nat.mod_lt
        apply Nat.pow_pos
        decide
      rw [printDigits, dif_pos (one_le_of_toNat_eq hmax), padded_succ (by decide) hvalue]
      simp only [Bool.not_true, Bool.false_and, Bool.false_eq_true, if_false, List.map_cons,
        Output.puts_cons]
      rw [ih (toNat_div_ten hmax) (by rwa [hrest]), hrest, character_number hmax hvalue]

/-- Without leading zeros, the digits from the first one on are printed that is not zero. -/
theorem printDigits_of_not_leading (hmax : maximumNumber.toNat = 10 ^ n / 10)
    (hvalue : value.toNat < 10 ^ n) :
  printDigits buffer value maximumNumber false p
    = p.puts buffer ((places 10 value.toNat).map character)
  := by
  induction n generalizing value maximumNumber p with
  | zero =>
      have hzero : value.toNat = 0 := by simpa using hvalue
      rw [printDigits_done hmax, hzero, places_zero]
      simp
  | succ n ih =>
      rw [Nat.pow_succ, Nat.mul_div_cancel _ (by decide)] at hmax
      have hrest := toNat_rest hmax hvalue
      have hnumber := toNat_number hmax hvalue
      have hlt : value.toNat % 10 ^ n < 10 ^ n := by
        apply Nat.mod_lt
        apply Nat.pow_pos
        decide
      rw [printDigits, dif_pos (one_le_of_toNat_eq hmax)]
      by_cases hzero : value.toNat / 10 ^ n = 0
      · have hnone : (value / maximumNumber).toUInt8 = 0 := by
          apply UInt8.toNat_inj.mp
          rw [hnumber, hzero]
          rfl
        have hmod : value.toNat % 10 ^ n = value.toNat := by
          rw [Nat.mod_eq_sub_div_mul, hzero, Nat.zero_mul, Nat.sub_zero]
        simp only [hnone, Bool.not_false, beq_self_eq_true, Bool.and_self, if_true]
        rw [hnone] at hrest
        rw [ih (toNat_div_ten hmax) (by rwa [hrest]), hrest, hmod]
      · have hsome : ((value / maximumNumber).toUInt8 == 0) = false := by
          rw [beq_eq_false_iff_ne]
          intro h
          rw [h] at hnumber
          apply hzero hnumber.symm
        simp only [hsome, Bool.and_false, Bool.false_eq_true, if_false]
        rw [printDigits_of_leading (toNat_div_ten hmax) (by rwa [hrest]), hrest,
          character_number hmax hvalue, places_eq_cons (by decide) hzero hvalue, List.map_cons,
          Output.puts_cons]

end

/-! ### The text -/

section

variable {memory : ℕ → UInt8} {buffer n v : ℕ} {bufferLength : UInt32}
  {representation text : List UInt8}

/-- The characters are stored behind those that have been printed. -/
theorem puts_eq (buffer : ℕ) {p : Output} {characters : List UInt8}
    (h : p.printedSize.toNat + characters.length < 2 ^ 32) :
  (p.puts buffer characters).memory
      = Memory.overwrite p.memory (buffer + p.printedSize.toNat) characters
    ∧ (p.puts buffer characters).printedSize.toNat = p.printedSize.toNat + characters.length
  := by
  induction characters generalizing p with
  | nil => simp
  | cons character characters ih =>
      rw [List.length_cons] at h
      have hsize : (p.put buffer character).printedSize.toNat = p.printedSize.toNat + 1 := by
        rw [Output.put, UInt32.toNat_add]
        apply Nat.mod_eq_of_lt
        rw [UInt32.toNat_one]
        omega
      obtain ⟨hmemory, hprinted⟩ := ih (p := p.put buffer character) (by omega)
      rw [Output.puts_cons, hmemory, hprinted, hsize]
      constructor
      · rw [← List.singleton_append, Memory.overwrite_append, List.length_singleton, Nat.add_assoc]
        rfl
      · rw [List.length_cons]
        omega

theorem length_decimal (v : ℕ) :
  (decimal v).length = max 1 (places 10 v).length
  := by
  rw [decimal]
  split
  · rename_i hzero
    rw [hzero, places_zero]
    rfl
  · rename_i hne
    rw [List.length_map, Nat.max_eq_right (length_places_pos 10 hne)]

/-- How many digits a number has. -/
theorem length_decimal_le_iff (hn : 0 < n) :
  (decimal v).length ≤ n ↔ v < 10 ^ n
  := by
  rw [length_decimal, ← length_places_le_iff (by decide)]
  omega

/-- The digits with zeros in front of them. -/
theorem map_padded (hn : 0 < n) (v : ℕ) :
  (padded 10 n v).map character
    = List.replicate (n - (decimal v).length) 0x30 ++ decimal v
  := by
  have hzero : character 0 = 0x30 := rfl
  rw [padded, List.map_append, List.map_replicate, hzero, length_decimal, decimal]
  split
  · rename_i hv
    rw [hv, places_zero]
    simp only [List.length_nil, List.map_nil, List.append_nil, Nat.sub_zero]
    rw [← List.replicate_succ', Nat.max_eq_left (Nat.zero_le 1), Nat.sub_add_cancel hn]
  · rename_i hv
    rw [Nat.max_eq_right (length_places_pos 10 hv)]

/-- A text that fits into the buffer has been printed. -/
theorem prints_puts (hrepresentation : representation.length ≤ bufferLength.toNat)
    (htext : text.length ≤ bufferLength.toNat) :
  Prints memory buffer bufferLength representation text
    (.ok, ({ memory } : Output).puts buffer text)
  := by
  have hlt := bufferLength.toNat_lt
  have hbound : ({ memory } : Output).printedSize.toNat + text.length < 2 ^ 32 := by
    rw [UInt32.toNat_zero]
    omega
  obtain ⟨hmemory, hsize⟩ := puts_eq buffer hbound
  rw [UInt32.toNat_zero] at hmemory hsize
  constructor
  · simp only [true_iff]
    exact hrepresentation
  · intro _
    exact hmemory
  · intro _
    rw [hsize, Nat.zero_add]
  · intro i hi
    rw [hmemory]
    rcases hi with hi | hi
    · apply Memory.overwrite_of_lt hi
    · apply Memory.overwrite_of_ge
      rw [Nat.add_zero]
      omega

/-- Nothing is printed when the representation does not fit. -/
theorem prints_nothing (h : bufferLength.toNat < representation.length) :
  Prints memory buffer bufferLength representation text (bufferTooSmall, { memory })
  := by
  constructor
  · simp only [reduceCtorEq, false_iff]
    omega
  · intro hok
    cases hok
  · intro hok
    cases hok
  · intro i _
    rfl

theorem prints_printValue {value maximumNumber : UInt32} (hn : 0 < n)
    (hmin : min bufferLength.toNat 10 = n) (hmax : maximumNumber.toNat = 10 ^ n / 10)
    (hvalue : value.toNat < 10 ^ n) (leadingZeros : Bool) :
  Prints memory buffer bufferLength (decimal value.toNat)
    (if leadingZeros then withLeadingZeros bufferLength (decimal value.toNat)
      else decimal value.toNat)
    (printValue buffer value maximumNumber leadingZeros { memory })
  := by
  have hlength := (length_decimal_le_iff hn).mpr hvalue
  rw [printValue]
  cases leadingZeros with
  | true =>
      simp only [Bool.not_true, Bool.false_and, Bool.false_eq_true, if_false, if_true]
      rw [printDigits_of_leading hmax hvalue, map_padded hn, withLeadingZeros, hmin]
      apply prints_puts
      · omega
      · rw [List.length_append, List.length_replicate]
        omega
  | false =>
      simp only [Bool.not_false, Bool.true_and, beq_iff_eq, Bool.false_eq_true, if_false]
      by_cases hzero : value = 0
      · rw [if_pos hzero, hzero]
        rw [hzero] at hlength
        have hfits : (decimal 0).length ≤ bufferLength.toNat := hlength.trans (by omega)
        exact prints_puts hfits hfits
      · have hne : value.toNat ≠ 0 := fun h => hzero (UInt32.toNat_inj.mp h)
        rw [if_neg hzero, printDigits_of_not_leading hmax hvalue]
        have hdecimal : decimal value.toNat = (places 10 value.toNat).map character := by
          rw [decimal, if_neg hne]
        rw [← hdecimal]
        apply prints_puts
        · omega
        · omega

/-- Unsigned numbers are printed as they are. -/
theorem prints_printInteger (memory : ℕ → UInt8) (buffer : ℕ) (bufferLength value : UInt32)
    (leadingZeros : Bool) :
  Prints memory buffer bufferLength (decimal value.toNat)
    (if leadingZeros then withLeadingZeros bufferLength (decimal value.toNat)
      else decimal value.toNat)
    (printInteger memory buffer bufferLength value leadingZeros)
  := by
  rw [printInteger]
  by_cases hempty : bufferLength = 0
  · rw [if_pos hempty]
    apply prints_nothing
    rw [hempty, length_decimal]
    exact lt_of_lt_of_le Nat.zero_lt_one (Nat.le_max_left _ _)
  · have hpos : 0 < bufferLength.toNat := by
      apply Nat.pos_of_ne_zero
      intro h
      apply hempty (UInt32.toNat_inj.mp h)
    rw [if_neg hempty]
    by_cases hsmall : bufferLength < 10
    · have hlt : bufferLength.toNat < 10 := UInt32.lt_iff_toNat_lt.mp hsmall
      have hpow : 10 ^ bufferLength.toNat < 2 ^ 32 := by
        apply lt_of_le_of_lt (Nat.pow_le_pow_right (by decide) (Nat.le_of_lt_succ hlt))
        decide
      have hmax : (UInt32.ofNat (10 ^ bufferLength.toNat)).toNat = 10 ^ bufferLength.toNat := by
        rw [UInt32.toNat_ofNat']
        apply Nat.mod_eq_of_lt hpow
      rw [if_pos hsmall]
      simp only [UInt32.le_iff_toNat_le, hmax]
      by_cases htoo : 10 ^ bufferLength.toNat ≤ value.toNat
      · rw [if_pos htoo]
        apply prints_nothing
        rw [← Nat.not_le, length_decimal_le_iff hpos]
        apply Nat.not_lt.mpr htoo
      · rw [if_neg htoo]
        apply prints_printValue hpos (Nat.min_eq_left hlt.le) _ (Nat.lt_of_not_le htoo)
        rw [UInt32.toNat_div, hmax]
        rfl
    · have hge : 10 ≤ bufferLength.toNat := by
        rw [UInt32.lt_iff_toNat_lt] at hsmall
        apply Nat.le_of_not_lt hsmall
      have hall : value ≤ -1 := by
        rw [UInt32.le_iff_toNat_le]
        apply Nat.le_of_lt_succ value.toNat_lt
      rw [if_neg hsmall]
      simp only [hall, not_true, if_false]
      apply prints_printValue (by decide) (Nat.min_eq_right hge) rfl
      apply lt_trans value.toNat_lt
      decide

/-! ### Signed numbers -/

/-- A signed number taken as an unsigned one. -/
theorem toNat_toUInt32 (value : Int32) :
  (value.toUInt32.toNat : ℤ) = value.toInt % 2 ^ 32
  := by
  have hlt : value.toUInt32.toNat < 2 ^ 32 := value.toUInt32.toNat_lt
  have hcond : value.toInt
      = if 2 * value.toUInt32.toNat < 2 ^ 32 then (value.toUInt32.toNat : ℤ)
        else (value.toUInt32.toNat : ℤ) - 2 ^ 32 := value.toBitVec.toInt_eq_toNat_cond
  rw [hcond]
  split
  · omega
  · omega

/-- The negation of a negative number is its absolute value, also where it wraps. -/
theorem toNat_neg {value : Int32} (h : value.toInt < 0) :
  (-value).toUInt32.toNat = value.toInt.natAbs
  := by
  have hle : -2 ^ 31 ≤ value.toInt := value.le_toInt
  have hunsigned := toNat_toUInt32 value
  have hsize : UInt32.size = 2 ^ 32 := rfl
  rw [Int32.toUInt32_neg, UInt32.toNat_neg, hsize, Nat.mod_eq_of_lt]
  · omega
  · omega

/-- A sign, and a number printed behind it. -/
theorem Prints.sign {answer : ReturnValue × Output} {sign : UInt8} (hpos : 0 < bufferLength.toNat)
    (h : Prints (Memory.overwrite memory buffer [sign]) (buffer + 1) (bufferLength - 1) text text
      answer) :
  Prints memory buffer bufferLength (sign :: text) (sign :: text)
    (answer.1, { answer.2 with printedSize := answer.2.printedSize + 1 })
  := by
  have hrest : (bufferLength - 1).toNat = bufferLength.toNat - 1 := by
    apply UInt32.toNat_sub_of_le
    rw [UInt32.le_iff_toNat_le]
    exact hpos
  have hok := h.ok_iff
  rw [hrest] at hok
  constructor
  · rw [hok, List.length_cons]
    omega
  · intro hfits
    have hsplit := Memory.overwrite_append memory buffer [sign] text
    rw [List.singleton_append, List.length_singleton] at hsplit
    rw [hsplit]
    exact h.printed hfits
  · intro hfits
    have hle := hok.mp hfits
    have hlt := bufferLength.toNat_lt
    have hsize := h.printedSize hfits
    rw [List.length_cons, UInt32.toNat_add, hsize]
    apply Nat.mod_eq_of_lt
    rw [UInt32.toNat_one]
    omega
  · intro i hi
    rw [h.bounded i (by rw [hrest]; omega)]
    rcases hi with hi | hi
    · apply Memory.overwrite_of_lt hi
    · apply Memory.overwrite_of_ge
      rw [List.length_singleton]
      omega

/-- Signed numbers are printed with their sign. -/
theorem prints_printSignedInteger (memory : ℕ → UInt8) (buffer : ℕ) (bufferLength : UInt32)
    (value : Int32) :
  Prints memory buffer bufferLength (signedDecimal value.toInt) (signedDecimal value.toInt)
    (printSignedInteger memory buffer bufferLength value)
  := by
  rw [printSignedInteger, signedDecimal]
  by_cases hneg : value < 0
  · have hint : value.toInt < 0 := Int32.lt_iff_toInt_lt.mp hneg
    rw [if_pos hint]
    by_cases hpos : 0 < bufferLength
    · have hinner := prints_printInteger (Memory.overwrite memory buffer [0x2D]) (buffer + 1)
        (bufferLength - 1) (-value).toUInt32 false
      rw [toNat_neg hint] at hinner
      rw [if_pos ⟨hpos, hneg⟩]
      apply hinner.sign (UInt32.lt_iff_toNat_lt.mp hpos)
    · have hempty : bufferLength = 0 := by
        rw [UInt32.lt_iff_toNat_lt, UInt32.toNat_zero] at hpos
        apply UInt32.toNat_inj.mp
        rw [UInt32.toNat_zero]
        omega
      rw [if_neg fun h => hpos h.1, printInteger, if_pos hempty, hempty]
      apply prints_nothing
      apply Nat.succ_pos
  · have hint : ¬ value.toInt < 0 := fun h => hneg (Int32.lt_iff_toInt_lt.mpr h)
    have hvalue : value.toUInt32.toNat = value.toInt.natAbs := by
      have hunsigned := toNat_toUInt32 value
      have hlt : value.toInt < 2 ^ 31 := value.toInt_lt
      omega
    rw [if_neg hint, if_neg fun h => hneg h.2, ← hvalue]
    exact prints_printInteger memory buffer bufferLength value.toUInt32 false

end

/-- All numbers are printed exactly, whenever they fit into the buffer, and nothing is printed
behind its end. -/
theorem prints_integers :
  (∀ (memory : ℕ → UInt8) (buffer : ℕ) (bufferLength value : UInt32) (leadingZeros : Bool),
    Prints memory buffer bufferLength (decimal value.toNat)
      (if leadingZeros then withLeadingZeros bufferLength (decimal value.toNat)
        else decimal value.toNat)
      (printInteger memory buffer bufferLength value leadingZeros))
    ∧ ∀ (memory : ℕ → UInt8) (buffer : ℕ) (bufferLength : UInt32) (value : Int32),
      Prints memory buffer bufferLength (signedDecimal value.toInt) (signedDecimal value.toInt)
        (printSignedInteger memory buffer bufferLength value)
  := ⟨prints_printInteger, prints_printSignedInteger⟩

example :
  signedDecimal (-128) = [0x2D, 0x31, 0x32, 0x38]
  := by
  simp [signedDecimal, decimal, places, character]

end AsciiConverter
