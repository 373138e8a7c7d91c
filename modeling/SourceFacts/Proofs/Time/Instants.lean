import SourceFacts.Proofs.Text.Encodings
import SourceFacts.Proofs.Time.Calendar
import SourceFacts.Time.Instant

namespace SourceFacts.Time

/-!
# Moments and their texts

A moment of the calendar is read back from its text, and nothing else is ever read as a moment.
-/

open Text

/-!
## Moments are read back

A moment of the calendar is read back from its text, leap seconds included.
-/

/-- A moment that the clock of a calendar can show: only the last second of a minute
goes on into a leap second. -/
structure Instant.IsValid (moment : Instant) : Prop where
  inCalendar : moment.inCalendar = true
  leapSecond : moment.nanoseconds < 1000000000 ∨
    (moment.nanoseconds < 2000000000 ∧ moment.seconds % 60 = 59)

instance (moment : Instant) : Decidable moment.IsValid :=
  decidable_of_iff
    (moment.inCalendar = true ∧
      (moment.nanoseconds < 1000000000 ∨
        (moment.nanoseconds < 2000000000 ∧ moment.seconds % 60 = 59)))
    ⟨fun ⟨inCalendar, leapSecond⟩ => ⟨inCalendar, leapSecond⟩,
      fun valid => ⟨valid.inCalendar, valid.leapSecond⟩⟩

/-! ### Numbers -/

/-- The characters of a number with leading zeros. -/
def paddedChars (width value : Nat) : List Char :=
  List.replicate (width - (Nat.toDigits 10 value).length) '0' ++ Nat.toDigits 10 value

/-- A number with leading zeros is written with these characters. -/
theorem toList_padded (width value : Nat) :
    (padded width value).toList = paddedChars width value := by
  have digits : (toString value).toList = Nat.toDigits 10 value :=
    Nat.toList_repr
  have length : (toString value).length = (Nat.toDigits 10 value).length := by
    rw [← digits, String.length_toList]
  rw [padded, String.toList_append, String.toList_ofList, digits, length, paddedChars]

/-- Only digits are written. -/
theorem all_isDigit_paddedChars (width value : Nat) :
    (paddedChars width value).all Char.isDigit = true := by
  simp [paddedChars, all_isDigit_toDigits]

/-- Something is always written. -/
theorem paddedChars_ne_nil (width value : Nat) : paddedChars width value ≠ [] := by
  intro empty
  have someDigit := Nat.length_toDigits_pos (b := 10) (n := value)
  simp only [paddedChars, List.append_eq_nil_iff] at empty
  simp [empty.2] at someDigit

/-- Leading zeros do not change the value. -/
theorem numberOf_paddedChars (width value : Nat) :
    numberOf (paddedChars width value) = value := by
  have zeros : ∀ count : Nat, numberOf (List.replicate count '0') = 0 := by
    intro count
    induction count with
    | zero =>
        rfl
    | succ count inductionHypothesis =>
        rw [numberOf, List.replicate_succ, List.foldl_cons]
        exact inductionHypothesis
  rw [numberOf, paddedChars, List.foldl_append, ← numberOf, zeros]
  exact foldl_toDigits value

/-- A number below a power of ten has exactly as many digits as it is given. -/
theorem length_paddedChars
    {width value : Nat}
    (positive : 0 < width)
    (fits : value < Nat.pow 10 width) :
    (paddedChars width value).length = width := by
  have digits : (Nat.toDigits 10 value).length ≤ width :=
    (Nat.length_toDigits_le_iff (by decide) positive).mpr fits
  simp only [paddedChars, List.length_append, List.length_replicate]
  omega

/-! ### Parts of a text -/

/-- A digit is no blank. -/
theorem isBlank_of_isDigit
    {c : Char}
    (digit : c.isDigit = true) :
    isBlank c = false := by
  rw [Char.isDigit_iff_toNat] at digit
  obtain ⟨atLeast, atMost⟩ := digit
  have first : '0'.toNat = 48 := rfl
  have last : '9'.toNat = 57 := rfl
  simp only [isBlank, Bool.or_eq_false_iff, Bool.and_eq_false_iff, decide_eq_false_iff_not]
  omega

/-- No blanks stand before digits. -/
theorem dropBlanks_digits
    {digits : List Char}
    (digitsOnly : digits.all Char.isDigit = true)
    (nonempty : digits ≠ [])
    (rest : List Char) :
    dropBlanks (digits ++ rest) = digits ++ rest := by
  cases digits with
  | nil =>
      exact absurd rfl nonempty
  | cons first more =>
      have firstDigit : first.isDigit = true := by
        simp only [List.all_cons, Bool.and_eq_true] at digitsOnly
        exact digitsOnly.1
      simp [dropBlanks, isBlank_of_isDigit firstDigit]

/-- Digits are read up to the end of the number or up to the limit. -/
theorem readNumber_append
    {limit : Nat}
    {digits rest : List Char}
    (digitsOnly : digits.all Char.isDigit = true)
    (nonempty : digits ≠ [])
    (fits : digits.length ≤ limit)
    (ends : digits.length = limit ∨ ∀ c ∈ rest.head?, c.isDigit = false) :
    readNumber limit (digits ++ rest) = some (numberOf digits, rest) := by
  have stop : ∀ c ∈ (rest.take (limit - digits.length)).head?, c.isDigit = false := by
    rcases ends with exact | noDigit
    · simp [exact]
    · intro c first
      rw [List.head?_take] at first
      split at first
      · simp at first
      · exact noDigit c first
  have taken := (takeWhile_isDigit_append digitsOnly stop).1
  have noneLeft : digits.isEmpty = false := by
    simpa using nonempty
  rw [readNumber, List.take_append, List.take_of_length_le fits, taken]
  simp [noneLeft]

/-- A number with leading zeros is read back up to its end or up to the limit. -/
theorem readNumber_paddedChars
    {limit width value : Nat}
    {rest : List Char}
    (fits : (paddedChars width value).length ≤ limit)
    (ends : (paddedChars width value).length = limit ∨
      ∀ c ∈ rest.head?, c.isDigit = false) :
    readNumber limit (paddedChars width value ++ rest) = some (value, rest) := by
  rw [readNumber_append (all_isDigit_paddedChars width value) (paddedChars_ne_nil width value)
    fits ends, numberOf_paddedChars]

/-- A number of two digits is read back. -/
theorem readPart_padded
    {value : Nat}
    (fits : value < 100)
    (rest : List Char) :
    readPart (paddedChars 2 value ++ rest) = some (value, rest) := by
  have length : (paddedChars 2 value).length = 2 :=
    length_paddedChars (by decide) fits
  rw [readPart, dropBlanks_digits (all_isDigit_paddedChars 2 value) (paddedChars_ne_nil 2 value),
    readNumber_paddedChars (Nat.le_of_eq length) (Or.inl length)]

/-- A year of four digits is read back. -/
theorem readYear_paddedChars
    {value : Nat}
    (fits : value < 10000)
    (rest : List Char) :
    readYear (paddedChars 4 value ++ rest) = some ((value : Int), rest) := by
  have length : (paddedChars 4 value).length = 4 :=
    length_paddedChars (by decide) fits
  have digitsOnly := all_isDigit_paddedChars 4 value
  have noSign : ∀ (sign : Char) (tail : List Char), sign.isDigit = false →
      paddedChars 4 value ++ rest ≠ sign :: tail := by
    intro sign tail noDigit same
    cases shape : paddedChars 4 value with
    | nil =>
        exact paddedChars_ne_nil 4 value shape
    | cons first more =>
        rw [shape, List.cons_append, List.cons.injEq] at same
        rw [shape, List.all_cons, Bool.and_eq_true, same.1, noDigit] at digitsOnly
        exact absurd digitsOnly.1 (by decide)
  rw [readYear, dropBlanks_digits digitsOnly (paddedChars_ne_nil 4 value)]
  split
  · rename_i tail same
    exact absurd same (noSign '-' tail rfl)
  · rename_i tail same
    exact absurd same (noSign '+' tail rfl)
  · rw [readNumber_paddedChars (Nat.le_of_eq length) (Or.inl length)]
    rfl

/-- A year is read back up to the mark after it. -/
theorem readYear_yearText
    (year : Int)
    (rest : List Char) :
    readYear ((yearText year).toList ++ '-' :: rest) = some (year, '-' :: rest) := by
  have stop : ∀ c ∈ ('-' :: rest).head?, c.isDigit = false := by
    rintro c ⟨rfl⟩
    rfl
  have signed :
      readNumber (paddedChars 4 year.natAbs ++ '-' :: rest).length
          (paddedChars 4 year.natAbs ++ '-' :: rest) =
        some (year.natAbs, '-' :: rest) :=
    readNumber_paddedChars (by simp) (Or.inr stop)
  unfold yearText
  split
  · rename_i fourDigits
    have isYear : (year.toNat : Int) = year := Int.toNat_of_nonneg fourDigits.1
    rw [toList_padded, readYear_paddedChars (by omega), isYear]
  · have isNegative : year < 0 → -(year.natAbs : Int) = year := by
      omega
    have isPositive : ¬ year < 0 → (year.natAbs : Int) = year := by
      omega
    split
    · rename_i negative
      rw [String.toList_append, toList_padded]
      change (readNumber (paddedChars 4 year.natAbs ++ '-' :: rest).length
        (paddedChars 4 year.natAbs ++ '-' :: rest)).map _ = _
      rw [signed, Option.map_some]
      dsimp only
      rw [isNegative negative]
    · rename_i notNegative
      rw [String.toList_append, toList_padded]
      change (readNumber (paddedChars 4 year.natAbs ++ '-' :: rest).length
        (paddedChars 4 year.natAbs ++ '-' :: rest)).map _ = _
      rw [signed, Option.map_some]
      dsimp only
      rw [isPositive notNegative]

/-- A fraction of a second is read back up to the mark of universal time. -/
theorem readFraction_fractionText
    {nanoseconds : Nat}
    (fits : nanoseconds < 1000000000) :
    readFraction ((fractionText nanoseconds).toList ++ ['Z']) = some (nanoseconds, ['Z']) := by
  have group : ∀ width value : Nat, 0 < width → width ≤ 9 → value < 10 ^ width →
      readFraction ('.' :: paddedChars width value ++ ['Z']) =
        some (value * 10 ^ (9 - width), ['Z']) := by
    intro width value positive short valueFits
    have length := length_paddedChars positive valueFits
    have read :
        readNumber 9 (paddedChars width value ++ ['Z']) = some (value, ['Z']) :=
      readNumber_paddedChars (by omega) (Or.inr (by simp))
    simp [readFraction, read, length]
  unfold fractionText
  split
  · rename_i noFraction
    rw [noFraction]
    rfl
  · split
    · rename_i milliseconds
      have read := group 3 (nanoseconds / 1000000) (by decide) (by decide) (by omega)
      rw [String.toList_append, toList_padded]
      refine read.trans ?_
      simp
      omega
    · split
      · rename_i microseconds
        have read := group 6 (nanoseconds / 1000) (by decide) (by decide) (by omega)
        rw [String.toList_append, toList_padded]
        refine read.trans ?_
        simp
        omega
      · have read := group 9 nanoseconds (by decide) (by decide) (by omega)
        rw [String.toList_append, toList_padded]
        refine read.trans ?_
        simp

/-! ### Moments -/

/-- A mark is read where it stands. -/
theorem readMark_cons
    {mark : Char}
    (noBlank : isBlank mark = false)
    (rest : List Char) :
    readMark mark (mark :: rest) = some rest := by
  simp [readMark, dropBlanks, noBlank]

/-- The characters of a date, a time of day and a fraction of a second. -/
def momentChars (date : Date) (hour minute second nanoseconds : Nat) : List Char :=
  (yearText date.year).toList ++ '-' :: (paddedChars 2 date.month ++ '-' ::
    (paddedChars 2 date.day ++ 'T' :: (paddedChars 2 hour ++ ':' :: (paddedChars 2 minute ++
      ':' :: (paddedChars 2 second ++ ((fractionText nanoseconds).toList ++ ['Z']))))))

/-- What is written for a moment. -/
theorem Instant.toList_toText (moment : Instant) :
    moment.toText.toList =
      momentChars (Date.ofDays (moment.seconds / 86400))
        ((moment.seconds % 86400).toNat / 3600)
        ((moment.seconds % 86400).toNat / 60 % 60)
        ((moment.seconds % 86400).toNat % 60 +
          if 1000000000 ≤ moment.nanoseconds then 1 else 0)
        (if 1000000000 ≤ moment.nanoseconds then moment.nanoseconds - 1000000000
          else moment.nanoseconds) := by
  simp [toText, momentChars, toList_padded]

/-- A date and a time of day are read as the moment that they are. -/
theorem ofText?_momentChars
    {date : Date}
    {hour minute second nanoseconds : Nat}
    (valid : date.isValid = true)
    (years : firstYear ≤ date.year ∧ date.year ≤ lastYear)
    (timeOfDay : hour ≤ 23 ∧ minute ≤ 59 ∧ second ≤ 60)
    (fraction : nanoseconds < 1000000000) :
    Instant.ofText? (String.ofList (momentChars date hour minute second nanoseconds)) =
      let moment : Instant :=
        { seconds := date.toDays * 86400 + (hour * 3600 + minute * 60 + min second 59 : Nat)
          nanoseconds := nanoseconds + (if second = 60 then 1000000000 else 0) }
      if moment.inCalendar then some moment else none := by
  have parts := valid
  simp only [Date.isValid, Bool.and_eq_true, decide_eq_true_eq] at parts
  obtain ⟨⟨⟨_, lastMonth⟩, _⟩, lastDay⟩ := parts
  have month : date.month < 100 := by
    omega
  have day : date.day < 100 := by
    have : daysInMonth date.year date.month ≤ 31 := by
      simp only [daysInMonth]
      split <;> split <;> omega
    omega
  have dash : isBlank '-' = false := rfl
  have colon : isBlank ':' = false := rfl
  have separator : ('T' == 't' || 'T' == 'T' || 'T' == ' ') = true := rfl
  have universal : readOffset ['Z'] = some (0, []) := rfl
  have accepted :
      (!(dropBlanks []).isEmpty || !date.isValid || decide (date.year < firstYear) ||
          decide (lastYear < date.year) || decide (hour > 23) || decide (minute > 59) ||
          decide (second > 60) || decide ((0 : Int).natAbs ≥ 86400)) = false := by
    simp [valid, dropBlanks]
    omega
  dsimp only [Instant.ofText?, Option.bind_eq_bind]
  rw [String.toList_ofList, momentChars, readYear_yearText, Option.bind_some,
    readMark_cons dash, Option.bind_some, readPart_padded month, Option.bind_some,
    readMark_cons dash, Option.bind_some, readPart_padded day, Option.bind_some]
  dsimp only
  rw [if_pos separator, Option.bind_some,
    readPart_padded (Nat.lt_of_le_of_lt timeOfDay.1 (by decide)), Option.bind_some,
    readMark_cons colon, Option.bind_some,
    readPart_padded (Nat.lt_of_le_of_lt timeOfDay.2.1 (by decide)), Option.bind_some,
    readMark_cons colon, Option.bind_some,
    readPart_padded (Nat.lt_of_le_of_lt timeOfDay.2.2 (by decide)), Option.bind_some,
    readFraction_fractionText fraction, Option.bind_some, universal, Option.bind_some]
  dsimp only
  rw [accepted, Int.sub_zero]
  rfl

/-- A moment of the calendar is read back from its text. -/
theorem Instant.ofText?_toText
    {moment : Instant}
    (valid : moment.IsValid) :
    Instant.ofText? moment.toText = some moment := by
  obtain ⟨seconds, nanoseconds⟩ := moment
  obtain ⟨within, leapSecond⟩ := valid
  rw [inCalendar, Bool.and_eq_true_iff] at within
  have begins : firstSecond ≤ seconds := of_decide_eq_true within.1
  have ends : seconds ≤ lastSecond := of_decide_eq_true within.2
  simp only [firstSecond] at begins
  simp only [lastSecond] at ends
  dsimp only at leapSecond
  have sameDay := Date.toDays_ofDays (seconds / 86400)
  have years := Date.year_bounds (Date.isValid_ofDays (seconds / 86400)) (by omega) (by omega)
  have restored :
      (⟨(seconds / 86400) * 86400 + ((seconds % 86400).toNat / 3600 * 3600 +
            (seconds % 86400).toNat / 60 % 60 * 60 +
              min ((seconds % 86400).toNat % 60 +
                if 1000000000 ≤ nanoseconds then 1 else 0) 59 : Nat),
          (if 1000000000 ≤ nanoseconds then nanoseconds - 1000000000 else nanoseconds) +
            if (seconds % 86400).toNat % 60 +
              (if 1000000000 ≤ nanoseconds then 1 else 0) = 60 then 1000000000 else 0⟩ :
        Instant) = ⟨seconds, nanoseconds⟩ := by
    rw [Instant.mk.injEq]
    by_cases isLeap : 1000000000 ≤ nanoseconds
    · have isSixtieth : (seconds % 86400).toNat % 60 + 1 = 60 := by
        omega
      simp only [isLeap, isSixtieth, ↓reduceIte]
      omega
    · have notSixtieth : ¬ (seconds % 86400).toNat % 60 + 0 = 60 := by
        omega
      simp only [isLeap, notSixtieth, ↓reduceIte]
      omega
  have written := toList_toText ⟨seconds, nanoseconds⟩
  dsimp only at written
  rw [← String.ofList_toList (s := toText ⟨seconds, nanoseconds⟩), written,
    ofText?_momentChars (Date.isValid_ofDays (seconds / 86400)) years (by split <;> omega)
      (by split <;> omega)]
  dsimp only
  rw [sameDay, restored, inCalendar, if_pos (Bool.and_eq_true_iff.mpr within)]

/-!
## Moments that are read

Every text that is read as a moment is read as one that the clock of a calendar can show.
-/

/-! ### Fractions and offsets -/

/-- A number is below the power of ten for its digits. -/
theorem numberOf_lt
    {digits : List Char}
    (digitsOnly : digits.all Char.isDigit = true) :
    numberOf digits < Nat.pow 10 digits.length := by
  have continued : ∀ value : Nat,
      digits.foldl (fun value c => value * 10 + digitValue c) value <
        (value + 1) * Nat.pow 10 digits.length := by
    induction digits with
    | nil =>
        simp
    | cons digit rest inductionHypothesis =>
        intro value
        simp only [List.all_cons, Bool.and_eq_true] at digitsOnly
        have isDigit := Char.isDigit_iff_toNat.mp digitsOnly.1
        have small : digitValue digit ≤ 9 := by
          have zero : '0'.toNat = 48 := rfl
          have nine : '9'.toNat = 57 := rfl
          simp only [digitValue]
          omega
        have later := inductionHypothesis digitsOnly.2 (value * 10 + digitValue digit)
        have oneMore : Nat.pow 10 (rest.length + 1) = 10 * Nat.pow 10 rest.length :=
          Nat.pow_succ'
        rw [List.foldl_cons, List.length_cons, oneMore, ← Nat.mul_assoc]
        exact Nat.lt_of_lt_of_le later (Nat.mul_le_mul_right _ (by omega))
  have fromZero := continued 0
  rwa [Nat.zero_add, Nat.one_mul] at fromZero

/-- A number that is read is below the power of ten for the characters that it takes. -/
theorem lt_of_readNumber
    {limit value : Nat}
    {chars rest : List Char}
    (isRead : readNumber limit chars = some (value, rest)) :
    chars.length - rest.length ≤ limit ∧ value < Nat.pow 10 (chars.length - rest.length) := by
  have digitsOnly : ((chars.take limit).takeWhile Char.isDigit).all Char.isDigit = true :=
    List.all_takeWhile
  have within : ((chars.take limit).takeWhile Char.isDigit).length ≤ (chars.take limit).length :=
    (List.takeWhile_sublist _).length_le
  rw [List.length_take] at within
  rw [readNumber] at isRead
  split at isRead
  · cases isRead
  · obtain ⟨rfl, rfl⟩ := Prod.mk.inj (Option.some.inj isRead)
    have taken : chars.length - (chars.drop
        ((chars.take limit).takeWhile Char.isDigit).length).length =
          ((chars.take limit).takeWhile Char.isDigit).length := by
      rw [List.length_drop]
      omega
    rw [taken]
    exact ⟨by omega, numberOf_lt digitsOnly⟩

/-- A fraction of a second is less than a second. -/
theorem nanoseconds_lt_of_readFraction
    {chars rest : List Char}
    {nanoseconds : Nat}
    (isRead : readFraction chars = some (nanoseconds, rest)) :
    nanoseconds < 1000000000 := by
  unfold readFraction at isRead
  split at isRead
  · rename_i digits
    obtain ⟨⟨value, after⟩, isNumber, same⟩ := Option.bind_eq_some_iff.mp isRead
    obtain ⟨few, below⟩ := lt_of_readNumber isNumber
    obtain ⟨rfl, -⟩ := Prod.mk.inj (Option.some.inj same)
    have positive : 0 < Nat.pow 10 (9 - (digits.length - after.length)) :=
      Nat.pow_pos (Nat.zero_lt_succ 9)
    have nineDigits : Nat.pow 10 (digits.length - after.length) *
        Nat.pow 10 (9 - (digits.length - after.length)) = 1000000000 := by
      refine (Nat.pow_add 10 _ _).symm.trans ?_
      rw [Nat.add_sub_of_le few]
    exact nineDigits ▸ Nat.mul_lt_mul_of_pos_right below positive
  · obtain ⟨rfl, -⟩ := Prod.mk.inj (Option.some.inj isRead)
    decide

/-- Hours and minutes are a number of whole minutes. -/
theorem wholeMinutes_of_readHoursAndMinutes
    {chars rest : List Char}
    {offset : Int}
    (isRead : readHoursAndMinutes chars = some (offset, rest)) :
    offset % 60 = 0 := by
  simp only [readHoursAndMinutes, Option.bind_eq_bind, Option.bind_eq_some_iff] at isRead
  obtain ⟨⟨hours, afterHours⟩, -, ⟨minutes, afterMinutes⟩, -, isRead⟩ := isRead
  split at isRead
  · obtain ⟨rfl, -⟩ := Prod.mk.inj (Option.some.inj isRead)
    omega
  · cases isRead

/-- An offset from universal time is a number of whole minutes. -/
theorem wholeMinutes_of_readOffset
    {chars rest : List Char}
    {offset : Int}
    (isRead : readOffset chars = some (offset, rest)) :
    offset % 60 = 0 := by
  have negated : ∀ {chars : List Char} {negate : Int × List Char → Int × List Char},
      (∀ read, (negate read).1 = -read.1) →
        (readHoursAndMinutes chars).map negate = some (offset, rest) → offset % 60 = 0 := by
    intro chars negate negates isRead
    obtain ⟨⟨value, after⟩, isValue, same⟩ := Option.map_eq_some_iff.mp isRead
    have whole := wholeMinutes_of_readHoursAndMinutes isValue
    have isNegative := negates (value, after)
    rw [same] at isNegative
    dsimp only at isNegative
    omega
  rw [readOffset] at isRead
  split at isRead
  · cases isRead
    rfl
  · cases isRead
    rfl
  · exact wholeMinutes_of_readHoursAndMinutes isRead
  · exact negated (fun _ => rfl) isRead
  · exact negated (fun _ => rfl) isRead
  · split at isRead
    · cases isRead
      rfl
    · cases isRead
  · cases isRead

/-! ### Moments -/

/-- What is read as a moment is one that the clock of a calendar can show. -/
theorem Instant.isValid_of_ofText?
    {text : String}
    {moment : Instant}
    (isRead : Instant.ofText? text = some moment) :
    moment.IsValid := by
  obtain ⟨⟨year, afterYear⟩, -, isRead⟩ := Option.bind_eq_some_iff.mp isRead
  obtain ⟨_, -, isRead⟩ := Option.bind_eq_some_iff.mp isRead
  obtain ⟨⟨month, afterMonth⟩, -, isRead⟩ := Option.bind_eq_some_iff.mp isRead
  obtain ⟨_, -, isRead⟩ := Option.bind_eq_some_iff.mp isRead
  obtain ⟨⟨day, afterDate⟩, -, isRead⟩ := Option.bind_eq_some_iff.mp isRead
  dsimp only at isRead
  split at isRead
  · split at isRead
    · obtain ⟨_, -, isRead⟩ := Option.bind_eq_some_iff.mp isRead
      obtain ⟨⟨hour, afterHour⟩, -, isRead⟩ := Option.bind_eq_some_iff.mp isRead
      obtain ⟨_, -, isRead⟩ := Option.bind_eq_some_iff.mp isRead
      obtain ⟨⟨minute, afterMinute⟩, -, isRead⟩ := Option.bind_eq_some_iff.mp isRead
      obtain ⟨_, -, isRead⟩ := Option.bind_eq_some_iff.mp isRead
      obtain ⟨⟨second, afterSecond⟩, -, isRead⟩ := Option.bind_eq_some_iff.mp isRead
      obtain ⟨⟨nanoseconds, afterFraction⟩, isFraction, isRead⟩ :=
        Option.bind_eq_some_iff.mp isRead
      obtain ⟨⟨offset, afterOffset⟩, isOffset, isRead⟩ := Option.bind_eq_some_iff.mp isRead
      have short := nanoseconds_lt_of_readFraction isFraction
      have whole := wholeMinutes_of_readOffset isOffset
      dsimp only at isRead
      split at isRead
      · cases isRead
      · obtain ⟨inCalendar, same⟩ := Option.ite_none_right_eq_some.mp isRead
        obtain rfl := Option.some.inj same
        refine ⟨inCalendar, ?_⟩
        by_cases isLeap : second = 60
        · right
          simp only [isLeap, ↓reduceIte]
          omega
        · left
          simp only [isLeap, ↓reduceIte]
          omega
    · cases isRead
  · cases isRead

end SourceFacts.Time
