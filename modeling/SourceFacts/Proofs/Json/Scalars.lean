import SourceFacts.Json.Printer
import SourceFacts.Json.Token
import SourceFacts.Proofs.Text.Encodings

namespace SourceFacts.Json

/-!
# Strings and numbers are read back

A text in quotes and an integer are read as what they were written for. What is written for
any other number looks like a number.
-/

open Number Text

/-!
## Strings are read back

A text in quotes is read character by character: each character is written so
that reading takes back exactly that character and leaves what follows it.
-/

/-- Two hexadecimal digits written for a code are read as that code. -/
theorem hexDigit?_hexDigit
    {value : Nat}
    (isDigit : value < 16) :
    hexDigit? (hexDigit value) = some value := by
  have everyDigit : ∀ digit : Fin 16, hexDigit? (hexDigit digit) = some digit.val := by
    decide
  exact everyDigit ⟨value, isDigit⟩

/-! ### Single characters -/

/-- A character without a special meaning stands for itself. -/
theorem readString_plain
    {c : Char}
    (notQuote : c ≠ '"')
    (notBackslash : c ≠ '\\')
    (notControl : ¬ c.toNat < 0x20)
    (rest : List Char) :
    readString (c :: rest) = consRead c (readString rest) := by
  rw [readString]
  · rw [if_neg notControl]
  · exact notQuote
  · intro _ _ _ _ _ _ _ _ _ isBackslash
    exact (notBackslash isBackslash).elim
  · intro _ _ _ _ _ isBackslash
    exact (notBackslash isBackslash).elim
  · intro _ _ isBackslash
    exact (notBackslash isBackslash).elim

/-- A letter after a backslash stands for the character that it is assigned to. -/
theorem readString_letter
    {letter c : Char}
    (stands : escaped? letter = some c)
    (rest : List Char) :
    readString ('\\' :: letter :: rest) = consRead c (readString rest) := by
  have notUnit : letter ≠ 'u' := by
    rintro rfl
    simp [escaped?] at stands
  rw [readString]
  · rw [stands]
  · intro _ _ _ _ _ _ _ _ _ isUnit
    exact (notUnit isUnit).elim
  · intro _ _ _ _ _ isUnit
    exact (notUnit isUnit).elim

/-- Four digits of a unit that is no surrogate stand for its character, whatever
follows them. -/
theorem readString_unit
    {a b c d : Char}
    {unit : Nat}
    (value : hexUnit? a b c d = some unit)
    (notSurrogate : unit < 0xD800)
    (rest : List Char) :
    readString ('\\' :: 'u' :: a :: b :: c :: d :: rest) =
      consRead (Char.ofNat unit) (readString rest) := by
  have notHigh : isHighSurrogate unit = false := by
    simp only [isHighSurrogate, Bool.and_eq_false_iff, decide_eq_false_iff_not]
    omega
  have notLow : isLowSurrogate unit = false := by
    simp only [isLowSurrogate, Bool.and_eq_false_iff, decide_eq_false_iff_not]
    omega
  -- A second unit may follow, which is looked at only after a first surrogate.
  by_cases followed : ∃ e f g h tail, rest = '\\' :: 'u' :: e :: f :: g :: h :: tail
  · obtain ⟨e, f, g, h, tail, rfl⟩ := followed
    rw [readString]
    simp [value, notHigh, notLow]
  · rw [readString]
    · simp [value, notHigh, notLow]
    · intro e f g h tail shape
      exact followed ⟨e, f, g, h, tail, shape⟩

/-- A character is read back from how it is written. -/
theorem readString_escape
    (c : Char)
    (rest : List Char) :
    readString (escape c ++ rest) = consRead c (readString rest) := by
  unfold escape
  split
  · exact readString_letter rfl rest
  · exact readString_letter rfl rest
  · exact readString_letter rfl rest
  · exact readString_letter rfl rest
  · exact readString_letter rfl rest
  · exact readString_letter rfl rest
  · exact readString_letter rfl rest
  · rename_i notQuote notBackslash _ _ _ _ _
    split
    · rename_i isControl
      have high : hexDigit? (hexDigit (c.toNat / 16)) = some (c.toNat / 16) :=
        hexDigit?_hexDigit (by omega)
      have low : hexDigit? (hexDigit (c.toNat % 16)) = some (c.toNat % 16) :=
        hexDigit?_hexDigit (by omega)
      have zero : hexDigit? '0' = some 0 := rfl
      have value :
          hexUnit? '0' '0' (hexDigit (c.toNat / 16)) (hexDigit (c.toNat % 16)) =
            some c.toNat := by
        simp only [hexUnit?, zero, high, low, Option.bind_eq_bind, Option.bind_some,
          Option.pure_def, Option.some.injEq]
        omega
      simpa using readString_unit value (by omega) rest
    · rename_i notControl
      exact readString_plain notQuote notBackslash notControl rest

/-! ### Texts -/

/-- The characters of a text are read back up to the closing quote. -/
theorem readString_flatMap_escape
    (chars rest : List Char) :
    readString (chars.flatMap escape ++ '"' :: rest) = some (chars, rest) := by
  induction chars with
  | nil =>
      rfl
  | cons c more inductionHypothesis =>
      rw [List.flatMap_cons, List.append_assoc, readString_escape, inductionHypothesis]
      rfl

/-!
## Numbers are read back

An integer is read back from its text. Of other numbers only this much is said:
whatever text is read as a number consists of the characters of numbers alone,
and begins with a digit or a minus sign.
-/

/-! ### Integers -/

/-- The value of the digits of a number is that number. -/
@[simp] theorem digitsValue_toDigits (value : Nat) :
    digitsValue (Nat.toDigits 10 value) = value :=
  foldl_toDigits value

/-- No other number than zero begins with a zero. -/
theorem toDigits_isProper (value : Nat) :
    ((Nat.toDigits 10 value).isEmpty ||
        ((Nat.toDigits 10 value).length > 1 && (Nat.toDigits 10 value).head? == some '0')) =
      false := by
  have nonempty : (Nat.toDigits 10 value).isEmpty = false := by
    simp
  rw [nonempty, Bool.false_or]
  by_cases isZero : value = 0
  · subst value
    rfl
  · have leading : (Nat.toDigits 10 value).head? ≠ some '0' :=
      head?_toDigits_ne_zero (by omega)
    simp [leading]

/-- Digits alone are read as a whole number. -/
theorem unsignedNumber?_toDigits
    (negative : Bool)
    (value : Nat) :
    unsignedNumber? negative (Nat.toDigits 10 value) =
      numberOf? negative (Nat.toDigits 10 value) none none := by
  have digitsOnly := all_isDigit_toDigits value
  have split :
      (Nat.toDigits 10 value ++ []).takeWhile Char.isDigit = Nat.toDigits 10 value ∧
        (Nat.toDigits 10 value ++ []).dropWhile Char.isDigit = [] :=
    takeWhile_isDigit_append digitsOnly (by simp)
  rw [List.append_nil] at split
  have proper := toDigits_isProper value
  simp only [unsignedNumber?, split.1, split.2, proper]
  rfl

/-- A number without a sign is read as one. -/
theorem number?_of_head_ne
    {chars : List Char}
    (noSign : chars.head? ≠ some '-') :
    number? chars = unsignedNumber? false chars := by
  unfold number?
  split
  · simp at noSign
  · rfl

/-- An integer is read back from its text. -/
theorem number?_integer (value : Integer) :
    number? (toString value.value).toList = some (.integer value) := by
  obtain ⟨whole, inRange⟩ := value
  have read : Integer.ofInt? whole = some ⟨whole, inRange⟩ := by
    rw [Integer.ofInt?, dif_pos inRange]
  dsimp only
  rw [Int.toString_eq_repr, Int.repr_eq_if]
  by_cases natural : 0 ≤ whole
  · obtain ⟨magnitude, rfl⟩ := Int.eq_ofNat_of_zero_le natural
    have fits : magnitude ≤ maxWord := by
      simp only [maxWord]
      omega
    have noSign : (Nat.toDigits 10 magnitude).head? ≠ some '-' := by
      intro sign
      have digit := List.all_eq_true.mp (all_isDigit_toDigits magnitude) '-'
        (List.mem_of_mem_head? sign)
      simp at digit
    rw [if_pos natural, Int.toNat_natCast, Nat.toList_repr, number?_of_head_ne noSign,
      unsignedNumber?_toDigits, numberOf?]
    simp [fits, read]
  · obtain ⟨magnitude, rfl⟩ : ∃ magnitude : Nat, whole = -(magnitude : Int) :=
      ⟨whole.natAbs, by omega⟩
    have fits : magnitude ≤ maxWord := by
      simp only [maxWord]
      omega
    have nonzero : magnitude ≠ 0 := by
      omega
    rw [if_neg natural, Int.neg_neg, Int.toNat_natCast, String.toList_append, Nat.toList_repr]
    change unsignedNumber? true (Nat.toDigits 10 magnitude) = _
    rw [unsignedNumber?_toDigits, numberOf?]
    simp [fits, read, nonzero]

/-! ### Characters of numbers -/

/-- Digits are characters of numbers. -/
theorem isNumberChar_of_isDigit
    {c : Char}
    (digit : c.isDigit = true) :
    isNumberChar c = true := by
  simp [isNumberChar, digit]

/-- Digits consist of characters of numbers. -/
theorem all_isNumberChar_of_isDigit
    {digits : List Char}
    (digitsOnly : digits.all Char.isDigit = true) :
    digits.all isNumberChar = true := by
  rw [List.all_eq_true] at digitsOnly ⊢
  intro c member
  exact isNumberChar_of_isDigit (digitsOnly c member)

/-- Characters are those of a number if those after the leading digits are. -/
theorem all_isNumberChar_of_dropWhile
    {chars : List Char}
    (after : (chars.dropWhile Char.isDigit).all isNumberChar = true) :
    chars.all isNumberChar = true := by
  induction chars with
  | nil =>
      rfl
  | cons c rest inductionHypothesis =>
      by_cases digit : c.isDigit = true
      · rw [List.dropWhile_cons_of_pos digit] at after
        simp [isNumberChar_of_isDigit digit, inductionHypothesis after]
      · rwa [List.dropWhile_cons_of_neg digit] at after

/-- What is read as an exponent consists of characters of numbers. -/
theorem all_isNumberChar_of_exponent?
    {chars : List Char}
    {value : Int}
    (read : exponent? chars = some value) :
    chars.all isNumberChar = true := by
  have digitsOnly : (exponentSign chars).2.all Char.isDigit = true := by
    rcases shape : exponentSign chars with ⟨negative, digits⟩
    simp only [exponent?, shape] at read
    split at read
    · simp at read
    · rename_i accepted
      simp only [Bool.or_eq_true, Bool.not_eq_true', not_or, Bool.not_eq_false] at accepted
      exact accepted.2
  have digitChars := all_isNumberChar_of_isDigit digitsOnly
  unfold exponentSign at digitChars
  split at digitChars
  · simpa [isNumberChar] using digitChars
  · simpa [isNumberChar] using digitChars
  · exact digitChars

/-- What may follow the digits of a number consists of characters of numbers. -/
theorem all_isNumberChar_of_numberWithEnding?
    {negative : Bool}
    {whole chars : List Char}
    {fraction? : Option (List Char)}
    {value : Json}
    (read : numberWithEnding? negative whole fraction? chars = some value) :
    chars.all isNumberChar = true := by
  cases chars with
  | nil =>
      rfl
  | cons mark rest =>
      rw [numberWithEnding?] at read
      split at read
      · rename_i isMark
        split at read
        · simp at read
        · rename_i exponent found
          have exponentChars := all_isNumberChar_of_exponent? found
          simp only [Bool.or_eq_true, beq_iff_eq] at isMark
          rcases isMark with rfl | rfl <;>
            simp [isNumberChar, exponentChars]
      · simp at read

/-- Characters are those of a number if those after a point and its digits are. -/
theorem all_isNumberChar_of_fraction?
    {chars : List Char}
    (after : (fraction? chars).2.all isNumberChar = true) :
    chars.all isNumberChar = true := by
  unfold fraction? at after
  split at after
  · have rest := all_isNumberChar_of_dropWhile after
    simp [isNumberChar, rest]
  · exact after

/-- What is read as a number without a sign begins with a digit and consists of
characters of numbers. -/
theorem shape_of_unsignedNumber?
    {negative : Bool}
    {chars : List Char}
    {value : Json}
    (read : unsignedNumber? negative chars = some value) :
    chars.all isNumberChar = true ∧ ∃ c ∈ chars.head?, c.isDigit = true := by
  simp only [unsignedNumber?] at read
  split at read
  · simp at read
  · rename_i proper
    split at read
    · simp at read
    · constructor
      · exact all_isNumberChar_of_dropWhile
          (all_isNumberChar_of_fraction? (all_isNumberChar_of_numberWithEnding? read))
      · cases chars with
        | nil =>
            simp at proper
        | cons c rest =>
            by_cases digit : c.isDigit = true
            · exact ⟨c, rfl, digit⟩
            · simp [digit] at proper

/-- What is read as a number begins with a digit or a minus sign and consists of
characters of numbers. -/
theorem shape_of_number?
    {chars : List Char}
    {value : Json}
    (read : number? chars = some value) :
    chars.all isNumberChar = true ∧
      ∃ c ∈ chars.head?, c.isDigit = true ∨ c = '-' := by
  unfold number? at read
  split at read
  · rename_i rest
    have restChars := (shape_of_unsignedNumber? read).1
    exact ⟨by simp [isNumberChar, restChars], '-', rfl, Or.inr rfl⟩
  · obtain ⟨charsOnly, c, first, digit⟩ := shape_of_unsignedNumber? read
    exact ⟨charsOnly, c, first, Or.inl digit⟩

/-!
## The texts of numbers that are no integers

What is written for such a number looks like a number, so that it is read as one number
or not at all. Which number that is, is not said here: it need not be the one written.
-/

/-! ### What is written -/

/-- Characters that look like a number: a digit or a minus sign, followed by characters of
numbers. -/
structure LooksLikeNumber (chars : List Char) : Prop where
  charsOnly : chars.all isNumberChar = true
  begins : ∃ c ∈ chars.head?, c.isDigit = true ∨ c = '-'

/-- What is read as a number looks like one. -/
theorem looksLikeNumber_of_number?
    {chars : List Char}
    {value : Json}
    (read : number? chars = some value) :
    LooksLikeNumber chars :=
  ⟨(shape_of_number? read).1, (shape_of_number? read).2⟩

/-- Characters that begin with digits look like a number. -/
theorem looksLikeNumber_of_digits
    {digits rest : List Char}
    (digitsOnly : digits.all Char.isDigit = true)
    (nonempty : digits ≠ [])
    (restOnly : rest.all isNumberChar = true) :
    LooksLikeNumber (digits ++ rest) where
  charsOnly := by
    rw [List.all_append, all_isNumberChar_of_isDigit digitsOnly, restOnly]
    rfl
  begins := by
    cases digits with
    | nil =>
        exact absurd rfl nonempty
    | cons c more =>
        rw [List.all_cons, Bool.and_eq_true] at digitsOnly
        exact ⟨c, rfl, Or.inl digitsOnly.1⟩

/-- A sign before what looks like a number looks like one, too. -/
theorem LooksLikeNumber.signed
    {chars : List Char}
    (looksLike : LooksLikeNumber chars)
    (negative : Bool) :
    LooksLikeNumber ((if negative then "-" else "").toList ++ chars) := by
  cases negative with
  | true =>
      exact ⟨by simpa [isNumberChar] using looksLike.charsOnly, '-', rfl, Or.inr rfl⟩
  | false =>
      simpa using looksLike

/-- Zeros are characters of numbers. -/
theorem all_isNumberChar_zeros (count : Nat) :
    (List.replicate count '0').all isNumberChar = true := by
  rw [List.all_replicate]
  split <;> rfl

/-- The text of an integer consists of characters of numbers. -/
theorem all_isNumberChar_toString (value : Int) :
    (toString value).toList.all isNumberChar = true := by
  have digits : ∀ magnitude : Nat, magnitude.repr.toList.all isNumberChar = true := by
    intro magnitude
    rw [Nat.toList_repr]
    exact all_isNumberChar_of_isDigit (all_isDigit_toDigits magnitude)
  rw [Int.toString_eq_repr, Int.repr_eq_if]
  split
  · exact digits _
  · rw [String.toList_append, List.all_append, digits]
    rfl

/-- What is written for a number looks like one. -/
theorem looksLikeNumber_toText (number : Double) : LooksLikeNumber number.toText.toList := by
  have digitsOnly := all_isDigit_toDigits number.shortest.digits
  have areDigits : (toString number.shortest.digits).toList =
      Nat.toDigits 10 number.shortest.digits :=
    Nat.toList_repr
  have takeOnly : ∀ count,
      ((Nat.toDigits 10 number.shortest.digits).take count).all Char.isDigit = true := by
    intro count
    rw [List.all_eq_true] at digitsOnly ⊢
    exact fun c member => digitsOnly c (List.mem_of_mem_take member)
  have dropChars : ∀ count,
      ((Nat.toDigits 10 number.shortest.digits).drop count).all isNumberChar = true := by
    intro count
    refine all_isNumberChar_of_isDigit ?_
    rw [List.all_eq_true] at digitsOnly ⊢
    exact fun c member => digitsOnly c (List.mem_of_mem_drop member)
  have takeNonempty : ∀ {count}, 0 < count →
      (Nat.toDigits 10 number.shortest.digits).take count ≠ [] := by
    intro count positive
    simp [Nat.toDigits_ne_nil]
    omega
  have zero : LooksLikeNumber (['0'] ++ ['.', '0']) :=
    looksLikeNumber_of_digits rfl (by simp) rfl
  simp only [Double.toText]
  split
  · rw [String.toList_append]
    exact zero.signed number.negative
  · rw [String.toList_append, String.toList_ofList, areDigits]
    refine LooksLikeNumber.signed ?_ number.negative
    split
    · rw [List.append_assoc]
      refine looksLikeNumber_of_digits digitsOnly Nat.toDigits_ne_nil ?_
      rw [List.all_append, all_isNumberChar_zeros]
      rfl
    · split
      · rename_i isInside
        have positive : 0 < (Nat.toDigits 10 number.shortest.digits).length +
            number.shortest.exponent := by
          simp only [Bool.and_eq_true, decide_eq_true_eq] at isInside
          exact isInside.1
        rw [List.append_assoc]
        refine looksLikeNumber_of_digits (takeOnly _) (takeNonempty (by omega)) ?_
        rw [List.all_append, dropChars]
        rfl
      · split
        · change LooksLikeNumber (['0'] ++ ('.' :: (List.replicate _ '0' ++ _)))
          refine looksLikeNumber_of_digits rfl (by simp) ?_
          rw [List.all_cons, List.all_append, all_isNumberChar_zeros,
            all_isNumberChar_of_isDigit digitsOnly]
          rfl
        · rw [List.append_assoc, List.append_assoc]
          refine looksLikeNumber_of_digits (takeOnly 1) (takeNonempty (by decide)) ?_
          rw [List.all_append, List.all_append, all_isNumberChar_toString]
          split
          · rfl
          · rw [List.all_cons, dropChars]
            rfl

/-! ### What is read -/

/-- A number, whether or not it is an integer. -/
def IsNumber (value : Json) : Prop :=
  (∃ number, value = .integer number) ∨ ∃ number, value = .double number

/-- The parts of a number make up a number, if anything. -/
theorem isNumber_of_numberOf?
    {negative : Bool}
    {whole : List Char}
    {fraction? : Option (List Char)}
    {exponent? : Option Int}
    {value : Json}
    (read : numberOf? negative whole fraction? exponent? = some value) :
    value.IsNumber := by
  have integers : ∀ {found? : Option Integer}, found?.map Json.integer = some value →
      value.IsNumber := by
    intro found? isFound
    obtain ⟨number, _, rfl⟩ := Option.map_eq_some_iff.mp isFound
    exact Or.inl ⟨number, rfl⟩
  have doubles : ∀ {found? : Option Double}, found?.map Json.double = some value →
      value.IsNumber := by
    intro found? isFound
    obtain ⟨number, _, rfl⟩ := Option.map_eq_some_iff.mp isFound
    exact Or.inr ⟨number, rfl⟩
  simp only [numberOf?] at read
  split at read
  · split at read
    · exact integers read
    · split at read
      · exact Or.inr ⟨_, (Option.some.inj read).symm⟩
      · split at read
        · exact Or.inl ⟨_, (Option.some.inj read).symm⟩
        · exact doubles read
  · split at read
    · exact Or.inr ⟨_, (Option.some.inj read).symm⟩
    · exact doubles read

/-- What is read as a number is a number. -/
theorem isNumber_of_number?
    {chars : List Char}
    {value : Json}
    (read : number? chars = some value) :
    value.IsNumber := by
  have withEnding : ∀ {negative whole fraction? rest},
      numberWithEnding? negative whole fraction? rest = some value → value.IsNumber := by
    intro negative whole fraction? rest isRead
    unfold numberWithEnding? at isRead
    split at isRead
    · exact isNumber_of_numberOf? isRead
    · split at isRead
      · split at isRead
        · exact absurd isRead (by simp)
        · exact isNumber_of_numberOf? isRead
      · exact absurd isRead (by simp)
  have unsigned : ∀ {negative rest}, unsignedNumber? negative rest = some value →
      value.IsNumber := by
    intro negative rest isRead
    simp only [unsignedNumber?] at isRead
    split at isRead
    · exact absurd isRead (by simp)
    · split at isRead
      · exact absurd isRead (by simp)
      · exact withEnding isRead
  unfold number? at read
  split at read
  · exact unsigned read
  · exact unsigned read

end SourceFacts.Json
