import SourceFacts.Json.Value
import SourceFacts.Number.Double

namespace SourceFacts.Json

/-!
# The tokens of a JSON text
-/

open Number

/-- A token: a bracket, a mark between values, or a value without parts. -/
inductive Token where
  | openArray
  | closeArray
  | openObject
  | closeObject
  | colon
  | comma
  | scalar (value : Json)
deriving Repr, Inhabited

/-! ## Strings -/

/-- The value of a hexadecimal digit. -/
def hexDigit? (c : Char) : Option Nat :=
  if '0' ≤ c ∧ c ≤ '9' then some (c.toNat - '0'.toNat)
  else if 'a' ≤ c ∧ c ≤ 'f' then some (c.toNat - 'a'.toNat + 10)
  else if 'A' ≤ c ∧ c ≤ 'F' then some (c.toNat - 'A'.toNat + 10)
  else none

/-- The value of four hexadecimal digits. -/
def hexUnit? (a b c d : Char) : Option Nat := do
  return (((← hexDigit? a) * 16 + (← hexDigit? b)) * 16 + (← hexDigit? c)) * 16 + (← hexDigit? d)

/-- The character that a letter after a backslash stands for. -/
def escaped? : Char → Option Char
  | '"' => some '"'
  | '\\' => some '\\'
  | '/' => some '/'
  | 'b' => some '\x08'
  | 'f' => some '\x0c'
  | 'n' => some '\n'
  | 'r' => some '\r'
  | 't' => some '\t'
  | _ => none

/-- Whether a unit is the first half of a pair of surrogates. -/
def isHighSurrogate (unit : Nat) : Bool := 0xD800 ≤ unit && unit < 0xDC00

/-- Whether a unit is the second half of a pair of surrogates. -/
def isLowSurrogate (unit : Nat) : Bool := 0xDC00 ≤ unit && unit < 0xE000

/-- Puts a character in front of what was read. -/
def consRead (c : Char) : Option (List Char × List Char) → Option (List Char × List Char)
  | none => none
  | some (text, rest) => some (c :: text, rest)

/-- The text up to the closing quote, and what follows it. Control characters
must be escaped, and surrogates come in pairs. -/
def readString : List Char → Option (List Char × List Char)
  | [] => none
  | '"' :: rest => some ([], rest)
  | '\\' :: 'u' :: a :: b :: c :: d :: '\\' :: 'u' :: e :: f :: g :: h :: rest =>
      match hexUnit? a b c d with
      | none => none
      | some unit =>
          if isHighSurrogate unit then
            match hexUnit? e f g h with
            | none => none
            | some low =>
                if isLowSurrogate low then
                  consRead (Char.ofNat (0x10000 + (unit - 0xD800) * 0x400 + (low - 0xDC00)))
                    (readString rest)
                else none
          else if isLowSurrogate unit then none
          else consRead (Char.ofNat unit) (readString ('\\' :: 'u' :: e :: f :: g :: h :: rest))
  | '\\' :: 'u' :: a :: b :: c :: d :: rest =>
      match hexUnit? a b c d with
      | none => none
      | some unit =>
          if isHighSurrogate unit || isLowSurrogate unit then none
          else consRead (Char.ofNat unit) (readString rest)
  | '\\' :: c :: rest =>
      match escaped? c with
      | none => none
      | some c => consRead c (readString rest)
  | c :: rest => if c.toNat < 0x20 then none else consRead c (readString rest)

/-! ## Numbers -/

/-- Whether a character can be part of a number. -/
def isNumberChar (c : Char) : Bool :=
  c.isDigit || c == '-' || c == '+' || c == '.' || c == 'e' || c == 'E'

/-- The value of decimal digits. -/
def digitsValue (digits : List Char) : Nat :=
  digits.foldl (fun value c => value * 10 + (c.toNat - '0'.toNat)) 0

/-- The sign that may stand before digits, and what follows it. -/
def exponentSign : List Char → Bool × List Char
  | '-' :: rest => (true, rest)
  | '+' :: rest => (false, rest)
  | rest => (false, rest)

/-- An exponent after its mark: a sign that may be missing, and digits. -/
def exponent? (chars : List Char) : Option Int :=
  let (negative, digits) := exponentSign chars
  if digits.isEmpty || !digits.all Char.isDigit then none
  else some (if negative then -(digitsValue digits : Int) else digitsValue digits)

/-- The number with the given parts, whose digits are those before the point
and, unless there is none, those after it. -/
def numberOf? (negative : Bool) (whole : List Char) (fraction? : Option (List Char))
    (exponent? : Option Int) : Option Json :=
  let digits := digitsValue whole
  if fraction?.isNone && exponent?.isNone && digits ≤ maxWord then
    if !negative then (Integer.ofInt? digits).map .integer
    else if digits = 0 then some (.double (.zero true))
    else
      match Integer.ofInt? (-digits) with
      | some value => some (.integer value)
      | none => (ofDecimal? true digits 0).map .double
  else
    let fraction := fraction?.getD []
    let (significand, dropped) := takeDigits 0 0 whole
    let (significand, droppedFraction) := takeDigits significand 0 fraction
    let point : Int := (dropped : Int) - (fraction.length - droppedFraction : Nat)
    let exponent := exponent?.getD 0
    if significand = 0 then some (.double (.zero negative))
    else (ofDecimal? negative significand (exponent + point)).map .double

/-- The digits after a point, if there is one, and what follows them. -/
def fraction? : List Char → Option (List Char) × List Char
  | '.' :: rest => (some (rest.takeWhile Char.isDigit), rest.dropWhile Char.isDigit)
  | rest => (none, rest)

/-- The number whose digits have been read, with what follows them. -/
def numberWithEnding? (negative : Bool) (whole : List Char) (fraction? : Option (List Char)) :
    List Char → Option Json
  | [] => numberOf? negative whole fraction? none
  | mark :: rest =>
      if mark == 'e' || mark == 'E' then
        match exponent? rest with
        | none => none
        | some exponent => numberOf? negative whole fraction? (some exponent)
      else none

/-- The number that characters without a sign spell. -/
def unsignedNumber? (negative : Bool) (chars : List Char) : Option Json :=
  let whole := chars.takeWhile Char.isDigit
  if whole.isEmpty || (whole.length > 1 && whole.head? == some '0') then none
  else
    let (fraction?, ending) := fraction? (chars.dropWhile Char.isDigit)
    if fraction? == some [] then none else numberWithEnding? negative whole fraction? ending

/-- The number that characters spell. -/
def number? : List Char → Option Json
  | '-' :: rest => unsignedNumber? true rest
  | chars => unsignedNumber? false chars

/-! ## Tokens -/

/-- The value that a bare word stands for. -/
def word? (chars : List Char) : Option Json :=
  if chars = ['n', 'u', 'l', 'l'] then some .null
  else if chars = ['t', 'r', 'u', 'e'] then some (.bool true)
  else if chars = ['f', 'a', 'l', 's', 'e'] then some (.bool false)
  else none

/-- The bracket or mark that a character is. -/
def mark? : Char → Option Token
  | '[' => some .openArray
  | ']' => some .closeArray
  | '\x7b' => some .openObject
  | '\x7d' => some .closeObject
  | ':' => some .colon
  | ',' => some .comma
  | _ => none

/-- Whether a character may stand between tokens. -/
def isSpace (c : Char) : Bool := c == ' ' || c == '\t' || c == '\n' || c == '\r'

theorem length_dropWhile_le (keep : Char → Bool) (chars : List Char) :
    (chars.dropWhile keep).length ≤ chars.length := by
  induction chars with
  | nil => simp
  | cons c rest hypothesis =>
      simp only [List.dropWhile_cons]
      split
      · simp only [List.length_cons]
        omega
      · simp

theorem length_of_consRead {c : Char} {read : Option (List Char × List Char)}
    {text rest : List Char} (result : consRead c read = some (text, rest)) :
    ∃ shorter, read = some (shorter, rest) := by
  cases read with
  | none => simp [consRead] at result
  | some parts =>
      obtain ⟨shorter, remaining⟩ := parts
      simp only [consRead, Option.some.injEq, Prod.mk.injEq] at result
      exact ⟨shorter, by rw [result.2]⟩

theorem length_lt_of_readString {chars text rest : List Char}
    (result : readString chars = some (text, rest)) : rest.length < chars.length := by
  fun_induction readString chars generalizing text rest with
  | case1 => simp at result
  | case2 remaining =>
      simp only [Option.some.injEq, Prod.mk.injEq] at result
      simp [← result.2]
  | case3 => simp at result
  | case4 => simp at result
  | case5 =>
      rename_i hypothesis
      obtain ⟨shorter, read⟩ := length_of_consRead result
      have := hypothesis read
      simp only [List.length_cons] at *
      omega
  | case6 => simp at result
  | case7 => simp at result
  | case8 =>
      rename_i hypothesis
      obtain ⟨shorter, read⟩ := length_of_consRead result
      have := hypothesis read
      simp only [List.length_cons] at *
      omega
  | case9 => simp at result
  | case10 => simp at result
  | case11 =>
      rename_i hypothesis
      obtain ⟨shorter, read⟩ := length_of_consRead result
      have := hypothesis read
      simp only [List.length_cons] at *
      omega
  | case12 => simp at result
  | case13 =>
      rename_i hypothesis
      obtain ⟨shorter, read⟩ := length_of_consRead result
      have := hypothesis read
      simp only [List.length_cons] at *
      omega
  | case14 => simp at result
  | case15 =>
      rename_i hypothesis
      obtain ⟨shorter, read⟩ := length_of_consRead result
      have := hypothesis read
      simp only [List.length_cons] at *
      omega

/-- The tokens of a text. -/
def tokens? (chars : List Char) : Option (List Token) :=
  match chars with
  | [] => some []
  | c :: rest =>
      if isSpace c then tokens? rest
      else
        match mark? c with
        | some mark => (tokens? rest).map (mark :: ·)
        | none =>
            if c = '"' then
              match _read : readString rest with
              | none => none
              | some (text, after) =>
                  (tokens? after).map (.scalar (.string (String.ofList text)) :: ·)
            else if isNumberChar c && c != 'e' && c != 'E' then
              match number? (c :: rest.takeWhile isNumberChar) with
              | none => none
              | some number => (tokens? (rest.dropWhile isNumberChar)).map (.scalar number :: ·)
            else
              match word? (c :: rest.takeWhile Char.isAlpha) with
              | none => none
              | some value => (tokens? (rest.dropWhile Char.isAlpha)).map (.scalar value :: ·)
termination_by chars.length
decreasing_by
  · simp
  · simp
  · have := length_lt_of_readString _read
    simp only [List.length_cons]
    omega
  · have := length_dropWhile_le isNumberChar rest
    simp only [List.length_cons]
    omega
  · have := length_dropWhile_le Char.isAlpha rest
    simp only [List.length_cons]
    omega

end SourceFacts.Json
