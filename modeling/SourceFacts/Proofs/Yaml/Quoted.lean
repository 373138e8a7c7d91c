import SourceFacts.Proofs.Yaml.Cursors

namespace SourceFacts.Yaml

/-!
# Quoted scalars are read back

Between quotes a text is written word by word, with the gaps as they are. In single quotes
only the quote itself is written differently, in double quotes all that has an escape.
-/

/-! ## Escapes -/

/-- A value with a hexadecimal digit after it. -/
def withHexDigit (value : Nat) (c : Char) : Option Nat := (hexValue? [c]).map (value * 16 + ·)

/-- Hexadecimal digits are read one after the other. -/
theorem hexValue?_eq_foldlM (digits : List Char) :
    hexValue? digits = digits.foldlM withHexDigit 0 := by
  rw [hexValue?]
  congr 1
  funext value c
  simp only [withHexDigit, hexValue?, List.foldlM_cons, List.foldlM_nil]
  repeat' split
  all_goals simp

/-- A hexadecimal digit is added to the value of those before it. -/
theorem withHexDigit_upperHexDigit
    (value : Nat)
    {digit : Nat}
    (isDigit : digit < 16) :
    withHexDigit value (upperHexDigit digit) = some (value * 16 + digit) := by
  have everyDigit : ∀ digit : Fin 16, hexValue? [upperHexDigit digit] = some digit.val := by
    decide
  rw [withHexDigit, everyDigit ⟨digit, isDigit⟩, Option.map_some]

/-- There is one more digit for the next power. -/
theorem upperHex_succ
    (count value : Nat) :
    upperHex (count + 1) value =
      upperHexDigit (value / Nat.pow 16 count % 16) :: upperHex count value := by
  rw [upperHex, List.range_succ, List.reverse_append, List.reverse_singleton, List.cons_append,
    List.nil_append, List.map_cons, upperHex]

/-- There are as many digits as asked for. -/
theorem length_upperHex
    (count value : Nat) :
    (upperHex count value).length = count := by
  rw [upperHex, List.length_map, List.length_reverse, List.length_range]

/-- Digits are read back after a value. -/
theorem foldlM_upperHex
    (count value before : Nat) :
    (upperHex count value).foldlM withHexDigit before =
      some (before * Nat.pow 16 count + value % Nat.pow 16 count) := by
  induction count generalizing before with
  | zero =>
      rw [upperHex, List.range_zero, List.reverse_nil, List.map_nil, List.foldlM_nil]
      simp [Nat.mod_one]
  | succ count inductionHypothesis =>
      have split : value % Nat.pow 16 (count + 1) =
          value % Nat.pow 16 count + Nat.pow 16 count * (value / Nat.pow 16 count % 16) :=
        Nat.mod_pow_succ
      have power : Nat.pow 16 (count + 1) = 16 * Nat.pow 16 count := Nat.pow_succ'
      have isDigit : value / Nat.pow 16 count % 16 < 16 := Nat.mod_lt _ (by decide)
      rw [upperHex_succ, List.foldlM_cons, withHexDigit_upperHexDigit before isDigit,
        Option.bind_eq_bind, Option.bind_some, inductionHypothesis, split, power, Nat.add_mul,
        Nat.mul_assoc, Nat.add_assoc, Nat.add_comm (value % _), Nat.mul_comm (_ % _)]

/-- Digits that are enough for a value are read back. -/
theorem hexValue?_upperHex
    {count value : Nat}
    (enough : value < Nat.pow 16 count) :
    hexValue? (upperHex count value) = some value := by
  rw [hexValue?_eq_foldlM, foldlM_upperHex, Nat.zero_mul, Nat.zero_add, Nat.mod_eq_of_lt enough]

/-- A letter that stands for a character is read as it. -/
theorem readEscape_letter
    {letter c : Char}
    (stands : escaped? letter = some c)
    (rest : List Char) :
    readEscape (letter :: rest) = some (c, 1) := by
  simp [readEscape, stands]

/-- The digits of a character are read as it. -/
theorem readEscape_digits
    {letter c : Char}
    {count : Nat}
    (noLetter : escaped? letter = none)
    (counts : escapeDigits? letter = some count)
    (enough : c.toNat < Nat.pow 16 count)
    (rest : List Char) :
    readEscape (letter :: upperHex count c.toNat ++ rest) = some (c, count + 1) := by
  have digits : (upperHex count c.toNat ++ rest).take count = upperHex count c.toNat :=
    List.take_left' (length_upperHex count c.toNat)
  have isChar : c.toNat.isValidChar := c.valid
  simp [readEscape, noLetter, counts, digits, length_upperHex, hexValue?_upperHex enough, isChar]

/-- What is written for a character after a backslash is read as it. -/
theorem readEscape_escapeOf
    (c : Char)
    (rest : List Char) :
    readEscape (escapeOf c ++ rest) = some (c, (escapeOf c).length) := by
  unfold escapeOf
  split
  case h_15 =>
    split
    · rename_i small
      rw [readEscape_digits rfl rfl (Nat.lt_succ_of_le small), List.length_cons, length_upperHex]
    · split
      · rename_i small
        rw [readEscape_digits rfl rfl (Nat.lt_succ_of_le small), List.length_cons,
          length_upperHex]
      · have small : c.toNat < Nat.pow 16 8 := c.val.toNat_lt
        rw [readEscape_digits rfl rfl small, List.length_cons, length_upperHex]
  all_goals exact readEscape_letter rfl rest

/-- What is written after a backslash begins with a character that ends no line. -/
theorem exists_escapeOf (c : Char) :
    ∃ letter digits, escapeOf c = letter :: digits ∧ isBreak letter = false := by
  unfold escapeOf
  split
  case h_15 =>
    split
    · exact ⟨_, _, rfl, rfl⟩
    · split <;> exact ⟨_, _, rfl, rfl⟩
  all_goals exact ⟨_, _, rfl, rfl⟩

/-! ## Words -/

/-- Characters before which a word in quotes ends: a gap, or a quote that is not doubled. -/
def EndsQuotedWord (quote : Char) (rest : List Char) : Prop :=
  ∀ c ∈ rest.head?, isGap c = true ∨ (c = quote ∧ (rest.drop 1).head? ≠ some '\'')

/-- Some characters stand for a word between quotes, wherever they are. -/
def ReadsWord (quote : Char) (written word : List Char) : Prop :=
  ∀ {rest : List Char}, EndsQuotedWord quote rest →
    ∀ {fuel : Nat}, written.length < fuel →
      ∀ (before : List Char) {cursor : Cursor} {column : Nat},
        cursor.At (written ++ rest) column →
        ∃ after, readQuotedWord quote fuel before cursor = some (before ++ word, false, after) ∧
          after.At rest (column + written.length)

/-- Some characters stand for one character between quotes, wherever they are. -/
def ReadsChar (quote : Char) (written : List Char) (c : Char) : Prop :=
  ∀ (rest : List Char) (fuel : Nat) (before : List Char) {cursor : Cursor} {column : Nat},
    cursor.At (written ++ rest) column →
    ∃ next, readQuotedWord quote (fuel + 1) before cursor =
        readQuotedWord quote fuel (before ++ [c]) next ∧
      next.At rest (column + written.length)

/-- A word is read character by character. -/
theorem ReadsWord.flatMap
    {quote : Char}
    (isQuote : isGap quote = false)
    {write : Char → List Char}
    {word : List Char}
    (reads : ∀ c ∈ word, ReadsChar quote (write c) c ∧ write c ≠ []) :
    ReadsWord quote (word.flatMap write) word := by
  induction word with
  | nil =>
      intro rest ends fuel enough before cursor column stands
      obtain ⟨fuel, rfl⟩ := Nat.exists_eq_succ_of_ne_zero (Nat.ne_of_gt enough)
      refine ⟨cursor, ?_, stands⟩
      rw [List.flatMap_nil, List.nil_append] at stands
      rw [readQuotedWord, List.append_nil]
      cases rest with
      | nil =>
          rw [stands.peek?_nil]
      | cons c more =>
          rw [stands.peek?]
          rcases ends c rfl with gap | ⟨rfl, notDoubled⟩
          · simp [gap]
          · have single : more.head? ≠ some '\'' := notDoubled
            simp [isQuote, stands.rest, single]
  | cons c more inductionHypothesis =>
      rw [List.forall_mem_cons] at reads
      intro rest ends fuel enough before cursor column stands
      rw [List.flatMap_cons, List.length_append] at enough
      rw [List.flatMap_cons, List.append_assoc] at stands
      have someLength := List.length_pos_iff.mpr reads.1.2
      obtain ⟨fuel, rfl⟩ := Nat.exists_eq_succ_of_ne_zero (n := fuel) (by omega)
      obtain ⟨next, isNext, nextStands⟩ := reads.1.1 _ fuel before stands
      have enoughForRest : (more.flatMap write).length < fuel := by omega
      obtain ⟨after, isRead, afterStands⟩ :=
        inductionHypothesis reads.2 ends enoughForRest (before ++ [c]) nextStands
      refine ⟨after, ?_, ?_⟩
      · rw [isNext, isRead, List.append_assoc, List.singleton_append]
      · rw [List.flatMap_cons, List.length_append, ← Nat.add_assoc]
        exact afterStands

/-- What a character is written as in single quotes. -/
def singleQuotedChar (c : Char) : List Char := if c = '\'' then [c, c] else [c]

/-- Every character is written in single quotes. -/
theorem singleQuotedChar_ne_nil (c : Char) : singleQuotedChar c ≠ [] := by
  rw [singleQuotedChar]
  split <;> exact List.cons_ne_nil _ _

/-- A character that is no gap, in single quotes. -/
theorem readsChar_single
    {c : Char}
    (noGap : isGap c = false) :
    ReadsChar '\'' (singleQuotedChar c) c := by
  intro rest fuel before cursor column stands
  rw [singleQuotedChar] at stands ⊢
  split at stands
  · rename_i isQuote
    obtain rfl := isQuote
    rw [if_pos rfl]
    refine ⟨cursor.advanceBy 2, ?_, stands.advanceBy⟩
    rw [readQuotedWord, stands.peek?]
    simp [noGap, stands.rest]
  · rename_i noQuote
    rw [if_neg noQuote]
    refine ⟨cursor.advance, ?_, stands.advance⟩
    rw [readQuotedWord, stands.peek?]
    simp [noGap, noQuote]

/-- A character other than a space, in double quotes. -/
theorem readsChar_double
    {c : Char}
    (noSpace : c ≠ ' ') :
    ReadsChar '"' (doubleQuotedChar c) c := by
  intro rest fuel before cursor column stands
  rw [doubleQuotedChar] at stands ⊢
  split at stands
  · rename_i escapes
    rw [if_pos escapes]
    refine ⟨cursor.advanceBy ((escapeOf c).length + 1), ?_, stands.advanceBy⟩
    have noBreak : cursor.advance.isAtAny isBreak = false := by
      obtain ⟨letter, digits, isEscape, noBreak⟩ := exists_escapeOf c
      rw [Cursor.isAtAny, stands.advance.rest, isEscape]
      exact noBreak
    have isRest : cursor.rest.drop 1 = escapeOf c ++ rest := by
      rw [stands.rest]
      rfl
    rw [readQuotedWord, stands.peek?]
    simp only [isRest, noBreak, readEscape_escapeOf]
    rfl
  · rename_i noEscape
    rw [if_neg noEscape]
    refine ⟨cursor.advance, ?_, stands.advance⟩
    simp only [Bool.or_eq_true, Bool.not_eq_true', decide_eq_true_eq, not_or,
      Bool.not_eq_false] at noEscape
    obtain ⟨⟨⟨printable, noBreak⟩, noQuote⟩, noBackslash⟩ := noEscape
    have noGap : isGap c = false := by
      rw [isGap_eq_false]
      refine ⟨Bool.eq_false_iff.mpr fun blank => ?_, Bool.eq_false_iff.mpr noBreak⟩
      exact noSpace (isBlank_of_printable blank printable)
    rw [readQuotedWord, stands.peek?]
    simp [noGap, noQuote, noBackslash]

/-! ## Gaps -/

/-- Some characters stand for a gap between words in quotes, wherever they are. -/
structure ReadsGap (written gap : List Char) : Prop where
  begins : written.head?.any isGap = true
  read : ∀ {rest : List Char}, StartsWord rest →
    ∀ {fuel : Nat}, written.length < fuel →
      ∀ {cursor : Cursor} {column : Nat}, cursor.At (written ++ rest) column →
        0 < column →
        ∃ found after last, readGap 0 fuel {} cursor = some (found, after) ∧ found.text = gap ∧
          after.At rest last ∧ 0 < last

/-- A gap begins with a character of a gap. -/
theorem ReadsGap.exists_first
    {written gap : List Char}
    (between : ReadsGap written gap) :
    ∃ first more, written = first :: more ∧ isGap first = true := by
  have begins := between.begins
  cases written with
  | nil =>
      cases begins
  | cons first more =>
      exact ⟨first, more, rfl, by simpa using begins⟩

/-- Blanks stand for themselves. -/
theorem ReadsGap.blanks
    {blanks : List Char}
    (areBlanks : ∀ c ∈ blanks, isBlank c = true)
    (printable : ∀ c ∈ blanks, isPrintable c = true)
    (nonempty : blanks ≠ []) :
    ReadsGap blanks blanks := by
  constructor
  · cases blanks with
    | nil =>
        exact absurd rfl nonempty
    | cons c more =>
        simp [isGap, areBlanks c List.mem_cons_self]
  · intro rest starts fuel enough cursor column stands positive
    obtain ⟨after, isRead, afterStands⟩ :
        ∃ after, readGap 0 fuel {} cursor = some ({ blanks }, after) ∧
          after.At rest (column + blanks.length) :=
      readGap_blanks areBlanks printable starts enough stands
    exact ⟨_, after, _, isRead, rfl, afterStands, Nat.lt_of_lt_of_le positive
      (Nat.le_add_right _ _)⟩

/-- Line breaks other than line feeds stand for themselves, with the indentation after them. -/
theorem ReadsGap.breaks
    {own : Nat}
    (positive : 0 < own)
    {first : Char}
    {breaks : List Char}
    (areBreaks : ∀ c ∈ first :: breaks, isBreak c = true)
    (printable : ∀ c ∈ first :: breaks, isPrintable c = true)
    (kept : first ≠ '\n') :
    ReadsGap (first :: breaks ++ indentation own) (first :: breaks) := by
  constructor
  · simp [isGap, areBreaks first List.mem_cons_self]
  · intro rest starts fuel enough cursor column stands _
    obtain ⟨after, isRead, afterStands⟩ :
        ∃ after, readGap 0 fuel {} cursor =
            some ({ crossesLine := true, lineBreak := [first], moreBreaks := breaks }, after) ∧
          after.At rest own :=
      readGap_breaks areBreaks printable starts enough stands
    refine ⟨_, after, _, isRead, ?_, afterStands, positive⟩
    simp [Gap.text, kept]

/-! ## Texts -/

/-- Some characters stand for a text between quotes: they are words with gaps between them. -/
inductive Quoted (quote : Char) : List Char → List Char → Prop
  | word
      {written word : List Char}
      (reads : ReadsWord quote written word) :
      Quoted quote written word
  | gap
      {written word writtenGap gap writtenRest rest : List Char}
      (reads : ReadsWord quote written word)
      (between : ReadsGap writtenGap gap)
      (starts : StartsWord writtenRest)
      (goesOn : Quoted quote writtenRest rest) :
      Quoted quote (written ++ (writtenGap ++ writtenRest)) (word ++ (gap ++ rest))

/-- After a word, either the closing quote or a gap is read. -/
theorem ReadsWord.readQuoted
    {quote : Char}
    {written word : List Char}
    (reads : ReadsWord quote written word)
    {rest : List Char}
    (ends : EndsQuotedWord quote rest)
    (nonempty : rest ≠ [])
    (fuel : Nat)
    (text : List Char)
    {cursor : Cursor}
    {column : Nat}
    (stands : cursor.At (written ++ rest) column)
    (positive : 0 < column) :
    ∃ after : Cursor, after.At rest (column + written.length) ∧
      readQuoted quote (fuel + 1) text cursor =
        if after.isAt quote then some (text ++ word, after.advance)
        else
          (readGap 0 (after.rest.length + 1) {} after).bind fun found =>
            Yaml.readQuoted quote fuel (text ++ word ++ found.1.text) found.2 := by
  have enough : written.length < cursor.rest.length + 1 := by
    rw [stands.rest, List.length_append]
    omega
  obtain ⟨after, isRead, afterStands⟩ := reads ends enough [] stands
  refine ⟨after, afterStands, ?_⟩
  have noMark := stands.atDocumentMark positive
  have noEnd : cursor.atEnd = false := by
    simp [Cursor.atEnd, stands.rest, nonempty]
  rw [Yaml.readQuoted]
  simp only [noMark, noEnd, isRead, Bool.or_self, Bool.false_eq_true, ↓reduceIte,
    List.nil_append]
  cases readGap 0 (after.rest.length + 1) {} after <;> rfl

/-- A text between quotes is read up to the closing one. -/
theorem Quoted.read
    {quote : Char}
    {written chars : List Char}
    (quoted : Quoted quote written chars)
    (isQuote : isGap quote = false)
    {rest : List Char}
    (single : rest.head? ≠ some '\'')
    {fuel : Nat}
    (enough : written.length < fuel)
    (text : List Char)
    {cursor : Cursor}
    {column : Nat}
    (stands : cursor.At (written ++ quote :: rest) column)
    (positive : 0 < column) :
    ∃ after last, readQuoted quote fuel text cursor = some (text ++ chars, after) ∧
      after.At rest last := by
  induction quoted generalizing fuel text cursor column with
  | @word written word reads =>
      obtain ⟨fuel, rfl⟩ := Nat.exists_eq_succ_of_ne_zero (Nat.ne_of_gt (Nat.zero_lt_of_lt enough))
      have ends : EndsQuotedWord quote (quote :: rest) := by
        rintro c ⟨rfl⟩
        exact Or.inr ⟨rfl, single⟩
      obtain ⟨after, afterStands, isRead⟩ :=
        reads.readQuoted ends (List.cons_ne_nil quote rest) fuel text stands positive
      refine ⟨after.advance, _, ?_, afterStands.advance⟩
      rw [isRead, afterStands.isAt, beq_self_eq_true, if_pos rfl]
  | @gap written word writtenGap gap writtenRest chars reads between starts goesOn
      inductionHypothesis =>
      obtain ⟨fuel, rfl⟩ := Nat.exists_eq_succ_of_ne_zero (Nat.ne_of_gt (Nat.zero_lt_of_lt enough))
      obtain ⟨first, moreGap, rfl, firstGap⟩ := between.exists_first
      rw [List.append_assoc, List.append_assoc] at stands
      have ends : EndsQuotedWord quote (first :: moreGap ++ (writtenRest ++ quote :: rest)) := by
        rintro c ⟨rfl⟩
        exact Or.inl firstGap
      obtain ⟨afterWord, afterWordStands, wordRead⟩ :=
        reads.readQuoted ends (List.cons_ne_nil first _) fuel text stands positive
      have noQuote : afterWord.isAt quote = false := by
        rw [afterWordStands.isAt, beq_eq_false_iff_ne]
        rintro rfl
        rw [isQuote] at firstGap
        cases firstGap
      have startsRest : StartsWord (writtenRest ++ quote :: rest) := by
        cases writtenRest with
        | nil =>
            rintro c ⟨rfl⟩
            exact isQuote
        | cons c more =>
            exact starts
      have enoughForGap : (first :: moreGap).length < afterWord.rest.length + 1 := by
        rw [afterWordStands.rest, List.length_append]
        omega
      obtain ⟨found, afterGap, last, gapRead, rfl, afterGapStands, stillPositive⟩ :=
        between.read startsRest enoughForGap afterWordStands (by omega)
      have enoughForRest : writtenRest.length < fuel := by
        simp only [List.length_append, List.length_cons] at enough
        omega
      obtain ⟨after, final, isRead, afterStands⟩ :=
        inductionHypothesis enoughForRest (text ++ word ++ found.text) afterGapStands
          stillPositive
      refine ⟨after, final, ?_, afterStands⟩
      rw [wordRead, noQuote, gapRead, Option.bind_some, isRead, List.append_assoc,
        List.append_assoc]
      rfl

/-- Spaces are written as they are where a space is. -/
theorem flatMap_spaces
    {write : Char → List Char}
    (same : write ' ' = [' '])
    {spaces : List Char}
    (areSpaces : ∀ c ∈ spaces, c = ' ') :
    spaces.flatMap write = spaces := by
  induction spaces with
  | nil =>
      rfl
  | cons c rest inductionHypothesis =>
      rw [List.forall_mem_cons] at areSpaces
      rw [List.flatMap_cons, inductionHypothesis areSpaces.2, areSpaces.1, same]
      rfl

/-! ## Double quotes -/

/-- A character other than a space is written in double quotes beginning with no gap. -/
theorem exists_doubleQuotedChar
    {c : Char}
    (noSpace : c ≠ ' ') :
    ∃ first more, doubleQuotedChar c = first :: more ∧ isGap first = false := by
  rw [doubleQuotedChar]
  split
  · exact ⟨_, _, rfl, rfl⟩
  · rename_i noEscape
    simp only [Bool.or_eq_true, Bool.not_eq_true', not_or, Bool.not_eq_false] at noEscape
    refine ⟨c, [], rfl, isGap_eq_false.mpr ⟨?_, by simpa using noEscape.1.1.2⟩⟩
    exact Bool.eq_false_iff.mpr fun blank =>
      noSpace (isBlank_of_printable blank noEscape.1.1.1)

/-- Every text can be written in double quotes. -/
theorem quoted_double (chars : List Char) :
    Quoted '"' (chars.flatMap doubleQuotedChar) chars := by
  induction isLength : chars.length using Nat.strongRecOn generalizing chars with
  | ind length inductionHypothesis =>
      obtain ⟨word, blanks, rest, rfl, noSpace, areSpaces, startsRest, restOfNil⟩ :=
        exists_split (· = ' ') chars
      simp only [decide_eq_false_iff_not, decide_eq_true_eq] at noSpace areSpaces startsRest
      have reads : ReadsWord '"' (word.flatMap doubleQuotedChar) word := by
        refine ReadsWord.flatMap rfl fun c member => ⟨readsChar_double (noSpace c member), ?_⟩
        obtain ⟨first, more, isWritten, -⟩ := exists_doubleQuotedChar (noSpace c member)
        rw [isWritten]
        exact List.cons_ne_nil first more
      rw [List.flatMap_append, List.flatMap_append, flatMap_spaces rfl areSpaces]
      by_cases noBlank : blanks = []
      · rw [noBlank, restOfNil noBlank]
        simpa using Quoted.word reads
      · have startsWritten : StartsWord (rest.flatMap doubleQuotedChar) := by
          cases rest with
          | nil =>
              intro d isFirst
              cases isFirst
          | cons c more =>
              obtain ⟨first, others, isWritten, noGap⟩ :=
                exists_doubleQuotedChar (startsRest c rfl)
              rw [List.flatMap_cons, isWritten]
              rintro d ⟨rfl⟩
              exact noGap
        refine Quoted.gap reads (ReadsGap.blanks ?_ ?_ noBlank) startsWritten ?_
        · intro c member
          rw [areSpaces c member]
          rfl
        · intro c member
          rw [areSpaces c member]
          decide
        · refine inductionHypothesis rest.length ?_ rest rfl
          have someLength := List.length_pos_iff.mpr noBlank
          rw [← isLength, List.length_append, List.length_append]
          omega

/-! ## Single quotes -/

/-- Characters of one line are written one by one. -/
theorem singleQuotedChars_line
    {own : Nat}
    {line : List Char}
    (oneLine : ∀ c ∈ line, isBreak c = false)
    (rest : List Char) :
    singleQuotedChars own false (line ++ rest) =
      line.flatMap singleQuotedChar ++ singleQuotedChars own false rest := by
  induction line with
  | nil =>
      rfl
  | cons c more inductionHypothesis =>
      rw [List.forall_mem_cons] at oneLine
      rw [List.cons_append, singleQuotedChars, oneLine.1, inductionHypothesis oneLine.2,
        List.flatMap_cons, singleQuotedChar]
      simp

/-- Line breaks are written as they are, with indentation after them. -/
theorem singleQuotedChars_breaks
    {own : Nat}
    {breaks rest : List Char}
    (areBreaks : ∀ c ∈ breaks, isBreak c = true)
    (starts : StartsWord rest)
    (afterBreak : Bool) :
    singleQuotedChars own afterBreak (breaks ++ rest) =
      breaks ++ (if afterBreak || !breaks.isEmpty then indentation own else []) ++
        singleQuotedChars own false rest := by
  induction breaks generalizing afterBreak with
  | nil =>
      cases rest with
      | nil =>
          simp [singleQuotedChars]
      | cons c more =>
          have noBreak := (isGap_eq_false.mp (starts c rfl)).2
          simp [singleQuotedChars, noBreak]
  | cons c more inductionHypothesis =>
      rw [List.forall_mem_cons] at areBreaks
      rw [List.cons_append, singleQuotedChars, if_pos areBreaks.1,
        inductionHypothesis areBreaks.2 true]
      simp

/-- Neighbours that nowhere follow each other do not do so in a part either. -/
theorem haveNeighbours_append
    {first second : Char → Bool}
    {before after : List Char}
    (never : haveNeighbours first second (before ++ after) = false) :
    haveNeighbours first second before = false ∧ haveNeighbours first second after = false := by
  induction before with
  | nil =>
      exact ⟨rfl, never⟩
  | cons c more inductionHypothesis =>
      cases more with
      | nil =>
          refine ⟨rfl, ?_⟩
          cases after with
          | nil =>
              rfl
          | cons d others =>
              rw [List.cons_append, List.nil_append, haveNeighbours, Bool.or_eq_false_iff] at never
              exact never.2
      | cons d others =>
          rw [List.cons_append, List.cons_append, haveNeighbours, Bool.or_eq_false_iff] at never
          obtain ⟨neverBefore, neverAfter⟩ := inductionHypothesis never.2
          rw [haveNeighbours, never.1, neverBefore]
          exact ⟨rfl, neverAfter⟩

/-- Where blanks and line breaks are no neighbours, there are only the ones or the others. -/
theorem blanks_or_breaks
    {gap : List Char}
    (areGaps : ∀ c ∈ gap, isGap c = true)
    (printable : ∀ c ∈ gap, isPrintable c = true)
    (noBreakAfter : haveNeighbours (· = ' ') isBreak gap = false)
    (noBlankAfter : haveNeighbours isBreak (· = ' ') gap = false) :
    (∀ c ∈ gap, isBlank c = true) ∨ (∀ c ∈ gap, isBreak c = true) := by
  induction gap with
  | nil =>
      exact Or.inl nofun
  | cons c more inductionHypothesis =>
      rw [List.forall_mem_cons] at areGaps printable
      cases more with
      | nil =>
          simpa [isGap] using areGaps.1
      | cons d others =>
          rw [haveNeighbours, Bool.or_eq_false_iff, Bool.and_eq_false_iff] at noBreakAfter
          rw [haveNeighbours, Bool.or_eq_false_iff, Bool.and_eq_false_iff] at noBlankAfter
          have isGap := areGaps.1
          rw [Yaml.isGap, Bool.or_eq_true] at isGap
          rcases inductionHypothesis areGaps.2 printable.2 noBreakAfter.2 noBlankAfter.2 with
            areBlanks | areBreaks
          · left
            have isSpace := isBlank_of_printable (areBlanks d List.mem_cons_self)
              (printable.2 d List.mem_cons_self)
            refine List.forall_mem_cons.mpr ⟨isGap.resolve_right fun isBreak => ?_, areBlanks⟩
            simp [isBreak, isSpace] at noBlankAfter
          · right
            refine List.forall_mem_cons.mpr ⟨isGap.resolve_left fun isBlank => ?_, areBreaks⟩
            have isSpace := isBlank_of_printable isBlank printable.1
            simp [isSpace, areBreaks d List.mem_cons_self] at noBreakAfter

/-- A text without line feeds can be written in single quotes unless blanks and line breaks are
neighbours in it. -/
theorem quoted_single
    {own : Nat}
    (positive : 0 < own)
    {chars : List Char}
    (printable : ∀ c ∈ chars, isPrintable c = true)
    (noLineFeed : '\n' ∉ chars)
    (noBreakAfter : haveNeighbours (· = ' ') isBreak chars = false)
    (noBlankAfter : haveNeighbours isBreak (· = ' ') chars = false) :
    Quoted '\'' (singleQuotedChars own false chars) chars := by
  induction isLength : chars.length using Nat.strongRecOn generalizing chars with
  | ind length inductionHypothesis =>
      obtain ⟨word, gap, rest, rfl, noGaps, areGaps, startsRest, restOfNil⟩ :=
        exists_split isGap chars
      simp only [List.forall_mem_append] at printable
      have noneBefore := haveNeighbours_append (haveNeighbours_append noBreakAfter).2
      have noneAfter := haveNeighbours_append (haveNeighbours_append noBlankAfter).2
      have reads : ReadsWord '\'' (word.flatMap singleQuotedChar) word := by
        refine ReadsWord.flatMap rfl fun c member =>
          ⟨readsChar_single (noGaps c member), singleQuotedChar_ne_nil c⟩
      rw [singleQuotedChars_line fun c member => (isGap_eq_false.mp (noGaps c member)).2]
      by_cases noGap : gap = []
      · rw [noGap, restOfNil noGap]
        simpa [singleQuotedChars] using Quoted.word reads
      · have shorter : rest.length < length := by
          have someLength := List.length_pos_iff.mpr noGap
          rw [← isLength, List.length_append, List.length_append]
          omega
        have noLineFeedAfter : '\n' ∉ rest := fun member => noLineFeed
          (List.mem_append_right word (List.mem_append_right gap member))
        have goesOn := inductionHypothesis rest.length shorter printable.2.2 noLineFeedAfter
          noneBefore.2 noneAfter.2 rfl
        have startsWritten : StartsWord (singleQuotedChars own false rest) := by
          cases rest with
          | nil =>
              exact nofun
          | cons c more =>
              have noGap : isGap c = false := startsRest c rfl
              rw [singleQuotedChars, (isGap_eq_false.mp noGap).2]
              rintro d isFirst
              obtain rfl : c = d := by
                by_cases isQuote : c = '\'' <;> simpa [isQuote] using isFirst
              exact noGap
        rcases blanks_or_breaks areGaps printable.2.1 noneBefore.1 noneAfter.1 with
          areBlanks | areBreaks
        · have areSpaces : ∀ c ∈ gap, c = ' ' := fun c member =>
            isBlank_of_printable (areBlanks c member) (printable.2.1 c member)
          have asTheyAre : singleQuotedChars own false (gap ++ rest) =
              gap ++ singleQuotedChars own false rest := by
            have oneLine : ∀ c ∈ gap, isBreak c = false := fun c member => by
              rw [areSpaces c member]
              rfl
            rw [singleQuotedChars_line oneLine, flatMap_spaces rfl areSpaces]
          rw [asTheyAre]
          exact Quoted.gap reads (ReadsGap.blanks areBlanks printable.2.1 noGap) startsWritten
            goesOn
        · obtain ⟨first, breaks, rfl⟩ := List.exists_cons_of_ne_nil noGap
          have kept : first ≠ '\n' := by
            rintro rfl
            exact noLineFeed (List.mem_append_right word List.mem_cons_self)
          rw [singleQuotedChars_breaks areBreaks startsRest]
          exact Quoted.gap reads (ReadsGap.breaks positive areBreaks printable.2.1 kept)
            startsWritten goesOn

end SourceFacts.Yaml
