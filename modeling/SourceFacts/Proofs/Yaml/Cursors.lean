import SourceFacts.Yaml.Printer

namespace SourceFacts.Yaml

/-!
# Words and gaps

A text that is written as it is consists of words with gaps between them. What is read of a
gap depends on its characters alone, and so does the column in which the next word begins.
-/

/-! ## Characters -/

/-- A line break that is written as it is. -/
theorem isBreak_of_printable
    {c : Char}
    (ends : isBreak c = true)
    (printable : isPrintable c = true) :
    c = '\n' ∨ c = '\u2028' ∨ c = '\u2029' := by
  simp only [isBreak, Bool.or_eq_true, decide_eq_true_eq] at ends
  rcases ends with (((rfl | rfl) | rfl) | rfl) | rfl
  · exact absurd printable (by decide)
  · exact Or.inl rfl
  · exact absurd printable (by decide)
  · exact Or.inr (Or.inl rfl)
  · exact Or.inr (Or.inr rfl)

/-- A blank that is written as it is. -/
theorem isBlank_of_printable
    {c : Char}
    (blank : isBlank c = true)
    (printable : isPrintable c = true) :
    c = ' ' := by
  simp only [isBlank, Bool.or_eq_true, decide_eq_true_eq] at blank
  rcases blank with rfl | rfl
  · rfl
  · exact absurd printable (by decide)

/-- Line breaks are no blanks. -/
theorem isBlank_of_isBreak
    {c : Char}
    (ends : isBreak c = true) :
    isBlank c = false := by
  simp only [isBreak, Bool.or_eq_true, decide_eq_true_eq] at ends
  rcases ends with (((rfl | rfl) | rfl) | rfl) | rfl <;> rfl

/-- What is no gap is neither a blank nor a line break. -/
theorem isGap_eq_false
    {c : Char} :
    isGap c = false ↔ isBlank c = false ∧ isBreak c = false := by
  rw [isGap, Bool.or_eq_false_iff]

/-! ## Places -/

/-- A cursor in a column, before some characters. -/
structure Cursor.At (cursor : Cursor) (rest : List Char) (column : Nat) : Prop where
  rest : cursor.rest = rest
  column : cursor.column = column

namespace Cursor.At

variable {cursor : Cursor} {c : Char} {rest : List Char} {column : Nat}

/-- The next character is the first one. -/
theorem peek? (stands : cursor.At (c :: rest) column) : cursor.peek? = some c := by
  rw [Cursor.peek?, stands.rest, List.head?_cons]

/-- There is no next character at the end. -/
theorem peek?_nil (stands : cursor.At [] column) : cursor.peek? = none := by
  rw [Cursor.peek?, stands.rest, List.head?_nil]

/-- The next character is looked at. -/
theorem isAt (stands : cursor.At (c :: rest) column) (other : Char) :
    cursor.isAt other = (c == other) := by
  rw [Cursor.isAt, stands.rest, List.head?_cons]
  rfl

/-- A property of the next character is looked at. -/
theorem isAtAny (stands : cursor.At (c :: rest) column) (holds : Char → Bool) :
    cursor.isAtAny holds = holds c := by
  rw [Cursor.isAtAny, stands.rest, List.head?_cons, Option.any_some]

/-- A character is passed. -/
theorem advance (stands : cursor.At (c :: rest) column) :
    cursor.advance.At rest (column + 1) := by
  obtain ⟨isRest, isColumn⟩ := stands
  constructor <;> simp [Cursor.advance, isRest, isColumn]

/-- Some characters are passed. -/
theorem advanceBy
    {word : List Char}
    (stands : cursor.At (word ++ rest) column) :
    (cursor.advanceBy word.length).At rest (column + word.length) := by
  obtain ⟨isRest, isColumn⟩ := stands
  constructor <;> simp [Cursor.advanceBy, isRest, isColumn]

/-- Outside of the first column there is no mark between documents. -/
theorem atDocumentMark (stands : cursor.At rest column) (positive : 0 < column) :
    cursor.atDocumentMark = false := by
  rw [Cursor.atDocumentMark, stands.column]
  simp [Nat.ne_of_gt positive]

/-- A line break that is written as it is is read as it is. -/
theorem readBreak
    (stands : cursor.At (c :: rest) column)
    (ends : isBreak c = true)
    (printable : isPrintable c = true) :
    ∃ after, cursor.readBreak = ([c], after) ∧ after.At rest 0 := by
  refine ⟨{ rest, index := cursor.index + 1, line := cursor.line + 1, column := 0 }, ?_,
    rfl, rfl⟩
  rw [Cursor.readBreak, stands.rest]
  rcases isBreak_of_printable ends printable with rfl | rfl | rfl <;> rfl

end Cursor.At

/-! ## Gaps -/

/-- A gap with another character. -/
def Gap.add (gap : Gap) (c : Char) : Gap :=
  if isBreak c then
    if gap.crossesLine then { gap with moreBreaks := gap.moreBreaks ++ [c] }
    else { crossesLine := true, lineBreak := [c] }
  else if gap.crossesLine then gap
  else { gap with blanks := gap.blanks ++ [c] }

/-- The column after some characters. -/
def columnAfter : Nat → List Char → Nat
  | column, [] => column
  | column, c :: rest => columnAfter (if isBreak c then 0 else column + 1) rest

/-- Characters that end where a word or the text ends. -/
def StartsWord (chars : List Char) : Prop := ∀ c ∈ chars.head?, isGap c = false

/-- A gap that is written as it is is read character by character. -/
theorem readGap_append
    {least : Nat}
    {chars rest : List Char}
    (areGaps : ∀ c ∈ chars, isGap c = true)
    (printable : ∀ c ∈ chars, isPrintable c = true)
    (starts : StartsWord rest)
    {fuel : Nat}
    (enough : chars.length < fuel)
    (gap : Gap)
    {cursor : Cursor}
    {column : Nat}
    (stands : cursor.At (chars ++ rest) column) :
    ∃ after, readGap least fuel gap cursor = some (chars.foldl Gap.add gap, after) ∧
      after.At rest (columnAfter column chars) := by
  induction chars generalizing fuel gap cursor column with
  | nil =>
      cases fuel with
      | zero =>
          cases enough
      | succ fuel =>
          refine ⟨cursor, ?_, stands⟩
          rw [readGap]
          cases rest with
          | nil =>
              rw [stands.peek?_nil]
              rfl
          | cons c more =>
              have noGap := isGap_eq_false.mp (starts c rfl)
              rw [stands.peek?]
              simp [noGap.1, noGap.2]
  | cons c chars inductionHypothesis =>
      cases fuel with
      | zero =>
          cases enough
      | succ fuel =>
          rw [List.forall_mem_cons] at areGaps printable
          rw [List.length_cons, Nat.succ_lt_succ_iff] at enough
          rw [readGap, stands.peek?]
          rw [List.foldl_cons, columnAfter]
          cases ends : isBreak c with
          | true =>
              obtain ⟨next, isNext, nextStands⟩ := stands.readBreak ends printable.1
              obtain ⟨after, isRead, afterStands⟩ :=
                inductionHypothesis areGaps.2 printable.2 enough (gap.add c) nextStands
              refine ⟨after, ?_, afterStands⟩
              simp only [isBlank_of_isBreak ends, Bool.false_eq_true, ↓reduceIte, isNext]
              rw [← isRead, Gap.add, if_pos ends]
              split <;> rfl
          | false =>
              have blank : isBlank c = true := by
                simpa [isGap, ends] using areGaps.1
              have isSpace := isBlank_of_printable blank printable.1
              obtain ⟨after, isRead, afterStands⟩ :=
                inductionHypothesis areGaps.2 printable.2 enough (gap.add c) stands.advance
              refine ⟨after, ?_, afterStands⟩
              have noTab : (decide (c = '\t') && decide (cursor.column < least)) = false := by
                rw [isSpace]
                rfl
              simp only [blank, ↓reduceIte, noTab, Bool.false_eq_true]
              rw [← isRead, Gap.add, ends]
              split <;> rfl

/-- Blanks are kept unless they begin a line. -/
theorem foldl_add_blanks
    {chars : List Char}
    (areBlanks : ∀ c ∈ chars, isBreak c = false)
    (gap : Gap) :
    chars.foldl Gap.add gap =
      if gap.crossesLine then gap else { gap with blanks := gap.blanks ++ chars } := by
  induction chars generalizing gap with
  | nil =>
      rw [List.foldl_nil, List.append_nil]
      split <;> rfl
  | cons c rest inductionHypothesis =>
      rw [List.forall_mem_cons] at areBlanks
      rw [List.foldl_cons, inductionHypothesis areBlanks.2, Gap.add, areBlanks.1]
      cases crosses : gap.crossesLine <;> simp [crosses]

/-- Line breaks after the first one are kept. -/
theorem foldl_add_breaks
    {chars : List Char}
    (areBreaks : ∀ c ∈ chars, isBreak c = true)
    {gap : Gap}
    (crosses : gap.crossesLine = true) :
    chars.foldl Gap.add gap = { gap with moreBreaks := gap.moreBreaks ++ chars } := by
  induction chars generalizing gap with
  | nil =>
      rw [List.foldl_nil, List.append_nil]
  | cons c rest inductionHypothesis =>
      rw [List.forall_mem_cons] at areBreaks
      have added : gap.add c = { gap with moreBreaks := gap.moreBreaks ++ [c] } := by
        rw [Gap.add, if_pos areBreaks.1, if_pos crosses]
      have stillCrosses : (gap.add c).crossesLine = true := by
        rw [added]
        exact crosses
      rw [List.foldl_cons, inductionHypothesis areBreaks.2 stillCrosses, added]
      simp

/-- The column after some characters and others is that after the others. -/
theorem columnAfter_append
    (column : Nat)
    (before after : List Char) :
    columnAfter column (before ++ after) = columnAfter (columnAfter column before) after := by
  induction before generalizing column with
  | nil =>
      rfl
  | cons c rest inductionHypothesis =>
      exact inductionHypothesis _

/-- On one line every character takes a column. -/
theorem columnAfter_of_line
    {column : Nat}
    {chars : List Char}
    (oneLine : ∀ c ∈ chars, isBreak c = false) :
    columnAfter column chars = column + chars.length := by
  induction chars generalizing column with
  | nil =>
      rfl
  | cons c rest inductionHypothesis =>
      rw [List.forall_mem_cons] at oneLine
      rw [columnAfter, oneLine.1, inductionHypothesis oneLine.2, List.length_cons]
      simp only [Bool.false_eq_true, ↓reduceIte]
      omega

/-- After a line break the first column is reached. -/
theorem columnAfter_of_breaks
    {column : Nat}
    {chars : List Char}
    (areBreaks : ∀ c ∈ chars, isBreak c = true)
    (nonempty : chars ≠ []) :
    columnAfter column chars = 0 := by
  induction chars generalizing column with
  | nil =>
      exact absurd rfl nonempty
  | cons c rest inductionHypothesis =>
      rw [List.forall_mem_cons] at areBreaks
      rw [columnAfter, if_pos areBreaks.1]
      cases rest with
      | nil =>
          rfl
      | cons d more =>
          exact inductionHypothesis areBreaks.2 (List.cons_ne_nil d more)

/-- Indentation ends no line. -/
theorem isBreak_of_mem_indentation
    {column : Nat}
    {c : Char}
    (member : c ∈ indentation column) :
    isBreak c = false := by
  rw [List.eq_of_mem_replicate member]
  rfl

/-- Line breaks and the indentation of the line after them are read as these line breaks. -/
theorem readGap_breaks
    {least column : Nat}
    {first : Char}
    {breaks rest : List Char}
    (areBreaks : ∀ c ∈ first :: breaks, isBreak c = true)
    (printable : ∀ c ∈ first :: breaks, isPrintable c = true)
    (starts : StartsWord rest)
    {fuel : Nat}
    (enough : (first :: breaks ++ indentation column).length < fuel)
    {cursor : Cursor}
    {place : Nat}
    (stands : cursor.At (first :: breaks ++ indentation column ++ rest) place) :
    ∃ after, readGap least fuel {} cursor =
        some ({ crossesLine := true, lineBreak := [first], moreBreaks := breaks }, after) ∧
      after.At rest column := by
  have areSpaces : ∀ c ∈ indentation column, c = ' ' := fun c member =>
    List.eq_of_mem_replicate member
  have areGaps : ∀ c ∈ first :: breaks ++ indentation column, isGap c = true := by
    intro c member
    rcases List.mem_append.mp member with isBreak | isSpace
    · rw [isGap, areBreaks c isBreak, Bool.or_true]
    · rw [areSpaces c isSpace]
      rfl
  have arePrintable : ∀ c ∈ first :: breaks ++ indentation column, isPrintable c = true := by
    intro c member
    rcases List.mem_append.mp member with isBreak | isSpace
    · exact printable c isBreak
    · rw [areSpaces c isSpace]
      decide
  obtain ⟨after, isRead, afterStands⟩ :=
    readGap_append areGaps arePrintable starts enough {} stands
  rw [columnAfter_append, columnAfter_of_breaks areBreaks (List.cons_ne_nil _ _),
    columnAfter_of_line fun c => isBreak_of_mem_indentation] at afterStands
  refine ⟨after, ?_, by simpa [indentation] using afterStands⟩
  rw [List.forall_mem_cons] at areBreaks
  have begun : Gap.add {} first = { crossesLine := true, lineBreak := [first] } := by
    rw [Gap.add, if_pos areBreaks.1]
    rfl
  rw [isRead, List.foldl_append, List.foldl_cons, begun, foldl_add_breaks areBreaks.2 rfl,
    foldl_add_blanks fun c => isBreak_of_mem_indentation]
  rfl

/-- Blanks are read as they are. -/
theorem readGap_blanks
    {least : Nat}
    {blanks rest : List Char}
    (areBlanks : ∀ c ∈ blanks, isBlank c = true)
    (printable : ∀ c ∈ blanks, isPrintable c = true)
    (starts : StartsWord rest)
    {fuel : Nat}
    (enough : blanks.length < fuel)
    {cursor : Cursor}
    {column : Nat}
    (stands : cursor.At (blanks ++ rest) column) :
    ∃ after, readGap least fuel {} cursor = some ({ blanks }, after) ∧
      after.At rest (column + blanks.length) := by
  have areGaps : ∀ c ∈ blanks, isGap c = true := fun c member => by
    rw [isGap, areBlanks c member, Bool.true_or]
  have oneLine : ∀ c ∈ blanks, isBreak c = false := fun c member => by
    rw [isBlank_of_printable (areBlanks c member) (printable c member)]
    rfl
  obtain ⟨after, isRead, afterStands⟩ :=
    readGap_append areGaps printable starts enough {} stands
  rw [columnAfter_of_line oneLine] at afterStands
  refine ⟨after, ?_, afterStands⟩
  rw [isRead, foldl_add_blanks oneLine]
  rfl

/-! ## Words -/

/-- Characters begin with some that lack a property, then come some that have it, unless they
end before these. -/
theorem exists_split
    (separates : Char → Bool)
    (chars : List Char) :
    ∃ word gap rest, chars = word ++ (gap ++ rest) ∧ (∀ c ∈ word, separates c = false) ∧
      (∀ c ∈ gap, separates c = true) ∧ (∀ c ∈ rest.head?, separates c = false) ∧
      (gap = [] → rest = []) := by
  let word := chars.takeWhile (!separates ·)
  let others := chars.dropWhile (!separates ·)
  refine ⟨word, others.takeWhile separates, others.dropWhile separates, ?_, ?_, ?_, ?_, ?_⟩
  · rw [List.takeWhile_append_dropWhile, List.takeWhile_append_dropWhile]
  · intro c member
    have inWord := List.all_eq_true.mp List.all_takeWhile c member
    simpa using inWord
  · intro c member
    exact List.all_eq_true.mp List.all_takeWhile c member
  · intro c isFirst
    have begins := List.head?_dropWhile_not separates others
    rw [show (others.dropWhile separates).head? = some c from isFirst] at begins
    exact begins
  · intro noGap
    cases isOthers : others with
    | nil =>
        rfl
    | cons c more =>
        have beginsGap : separates c = true := by
          have begins := List.head?_dropWhile_not (!separates ·) chars
          rw [show chars.dropWhile (!separates ·) = c :: more from isOthers] at begins
          simpa using begins
        rw [isOthers, List.takeWhile_cons_of_pos beginsGap] at noGap
        cases noGap

/-! ## Names of entries -/

/-- Whether a text can stand before a colon: it consists of letters and underscores, begins with
a letter, is not too long and does not look like another value. -/
def isEntryName (name : String) : Bool :=
  name.toList.all (fun c => c.isAlpha || c = '_') && name.toList.head?.any Char.isAlpha &&
    name.toList.length ≤ 1024 && plainKind name = .string

/-- What follows a line: an entry in a column, or nothing. -/
structure LineAhead (column : Nat) (more : List Char) : Prop where
  starts : ∀ c ∈ more.head?, c.isAlpha = true
  atStart : more = [] → column = 0

/-- A letter or an underscore is no gap. -/
theorem isGap_of_nameChar
    {c : Char}
    (isNameChar : c.isAlpha = true ∨ c = '_') :
    isGap c = false := by
  rcases isNameChar with letter | rfl
  · rw [isGap_eq_false]
    constructor
    · rw [isBlank, Bool.or_eq_false_iff, decide_eq_false_iff_not, decide_eq_false_iff_not]
      constructor <;> (rintro rfl; exact absurd letter (by decide))
    · simp only [isBreak, Bool.or_eq_false_iff, decide_eq_false_iff_not]
      refine ⟨⟨⟨⟨?_, ?_⟩, ?_⟩, ?_⟩, ?_⟩ <;> (rintro rfl; exact absurd letter (by decide))
  · rfl

/-- What follows a line begins with no gap. -/
theorem LineAhead.startsWord
    {column : Nat}
    {more : List Char}
    (ahead : LineAhead column more) :
    StartsWord more := fun c isFirst => isGap_of_nameChar (Or.inl (ahead.starts c isFirst))

end SourceFacts.Yaml
