import SourceFacts.Proofs.Yaml.Cursors

namespace SourceFacts.Yaml

/-!
# Plain scalars are read back

A plain scalar is read word by word. No word begins like a comment or ends like a key, so
that reading goes on to the end of the line and over the indentation of the next one.
-/

/-! ## Marks -/

/-- Characters that end where a gap begins or the text ends. -/
def StartsGap (chars : List Char) : Prop := ∀ c ∈ chars.head?, isGap c = true

/-- What begins with a gap, as it is computed. -/
theorem beginsWithGap_iff
    {chars : List Char} :
    beginsWithGap chars = true ↔ StartsGap chars := by
  rw [beginsWithGap, StartsGap]
  cases chars.head? <;> simp

/-- Where a gap or the end follows, a word without marks does not end with a colon, and
there is no mark after it. -/
theorem hasMark_of_word
    {word others : List Char}
    (noGaps : ∀ c ∈ word, isGap c = false)
    (startsGap : StartsGap others)
    {afterGap : Bool}
    (unmarked : hasMark afterGap (word ++ others) = false) :
    word.getLast? ≠ some ':' ∧ ∃ stillAfterGap, hasMark stillAfterGap others = false := by
  induction word generalizing afterGap with
  | nil =>
      exact ⟨nofun, afterGap, unmarked⟩
  | cons c rest inductionHypothesis =>
      rw [List.forall_mem_cons] at noGaps
      rw [List.cons_append, hasMark] at unmarked
      simp only [Bool.or_eq_false_iff] at unmarked
      obtain ⟨⟨noKey, -⟩, restUnmarked⟩ := unmarked
      obtain ⟨notLast, isUnmarked⟩ := inductionHypothesis noGaps.2 restUnmarked
      refine ⟨?_, isUnmarked⟩
      cases rest with
      | nil =>
          rintro ⟨rfl⟩
          rw [List.nil_append, beginsWithGap_iff.mpr startsGap] at noKey
          exact absurd noKey (by decide)
      | cons d more =>
          rwa [List.getLast?_cons_cons]

/-- There is no mark after a gap if there is none at its place. -/
theorem hasMark_of_gap
    {gap rest : List Char}
    (areGaps : ∀ c ∈ gap, isGap c = true)
    (nonempty : gap ≠ [])
    {afterGap : Bool}
    (unmarked : hasMark afterGap (gap ++ rest) = false) :
    hasMark true rest = false := by
  induction gap generalizing afterGap with
  | nil =>
      exact absurd rfl nonempty
  | cons c more inductionHypothesis =>
      rw [List.forall_mem_cons] at areGaps
      rw [List.cons_append, hasMark, areGaps.1] at unmarked
      simp only [Bool.or_eq_false_iff] at unmarked
      cases more with
      | nil =>
          exact unmarked.2
      | cons d others =>
          exact inductionHypothesis areGaps.2 (List.cons_ne_nil d others) unmarked.2

/-! ## Words -/

/-- Characters before which a word of a plain scalar ends. -/
def EndsPlainWord (rest : List Char) : Prop :=
  ∀ c ∈ rest.head?, isGap c = true ∨ (c = ':' ∧ StartsGap (rest.drop 1))

/-- A word of a plain scalar is read on its line. -/
theorem readPlainWord_append
    {word rest : List Char}
    (noGaps : ∀ c ∈ word, isGap c = false)
    (noKey : word.getLast? ≠ some ':')
    (ends : EndsPlainWord rest)
    {fuel : Nat}
    (enough : word.length < fuel)
    (before : List Char)
    {cursor : Cursor}
    {column : Nat}
    (stands : cursor.At (word ++ rest) column) :
    ∃ after, readPlainWord false fuel before cursor = some (before ++ word, after) ∧
      after.At rest (column + word.length) ∧ after.line = cursor.line ∧
      after.index = cursor.index + word.length := by
  induction word generalizing fuel before cursor column with
  | nil =>
      cases fuel with
      | zero =>
          cases enough
      | succ fuel =>
          refine ⟨cursor, ?_, stands, rfl, rfl⟩
          rw [readPlainWord, List.append_nil]
          cases rest with
          | nil =>
              rw [stands.peek?_nil]
          | cons c more =>
              rw [stands.peek?]
              rcases ends c rfl with isGap | ⟨rfl, startsGap⟩
              · simp [isGap]
              · have gapAfter : cursor.gapAfter 1 = true := by
                  rw [Cursor.gapAfter, stands.rest]
                  cases more with
                  | nil =>
                      rfl
                  | cons d others =>
                      exact startsGap d rfl
                simp [gapAfter, isGap, isBlank, isBreak]
  | cons c others inductionHypothesis =>
      cases fuel with
      | zero =>
          cases enough
      | succ fuel =>
          rw [List.forall_mem_cons] at noGaps
          rw [List.length_cons, Nat.succ_lt_succ_iff] at enough
          have goesOn : (decide (c = ':') && cursor.gapAfter 1) = false := by
            rw [Bool.and_eq_false_iff, decide_eq_false_iff_not]
            cases others with
            | nil =>
                left
                rintro rfl
                exact noKey rfl
            | cons d more =>
                right
                rw [Cursor.gapAfter, stands.rest]
                exact noGaps.2 d List.mem_cons_self
          have noKeyLater : others.getLast? ≠ some ':' := by
            cases others with
            | nil =>
                simp
            | cons d more =>
                rwa [List.getLast?_cons_cons] at noKey
          obtain ⟨after, isRead, afterStands, sameLine, isIndex⟩ :=
            inductionHypothesis noGaps.2 noKeyLater enough (before ++ [c]) stands.advance
          have advanced : cursor.advance.line = cursor.line ∧
              cursor.advance.index = cursor.index + 1 := by
            simp [Cursor.advance, stands.rest]
          refine ⟨after, ?_, ?_, sameLine.trans advanced.1, ?_⟩
          · rw [readPlainWord, stands.peek?]
            simp only [noGaps.1, goesOn, Bool.false_and, Bool.or_false, Bool.false_eq_true,
              ↓reduceIte, isRead, List.append_assoc, List.singleton_append]
          · rw [List.length_cons, ← Nat.add_assoc, Nat.add_right_comm]
            exact afterStands
          · rw [isIndex, advanced.2, List.length_cons]
            omega

/-! ## Scalars -/

/-- Characters with which a plain scalar goes on, from the beginning of a word. -/
structure GoesOnPlain (chars : List Char) : Prop where
  printable : ∀ c ∈ chars, isPrintable c = true
  oneLine : ∀ c ∈ chars, isBreak c = false
  unmarked : hasMark true chars = false
  starts : StartsWord chars
  ends : chars.getLast? ≠ some ' '

/-- A plain scalar that has words goes on with one, then blanks and further words unless that
is the last one. -/
theorem GoesOnPlain.exists_word
    {chars : List Char}
    (plain : GoesOnPlain chars)
    (nonempty : chars ≠ []) :
    ∃ word blanks rest, chars = word ++ (blanks ++ rest) ∧ word ≠ [] ∧
      (∀ c ∈ word, isGap c = false) ∧ word.getLast? ≠ some ':' ∧ word.head? ≠ some '#' ∧
      (∀ c ∈ blanks, isBlank c = true) ∧ (∀ c ∈ blanks, isPrintable c = true) ∧
      GoesOnPlain rest ∧ (blanks = [] ↔ rest = []) := by
  obtain ⟨word, blanks, rest, rfl, noGaps, areGaps, startsRest, restOfNil⟩ :=
    exists_split isGap chars
  obtain ⟨printable, oneLine, unmarked, starts, ends⟩ := plain
  simp only [List.forall_mem_append] at printable oneLine
  have hasWord : word ≠ [] := by
    rintro rfl
    cases blanks with
    | nil =>
        exact nonempty (restOfNil rfl)
    | cons blank others =>
        have noGap : isGap blank = false := starts blank rfl
        rw [areGaps blank List.mem_cons_self] at noGap
        cases noGap
  have areBlanks : ∀ c ∈ blanks, isBlank c = true := by
    intro c member
    have isGap := areGaps c member
    rwa [Yaml.isGap, oneLine.2.1 c member, Bool.or_false] at isGap
  have startsGap : StartsGap (blanks ++ rest) := by
    cases blanks with
    | nil =>
        rw [restOfNil rfl]
        simp [StartsGap]
    | cons blank others =>
        rintro c ⟨rfl⟩
        exact areGaps blank List.mem_cons_self
  obtain ⟨noKey, _, othersUnmarked⟩ := hasMark_of_word noGaps startsGap unmarked
  have noComment : word.head? ≠ some '#' := by
    cases word with
    | nil =>
        simp
    | cons c others =>
        rintro ⟨rfl⟩
        simp [hasMark] at unmarked
  have restOfBlanks : rest = [] → blanks = [] := by
    rintro rfl
    refine Classical.byContradiction fun someBlank => ?_
    rw [List.append_nil, List.getLast?_append, List.getLast?_eq_some_getLast someBlank,
      Option.some_or] at ends
    have member := List.getLast_mem someBlank
    exact ends (congrArg some (isBlank_of_printable (areBlanks _ member)
      (printable.2.1 _ member)))
  refine ⟨word, blanks, rest, rfl, hasWord, noGaps, noKey, noComment, areBlanks, printable.2.1,
    ?_, restOfNil, restOfBlanks⟩
  cases isRest : rest with
  | nil =>
      exact ⟨by simp, by simp, rfl, by simp [StartsWord], by simp⟩
  | cons c others =>
      have someBlank : blanks ≠ [] := by
        rintro rfl
        rw [restOfNil rfl] at isRest
        cases isRest
      have someRest : rest ≠ [] := by
        rw [isRest]
        exact List.cons_ne_nil c others
      rw [← isRest]
      refine ⟨printable.2.2, oneLine.2.2, hasMark_of_gap areGaps someBlank othersUnmarked,
        startsRest, ?_⟩
      rwa [List.getLast?_append, List.getLast?_append, List.getLast?_eq_some_getLast someRest,
        Option.some_or, Option.some_or, ← List.getLast?_eq_some_getLast someRest] at ends

/-- A plain scalar is read up to the line after it. -/
theorem readPlain_line
    {chars more : List Char}
    {least next : Nat}
    (plain : GoesOnPlain chars)
    (nonempty : chars ≠ [])
    (ahead : LineAhead next more)
    (outside : next < least)
    {fuel : Nat}
    (enough : chars.length < fuel)
    (text : List Char)
    (gap : Gap)
    {cursor : Cursor}
    {column : Nat}
    (stands : cursor.At (chars ++ '\n' :: (indentation next ++ more)) column)
    (inside : least ≤ column) :
    ∃ after, readPlain false least fuel text gap cursor =
        some (text ++ gap.text ++ chars, true, after) ∧
      after.At more next := by
  induction fuel generalizing chars text gap cursor column with
  | zero =>
      cases enough
  | succ fuel inductionHypothesis =>
      obtain ⟨word, blanks, rest, rfl, hasWord, noGaps, noKey, noComment, areBlanks, printable,
        restPlain, blanksIff⟩ := plain.exists_word nonempty
      rw [List.append_assoc, List.append_assoc] at stands
      have noMark : (cursor.atDocumentMark || cursor.isAt '#') = false := by
        rw [stands.atDocumentMark (Nat.lt_of_lt_of_le (Nat.zero_lt_of_lt outside) inside)]
        cases word with
        | nil =>
            exact absurd rfl hasWord
        | cons c others =>
            rw [Bool.false_or, stands.isAt]
            simpa using noComment
      have wordEmpty : word.isEmpty = false := by
        simpa using hasWord
      have gapFollows : ∀ c ∈ (blanks ++ (rest ++ '\n' :: (indentation next ++ more))).head?,
          isGap c = true := by
        cases blanks with
        | nil =>
            rw [blanksIff.mp rfl]
            rintro c ⟨rfl⟩
            rfl
        | cons blank others =>
            rintro c ⟨rfl⟩
            rw [isGap, areBlanks blank List.mem_cons_self, Bool.true_or]
      have enoughForWord : word.length < cursor.rest.length + 1 := by
        rw [stands.rest, List.length_append]
        omega
      obtain ⟨afterWord, wordRead, afterWordStands, -⟩ :=
        readPlainWord_append noGaps noKey (fun c isFirst => Or.inl (gapFollows c isFirst))
          enoughForWord [] stands
      have atGap : afterWord.isAtAny isGap = true := by
        rw [Cursor.isAtAny, afterWordStands.rest]
        cases isFirst : (blanks ++ (rest ++ '\n' :: (indentation next ++ more))).head? with
        | none =>
            simp at isFirst
        | some c =>
            exact gapFollows c isFirst
      rw [readPlain, noMark]
      simp only [Bool.false_eq_true, ↓reduceIte, wordRead, List.nil_append, wordEmpty, atGap,
        Bool.not_true, Bool.not_false, Bool.true_and]
      cases blanks with
      | nil =>
          obtain rfl := blanksIff.mp rfl
          -- The last word: the line ends, and what follows it begins too far to the left.
          obtain ⟨after, gapRead, afterStands⟩ :
              ∃ after, readGap least (afterWord.rest.length + 1) {} afterWord =
                some ({ crossesLine := true, lineBreak := ['\n'] }, after) ∧
              after.At more next := by
            have enoughForGap : ('\n' :: [] ++ indentation next).length <
                afterWord.rest.length + 1 := by
              rw [afterWordStands.rest]
              simp only [List.length_append, List.length_cons, List.length_nil]
              omega
            exact readGap_breaks (by simp [isBreak]) (by simp [isPrintable]) ahead.startsWord
              enoughForGap afterWordStands
          refine ⟨after, ?_, afterStands⟩
          simp [gapRead, afterStands.column, outside]
      | cons blank others =>
          have someRest : rest ≠ [] := fun isNil => List.cons_ne_nil blank others
            (blanksIff.mpr isNil)
          obtain ⟨after, gapRead, afterStands⟩ :
              ∃ after, readGap least (afterWord.rest.length + 1) {} afterWord =
                some ({ blanks := blank :: others }, after) ∧
              after.At (rest ++ '\n' :: (indentation next ++ more))
                (column + word.length + (blank :: others).length) := by
            have enoughForGap : (blank :: others).length < afterWord.rest.length + 1 := by
              rw [afterWordStands.rest, List.length_append]
              omega
            have startsRest : StartsWord (rest ++ '\n' :: (indentation next ++ more)) := by
              intro c isFirst
              refine restPlain.starts c ?_
              cases rest with
              | nil =>
                  exact absurd rfl someRest
              | cons d more =>
                  exact isFirst
            exact readGap_blanks areBlanks printable startsRest enoughForGap afterWordStands
          have stillInside : least ≤ column + word.length + (blank :: others).length := by
            omega
          have notOutside : ¬ after.column < least := by
            rw [afterStands.column]
            omega
          have enoughForRest : rest.length < fuel := by
            have someLength := List.length_pos_iff.mpr hasWord
            simp only [List.length_append] at enough
            omega
          obtain ⟨final, isRead, finalStands⟩ :=
            inductionHypothesis restPlain someRest enoughForRest (text ++ gap.text ++ word)
              { blanks := blank :: others } afterStands stillInside
          refine ⟨final, ?_, finalStands⟩
          simp only [gapRead, notOutside, decide_false, Bool.false_eq_true, ↓reduceIte, isRead]
          simp [Gap.text]

/-! ## Names -/

/-- No mark between documents begins like a name. -/
theorem Cursor.At.atDocumentMark_of_name
    {cursor : Cursor}
    {c : Char}
    {rest : List Char}
    {column : Nat}
    (stands : cursor.At (c :: rest) column)
    (isNameChar : c.isAlpha = true ∨ c = '_') :
    cursor.atDocumentMark = false := by
  have noDash : c ≠ '-' := by
    rintro rfl
    exact absurd isNameChar (by decide)
  have noDot : c ≠ '.' := by
    rintro rfl
    exact absurd isNameChar (by decide)
  rw [Cursor.atDocumentMark, stands.rest]
  simp [noDash, noDot]

/-- The name of an entry is read up to its colon. -/
theorem readPlain_name
    {name rest : List Char}
    (areNameChars : ∀ c ∈ name, c.isAlpha = true ∨ c = '_')
    (nonempty : name ≠ [])
    (startsGap : StartsGap rest)
    {least fuel : Nat}
    (positive : 0 < fuel)
    {cursor : Cursor}
    {column : Nat}
    (stands : cursor.At (name ++ ':' :: rest) column) :
    ∃ after, readPlain false least fuel [] {} cursor = some (name, false, after) ∧
      after.At (':' :: rest) (column + name.length) ∧ after.line = cursor.line ∧
      after.index = cursor.index + name.length := by
  have noGaps : ∀ c ∈ name, isGap c = false := fun c member =>
    isGap_of_nameChar (areNameChars c member)
  have noKey : name.getLast? ≠ some ':' := by
    intro isLast
    exact absurd (areNameChars ':' (List.mem_of_getLast? isLast)) (by decide)
  have ends : EndsPlainWord (':' :: rest) := by
    rintro c ⟨rfl⟩
    exact Or.inr ⟨rfl, startsGap⟩
  have enough : name.length < cursor.rest.length + 1 := by
    rw [stands.rest, List.length_append]
    omega
  obtain ⟨after, isRead, afterStands, sameLine, isIndex⟩ :=
    readPlainWord_append noGaps noKey ends enough [] stands
  refine ⟨after, ?_, afterStands, sameLine, isIndex⟩
  have noMark : (cursor.atDocumentMark || cursor.isAt '#') = false := by
    cases name with
    | nil =>
        exact absurd rfl nonempty
    | cons c others =>
        have isNameChar := areNameChars c List.mem_cons_self
        rw [stands.atDocumentMark_of_name isNameChar, Bool.false_or, stands.isAt]
        have noComment : c ≠ '#' := by
          rintro rfl
          exact absurd isNameChar (by decide)
        simp [noComment]
  have nameEmpty : name.isEmpty = false := by
    simpa using nonempty
  have noGapAfter : after.isAtAny isGap = false := by
    rw [afterStands.isAtAny]
    rfl
  obtain ⟨fuel, rfl⟩ := Nat.exists_eq_succ_of_ne_zero (Nat.ne_of_gt positive)
  rw [readPlain, noMark]
  simp [isRead, nameEmpty, noGapAfter, Gap.text]

end SourceFacts.Yaml
