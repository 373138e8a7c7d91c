import SourceFacts.Proofs.Yaml.Cursors

namespace SourceFacts.Yaml

/-!
# Blocks are read back

A block is read line by line. The lines begin in a column, empty ones anywhere before it, and
the block ends with a line that begins further to the left.
-/

/-! ## Writing -/

/-- Line breaks are written as they are. -/
theorem blockChars_breaks
    {own : Nat}
    {breaks : List Char}
    (areBreaks : ∀ c ∈ breaks, isBreak c = true)
    (nonempty : breaks ≠ [])
    (afterBreak : Bool)
    (rest : List Char) :
    blockChars own afterBreak (breaks ++ rest) = breaks ++ blockChars own true rest := by
  induction breaks generalizing afterBreak with
  | nil =>
      exact absurd rfl nonempty
  | cons c more inductionHypothesis =>
      rw [List.forall_mem_cons] at areBreaks
      rw [List.cons_append, blockChars, if_pos areBreaks.1]
      cases more with
      | nil =>
          rfl
      | cons d others =>
          rw [inductionHypothesis areBreaks.2 (List.cons_ne_nil d others)]
          rfl

/-- The characters of a line are written as they are. -/
theorem blockChars_line
    {own : Nat}
    {line : List Char}
    (oneLine : ∀ c ∈ line, isBreak c = false)
    (rest : List Char) :
    blockChars own false (line ++ rest) = line ++ blockChars own false rest := by
  induction line with
  | nil =>
      rfl
  | cons c more inductionHypothesis =>
      rw [List.forall_mem_cons] at oneLine
      rw [List.cons_append, blockChars, oneLine.1, inductionHypothesis oneLine.2]
      rfl

/-- A line that is not empty is indented. -/
theorem blockChars_indented
    {own : Nat}
    {chars : List Char}
    (nonempty : chars ≠ [])
    (starts : ∀ c ∈ chars.head?, isBreak c = false) :
    blockChars own true chars = indentation own ++ blockChars own false chars := by
  cases chars with
  | nil =>
      exact absurd rfl nonempty
  | cons c rest =>
      have noBreak : isBreak c = false := starts c rfl
      simp [blockChars, noBreak]

/-- Nothing is left out. -/
theorem length_le_blockChars
    (own : Nat)
    (afterBreak : Bool)
    (chars : List Char) :
    chars.length ≤ (blockChars own afterBreak chars).length := by
  induction chars generalizing afterBreak with
  | nil =>
      exact Nat.zero_le _
  | cons c rest inductionHypothesis =>
      have restFits := inductionHypothesis (isBreak c)
      rw [blockChars]
      cases ends : isBreak c <;> rw [ends] at restFits <;>
        simp only [↓reduceIte, Bool.false_eq_true, List.length_append, List.length_cons] <;> omega

/-- A block ends as the last part of its text does. -/
theorem blockEnd_append
    {rest : List Char}
    (nonempty : rest ≠ [])
    (before : List Char) :
    blockEnd (before ++ rest) = blockEnd rest := by
  simp [blockEnd, List.getLast?_append, List.getLast?_eq_some_getLast nonempty]

/-- After a line break no other one is needed. -/
theorem blockEnd_of_breaks
    {breaks : List Char}
    (areBreaks : ∀ c ∈ breaks, isBreak c = true)
    (nonempty : breaks ≠ []) :
    blockEnd breaks = [] := by
  simp [blockEnd, List.getLast?_eq_some_getLast nonempty, areBreaks _ (List.getLast_mem nonempty)]

/-- After a line that is not empty a line break is needed. -/
theorem blockEnd_of_line
    {line : List Char}
    (oneLine : ∀ c ∈ line, isBreak c = false) :
    blockEnd line = ['\n'] := by
  have notEnded : line.getLast?.any isBreak = false := by
    cases isLast : line.getLast? with
    | none =>
        rfl
    | some last =>
        exact oneLine last (List.mem_of_getLast? isLast)
  rw [blockEnd, notEnded]
  rfl

/-! ## Line breaks -/

section Breaks

variable {own column : Nat} {chars : List Char}

/-- The indentation of a line is passed, which ends in the column of the block or earlier. -/
theorem readBlockBreaks_indentation
    (within : column ≤ own)
    (starts : ∀ c ∈ chars.head?, isBreak c = false ∧ (column < own → isBlank c = false))
    (fuel : Nat)
    (before : List Char)
    (furthest : Nat)
    {cursor : Cursor}
    (stands : cursor.At (indentation column ++ chars) 0) :
    ∃ reached after, readBlockBreaks (some own) (fuel + 1) before furthest cursor =
        some (before, reached, after) ∧
      after.At chars column := by
  have notBlank : column < own → ∀ c ∈ chars.head?, c ≠ ' ' ∧ c ≠ '\t' := by
    intro earlier c isFirst
    have noBlank := (starts c isFirst).2 earlier
    simpa [isBlank] using noBlank
  have spaces : column < own → (chars.takeWhile (· = ' ')).length = 0 := by
    intro earlier
    cases chars with
    | nil =>
        rfl
    | cons c rest =>
        simp [(notBlank earlier c rfl).1]
  have count : min (cursor.rest.takeWhile (· = ' ')).length (own - cursor.column) = column := by
    rw [stands.rest, stands.column, List.takeWhile_append_of_pos (by simp [indentation]),
      List.length_append, indentation, List.length_replicate]
    omega
  obtain ⟨isRest, isColumn⟩ : (cursor.advanceBy column).At chars column := by
    have passed := stands.advanceBy
    rwa [indentation, List.length_replicate, Nat.zero_add] at passed
  have noTab : (decide (column < own) && (cursor.advanceBy column).isAt '\t') = false := by
    rw [Bool.and_eq_false_iff, decide_eq_false_iff_not, Cursor.isAt, isRest]
    by_cases earlier : column < own
    · right
      cases chars with
      | nil =>
          rfl
      | cons c rest =>
          simpa using (notBlank earlier c rfl).2
    · exact Or.inl earlier
  have noBreak : (cursor.advanceBy column).isAtAny isBreak = false := by
    rw [Cursor.isAtAny, isRest]
    cases chars with
    | nil =>
        rfl
    | cons c rest =>
        exact (starts c rfl).1
  refine ⟨max furthest column, cursor.advanceBy column, ?_, isRest, isColumn⟩
  rw [readBlockBreaks]
  simp only [count, isColumn, noTab, noBreak, Bool.false_eq_true, ↓reduceIte]

/-- Empty lines are read up to the indentation of the next line. -/
theorem readBlockBreaks_append
    (within : column ≤ own)
    (starts : ∀ c ∈ chars.head?, isBreak c = false ∧ (column < own → isBlank c = false))
    {breaks : List Char}
    (areBreaks : ∀ c ∈ breaks, isBreak c = true)
    (printable : ∀ c ∈ breaks, isPrintable c = true)
    {fuel : Nat}
    (enough : breaks.length < fuel)
    (before : List Char)
    (furthest : Nat)
    {cursor : Cursor}
    (stands : cursor.At (breaks ++ (indentation column ++ chars)) 0) :
    ∃ reached after, readBlockBreaks (some own) fuel before furthest cursor =
        some (before ++ breaks, reached, after) ∧
      after.At chars column := by
  induction breaks generalizing fuel before furthest cursor with
  | nil =>
      obtain ⟨fuel, rfl⟩ := Nat.exists_eq_succ_of_ne_zero (Nat.ne_of_gt (Nat.zero_lt_of_lt enough))
      rw [List.append_nil]
      exact readBlockBreaks_indentation within starts fuel before furthest stands
  | cons c more inductionHypothesis =>
      obtain ⟨fuel, rfl⟩ := Nat.exists_eq_succ_of_ne_zero (Nat.ne_of_gt (Nat.zero_lt_of_lt enough))
      rw [List.forall_mem_cons] at areBreaks printable
      rw [List.length_cons, Nat.succ_lt_succ_iff] at enough
      obtain ⟨noSpace, noTab⟩ : c ≠ ' ' ∧ c ≠ '\t' := by
        simpa [isBlank] using isBlank_of_isBreak areBreaks.1
      have stillStands : (cursor.advanceBy ([] : List Char).length).At
          (c :: (more ++ (indentation column ++ chars))) 0 := Cursor.At.advanceBy stands
      rw [List.length_nil] at stillStands
      obtain ⟨next, isNext, nextStands⟩ := stillStands.readBreak areBreaks.1 printable.1
      obtain ⟨reached, after, isRead, afterStands⟩ :=
        inductionHypothesis areBreaks.2 printable.2 enough (before ++ [c]) (max furthest 0)
          nextStands
      refine ⟨reached, after, ?_, afterStands⟩
      have noSpaces : (cursor.rest.takeWhile (· = ' ')).length = 0 := by
        rw [stands.rest]
        simp [noSpace]
      have notAtTab : (cursor.advanceBy 0).isAt '\t' = false := by
        rw [stillStands.isAt, beq_eq_false_iff_ne]
        exact noTab
      rw [readBlockBreaks]
      simp only [noSpaces, Nat.zero_min, notAtTab, stillStands.isAtAny, areBreaks.1,
        stillStands.column, isNext, isRead, Bool.and_false, Bool.false_eq_true, ↓reduceIte,
        List.append_assoc, List.singleton_append]

/-- Without a known column, the first line shows it. -/
theorem readBlockBreaks_first
    {c : Char}
    (noBreak : isBreak c = false)
    (noBlank : isBlank c = false)
    (fuel : Nat)
    {rest : List Char}
    {cursor : Cursor}
    (stands : cursor.At (indentation column ++ c :: rest) 0) :
    ∃ after, readBlockBreaks none (fuel + 1) [] 0 cursor = some ([], column, after) ∧
      after.At (c :: rest) column := by
  obtain ⟨noSpace, noTab⟩ : c ≠ ' ' ∧ c ≠ '\t' := by
    simpa [isBlank] using noBlank
  have count : (cursor.rest.takeWhile (· = ' ')).length = column := by
    rw [stands.rest, List.takeWhile_append_of_pos (by simp [indentation])]
    simp [noSpace, indentation]
  have afterStands : (cursor.advanceBy column).At (c :: rest) column := by
    have passed := stands.advanceBy
    rwa [indentation, List.length_replicate, Nat.zero_add] at passed
  refine ⟨cursor.advanceBy column, ?_, afterStands⟩
  rw [readBlockBreaks]
  simp [count, afterStands.column, afterStands.isAt, afterStands.isAtAny, noTab, noBreak]

end Breaks

/-! ## Ends of blocks -/

/-- A block that was read has a text up to its last line, and the line breaks after it. -/
structure BlockText.Holds (block : BlockText) (text breaks : List Char) : Prop where
  isText : block.text = text
  areBreaks : ∀ c ∈ breaks, isBreak c = true
  isEnd : breaks ≠ [] → block.lineBreak ++ block.moreBreaks = breaks
  oneBreak : text ≠ [] → block.lineBreak.length = 1
  lastLine : ∀ c ∈ text.getLast?, isBreak c = false

/-- How the line breaks at the end of a text are kept. -/
def Chomping.ofText (chars : List Char) : Chomping :=
  match chars.reverse with
  | [] => .strip
  | [last] => if isBreak last then .keep else .strip
  | last :: other :: _ =>
      if !isBreak last then .strip else if isBreak other then .keep else .clip

/-- A text that does not end with a line break needs none. -/
theorem Chomping.ofText_of_line
    {text : List Char}
    (lastLine : ∀ c ∈ text.getLast?, isBreak c = false) :
    Chomping.ofText text = .strip := by
  rw [← List.head?_reverse] at lastLine
  rw [Chomping.ofText]
  cases reversed : text.reverse with
  | nil =>
      rfl
  | cons last others =>
      rw [reversed] at lastLine
      have noBreak : isBreak last = false := lastLine last rfl
      cases others <;> simp [noBreak]

/-- A block that was read stands for the text that it was written for. -/
theorem BlockText.Holds.finish
    {block : BlockText}
    {text breaks : List Char}
    (holds : block.Holds text breaks) :
    block.finish (Chomping.ofText (text ++ breaks)) = text ++ breaks := by
  rcases List.eq_nil_or_concat breaks with rfl | ⟨others, last, rfl⟩
  · rw [List.append_nil, Chomping.ofText_of_line holds.lastLine, BlockText.finish, holds.isText]
  · rw [List.concat_eq_append] at holds ⊢
    have isLast : isBreak last = true := holds.areBreaks last (by simp)
    have isEnd := holds.isEnd (by simp)
    have isReversed : (text ++ (others ++ [last])).reverse = last :: (text ++ others).reverse := by
      simp
    rw [Chomping.ofText, isReversed]
    cases reversed : (text ++ others).reverse with
    | nil =>
        simp [isLast, BlockText.finish, holds.isText, isEnd]
    | cons other more =>
        simp only [isLast, Bool.not_true, Bool.false_eq_true, ↓reduceIte]
        cases otherBreak : isBreak other with
        | true =>
            simp [BlockText.finish, holds.isText, isEnd]
        | false =>
            -- Then the line breaks are a single one, since the text ends with `other`.
            have isEither : (text ++ others).getLast? = some other := by
              rw [← List.head?_reverse, reversed, List.head?_cons]
            rcases List.eq_nil_or_concat others with rfl | ⟨front, before, rfl⟩
            · have someText : text ≠ [] := by
                rintro rfl
                cases isEither
              have oneBreak := holds.oneBreak someText
              obtain ⟨isLineBreak, -⟩ : block.lineBreak = [last] ∧ block.moreBreaks = [] :=
                List.append_inj' isEnd (by
                  have lengths := congrArg List.length isEnd
                  simp only [List.length_append, List.length_cons, List.length_nil] at lengths ⊢
                  omega)
              simp [BlockText.finish, holds.isText, isLineBreak]
            · have isBreak := holds.areBreaks before (by simp)
              rw [List.concat_eq_append, ← List.append_assoc, List.getLast?_concat] at isEither
              obtain rfl := Option.some.inj isEither
              rw [otherBreak] at isBreak
              cases isBreak

/-! ## Lines -/

/-- The end of a line is read, then the empty lines after it. -/
theorem readBlockLines_line
    {own : Nat}
    {line : List Char}
    (oneLine : ∀ c ∈ line, isBreak c = false)
    {c : Char}
    (ends : isBreak c = true)
    (printable : isPrintable c = true)
    {breaks chars : List Char}
    (areBreaks : ∀ c ∈ breaks, isBreak c = true)
    (breaksPrintable : ∀ c ∈ breaks, isPrintable c = true)
    {column : Nat}
    (within : column ≤ own)
    (starts : ∀ c ∈ chars.head?, isBreak c = false ∧ (column < own → isBlank c = false))
    (fuel : Nat)
    (block : BlockText)
    {cursor : Cursor}
    (stands : cursor.At (line ++ c :: (breaks ++ (indentation column ++ chars))) own) :
    ∃ read after, readBlockLines true own (fuel + 1) block cursor =
        readBlockLines true own fuel read after ∧
      read.text = block.text ++ block.lineBreak ++ block.moreBreaks ++ line ∧
      read.lineBreak = [c] ∧ read.moreBreaks = breaks ∧ after.At chars column := by
  have isLine : cursor.rest.takeWhile (!isBreak ·) = line := by
    rw [stands.rest, List.takeWhile_append_of_pos (by simpa using oneLine)]
    simp [ends]
  have lineStands := stands.advanceBy
  obtain ⟨next, isNext, nextStands⟩ := lineStands.readBreak ends printable
  have enough : breaks.length < next.rest.length + 1 := by
    rw [nextStands.rest, List.length_append]
    omega
  obtain ⟨reached, after, isRead, afterStands⟩ :=
    readBlockBreaks_append within starts areBreaks breaksPrintable enough [] 0 nextStands
  refine ⟨{ text := block.text ++ block.lineBreak ++ block.moreBreaks ++ line,
            lineBreak := [c], moreBreaks := breaks,
            beganBlank := cursor.isAtAny isBlank }, after, ?_, rfl, rfl, rfl, afterStands⟩
  have noEnd : cursor.atEnd = false := by
    simp [Cursor.atEnd, stands.rest]
  rw [readBlockLines]
  simp only [stands.column, noEnd, Cursor.takeWhile, isLine, isNext, isRead]
  simp [BlockText.beforeLine]

/-- What was read ends with a line that is not empty, and the line breaks after it. -/
theorem BlockText.holds_of_line
    {read : BlockText}
    {before line breaks : List Char}
    (isText : read.text = before ++ line)
    (nonempty : line ≠ [])
    (oneLine : ∀ c ∈ line, isBreak c = false)
    (areBreaks : ∀ c ∈ breaks, isBreak c = true)
    (isEnd : breaks ≠ [] → read.lineBreak ++ read.moreBreaks = breaks)
    (oneBreak : read.lineBreak.length = 1) :
    read.Holds (before ++ line) breaks := by
  refine ⟨isText, areBreaks, isEnd, fun _ => oneBreak, ?_⟩
  intro c isLast
  rw [List.getLast?_append, List.getLast?_eq_some_getLast nonempty, Option.some_or] at isLast
  obtain rfl := Option.some.inj isLast
  exact oneLine _ (List.getLast_mem nonempty)

/-- What follows a block begins like a line further to the left. -/
theorem LineAhead.startsLine
    {next : Nat}
    {more : List Char}
    (ahead : LineAhead next more)
    (own : Nat) :
    ∀ c ∈ more.head?, isBreak c = false ∧ (next < own → isBlank c = false) := by
  intro c isFirst
  have noGap := isGap_eq_false.mp (ahead.startsWord c isFirst)
  exact ⟨noGap.2, fun _ => noGap.1⟩

/-- A block ends where a line begins further to the left. -/
theorem readBlockLines_outside
    {own next : Nat}
    (outside : next < own)
    {fuel : Nat}
    (positive : 0 < fuel)
    (block : BlockText)
    {more : List Char}
    {cursor : Cursor}
    (stands : cursor.At more next) :
    readBlockLines true own fuel block cursor = some (block, cursor) := by
  obtain ⟨fuel, rfl⟩ := Nat.exists_eq_succ_of_ne_zero (Nat.ne_of_gt positive)
  rw [readBlockLines]
  simp [stands.column, Nat.ne_of_lt outside]

/-- A text begins with line breaks, of which there may be none. -/
theorem exists_breaks (chars : List Char) :
    ∃ breaks lines, chars = breaks ++ lines ∧ (∀ c ∈ breaks, isBreak c = true) ∧
      ∀ c ∈ lines.head?, isBreak c = false := by
  refine ⟨chars.takeWhile isBreak, chars.dropWhile isBreak,
    List.takeWhile_append_dropWhile.symm, fun c member =>
      List.all_eq_true.mp List.all_takeWhile c member, ?_⟩
  intro c isFirst
  have begins := List.head?_dropWhile_not isBreak chars
  rw [show (chars.dropWhile isBreak).head? = some c from isFirst] at begins
  exact begins

/-- The lines of a block are read up to the line after it. -/
theorem readBlockLines_chars
    {own next : Nat}
    {more : List Char}
    (ahead : LineAhead next more)
    (outside : next < own)
    {chars : List Char}
    (printable : ∀ c ∈ chars, isPrintable c = true)
    (nonempty : chars ≠ [])
    (starts : ∀ c ∈ chars.head?, isBreak c = false)
    {fuel : Nat}
    (enough : chars.length < fuel)
    (block : BlockText)
    {cursor : Cursor}
    (stands : cursor.At
      (blockChars own false chars ++ (blockEnd chars ++ (indentation next ++ more))) own) :
    ∃ read after text breaks, readBlockLines true own fuel block cursor = some (read, after) ∧
      after.At more next ∧ read.Holds text breaks ∧
      block.text ++ block.lineBreak ++ block.moreBreaks ++ chars = text ++ breaks := by
  induction fuel generalizing chars block cursor with
  | zero =>
      cases enough
  | succ fuel inductionHypothesis =>
      obtain ⟨line, breaks, rest, rfl, oneLine, areBreaks, startsRest, restOfNil⟩ :=
        exists_split isBreak chars
      simp only [List.forall_mem_append] at printable
      have someLine : line ≠ [] := by
        rintro rfl
        cases breaks with
        | nil =>
            exact nonempty (restOfNil rfl)
        | cons first others =>
            have noBreak : isBreak first = false := starts first rfl
            rw [areBreaks first List.mem_cons_self] at noBreak
            cases noBreak
      have someLength := List.length_pos_iff.mpr someLine
      simp only [List.length_append] at enough
      have someFuel : 0 < fuel := by omega
      rw [blockChars_line oneLine, List.append_assoc] at stands
      cases breaks with
      | nil =>
          obtain rfl := restOfNil rfl
          simp only [List.append_nil, blockEnd_of_line oneLine, blockChars] at stands ⊢
          obtain ⟨read, after, isRead, isText, lineBreak, moreBreaks, afterStands⟩ :=
            readBlockLines_line oneLine rfl rfl (List.forall_mem_nil _) (List.forall_mem_nil _)
              (Nat.le_of_lt outside) (ahead.startsLine own) fuel block stands
          have ended := readBlockLines_outside outside someFuel read afterStands
          refine ⟨read, after, _, [], isRead.trans ended, afterStands, ?_,
            (List.append_nil _).symm⟩
          exact BlockText.holds_of_line isText someLine oneLine (List.forall_mem_nil _)
            (absurd rfl) (congrArg List.length lineBreak)
      | cons first others =>
          rw [List.forall_mem_cons] at printable
          have othersBreaks := (List.forall_mem_cons.mp areBreaks).2
          have someBreak := List.cons_ne_nil first others
          rw [blockChars_breaks areBreaks someBreak] at stands
          by_cases noRest : rest = []
          · subst noRest
            rw [List.append_nil, blockEnd_append someBreak,
              blockEnd_of_breaks areBreaks someBreak, blockChars, List.append_nil] at stands
            obtain ⟨read, after, isRead, isText, lineBreak, moreBreaks, afterStands⟩ :=
              readBlockLines_line oneLine (areBreaks first List.mem_cons_self) printable.2.1.1
                othersBreaks printable.2.1.2 (Nat.le_of_lt outside) (ahead.startsLine own) fuel
                block stands
            have holds := BlockText.holds_of_line isText someLine oneLine areBreaks
              (fun _ => by rw [lineBreak, moreBreaks]; rfl) (congrArg List.length lineBreak)
            have ended := readBlockLines_outside outside someFuel read afterStands
            refine ⟨read, after, _, first :: others, isRead.trans ended, afterStands, holds, ?_⟩
            simp
          · have sameEnd : blockEnd (line ++ (first :: others ++ rest)) = blockEnd rest := by
              rw [← List.append_assoc, blockEnd_append noRest]
            rw [blockChars_indented noRest startsRest, sameEnd, List.append_assoc,
              List.append_assoc] at stands
            have startsWritten : ∀ c ∈ (blockChars own false rest ++
                (blockEnd rest ++ (indentation next ++ more))).head?,
                isBreak c = false ∧ (own < own → isBlank c = false) := by
              intro c isFirst
              refine ⟨?_, fun before => absurd before (Nat.lt_irrefl own)⟩
              cases rest with
              | nil =>
                  exact absurd rfl noRest
              | cons d others =>
                  have noBreak : isBreak d = false := startsRest d rfl
                  rw [blockChars, noBreak] at isFirst
                  obtain rfl := Option.some.inj isFirst
                  exact noBreak
            obtain ⟨between, afterBetween, isRead, isText, lineBreak, moreBreaks, betweenStands⟩ :=
              readBlockLines_line oneLine (areBreaks first List.mem_cons_self) printable.2.1.1
                othersBreaks printable.2.1.2 (Nat.le_refl own) startsWritten fuel block stands
            obtain ⟨read, after, text, breaks, restRead, afterStands, holds, isWhole⟩ :=
              inductionHypothesis printable.2.2 noRest startsRest (by omega) between betweenStands
            refine ⟨read, after, text, breaks, isRead.trans restRead, afterStands, holds, ?_⟩
            rw [← isWhole, isText, lineBreak, moreBreaks]
            simp

/-! ## Whole blocks -/

/-- The mark for how line breaks at the end are kept. -/
def Chomping.mark : Chomping → List Char
  | .strip => ['-']
  | .clip => []
  | .keep => ['+']

/-- Whether a text begins with a space or an empty line, so that a block does not show its
indentation. -/
def hidesIndentation (chars : List Char) : Bool := chars.head?.any fun c => c = ' ' || isBreak c

/-- The two marks of a block. -/
theorem blockHeader_eq (chars : List Char) :
    blockHeader chars =
      '|' :: ((if hidesIndentation chars then ['2'] else []) ++
        (Chomping.ofText chars).mark) := by
  rw [blockHeader, Chomping.ofText, hidesIndentation]
  cases chars.reverse with
  | nil =>
      rfl
  | cons last others =>
      cases others with
      | nil =>
          cases ends : isBreak last <;> simp [ends, Chomping.mark]
      | cons other more =>
          cases ends : isBreak last <;> cases before : isBreak other <;>
            simp [ends, before, Chomping.mark]

/-- The marks of a block are read. -/
theorem readBlockHeader_marks
    (shifted : Bool)
    (chomping : Chomping)
    {rest : List Char}
    {cursor : Cursor}
    {column : Nat}
    (stands : cursor.At
      ((if shifted then ['2'] else []) ++ chomping.mark ++ '\n' :: rest) column) :
    ∃ after last, readBlockHeader cursor =
        some (chomping, if shifted then some 2 else none, after) ∧
      after.At ('\n' :: rest) last := by
  obtain ⟨text, index, line, place⟩ := cursor
  obtain ⟨isText, isPlace⟩ := stands
  subst isText
  cases shifted <;> cases chomping <;> exact ⟨_, _, rfl, rfl, rfl⟩

/-- The line with the marks ends. -/
theorem skipLineEnd_break
    {rest : List Char}
    {cursor : Cursor}
    {column : Nat}
    (stands : cursor.At ('\n' :: rest) column) :
    ∃ after, skipLineEnd cursor = some after ∧ after.At rest 0 := by
  obtain ⟨text, index, line, place⟩ := cursor
  obtain ⟨isText, isPlace⟩ := stands
  subst isText
  exact ⟨_, rfl, rfl, rfl⟩

/-- The empty lines at the beginning of a block are read, and the indentation of the first other
line. -/
theorem readBlockBreaks_blockChars
    {own : Nat}
    {breaks lines ending : List Char}
    (areBreaks : ∀ c ∈ breaks, isBreak c = true)
    (printable : ∀ c ∈ breaks ++ lines, isPrintable c = true)
    (someLine : lines ≠ [])
    (starts : ∀ c ∈ lines.head?, isBreak c = false)
    {fuel : Nat}
    (enough : breaks.length < fuel)
    {cursor : Cursor}
    (stands : cursor.At (blockChars own true (breaks ++ lines) ++ ending) 0) :
    ∃ reached after,
      readBlockBreaks (if hidesIndentation (breaks ++ lines) then some own else none) fuel [] 0
        cursor = some (breaks, reached, after) ∧
      (hidesIndentation (breaks ++ lines) = false → reached = own) ∧
      after.At (blockChars own false lines ++ ending) own := by
  obtain ⟨c, rest, rfl⟩ := List.exists_cons_of_ne_nil someLine
  have noBreak : isBreak c = false := starts c rfl
  have isWritten : blockChars own false (c :: rest) = c :: blockChars own false rest := by
    simp [blockChars, noBreak]
  have isBlock : blockChars own true (breaks ++ c :: rest) =
      breaks ++ (indentation own ++ blockChars own false (c :: rest)) := by
    rw [← blockChars_indented someLine starts]
    by_cases noBreaks : breaks = []
    · rw [noBreaks]
      rfl
    · exact blockChars_breaks areBreaks noBreaks true (c :: rest)
  rw [isBlock, List.append_assoc, List.append_assoc, isWritten, List.cons_append] at stands
  rw [isWritten, List.cons_append]
  cases hidden : hidesIndentation (breaks ++ c :: rest) with
  | true =>
      have startsLine : ∀ d ∈ (c :: (blockChars own false rest ++ ending)).head?,
          isBreak d = false ∧ (own < own → isBlank d = false) := by
        rintro d ⟨rfl⟩
        exact ⟨noBreak, fun before => absurd before (Nat.lt_irrefl own)⟩
      obtain ⟨reached, after, isRead, afterStands⟩ :=
        readBlockBreaks_append (Nat.le_refl own) startsLine areBreaks
          (fun d member => printable d (List.mem_append_left _ member)) enough [] 0 stands
      exact ⟨reached, after, isRead, nofun, afterStands⟩
  | false =>
      obtain rfl : breaks = [] := by
        cases breaks with
        | nil =>
            rfl
        | cons d others =>
            simp [hidesIndentation, areBreaks d List.mem_cons_self] at hidden
      have noBlank : isBlank c = false := by
        refine Bool.eq_false_iff.mpr fun blank => ?_
        have isSpace := isBlank_of_printable blank (printable c (by simp))
        simp [hidesIndentation, isSpace] at hidden
      obtain ⟨fuel, rfl⟩ := Nat.exists_eq_succ_of_ne_zero (Nat.ne_of_gt enough)
      obtain ⟨after, isRead, afterStands⟩ := readBlockBreaks_first noBreak noBlank fuel stands
      exact ⟨own, after, isRead, fun _ => rfl, afterStands⟩

/-- The empty lines of a block and its lines are read up to the line after it. -/
theorem readBlock_lines
    {own next : Nat}
    {more : List Char}
    (ahead : LineAhead next more)
    (outside : next < own)
    {chars : List Char}
    (printable : ∀ c ∈ chars, isPrintable c = true)
    (nonempty : chars ≠ [])
    {cursor : Cursor}
    (stands : cursor.At
      (blockChars own true chars ++ (blockEnd chars ++ (indentation next ++ more))) 0) :
    ∃ breaks reached between read after,
      readBlockBreaks (if hidesIndentation chars then some own else none)
        (cursor.rest.length + 1) [] 0 cursor = some (breaks, reached, between) ∧
      (hidesIndentation chars = false → reached = own) ∧
      readBlockLines true own (between.rest.length + 1) { moreBreaks := breaks } between =
        some (read, after) ∧
      read.finish (Chomping.ofText chars) = chars ∧ after.At more next := by
  obtain ⟨breaks, lines, rfl, areBreaks, starts⟩ := exists_breaks chars
  have enough : breaks.length < cursor.rest.length + 1 := by
    have fits := length_le_blockChars own true (breaks ++ lines)
    rw [stands.rest, List.length_append]
    rw [List.length_append] at fits
    omega
  by_cases noLine : lines = []
  · obtain rfl := noLine
    rw [List.append_nil] at nonempty stands printable ⊢
    have hidden : hidesIndentation breaks = true := by
      obtain ⟨c, others, rfl⟩ := List.exists_cons_of_ne_nil nonempty
      simp [hidesIndentation, areBreaks c List.mem_cons_self]
    have isWritten : blockChars own true breaks = breaks := by
      have asTheyAre : blockChars own true (breaks ++ []) = breaks ++ blockChars own true [] :=
        blockChars_breaks areBreaks nonempty true []
      rwa [List.append_nil, blockChars, List.append_nil] at asTheyAre
    rw [isWritten, blockEnd_of_breaks areBreaks nonempty, List.nil_append] at stands
    obtain ⟨reached, between, breaksRead, betweenStands⟩ :=
      readBlockBreaks_append (Nat.le_of_lt outside) (ahead.startsLine own) areBreaks printable
        enough [] 0 stands
    have holds : ({ moreBreaks := breaks } : BlockText).Holds [] breaks :=
      ⟨rfl, areBreaks, fun _ => rfl, fun some => absurd rfl some, nofun⟩
    refine ⟨breaks, reached, between, _, between, ?_, fun shown => ?_,
      readBlockLines_outside outside (Nat.succ_pos _) _ betweenStands, holds.finish,
      betweenStands⟩
    · rw [hidden, if_pos rfl, breaksRead]
      rfl
    · rw [hidden] at shown
      cases shown
  · obtain ⟨reached, between, breaksRead, shown, betweenStands⟩ :=
      readBlockBreaks_blockChars areBreaks printable noLine starts enough stands
    rw [blockEnd_append noLine] at betweenStands
    have enoughForLines : lines.length < between.rest.length + 1 := by
      have fits := length_le_blockChars own false lines
      rw [betweenStands.rest, List.length_append]
      omega
    obtain ⟨read, after, text, ending, linesRead, afterStands, holds, isWhole⟩ :=
      readBlockLines_chars ahead outside (fun c member => printable c (by simp [member])) noLine
        starts enoughForLines { moreBreaks := breaks } betweenStands
    have isText : breaks ++ lines = text ++ ending := by simpa using isWhole
    exact ⟨breaks, reached, between, read, after, breaksRead, shown, linesRead,
      isText ▸ holds.finish, afterStands⟩

/-- A block is read up to the line after it. -/
theorem readBlock_chars
    {parent next : Nat}
    {more : List Char}
    (ahead : LineAhead next more)
    (outside : next ≤ parent)
    {chars : List Char}
    (printable : ∀ c ∈ chars, isPrintable c = true)
    (nonempty : chars ≠ [])
    {cursor : Cursor}
    {column : Nat}
    (stands : cursor.At
      ((if hidesIndentation chars then ['2'] else []) ++ (Chomping.ofText chars).mark ++ '\n' ::
        (blockChars (parent + 2) true chars ++ (blockEnd chars ++ (indentation next ++ more))))
      column) :
    ∃ after, readBlock true parent cursor = some (chars, after) ∧ after.At more next := by
  obtain ⟨afterMarks, last, marksRead, afterMarksStand⟩ := readBlockHeader_marks _ _ stands
  obtain ⟨firstLine, lineRead, firstLineStands⟩ := skipLineEnd_break afterMarksStand
  obtain ⟨breaks, reached, between, read, after, breaksRead, shown, linesRead, isText,
    afterStands⟩ := readBlock_lines ahead (by omega) printable nonempty firstLineStands
  refine ⟨after, ?_, afterStands⟩
  have isGiven : ((if hidesIndentation chars then some 2 else none).map fun count =>
      (max (parent : Int) 0).toNat + count) =
      if hidesIndentation chars then some (parent + 2) else none := by
    split
    · rw [Option.map_some]
      congr 2
      omega
    · rfl
  -- The column of the lines is what the mark gives, or what the first of them shows.
  have isColumn : (if hidesIndentation chars then some (parent + 2) else none).getD
      (max reached (max ((parent : Int) + 1).toNat 1)) = parent + 2 := by
    cases hidden : hidesIndentation chars with
    | true =>
        rfl
    | false =>
        simp only [Bool.false_eq_true, ↓reduceIte, Option.getD_none, shown hidden]
        omega
  rw [readBlock]
  simp only [marksRead, lineRead, Option.bind_eq_bind, Option.bind_some, isGiven, breaksRead,
    isColumn, linesRead, isText, Option.pure_def]

end SourceFacts.Yaml
