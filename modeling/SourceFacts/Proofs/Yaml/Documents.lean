import SourceFacts.Proofs.Yaml.Entries

namespace SourceFacts.Yaml

/-!
# Documents are read back

A document has only characters that are allowed, so that its tokens are those of its entries.
These are read as nodes, and the nodes as the values that were written.
-/

/-! ## Printed characters -/

/-- A printed character may stand in a text. -/
theorem isAllowed_of_isPrintable
    {c : Char}
    (printable : isPrintable c = true) :
    isAllowed c = true := by
  simp only [isPrintable, Bool.or_eq_true, Bool.and_eq_true, decide_eq_true_eq] at printable
  simp only [isAllowed, Bool.or_eq_true, Bool.and_eq_true, decide_eq_true_eq]
  rcases printable with ((isFeed | isAscii) | ⟨isWide, _⟩) | isLarge
  · simp [isFeed]
  · simp [isAscii]
  · simp [isWide]
  · simp [isLarge]

/-- Indentation can be printed. -/
theorem isPrintable_indentation
    {column : Nat}
    {c : Char}
    (member : c ∈ indentation column) :
    isPrintable c = true := by
  rw [List.eq_of_mem_replicate member]
  decide

/-- Single quotes add nothing but spaces. -/
theorem mem_singleQuotedChars
    {own : Nat}
    {afterBreak : Bool}
    {chars : List Char}
    {c : Char}
    (member : c ∈ singleQuotedChars own afterBreak chars) :
    c ∈ chars ∨ c ∈ indentation own := by
  induction chars generalizing afterBreak with
  | nil =>
      rw [singleQuotedChars] at member
      split at member
      · exact Or.inr member
      · cases member
  | cons d rest inductionHypothesis =>
      rw [singleQuotedChars] at member
      split at member
      · rcases List.mem_cons.mp member with rfl | later
        · exact Or.inl List.mem_cons_self
        · exact (inductionHypothesis later).imp_left (List.mem_cons_of_mem d)
      · simp only [List.mem_append] at member
        rcases member with (before | here) | later
        · split at before
          · exact Or.inr before
          · cases before
        · left
          split at here <;> simp_all
        · exact (inductionHypothesis later).imp_left (List.mem_cons_of_mem d)

/-- Blocks add nothing but spaces. -/
theorem mem_blockChars
    {own : Nat}
    {afterBreak : Bool}
    {chars : List Char}
    {c : Char}
    (member : c ∈ blockChars own afterBreak chars) :
    c ∈ chars ∨ c ∈ indentation own := by
  induction chars generalizing afterBreak with
  | nil =>
      cases member
  | cons d rest inductionHypothesis =>
      rw [blockChars] at member
      split at member
      · rcases List.mem_cons.mp member with rfl | later
        · exact Or.inl List.mem_cons_self
        · exact (inductionHypothesis later).imp_left (List.mem_cons_of_mem d)
      · rcases List.mem_append.mp member with before | here
        · split at before
          · exact Or.inr before
          · cases before
        · rcases List.mem_cons.mp here with rfl | later
          · exact Or.inl List.mem_cons_self
          · exact (inductionHypothesis later).imp_left (List.mem_cons_of_mem d)

/-- Escapes can be printed. -/
theorem isPrintable_escapeOf
    {c d : Char}
    (member : d ∈ escapeOf c) :
    isPrintable d = true := by
  have digits : ∀ {count value : Nat} {d : Char}, d ∈ upperHex count value →
      isPrintable d = true := by
    intro count value d member
    rw [upperHex, List.mem_map] at member
    obtain ⟨index, -, rfl⟩ := member
    have everyDigit : ∀ digit : Fin 16, isPrintable (upperHexDigit digit) = true := by decide
    exact everyDigit ⟨_, Nat.mod_lt _ (by decide)⟩
  unfold escapeOf at member
  split at member
  case h_15 =>
    split at member
    · rcases List.mem_cons.mp member with rfl | isDigit
      · decide
      · exact digits isDigit
    · split at member
      · rcases List.mem_cons.mp member with rfl | isDigit
        · decide
        · exact digits isDigit
      · rcases List.mem_cons.mp member with rfl | isDigit
        · decide
        · exact digits isDigit
  all_goals
    rw [List.mem_singleton.mp member]
    decide

/-- Characters in double quotes can be printed. -/
theorem isPrintable_doubleQuotedChar
    {c d : Char}
    (member : d ∈ doubleQuotedChar c) :
    isPrintable d = true := by
  rw [doubleQuotedChar] at member
  split at member
  · rcases List.mem_cons.mp member with rfl | isEscape
    · decide
    · exact isPrintable_escapeOf isEscape
  · rename_i asItIs
    simp only [Bool.or_eq_true, Bool.not_eq_true', not_or, Bool.not_eq_false] at asItIs
    rw [List.mem_singleton.mp member]
    exact asItIs.1.1.1

/-- The marks of a block can be printed. -/
theorem isPrintable_blockHeader
    {chars : List Char}
    {c : Char}
    (member : c ∈ blockHeader chars) :
    isPrintable c = true := by
  rw [blockHeader_eq] at member
  rcases List.mem_cons.mp member with rfl | isMark
  · decide
  · rcases List.mem_append.mp isMark with isShift | isKeeping
    · split at isShift
      · rw [List.mem_singleton.mp isShift]
        decide
      · cases isShift
    · cases chomping : Chomping.ofText chars <;> rw [chomping, Chomping.mark] at isKeeping <;>
        simp at isKeeping <;> rw [isKeeping] <;> decide

/-- Texts can be printed, whatever their style. -/
theorem isPrintable_scalarLine
    {column : Nat}
    {text : String}
    {c : Char}
    (member : c ∈ scalarLine column text) :
    isPrintable c = true := by
  rw [scalarLine] at member
  cases style : Style.ofText text with
  | plain =>
      have plain := (goesOnPlain_of_allowsPlain (Style.of_plain style).2).1
      rw [style] at member
      rcases List.mem_append.mp member with isText | isEnd
      · exact plain.printable c isText
      · rw [List.mem_singleton.mp isEnd]
        rfl
  | singleQuoted =>
      have allowed := (Style.of_singleQuoted style).2
      simp only [allowsQuotes, Bool.and_eq_true, Bool.not_eq_true'] at allowed
      have printable := (printable_of_needsEscapes allowed.1).1
      rw [style] at member
      simp only [List.cons_append, List.mem_cons, List.mem_append, List.not_mem_nil,
        or_false] at member
      rcases member with rfl | isText | rfl | rfl
      · decide
      · exact (mem_singleQuotedChars isText).elim (printable c) isPrintable_indentation
      · decide
      · decide
  | doubleQuoted =>
      rw [style] at member
      simp only [List.cons_append, List.mem_cons, List.mem_append, List.mem_flatMap,
        List.not_mem_nil, or_false] at member
      rcases member with rfl | ⟨_, _, isText⟩ | rfl | rfl
      · decide
      · exact isPrintable_doubleQuotedChar isText
      · decide
      · decide
  | block =>
      have allowed := (Style.of_block style).2
      simp only [allowsBlock, Bool.and_eq_true, Bool.not_eq_true'] at allowed
      have printable := (printable_of_needsEscapes allowed.1).1
      rw [style] at member
      simp only [List.mem_append, List.mem_cons] at member
      rcases member with (isHeader | rfl | isText) | isEnd
      · exact isPrintable_blockHeader isHeader
      · decide
      · exact (mem_blockChars isText).elim (printable c) isPrintable_indentation
      · rw [blockEnd] at isEnd
        split at isEnd
        · cases isEnd
        · rw [List.mem_singleton.mp isEnd]
          decide

namespace Content

/-- What stands on a line of letters and digits can be printed. -/
theorem isPrintable_of_line
    {chars : List Char}
    (alphanum : ∀ {c : Char}, c ∈ chars → c.isAlphanum = true)
    {c : Char}
    (member : c ∈ ' ' :: chars ++ ['\n']) :
    Yaml.isPrintable c = true := by
  simp only [List.cons_append, List.mem_cons, List.mem_append, List.not_mem_nil,
    or_false] at member
  rcases member with rfl | isText | rfl
  · decide
  · exact isPrintable_of_isAlphanum (alphanum isText)
  · decide

/-- The characters of entries. -/
theorem mem_printEntries
    {own : Nat}
    {entries : List (String × Content)}
    {c : Char}
    (member : c ∈ printEntries own entries) :
    c ∈ indentation own ∨ ∃ entry ∈ entries,
      c ∈ entry.1.toList ∨ c = ':' ∨ c ∈ entry.2.print own := by
  induction entries with
  | nil =>
      cases member
  | cons entry rest inductionHypothesis =>
      rw [printEntries] at member
      simp only [List.mem_append, List.mem_cons] at member
      rcases member with ((isSpace | isName) | isColon | isContent) | later
      · exact Or.inl isSpace
      · exact Or.inr ⟨entry, List.mem_cons_self, Or.inl isName⟩
      · exact Or.inr ⟨entry, List.mem_cons_self, Or.inr (Or.inl isColon)⟩
      · exact Or.inr ⟨entry, List.mem_cons_self, Or.inr (Or.inr isContent)⟩
      · refine (inductionHypothesis later).imp_right ?_
        rintro ⟨other, isMember, isPart⟩
        exact ⟨other, List.mem_cons_of_mem entry isMember, isPart⟩

/-- Entries can be printed if what they hold can be. -/
theorem isPrintable_printEntries
    {entries : List (String × Content)}
    (names : ∀ entry ∈ entries, isEntryName entry.1 = true)
    (contents : ∀ entry ∈ entries, ∀ {column : Nat} {c : Char}, c ∈ entry.2.print column →
      Yaml.isPrintable c = true)
    {own : Nat}
    {c : Char}
    (member : c ∈ printEntries own entries) :
    Yaml.isPrintable c = true := by
  rcases mem_printEntries member with
    isSpace | ⟨entry, isMember, inName | rfl | isContent⟩
  · exact isPrintable_indentation isSpace
  · have isName := (isName_of_isEntryName (names entry isMember)).1
    rcases isName.chars c inName with letter | rfl
    · exact isPrintable_of_isAlphanum (by simp [Char.isAlphanum, letter])
    · decide
  · decide
  · exact contents entry isMember isContent

/-- Contents that fit can be printed. -/
theorem Fits.isPrintable
    {depth : Nat}
    {content : Content}
    (fits : content.Fits depth)
    {column : Nat}
    {c : Char}
    (member : c ∈ content.print column) :
    Yaml.isPrintable c = true := by
  induction fits generalizing column c with
  | bool depth value =>
      exact isPrintable_of_line isAlphanum_bool member
  | word depth value =>
      exact isPrintable_of_line isAlphanum_word member
  | text depth value =>
      rw [print] at member
      rcases List.mem_cons.mp member with rfl | isText
      · decide
      · exact isPrintable_scalarLine isText
  | @group depth entries nonempty names distinct contents inductionHypothesis =>
      rw [print] at member
      rcases List.mem_cons.mp member with rfl | isEntry
      · decide
      · exact isPrintable_printEntries names inductionHypothesis isEntry

end Content

/-! ## Tokens -/

/-- No byte-order mark is printed. -/
theorem withoutMark_of_printable
    {chars : List Char}
    (printable : ∀ c ∈ chars, isPrintable c = true) :
    withoutMark chars = chars := by
  cases chars with
  | nil =>
      rfl
  | cons c rest =>
      have noMark : c ≠ '\uFEFF' := by
        rintro rfl
        exact absurd (printable _ List.mem_cons_self) (by decide)
      unfold withoutMark
      split
      · rename_i isMark
        exact absurd (List.cons.inj isMark).1 noMark
      · rfl

/-- A step to the end is the last one. -/
theorem Scanner.run_of_last
    {scanner last : Scanner}
    (unfinished : scanner.finished = false)
    (isStep : scanner.step = some last)
    (finished : last.finished = true)
    (fuel : Nat) :
    Scanner.run (fuel + 2) scanner = some last := by
  rw [Scanner.run, unfinished, isStep]
  simp [Scanner.run, finished]

/-- The entries of a document are scanned to its end. -/
theorem Content.scans_document
    {entries : List (String × Content)}
    (nonempty : entries ≠ [])
    (names : ∀ entry ∈ entries, isEntryName entry.1 = true)
    (scans : ∀ entry ∈ entries, entry.2.Scans) :
    ∃ last, Scanner.run ((printEntries 0 entries).length + 2)
        { cursor := { rest := printEntries 0 entries } } = some last ∧
      last.tokens = (Content.group entries).tokens ++ [.streamEnd] := by
  obtain ⟨⟨name, content⟩, rest, rfl⟩ := List.exists_cons_of_ne_nil nonempty
  have isPrinted : printEntries 0 ((name, content) :: rest) = name.toList ++ ':' ::
      (content.print 0 ++ (printEntries 0 rest ++ (indentation 0 ++ []))) := by
    simp [printEntries, indentation]
  have starts := lineAhead_entry (names _ List.mem_cons_self) 0
    (content.print 0 ++ (printEntries 0 rest ++ (indentation 0 ++ [])))
  have between : (Scanner.outside { rest := printEntries 0 ((name, content) :: rest) } [] (-1) []
      true none).Between [] (-1) [] _ 0 :=
    Scanner.between_of_at ⟨isPrinted, rfl⟩ (Scanner.startsToken_of_ahead starts)
  have ahead : LineAhead 0 [] := ⟨by simp, fun _ => rfl⟩
  obtain ⟨count, after, isShort, leads, isBetween⟩ :=
    scans_entries names scans ahead (Nat.le_refl 0) between (by decide)
  obtain ⟨last, isStep, finished, isTokens⟩ := Scanner.Between.finish isBetween
  refine ⟨last, ?_, ?_⟩
  · have isRun := leads.run ((printEntries 0 ((name, content) :: rest)).length - count + 2)
    rw [Nat.add_right_comm, Nat.sub_add_cancel isShort,
      Scanner.run_of_last isBetween.1 isStep finished] at isRun
    exact isRun
  · simp [isTokens, tokens, Scanner.opening]

/-- The tokens of a document are those of its entries. -/
theorem tokens?_document
    {depth : Nat}
    {entries : List (String × Content)}
    (fits : (Content.group entries).Fits depth) :
    tokens? (document entries) = some ((Content.group entries).tokens ++ [.streamEnd]) := by
  cases fits with
  | group nonempty names _ contents =>
      have printable : ∀ c ∈ Content.printEntries 0 entries, isPrintable c = true := fun c =>
        Content.isPrintable_printEntries names fun entry isMember =>
          (contents entry isMember).isPrintable
      have allowed : (Content.printEntries 0 entries).all isAllowed = true :=
        List.all_eq_true.mpr fun c member => isAllowed_of_isPrintable (printable c member)
      obtain ⟨last, isRun, isTokens⟩ := Content.scans_document nonempty names
        fun entry isMember => (contents entry isMember).scans
      rw [tokens?, document, String.toList_ofList, withoutMark_of_printable printable]
      simp only [allowed, isRun, Bool.not_true, Bool.false_eq_true, ↓reduceIte, Option.map_some,
        isTokens]

end SourceFacts.Yaml
