import SourceFacts.Proofs.Text.Encodings
import SourceFacts.Proofs.Yaml.Scanning

namespace SourceFacts.Yaml

/-!
# Scanning documents

What follows the colon of an entry is one scalar, read in a step, or further entries, two
columns further to the right. The tokens of a document are those of its entries, and the ends of
the blocks that these form.
-/

/-! ## What the styles ask for -/

/-- A plain text does not look like another value. -/
theorem Style.of_plain
    {text : String}
    (isPlain : Style.ofText text = .plain) :
    looksLikeOther text = false ∧ allowsPlain text.toList = true := by
  rw [Style.ofText] at isPlain
  split at isPlain
  · split at isPlain <;> cases isPlain
  · split at isPlain
    · rename_i allowed
      simpa using allowed
    · split at isPlain <;> cases isPlain

/-- A text in single quotes has no line feeds. -/
theorem Style.of_singleQuoted
    {text : String}
    (isQuoted : Style.ofText text = .singleQuoted) :
    '\n' ∉ text.toList ∧ allowsQuotes text.toList = true := by
  rw [Style.ofText] at isQuoted
  split at isQuoted
  · split at isQuoted <;> cases isQuoted
  · rename_i noLineFeed
    split at isQuoted
    · cases isQuoted
    · split at isQuoted
      · rename_i allowed
        exact ⟨by simpa using noLineFeed, allowed⟩
      · cases isQuoted

/-- A block has a line feed. -/
theorem Style.of_block
    {text : String}
    (isBlock : Style.ofText text = .block) :
    '\n' ∈ text.toList ∧ allowsBlock text.toList = true := by
  rw [Style.ofText] at isBlock
  split at isBlock
  · rename_i lineFeed
    split at isBlock
    · rename_i allowed
      exact ⟨by simpa using lineFeed, allowed⟩
    · cases isBlock
  · split at isBlock
    · cases isBlock
    · split at isBlock <;> cases isBlock

/-- What needs no escapes can be written as it is. -/
theorem printable_of_needsEscapes
    {chars : List Char}
    (asTheyAre : needsEscapes chars = false) :
    (∀ c ∈ chars, isPrintable c = true) ∧ haveNeighbours (· = ' ') isBreak chars = false := by
  rw [needsEscapes, Bool.or_eq_false_iff] at asTheyAre
  exact ⟨by simpa using asTheyAre.1, asTheyAre.2⟩

/-- What can be written plainly is read word by word, and begins with no mark. -/
theorem goesOnPlain_of_allowsPlain
    {chars : List Char}
    (allowed : allowsPlain chars = true) :
    GoesOnPlain chars ∧ beginsWithMark chars = false := by
  simp only [allowsPlain, Bool.and_eq_true, Bool.not_eq_true', decide_eq_true_eq] at allowed
  obtain ⟨⟨⟨⟨⟨⟨-, noMark⟩, unmarked⟩, asTheyAre⟩, oneLine⟩, noSpaceFirst⟩, noSpaceLast⟩ := allowed
  have printable := (printable_of_needsEscapes asTheyAre).1
  have areOneLine : ∀ c ∈ chars, isBreak c = false := by simpa using oneLine
  refine ⟨⟨printable, areOneLine, unmarked, ?_, noSpaceLast⟩, noMark⟩
  intro c isFirst
  have member : c ∈ chars := List.mem_of_head? isFirst
  refine isGap_eq_false.mpr ⟨Bool.eq_false_iff.mpr fun blank => ?_, areOneLine c member⟩
  rw [isBlank_of_printable blank (printable c member)] at isFirst
  exact noSpaceFirst isFirst

/-- No plain text is empty. -/
theorem ne_nil_of_plain
    {text : String}
    (isPlain : looksLikeOther text = false) :
    text.toList ≠ [] := by
  intro isEmpty
  obtain rfl : text = "" := String.toList_inj.mp isEmpty
  exact absurd isPlain (by decide)

/-- The end of its line does not change what a plain scalar begins with. -/
theorem beginsWithMark_line
    {c : Char}
    {rest : List Char}
    (after : List Char) :
    beginsWithMark (c :: rest ++ '\n' :: after) = beginsWithMark (c :: rest) := by
  have sameGap : beginsWithGap (rest ++ '\n' :: after) = beginsWithGap rest := by
    cases rest <;> rfl
  rw [List.cons_append, beginsWithMark, beginsWithMark, sameGap]

/-! ## Values of entries -/

namespace Scanner

section Values

variable {cursor : Cursor} {tokens : List Token} {outer : List Int} {parent next place : Nat}
  {more : List Char}

/-- What follows a line can be a token. -/
theorem startsToken_of_ahead (ahead : LineAhead next more) : StartsToken more := by
  intro c isFirst
  refine ⟨ahead.startsWord c isFirst, ?_⟩
  rintro rfl
  exact absurd (ahead.starts '#' isFirst) (by decide)

/-- A value on the line of its entry is read after a space. -/
theorem step_value
    {c : Char}
    {rest : List Char}
    (stands : cursor.At (' ' :: c :: rest) place)
    (noGap : isGap c = false)
    (noComment : c ≠ '#')
    (inside : parent < place) :
    ∃ after, after.At (c :: rest) (place + 1) ∧
      (outside cursor tokens parent outer false none).step =
        (outside after tokens parent outer false none).scanAt c := by
  have starts : StartsToken (c :: rest) := by
    rintro d ⟨rfl⟩
    exact ⟨noGap, noComment⟩
  have oneSpace : cursor.At (indentation 1 ++ c :: rest) place := stands
  have settles : (skipToToken
      ((outside cursor tokens parent outer false none).cursor.rest.length + 1)
      (outside cursor tokens parent outer false none)).dropStaleKeys =
      some (outside (cursor.advanceBy 1) tokens parent outer false none) := by
    rw [skipToToken_spaces oneSpace starts, dropStaleKeys_none]
  have afterStands : (cursor.advanceBy 1).At (c :: rest) (place + 1) := oneSpace.skipSpaces
  refine ⟨cursor.advanceBy 1, afterStands, ?_⟩
  rw [step_of_settled settles afterStands, closeBlocks_reached (Or.inl (by omega))]

/-- A plain scalar is read with the end of its line. -/
theorem step_plain
    {chars : List Char}
    (plain : GoesOnPlain chars)
    (noMark : beginsWithMark chars = false)
    (nonempty : chars ≠ [])
    (ahead : LineAhead next more)
    (reached : next ≤ parent)
    (stands : cursor.At (' ' :: (chars ++ '\n' :: (indentation next ++ more))) place)
    (inside : parent < place) :
    ∃ after, (outside cursor tokens parent outer false none).step = some after ∧
      Between after (tokens ++ [.scalar (String.ofList chars) true]) parent outer more next := by
  obtain ⟨c, rest, rfl⟩ := List.exists_cons_of_ne_nil nonempty
  have noGap : isGap c = false := plain.starts c rfl
  have noIndicator : isIndicator c = false := by
    rw [beginsWithMark, Bool.or_eq_false_iff] at noMark
    exact noMark.1
  have noComment : c ≠ '#' := by
    rintro rfl
    exact absurd noIndicator (by decide)
  rw [List.cons_append] at stands
  obtain ⟨atValue, atValueStands, isStep⟩ := step_value stands noGap noComment inside
  have isPlain : (outside atValue tokens parent outer false none).scanAt c =
      (outside atValue tokens parent outer false none).scanPlain := by
    refine scanAt_plain atValueStands (atValueStands.atDocumentMark (Nat.succ_pos place)) noGap ?_
    rw [← List.cons_append, beginsWithMark_line, noMark]
  have enough : (c :: rest).length < atValue.rest.length + 1 := by
    rw [atValueStands.rest]
    simp only [List.length_cons, List.length_append]
    omega
  have isLeast : ((parent : Int) + 1).toNat = parent + 1 := by omega
  obtain ⟨after, isRead, afterStands⟩ :=
    readPlain_line plain nonempty ahead (Nat.lt_succ_of_le reached) enough [] {} atValueStands
      (Nat.succ_le_succ (Nat.le_of_lt inside))
  refine ⟨_, ?_, between_of_at afterStands (startsToken_of_ahead ahead)⟩
  rw [isStep, isPlain, scanPlain]
  simp only [saveKey, outside, inFlow, List.isEmpty_nil, Bool.not_true, Bool.not_false,
    ↓reduceIte, Option.bind_eq_bind, Option.bind_some, isLeast, isRead]
  rfl

/-- A text in quotes is read up to the end of its line. -/
theorem step_quoted
    {quote : Char}
    (isQuote : quote = '\'' ∨ quote = '"')
    {written chars : List Char}
    (quoted : Quoted quote written chars)
    (ahead : LineAhead next more)
    (stands : cursor.At
      (' ' :: quote :: (written ++ quote :: '\n' :: (indentation next ++ more))) place)
    (inside : parent < place) :
    ∃ after, (outside cursor tokens parent outer false none).step = some after ∧
      Between after (tokens ++ [.scalar (String.ofList chars) false]) parent outer more next := by
  have noGap : isGap quote = false := by
    rcases isQuote with rfl | rfl <;> rfl
  have noComment : quote ≠ '#' := by
    rcases isQuote with rfl | rfl <;> decide
  obtain ⟨atValue, atValueStands, isStep⟩ := step_value stands noGap noComment inside
  have isScalar : (outside atValue tokens parent outer false none).scanAt quote =
      (outside atValue tokens parent outer false none).scanQuoted quote := by
    have noMark : atValue.atDocumentMark = false :=
      atValueStands.atDocumentMark (Nat.succ_pos place)
    rcases isQuote with rfl | rfl <;> simp [scanAt, outside, noMark]
  have enough : written.length < atValue.advance.rest.length + 1 := by
    rw [atValueStands.advance.rest, List.length_append]
    omega
  obtain ⟨after, last, isRead, afterStands⟩ :=
    quoted.read noGap (by simp) enough [] atValueStands.advance (Nat.succ_pos _)
  refine ⟨outside after (tokens ++ [.scalar (String.ofList chars) false]) parent outer false none,
    ?_, between_of_line afterStands (startsToken_of_ahead ahead)⟩
  rw [isStep, isScalar, scanQuoted]
  simp only [saveKey, outside, Bool.not_false, ↓reduceIte, Option.bind_eq_bind, Option.bind_some,
    isRead]
  rfl

/-- A block is read up to the line after it. -/
theorem step_block
    {chars : List Char}
    (printable : ∀ c ∈ chars, isPrintable c = true)
    (nonempty : chars ≠ [])
    (ahead : LineAhead next more)
    (reached : next ≤ parent)
    (stands : cursor.At
      (' ' :: (blockHeader chars ++ '\n' ::
        (blockChars (parent + 2) true chars ++ (blockEnd chars ++ (indentation next ++ more)))))
      place)
    (inside : parent < place) :
    ∃ after, (outside cursor tokens parent outer false none).step = some after ∧
      Between after (tokens ++ [.scalar (String.ofList chars) false]) parent outer more next := by
  rw [blockHeader_eq, List.cons_append] at stands
  obtain ⟨atValue, atValueStands, isStep⟩ := step_value stands rfl (by decide) inside
  have isScalar : (outside atValue tokens parent outer false none).scanAt '|' =
      (outside atValue tokens parent outer false none).scanBlock true := by
    simp [scanAt, outside, inFlow, atValueStands.atDocumentMark (Nat.succ_pos place)]
  obtain ⟨after, isRead, afterStands⟩ :=
    readBlock_chars ahead reached printable nonempty atValueStands.advance
  refine ⟨_, ?_, between_of_at afterStands (startsToken_of_ahead ahead)⟩
  rw [isStep, isScalar, scanBlock]
  simp only [dropKey, possibleKey?, setKey, outside, Option.any_none, Bool.false_eq_true,
    ↓reduceIte, Option.bind_eq_bind, Option.bind_some, isRead]
  rfl

/-- A text is read back, and with it whether it is written plainly. -/
theorem step_text
    (text : String)
    (ahead : LineAhead next more)
    (reached : next ≤ parent)
    (stands : cursor.At
      (' ' :: (scalarLine (parent + 2) text ++ (indentation next ++ more))) place)
    (inside : parent < place) :
    ∃ after, (outside cursor tokens parent outer false none).step = some after ∧
      Between after (tokens ++ [.scalar text (decide (Style.ofText text = .plain))]) parent outer
        more next := by
  obtain ⟨chars, rfl⟩ : ∃ chars, text = String.ofList chars :=
    ⟨text.toList, String.ofList_toList.symm⟩
  cases style : Style.ofText (String.ofList chars) with
  | plain =>
      obtain ⟨notOther, allowed⟩ := Style.of_plain style
      obtain ⟨plain, noMark⟩ := goesOnPlain_of_allowsPlain allowed
      have nonempty := ne_nil_of_plain notOther
      rw [String.toList_ofList] at plain noMark nonempty
      rw [scalarLine, style, String.toList_ofList] at stands
      simp only [List.append_assoc, List.cons_append, List.nil_append] at stands
      exact step_plain plain noMark nonempty ahead reached stands inside
  | singleQuoted =>
      obtain ⟨noLineFeed, allowed⟩ := Style.of_singleQuoted style
      rw [String.toList_ofList] at noLineFeed allowed
      simp only [allowsQuotes, Bool.and_eq_true, Bool.not_eq_true'] at allowed
      obtain ⟨printable, noBreakAfter⟩ := printable_of_needsEscapes allowed.1
      rw [scalarLine, style, String.toList_ofList] at stands
      simp only [List.append_assoc, List.cons_append, List.nil_append] at stands
      exact step_quoted (Or.inl rfl) (quoted_single (Nat.succ_pos _) printable noLineFeed
        noBreakAfter allowed.2) ahead stands inside
  | doubleQuoted =>
      rw [scalarLine, style, String.toList_ofList] at stands
      simp only [List.append_assoc, List.cons_append, List.nil_append] at stands
      exact step_quoted (Or.inr rfl) (quoted_double chars) ahead stands inside
  | block =>
      obtain ⟨lineFeed, allowed⟩ := Style.of_block style
      rw [String.toList_ofList] at lineFeed allowed
      simp only [allowsBlock, Bool.and_eq_true, Bool.not_eq_true'] at allowed
      have printable := (printable_of_needsEscapes allowed.1).1
      rw [scalarLine, style, String.toList_ofList] at stands
      simp only [List.append_assoc, List.cons_append] at stands
      exact step_block printable (List.ne_nil_of_mem lineFeed) ahead reached stands inside

end Values

end Scanner

/-! ## Contents -/

namespace Content

mutual

/-- The tokens of a content. -/
def tokens : Content → List Token
  | .bool value => [.scalar (if value then "true" else "false") true]
  | .word value => [.scalar (toString value.toNat) true]
  | .text value => [.scalar value (decide (Style.ofText value = .plain))]
  | .group entries => .blockMappingStart :: entryTokens entries ++ [.blockEnd]

/-- The tokens of entries. -/
def entryTokens : List (String × Content) → List Token
  | [] => []
  | (name, content) :: rest =>
      .key :: .scalar name true :: .value :: content.tokens ++ entryTokens rest

end

/-- A content whose groups are not empty, not nested more deeply than a number, and have
different names, which can stand before a colon. -/
inductive Fits : Nat → Content → Prop
  | bool (depth : Nat) (value : Bool) : Fits depth (.bool value)
  | word (depth : Nat) (value : UInt64) : Fits depth (.word value)
  | text (depth : Nat) (value : String) : Fits depth (.text value)
  | group
      {depth : Nat}
      {entries : List (String × Content)}
      (nonempty : entries ≠ [])
      (names : ∀ entry ∈ entries, isEntryName entry.1 = true)
      (distinct : (entries.map (·.1)).Nodup)
      (contents : ∀ entry ∈ entries, Fits depth entry.2) :
      Fits (depth + 1) (.group entries)

/-- A content is scanned from the colon of its entry to the next entry. -/
structure Scans (content : Content) : Prop where
  leads : ∀ {cursor : Cursor} {tokens : List Token} {outer : List Int} {parent next place : Nat}
    {more : List Char}, LineAhead next more → next ≤ parent →
    cursor.At (content.print parent ++ (indentation next ++ more)) place → parent < place →
    ∃ count after, count ≤ (content.print parent).length ∧
      Scanner.Leads count (Scanner.outside cursor tokens parent outer false none) after ∧
      Scanner.Between after (tokens ++ content.tokens) parent outer more next

end Content

/-- What is known about the name of an entry. -/
theorem isName_of_isEntryName
    {name : String}
    (isEntryName : isEntryName name = true) :
    Scanner.IsName name.toList ∧ plainKind name = .string := by
  simp only [Yaml.isEntryName, Bool.and_eq_true, decide_eq_true_eq, List.all_eq_true,
    Bool.or_eq_true] at isEntryName
  obtain ⟨⟨⟨chars, starts⟩, short⟩, isText⟩ := isEntryName
  refine ⟨⟨chars, ?_, ?_, short⟩, isText⟩
  · intro c isFirst
    rw [show name.toList.head? = some c from isFirst] at starts
    exact starts
  · intro isEmpty
    rw [isEmpty] at starts
    cases starts

/-- Letters and digits can be written as they are. -/
theorem isPrintable_of_isAlphanum
    {c : Char}
    (alphanum : c.isAlphanum = true) :
    isPrintable c = true := by
  have bounds : ' ' ≤ c ∧ c ≤ '~' := by
    delta Char.isAlphanum Char.isAlpha Char.isUpper Char.isLower at alphanum
    simp only [Char.isDigit, Bool.or_eq_true, Bool.and_eq_true, decide_eq_true_eq, ge_iff_le,
      UInt32.le_iff_toNat_le, Char.le_def] at alphanum ⊢
    simp at alphanum ⊢
    omega
  simp [isPrintable, bounds]

/-- Without colons and hashes there is no mark. -/
theorem hasMark_eq_false
    {chars : List Char}
    (unmarked : ∀ c ∈ chars, c ≠ ':' ∧ c ≠ '#')
    (afterGap : Bool) :
    hasMark afterGap chars = false := by
  induction chars generalizing afterGap with
  | nil =>
      rfl
  | cons c rest inductionHypothesis =>
      rw [List.forall_mem_cons] at unmarked
      rw [hasMark, inductionHypothesis unmarked.2]
      simp [unmarked.1]

/-- Letters and digits can be written plainly. -/
theorem goesOnPlain_of_isAlphanum
    {chars : List Char}
    (alphanum : ∀ c ∈ chars, c.isAlphanum = true) :
    GoesOnPlain chars ∧ beginsWithMark chars = false := by
  have other : ∀ d : Char, d.isAlphanum = false → ∀ c ∈ chars, c ≠ d := by
    rintro d isOther c member rfl
    rw [alphanum c member] at isOther
    cases isOther
  have noGap : ∀ c ∈ chars, isGap c = false := by
    intro c member
    simp only [isGap, isBlank, isBreak, Bool.or_eq_false_iff, decide_eq_false_iff_not]
    refine ⟨⟨?_, ?_⟩, ⟨⟨⟨?_, ?_⟩, ?_⟩, ?_⟩, ?_⟩ <;> exact other _ (by decide) c member
  refine ⟨⟨fun c member => isPrintable_of_isAlphanum (alphanum c member),
    fun c member => (isGap_eq_false.mp (noGap c member)).2, ?_,
    fun c isFirst => noGap c (List.mem_of_head? isFirst), ?_⟩, ?_⟩
  · exact hasMark_eq_false (fun c member => ⟨other ':' (by decide) c member,
      other '#' (by decide) c member⟩) true
  · intro isLast
    exact other ' ' (by decide) ' ' (List.mem_of_getLast? isLast) rfl
  · cases chars with
    | nil =>
        rfl
    | cons c rest =>
        exact Scanner.beginsWithMark_of_isAlphanum (alphanum c List.mem_cons_self) rest

namespace Content

/-- Truth values are written with letters. -/
theorem isAlphanum_bool
    {value : Bool}
    {c : Char}
    (member : c ∈ (if value then "true" else "false").toList) :
    c.isAlphanum = true := by
  have everyChar : (if value then "true" else "false").toList.all Char.isAlphanum = true := by
    cases value <;> rfl
  exact List.all_eq_true.mp everyChar c member

/-- Words are written with digits. -/
theorem isAlphanum_word
    {value : Nat}
    {c : Char}
    (member : c ∈ (toString value).toList) :
    c.isAlphanum = true := by
  have isDigit := List.all_eq_true.mp (Text.all_isDigit_toDigits value) c
    (Nat.toList_repr ▸ member)
  simp [Char.isAlphanum, isDigit]

/-- A value that is written with letters and digits is scanned. -/
theorem scans_of_isAlphanum
    {content : Content}
    {chars : List Char}
    (alphanum : ∀ c ∈ chars, c.isAlphanum = true)
    (nonempty : chars ≠ [])
    (isPrinted : ∀ column, content.print column = ' ' :: chars ++ ['\n'])
    (isToken : content.tokens = [.scalar (String.ofList chars) true]) :
    content.Scans := by
  constructor
  intro cursor tokens outer parent next place more ahead reached stands inside
  obtain ⟨plain, noMark⟩ := goesOnPlain_of_isAlphanum alphanum
  rw [isPrinted] at stands ⊢
  simp only [List.append_assoc, List.cons_append, List.nil_append] at stands
  obtain ⟨after, isStep, between⟩ :=
    Scanner.step_plain plain noMark nonempty ahead reached stands inside
  exact ⟨1, after, Nat.succ_le_of_lt (by simp), .step rfl isStep (.refl after),
    isToken ▸ between⟩

/-- A text is scanned. -/
theorem scans_text (text : String) : (Content.text text).Scans := by
  constructor
  intro cursor tokens outer parent next place more ahead reached stands inside
  rw [print] at stands ⊢
  obtain ⟨after, isStep, between⟩ := Scanner.step_text text ahead reached stands inside
  exact ⟨1, after, Nat.succ_le_of_lt (by simp), .step rfl isStep (.refl after), between⟩

/-- An entry begins like a line. -/
theorem lineAhead_entry
    {name : String}
    (isName : isEntryName name = true)
    (own : Nat)
    (rest : List Char) :
    LineAhead own (name.toList ++ ':' :: rest) := by
  have isName := (isName_of_isEntryName isName).1
  obtain ⟨c, others, isChars⟩ := List.exists_cons_of_ne_nil isName.nonempty
  refine ⟨fun d isFirst => isName.starts d ?_, by simp⟩
  rw [isChars] at isFirst ⊢
  exact isFirst

/-- A gap follows the colon of an entry. -/
theorem startsGap_print
    (content : Content)
    (column : Nat)
    (rest : List Char) :
    StartsGap (content.print column ++ rest) := by
  cases content <;>
    · rw [print]
      rintro c ⟨rfl⟩
      rfl

section Entries

variable {own next : Nat} {more : List Char} {scanner : Scanner} {tokens : List Token}
  {column : Int} {outer : List Int}

/-- An entry is scanned up to the line after it. -/
theorem scans_entry
    {name : String}
    {content : Content}
    (isName : isEntryName name = true)
    (scans : content.Scans)
    (ahead : LineAhead next more)
    (outside : next ≤ own)
    (between : scanner.Between tokens column outer
      (name.toList ++ ':' :: (content.print own ++ (indentation next ++ more))) own)
    (reached : column ≤ own) :
    ∃ count after, count ≤ (name.toList ++ ':' :: content.print own).length ∧
      Scanner.Leads count scanner after ∧
      after.Between (tokens ++ Scanner.opening column own ++ entryTokens [(name, content)]) own
        (Scanner.outerColumnsOf column own outer) more next := by
  have isName := (isName_of_isEntryName isName).1
  obtain ⟨atValue, place, leads, atValueStands, inside⟩ :=
    between.entry isName (startsGap_print content own _) reached
  obtain ⟨count, after, isShort, leadsOn, isBetween⟩ := scans.leads ahead outside atValueStands inside
  refine ⟨count + 2, after, ?_, leads.trans leadsOn, ?_⟩
  · have someLength := List.length_pos_iff.mpr isName.nonempty
    simp only [List.length_append, List.length_cons]
    omega
  · rw [String.ofList_toList] at isBetween
    simpa [entryTokens] using isBetween

/-- Entries are scanned up to the line after them. -/
theorem scans_entries
    {name : String}
    {content : Content}
    {rest : List (String × Content)}
    (names : ∀ entry ∈ (name, content) :: rest, isEntryName entry.1 = true)
    (scans : ∀ entry ∈ (name, content) :: rest, entry.2.Scans)
    (ahead : LineAhead next more)
    (outside : next ≤ own)
    (between : scanner.Between tokens column outer (name.toList ++ ':' ::
      (content.print own ++ (printEntries own rest ++ (indentation next ++ more)))) own)
    (reached : column ≤ own) :
    ∃ count after, count ≤ (printEntries own ((name, content) :: rest)).length ∧
      Scanner.Leads count scanner after ∧
      after.Between (tokens ++ Scanner.opening column own ++ entryTokens ((name, content) :: rest))
        own (Scanner.outerColumnsOf column own outer) more next := by
  induction rest generalizing name content scanner tokens column outer with
  | nil =>
      rw [List.forall_mem_cons] at names scans
      obtain ⟨count, after, isShort, leads, isBetween⟩ :=
        scans_entry names.1 scans.1 ahead outside between reached
      refine ⟨count, after, Nat.le_trans isShort ?_, leads, isBetween⟩
      simp [printEntries]
  | cons entry rest inductionHypothesis =>
      obtain ⟨nextName, nextContent⟩ := entry
      rw [List.forall_mem_cons] at names scans
      have nextAhead := lineAhead_entry (names.2 _ List.mem_cons_self) own
        (nextContent.print own ++ (printEntries own rest ++ (indentation next ++ more)))
      have isNext : printEntries own ((nextName, nextContent) :: rest) ++
          (indentation next ++ more) = indentation own ++ (nextName.toList ++ ':' ::
            (nextContent.print own ++ (printEntries own rest ++ (indentation next ++ more)))) := by
        simp [printEntries]
      rw [isNext] at between
      obtain ⟨count, atNext, isShort, leads, isBetween⟩ :=
        scans_entry names.1 scans.1 nextAhead (Nat.le_refl own) between reached
      obtain ⟨further, after, restShort, leadsOn, isEnd⟩ :=
        inductionHypothesis names.2 scans.2 isBetween (Int.le_refl own)
      refine ⟨further + count, after, ?_, leads.trans leadsOn, ?_⟩
      · rw [printEntries]
        simp only [List.length_append, List.length_cons] at isShort restShort ⊢
        omega
      · have noOpening : Scanner.opening (own : Int) own = [] := by simp [Scanner.opening]
        have sameColumns : Scanner.outerColumnsOf (own : Int) own
            (Scanner.outerColumnsOf column own outer) = Scanner.outerColumnsOf column own outer := by
          simp [Scanner.outerColumnsOf]
        rw [noOpening, sameColumns] at isEnd
        simpa [entryTokens] using isEnd

end Entries

/-- Every content that fits is scanned. -/
theorem Fits.scans
    {depth : Nat}
    {content : Content}
    (fits : content.Fits depth) :
    content.Scans := by
  induction fits with
  | bool depth value =>
      have nonempty : (if value then "true" else "false").toList ≠ [] := by
        cases value <;> decide
      exact scans_of_isAlphanum (fun _ => isAlphanum_bool) nonempty (fun _ => rfl) (by
        rw [String.ofList_toList, Content.tokens])
  | word depth value =>
      have nonempty : (toString value.toNat).toList ≠ [] := by
        rw [show toString value.toNat = value.toNat.repr from rfl, Nat.toList_repr]
        exact Nat.toDigits_ne_nil
      exact scans_of_isAlphanum (fun _ => isAlphanum_word) nonempty (fun _ => rfl) (by
        rw [String.ofList_toList, Content.tokens])
  | text depth value =>
      exact scans_text value
  | @group depth entries nonempty names distinct contents inductionHypothesis =>
      constructor
      intro cursor tokens outer parent next place more ahead reached stands inside
      obtain ⟨⟨name, content⟩, rest, rfl⟩ := List.exists_cons_of_ne_nil nonempty
      have firstAhead := lineAhead_entry (names _ List.mem_cons_self) (parent + 2)
        (content.print (parent + 2) ++
          (printEntries (parent + 2) rest ++ (indentation next ++ more)))
      rw [print, printEntries] at stands
      simp only [List.append_assoc, List.cons_append] at stands
      have between : (Scanner.outside cursor tokens parent outer false none).Between tokens parent
          outer _ (parent + 2) :=
        Scanner.between_of_line stands (Scanner.startsToken_of_ahead firstAhead)
      obtain ⟨count, after, isShort, leads, isBetween⟩ :=
        scans_entries names inductionHypothesis ahead (by omega) between (by omega)
      refine ⟨count, after, ?_, leads, ?_⟩
      · rw [print, List.length_cons]
        exact Nat.le_succ_of_le isShort
      · have opens : Scanner.opening (parent : Int) (parent + 2 : Nat) = [.blockMappingStart] := by
          rw [Scanner.opening, if_pos (by omega)]
        have columns : Scanner.outerColumnsOf (parent : Int) (parent + 2 : Nat) outer =
            (parent : Int) :: outer := by
          rw [Scanner.outerColumnsOf, if_pos (by omega)]
        rw [opens, columns] at isBetween
        have isClosed := isBetween.closed (by omega)
        simpa [Content.tokens] using isClosed

end Content

/-! ## The end -/

/-- At the end the outermost block is closed. -/
theorem Scanner.Between.finish
    {scanner : Scanner}
    {tokens : List Token}
    (between : scanner.Between tokens 0 [-1] [] 0) :
    ∃ last, scanner.step = some last ∧ last.finished = true ∧
      last.tokens = tokens ++ [.blockEnd, .streamEnd] := by
  obtain ⟨_, settled, settles, stands, closes⟩ := between
  have isClosed : settled.closeBlocks (-1) =
      Scanner.outside settled.cursor (tokens ++ [.blockEnd]) (-1) [] true none := by
    rw [closes (-1) (by decide), Scanner.closeBlocks_deeper (by decide),
      Scanner.closeBlocks_reached (Or.inr rfl)]
  refine ⟨{ (Scanner.outside settled.cursor (tokens ++ [.blockEnd]) (-1) [] true none).push
    .streamEnd with keyAllowed := false, finished := true }, ?_, rfl, ?_⟩
  · rw [Scanner.step, settles, Option.bind_eq_bind, Option.bind_some, stands.peek?_nil,
      Scanner.finish, isClosed]
    rfl
  · simp [Scanner.push, Scanner.outside]

end SourceFacts.Yaml
