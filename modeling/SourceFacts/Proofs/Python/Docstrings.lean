import Mathlib.Data.List.Flatten
import Mathlib.Data.List.TakeWhile
import SourceFacts.Python.Docstring

namespace SourceFacts.Python.Docstring

open Text List

/-!
# What cleaning leaves of a docstring

To clean a docstring is to take blanks away: those around the first line, the indentation that the
other lines share, those at the ends of lines. The indentation is measured in bytes and taken away
in characters. As long as the blanks of every line are as many as the shared indentation has bytes,
all other characters stay. A line that begins with fewer blanks of more bytes loses what stands
behind them.
-/

/-- Characters without the blanks among them. -/
def withoutBlanks (chars : List Char) : List Char := chars.filter (!isBlank ·)

/-- The number of blanks that a line begins with. -/
def leadingBlanks (line : List Char) : Nat := (line.takeWhile isBlank).length

/-! ## Blanks that are taken away -/

theorem withoutBlanks_append
    (first second : List Char) :
    withoutBlanks (first ++ second) = withoutBlanks first ++ withoutBlanks second :=
  List.filter_append first second

theorem withoutBlanks_eq_nil_iff
    {chars : List Char} :
    withoutBlanks chars = [] ↔ ∀ c ∈ chars, isBlank c = true := by
  simp [withoutBlanks, List.filter_eq_nil_iff]

theorem withoutBlanks_cons_of_isBlank
    {c : Char}
    (blank : isBlank c = true)
    (rest : List Char) :
    withoutBlanks (c :: rest) = withoutBlanks rest :=
  List.filter_cons_of_neg (by simp [blank])

theorem withoutBlanks_dropBlanks (chars : List Char) :
    withoutBlanks (dropBlanks chars) = withoutBlanks chars := by
  induction chars with
  | nil =>
      rfl
  | cons c rest inductionHypothesis =>
      rw [dropBlanks, List.dropWhile_cons]
      split
      next blank =>
        rw [withoutBlanks_cons_of_isBlank blank, ← inductionHypothesis, dropBlanks]
      next =>
        rfl

theorem withoutBlanks_reverse (chars : List Char) :
    withoutBlanks chars.reverse = (withoutBlanks chars).reverse :=
  List.filter_reverse

theorem withoutBlanks_dropBlanksEnd (chars : List Char) :
    withoutBlanks (dropBlanksEnd chars) = withoutBlanks chars := by
  have dropped := withoutBlanks_dropBlanks chars.reverse
  rw [dropBlanks] at dropped
  rw [dropBlanksEnd, withoutBlanks_reverse, dropped, withoutBlanks_reverse, List.reverse_reverse]

/-! ## Lines -/

/-- A line feed is a blank, so that no other character is lost between segments. -/
theorem flatMap_segments (chars : List Char) :
    (segments chars).flatMap withoutBlanks = withoutBlanks chars := by
  induction chars with
  | nil =>
      rfl
  | cons c rest inductionHypothesis =>
      rw [segments]
      split
      next isBreak =>
        have blank : isBlank c = true := by
          rw [isBreak]
          decide
        rw [List.flatMap_cons, inductionHypothesis, withoutBlanks_cons_of_isBlank blank]
        rfl
      next =>
        cases shape : segments rest with
        | nil =>
            rw [shape, List.flatMap_nil] at inductionHypothesis
            rw [List.flatMap_singleton, ← List.singleton_append (l := rest), withoutBlanks_append,
              ← inductionHypothesis, List.append_nil]
        | cons first more =>
            rw [shape, List.flatMap_cons] at inductionHypothesis
            rw [List.flatMap_cons, ← List.singleton_append, withoutBlanks_append,
              List.append_assoc, inductionHypothesis, ← withoutBlanks_append,
              List.singleton_append]

/-- So is a carriage return. -/
theorem withoutBlanks_dropReturn (line : List Char) :
    withoutBlanks (dropReturn line) = withoutBlanks line := by
  rw [dropReturn]
  split
  next isReturn =>
    obtain ⟨before, rfl⟩ := List.getLast?_eq_some_iff.mp isReturn
    have none : withoutBlanks ['\r'] = [] := by decide
    rw [List.dropLast_concat, withoutBlanks_append, none, List.append_nil]
  next =>
    rfl

theorem flatMap_linesOfSegments (pieces : List (List Char)) :
    (linesOfSegments pieces).flatMap withoutBlanks = pieces.flatMap withoutBlanks := by
  fun_induction linesOfSegments pieces with
  | case1 =>
      rfl
  | case2 last isEmpty =>
      rw [List.isEmpty_iff.mp isEmpty]
      rfl
  | case3 last =>
      rfl
  | case4 line next more inductionHypothesis =>
      rw [List.flatMap_cons, withoutBlanks_dropReturn, inductionHypothesis]
      rfl

/-- The first line of a text. -/
def firstLine (text : List Char) : List Char := (linesOfSegments (segments text)).headD []

/-- The lines of a text after the first one. -/
def laterLines (text : List Char) : List (List Char) := (linesOfSegments (segments text)).drop 1

theorem withoutBlanks_eq_lines (text : List Char) :
    withoutBlanks text =
      withoutBlanks (firstLine text) ++ (laterLines text).flatMap withoutBlanks := by
  rw [← flatMap_segments, ← flatMap_linesOfSegments, firstLine, laterLines]
  cases linesOfSegments (segments text) with
  | nil =>
      rfl
  | cons first later =>
      rfl

/-! ## Indentation -/

/-- The characters of a line that are as many as the indentation are all blank if the line is, or
if it begins with so many blanks. -/
theorem all_take_iff
    {indent : Nat}
    {line : List Char} :
    (∀ c ∈ line.take indent, isBlank c = true) ↔
      line.all isBlank = true ∨ indent ≤ leadingBlanks line := by
  induction line generalizing indent with
  | nil =>
      simp
  | cons c rest inductionHypothesis =>
      cases indent with
      | zero =>
          simp
      | succ indent =>
          rw [List.take_succ_cons, List.forall_mem_cons, inductionHypothesis, List.all_cons]
          cases blank : isBlank c with
          | false =>
              simp [leadingBlanks, blank]
          | true =>
              simp [leadingBlanks, blank]

/-- Taking the indentation away loses nothing exactly if there are only blanks in it. -/
theorem withoutBlanks_drop_eq_iff
    {indent : Nat}
    {line : List Char} :
    withoutBlanks (line.drop indent) = withoutBlanks line ↔
      line.all isBlank = true ∨ indent ≤ leadingBlanks line := by
  have parts : withoutBlanks line =
      withoutBlanks (line.take indent) ++ withoutBlanks (line.drop indent) := by
    rw [← withoutBlanks_append, List.take_append_drop]
  rw [← all_take_iff, ← withoutBlanks_eq_nil_iff, parts, List.self_eq_append_left]

theorem withoutBlanks_drop_sublist
    (indent : Nat)
    (line : List Char) :
    withoutBlanks (line.drop indent) <+ withoutBlanks line :=
  (List.drop_sublist indent line).filter _

theorem withoutBlanks_dedent
    (indent : Nat)
    (line : List Char) :
    withoutBlanks (dedent indent line) = withoutBlanks (line.drop indent) := by
  rw [dedent]
  split
  next isBlankLine =>
    have none : withoutBlanks (line.drop indent) = [] :=
      withoutBlanks_eq_nil_iff.mpr fun c member =>
        List.all_eq_true.mp isBlankLine c (List.mem_of_mem_drop member)
    rw [none]
    rfl
  next =>
    rw [withoutBlanks_dropBlanksEnd]

theorem sharedIndentation_le
    {lines : List (List Char)}
    {line : List Char}
    (member : line ∈ lines)
    (isWritten : line.all isBlank = false) :
    sharedIndentation lines ≤ indentation line := by
  have isMeasured : indentation line ∈
      (lines.filter fun line => !line.all isBlank).map indentation :=
    List.mem_map_of_mem (List.mem_filter.mpr ⟨member, by rw [isWritten]; rfl⟩)
  rw [sharedIndentation]
  cases least : ((lines.filter fun line => !line.all isBlank).map indentation).min? with
  | none =>
      exact Nat.zero_le _
  | some bound =>
      exact (List.min?_eq_some_iff.mp least).2 _ isMeasured

/-- Blanks of one byte are as many as their bytes. -/
theorem indentation_of_narrow
    {line : List Char}
    (narrow : ∀ c ∈ line.takeWhile isBlank, c.utf8Size = 1) :
    indentation line = leadingBlanks line := by
  have counted : ∀ (chars : List Char) (size : Nat), (∀ c ∈ chars, c.utf8Size = 1) →
      chars.foldl (fun size c => size + c.utf8Size) size = size + chars.length := by
    intro chars
    induction chars with
    | nil =>
        exact fun size _ => rfl
    | cons c rest inductionHypothesis =>
        intro size narrow
        rw [List.forall_mem_cons] at narrow
        rw [List.foldl_cons, inductionHypothesis _ narrow.2, narrow.1, List.length_cons]
        omega
  rw [indentation, indentation.byteSize, counted _ 0 narrow, Nat.zero_add, leadingBlanks]

/-! ## Texts -/

theorem withoutBlanks_join (lines : List (List Char)) :
    withoutBlanks (join "\n" (lines.map String.ofList)).toList = lines.flatMap withoutBlanks := by
  have break_ : withoutBlanks "\n".toList = [] := by decide
  have same : (lines.map String.ofList).map String.toList = lines := by
    simp [Function.comp_def]
  rw [join, String.toList_intercalate, same]
  induction lines with
  | nil =>
      rfl
  | cons line rest inductionHypothesis =>
      cases rest with
      | nil =>
          simp [List.intercalate]
      | cons next more =>
          have tail := inductionHypothesis (by simp [Function.comp_def])
          rw [List.intercalate_cons_cons, withoutBlanks_append, withoutBlanks_append, break_,
            List.append_nil, tail]
          rfl

/-- Empty lines are left out without loss. -/
theorem flatMap_dropWhile_isEmpty (lines : List (List Char)) :
    (lines.dropWhile (·.isEmpty)).flatMap withoutBlanks = lines.flatMap withoutBlanks := by
  induction lines with
  | nil =>
      rfl
  | cons line rest inductionHypothesis =>
      rw [List.dropWhile_cons]
      split
      next isEmpty =>
        rw [inductionHypothesis, List.flatMap_cons, List.isEmpty_iff.mp isEmpty]
        rfl
      next =>
        rfl

/-- So are those at the end. -/
theorem flatMap_dropWhile_isEmpty_reverse (lines : List (List Char)) :
    ((lines.reverse.dropWhile (·.isEmpty)).reverse).flatMap withoutBlanks =
      lines.flatMap withoutBlanks := by
  have parts : (lines.reverse.dropWhile (·.isEmpty)).reverse ++
      (lines.reverse.takeWhile (·.isEmpty)).reverse = lines := by
    rw [← List.reverse_append, List.takeWhile_append_dropWhile, List.reverse_reverse]
  have nothing : ((lines.reverse.takeWhile (·.isEmpty)).reverse).flatMap withoutBlanks = [] := by
    rw [List.flatMap_eq_nil_iff]
    intro line member
    have isEmpty := List.mem_takeWhile_imp (List.mem_reverse.mp member)
    rw [List.isEmpty_iff.mp isEmpty]
    rfl
  rw [← congrArg (List.flatMap withoutBlanks) parts, List.flatMap_append, nothing,
    List.append_nil]

/-- Cleaning leaves what is not blank in the first line, and in each other line behind as many
characters as the shared indentation has bytes. -/
theorem withoutBlanks_clean (raw : String) :
    withoutBlanks (clean raw).toList =
      withoutBlanks (firstLine (body raw.toList)) ++
        (laterLines (body raw.toList)).flatMap fun line =>
          withoutBlanks (line.drop (sharedIndentation (laterLines (body raw.toList)))) := by
  rw [clean, ← firstLine, ← laterLines, withoutBlanks_join, flatMap_dropWhile_isEmpty,
    flatMap_dropWhile_isEmpty_reverse, List.flatMap_cons, withoutBlanks_dropBlanksEnd,
    withoutBlanks_dropBlanks, List.flatMap_map]
  simp only [withoutBlanks_dedent]

/-! ## Literals -/

/-- A string as it is written: letters, a quote, what stands between the quotes, and the quote once
more. -/
structure Literal where
  letters : List Char
  quote : List Char
  content : List Char
  areMarkers : ∀ letter ∈ letters, markers.contains letter = true
  isQuote : quote ∈ quotes
  /-- A quote of one character is not followed by itself, which would close the string. -/
  isOpen : quote.length = 1 → content.head? ≠ quote.head?

namespace Literal

/-- The text of a string as it is written. -/
def raw (literal : Literal) : String :=
  String.ofList (literal.letters ++ (literal.quote ++ literal.content ++ literal.quote))

end Literal

theorem dropStart?_append
    (start rest : List Char) :
    dropStart? start (start ++ rest) = some rest := by
  induction start with
  | nil =>
      rfl
  | cons c start inductionHypothesis =>
      rw [List.cons_append, dropStart?, if_pos (beq_self_eq_true c), inductionHypothesis]

theorem unquote?_enclosed
    (quote content : List Char) :
    unquote? (quote ++ content ++ quote) quote = some content := by
  rw [unquote?, List.append_assoc, dropStart?_append, Option.bind_some, dropEnd?,
    List.reverse_append, dropStart?_append, Option.map_some, List.reverse_reverse]

/-- Three quotes do not open a string that one quote opens. -/
theorem unquote?_thrice
    {quote : Char}
    {content : List Char}
    (isOpen : content.head? ≠ some quote) :
    unquote? ([quote] ++ content ++ [quote]) [quote, quote, quote] = none := by
  cases content with
  | nil =>
      simp [unquote?, dropStart?]
  | cons c rest =>
      have differs : quote ≠ c := fun same => isOpen (congrArg some same.symm)
      simp [unquote?, dropStart?, differs]

/-- A string that begins with another quote is not enclosed in this one. -/
theorem unquote?_of_ne
    {quote other : Char}
    (differs : quote ≠ other)
    (more rest : List Char) :
    unquote? (other :: rest) (quote :: more) = none := by
  simp [unquote?, dropStart?, differs]

/-- What stands between the quotes of a string is found, whatever the letters and the quotes. -/
theorem body_raw (literal : Literal) : body literal.raw.toList = literal.content := by
  obtain ⟨letters, quote, content, areMarkers, isQuote, isOpen⟩ := literal
  simp only [quotes, List.mem_cons, List.not_mem_nil, or_false] at isQuote
  have noMarker : ∀ rest : List Char, (quote ++ rest).dropWhile markers.contains = quote ++ rest := by
    intro rest
    rcases isQuote with rfl | rfl | rfl | rfl <;> rfl
  have text : (letters ++ (quote ++ content ++ quote)).dropWhile markers.contains =
      quote ++ content ++ quote := by
    rw [List.dropWhile_append_of_pos areMarkers, List.append_assoc, noMarker]
  have found := unquote?_enclosed quote content
  rw [body, Literal.raw, String.toList_ofList, text, quotes]
  -- Quotes are tried one after the other: those before the right one have to fail.
  rcases isQuote with rfl | rfl | rfl | rfl
  · rw [List.findSome?_cons, found]
    rfl
  · have first : unquote? (['\'', '\'', '\''] ++ content ++ ['\'', '\'', '\''])
        ['"', '"', '"'] = none :=
      unquote?_of_ne (by decide) _ _
    rw [List.findSome?_cons, first, List.findSome?_cons, found]
    rfl
  · have first := unquote?_thrice (isOpen rfl)
    have second : unquote? (['"'] ++ content ++ ['"']) ['\'', '\'', '\''] = none :=
      unquote?_of_ne (by decide) _ _
    rw [List.findSome?_cons, first, List.findSome?_cons, second, List.findSome?_cons, found]
    rfl
  · have first : unquote? (['\''] ++ content ++ ['\'']) ['"', '"', '"'] = none :=
      unquote?_of_ne (by decide) _ _
    have second := unquote?_thrice (isOpen rfl)
    have third : unquote? (['\''] ++ content ++ ['\'']) ['"'] = none :=
      unquote?_of_ne (by decide) _ _
    rw [List.findSome?_cons, first, List.findSome?_cons, second, List.findSome?_cons, third,
      List.findSome?_cons, found]
    rfl

/-! ## What is lost -/

/-- If parts of some texts are equal to these texts when put together, each is equal to its
text. -/
theorem flatMap_eq_flatMap_iff
    {part whole : List Char → List Char}
    (isPart : ∀ text, part text <+ whole text)
    (texts : List (List Char)) :
    texts.flatMap part = texts.flatMap whole ↔ ∀ text ∈ texts, part text = whole text := by
  induction texts with
  | nil =>
      simp
  | cons text rest inductionHypothesis =>
      rw [List.forall_mem_cons, ← inductionHypothesis, List.flatMap_cons, List.flatMap_cons]
      constructor
      · intro same
        have fewer := (Sublist.flatMap_right rest fun text _ => isPart text).length_le
        have first := (isPart text).length_le
        have lengths := congrArg List.length same
        rw [List.length_append, List.length_append] at lengths
        have isFirst := (isPart text).eq_of_length (by omega)
        rw [isFirst] at same
        exact ⟨isFirst, List.append_cancel_left same⟩
      · rintro ⟨isFirst, areRest⟩
        rw [isFirst, areRest]

/-- What cleaning leaves of a text between quotes. -/
structure IsCleaned (content cleaned : List Char) : Prop where
  /-- Of each line but the first, as many characters are taken away as the shared indentation has
  bytes, and besides them only blanks. -/
  lines : withoutBlanks cleaned =
    withoutBlanks (firstLine content) ++
      (laterLines content).flatMap fun line =>
        withoutBlanks (line.drop (sharedIndentation (laterLines content)))
  /-- Nothing that is not blank is added, and none of it moves. -/
  ordered : withoutBlanks cleaned <+ withoutBlanks content
  /-- All of it is left exactly if every line that is not blank begins with as many blanks as the
  shared indentation has bytes. -/
  lossless_iff : withoutBlanks cleaned = withoutBlanks content ↔
    ∀ line ∈ laterLines content, line.all isBlank = true ∨
      sharedIndentation (laterLines content) ≤ leadingBlanks line
  /-- So it is if the lines begin with blanks of one byte. -/
  lossless_of_narrow :
    (∀ line ∈ laterLines content, ∀ c ∈ line.takeWhile isBlank, c.utf8Size = 1) →
      withoutBlanks cleaned = withoutBlanks content

/-- Every docstring is cleaned in this way. -/
theorem isCleaned (literal : Literal) :
    IsCleaned literal.content (clean literal.raw).toList := by
  have lines := withoutBlanks_clean literal.raw
  rw [body_raw] at lines
  have isPart := withoutBlanks_drop_sublist (sharedIndentation (laterLines literal.content))
  have lossless_iff : withoutBlanks (clean literal.raw).toList = withoutBlanks literal.content ↔
      ∀ line ∈ laterLines literal.content, line.all isBlank = true ∨
        sharedIndentation (laterLines literal.content) ≤ leadingBlanks line := by
    rw [lines, withoutBlanks_eq_lines literal.content, List.append_cancel_left_eq,
      flatMap_eq_flatMap_iff isPart]
    exact forall₂_congr fun line _ => withoutBlanks_drop_eq_iff
  refine ⟨lines, ?_, lossless_iff, fun narrow => lossless_iff.mpr fun line member => ?_⟩
  · rw [lines, withoutBlanks_eq_lines literal.content]
    exact (Sublist.flatMap_right _ fun line _ => isPart line).append_left _
  · cases isWritten : line.all isBlank with
    | true =>
        exact .inl rfl
    | false =>
        rw [← indentation_of_narrow (narrow line member)]
        exact .inr (sharedIndentation_le member isWritten)

/-- A docstring whose second line is indented by one blank of two bytes. -/
def wideDocstring : Literal where
  letters := []
  quote := ['"', '"', '"']
  content := "Sum.\n\u00A0ab\n".toList
  areMarkers := by simp
  isQuote := by decide
  isOpen := by decide

/-- A character that is not blank is lost behind a blank of two bytes. -/
theorem exists_character_lost :
    (clean wideDocstring.raw = "Sum.\nb" ∧
        withoutBlanks wideDocstring.content = "Sum.ab".toList) ∧
      ¬ ∀ literal : Literal,
        withoutBlanks (clean literal.raw).toList = withoutBlanks literal.content := by
  have cleaned : clean wideDocstring.raw = "Sum.\nb" := by decide +kernel
  have content : withoutBlanks wideDocstring.content = "Sum.ab".toList := by decide +kernel
  refine ⟨⟨cleaned, content⟩, fun keeps => ?_⟩
  have kept := keeps wideDocstring
  rw [cleaned, content] at kept
  exact absurd kept (by decide)

end SourceFacts.Python.Docstring
