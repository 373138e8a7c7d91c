import SourceFacts.Proofs.Yaml.Blocks
import SourceFacts.Proofs.Yaml.Plain
import SourceFacts.Proofs.Yaml.Quoted

namespace SourceFacts.Yaml

/-!
# Scanning entries

An entry is scanned in three steps: its name, the colon and what follows it. Outside of brackets
a scanner is known by its place, the tokens so far and the columns of the blocks that are open.
-/

/-! ## Spaces before tokens -/

/-- What a token may begin with: neither a gap nor a comment. -/
def StartsToken (chars : List Char) : Prop := ∀ c ∈ chars.head?, isGap c = false ∧ c ≠ '#'

namespace Cursor.At

variable {cursor : Cursor} {rest : List Char} {place count : Nat}

/-- Spaces are passed. -/
theorem skipSpaces (stands : cursor.At (indentation count ++ rest) place) :
    (cursor.advanceBy count).At rest (place + count) := by
  have passed := stands.advanceBy
  rwa [indentation, List.length_replicate] at passed

/-- Before a token only the spaces are passed. -/
theorem skipWhile_spaces
    (stands : cursor.At (indentation count ++ rest) place)
    (starts : StartsToken rest)
    (mayTab : Bool) :
    cursor.skipWhile (fun c => c = ' ' || (mayTab && c = '\t')) = cursor.advanceBy count := by
  have stops : rest.takeWhile (fun c => c = ' ' || (mayTab && c = '\t')) = [] := by
    cases rest with
    | nil =>
        rfl
    | cons c more =>
        have noGap := (isGap_eq_false.mp (starts c rfl).1).1
        simp only [isBlank, Bool.or_eq_false_iff] at noGap
        simp [noGap]
  rw [Cursor.skipWhile, Cursor.takeWhile, stands.rest,
    List.takeWhile_append_of_pos (by simp [indentation]), stops, List.append_nil, indentation,
    List.length_replicate]

/-- Where nothing can be passed, the place stays. -/
theorem skipWhile_nothing
    {c : Char}
    (stands : cursor.At (c :: rest) place)
    {holds : Char → Bool}
    (stops : holds c = false) :
    cursor.skipWhile holds = cursor := by
  obtain ⟨text, index, line, column⟩ := cursor
  obtain ⟨isText, -⟩ := stands
  subst isText
  simp [Cursor.skipWhile, Cursor.takeWhile, stops, Cursor.advanceBy]

/-- A gap follows the next character where the rest begins with one. -/
theorem gapAfter
    {c : Char}
    (stands : cursor.At (c :: rest) place) :
    cursor.gapAfter 1 = beginsWithGap rest := by
  rw [Cursor.gapAfter, stands.rest, beginsWithGap]
  cases rest <;> rfl

/-- No comment begins where a token does. -/
theorem isAt_comment
    (stands : cursor.At rest place)
    (starts : StartsToken rest) :
    cursor.isAt '#' = false := by
  rw [Cursor.isAt, stands.rest]
  cases rest with
  | nil =>
      rfl
  | cons c more =>
      simpa using (starts c rfl).2

/-- No line ends where a token begins. -/
theorem isAtAny_isBreak
    (stands : cursor.At rest place)
    (starts : StartsToken rest) :
    cursor.isAtAny isBreak = false := by
  rw [Cursor.isAtAny, stands.rest]
  cases rest with
  | nil =>
      rfl
  | cons c more =>
      exact (isGap_eq_false.mp (starts c rfl).1).2

end Cursor.At

namespace Scanner

/-! ## Outside of brackets -/

/-- A scanner outside of brackets that has not reached the end. -/
def outside (cursor : Cursor) (tokens : List Token) (column : Int) (outer : List Int)
    (keyAllowed : Bool) (key? : Option PossibleKey) : Scanner where
  cursor
  tokens
  column
  outerColumns := outer
  keyAllowed
  blockKey? := key?

variable {cursor : Cursor} {tokens : List Token} {place : Nat} {column : Int} {outer : List Int}
  {keyAllowed : Bool} {key? : Option PossibleKey}

/-- Spaces before a token are passed. -/
theorem skipToToken_spaces
    {count : Nat}
    {rest : List Char}
    (stands : cursor.At (indentation count ++ rest) place)
    (starts : StartsToken rest)
    (fuel : Nat) :
    skipToToken (fuel + 1) (outside cursor tokens column outer keyAllowed key?) =
      outside (cursor.advanceBy count) tokens column outer keyAllowed key? := by
  have noComment := stands.skipSpaces.isAt_comment starts
  have noBreak := stands.skipSpaces.isAtAny_isBreak starts
  rw [skipToToken]
  simp only [outside, stands.skipWhile_spaces starts, noComment, noBreak, Bool.false_eq_true,
    ↓reduceIte]

/-- A token that comes at once is not passed. -/
theorem skipToToken_token
    {rest : List Char}
    (stands : cursor.At rest place)
    (starts : StartsToken rest)
    (fuel : Nat) :
    skipToToken (fuel + 1) (outside cursor tokens column outer keyAllowed key?) =
      outside cursor tokens column outer keyAllowed key? := by
  have noSpaces : cursor.At (indentation 0 ++ rest) place := stands
  have samePlace : cursor.advanceBy 0 = cursor := by simp [Cursor.advanceBy]
  rw [skipToToken_spaces noSpaces starts, samePlace]

/-- After the end of a line a key is allowed. -/
theorem skipToToken_line
    {next : Nat}
    {more : List Char}
    (stands : cursor.At ('\n' :: (indentation next ++ more)) place)
    (starts : StartsToken more)
    (fuel : Nat) :
    ∃ after, skipToToken (fuel + 2) (outside cursor tokens column outer keyAllowed key?) =
        outside after tokens column outer true key? ∧
      after.At more next := by
  obtain ⟨nextLine, isNext, nextStands⟩ := stands.readBreak rfl (by decide)
  have afterStands : (nextLine.advanceBy next).At more next := by
    have passed := nextStands.skipSpaces
    rwa [Nat.zero_add] at passed
  refine ⟨nextLine.advanceBy next, ?_, afterStands⟩
  have notSkipped : ∀ mayTab : Bool,
      cursor.skipWhile (fun c => c = ' ' || (mayTab && c = '\t')) = cursor := fun mayTab =>
    stands.skipWhile_nothing (by simp)
  have noComment : cursor.isAt '#' = false := by
    rw [stands.isAt]
    rfl
  have atBreak : cursor.isAtAny isBreak = true := by
    rw [stands.isAtAny]
    rfl
  rw [← skipToToken_spaces nextStands starts fuel, skipToToken]
  simp only [outside, inFlow, List.isEmpty_nil, Bool.not_true, Bool.not_false, Bool.or_true,
    notSkipped, noComment, atBreak, Cursor.skipBreak, isNext, Bool.false_eq_true, ↓reduceIte]

/-- Without a possible key none is too far back. -/
theorem dropStaleKeys_none :
    (outside cursor tokens column outer keyAllowed none).dropStaleKeys =
      some (outside cursor tokens column outer keyAllowed none) := rfl

/-- A possible key on the same line is kept as long as it is not too long. -/
theorem dropStaleKeys_some
    {key : PossibleKey}
    (sameLine : cursor.line ≤ key.line)
    (near : cursor.index ≤ key.index + 1024) :
    (outside cursor tokens column outer keyAllowed (some key)).dropStaleKeys =
      some (outside cursor tokens column outer keyAllowed (some key)) := by
  have notStale : (outside cursor tokens column outer keyAllowed (some key)).isStale key =
      false := by
    rw [isStale, Bool.or_eq_false_iff, decide_eq_false_iff_not, decide_eq_false_iff_not]
    exact ⟨Nat.not_lt.mpr sameLine, Nat.not_lt.mpr near⟩
  simp only [dropStaleKeys, outside] at notStale ⊢
  simp [notStale]

/-! ## Blocks -/

/-- No block is closed that does not begin further to the right, nor the outermost level. -/
theorem closeBlocks_reached
    {target : Int}
    (reached : column ≤ target ∨ outer = []) :
    (outside cursor tokens column outer keyAllowed key?).closeBlocks target =
      outside cursor tokens column outer keyAllowed key? := by
  have unchanged : closeBlocks.close target column outer [] = (column, outer, []) := by
    cases outer with
    | nil =>
        rfl
    | cons next rest =>
        have notDeeper : ¬ target < column :=
          Int.not_lt.mpr (reached.resolve_right (List.cons_ne_nil next rest))
        rw [closeBlocks.close, if_neg notDeeper]
  simp [closeBlocks, outside, inFlow, unchanged]

/-- As many ends of blocks are added, whatever number of them there is already. -/
theorem exists_closed
    (target current : Int)
    (others : List Int) :
    ∃ column outer closed, ∀ count,
      closeBlocks.close target current others (List.replicate count .blockEnd) =
        (column, outer, List.replicate (count + closed) .blockEnd) := by
  induction others generalizing current with
  | nil =>
      exact ⟨current, [], 0, fun count => rfl⟩
  | cons next rest inductionHypothesis =>
      by_cases deeper : target < current
      · obtain ⟨column, outer, closed, isClosed⟩ := inductionHypothesis next
        refine ⟨column, outer, closed + 1, fun count => ?_⟩
        rw [closeBlocks.close, if_pos deeper, ← List.replicate_succ, isClosed, Nat.succ_add]
        rfl
      · refine ⟨current, next :: rest, 0, fun count => ?_⟩
        rw [closeBlocks.close, if_neg deeper, Nat.add_zero]

/-- A block that begins further to the right is closed first. -/
theorem closeBlocks_deeper
    {target current : Int}
    (deeper : target < current) :
    (outside cursor tokens current (column :: outer) keyAllowed key?).closeBlocks target =
      (outside cursor (tokens ++ [.blockEnd]) column outer keyAllowed key?).closeBlocks target := by
  obtain ⟨last, others, closed, isClosed⟩ := exists_closed target column outer
  have afterNone : closeBlocks.close target column outer [] =
      (last, others, List.replicate closed .blockEnd) := by
    have fromNone := isClosed 0
    rwa [Nat.zero_add] at fromNone
  have afterOne : closeBlocks.close target current (column :: outer) [] =
      (last, others, .blockEnd :: List.replicate closed .blockEnd) := by
    rw [closeBlocks.close, if_pos deeper, ← List.replicate_succ, Nat.add_comm, ← isClosed 1]
    rfl
  simp [closeBlocks, outside, inFlow, afterOne, afterNone]

/-! ## Steps -/

/-- A step reads the token that begins at the next character. -/
theorem step_of_settled
    {scanner settled : Scanner}
    (settles : (skipToToken (scanner.cursor.rest.length + 1) scanner).dropStaleKeys = some settled)
    {c : Char}
    {rest : List Char}
    (stands : settled.cursor.At (c :: rest) place) :
    scanner.step = (settled.closeBlocks place).scanAt c := by
  rw [step, settles, Option.bind_eq_bind, Option.bind_some, stands.peek?, stands.column]

/-- A plain scalar begins here if a character has no meaning of its own, or gets it only before a
gap. -/
theorem beginsPlain_of_mark
    {c : Char}
    {rest : List Char}
    (stands : cursor.At (c :: rest) place)
    (noGap : isGap c = false)
    (noIndicator : isIndicator c = false)
    (goesOn : ((c = '?' || c = ':' || c = '-') && beginsWithGap rest) = false) :
    (outside cursor tokens column outer keyAllowed key?).beginsPlain c = true := by
  by_cases special : c = '?' ∨ c = ':' ∨ c = '-'
  · have noGapAfter : beginsWithGap rest = false := by
      rcases special with rfl | rfl | rfl <;> simpa using goesOn
    have gapAfter : cursor.gapAfter 1 = false := by rw [stands.gapAfter, noGapAfter]
    have noBlank : cursor.rest[1]?.any isBlank = false := by
      rw [stands.rest]
      cases rest with
      | nil =>
          rfl
      | cons d more =>
          have noGap : isGap d = false := by simpa [beginsWithGap] using noGapAfter
          exact (isGap_eq_false.mp noGap).1
    rcases special with rfl | rfl | rfl <;>
      simp [beginsPlain, outside, inFlow, gapAfter, noBlank]
  · simp only [not_or] at special
    simp [isIndicator] at noIndicator
    simp [beginsPlain, noGap, noIndicator, special]

/-- A plain scalar begins with none of the characters that have a meaning of their own. -/
theorem scanAt_plain
    {c : Char}
    {rest : List Char}
    (stands : cursor.At (c :: rest) place)
    (noMark : cursor.atDocumentMark = false)
    (noGap : isGap c = false)
    (begins : beginsWithMark (c :: rest) = false) :
    (outside cursor tokens column outer keyAllowed key?).scanAt c =
      (outside cursor tokens column outer keyAllowed key?).scanPlain := by
  rw [beginsWithMark, Bool.or_eq_false_iff] at begins
  obtain ⟨noIndicator, goesOn⟩ := begins
  have isPlain : (outside cursor tokens column outer keyAllowed key?).beginsPlain c = true :=
    beginsPlain_of_mark stands noGap noIndicator goesOn
  have other : ∀ d, isIndicator d = true → c ≠ d := by
    rintro d isIndicator rfl
    rw [isIndicator] at noIndicator
    cases noIndicator
  have special : ∀ d, d = '?' ∨ d = ':' ∨ d = '-' →
      (decide (c = d) && cursor.gapAfter 1) = false := by
    intro d isSpecial
    rw [stands.gapAfter, Bool.and_eq_false_iff, decide_eq_false_iff_not]
    by_cases same : c = d
    · right
      rcases isSpecial with rfl | rfl | rfl <;> simpa [same] using goesOn
    · exact Or.inl same
  simp only [scanAt, outside, inFlow, List.isEmpty_nil, Bool.not_true, Bool.false_or] at isPlain ⊢
  simp [noMark, special '?' (by decide), special ':' (by decide), special '-' (by decide), isPlain,
    other '%' (by decide),
    other '[' (by decide), other '\x7b' (by decide), other ']' (by decide),
    other '\x7d' (by decide), other ',' (by decide), other '*' (by decide),
    other '&' (by decide), other '!' (by decide), other '|' (by decide), other '>' (by decide),
    other '\'' (by decide), other '"' (by decide)]

/-! ## Between entries -/

/-- Steps that lead from one scanner to another. -/
inductive Leads : Nat → Scanner → Scanner → Prop
  | refl (scanner : Scanner) : Leads 0 scanner scanner
  | step
      {count : Nat}
      {first next last : Scanner}
      (unfinished : first.finished = false)
      (isStep : first.step = some next)
      (goesOn : Leads count next last) :
      Leads (count + 1) first last

/-- Steps are followed by others. -/
theorem Leads.trans
    {count further : Nat}
    {first next last : Scanner}
    (leads : Leads count first next)
    (goesOn : Leads further next last) :
    Leads (further + count) first last := by
  induction leads with
  | refl =>
      exact goesOn
  | step unfinished isStep _ inductionHypothesis =>
      exact .step unfinished isStep (inductionHypothesis goesOn)

/-- A run takes these steps. -/
theorem Leads.run
    {count : Nat}
    {first last : Scanner}
    (leads : Leads count first last)
    (fuel : Nat) :
    Scanner.run (fuel + count) first = Scanner.run fuel last := by
  induction leads with
  | refl =>
      rfl
  | step unfinished isStep _ inductionHypothesis =>
      rw [← Nat.add_assoc, Scanner.run, unfinished, isStep, ← inductionHypothesis]
      rfl

/-- A scanner between two entries: the next one begins in a column, and before it the blocks end
that begin further to the right. Apart from them the tokens and the open blocks are given. -/
def Between (scanner : Scanner) (tokens : List Token) (column : Int) (outer : List Int)
    (more : List Char) (next : Nat) : Prop :=
  scanner.finished = false ∧ ∃ settled : Scanner,
    (skipToToken (scanner.cursor.rest.length + 1) scanner).dropStaleKeys = some settled ∧
    settled.cursor.At more next ∧
    ∀ target ≤ (next : Int), settled.closeBlocks target =
      (outside settled.cursor tokens column outer true none).closeBlocks target

/-- After a scalar that ends with its line, the place is that of the next entry. -/
theorem between_of_at
    {more : List Char}
    {next : Nat}
    (stands : cursor.At more next)
    (starts : StartsToken more) :
    Between (outside cursor tokens column outer true none) tokens column outer more next := by
  refine ⟨rfl, outside cursor tokens column outer true none, ?_, stands, fun _ _ => rfl⟩
  rw [skipToToken_token stands starts]
  rfl

/-- Before the end of a line, the next entry begins after it. -/
theorem between_of_line
    {more : List Char}
    {next : Nat}
    (stands : cursor.At ('\n' :: (indentation next ++ more)) place)
    (starts : StartsToken more) :
    Between (outside cursor tokens column outer keyAllowed none) tokens column outer more next := by
  have fuel : (outside cursor tokens column outer keyAllowed none).cursor.rest.length + 1 =
      (indentation next ++ more).length + 2 := by
    rw [show (outside cursor tokens column outer keyAllowed none).cursor = cursor from rfl,
      stands.rest, List.length_cons]
  obtain ⟨after, isSkipped, afterStands⟩ := skipToToken_line stands starts _
  refine ⟨rfl, outside after tokens column outer true none, ?_, afterStands, fun _ _ => rfl⟩
  rw [fuel, isSkipped]
  rfl

/-- Where a block ends, the next entry is one of a block around it. -/
theorem Between.closed
    {scanner : Scanner}
    {own : Int}
    {more : List Char}
    {next : Nat}
    (between : Between scanner tokens own (column :: outer) more next)
    (outside : (next : Int) < own) :
    Between scanner (tokens ++ [.blockEnd]) column outer more next := by
  obtain ⟨unfinished, settled, settles, stands, closes⟩ := between
  refine ⟨unfinished, settled, settles, stands, fun target within => ?_⟩
  rw [closes target within, closeBlocks_deeper (Int.lt_of_le_of_lt within outside)]

/-- The next entry is read with the blocks closed that end before it. -/
theorem Between.step
    {scanner : Scanner}
    {c : Char}
    {rest : List Char}
    {next : Nat}
    (between : Between scanner tokens column outer (c :: rest) next)
    (reached : column ≤ next) :
    ∃ cursor : Cursor, cursor.At (c :: rest) next ∧
      scanner.step = (outside cursor tokens column outer true none).scanAt c := by
  obtain ⟨_, settled, settles, stands, closes⟩ := between
  refine ⟨settled.cursor, stands, ?_⟩
  rw [step_of_settled settles stands, closes next (Int.le_refl _),
    closeBlocks_reached (Or.inl reached)]

/-! ## Names and colons -/

/-- The characters of a name. -/
structure IsName (name : List Char) : Prop where
  chars : ∀ c ∈ name, c.isAlpha = true ∨ c = '_'
  starts : ∀ c ∈ name.head?, c.isAlpha = true
  nonempty : name ≠ []
  short : name.length ≤ 1024

/-- A letter or a digit has no meaning of its own. -/
theorem beginsWithMark_of_isAlphanum
    {c : Char}
    (alphanum : c.isAlphanum = true)
    (rest : List Char) :
    beginsWithMark (c :: rest) = false := by
  have other : ∀ d : Char, d.isAlphanum = false → c ≠ d := by
    rintro d isOther rfl
    rw [alphanum] at isOther
    cases isOther
  have noIndicator : isIndicator c = false := by
    rw [isIndicator, List.contains_eq_mem, decide_eq_false_iff_not]
    intro member
    have everyMark : "#,[]\x7b\x7d&*!|>'\"%@\x60".toList.all (!·.isAlphanum) = true := by decide
    exact other c (by simpa using List.all_eq_true.mp everyMark c member) rfl
  rw [beginsWithMark, noIndicator]
  simp [other '?' (by decide), other ':' (by decide), other '-' (by decide)]

/-- The name of an entry is read as a possible key. -/
theorem Between.name
    {scanner : Scanner}
    {name rest : List Char}
    {next : Nat}
    (isName : IsName name)
    (startsGap : StartsGap rest)
    (between : Between scanner tokens column outer (name ++ ':' :: rest) next)
    (reached : column ≤ next) :
    ∃ after key, scanner.step = some (outside after
        (tokens ++ [.scalar (String.ofList name) true]) column outer false (some key)) ∧
      after.At (':' :: rest) (next + name.length) ∧ key.tokenCount = tokens.length ∧
      key.column = next ∧ after.line ≤ key.line ∧ after.index ≤ key.index + 1024 := by
  obtain ⟨c, more, rfl⟩ := List.exists_cons_of_ne_nil isName.nonempty
  obtain ⟨cursor, stands, isStep⟩ := between.step reached
  have letter : c.isAlpha = true := isName.starts c rfl
  have isPlain : (outside cursor tokens column outer true none).scanAt c =
      (outside cursor tokens column outer true none).scanPlain := by
    exact scanAt_plain stands (stands.atDocumentMark_of_name (Or.inl letter))
      (isGap_of_nameChar (Or.inl letter)) (beginsWithMark_of_isAlphanum (by simp [Char.isAlphanum, letter]) _)
  have enough : 0 < cursor.rest.length + 1 := Nat.succ_pos _
  obtain ⟨after, isRead, afterStands, sameLine, isIndex⟩ :
      ∃ after, readPlain false (column + 1).toNat (cursor.rest.length + 1) [] {} cursor =
          some (c :: more, false, after) ∧
        after.At (':' :: rest) (next + (c :: more).length) ∧ after.line = cursor.line ∧
        after.index = cursor.index + (c :: more).length :=
    readPlain_name isName.chars isName.nonempty startsGap enough stands
  let key : PossibleKey :=
    { tokenCount := tokens.length, required := column = cursor.column, index := cursor.index,
      line := cursor.line, column := cursor.column }
  refine ⟨after, key, ?_, afterStands, rfl, stands.column, Nat.le_of_eq sameLine, ?_⟩
  · have isSaved : (outside cursor tokens column outer true none).saveKey =
        some (outside cursor tokens column outer true (some key)) := rfl
    rw [isStep, isPlain, scanPlain, isSaved]
    simp only [outside, inFlow, List.isEmpty_nil, Bool.not_true, Option.bind_eq_bind,
      Option.bind_some, isRead]
    rfl
  · rw [isIndex]
    exact Nat.add_le_add_left isName.short _

/-- The token before the first entry of a block. -/
def opening (column next : Int) : List Token :=
  if column < next then [.blockMappingStart] else []

/-- The columns around that of an entry. -/
def outerColumnsOf (column next : Int) (outer : List Int) : List Int :=
  if column < next then column :: outer else outer

/-- A block is opened unless it is open. -/
theorem openBlock_outside
    {next : Nat}
    (reached : column ≤ next)
    (count : Nat) :
    (outside cursor tokens column outer keyAllowed key?).openBlock next count .blockMappingStart =
      outside cursor (tokens.take count ++ opening column next ++ tokens.drop count) next
        (outerColumnsOf column next outer) keyAllowed key? := by
  rw [openBlock]
  by_cases isOpen : (next : Int) ≤ column
  · obtain rfl : column = next := Int.le_antisymm reached isOpen
    simp [outside, inFlow, opening, outerColumnsOf]
  · have isInner : column < next := Int.not_le.mp isOpen
    simp [outside, inFlow, isOpen, insert, opening, outerColumnsOf, isInner]

/-- A colon after a name makes it a key. -/
theorem step_colon
    {key : PossibleKey}
    {token : Token}
    {rest : List Char}
    {next : Nat}
    (stands : cursor.At (':' :: rest) place)
    (startsGap : StartsGap rest)
    (reached : column ≤ next)
    (inside : next < place)
    (isCount : key.tokenCount = tokens.length)
    (isColumn : key.column = next)
    (sameLine : cursor.line ≤ key.line)
    (near : cursor.index ≤ key.index + 1024) :
    ∃ after, (outside cursor (tokens ++ [token]) column outer false (some key)).step =
        some (outside after (tokens ++ opening column next ++ [.key, token, .value]) next
          (outerColumnsOf column next outer) false none) ∧
      after.At rest (place + 1) := by
  have startsColon : StartsToken (':' :: rest) := by
    rintro c ⟨rfl⟩
    exact ⟨rfl, by decide⟩
  have settles : (skipToToken
      ((outside cursor (tokens ++ [token]) column outer false (some key)).cursor.rest.length + 1)
      (outside cursor (tokens ++ [token]) column outer false (some key))).dropStaleKeys =
      some (outside cursor (tokens ++ [token]) column outer false (some key)) := by
    rw [skipToToken_token stands startsColon, dropStaleKeys_some sameLine near]
  have gapAfter : cursor.gapAfter 1 = true := by
    rw [stands.gapAfter, beginsWithGap_iff.mpr startsGap]
  have passed : (cursor.advanceBy [':'].length).At rest (place + [':'].length) :=
    Cursor.At.advanceBy stands
  refine ⟨cursor.advanceBy 1, ?_, passed⟩
  have isColon : (outside cursor (tokens ++ [token]) column outer false (some key)).scanAt ':' =
      (outside cursor (tokens ++ [token]) column outer false (some key)).scanColon := by
    simp [scanAt, outside, stands.atDocumentMark (Nat.zero_lt_of_lt inside), gapAfter]
  have isInserted : (outside cursor (tokens ++ [token]) column outer false (some key)).insert
      key.tokenCount .key = outside cursor (tokens ++ [.key, token]) column outer false
        (some key) := by
    simp [insert, outside, isCount]
  have isOpened : (outside cursor (tokens ++ [.key, token]) column outer false (some key)).openBlock
      key.column key.tokenCount .blockMappingStart =
        outside cursor (tokens ++ opening column next ++ [.key, token]) next
          (outerColumnsOf column next outer) false (some key) := by
    rw [isColumn, openBlock_outside reached, isCount, List.take_left, List.drop_left]
  rw [step_of_settled settles stands, closeBlocks_reached (Or.inl (by omega)), isColon, scanColon]
  simp only [outside, possibleKey?] at isInserted isOpened ⊢
  simp [isInserted, isOpened, setKey, pushAt, push]

/-- The name of an entry and the colon after it are read. -/
theorem Between.entry
    {scanner : Scanner}
    {name rest : List Char}
    {next : Nat}
    (isName : IsName name)
    (startsGap : StartsGap rest)
    (between : Between scanner tokens column outer (name ++ ':' :: rest) next)
    (reached : column ≤ next) :
    ∃ after place, Leads 2 scanner (outside after
        (tokens ++ opening column next ++ [.key, .scalar (String.ofList name) true, .value]) next
        (outerColumnsOf column next outer) false none) ∧
      after.At rest place ∧ next < place := by
  obtain ⟨atColon, key, nameStep, atColonStands, isCount, isColumn, sameLine, near⟩ :=
    between.name isName startsGap reached
  have inside : next < next + name.length :=
    Nat.lt_add_of_pos_right (List.length_pos_iff.mpr isName.nonempty)
  obtain ⟨after, colonStep, afterStands⟩ :=
    step_colon atColonStands startsGap reached inside isCount isColumn sameLine near
  exact ⟨after, _, .step between.1 nameStep (.step rfl colonStep (.refl _)), afterStands,
    Nat.lt_succ_of_lt inside⟩

end Scanner

end SourceFacts.Yaml
