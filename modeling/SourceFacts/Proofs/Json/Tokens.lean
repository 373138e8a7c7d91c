import SourceFacts.Proofs.Json.Scalars

namespace SourceFacts.Json

/-!
# Tokens are read back

The text of a value falls into the tokens of the value again, whatever mark or
bracket follows the text; only numbers that are no integers may be read as others.
-/

open Number

/-! ## Tokens of a value -/

mutual

/-- The tokens of a value in the order in which they are written. -/
def tokens : Json → List Token
  | .array items => .openArray :: itemTokens items true ++ [.closeArray]
  | .object fields => .openObject :: fieldTokens fields true ++ [.closeObject]
  | value => [.scalar value]

/-- The tokens of items, the first without a comma before it. -/
def itemTokens : List Json → Bool → List Token
  | [], _ => []
  | item :: rest, isFirst =>
      (if isFirst then [] else [.comma]) ++ tokens item ++ itemTokens rest false

/-- The tokens of fields, the first without a comma before it. -/
def fieldTokens : List (String × Json) → Bool → List Token
  | [], _ => []
  | (name, value) :: rest, isFirst =>
      (if isFirst then [] else [.comma]) ++ .scalar (.string name) :: .colon :: tokens value ++
        fieldTokens rest false

end

mutual

/-- Every number of a value that is no integer is read back from its text. -/
def ReadsBack : Json → Prop
  | .double value => number? value.toText.toList = some (.double value)
  | .array items => ReadsBackItems items
  | .object fields => ReadsBackFields fields
  | _ => True

/-- The numbers of all items are read back. -/
def ReadsBackItems : List Json → Prop
  | [] => True
  | item :: rest => item.ReadsBack ∧ ReadsBackItems rest

/-- The numbers of all fields are read back. -/
def ReadsBackFields : List (String × Json) → Prop
  | [] => True
  | (_, value) :: rest => value.ReadsBack ∧ ReadsBackFields rest

end

/-! ## Numbers that are read -/

mutual

/-- A value with what is read of its numbers in their place, if something is. -/
def reread? : Json → Option Json
  | .double value => number? value.toText.toList
  | .array items => (rereadItems? items).map .array
  | .object fields => (rereadFields? fields).map .object
  | value => some value

/-- Items with what is read of their numbers. -/
def rereadItems? : List Json → Option (List Json)
  | [] => some []
  | item :: rest => item.reread?.bind fun item => (rereadItems? rest).map (item :: ·)

/-- Fields with what is read of their numbers. -/
def rereadFields? : List (String × Json) → Option (List (String × Json))
  | [] => some []
  | (name, value) :: rest =>
      value.reread?.bind fun value => (rereadFields? rest).map ((name, value) :: ·)

end

/-- A number is a single token. -/
theorem IsNumber.tokens_eq
    {value : Json}
    (isNumber : value.IsNumber) :
    value.tokens = [.scalar value] := by
  rcases isNumber with ⟨number, rfl⟩ | ⟨number, rfl⟩ <;> rfl

mutual

/-- The same is read of a value exactly if its numbers are read back. -/
theorem reread?_eq_self_iff (value : Json) : value.reread? = some value ↔ value.ReadsBack := by
  cases value with
  | null | bool | integer | string =>
      exact iff_of_true rfl trivial
  | double number =>
      exact Iff.rfl
  | array items =>
      rw [reread?, ReadsBack, ← rereadItems?_eq_self_iff items]
      cases rereadItems? items <;> simp
  | object fields =>
      rw [reread?, ReadsBack, ← rereadFields?_eq_self_iff fields]
      cases rereadFields? fields <;> simp

/-- The same is read of items exactly if their numbers are read back. -/
theorem rereadItems?_eq_self_iff (items : List Json) :
    rereadItems? items = some items ↔ ReadsBackItems items := by
  cases items with
  | nil =>
      exact iff_of_true rfl trivial
  | cons item rest =>
      rw [rereadItems?, ReadsBackItems, ← reread?_eq_self_iff item,
        ← rereadItems?_eq_self_iff rest]
      cases item.reread? <;> cases rereadItems? rest <;> simp

/-- The same is read of fields exactly if their numbers are read back. -/
theorem rereadFields?_eq_self_iff (fields : List (String × Json)) :
    rereadFields? fields = some fields ↔ ReadsBackFields fields := by
  cases fields with
  | nil =>
      exact iff_of_true rfl trivial
  | cons field rest =>
      obtain ⟨name, value⟩ := field
      rw [rereadFields?, ReadsBackFields, ← reread?_eq_self_iff value,
        ← rereadFields?_eq_self_iff rest]
      cases value.reread? <;> cases rereadFields? rest <;> simp

end

/-! ## Single tokens -/

/-- Nothing that could continue a number or a word comes first. -/
def Stops (chars : List Char) : Prop :=
  ∀ c ∈ chars.head?, isNumberChar c = false ∧ c.isAlpha = false

/-- A bracket or mark is a token of its own. -/
theorem tokens?_mark
    {c : Char}
    {mark : Token}
    (isMark : mark? c = some mark)
    (rest : List Char) :
    tokens? (c :: rest) = (tokens? rest).map (mark :: ·) := by
  have noSpace : isSpace c = false := by
    unfold mark? at isMark
    split at isMark <;> first | rfl | simp at isMark
  rw [tokens?]
  simp [noSpace, isMark]

/-- A text in quotes is one token. -/
theorem tokens?_quoted
    (text : String)
    (rest : List Char) :
    tokens? (quoted text ++ rest) =
      (tokens? rest).map (.scalar (.string text) :: ·) := by
  have read :
      readString (text.toList.flatMap escape ++ '"' :: rest) = some (text.toList, rest) :=
    readString_flatMap_escape text.toList rest
  have shape : quoted text ++ rest = '"' :: (text.toList.flatMap escape ++ '"' :: rest) := by
    simp [quoted]
  have noSpace : isSpace '"' = false := rfl
  have noMark : mark? '"' = none := rfl
  rw [shape, tokens?]
  simp only [noSpace, noMark, Bool.false_eq_true, ↓reduceIte]
  split
  · rename_i unread
    rw [read] at unread
    simp at unread
  · rename_i other after found
    rw [read, Option.some.injEq, Prod.mk.injEq] at found
    obtain ⟨rfl, rfl⟩ := found
    rw [String.ofList_toList]

/-- Characters that pass a test end where others begin. -/
theorem takeWhile_append_of_stop
    {keep : Char → Bool}
    {chars rest : List Char}
    (kept : chars.all keep = true)
    (stop : ∀ c ∈ rest.head?, keep c = false) :
    (chars ++ rest).takeWhile keep = chars ∧ (chars ++ rest).dropWhile keep = rest := by
  have member : ∀ c ∈ chars, keep c = true :=
    List.all_eq_true.mp kept
  rw [List.takeWhile_append_of_pos member, List.dropWhile_append_of_pos member]
  cases rest with
  | nil =>
      simp
  | cons c more =>
      simp [stop c rfl]

/-- What begins a number begins no other token. -/
theorem numberStart_of_begins
    {c : Char}
    (begins : c.isDigit = true ∨ c = '-') :
    isSpace c = false ∧ mark? c = none ∧ c ≠ '"' ∧
      (isNumberChar c && c != 'e' && c != 'E') = true := by
  rcases begins with digit | rfl
  · have differs : ∀ other : Char, other.isDigit = false → c ≠ other := by
      rintro other noDigit rfl
      rw [digit] at noDigit
      simp at noDigit
    refine ⟨?_, ?_, differs '"' rfl, ?_⟩
    · simp [isSpace, differs]
    · unfold mark?
      split <;> first | rfl | simp at digit
    · simp [isNumberChar, digit, differs]
  · exact ⟨rfl, rfl, by decide, rfl⟩

/-- What looks like a number is one token if nothing continues it, or none at all. -/
theorem tokens?_of_looksLikeNumber
    {chars rest : List Char}
    (looksLike : LooksLikeNumber chars)
    (stops : Stops rest) :
    tokens? (chars ++ rest) =
      (number? chars).bind fun value => (tokens? rest).map (.scalar value :: ·) := by
  obtain ⟨charsOnly, c, first, begins⟩ := looksLike
  cases chars with
  | nil =>
      simp at first
  | cons head tail =>
      obtain rfl : head = c := by
        simpa using first
      have tailOnly : tail.all isNumberChar = true := by
        simp only [List.all_cons, Bool.and_eq_true] at charsOnly
        exact charsOnly.2
      have ends :=
        takeWhile_append_of_stop tailOnly fun next member => (stops next member).1
      obtain ⟨noSpace, noMark, noQuote, startsNumber⟩ := numberStart_of_begins begins
      rw [List.cons_append, tokens?]
      simp only [noSpace, noMark, noQuote, startsNumber, ends.1, ends.2]
      cases number? (head :: tail) <;> simp

/-- A word is one token if nothing continues it. -/
theorem tokens?_word
    {first : Char}
    {more rest : List Char}
    {value : Json}
    (begins : isSpace first = false ∧ mark? first = none ∧ first ≠ '"' ∧
      (isNumberChar first && first != 'e' && first != 'E') = false)
    (letters : more.all Char.isAlpha = true)
    (read : word? (first :: more) = some value)
    (stops : Stops rest) :
    tokens? (first :: more ++ rest) = (tokens? rest).map (.scalar value :: ·) := by
  have ends := takeWhile_append_of_stop letters fun next member => (stops next member).2
  obtain ⟨noSpace, noMark, noQuote, noNumber⟩ := begins
  rw [List.cons_append, tokens?]
  simp only [noSpace, noMark, noQuote, noNumber, ends.1, ends.2, read]
  simp

/-! ## Values -/

/-- A mark stops numbers and words. -/
theorem stops_of_mark
    {c : Char}
    {mark : Token}
    (isMark : mark? c = some mark)
    (rest : List Char) :
    Stops (c :: rest) := by
  rintro other ⟨rfl⟩
  unfold mark? at isMark
  split at isMark <;> first | exact ⟨rfl, rfl⟩ | simp at isMark

/-- What follows an item stops it: a comma, or what follows the array. -/
theorem stops_compactItems
    (items : List Json)
    {rest : List Char}
    (stops : Stops rest) :
    Stops (compactItems items false ++ rest) := by
  cases items with
  | nil =>
      exact stops
  | cons item more =>
      have comma : mark? ',' = some .comma := rfl
      exact stops_of_mark comma _

/-- What follows a field stops it: a comma, or what follows the object. -/
theorem stops_compactFields
    (fields : List (String × Json))
    {rest : List Char}
    (stops : Stops rest) :
    Stops (compactFields fields false ++ rest) := by
  cases fields with
  | nil =>
      exact stops
  | cons field more =>
      have comma : mark? ',' = some .comma := rfl
      exact stops_of_mark comma _

/-- A comma that is written before all parts but the first is a token. -/
theorem tokens?_comma
    (isFirst : Bool)
    (rest : List Char) :
    tokens? ((if isFirst then [] else [',']) ++ rest) =
      (tokens? rest).map ((if isFirst then [] else [.comma]) ++ ·) := by
  cases isFirst with
  | true =>
      simp
  | false =>
      have comma : mark? ',' = some .comma := rfl
      exact tokens?_mark comma rest

mutual

/-- The text of a value falls into the tokens of what is read of it. -/
theorem tokens?_compactChars
    (value : Json)
    {rest : List Char}
    (stops : Stops rest) :
    tokens? (compactChars value ++ rest) =
      value.reread?.bind fun read => (tokens? rest).map (read.tokens ++ ·) := by
  cases value with
  | null =>
      exact tokens?_word ⟨rfl, rfl, by decide, rfl⟩ rfl rfl stops
  | bool truth =>
      cases truth with
      | true =>
          exact tokens?_word ⟨rfl, rfl, by decide, rfl⟩ rfl rfl stops
      | false =>
          exact tokens?_word ⟨rfl, rfl, by decide, rfl⟩ rfl rfl stops
  | integer number =>
      have read := number?_integer number
      rw [compactChars, tokens?_of_looksLikeNumber (looksLikeNumber_of_number? read) stops, read]
      rfl
  | string text =>
      exact tokens?_quoted text rest
  | double number =>
      rw [compactChars, tokens?_of_looksLikeNumber (looksLikeNumber_toText number) stops, reread?]
      cases isRead : number? number.toText.toList with
      | none =>
          rfl
      | some value =>
          simp [(isNumber_of_number? isRead).tokens_eq]
  | array items =>
      have opening : mark? '[' = some .openArray := rfl
      have closing : mark? ']' = some .closeArray := rfl
      rw [compactChars, List.append_assoc, List.cons_append, tokens?_mark opening,
        List.singleton_append, tokens?_compactItems items true (stops_of_mark closing rest),
        tokens?_mark closing, reread?]
      cases rereadItems? items with
      | none =>
          rfl
      | some read =>
          simp [tokens, Function.comp_def]
  | object fields =>
      have opening : mark? '\x7b' = some .openObject := rfl
      have closing : mark? '\x7d' = some .closeObject := rfl
      rw [compactChars, List.append_assoc, List.cons_append, tokens?_mark opening,
        List.singleton_append,
        tokens?_compactFields fields true (stops_of_mark closing rest),
        tokens?_mark closing, reread?]
      cases rereadFields? fields with
      | none =>
          rfl
      | some read =>
          simp [tokens, Function.comp_def]

/-- The text of items falls into the tokens of what is read of them. -/
theorem tokens?_compactItems
    (items : List Json)
    (isFirst : Bool)
    {rest : List Char}
    (stops : Stops rest) :
    tokens? (compactItems items isFirst ++ rest) =
      (rereadItems? items).bind fun read => (tokens? rest).map (itemTokens read isFirst ++ ·) := by
  cases items with
  | nil =>
      simp [compactItems, rereadItems?, itemTokens]
  | cons item more =>
      rw [compactItems, List.append_assoc, List.append_assoc, tokens?_comma,
        tokens?_compactChars item (stops_compactItems more stops),
        tokens?_compactItems more false stops, rereadItems?]
      cases item.reread? with
      | none =>
          rfl
      | some read =>
          cases rereadItems? more <;> simp [itemTokens, Function.comp_def]

/-- The text of fields falls into the tokens of what is read of them. -/
theorem tokens?_compactFields
    (fields : List (String × Json))
    (isFirst : Bool)
    {rest : List Char}
    (stops : Stops rest) :
    tokens? (compactFields fields isFirst ++ rest) =
      (rereadFields? fields).bind fun read =>
        (tokens? rest).map (fieldTokens read isFirst ++ ·) := by
  cases fields with
  | nil =>
      simp [compactFields, rereadFields?, fieldTokens]
  | cons field more =>
      obtain ⟨name, value⟩ := field
      have colon : mark? ':' = some .colon := rfl
      rw [compactFields, List.append_assoc, List.append_assoc, List.append_assoc, tokens?_comma,
        tokens?_quoted, List.cons_append, tokens?_mark colon,
        tokens?_compactChars value (stops_compactFields more stops),
        tokens?_compactFields more false stops, rereadFields?]
      cases value.reread? with
      | none =>
          rfl
      | some read =>
          cases rereadFields? more <;> simp [fieldTokens, Function.comp_def]

end

/-! ## Values over many lines -/

/-- Nothing comes of the line that ends before a part and the blanks before it. -/
theorem tokens?_newLine
    (level : Nat)
    (rest : List Char) :
    tokens? (newLine level ++ rest) = tokens? rest := by
  have blanks : ∀ count, tokens? (List.replicate count ' ' ++ rest) = tokens? rest := by
    intro count
    induction count with
    | zero =>
        rfl
    | succ count inductionHypothesis =>
        rw [List.replicate_succ, List.cons_append, tokens?]
        exact inductionHypothesis
  rw [newLine, List.cons_append, tokens?]
  exact blanks (2 * level)

/-- The end of a line stops numbers and words. -/
theorem stops_newLine
    (level : Nat)
    (rest : List Char) :
    Stops (newLine level ++ rest) := by
  rintro other ⟨rfl⟩
  exact ⟨rfl, rfl⟩

/-- What follows an item on a line of its own stops it: a comma, or what follows the items. -/
theorem stops_prettyItems
    (level : Nat)
    (items : List Json)
    {rest : List Char}
    (stops : Stops rest) :
    Stops (prettyItems level items false ++ rest) := by
  cases items with
  | nil =>
      exact stops
  | cons item more =>
      have comma : mark? ',' = some .comma := rfl
      exact stops_of_mark comma _

/-- What follows a field on a line of its own stops it: a comma, or what follows the fields. -/
theorem stops_prettyFields
    (level : Nat)
    (fields : List (String × Json))
    {rest : List Char}
    (stops : Stops rest) :
    Stops (prettyFields level fields false ++ rest) := by
  cases fields with
  | nil =>
      exact stops
  | cons field more =>
      have comma : mark? ',' = some .comma := rfl
      exact stops_of_mark comma _

mutual

/-- The text of a value over many lines falls into the tokens of what is read of it. -/
theorem tokens?_prettyChars
    (level : Nat)
    (value : Json)
    {rest : List Char}
    (stops : Stops rest) :
    tokens? (prettyChars level value ++ rest) =
      value.reread?.bind fun read => (tokens? rest).map (read.tokens ++ ·) := by
  match value with
  | .null | .bool _ | .integer _ | .double _ | .string _ =>
      exact tokens?_compactChars _ stops
  | .array [] =>
      exact tokens?_compactChars (.array []) stops
  | .object [] =>
      exact tokens?_compactChars (.object []) stops
  | .array (item :: more) =>
      have opening : mark? '[' = some .openArray := rfl
      have closing : mark? ']' = some .closeArray := rfl
      have shape : prettyChars level (.array (item :: more)) =
          '[' :: prettyItems (level + 1) (item :: more) true ++ newLine level ++ [']'] := rfl
      rw [shape, List.append_assoc, List.append_assoc, List.cons_append,
        tokens?_mark opening, tokens?_prettyItems (level + 1) (item :: more) true
          (stops_newLine level _), tokens?_newLine, List.singleton_append, tokens?_mark closing,
        reread?]
      cases rereadItems? (item :: more) with
      | none =>
          rfl
      | some read =>
          simp [tokens, Function.comp_def]
  | .object (field :: more) =>
      have opening : mark? '\x7b' = some .openObject := rfl
      have closing : mark? '\x7d' = some .closeObject := rfl
      have shape : prettyChars level (.object (field :: more)) =
          '\x7b' :: prettyFields (level + 1) (field :: more) true ++ newLine level ++ ['\x7d'] :=
        rfl
      rw [shape, List.append_assoc, List.append_assoc, List.cons_append,
        tokens?_mark opening, tokens?_prettyFields (level + 1) (field :: more) true
          (stops_newLine level _), tokens?_newLine, List.singleton_append, tokens?_mark closing,
        reread?]
      cases rereadFields? (field :: more) with
      | none =>
          rfl
      | some read =>
          simp [tokens, Function.comp_def]

/-- The text of items on lines of their own falls into the tokens of what is read of them. -/
theorem tokens?_prettyItems
    (level : Nat)
    (items : List Json)
    (isFirst : Bool)
    {rest : List Char}
    (stops : Stops rest) :
    tokens? (prettyItems level items isFirst ++ rest) =
      (rereadItems? items).bind fun read => (tokens? rest).map (itemTokens read isFirst ++ ·) := by
  match items with
  | [] =>
      simp [prettyItems, rereadItems?, itemTokens]
  | item :: more =>
      rw [prettyItems, List.append_assoc, List.append_assoc, List.append_assoc, tokens?_comma,
        tokens?_newLine, tokens?_prettyChars level item (stops_prettyItems level more stops),
        tokens?_prettyItems level more false stops, rereadItems?]
      cases item.reread? with
      | none =>
          rfl
      | some read =>
          cases rereadItems? more <;> simp [itemTokens, Function.comp_def]

/-- The text of fields on lines of their own falls into the tokens of what is read of them. -/
theorem tokens?_prettyFields
    (level : Nat)
    (fields : List (String × Json))
    (isFirst : Bool)
    {rest : List Char}
    (stops : Stops rest) :
    tokens? (prettyFields level fields isFirst ++ rest) =
      (rereadFields? fields).bind fun read =>
        (tokens? rest).map (fieldTokens read isFirst ++ ·) := by
  match fields with
  | [] =>
      simp [prettyFields, rereadFields?, fieldTokens]
  | (name, value) :: more =>
      have colon : mark? ':' = some .colon := rfl
      have blank : ∀ chars, tokens? (' ' :: chars) = tokens? chars := fun chars => by
        rw [tokens?]
        rfl
      rw [prettyFields, List.append_assoc, List.append_assoc, List.append_assoc,
        List.append_assoc, tokens?_comma, tokens?_newLine, tokens?_quoted, List.cons_append,
        tokens?_mark colon, List.cons_append, blank,
        tokens?_prettyChars level value (stops_prettyFields level more stops),
        tokens?_prettyFields level more false stops, rereadFields?]
      cases value.reread? with
      | none =>
          rfl
      | some read =>
          cases rereadFields? more <;> simp [fieldTokens, Function.comp_def]

end

end SourceFacts.Json
