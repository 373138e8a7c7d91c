import SourceFacts.Proofs.Json.Scalars
import SourceFacts.Proofs.Json.Tokens

namespace SourceFacts.Json

/-!
# Values that can be read from a line

A value that is written compactly is a single line, and it can be read from it if it is not nested
too deeply and its numbers are read back.
-/

/-!
## Values that can be read

A value can be read from its text if it is not nested too deeply and its numbers are read back.
This is built up from the parts of a value.
-/

/-- A value that is nested so many times at most and whose numbers are read back from their
texts. -/
structure Legible (bound : Nat) (value : Json) : Prop where
  shallow : value.depth ≤ bound
  readsBack : value.ReadsBack

variable {bound : Nat}

/-- What is nested less deeply is legible, too. -/
theorem Legible.mono
    {value : Json}
    {more : Nat}
    (legible : Legible bound value)
    (atMost : bound ≤ more) :
    Legible more value :=
  ⟨Nat.le_trans legible.shallow atMost, legible.readsBack⟩

/-! ### Scalars -/

/-- The absence of a value is legible. -/
@[simp] theorem legible_null : Legible bound .null := ⟨Nat.zero_le bound, trivial⟩

/-- Truth values are legible. -/
@[simp] theorem legible_bool (value : Bool) : Legible bound (.bool value) :=
  ⟨Nat.zero_le bound, trivial⟩

/-- Integers are legible. -/
@[simp] theorem legible_integer (value : Integer) : Legible bound (.integer value) :=
  ⟨Nat.zero_le bound, trivial⟩

/-- Words are legible. -/
@[simp] theorem legible_word (value : UInt64) : Legible bound (.word value) := legible_integer _

/-- Words of 32 bits are legible. -/
@[simp] theorem legible_halfWord (value : UInt32) : Legible bound (.halfWord value) :=
  legible_integer _

/-- Natural numbers are legible. -/
@[simp] theorem legible_natural (value : Nat) : Legible bound (.natural value) :=
  legible_integer _

/-- Texts are legible. -/
@[simp] theorem legible_string (value : String) : Legible bound (.string value) :=
  ⟨Nat.zero_le bound, trivial⟩

/-- A value that may be absent is legible if it is when it is there. -/
@[simp] theorem legible_orNull
    {encode : α → Json}
    (legible : ∀ value, Legible bound (encode value))
    (value? : Option α) :
    Legible bound (orNull encode value?) := by
  cases value? with
  | none =>
      exact legible_null
  | some value =>
      exact legible value

/-! ### Arrays and objects -/

/-- An array of legible values is legible. -/
theorem legible_array
    {items : List Json}
    (legible : ∀ item ∈ items, Legible bound item) :
    Legible (bound + 1) (.array items) := by
  have areItems : depthOfItems items ≤ bound ∧ ReadsBackItems items := by
    induction items with
    | nil =>
        exact ⟨Nat.zero_le bound, trivial⟩
    | cons item rest inductionHypothesis =>
        rw [List.forall_mem_cons] at legible
        obtain ⟨shallow, readsBack⟩ := inductionHypothesis legible.2
        exact ⟨Nat.max_le.mpr ⟨legible.1.shallow, shallow⟩, legible.1.readsBack, readsBack⟩
  exact ⟨Nat.succ_le_succ areItems.1, areItems.2⟩

/-- An array of values that are written legibly is legible. -/
theorem legible_map
    {write : α → Json}
    (legible : ∀ value, Legible bound (write value))
    (values : List α) :
    Legible (bound + 1) (.array (values.map write)) := by
  refine legible_array ?_
  intro item member
  obtain ⟨value, _, rfl⟩ := List.mem_map.mp member
  exact legible value

/-- An array of texts is legible. -/
@[simp] theorem legible_strings
    (positive : 0 < bound)
    (texts : List String) :
    Legible bound (strings texts) := by
  have areTexts : Legible 1 (strings texts) := legible_map legible_string texts
  exact areTexts.mono positive

/-- An object of legible values is legible. -/
theorem legible_object
    {fields : List (String × Json)}
    (legible : ∀ field ∈ fields, Legible bound field.2) :
    Legible (bound + 1) (.object fields) := by
  have areFields : depthOfFields fields ≤ bound ∧ ReadsBackFields fields := by
    induction fields with
    | nil =>
        exact ⟨Nat.zero_le bound, trivial⟩
    | cons field rest inductionHypothesis =>
        rw [List.forall_mem_cons] at legible
        obtain ⟨shallow, readsBack⟩ := inductionHypothesis legible.2
        exact ⟨Nat.max_le.mpr ⟨legible.1.shallow, shallow⟩, legible.1.readsBack, readsBack⟩
  exact ⟨Nat.succ_le_succ areFields.1, areFields.2⟩

end SourceFacts.Json

namespace SourceFacts.Json

/-!
## Values on a single line

A value that is written compactly has no control characters in it, whatever the texts and names
inside of it are. So it is a single line.
-/

open Text

/-- A control character. -/
def IsControl (c : Char) : Prop := c.toNat < 0x20

/-- The digits of a code are no control characters. -/
theorem not_isControl_hexDigit
    {value : Nat}
    (isDigit : value < 16) :
    ¬ IsControl (hexDigit value) := by
  have everyDigit : ∀ digit : Fin 16, ¬ (hexDigit digit.val).toNat < 0x20 := by
    decide
  exact everyDigit ⟨value, isDigit⟩

/-- No character is written with a control character. -/
theorem not_isControl_escape
    (c : Char) :
    ∀ written ∈ escape c, ¬ IsControl written := by
  unfold escape
  split
  case h_8 =>
    split
    · rename_i isControl
      have high : ¬ IsControl (hexDigit (c.toNat / 16)) := not_isControl_hexDigit (by omega)
      have low : ¬ IsControl (hexDigit (c.toNat % 16)) := not_isControl_hexDigit (by omega)
      simp only [List.forall_mem_cons, high, low]
      simp [IsControl]
    · rename_i notControl
      simpa [IsControl] using notControl
  all_goals simp [IsControl]

/-- No text is written with a control character. -/
theorem not_isControl_quoted
    (text : String) :
    ∀ written ∈ quoted text, ¬ IsControl written := by
  intro written member
  rw [quoted, List.mem_append, List.mem_cons, List.mem_flatMap, List.mem_singleton] at member
  rcases member with (rfl | ⟨c, _, isEscape⟩) | rfl
  · simp [IsControl]
  · exact not_isControl_escape c written isEscape
  · simp [IsControl]

/-- What consists of characters of numbers has no control characters. -/
theorem not_isControl_of_isNumberChar
    {chars : List Char}
    (charsOnly : chars.all isNumberChar = true) :
    ∀ written ∈ chars, ¬ IsControl written := by
  intro written member isControl
  have isNumberChar := List.all_eq_true.mp charsOnly written member
  simp only [Json.isNumberChar, Bool.or_eq_true, beq_iff_eq] at isNumberChar
  rcases isNumberChar with ((((isDigit | rfl) | rfl) | rfl) | rfl) | rfl
  · have atLeast : '0'.toNat ≤ written.toNat := by
      simp only [Char.isDigit, Bool.and_eq_true, decide_eq_true_eq] at isDigit
      exact isDigit.1
    exact absurd (Nat.lt_of_le_of_lt atLeast isControl) (by decide)
  all_goals simp [IsControl] at isControl

mutual

/-- No value is written with a control character. -/
theorem not_isControl_compactChars
    (value : Json) :
    ∀ written ∈ compactChars value, ¬ IsControl written := by
  cases value with
  | null =>
      simp [compactChars, IsControl]
  | bool flag =>
      cases flag <;> simp [compactChars, IsControl]
  | integer value =>
      exact not_isControl_of_isNumberChar (all_isNumberChar_toString value.value)
  | double value =>
      exact not_isControl_of_isNumberChar (looksLikeNumber_toText value).charsOnly
  | string text =>
      exact not_isControl_quoted text
  | array items =>
      have ofItems := not_isControl_compactItems items true
      simpa [compactChars, IsControl, or_imp, forall_and] using ofItems
  | object fields =>
      have ofFields := not_isControl_compactFields fields true
      simpa [compactChars, IsControl, or_imp, forall_and] using ofFields

/-- No items are written with a control character. -/
theorem not_isControl_compactItems
    (items : List Json)
    (isFirst : Bool) :
    ∀ written ∈ compactItems items isFirst, ¬ IsControl written := by
  cases items with
  | nil =>
      simp [compactItems]
  | cons item rest =>
      have ofItem := not_isControl_compactChars item
      have ofRest := not_isControl_compactItems rest false
      intro written member
      simp only [compactItems, List.mem_append] at member
      rcases member with (isComma | inItem) | inRest
      · cases isFirst <;> simp_all [IsControl]
      · exact ofItem written inItem
      · exact ofRest written inRest

/-- No fields are written with a control character. -/
theorem not_isControl_compactFields
    (fields : List (String × Json))
    (isFirst : Bool) :
    ∀ written ∈ compactFields fields isFirst, ¬ IsControl written := by
  cases fields with
  | nil =>
      simp [compactFields]
  | cons field rest =>
      obtain ⟨name, value⟩ := field
      have ofValue := not_isControl_compactChars value
      have ofRest := not_isControl_compactFields rest false
      intro written member
      simp only [compactFields, List.mem_append, List.mem_cons] at member
      rcases member with ((isComma | inName) | rfl | inValue) | inRest
      · cases isFirst <;> simp_all [IsControl]
      · exact not_isControl_quoted name written inName
      · simp [IsControl]
      · exact ofValue written inValue
      · exact ofRest written inRest

end

/-- A value that is written compactly is a single line of bytes. -/
theorem lineFeed_not_mem_encode_compact (value : Json) : 0x0A ∉ encode value.compact := by
  intro member
  have isFeed := newline_mem_of_lineFeed_mem_encode member
  rw [compact, String.toList_ofList] at isFeed
  exact not_isControl_compactChars value '\n' isFeed (by simp [IsControl])

end SourceFacts.Json
