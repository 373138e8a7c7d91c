import SourceFacts.Json.Parser
import SourceFacts.Proofs.Json.Tokens

namespace SourceFacts.Json

/-!
# Values are read back

A value whose nesting is within bounds and whose numbers are read back is read
back from its text on one line. If it is nested more deeply, nothing is read. It
does not matter to what is read whether the text is on one line or over many.
-/

namespace Reading

/-- What comes of a complete value does not depend on what was awaited. -/
theorem take_awaited
    (awaited other : Awaited)
    (opened : List Open)
    (result value : Json) :
    take ⟨awaited, opened, result⟩ value = take ⟨other, opened, result⟩ value := by
  cases opened with
  | nil =>
      rfl
  | cons innermost outer =>
      cases innermost <;> rfl

/-- Tokens are taken one after another. -/
theorem run?_cons
    {reading next : Reading}
    {token : Token}
    (step : reading.step? token = some next)
    (rest : List Token) :
    reading.run? (token :: rest) = next.run? rest := by
  simp [run?, step]

/-- What may come first in an array is a value, as anywhere else in it. -/
theorem step?_value
    {awaited : Awaited}
    (accepts : awaited = .value ∨ awaited = .firstItem)
    (opened : List Open)
    (result : Json)
    {token : Token}
    (begins : token ≠ .closeArray) :
    step? ⟨awaited, opened, result⟩ token = value? ⟨awaited, opened, result⟩ token := by
  rcases accepts with rfl | rfl
  · cases token <;> rfl
  · cases token <;> first | rfl | exact absurd rfl begins

/-- Whether a comma is due before the next part of what is open. -/
def awaitedPart (first : Awaited) (isFirst : Bool) : Awaited :=
  if isFirst then first else .separator

mutual

/-- The tokens of a value are taken as that value. -/
theorem run?_tokens
    (value : Json)
    {awaited : Awaited}
    (accepts : awaited = .value ∨ awaited = .firstItem)
    {opened : List Open}
    (room : opened.length + value.depth ≤ maxOpen)
    (result : Json)
    (rest : List Token) :
    run? ⟨awaited, opened, result⟩ (value.tokens ++ rest) =
      run? (take ⟨awaited, opened, result⟩ value) rest := by
  cases value with
  | null | bool | integer | double | string =>
      exact run?_cons (step?_value accepts opened result (by simp)) rest
  | array items =>
      have fits : opened.length < maxOpen := by
        rw [depth] at room
        omega
      have inside : opened.length + 1 + depthOfItems items ≤ maxOpen := by
        rw [depth] at room
        omega
      have entered :
          step? ⟨awaited, opened, result⟩ .openArray =
            some ⟨.firstItem, .array [] :: opened, result⟩ := by
        rw [step?_value accepts opened result (by simp)]
        simp [value?, enter?, fits]
      rw [tokens, List.append_assoc, List.cons_append, run?_cons entered]
      exact (run?_itemTokens items true [] inside result rest).trans
        (by rw [take_awaited .value awaited]; rfl)
  | object fields =>
      have fits : opened.length < maxOpen := by
        rw [depth] at room
        omega
      have inside : opened.length + 1 + depthOfFields fields ≤ maxOpen := by
        rw [depth] at room
        omega
      have entered :
          step? ⟨awaited, opened, result⟩ .openObject =
            some ⟨.firstName, .object [] "" :: opened, result⟩ := by
        rw [step?_value accepts opened result (by simp)]
        simp [value?, enter?, fits]
      rw [tokens, List.append_assoc, List.cons_append, run?_cons entered]
      exact (run?_fieldTokens fields true [] "" inside result rest).trans
        (by rw [take_awaited .value awaited]; rfl)

/-- The tokens of items and the end of the array are taken as the array. -/
theorem run?_itemTokens
    (items : List Json)
    (isFirst : Bool)
    (done : List Json)
    {outer : List Open}
    (room : outer.length + 1 + depthOfItems items ≤ maxOpen)
    (result : Json)
    (rest : List Token) :
    run? ⟨awaitedPart .firstItem isFirst, .array done :: outer, result⟩
        (itemTokens items isFirst ++ .closeArray :: rest) =
      run? (take ⟨.value, outer, result⟩ (.array (done.reverse ++ items))) rest := by
  cases items with
  | nil =>
      have closed :
          step? ⟨awaitedPart .firstItem isFirst, .array done :: outer, result⟩ .closeArray =
            some (take ⟨.value, outer, result⟩ (.array done.reverse)) := by
        cases isFirst <;> simp [awaitedPart, step?, closeArray?, take_awaited _ .value]
      rw [List.append_nil]
      exact run?_cons closed rest
  | cons item more =>
      have itemRoom : (Open.array done :: outer).length + item.depth ≤ maxOpen := by
        rw [depthOfItems] at room
        rw [List.length_cons]
        omega
      have moreRoom : outer.length + 1 + depthOfItems more ≤ maxOpen := by
        rw [depthOfItems] at room
        omega
      have others := run?_itemTokens more false (item :: done) moreRoom result rest
      rw [List.reverse_cons, List.append_assoc, List.singleton_append] at others
      rw [← others]
      cases isFirst with
      | true =>
          rw [itemTokens, List.append_assoc, List.append_assoc]
          exact run?_tokens item (Or.inr rfl) itemRoom result _
      | false =>
          rw [itemTokens, List.append_assoc, List.append_assoc]
          exact run?_tokens item (Or.inl rfl) itemRoom result _

/-- The tokens of fields and the end of the object are taken as the object. -/
theorem run?_fieldTokens
    (fields : List (String × Json))
    (isFirst : Bool)
    (done : List (String × Json))
    (lastName : String)
    {outer : List Open}
    (room : outer.length + 1 + depthOfFields fields ≤ maxOpen)
    (result : Json)
    (rest : List Token) :
    run? ⟨awaitedPart .firstName isFirst, .object done lastName :: outer, result⟩
        (fieldTokens fields isFirst ++ .closeObject :: rest) =
      run? (take ⟨.value, outer, result⟩ (.object (done.reverse ++ fields))) rest := by
  cases fields with
  | nil =>
      have closed :
          step? ⟨awaitedPart .firstName isFirst, .object done lastName :: outer, result⟩
              .closeObject =
            some (take ⟨.value, outer, result⟩ (.object done.reverse)) := by
        cases isFirst <;> simp [awaitedPart, step?, closeObject?, take_awaited _ .value]
      rw [List.append_nil]
      exact run?_cons closed rest
  | cons field more =>
      obtain ⟨name, value⟩ := field
      have valueRoom : (Open.object done name :: outer).length + value.depth ≤ maxOpen := by
        rw [depthOfFields] at room
        rw [List.length_cons]
        omega
      have moreRoom : outer.length + 1 + depthOfFields more ≤ maxOpen := by
        rw [depthOfFields] at room
        omega
      have others := run?_fieldTokens more false ((name, value) :: done) name moreRoom result rest
      rw [List.reverse_cons, List.append_assoc, List.singleton_append] at others
      rw [← others]
      cases isFirst with
      | true =>
          rw [fieldTokens, List.append_assoc, List.append_assoc]
          exact run?_tokens value (Or.inl rfl) valueRoom result _
      | false =>
          rw [fieldTokens, List.append_assoc, List.append_assoc]
          exact run?_tokens value (Or.inl rfl) valueRoom result _

end

/-- A token that cannot be taken ends the reading. -/
theorem run?_cons_of_none
    {reading : Reading}
    {token : Token}
    (stuck : reading.step? token = none)
    (rest : List Token) :
    reading.run? (token :: rest) = none := by
  simp [run?, stuck]

/-- No more can be opened than may be open. -/
theorem enter?_of_full
    {awaited : Awaited}
    {opened : List Open}
    (isFull : ¬ opened.length < maxOpen)
    (result : Json)
    (innermost : Open)
    (first : Awaited) :
    enter? ⟨awaited, opened, result⟩ innermost first = none := by
  rw [enter?, if_neg isFull]

mutual

/-- The tokens of a value that is nested too deeply are not taken. -/
theorem run?_tokens_of_deep
    (value : Json)
    {awaited : Awaited}
    (accepts : awaited = .value ∨ awaited = .firstItem)
    {opened : List Open}
    (fits : opened.length ≤ maxOpen)
    (deep : maxOpen < opened.length + value.depth)
    (result : Json)
    (rest : List Token) :
    run? ⟨awaited, opened, result⟩ (value.tokens ++ rest) = none := by
  cases value with
  | null | bool | integer | double | string =>
      exact absurd fits (Nat.not_le.mpr deep)
  | array items =>
      rw [depth] at deep
      rw [tokens, List.append_assoc, List.cons_append]
      by_cases room : opened.length < maxOpen
      · have entered :
            step? ⟨awaited, opened, result⟩ .openArray =
              some ⟨.firstItem, .array [] :: opened, result⟩ := by
          rw [step?_value accepts opened result (by simp)]
          simp [value?, enter?, room]
        rw [run?_cons entered]
        exact run?_itemTokens_of_deep items true [] room (by omega) result _
      · refine run?_cons_of_none ?_ _
        rw [step?_value accepts opened result (by simp)]
        exact enter?_of_full room result _ _
  | object fields =>
      rw [depth] at deep
      rw [tokens, List.append_assoc, List.cons_append]
      by_cases room : opened.length < maxOpen
      · have entered :
            step? ⟨awaited, opened, result⟩ .openObject =
              some ⟨.firstName, .object [] "" :: opened, result⟩ := by
          rw [step?_value accepts opened result (by simp)]
          simp [value?, enter?, room]
        rw [run?_cons entered]
        exact run?_fieldTokens_of_deep fields true [] "" room (by omega) result _
      · refine run?_cons_of_none ?_ _
        rw [step?_value accepts opened result (by simp)]
        exact enter?_of_full room result _ _

/-- The tokens of items of which one is nested too deeply are not taken. -/
theorem run?_itemTokens_of_deep
    (items : List Json)
    (isFirst : Bool)
    (done : List Json)
    {outer : List Open}
    (fits : outer.length + 1 ≤ maxOpen)
    (deep : maxOpen < outer.length + 1 + depthOfItems items)
    (result : Json)
    (rest : List Token) :
    run? ⟨awaitedPart .firstItem isFirst, .array done :: outer, result⟩
      (itemTokens items isFirst ++ rest) = none := by
  cases items with
  | nil =>
      exact absurd fits (Nat.not_le.mpr deep)
  | cons item more =>
      rw [depthOfItems] at deep
      -- A comma is taken at once, so that the item comes first in either case.
      have awaited : ∀ tokens, ∃ awaited, (awaited = .value ∨ awaited = .firstItem) ∧
          run? ⟨awaitedPart .firstItem isFirst, .array done :: outer, result⟩
              ((if isFirst then [] else [.comma]) ++ tokens) =
            run? ⟨awaited, .array done :: outer, result⟩ tokens := by
        intro tokens
        cases isFirst with
        | true =>
            exact ⟨.firstItem, Or.inr rfl, rfl⟩
        | false =>
            exact ⟨.value, Or.inl rfl, rfl⟩
      rw [itemTokens, List.append_assoc, List.append_assoc]
      obtain ⟨awaited, accepts, isTaken⟩ := awaited (item.tokens ++ (itemTokens more false ++ rest))
      rw [isTaken]
      have itemFits : (Open.array done :: outer).length ≤ maxOpen := fits
      by_cases itemDeep : maxOpen < (Open.array done :: outer).length + item.depth
      · exact run?_tokens_of_deep item accepts itemFits itemDeep result _
      · rw [run?_tokens item accepts (Nat.not_lt.mp itemDeep)]
        rw [List.length_cons] at itemDeep
        exact run?_itemTokens_of_deep more false (item :: done) fits (by omega) result rest

/-- The tokens of fields of which one is nested too deeply are not taken. -/
theorem run?_fieldTokens_of_deep
    (fields : List (String × Json))
    (isFirst : Bool)
    (done : List (String × Json))
    (lastName : String)
    {outer : List Open}
    (fits : outer.length + 1 ≤ maxOpen)
    (deep : maxOpen < outer.length + 1 + depthOfFields fields)
    (result : Json)
    (rest : List Token) :
    run? ⟨awaitedPart .firstName isFirst, .object done lastName :: outer, result⟩
      (fieldTokens fields isFirst ++ rest) = none := by
  cases fields with
  | nil =>
      exact absurd fits (Nat.not_le.mpr deep)
  | cons field more =>
      obtain ⟨name, value⟩ := field
      rw [depthOfFields] at deep
      have isTaken : ∀ tokens,
          run? ⟨awaitedPart .firstName isFirst, .object done lastName :: outer, result⟩
              ((if isFirst then [] else [.comma]) ++ .scalar (.string name) :: .colon :: tokens) =
            run? ⟨.value, .object done name :: outer, result⟩ tokens := by
        intro tokens
        cases isFirst <;> rfl
      rw [fieldTokens, List.append_assoc, List.append_assoc, List.cons_append, List.cons_append,
        isTaken]
      have valueFits : (Open.object done name :: outer).length ≤ maxOpen := fits
      by_cases valueDeep : maxOpen < (Open.object done name :: outer).length + value.depth
      · exact run?_tokens_of_deep value (Or.inl rfl) valueFits valueDeep result _
      · rw [run?_tokens value (Or.inl rfl) (Nat.not_lt.mp valueDeep)]
        rw [List.length_cons] at valueDeep
        exact run?_fieldTokens_of_deep more false ((name, value) :: done) name fits (by omega)
          result rest

end

end Reading

/-! ## Values -/

mutual

/-- What is read of a value is nested as deeply. -/
theorem depth_of_reread?
    {value read : Json}
    (isRead : value.reread? = some read) :
    read.depth = value.depth := by
  cases value with
  | null | bool | integer | string =>
      obtain rfl := Option.some.inj isRead
      rfl
  | double number =>
      rcases isNumber_of_number? isRead with ⟨other, rfl⟩ | ⟨other, rfl⟩ <;> rfl
  | array items =>
      obtain ⟨others, areRead, rfl⟩ := Option.map_eq_some_iff.mp isRead
      rw [depth, depth, depthOfItems_of_rereadItems? areRead]
  | object fields =>
      obtain ⟨others, areRead, rfl⟩ := Option.map_eq_some_iff.mp isRead
      rw [depth, depth, depthOfFields_of_rereadFields? areRead]

/-- What is read of items is nested as deeply. -/
theorem depthOfItems_of_rereadItems?
    {items read : List Json}
    (areRead : rereadItems? items = some read) :
    depthOfItems read = depthOfItems items := by
  cases items with
  | nil =>
      obtain rfl := Option.some.inj areRead
      rfl
  | cons item rest =>
      obtain ⟨other, isRead, restRead⟩ := Option.bind_eq_some_iff.mp areRead
      obtain ⟨others, othersRead, rfl⟩ := Option.map_eq_some_iff.mp restRead
      rw [depthOfItems, depthOfItems, depth_of_reread? isRead,
        depthOfItems_of_rereadItems? othersRead]

/-- What is read of fields is nested as deeply. -/
theorem depthOfFields_of_rereadFields?
    {fields read : List (String × Json)}
    (areRead : rereadFields? fields = some read) :
    depthOfFields read = depthOfFields fields := by
  cases fields with
  | nil =>
      obtain rfl := Option.some.inj areRead
      rfl
  | cons field rest =>
      obtain ⟨name, value⟩ := field
      obtain ⟨other, isRead, restRead⟩ := Option.bind_eq_some_iff.mp areRead
      obtain ⟨others, othersRead, rfl⟩ := Option.map_eq_some_iff.mp restRead
      rw [depthOfFields, depthOfFields, depth_of_reread? isRead,
        depthOfFields_of_rereadFields? othersRead]

end

/-- What is read of a text that falls into the tokens of what is read of a value: the value with
what is read of its numbers, if it is nested at most as deeply as may be read. -/
theorem parse?_of_tokens?
    {value : Json}
    {text : String}
    (lexed : tokens? text.toList = value.reread?.map tokens) :
    parse? text = if value.depth ≤ maxOpen then value.reread? else none := by
  cases isRead : value.reread? with
  | none =>
      simp [parse?, lexed, isRead]
  | some read =>
      have sameDepth := depth_of_reread? isRead
      by_cases shallow : value.depth ≤ maxOpen
      · have room : ([] : List Open).length + read.depth ≤ maxOpen := by
          simpa [sameDepth] using shallow
        have parsed := Reading.run?_tokens read (Or.inl rfl) room .null []
        rw [List.append_nil] at parsed
        simp [parse?, lexed, isRead, parsed, Reading.run?, Reading.take, shallow]
      · have deep : maxOpen < ([] : List Open).length + read.depth := by
          simpa [sameDepth] using shallow
        have noneOpen : ([] : List Open).length ≤ maxOpen := Nat.zero_le maxOpen
        have stuck := Reading.run?_tokens_of_deep read (Or.inl rfl) noneOpen deep .null []
        rw [List.append_nil] at stuck
        simp [parse?, lexed, isRead, stuck, shallow]

/-- What is read of the text of a value: the value with what is read of its numbers, if it is
nested at most as deeply as may be read. -/
theorem parse?_compact (value : Json) :
    parse? value.compact = if value.depth ≤ maxOpen then value.reread? else none := by
  have end_stops : Stops [] := by
    simp [Stops]
  have read := tokens?_compactChars value end_stops
  apply parse?_of_tokens?
  cases isRead : value.reread? <;> simpa [compact, tokens?, isRead] using read

/-- The same is read of the text of a value over many lines. -/
theorem parse?_pretty (value : Json) : parse? value.pretty = parse? value.compact := by
  have end_stops : Stops [] := by
    simp [Stops]
  have read := tokens?_prettyChars 0 value end_stops
  rw [parse?_compact]
  apply parse?_of_tokens?
  cases isRead : value.reread? <;> simpa [pretty, tokens?, isRead] using read

end SourceFacts.Json
