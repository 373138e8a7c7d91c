import SourceFacts.Proofs.Yaml.Documents
import SourceFacts.Proofs.Yaml.Entries

namespace SourceFacts.Yaml

/-!
# Tokens are read as the values they were written from

The tokens of a document are put together to nodes, and the nodes stand for values. A scalar in
quotes is a text; one that is written plainly is what it looks like.
-/

open NodeM

/-!
## Tokens are read as nodes

The tokens of a document are read as the nodes that they were made from: a scalar for each value
and a mapping for each group. Every function that reads passes exactly the tokens of its part.
-/

/-! ### Passing tokens -/

/-- Reading passes some tokens, whatever handles and names there are. -/
def Reads {α : Type} (reader : NodeM α) (tokens rest : List Token) (value : α) : Prop :=
  ∀ handles anchors, reader.run { tokens, handles, anchors } =
    some (value, { tokens := rest, handles, anchors })

namespace Reads

variable {α β : Type}

/-- Nothing is passed where nothing is read. -/
theorem pure
    (value : α)
    (tokens : List Token) :
    Reads (Pure.pure value) tokens tokens value := fun _ _ => rfl

/-- What is passed one after the other. -/
theorem bind
    {first : NodeM α}
    {next : α → NodeM β}
    {tokens between rest : List Token}
    {value : α}
    {last : β}
    (reads : Reads first tokens between value)
    (goesOn : Reads (next value) between rest last) :
    Reads (first >>= next) tokens rest last := by
  intro handles anchors
  rw [StateT.run_bind, reads handles anchors]
  exact goesOn handles anchors

/-- Where handles are added, what follows is read with them. -/
theorem after_handles
    {next : PUnit → NodeM α}
    {tokens rest : List Token}
    {value : α}
    (reads : Reads (next ⟨⟩) tokens rest value)
    (more handles : List (String × String))
    (anchors : List (String × Option Node)) :
    ((modify fun reader => { reader with handles := reader.handles ++ more }) >>= next).run
        { tokens, handles, anchors } =
      some (value, { tokens := rest, handles := handles ++ more, anchors }) :=
  reads (handles ++ more) anchors

/-- The next token is not passed by looking at it. -/
theorem peek
    (token : Token)
    (rest : List Token) :
    Reads NodeM.peek (token :: rest) (token :: rest) token := fun _ _ => rfl

/-- A token is passed. -/
theorem skip
    (token : Token)
    (rest : List Token) :
    Reads NodeM.skip (token :: rest) rest () := fun _ _ => rfl

/-- A given token is passed. -/
theorem skipIf
    (token : Token)
    (rest : List Token) :
    Reads (NodeM.skipIf token) (token :: rest) rest true := by
  rw [NodeM.skipIf]
  refine bind (peek token rest) ?_
  rw [if_pos rfl]
  exact bind (skip token rest) (pure true rest)

/-- Another token than the given one is not passed. -/
theorem skipIf_other
    {token other : Token}
    (isOther : other ≠ token)
    (rest : List Token) :
    Reads (NodeM.skipIf token) (other :: rest) (other :: rest) false := by
  rw [NodeM.skipIf]
  refine bind (peek other rest) ?_
  rw [if_neg isOther]
  exact pure false (other :: rest)

end Reads

/-! ### Nodes -/

/-- A scalar is read. -/
theorem reads_scalar
    (mayNest : Bool)
    (fuel : Nat)
    (text : String)
    (isPlain : Bool)
    (rest : List Token) :
    Reads (readNode true mayNest (fuel + 2)) (.scalar text isPlain :: rest) rest
      (.scalar text isPlain none) := fun _ _ => rfl

/-- A mapping is read if its entries are. -/
theorem reads_mapping
    {mayNest : Bool}
    {fuel : Nat}
    {tokens rest : List Token}
    {entries : List (Node × Node)}
    (reads : Reads (readBlockEntries fuel) tokens rest entries) :
    Reads (readNode true mayNest (fuel + 2)) (.blockMappingStart :: tokens) rest
      (.mapping entries) := by
  have isContent : Reads (readContent true mayNest false none (fuel + 1))
      (.blockMappingStart :: tokens) rest (.mapping entries) := by
    rw [readContent]
    exact .bind (.peek _ _) (.bind (.skip _ _) (.bind reads (.pure _ _)))
  have noProperties : Reads properties (.blockMappingStart :: tokens)
      (.blockMappingStart :: tokens) (none, none) := fun _ _ => rfl
  rw [readNode]
  exact .bind (.peek _ _) (.bind noProperties (.bind (.pure _ _)
    (.bind isContent (.bind (.pure _ _) (.pure _ _)))))

/-- A node is read where no token ends its place. -/
theorem reads_unless
    {ends : Token → Bool}
    {token : Token}
    (goesOn : ends token = false)
    {mayBlock mayNest : Bool}
    {fuel : Nat}
    {tokens rest : List Token}
    {node : Node}
    (reads : Reads (readNode mayBlock mayNest fuel) (token :: tokens) rest node) :
    Reads (readUnless ends mayBlock mayNest (fuel + 1)) (token :: tokens) rest node := by
  rw [readUnless]
  refine .bind (.peek _ _) ?_
  rw [goesOn, if_neg Bool.false_ne_true]
  exact reads

/-- An entry is read with its name and its value, then the others. -/
theorem reads_entry
    {name : String}
    {token : Token}
    (goesOn : endsBlockPart token = false)
    {fuel : Nat}
    {tokens later rest : List Token}
    {node : Node}
    {entries : List (Node × Node)}
    (reads : Reads (readNode true true (fuel + 1)) (token :: tokens) later node)
    (readsOthers : Reads (readBlockEntries (fuel + 3)) later rest entries) :
    Reads (readBlockEntries (fuel + 4))
      (.key :: .scalar name true :: .value :: token :: tokens) rest
      ((.scalar name true none, node) :: entries) := by
  have readsKey : Reads (readUnless endsBlockPart true true (fuel + 3))
      (.scalar name true :: .value :: token :: tokens) (.value :: token :: tokens)
      (.scalar name true none) :=
    reads_unless rfl (reads_scalar true fuel name true _)
  have readsValue : Reads (readBlockValue (fuel + 3)) (.value :: token :: tokens) later node := by
    rw [readBlockValue]
    refine .bind (.skipIf _ _) ?_
    rw [if_pos rfl]
    exact reads_unless goesOn reads
  rw [readBlockEntries]
  exact .bind (.peek _ _) (.bind (.skip _ _) (.bind readsKey (.bind readsValue
    (.bind readsOthers (.pure _ _)))))

/-- At the end of a block there are no more entries. -/
theorem reads_blockEnd
    (fuel : Nat)
    (rest : List Token) :
    Reads (readBlockEntries (fuel + 1)) (.blockEnd :: rest) rest [] := fun _ _ => rfl

/-! ### Contents -/

namespace Content

mutual

/-- The node of a content. -/
def node : Content → Node
  | .bool value => .scalar (if value then "true" else "false") true none
  | .word value => .scalar (toString value.toNat) true none
  | .text value => .scalar value (decide (Style.ofText value = .plain)) none
  | .group entries => .mapping (entryNodes entries)

/-- The nodes of entries. -/
def entryNodes : List (String × Content) → List (Node × Node)
  | [] => []
  | (name, content) :: rest => (.scalar name true none, content.node) :: entryNodes rest

end

/-- The tokens of a content begin with one that ends no part of a block. -/
theorem exists_token (content : Content) :
    ∃ token rest, content.tokens = token :: rest ∧ endsBlockPart token = false := by
  cases content <;> exact ⟨_, _, rfl, rfl⟩

/-- A content is read from its tokens. -/
structure ReadsBack (content : Content) : Prop where
  reads : ∀ {fuel : Nat}, 4 * content.tokens.length ≤ fuel →
    ∀ (mayNest : Bool) (rest : List Token),
      Reads (readNode true mayNest fuel) (content.tokens ++ rest) rest content.node

/-- Entries are read from their tokens and the end of their block. -/
theorem reads_entries
    {entries : List (String × Content)}
    (contents : ∀ entry ∈ entries, entry.2.ReadsBack)
    {fuel : Nat}
    (enough : 4 * (entryTokens entries).length < fuel)
    (rest : List Token) :
    Reads (readBlockEntries fuel) (entryTokens entries ++ .blockEnd :: rest) rest
      (entryNodes entries) := by
  induction entries generalizing fuel with
  | nil =>
      obtain ⟨fuel, rfl⟩ := Nat.exists_eq_succ_of_ne_zero (Nat.ne_of_gt (Nat.zero_lt_of_lt enough))
      exact reads_blockEnd fuel rest
  | cons entry others inductionHypothesis =>
      obtain ⟨name, content⟩ := entry
      rw [List.forall_mem_cons] at contents
      obtain ⟨readsBack, othersReadBack⟩ := contents
      obtain ⟨token, tokens, isTokens, goesOn⟩ := content.exists_token
      simp only [entryTokens, List.cons_append, List.length_cons, List.length_append] at enough
      obtain ⟨fuel, rfl⟩ := Nat.exists_eq_add_of_le' (show 4 ≤ fuel by omega)
      have enoughForValue : 4 * content.tokens.length ≤ fuel + 1 := by omega
      have enoughForOthers : 4 * (entryTokens others).length < fuel + 3 := by omega
      have reads := readsBack.reads enoughForValue true (entryTokens others ++ .blockEnd :: rest)
      rw [isTokens, List.cons_append] at reads
      have readsAll : Reads (readBlockEntries (fuel + 4)) (.key :: .scalar name true :: .value ::
          token :: (tokens ++ (entryTokens others ++ .blockEnd :: rest))) rest
          ((.scalar name true none, content.node) :: entryNodes others) :=
        reads_entry goesOn reads (inductionHypothesis othersReadBack enoughForOthers)
      simpa [entryTokens, entryNodes, isTokens] using readsAll

/-- A content that is one scalar is read back. -/
theorem readsBack_of_scalar
    {content : Content}
    {text : String}
    {isPlain : Bool}
    (isToken : content.tokens = [.scalar text isPlain])
    (isNode : content.node = .scalar text isPlain none) :
    content.ReadsBack := by
  constructor
  intro fuel enough mayNest rest
  rw [isToken] at enough ⊢
  rw [isNode]
  obtain ⟨fuel, rfl⟩ := Nat.exists_eq_add_of_le' (Nat.le_trans (show 2 ≤ 4 by decide) enough)
  exact reads_scalar mayNest fuel text isPlain rest

/-- Every content that fits is read back. -/
theorem Fits.readsBack
    {depth : Nat}
    {content : Content}
    (fits : content.Fits depth) :
    content.ReadsBack := by
  induction fits with
  | bool depth value =>
      exact readsBack_of_scalar rfl rfl
  | word depth value =>
      exact readsBack_of_scalar rfl rfl
  | text depth value =>
      exact readsBack_of_scalar rfl rfl
  | @group depth entries nonempty names distinct contents inductionHypothesis =>
      constructor
      intro fuel enough mayNest rest
      simp only [tokens, List.cons_append, List.length_cons, List.length_append] at enough
      obtain ⟨fuel, rfl⟩ := Nat.exists_eq_add_of_le' (show 2 ≤ fuel by omega)
      have enoughForEntries : 4 * (entryTokens entries).length < fuel := by omega
      have reads := reads_entries inductionHypothesis enoughForEntries rest
      simpa [tokens, node] using reads_mapping reads

end Content

/-! ### Documents -/

/-- A loop that stops at once is passed through once. -/
theorem reads_loop
    {body : Nat → PUnit → NodeM (ForInStep PUnit)}
    {tokens rest : List Token}
    (stops : Reads (body 0 ⟨⟩) tokens rest (.done ⟨⟩))
    (fuel : Nat) :
    Reads (forIn [0:fuel + 1] PUnit.unit body) tokens rest ⟨⟩ := by
  have isList : forIn [0:fuel + 1] PUnit.unit body =
      forIn (0 :: List.range' 1 fuel) PUnit.unit body := by
    rw [Std.Legacy.Range.forIn_eq_forIn_range']
    simp [Std.Legacy.Range.size, List.range'_succ]
  rw [isList, List.forIn_cons]
  exact .bind stops (.pure _ _)

/-- A document is read from the tokens of its node, with the handles that have a meaning in every
document. -/
theorem readDocument_run
    {fuel : Nat}
    {tokens : List Token}
    {node : Node}
    (reads : Reads (readNode true false (fuel + 1)) (.blockMappingStart :: tokens) [.streamEnd] node)
    (handles : List (String × String))
    (anchors : List (String × Option Node)) :
    (readDocument (fuel + 1)).run { tokens := .blockMappingStart :: tokens, handles, anchors } =
      some (some node, { tokens := [.streamEnd], handles := handles ++ defaultHandles, anchors }) := by
  have noDirectives : Reads (readDirectives false (fuel + 1)) (.blockMappingStart :: tokens)
      (.blockMappingStart :: tokens) false := fun _ _ => rfl
  have notEnded : (decide (Token.blockMappingStart = Token.streamEnd) && !false) ≠ true := by
    decide
  rw [readDocument, StateT.run_bind, noDirectives handles anchors, Option.bind_eq_bind,
    Option.bind_some]
  refine Reads.after_handles (.bind (.peek _ _) ?_) defaultHandles handles anchors
  rw [if_neg notEnded]
  refine .bind (.skipIf_other (by decide) _) ?_
  rw [if_neg Bool.false_ne_true]
  dsimp only
  refine .bind reads (.bind (reads_loop ?_ fuel) (.bind (.peek .streamEnd []) ?_))
  · refine .bind (.skipIf_other (by decide) _) ?_
    exact .pure _ _
  · rw [if_pos rfl]
    exact .pure _ _

/-- The tokens of a document are read as its node. -/
theorem nodeOfTokens?_document
    {depth : Nat}
    {entries : List (String × Content)}
    (fits : (Content.group entries).Fits depth) :
    nodeOfTokens? ((Content.group entries).tokens ++ [.streamEnd]) =
      some (some (Content.group entries).node) := by
  have enough : 4 * (Content.group entries).tokens.length ≤
      8 * ((Content.group entries).tokens ++ [Token.streamEnd]).length + 7 + 1 := by
    rw [List.length_append]
    omega
  have reads := fits.readsBack.reads enough false [.streamEnd]
  rw [nodeOfTokens?]
  simp only [Content.tokens, List.cons_append] at reads ⊢
  rw [readDocument_run reads, Option.map_some]

/-!
## Documents are read as the values they were written from

A scalar that is written plainly is read as what it looks like: a truth value, a number of 64
bits, or a text that looks like nothing else. All other scalars are texts.
-/

/-! ### Numbers -/

/-- A digit is read as its value. -/
theorem hexValue?_of_isDigit
    {c : Char}
    (isDigit : c.isDigit = true) :
    hexValue? [c] = some (c.toNat - '0'.toNat) ∧ c.toNat - '0'.toNat < 10 := by
  simp only [Char.isDigit, Bool.and_eq_true, decide_eq_true_eq] at isDigit
  have bounds : '0' ≤ c ∧ c ≤ '9' := isDigit
  refine ⟨by simp [hexValue?, bounds], ?_⟩
  have atMost : c.toNat ≤ '9'.toNat := bounds.2
  have nine : '9'.toNat = '0'.toNat + 9 := rfl
  omega

/-- Digits are read as their value. -/
theorem digits?_of_digits
    {chars : List Char}
    (areDigits : ∀ c ∈ chars, c.isDigit = true)
    (nonempty : chars ≠ []) :
    digits? 10 chars =
      some (chars.foldl (fun read c => read * 10 + (c.toNat - '0'.toNat)) 0) := by
  have noneMissing : chars.isEmpty = false := by simpa using nonempty
  rw [digits?, noneMissing, if_neg Bool.false_ne_true]
  generalize 0 = before
  clear nonempty noneMissing
  induction chars generalizing before with
  | nil =>
      rfl
  | cons c rest inductionHypothesis =>
      rw [List.forall_mem_cons] at areDigits
      obtain ⟨isRead, small⟩ := hexValue?_of_isDigit areDigits.1
      rw [List.foldlM_cons, List.foldl_cons, isRead, ← inductionHypothesis areDigits.2]
      simp only [small, ↓reduceIte, Option.bind_eq_bind, Option.bind_some]

/-- What is written for a natural number, as characters. -/
structure IsNumber (chars : List Char) (value : Nat) : Prop where
  areDigits : ∀ c ∈ chars, c.isDigit = true
  nonempty : chars ≠ []
  noLeadingZero : chars.head? = some '0' → chars = ['0']
  isValue : chars.foldl (fun read c => read * 10 + (c.toNat - '0'.toNat)) 0 = value

/-- The digits of a number. -/
theorem isNumber_toDigits (value : Nat) : IsNumber (Nat.toDigits 10 value) value := by
  refine ⟨List.all_eq_true.mp (Text.all_isDigit_toDigits value), Nat.toDigits_ne_nil, ?_,
    Text.foldl_toDigits value⟩
  intro isZero
  rcases Nat.eq_zero_or_pos value with rfl | positive
  · rfl
  · exact absurd isZero (Text.head?_toDigits_ne_zero positive)

/-- A number has no leading zero. -/
theorem IsNumber.hasLeadingZero
    {chars : List Char}
    {value : Nat}
    (isNumber : IsNumber chars value) :
    hasLeadingZero chars = false := by
  obtain ⟨c, rest, rfl⟩ := List.exists_cons_of_ne_nil isNumber.nonempty
  have isDigit := isNumber.areDigits c List.mem_cons_self
  have noSign : withoutSign (c :: rest) = c :: rest := by
    unfold withoutSign
    split
    · rename_i isPlus
      rw [(List.cons.inj isPlus).1] at isDigit
      cases isDigit
    · rename_i isMinus
      rw [(List.cons.inj isMinus).1] at isDigit
      cases isDigit
    · rfl
  rw [Yaml.hasLeadingZero, noSign]
  split
  · rename_i isZero
    obtain ⟨rfl, rfl⟩ := List.cons.inj isZero
    have alone := isNumber.noLeadingZero rfl
    rw [(List.cons.inj alone).2]
    rfl
  · rfl

/-- The magnitude of a number. -/
theorem IsNumber.magnitude?
    {chars : List Char}
    {value : Nat}
    (isNumber : IsNumber chars value) :
    magnitude? chars = some value := by
  have noBase : ∀ d ∈ ['x', 'o', 'b'], ∀ rest, chars ≠ '0' :: d :: rest := by
    rintro d isBase rest rfl
    have isDigit := isNumber.areDigits d (by simp)
    simp only [List.mem_cons, List.not_mem_nil, or_false] at isBase
    rcases isBase with rfl | rfl | rfl <;> cases isDigit
  unfold Yaml.magnitude?
  split
  · exact absurd rfl (noBase 'x' (by simp) _)
  · exact absurd rfl (noBase 'o' (by simp) _)
  · exact absurd rfl (noBase 'b' (by simp) _)
  · rw [isNumber.hasLeadingZero, if_neg Bool.false_ne_true,
      digits?_of_digits isNumber.areDigits isNumber.nonempty, isNumber.isValue]

/-- The integer that a number is. -/
theorem IsNumber.integer?
    {chars : List Char}
    {value : Nat}
    (isNumber : IsNumber chars value) :
    integer? chars = some (value : Int) := by
  unfold Yaml.integer?
  split
  · exact absurd (isNumber.areDigits '+' List.mem_cons_self) (by decide)
  · exact absurd (isNumber.areDigits '-' List.mem_cons_self) (by decide)
  · rw [isNumber.magnitude?]
    rfl

/-- What is written for a number of 64 bits looks like it. -/
theorem IsNumber.plainKind
    {text : String}
    {value : Nat}
    (isNumber : IsNumber text.toList value)
    (bound : value < UInt64.size) :
    plainKind text = .integer value := by
  have notOther : ∀ other : String, other.toList.any (!·.isDigit) = true → text ≠ other := by
    rintro other isOther rfl
    obtain ⟨c, member, noDigit⟩ := List.any_eq_true.mp isOther
    simp [isNumber.areDigits c member] at noDigit
  have notEmpty : text ≠ "" := by
    rintro rfl
    exact isNumber.nonempty rfl
  have notNull : isNull text = false := by
    simp [isNull, notEmpty, notOther "null" (by decide), notOther "Null" (by decide),
      notOther "NULL" (by decide), notOther "~" (by decide)]
  have notBool : bool? text = none := by
    simp [bool?, notOther "true" (by decide), notOther "True" (by decide),
      notOther "TRUE" (by decide), notOther "false" (by decide), notOther "False" (by decide),
      notOther "FALSE" (by decide)]
  have inRange : (decide (-9223372036854775808 ≤ (value : Int)) &&
      decide ((value : Int) < 18446744073709551616)) = true := by
    have isSize : UInt64.size = 18446744073709551616 := rfl
    rw [Bool.and_eq_true, decide_eq_true_eq, decide_eq_true_eq]
    omega
  rw [Yaml.plainKind]
  simp only [notNull, Bool.false_eq_true, ↓reduceIte, notBool, isNumber.integer?, inRange]

/-! ### Nodes -/

/-- What is written for a word looks like it. -/
theorem plainKind_word (value : UInt64) :
    plainKind (toString value.toNat) = .integer value.toNat := by
  have isNumber := isNumber_toDigits value.toNat
  rw [← Nat.toList_repr] at isNumber
  exact isNumber.plainKind value.toNat_lt

namespace Content

/-- A text is read as itself, plainly or not. -/
theorem value?_text
    (value : String)
    (nesting : Nat) :
    (text value).node.value? nesting = some (.string value) := by
  rw [node, Node.value?]
  split
  · rename_i isPlain
    have notOther := (Style.of_plain (of_decide_eq_true isPlain)).1
    simp only [looksLikeOther, Bool.or_eq_false_iff, decide_eq_false_iff_not,
      Decidable.not_not] at notOther
    rw [notOther.1]
    rfl
  · rfl

/-- The values of entries and others. -/
theorem entryValues_append (before after : List (String × Content)) :
    entryValues (before ++ after) = entryValues before ++ entryValues after := by
  induction before with
  | nil =>
      rfl
  | cons entry rest inductionHypothesis =>
      rw [List.cons_append, entryValues, entryValues, inductionHypothesis, List.cons_append]

/-- A key is that of an entry if the entry has its name. -/
theorem any_entryValues
    (name : String)
    (entries : List (String × Content)) :
    ((entryValues entries).any fun entry => entry.1.same (.string name)) =
      (entries.map (·.1)).contains name := by
  induction entries with
  | nil =>
      rfl
  | cons entry rest inductionHypothesis =>
      rw [entryValues, List.any_cons, inductionHypothesis, Value.same, List.map_cons,
        List.contains_cons]
      congr 1
      exact decide_eq_decide.mpr eq_comm

/-- Entries are read as their values, after those of entries with other names. -/
theorem entryValues?_entryNodes
    {nesting : Nat}
    {entries : List (String × Content)}
    (names : ∀ entry ∈ entries, isEntryName entry.1 = true)
    (values : ∀ entry ∈ entries, entry.2.node.value? nesting = some entry.2.value)
    {before : List (String × Content)}
    (distinct : ((before ++ entries).map (·.1)).Nodup) :
    entryValues? (entryNodes entries) nesting (entryValues before) =
      some (entryValues (before ++ entries)) := by
  induction entries generalizing before with
  | nil =>
      rw [List.append_nil, entryNodes, entryValues?]
  | cons entry rest inductionHypothesis =>
      obtain ⟨name, content⟩ := entry
      rw [List.forall_mem_cons] at names values
      have isKey : (Node.scalar name true none).value? nesting = some (.string name) := by
        rw [Node.value?, if_pos rfl, (isName_of_isEntryName names.1).2]
        rfl
      have isNew : (before.map (·.1)).contains name = false := by
        rw [List.map_append, List.nodup_append] at distinct
        rw [List.contains_eq_mem, decide_eq_false_iff_not]
        exact fun member => distinct.2.2 name member name List.mem_cons_self rfl
      have stillDistinct : ((before ++ [(name, content)] ++ rest).map (·.1)).Nodup := by
        rw [List.append_assoc]
        exact distinct
      have restRead := inductionHypothesis names.2 values.2 stillDistinct
      rw [entryValues_append, List.append_assoc] at restRead
      rw [entryNodes, entryValues?, isKey, Option.bind_eq_bind, Option.bind_some,
        any_entryValues, isNew, if_neg Bool.false_ne_true, values.1, Option.bind_some]
      exact restRead

/-- Every content that fits is read as its value. -/
theorem Fits.value?
    {depth : Nat}
    {content : Content}
    (fits : content.Fits depth)
    {nesting : Nat}
    (bound : depth ≤ nesting) :
    content.node.value? nesting = some content.value := by
  induction fits generalizing nesting with
  | bool depth value =>
      cases value <;> rfl
  | word depth value =>
      rw [node, Node.value?, if_pos rfl, plainKind_word]
      rfl
  | text depth value =>
      exact value?_text value nesting
  | @group depth entries nonempty names distinct contents inductionHypothesis =>
      obtain ⟨nesting, rfl⟩ := Nat.exists_eq_succ_of_ne_zero (Nat.ne_of_gt
        (Nat.zero_lt_of_lt bound))
      have allDistinct : ((([] : List (String × Content)) ++ entries).map (·.1)).Nodup := distinct
      have values : entryValues? (entryNodes entries) nesting [] = some (entryValues entries) :=
        entryValues?_entryNodes names
          (fun entry isMember => inductionHypothesis entry isMember (Nat.le_of_succ_le_succ bound))
          allDistinct
      rw [node, Node.value?, values, value, Option.map_some]

end Content

/-- A document is read as the values of its entries. -/
theorem parse?_document
    {depth : Nat}
    {entries : List (String × Content)}
    (fits : (Content.group entries).Fits depth)
    (bound : depth ≤ maxNesting) :
    parse? (document entries) = some (.mapping (Content.entryValues entries)) := by
  rw [parse?, tokens?_document fits, Option.bind_eq_bind, Option.bind_some,
    nodeOfTokens?_document fits]
  exact fits.value? bound

end SourceFacts.Yaml
