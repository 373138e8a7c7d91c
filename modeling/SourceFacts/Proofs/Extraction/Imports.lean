import SourceFacts.Extraction.Imports
import SourceFacts.Proofs.Extraction.Wording

namespace SourceFacts.Extraction

open Syntax Facts Text List

/-!
# Tokens of import statements

An import statement is written with tokens: words, dots between words, and dots before a name that
make it relative. Blanks, comments and continued lines may stand between any two of them. The facts
about a statement are cut out of the text of its nodes, where they find these too, and depend on the
tokens alone exactly if no gap is left between the tokens of a name and between the dots before it.
-/

variable {source : Source} {node name : Node} {nodes : List Node} {place : Nat}

/-! ## Dotted names -/

/-- A word. -/
structure IsWord (source : Source) (node : Node) : Prop where
  kind : node.kind = "identifier"
  isTrimmed : IsTrimmed (source.textOf node).toList
  noDot : '.' ∉ (source.textOf node).toList

/-- A dot. -/
structure IsDot (source : Source) (node : Node) : Prop where
  kind : node.kind = "."
  text : source.textOf node = "."

/-- Words with a dot between neighbours. -/
inductive AreDotted (source : Source) : List Node → Prop where
  | last {name : Node} (isWord : IsWord source name) : AreDotted source [name]
  | more {name dot : Node} {rest : List Node} (isWord : IsWord source name)
      (isDot : IsDot source dot) (others : AreDotted source rest) :
      AreDotted source (name :: dot :: rest)

/-- The words among nodes. -/
def words (nodes : List Node) : List Node := nodes.filter (·.kind == "identifier")

theorem IsWord.words_cons
    (isWord : IsWord source name)
    (rest : List Node) :
    words (name :: rest) = name :: words rest :=
  List.filter_cons_of_pos (beq_iff_eq.mpr isWord.kind)

theorem IsDot.words_cons
    (isDot : IsDot source node)
    (rest : List Node) :
    words (node :: rest) = words rest :=
  List.filter_cons_of_neg (by simp [isDot.kind])

namespace Source

variable (source : Source) (node : Node)

/-- What stands before each part of a node. -/
def gapsIn : List (List Char) := source.gaps node.info.start.chars (parts node)

/-- A name as it is written, with what stands between its parts. -/
def spelledName : String := String.ofList (source.spelling node.info.start.chars (parts node))

/-- A name by its tokens: the words in it, joined by dots. -/
def tokenName : String := join "." ((words (parts node)).map source.textOf)

/-- The first word of a name. -/
def firstWord : String := ((words (parts node)).head?.map source.textOf).getD ""

end Source

/-- A node of which parts follow each other from its first to its last character, and between which
there is only what may stand between tokens. -/
structure IsSpelled (source : Source) (node : Node) : Prop where
  begins : ∀ first ∈ (parts node).head?, first.info.start.chars = node.info.start.chars
  follow : Follow node.info.start.chars (parts node) node.info.stop.chars
  layout : ∀ gap ∈ source.gapsIn node, IsLayout gap

/-- A dotted name in a source. -/
structure IsDottedName (source : Source) (node : Node) : Prop where
  kind : node.kind = "dotted_name"
  isSpelled : IsSpelled source node
  areDotted : AreDotted source (parts node)

/-- Nothing stands between the parts of a node. -/
def IsTight (source : Source) (node : Node) : Prop := ∀ gap ∈ source.gapsIn node, gap = []

theorem IsSpelled.toList_textOf
    (isSpelled : IsSpelled source node) :
    (source.textOf node).toList = source.spelling node.info.start.chars (parts node) := by
  rw [source.toList_textOf, Source.between_eq_spelling isSpelled.follow]

/-- Between words there is a first one. -/
theorem AreDotted.words_eq_cons
    (areDotted : AreDotted source nodes) :
    ∃ first others, words nodes = first :: others := by
  cases areDotted with
  | last isWord =>
      exact ⟨_, _, isWord.words_cons []⟩
  | more isWord _ _ =>
      exact ⟨_, _, isWord.words_cons _⟩

/-- Words are joined by the dots between them. -/
theorem AreDotted.toList_join
    (areDotted : AreDotted source nodes) :
    (join "." ((words nodes).map source.textOf)).toList = source.wording nodes := by
  induction areDotted with
  | last isWord =>
      rw [isWord.words_cons]
      simp [words, join, Source.wording]
  | more isWord isDot others inductionHypothesis =>
      -- A word is joined with a dot only if another one follows.
      obtain ⟨first, more, isCons⟩ := others.words_eq_cons
      rw [isCons, join, String.toList_intercalate] at inductionHypothesis
      rw [isWord.words_cons, isDot.words_cons, isCons, join, String.toList_intercalate,
        List.map_cons, List.map_cons, List.map_cons, List.map_cons, List.intercalate_cons_cons,
        ← List.map_cons, ← List.map_cons, inductionHypothesis, Source.wording, Source.wording,
        List.flatMap_cons, List.flatMap_cons, isDot.text, List.append_assoc]

theorem AreDotted.endsWritten
    (areDotted : AreDotted source nodes)
    (place : Nat) :
    EndsWritten (source.spelling place nodes) := by
  induction areDotted generalizing place with
  | last isWord =>
      rw [Source.spelling, Source.spelling, List.append_nil]
      exact isWord.isTrimmed.ends.append _
  | more _ _ _ inductionHypothesis =>
      rw [Source.spelling, Source.spelling]
      exact ((inductionHypothesis _).append _).append _

/-- What stands between tokens does not begin with a dot. -/
theorem IsLayout.head?_ne_dot
    {chars : List Char}
    (isLayout : IsLayout chars) :
    chars.head? ≠ some '.' := by
  intro isDot
  have isFirst := isLayout.of_head? isDot
  revert isFirst
  decide

namespace IsDottedName

/-- A dotted name has no dots before it. -/
theorem absolute
    (isName : IsDottedName source node) :
    node.kind ≠ "relative_import" := by
  rw [isName.kind]
  decide

/-- A dotted name is its first word, which is followed by nothing or by a dot. -/
theorem spelling_eq
    (isName : IsDottedName source node) :
    ∃ word, IsWord source word ∧ source.firstWord node = source.textOf word ∧
      (source.spelling node.info.start.chars (parts node) = (source.textOf word).toList ∧
          (source.gapsIn node)[1]? = none ∨
        ∃ gap rest, source.spelling node.info.start.chars (parts node) =
              (source.textOf word).toList ++ (gap ++ '.' :: rest) ∧
            (source.gapsIn node)[1]? = some gap) := by
  have begins := isName.isSpelled.begins
  have areDotted := isName.areDotted
  rw [Source.gapsIn, Source.firstWord]
  cases shape : parts node with
  | nil =>
      rw [shape] at areDotted
      cases areDotted
  | cons word rest =>
      rw [shape] at begins areDotted
      rw [← begins word rfl]
      cases areDotted with
      | last isWord =>
          refine ⟨word, isWord, by rw [isWord.words_cons]; rfl, .inl ⟨?_, rfl⟩⟩
          rw [Source.spelling, Source.spelling, source.between_self, List.nil_append,
            List.append_nil]
      | @more _ dot others isWord isDot _ =>
          refine ⟨word, isWord, by rw [isWord.words_cons]; rfl,
            .inr ⟨_, source.spelling dot.info.stop.chars others, ?_, rfl⟩⟩
          rw [Source.spelling, Source.spelling, source.between_self, isDot.text, List.nil_append,
            List.append_assoc (source.between _ _)]
          rfl

theorem isTrimmed
    (isName : IsDottedName source node) :
    IsTrimmed (source.spelling node.info.start.chars (parts node)) where
  begins := by
    obtain ⟨word, isWord, _, ⟨isOnly, _⟩ | ⟨_, _, isFirst, _⟩⟩ := isName.spelling_eq
    · rw [isOnly]
      exact isWord.isTrimmed.begins
    · rw [isFirst]
      exact isWord.isTrimmed.begins.append _
  ends := isName.areDotted.endsWritten _

/-- A name does not begin with a dot. -/
theorem head?_ne_dot
    (isName : IsDottedName source node) :
    (source.spelling node.info.start.chars (parts node)).head? ≠ some '.' := by
  have noDot : ∀ {word rest}, IsWord source word →
      ((source.textOf word).toList ++ rest).head? ≠ some '.' := by
    intro word rest isWord isDot
    obtain ⟨c, isFirst, _⟩ := isWord.isTrimmed.begins
    obtain ⟨more, text⟩ := List.head?_eq_some_iff.mp isFirst
    have noDot := isWord.noDot
    rw [text] at isDot noDot
    rw [Option.some.inj isDot] at noDot
    exact noDot List.mem_cons_self
  obtain ⟨word, isWord, _, ⟨isOnly, _⟩ | ⟨_, _, isFirst, _⟩⟩ := isName.spelling_eq
  · rw [isOnly, ← List.append_nil (source.textOf word).toList]
    exact noDot isWord
  · rw [isFirst]
    exact noDot isWord

/-- A name is read as it is written. -/
theorem trimmedTextOf_eq
    (isName : IsDottedName source node) :
    source.trimmedTextOf node = source.spelledName node := by
  have isTrimmed := isName.isTrimmed
  rw [← isName.isSpelled.toList_textOf] at isTrimmed
  rw [source.trimmedTextOf_of_isTrimmed isTrimmed, Source.spelledName,
    ← isName.isSpelled.toList_textOf, String.ofList_toList]

theorem toList_tokenName
    (isName : IsDottedName source node) :
    (source.tokenName node).toList = source.wording (parts node) :=
  isName.areDotted.toList_join

/-- A name is written as its tokens exactly if nothing stands between them. -/
theorem spelledName_eq_iff
    (isName : IsDottedName source node) :
    source.spelledName node = source.tokenName node ↔ IsTight source node := by
  rw [← String.toList_inj, Source.spelledName, String.toList_ofList, isName.toList_tokenName,
    Source.spelling_eq_wording_iff, IsTight, Source.gapsIn]

/-- The first part of a name as it is written is its first word exactly if nothing stands between
this word and the dot behind it. -/
theorem before_spelledName_eq_iff
    (isName : IsDottedName source node) :
    before '.' (source.spelledName node) = source.firstWord node ↔
      ∀ gap ∈ (source.gapsIn node)[1]?, gap = [] := by
  obtain ⟨word, isWord, isFirst, spelled⟩ := isName.spelling_eq
  have passes := takeWhile_ne_append isWord.noDot
  rw [isFirst, before, Source.spelledName, String.toList_ofList, ← String.toList_inj,
    String.toList_ofList]
  rcases spelled with ⟨spelled, noGap⟩ | ⟨gap, rest, spelled, isGap⟩
  · have whole := passes []
    rw [List.append_nil, List.takeWhile_nil, List.append_nil] at whole
    rw [spelled, noGap, whole]
    simp
  · rw [spelled, isGap, passes, List.append_right_eq_self]
    cases shape : gap with
    | nil =>
        simp
    | cons first others =>
        have noDot := (isName.isSpelled.layout gap (List.mem_of_getElem? isGap)).head?_ne_dot
        rw [shape] at noDot
        rw [List.cons_append, List.takeWhile_cons_of_pos (by simpa using noDot)]
        simp

end IsDottedName

/-! ## Dots before names -/

/-- The dots of a relative module, which are the first of its parts. -/
def prefixOf (node : Node) : Node := (parts node).headD node

/-- The name behind the dots of a relative module, if there is one. -/
def nameBehind? (node : Node) : Option Node := (parts node)[1]?

/-- A relative module in a source: dots, and a dotted name or none. -/
structure IsRelative (source : Source) (node : Node) : Prop where
  kind : node.kind = "relative_import"
  isSpelled : IsSpelled source node
  shape : parts node = prefixOf node :: (nameBehind? node).toList
  prefixSpelled : IsSpelled source (prefixOf node)
  areDots : ∀ part ∈ parts (prefixOf node), IsDot source part
  someDot : parts (prefixOf node) ≠ []
  isName : ∀ name ∈ nameBehind? node, IsDottedName source name

namespace Source

variable (source : Source) (node : Node)

/-- The dots of a relative module that follow each other without a gap, from the first one on. -/
def leadingDots : Nat := ((source.gapsIn (prefixOf node)).takeWhile (·.isEmpty)).length

/-- What a source says behind the dots of a relative module. -/
def behindDots : List Char :=
  source.spelling (prefixOf node).info.stop.chars (nameBehind? node).toList

/-- A module as it is written; the dots of a relative one count up to the first gap, and what comes
then is taken for its name. -/
def spelledModule : String × Option UInt32 :=
  if node.kind = "relative_import" then
    (trim (String.ofList ((source.textOf node).toList.drop (source.leadingDots node))),
      some (UInt32.ofNat (source.leadingDots node)))
  else (source.spelledName node, none)

/-- A module by its tokens: its name, and how many dots make it relative. -/
def tokenModule : String × Option UInt32 :=
  if node.kind = "relative_import" then
    ((nameBehind? node).elim "" source.tokenName,
      some (UInt32.ofNat (parts (prefixOf node)).length))
  else (source.tokenName node, none)

end Source

/-- Nothing stands between the tokens of a module, but blanks may stand between dots and a name. -/
def IsTightModule (source : Source) (node : Node) : Prop :=
  if node.kind = "relative_import" then
    IsTight source (prefixOf node) ∧ ∀ name ∈ nameBehind? node,
      (∀ c ∈ source.between (prefixOf node).info.stop.chars name.info.start.chars,
          isBlank c = true) ∧
        IsTight source name
  else IsTight source node

/-- Dots count up to the first gap. -/
theorem length_takeWhile_dots
    (areDots : ∀ node ∈ nodes, IsDot source node)
    (layout : ∀ gap ∈ source.gaps place nodes, IsLayout gap)
    {rest : List Char}
    (noDot : rest.head? ≠ some '.') :
    ((source.spelling place nodes ++ rest).takeWhile (· == '.')).length =
      ((source.gaps place nodes).takeWhile (·.isEmpty)).length := by
  induction nodes generalizing place with
  | nil =>
      cases rest with
      | nil =>
          rfl
      | cons c others =>
          rw [Source.spelling, List.nil_append, List.takeWhile_cons_of_neg (by simpa using noDot)]
          rfl
  | cons node others inductionHypothesis =>
      rw [Source.gaps, List.forall_mem_cons] at layout
      rw [List.forall_mem_cons] at areDots
      rw [Source.spelling, Source.gaps, areDots.1.text, List.append_assoc, List.append_assoc]
      cases shape : source.between place node.info.start.chars with
      | nil =>
          have more := inductionHypothesis areDots.2 layout.2
          rw [List.nil_append, List.takeWhile_cons_of_pos rfl, List.length_cons, ← more]
          rfl
      | cons c gap =>
          have noDot : c ≠ '.' := by
            have isFirst := layout.1.head?_ne_dot
            rw [shape] at isFirst
            simpa using isFirst
          rw [List.cons_append, List.takeWhile_cons_of_neg (by simpa using noDot)]
          rfl

/-- Behind a gap between dots, there is a dot in front of what follows them. -/
theorem spelling_dots
    (areDots : ∀ node ∈ nodes, IsDot source node)
    (someDot : nodes ≠ [])
    (place : Nat) :
    ∃ front, source.spelling place nodes = front ++ ['.'] := by
  induction nodes generalizing place with
  | nil =>
      exact absurd rfl someDot
  | cons node others inductionHypothesis =>
      rw [List.forall_mem_cons] at areDots
      rw [Source.spelling, areDots.1.text]
      cases others with
      | nil =>
          exact ⟨_, by rw [Source.spelling, List.append_nil]; rfl⟩
      | cons next more =>
          obtain ⟨front, isFront⟩ := inductionHypothesis areDots.2 (List.cons_ne_nil next more)
            node.info.stop.chars
          exact ⟨_, by rw [isFront, ← List.append_assoc]⟩

/-- What is left behind the dots that count: all that follows the dots if there is no gap between
them, and otherwise another dot before it. -/
theorem drop_dots
    (areDots : ∀ node ∈ nodes, IsDot source node)
    (place : Nat)
    (rest : List Char) :
    let left := (source.spelling place nodes ++ rest).drop
      ((source.gaps place nodes).takeWhile (·.isEmpty)).length
    (∀ gap ∈ source.gaps place nodes, gap = []) ∧ left = rest ∨
      (¬ ∀ gap ∈ source.gaps place nodes, gap = []) ∧ ∃ front, left = front ++ '.' :: rest := by
  induction nodes generalizing place with
  | nil =>
      exact .inl ⟨fun _ none => absurd none List.not_mem_nil, rfl⟩
  | cons node others inductionHypothesis =>
      have dots := areDots
      rw [List.forall_mem_cons] at areDots
      have more := inductionHypothesis areDots.2 node.info.stop.chars
      cases shape : source.between place node.info.start.chars with
      | nil =>
          rw [Source.spelling, Source.gaps, areDots.1.text, shape, List.forall_mem_cons,
            List.takeWhile_cons_of_pos rfl, List.length_cons]
          simpa using more
      | cons c gap =>
          -- No dot is dropped from here on, so that the last of them is still there.
          obtain ⟨front, isFront⟩ := spelling_dots dots (List.cons_ne_nil node others) place
          refine .inr ⟨?_, front, ?_⟩
          · rw [Source.gaps, List.forall_mem_cons, shape]
            exact fun none => List.cons_ne_nil c gap none.1
          · rw [Source.gaps, shape, List.takeWhile_cons_of_neg (by simp), List.length_nil,
              List.drop_zero, isFront, List.append_assoc]
            rfl

namespace IsRelative

theorem toList_textOf
    (isRelative : IsRelative source node) :
    (source.textOf node).toList =
      source.spelling (prefixOf node).info.start.chars (parts (prefixOf node)) ++
        source.behindDots node := by
  have begins := isRelative.isSpelled.begins
  rw [isRelative.shape] at begins
  rw [isRelative.isSpelled.toList_textOf, isRelative.shape, ← begins _ rfl, Source.spelling,
    source.between_self, List.nil_append, isRelative.prefixSpelled.toList_textOf, Source.behindDots]

/-- Behind the dots is nothing, or a name with what stands before it. -/
theorem behindDots_eq
    (isRelative : IsRelative source node) :
    nameBehind? node = none ∧ source.behindDots node = [] ∨
      ∃ name gap, nameBehind? node = some name ∧ IsDottedName source name ∧ IsLayout gap ∧
        gap = source.between (prefixOf node).info.stop.chars name.info.start.chars ∧
          source.behindDots node =
            gap ++ source.spelling name.info.start.chars (parts name) := by
  have layout := isRelative.isSpelled.layout
  rw [Source.gapsIn, isRelative.shape] at layout
  rw [Source.behindDots]
  cases named : nameBehind? node with
  | none =>
      exact .inl ⟨rfl, rfl⟩
  | some name =>
      have isName := isRelative.isName name named
      rw [named] at layout
      refine .inr ⟨name, _, rfl, isName, layout _ (by simp [Source.gaps]), rfl, ?_⟩
      rw [Option.toList_some, Source.spelling, Source.spelling, List.append_nil,
        isName.isSpelled.toList_textOf]

/-- A dot with what is behind the dots has no blanks at its ends. -/
theorem isTrimmed_behindDots
    (isRelative : IsRelative source node) :
    IsTrimmed ('.' :: source.behindDots node) := by
  obtain ⟨_, isNothing⟩ | ⟨name, gap, _, isName, _, _, isRest⟩ := isRelative.behindDots_eq
  · rw [isNothing]
    decide
  · rw [isRest]
    exact isName.isTrimmed.after (by decide) gap

theorem isTrimmed
    (isRelative : IsRelative source node) :
    IsTrimmed (source.textOf node).toList := by
  obtain ⟨front, isFront⟩ := spelling_dots isRelative.areDots isRelative.someDot
    (prefixOf node).info.start.chars
  have begins := isRelative.prefixSpelled.begins
  rw [isRelative.toList_textOf]
  constructor
  · cases shape : parts (prefixOf node) with
    | nil =>
        exact absurd shape isRelative.someDot
    | cons dot others =>
        have isDot := isRelative.areDots dot (by rw [shape]; exact List.mem_cons_self)
        rw [shape] at begins
        rw [← begins dot rfl, Source.spelling, source.between_self, isDot.text]
        exact ⟨'.', rfl, by decide⟩
  · rw [isFront, List.append_assoc]
    exact isRelative.isTrimmed_behindDots.ends.append front

theorem head?_behindDots
    (isRelative : IsRelative source node) :
    (source.behindDots node).head? ≠ some '.' := by
  obtain ⟨_, isNothing⟩ | ⟨name, gap, _, isName, layout, _, isRest⟩ := isRelative.behindDots_eq
  · rw [isNothing]
    simp
  · rw [isRest]
    cases gap with
    | nil =>
        exact isName.head?_ne_dot
    | cons c more =>
        exact layout.head?_ne_dot

/-- A relative module is read as it is written. -/
theorem importedModule_eq
    (isRelative : IsRelative source node) :
    importedModule source node = source.spelledModule node := by
  have text := source.trimmedTextOf_of_isTrimmed isRelative.isTrimmed
  have dots : ((source.textOf node).toList.takeWhile (· == '.')).length =
      source.leadingDots node := by
    rw [isRelative.toList_textOf]
    exact length_takeWhile_dots isRelative.areDots isRelative.prefixSpelled.layout
      isRelative.head?_behindDots
  have behind : (source.textOf node).toList.dropWhile (· == '.') =
      (source.textOf node).toList.drop (source.leadingDots node) := by
    have dropped : ((source.textOf node).toList.takeWhile (· == '.') ++
        (source.textOf node).toList.dropWhile (· == '.')).drop (source.leadingDots node) =
          (source.textOf node).toList.dropWhile (· == '.') :=
      List.drop_left' dots
    rw [List.takeWhile_append_dropWhile] at dropped
    exact dropped.symm
  rw [importedModule, Source.spelledModule, if_pos isRelative.kind, if_pos isRelative.kind, text]
  dsimp only
  rw [dots, behind]

/-- What is behind the dots is read as the name by its tokens exactly if only blanks stand before
the name and nothing in it. -/
theorem trim_behindDots_eq_iff
    (isRelative : IsRelative source node) :
    trim (String.ofList (source.behindDots node)) = (nameBehind? node).elim "" source.tokenName ↔
      ∀ name ∈ nameBehind? node,
        (∀ c ∈ source.between (prefixOf node).info.stop.chars name.info.start.chars,
            isBlank c = true) ∧
          IsTight source name := by
  obtain ⟨noName, isNothing⟩ | ⟨name, gap, named, isName, _, rfl, isRest⟩ :=
    isRelative.behindDots_eq
  · rw [noName, isNothing]
    exact iff_of_true rfl fun _ none => absurd none (by simp)
  · have trimmed := trim_append isName.isTrimmed
      (source.between (prefixOf node).info.stop.chars name.info.start.chars) []
    have fewer := (source.wording_sublist name.info.start.chars (parts name)).length_le
    have nothing : dropBlanksEnd [] = [] := rfl
    have isOnly : ∀ holds : Node → Prop, (∀ other ∈ some name, holds other) ↔ holds name := by
      simp
    rw [nothing, List.append_nil, List.append_nil] at trimmed
    rw [isRest, trimmed, named, isOnly, Option.elim_some, ← isName.spelledName_eq_iff,
      ← dropBlanks_eq_nil_iff, ← String.toList_inj, ← String.toList_inj, Source.spelledName,
      String.toList_ofList, String.toList_ofList, isName.toList_tokenName]
    constructor
    · intro same
      have lengths := congrArg List.length same
      rw [List.length_append] at lengths
      have noGap : dropBlanks
          (source.between (prefixOf node).info.stop.chars name.info.start.chars) = [] :=
        List.eq_nil_of_length_eq_zero (by omega)
      rw [noGap, List.nil_append] at same
      exact ⟨noGap, same⟩
    · rintro ⟨noGap, same⟩
      rw [noGap, List.nil_append, same]

theorem length_token_le
    (isRelative : IsRelative source node) :
    ((nameBehind? node).elim "" source.tokenName).toList.length ≤
      (source.behindDots node).length := by
  obtain ⟨noName, isNothing⟩ | ⟨name, gap, named, isName, _, rfl, isRest⟩ :=
    isRelative.behindDots_eq
  · rw [noName]
    exact Nat.zero_le _
  · rw [named, Option.elim_some, isName.toList_tokenName, isRest, List.length_append]
    exact Nat.le_trans (source.wording_sublist _ _).length_le (Nat.le_add_left _ _)

/-- A relative module is read as its tokens exactly if nothing stands between them but blanks in
front of the name. -/
theorem spelledModule_eq_iff
    (isRelative : IsRelative source node) :
    source.spelledModule node = source.tokenModule node ↔ IsTightModule source node := by
  have dropped := drop_dots isRelative.areDots (prefixOf node).info.start.chars
    (source.behindDots node)
  rw [← isRelative.toList_textOf] at dropped
  rw [Source.spelledModule, Source.tokenModule, IsTightModule, if_pos isRelative.kind,
    if_pos isRelative.kind, if_pos isRelative.kind, Prod.mk.injEq]
  rcases dropped with ⟨tight, isRest⟩ | ⟨loose, front, isRest⟩
  · have level : source.leadingDots node = (parts (prefixOf node)).length := by
      have all : (source.gapsIn (prefixOf node)).takeWhile (·.isEmpty) =
          source.gapsIn (prefixOf node) :=
        List.takeWhile_eq_self_iff.mpr fun gap member => List.isEmpty_iff.mpr (tight gap member)
      rw [Source.leadingDots, all, Source.gapsIn, Source.length_gaps]
    have isTight : IsTight source (prefixOf node) := tight
    rw [Source.leadingDots, Source.gapsIn, isRest, ← Source.gapsIn, ← Source.leadingDots, level,
      isRelative.trim_behindDots_eq_iff]
    simp [isTight]
  · refine iff_of_false (fun same => ?_) fun isTight => loose isTight.1
    -- The dot that is left makes the text longer than the name by its tokens.
    have trimmed := trim_append isRelative.isTrimmed_behindDots front []
    have bound := isRelative.length_token_le
    have text := same.1
    rw [Source.leadingDots, Source.gapsIn, isRest] at text
    rw [List.append_nil, text] at trimmed
    rw [trimmed, String.toList_ofList, List.length_append, List.length_append,
      List.length_cons] at bound
    omega

end IsRelative

/-! ## Statements -/

/-- The name of an item that is imported. -/
def nameOf (item : Node) : Node :=
  if item.kind = "aliased_import" then (item.child? "name").getD item else item

/-- The alias of an item that is imported, if it has one. -/
def aliasOf? (item : Node) : Option Node :=
  if item.kind = "aliased_import" then item.child? "alias" else none

/-- An item that is imported in a source: a dotted name, or one with an alias. -/
structure IsItem (source : Source) (item : Node) : Prop where
  kind : item.kind = "dotted_name" ∨
    item.kind = "aliased_import" ∧ (item.child? "name").isSome = true
  isName : IsDottedName source (nameOf item)
  isAlias : ∀ word ∈ aliasOf? item, IsWord source word

/-- An import statement in a source. -/
structure IsImportStatement (source : Source) (statement : Node) : Prop where
  kind : statement.kind ∈
    ["import_statement", "import_from_statement", "future_import_statement"]
  areItems : ∀ item ∈ statement.childrenIn "name", IsItem source item
  isOrigin : statement.kind = "import_from_statement" →
    ∃ origin, statement.child? "module_name" = some origin ∧
      (IsRelative source origin ∨ IsDottedName source origin)

/-- How the names in a statement and its module are read. -/
structure Reading where
  name : Node → String
  origin : Node → String × Option UInt32

namespace Source

variable (source : Source)

/-- Names and modules as they are written. -/
def asWritten : Reading := ⟨source.spelledName, source.spelledModule⟩

/-- Names and modules by their tokens. -/
def byTokens : Reading := ⟨source.tokenName, source.tokenModule⟩

end Source

variable {reading : Reading} {statement item : Node}

/-- An item with its name as it is read. -/
def itemRead (source : Source) (reading : Reading) (item : Node) : ImportedName where
  name := reading.name (nameOf item)
  alias? := (aliasOf? item).map source.textOf

/-- The items of a statement with their names as they are read. -/
def itemsRead (source : Source) (reading : Reading) (statement : Node) : List ImportedName :=
  (statement.childrenIn "name").map (itemRead source reading)

/-- The star of a statement that imports all names. -/
def starOf (statement : Node) : List ImportedName :=
  if statement.namedChildren.any (·.kind == "wildcard_import") then [{ name := "*" }] else []

/-- The fact about an item of a statement that imports modules. -/
def moduleRead (statement : Node) (item : ImportedName) : Import where
  moduleName := item.name
  items := [item]
  line := Span.lineOf statement.info.start

/-- The fact about a statement that imports names of a module. -/
def originRead (source : Source) (reading : Reading) (statement origin : Node) : Import where
  moduleName := (reading.origin origin).1
  items := itemsRead source reading statement ++ starOf statement
  isFromStyle := true
  relativeLevel := (reading.origin origin).2
  line := Span.lineOf statement.info.start

/-- The facts about a statement with names and a module as they are read. -/
def importsRead (source : Source) (reading : Reading) (statement : Node) : List Import :=
  match statement.kind with
  | "import_statement" =>
      (itemsRead source reading statement).map (moduleRead statement)
  | "import_from_statement" =>
      (statement.child? "module_name").toList.map (originRead source reading statement)
  | "future_import_statement" =>
      [{ moduleName := "__future__", items := itemsRead source reading statement,
         isFromStyle := true, line := Span.lineOf statement.info.start }]
  | _ => []

/-- Nothing stands between the tokens of the names and of the module of a statement. -/
def IsTightStatement (source : Source) (statement : Node) : Prop :=
  (∀ item ∈ statement.childrenIn "name", IsTight source (nameOf item)) ∧
    (statement.kind = "import_from_statement" →
      ∀ origin ∈ statement.child? "module_name", IsTightModule source origin)

namespace IsItem

/-- An item is read as it is written. -/
theorem importedName?_eq
    (isItem : IsItem source item) :
    importedName? source item = some (itemRead source source.asWritten item) := by
  have isName := isItem.isName
  have isAlias := isItem.isAlias
  rcases isItem.kind with isPlain | ⟨isAliased, hasName⟩
  · have noAlias : ¬ item.kind = "aliased_import" := by
      rw [isPlain]
      decide
    rw [nameOf, if_neg noAlias] at isName
    rw [itemRead, nameOf, aliasOf?, if_neg noAlias, if_neg noAlias, importedName?, isPlain]
    simp [Source.asWritten, isName.trimmedTextOf_eq]
  · obtain ⟨name, named⟩ := Option.isSome_iff_exists.mp hasName
    rw [nameOf, if_pos isAliased, named, Option.getD_some] at isName
    rw [aliasOf?, if_pos isAliased] at isAlias
    have alias_ : (item.child? "alias").map source.trimmedTextOf =
        (item.child? "alias").map source.textOf := by
      exact Option.map_congr fun word isWord =>
        source.trimmedTextOf_of_isTrimmed (isAlias word isWord).isTrimmed
    rw [itemRead, nameOf, aliasOf?, if_pos isAliased, if_pos isAliased, importedName?, isAliased]
    simp only [named, Option.map_some, Option.getD_some, alias_, Source.asWritten]
    rw [isName.trimmedTextOf_eq]

/-- An item is written as its tokens exactly if nothing stands between those of its name. -/
theorem itemRead_eq_iff
    (isItem : IsItem source item) :
    itemRead source source.asWritten item = itemRead source source.byTokens item ↔
      IsTight source (nameOf item) := by
  rw [← isItem.isName.spelledName_eq_iff, itemRead, itemRead, ImportedName.mk.injEq]
  exact and_iff_left rfl

end IsItem

namespace IsImportStatement

theorem importedNames_eq
    (isStatement : IsImportStatement source statement) :
    importedNames source statement = itemsRead source source.asWritten statement := by
  rw [importedNames, itemsRead, ← List.filterMap_eq_map]
  exact List.filterMap_congr fun item member => (isStatement.areItems item member).importedName?_eq

theorem itemsRead_eq_iff
    (isStatement : IsImportStatement source statement) :
    itemsRead source source.asWritten statement = itemsRead source source.byTokens statement ↔
      ∀ item ∈ statement.childrenIn "name", IsTight source (nameOf item) := by
  rw [itemsRead, itemsRead, List.map_inj_left]
  exact forall₂_congr fun item member => (isStatement.areItems item member).itemRead_eq_iff

end IsImportStatement

theorem importedModule_of_origin
    {origin : Node}
    (isOrigin : IsRelative source origin ∨ IsDottedName source origin) :
    importedModule source origin = source.spelledModule origin := by
  rcases isOrigin with isRelative | isName
  · exact isRelative.importedModule_eq
  · rw [importedModule, Source.spelledModule, if_neg isName.absolute, if_neg isName.absolute,
      isName.trimmedTextOf_eq]

theorem spelledModule_of_origin
    {origin : Node}
    (isOrigin : IsRelative source origin ∨ IsDottedName source origin) :
    source.spelledModule origin = source.tokenModule origin ↔ IsTightModule source origin := by
  rcases isOrigin with isRelative | isName
  · exact isRelative.spelledModule_eq_iff
  · rw [Source.spelledModule, Source.tokenModule, IsTightModule, if_neg isName.absolute,
      if_neg isName.absolute, if_neg isName.absolute, ← isName.spelledName_eq_iff, Prod.mk.injEq]
    exact and_iff_left rfl

/-- What a fact about imports tells besides the names. -/
def outlineOf (entry : Import) : Bool × UInt32 × Bool × List (Option String) :=
  (entry.isFromStyle, entry.line, entry.relativeLevel.isSome, entry.items.map (·.alias?))

/-- The names of the modules that a statement names. -/
def moduleNames (statement : Node) : List Node :=
  if statement.kind = "import_statement" then (statement.childrenIn "name").map nameOf
  else if statement.kind = "import_from_statement" then (statement.child? "module_name").toList
  else []

/-- How the facts about an import statement depend on its tokens and on what stands between them. -/
structure ReadsTokens (source : Source) (statement : Node) : Prop where
  /-- Names and modules are read as they are written. -/
  written : imports source statement = importsRead source source.asWritten statement
  /-- They are those of the tokens exactly if nothing stands between these. -/
  exact_iff : imports source statement = importsRead source source.byTokens statement ↔
    IsTightStatement source statement
  /-- In any case there are as many facts, with as many items and their aliases. -/
  outlined : (imports source statement).map outlineOf =
    (importsRead source source.byTokens statement).map outlineOf
  /-- The roots of modules that are not relative are the first words of their names exactly if
  nothing stands between these and a dot. -/
  roots_iff : statement.kind ≠ "future_import_statement" →
    (∀ name ∈ moduleNames statement, name.kind ≠ "relative_import") →
      ((imports source statement).map (·.rootModule) =
          (moduleNames statement).map source.firstWord ↔
        ∀ name ∈ moduleNames statement, ∀ gap ∈ (source.gapsIn name)[1]?, gap = [])

theorem importsRead_plain
    (isPlain : statement.kind = "import_statement") :
    importsRead source reading statement =
      (itemsRead source reading statement).map (moduleRead statement) := by
  rw [importsRead, isPlain]
  rfl

theorem importsRead_from
    (isFrom : statement.kind = "import_from_statement")
    {origin : Node}
    (isOrigin : statement.child? "module_name" = some origin) :
    importsRead source reading statement = [originRead source reading statement origin] := by
  rw [importsRead, isFrom, isOrigin]
  rfl

theorem importsRead_future
    (isFuture : statement.kind = "future_import_statement") :
    importsRead source reading statement =
      [{ moduleName := "__future__", items := itemsRead source reading statement,
         isFromStyle := true, line := Span.lineOf statement.info.start }] := by
  rw [importsRead, isFuture]
  rfl

theorem isSome_level
    (source : Source)
    (origin : Node) :
    (source.spelledModule origin).2.isSome = (source.tokenModule origin).2.isSome := by
  rw [Source.spelledModule, Source.tokenModule]
  split <;> rfl

theorem aliases_itemsRead
    (source : Source)
    (reading : Reading)
    (statement : Node) :
    (itemsRead source reading statement).map (·.alias?) =
      (statement.childrenIn "name").map fun item => (aliasOf? item).map source.textOf := by
  rw [itemsRead, List.map_map]
  rfl

theorem outlineOf_originRead
    (source : Source)
    (reading : Reading)
    (statement origin : Node) :
    outlineOf (originRead source reading statement origin) =
      (true, Span.lineOf statement.info.start, (reading.origin origin).2.isSome,
        ((statement.childrenIn "name").map fun item => (aliasOf? item).map source.textOf) ++
          (starOf statement).map (·.alias?)) := by
  rw [← aliases_itemsRead source reading, ← List.map_append]
  rfl

/-- The fact about names of a module is that of the tokens if the names and the module are. -/
theorem originRead_eq_iff
    {origin : Node} :
    originRead source source.asWritten statement origin =
        originRead source source.byTokens statement origin ↔
      itemsRead source source.asWritten statement = itemsRead source source.byTokens statement ∧
        source.spelledModule origin = source.tokenModule origin := by
  rw [originRead, originRead, Import.mk.injEq, Prod.ext_iff, List.append_cancel_right_eq]
  constructor
  · rintro ⟨name, items, _, level, _⟩
    exact ⟨items, name, level⟩
  · rintro ⟨items, name, level⟩
    exact ⟨name, items, rfl, level, rfl⟩

namespace IsImportStatement

/-- Names and modules are read as they are written. -/
theorem imports_eq
    (isStatement : IsImportStatement source statement) :
    imports source statement = importsRead source source.asWritten statement := by
  have kind := isStatement.kind
  simp only [List.mem_cons, List.not_mem_nil, or_false] at kind
  rcases kind with isPlain | isFrom | isFuture
  · rw [imports, importsRead_plain isPlain, isStatement.importedNames_eq, isPlain]
    rfl
  · obtain ⟨origin, hasOrigin, isOrigin⟩ := isStatement.isOrigin isFrom
    have found : importFrom? source statement =
        some (originRead source source.asWritten statement origin) := by
      rw [importFrom?, hasOrigin, isStatement.importedNames_eq]
      simp only [Option.bind_eq_bind, Option.bind_some, importedModule_of_origin isOrigin]
      rfl
    rw [imports, importsRead_from isFrom hasOrigin, isFrom, found]
    rfl
  · rw [imports, importsRead_future isFuture, isStatement.importedNames_eq, isFuture]
    rfl

theorem readsTokens_plain
    (isStatement : IsImportStatement source statement)
    (isPlain : statement.kind = "import_statement") :
    ReadsTokens source statement := by
  have noFrom : ¬ statement.kind = "import_from_statement" := by
    rw [isPlain]
    decide
  have injective : ∀ first second : ImportedName,
      moduleRead statement first = moduleRead statement second → first = second := by
    intro first second same
    exact List.singleton_inj.mp (congrArg Import.items same)
  refine ⟨isStatement.imports_eq, ?_, ?_, fun _ _ => ?_⟩
  · rw [isStatement.imports_eq, importsRead_plain isPlain, importsRead_plain isPlain,
      List.map_inj_right injective, isStatement.itemsRead_eq_iff]
    exact (and_iff_left fun isFrom => absurd isFrom noFrom).symm
  · rw [isStatement.imports_eq, importsRead_plain isPlain, importsRead_plain isPlain, itemsRead,
      itemsRead, List.map_map, List.map_map, List.map_map, List.map_map]
    rfl
  · rw [isStatement.imports_eq, importsRead_plain isPlain, itemsRead, List.map_map, List.map_map,
      moduleNames, if_pos isPlain, List.map_map, List.map_inj_left, List.forall_mem_map]
    exact forall₂_congr fun item member =>
      (isStatement.areItems item member).isName.before_spelledName_eq_iff

theorem readsTokens_from
    (isStatement : IsImportStatement source statement)
    (isFrom : statement.kind = "import_from_statement") :
    ReadsTokens source statement := by
  obtain ⟨origin, hasOrigin, isOrigin⟩ := isStatement.isOrigin isFrom
  have noPlain : ¬ statement.kind = "import_statement" := by
    rw [isFrom]
    decide
  refine ⟨isStatement.imports_eq, ?_, ?_, fun _ absolute => ?_⟩
  · rw [isStatement.imports_eq, importsRead_from isFrom hasOrigin,
      importsRead_from isFrom hasOrigin, List.singleton_inj, originRead_eq_iff,
      isStatement.itemsRead_eq_iff, IsTightStatement, hasOrigin]
    exact and_congr_right fun _ => (spelledModule_of_origin isOrigin).trans (by simp [isFrom])
  · rw [isStatement.imports_eq, importsRead_from isFrom hasOrigin,
      importsRead_from isFrom hasOrigin, List.map_singleton, List.map_singleton,
      outlineOf_originRead, outlineOf_originRead]
    have sameLevel : (source.asWritten.origin origin).2.isSome =
        (source.byTokens.origin origin).2.isSome := isSome_level source origin
    rw [sameLevel]
  · rw [moduleNames, if_neg noPlain, if_pos isFrom, hasOrigin] at absolute ⊢
    rw [isStatement.imports_eq, importsRead_from isFrom hasOrigin, Option.toList_some,
      List.map_singleton, List.map_singleton, List.singleton_inj]
    have noDots : origin.kind ≠ "relative_import" := absolute origin List.mem_cons_self
    have isName := isOrigin.resolve_left fun isRelative => noDots isRelative.kind
    have written : (source.asWritten.origin origin).1 = source.spelledName origin :=
      congrArg Prod.fst (if_neg noDots)
    rw [Import.rootModule, originRead]
    dsimp only
    rw [written, isName.before_spelledName_eq_iff]
    simp

theorem readsTokens_future
    (isStatement : IsImportStatement source statement)
    (isFuture : statement.kind = "future_import_statement") :
    ReadsTokens source statement := by
  have noFrom : ¬ statement.kind = "import_from_statement" := by
    rw [isFuture]
    decide
  refine ⟨isStatement.imports_eq, ?_, ?_, fun noFuture => absurd isFuture noFuture⟩
  · rw [isStatement.imports_eq, importsRead_future isFuture, importsRead_future isFuture,
      List.singleton_inj, Import.mk.injEq, IsTightStatement, ← isStatement.itemsRead_eq_iff]
    simp [noFrom]
  · rw [isStatement.imports_eq, importsRead_future isFuture, importsRead_future isFuture]
    simp only [List.map_cons, List.map_nil, outlineOf, aliases_itemsRead]

end IsImportStatement

/-- Import statements are read in this way. -/
theorem readsTokens
    (isStatement : IsImportStatement source statement) :
    ReadsTokens source statement := by
  have kind := isStatement.kind
  simp only [List.mem_cons, List.not_mem_nil, or_false] at kind
  rcases kind with isPlain | isFrom | isFuture
  · exact isStatement.readsTokens_plain isPlain
  · exact isStatement.readsTokens_from isFrom
  · exact isStatement.readsTokens_future isFuture

/-- An import statement with blanks between its tokens. -/
def looseText : String := "from . . os . path import x as y\n"

/-- A dot at a place. -/
def dotAt (place : Nat) : Node :=
  .mk { kind := ".", isNamed := false, start := { chars := place }, stop := { chars := place + 1 } }
    []

/-- A word between two places. -/
def wordAt (field? : Option String) (start stop : Nat) : Node :=
  .mk { kind := "identifier", field?, start := { chars := start }, stop := { chars := stop } } []

/-- The name of the module of the statement. -/
def looseName : Node :=
  .mk { kind := "dotted_name", start := { chars := 9 }, stop := { chars := 18 } }
    [wordAt none 9 11, dotAt 12, wordAt none 14 18]

/-- The module of the statement. -/
def looseOrigin : Node :=
  .mk { kind := "relative_import", field? := some "module_name",
        start := { chars := 5 }, stop := { chars := 18 } }
    [.mk { kind := "import_prefix", start := { chars := 5 }, stop := { chars := 8 } }
      [dotAt 5, dotAt 7],
     looseName]

/-- The item of the statement. -/
def looseItem : Node :=
  .mk { kind := "aliased_import", field? := some "name" }
    [.mk { kind := "dotted_name", field? := some "name",
           start := { chars := 26 }, stop := { chars := 27 } } [wordAt none 26 27],
     .mk { kind := "as", isNamed := false } [],
     wordAt (some "alias") 31 32]

/-- The statement. -/
def looseStatement : Node :=
  .mk { kind := "import_from_statement" }
    [.mk { kind := "from", isNamed := false } [],
     looseOrigin,
     .mk { kind := "import", isNamed := false } [],
     looseItem]

theorem isDottedName_looseName : IsDottedName (Source.ofString looseText) looseName where
  kind := rfl
  isSpelled :=
    { begins := by decide +kernel
      follow := .cons (by decide) (by decide) (.cons (by decide) (by decide)
        (.cons (by decide) (by decide) (.nil 18)))
      layout := by decide +kernel }
  areDotted := .more (by constructor <;> decide +kernel) (by constructor <;> decide +kernel)
    (.last (by constructor <;> decide +kernel))

theorem isRelative_looseOrigin : IsRelative (Source.ofString looseText) looseOrigin where
  kind := rfl
  isSpelled :=
    { begins := by decide +kernel
      follow := .cons (by decide) (by decide) (.cons (by decide) (by decide) (.nil 18))
      layout := by decide +kernel }
  shape := rfl
  prefixSpelled :=
    { begins := by decide +kernel
      follow := .cons (by decide) (by decide) (.cons (by decide) (by decide) (.nil 8))
      layout := by decide +kernel }
  areDots := by
    have dots : parts (prefixOf looseOrigin) = [dotAt 5, dotAt 7] := rfl
    rw [dots]
    simp only [List.forall_mem_cons]
    refine ⟨?_, ?_, fun _ none => absurd none List.not_mem_nil⟩
    · constructor <;> decide +kernel
    · constructor <;> decide +kernel
  someDot := List.cons_ne_nil _ _
  isName := by
    intro name isBehind
    obtain rfl : looseName = name := Option.some.inj isBehind
    exact isDottedName_looseName

theorem isItem_looseItem : IsItem (Source.ofString looseText) looseItem where
  kind := .inr ⟨rfl, rfl⟩
  isName :=
    { kind := rfl
      isSpelled :=
        { begins := by decide +kernel
          follow := .cons (by decide) (by decide) (.nil 27)
          layout := by decide +kernel }
      areDotted := .last (by constructor <;> decide +kernel) }
  isAlias := by
    intro word isAlias
    obtain rfl : wordAt (some "alias") 31 32 = word := Option.some.inj isAlias
    constructor <;> decide +kernel

theorem isImportStatement_looseStatement :
    IsImportStatement (Source.ofString looseText) looseStatement where
  kind := by decide
  areItems := by
    intro item isItem
    obtain rfl : item = looseItem := List.mem_singleton.mp isItem
    exact isItem_looseItem
  isOrigin := fun _ => ⟨looseOrigin, rfl, .inl isRelative_looseOrigin⟩

/-- A statement with blanks between its tokens is read in this way. -/
theorem readsTokens_looseStatement :
    IsImportStatement (Source.ofString looseText) looseStatement ∧
      ReadsTokens (Source.ofString looseText) looseStatement :=
  ⟨isImportStatement_looseStatement, readsTokens isImportStatement_looseStatement⟩

/-- Of two dots before a name one is counted, and the other becomes a part of the name, which keeps
the blanks. -/
theorem exists_layout_imported :
    imports (Source.ofString looseText) looseStatement =
        [{ moduleName := ". os . path", items := [{ name := "x", alias? := some "y" }],
           isFromStyle := true, relativeLevel := some 1 }] ∧
      importsRead (Source.ofString looseText) (Source.ofString looseText).byTokens looseStatement =
        [{ moduleName := "os.path", items := [{ name := "x", alias? := some "y" }],
           isFromStyle := true, relativeLevel := some 2 }] ∧
      ¬ ∀ (source : Source) (statement : Node), IsImportStatement source statement →
        imports source statement = importsRead source source.byTokens statement := by
  refine ⟨by decide +kernel, by decide +kernel, fun exactly => ?_⟩
  have same := exactly _ _ isImportStatement_looseStatement
  revert same
  decide +kernel

end SourceFacts.Extraction
