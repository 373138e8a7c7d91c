import Mathlib.Data.List.DropRight
import Mathlib.Data.List.TakeWhile
import SourceFacts.Extraction.Wording

namespace SourceFacts.Extraction

open Syntax Text List

/-!
# What stands between nodes

The text of a node is that of its parts, with blanks, comments and continued lines between them.
Who takes it apart by its characters finds these too. Trimming removes blanks at its ends, and
nothing else.
-/

/-! ## Blanks at the ends -/

/-- Characters of which one is no blank. -/
def SomeWritten (chars : List Char) : Prop := ∃ c ∈ chars, isBlank c = false

/-- Characters of which the first is no blank. -/
def BeginsWritten (chars : List Char) : Prop := ∃ c ∈ chars.head?, isBlank c = false

/-- Characters of which the last is no blank. -/
def EndsWritten (chars : List Char) : Prop := ∃ c ∈ chars.getLast?, isBlank c = false

/-- Characters with no blanks at their ends. -/
structure IsTrimmed (chars : List Char) : Prop where
  begins : BeginsWritten chars
  ends : EndsWritten chars

-- Without these, characters would be sought among all there are.
instance (chars : List Char) : Decidable (SomeWritten chars) :=
  decidable_of_iff (chars.any (!isBlank ·) = true) (by simp [SomeWritten])

instance (chars : List Char) : Decidable (BeginsWritten chars) :=
  decidable_of_iff (chars.head?.any (!isBlank ·) = true) (by simp [BeginsWritten, Option.any_eq_true])

instance (chars : List Char) : Decidable (EndsWritten chars) :=
  decidable_of_iff (chars.getLast?.any (!isBlank ·) = true) (by simp [EndsWritten, Option.any_eq_true])

instance (chars : List Char) : Decidable (IsTrimmed chars) :=
  decidable_of_iff (BeginsWritten chars ∧ EndsWritten chars)
    ⟨fun ⟨begins, ends⟩ => ⟨begins, ends⟩, fun ⟨begins, ends⟩ => ⟨begins, ends⟩⟩

theorem BeginsWritten.append
    {chars : List Char}
    (begins : BeginsWritten chars)
    (right : List Char) :
    BeginsWritten (chars ++ right) := by
  obtain ⟨c, isFirst, noBlank⟩ := begins
  obtain ⟨rest, rfl⟩ := List.head?_eq_some_iff.mp isFirst
  exact ⟨c, rfl, noBlank⟩

theorem EndsWritten.append
    {chars : List Char}
    (ends : EndsWritten chars)
    (left : List Char) :
    EndsWritten (left ++ chars) := by
  obtain ⟨c, isLast, noBlank⟩ := ends
  obtain ⟨before, rfl⟩ := List.getLast?_eq_some_iff.mp isLast
  refine ⟨c, ?_, noBlank⟩
  rw [← List.append_assoc, List.getLast?_concat]
  rfl

/-- What begins with a character and ends with a word has no blanks at its ends. -/
theorem IsTrimmed.after
    {word : List Char}
    (isTrimmed : IsTrimmed word)
    {first : Char}
    (noBlank : isBlank first = false)
    (left : List Char) :
    IsTrimmed (first :: (left ++ word)) where
  begins := ⟨first, rfl, noBlank⟩
  ends := isTrimmed.ends.append (first :: left)

theorem dropBlanks_eq_nil_iff
    {chars : List Char} :
    dropBlanks chars = [] ↔ ∀ c ∈ chars, isBlank c = true :=
  List.dropWhile_eq_nil_iff

theorem dropBlanksEnd_eq_nil_iff
    {chars : List Char} :
    dropBlanksEnd chars = [] ↔ ∀ c ∈ chars, isBlank c = true :=
  List.rdropWhile_eq_nil_iff

theorem dropBlanksEnd_dropBlanksEnd (chars : List Char) :
    dropBlanksEnd (dropBlanksEnd chars) = dropBlanksEnd chars :=
  List.rdropWhile_idempotent isBlank chars

/-- Blanks in front of a character that is none are removed, and no others. -/
theorem dropBlanks_append
    {chars : List Char}
    (begins : BeginsWritten chars)
    (left : List Char) :
    dropBlanks (left ++ chars) = dropBlanks left ++ chars := by
  obtain ⟨c, isFirst, noBlank⟩ := begins
  obtain ⟨rest, rfl⟩ := List.head?_eq_some_iff.mp isFirst
  induction left with
  | nil =>
      exact List.dropWhile_cons_of_neg (by simp [noBlank])
  | cons first more inductionHypothesis =>
      rw [List.cons_append, dropBlanks, dropBlanks, List.dropWhile_cons, List.dropWhile_cons]
      split
      next =>
        exact inductionHypothesis
      next =>
        rfl

/-- So are those behind it. -/
theorem dropBlanksEnd_append
    {chars : List Char}
    (ends : EndsWritten chars)
    (right : List Char) :
    dropBlanksEnd (chars ++ right) = chars ++ dropBlanksEnd right := by
  have begins : BeginsWritten chars.reverse := by
    rw [BeginsWritten, List.head?_reverse]
    exact ends
  have removed := dropBlanks_append begins right.reverse
  rw [dropBlanks, dropBlanks] at removed
  rw [dropBlanksEnd, List.reverse_append, removed, List.reverse_append, List.reverse_reverse]
  rfl

/-- Trimming removes blanks on both sides of a word. -/
theorem trim_append
    {word : List Char}
    (isTrimmed : IsTrimmed word)
    (left right : List Char) :
    trim (String.ofList (left ++ word ++ right)) =
      String.ofList (dropBlanks left ++ word ++ dropBlanksEnd right) := by
  rw [trim, String.toList_ofList, List.append_assoc,
    dropBlanks_append (isTrimmed.begins.append right), ← List.append_assoc,
    dropBlanksEnd_append (isTrimmed.ends.append (dropBlanks left))]

/-- A word without blanks around it stays as it is. -/
theorem trim_of_isTrimmed
    {word : List Char}
    (isTrimmed : IsTrimmed word) :
    trim (String.ofList word) = String.ofList word := by
  simpa [dropBlanks, dropBlanksEnd] using trim_append isTrimmed [] []

/-- A word without a mark is no shorter for what is cut at this mark. -/
theorem takeWhile_ne_append
    {mark : Char}
    {word : List Char}
    (noMark : mark ∉ word)
    (rest : List Char) :
    (word ++ rest).takeWhile (· ≠ mark) = word ++ rest.takeWhile (· ≠ mark) :=
  List.takeWhile_append_of_pos fun _ member =>
    decide_eq_true fun isMark => noMark (isMark ▸ member)

/-! ## Layout -/

/-- The characters that begin a comment or a continued line, and those that take no room. -/
def layoutMarks : List Char := ['#', '\\', '\u200B', '\u2060', '\uFEFF']

/-- What may stand between two tokens: what is not blank in it begins with a mark. -/
def IsLayout (chars : List Char) : Prop := ∀ c ∈ (dropBlanks chars).head?, c ∈ layoutMarks

instance (chars : List Char) : Decidable (IsLayout chars) :=
  decidable_of_iff ((dropBlanks chars).head?.all (· ∈ layoutMarks) = true) (by simp [IsLayout, Option.all_eq_true])

/-- What stands between tokens begins with a blank or with a mark. -/
theorem IsLayout.of_head?
    {chars : List Char}
    (isLayout : IsLayout chars)
    {c : Char}
    (isFirst : c ∈ chars.head?) :
    isBlank c = true ∨ c ∈ layoutMarks := by
  obtain ⟨rest, rfl⟩ := List.head?_eq_some_iff.mp isFirst
  cases blank : isBlank c with
  | true =>
      exact .inl rfl
  | false =>
      refine .inr (isLayout c ?_)
      rw [dropBlanks, List.dropWhile_cons_of_neg (by simp [blank])]
      rfl

/-- What stands between tokens has only blanks, or a mark behind its first blanks. -/
theorem IsLayout.eq_append
    {chars : List Char}
    (isLayout : IsLayout chars)
    (someWritten : ¬ ∀ c ∈ chars, isBlank c = true) :
    ∃ blanks mark rest, chars = blanks ++ mark :: rest ∧
      dropBlanks chars = mark :: rest ∧ (∀ c ∈ blanks, isBlank c = true) ∧
        mark ∈ layoutMarks := by
  cases written : dropBlanks chars with
  | nil =>
      exact absurd (dropBlanks_eq_nil_iff.mp written) someWritten
  | cons mark rest =>
      refine ⟨chars.takeWhile isBlank, mark, rest, ?_, rfl, ?_, isLayout mark ?_⟩
      · rw [← written]
        exact (List.takeWhile_append_dropWhile).symm
      · exact fun c member => List.mem_takeWhile_imp member
      · rw [written]
        rfl

theorem isBlank_of_mem_layoutMarks
    {mark : Char}
    (isMark : mark ∈ layoutMarks) :
    isBlank mark = false := by
  have noneBlank : layoutMarks.all (!isBlank ·) = true := by decide
  simpa using List.all_eq_true.mp noneBlank mark isMark

/-! ## Places in a source -/

namespace Source

variable (source : Source)

/-- What a source says between two places. -/
def between (start stop : Nat) : List Char := (source.chars.extract start stop).toList

theorem toList_textOf (node : Node) :
    (source.textOf node).toList =
      source.between node.info.start.chars node.info.stop.chars :=
  String.toList_ofList

theorem textOf_eq (node : Node) :
    source.textOf node =
      String.ofList (source.between node.info.start.chars node.info.stop.chars) :=
  rfl

/-- Trimming leaves what a source says at a node if there are no blanks at its ends. -/
theorem trimmedTextOf_of_isTrimmed
    {node : Node}
    (isTrimmed : IsTrimmed (source.textOf node).toList) :
    source.trimmedTextOf node = source.textOf node := by
  rw [trimmedTextOf, ← String.ofList_toList (s := source.textOf node),
    trim_of_isTrimmed isTrimmed]

theorem between_self (place : Nat) : source.between place place = [] := by
  simp [between]

theorem between_append
    {start middle stop : Nat}
    (first : start ≤ middle)
    (second : middle ≤ stop) :
    source.between start middle ++ source.between middle stop = source.between start stop := by
  rw [between, between, ← Array.toList_append, Array.extract_append_extract,
    Nat.min_eq_left first, Nat.max_eq_right second]
  rfl

/-- What stands between two places stands between places around them. -/
theorem between_subset
    {first start stop last : Nat}
    (behind : first ≤ start)
    (inside : stop ≤ last) :
    source.between start stop ⊆ source.between first last := by
  intro c member
  rw [between, Array.mem_toList_iff, Array.mem_extract_iff_getElem] at member ⊢
  obtain ⟨index, bound, isThere⟩ := member
  refine ⟨start - first + index, by omega, ?_⟩
  rw [← isThere]
  congr 1
  omega

end Source

/-! ## Parts of nodes -/

/-- The parts of a node: its children but those that may stand anywhere. -/
def parts (node : Node) : List Node := node.children.filter (!·.isExtra)

/-- Nodes that follow each other from one place to another. -/
inductive Follow : Nat → List Node → Nat → Prop where
  | nil (place : Nat) : Follow place [] place
  | cons {place stop : Nat} {node : Node} {rest : List Node}
      (behind : place ≤ node.info.start.chars)
      (forward : node.info.start.chars ≤ node.info.stop.chars)
      (others : Follow node.info.stop.chars rest stop) :
      Follow place (node :: rest) stop

theorem Follow.le
    {start stop : Nat}
    {nodes : List Node}
    (follow : Follow start nodes stop) :
    start ≤ stop := by
  induction follow with
  | nil place =>
      exact Nat.le_refl place
  | cons behind forward _ inductionHypothesis =>
      exact Nat.le_trans behind (Nat.le_trans forward inductionHypothesis)

namespace Source

variable (source : Source)

/-- What a source says before each of some nodes, from the node before or from a place on. -/
def gaps : Nat → List Node → List (List Char)
  | _, [] => []
  | place, node :: rest =>
      source.between place node.info.start.chars :: gaps node.info.stop.chars rest

/-- What a source says at some nodes, with what stands before each. -/
def spelling : Nat → List Node → List Char
  | _, [] => []
  | place, node :: rest =>
      source.between place node.info.start.chars ++ (source.textOf node).toList ++
        spelling node.info.stop.chars rest

/-- What a source says at some nodes, without anything between them. -/
def wording (nodes : List Node) : List Char := nodes.flatMap fun node => (source.textOf node).toList

variable {source}

theorem between_eq_spelling
    {start stop : Nat}
    {nodes : List Node}
    (follow : Follow start nodes stop) :
    source.between start stop = source.spelling start nodes := by
  induction follow with
  | nil place =>
      exact source.between_self place
  | cons behind forward others inductionHypothesis =>
      rw [spelling, ← inductionHypothesis, toList_textOf, source.between_append behind forward,
        source.between_append (Nat.le_trans behind forward) others.le]

theorem length_gaps
    (source : Source)
    (place : Nat)
    (nodes : List Node) :
    (source.gaps place nodes).length = nodes.length := by
  induction nodes generalizing place with
  | nil =>
      rfl
  | cons node rest inductionHypothesis =>
      rw [gaps, List.length_cons, List.length_cons, inductionHypothesis]

theorem wording_sublist
    (source : Source)
    (place : Nat)
    (nodes : List Node) :
    source.wording nodes <+ source.spelling place nodes := by
  induction nodes generalizing place with
  | nil =>
      exact List.Sublist.refl []
  | cons node rest inductionHypothesis =>
      rw [wording, List.flatMap_cons, spelling]
      exact (List.sublist_append_right _ _).append (inductionHypothesis _)

theorem length_spelling
    (source : Source)
    (place : Nat)
    (nodes : List Node) :
    (source.spelling place nodes).length =
      (source.gaps place nodes).flatten.length + (source.wording nodes).length := by
  induction nodes generalizing place with
  | nil =>
      rfl
  | cons node rest inductionHypothesis =>
      rw [spelling, gaps, wording, List.flatMap_cons, ← wording, List.flatten_cons]
      simp only [List.length_append, inductionHypothesis]
      omega

/-- Nodes are spelled without anything between them exactly if nothing stands there. -/
theorem spelling_eq_wording_iff
    {place : Nat}
    {nodes : List Node} :
    source.spelling place nodes = source.wording nodes ↔
      ∀ gap ∈ source.gaps place nodes, gap = [] := by
  have length := length_spelling source place nodes
  rw [← List.flatten_eq_nil_iff]
  constructor
  · intro same
    rw [same] at length
    exact List.eq_nil_of_length_eq_zero (by omega)
  · intro nothing
    rw [nothing, List.length_nil, Nat.zero_add] at length
    exact ((wording_sublist source place nodes).eq_of_length length.symm).symm

end Source

end SourceFacts.Extraction
