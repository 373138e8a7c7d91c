import SourceFacts.Grammar.Pattern

namespace SourceFacts.Grammar

/-!
# Grammar rules

A grammar is a list of named rules. A rule is built from tokens and symbols by
sequencing, choice and repetition, and its parts carry annotations: precedences
that settle conflicts, field names, and aliases under which a part appears in
the syntax tree.
-/

/-- A name under which a symbol appears in the tree. -/
structure Alias where
  name : String
  named : Bool := true
deriving Repr, DecidableEq, Hashable

/-- How a chain of equal precedence groups. -/
inductive Associativity where
  | left
  | right
deriving Repr, DecidableEq, Hashable

/-- A grammar rule over symbols of type `σ`. -/
inductive Rule (σ : Type) where
  /-- Nothing. -/
  | blank
  /-- A token. -/
  | token (lexeme : Lexeme)
  /-- Another rule, or a token by its symbol. -/
  | symbol (symbol : σ)
  /-- One rule followed by another. -/
  | seq (first second : Rule σ)
  /-- One of two rules. -/
  | either (left right : Rule σ)
  /-- One or more repetitions. -/
  | oneOrMore (body : Rule σ)
  /-- A static precedence, with the grouping of chains if it has one. -/
  | precedence (level : Int) (grouping? : Option Associativity) (body : Rule σ)
  /-- A precedence that decides between whole parses. -/
  | dynamic (level : Int) (body : Rule σ)
  /-- A part that appears in the tree under another name. -/
  | shownAs (shown : Alias) (body : Rule σ)
  /-- A part with a field name. -/
  | field (name : String) (body : Rule σ)
deriving Repr, DecidableEq

namespace Rule

variable {σ : Type}

/-- The rules of the list, one after the other. -/
def sequence : List (Rule σ) → Rule σ
  | [] => blank
  | [rule] => rule
  | rule :: rest => seq rule (sequence rest)

/-- One of the rules of the list. -/
def choice : List (Rule σ) → Rule σ
  | [] => blank
  | [rule] => rule
  | rule :: rest => either rule (choice rest)

/-- The rule or nothing. -/
def optional (body : Rule σ) : Rule σ := either body blank

/-- Any number of repetitions. -/
def many (body : Rule σ) : Rule σ := either (oneOrMore body) blank

/-- A static precedence without grouping. -/
def prec (level : Int) (body : Rule σ) : Rule σ := precedence level none body

/-- A static precedence for chains that group to the left. -/
def leftAssoc (level : Int) (body : Rule σ) : Rule σ :=
  precedence level (some .left) body

/-- A static precedence for chains that group to the right. -/
def rightAssoc (level : Int) (body : Rule σ) : Rule σ :=
  precedence level (some .right) body

end Rule

/-- A grammar: its rules, of which the first is the start, and its declarations. -/
structure Definition where
  rules : List (String × Rule String)
  /-- Tokens that may appear between any two tokens and are kept in the tree. -/
  extras : List String
  /-- What may stand between tokens without being kept. -/
  blanks : Pattern
  /-- Tokens recognised by the layout scanner, in its order. -/
  layoutTokens : List (Rule String)
  /-- Sets of rules that are allowed to conflict with each other. -/
  conflicts : List (List String)
  /-- Rules that only group alternatives and do not appear in the tree. -/
  supertypes : List String
  /-- Rules that are replaced by their definitions wherever they are used. -/
  inlined : List String
  /-- The token whose matches are checked against the keywords. -/
  word : String

end SourceFacts.Grammar
