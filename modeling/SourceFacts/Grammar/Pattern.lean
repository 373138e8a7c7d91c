import SourceFacts.Grammar.Alphabet

namespace SourceFacts.Grammar

/-!
# Lexical patterns

Regular expressions over letters, and lexemes: the tokens of a grammar, each
given by a pattern together with what decides between tokens that match the
same text.
-/

/-- A regular expression over letters. -/
inductive Pattern where
  /-- The empty text. -/
  | empty
  /-- One character whose letter is in the set. -/
  | letters (set : LetterSet)
  /-- A text of the first pattern followed by one of the second. -/
  | seq (first second : Pattern)
  /-- A text of either pattern. -/
  | either (left right : Pattern)
  /-- One or more texts of the pattern, one after the other. -/
  | oneOrMore (body : Pattern)
deriving Repr, DecidableEq

namespace Pattern

/-- The pattern that matches exactly the given text. -/
def literal (text : String) : Pattern :=
  text.toList.foldr
    (fun c rest => seq (letters (.single (Letter.ofChar c))) rest) empty

/-- One of the characters of the text. -/
def oneOf (text : String) : Pattern := letters (.ofText text)

/-- The pattern or nothing. -/
def optional (body : Pattern) : Pattern := either body empty

/-- Any number of texts of the pattern. -/
def many (body : Pattern) : Pattern := optional (oneOrMore body)

/-- All patterns of the list, one after the other. -/
def concat (parts : List Pattern) : Pattern := parts.foldr seq empty

/-- One of the patterns of a non-empty list. -/
def anyOf : List Pattern → Pattern
  | [] => letters .empty
  | [pattern] => pattern
  | pattern :: rest => either pattern (anyOf rest)

/-- The pattern repeated exactly `count` times. -/
def times (count : Nat) (body : Pattern) : Pattern :=
  concat (List.replicate count body)

end Pattern

/-- What a token looks like and how it competes with other tokens. -/
structure Lexeme where
  /-- The fixed text of the token, if it has one. -/
  text? : Option String := none
  pattern : Pattern
  /-- Tokens of higher precedence win over longer tokens. -/
  precedence : Int := 0
  /-- An immediate token may not be preceded by blanks. -/
  immediate : Bool := false
deriving Repr, DecidableEq

namespace Lexeme

/-- The token with a fixed text. -/
def literal (text : String) : Lexeme :=
  { text? := some text, pattern := .literal text }

/-- The token that matches a pattern. -/
def ofPattern (pattern : Pattern) : Lexeme := { pattern }

/--
How specific the token is: a fixed text beats a pattern, and an immediate token
beats one that may follow blanks.
-/
def specificity (lexeme : Lexeme) : Nat :=
  (if lexeme.text?.isSome then 2 else 0) + (if lexeme.immediate then 1 else 0)

end Lexeme

end SourceFacts.Grammar
