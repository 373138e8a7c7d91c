import SourceFacts.Grammar.Symbol

namespace SourceFacts.Grammar

/-!
# Separating tokens from rules

The tokens that occur inside rules are collected into one list and replaced by
symbols. A rule that consists of one token used nowhere else becomes that token
itself and gives it its name.
-/

/-- A grammar whose tokens have been separated from its rules. -/
structure Separated where
  nonterminals : Array (Entry (Rule Symbol))
  tokens : Array (Entry Lexeme)
  layout : Array LayoutToken
  extras : List Symbol
  conflicts : List (List Symbol)
  supertypes : List Symbol
  inlined : List Symbol
  word : Symbol

namespace Separated

/-- The tokens met so far, with the number of places that use each. -/
structure Collected where
  tokens : Array (Entry Lexeme) := #[]
  uses : Array Nat := #[]
  /-- Nameless patterns met in the current rule. -/
  patternsInRule : Nat := 0

/-- The index of a token, adding it to the list if it is new. -/
def Collected.index (found : Collected) (rule : String) (lexeme : Lexeme) :
    Nat × Collected :=
  match found.tokens.findIdx? (fun token => token.content == lexeme) with
  | some i => (i, { found with uses := found.uses.modify i (· + 1) })
  | none =>
      let i := found.tokens.size
      match lexeme.text? with
      | some text =>
          (i, { found with
            tokens := found.tokens.push ⟨text, .anonymous, lexeme⟩
            uses := found.uses.push 1 })
      | none =>
          let number := found.patternsInRule + 1
          (i, { found with
            tokens := found.tokens.push ⟨s!"{rule}_token{number}", .auxiliary, lexeme⟩
            uses := found.uses.push 1
            patternsInRule := number })

/--
Replace the tokens of a rule by symbols. Names are resolved by `resolve`.
-/
def collect (resolve : String → Symbol) (name : String) :
    Rule String → Collected → Rule Symbol × Collected
  | .blank, found => (.blank, found)
  | .token lexeme, found =>
      let (i, found) := found.index name lexeme
      (.symbol (.token i), found)
  | .symbol other, found => (.symbol (resolve other), found)
  | .seq first second, found =>
      let (first, found) := collect resolve name first found
      let (second, found) := collect resolve name second found
      (.seq first second, found)
  | .either left right, found =>
      let (left, found) := collect resolve name left found
      let (right, found) := collect resolve name right found
      (.either left right, found)
  | .oneOrMore body, found =>
      let (body, found) := collect resolve name body found
      (.oneOrMore body, found)
  | .precedence level grouping? body, found =>
      let (body, found) := collect resolve name body found
      (.precedence level grouping? body, found)
  | .dynamic level body, found =>
      let (body, found) := collect resolve name body found
      (.dynamic level body, found)
  | .shownAs shown body, found =>
      let (body, found) := collect resolve name body found
      (.shownAs shown body, found)
  | .field field body, found =>
      let (body, found) := collect resolve name body found
      (.field field body, found)

/-- Rename the symbols of a rule. -/
def mapSymbols (f : Symbol → Symbol) : Rule Symbol → Rule Symbol
  | .blank => .blank
  | .token lexeme => .token lexeme
  | .symbol symbol => .symbol (f symbol)
  | .seq first second => .seq (mapSymbols f first) (mapSymbols f second)
  | .either left right => .either (mapSymbols f left) (mapSymbols f right)
  | .oneOrMore body => .oneOrMore (mapSymbols f body)
  | .precedence level grouping? body => .precedence level grouping? (mapSymbols f body)
  | .dynamic level body => .dynamic level (mapSymbols f body)
  | .shownAs shown body => .shownAs shown (mapSymbols f body)
  | .field name body => .field name (mapSymbols f body)

/-- The symbol of a name: a rule if there is one, else a layout token. -/
def resolveName (grammar : Definition) (name : String) : Symbol :=
  match grammar.rules.findIdx? (fun rule => rule.1 == name) with
  | some i => .nonterminal i
  | none =>
      match grammar.layoutTokens.findIdx? (· == .symbol name) with
      | some i => .layout i
      | none => .finish

/-- Separate the tokens of a grammar from its rules. -/
def ofDefinition (grammar : Definition) : Separated := Id.run do
  let resolve := resolveName grammar
  let mut found : Collected := {}
  let mut rules : Array (String × Rule Symbol) := #[]
  for (name, rule) in grammar.rules do
    let (rule, next) := collect resolve name rule { found with patternsInRule := 0 }
    found := next
    rules := rules.push (name, rule)
  let mut layoutRules : Array (Rule String × Rule Symbol) := #[]
  for token in grammar.layoutTokens do
    let (rule, next) := collect resolve "" token { found with patternsInRule := 0 }
    found := next
    layoutRules := layoutRules.push (token, rule)
  let mut tokens := found.tokens
  let mut renamed : Array Symbol := #[]
  let mut nonterminals : Array (Entry (Rule Symbol)) := #[]
  for (name, rule) in rules do
    match rule with
    | .symbol (.token i) =>
        if renamed.size > 0 && found.uses.getD i 0 == 1 then
          tokens := tokens.modify i fun token =>
            { token with name, visibility := .ofName name }
          renamed := renamed.push (.token i)
        else
          renamed := renamed.push (.nonterminal nonterminals.size)
          nonterminals := nonterminals.push ⟨name, .ofName name, rule⟩
    | _ =>
        renamed := renamed.push (.nonterminal nonterminals.size)
        nonterminals := nonterminals.push ⟨name, .ofName name, rule⟩
  let rename : Symbol → Symbol
    | .nonterminal i => renamed.getD i .finish
    | symbol => symbol
  let symbolOf (name : String) : Symbol := rename (resolve name)
  let supertypes := grammar.supertypes.map symbolOf
  let layout := layoutRules.map fun (written, rule) =>
    let name := match written with
      | .symbol name => name
      | _ => ""
    match mapSymbols rename rule with
    | .symbol (.token i) =>
        { name := ((tokens[i]?).map (·.name)).getD "", visibility := .ofName name, token? := some i }
    | _ => { name, visibility := .ofName name, token? := none }
  return {
    nonterminals := nonterminals.mapIdx fun i entry =>
      { entry with
        visibility := if supertypes.contains (.nonterminal i) then .hidden else entry.visibility
        content := mapSymbols rename entry.content }
    tokens, layout, supertypes
    extras := grammar.extras.map symbolOf
    conflicts := grammar.conflicts.map (·.map symbolOf)
    inlined := grammar.inlined.map symbolOf
    word := symbolOf grammar.word
  }

end Separated

end SourceFacts.Grammar
