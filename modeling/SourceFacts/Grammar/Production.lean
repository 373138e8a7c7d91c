import SourceFacts.Grammar.Extraction

namespace SourceFacts.Grammar

/-!
# Productions

Rules are brought into the form of productions: flat sequences of steps.
Repetitions become auxiliary nonterminals, choices become several productions, and
the annotations of a rule move to the steps they cover. The precedence of a
finished production is that of its last step.
-/

/-- One step of a production: a symbol with the annotations that cover it. -/
structure Step where
  symbol : Symbol
  precedence? : Option Int := none
  grouping? : Option Associativity := none
  alias? : Option Alias := none
  field? : Option String := none
deriving Repr, DecidableEq, Inhabited

/-- A sequence of steps that a nonterminal may consist of. -/
structure Production where
  steps : Array Step := #[]
  dynamicPrecedence : Int := 0
deriving Repr, DecidableEq, Inhabited

/-- The symbol of a step of a production. -/
def Production.symbol? (production : Production) (index : Nat) : Option Symbol :=
  (production.steps[index]?).map Step.symbol

/-- A grammar in production form. -/
structure PreparedGrammar where
  nonterminals : Array (Entry (Array Production))
  tokens : Array (Entry Lexeme)
  layout : Array LayoutToken
  extras : List Symbol
  conflicts : List (List Symbol)
  supertypes : List Symbol
  inlined : List Symbol
  word : Symbol
  /-- Aliases of symbols that appear under one other name only. -/
  defaultAliases : Array (Symbol × Alias) := #[]

namespace PreparedGrammar

/-! ## Repetitions -/

/-- The auxiliary nonterminals made so far, each for the content it repeats. -/
structure Repetitions where
  /-- Number of nonterminals before the auxiliary ones. -/
  offset : Nat
  made : Array (Entry (Rule Symbol)) := #[]
  repeated : Array (Rule Symbol) := #[]
  /-- Repetitions made for the current rule. -/
  inRule : Nat := 0

/--
Replace each repetition of a rule by an auxiliary nonterminal that is either the
repeated content or two repetitions in a row. Equal contents share a nonterminal.
-/
def expandRepetitions (name : String) :
    Rule Symbol → Repetitions → Rule Symbol × Repetitions
  | .blank, state => (.blank, state)
  | .token lexeme, state => (.token lexeme, state)
  | .symbol symbol, state => (.symbol symbol, state)
  | .seq first second, state =>
      let (first, state) := expandRepetitions name first state
      let (second, state) := expandRepetitions name second state
      (.seq first second, state)
  | .either left right, state =>
      let (left, state) := expandRepetitions name left state
      let (right, state) := expandRepetitions name right state
      (.either left right, state)
  | .oneOrMore body, state =>
      let (body, state) := expandRepetitions name body state
      match state.repeated.findIdx? (· == body) with
      | some i => (.symbol (.nonterminal (state.offset + i)), state)
      | none =>
          let symbol := Symbol.nonterminal (state.offset + state.made.size)
          let number := state.inRule + 1
          let rule := Rule.either (.seq (.symbol symbol) (.symbol symbol)) body
          (.symbol symbol, { state with
            made := state.made.push ⟨s!"{name}_repeat{number}", .auxiliary, rule⟩
            repeated := state.repeated.push body
            inRule := number })
  | .precedence level grouping? body, state =>
      let (body, state) := expandRepetitions name body state
      (.precedence level grouping? body, state)
  | .dynamic level body, state =>
      let (body, state) := expandRepetitions name body state
      (.dynamic level body, state)
  | .shownAs shown body, state =>
      let (body, state) := expandRepetitions name body state
      (.shownAs shown body, state)
  | .field field body, state =>
      let (body, state) := expandRepetitions name body state
      (.field field body, state)

/-! ## Choices and annotations -/

/-- The ways to resolve the choices of a rule, in order. -/
def alternatives : Rule Symbol → List (Rule Symbol)
  | .seq first second =>
      let seconds := alternatives second
      (alternatives first).flatMap fun a => seconds.map fun b => .seq a b
  | .either left right => alternatives left ++ alternatives right
  | .precedence level grouping? body =>
      (alternatives body).map (.precedence level grouping?)
  | .dynamic level body => (alternatives body).map (.dynamic level)
  | .shownAs shown body => (alternatives body).map (.shownAs shown)
  | .field name body => (alternatives body).map (.field name)
  | rule => [rule]

/-- The annotations that cover a place inside a rule. -/
structure Cover where
  precedence? : Option Int := none
  grouping? : Option Associativity := none
  alias? : Option Alias := none
  field? : Option String := none

/--
Append the steps of a choice-free rule to a production. A precedence that ends
before the rule does gives way, on its last step, to the one around it.
-/
def appendSteps : Rule Symbol → Cover → Bool → Production → Production
  | .blank, _, _, production => production
  | .token _, _, _, production => production
  | .oneOrMore _, _, _, production => production
  | .either _ _, _, _, production => production
  | .symbol symbol, cover, _, production =>
      { production with steps := production.steps.push {
          symbol
          precedence? := cover.precedence?
          grouping? := cover.grouping?
          alias? := cover.alias?
          field? := cover.field? } }
  | .seq first second, cover, atEnd, production =>
      appendSteps second cover atEnd (appendSteps first cover false production)
  | .precedence level grouping? body, cover, atEnd, production =>
      let before := production.steps.size
      let inner := { cover with
        precedence? := some level
        grouping? := grouping?.or cover.grouping? }
      let result := appendSteps body inner atEnd production
      if result.steps.size > before && !atEnd then
        { result with steps := result.steps.modify (result.steps.size - 1) fun step =>
            { step with
              precedence? := cover.precedence?
              grouping? := if grouping?.isSome then cover.grouping? else step.grouping? } }
      else
        result
  | .dynamic level body, cover, atEnd, production =>
      let production :=
        if level.natAbs > production.dynamicPrecedence.natAbs then
          { production with dynamicPrecedence := level }
        else
          production
      appendSteps body cover atEnd production
  | .shownAs shown body, cover, atEnd, production =>
      appendSteps body { cover with alias? := some shown } atEnd production
  | .field name body, cover, atEnd, production =>
      appendSteps body { cover with field? := some name } atEnd production

/-- The productions of a rule without repetitions, each listed once. -/
def productionsOf (rule : Rule Symbol) : Array Production :=
  (alternatives rule).foldl
    (fun found alternative =>
      let production := appendSteps alternative {} true {}
      if found.contains production then found else found.push production)
    #[]

/-! ## Default aliases -/

/-- How often a symbol appears under each alias. -/
structure AliasUse where
  aliases : Array (Alias × Nat) := #[]
  unaliased : Bool := false

/-- Count one more appearance under an alias. -/
def AliasUse.add (uses : AliasUse) (shown : Alias) : AliasUse :=
  match uses.aliases.findIdx? (fun entry => entry.1 == shown) with
  | some i => { uses with aliases := uses.aliases.modify i fun entry => (entry.1, entry.2 + 1) }
  | none => { uses with aliases := uses.aliases.push (shown, 1) }

/-- The alias used most often, the earliest one on ties. -/
def AliasUse.mostFrequent? (uses : AliasUse) : Option Alias :=
  let best := uses.aliases.foldl
    (fun best entry =>
      match best with
      | none => some entry
      | some chosen => if entry.2 > chosen.2 then some entry else best)
    none
  best.map (·.1)

/-- How a symbol is used in the productions of a grammar. -/
def aliasUse (grammar : PreparedGrammar) (symbol : Symbol) : AliasUse :=
  let start : AliasUse := { unaliased := grammar.extras.contains symbol }
  grammar.nonterminals.foldl
    (fun uses entry => entry.content.foldl
      (fun uses production => production.steps.foldl
        (fun uses step =>
          if step.symbol != symbol || grammar.inlined.contains symbol then uses
          else match step.alias? with
            | some shown => uses.add shown
            | none => { uses with unaliased := true })
        uses)
      uses)
    start

/-- All symbols of a grammar. -/
def symbols (grammar : PreparedGrammar) : List Symbol :=
  (List.range grammar.tokens.size).map .token ++
    (List.range grammar.nonterminals.size).map .nonterminal ++
    (List.range grammar.layout.size).map .layout

/-- The default alias of a symbol, if it has one. -/
def defaultAlias? (grammar : PreparedGrammar) (symbol : Symbol) : Option Alias :=
  (grammar.defaultAliases.find? (fun entry => entry.1 == symbol)).map (·.2)

/--
Give each symbol that never appears under its own name its most frequent alias
as its own, and drop that alias from the steps where it says nothing new. It
stays where another production of the same nonterminal needs it at that place.
-/
def withDefaultAliases (grammar : PreparedGrammar) : PreparedGrammar :=
  let defaults := (symbols grammar).filterMap fun symbol =>
    let uses := aliasUse grammar symbol
    if uses.unaliased then none
    else uses.mostFrequent?.map fun shown => (symbol, shown)
  let defaultOf (symbol : Symbol) : Option Alias :=
    (defaults.find? (fun entry => entry.1 == symbol)).map (·.2)
  let clear (entry : Entry (Array Production)) : Entry (Array Production) :=
    { entry with content := entry.content.mapIdx fun i production =>
        { production with steps := production.steps.mapIdx fun j step =>
            if step.alias?.isSome && step.alias? == defaultOf step.symbol then
              let neededElsewhere := (List.range entry.content.size).any fun other =>
                other != i &&
                  match (entry.content[other]?).bind (·.steps[j]?) with
                  | some otherStep =>
                      otherStep.alias? == step.alias? &&
                        defaultOf otherStep.symbol != step.alias?
                  | none => false
              if neededElsewhere then step else { step with alias? := none }
            else
              step } }
  { grammar with
    nonterminals := grammar.nonterminals.map clear
    defaultAliases := defaults.toArray }

/-! ## The production form of a grammar -/

/-- The production form of a grammar whose tokens have been separated. -/
def ofSeparated (separated : Separated) : PreparedGrammar := Id.run do
  let mut state : Repetitions := { offset := separated.nonterminals.size }
  let mut nonterminals : Array (Entry (Rule Symbol)) := #[]
  for entry in separated.nonterminals do
    let (rule, next) := expandRepetitions entry.name entry.content { state with inRule := 0 }
    state := next
    nonterminals := nonterminals.push { entry with content := rule }
  let all := nonterminals ++ state.made
  return withDefaultAliases {
    nonterminals := all.map fun entry => { entry with content := productionsOf entry.content }
    tokens := separated.tokens
    layout := separated.layout
    extras := separated.extras
    conflicts := separated.conflicts
    supertypes := separated.supertypes
    inlined := separated.inlined
    word := separated.word
  }

/-- The production form of a grammar. -/
def ofDefinition (definition : Definition) : PreparedGrammar :=
  ofSeparated (.ofDefinition definition)

/-- How a symbol shows in the tree, its default alias taken into account. -/
def visibility (grammar : PreparedGrammar) (symbol : Symbol) : Visibility :=
  match grammar.defaultAlias? symbol with
  | some shown => if shown.named then .named else .anonymous
  | none =>
      match symbol with
      | .layout i => ((grammar.layout[i]?).map (·.visibility)).getD .hidden
      | .finish => .hidden
      | .token i => ((grammar.tokens[i]?).map (·.visibility)).getD .hidden
      | .nonterminal i => ((grammar.nonterminals[i]?).map (·.visibility)).getD .hidden

/-- The name under which a symbol shows in the tree. -/
def name (grammar : PreparedGrammar) (symbol : Symbol) : String :=
  match grammar.defaultAlias? symbol with
  | some shown => shown.name
  | none =>
      match symbol with
      | .layout i => ((grammar.layout[i]?).map (·.name)).getD ""
      | .finish => "end"
      | .token i => ((grammar.tokens[i]?).map (·.name)).getD ""
      | .nonterminal i => ((grammar.nonterminals[i]?).map (·.name)).getD ""

end PreparedGrammar

end SourceFacts.Grammar
