import SourceFacts.Grammar.Minimization

namespace SourceFacts.Grammar

/-!
# Languages

A language is what a parser needs of a grammar: for each state the actions on
each terminal and the states after each nonterminal, and what the lexer should look
for. States that look for tokens which do not disturb each other share their
lexical mode. Symbols get their final numbers here: the end of the input comes
first, then the word token, the other tokens, the layout tokens and the
nonterminals. These numbers decide between parses that are equally good.
-/

/-- The number of a symbol in a language. -/
abbrev SymbolId := Nat

/-- What the lexer looks for. -/
structure LexMode where
  /-- Number of the lexical start, equal for modes that look for the same tokens. -/
  start : Nat
  /-- The layout tokens that the layout scanner may produce. -/
  layout : TokenSet
deriving Repr, DecidableEq, Inhabited

/-- Where the lexer starts. -/
structure LexStart where
  states : List Nat
  /-- Whether the end of the input is accepted. -/
  acceptsEnd : Bool
deriving Inhabited

/-- The actions on a terminal. -/
structure ActionEntry where
  actions : Array Action := #[]
  /-- Whether a token read in another state may be used in this one. -/
  isReusable : Bool := false
deriving Inhabited

/-- How a symbol shows in the tree. -/
structure SymbolInfo where
  name : String
  isVisible : Bool
  isNamed : Bool
deriving Repr, Inhabited

/-- The tables of a grammar. -/
structure Language where
  symbols : Array SymbolInfo
  terminalCount : Nat
  /-- The actions by state and terminal. -/
  actions : Array (Array ActionEntry)
  /-- The next state by state and nonterminal. -/
  successors : Array (Array (Option Nat))
  modes : Array LexMode
  starts : Array LexStart
  lexicon : Lexicon
  /-- Where the lexer starts to tell keywords. -/
  keywordStart : List Nat
  word : SymbolId
  /-- The symbol of each token of the lexicon. -/
  tokenSymbols : Array SymbolId
  /-- The symbol of each layout token. -/
  layoutSymbols : Array SymbolId
  shapes : Array Shape

/-! ## Lexical modes -/

/-- What decides whether two sets of tokens may share a lexical mode. -/
structure ModeRules where
  /-- For each token, those it may never be looked for together with. -/
  conflicts : Array TokenSet
  /-- For each token, those it may be looked for with only where both are possible. -/
  overlaps : Array TokenSet

namespace ModeRules

/-- The rules of a grammar. -/
def ofRelations (relations : TokenRelations) (vocabulary : Vocabulary)
    (coincidence : Coincidence) : ModeRules :=
  let tokens := List.range relations.count
  let code (token : Nat) : Nat := vocabulary.code (.token token)
  let collect (clash : Nat → Nat → Bool) : Array TokenSet :=
    tokens.foldl
      (fun (table : Array TokenSet) token =>
        table.set! (code token) (tokens.foldl
          (fun set other =>
            if clash token other then set ||| TokenSet.single (code other) else set)
          0))
      (Array.replicate vocabulary.terminalCount 0)
  { conflicts := collect fun token other =>
      relations.conflict token other || (relations.get token other).cutsShort
    overlaps := collect fun token other =>
      !(coincidence.together.getD (code token) 0).testBit (code other) &&
        (relations.overlap other token || relations.overlap token other) }

/-- Whether the tokens of two sets may be looked for together. -/
def compatible (rules : ModeRules) (left right : TokenSet) : Bool :=
  (List.range rules.conflicts.size).all fun token =>
    let clash := rules.conflicts.getD token 0 ||| rules.overlaps.getD token 0
    match left.testBit token, right.testBit token with
    | true, false => clash &&& right == 0
    | false, true => clash &&& left == 0
    | _, _ => true

/-- The number of the mode that looks for the given tokens, merged or new. -/
def assign (rules : ModeRules) (tokens : TokenSet) (modes : Array TokenSet) :
    Nat × Array TokenSet :=
  match modes.findIdx? (fun known => rules.compatible known tokens) with
  | some i => (i, modes.modify i (· ||| tokens))
  | none => (modes.size, modes.push tokens)

end ModeRules

namespace Language

/-- The final number of each symbol of a grammar, by its number in the vocabulary. -/
def symbolNumbers (vocabulary : Vocabulary) (word : Nat) : Array SymbolId × Array Nat :=
  let tokens := (List.range vocabulary.tokenCount).filter (· != word)
  let order : List Nat :=
    [vocabulary.code .finish, vocabulary.code (.token word)] ++
      tokens.map (fun i => vocabulary.code (.token i)) ++
      List.range vocabulary.layoutCount ++
      (List.range vocabulary.nonterminalCount).map (fun i => vocabulary.code (.nonterminal i))
  let numbers := (order.zip (List.range order.length)).foldl
    (fun (numbers : Array Nat) (code, n) => numbers.set! code n)
    (Array.replicate vocabulary.symbolCount 0)
  (numbers, order.toArray)

/-- Compute the tables of a grammar. -/
def ofDefinition (definition : Definition) : Language := Id.run do
  let grammar := PreparedGrammar.ofDefinition definition
  let items := ItemTable.ofGrammar grammar
  let vocabulary := items.vocabulary
  let terminals := vocabulary.terminalCount
  let word := match grammar.word with
    | .token i => i
    | _ => 0
  -- tokens
  let lexicon := Lexicon.ofTokens grammar.tokens definition.blanks
  let follow := TokenRelations.followingTokens vocabulary items.edges grammar
    (items.table.productions.map (·.production))
  let relations := TokenRelations.ofLexicon lexicon vocabulary follow
  -- states
  let found := automaton items
  let coincidence := Coincidence.ofStates terminals (vocabulary.code grammar.word) found
  let keywords := keywordsOf lexicon relations vocabulary coincidence word
  let found := found.modify 0 fun state =>
    { state with
      actions := errorActions grammar relations vocabulary coincidence keywords word state.actions }
  let present := found.map Coincidence.presentIn
  let rules := MergeRules.ofGrammar grammar vocabulary relations keywords word
  let states := sortBySize (removeUnused (removeUnitReductions grammar
    (mergeStates rules present found)))
  -- lexical modes
  let present := states.map Coincidence.presentIn
  let modeRules := ModeRules.ofRelations relations vocabulary coincidence
  let keywordCodes := keywords.foldl
    (fun set token => set ||| TokenSet.single (vocabulary.code (.token token))) 0
  let wordCode := TokenSet.single (vocabulary.code grammar.word)
  let layoutCodes := Nat.pow 2 vocabulary.layoutCount - 1
  let mut tokenSets : Array TokenSet := #[]
  let mut modes : Array LexMode := #[]
  for set in present do
    let hasKeyword := set &&& keywordCodes != 0
    let own := set ^^^ (set &&& (keywordCodes ||| layoutCodes))
    let own := if hasKeyword then own ||| wordCode else own
    let (start, next) := modeRules.assign own tokenSets
    tokenSets := next
    let layout := (List.range vocabulary.layoutCount).foldl
      (fun layout i =>
        let isValid := match (grammar.layout[i]?).bind (·.token?) with
          | some token => set.testBit (vocabulary.code (.token token))
          | none => set.testBit i
        if isValid then layout ||| TokenSet.single i else layout)
      0
    modes := modes.push { start, layout }
  let tokensIn (set : TokenSet) : List Nat :=
    (List.range vocabulary.tokenCount).filter fun i => set.testBit (vocabulary.code (.token i))
  let starts := tokenSets.map fun set =>
    { states := lexicon.startOf (tokensIn set)
      acceptsEnd := set.testBit (vocabulary.code .finish) : LexStart }
  -- reuse of tokens
  let overlapped := (Array.range terminals).map fun code =>
    match vocabulary.symbol code with
    | .token token => (List.range vocabulary.tokenCount).foldl
        (fun set other =>
          if relations.overlap other token then
            set ||| TokenSet.single (vocabulary.code (.token other))
          else set)
        0
    | _ => 0
  -- final numbers
  let (numbers, order) := symbolNumbers vocabulary word
  let number (code : Nat) : SymbolId := numbers.getD code 0
  let finalAction : Action → Action
    | .reduce owner count dynamicPrecedence shape =>
        .reduce (number (terminals + owner)) count dynamicPrecedence shape
    | action => action
  let actions := (states.zip present).map fun (state, set) =>
    (Array.range terminals).map fun n =>
      let code := order.getD n 0
      let actions := (state.actions.getD code #[]).map finalAction
      { actions
        isReusable := actions.back? != some .recover &&
          overlapped.getD code 0 &&& set == 0 : ActionEntry }
  return {
    symbols := order.map fun code =>
      let symbol := vocabulary.symbol code
      let visibility := grammar.visibility symbol
      { name := grammar.name symbol
        isVisible := visibility.isVisible
        isNamed := visibility.isNamed }
    terminalCount := terminals
    actions
    successors := states.map (·.successors)
    modes, starts, lexicon
    keywordStart := lexicon.startOf keywords
    word := number (vocabulary.code grammar.word)
    tokenSymbols := (Array.range vocabulary.tokenCount).map fun i =>
      number (vocabulary.code (.token i))
    layoutSymbols := (Array.range vocabulary.layoutCount).map fun i =>
      match (grammar.layout[i]?).bind (·.token?) with
      | some token => number (vocabulary.code (.token token))
      | none => number i
    shapes := items.shapes
  }

/-! ## Looking things up -/

/-- The symbol of an error. -/
def errorSymbol : SymbolId := 65535

/-- The symbol of a run of skipped tokens. -/
def skippedSymbol : SymbolId := 65534

/-- The symbol of the end of the input. -/
def endSymbol : SymbolId := 0

/-- The number of the state of error recovery. -/
def errorState : Nat := 0

/-- The number of the start state. -/
def startState : Nat := 1

/-- The actions of a state on a symbol. -/
def entry (language : Language) (state : Nat) (symbol : SymbolId) : ActionEntry :=
  (language.actions.getD state #[]).getD symbol {}

/-- Whether a state has actions on a symbol. -/
def hasActions (language : Language) (state : Nat) (symbol : SymbolId) : Bool :=
  !(language.entry state symbol).actions.isEmpty

/-- Whether the first action of a state on a symbol is to reduce. -/
def reducesOn (language : Language) (state : Nat) (symbol : SymbolId) : Bool :=
  match (language.entry state symbol).actions.toList.head? with
  | some (Action.reduce ..) => true
  | _ => false

/-- The state after a symbol, the error state if there is none. -/
def nextState (language : Language) (state : Nat) (symbol : SymbolId) : Nat :=
  if symbol < language.terminalCount then
    match (language.entry state symbol).actions.back? with
    | some (.shift target _) => target
    | some .shiftExtra => state
    | _ => errorState
  else
    ((language.successors.getD state #[]).getD (symbol - language.terminalCount) none).getD
      errorState

/-- How a symbol shows in the tree. -/
def info (language : Language) (symbol : SymbolId) : SymbolInfo :=
  if symbol == errorSymbol then { name := "ERROR", isVisible := true, isNamed := true }
  else if symbol == skippedSymbol then { name := "", isVisible := false, isNamed := false }
  else language.symbols.getD symbol { name := "", isVisible := false, isNamed := false }

end Language

end SourceFacts.Grammar
