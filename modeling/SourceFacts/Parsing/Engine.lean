import SourceFacts.Parsing.Stack

namespace SourceFacts.Parsing

/-!
# The parsing engine

The engine drives several versions of a parse over a text. Each version reads a
token, follows the actions of its state and is compared with the others. A
version that cannot handle a token is paused; when no other version gets on, the
engine recovers: it makes up a missing token, returns to an earlier state, or
skips tokens until something fits.
-/

open Grammar

/-- A scanner for layout tokens, with a memory that each token changes. -/
structure LayoutScanner (σ : Type) where
  /--
  Look for one of the valid tokens. The memory is absent before the first token.
  The result is the token, the memory after it, and the reader.
  -/
  scan : Option σ → TokenSet → Reader → Option (Nat × σ × Reader)

/-- A language with its layout scanner. -/
structure SyntaxRules (σ : Type) where
  language : Language
  layout : LayoutScanner σ

/-- The last token read, with the position and memory it was read at. -/
structure CachedToken (σ : Type) where
  position : Nat
  layout? : Option σ
  token : Subtree σ

/-- The state of a parse. -/
structure Parse (σ : Type) where
  stack : Stack σ := .initial
  cached? : Option (CachedToken σ) := none
  /-- The best complete tree so far. -/
  finished? : Option (Subtree σ) := none
  /-- Number of complete trees found. -/
  acceptCount : Nat := 0

/-- A step of a parse. -/
abbrev ParseM (σ : Type) := StateM (Parse σ)

namespace Engine

/-- At most this many versions are kept. -/
def maxVersions : Nat := 6

/-- While reducing, this many more versions may exist. -/
def maxOverflow : Nat := 4

/-- How deep an earlier state may lie to be returned to. -/
def maxPassedDepth : Nat := 16

/-- A version that is worse by more than this is given up. -/
def maxCostDifference : Nat := 16 * skippedTreeCost

variable {σ : Type} [DecidableEq σ]

/-! ## Reading tokens -/

/-- A token that was read, or the characters skipped before one could be read. -/
structure ReadResult (σ : Type) where
  symbol : SymbolId
  reader : Reader
  layout? : Option σ := none
  changesLayout : Bool := false

/--
Look for a token of a mode, first with the layout scanner and then with the
lexicon. An empty layout token that changes nothing is ignored while recovering.
-/
def readInMode (definition : SyntaxRules σ) (text : Array Char) (memory : Option σ)
    (mode : LexMode) (refusesEmpty : Bool) (position : Extent) :
    Option (ReadResult σ) × Reader :=
  let reader := Reader.begin text position
  let fromLayout :=
    if mode.layout = 0 then none
    else
      match definition.layout.scan memory mode.layout reader with
      | none => none
      | some (token, next, reader) =>
          let changes := memory != some next
          let stop := (reader.stop?.getD reader.position).bytes
          if stop ≤ position.bytes && refusesEmpty && !changes then none
          else some {
            symbol := definition.language.layoutSymbols.getD token 0
            reader, layout? := some next, changesLayout := changes : ReadResult σ }
  match fromLayout with
  | some result => (some result, result.reader)
  | none =>
      let (symbol?, reader) :=
        readToken definition.language (definition.language.starts.getD mode.start default) reader
      (symbol?.map fun symbol => { symbol, reader }, reader)

/--
Read on after no token could be found in the mode of the state: look for any
token at all, and skip characters until there is one. The result holds the
bounds of what was skipped.
-/
def readSkipping (definition : SyntaxRules σ) (text : Array Char) (memory : Option σ) :
    Nat → Extent → Option (Extent × Extent) → Option (ReadResult σ) × Option (Extent × Extent)
  | 0, _, skipped? => (none, skipped?)
  | fuel + 1, position, skipped? =>
      let mode := definition.language.modes.getD Language.errorState default
      match readInMode definition text memory mode true position with
      | (some result, _) => (some result, skipped?)
      | (none, reader) =>
          let (from_, reached) := skipped?.getD (reader.start, reader.start)
          if reader.position.bytes = reached.bytes then
            if reader.atEnd then (none, some (from_, reached))
            else
              let reader := reader.advance
              readSkipping definition text memory fuel reader.position
                (some (from_, reader.position))
          else
            readSkipping definition text memory fuel reader.position
              (some (from_, reader.position))

/-- Turn a token that was read into a subtree, looking it up among the keywords. -/
def tokenOf (definition : SyntaxRules σ) (text : Array Char) (state : Nat) (position : Extent)
    (result : ReadResult σ) : Subtree σ :=
  let language := definition.language
  let (start, stop) := result.reader.bounds
  let isWord := result.layout?.isNone && result.symbol == language.word
  let (symbol, isKeyword) :=
    if !isWord then (result.symbol, false)
    else
      let keywords : LexStart := { states := language.keywordStart, acceptsEnd := false }
      match readToken language keywords (Reader.begin text start) with
      | (some keyword, reader) =>
          if reader.bounds.2.bytes = stop.bytes && language.hasActions state keyword then
            (keyword, true)
          else (result.symbol, true)
      | (none, _) => (result.symbol, false)
  .token {
    symbol
    padding := start - position
    size := stop - start
    state, isKeyword
    layout? := result.layout?
    changesLayout := result.changesLayout }

/-- Read the next token of a version in a state. -/
def lex (definition : SyntaxRules σ) (text : Array Char) (stack : Stack σ) (v state : Nat) :
    Subtree σ :=
  let position := stack.position v
  let memory := (stack.version v).layout?
  let mode := definition.language.modes.getD state default
  let recovering := state == Language.errorState
  let refusesEmpty := recovering || !stack.hasAdvanced v
  let first := readInMode definition text memory mode refusesEmpty position
  let (result?, skipped?) :=
    match first with
    | (some result, _) => (some result, none)
    | (none, _) =>
        readSkipping definition text memory (2 * text.size + 4) position none
  match skipped?, result? with
  | some (start, stop), _ =>
      .token {
        symbol := Language.errorSymbol
        padding := start - position
        size := stop - start
        state }
  | none, some result => tokenOf definition text state position result
  | none, none => .token { symbol := Language.errorSymbol, state }

/-- Whether a token read elsewhere is what would be read in a state. -/
def isReusable (language : Language) (state : Nat) (token : Subtree σ) (entry : ActionEntry) :
    Bool :=
  let mode := language.modes.getD state default
  let tokenMode := language.modes.getD token.summary.state default
  if !entry.actions.isEmpty && tokenMode == mode &&
      (token.symbol != language.word ||
        (!token.summary.isKeyword && token.summary.state == state)) then true
  else if token.summary.size.bytes = 0 && !token.isEnd then false
  else mode.layout == 0 && entry.isReusable

/-- The actions of a state on a token. Errors have none. -/
def entryFor (language : Language) (state : Nat) (symbol : SymbolId) : ActionEntry :=
  language.entry state symbol

/-! ## Comparing versions -/

/-- What versions are compared by. -/
structure Standing where
  cost : Nat
  nodeCount : Nat
  dynamicPrecedence : Int
  isInError : Bool

/-- The outcome of comparing two versions. -/
inductive Preference where
  /-- Keep only the first. -/
  | takeFirst
  | preferFirst
  | neither
  | preferSecond
  /-- Keep only the second. -/
  | takeSecond
deriving Repr, DecidableEq

/-- Compare two versions. -/
def Standing.compare (a b : Standing) : Preference :=
  if !a.isInError && b.isInError then
    if a.cost < b.cost then .takeFirst else .preferFirst
  else if a.isInError && !b.isInError then
    if b.cost < a.cost then .takeSecond else .preferSecond
  else if a.cost < b.cost then
    if (b.cost - a.cost) * (1 + a.nodeCount) > maxCostDifference then .takeFirst
    else .preferFirst
  else if b.cost < a.cost then
    if (a.cost - b.cost) * (1 + b.nodeCount) > maxCostDifference then .takeSecond
    else .preferSecond
  else if a.dynamicPrecedence > b.dynamicPrecedence then .preferFirst
  else if b.dynamicPrecedence > a.dynamicPrecedence then .preferSecond
  else .neither

/-- Change the stack of a parse. -/
@[inline] def modifyStack (f : Stack σ → Stack σ) : ParseM σ Unit :=
  modify fun parse => { parse with stack := f parse.stack }

/-- The stack of a parse. -/
@[inline] def getStack : ParseM σ (Stack σ) := return (← get).stack

/-- The progress of a version since its last error. -/
def nodesSinceError (v : Nat) : ParseM σ Nat :=
  modifyGet fun parse =>
    let (count, stack) := parse.stack.nodesSinceError v
    (count, { parse with stack })

/-- What a version is compared by. -/
def standing (v : Nat) : ParseM σ Standing := do
  let nodeCount ← nodesSinceError v
  let stack ← getStack
  let isPaused := stack.isPaused v
  return {
    cost := stack.errorCost v + (if isPaused then skippedTreeCost else 0)
    nodeCount
    dynamicPrecedence := (stack.head v).dynamicPrecedence
    isInError := isPaused || stack.state v == Language.errorState }

/-- Whether going on with a version at a cost is pointless. -/
def betterVersionExists (v : Nat) (cost : Nat) : ParseM σ Bool := do
  if let some finished := (← get).finished? then
    if finished.errorCost ≤ cost then return true
  let nodeCount ← nodesSinceError v
  let stack ← getStack
  let position := stack.position v
  let own : Standing := {
    cost, nodeCount, isInError := false
    dynamicPrecedence := (stack.head v).dynamicPrecedence }
  for i in [0:stack.size] do
    let stack ← getStack
    if i != v && stack.isActive i && !((stack.position i).bytes < position.bytes) then
      let other ← standing i
      match own.compare other with
      | .takeSecond => return true
      | .preferSecond => if (← getStack).canMerge i v then return true
      | _ => pure ()
  return false

/-! ## Actions -/

/-- Put a token on top of a version. -/
def shift (language : Language) (v state : Nat) (token : Subtree σ) (isExtra : Bool) :
    ParseM σ Unit :=
  modifyStack fun stack =>
    let token := token.modify ({ · with isExtra })
    let stack := stack.push language v (some token) state
    match token.summary.lastLayout? with
    | some memory => stack.modifyVersion v ({ · with layout? := some memory })
    | none => stack

/-- The node for the best of several lists of children, with its trailing extras. -/
def bestNode (language : Language) (symbol : SymbolId) (shape : Nat) :
    List (List (Subtree σ)) → Subtree σ × List (Subtree σ)
  | [] => (Subtree.ofChildren language symbol [] shape, [])
  | first :: others =>
      let (children, extras) := Subtree.splitExtras first
      others.foldl
        (fun (best : Subtree σ × List (Subtree σ)) trees =>
          let (children, extras) := Subtree.splitExtras trees
          let candidate := Subtree.ofChildren language symbol children 0
          if best.1.prefersSecond candidate then
            (Subtree.ofChildren language symbol children shape, extras)
          else best)
        (Subtree.ofChildren language symbol children shape, extras)

/-- Group popped paths that end in the same version, which stand side by side. -/
def groupByVersion (found : List (Popped σ)) : List (Nat × List (List (Subtree σ))) :=
  found.foldr
    (fun popped groups =>
      match groups with
      | (version, lists) :: rest =>
          if version = popped.version then (version, popped.trees :: lists) :: rest
          else (popped.version, [popped.trees]) :: groups
      | [] => [(popped.version, [popped.trees])])
    []

/--
Replace the topmost children of a version by a node, along every path. The
result is the first version that was made.
-/
def reduce (language : Language) (v : Nat) (symbol : SymbolId) (count : Nat)
    (dynamicPrecedence : Int) (shape : Nat) : ParseM σ (Option Nat) := do
  let before := (← getStack).size
  let found ← modifyGet fun parse =>
    let (stack, found) := parse.stack.popCount v count
    (found, { parse with stack })
  let mut removed := 0
  for (version, lists) in groupByVersion found.toList do
    let version := version - removed
    if version > maxVersions + maxOverflow then
      modifyStack (·.removeVersion version)
      removed := removed + 1
    else
      let (node, extras) := bestNode language symbol shape lists
      let node := node.modify fun summary =>
        { summary with dynamicPrecedence := summary.dynamicPrecedence + dynamicPrecedence }
      let next := language.nextState ((← getStack).state version) symbol
      modifyStack fun stack =>
        extras.foldl (fun stack extra => stack.push language version (some extra) next)
          (stack.push language version (some node) next)
      for j in [0:version] do
        if j != v then
          match (← getStack).merge? language j version with
          | none => pure ()
          | some stack =>
              modifyStack fun _ => stack
              removed := removed + 1
              break
  return if (← getStack).size > before then some before else none

/-- Complete a version at the end of the input. -/
def accept (language : Language) (v : Nat) (lookahead : Subtree σ) : ParseM σ Unit := do
  let found ← modifyGet fun parse =>
    let (stack, found) :=
      (parse.stack.push language v (some lookahead) Language.startState).popAll v
    (found, { parse with stack })
  for popped in found do
    let after := (popped.trees.reverse.takeWhile (·.isExtra)).reverse
    let rest := (popped.trees.reverse.dropWhile (·.isExtra))
    match rest with
    | [] => pure ()
    | tree :: before =>
        let children := before.reverse ++ tree.children ++ after
        let root := Subtree.ofChildren language tree.symbol children tree.summary.shape
        modify fun parse =>
          let isBetter := match parse.finished? with
            | none => true
            | some finished => finished.prefersSecond root
          { parse with
            acceptCount := parse.acceptCount + 1
            finished? := if isBetter then some root else parse.finished? }
  match found[0]? with
  | some popped => modifyStack (·.removeVersion popped.version)
  | none => pure ()
  modifyStack (·.halt v)

/-! ## Recovery -/

/-- A reduction that some token may call for. -/
structure PossibleReduction where
  symbol : SymbolId
  count : Nat
  dynamicPrecedence : Int
  shape : Nat

/--
The reductions a state may perform on the given tokens, each symbol and length
once, and whether one of the tokens can be shifted.
-/
def possibleReductions (language : Language) (state : Nat) (tokens : List SymbolId) :
    Array PossibleReduction × Bool :=
  tokens.foldl
    (fun found token => (entryFor language state token).actions.foldl
      (fun (found : Array PossibleReduction × Bool) action =>
        match action with
        | .shift _ isRepetition => if isRepetition then found else (found.1, true)
        | .recover => (found.1, true)
        | .reduce symbol count dynamicPrecedence shape =>
            if count = 0 || found.1.any fun known => known.symbol == symbol && known.count == count
            then found
            else (found.1.push { symbol, count, dynamicPrecedence, shape }, found.2)
        | _ => found)
      found)
    (#[], false)

/--
Perform every reduction that is possible from a version, for one token or for
any. The result tells whether the token can be shifted in the end.
-/
def reduceAll (language : Language) (start : Nat) (lookahead? : Option SymbolId) :
    ParseM σ Bool := do
  let before := (← getStack).size
  let tokens := match lookahead? with
    | some symbol => [symbol]
    | none => (List.range language.terminalCount).drop 1
  let mut canShift := false
  let mut version := start
  for i in [0:100000] do
    let count := (← getStack).size
    if version ≥ count then break
    let mut merged := false
    for j in [before:version] do
      match (← getStack).merge? language j version with
      | none => pure ()
      | some stack =>
          modifyStack fun _ => stack
          merged := true
          break
    if merged then continue
    let (reductions, shifts) :=
      possibleReductions language ((← getStack).state version) tokens
    let mut made : Option Nat := none
    for reduction in reductions do
      made ← reduce language version reduction.symbol reduction.count
        reduction.dynamicPrecedence reduction.shape
    if shifts then
      canShift := true
    else
      match made with
      | some other =>
          if i < maxVersions then
            modifyStack (·.renumber other version)
            continue
          else if lookahead?.isSome then
            modifyStack (·.removeVersion version)
      | none =>
          if lookahead?.isSome then
            modifyStack (·.removeVersion version)
    version := if version = start then count else version + 1
  return canShift

/-- Return to an earlier state, wrapping what came after it in an error. -/
def recoverTo (language : Language) (v depth goal : Nat) : ParseM σ Bool := do
  let found ← modifyGet fun parse =>
    let (stack, found) := parse.stack.popCount v depth
    (found, { parse with stack })
  let mut previous : Option Nat := none
  for popped in found do
    if previous != some popped.version then
      if (← getStack).state popped.version != goal then
        modifyStack (·.halt popped.version)
      else
        let errors ← modifyGet fun parse =>
          let (stack, errors) := parse.stack.popError popped.version
          (errors, { parse with stack })
        let trees := (errors.flatMap (·.children)) ++ popped.trees
        let (children, extras) := Subtree.splitExtras trees
        if !children.isEmpty then
          modifyStack fun stack => stack.push language popped.version
            (some (Subtree.error language children true)) goal
        for extra in extras do
          modifyStack fun stack => stack.push language popped.version (some extra) goal
        previous := some popped.version
  return previous.isSome

/-- Try to return to an earlier state that can handle the token. -/
def tryPassedStates (language : Language) (v : Nat) (lookahead : Subtree σ)
    (versionCount nodeCount cost : Nat) : ParseM σ Bool := do
  let stack ← getStack
  let position := stack.position v
  for passed in ((stack.version v).passed?).getD [] do
    if passed.state = Language.errorState then continue
    if passed.position.bytes = position.bytes then continue
    let depth := if nodeCount > 0 then passed.depth + 1 else passed.depth
    let stack ← getStack
    let wouldMerge := (List.range versionCount).any fun j =>
      stack.state j == passed.state && (stack.position j).bytes == position.bytes
    if wouldMerge then continue
    let newCost := cost + passed.depth * skippedTreeCost +
      (position.bytes - passed.position.bytes) * skippedByteCost +
      (position.rows - passed.position.rows) * skippedLineCost
    if ← betterVersionExists v newCost then break
    if language.hasActions passed.state lookahead.symbol then
      if ← recoverTo language v depth passed.state then return true
  return false

/-- Wrap a token that fits nowhere in an error and stay in the error state. -/
def skipToken (language : Language) (v : Nat) (lookahead : Subtree σ) (nodeCount : Nat) :
    ParseM σ Unit := do
  let isExtra := match (entryFor language Language.startState lookahead.symbol).actions.back? with
    | some .shiftExtra => true
    | _ => false
  let lookahead := if isExtra then lookahead.modify ({ · with isExtra := true }) else lookahead
  let skipped := Subtree.ofChildren language Language.skippedSymbol [lookahead] 0
  let skipped ← if nodeCount > 0 then
      let found ← modifyGet fun parse =>
        let (stack, found) := parse.stack.popCount v 1
        (found, { parse with stack })
      match found[0]? with
      | none => pure skipped
      | some popped =>
          if found.size > 1 then
            modifyStack fun stack =>
              { stack with versions := stack.versions.extract 0 (popped.version + 1) }
          modifyStack (·.renumber popped.version v)
          pure (Subtree.ofChildren language Language.skippedSymbol (popped.trees ++ [skipped]) 0)
    else pure skipped
  modifyStack fun stack =>
    let stack := stack.push language v (some skipped) Language.errorState
    match lookahead.summary.lastLayout? with
    | some memory => stack.modifyVersion v ({ · with layout? := some memory })
    | none => stack

/-- Remove the versions from number `first` on that are not active. -/
def removeInactive (first : Nat) : ParseM σ Unit :=
  modifyStack fun stack =>
    let { nodes, versions } := stack
    let kept := (versions.extract first versions.size).filter (·.status == .active)
    { nodes, versions := versions.extract 0 first ++ kept }

/-- Handle a token in the error state. -/
def recover (language : Language) (v : Nat) (lookahead : Subtree σ) : ParseM σ Unit := do
  let before := (← getStack).size
  let nodeCount ← nodesSinceError v
  let cost := (← getStack).errorCost v
  let didRecover ←
    if lookahead.isError || ((← getStack).version v).passed?.isNone then pure false
    else tryPassedStates language v lookahead before nodeCount cost
  removeInactive before
  if didRecover && (← getStack).size > maxVersions then
    modifyStack (·.halt v)
  else if didRecover && lookahead.summary.changesLayout then
    modifyStack (·.halt v)
  else if lookahead.isEnd then
    modifyStack fun stack => stack.push language v
      (some (Subtree.error language [] false)) Language.startState
    accept language v lookahead
  else
    let newCost := cost + skippedTreeCost +
      lookahead.total.bytes * skippedByteCost + lookahead.total.rows * skippedLineCost
    if ← betterVersionExists v newCost then
      modifyStack (·.halt v)
    else
      skipToken language v lookahead nodeCount

/-- Make up a token after which the version can go on, if there is one. -/
def insertMissing (language : Language) (v : Nat) (lookahead : Subtree σ) : ParseM σ Bool := do
  let state := (← getStack).state v
  for missing in (List.range language.terminalCount).drop 1 do
    let next := language.nextState state missing
    if next != Language.errorState && next != state &&
        language.reducesOn next lookahead.symbol then
      let token := (Subtree.token { symbol := missing : Summary σ }).modify
        ({ · with isMissing := true })
      let copy ← modifyGet fun parse =>
        let (copy, stack) := parse.stack.copyVersion v
        (copy, { parse with stack := stack.push language copy (some token) next })
      if ← reduceAll language copy (some lookahead.symbol) then return true
  return false

/-- Begin to recover from an error at a token. -/
def handleError (language : Language) (v : Nat) (lookahead : Subtree σ) : ParseM σ Unit := do
  let before := (← getStack).size
  let _ ← reduceAll language v none
  let count := (← getStack).size
  let mut inserted := false
  let mut w := v
  for _ in [0:count + 1] do
    if w ≥ count then break
    if !inserted then
      inserted ← insertMissing language w lookahead
    modifyStack fun stack => stack.push language w none Language.errorState
    w := if w = v then before else w + 1
  for _ in [before:count] do
    match (← getStack).merge? language v before with
    | some stack => modifyStack fun _ => stack
    | none => pure ()
  modifyStack (·.recordPassed v maxPassedDepth)
  recover language v lookahead

/-! ## The main loop -/

/-- The token that was read last, if it is what a version would read in a state. -/
def cachedToken? (language : Language) (v state : Nat) : ParseM σ (Option (Subtree σ)) := do
  let parse ← get
  match parse.cached? with
  | none => return none
  | some cached =>
      let fits := cached.position == (parse.stack.position v).bytes &&
        cached.layout? == (parse.stack.version v).layout? &&
        isReusable language state cached.token (entryFor language state cached.token.symbol)
      return if fits then some cached.token else none

/-- The next token of a version in a state. -/
def nextToken (definition : SyntaxRules σ) (text : Array Char) (v state : Nat) :
    ParseM σ (Subtree σ) := do
  match ← cachedToken? definition.language v state with
  | some token => return token
  | none =>
      let stack ← getStack
      let token := lex definition text stack v state
      modify fun parse => { parse with
        cached? := some {
          position := (stack.position v).bytes
          layout? := (stack.version v).layout?
          token } }
      return token

/-- The outcome of following the actions of a state on a token. -/
inductive Followed where
  /-- The token was used up. -/
  | done
  /-- Only reductions were possible; the first version they made. -/
  | reduced (version : Nat)
  /-- There was nothing to do. -/
  | stuck

/-- Follow the actions of a state on a token. -/
def follow (language : Language) (v state : Nat) (lookahead : Subtree σ) :
    List Action → Option Nat → ParseM σ Followed
  | [], none => return .stuck
  | [], some version => return .reduced version
  | action :: rest, made => do
      match action with
      | .shift target isRepetition =>
          if isRepetition then follow language v state lookahead rest made
          else
            shift language v target lookahead false
            return .done
      | .shiftExtra =>
          shift language v state lookahead true
          return .done
      | .reduce symbol count dynamicPrecedence shape =>
          let version ← reduce language v symbol count dynamicPrecedence shape
          follow language v state lookahead rest (version.or made)
      | .accept =>
          accept language v lookahead
          return .done
      | .recover =>
          recover language v lookahead
          return .done

/-- Bring a version past its next token, or pause it. -/
def advance (definition : SyntaxRules σ) (text : Array Char) (v : Nat) : ParseM σ Unit := do
  let language := definition.language
  let mut state := (← getStack).state v
  let mut lookahead ← nextToken definition text v state
  for _ in [0:1000000] do
    match ← follow language v state lookahead
        (entryFor language state lookahead.symbol).actions.toList none with
    | .done => return
    | .reduced version =>
        modifyStack (·.renumber version v)
        state := (← getStack).state v
    | .stuck =>
        if lookahead.summary.isKeyword && lookahead.symbol != language.word &&
            language.hasActions state language.word then
          lookahead := lookahead.modify ({ · with symbol := language.word })
        else if state = Language.errorState then
          recover language v lookahead
          return
        else
          modifyStack (·.pause v lookahead)
          return

/--
Put the versions in order, remove the hopeless ones, and recover if none can go
on. The result is the least cost of a version that is not in an error.
-/
def condense (language : Language) : ParseM σ (Option Nat) := do
  let mut least : Option Nat := none
  let mut i := 0
  for _ in [0:100000] do
    if i ≥ (← getStack).size then break
    if (← getStack).isHalted i then
      modifyStack (·.removeVersion i)
      continue
    let own ← standing i
    if !own.isInError then
      least := match least with
        | none => some own.cost
        | some cost => some (min cost own.cost)
    let mut j := 0
    let mut removedSelf := false
    for _ in [0:100000] do
      if j ≥ i then break
      let other ← standing j
      match other.compare own with
      | .takeFirst =>
          modifyStack (·.removeVersion i)
          removedSelf := true
          break
      | .preferFirst | .neither =>
          match (← getStack).merge? language j i with
          | some stack =>
              modifyStack fun _ => stack
              removedSelf := true
              break
          | none => j := j + 1
      | .preferSecond =>
          match (← getStack).merge? language j i with
          | some stack =>
              modifyStack fun _ => stack
              removedSelf := true
              break
          | none =>
              modifyStack (·.swap i j)
              j := j + 1
      | .takeSecond =>
          modifyStack (·.removeVersion j)
          i := i - 1
    if !removedSelf then
      i := i + 1
  modifyStack fun stack => { stack with versions := stack.versions.extract 0 maxVersions }
  let mut hasUnpaused := false
  let mut k := 0
  let mut remaining := (← getStack).size
  for _ in [0:100000] do
    if k ≥ remaining then break
    if (← getStack).isPaused k then
      if !hasUnpaused && (← get).acceptCount < maxVersions then
        least := some ((← getStack).errorCost k)
        let lookahead? := ((← getStack).version k).lookahead?
        modifyStack (·.modifyVersion k ({ · with status := .active, lookahead? := none }))
        match lookahead? with
        | some lookahead => handleError language k lookahead
        | none => pure ()
        hasUnpaused := true
        k := k + 1
      else
        modifyStack (·.removeVersion k)
        remaining := remaining - 1
    else
      hasUnpaused := true
      k := k + 1
  return least

/-- Advance each version in turn until one of them has got further. -/
def round (definition : SyntaxRules σ) (text : Array Char) (last : Nat) : ParseM σ Nat := do
  let mut last := last
  let mut v := 0
  for _ in [0:100000] do
    if v ≥ (← getStack).size then break
    for _ in [0:1000000] do
      if !(← getStack).isActive v then break
      advance definition text v
      let position := ((← getStack).position v).bytes
      if position > last || (v > 0 && position = last) then
        last := position
        break
    v := v + 1
  return last

/-- Go round until the parse is complete. -/
def run (definition : SyntaxRules σ) (text : Array Char) : Nat → Nat → ParseM σ Unit
  | 0, _ => return ()
  | fuel + 1, last => do
      let last ← round definition text last
      let count := (← getStack).size
      let least ← condense definition.language
      let isComplete := match (← get).finished? with
        | none => false
        | some finished =>
            match least with
            | none => true
            | some cost => finished.errorCost < cost
      if isComplete || count = 0 then return ()
      run definition text fuel last

end Engine

/-- Parse a text. -/
def SyntaxRules.parse? {σ : Type} [DecidableEq σ] (definition : SyntaxRules σ) (text : Array Char) :
    Option (Subtree σ) :=
  ((Engine.run definition text (100 * text.size + 10000) 0).run {}).2.finished?

end SourceFacts.Parsing
