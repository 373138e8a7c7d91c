import SourceFacts.Grammar.Closure
import Std.Data.HashMap

namespace SourceFacts.Grammar

/-!
# The automaton of a grammar

The states of the automaton are the item sets that can be reached from the start
item. A state maps each terminal to actions: to shift it and go to another state,
or to reduce a finished production. Where several actions are possible the
precedences of the items decide; what they leave open stays in the table and is
explored side by side.
-/

/-- What to do in a state when a terminal comes next. -/
inductive Action where
  /-- Accept the terminal and go to a state. -/
  | shift (state : Nat) (isRepetition : Bool)
  /-- Accept an extra token and stay. -/
  | shiftExtra
  /-- Replace the topmost children by a node. -/
  | reduce (owner childCount : Nat) (dynamicPrecedence : Int) (shape : Nat)
  /-- The input is complete. -/
  | accept
  /-- Skip the token while recovering from an error. -/
  | recover
deriving Repr, DecidableEq, Inhabited

/-- A state of the automaton. -/
structure State where
  /-- States of equal core differ only in what may follow their items. -/
  core : Nat
  /-- The actions for each terminal. -/
  actions : Array (Array Action)
  /-- The state after each nonterminal. -/
  successors : Array (Option Nat)
deriving Inhabited

/-- The precedences of the reductions possible on a terminal. -/
structure ReductionSummary where
  precedence? : Option Int := none
  groupsLeft : Bool := false
  groupsRight : Bool := false
  groupsNeither : Bool := false
deriving Inhabited

/-- Compare precedences; having none counts as zero. -/
def comparePrecedence (left right : Option Int) : Ordering :=
  compare (left.getD 0) (right.getD 0)

/-- A finished item, ready to be reduced. -/
structure Finished where
  lookaheads : TokenSet
  action : Action
  precedence? : Option Int
  grouping? : Option Associativity

/--
The reductions on a terminal: those of highest precedence, in order, with a
summary of their precedences.
-/
def reductionsOn (finished : List Finished) (terminal : Nat) :
    Array Action × ReductionSummary :=
  finished.foldl
    (fun (state : Array Action × ReductionSummary) item =>
      if !item.lookaheads.testBit terminal then state
      else
        let (actions, summary) := state
        let order := if actions.isEmpty then .gt
          else comparePrecedence item.precedence? summary.precedence?
        match order with
        | .lt => state
        | _ =>
            let (actions, summary) :=
              if order == .gt then (#[], ({} : ReductionSummary)) else (actions, summary)
            let summary := { summary with precedence? := item.precedence? }
            let summary := match item.grouping? with
              | some .left => { summary with groupsLeft := true }
              | some .right => { summary with groupsRight := true }
              | none => { summary with groupsNeither := true }
            (actions.push item.action, summary))
    (#[], {})

/-- An item that takes part in a conflict. -/
structure Rival where
  owner : Nat
  precedence? : Option Int
  /-- The first terminals of what comes next, or nothing if the item is finished. -/
  next? : Option TokenSet
  lookaheads : TokenSet

/--
Settle a conflict between shifting a terminal and reducing. Repetitions are meant
to be ambiguous and keep all actions; otherwise the higher precedence wins, then
the grouping of the reductions.
-/
def settle
    (isAuxiliary : Nat → Bool)
    (rivals : List Rival)
    (terminal target : Nat)
    (reductions : Array Action)
    (summary : ReductionSummary) :
    Array Action :=
  let shifting := rivals.filter fun rival =>
    match rival.next? with
    | some first => first.testBit terminal
    | none => false
  let reducing := rivals.filter fun rival =>
    rival.next?.isNone && rival.lookaheads.testBit terminal
  let all := shifting ++ reducing
  let sameAuxiliary := match all with
    | [] => false
    | rival :: rest => isAuxiliary rival.owner && rest.all (·.owner == rival.owner)
  if sameAuxiliary then
    reductions.push (.shift target true)
  else
    let orders := shifting.map fun rival =>
      comparePrecedence rival.precedence? summary.precedence?
    let more := orders.contains .gt
    let less := orders.contains .lt
    let shift := Action.shift target false
    if more && !less then #[shift]
    else if less && !more then reductions
    else if !less && !more then
      match summary.groupsLeft, summary.groupsNeither, summary.groupsRight with
      | true, false, false => reductions
      | false, false, true => #[shift]
      | _, _, _ => reductions.push shift
    else reductions.push shift

/-- What identifies a state: its items by identity, with their lookaheads. -/
structure Kernel where
  entries : Array (Nat × TokenSet)
deriving BEq

instance : Hashable Kernel where
  hash kernel := kernel.entries.foldl
    (fun value entry =>
      mixHash value (mixHash (hash entry.1) (mixHash (hash (entry.2 % 2305843009213693952)) (hash (entry.2 >>> 61)))))
    7

/-- The automaton while it is being built. -/
structure Construction where
  states : Array State := #[]
  kernels : Array (Array Item) := #[]
  numbers : Std.HashMap Kernel Nat := {}
  cores : Std.HashMap (List Nat) Nat := {}

namespace Construction

/-- The number of the state with the given items, adding it if it is new. -/
def number (items : ItemTable) (built : Construction) (kernel : Array Item) :
    Nat × Construction :=
  let { states, kernels, numbers, cores } := built
  let key : Kernel := ⟨kernel.map fun item => (items.identity.getD item.place 0, item.lookaheads)⟩
  match numbers[key]? with
  | some n => (n, { states, kernels, numbers, cores })
  | none =>
      let n := states.size
      let coreKey := key.entries.toList.map (·.1)
      let (core, cores) := match cores[coreKey]? with
        | some core => (core, cores)
        | none => (cores.size, cores.insert coreKey cores.size)
      (n, { states := states.push ⟨core, #[], #[]⟩
            kernels := kernels.push kernel
            numbers := numbers.insert key n
            cores })

end Construction

/-- Bring items into order and merge those of equal rank. -/
def normalize (items : ItemTable) (found : Array Item) : Array Item :=
  if found.size ≤ 1 then found
  else
    let sorted := found.toList.mergeSort fun a b =>
      items.rank.getD a.place 0 ≤ items.rank.getD b.place 0
    sorted.foldl
      (fun merged item =>
        match merged.back? with
        | none => merged.push item
        | some last =>
            if items.rank.getD last.place 0 = items.rank.getD item.place 0 then
              merged.pop.push { last with lookaheads := last.lookaheads ||| item.lookaheads }
            else
              merged.push item)
      #[]

/-- The finished items of a closure. -/
def finishedItems (items : ItemTable) (closure : Array Item) : List Finished :=
  closure.toList.filterMap fun item =>
    match items.next.getD item.place none with
    | some _ => none
    | none =>
        let production := items.production.getD item.place 0
        let owned := items.productionAt item.place
        let passed := items.passed.getD item.place 0
        let action :=
          if owned.owner = items.grammar.nonterminals.size then Action.accept
          else .reduce owned.owner passed owned.production.dynamicPrecedence
            (items.shapeOf.getD production 0)
        some {
          lookaheads := item.lookaheads
          action
          precedence? := ItemTable.precedenceAt owned.production passed
          grouping? := ItemTable.groupingAt owned.production passed }

/-- The items of a closure that can take part in conflicts. -/
def rivalItems (items : ItemTable) (closure : Array Item) : List Rival :=
  closure.toList.filterMap fun item =>
    let passed := items.passed.getD item.place 0
    let owned := items.productionAt item.place
    let rival (next? : Option TokenSet) : Rival :=
      { owner := owned.owner
        precedence? := ItemTable.precedenceAt owned.production passed
        next?
        lookaheads := item.lookaheads }
    match items.next.getD item.place none with
    | none => if owned.owner = items.grammar.nonterminals.size then none else some (rival none)
    | some symbol =>
        if passed = 0 then none
        else some (rival (some
          (items.edges.firstOf items.vocabulary (items.vocabulary.symbol symbol))))

/-- Compute the actions and successors of a state and queue new states. -/
def populate
    (items : ItemTable)
    (additions : Array (Array Addition))
    (isAuxiliary : Nat → Bool)
    (n : Nat)
    (built : Construction)
    (space : ItemTable.Workspace)
    (buckets : Array (Array Item)) :
    Construction × ItemTable.Workspace × Array (Array Item) := Id.run do
  let terminals := items.vocabulary.terminalCount
  let (closure, space) := items.closure additions (built.kernels.getD n #[]) space
  let mut buckets := buckets
  let mut symbols : Array Nat := #[]
  for item in closure do
    match items.next.getD item.place none with
    | none => pure ()
    | some symbol =>
        if (buckets.getD symbol #[]).isEmpty then
          symbols := symbols.push symbol
        buckets := buckets.modify symbol (·.push { item with place := item.place + 1 })
  let finished := finishedItems items closure
  let mut actions : Array (Array Action) := Array.replicate terminals #[]
  let mut successors : Array (Option Nat) := Array.replicate items.vocabulary.nonterminalCount none
  let mut summaries : Array ReductionSummary := #[]
  if !finished.isEmpty then
    summaries := Array.replicate terminals {}
    for terminal in [0:terminals] do
      let (found, summary) := reductionsOn finished terminal
      if !found.isEmpty then
        actions := actions.set! terminal found
        summaries := summaries.set! terminal summary
  let rivals := if finished.isEmpty then [] else rivalItems items closure
  let mut built := built
  for symbol in symbols.qsort (· < ·) do
    let kernel := normalize items (buckets.getD symbol #[])
    buckets := buckets.set! symbol #[]
    let (target, next) := built.number items kernel
    built := next
    if symbol < terminals then
      let reductions := actions.getD symbol #[]
      if reductions.isEmpty then
        actions := actions.set! symbol #[.shift target false]
      else
        actions := actions.set! symbol
          (settle isAuxiliary rivals symbol target reductions (summaries.getD symbol {}))
    else
      successors := successors.set! (symbol - terminals) (some target)
  for extra in items.grammar.extras do
    let terminal := items.vocabulary.code extra
    if (actions.getD terminal #[]).isEmpty then
      actions := actions.set! terminal #[.shiftExtra]
  built := { built with states := built.states.modify n fun state => { state with actions, successors } }
  return (built, space, buckets)

/-- Process the queue of states from number `n` on. -/
def populateFrom
    (items : ItemTable)
    (additions : Array (Array Addition))
    (isAuxiliary : Nat → Bool) :
    Nat → Nat → Construction → ItemTable.Workspace → Array (Array Item) → Construction
  | 0, _, built, _, _ => built
  | fuel + 1, n, built, space, buckets =>
      if n < built.states.size then
        let (built, space, buckets) := populate items additions isAuxiliary n built space buckets
        populateFrom items additions isAuxiliary fuel (n + 1) built space buckets
      else
        built

/--
The states of a grammar's automaton. State 0 is the state of error recovery,
which is left without actions here, and state 1 is the start.
-/
def automaton (items : ItemTable) : Array State :=
  let isAuxiliary (v : Nat) : Bool :=
    match items.grammar.nonterminals[v]? with
    | some entry => entry.visibility == .auxiliary
    | none => false
  let startPlace := items.table.firstPlace.getD (items.table.productions.size - 1) 0
  let finish := TokenSet.single (items.vocabulary.code .finish)
  let (_, built) := Construction.number items {} #[]
  let (_, built) := built.number items #[⟨startPlace, finish⟩]
  let buckets := Array.replicate items.vocabulary.symbolCount #[]
  (populateFrom items items.additions isAuxiliary 1000000 0 built items.workspace buckets).states

end SourceFacts.Grammar
