import SourceFacts.Grammar.Inlining
import SourceFacts.Grammar.TokenSet

namespace SourceFacts.Grammar

/-!
# Items

An item is a place in a production. Two items behave alike when what is left of
their productions is the same and what has been passed built children of the
same names and fields, whatever symbols those were. Items that behave alike are
kept as one, which is why the states after `+` and after `-` coincide. The order
of items fixes the order in which states are found.
-/

/-- The shape of a finished node: the aliases and fields of its children. -/
structure Shape where
  /-- The alias of each child, without trailing children that have none. -/
  aliases : Array (Option Alias) := #[]
  /-- The field of each child and the fields it passes up, likewise. -/
  fields : Array (Option String × List String) := #[]
deriving Repr, DecidableEq, Inhabited

/-- Drop the trailing elements that equal `blank`. -/
def dropTrailing {α : Type} [BEq α] (blank : α) (values : Array α) : Array α :=
  (values.toList.reverse.dropWhile (· == blank)).reverse.toArray

/-- The items of a grammar, numbered by place. -/
structure ItemTable where
  grammar : PreparedGrammar
  vocabulary : Vocabulary
  edges : EdgeSets
  table : ProductionTable
  /-- The production of each place. -/
  production : Array Nat
  /-- The number of passed steps of each place. -/
  passed : Array Nat
  /-- The number of the next symbol of each place, if its production goes on. -/
  next : Array (Option Nat)
  /-- Items of equal rank are interchangeable within a state. -/
  rank : Array Nat
  /-- Number of ranks. -/
  rankCount : Nat
  /-- Items of equal identity are interchangeable in all states. -/
  identity : Array Nat
  /-- The shapes of finished productions; the first is the empty shape. -/
  shapes : Array Shape
  /-- The shape of each production. -/
  shapeOf : Array Nat

namespace ItemTable

/-! ## Fields that hidden nonterminals pass up -/

/-- Fields found in a nonterminal, with those its hidden children pass up. -/
def fieldsOf (grammar : PreparedGrammar) (known : Array (List String)) (index : Nat) :
    List String :=
  match grammar.nonterminals[index]? with
  | none => []
  | some entry => entry.content.foldl
      (fun found production => production.steps.foldl
        (fun found step =>
          let own := step.field?.toList
          let inherited := match step.symbol with
            | .nonterminal v =>
                if step.alias?.isNone && !(grammar.visibility step.symbol).isVisible then
                  known.getD v []
                else []
            | _ => []
          (own ++ inherited).foldl
            (fun found name => if found.contains name then found else found ++ [name])
            found)
        found)
      (known.getD index [])

/-- The fields of every nonterminal, closed under inheritance. -/
def closeFields (grammar : PreparedGrammar) : Nat → Array (List String) → Array (List String)
  | 0, known => known
  | fuel + 1, known =>
      let next := (Array.range grammar.nonterminals.size).map (fieldsOf grammar known)
      if next == known then known else closeFields grammar fuel next

/-- The shape of a production. -/
def shape (grammar : PreparedGrammar) (inherited : Array (List String)) (production : Production) :
    Shape where
  aliases := dropTrailing none (production.steps.map (·.alias?))
  fields := dropTrailing (none, []) (production.steps.map fun step =>
    let passedUp := match step.symbol with
      | .nonterminal v =>
          match grammar.nonterminals[v]? with
          | some entry => if entry.visibility.isVisible then [] else inherited.getD v []
          | none => []
      | _ => []
    (step.field?, passedUp))

/-! ## The order of items -/

/-- Compare optional values, nothing coming first. -/
def compareOption {α : Type} (cmp : α → α → Ordering) : Option α → Option α → Ordering
  | none, none => .eq
  | none, some _ => .lt
  | some _, none => .gt
  | some a, some b => cmp a b

/-- Left grouping comes before right grouping. -/
def compareGrouping : Associativity → Associativity → Ordering
  | .left, .right => .lt
  | .right, .left => .gt
  | _, _ => .eq

/-- Aliases are ordered by name; an anonymous one comes first. -/
def compareAlias (left right : Alias) : Ordering :=
  (compare left.name right.name).then (compare left.named right.named)

/-- The order of what a passed step leaves behind: its alias and field. -/
def comparePassed (left right : Step) : Ordering :=
  (compareOption compareAlias left.alias? right.alias?).then
    (compareOption compare left.field? right.field?)

/-- The order of steps still to come. -/
def compareStep (left right : Step) : Ordering :=
  (compare left.symbol right.symbol).then <|
  (compareOption compare left.precedence? right.precedence?).then <|
  (compareOption compareGrouping left.grouping? right.grouping?).then <|
  comparePassed left right

/-- The step before a place. -/
def stepBefore (production : Production) (passed : Nat) : Option Step :=
  if passed = 0 then none else production.steps[passed - 1]?

/-- The precedence an item has: that of the last passed step. -/
def precedenceAt (production : Production) (passed : Nat) : Option Int :=
  (stepBefore production passed).bind (·.precedence?)

/-- The grouping an item has: that of the last passed step. -/
def groupingAt (production : Production) (passed : Nat) : Option Associativity :=
  (stepBefore production passed).bind (·.grouping?)

/-- Compare the steps of two productions of equal length from index `i` on. -/
def compareStepsFrom (left right : Production) (passed : Nat) : Nat → Nat → Ordering
  | 0, _ => .eq
  | fuel + 1, i =>
      match left.steps[i]?, right.steps[i]? with
      | some a, some b =>
          let order := if i < passed then comparePassed a b else compareStep a b
          order.then (compareStepsFrom left right passed fuel (i + 1))
      | _, _ => .eq

/-- The order of items. -/
def compareItem (left right : OwnedProduction × Nat) : Ordering :=
  let (a, i) := left
  let (b, j) := right
  (compare i j).then <|
  (compare a.owner b.owner).then <|
  (compare a.production.dynamicPrecedence b.production.dynamicPrecedence).then <|
  (compare a.production.steps.size b.production.steps.size).then <|
  (compareOption compare (precedenceAt a.production i) (precedenceAt b.production j)).then <|
  (compareOption compareGrouping (groupingAt a.production i) (groupingAt b.production j)).then <|
  compareStepsFrom a.production b.production i a.production.steps.size 0

/--
The symbols that tell an item apart from others of its rank: those passed, once
a child that passes up fields is among them.
-/
def passedSymbols (grammar : PreparedGrammar) (inherited : Array (List String))
    (production : Production) (passed : Nat) : List Symbol :=
  let steps := (production.steps.extract 0 passed).toList
  let passesUp (step : Step) : Bool :=
    match step.symbol with
    | .nonterminal v =>
        match grammar.nonterminals[v]? with
        | some entry => !entry.visibility.isVisible && !(inherited.getD v []).isEmpty
        | none => false
    | _ => false
  if steps.any passesUp then steps.map (·.symbol) else []

/-- The items of a grammar. -/
def ofGrammar (grammar : PreparedGrammar) : ItemTable := Id.run do
  let vocabulary := Vocabulary.ofGrammar grammar
  let edges := EdgeSets.ofGrammar grammar
  let table := ProductionTable.ofGrammar grammar
  let inherited := closeFields grammar (grammar.nonterminals.size + 1)
    (Array.replicate grammar.nonterminals.size [])
  let mut places : Array (OwnedProduction × Nat) := #[]
  let mut production : Array Nat := #[]
  let mut passed : Array Nat := #[]
  let mut next : Array (Option Nat) := #[]
  let mut shapes : Array Shape := #[{}]
  let mut shapeOf : Array Nat := #[]
  let mut index := 0
  for owned in table.productions do
    for step in [0:owned.production.steps.size + 1] do
      places := places.push (owned, step)
      production := production.push index
      passed := passed.push step
      next := next.push ((owned.production.steps[step]?).map fun s => vocabulary.code s.symbol)
    let found := shape grammar inherited owned.production
    match shapes.findIdx? (· == found) with
    | some i => shapeOf := shapeOf.push i
    | none =>
        shapeOf := shapeOf.push shapes.size
        shapes := shapes.push found
    index := index + 1
  let sorted := ((List.range places.size).zip places.toList).mergeSort
    fun a b => compareItem a.2 b.2 != .gt
  let mut rank : Array Nat := Array.replicate places.size 0
  let mut identity : Array Nat := Array.replicate places.size 0
  let mut rankCount := 0
  let mut identityCount := 0
  let mut previous : Option (OwnedProduction × Nat) := none
  let mut variants : List (List Symbol × Nat) := []
  for (place, item) in sorted do
    let isNew : Bool := match previous with
      | none => true
      | some other => compareItem other item != .eq
    if isNew then
      rankCount := rankCount + 1
      variants := []
    previous := some item
    rank := rank.set! place (rankCount - 1)
    let symbols := passedSymbols grammar inherited item.1.production item.2
    match variants.find? (fun variant => variant.1 == symbols) with
    | some variant => identity := identity.set! place variant.2
    | none =>
        identity := identity.set! place identityCount
        variants := (symbols, identityCount) :: variants
        identityCount := identityCount + 1
  return { grammar, vocabulary, edges, table, production, passed, next, rank, rankCount,
           identity, shapes, shapeOf }

/-- The production of a place. -/
def productionAt (items : ItemTable) (place : Nat) : OwnedProduction :=
  items.table.productions.getD (items.production.getD place 0) default

end ItemTable

end SourceFacts.Grammar
