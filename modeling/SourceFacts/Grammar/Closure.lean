import SourceFacts.Grammar.Item

namespace SourceFacts.Grammar

/-!
# Closures of item sets

When a nonterminal stands next in an item, all its productions may begin there, and
so on for the nonterminals that begin those. What a nonterminal adds to an item set
depends only on the tokens that may follow it, so the additions of each nonterminal
are computed once.
-/

/-- An item that a nonterminal adds to every item set where it stands next. -/
structure Addition where
  place : Nat
  /-- Tokens that may always follow the item. -/
  lookaheads : TokenSet
  /-- Whether what follows the nonterminal may also follow the item. -/
  inherits : Bool
deriving Repr, Inhabited

/-- What may follow a nonterminal that begins another one. -/
structure Following where
  lookaheads : TokenSet := 0
  inherits : Bool := false
deriving Repr, Inhabited

/-- An item of a set: a place with the tokens that may follow its production. -/
structure Item where
  place : Nat
  lookaheads : TokenSet
deriving Repr, DecidableEq, Inhabited

namespace ItemTable

/--
Find the nonterminals that can begin others, with what may follow each. An entry of
the work list asks to record that a nonterminal occurs before the given tokens.
-/
def spread (items : ItemTable) :
    Nat → List (Nat × Following) → Array (Option Following) → Array (Option Following)
  | 0, _, found => found
  | _, [], found => found
  | fuel + 1, (v, follow) :: pending, found =>
      let known := (found.getD v none).getD {}
      let merged : Following :=
        if follow.inherits then { known with inherits := true }
        else { known with lookaheads := known.lookaheads ||| follow.lookaheads }
      let isNew :=
        if follow.inherits then !known.inherits
        else merged.lookaheads != known.lookaheads
      let found := found.set! v (some merged)
      if !isNew then
        items.spread fuel pending found
      else
        let productions := ((items.grammar.nonterminals[v]?).map (·.content)).getD #[]
        let more := productions.toList.filterMap fun (production : Production) =>
          match production.symbol? 0 with
          | some (.nonterminal w) =>
              match production.symbol? 1 with
              | none => some (w, follow)
              | some second =>
                  some (w, { lookaheads := items.edges.firstOf items.vocabulary second })
          | _ => none
        items.spread fuel (more ++ pending) found

/-- The places that stand for a place: its replacements, or itself. -/
def expand (items : ItemTable) (place : Nat) : List Nat :=
  match items.table.replacements.getD place none with
  | some productions =>
      let passed := items.passed.getD place 0
      productions.toList.map fun production =>
        items.table.firstPlace.getD production 0 + passed
  | none => [place]

/-- The additions of one nonterminal. -/
def additionsOf (items : ItemTable) (v : Nat) (firstProduction : Array Nat) :
    Array Addition :=
  let count := items.grammar.nonterminals.size
  let found := items.spread 1000000 [(v, { inherits := true })] (Array.replicate count none)
  (List.range count).foldl
    (fun additions w =>
      match found.getD w none with
      | none => additions
      | some follow =>
          if items.grammar.inlined.contains (.nonterminal w) then additions
          else
            let productions := ((items.grammar.nonterminals[w]?).map (·.content)).getD #[]
            let first := firstProduction.getD w 0
            (List.range productions.size).foldl
              (fun additions i =>
                let place := items.table.firstPlace.getD (first + i) 0
                (items.expand place).foldl
                  (fun additions place =>
                    additions.push ⟨place, follow.lookaheads, follow.inherits⟩)
                  additions)
              additions)
    #[]

/-- The number of the first production of each nonterminal. -/
def firstProductions (grammar : PreparedGrammar) : Array Nat :=
  (grammar.nonterminals.foldl
    (fun (state : Array Nat × Nat) entry => (state.1.push state.2, state.2 + entry.content.size))
    (#[], 0)).1

/-- The additions of all nonterminals. -/
def additions (items : ItemTable) : Array (Array Addition) :=
  let first := firstProductions items.grammar
  (Array.range items.grammar.nonterminals.size).map fun v => items.additionsOf v first

/--
Working space for building an item set, indexed by rank: the place that stands
for the rank, plus one, and its lookaheads. Only the listed ranks are in use.
-/
structure Workspace where
  places : Array Nat
  lookaheads : Array TokenSet
  used : Array Nat := #[]

/-- An empty working space. -/
def workspace (items : ItemTable) : Workspace where
  places := Array.replicate items.rankCount 0
  lookaheads := Array.replicate items.rankCount 0

/-- Add an item to the set. The first item of a rank stands for the rank. -/
@[inline] def Workspace.insert (space : Workspace) (rank place : Nat) (tokens : TokenSet) :
    Workspace :=
  let { places, lookaheads, used } := space
  if places.getD rank 0 = 0 then
    { places := places.set! rank (place + 1)
      lookaheads := lookaheads.set! rank tokens
      used := used.push rank }
  else
    { places
      lookaheads := lookaheads.modify rank (· ||| tokens)
      used }

/-- Add an item and what the nonterminal next in it adds. -/
def addItem (items : ItemTable) (additions : Array (Array Addition))
    (space : Workspace) (place : Nat) (lookaheads : TokenSet) : Workspace :=
  let space := match items.next.getD place none with
    | none => space
    | some symbol =>
        if symbol < items.vocabulary.terminalCount then space
        else
          let v := symbol - items.vocabulary.terminalCount
          let following := match items.next.getD (place + 1) none with
            | none => lookaheads
            | some symbol =>
                items.edges.firstOf items.vocabulary (items.vocabulary.symbol symbol)
          (additions.getD v #[]).foldl
            (fun (space : Workspace) (addition : Addition) =>
              let tokens :=
                if addition.inherits then addition.lookaheads ||| following
                else addition.lookaheads
              space.insert (items.rank.getD addition.place 0) addition.place tokens)
            space
  space.insert (items.rank.getD place 0) place lookaheads

/-- Read off the items of the set in order and leave the space empty. -/
def Workspace.drain (space : Workspace) : Array Item × Workspace :=
  let { places, lookaheads, used } := space
  let sorted := used.qsort (· < ·)
  let found := sorted.map fun rank =>
    { place := places.getD rank 0 - 1, lookaheads := lookaheads.getD rank 0 : Item }
  let places := sorted.foldl (fun places rank => places.set! rank 0) places
  (found, { places, lookaheads, used := #[] })

/-- The closure of an item set, in order. -/
def closure (items : ItemTable) (additions : Array (Array Addition))
    (kernel : Array Item) (space : Workspace) : Array Item × Workspace :=
  (kernel.foldl
    (fun space item => (items.expand item.place).foldl
      (fun space place => items.addItem additions space place item.lookaheads) space)
    space).drain

end ItemTable

end SourceFacts.Grammar
