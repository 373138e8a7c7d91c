import SourceFacts.Grammar.Keyword

namespace SourceFacts.Grammar

/-!
# Merging states

States of equal core are merged when their actions agree and when no token of
one could disturb the recognition of a token of the other. Reductions that only
pass a node on are skipped, states that are never reached are dropped, and the
rest are put in order of size.
-/

/-- What decides whether states may be merged. -/
structure MergeRules where
  /-- Tokens that may not be added to a state. -/
  never : TokenSet
  /-- For each token, the tokens it may not join. -/
  conflicts : Array TokenSet

namespace MergeRules

/-- The rules of a grammar. -/
def ofGrammar (grammar : PreparedGrammar) (vocabulary : Vocabulary) (relations : TokenRelations)
    (keywords : List Nat) (word : Nat) : MergeRules :=
  let never := (List.range grammar.layout.size).foldl
    (fun set i =>
      let set := set ||| TokenSet.single i
      match (grammar.layout[i]?).bind (·.token?) with
      | some token => set ||| TokenSet.single (vocabulary.code (.token token))
      | none => set)
    0
  let tokens := List.range relations.count
  let conflictsOf (token : Nat) : TokenSet :=
    tokens.foldl
      (fun set other =>
        let exempt := (other == word && keywords.contains token) ||
          (token == word && keywords.contains other)
        if !exempt && relations.conflict token other then
          set ||| TokenSet.single (vocabulary.code (.token other))
        else set)
      0
  let conflicts := tokens.foldl
    (fun (table : Array TokenSet) token =>
      table.set! (vocabulary.code (.token token)) (conflictsOf token))
    (Array.replicate vocabulary.terminalCount 0)
  { never, conflicts }

/-- The tokens that may not join a state with the given tokens. -/
def barred (rules : MergeRules) (present : TokenSet) : TokenSet :=
  (List.range rules.conflicts.size).foldl
    (fun set token =>
      if rules.conflicts.getD token 0 &&& present != 0 then set ||| TokenSet.single token else set)
    rules.never

end MergeRules

/-- A state as merging looks at it. -/
structure MergeView where
  actions : Array (Array Action)
  present : TokenSet
  barred : TokenSet
  /-- The terminals whose last action is to shift, with the state after them. -/
  shifts : Array (Nat × Nat)
  /-- The nonterminals that may come next, with the state after them. -/
  gotos : Array (Nat × Nat)
deriving Inhabited

namespace MergeView

/-- The view of a state. -/
def ofState (rules : MergeRules) (state : State) (present : TokenSet) : MergeView where
  actions := state.actions
  present
  barred := rules.barred present
  shifts := (Array.range state.actions.size).filterMap fun terminal =>
    match (state.actions.getD terminal #[]).back? with
    | some (.shift target _) => some (terminal, target)
    | _ => none
  gotos := (Array.range state.successors.size).filterMap fun v =>
    (state.successors.getD v none).map fun target => (v, target)

/-- Whether two actions do the same, taking the states of a group as one. -/
def sameAction (group : Array Nat) : Action → Action → Bool
  | .shift s r, .shift t q => group.getD s 0 == group.getD t 0 && r == q
  | a, b => a == b

/-- Whether two lists of actions do the same. -/
def sameActions (group : Array Nat) (left right : Array Action) : Bool :=
  left.size == right.size &&
    (List.range left.size).all fun i =>
      sameAction group (left.getD i default) (right.getD i default)

/-- Whether two states may not be merged because of their actions or tokens. -/
def conflict (group : Array Nat) (left right : MergeView) : Bool :=
  let common := left.present &&& right.present
  let onlyLeft := left.present ^^^ common
  let onlyRight := right.present ^^^ common
  onlyLeft &&& right.barred != 0 || onlyRight &&& left.barred != 0 ||
    (List.range left.actions.size).any fun terminal =>
      let a := left.actions.getD terminal #[]
      let b := right.actions.getD terminal #[]
      !a.isEmpty && !b.isEmpty && !sameActions group a b

/-- Whether two sorted tables send a common key to different groups. -/
def differs (group : Array Nat) (left right : Array (Nat × Nat)) : Nat → Nat → Nat → Bool
  | 0, _, _ => false
  | fuel + 1, i, j =>
      match left[i]?, right[j]? with
      | some (a, s), some (b, t) =>
          if a < b then differs group left right fuel (i + 1) j
          else if b < a then differs group left right fuel i (j + 1)
          else if group.getD s 0 != group.getD t 0 then true
          else differs group left right fuel (i + 1) (j + 1)
      | _, _ => false

/-- Whether some symbol leads from the two states to different groups. -/
def successorsDiffer (group : Array Nat) (left right : MergeView) : Bool :=
  differs group left.shifts right.shifts (left.shifts.size + right.shifts.size) 0 0 ||
    differs group left.gotos right.gotos (left.gotos.size + right.gotos.size) 0 0

end MergeView

/-- A partition of the states into groups. -/
structure Partition where
  groups : Array (Array Nat)
  group : Array Nat

namespace Partition

/-- The states of a group that have to leave it, in the order they are found. -/
def leaving (clash : Nat → Nat → Bool) (members : Array Nat) : Array Nat :=
  (List.range members.size).foldl
    (fun found i =>
      let left := members.getD i 0
      if found.contains left then found
      else (List.range (members.size - (i + 1))).foldl
        (fun found k =>
          let right := members.getD (i + 1 + k) 0
          if found.contains right then found
          else if clash left right then found.push right else found)
        found)
    #[]

/-- Split the groups from number `n` on; new groups are split as well. -/
def splitFrom (clash : Array Nat → Nat → Nat → Bool) :
    Nat → Nat → Partition → Bool → Partition × Bool
  | 0, _, partition, changed => (partition, changed)
  | fuel + 1, n, partition, changed =>
      if n < partition.groups.size then
        let members := partition.groups.getD n #[]
        let out := leaving (clash partition.group) members
        if out.isEmpty then
          splitFrom clash fuel (n + 1) partition changed
        else
          let fresh := partition.groups.size
          let partition : Partition := {
            groups := (partition.groups.set! n (members.filter fun m => !out.contains m)).push out
            group := out.foldl (fun group m => group.set! m fresh) partition.group }
          splitFrom clash fuel (n + 1) partition true
      else
        (partition, changed)

/-- Split the groups until nothing changes. -/
def refine (clash : Array Nat → Nat → Nat → Bool) : Nat → Partition → Partition
  | 0, partition => partition
  | fuel + 1, partition =>
      let (next, changed) := splitFrom clash 1000000 0 partition false
      if changed then refine clash fuel next else next

/-- The partition of states by core. -/
def byCore (states : Array State) : Partition :=
  let count := states.foldl (fun n state => max n (state.core + 1)) 0
  { groups := (List.range states.size).foldl
      (fun groups n => groups.modify (states.getD n default).core (·.push n))
      (Array.replicate count #[])
    group := states.map (·.core) }

end Partition

namespace State

/-- Replace the states a state refers to. -/
def mapTargets (f : Nat → Nat) (state : State) : State :=
  { state with
    actions := state.actions.map (·.map fun action =>
      match action with
      | .shift target isRepetition => .shift (f target) isRepetition
      | action => action)
    successors := state.successors.map (·.map f) }

/-- The states a state refers to. -/
def targets (state : State) : List Nat :=
  state.actions.toList.flatMap (fun actions => actions.toList.filterMap fun action =>
    match action with
    | .shift target _ => some target
    | _ => none) ++
  state.successors.toList.filterMap id

/-- Number of symbols a state can handle. -/
def size (state : State) : Nat :=
  (state.actions.filter fun actions => !actions.isEmpty).size +
    (state.successors.filter (·.isSome)).size

/-- The union of the entries of two states; the second one takes precedence. -/
def merge (left right : State) : State :=
  { left with
    actions := (Array.range left.actions.size).map fun i =>
      let own := right.actions.getD i #[]
      if own.isEmpty then left.actions.getD i #[] else own
    successors := (Array.range left.successors.size).map fun i =>
      (right.successors.getD i none).or (left.successors.getD i none) }

end State

/-- Merge the compatible states of an automaton. -/
def mergeStates (rules : MergeRules) (present : Array TokenSet) (states : Array State) :
    Array State :=
  let views := (Array.range states.size).map fun n =>
    MergeView.ofState rules (states.getD n default) (present.getD n 0)
  let view (n : Nat) : MergeView := views.getD n default
  let start := Partition.byCore states
  let (split, _) := start.splitFrom (fun group a b => (view a).conflict group (view b)) 1000000 0 false
  let final := split.refine (fun group a b => (view a).successorsDiffer group (view b)) 1000
  final.groups.map fun members =>
    let merged := match members.toList with
      | [] => default
      | first :: rest => rest.foldl
          (fun (state : State) n => state.merge (states.getD n default)) (states.getD first default)
    merged.mapTargets fun n => final.group.getD n 0

/--
The nonterminal that a state does nothing but wrap around one child, if passing
the child on makes no difference to the tree.
-/
def unitNonterminal? (mayPass : Nat → Bool) (state : State) : Option Nat :=
  let result := state.actions.foldl
    (fun (found : Option (Option Nat)) actions => actions.foldl
      (fun (found : Option (Option Nat)) action =>
        match found with
        | none => none
        | some known =>
            match action with
            | .shiftExtra => found
            | .reduce v 1 0 0 =>
                if mayPass v && (known.isNone || known == some v) then some (some v) else none
            | _ => none)
      found)
    (some none)
  result.join

/-- Follow references through states that only pass a node on. -/
def skipUnits (units : Array (Option Nat)) (state : State) : Nat → State
  | 0 => state
  | fuel + 1 =>
      let passes (target : Nat) : Bool := (units.getD target none).isSome
      if state.targets.any passes then
        let next := state.mapTargets fun target =>
          match units.getD target none with
          | none => target
          | some v => (state.successors.getD v none).getD target
        skipUnits units next fuel
      else
        state

/-- Remove the reductions that only pass a node on. -/
def removeUnitReductions (grammar : PreparedGrammar) (states : Array State) : Array State :=
  let aliased := grammar.nonterminals.foldl
    (fun found entry => entry.content.foldl
      (fun found production => production.steps.foldl
        (fun (found : List Symbol) step =>
          if step.alias?.isSome && !found.contains step.symbol then step.symbol :: found else found)
        found)
      found)
    []
  let mayPass (v : Nat) : Bool :=
    let symbol := Symbol.nonterminal v
    let isNamed := match grammar.nonterminals[v]? with
      | some entry => entry.visibility == .named
      | none => true
    !isNamed && (grammar.defaultAlias? symbol).isNone &&
      !grammar.supertypes.contains symbol && !aliased.contains symbol
  let units := states.map (unitNonterminal? mayPass)
  states.map fun state => skipUnits units state 64

/-- Drop the states that no state refers to, and number the rest anew. -/
def removeUnused (states : Array State) : Array State :=
  let used := states.foldl
    (fun used state => state.targets.foldl (fun used n => used.set! n true) used)
    (((Array.replicate states.size false).set! 0 true).set! 1 true)
  let numbers := ((List.range states.size).foldl
    (fun (found : Array Nat × Nat) n =>
      (found.1.push found.2, if used.getD n false then found.2 + 1 else found.2))
    (#[], 0)).1
  let kept := (Array.range states.size).filter fun n => used.getD n false
  kept.map fun n => (states.getD n default).mapTargets fun m => numbers.getD m 0

/-- Put the states in order of decreasing size, after the first two. -/
def sortBySize (states : Array State) : Array State :=
  let sizes := states.map State.size
  let order := (List.range states.size).mergeSort fun a b =>
    if a ≤ 1 || b ≤ 1 then a ≤ b else sizes.getD a 0 ≥ sizes.getD b 0
  let numbers := ((List.range states.size).zip order).foldl
    (fun (numbers : Array Nat) (position, n) => numbers.set! n position)
    (Array.replicate states.size 0)
  (order.map fun n => (states.getD n default).mapTargets fun m => numbers.getD m 0).toArray

end SourceFacts.Grammar
