import SourceFacts.Grammar.Production

namespace SourceFacts.Grammar

/-!
# Inlined nonterminals

An inlined nonterminal never becomes a node. Wherever it stands next in a
production, the production is replaced by those that hold its definitions in its
place. The places of all productions, original and replaced, are numbered: a
*place* is a production with the number of steps already passed.
-/

/-- A production together with the nonterminal it belongs to. -/
structure OwnedProduction where
  owner : Nat
  production : Production
deriving Repr, DecidableEq, Inhabited

/-- The productions of a grammar and the replacements made by inlining. -/
structure ProductionTable where
  productions : Array OwnedProduction
  /-- The first place of each production. -/
  firstPlace : Array Nat
  /-- Number of places. -/
  placeCount : Nat
  /-- The productions that replace a place whose next symbol is inlined. -/
  replacements : Array (Option (Array Nat))

namespace ProductionTable

/-- Put the definition `body` in the place of the step at `index`. -/
def splice (production : Production) (index : Nat) (body : Production) : Production :=
  match production.steps[index]? with
  | none => production
  | some replaced =>
      let count := body.steps.size
      let inserted := body.steps.mapIdx fun i step =>
        let step := { step with
          alias? := replaced.alias?.or step.alias?
          field? := replaced.field?.or step.field? }
        if i + 1 == count then
          { step with
            precedence? := step.precedence?.or replaced.precedence?
            grouping? := step.grouping?.or replaced.grouping? }
        else
          step
      let steps := production.steps.extract 0 index ++ inserted ++
        production.steps.extract (index + 1) production.steps.size
      let dynamicPrecedence :=
        if body.dynamicPrecedence.natAbs > production.dynamicPrecedence.natAbs then
          body.dynamicPrecedence
        else
          production.dynamicPrecedence
      { steps, dynamicPrecedence }

/--
All productions obtained from `production` by replacing the step at `index` by
the definitions of an inlined nonterminal, as often as one stands there.
-/
def inlineAt (grammar : PreparedGrammar) (index : Nat) : Nat → Production → List Production
  | 0, production => [production]
  | fuel + 1, production =>
      match production.steps[index]? with
      | some { symbol := .nonterminal v, .. } =>
          if grammar.inlined.contains (.nonterminal v) then
            match grammar.nonterminals[v]? with
            | some entry => entry.content.toList.flatMap fun body =>
                inlineAt grammar index fuel (splice production index body)
            | none => [production]
          else
            [production]
      | _ => [production]

/-- Productions found while inlining, with the replacements made so far. -/
structure Progress where
  productions : Array OwnedProduction := #[]
  replacements : Array (Nat × Nat × Array Nat) := #[]

/-- The index of a production of a nonterminal, adding it if it is new. -/
def Progress.index (progress : Progress) (first : Nat) (production : OwnedProduction) :
    Nat × Progress :=
  match (List.range (progress.productions.size - first)).find? fun i =>
      progress.productions[first + i]? == some production with
  | some i => (first + i, progress)
  | none =>
      (progress.productions.size,
        { progress with productions := progress.productions.push production })

/--
Visit the places of a production from `step` on and record the replacements of
those where an inlined nonterminal stands next. `first` is the first production
that was made by inlining for the same nonterminal.
-/
def visit (grammar : PreparedGrammar) (first : Nat) :
    Nat → List (Nat × Nat) → Progress → Progress
  | 0, _, progress => progress
  | _, [], progress => progress
  | fuel + 1, (index, step) :: pending, progress =>
      match progress.productions[index]? with
      | none => visit grammar first fuel pending progress
      | some owned =>
          match owned.production.steps[step]? with
          | none => visit grammar first fuel pending progress
          | some next =>
              if grammar.inlined.contains next.symbol then
                if progress.replacements.any fun entry => entry.1 == index && entry.2.1 == step then
                  visit grammar first fuel pending progress
                else
                  let bodies := inlineAt grammar step 8 owned.production
                  let (indices, progress) := bodies.foldl
                    (fun (found : Array Nat × Progress) body =>
                      let (i, progress) := found.2.index first ⟨owned.owner, body⟩
                      (found.1.push i, progress))
                    (#[], progress)
                  let progress := { progress with
                    replacements := progress.replacements.push (index, step, indices) }
                  visit grammar first fuel
                    (indices.toList.map (fun i => (i, step)) ++ pending) progress
              else
                visit grammar first fuel ((index, step + 1) :: pending) progress

/-- Number the productions of a grammar and inline its inlined nonterminals. -/
def ofGrammar (grammar : PreparedGrammar) : ProductionTable := Id.run do
  let mut progress : Progress := {}
  for h : owner in [0:grammar.nonterminals.size] do
    for production in grammar.nonterminals[owner].content do
      progress := { progress with productions := progress.productions.push ⟨owner, production⟩ }
  let given := progress.productions
  let mut previous := grammar.nonterminals.size
  let mut first := given.size
  for h : index in [0:given.size] do
    if given[index].owner != previous then
      previous := given[index].owner
      first := progress.productions.size
    progress := visit grammar first 1000000 [(index, 0)] progress
  let start : OwnedProduction :=
    { owner := grammar.nonterminals.size, production := { steps := #[{ symbol := .nonterminal 0 }] } }
  let productions := progress.productions.push start
  let mut firstPlace : Array Nat := #[]
  let mut placeCount := 0
  for owned in productions do
    firstPlace := firstPlace.push placeCount
    placeCount := placeCount + owned.production.steps.size + 1
  let mut replacements : Array (Option (Array Nat)) := Array.replicate placeCount none
  for (index, step, indices) in progress.replacements do
    replacements := replacements.set! (firstPlace.getD index 0 + step) (some indices)
  return { productions, firstPlace, placeCount, replacements }

end ProductionTable

end SourceFacts.Grammar
