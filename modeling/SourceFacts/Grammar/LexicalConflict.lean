import SourceFacts.Grammar.Lexicon
import SourceFacts.Grammar.TokenSet

namespace SourceFacts.Grammar

/-!
# Conflicts between tokens

Whether two tokens can be told apart depends on what may follow them. For each
pair of tokens the automaton of both is searched for the ways in which one gets
in the other's way: by matching the same text, by matching a longer text, or by
being cut short.
-/

/-- How a token stands to another token. -/
structure TokenRelation where
  /-- The token is preferred although the other could go on. -/
  cutsShort : Bool := false
  /-- The token goes on where the other is complete. -/
  continues : Bool := false
  /-- It does so with a character that may follow the other. -/
  continuesValidly : Bool := false
  /-- The token is complete where blanks may still be read. -/
  endsInBlanks : Bool := false
  /-- The token is preferred for a text both match. -/
  sharesText : Bool := false
  /-- The token matches a text that the other does not match. -/
  hasOwnText : Bool := false
deriving Repr, DecidableEq, Inhabited

/-- The relations between all pairs of tokens. -/
structure TokenRelations where
  count : Nat
  relations : Array TokenRelation

namespace TokenRelations

/-- How token `i` stands to token `j`. -/
def get (known : TokenRelations) (i j : Nat) : TokenRelation :=
  known.relations.getD (known.count * i + j) {}

/-- Whether token `i` can disturb the recognition of token `j`. -/
def conflict (known : TokenRelations) (i j : Nat) : Bool :=
  let relation := known.get i j
  relation.continuesValidly || relation.endsInBlanks || relation.sharesText

/-- Whether the texts of token `i` overlap those of token `j`. -/
def overlap (known : TokenRelations) (i j : Nat) : Bool :=
  let relation := known.get i j
  relation.endsInBlanks || relation.cutsShort || relation.sharesText || relation.continues

/-- Whether token `i` matches a text shorter or longer than token `j` does. -/
def shorterOrLonger (known : TokenRelations) (i j : Nat) : Bool :=
  let relation := known.get i j
  (relation.continuesValidly || relation.endsInBlanks) && !(known.get j i).endsInBlanks

/-- The relations of a pair found so far. -/
structure Pair where
  left : TokenRelation := {}
  right : TokenRelation := {}

/-- Update the relation of the token `token`, which is `i` or the other one. -/
def Pair.update (pair : Pair) (i token : Nat) (f : TokenRelation → TokenRelation) : Pair :=
  if token = i then { pair with left := f pair.left } else { pair with right := f pair.right }

/-- Record the tokens that are complete in a set of states. -/
def noteCompletions (lexicon : Lexicon) (i : Nat) (inBlanks : Bool) :
    List (Nat × Int) → Option (Nat × Int) → Pair → Option (Nat × Int) × Pair
  | [], completed, pair => (completed, pair)
  | found :: rest, completed, pair =>
      let pair := if inBlanks then pair.update i found.1 ({ · with endsInBlanks := true }) else pair
      match completed with
      | none => noteCompletions lexicon i inBlanks rest (some found) pair
      | some known =>
          if known.1 = found.1 then noteCompletions lexicon i inBlanks rest completed pair
          else
            let preferred := if lexicon.prefersToken known found then known else found
            noteCompletions lexicon i inBlanks rest (some preferred)
              (pair.update i preferred.1 ({ · with sharesText := true }))

/-- Record what a transition means for a token that is already complete. -/
def noteTransition (lexicon : Lexicon) (following : Array LetterSet) (i j : Nat)
    (inBlanks : Bool) (completed : Nat × Int) (transition : Lexicon.Transition) (pair : Pair) :
    Pair :=
  let live := lexicon.tokensOf transition.states
  if live.contains completed.1 then pair
  else
    match live.head? with
    | none => pair
    | some advanced =>
        if lexicon.prefersTransition transition completed inBlanks then
          let other := if advanced = i then j else i
          let valid := !(transition.letters.inter (following.getD other .empty)).isEmpty
          pair.update i advanced fun relation =>
            { relation with
              continues := true
              continuesValidly := relation.continuesValidly || valid }
        else
          pair.update i completed.1 ({ · with cutsShort := true })

/-- Search the sets of states in which two tokens are matched side by side. -/
def search (lexicon : Lexicon) (following : Array LetterSet) (i j : Nat) :
    Nat → List (List Nat) → List (List Nat) → Pair → Pair
  | 0, _, _, pair => pair
  | _, [], _, pair => pair
  | fuel + 1, states :: pending, visited, pair =>
      match lexicon.tokensOf states with
      | [] => search lexicon following i j fuel pending visited pair
      | [token] =>
          search lexicon following i j fuel pending visited
            (pair.update i token ({ · with hasOwnText := true }))
      | _ =>
          let inBlanks := lexicon.readsBlank states
          let (completed, pair) :=
            noteCompletions lexicon i inBlanks (lexicon.completions states) none pair
          let transitions := lexicon.transitions states
          let pair := match completed with
            | none => pair
            | some known => transitions.foldl
                (fun pair transition =>
                  noteTransition lexicon following i j inBlanks known transition pair)
                pair
          let (pending, visited) := transitions.foldl
            (fun (state : List (List Nat) × List (List Nat)) transition =>
              if state.2.contains transition.states then state
              else (transition.states :: state.1, transition.states :: state.2))
            (pending, visited)
          search lexicon following i j fuel pending visited pair

/-- The letters that can begin a token or the blanks before it. -/
def startLetters (lexicon : Lexicon) (token : Nat) : LetterSet :=
  (lexicon.transitions (lexicon.startOf [token])).foldl
    (fun letters transition => letters.union transition.letters) .empty

/-- The tokens that may follow each token, by token number. -/
def followingTokens (vocabulary : Vocabulary) (edges : EdgeSets) (grammar : PreparedGrammar)
    (productions : Array Production) : Array TokenSet := Id.run do
  let tokenCode (i : Nat) : Nat := vocabulary.code (.token i)
  let allTokens := (List.range grammar.tokens.size).foldl
    (fun set i => set ||| TokenSet.single (tokenCode i)) 0
  let mut result : Array TokenSet := Array.replicate grammar.tokens.size 0
  for production in productions do
    for i in [1:production.steps.size] do
      match production.symbol? (i - 1), production.symbol? i with
      | some left, some right =>
          let ends := edges.lastOf vocabulary left
          let begins := edges.firstOf vocabulary right
          for token in [0:grammar.tokens.size] do
            if ends.testBit (tokenCode token) then
              result := result.modify token (· ||| begins)
      | _, _ => pure ()
  for extra in grammar.extras do
    match extra with
    | .token i =>
        result := result.map (· ||| TokenSet.single (tokenCode i))
        result := result.set! i allTokens
    | _ => pure ()
  return result

/-- The relations between the tokens of a grammar. -/
def ofLexicon (lexicon : Lexicon) (vocabulary : Vocabulary) (follow : Array TokenSet) :
    TokenRelations :=
  let count := lexicon.start.size
  let starts := (Array.range count).map (startLetters lexicon)
  let following := follow.map fun set =>
    (List.range count).foldl
      (fun letters token =>
        if set.testBit (vocabulary.code (.token token)) then
          letters.union (starts.getD token .empty)
        else letters)
      .empty
  let relations := (List.range count).foldl
    (fun relations i => (List.range i).foldl
      (fun (relations : Array TokenRelation) j =>
        let pair := search lexicon following i j 100000 [lexicon.startOf [i, j]] [] {}
        (relations.set! (count * i + j) pair.left).set! (count * j + i) pair.right)
      relations)
    (Array.replicate (count * count) {})
  { count, relations }

end TokenRelations

end SourceFacts.Grammar
