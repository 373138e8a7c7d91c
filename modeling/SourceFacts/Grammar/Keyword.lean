import SourceFacts.Grammar.Automaton
import SourceFacts.Grammar.LexicalConflict

namespace SourceFacts.Grammar

/-!
# Keywords and the error state

A keyword is a token whose text is also a word. Keywords are left out of the
patterns that the lexer tries; a word is looked up among them afterwards. While
recovering from an error the lexer has to accept all tokens that can be told
apart from each other.
-/

/-- Which tokens occur together in a state. -/
structure Coincidence where
  /-- The terminals that are possible in each state. -/
  present : Array TokenSet
  /-- The terminals found in a state together with each terminal. -/
  together : Array TokenSet
  /-- The same, in states where the word token is not possible. -/
  withoutWord : Array TokenSet

namespace Coincidence

/-- The terminals with actions in a state. -/
def presentIn (state : State) : TokenSet :=
  (List.range state.actions.size).foldl
    (fun set terminal =>
      if (state.actions.getD terminal #[]).isEmpty then set
      else set ||| TokenSet.single terminal)
    0

/-- Which terminals occur together in the states of an automaton. -/
def ofStates (terminalCount word : Nat) (states : Array State) : Coincidence :=
  let present := states.map presentIn
  let start := Array.replicate terminalCount 0
  let (together, withoutWord) := present.foldl
    (fun (sets : Array TokenSet × Array TokenSet) set =>
      (List.range terminalCount).foldl
        (fun (sets : Array TokenSet × Array TokenSet) terminal =>
          if !set.testBit terminal then sets
          else
            (sets.1.modify terminal (· ||| set),
              if set.testBit word then sets.2 else sets.2.modify terminal (· ||| set)))
        sets)
    (start, start)
  { present, together, withoutWord }

end Coincidence

/-- Whether all letters that can begin a token are alphabetic or an underscore. -/
def startsAlphabetically (lexicon : Lexicon) (token : Nat) : Bool :=
  let alphabetic := LetterSet.union (.range 'a' 'z')
    (.union (.range 'A' 'Z') (.union (.ofText "_") (.single Letter.identifierStart)))
  (lexicon.startOf [token]).all fun n =>
    match lexicon.states.getD n default with
    | .read letters _ isBlank _ => isBlank || (letters.diff alphabetic).isEmpty
    | _ => true

/--
The keywords among the tokens: those whose only text is a word, that share no
text with another such token, and that the word token can stand for without
disturbing further tokens.
-/
def keywordsOf (lexicon : Lexicon) (relations : TokenRelations) (vocabulary : Vocabulary)
    (coincidence : Coincidence) (word : Nat) : List Nat :=
  let tokens := List.range relations.count
  let candidates := tokens.filter fun token =>
    startsAlphabetically lexicon token &&
      (relations.get token word).sharesText &&
      !(relations.get token word).hasOwnText
  let distinct := candidates.filter fun token =>
    candidates.all fun other =>
      other == token || !(relations.get other token).sharesText
  distinct.filter fun token =>
    tokens.all fun other =>
      candidates.contains other ||
        !(coincidence.withoutWord.getD (vocabulary.code (.token token)) 0).testBit
          (vocabulary.code (.token other)) ||
        relations.get token other == relations.get word other

/-- The actions of the error state: to skip every token that can be told apart. -/
def errorActions (grammar : PreparedGrammar) (relations : TokenRelations) (vocabulary : Vocabulary)
    (coincidence : Coincidence) (keywords : List Nat) (word : Nat)
    (actions : Array (Array Action)) : Array (Array Action) :=
  let tokens := List.range relations.count
  let coincide (i j : Nat) : Bool :=
    (coincidence.together.getD (vocabulary.code (.token i)) 0).testBit
      (vocabulary.code (.token j))
  let conflictFree := tokens.filter fun i =>
    tokens.all fun j => j == i || coincide i j || !relations.shorterOrLonger i j
  let kept := tokens.filter fun i =>
    conflictFree.contains i || keywords.contains i || i == word ||
      conflictFree.all fun j => coincide i j || !relations.conflict i j
  let codes :=
    kept.map (fun i => vocabulary.code (.token i)) ++
      ((List.range vocabulary.layoutCount).filter fun i =>
        match grammar.layout[i]? with
        | some token => token.token?.isNone
        | none => false)
  let actions := codes.foldl
    (fun actions code =>
      if (actions.getD code #[]).isEmpty then actions.set! code #[.recover] else actions)
    actions
  actions.set! (vocabulary.code .finish) #[.recover]

end SourceFacts.Grammar
