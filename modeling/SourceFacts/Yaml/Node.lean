import SourceFacts.Yaml.Token

namespace SourceFacts.Yaml

/-!
# The nodes of a YAML document

A document is a tree of scalars, sequences and mappings. A node may have a name,
by which it stands in other places too.
-/

/-- A node. -/
inductive Node where
  /-- A scalar with its complete tag, if it has one. -/
  | scalar (text : String) (isPlain : Bool) (tag? : Option String)
  | sequence (items : List Node)
  | mapping (entries : List (Node × Node))
deriving Repr, Inhabited

/-- What stands where nothing is written. -/
def Node.absent : Node := .scalar "" true none

/-! ## Reading nodes -/

/-- How far tokens have been read. -/
structure NodeReader where
  tokens : List Token
  /-- What the handles of tags stand for. -/
  handles : List (String × String) := []
  /-- The named nodes, the latest first; those that are still being read are missing. -/
  anchors : List (String × Option Node) := []
deriving Inhabited

/-- A part of reading nodes. -/
abbrev NodeM := StateT NodeReader Option

namespace NodeM

/-- The next token. -/
def peek : NodeM Token := do
  match (← get).tokens with
  | [] => failure
  | token :: _ => return token

/-- Passes over the next token. -/
def skip : NodeM Unit := modify fun reader => { reader with tokens := reader.tokens.drop 1 }

/-- Passes over the next token if it is a given one. -/
def skipIf (token : Token) : NodeM Bool := do
  if (← peek) = token then
    skip
    return true
  else return false

/-- Names a node. -/
def name (anchor? : Option String) (node? : Option Node) : NodeM Unit :=
  match anchor? with
  | none => return ()
  | some anchor =>
      modify fun reader => { reader with anchors := (anchor, node?) :: reader.anchors }

/-- The node of a name. -/
def named (anchor : String) : NodeM Node := do
  match (← get).anchors.find? (·.1 = anchor) with
  | some (_, some node) => return node
  | _ => failure

/-- The complete form of a tag. -/
def complete (tag : Tag) : NodeM String := do
  if tag.handle = "" then return tag.suffix
  else
    match (← get).handles.find? (·.1 = tag.handle) with
    | some (_, start) => return start ++ tag.suffix
    | none => failure

/-- Reads the name and the tag before a node, each at most once and in any order. -/
def properties : NodeM (Option String × Option String) := do
  let anchor? : NodeM (Option String) := do
    match ← peek with
    | .anchor anchor =>
        skip
        return some anchor
    | _ => return none
  let tag? : NodeM (Option String) := do
    match ← peek with
    | .tag tag =>
        skip
        return some (← complete tag)
    | _ => return none
  match ← anchor? with
  | some anchor => return (some anchor, ← tag?)
  | none =>
      let tag ← tag?
      return (← if tag.isSome then anchor? else pure none, tag)

end NodeM

open NodeM

/-- Whether a token ends an item of a block. -/
def endsBlockItem (token : Token) : Bool := token = .blockEntry || token = .blockEnd

/-- Whether a token ends an item that is written below a key. -/
def endsNestedItem (token : Token) : Bool :=
  token = .blockEntry || token = .key || token = .value || token = .blockEnd

/-- Whether a token ends a key or a value of a block. -/
def endsBlockPart (token : Token) : Bool :=
  token = .key || token = .value || token = .blockEnd

/-- Whether a token ends a key between brackets. -/
def endsFlowKey (closing token : Token) : Bool :=
  token = .value || token = .flowEntry || token = closing

/-- Whether a token ends a value between brackets. -/
def endsFlowValue (closing token : Token) : Bool := token = .flowEntry || token = closing

mutual

/-- Reads a node, which may be a block, and may be items below a key. -/
def readNode (mayBlock mayNest : Bool) : Nat → NodeM Node
  | 0 => failure
  | fuel + 1 => do
      match ← peek with
      | .alias_ anchor =>
          skip
          named anchor
      | _ =>
          let (anchor?, tag?) ← properties
          name anchor? none
          let node ← readContent mayBlock mayNest (anchor?.isSome || tag?.isSome) tag? fuel
          name anchor? (some node)
          return node

/-- Reads a node without the name and the tag before it. -/
def readContent (mayBlock mayNest hasProperties : Bool) (tag? : Option String) :
    Nat → NodeM Node
  | 0 => failure
  | fuel + 1 => do
      match ← peek with
      | .blockEntry =>
          if mayNest then return .sequence (← readNestedItems fuel)
          else if hasProperties then return .scalar "" true tag?
          else failure
      | .scalar text isPlain =>
          skip
          return .scalar text isPlain tag?
      | .flowSequenceStart =>
          skip
          return .sequence (← readFlowItems true fuel)
      | .flowMappingStart =>
          skip
          return .mapping (← readFlowEntries true fuel)
      | .blockSequenceStart =>
          if mayBlock then
            skip
            return .sequence (← readBlockItems fuel)
          else if hasProperties then return .scalar "" true tag?
          else failure
      | .blockMappingStart =>
          if mayBlock then
            skip
            return .mapping (← readBlockEntries fuel)
          else if hasProperties then return .scalar "" true tag?
          else failure
      | _ => if hasProperties then return .scalar "" true tag? else failure

/-- Reads a node unless the next token ends its place. -/
def readUnless (ends : Token → Bool) (mayBlock mayNest : Bool) : Nat → NodeM Node
  | 0 => failure
  | fuel + 1 => do
      if ends (← peek) then return .absent else readNode mayBlock mayNest fuel

/-- Reads the items of a block and its end. -/
def readBlockItems : Nat → NodeM (List Node)
  | 0 => failure
  | fuel + 1 => do
      match ← peek with
      | .blockEntry =>
          skip
          let item ← readUnless endsBlockItem true false fuel
          return item :: (← readBlockItems fuel)
      | .blockEnd =>
          skip
          return []
      | _ => failure

/-- Reads items below a key, which need no indentation. -/
def readNestedItems : Nat → NodeM (List Node)
  | 0 => failure
  | fuel + 1 => do
      if ← skipIf .blockEntry then
        let item ← readUnless endsNestedItem true false fuel
        return item :: (← readNestedItems fuel)
      else return []

/-- Reads the value after a key of a block, if there is one. -/
def readBlockValue : Nat → NodeM Node
  | 0 => failure
  | fuel + 1 => do
      if ← skipIf .value then readUnless endsBlockPart true true fuel else return .absent

/-- Reads the entries of a block and its end. -/
def readBlockEntries : Nat → NodeM (List (Node × Node))
  | 0 => failure
  | fuel + 1 => do
      match ← peek with
      | .key =>
          skip
          let key ← readUnless endsBlockPart true true fuel
          let value ← readBlockValue fuel
          return (key, value) :: (← readBlockEntries fuel)
      | .blockEnd =>
          skip
          return []
      | _ => failure

/-- Reads the value after a key between brackets, if there is one. -/
def readFlowValue (closing : Token) : Nat → NodeM Node
  | 0 => failure
  | fuel + 1 => do
      if ← skipIf .value then readUnless (endsFlowValue closing) false false fuel
      else return .absent

/-- Reads items between brackets and the closing one. -/
def readFlowItems (isFirst : Bool) : Nat → NodeM (List Node)
  | 0 => failure
  | fuel + 1 => do
      if ← skipIf .flowSequenceEnd then return []
      else if !isFirst && !(← skipIf .flowEntry) then failure
      else if ← skipIf .key then
        let key ← readUnless (endsFlowKey .flowSequenceEnd) false false fuel
        let value ← readFlowValue .flowSequenceEnd fuel
        return .mapping [(key, value)] :: (← readFlowItems false fuel)
      else if ← skipIf .flowSequenceEnd then return []
      else
        let item ← readNode false false fuel
        return item :: (← readFlowItems false fuel)

/-- Reads entries between braces and the closing one. -/
def readFlowEntries (isFirst : Bool) : Nat → NodeM (List (Node × Node))
  | 0 => failure
  | fuel + 1 => do
      if ← skipIf .flowMappingEnd then return []
      else if !isFirst && !(← skipIf .flowEntry) then failure
      else if ← skipIf .key then
        let key ← readUnless (endsFlowKey .flowMappingEnd) false false fuel
        let value ← readFlowValue .flowMappingEnd fuel
        return (key, value) :: (← readFlowEntries false fuel)
      else if ← skipIf .flowMappingEnd then return []
      else
        let key ← readNode false false fuel
        return (key, .absent) :: (← readFlowEntries false fuel)

end

/-! ## Reading documents -/

/-- The handles that have a meaning in every document. -/
def defaultHandles : List (String × String) := [("!", "!"), ("!!", "tag:yaml.org,2002:")]

/-- Reads the directives before a document. The result tells whether there are any. -/
def readDirectives (hasVersion : Bool) : Nat → NodeM Bool
  | 0 => failure
  | fuel + 1 => do
      match ← peek with
      | .version major minor =>
          if hasVersion || major ≠ 1 || (minor ≠ 1 && minor ≠ 2) then failure
          else
            skip
            discard (readDirectives true fuel)
            return true
      | .tagDirective handle start =>
          let reader ← get
          if reader.handles.any (·.1 = handle) then failure
          else
            set { reader with handles := (handle, start) :: reader.handles }
            skip
            discard (readDirectives hasVersion fuel)
            return true
      | _ => return hasVersion

/-- Reads the only document of a text, if it has one. -/
def readDocument (fuel : Nat) : NodeM (Option Node) := do
  let hasDirectives ← readDirectives false fuel
  modify fun reader => { reader with handles := reader.handles ++ defaultHandles }
  if (← peek) = .streamEnd && !hasDirectives then return none
  else
    let isMarked ← skipIf .documentStart
    if hasDirectives && !isMarked then failure
    else
      let endsDocument (token : Token) : Bool :=
        match token with
        | .documentStart | .documentEnd | .streamEnd | .version .. | .tagDirective .. => true
        | _ => false
      let node ←
        if isMarked then readUnless endsDocument true false fuel else readNode true false fuel
      for _ in [0:fuel] do
        if !(← skipIf .documentEnd) then break
      if (← peek) = .streamEnd then return some node else failure

/-- The node of the only document of a text, nothing if it has none. -/
def nodeOfTokens? (tokens : List Token) : Option (Option Node) :=
  ((readDocument (8 * tokens.length + 8)).run { tokens }).map (·.1)

end SourceFacts.Yaml
