import SourceFacts.Parsing.Subtree

namespace SourceFacts.Parsing

/-!
# Stacks that share their bottoms

Several versions of a parse are kept on one stack. A version is a path from its
head down to the common bottom; versions that reach the same state at the same
position are merged, so that a node may have several links to nodes below it.
Reducing follows every path and may make new versions.
-/

open Grammar

/-- A link to the node below, over the subtree that lies between. -/
structure Link (σ : Type) where
  node : Nat
  /-- Nothing where the parser entered the error state. -/
  tree? : Option (Subtree σ)
deriving Inhabited

/-- A node of the stack. -/
structure StackNode (σ : Type) where
  state : Nat
  position : Extent := {}
  links : Array (Link σ) := #[]
  errorCost : Nat := 0
  /-- Number of visible nodes below, a measure of progress. -/
  nodeCount : Nat := 0
  dynamicPrecedence : Int := 0
deriving Inhabited

/-- What a version is doing. -/
inductive VersionStatus where
  | active
  | paused
  | halted
deriving Repr, DecidableEq

/-- A state that the version passed before it met an error. -/
structure PassedState where
  position : Extent
  depth : Nat
  state : Nat
deriving Inhabited

/-- A version of the parse. -/
structure Version (σ : Type) where
  node : Nat
  status : VersionStatus := .active
  /-- The states to which the version may return, while it recovers. -/
  passed? : Option (List PassedState) := none
  nodeCountAtError : Nat := 0
  /-- The memory of the layout scanner after the last layout token. -/
  layout? : Option σ := none
  /-- The token at which the version was paused. -/
  lookahead? : Option (Subtree σ) := none

instance {σ : Type} : Inhabited (Version σ) := ⟨{ node := 0 }⟩

/-- The versions of a parse over shared nodes. -/
structure Stack (σ : Type) where
  nodes : Array (StackNode σ) := #[]
  versions : Array (Version σ) := #[]
deriving Inhabited

/-- A path that was popped: its subtrees and the version that ends below it. -/
structure Popped (σ : Type) where
  trees : List (Subtree σ)
  version : Nat
deriving Inhabited

namespace Stack

variable {σ : Type} [DecidableEq σ]

/-- At most this many links lead down from a node. -/
def maxLinks : Nat := 8

/-- At most this many paths are followed at a time. -/
def maxPaths : Nat := 64

/-- The stack with one version in the start state. -/
def initial : Stack σ where
  nodes := #[{ state := Language.startState }]
  versions := #[{ node := 0 }]

/-- Number of versions. -/
def size (stack : Stack σ) : Nat := stack.versions.size

/-- A version by its number. -/
def version (stack : Stack σ) (v : Nat) : Version σ := stack.versions.getD v default

/-- A node by its number. -/
def node (stack : Stack σ) (n : Nat) : StackNode σ := stack.nodes.getD n default

/-- The node at the head of a version. -/
def head (stack : Stack σ) (v : Nat) : StackNode σ := stack.node (stack.version v).node

/-- The state of a version. -/
def state (stack : Stack σ) (v : Nat) : Nat := (stack.head v).state

/-- The position of a version. -/
def position (stack : Stack σ) (v : Nat) : Extent := (stack.head v).position

/-- Whether a version is active. -/
def isActive (stack : Stack σ) (v : Nat) : Bool := (stack.version v).status == .active

/-- Whether a version is paused. -/
def isPaused (stack : Stack σ) (v : Nat) : Bool := (stack.version v).status == .paused

/-- Whether a version has been given up. -/
def isHalted (stack : Stack σ) (v : Nat) : Bool := (stack.version v).status == .halted

/-- Change a version. -/
def modifyVersion (stack : Stack σ) (v : Nat) (f : Version σ → Version σ) : Stack σ :=
  let { nodes, versions } := stack
  { nodes, versions := versions.modify v f }

/-- The cost of the errors of a version. -/
def errorCost (stack : Stack σ) (v : Nat) : Nat :=
  let head := stack.head v
  let entersError := head.state == Language.errorState &&
    match head.links[0]? with
    | some link => link.tree?.isNone
    | none => false
  head.errorCost + (if stack.isPaused v || entersError then recoveryCost else 0)

/--
The progress of a version since its last error. The point of reference moves
back when the version does.
-/
def nodesSinceError (stack : Stack σ) (v : Nat) : Nat × Stack σ :=
  let count := (stack.head v).nodeCount
  let known := (stack.version v).nodeCountAtError
  if count < known then
    (0, stack.modifyVersion v ({ · with nodeCountAtError := count }))
  else
    (count - known, stack)

/-- Number of nodes of a subtree, as a measure of progress. -/
def progress (language : Language) (tree : Subtree σ) : Nat :=
  tree.summary.visibleBelow +
    (if (language.info tree.symbol).isVisible then 1 else 0) +
    (if tree.symbol == Language.skippedSymbol then 1 else 0)

/-- Put a subtree on top of a version, which moves to the given state. -/
def push (language : Language) (stack : Stack σ) (v : Nat) (tree? : Option (Subtree σ))
    (state : Nat) : Stack σ :=
  let { nodes, versions } := stack
  let below := (versions.getD v default).node
  let base := nodes.getD below default
  let links := #[{ node := below, tree? : Link σ }]
  let top : StackNode σ := match tree? with
    | none => { base with state, links }
    | some tree => {
        state, links
        position := base.position + tree.total
        errorCost := base.errorCost + tree.errorCost
        nodeCount := base.nodeCount + progress language tree
        dynamicPrecedence := base.dynamicPrecedence + tree.summary.dynamicPrecedence }
  let n := nodes.size
  { nodes := nodes.push top
    versions := versions.modify v fun version =>
      { version with
        node := n
        nodeCountAtError :=
          if tree?.isNone then top.nodeCount else version.nodeCountAtError } }

/-- Remove a version. -/
def removeVersion (stack : Stack σ) (v : Nat) : Stack σ :=
  let { nodes, versions } := stack
  { nodes, versions := versions.eraseIdxIfInBounds v }

/-- Give up a version. -/
def halt (stack : Stack σ) (v : Nat) : Stack σ :=
  stack.modifyVersion v ({ · with status := .halted })

/-- Pause a version at a token it cannot handle. -/
def pause (stack : Stack σ) (v : Nat) (lookahead : Subtree σ) : Stack σ :=
  let count := (stack.head v).nodeCount
  stack.modifyVersion v fun version =>
    { version with status := .paused, lookahead? := some lookahead, nodeCountAtError := count }

/-- Replace the earlier version `target` by the later version `source`. -/
def renumber (stack : Stack σ) (source target : Nat) : Stack σ :=
  if source = target then stack
  else
    let moved := stack.version source
    let replaced := stack.version target
    let moved := { moved with passed? := moved.passed?.or replaced.passed? }
    (stack.modifyVersion target fun _ => moved).removeVersion source

/-- Exchange two versions. -/
def swap (stack : Stack σ) (v w : Nat) : Stack σ :=
  let a := stack.version v
  let b := stack.version w
  (stack.modifyVersion v fun _ => b).modifyVersion w fun _ => a

/-- Add a copy of a version and return its number. -/
def copyVersion (stack : Stack σ) (v : Nat) : Nat × Stack σ :=
  let { nodes, versions } := stack
  (versions.size,
    { nodes, versions := versions.push { versions.getD v default with passed? := none } })

/-! ## Merging -/

/-- Whether two subtrees may stand for each other on a link. -/
def equivalent (left? right? : Option (Subtree σ)) : Bool :=
  match left?, right? with
  | none, none => true
  | some left, some right =>
      left.symbol == right.symbol &&
        ((left.errorCost > 0 && right.errorCost > 0) ||
          (left.summary.padding.bytes == right.summary.padding.bytes &&
            left.summary.size.bytes == right.summary.size.bytes &&
            left.summary.childCount == right.summary.childCount &&
            left.isExtra == right.isExtra &&
            left.summary.layout? == right.summary.layout?))
  | _, _ => false

/-- What a new link finds among the links a node already has. -/
inductive LinkMatch where
  /-- A link over an equivalent subtree to the same node, by position. -/
  | same (position : Nat)
  /-- A link over an equivalent subtree to a node that can be merged. -/
  | mergeable (node : Nat)
  /-- No such link. -/
  | fresh

/-- Compare a new link with the links of a node. -/
def matchLink (nodes : Array (StackNode σ)) (links : Array (Link σ)) (link : Link σ) : LinkMatch :=
  (List.range links.size).foldl
    (fun found i =>
      match found with
      | .fresh =>
          match links[i]? with
          | none => .fresh
          | some known =>
              if !equivalent known.tree? link.tree? then .fresh
              else if known.node = link.node then .same i
              else
                let a := nodes.getD known.node default
                let b := nodes.getD link.node default
                if a.state == b.state && a.position.bytes == b.position.bytes &&
                    a.errorCost == b.errorCost then .mergeable known.node
                else .fresh
      | _ => found)
    .fresh

/-- The dynamic precedence of a subtree that may be absent. -/
def treePrecedence (tree? : Option (Subtree σ)) : Int :=
  match tree? with
  | some tree => tree.summary.dynamicPrecedence
  | none => 0

/-- Add links to nodes, given as a work list. -/
def addLinks (language : Language) :
    Nat → List (Nat × Link σ) → Array (StackNode σ) → Array (StackNode σ)
  | 0, _, nodes => nodes
  | _, [], nodes => nodes
  | fuel + 1, (n, link) :: pending, nodes =>
      if link.node = n then addLinks language fuel pending nodes
      else
        let node := nodes.getD n default
        let below := nodes.getD link.node default
        let precedence := below.dynamicPrecedence + treePrecedence link.tree?
        match matchLink nodes node.links link with
        | .same i =>
            let known := (node.links[i]?).bind (·.tree?)
            if treePrecedence link.tree? > treePrecedence known then
              addLinks language fuel pending (nodes.set! n { node with
                links := node.links.set! i link
                dynamicPrecedence := precedence })
            else
              addLinks language fuel pending nodes
        | .mergeable other =>
            let more := below.links.toList.map fun link => (other, link)
            let nodes := addLinks language fuel more nodes
            addLinks language fuel pending
              (if precedence > (nodes.getD n default).dynamicPrecedence then
                nodes.modify n ({ · with dynamicPrecedence := precedence })
              else nodes)
        | .fresh =>
            if node.links.size = maxLinks then addLinks language fuel pending nodes
            else
              let count := below.nodeCount +
                (match link.tree? with
                  | some tree => progress language tree
                  | none => 0)
              addLinks language fuel pending (nodes.set! n { node with
                links := node.links.push link
                nodeCount := max node.nodeCount count
                dynamicPrecedence := max node.dynamicPrecedence precedence })

/-- Whether two versions can be merged. -/
def canMerge (stack : Stack σ) (v w : Nat) : Bool :=
  let a := stack.head v
  let b := stack.head w
  stack.isActive v && stack.isActive w && a.state == b.state &&
    a.position.bytes == b.position.bytes && a.errorCost == b.errorCost &&
    (stack.version v).layout? == (stack.version w).layout?

/-- Merge version `w` into version `v` if that is possible. -/
def merge? (language : Language) (stack : Stack σ) (v w : Nat) : Option (Stack σ) :=
  if !stack.canMerge v w then none
  else
    let target := (stack.version v).node
    let links := (stack.head w).links.toList.map fun link => (target, link)
    let { nodes, versions } := stack
    let nodes := addLinks language (64 * nodes.size + 64) links nodes
    let stack : Stack σ := { nodes, versions }
    let head := stack.head v
    let stack :=
      if head.state == Language.errorState then
        stack.modifyVersion v ({ · with nodeCountAtError := head.nodeCount })
      else stack
    some (stack.removeVersion w)

/-! ## Following paths -/

/-- A path from a head downwards. -/
structure Path (σ : Type) where
  node : Nat
  /-- The subtrees passed, the lowest first. -/
  trees : List (Subtree σ) := []
  /-- Number of subtrees passed that are not extras. -/
  count : Nat := 0
deriving Inhabited

/-- Follow a link. -/
def Path.follow (path : Path σ) (link : Link σ) : Path σ :=
  match link.tree? with
  | none => { path with node := link.node, count := path.count + 1 }
  | some tree => {
      node := link.node
      trees := tree :: path.trees
      count := if tree.isExtra then path.count else path.count + 1 }

/-- What to do at a node of a path. -/
structure Visit where
  /-- Let a version end here. -/
  pops : Bool := false
  /-- Do not follow the path any further. -/
  stops : Bool := false

/-- The state of a walk along paths. -/
structure Walk (σ τ : Type) where
  stack : Stack σ
  found : Array (Popped σ) := #[]
  memory : τ

/-- Let a version end at a node; paths to one node share a version. -/
def addPopped (stack : Stack σ) (found : Array (Popped σ)) (origin n : Nat)
    (trees : List (Subtree σ)) : Stack σ × Array (Popped σ) :=
  let position := (List.range found.size).reverse.find? fun i =>
    match found[i]? with
    | some popped => (stack.version popped.version).node == n
    | none => false
  match position with
  | some i =>
      let version := (found.getD i default).version
      (stack, found.insertIdxIfInBounds (i + 1) { trees, version })
  | none =>
      let parent := stack.version origin
      let version : Version σ := {
        node := n
        nodeCountAtError := parent.nodeCountAtError
        layout? := parent.layout? }
      let number := stack.versions.size
      ({ stack with versions := stack.versions.push version },
        found.push { trees, version := number })

variable {τ : Type}

/--
Visit the nodes of all paths from the head of a version, one step of each path
at a time. `i` is the number of the path to go on with in this round and `left`
the number of paths still to visit in it.
-/
def walkFrom (visit : Path σ → StackNode σ → τ → Visit × τ) (origin : Nat) :
    Nat → Nat → Nat → Array (Path σ) → Walk σ τ → Walk σ τ
  | 0, _, _, _, walk => walk
  | fuel + 1, i, left, paths, walk =>
      if left = 0 then
        if paths.isEmpty then walk
        else walkFrom visit origin fuel 0 paths.size paths walk
      else
        let path := paths.getD i default
        let node := walk.stack.node path.node
        let (action, memory) := visit path node walk.memory
        let walk := { walk with memory }
        let walk :=
          if action.pops then
            let (stack, found) :=
              addPopped walk.stack walk.found origin path.node path.trees
            { walk with stack, found }
          else walk
        if action.stops || node.links.isEmpty then
          walkFrom visit origin fuel i (left - 1) (paths.eraseIdxIfInBounds i) walk
        else
          let paths := (node.links.toList.drop 1).foldl
            (fun (paths : Array (Path σ)) link =>
              if paths.size ≥ maxPaths then paths else paths.push (path.follow link))
            paths
          let paths := match node.links[0]? with
            | some link => paths.set! i (path.follow link)
            | none => paths
          walkFrom visit origin fuel (i + 1) (left - 1) paths walk

/-- Visit the nodes of all paths from the head of a version. -/
def walk (stack : Stack σ) (v : Nat) (memory : τ)
    (visit : Path σ → StackNode σ → τ → Visit × τ) : Walk σ τ :=
  let start : Path σ := { node := (stack.version v).node }
  walkFrom visit v (1000 + 200 * maxPaths * (stack.nodes.size + 1)) 0 1 #[start]
    { stack, memory }

/-- Pop a number of subtrees, extras not counted, along every path. -/
def popCount (stack : Stack σ) (v count : Nat) : Stack σ × Array (Popped σ) :=
  let result := stack.walk v () fun path _ _ =>
    if path.count = count then ({ pops := true, stops := true }, ()) else ({}, ())
  (result.stack, result.found)

/-- Pop everything along every path. -/
def popAll (stack : Stack σ) (v : Nat) : Stack σ × Array (Popped σ) :=
  let result := stack.walk v () fun _ node _ => ({ pops := node.links.isEmpty }, ())
  (result.stack, result.found)

/-- Pop the error on top of a version, if there is one. -/
def popError (stack : Stack σ) (v : Nat) : Stack σ × List (Subtree σ) :=
  let hasError := (stack.head v).links.any fun link =>
    match link.tree? with
    | some tree => tree.isError
    | none => false
  if !hasError then (stack, [])
  else
    let result := stack.walk v false fun path _ found =>
      match path.trees with
      | [] => ({}, found)
      | tree :: _ =>
          if !found && tree.isError then ({ pops := true, stops := true }, true)
          else ({ stops := true }, found)
    match result.found[0]? with
    | none => (result.stack, [])
    | some popped => (result.stack.renumber popped.version v, popped.trees)

/-- Note the states a version has passed, down to a depth. -/
def recordPassed (stack : Stack σ) (v maxDepth : Nat) : Stack σ :=
  let result := stack.walk v (#[] : Array PassedState) fun path node passed =>
    if path.count > maxDepth then ({ stops := true }, passed)
    else
      let known := (passed.toList.reverse.takeWhile fun entry => !(entry.depth < path.count)).any
        fun entry => entry.depth == path.count && entry.state == node.state
      if known then ({}, passed)
      else
        ({}, passed.push { position := node.position, depth := path.count, state := node.state })
  stack.modifyVersion v ({ · with passed? := some result.memory.toList })

/-- Whether a version has read anything since its last error. -/
def hasAdvanced (stack : Stack σ) (v : Nat) : Bool :=
  let version := stack.version v
  if (stack.head v).errorCost = 0 then true
  else go (stack.nodes.size + 1) (stack.head v) version.nodeCountAtError
where
  go : Nat → StackNode σ → Nat → Bool
    | 0, _, _ => false
    | fuel + 1, node, reference =>
        match node.links[0]? with
        | none => false
        | some link =>
            match link.tree? with
            | none => false
            | some tree =>
                if tree.total.bytes > 0 then true
                else if node.nodeCount > reference && tree.errorCost = 0 then
                  go fuel (stack.node link.node) reference
                else false

end Stack

end SourceFacts.Parsing
