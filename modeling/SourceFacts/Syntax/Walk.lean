import SourceFacts.Syntax.Node

namespace SourceFacts.Syntax

/-!
# Budgeted walks

A walk visits the nodes of a tree in source order, parents before children. The
nodes that are still to be visited are kept on an explicit list, so that the
depth of a tree costs memory only. A budget bounds how deep a walk goes, how many
nodes it visits and how many children of one node it looks at, and it remembers
whether something was left out. One budget may serve many walks, also walks
that begin while another is at a node.
-/

/-- How much of a tree may be visited. -/
structure Limits where
  maxDepth : Nat := 256
  maxNodes : Nat := 2000000
  maxChildren : Nat := 10000
deriving Repr, DecidableEq, Inhabited

/-- What is left of the limits. -/
structure Budget where
  limits : Limits := {}
  /-- The number of visits so far. -/
  visited : Nat := 0
  /-- Whether a part of a tree was left out. -/
  truncated : Bool := false
deriving Repr, DecidableEq, Inhabited

/-- What a visitor says about the children of a node. -/
inductive Descent where
  | into
  | skip
deriving Repr, DecidableEq, Inhabited

namespace Budget

/-- Whether no further node may be visited. -/
def isExhausted (budget : Budget) : Bool := budget.limits.maxNodes ≤ budget.visited

/-- The budget after one more visit. -/
def charge (budget : Budget) : Budget := { budget with visited := budget.visited + 1 }

/-- The budget after something was left out. -/
def truncate (budget : Budget) : Budget := { budget with truncated := true }

/-- The children of a node at a depth that a walk goes on to, and the budget
that knows whether there are others. -/
def childrenOf (budget : Budget) (node : Node) (depth : Nat) : List Node × Budget :=
  match node.children with
  | [] => ([], budget)
  | children =>
      if budget.limits.maxDepth < depth + 1 then ([], budget.truncate)
      else if budget.limits.maxChildren < children.length then
        (children.take budget.limits.maxChildren, budget.truncate)
      else (children, budget)

end Budget

/-! ## The size of trees -/

mutual

/-- The number of nodes of a tree. -/
def Node.count : Node → Nat
  | .mk _ children => countAll children + 1

/-- The number of nodes of some trees. -/
def countAll : List Node → Nat
  | [] => 0
  | node :: rest => node.count + countAll rest

end

/-- The number of nodes below nodes that wait with their depths. -/
def pendingCount : List (Node × Nat) → Nat
  | [] => 0
  | (node, _) :: rest => node.count + pendingCount rest

theorem pendingCount_append (first second : List (Node × Nat)) :
    pendingCount (first ++ second) = pendingCount first + pendingCount second := by
  induction first with
  | nil => simp [pendingCount]
  | cons entry rest hypothesis => simp [pendingCount, hypothesis, Nat.add_assoc]

theorem pendingCount_map (depth : Nat) (nodes : List Node) :
    pendingCount (nodes.map (·, depth)) = countAll nodes := by
  induction nodes with
  | nil => rfl
  | cons node rest hypothesis => simp [pendingCount, countAll, hypothesis]

theorem countAll_append (first second : List Node) :
    countAll (first ++ second) = countAll first + countAll second := by
  induction first with
  | nil => simp [countAll]
  | cons node rest hypothesis => simp [countAll, hypothesis, Nat.add_assoc]

theorem countAll_filter_le (keeps : Node → Bool) (nodes : List Node) :
    countAll (nodes.filter keeps) ≤ countAll nodes := by
  induction nodes with
  | nil => simp
  | cons node rest hypothesis =>
      rw [List.filter_cons]
      split
      · simp only [countAll]
        omega
      · simp only [countAll]
        omega

theorem countAll_take_le (bound : Nat) (nodes : List Node) :
    countAll (nodes.take bound) ≤ countAll nodes := by
  induction nodes generalizing bound with
  | nil => simp
  | cons node rest hypothesis =>
      cases bound with
      | zero => simp [countAll]
      | succ bound =>
          have tail := hypothesis bound
          simp only [List.take_succ_cons, countAll]
          omega

theorem Node.count_eq (node : Node) : node.count = countAll node.children + 1 := by
  cases node
  simp [Node.count, Node.children]

theorem countAll_of_mem {node : Node} {nodes : List Node} (member : node ∈ nodes) :
    node.count ≤ countAll nodes := by
  induction nodes with
  | nil => cases member
  | cons first rest hypothesis =>
      cases member with
      | head => simp [countAll]
      | tail _ member =>
          have := hypothesis member
          simp only [countAll]
          omega

theorem Node.count_lt_of_mem {node child : Node} (member : child ∈ node.children) :
    child.count < node.count := by
  have := countAll_of_mem member
  have := node.count_eq
  omega

theorem Node.count_lt_of_child? {node child : Node} {field : String}
    (found : node.child? field = some child) : child.count < node.count :=
  Node.count_lt_of_mem (List.mem_of_find?_eq_some found)

theorem Budget.countAll_childrenOf_le (budget : Budget) (node : Node) (depth : Nat) :
    countAll (budget.childrenOf node depth).1 ≤ countAll node.children := by
  unfold Budget.childrenOf
  split
  · simp_all
  · split
    · simp [countAll]
    · split
      · exact countAll_take_le _ _
      · exact Nat.le_refl _

/-! ## Walking -/

/-- A visitor sees a node with its depth, and may spend the budget itself. -/
abbrev Visitor (σ : Type) := Node → Nat → Budget → σ → Descent × Budget × σ

/-- Visits the nodes that wait, each followed by what its visitor lets in. -/
def walkPending {σ : Type} (visit : Visitor σ) (pending : List (Node × Nat))
    (budget : Budget) (state : σ) : Budget × σ :=
  match pending with
  | [] => (budget, state)
  | (node, depth) :: waiting =>
      if budget.isExhausted then (budget.truncate, state)
      else
        match visit node depth budget.charge state with
        | (.skip, budget, state) => walkPending visit waiting budget state
        | (.into, budget, state) =>
            walkPending visit
              ((budget.childrenOf node depth).1.map (·, depth + 1) ++ waiting)
              (budget.childrenOf node depth).2 state
termination_by pendingCount pending
decreasing_by
  · simp only [pendingCount]
    have := node.count_eq
    omega
  · simp only [pendingCount_append, pendingCount_map, pendingCount]
    have size := node.count_eq
    have := budget.countAll_childrenOf_le node depth
    omega

/-- Walks a tree whose root stands at a depth. -/
def walk {σ : Type} (visit : Visitor σ) (root : Node) (depth : Nat)
    (budget : Budget) (state : σ) : Budget × σ :=
  walkPending visit [(root, depth)] budget state

/-- A visitor that does not spend the budget itself. -/
def Visitor.ofStep {σ : Type} (step : Node → Nat → σ → Descent × σ) : Visitor σ :=
  fun node depth budget state =>
    ((step node depth state).1, budget, (step node depth state).2)

end SourceFacts.Syntax
