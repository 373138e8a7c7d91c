import SourceFacts.Proofs.Syntax.Walks

namespace SourceFacts.Syntax

/-!
# Walks that leave nothing out

A budget that knows that something was left out never forgets it. Where a walk ends with
one that does not know of anything, all nodes were visited, also by the walks that its
visitor began, and the visitor is left with what a recursion without limits leaves it with.

A visitor that enters some kinds of nodes, whatever it has found, reaches the same nodes in every
walk from a root, also where something is left out: those within the limits, and of these the first,
as many as there is room for. What one walk spends, the next one lacks.
-/

variable {σ : Type} {visit : Visitor σ} {step : Step σ} {size : Nat} {budget : Budget} {state : σ}

/-! ## Nodes that are come by -/

mutual

/-- The nodes of a tree that are come by in preorder, entering only some of them. -/
def Node.within (enters : Node → Bool) : Node → List Node
  | .mk info children =>
      .mk info children ::
        if enters (.mk info children) then Node.withinAll enters children else []

/-- The nodes of some trees that are come by in preorder, entering only some of them. -/
def Node.withinAll (enters : Node → Bool) : List Node → List Node
  | [] => []
  | node :: rest => node.within enters ++ Node.withinAll enters rest

end

mutual

/-- A tree has no fewer nodes than are come by. -/
theorem Node.length_within_le
    (enters : Node → Bool)
    (node : Node) :
    (node.within enters).length ≤ node.count := by
  cases node with
  | mk info children =>
      have below := Node.length_withinAll_le enters children
      rw [Node.within, Node.count, List.length_cons]
      split
      · exact Nat.succ_le_succ below
      · exact Nat.succ_le_succ (Nat.zero_le _)

/-- Trees have no fewer nodes than are come by. -/
theorem Node.length_withinAll_le
    (enters : Node → Bool)
    (nodes : List Node) :
    (Node.withinAll enters nodes).length ≤ countAll nodes := by
  cases nodes with
  | nil =>
      rw [Node.withinAll]
      exact Nat.zero_le _
  | cons node rest =>
      rw [Node.withinAll, countAll, List.length_append]
      exact Nat.add_le_add (Node.length_within_le enters node)
        (Node.length_withinAll_le enters rest)

end

/-- What is come by in some trees is what is come by in each of them. -/
theorem Node.withinAll_eq_flatMap
    (enters : Node → Bool)
    (nodes : List Node) :
    Node.withinAll enters nodes = nodes.flatMap (·.within enters) := by
  induction nodes with
  | nil =>
      rw [Node.withinAll]
      rfl
  | cons node rest inductionHypothesis =>
      rw [Node.withinAll, List.flatMap_cons, inductionHypothesis]

/-- The nodes below one that is entered are come by. -/
theorem Node.within_eq
    (enters : Node → Bool)
    (node : Node) :
    node.within enters =
      node :: if enters node then node.children.flatMap (·.within enters) else [] := by
  cases node with
  | mk info children =>
      rw [Node.within, Node.withinAll_eq_flatMap]
      rfl

mutual

/-- If nothing that is looked for is below a node that is not entered, all of it is come by. -/
theorem Node.filter_within
    {enters keeps : Node → Bool}
    {root : Node}
    (nothing : ∀ node ∈ root.within (fun _ => true), enters node = false →
      ∀ inner ∈ Node.withinAll (fun _ => true) node.children, keeps inner = false) :
    (root.within enters).filter keeps = (root.within fun _ => true).filter keeps := by
  cases root with
  | mk info children =>
      rw [Node.within, if_pos rfl, List.forall_mem_cons] at nothing
      rw [Node.within, Node.within, if_pos rfl, List.filter_cons, List.filter_cons]
      cases entered : enters (.mk info children) with
      | true =>
          rw [if_pos rfl, Node.filter_withinAll nothing.2]
      | false =>
          have none : (Node.withinAll (fun _ => true) children).filter keeps = [] :=
            List.filter_eq_nil_iff.mpr fun inner member =>
              Bool.eq_false_iff.mp (nothing.1 entered inner member)
          rw [if_neg Bool.false_ne_true, none]
          rfl

/-- If nothing that is looked for is below nodes that are not entered, all of it is come by in some
trees. -/
theorem Node.filter_withinAll
    {enters keeps : Node → Bool}
    {nodes : List Node}
    (nothing : ∀ node ∈ Node.withinAll (fun _ => true) nodes, enters node = false →
      ∀ inner ∈ Node.withinAll (fun _ => true) node.children, keeps inner = false) :
    (Node.withinAll enters nodes).filter keeps =
      (Node.withinAll (fun _ => true) nodes).filter keeps := by
  cases nodes with
  | nil =>
      rw [Node.withinAll, Node.withinAll]
  | cons node rest =>
      rw [Node.withinAll, List.forall_mem_append] at nothing
      rw [Node.withinAll, Node.withinAll, List.filter_append, List.filter_append,
        Node.filter_within nothing.1, Node.filter_withinAll nothing.2]

end

mutual

/-- A visitor that enters some nodes, whatever it has found, visits those that are come by. -/
theorem nodes_preorder
    {enters : Node → Bool}
    (answers : ∀ node depth state,
      (step node depth state).1 = if enters node then .into else .skip)
    (place : List Nat)
    (node : Node)
    (depth : Nat)
    (state : σ) :
    (preorder Scope.all step place node depth state).map (·.spot.node) = node.within enters := by
  cases node with
  | mk info children =>
      rw [preorder_eq, Node.within, List.map_cons, answers]
      cases enters (.mk info children) with
      | true =>
          exact congrArg (.mk info children :: ·)
            (nodes_preorderAll answers place 0 children (depth + 1) _)
      | false =>
          rfl

/-- A visitor that enters some nodes visits those that are come by in some trees. -/
theorem nodes_preorderAll
    {enters : Node → Bool}
    (answers : ∀ node depth state,
      (step node depth state).1 = if enters node then .into else .skip)
    (place : List Nat)
    (number : Nat)
    (nodes : List Node)
    (depth : Nat)
    (state : σ) :
    (preorderAll Scope.all step place number nodes depth state).map (·.spot.node) =
      Node.withinAll enters nodes := by
  cases nodes with
  | nil =>
      rw [preorderAll, Node.withinAll]
      rfl
  | cons node rest =>
      rw [preorderAll_cons (rfl : Scope.all depth number = true), Node.withinAll, List.map_append,
        nodes_preorder answers, nodes_preorderAll answers]

end

/-- What a visitor adds at every node, whatever the depth, it has added for all nodes that it
visited. -/
theorem stateAfter_eq_foldl
    {adds : Node → σ → σ}
    (changes : ∀ node depth state, (step node depth state).2 = adds node state)
    (visits : List Visit)
    (state : σ) :
    stateAfter step state visits =
      (visits.map (·.spot.node)).foldl (fun found node => adds node found) state := by
  induction visits generalizing state with
  | nil =>
      rfl
  | cons visit rest inductionHypothesis =>
      rw [stateAfter_cons, inductionHypothesis, Visit.after, changes]
      rfl

/-! ## Visitors that say so if they leave something out -/

/-- A visitor that does not forget that something was left out, and that does with nodes up to a
size what a visitor without a budget does unless it leaves something out. -/
structure Visitor.Follows (visit : Visitor σ) (step : Step σ) (size : Nat) : Prop where
  remembers : ∀ {node depth budget state},
    (visit node depth budget state).2.1.truncated = false → budget.truncated = false
  agrees : ∀ {node depth budget state}, node.count ≤ size →
    (visit node depth budget state).2.1.truncated = false →
      (visit node depth budget state).1 = (step node depth state).1 ∧
        (visit node depth budget state).2.2 = (step node depth state).2

/-- A visitor that spends no budget leaves nothing out. -/
theorem Visitor.follows_ofStep
    (step : Step σ)
    (size : Nat) :
    (Visitor.ofStep step).Follows step size where
  remembers := id
  agrees := fun _ _ => ⟨rfl, rfl⟩

/-- If no children are left out, a walk looks at all of them. -/
theorem Limits.childrenOf_of_not_cuts
    {limits : Limits}
    {node : Node}
    {depth : Nat}
    (kept : limits.cuts node depth = false) :
    limits.childrenOf node depth = node.children := by
  rw [Limits.childrenOf]
  rcases Limits.covers_of_not_cuts kept with isLeaf | ⟨shallow, few⟩
  · rw [isLeaf, List.take_nil, ite_self]
  · rw [if_pos shallow, List.take_of_length_le (by omega)]

/-- A budget that leaves out no children looks at all of them and stays as it is. -/
theorem Budget.of_childrenOf_truncated
    {node : Node}
    {depth : Nat}
    (complete : (budget.childrenOf node depth).2.truncated = false) :
    budget.truncated = false ∧ budget.childrenOf node depth = (node.children, budget) := by
  rw [Budget.childrenOf_eq] at complete ⊢
  obtain ⟨kept, keptHere⟩ := Bool.or_eq_false_iff.mp complete
  refine ⟨kept, ?_⟩
  rw [Limits.childrenOf_of_not_cuts keptHere, keptHere, Budget.note, Bool.or_false]

namespace Visitor.Follows

/-- If a visit leaves nothing out, nothing was left out before. -/
theorem remembers_of_eq
    (follows : visit.Follows step size)
    {node : Node}
    {depth : Nat}
    {answer : Descent}
    {after : Budget}
    {next : σ}
    (visited : visit node depth budget state = (answer, after, next))
    (kept : after.truncated = false) :
    budget.truncated = false := by
  refine follows.remembers (?_ : (visit node depth budget state).2.1.truncated = false)
  rw [visited]
  exact kept

/-- A visit that leaves nothing out does what is done without a budget. -/
theorem agrees_of_eq
    (follows : visit.Follows step size)
    {node : Node}
    {depth : Nat}
    {answer : Descent}
    {after : Budget}
    {next : σ}
    (visited : visit node depth budget state = (answer, after, next))
    (fits : node.count ≤ size)
    (kept : after.truncated = false) :
    answer = (step node depth state).1 ∧ next = (step node depth state).2 := by
  have complete : (visit node depth budget state).2.1.truncated = false := by
    rw [visited]
    exact kept
  have same := follows.agrees fits complete
  rwa [visited] at same

/-- A walk does not forget that something was left out. -/
theorem walkPending_remembers
    (follows : visit.Follows step size)
    {pending : List (Node × Nat)}
    {budget : Budget}
    {state : σ}
    (complete : (walkPending visit pending budget state).1.truncated = false) :
    budget.truncated = false := by
  fun_induction walkPending visit pending budget state with
  | case1 budget state =>
      exact complete
  | case2 budget state node depth waiting isSpent =>
      exact absurd complete Bool.noConfusion
  | case3 budget state node depth waiting isLeft after next visited inductionHypothesis =>
      have charged : budget.charge.truncated = false :=
        follows.remembers_of_eq visited (inductionHypothesis complete)
      exact charged
  | case4 budget state node depth waiting isLeft after next visited inductionHypothesis =>
      have charged : budget.charge.truncated = false :=
        follows.remembers_of_eq visited
          (Budget.of_childrenOf_truncated (inductionHypothesis complete)).1
      exact charged

/-- A walk from nodes that wait that leaves nothing out does what the recursion without limits
does. -/
theorem walkPending_complete
    (follows : visit.Follows step size)
    (spots : List Spot)
    (fits : pendingCount (spots.map Spot.waiting) ≤ size)
    {budget : Budget}
    {state : σ}
    (complete : (walkPending visit (spots.map Spot.waiting) budget state).1.truncated = false) :
    (walkPending visit (spots.map Spot.waiting) budget state).2 =
      stateAfter step state (preorderPending Scope.all step spots state) := by
  match spots with
  | [] =>
      rw [List.map_nil, walkPending_nil, preorderPending]
      rfl
  | spot :: rest =>
      rw [List.map_cons] at fits complete ⊢
      have fewer := pendingCount_waiting_lt spot.waiting (rest.map Spot.waiting)
      rw [Spot.waiting] at fits complete fewer ⊢
      cases spent : budget.isExhausted with
      | true =>
          rw [walkPending_of_isExhausted spent] at complete
          exact absurd complete Bool.noConfusion
      | false =>
          rcases visited : visit spot.node spot.depth budget.charge state with
            ⟨answer, after, next⟩
          have fitsHere : spot.node.count ≤ size := by
            rw [pendingCount] at fits
            omega
          cases answer with
          | skip =>
              rw [walkPending_of_skip spent visited] at complete ⊢
              obtain ⟨skips, isNext⟩ :=
                follows.agrees_of_eq visited fitsHere (follows.walkPending_remembers complete)
              rw [follows.walkPending_complete rest (by omega) complete, isNext,
                preorderPending_of_skip skips.symm, stateAfter_cons]
              rfl
          | into =>
              rw [walkPending_of_into spent visited] at complete ⊢
              obtain ⟨kept, all⟩ :=
                Budget.of_childrenOf_truncated (follows.walkPending_remembers complete)
              obtain ⟨enters, isNext⟩ := follows.agrees_of_eq visited fitsHere kept
              have waits :=
                waiting_append spot.place 0 (spot.depth + 1) spot.node.children rest
              have fewerBelow : pendingCount ((spotsFrom spot.place 0 (spot.depth + 1)
                  spot.node.children ++ rest).map Spot.waiting) <
                    pendingCount ((spot.node, spot.depth) :: rest.map Spot.waiting) := by
                have lookedAt :=
                  pendingCount_childrenOf_lt after spot.node spot.depth (rest.map Spot.waiting)
                rwa [all, waits] at lookedAt
              rw [all, waits] at complete
              rw [all, waits, follows.walkPending_complete _ (by omega) complete, isNext,
                preorderPending_of_into enters.symm
                  (preorderAll_all_eq_preorderPending spot.place 0 _ _),
                stateAfter_cons]
              rfl
termination_by pendingCount (spots.map Spot.waiting)
decreasing_by
  · exact fewerBelow
  · exact fewer

/-- A walk through a tree does not forget that something was left out. -/
theorem walk_remembers
    (follows : visit.Follows step size)
    {root : Node}
    {depth : Nat}
    (complete : (walk visit root depth budget state).1.truncated = false) :
    budget.truncated = false :=
  follows.walkPending_remembers complete

/-- A walk through a tree that leaves nothing out does what the recursion without limits
does. -/
theorem walk_complete
    (follows : visit.Follows step size)
    {root : Node}
    (fits : root.count ≤ size)
    {depth : Nat}
    (complete : (walk visit root depth budget state).1.truncated = false) :
    (walk visit root depth budget state).2 =
      stateAfter step state (preorder Scope.all step [] root depth state) := by
  have single : preorderPending Scope.all step [⟨[], root, depth⟩] state =
      preorder Scope.all step [] root depth state := by
    rw [preorderPending, preorderPending, List.append_nil]
  rw [← single]
  exact follows.walkPending_complete [⟨[], root, depth⟩] (by simpa [pendingCount, Spot.waiting])
    complete

/-- A walk that leaves nothing out adds what is to be added at the nodes that are come by. -/
theorem walk_eq_foldl
    (follows : visit.Follows step size)
    {enters : Node → Bool}
    {adds : Node → σ → σ}
    (steps : ∀ node depth state,
      step node depth state = (if enters node then .into else .skip, adds node state))
    {root : Node}
    (fits : root.count ≤ size)
    {depth : Nat}
    (complete : (walk visit root depth budget state).1.truncated = false) :
    (walk visit root depth budget state).2 =
      (root.within enters).foldl (fun found node => adds node found) state := by
  have answers : ∀ node depth state,
      (step node depth state).1 = if enters node then .into else .skip :=
    fun node depth state => congrArg Prod.fst (steps node depth state)
  have changes : ∀ node depth state, (step node depth state).2 = adds node state :=
    fun node depth state => congrArg Prod.snd (steps node depth state)
  rw [follows.walk_complete fits complete, stateAfter_eq_foldl changes, nodes_preorder answers]

end Visitor.Follows

/-! ## Nodes within limits -/

mutual

/-- The nodes of a tree, whose root stands at a depth, that are come by in preorder within limits,
entering only some of them. -/
def Node.reached (limits : Limits) (enters : Node → Bool) : Node → Nat → List Node
  | .mk info children, depth =>
      .mk info children ::
        if enters (.mk info children) && depth + 1 ≤ limits.maxDepth then
          Node.reachedAll limits enters children limits.maxChildren (depth + 1)
        else []

/-- The nodes of a number of trees at a depth, at most, that are come by within limits. -/
def Node.reachedAll (limits : Limits) (enters : Node → Bool) : List Node → Nat → Nat → List Node
  | [], _, _ => []
  | _ :: _, 0, _ => []
  | node :: rest, number + 1, depth =>
      node.reached limits enters depth ++ Node.reachedAll limits enters rest number depth

end

mutual

/-- What is come by within limits is come by without them, in the same order. -/
theorem Node.reached_sublist
    (limits : Limits)
    (enters : Node → Bool)
    (node : Node)
    (depth : Nat) :
    (node.reached limits enters depth).Sublist (node.within enters) := by
  cases node with
  | mk info children =>
      rw [Node.reached, Node.within]
      refine List.Sublist.cons_cons _ ?_
      cases enters (.mk info children) with
      | false =>
          exact List.Sublist.refl _
      | true =>
          rw [if_pos rfl]
          split
          · exact Node.reachedAll_sublist limits enters children _ _
          · exact List.nil_sublist _

theorem Node.reachedAll_sublist
    (limits : Limits)
    (enters : Node → Bool)
    (nodes : List Node)
    (number depth : Nat) :
    (Node.reachedAll limits enters nodes number depth).Sublist (Node.withinAll enters nodes) := by
  cases nodes with
  | nil =>
      rw [Node.reachedAll]
      exact List.nil_sublist _
  | cons node rest =>
      cases number with
      | zero =>
          rw [Node.reachedAll]
          exact List.nil_sublist _
      | succ number =>
          rw [Node.reachedAll, Node.withinAll]
          exact (Node.reached_sublist limits enters node depth).append
            (Node.reachedAll_sublist limits enters rest number depth)

end

variable {enters : Node → Bool} {adds : Node → σ → σ} {limits : Limits} {root : Node}
  {depth : Nat} {before after later : Budget}

mutual

/-- A recursion within limits that enters some nodes, whatever it has found, visits those that are
reached. -/
theorem nodes_preorder_scope
    (answers : ∀ node depth state,
      (step node depth state).1 = if enters node then .into else .skip)
    (place : List Nat)
    (node : Node)
    (depth : Nat)
    (state : σ) :
    (preorder limits.scope step place node depth state).map (·.spot.node) =
      node.reached limits enters depth := by
  cases node with
  | mk info children =>
      rw [preorder_eq, Node.reached, List.map_cons, answers]
      cases enters (.mk info children) with
      | false =>
          rfl
      | true =>
          simp only [if_pos, Bool.true_and, decide_eq_true_eq]
          exact congrArg (Node.mk info children :: ·)
            (nodes_preorderAll_scope answers place 0 children (depth + 1) _)

theorem nodes_preorderAll_scope
    (answers : ∀ node depth state,
      (step node depth state).1 = if enters node then .into else .skip)
    (place : List Nat)
    (number : Nat)
    (nodes : List Node)
    (depth : Nat)
    (state : σ) :
    (preorderAll limits.scope step place number nodes depth state).map (·.spot.node) =
      if depth ≤ limits.maxDepth then
        Node.reachedAll limits enters nodes (limits.maxChildren - number) depth
      else [] := by
  cases nodes with
  | nil =>
      rw [preorderAll, Node.reachedAll, ite_self]
      rfl
  | cons node rest =>
      cases inScope : limits.scope depth number with
      | false =>
          rw [preorderAll_eq_nil inScope]
          simp only [Limits.scope, Bool.and_eq_false_iff, decide_eq_false_iff_not] at inScope
          split
          · have full : limits.maxChildren - number = 0 := by
              omega
            rw [full, Node.reachedAll]
            rfl
          · rfl
      | true =>
          rw [preorderAll_cons inScope, List.map_append, nodes_preorder_scope answers,
            nodes_preorderAll_scope answers]
          simp only [Limits.scope, Bool.and_eq_true, decide_eq_true_eq] at inScope
          have more : limits.maxChildren - number = limits.maxChildren - (number + 1) + 1 := by
            omega
          rw [if_pos inScope.1, if_pos inScope.1, more, Node.reachedAll]

end

/-! ## What is spent -/

/-- The number of visits that are left. -/
def Budget.room (budget : Budget) : Nat := budget.limits.maxNodes - budget.visited

/-- A budget after a number of visits, or after all that were left if these were fewer. -/
structure Budget.Pays (before after : Budget) (count : Nat) : Prop where
  limits : after.limits = before.limits
  room : after.room = before.room - count

/-- Without visits nothing is spent. -/
theorem Budget.pays_zero (budget : Budget) : budget.Pays budget 0 := ⟨rfl, rfl⟩

/-- A visit is spent. -/
theorem Budget.pays_charge (budget : Budget) : budget.Pays budget.charge 1 :=
  ⟨rfl, (Nat.sub_sub _ _ _).symm⟩

/-- One walk after the other spends what both of them do. -/
theorem Budget.Pays.trans
    {first second : Nat}
    (earlier : before.Pays after first)
    (next : after.Pays later second) :
    before.Pays later (first + second) where
  limits := next.limits.trans earlier.limits
  room := by rw [next.room, earlier.room, Nat.sub_sub]

/-- There is room for a visit exactly if the budget is not spent. -/
theorem Budget.isExhausted_iff : budget.isExhausted = true ↔ budget.room = 0 := by
  rw [isExhausted, room, decide_eq_true_iff, Nat.sub_eq_zero_iff_le]

/-- If the budget is not spent, a visit takes one from the room that there is. -/
theorem Budget.room_of_isLeft (isLeft : budget.isExhausted = false) :
    budget.room = budget.charge.room + 1 := by
  have isRoom : budget.room ≠ 0 := fun none =>
    Bool.false_ne_true (isLeft.symm.trans (isExhausted_iff.mpr none))
  rw [budget.pays_charge.room, Nat.sub_add_cancel (Nat.pos_of_ne_zero isRoom)]

/-- Visits are spent as far as there is room for them. -/
theorem Budget.pays_afterVisits (wanted : List Visit) :
    budget.Pays (budget.afterVisits wanted) wanted.length where
  limits := rfl
  room := by
    simp only [afterVisits, room, List.length_take]
    omega

/-! ## Walks -/

/-- A walk adds what is to be added at the nodes that are reached, as far as there is room. -/
theorem walk_eq_foldl_reached
    (steps : ∀ node depth state,
      step node depth state = (if enters node then .into else .skip, adds node state)) :
    (walk (Visitor.ofStep step) root depth budget state).2 =
      ((root.reached budget.limits enters depth).take budget.room).foldl
        (fun found node => adds node found) state := by
  have answers : ∀ node depth state,
      (step node depth state).1 = if enters node then .into else .skip :=
    fun node depth state => congrArg Prod.fst (steps node depth state)
  have changes : ∀ node depth state, (step node depth state).2 = adds node state :=
    fun node depth state => congrArg Prod.snd (steps node depth state)
  rw [walk_ofStep, stateAfter_eq_foldl changes, Budget.visits, List.map_take,
    nodes_preorder_scope answers, Budget.room]

/-- A walk spends a visit at each node that is reached. -/
theorem pays_walk
    (answers : ∀ node depth state,
      (step node depth state).1 = if enters node then .into else .skip) :
    budget.Pays (walk (Visitor.ofStep step) root depth budget state).1
      (root.reached budget.limits enters depth).length := by
  rw [walk_ofStep, ← nodes_preorder_scope answers [] root depth state, List.length_map]
  exact Budget.pays_afterVisits _

/-- If a walk leaves nothing out, there is room for all nodes that are reached, and these are all
that are come by. -/
theorem take_reached_of_complete
    (answers : ∀ node depth state,
      (step node depth state).1 = if enters node then .into else .skip)
    (complete : (walk (Visitor.ofStep step) root depth budget state).1.truncated = false) :
    (root.reached budget.limits enters depth).take budget.room = root.within enters := by
  rw [walk_ofStep, Budget.afterVisits] at complete
  obtain ⟨_, fits⟩ := Bool.or_eq_false_iff.mp complete
  obtain ⟨isRoom, kept⟩ := Bool.or_eq_false_iff.mp fits
  rw [List.any_eq_false] at kept
  rw [← nodes_preorder_scope answers [] root depth state, ← nodes_preorder answers [] root depth,
    preorder_all_of_not_isCut fun visit member => Bool.eq_false_iff.mpr (kept visit member),
    List.take_of_length_le]
  rw [List.length_map]
  exact Nat.not_lt.mp (of_decide_eq_false isRoom)

end SourceFacts.Syntax
