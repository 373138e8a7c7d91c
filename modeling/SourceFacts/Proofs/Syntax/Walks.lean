import SourceFacts.Proofs.Syntax.Limits

namespace SourceFacts.Syntax

/-!
# Walks are recursions

A walk visits a tree in preorder, as the recursion within its limits does that may end early.
-/

/-!
## Walks visit trees in preorder

A walk keeps the nodes that wait on a list. What it still has to do is always the rest
of the recursion within the limits of its budget: it makes the first visits of the
recursion, as many as the budget has left, and notes whether a place is missing.
-/

variable {σ : Type} {visit : Visitor σ} {node : Node} {depth : Nat} {waiting : List (Node × Nat)}
  {budget after : Budget} {state next : σ}

/-! ### Steps of a walk -/

/-- A walk ends when no node waits. -/
@[simp] theorem walkPending_nil : walkPending visit [] budget state = (budget, state) := by
  rw [walkPending]

/-- A walk stops at the next node if the budget is spent. -/
theorem walkPending_of_isExhausted (isSpent : budget.isExhausted = true) :
    walkPending visit ((node, depth) :: waiting) budget state = (budget.truncate, state) := by
  rw [walkPending, if_pos isSpent]

/-- A walk goes on with the nodes that wait if the visitor skips the children. -/
theorem walkPending_of_skip
    (isLeft : budget.isExhausted = false)
    (visited : visit node depth budget.charge state = (.skip, after, next)) :
    walkPending visit ((node, depth) :: waiting) budget state =
      walkPending visit waiting after next := by
  rw [walkPending, isLeft, if_neg Bool.false_ne_true, visited]

/-- A walk goes on with the children that it looks at if the visitor does not skip them. -/
theorem walkPending_of_into
    (isLeft : budget.isExhausted = false)
    (visited : visit node depth budget.charge state = (.into, after, next)) :
    walkPending visit ((node, depth) :: waiting) budget state =
      walkPending visit ((after.childrenOf node depth).1.map (·, depth + 1) ++ waiting)
        (after.childrenOf node depth).2 next := by
  rw [walkPending, isLeft, if_neg Bool.false_ne_true, visited]

/-- The children of a node at a depth that are within limits. -/
def Limits.childrenOf (limits : Limits) (node : Node) (depth : Nat) : List Node :=
  if depth + 1 ≤ limits.maxDepth then node.children.take limits.maxChildren else []

/-- The budget after something may have been left out. -/
def Budget.note (budget : Budget) (isCut : Bool) : Budget :=
  { budget with truncated := budget.truncated || isCut }

/-- A walk looks at the children within its limits, and notes whether there are others. -/
theorem Budget.childrenOf_eq (budget : Budget) (node : Node) (depth : Nat) :
    budget.childrenOf node depth =
      (budget.limits.childrenOf node depth, budget.note (budget.limits.cuts node depth)) := by
  cases node with
  | mk info children =>
      cases children with
      | nil =>
          simp [childrenOf, Limits.childrenOf, note, Limits.cuts, Node.children]
      | cons child others =>
          by_cases deep : budget.limits.maxDepth < depth + 1
          · have notShallow : ¬ depth + 1 ≤ budget.limits.maxDepth := Nat.not_le.mpr deep
            simp [childrenOf, Limits.childrenOf, note, Limits.cuts, Node.children, truncate, deep,
              notShallow]
          · have shallow : depth + 1 ≤ budget.limits.maxDepth := Nat.not_lt.mp deep
            by_cases many : budget.limits.maxChildren < others.length + 1
            · simp [childrenOf, Limits.childrenOf, note, Limits.cuts, Node.children, truncate, deep,
                shallow, many]
            · have all : (child :: others).take budget.limits.maxChildren = child :: others :=
                List.take_of_length_le (Nat.not_lt.mp many)
              simp [childrenOf, Limits.childrenOf, note, Limits.cuts, Node.children, deep, shallow,
                many, all]

/-- Fewer nodes wait after a visit. -/
theorem pendingCount_waiting_lt
    (entry : Node × Nat)
    (waiting : List (Node × Nat)) :
    pendingCount waiting < pendingCount (entry :: waiting) := by
  have size := entry.1.count_eq
  rw [pendingCount]
  omega

/-- Fewer nodes wait after a visit, also when the children wait now. -/
theorem pendingCount_childrenOf_lt
    (budget : Budget)
    (node : Node)
    (depth : Nat)
    (waiting : List (Node × Nat)) :
    pendingCount ((budget.childrenOf node depth).1.map (·, depth + 1) ++ waiting) <
      pendingCount ((node, depth) :: waiting) := by
  have size := node.count_eq
  have fewer := budget.countAll_childrenOf_le node depth
  rw [pendingCount_append, pendingCount_map, pendingCount]
  omega

/-! ### Spots that wait -/

/-- The spots of the children of a place from a number on. -/
def spotsFrom (place : List Nat) (number depth : Nat) : List Node → List Spot
  | [] => []
  | node :: rest => ⟨place ++ [number], node, depth⟩ :: spotsFrom place (number + 1) depth rest

/-- The spots of children wait with their depth. -/
theorem waiting_spotsFrom
    (place : List Nat)
    (number depth : Nat)
    (nodes : List Node) :
    (spotsFrom place number depth nodes).map Spot.waiting = nodes.map (·, depth) := by
  induction nodes generalizing number with
  | nil =>
      rfl
  | cons node rest inductionHypothesis =>
      rw [spotsFrom, List.map_cons, List.map_cons, inductionHypothesis]
      rfl

/-- The spots of children and others wait with their depths. -/
theorem waiting_append
    (place : List Nat)
    (number depth : Nat)
    (nodes : List Node)
    (rest : List Spot) :
    nodes.map (·, depth) ++ rest.map Spot.waiting =
      (spotsFrom place number depth nodes ++ rest).map Spot.waiting := by
  rw [List.map_append, waiting_spotsFrom]

/-- The visits of spots one after another and of what is below them. -/
def preorderPending (scope : Scope) (step : Step σ) : List Spot → σ → List Visit
  | [], _ => []
  | spot :: rest, state =>
      let first := preorder scope step spot.place spot.node spot.depth state
      first ++ preorderPending scope step rest (stateAfter step state first)

variable {scope : Scope} {step : Step σ}

/-- Some spots are visited, and then others. -/
theorem preorderPending_append
    (first second : List Spot)
    (state : σ) :
    preorderPending scope step (first ++ second) state =
      preorderPending scope step first state ++
        preorderPending scope step second
          (stateAfter step state (preorderPending scope step first state)) := by
  induction first generalizing state with
  | nil =>
      rfl
  | cons spot rest inductionHypothesis =>
      rw [List.cons_append, preorderPending, preorderPending, inductionHypothesis]
      simp

/-- Without limits the children of a place are visited one after another. -/
theorem preorderAll_all_eq_preorderPending
    (place : List Nat)
    (number : Nat)
    (nodes : List Node)
    (depth : Nat)
    (state : σ) :
    preorderAll Scope.all step place number nodes depth state =
      preorderPending Scope.all step (spotsFrom place number depth nodes) state := by
  induction nodes generalizing number state with
  | nil =>
      rw [preorderAll, spotsFrom, preorderPending]
  | cons node rest inductionHypothesis =>
      rw [preorderAll_cons (rfl : Scope.all depth number = true), spotsFrom, preorderPending,
        inductionHypothesis]

/-- Within limits the first children of a place are visited one after another, or none. -/
theorem preorderAll_scope_eq_preorderPending
    {limits : Limits}
    (place : List Nat)
    (number : Nat)
    (nodes : List Node)
    (depth : Nat)
    (state : σ) :
    preorderAll limits.scope step place number nodes depth state =
      preorderPending limits.scope step
        (spotsFrom place number depth
          (if depth ≤ limits.maxDepth then nodes.take (limits.maxChildren - number) else []))
        state := by
  induction nodes generalizing number state with
  | nil =>
      rw [preorderAll, List.take_nil, ite_self, spotsFrom, preorderPending]
  | cons node rest inductionHypothesis =>
      cases inScope : limits.scope depth number with
      | false =>
          have none :
              (if depth ≤ limits.maxDepth then
                (node :: rest).take (limits.maxChildren - number) else []) = [] := by
            simp only [Limits.scope, Bool.and_eq_false_iff, decide_eq_false_iff_not] at inScope
            split
            · have full : limits.maxChildren - number = 0 := by
                omega
              rw [full, List.take_zero]
            · rfl
          rw [preorderAll_eq_nil inScope, none, spotsFrom, preorderPending]
      | true =>
          have isCounted := inScope
          simp only [Limits.scope, Bool.and_eq_true, decide_eq_true_eq] at isCounted
          have more : limits.maxChildren - number = limits.maxChildren - (number + 1) + 1 := by
            omega
          rw [preorderAll_cons inScope, inductionHypothesis, if_pos isCounted.1,
            if_pos isCounted.1, more, List.take_succ_cons, spotsFrom, preorderPending]

/-- The spots below a spot that a recursion within limits goes on to. -/
def Spot.below (limits : Limits) (spot : Spot) : List Spot :=
  spotsFrom spot.place 0 (spot.depth + 1) (limits.childrenOf spot.node spot.depth)

/-- Within limits the children of a spot are visited as the spots below it. -/
theorem preorderAll_scope_eq_below
    {limits : Limits}
    (spot : Spot)
    (state : σ) :
    preorderAll limits.scope step spot.place 0 spot.node.children (spot.depth + 1) state =
      preorderPending limits.scope step (spot.below limits) state :=
  preorderAll_scope_eq_preorderPending spot.place 0 spot.node.children (spot.depth + 1) state

/-- Nothing below a spot is visited if the visitor skips it. -/
theorem preorderPending_of_skip
    {spot : Spot}
    (skips : (step spot.node spot.depth state).1 = .skip)
    (rest : List Spot) :
    preorderPending scope step (spot :: rest) state =
      spot.visit step state ::
        preorderPending scope step rest (step spot.node spot.depth state).2 := by
  rw [preorderPending, preorder_eq, skips]
  rfl

/-- The spots below a spot come before the others if the visitor does not skip them. -/
theorem preorderPending_of_into
    {spot : Spot}
    {below : List Spot}
    (enters : (step spot.node spot.depth state).1 = .into)
    (isBelow : ∀ state,
      preorderAll scope step spot.place 0 spot.node.children (spot.depth + 1) state =
        preorderPending scope step below state)
    (rest : List Spot) :
    preorderPending scope step (spot :: rest) state =
      spot.visit step state ::
        preorderPending scope step (below ++ rest) (step spot.node spot.depth state).2 := by
  rw [preorderPending, preorder_eq, enters, preorderPending_append]
  dsimp only
  rw [isBelow, stateAfter_cons]
  rfl

/-! ### Walks within limits -/

/-- The budget after visits, of which those that were made are the first. -/
def Budget.afterVisits (budget : Budget) (wanted : List Visit) : Budget :=
  let room := budget.limits.maxNodes - budget.visited
  { budget with
    visited := budget.visited + (wanted.take room).length
    truncated := budget.truncated || (room < wanted.length || wanted.any (·.isCut budget.limits)) }

/-- What is left of a budget after the first of some visits and the others. -/
theorem Budget.afterVisits_cons
    {visit : Visit}
    {visits : List Visit}
    (isLeft : budget.visited < budget.limits.maxNodes) :
    budget.afterVisits (visit :: visits) =
      (budget.charge.note (visit.isCut budget.limits)).afterVisits visits := by
  have more : budget.limits.maxNodes - budget.visited =
      budget.limits.maxNodes - (budget.visited + 1) + 1 := by
    omega
  have overrun :
      decide (budget.limits.maxNodes - (budget.visited + 1) + 1 < visits.length + 1) =
        decide (budget.limits.maxNodes - (budget.visited + 1) < visits.length) :=
    decide_eq_decide.mpr Nat.add_lt_add_iff_right
  simp only [afterVisits, charge, note, more, List.take_succ_cons, List.length_cons, List.any_cons,
    overrun, Budget.mk.injEq, true_and]
  refine ⟨by omega, ?_⟩
  rw [Bool.or_assoc, Bool.or_left_comm (Visit.isCut _ _)]
  rfl

/-- A budget that is spent has no room for visits. -/
theorem Budget.room_of_isExhausted (isSpent : budget.isExhausted = true) :
    budget.limits.maxNodes - budget.visited = 0 := by
  simp only [Budget.isExhausted, decide_eq_true_eq] at isSpent
  omega

/-- If a budget is spent, visits that are wanted are left out. -/
theorem Budget.afterVisits_of_isExhausted
    {visits : List Visit}
    (isSpent : budget.isExhausted = true)
    (areWanted : visits ≠ []) :
    budget.afterVisits visits = budget.truncate := by
  have some : 0 < visits.length := List.length_pos_iff.mpr areWanted
  simp [Budget.afterVisits, Budget.truncate, Budget.room_of_isExhausted isSpent, some]

/-- A spot that waits is visited. -/
theorem preorderPending_ne_nil
    (spot : Spot)
    (rest : List Spot)
    (state : σ) :
    preorderPending scope step (spot :: rest) state ≠ [] := by
  rw [preorderPending, preorder_eq]
  exact List.cons_ne_nil _ _

/-- A walk from nodes that wait makes the first visits of the recursion. -/
theorem walkPending_ofStep
    (spots : List Spot)
    (budget : Budget)
    (state : σ) :
    walkPending (Visitor.ofStep step) (spots.map Spot.waiting) budget state =
      (budget.afterVisits (preorderPending budget.limits.scope step spots state),
        stateAfter step state
          ((preorderPending budget.limits.scope step spots state).take
            (budget.limits.maxNodes - budget.visited))) := by
  cases spots with
  | nil =>
      simp [preorderPending, Budget.afterVisits]
  | cons spot rest =>
      rw [List.map_cons]
      cases spent : budget.isExhausted with
      | true =>
          rw [Spot.waiting, walkPending_of_isExhausted spent, Budget.room_of_isExhausted spent,
            Budget.afterVisits_of_isExhausted spent (preorderPending_ne_nil spot rest state)]
          rfl
      | false =>
          have isLeft : budget.visited < budget.limits.maxNodes := by
            simpa [Budget.isExhausted] using spent
          have room : budget.limits.maxNodes - budget.visited =
              budget.limits.maxNodes - (budget.visited + 1) + 1 := by
            omega
          cases answer : (step spot.node spot.depth state).1 with
          | skip =>
              have visited : Visitor.ofStep step spot.node spot.depth budget.charge state =
                  (.skip, budget.charge, (step spot.node spot.depth state).2) := by
                rw [Visitor.ofStep, answer]
              have kept : budget.charge.note ((spot.visit step state).isCut budget.limits) =
                  budget.charge := by
                simp [Visit.isCut, Spot.visit, answer, Budget.note]
              rw [Spot.waiting, walkPending_of_skip spent visited,
                walkPending_ofStep rest budget.charge, preorderPending_of_skip answer,
                Budget.afterVisits_cons isLeft, kept, room, List.take_succ_cons]
              rfl
          | into =>
              have visited : Visitor.ofStep step spot.node spot.depth budget.charge state =
                  (.into, budget.charge, (step spot.node spot.depth state).2) := by
                rw [Visitor.ofStep, answer]
              have isCut : (spot.visit step state).isCut budget.limits =
                  budget.limits.cuts spot.node spot.depth := by
                simp [Visit.isCut, Spot.visit, answer]
              have waits := waiting_append spot.place 0 (spot.depth + 1)
                (budget.limits.childrenOf spot.node spot.depth) rest
              rw [← Spot.below] at waits
              rw [Spot.waiting, walkPending_of_into spent visited, Budget.childrenOf_eq]
              change walkPending _
                ((budget.limits.childrenOf spot.node spot.depth).map _ ++ rest.map Spot.waiting)
                (budget.charge.note (budget.limits.cuts spot.node spot.depth)) _ = _
              rw [waits,
                walkPending_ofStep (spot.below budget.limits ++ rest)
                  (budget.charge.note (budget.limits.cuts spot.node spot.depth)),
                preorderPending_of_into answer (preorderAll_scope_eq_below spot),
                Budget.afterVisits_cons isLeft, isCut, room,
                List.take_succ_cons]
              rfl
termination_by pendingCount (spots.map Spot.waiting)
decreasing_by
  · have fewer := pendingCount_childrenOf_lt budget spot.node spot.depth (rest.map Spot.waiting)
    rw [Budget.childrenOf_eq] at fewer
    exact waits ▸ fewer
  · exact pendingCount_waiting_lt spot.waiting _

end SourceFacts.Syntax

namespace SourceFacts.Syntax

/-!
## A walk is a recursion that may end early

A walk calls its visitor as the recursion within its limits does, until the budget is
spent. It counts its visits, never more than there may be, and it has left something
out exactly if the recursion without limits comes to a place that the walk did not
visit.
-/

variable {σ : Type}

/-! ### Records of visits -/

/-- What a visitor does, with a record of the nodes and depths that it is called with. -/
def Step.recorded (step : Step σ) : Step (List (Node × Nat) × σ) := fun node depth recorded =>
  ((step node depth recorded.2).1, recorded.1 ++ [(node, depth)], (step node depth recorded.2).2)

/-- A record is continued by the visits that are made. -/
theorem stateAfter_recorded
    (step : Step σ)
    (record : List (Node × Nat))
    (state : σ)
    (visits : List Visit) :
    stateAfter step.recorded (record, state) visits =
      (record ++ visits.map (·.spot.waiting), stateAfter step state visits) := by
  induction visits generalizing record state with
  | nil =>
      simp
  | cons visit rest inductionHypothesis =>
      rw [stateAfter_cons, stateAfter_cons, Visit.after, Step.recorded, inductionHypothesis,
        List.map_cons, List.append_assoc]
      rfl

mutual

/-- A record changes no visit. -/
theorem preorder_recorded
    (scope : Scope)
    (step : Step σ)
    (place : List Nat)
    (node : Node)
    (depth : Nat)
    (record : List (Node × Nat))
    (state : σ) :
    preorder scope step.recorded place node depth (record, state) =
      preorder scope step place node depth state := by
  cases node with
  | mk info children =>
      rw [preorder_eq, preorder_eq]
      have stepped : step.recorded (.mk info children) depth (record, state) =
          ((step (.mk info children) depth state).1, record ++ [(.mk info children, depth)],
            (step (.mk info children) depth state).2) := rfl
      rw [stepped]
      dsimp only
      rw [preorderAll_recorded]
      rfl

/-- A record changes no visit of children and of what is below them. -/
theorem preorderAll_recorded
    (scope : Scope)
    (step : Step σ)
    (place : List Nat)
    (number : Nat)
    (nodes : List Node)
    (depth : Nat)
    (record : List (Node × Nat))
    (state : σ) :
    preorderAll scope step.recorded place number nodes depth (record, state) =
      preorderAll scope step place number nodes depth state := by
  cases nodes with
  | nil =>
      rw [preorderAll, preorderAll]
  | cons node rest =>
      rw [preorderAll, preorderAll]
      dsimp only
      rw [preorder_recorded, stateAfter_recorded, preorderAll_recorded, preorderAll_recorded]

end

/-! ### Visits within a budget -/

variable {step : Step σ} {root : Node} {depth : Nat} {budget : Budget} {state : σ}

/-- The visits that a walk makes: the first of the recursion within its limits, as many as
the budget has left. -/
def Budget.visits (budget : Budget) (step : Step σ) (root : Node) (depth : Nat) (state : σ) :
    List Visit :=
  (preorder budget.limits.scope step [] root depth state).take
    (budget.limits.maxNodes - budget.visited)

/-- A walk makes these visits. -/
theorem walk_ofStep
    (step : Step σ)
    (root : Node)
    (depth : Nat)
    (budget : Budget)
    (state : σ) :
    walk (Visitor.ofStep step) root depth budget state =
      (budget.afterVisits (preorder budget.limits.scope step [] root depth state),
        stateAfter step state (budget.visits step root depth state)) := by
  have single : preorderPending budget.limits.scope step [⟨[], root, depth⟩] state =
      preorder budget.limits.scope step [] root depth state := by
    rw [preorderPending, preorderPending, List.append_nil]
  rw [Budget.visits, ← single]
  exact walkPending_ofStep [⟨[], root, depth⟩] budget state

/-- If not all visits of a recursion are made, a place is missing. -/
theorem misses_take
    {visits : List Visit}
    (distinct : (visits.map (·.spot.place)).Nodup)
    {room : Nat}
    (few : room < visits.length) :
    Misses visits (visits.take room) := by
  refine ⟨visits[room], List.getElem_mem few, ?_⟩
  intro again
  rw [← List.take_append_drop room visits, List.map_append, List.nodup_append] at distinct
  refine distinct.2.2 _ again visits[room].spot.place ?_ rfl
  rw [List.drop_eq_getElem_cons few, List.map_cons]
  exact List.mem_cons_self

/-- What is missing among some visits is missing among the first of them. -/
theorem Misses.take
    {reached visits : List Visit}
    (misses : Misses reached visits)
    (room : Nat) :
    Misses reached (visits.take room) := by
  obtain ⟨visit, member, missing⟩ := misses
  refine ⟨visit, member, ?_⟩
  rw [List.map_take]
  exact fun again => missing (List.mem_of_mem_take again)

/-- The visits that are made miss a place if the budget is too small for all visits within
the limits, or these miss one. -/
theorem misses_visits :
    Misses (preorder Scope.all step [] root depth state) (budget.visits step root depth state) ↔
      budget.limits.maxNodes - budget.visited <
          (preorder budget.limits.scope step [] root depth state).length ∨
        (preorder budget.limits.scope step [] root depth state).any (·.isCut budget.limits) =
          true := by
  rw [← misses_iff_any_isCut, Budget.visits]
  by_cases left : Misses (preorder Scope.all step [] root depth state)
      (preorder budget.limits.scope step [] root depth state)
  · exact iff_of_true (left.take _) (Or.inr left)
  · have kept : ∀ visit ∈ preorder budget.limits.scope step [] root depth state,
        visit.isCut budget.limits = false := by
      intro visit member
      exact Bool.eq_false_iff.mpr fun isCut => left (misses_of_isCut ⟨visit, member, isCut⟩)
    rw [preorder_all_of_not_isCut kept, or_iff_left (preorder_all_of_not_isCut kept ▸ left)]
    constructor
    · intro misses
      by_cases few : budget.limits.maxNodes - budget.visited <
          (preorder budget.limits.scope step [] root depth state).length
      · exact few
      · rw [List.take_of_length_le (Nat.not_lt.mp few)] at misses
        obtain ⟨visit, member, missing⟩ := misses
        exact absurd (List.mem_map_of_mem member) missing
    · exact misses_take (nodup_preorder _ _ _ _ _ _)

/-! ### Walks -/

/-- A walk is the recursion within its limits until the budget is spent. -/
structure IsRecursion (step : Step σ) (root : Node) (depth : Nat) (budget : Budget) (state : σ) :
    Prop where
  /-- The visitor is called with the nodes and depths of the first visits, in order. -/
  calls : (walk (Visitor.ofStep step.recorded) root depth budget ([], state)).2.1 =
    (budget.visits step root depth state).map (·.spot.waiting)
  /-- Keeping a record of the calls changes nothing else. -/
  recorded : walk (Visitor.ofStep step) root depth budget state =
    ((walk (Visitor.ofStep step.recorded) root depth budget ([], state)).1,
      (walk (Visitor.ofStep step.recorded) root depth budget ([], state)).2.2)
  /-- The visitor is left with the state after these visits. -/
  final : (walk (Visitor.ofStep step) root depth budget state).2 =
    stateAfter step state (budget.visits step root depth state)
  /-- The limits stay as they are. -/
  limits : (walk (Visitor.ofStep step) root depth budget state).1.limits = budget.limits
  /-- Every visit is counted. -/
  visited : (walk (Visitor.ofStep step) root depth budget state).1.visited =
    budget.visited + (budget.visits step root depth state).length
  /-- There are never more visits than there may be. -/
  within : (walk (Visitor.ofStep step) root depth budget state).1.visited ≤
    budget.limits.maxNodes
  /-- Something is left out if and only if a place is not visited that the recursion
  without limits comes to, or something was left out before. -/
  truncated : (walk (Visitor.ofStep step) root depth budget state).1.truncated = true ↔
    budget.truncated = true ∨
      Misses (preorder Scope.all step [] root depth state) (budget.visits step root depth state)

/-- Every walk is the recursion within its limits until the budget is spent. -/
theorem isRecursion_of_within
    (step : Step σ)
    (root : Node)
    (depth : Nat)
    (budget : Budget)
    (within : budget.visited ≤ budget.limits.maxNodes)
    (state : σ) :
    IsRecursion step root depth budget state := by
  have walked := walk_ofStep step root depth budget state
  have walkedRecorded := walk_ofStep step.recorded root depth budget ([], state)
  have sameVisits : budget.visits step.recorded root depth ([], state) =
      budget.visits step root depth state := by
    rw [Budget.visits, preorder_recorded, Budget.visits]
  rw [preorder_recorded, sameVisits, stateAfter_recorded] at walkedRecorded
  refine ⟨?_, ?_, ?_, ?_, ?_, ?_, ?_⟩
  · rw [walkedRecorded, List.nil_append]
  · rw [walked, walkedRecorded]
  · rw [walked]
  · rw [walked]
    rfl
  · rw [walked]
    rfl
  · rw [walked, Budget.afterVisits]
    dsimp only
    rw [List.length_take]
    omega
  · rw [walked, misses_visits]
    simp [Budget.afterVisits]

/-- A tree with three nodes. -/
def Node.fork : Node :=
  .mk { kind := "sum" } [.mk { kind := "left" } [], .mk { kind := "right" } []]

/-- A walk that counts the nodes of a tree is a recursion that ends before the last one. -/
theorem isRecursion_fork :
    (1 ≤ 3) ∧
      IsRecursion (fun _ _ count => (.into, count + 1)) Node.fork 0
        { limits := { maxNodes := 3 }, visited := 1 } 0 :=
  ⟨by decide, isRecursion_of_within _ _ _ _ (by decide) _⟩

end SourceFacts.Syntax
