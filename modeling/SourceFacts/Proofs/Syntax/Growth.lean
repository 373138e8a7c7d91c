import SourceFacts.Proofs.Syntax.Walks

namespace SourceFacts.Syntax

/-!
# Walks with a smaller budget

Two walks whose budgets differ only in how many nodes may be visited do the same until
the smaller budget is spent. After that the first walk visits nothing more, also where
its visitor begins walks of its own, while the second adds to what both have found.
-/

variable {α σ : Type} {visit : Visitor σ} {begins : σ → σ → Prop} {budget small large : Budget}
  {state : σ}

/-! ## Two budgets -/

/-- Budgets that are spent alike, of which the second allows no fewer visits. -/
structure Budget.InStep (small large : Budget) : Prop where
  visited : small.visited = large.visited
  truncated : small.truncated = large.truncated
  maxDepth : small.limits.maxDepth = large.limits.maxDepth
  maxChildren : small.limits.maxChildren = large.limits.maxChildren
  maxNodes : small.limits.maxNodes ≤ large.limits.maxNodes

/-- A budget that is spent although there is more to visit. -/
structure Budget.IsOverdrawn (budget : Budget) : Prop where
  isExhausted : budget.isExhausted = true
  truncated : budget.truncated = true

namespace Budget

/-- A visit is charged to both budgets. -/
theorem InStep.charge (inStep : small.InStep large) : small.charge.InStep large.charge where
  visited := congrArg (· + 1) inStep.visited
  truncated := inStep.truncated
  maxDepth := inStep.maxDepth
  maxChildren := inStep.maxChildren
  maxNodes := inStep.maxNodes

/-- Both budgets know that something was left out. -/
theorem InStep.truncate (inStep : small.InStep large) : small.truncate.InStep large.truncate :=
  { inStep with truncated := rfl }

/-- Both budgets note the same. -/
theorem InStep.note
    (inStep : small.InStep large)
    (isCut : Bool) :
    (small.note isCut).InStep (large.note isCut) :=
  { inStep with truncated := congrArg (· || isCut) inStep.truncated }

/-- The larger budget is not spent before the smaller one. -/
theorem InStep.isExhausted_large
    (inStep : small.InStep large)
    (isLeft : small.isExhausted = false) :
    large.isExhausted = false := by
  have visited := inStep.visited
  have maxNodes := inStep.maxNodes
  simp only [isExhausted, decide_eq_false_iff_not] at isLeft ⊢
  omega

/-- Both budgets let a walk go on to the same children. -/
theorem InStep.childrenOf
    (inStep : small.InStep large)
    (node : Node)
    (depth : Nat) :
    (small.childrenOf node depth).1 = (large.childrenOf node depth).1 ∧
      (small.childrenOf node depth).2.InStep (large.childrenOf node depth).2 := by
  have sameCut : small.limits.cuts node depth = large.limits.cuts node depth := by
    rw [Limits.cuts, Limits.cuts, inStep.maxDepth, inStep.maxChildren]
  rw [childrenOf_eq, childrenOf_eq, sameCut]
  refine ⟨?_, inStep.note _⟩
  rw [Limits.childrenOf, Limits.childrenOf, inStep.maxDepth, inStep.maxChildren]

/-- A spent budget is overdrawn as soon as more is to be visited. -/
theorem isOverdrawn_truncate (isSpent : budget.isExhausted = true) :
    budget.truncate.IsOverdrawn :=
  ⟨isSpent, rfl⟩

/-- An overdrawn budget stays so whatever is noted. -/
theorem IsOverdrawn.note
    (isOverdrawn : budget.IsOverdrawn)
    (isCut : Bool) :
    (budget.note isCut).IsOverdrawn where
  isExhausted := isOverdrawn.isExhausted
  truncated := by
    rw [Budget.note, isOverdrawn.truncated, Bool.true_or]

end Budget

/-- With an overdrawn budget a walk does nothing. -/
theorem walkPending_of_isOverdrawn
    (isOverdrawn : budget.IsOverdrawn)
    (pending : List (Node × Nat)) :
    walkPending visit pending budget state = (budget, state) := by
  cases pending with
  | nil =>
      exact walkPending_nil
  | cons entry waiting =>
      have same : budget.truncate = budget := by
        rw [Budget.truncate, ← isOverdrawn.truncated]
      rw [walkPending_of_isExhausted isOverdrawn.isExhausted, same]

/-- With an overdrawn budget a walk through a tree does nothing. -/
theorem walk_of_isOverdrawn
    (isOverdrawn : budget.IsOverdrawn)
    (root : Node)
    (depth : Nat) :
    walk visit root depth budget state = (budget, state) :=
  walkPending_of_isOverdrawn isOverdrawn [(root, depth)]

/-! ## Two runs -/

/-- Runs with a smaller and a larger budget end alike, or the smaller budget is overdrawn
and what the first run has found begins what the second has found. -/
def EndsLike (begins : α → α → Prop) (first second : Budget × α) : Prop :=
  (first.1.InStep second.1 ∧ first.2 = second.2) ∨
    (first.1.IsOverdrawn ∧ begins first.2 second.2)

/-- Runs that end alike still do so after the same is done with what they have found. -/
theorem EndsLike.map
    {β : Type}
    {beginsBefore : α → α → Prop}
    {beginsAfter : β → β → Prop}
    {first second : Budget × α}
    (ends : EndsLike beginsBefore first second)
    (change : α → β)
    (keeps : ∀ {first second}, beginsBefore first second →
      beginsAfter (change first) (change second)) :
    EndsLike beginsAfter (first.1, change first.2) (second.1, change second.2) := by
  rcases ends with ⟨inStep, same⟩ | ⟨isOverdrawn, begun⟩
  · exact Or.inl ⟨inStep, congrArg change same⟩
  · exact Or.inr ⟨isOverdrawn, keeps begun⟩

/-- A visitor that decides and does the same with a smaller budget unless this is spent,
and that takes nothing back of what is found. -/
structure Visitor.Grows (visit : Visitor σ) (begins : σ → σ → Prop) : Prop where
  refl : ∀ state, begins state state
  alone : ∀ {first state} node depth budget, begins first state →
    begins first (visit node depth budget state).2.2
  answer : ∀ node depth {small large} state, Budget.InStep small large →
    (visit node depth small state).1 = (visit node depth large state).1
  together : ∀ node depth {small large} state, Budget.InStep small large →
    EndsLike begins (visit node depth small state).2 (visit node depth large state).2

/-- A visitor that spends no budget grows if it only adds to what is found. -/
theorem Visitor.grows_ofStep
    {step : Step σ}
    (refl : ∀ state, begins state state)
    (trans : ∀ {first second third}, begins first second → begins second third →
      begins first third)
    (adds : ∀ node depth state, begins state (step node depth state).2) :
    (Visitor.ofStep step).Grows begins where
  refl := refl
  alone := fun node depth _ begun => trans begun (adds node depth _)
  answer _ _ _ _ _ _ := rfl
  together _ _ _ _ _ inStep := Or.inl ⟨inStep, rfl⟩

/-- A walk takes nothing back of what is found. -/
theorem Visitor.Grows.walkPending_alone
    (grows : visit.Grows begins)
    {first : σ}
    (pending : List (Node × Nat))
    (budget : Budget)
    (state : σ)
    (begun : begins first state) :
    begins first (walkPending visit pending budget state).2 := by
  fun_induction walkPending visit pending budget state with
  | case1 budget state =>
      exact begun
  | case2 budget state node depth waiting isSpent =>
      exact begun
  | case3 budget state node depth waiting isLeft after next visited inductionHypothesis =>
      refine inductionHypothesis ?_
      have alone := grows.alone node depth budget.charge begun
      rwa [visited] at alone
  | case4 budget state node depth waiting isLeft after next visited inductionHypothesis =>
      refine inductionHypothesis ?_
      have alone := grows.alone node depth budget.charge begun
      rwa [visited] at alone

/-- Walks with a smaller and a larger budget end alike. -/
theorem Visitor.Grows.walkPending_endsLike
    (grows : visit.Grows begins)
    (pending : List (Node × Nat))
    {small large : Budget}
    (inStep : small.InStep large)
    (state : σ) :
    EndsLike begins (walkPending visit pending small state)
      (walkPending visit pending large state) := by
  match pending with
  | [] =>
      rw [walkPending_nil, walkPending_nil]
      exact Or.inl ⟨inStep, rfl⟩
  | (node, depth) :: waiting =>
      cases spent : small.isExhausted with
      | true =>
          rw [walkPending_of_isExhausted spent]
          cases alsoSpent : large.isExhausted with
          | true =>
              rw [walkPending_of_isExhausted alsoSpent]
              exact Or.inl ⟨inStep.truncate, rfl⟩
          | false =>
              exact Or.inr ⟨Budget.isOverdrawn_truncate spent,
                grows.walkPending_alone _ large state (grows.refl state)⟩
      | false =>
          have isLeft := inStep.isExhausted_large spent
          have sameAnswer := grows.answer node depth state inStep.charge
          have together := grows.together node depth state inStep.charge
          rcases first : visit node depth small.charge state with ⟨answer, after, next⟩
          rcases second : visit node depth large.charge state with
            ⟨answerLarge, afterLarge, nextLarge⟩
          rw [first, second] at sameAnswer together
          dsimp only at sameAnswer together
          subst answerLarge
          cases answer with
          | skip =>
              rw [walkPending_of_skip spent first, walkPending_of_skip isLeft second]
              rcases together with ⟨stillInStep, same⟩ | ⟨isOverdrawn, begun⟩
              · dsimp only at same
                subst same
                exact grows.walkPending_endsLike waiting stillInStep _
              · rw [walkPending_of_isOverdrawn isOverdrawn]
                exact Or.inr ⟨isOverdrawn, grows.walkPending_alone _ _ _ begun⟩
          | into =>
              rw [walkPending_of_into spent first, walkPending_of_into isLeft second]
              rcases together with ⟨stillInStep, same⟩ | ⟨isOverdrawn, begun⟩
              · obtain ⟨sameChildren, childrenInStep⟩ := stillInStep.childrenOf node depth
                dsimp only at same sameChildren childrenInStep
                subst same
                rw [sameChildren]
                exact grows.walkPending_endsLike _ childrenInStep _
              · have stillOverdrawn : (after.childrenOf node depth).2.IsOverdrawn := by
                  rw [Budget.childrenOf_eq]
                  exact isOverdrawn.note _
                rw [walkPending_of_isOverdrawn stillOverdrawn]
                exact Or.inr ⟨stillOverdrawn, grows.walkPending_alone _ _ _ begun⟩
termination_by pendingCount pending
decreasing_by
  · exact pendingCount_childrenOf_lt _ _ _ _
  · exact pendingCount_waiting_lt _ _

/-- A walk through a tree only adds to what is found. -/
theorem Visitor.Grows.walk_begins
    (grows : visit.Grows begins)
    (root : Node)
    (depth : Nat)
    (budget : Budget)
    (state : σ) :
    begins state (walk visit root depth budget state).2 :=
  grows.walkPending_alone [(root, depth)] budget state (grows.refl state)

/-- Walks through a tree with a smaller and a larger budget end alike. -/
theorem Visitor.Grows.walk_endsLike
    (grows : visit.Grows begins)
    (root : Node)
    (depth : Nat)
    (inStep : small.InStep large)
    (state : σ) :
    EndsLike begins (walk visit root depth small state) (walk visit root depth large state) :=
  grows.walkPending_endsLike [(root, depth)] inStep state

end SourceFacts.Syntax
