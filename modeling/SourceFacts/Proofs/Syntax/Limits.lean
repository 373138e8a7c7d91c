import SourceFacts.Syntax.Walk

namespace SourceFacts.Syntax

/-!
# Recursion through trees

In which order a recursion comes by the nodes of a tree, and what it leaves out if it is limited.
-/

/-!
## Trees in preorder

The order in which a recursion through a tree comes by its nodes: a node before what
is below it, the children from the first to the last. A visitor that keeps a state
decides at every node whether its children are visited as well, and a scope tells at
which of them the recursion looks. Nodes may be equal, so that each is known by its
place.
-/

/-! ### Visits -/

/-- What a visitor that spends no budget does with a node at a depth. -/
abbrev Step (σ : Type) := Node → Nat → σ → Descent × σ

/-- A node at its place in a tree: the numbers of the children on the way from the root. -/
structure Spot where
  place : List Nat
  node : Node
  depth : Nat

/-- The node and its depth, as they wait for a walk. -/
def Spot.waiting (spot : Spot) : Node × Nat := (spot.node, spot.depth)

/-- A visit with the answer of the visitor. -/
structure Visit where
  spot : Spot
  answer : Descent

variable {σ : Type}

/-- The visit of a spot. -/
def Spot.visit (spot : Spot) (step : Step σ) (state : σ) : Visit :=
  ⟨spot, (step spot.node spot.depth state).1⟩

/-- The state of a visitor after a visit. -/
def Visit.after (step : Step σ) (state : σ) (visit : Visit) : σ :=
  (step visit.spot.node visit.spot.depth state).2

/-- The state of a visitor after visits one after another. -/
def stateAfter (step : Step σ) (state : σ) (visits : List Visit) : σ :=
  visits.foldl (Visit.after step) state

@[simp] theorem stateAfter_nil (step : Step σ) (state : σ) : stateAfter step state [] = state :=
  rfl

@[simp] theorem stateAfter_cons
    (step : Step σ)
    (state : σ)
    (visit : Visit)
    (visits : List Visit) :
    stateAfter step state (visit :: visits) = stateAfter step (visit.after step state) visits :=
  rfl

@[simp] theorem stateAfter_append
    (step : Step σ)
    (state : σ)
    (first second : List Visit) :
    stateAfter step state (first ++ second) =
      stateAfter step (stateAfter step state first) second :=
  List.foldl_append

/-! ### Scopes -/

/-- Which children a recursion looks at, by their depth and their number. -/
abbrev Scope := Nat → Nat → Bool

/-- The scope of a recursion without limits. -/
def Scope.all : Scope := fun _ _ => true

/-- The scope of a recursion within limits. -/
def Limits.scope (limits : Limits) : Scope := fun depth number =>
  depth ≤ limits.maxDepth && number < limits.maxChildren

/-- Whether there are children of a node at a depth that are out of scope. -/
def Limits.cuts (limits : Limits) (node : Node) (depth : Nat) : Bool :=
  !node.children.isEmpty &&
    (limits.maxDepth < depth + 1 || limits.maxChildren < node.children.length)

/-- Whether there are children below a visit that are left out. -/
def Visit.isCut (limits : Limits) (visit : Visit) : Bool :=
  visit.answer = .into && limits.cuts visit.spot.node visit.spot.depth

/-! ### The recursion -/

mutual

/-- The visits of a node at a place and of what is below it. -/
def preorder (scope : Scope) (step : Step σ) (place : List Nat) : Node → Nat → σ → List Visit
  | .mk info children, depth, state =>
      let spot : Spot := ⟨place, .mk info children, depth⟩
      spot.visit step state ::
        match (spot.visit step state).answer with
        | .skip => []
        | .into =>
            preorderAll scope step place 0 children (depth + 1)
              ((spot.visit step state).after step state)

/-- The visits of the children of a place from a number on and of what is below them. -/
def preorderAll (scope : Scope) (step : Step σ) (place : List Nat) (number : Nat) :
    List Node → Nat → σ → List Visit
  | [], _, _ => []
  | node :: rest, depth, state =>
      if scope depth number then
        let first := preorder scope step (place ++ [number]) node depth state
        first ++ preorderAll scope step place (number + 1) rest depth (stateAfter step state first)
      else preorderAll scope step place (number + 1) rest depth state

end

section Places

variable {scope : Scope} {step : Step σ} {place : List Nat} {node : Node} {number depth : Nat}
  {state : σ} {visit : Visit}

/-- A recursion visits the node first, and then what is below it if the visitor says so. -/
theorem preorder_eq :
    preorder scope step place node depth state =
      (⟨place, node, depth⟩ : Spot).visit step state ::
        match (step node depth state).1 with
        | .skip => []
        | .into =>
            preorderAll scope step place 0 node.children (depth + 1) (step node depth state).2 := by
  cases node with
  | mk info children =>
      rw [preorder]
      rfl

/-- A recursion through children goes through one in scope first, and then through the others. -/
theorem preorderAll_cons
    {rest : List Node}
    (inScope : scope depth number = true) :
    preorderAll scope step place number (node :: rest) depth state =
      preorder scope step (place ++ [number]) node depth state ++
        preorderAll scope step place (number + 1) rest depth
          (stateAfter step state (preorder scope step (place ++ [number]) node depth state)) := by
  rw [preorderAll, if_pos inScope]

/-! ### Places -/

mutual

/-- All visits are at the place of the node or below it. -/
theorem prefix_of_mem_preorder
    {place : List Nat}
    {node : Node}
    {depth : Nat}
    {state : σ}
    (member : visit ∈ preorder scope step place node depth state) :
    place <+: visit.spot.place := by
  cases node with
  | mk info children =>
      rw [preorder_eq, List.mem_cons] at member
      rcases member with rfl | below
      · exact List.prefix_rfl
      · split at below
        · exact absurd below List.not_mem_nil
        · obtain ⟨other, _, inside⟩ := exists_prefix_of_mem_preorderAll below
          exact (List.prefix_append place [other]).trans inside

/-- All visits are at the place of a child from the number on or below it. -/
theorem exists_prefix_of_mem_preorderAll
    {nodes : List Node}
    {place : List Nat}
    {number depth : Nat}
    {state : σ}
    (member : visit ∈ preorderAll scope step place number nodes depth state) :
    ∃ other, number ≤ other ∧ place ++ [other] <+: visit.spot.place := by
  cases nodes with
  | nil =>
      rw [preorderAll] at member
      exact absurd member List.not_mem_nil
  | cons node rest =>
      rw [preorderAll] at member
      have inRest : ∀ {state : σ},
          visit ∈ preorderAll scope step place (number + 1) rest depth state →
            ∃ other, number ≤ other ∧ place ++ [other] <+: visit.spot.place := by
        intro state later
        obtain ⟨other, after, inside⟩ := exists_prefix_of_mem_preorderAll later
        exact ⟨other, Nat.le_of_succ_le after, inside⟩
      split at member
      · rcases List.mem_append.mp member with first | later
        · exact ⟨number, Nat.le_refl number, prefix_of_mem_preorder first⟩
        · exact inRest later
      · exact inRest member

end

/-- What is below a place is not at the place itself. -/
theorem ne_of_below
    {other : Nat}
    {below : List Nat}
    (inside : place ++ [other] <+: below) :
    below ≠ place := by
  rintro rfl
  have longer := inside.length_le
  rw [List.length_append, List.length_singleton] at longer
  omega

/-- What is at or below one child is not at or below another. -/
theorem ne_of_prefixes
    {first second : Nat}
    {left right : List Nat}
    (leftInside : place ++ [first] <+: left)
    (rightInside : place ++ [second] <+: right)
    (differs : first ≠ second) :
    left ≠ right := by
  rintro rfl
  have same := List.prefix_of_prefix_length_le leftInside rightInside (by simp)
  have equal := same.eq_of_length (by simp)
  simp at equal
  exact differs equal

/-- A child and what is below it are at other places than later children and what is below
them, also where a recursion visits them in another scope or state. -/
theorem place_ne_of_mem
    {otherScope : Scope}
    {node : Node}
    {rest : List Node}
    {place : List Nat}
    {number depth : Nat}
    {state otherState : σ}
    {first later : Visit}
    (isFirst : first ∈ preorder scope step (place ++ [number]) node depth state)
    (isLater : later ∈ preorderAll otherScope step place (number + 1) rest depth otherState) :
    first.spot.place ≠ later.spot.place := by
  obtain ⟨other, after, inside⟩ := exists_prefix_of_mem_preorderAll isLater
  exact ne_of_prefixes (prefix_of_mem_preorder isFirst) inside (by omega)

mutual

/-- No place is visited twice. -/
theorem nodup_preorder
    (scope : Scope)
    (step : Step σ)
    (place : List Nat)
    (node : Node)
    (depth : Nat)
    (state : σ) :
    ((preorder scope step place node depth state).map (·.spot.place)).Nodup := by
  cases node with
  | mk info children =>
      rw [preorder_eq, List.map_cons, List.nodup_cons]
      constructor
      · intro again
        obtain ⟨visit, member, isPlace⟩ := List.mem_map.mp again
        split at member
        · exact absurd member List.not_mem_nil
        · obtain ⟨other, _, inside⟩ := exists_prefix_of_mem_preorderAll member
          exact ne_of_below inside isPlace
      · split
        · exact List.nodup_nil
        · exact nodup_preorderAll scope step place 0 children (depth + 1) _

/-- No place is visited twice among children and what is below them. -/
theorem nodup_preorderAll
    (scope : Scope)
    (step : Step σ)
    (place : List Nat)
    (number : Nat)
    (nodes : List Node)
    (depth : Nat)
    (state : σ) :
    ((preorderAll scope step place number nodes depth state).map (·.spot.place)).Nodup := by
  cases nodes with
  | nil =>
      rw [preorderAll]
      exact List.nodup_nil
  | cons node rest =>
      rw [preorderAll]
      split
      · rw [List.map_append, List.nodup_append]
        refine ⟨nodup_preorder scope step _ node depth state,
          nodup_preorderAll scope step place (number + 1) rest depth _, ?_⟩
        intro left isLeft right isRight
        obtain ⟨first, isFirst, rfl⟩ := List.mem_map.mp isLeft
        obtain ⟨later, isLater, rfl⟩ := List.mem_map.mp isRight
        exact place_ne_of_mem isFirst isLater
      · exact nodup_preorderAll scope step place (number + 1) rest depth state

end

end Places

/-!
## What limits leave out

A recursion within limits that leaves out no children does the same as one without
limits. As soon as it leaves out some, a place is missing that the recursion without
limits comes to, whatever the visitor decides after that.
-/

variable {step : Step σ} {limits : Limits}

/-- Children that are all in scope. -/
def Limits.Covers (limits : Limits) (number : Nat) (nodes : List Node) (depth : Nat) : Prop :=
  nodes = [] ∨ depth ≤ limits.maxDepth ∧ number + nodes.length ≤ limits.maxChildren

/-- The children of a node are in scope if none are left out. -/
theorem Limits.covers_of_not_cuts
    {node : Node}
    {depth : Nat}
    (kept : limits.cuts node depth = false) :
    limits.Covers 0 node.children (depth + 1) := by
  by_cases isLeaf : node.children = []
  · exact Or.inl isLeaf
  · simp [Limits.cuts, isLeaf] at kept
    exact Or.inr ⟨by omega, by omega⟩

/-- The children of a node are not all in scope if some are left out. -/
theorem Limits.not_covers_of_cuts
    {node : Node}
    {depth : Nat}
    (left : limits.cuts node depth = true) :
    ¬ limits.Covers 0 node.children (depth + 1) := by
  simp only [Limits.cuts, Bool.and_eq_true, Bool.not_eq_true', List.isEmpty_eq_false_iff,
    Bool.or_eq_true, decide_eq_true_eq] at left
  rintro (isLeaf | ⟨shallow, few⟩)
  · exact left.1 isLeaf
  · omega

/-- Of children that are all in scope the first is, and so are the others. -/
theorem Limits.Covers.cons
    {number depth : Nat}
    {node : Node}
    {rest : List Node}
    (covers : limits.Covers number (node :: rest) depth) :
    limits.scope depth number = true ∧ limits.Covers (number + 1) rest depth := by
  rcases covers with none | ⟨shallow, few⟩
  · exact absurd none (List.cons_ne_nil _ _)
  · rw [List.length_cons] at few
    refine ⟨?_, Or.inr ⟨shallow, by omega⟩⟩
    simp only [Limits.scope, Bool.and_eq_true, decide_eq_true_eq]
    omega

/-- If the first of some children is in scope and some are not, some of the others are not. -/
theorem Limits.not_covers_rest
    {number depth : Nat}
    {node : Node}
    {rest : List Node}
    (uncovered : ¬ limits.Covers number (node :: rest) depth)
    (inScope : limits.scope depth number = true) :
    ¬ limits.Covers (number + 1) rest depth := by
  simp only [Limits.scope, Bool.and_eq_true, decide_eq_true_eq] at inScope
  rintro (isLast | ⟨shallow, few⟩)
  · subst rest
    exact uncovered (Or.inr ⟨inScope.1, Nat.succ_le_of_lt inScope.2⟩)
  · refine uncovered (Or.inr ⟨shallow, ?_⟩)
    rw [List.length_cons]
    omega

/-- After a child that is out of scope there is none in scope. -/
theorem preorderAll_eq_nil
    {number depth : Nat}
    (outOfScope : limits.scope depth number = false)
    (place : List Nat)
    (nodes : List Node)
    (state : σ) :
    preorderAll limits.scope step place number nodes depth state = [] := by
  induction nodes generalizing number with
  | nil =>
      rw [preorderAll]
  | cons node rest inductionHypothesis =>
      have nextOutOfScope : limits.scope depth (number + 1) = false := by
        simp only [Limits.scope, Bool.and_eq_false_iff, decide_eq_false_iff_not] at outOfScope ⊢
        omega
      rw [preorderAll, outOfScope]
      exact inductionHypothesis nextOutOfScope

/-! ### Nothing is left out -/

mutual

/-- If nothing is left out at any visit, the visits are those without limits. -/
theorem preorder_all_of_not_isCut
    {place : List Nat}
    {node : Node}
    {depth : Nat}
    {state : σ}
    (kept : ∀ visit ∈ preorder limits.scope step place node depth state,
      visit.isCut limits = false) :
    preorder Scope.all step place node depth state =
      preorder limits.scope step place node depth state := by
  cases node with
  | mk info children =>
      rw [preorder_eq, List.forall_mem_cons] at kept
      rw [preorder_eq, preorder_eq]
      cases answer : (step (.mk info children) depth state).1 with
      | skip =>
          rfl
      | into =>
          rw [answer] at kept
          have keptHere : limits.cuts (.mk info children) depth = false := by
            simpa [Visit.isCut, Spot.visit, answer] using kept.1
          dsimp only
          rw [preorderAll_all_of_not_isCut (Limits.covers_of_not_cuts keptHere) kept.2]

/-- If all children are in scope and nothing is left out below them, the visits are those
without limits. -/
theorem preorderAll_all_of_not_isCut
    {place : List Nat}
    {number : Nat}
    {nodes : List Node}
    {depth : Nat}
    {state : σ}
    (covers : limits.Covers number nodes depth)
    (kept : ∀ visit ∈ preorderAll limits.scope step place number nodes depth state,
      visit.isCut limits = false) :
    preorderAll Scope.all step place number nodes depth state =
      preorderAll limits.scope step place number nodes depth state := by
  cases nodes with
  | nil =>
      rw [preorderAll, preorderAll]
  | cons node rest =>
      obtain ⟨inScope, restCovers⟩ := covers.cons
      rw [preorderAll_cons inScope, List.forall_mem_append] at kept
      rw [preorderAll_cons inScope, preorderAll_cons (rfl : Scope.all depth number = true),
        preorder_all_of_not_isCut kept.1, preorderAll_all_of_not_isCut restCovers kept.2]

end

/-! ### Something is left out -/

/-- A place that the first visits come to and the second do not. -/
def Misses (reached visits : List Visit) : Prop :=
  ∃ visit ∈ reached, visit.spot.place ∉ visits.map (·.spot.place)

/-- What is missing among the first of some visits is missing among all of them, if the others
are elsewhere. -/
theorem Misses.append_left
    {reached visits : List Visit}
    (misses : Misses reached visits)
    (others : List Visit)
    {later : List Visit}
    (elsewhere : ∀ first ∈ reached, ∀ visit ∈ later, first.spot.place ≠ visit.spot.place) :
    Misses (reached ++ others) (visits ++ later) := by
  obtain ⟨visit, isReached, missing⟩ := misses
  refine ⟨visit, List.mem_append_left _ isReached, ?_⟩
  rw [List.map_append, List.mem_append, not_or]
  refine ⟨missing, fun again => ?_⟩
  obtain ⟨other, isLater, same⟩ := List.mem_map.mp again
  exact elsewhere visit isReached other isLater same.symm

/-- What is missing among the last of some visits is missing among all of them, if the others
are elsewhere. -/
theorem Misses.append_right
    {reached visits : List Visit}
    (misses : Misses reached visits)
    (others : List Visit)
    {before : List Visit}
    (elsewhere : ∀ visit ∈ before, ∀ later ∈ reached, visit.spot.place ≠ later.spot.place) :
    Misses (others ++ reached) (before ++ visits) := by
  obtain ⟨visit, isReached, missing⟩ := misses
  refine ⟨visit, List.mem_append_right _ isReached, ?_⟩
  rw [List.map_append, List.mem_append, not_or]
  refine ⟨fun again => ?_, missing⟩
  obtain ⟨other, isBefore, same⟩ := List.mem_map.mp again
  exact elsewhere other isBefore visit isReached same

mutual

/-- If something is left out at a visit, a place is missing. -/
theorem misses_of_isCut
    {place : List Nat}
    {node : Node}
    {depth : Nat}
    {state : σ}
    (left : ∃ visit ∈ preorder limits.scope step place node depth state,
      visit.isCut limits = true) :
    Misses (preorder Scope.all step place node depth state)
      (preorder limits.scope step place node depth state) := by
  cases node with
  | mk info children =>
      obtain ⟨cut, member, isCut⟩ := left
      rw [preorder_eq] at member
      rw [preorder_eq, preorder_eq]
      cases answer : (step (.mk info children) depth state).1 with
      | skip =>
          rw [answer] at member
          obtain rfl := List.mem_singleton.mp member
          simp [Visit.isCut, Spot.visit, answer] at isCut
      | into =>
          rw [answer] at member
          have uncovered : ¬ limits.Covers 0 children (depth + 1) ∨
              ∃ visit ∈ preorderAll limits.scope step place 0 children (depth + 1)
                (step (.mk info children) depth state).2, visit.isCut limits = true := by
            rcases List.mem_cons.mp member with rfl | below
            · simp only [Visit.isCut, Bool.and_eq_true] at isCut
              exact Or.inl (Limits.not_covers_of_cuts isCut.2)
            · exact Or.inr ⟨cut, below, isCut⟩
          obtain ⟨visit, reached, missing⟩ := misses_of_not_covers uncovered
          obtain ⟨other, _, inside⟩ := exists_prefix_of_mem_preorderAll reached
          refine ⟨visit, List.mem_cons_of_mem _ reached, ?_⟩
          rw [List.map_cons, List.mem_cons, not_or]
          exact ⟨ne_of_below inside, missing⟩

/-- If a child is out of scope or something is left out below one, a place is missing. -/
theorem misses_of_not_covers
    {place : List Nat}
    {number : Nat}
    {nodes : List Node}
    {depth : Nat}
    {state : σ}
    (left : ¬ limits.Covers number nodes depth ∨
      ∃ visit ∈ preorderAll limits.scope step place number nodes depth state,
        visit.isCut limits = true) :
    Misses (preorderAll Scope.all step place number nodes depth state)
      (preorderAll limits.scope step place number nodes depth state) := by
  cases nodes with
  | nil =>
      rcases left with uncovered | ⟨visit, member, _⟩
      · exact absurd (Or.inl rfl) uncovered
      · rw [preorderAll] at member
        exact absurd member List.not_mem_nil
  | cons node rest =>
      rw [preorderAll_cons (rfl : Scope.all depth number = true)]
      cases inScope : limits.scope depth number with
      | false =>
          refine ⟨(⟨place ++ [number], node, depth⟩ : Spot).visit step state, ?_, ?_⟩
          · rw [preorder_eq]
            exact List.mem_append_left _ List.mem_cons_self
          · rw [preorderAll_eq_nil inScope]
            exact List.not_mem_nil
      | true =>
          rw [preorderAll_cons inScope] at left ⊢
          by_cases cutFirst : ∃ visit ∈ preorder limits.scope step (place ++ [number]) node depth
              state, visit.isCut limits = true
          · -- the state at the other children may differ now, but not the places below this one
            exact (misses_of_isCut cutFirst).append_left _ fun _ first _ later =>
              place_ne_of_mem first later
          · have keptFirst : ∀ visit ∈ preorder limits.scope step (place ++ [number]) node depth
                state, visit.isCut limits = false := by
              intro visit member
              exact Bool.eq_false_iff.mpr fun isCut => cutFirst ⟨visit, member, isCut⟩
            rw [preorder_all_of_not_isCut keptFirst]
            have leftLater : ¬ limits.Covers (number + 1) rest depth ∨
                ∃ visit ∈ preorderAll limits.scope step place (number + 1) rest depth
                  (stateAfter step state
                    (preorder limits.scope step (place ++ [number]) node depth state)),
                  visit.isCut limits = true := by
              rcases left with uncovered | ⟨visit, member, isCut⟩
              · exact Or.inl (Limits.not_covers_rest uncovered inScope)
              · rcases List.mem_append.mp member with first | later
                · exact absurd ⟨visit, first, isCut⟩ cutFirst
                · exact Or.inr ⟨visit, later, isCut⟩
            exact (misses_of_not_covers leftLater).append_right _ fun _ first _ later =>
              place_ne_of_mem first later

end

/-- A recursion within limits leaves something out at a visit if and only if it misses a
place. -/
theorem misses_iff_any_isCut
    (place : List Nat)
    (node : Node)
    (depth : Nat)
    (state : σ) :
    Misses (preorder Scope.all step place node depth state)
        (preorder limits.scope step place node depth state) ↔
      (preorder limits.scope step place node depth state).any (Visit.isCut limits) = true := by
  rw [List.any_eq_true]
  constructor
  · rintro ⟨visit, reached, missing⟩
    by_cases someCut : ∃ visit ∈ preorder limits.scope step place node depth state,
        visit.isCut limits = true
    · exact someCut
    · have kept : ∀ visit ∈ preorder limits.scope step place node depth state,
          visit.isCut limits = false := by
        intro visit member
        exact Bool.eq_false_iff.mpr fun isCut => someCut ⟨visit, member, isCut⟩
      rw [preorder_all_of_not_isCut kept] at reached
      exact absurd (List.mem_map_of_mem reached) missing
  · exact misses_of_isCut

end SourceFacts.Syntax
