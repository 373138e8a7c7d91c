import Mathlib.Data.List.Nodup
import SourceFacts.Proofs.Syntax.Calls
import SourceFacts.Proofs.Syntax.Completeness

namespace SourceFacts.Syntax

/-!
# Spots that are come by

Nodes may be equal, and only their places tell them apart. A recursion that enters some nodes comes
by spots, each at a place of its own. Two spots are apart if nothing is at or below both. The
children of a spot are, and so are any spots of which each is at or below another one that is not
entered.
-/

namespace Spot

variable {enters : Node → Bool} {spot start inner first second : Spot}

/-! ## Below a spot -/

/-- A spot is at another one or below it. -/
def Has (spot inner : Spot) : Prop :=
  ∃ rest, inner.place = spot.place ++ rest ∧ spot.node.at? rest = some inner.node

theorem has_self (spot : Spot) : spot.Has spot := ⟨[], (List.append_nil _).symm, rfl⟩

theorem Has.trans
    {last : Spot}
    (has : spot.Has inner)
    (below : inner.Has last) :
    spot.Has last := by
  obtain ⟨rest, isPlace, isThere⟩ := has
  obtain ⟨more, isBelow, isLast⟩ := below
  refine ⟨rest ++ more, ?_, ?_⟩
  · rw [isBelow, isPlace, List.append_assoc]
  · rw [Node.at?_append isThere, isLast]

theorem Has.isPrefix (has : spot.Has inner) : spot.place <+: inner.place := by
  obtain ⟨rest, isPlace, _⟩ := has
  rw [isPlace]
  exact List.prefix_append _ _

theorem has_of_child
    {number : Nat}
    (isChild : spot.node.children[number]? = some inner.node)
    (isPlace : inner.place = spot.place ++ [number]) :
    spot.Has inner := by
  refine ⟨[number], isPlace, ?_⟩
  rw [Node.at?, isChild]
  rfl

theorem has_of_child?
    {field : String}
    {depth : Nat}
    (found : spot.child? field depth = some inner) :
    spot.Has inner := by
  obtain ⟨number, isChild, isPlace, _⟩ := child?_eq_some found
  exact has_of_child isChild isPlace

/-- The spots of the children of a spot. -/
def children (spot : Spot) : List Spot :=
  spotsFrom spot.place 0 (spot.depth + 1) spot.node.children

theorem mem_children :
    inner ∈ spot.children ↔
      ∃ number, spot.node.children[number]? = some inner.node ∧
        inner.place = spot.place ++ [number] ∧ inner.depth = spot.depth + 1 := by
  simp only [children, mem_spotsFrom, Nat.zero_add]

theorem nodes_children (spot : Spot) : spot.children.map (·.node) = spot.node.children := by
  have nodes := congrArg (List.map Prod.fst)
    (waiting_spotsFrom spot.place 0 (spot.depth + 1) spot.node.children)
  simpa [children, waiting, Function.comp_def] using nodes

theorem has_of_mem_children (isChild : inner ∈ spot.children) : spot.Has inner := by
  obtain ⟨number, isNode, isPlace, _⟩ := mem_children.mp isChild
  exact has_of_child isNode isPlace

theorem count_lt_of_mem_children
    (isChild : inner ∈ spot.children) :
    inner.node.count < spot.node.count := by
  obtain ⟨number, isNode, _, _⟩ := mem_children.mp isChild
  exact Node.count_lt_of_mem (List.mem_of_getElem? isNode)

/-- The spots that are come by in preorder from one on, entering only some nodes. -/
def within (start : Spot) (enters : Node → Bool) : List Spot :=
  (preorder Scope.all (fun node _ _ => (if enters node then .into else .skip, ())) start.place
    start.node start.depth ()).map (·.spot)

/-- The spots below one that is entered are come by. -/
theorem within_eq
    (start : Spot)
    (enters : Node → Bool) :
    start.within enters =
      start :: if enters start.node then start.children.flatMap (·.within enters) else [] := by
  have pending : ∀ spots : List Spot,
      (preorderPending Scope.all (fun node _ _ => (if enters node then .into else .skip, ()))
        spots ()).map (·.spot) = spots.flatMap (·.within enters) := by
    intro spots
    induction spots with
    | nil =>
        rfl
    | cons spot rest inductionHypothesis =>
        rw [preorderPending, List.map_append, inductionHypothesis]
        rfl
  rw [within, preorder_eq, List.map_cons]
  cases entered : enters start.node with
  | true =>
      dsimp only
      rw [if_pos rfl, preorderAll_all_eq_preorderPending, pending]
      rfl
  | false =>
      rfl

/-- The nodes at the spots that are come by. -/
theorem nodes_within
    (start : Spot)
    (enters : Node → Bool) :
    (start.within enters).map (·.node) = start.node.within enters := by
  rw [within, List.map_map]
  exact nodes_preorder (fun _ _ _ => rfl) start.place start.node start.depth ()

/-- No place is come by twice. -/
theorem nodup_within
    (start : Spot)
    (enters : Node → Bool) :
    ((start.within enters).map (·.place)).Nodup := by
  rw [within, List.map_map]
  exact nodup_preorder _ _ _ _ _ _

theorem has_of_mem_within
    {start : Spot}
    (member : inner ∈ start.within enters) :
    start.Has inner := by
  rw [within_eq, List.mem_cons] at member
  rcases member with rfl | member
  · exact has_self _
  · split at member
    · obtain ⟨child, isChild, isBelow⟩ := List.mem_flatMap.mp member
      have fewer := count_lt_of_mem_children isChild
      exact (has_of_mem_children isChild).trans (has_of_mem_within isBelow)
    · cases member
termination_by start.node.count

/-- All nodes are come by if all are entered. -/
theorem mem_within_of_has
    {start : Spot}
    (has : start.Has inner) :
    ∃ spot ∈ start.within fun _ => true, spot.place = inner.place ∧ spot.node = inner.node := by
  obtain ⟨rest, isPlace, isThere⟩ := has
  rw [within_eq, if_pos rfl]
  cases rest with
  | nil =>
      exact ⟨start, List.mem_cons_self, by rw [isPlace, List.append_nil], Option.some.inj isThere⟩
  | cons number rest =>
      rw [Node.at?, Option.bind_eq_some_iff] at isThere
      obtain ⟨node, isNode, isBelow⟩ := isThere
      let child : Spot := ⟨start.place ++ [number], node, start.depth + 1⟩
      have isChild : child ∈ start.children := mem_children.mpr ⟨number, isNode, rfl, rfl⟩
      have fewer := count_lt_of_mem_children isChild
      have hasBelow : child.Has inner :=
        ⟨rest, isPlace.trans (List.append_cons _ _ _), isBelow⟩
      obtain ⟨spot, member, same⟩ := mem_within_of_has hasBelow
      exact ⟨spot, List.mem_cons_of_mem _ (List.mem_flatMap.mpr ⟨child, isChild, member⟩), same⟩
termination_by start.node.count

/-! ## Spots that are apart -/

/-- Nothing is at or below both of two spots. -/
def Apart (first second : Spot) : Prop :=
  ∀ place, first.place <+: place → ¬ second.place <+: place

theorem Apart.symm (apart : first.Apart second) : second.Apart first :=
  fun place isSecond isFirst => apart place isFirst isSecond

/-- What is below spots that are apart is apart. -/
theorem Apart.below
    {left right : Spot}
    (apart : first.Apart second)
    (hasLeft : first.Has left)
    (hasRight : second.Has right) :
    left.Apart right :=
  fun place atLeft atRight =>
    apart place (hasLeft.isPrefix.trans atLeft) (hasRight.isPrefix.trans atRight)

/-- The children of a spot are apart. -/
theorem apart_children (spot : Spot) : spot.children.Pairwise Apart := by
  have apart : ∀ (number : Nat) (nodes : List Node),
      (spotsFrom spot.place number (spot.depth + 1) nodes).Pairwise Apart := by
    intro number nodes
    induction nodes generalizing number with
    | nil =>
        exact List.Pairwise.nil
    | cons node rest inductionHypothesis =>
        refine List.Pairwise.cons ?_ (inductionHypothesis (number + 1))
        intro other isLater place isFirst isOther
        obtain ⟨index, _, isPlace, _⟩ := mem_spotsFrom.mp isLater
        rw [isPlace] at isOther
        exact ne_of_prefixes isFirst isOther (by omega) rfl
  exact apart 0 spot.node.children

/-- Spots at or below those that are not entered are apart, if those below the same one are. -/
theorem apart_flatMap_within
    {parts : Spot → List Spot}
    (isClosed : ∀ spot, enters spot.node = true → parts spot = [])
    (inside : ∀ spot, ∀ part ∈ parts spot, spot.Has part)
    (apart : ∀ spot, (parts spot).Pairwise Apart)
    (start : Spot) :
    ((start.within enters).flatMap parts).Pairwise Apart := by
  rw [within_eq, List.flatMap_cons]
  cases entered : enters start.node with
  | false =>
      rw [if_neg Bool.false_ne_true, List.flatMap_nil, List.append_nil]
      exact apart start
  | true =>
      rw [if_pos rfl, isClosed start entered, List.nil_append, List.flatMap_assoc,
        List.pairwise_flatMap]
      refine ⟨fun child isChild => ?_, ?_⟩
      · have fewer := count_lt_of_mem_children isChild
        exact apart_flatMap_within isClosed inside apart child
      · have hasParts : ∀ child : Spot, ∀ part ∈ (child.within enters).flatMap parts,
            child.Has part := by
          intro child part member
          obtain ⟨spot, isBelow, isPart⟩ := List.mem_flatMap.mp member
          exact (has_of_mem_within isBelow).trans (inside spot part isPart)
        refine start.apart_children.imp fun areApart left isLeft right isRight => ?_
        exact areApart.below (hasParts _ left isLeft) (hasParts _ right isRight)
termination_by start.node.count

/-- Places below spots that are apart are distinct, if those below the same one are. -/
theorem nodup_flatMap_of_apart
    {spots : List Spot}
    {places : Spot → List (List Nat)}
    (apart : spots.Pairwise Apart)
    (inside : ∀ spot, ∀ place ∈ places spot, spot.place <+: place)
    (distinct : ∀ spot, (places spot).Nodup) :
    (spots.flatMap places).Nodup := by
  rw [List.nodup_flatMap]
  refine ⟨fun spot _ => distinct spot, apart.imp fun areApart place isFirst isSecond => ?_⟩
  exact areApart place (inside _ place isFirst) (inside _ place isSecond)

end Spot

end SourceFacts.Syntax
