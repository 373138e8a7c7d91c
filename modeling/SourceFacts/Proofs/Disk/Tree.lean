import SourceFacts.Disk.Tree

namespace SourceFacts.Disk

/-!
# Trees and what is below their places

What a tree holds after a change, and what of it is below a place.
-/

/-!
## Entries of a tree

What a tree holds after something is put into it or removed from it, and what is
found in a tree in which every place is there once.
-/

/-- Trees with the same entries are the same. -/
theorem eq_of_entries_eq
    {first second : Disk}
    (same : first.entries = second.entries) :
    first = second := by
  cases first
  cases second
  cases same
  rfl

/-- Every place is there once. -/
def Distinct (disk : Disk) : Prop := (disk.entries.map (·.1)).Nodup

/-! ### Changes -/

/-- What is put at a place is there alone, and everything else stays. -/
theorem mem_entries_set
    {disk : Disk}
    {place other : Place}
    {node otherNode : Node} :
    (other, otherNode) ∈ (disk.set place node).entries ↔
      (other = place ∧ otherNode = node) ∨
        (other ≠ place ∧ (other, otherNode) ∈ disk.entries) := by
  unfold set
  split
  · rename_i present
    rw [List.any_eq_true] at present
    obtain ⟨old, member, here⟩ := present
    rw [decide_eq_true_iff] at here
    rw [List.mem_map]
    constructor
    · rintro ⟨entry, entryMember, changed⟩
      split at changed
      · obtain ⟨rfl, rfl⟩ := Prod.mk.inj changed
        exact Or.inl ⟨rfl, rfl⟩
      · rename_i elsewhere
        subst changed
        exact Or.inr ⟨elsewhere, entryMember⟩
    · rintro (⟨rfl, rfl⟩ | ⟨elsewhere, entryMember⟩)
      · exact ⟨old, member, by rw [if_pos here]⟩
      · exact ⟨(other, otherNode), entryMember, by rw [if_neg elsewhere]⟩
  · rename_i absent
    rw [List.mem_append, List.mem_singleton, Prod.mk.injEq]
    constructor
    · rintro (member | new)
      · refine Or.inr ⟨?_, member⟩
        rintro rfl
        exact absent (List.any_eq_true.mpr ⟨_, member, by simp⟩)
      · exact Or.inl new
    · rintro (new | ⟨_, member⟩)
      · exact Or.inr new
      · exact Or.inl member

/-- What is removed is gone, and everything else stays. -/
theorem mem_entries_erase
    {disk : Disk}
    {place other : Place}
    {node : Node} :
    (other, node) ∈ (disk.erase place).entries ↔
      other ≠ place ∧ (other, node) ∈ disk.entries := by
  simp [erase, and_comm]

/-- Every place is still there once after something is put at one. -/
theorem Distinct.set
    {disk : Disk}
    (distinct : disk.Distinct)
    (place : Place)
    (node : Node) :
    (disk.set place node).Distinct := by
  unfold Disk.set
  split
  · have samePlaces :
        (disk.entries.map fun entry => if entry.1 = place then (place, node) else entry).map
            (·.1) =
          disk.entries.map (·.1) := by
      rw [List.map_map]
      refine List.map_congr_left ?_
      intro entry _
      by_cases here : entry.1 = place <;> simp [here]
    rw [Distinct, samePlaces]
    exact distinct
  · rename_i absent
    rw [Distinct, List.map_append, List.map_singleton, List.nodup_append]
    refine ⟨distinct, by simp, ?_⟩
    intro earlier member last isPlace
    rw [List.mem_singleton] at isPlace
    rw [List.mem_map] at member
    obtain ⟨entry, entryMember, rfl⟩ := member
    intro same
    exact absent (List.any_eq_true.mpr ⟨entry, entryMember, by simp [same, isPlace]⟩)

/-- Every place is still there once after something is removed. -/
theorem Distinct.erase
    {disk : Disk}
    (distinct : disk.Distinct)
    (place : Place) :
    (disk.erase place).Distinct :=
  List.Nodup.sublist (List.Sublist.map _ List.filter_sublist) distinct

/-! ### What is there -/

/-- What is at a place that is not the top. -/
theorem node?_eq
    (disk : Disk)
    {place : Place}
    (nonempty : place ≠ []) :
    disk.node? place = (disk.entries.find? (·.1 = place)).map (·.2) := by
  cases place with
  | nil =>
      exact absurd rfl nonempty
  | cons name rest =>
      rfl

/-- What is put at a place is found there. -/
theorem node?_set_self
    (disk : Disk)
    {place : Place}
    (nonempty : place ≠ [])
    (node : Node) :
    (disk.set place node).node? place = some node := by
  rw [node?_eq _ nonempty, set]
  split
  · rename_i present
    obtain ⟨entries⟩ := disk
    dsimp only at *
    induction entries with
    | nil =>
        simp at present
    | cons entry rest inductionHypothesis =>
        by_cases here : entry.1 = place
        · simp [here]
        · have later : rest.any (·.1 = place) = true := by
            simpa [here] using present
          simpa [here] using inductionHypothesis later
  · rename_i absent
    have nothing : disk.entries.find? (·.1 = place) = none := by
      rw [List.find?_eq_none]
      intro entry member here
      exact absent (List.any_eq_true.mpr ⟨entry, member, here⟩)
    rw [List.find?_append, nothing]
    simp

/-- Other places keep what is there when something is put at a place. -/
theorem node?_set_of_ne
    (disk : Disk)
    {place other : Place}
    (elsewhere : other ≠ place)
    (node : Node) :
    (disk.set place node).node? other = disk.node? other := by
  cases other with
  | nil =>
      rfl
  | cons name more =>
      rw [node?_eq _ (List.cons_ne_nil name more), node?_eq _ (List.cons_ne_nil name more), set]
      split
      · rename_i present
        clear present
        obtain ⟨entries⟩ := disk
        dsimp only
        induction entries with
        | nil =>
            rfl
        | cons entry rest inductionHypothesis =>
            by_cases here : entry.1 = place
            · simpa [here, elsewhere.symm] using inductionHypothesis
            · by_cases found : entry.1 = name :: more
              · have isFound : decide (entry.1 = name :: more) = true := decide_eq_true found
                simp only [List.map_cons, if_neg here, List.find?_cons, isFound]
              · simpa [here, found] using inductionHypothesis
      · simp [List.find?_append, elsewhere.symm]

/-- Other places keep what is there when a place is cleared. -/
theorem node?_erase_of_ne
    (disk : Disk)
    {place other : Place}
    (elsewhere : other ≠ place) :
    (disk.erase place).node? other = disk.node? other := by
  cases other with
  | nil =>
      rfl
  | cons name more =>
      rw [node?_eq _ (List.cons_ne_nil name more), node?_eq _ (List.cons_ne_nil name more), erase,
        List.find?_filter]
      congr 2
      funext entry
      by_cases here : entry.1 = name :: more
      · simp [here, elsewhere]
      · simp [here]

/-- What is found at a place is what the tree holds there. -/
theorem Distinct.node?_eq_some
    {disk : Disk}
    (distinct : disk.Distinct)
    {place : Place}
    (nonempty : place ≠ [])
    {node : Node} :
    disk.node? place = some node ↔ (place, node) ∈ disk.entries := by
  rw [node?_eq _ nonempty, Option.map_eq_some_iff]
  constructor
  · rintro ⟨entry, found, rfl⟩
    have here := List.find?_some found
    rw [decide_eq_true_iff] at here
    subst here
    exact List.mem_of_find?_eq_some found
  · intro member
    refine ⟨(place, node), ?_, rfl⟩
    unfold Distinct at distinct
    obtain ⟨entries⟩ := disk
    dsimp only at *
    induction entries with
    | nil =>
        simp at member
    | cons entry rest inductionHypothesis =>
        rw [List.map_cons, List.nodup_cons] at distinct
        rcases List.mem_cons.mp member with rfl | later
        · simp
        · have elsewhere : entry.1 ≠ place := by
            rintro rfl
            exact distinct.1 (List.mem_map.mpr ⟨_, later, rfl⟩)
          rw [List.find?_cons_of_neg (by simpa using elsewhere)]
          exact inductionHypothesis distinct.2 later

/-- Nothing is found at a place where the tree holds nothing. -/
theorem node?_eq_none
    {disk : Disk}
    {place : Place}
    (nonempty : place ≠ []) :
    disk.node? place = none ↔ ∀ node, (place, node) ∉ disk.entries := by
  rw [node?_eq _ nonempty, Option.map_eq_none_iff, List.find?_eq_none]
  constructor
  · intro absent node member
    exact absent (place, node) member (by simp)
  · intro absent entry member here
    rw [decide_eq_true_iff] at here
    subst here
    exact absent entry.2 member

/-- Nothing is found at a place that was cleared. -/
theorem node?_erase_self
    (disk : Disk)
    {place : Place}
    (nonempty : place ≠ []) :
    (disk.erase place).node? place = none := by
  rw [node?_eq_none nonempty]
  intro node member
  exact (mem_entries_erase.mp member).1 rfl

/-! ### What is in a directory -/

/-- Something is in a directory if the tree holds it one name further. -/
theorem mem_children
    {disk : Disk}
    {place : Place}
    {name : String}
    {node : Node} :
    (name, node) ∈ disk.children place ↔ (place ++ [name], node) ∈ disk.entries := by
  rw [children, List.mem_filterMap]
  constructor
  · rintro ⟨⟨other, otherNode⟩, member, inside⟩
    rcases List.eq_nil_or_concat other with rfl | ⟨outer, last, rfl⟩
    · simp at inside
    · simp only [List.concat_eq_append, List.getLast?_append, List.getLast?_singleton,
        Option.some_or, List.dropLast_concat, Option.ite_none_right_eq_some,
        Option.some.injEq, Prod.mk.injEq] at inside
      obtain ⟨rfl, rfl, rfl⟩ := inside
      rwa [List.concat_eq_append] at member
  · intro member
    exact ⟨_, member, by simp⟩

/-- Every name is in a directory once. -/
theorem Distinct.children
    {disk : Disk}
    (distinct : disk.Distinct)
    (place : Place) :
    ((disk.children place).map (·.1)).Nodup := by
  unfold Distinct at distinct
  obtain ⟨entries⟩ := disk
  induction entries with
  | nil =>
      simp [Disk.children]
  | cons entry rest inductionHypothesis =>
      rw [List.map_cons, List.nodup_cons] at distinct
      have others := inductionHypothesis distinct.2
      obtain ⟨other, node⟩ := entry
      rcases List.eq_nil_or_concat other with rfl | ⟨outer, name, rfl⟩
      · exact others
      · by_cases inside : outer = place
        · subst outer
          have shape :
              (⟨(place.concat name, node) :: rest⟩ : Disk).children place =
                (name, node) :: (⟨rest⟩ : Disk).children place := by
            simp [Disk.children]
          rw [shape, List.map_cons, List.nodup_cons]
          refine ⟨?_, others⟩
          intro again
          obtain ⟨⟨sameName, otherNode⟩, member, rfl⟩ := List.mem_map.mp again
          rw [mem_children] at member
          rw [List.concat_eq_append] at distinct
          exact distinct.1 (List.mem_map.mpr ⟨_, member, rfl⟩)
        · have shape :
              (⟨(outer.concat name, node) :: rest⟩ : Disk).children place =
                (⟨rest⟩ : Disk).children place := by
            simp [Disk.children, inside]
          rw [shape]
          exact others

end SourceFacts.Disk

namespace SourceFacts.Disk

/-!
## The tree below a place

What is below a place is a tree of its own. Changes below the place are the same
changes of that tree, and they leave the rest of the whole tree as it is.
-/

/-! ### Places below a place -/

/-- The names from a place to one that is below it. -/
def relative? (place other : Place) : Option Place :=
  if place.isPrefixOf other && place.length < other.length then some (other.drop place.length)
  else none

/-- A place is below another if it is reached from there by some names. -/
theorem relative?_eq_some
    {place other inner : Place} :
    relative? place other = some inner ↔ other = place ++ inner ∧ inner ≠ [] := by
  unfold relative?
  constructor
  · intro isBelow
    split at isBelow
    · rename_i shape
      simp only [Bool.and_eq_true, List.isPrefixOf_iff_prefix, decide_eq_true_eq] at shape
      obtain ⟨⟨rest, rfl⟩, longer⟩ := shape
      rw [List.drop_left, Option.some.injEq] at isBelow
      subst isBelow
      refine ⟨rfl, ?_⟩
      rintro rfl
      simp at longer
    · simp at isBelow
  · rintro ⟨rfl, nonempty⟩
    simp [nonempty]

/-- The place that is reached by some names is below. -/
theorem relative?_append
    (place : Place)
    {inner : Place}
    (nonempty : inner ≠ []) :
    relative? place (place ++ inner) = some inner :=
  relative?_eq_some.mpr ⟨rfl, nonempty⟩

/-- The tree below a place. -/
def sub (disk : Disk) (place : Place) : Disk := { entries := disk.below place }

/-- The tree without what is below a place. -/
def prune (disk : Disk) (place : Place) : Disk :=
  { entries := disk.entries.filter fun entry => (relative? place entry.1).isNone }

/-- What is below a place, entry by entry. -/
theorem entries_sub (disk : Disk) (place : Place) :
    (disk.sub place).entries =
      disk.entries.filterMap fun entry => (relative? place entry.1).map (·, entry.2) := by
  simp only [sub, below]
  congr 1
  funext entry
  simp only [relative?]
  split <;> rfl

/-! ### What is there -/

/-- What is at a place below is what is there in the tree below. -/
theorem node?_sub
    (disk : Disk)
    (place : Place)
    {inner : Place}
    (nonempty : inner ≠ []) :
    (disk.sub place).node? inner = disk.node? (place ++ inner) := by
  have wholeNonempty : place ++ inner ≠ [] := by
    simp [nonempty]
  rw [node?_eq _ nonempty, node?_eq _ wholeNonempty, entries_sub]
  obtain ⟨entries⟩ := disk
  induction entries with
  | nil =>
      rfl
  | cons entry rest inductionHypothesis =>
      obtain ⟨other, node⟩ := entry
      dsimp only at inductionHypothesis ⊢
      by_cases here : other = place ++ inner
      · subst other
        simp [relative?_append place nonempty]
      · cases isBelow : relative? place other with
        | none =>
            simpa [isBelow, here] using inductionHypothesis
        | some inner' =>
            have elsewhere : inner' ≠ inner := by
              rintro rfl
              exact here (relative?_eq_some.mp isBelow).1
            simpa [isBelow, here, elsewhere] using inductionHypothesis

/-- Nothing is left below. -/
theorem node?_prune_of_below
    (disk : Disk)
    {place other inner : Place}
    (isBelow : relative? place other = some inner) :
    (disk.prune place).node? other = none := by
  obtain ⟨rfl, nonempty⟩ := relative?_eq_some.mp isBelow
  have otherNonempty : place ++ inner ≠ [] := by
    simp [nonempty]
  rw [node?_eq _ otherNonempty, Option.map_eq_none_iff, List.find?_eq_none]
  intro entry member
  simp only [prune, List.mem_filter] at member
  rw [decide_eq_true_iff]
  intro here
  rw [here, isBelow] at member
  exact absurd member.2 (by simp)

/-- What is not below is as it was. -/
theorem node?_prune_of_not_below
    (disk : Disk)
    {place other : Place}
    (notBelow : relative? place other = none) :
    (disk.prune place).node? other = disk.node? other := by
  cases other with
  | nil =>
      rfl
  | cons name more =>
      rw [node?_eq _ (List.cons_ne_nil name more), node?_eq _ (List.cons_ne_nil name more), prune,
        List.find?_filter]
      congr 2
      funext entry
      by_cases here : entry.1 = name :: more
      · simp [here, notBelow]
      · simp [here]

/-! ### Changes below -/

/-- A place below is another one below exactly if the names to it are others. -/
theorem relative?_eq_iff
    {place inner : Place}
    (nonempty : inner ≠ [])
    (other : Place) :
    relative? place other = some inner ↔ other = place ++ inner := by
  rw [relative?_eq_some]
  exact and_iff_left nonempty

/-- There is an entry for a place below if there is one in the tree below. -/
theorem any_sub
    (disk : Disk)
    (place : Place)
    {inner : Place}
    (nonempty : inner ≠ []) :
    (disk.sub place).entries.any (·.1 = inner) =
      disk.entries.any (·.1 = place ++ inner) := by
  rw [entries_sub, List.any_filterMap]
  congr 1
  funext entry
  rw [Bool.eq_iff_iff, decide_eq_true_iff, ← relative?_eq_iff nonempty]
  cases relative? place entry.1 <;> simp

/-- Putting something below a place puts it into the tree below. -/
theorem sub_set
    (disk : Disk)
    (place : Place)
    {inner : Place}
    (nonempty : inner ≠ [])
    (node : Node) :
    (disk.set (place ++ inner) node).sub place = (disk.sub place).set inner node := by
  apply eq_of_entries_eq
  rw [entries_sub, set, set, any_sub disk place nonempty]
  split
  · rw [entries_sub, List.filterMap_map, List.map_filterMap]
    congr 1
    funext entry
    by_cases here : entry.1 = place ++ inner
    · simp [here, relative?_append place nonempty]
    · have elsewhere := mt (relative?_eq_iff nonempty entry.1).mp here
      cases isBelow : relative? place entry.1 with
      | none =>
          simp [here, isBelow]
      | some inner' =>
          rw [isBelow, Option.some.injEq] at elsewhere
          simp [here, isBelow, elsewhere]
  · rw [List.filterMap_append, entries_sub]
    simp [relative?_append place nonempty]

/-- Putting something below a place leaves the rest as it is. -/
theorem prune_set
    (disk : Disk)
    (place : Place)
    {inner : Place}
    (nonempty : inner ≠ [])
    (node : Node) :
    (disk.set (place ++ inner) node).prune place = disk.prune place := by
  have isBelow := relative?_append place nonempty
  apply eq_of_entries_eq
  simp only [set, prune]
  split
  · rw [List.filter_map]
    have unchanged : ∀ entry ∈ disk.entries.filter fun entry => (relative? place entry.1).isNone,
        (if entry.1 = place ++ inner then (place ++ inner, node) else entry) = entry := by
      intro entry member
      rw [List.mem_filter] at member
      by_cases here : entry.1 = place ++ inner
      · rw [here, isBelow] at member
        exact absurd member.2 (by simp)
      · rw [if_neg here]
    have sameFilter :
        ((fun entry : Place × Node => (relative? place entry.1).isNone) ∘
            fun entry => if entry.1 = place ++ inner then (place ++ inner, node) else entry) =
          fun entry => (relative? place entry.1).isNone := by
      funext entry
      by_cases here : entry.1 = place ++ inner <;> simp [here]
    rw [sameFilter]
    exact (List.map_congr_left unchanged).trans (List.map_id _)
  · simp [isBelow]

/-- Removing something below a place removes it from the tree below. -/
theorem sub_erase
    (disk : Disk)
    (place : Place)
    {inner : Place}
    (nonempty : inner ≠ []) :
    (disk.erase (place ++ inner)).sub place = (disk.sub place).erase inner := by
  apply eq_of_entries_eq
  simp only [entries_sub, erase, List.filterMap_filter, List.filter_filterMap]
  congr 1
  funext entry
  by_cases here : entry.1 = place ++ inner
  · simp [here, relative?_append place nonempty, Option.filter_some]
  · have elsewhere := mt (relative?_eq_iff nonempty entry.1).mp here
    cases isBelow : relative? place entry.1 with
    | none =>
        simp [here]
    | some inner' =>
        rw [isBelow, Option.some.injEq] at elsewhere
        simp [here, elsewhere, Option.filter_some]

/-- Removing something below a place leaves the rest as it is. -/
theorem prune_erase
    (disk : Disk)
    (place : Place)
    {inner : Place}
    (nonempty : inner ≠ []) :
    (disk.erase (place ++ inner)).prune place = disk.prune place := by
  apply eq_of_entries_eq
  simp only [prune, erase, List.filter_filter]
  congr 1
  funext entry
  by_cases here : entry.1 = place ++ inner
  · simp [here, relative?_append place nonempty]
  · simp [here]

/-- What is below a place below is below the place. -/
theorem relative?_append_left
    {place other : Place}
    (inner : Place)
    (notBelow : relative? place other = none) :
    relative? (place ++ inner) other = none := by
  cases isBelow : relative? (place ++ inner) other with
  | none =>
      rfl
  | some rest =>
      obtain ⟨rfl, nonempty⟩ := relative?_eq_some.mp isBelow
      rw [List.append_assoc, relative?_append place (by simp [nonempty])] at notBelow
      exact absurd notBelow (by simp)

/-- A tree is pruned at once where it is pruned twice. -/
theorem prune_prune_append
    (disk : Disk)
    (place inner : Place) :
    (disk.prune (place ++ inner)).prune place = disk.prune place := by
  apply eq_of_entries_eq
  simp only [prune, List.filter_filter]
  congr 1
  funext entry
  cases notBelow : relative? place entry.1 with
  | none =>
      simp [relative?_append_left inner notBelow]
  | some rest =>
      rfl

/-- What is the same outside of a directory is the same outside of a larger one. -/
theorem prune_eq_of_append
    {before after : Disk}
    {inner : Place}
    (same : after.prune (place ++ inner) = before.prune (place ++ inner)) :
    after.prune place = before.prune place := by
  rw [← prune_prune_append after place inner, same, prune_prune_append]

/-- What is directly in a place below is what is directly in it in the tree below. -/
theorem children_sub
    (disk : Disk)
    (place inner : Place) :
    (disk.sub place).children inner = disk.children (place ++ inner) := by
  rw [children, children, entries_sub, List.filterMap_filterMap]
  congr 1
  funext entry
  obtain ⟨other, node⟩ := entry
  dsimp only
  cases isBelow : relative? place other with
  | none =>
      rcases List.eq_nil_or_concat other with rfl | ⟨outer, name, rfl⟩
      · rfl
      · have notInside : outer ≠ place ++ inner := by
          rintro rfl
          rw [List.concat_eq_append, List.append_assoc, relative?_append place (by simp)] at isBelow
          exact absurd isBelow (by simp)
        simp [notInside]
  | some inner' =>
      obtain ⟨rfl, nonempty⟩ := relative?_eq_some.mp isBelow
      rcases List.eq_nil_or_concat inner' with rfl | ⟨outer, name, rfl⟩
      · exact absurd rfl nonempty
      · rw [List.concat_eq_append, ← List.append_assoc]
        simp

end SourceFacts.Disk
