import SourceFacts.Proofs.Disk.Paths
import SourceFacts.Proofs.Disk.Tree

namespace SourceFacts.Disk

/-!
# Following paths

Where paths lead that come to a directory, and to what they lead in trees that are almost alike.
-/

/-!
## Following paths into a directory

A path that leads to a directory leads there whatever is below the directory, and
the path of something in the directory is followed from there.
-/

/-! ### Single steps -/

variable {disk : Disk} {followsLast : Bool} {links : Nat} {base place : Place} {name : String}
  {names rest : List String}

/-- A dot leads nowhere else. -/
theorem follow_here :
    disk.follow followsLast links base ("." :: rest) =
      disk.follow followsLast links base rest := by
  rw [follow]

/-- Two dots lead to the directory above. -/
theorem follow_above :
    disk.follow followsLast links base (".." :: rest) =
      disk.follow followsLast links base.dropLast rest := by
  rw [follow]

/-- A name of a directory leads into it. -/
theorem follow_directory
    (notHere : name ≠ ".")
    (notAbove : name ≠ "..")
    (short : name.utf8ByteSize ≤ maxNameLength)
    (isDirectory : disk.node? (base ++ [name]) = some .directory) :
    disk.follow followsLast links base (name :: rest) =
      disk.follow followsLast links (base ++ [name]) rest := by
  rw [follow, if_neg (by omega)]
  · simp only [isDirectory]
  · exact notHere
  · exact notAbove

/-- A link leads where its target does, if more names follow or the last one is
followed too. -/
theorem follow_link
    {target : String}
    (notHere : name ≠ ".")
    (notAbove : name ≠ "..")
    (short : name.utf8ByteSize ≤ maxNameLength)
    (isLink : disk.node? (base ++ [name]) = some (.link target))
    (relative : Path.isAbsolute target = false)
    (follows : rest ≠ [] ∨ followsLast = true) :
    disk.follow followsLast (links + 1) base (name :: rest) =
      disk.follow followsLast links base (steps target ++ rest) := by
  have goesOn : (rest.isEmpty && !followsLast) = false := by
    rcases follows with more | wanted
    · simp [more]
    · simp [wanted]
  rw [follow, if_neg (by omega)]
  · simp only [isLink, goesOn, relative]
    rfl
  · exact notHere
  · exact notAbove

/-- A name of nothing leads to the place where it would be. -/
theorem follow_vacant
    (isName : IsName name)
    (isVacant : disk.node? (base ++ [name]) = none) :
    disk.follow followsLast links base [name] = .ok (.vacant (base ++ [name])) := by
  rw [follow, if_neg (Nat.not_lt.mpr isName.short)]
  · simp only [isVacant]
    rfl
  · exact isName.notHere
  · exact isName.notAbove

/-- Nothing can be followed from a name of nothing. -/
theorem follow_missing
    (isName : IsName name)
    (isVacant : disk.node? (base ++ [name]) = none)
    (more : rest ≠ []) :
    disk.follow followsLast links base (name :: rest) = .error .noSuchFile := by
  rw [follow, if_neg (Nat.not_lt.mpr isName.short)]
  · simp only [isVacant]
    simp [more]
  · exact isName.notHere
  · exact isName.notAbove

/-- A name of a file leads to the file. -/
theorem follow_file
    {content : Text.Bytes}
    {modified : Time.Instant}
    (isName : IsName name)
    (isFile : disk.node? (base ++ [name]) = some (.file content modified)) :
    disk.follow followsLast links base [name] =
      .ok (.found (base ++ [name]) (.file content modified)) := by
  rw [follow, if_neg (Nat.not_lt.mpr isName.short)]
  · simp only [isFile]
    rfl
  · exact isName.notHere
  · exact isName.notAbove

/-! ### Whole paths -/

/-- What a pruned tree still holds is in the whole tree. -/
theorem node?_of_prune
    {other : Place}
    {node : Node}
    (found : (disk.prune place).node? other = some node) :
    disk.node? other = some node := by
  cases isBelow : relative? place other with
  | none =>
      rwa [node?_prune_of_not_below disk isBelow] at found
  | some inner =>
      rw [node?_prune_of_below disk isBelow] at found
      exact absurd found (by simp)

/-- Names that lead to a directory lead there whatever is below it, and what comes
after them is followed from there. -/
theorem follow_append_of_prune
    (found : (disk.prune place).follow true links base names = .ok (.found place .directory)) :
    disk.follow true links base names = .ok (.found place .directory) ∧
      ∃ remaining, ∀ followsLast rest, rest ≠ [] →
        disk.follow followsLast links base (names ++ rest) =
          disk.follow followsLast remaining place rest := by
  fun_induction follow (disk.prune place) true links base names with
  | case1 links base =>
      obtain rfl : base = place := by
        simpa using found
      exact ⟨by rw [follow], links, fun _ _ _ => rfl⟩
  | case2 links base names inductionHypothesis =>
      simpa only [List.cons_append, follow_here] using inductionHypothesis found
  | case3 links base names inductionHypothesis =>
      simpa only [List.cons_append, follow_above] using inductionHypothesis found
  | case7 links base name names notHere notAbove short inner isDirectory inductionHypothesis =>
      have isDirectory := node?_of_prune isDirectory
      simpa only [List.cons_append,
        follow_directory notHere notAbove (Nat.not_lt.mp short) isDirectory]
        using inductionHypothesis found
  | case13 base name names notHere notAbove short inner target isLink goesOn links relative
      inductionHypothesis =>
      have isLink := node?_of_prune isLink
      obtain ⟨same, remaining, continues⟩ := inductionHypothesis found
      rw [Bool.not_eq_true] at relative
      refine ⟨?_, remaining, ?_⟩
      · rwa [follow_link notHere notAbove (Nat.not_lt.mp short) isLink relative (Or.inr rfl)]
      · intro followsLast rest more
        rw [List.cons_append, follow_link notHere notAbove (Nat.not_lt.mp short) isLink relative
          (Or.inl (by simp [more])), ← List.append_assoc]
        exact continues followsLast rest more
  | _ => simp at found

/-- A name on the way to a directory is that of a directory or a link. -/
theorem follow_found_cases
    (notHere : name ≠ ".")
    (notAbove : name ≠ "..")
    (found : disk.follow true links base (name :: rest) = .ok (.found place .directory)) :
    name.utf8ByteSize ≤ maxNameLength ∧
      ((disk.node? (base ++ [name]) = some .directory ∧
          disk.follow true links (base ++ [name]) rest = .ok (.found place .directory)) ∨
        ∃ target remaining, links = remaining + 1 ∧
          disk.node? (base ++ [name]) = some (.link target) ∧
          Path.isAbsolute target = false ∧
          disk.follow true remaining base (steps target ++ rest) =
            .ok (.found place .directory)) := by
  rw [follow] at found
  · split at found
    · simp at found
    · rename_i short
      refine ⟨Nat.not_lt.mp short, ?_⟩
      dsimp only at found
      split at found
      · split at found <;> simp at found
      · rename_i isDirectory
        exact Or.inl ⟨isDirectory, found⟩
      · split at found <;> simp at found
      · rename_i target isLink
        rw [Bool.not_true, Bool.and_false, if_neg Bool.false_ne_true] at found
        split at found
        · simp at found
        · rename_i remaining
          split at found
          · simp at found
          · rename_i relative
            exact Or.inr ⟨target, remaining, rfl, isLink, Bool.not_eq_true _ ▸ relative, found⟩
  · exact notHere
  · exact notAbove

/-- Names that lead to a directory before a dot lead to it without the dot. -/
theorem follow_of_append_here
    (found : disk.follow true links base (names ++ ["."]) = .ok (.found place .directory)) :
    disk.follow true links base names = .ok (.found place .directory) := by
  fun_induction follow disk true links base names with
  | case1 =>
      rwa [List.nil_append, follow_here, follow] at found
  | case2 links base names inductionHypothesis =>
      rw [List.cons_append, follow_here] at found
      exact inductionHypothesis found
  | case3 links base names inductionHypothesis =>
      rw [List.cons_append, follow_above] at found
      exact inductionHypothesis found
  | case7 links base name names notHere notAbove short inner isDirectory inductionHypothesis =>
      rw [List.cons_append, follow_directory notHere notAbove (Nat.not_lt.mp short) isDirectory]
        at found
      exact inductionHypothesis found
  | case13 base name names notHere notAbove short inner target isLink goesOn links relative
      inductionHypothesis =>
      rw [Bool.not_eq_true] at relative
      rw [List.cons_append, follow_link notHere notAbove (Nat.not_lt.mp short) isLink relative
        (Or.inr rfl), ← List.append_assoc] at found
      exact inductionHypothesis found
  | case4 links base name names notHere notAbove long =>
      obtain ⟨short, _⟩ := follow_found_cases notHere notAbove found
      omega
  | _ =>
      obtain ⟨short, step⟩ := follow_found_cases ‹_› ‹_› found
      simp_all +zetaDelta

end SourceFacts.Disk

namespace SourceFacts.Disk

/-!
## Trees that lack one thing

Two trees are alike except that one of them has nothing at a place where the other may have
something. Names lead to the same in both unless they come to that place, and the tree that
lacks it then knows of nothing there.
-/

open Text Time

/-! ### Clearing and filling a place -/

/-- The smaller tree has nothing at a place and is like the larger one everywhere else. -/
structure Lacks (place : Place) (smaller larger : Disk) : Prop where
  absent : smaller.node? place = none
  elsewhere : ∀ other, other ≠ place → smaller.node? other = larger.node? other

theorem Lacks.nonempty
    {place : Place}
    {smaller larger : Disk}
    (lacks : Lacks place smaller larger) :
    place ≠ [] := by
  rintro rfl
  simpa [node?] using lacks.absent

/-- A tree lacks what is put into it. -/
theorem lacks_set
    {disk : Disk}
    {place : Place}
    (absent : disk.node? place = none)
    (node : Node) :
    Lacks place disk (disk.set place node) where
  absent := absent
  elsewhere := fun _ elsewhere => (node?_set_of_ne disk elsewhere node).symm

/-- A tree lacks what is removed from it. -/
theorem lacks_erase
    (disk : Disk)
    {place : Place}
    (nonempty : place ≠ []) :
    Lacks place (disk.erase place) disk where
  absent := node?_erase_self disk nonempty
  elsewhere := fun _ elsewhere => node?_erase_of_ne disk elsewhere

theorem erase_of_absent
    {disk : Disk}
    {place : Place}
    (absent : disk.node? place = none) :
    disk.erase place = disk := by
  have nonempty : place ≠ [] := by
    rintro rfl
    simp [node?] at absent
  rw [node?_eq_none nonempty] at absent
  apply eq_of_entries_eq
  rw [erase, List.filter_eq_self]
  rintro ⟨other, node⟩ member
  rw [decide_eq_true_iff]
  rintro rfl
  exact absent node member

/-- What is put at a place takes the place of what was put there before. -/
theorem set_set
    (disk : Disk)
    (place : Place)
    (first second : Node) :
    (disk.set place first).set place second = disk.set place second := by
  apply eq_of_entries_eq
  by_cases present : disk.entries.any (·.1 = place) = true
  · have stays : (disk.set place first).entries.any (·.1 = place) = true := by
      obtain ⟨entry, member, isPlace⟩ := List.any_eq_true.mp present
      rw [decide_eq_true_iff] at isPlace
      exact List.any_eq_true.mpr
        ⟨(place, first), mem_entries_set.mpr (.inl ⟨rfl, rfl⟩), by simp⟩
    have twice : ∀ entry : Place × Node,
        (if (if entry.1 = place then (place, first) else entry).1 = place then (place, second)
          else if entry.1 = place then (place, first) else entry) =
          if entry.1 = place then (place, second) else entry := by
      intro entry
      by_cases isPlace : entry.1 = place <;> simp [isPlace]
    rw [set, if_pos stays, set, if_pos present, set, if_pos present]
    simp only [List.map_map]
    exact List.map_congr_left fun entry _ => twice entry
  · have others : disk.entries.map
        (fun entry => if entry.1 = place then (place, second) else entry) = disk.entries := by
      rw [List.map_congr_left (g := id), List.map_id]
      intro entry member
      rw [if_neg, id]
      intro isPlace
      exact present (List.any_eq_true.mpr ⟨entry, member, by simp [isPlace]⟩)
    simp [set, present, others]

/-! ### Following names -/

/-- The place that names lead to. -/
def Destination.place : Destination → Place
  | .found place _ => place
  | .vacant place => place

/-- A text that names lead through and that is not a dot or two. -/
structure IsStep (name : String) : Prop where
  notHere : name ≠ "."
  notAbove : name ≠ ".."
  short : name.utf8ByteSize ≤ maxNameLength

section Steps

variable {disk : Disk} {followsLast : Bool} {links : Nat} {outer : Place} {name : String}
  {rest : List String}

theorem follow_step_absent
    (isStep : IsStep name)
    (absent : disk.node? (outer ++ [name]) = none) :
    disk.follow followsLast links outer (name :: rest) =
      if rest.isEmpty then .ok (.vacant (outer ++ [name])) else .error .noSuchFile := by
  rw [follow, if_neg (Nat.not_lt.mpr isStep.short)]
  · simp only [absent]
  · exact isStep.notHere
  · exact isStep.notAbove

theorem follow_step_file
    {content : Bytes}
    {modified : Instant}
    (isStep : IsStep name)
    (isFile : disk.node? (outer ++ [name]) = some (.file content modified)) :
    disk.follow followsLast links outer (name :: rest) =
      if rest.isEmpty then .ok (.found (outer ++ [name]) (.file content modified))
      else .error .notDirectory := by
  rw [follow, if_neg (Nat.not_lt.mpr isStep.short)]
  · simp only [isFile]
  · exact isStep.notHere
  · exact isStep.notAbove

theorem follow_step_link
    {target : String}
    (isStep : IsStep name)
    (isLink : disk.node? (outer ++ [name]) = some (.link target)) :
    disk.follow followsLast links outer (name :: rest) =
      if rest.isEmpty && !followsLast then .ok (.found (outer ++ [name]) (.link target))
      else
        match links with
        | 0 => .error .tooManyLinks
        | links + 1 =>
            if Path.isAbsolute target then .error .noSuchFile
            else disk.follow followsLast links outer (steps target ++ rest) := by
  rw [follow, if_neg (Nat.not_lt.mpr isStep.short)]
  · cases links <;> simp only [isLink]
  · exact isStep.notHere
  · exact isStep.notAbove

end Steps

variable {place : Place} {smaller larger : Disk}

/-- Names lead to the same in both trees unless they come to the place that differs. -/
theorem Lacks.follow_cases
    (lacks : Lacks place smaller larger)
    (followsLast : Bool)
    (links : Nat)
    (base : Place)
    (names : List String) :
    larger.follow followsLast links base names = smaller.follow followsLast links base names ∨
      ∃ remaining outer name rest, place = outer ++ [name] ∧ IsStep name ∧
        smaller.follow followsLast links base names =
          smaller.follow followsLast remaining outer (name :: rest) ∧
        larger.follow followsLast links base names =
          larger.follow followsLast remaining outer (name :: rest) := by
  have same : ∀ {other node}, smaller.node? other = some node →
      larger.node? other = some node := by
    intro other node isNode
    rw [← lacks.elsewhere other, isNode]
    rintro rfl
    exact absurd (isNode.symm.trans lacks.absent) (by simp)
  fun_induction follow smaller followsLast links base names with
  | case1 links base =>
      exact .inl (by rw [follow])
  | case2 links base rest inductionHypothesis =>
      rw [follow_here]
      exact inductionHypothesis
  | case3 links base rest inductionHypothesis =>
      rw [follow_above]
      exact inductionHypothesis
  | case4 links base name rest notHere notAbove long =>
      exact .inl (by simp [follow, long])
  | case5 links base name rest notHere notAbove short other isVacant isLast =>
      have isStep : IsStep name := ⟨notHere, notAbove, Nat.not_lt.mp short⟩
      by_cases comes : other = place
      · refine .inr ⟨links, base, name, rest, comes.symm, isStep, ?_, rfl⟩
        rw [follow_step_absent isStep isVacant, if_pos isLast]
      · rw [lacks.elsewhere other comes] at isVacant
        exact .inl (by rw [follow_step_absent isStep isVacant, if_pos isLast])
  | case6 links base name rest notHere notAbove short other isVacant goesOn =>
      have isStep : IsStep name := ⟨notHere, notAbove, Nat.not_lt.mp short⟩
      by_cases comes : other = place
      · refine .inr ⟨links, base, name, rest, comes.symm, isStep, ?_, rfl⟩
        rw [follow_step_absent isStep isVacant, if_neg goesOn]
      · rw [lacks.elsewhere other comes] at isVacant
        exact .inl (by rw [follow_step_absent isStep isVacant, if_neg goesOn])
  | case7 links base name rest notHere notAbove short other isDirectory inductionHypothesis =>
      rw [follow_directory notHere notAbove (Nat.not_lt.mp short) (same isDirectory)]
      exact inductionHypothesis
  | case8 links base name rest notHere notAbove short other content modified isFile isLast =>
      have isStep : IsStep name := ⟨notHere, notAbove, Nat.not_lt.mp short⟩
      exact .inl (by rw [follow_step_file isStep (same isFile), if_pos isLast])
  | case9 links base name rest notHere notAbove short other content modified isFile goesOn =>
      have isStep : IsStep name := ⟨notHere, notAbove, Nat.not_lt.mp short⟩
      exact .inl (by rw [follow_step_file isStep (same isFile), if_neg goesOn])
  | case10 links base name rest notHere notAbove short other target isLink stops =>
      exact .inl (by simp [follow, short, same isLink, stops, other])
  | case11 base name rest notHere notAbove short other target isLink goesOn =>
      exact .inl (by simp [follow, short, same isLink, goesOn, other])
  | case12 base name rest notHere notAbove short other target isLink goesOn links absolute =>
      exact .inl (by simp [follow, short, same isLink, goesOn, absolute, other])
  | case13 base name rest notHere notAbove short other target isLink goesOn links relative
      inductionHypothesis =>
      have continues : larger.follow followsLast (links + 1) base (name :: rest) =
          larger.follow followsLast links base (steps target ++ rest) := by
        simp [follow, short, same isLink, goesOn, relative, other]
      rw [continues]
      exact inductionHypothesis

/-- A tree that lacks something knows of nothing where the other tree differs. -/
theorem Lacks.follow_eq_or
    (lacks : Lacks place smaller larger)
    (followsLast : Bool)
    (links : Nat)
    (base : Place)
    (names : List String) :
    larger.follow followsLast links base names = smaller.follow followsLast links base names ∨
      smaller.follow followsLast links base names = .ok (.vacant place) ∨
      smaller.follow followsLast links base names = .error .noSuchFile := by
  rcases lacks.follow_cases followsLast links base names with
    same | ⟨remaining, outer, name, rest, rfl, isStep, comes, _⟩
  · exact .inl same
  · rw [comes, follow_step_absent isStep lacks.absent]
    cases rest with
    | nil =>
        exact .inr (.inl rfl)
    | cons next more =>
        exact .inr (.inr rfl)

/-- If the larger tree has a file at the place, names that come to it lead to the file, or fail
behind it. -/
theorem Lacks.follow_file
    {content : Bytes}
    {modified : Instant}
    (lacks : Lacks place smaller larger)
    (isFile : larger.node? place = some (.file content modified))
    (followsLast : Bool)
    (links : Nat)
    (base : Place)
    (names : List String) :
    larger.follow followsLast links base names = smaller.follow followsLast links base names ∨
      (smaller.follow followsLast links base names = .ok (.vacant place) ∧
        larger.follow followsLast links base names =
          .ok (.found place (.file content modified))) ∨
      (smaller.follow followsLast links base names = .error .noSuchFile ∧
        larger.follow followsLast links base names = .error .notDirectory) := by
  rcases lacks.follow_cases followsLast links base names with
    same | ⟨remaining, outer, name, rest, rfl, isStep, comes, comesToo⟩
  · exact .inl same
  · rw [comes, comesToo, follow_step_absent isStep lacks.absent, follow_step_file isStep isFile]
    cases rest with
    | nil =>
        exact .inr (.inl ⟨rfl, rfl⟩)
    | cons next more =>
        exact .inr (.inr ⟨rfl, rfl⟩)

end SourceFacts.Disk
