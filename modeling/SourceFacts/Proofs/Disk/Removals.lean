import SourceFacts.Proofs.Disk.Directories
import SourceFacts.Proofs.Disk.Endings

namespace SourceFacts.Disk

/-!
# Removing what leads to a file

A file is removed, or a link that leads to one. No path leads through either of them, so paths
of directories lead where they did. What is read by another path is what was read before, or
that path led to the same file or failed.
-/

open Text Time

/-! ## Names before and after a directory -/

/-- Names that lead to a directory lead there in a tree that holds more too, and what comes after
them is followed from there in both. -/
theorem follow_append_of_directory
    {smaller larger : Disk}
    (held : ∀ {place node}, smaller.node? place = some node → larger.node? place = some node)
    {links : Nat}
    {base place : Place}
    {names : List String}
    (leads : smaller.follow true links base names = .ok (.found place .directory)) :
    larger.follow true links base names = .ok (.found place .directory) ∧
      ∃ remaining, ∀ followsLast rest, rest ≠ [] →
        smaller.follow followsLast links base (names ++ rest) =
            smaller.follow followsLast remaining place rest ∧
          larger.follow followsLast links base (names ++ rest) =
            larger.follow followsLast remaining place rest := by
  fun_induction follow smaller true links base names with
  | case1 links base =>
      obtain rfl : base = place := by simpa using leads
      exact ⟨by rw [follow], links, fun _ _ _ => ⟨rfl, rfl⟩⟩
  | case2 links base names inductionHypothesis =>
      simpa only [List.cons_append, follow_here] using inductionHypothesis leads
  | case3 links base names inductionHypothesis =>
      simpa only [List.cons_append, follow_above] using inductionHypothesis leads
  | case7 links base name names notHere notAbove short inner isDirectory inductionHypothesis =>
      have short := Nat.not_lt.mp short
      simpa only [List.cons_append, follow_directory notHere notAbove short isDirectory,
        follow_directory notHere notAbove short (held isDirectory)]
        using inductionHypothesis leads
  | case13 base name names notHere notAbove short inner target isLink goesOn links relative
      inductionHypothesis =>
      have short := Nat.not_lt.mp short
      rw [Bool.not_eq_true] at relative
      obtain ⟨same, remaining, continues⟩ := inductionHypothesis leads
      refine ⟨?_, remaining, fun followsLast rest more => ?_⟩
      · rwa [follow_link notHere notAbove short (held isLink) relative (.inr rfl)]
      · have goesOn : names ++ rest ≠ [] := by simp [more]
        rw [List.cons_append, follow_link notHere notAbove short isLink relative (.inl goesOn),
          follow_link notHere notAbove short (held isLink) relative (.inl goesOn),
          ← List.append_assoc]
        exact continues followsLast rest more
  | _ => simp at leads

/-- What comes before other names leads to a directory, if all of them lead somewhere. -/
theorem exists_directory_of_follow_append
    {disk : Disk}
    {followsLast : Bool}
    {links : Nat}
    {base : Place}
    {names rest : List String}
    {destination : Destination}
    (more : rest ≠ [])
    (leads : disk.follow followsLast links base (names ++ rest) = .ok destination) :
    ∃ place, disk.follow true links base names = .ok (.found place .directory) := by
  fun_induction follow disk true links base names with
  | case1 links base =>
      exact ⟨base, rfl⟩
  | case2 links base names inductionHypothesis =>
      rw [List.cons_append, follow_here] at leads
      exact inductionHypothesis leads
  | case3 links base names inductionHypothesis =>
      rw [List.cons_append, follow_above] at leads
      exact inductionHypothesis leads
  | case7 links base name names notHere notAbove short inner isDirectory inductionHypothesis =>
      rw [List.cons_append, follow_directory notHere notAbove (Nat.not_lt.mp short) isDirectory]
        at leads
      exact inductionHypothesis leads
  | case13 base name names notHere notAbove short inner target isLink goesOn links relative
      inductionHypothesis =>
      rw [Bool.not_eq_true] at relative
      rw [List.cons_append, follow_link notHere notAbove (Nat.not_lt.mp short) isLink relative
        (.inl (by simp [more])), ← List.append_assoc] at leads
      exact inductionHypothesis leads
  | case5 links base name names notHere notAbove short inner isVacant isLast
  | case6 links base name names notHere notAbove short inner isVacant goesOn =>
      rw [List.cons_append,
        follow_step_absent ⟨notHere, notAbove, Nat.not_lt.mp short⟩ isVacant] at leads
      simp [more] at leads
  | case8 links base name names notHere notAbove short inner content modified isFile isLast
  | case9 links base name names notHere notAbove short inner content modified isFile goesOn =>
      rw [List.cons_append,
        follow_step_file ⟨notHere, notAbove, Nat.not_lt.mp short⟩ isFile] at leads
      simp [more] at leads
  | case11 base name names notHere notAbove short inner target isLink goesOn
  | case12 base name names notHere notAbove short inner target isLink goesOn links absolute =>
      rw [List.cons_append,
        follow_step_link ⟨notHere, notAbove, Nat.not_lt.mp short⟩ isLink] at leads
      simp_all
  | _ =>
      simp_all +zetaDelta [follow]

/-- What is followed behind the names of a path to a directory is followed from there. -/
theorem exists_follow_child
    {disk : Disk}
    {path : String}
    {place : Place}
    (isDirectory : disk.find true path = .ok (place, .directory)) :
    ∃ remaining, ∀ followsLast rest, rest ≠ [] →
      disk.follow followsLast maxLinks [] (Path.names path ++ rest) =
        disk.follow followsLast remaining place rest := by
  have leads := follow_of_find isDirectory
  have leadsThere : disk.follow true maxLinks [] (Path.names path) =
      .ok (.found place .directory) := by
    rw [steps] at leads
    split at leads
    · exact follow_of_append_here leads
    · rwa [List.append_nil] at leads
  obtain ⟨_, remaining, continues⟩ := follow_append_of_directory id leadsThere
  exact ⟨remaining, fun followsLast rest more => (continues followsLast rest more).1⟩

/-- What a path of something in a directory finds is in the directory. -/
theorem exists_directory_of_find_child
    {disk : Disk}
    {followsLast : Bool}
    {path name : String}
    {found : Place × Node}
    (isPath : path ≠ "")
    (isName : IsName name)
    (isFound : disk.find followsLast (Path.child path name) = .ok found) :
    ∃ place, disk.find true path = .ok (place, .directory) := by
  have childFollowed := isFollowed_of_find isFound
  have followed : IsFollowed path := by
    refine ⟨?_, isPath, ?_, ?_⟩
    · have noNul := childFollowed.noNul
      rw [← Bool.not_eq_true, List.contains_iff_mem, Path.toList_child isPath isName] at noNul
      rw [← Bool.not_eq_true, List.contains_iff_mem]
      intro nul
      exact noNul (List.mem_append_left _ (List.mem_append_left _ nul))
    · have short := childFollowed.short
      rw [Path.utf8ByteSize_child isPath isName] at short
      omega
    · rw [← Path.isAbsolute_child isPath isName]
      exact childFollowed.relative
  have leads := follow_of_find isFound
  rw [Path.steps_child isPath isName] at leads
  obtain ⟨place, isDirectory⟩ := exists_directory_of_follow_append (by simp) leads
  obtain ⟨_, remaining, continues⟩ := follow_append_of_directory id isDirectory
  refine ⟨place, find_of_follow followed ?_⟩
  rw [steps]
  split
  · rw [(continues true ["."] (by simp)).1, follow_here, follow]
  · rw [List.append_nil, isDirectory]

/-- Something is in a directory if its path leads to a file. -/
theorem exists_mem_children
    {disk : Disk}
    {path name : String}
    {place target : Place}
    {node : Node}
    (isName : IsName name)
    (isDirectory : disk.find true path = .ok (place, .directory))
    (isFound : disk.find true (Path.child path name) = .ok (target, node)) :
    ∃ node, (name, node) ∈ disk.children place := by
  have isPath := (isFollowed_of_find isDirectory).nonempty
  obtain ⟨remaining, continues⟩ := exists_follow_child isDirectory
  have leads := follow_of_find isFound
  rw [Path.steps_child isPath isName, continues true [name] (by simp)] at leads
  apply Classical.byContradiction
  intro absent
  have nothing : disk.node? (place ++ [name]) = none := by
    rw [node?_eq_none (by simp)]
    exact fun other member => absent ⟨other, mem_children.mpr member⟩
  rw [follow_vacant isName nothing] at leads
  simp at leads

/-- Nothing follows behind names that lead to a file. -/
theorem follow_append_of_file
    {disk : Disk}
    {links : Nat}
    {base place : Place}
    {names rest : List String}
    {content : Bytes}
    {modified : Instant}
    (leads : disk.follow true links base names = .ok (.found place (.file content modified)))
    (more : rest ≠ [])
    (followsLast : Bool)
    (others : Nat) :
    ∃ error, disk.follow followsLast others base (names ++ rest) = .error error := by
  fun_induction follow disk true links base names generalizing others with
  | case2 links base names inductionHypothesis =>
      rw [List.cons_append, follow_here]
      exact inductionHypothesis leads others
  | case3 links base names inductionHypothesis =>
      rw [List.cons_append, follow_above]
      exact inductionHypothesis leads others
  | case7 links base name names notHere notAbove short inner isDirectory inductionHypothesis =>
      rw [List.cons_append, follow_directory notHere notAbove (Nat.not_lt.mp short) isDirectory]
      exact inductionHypothesis leads others
  | case8 links base name names notHere notAbove short inner content modified isFile isLast =>
      refine ⟨.notDirectory, ?_⟩
      rw [List.cons_append, follow_step_file ⟨notHere, notAbove, Nat.not_lt.mp short⟩ isFile]
      simp [more]
  | case13 base name names notHere notAbove short inner target isLink goesOn links relative
      inductionHypothesis =>
      cases others with
      | zero =>
          exact ⟨.tooManyLinks, by simp [follow, short, isLink, more, inner]⟩
      | succ others =>
          rw [Bool.not_eq_true] at relative
          rw [List.cons_append, follow_link notHere notAbove (Nat.not_lt.mp short) isLink relative
            (.inl (by simp [more])), ← List.append_assoc]
          exact inductionHypothesis leads others
  | _ => simp_all

/-- Names that lead to a file lead there unless too many links have been followed before. -/
theorem follow_of_file
    {disk : Disk}
    {links : Nat}
    {base place : Place}
    {names : List String}
    {content : Bytes}
    {modified : Instant}
    (leads : disk.follow true links base names = .ok (.found place (.file content modified)))
    (others : Nat) :
    disk.follow true others base names = .ok (.found place (.file content modified)) ∨
      disk.follow true others base names = .error .tooManyLinks := by
  fun_induction follow disk true links base names generalizing others with
  | case2 links base names inductionHypothesis =>
      rw [follow_here]
      exact inductionHypothesis leads others
  | case3 links base names inductionHypothesis =>
      rw [follow_above]
      exact inductionHypothesis leads others
  | case7 links base name names notHere notAbove short inner isDirectory inductionHypothesis =>
      rw [follow_directory notHere notAbove (Nat.not_lt.mp short) isDirectory]
      exact inductionHypothesis leads others
  | case8 links base name names notHere notAbove short inner content modified isFile isLast =>
      rw [follow_step_file ⟨notHere, notAbove, Nat.not_lt.mp short⟩ isFile, if_pos isLast]
      exact .inl leads
  | case13 base name names notHere notAbove short inner target isLink goesOn links relative
      inductionHypothesis =>
      cases others with
      | zero =>
          exact .inr (by simp [follow, short, isLink, inner])
      | succ others =>
          rw [Bool.not_eq_true] at relative
          rw [follow_link notHere notAbove (Nat.not_lt.mp short) isLink relative (.inr rfl)]
          exact inductionHypothesis leads others
  | _ => simp_all

/-! ## Removing -/

/-- A path leads to a file, and what the path itself names can be removed. -/
structure IsRemovable (disk : Disk) (path : String) (place : Place) (content : Bytes) : Prop where
  named : ∃ node, disk.find false path = .ok (place, node)
  reads : disk.read path = .ok content

namespace IsRemovable

variable {disk : Disk} {path other : String} {place : Place} {content : Bytes}

theorem exists_find
    (removable : IsRemovable disk path place content) :
    ∃ target modified, disk.find true path = .ok (target, .file content modified) := by
  have reads := removable.reads
  rw [read] at reads
  split at reads
  · simp at reads
  · rename_i target found modified isFound
    obtain rfl := Except.ok.inj reads
    exact ⟨target, modified, isFound⟩
  · simp at reads
  · simp at reads

/-- A single name that leads to a file is that of a file or of a link. -/
theorem exists_node_of_follow
    {links : Nat}
    {outer target : Place}
    {name : String}
    {modified : Instant}
    (leads : disk.follow true links outer [name] = .ok (.found target (.file content modified))) :
    ∃ node, disk.node? (outer ++ [name]) = some node ∧ ∀ others,
      disk.follow false others outer [name] = .ok (.found (outer ++ [name]) node) := by
  have notHere : name ≠ "." := by
    rintro rfl
    rw [follow_here, follow] at leads
    simp at leads
  have notAbove : name ≠ ".." := by
    rintro rfl
    rw [follow_above, follow] at leads
    simp at leads
  have short : ¬maxNameLength < name.utf8ByteSize := by
    intro long
    simp [follow, long] at leads
  have isStep : IsStep name := ⟨notHere, notAbove, Nat.not_lt.mp short⟩
  cases isThere : disk.node? (outer ++ [name]) with
  | none =>
      rw [follow_step_absent isStep isThere] at leads
      simp at leads
  | some node =>
      cases node with
      | file content modified =>
          exact ⟨_, rfl, fun others => follow_step_file isStep isThere⟩
      | link target =>
          exact ⟨_, rfl, fun others => follow_step_link isStep isThere⟩
      | directory =>
          rw [follow_directory notHere notAbove isStep.short isThere, follow] at leads
          simp at leads

/-- The last name of the path is that of a file, or of a link to one. -/
theorem exists_step
    (removable : IsRemovable disk path place content) :
    ∃ outer name remaining target modified, place = outer ++ [name] ∧
      disk.follow true remaining outer [name] = .ok (.found target (.file content modified)) ∧
      ∃ node, disk.node? place = some node ∧ disk.find false path = .ok (place, node) ∧
        ∀ others, disk.follow false others outer [name] = .ok (.found place node) := by
  obtain ⟨node, named⟩ := removable.named
  obtain ⟨target, modified, found⟩ := removable.exists_find
  have leads := follow_of_find found
  have names := follow_of_find named
  rcases List.eq_nil_or_concat (steps path) with none | ⟨front, name, shape⟩
  · rw [none, follow] at leads
    simp at leads
  · rw [List.concat_eq_append] at shape
    rw [shape] at leads names
    obtain ⟨outer, isOuter⟩ := exists_directory_of_follow_append (by simp) leads
    obtain ⟨_, remaining, continues⟩ := follow_append_of_directory id isOuter
    rw [(continues true [name] (by simp)).1] at leads
    rw [(continues false [name] (by simp)).1] at names
    obtain ⟨other, isThere, lasts⟩ := exists_node_of_follow leads
    rw [lasts] at names
    obtain ⟨rfl, rfl⟩ := Destination.found.inj (Except.ok.inj names)
    exact ⟨outer, name, remaining, target, modified, rfl, leads, other, isThere, named, lasts⟩

theorem nonempty
    (removable : IsRemovable disk path place content) :
    place ≠ [] := by
  obtain ⟨outer, name, _, _, _, isPlace, _⟩ := removable.exists_step
  simp [isPlace]

theorem exists_node
    (removable : IsRemovable disk path place content) :
    ∃ node, disk.node? place = some node ∧ disk.find false path = .ok (place, node) := by
  obtain ⟨_, _, _, _, _, _, _, node, isThere, named, _⟩ := removable.exists_step
  exact ⟨node, isThere, named⟩

/-- The path itself can be removed. -/
theorem removeFile_eq
    (removable : IsRemovable disk path place content) :
    disk.removeFile path = .ok (disk.erase place) := by
  obtain ⟨node, named⟩ := removable.named
  obtain ⟨target, modified, found⟩ := removable.exists_find
  have notDirectory : node ≠ .directory := by
    rintro rfl
    rcases disk.follow_true_cases maxLinks [] (steps path) with same | ⟨_, _, isLink⟩
    · rw [follow_of_find named, follow_of_find found] at same
      simp at same
    · rw [follow_of_find named] at isLink
      simp at isLink
  rw [removeFile, named]
  cases node with
  | directory =>
      exact absurd rfl notDirectory
  | file _ _ | link _ =>
      rfl

/-- Where other names lead once the path is removed. -/
theorem follow_cases
    (removable : IsRemovable disk path place content)
    (followsLast : Bool)
    (links : Nat)
    (base : Place)
    (names : List String) :
    disk.follow followsLast links base names =
        (disk.erase place).follow followsLast links base names ∨
      (((disk.erase place).follow followsLast links base names = .ok (.vacant place) ∨
          (disk.erase place).follow followsLast links base names = .error .noSuchFile) ∧
        ((∃ error, disk.follow followsLast links base names = .error error) ∨
          (followsLast = true ∧ ∃ target modified,
            disk.follow followsLast links base names =
              .ok (.found target (.file content modified))) ∨
          (followsLast = false ∧ ∃ node,
            disk.follow followsLast links base names = .ok (.found place node)))) := by
  obtain ⟨outer, name, remaining, target, modified, rfl, leads, node, _, _, named⟩ :=
    removable.exists_step
  have lacks : Lacks (outer ++ [name]) (disk.erase (outer ++ [name])) disk :=
    lacks_erase disk (by simp)
  rcases lacks.follow_cases followsLast links base names with
    same | ⟨others, other, last, rest, isPlace, isStep, comes, comesToo⟩
  · exact .inl same
  · obtain ⟨rfl, sameName⟩ := List.append_inj' isPlace rfl
    obtain rfl := List.singleton_inj.mp sameName
    refine .inr ⟨?_, ?_⟩
    · rw [comes, follow_step_absent isStep lacks.absent]
      cases rest with
      | nil =>
          exact .inl rfl
      | cons next more =>
          exact .inr rfl
    · rw [comesToo]
      cases rest with
      | cons next more =>
          exact .inl (follow_append_of_file leads (List.cons_ne_nil next more) followsLast others)
      | nil =>
          cases followsLast with
          | false =>
              exact .inr (.inr ⟨rfl, node, named others⟩)
          | true =>
              rcases follow_of_file leads others with found | fails
              · exact .inr (.inl ⟨rfl, target, modified, found⟩)
              · exact .inl ⟨_, fails⟩

/-- What another path finds once the path is removed, it found before. -/
theorem find_of_erase
    {followsLast : Bool}
    {found : Place × Node}
    (removable : IsRemovable disk path place content)
    (isFound : (disk.erase place).find followsLast other = .ok found) :
    disk.find followsLast other = .ok found := by
  have leads := follow_of_find isFound
  apply find_of_follow (isFollowed_of_find isFound)
  rcases removable.follow_cases followsLast maxLinks [] (steps other) with
    same | ⟨absent | absent, _⟩
  · rw [same, leads]
  · rw [leads] at absent
    simp at absent
  · rw [leads] at absent
    simp at absent

/-- What another path itself names is still there once the path is removed. -/
theorem find_erase
    {found : Place × Node}
    (removable : IsRemovable disk path place content)
    (isFound : disk.find false other = .ok found) :
    found.1 = place ∨ (disk.erase place).find false other = .ok found := by
  have leads := follow_of_find isFound
  rcases removable.follow_cases false maxLinks [] (steps other) with
    same | ⟨_, ⟨error, fails⟩ | ⟨followed, _⟩ | ⟨_, node, named⟩⟩
  · rw [same] at leads
    exact .inr (find_of_follow (isFollowed_of_find isFound) leads)
  · rw [leads] at fails
    simp at fails
  · exact Bool.noConfusion followed
  · rw [leads] at named
    exact .inl (Destination.found.inj (Except.ok.inj named)).1

/-- Directories are where they were once the path is removed. -/
theorem find_directory_erase
    {outer : Place}
    (removable : IsRemovable disk path place content)
    (isFound : disk.find true other = .ok (outer, .directory)) :
    (disk.erase place).find true other = .ok (outer, .directory) := by
  have leads := follow_of_find isFound
  rcases removable.follow_cases true maxLinks [] (steps other) with
    same | ⟨_, ⟨error, fails⟩ | ⟨_, target, modified, isFile⟩ | ⟨stops, _⟩⟩
  · rw [same] at leads
    exact find_of_follow (isFollowed_of_find isFound) leads
  · rw [leads] at fails
    simp at fails
  · rw [leads] at isFile
    simp at isFile
  · exact Bool.noConfusion stops

/-- Another path reads the same once the path is removed, or nothing. It then read the same as
the path before, or failed. -/
theorem read_erase
    (removable : IsRemovable disk path place content)
    (other : String) :
    (disk.erase place).read other = disk.read other ∨
      ((disk.erase place).read other = .error .noSuchFile ∧
        (disk.read other = .ok content ∨ ∃ error, disk.read other = .error error)) := by
  rcases isFollowed_or other with followed | ⟨error, fails⟩
  · simp only [read, find, destination_of_isFollowed followed]
    rcases removable.follow_cases true maxLinks [] (steps other) with
      same | ⟨absent | absent, before⟩
    · exact .inl (by rw [same])
    all_goals
      refine .inr ⟨by rw [absent], ?_⟩
      rcases before with ⟨error, fails⟩ | ⟨_, target, modified, isFile⟩ | ⟨stops, _⟩
      · exact .inr ⟨error, by rw [fails]⟩
      · exact .inl (by rw [isFile])
      · exact Bool.noConfusion stops
  · exact .inl (by rw [read, read, find, find, fails, fails])

end IsRemovable

end SourceFacts.Disk
