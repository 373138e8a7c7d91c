import SourceFacts.Proofs.Disk.Atomicity
import SourceFacts.Proofs.Disk.Removals

namespace SourceFacts.Disk

/-!
# Things in directories

The path of something in a directory finds what is at the place of its name there. A directory
can be reached by several paths: what is found behind a longer way is found behind a shorter one.
Whatever is written into a directory without links, wherever the path of it begins, there are no
links in it after that.
-/

open Text Time

variable {disk : Disk} {followsLast : Bool} {links : Nat} {base place outer : Place}
  {names rest : List String} {path name : String} {node : Node} {destination : Destination}

/-! ## More links -/

/-- Names that lead somewhere lead there too if more links may be followed. -/
theorem follow_of_le
    (leads : disk.follow followsLast links base names = .ok destination)
    {others : Nat}
    (more : links ≤ others) :
    disk.follow followsLast others base names = .ok destination := by
  fun_induction follow disk followsLast links base names generalizing others with
  | case1 links base =>
      rw [follow, leads]
  | case2 links base rest inductionHypothesis =>
      rw [follow_here]
      exact inductionHypothesis leads more
  | case3 links base rest inductionHypothesis =>
      rw [follow_above]
      exact inductionHypothesis leads more
  | case5 links base name rest notHere notAbove short other isVacant isLast =>
      rw [follow_step_absent ⟨notHere, notAbove, Nat.not_lt.mp short⟩ isVacant, if_pos isLast,
        leads]
  | case7 links base name rest notHere notAbove short other isDirectory inductionHypothesis =>
      rw [follow_directory notHere notAbove (Nat.not_lt.mp short) isDirectory]
      exact inductionHypothesis leads more
  | case8 links base name rest notHere notAbove short other content modified isFile isLast =>
      rw [follow_step_file ⟨notHere, notAbove, Nat.not_lt.mp short⟩ isFile, if_pos isLast, leads]
  | case10 links base name rest notHere notAbove short other target isLink stops =>
      rw [follow_step_link ⟨notHere, notAbove, Nat.not_lt.mp short⟩ isLink, if_pos stops, leads]
  | case13 base name rest notHere notAbove short other target isLink goesOn links relative
      inductionHypothesis =>
      obtain ⟨fewer, rfl⟩ : ∃ fewer, others = fewer + 1 := ⟨others - 1, by omega⟩
      rw [follow_step_link ⟨notHere, notAbove, Nat.not_lt.mp short⟩ isLink, if_neg goesOn]
      dsimp only
      rw [if_neg relative]
      exact inductionHypothesis leads (by omega)
  | _ => simp at leads

/-- What names behind those of a directory lead to is where they lead from the directory. -/
theorem follow_of_follow_append
    (isDirectory : disk.follow true links base names = .ok (.found place .directory))
    (more : rest ≠ [])
    (leads : disk.follow followsLast links base (names ++ rest) = .ok destination) :
    disk.follow followsLast links place rest = .ok destination := by
  fun_induction follow disk true links base names with
  | case1 links base =>
      obtain rfl : base = place := by simpa using isDirectory
      exact leads
  | case2 links base names inductionHypothesis =>
      rw [List.cons_append, follow_here] at leads
      exact inductionHypothesis isDirectory leads
  | case3 links base names inductionHypothesis =>
      rw [List.cons_append, follow_above] at leads
      exact inductionHypothesis isDirectory leads
  | case7 links base name names notHere notAbove short inner isThere inductionHypothesis =>
      rw [List.cons_append, follow_directory notHere notAbove (Nat.not_lt.mp short) isThere]
        at leads
      exact inductionHypothesis isDirectory leads
  | case13 base name names notHere notAbove short inner target isLink goesOn links relative
      inductionHypothesis =>
      rw [Bool.not_eq_true] at relative
      rw [List.cons_append, follow_link notHere notAbove (Nat.not_lt.mp short) isLink relative
        (.inl (by simp [more])), ← List.append_assoc] at leads
      exact follow_of_le (inductionHypothesis isDirectory leads) (Nat.le_succ links)
  | _ => simp at isDirectory

/-! ## Finding what is in a directory -/

/-- A single name finds what is at its place. -/
theorem follow_single
    (isName : IsName name)
    (isThere : disk.node? (base ++ [name]) = some node) :
    disk.follow false links base [name] = .ok (.found (base ++ [name]) node) := by
  have isStep : IsStep name := ⟨isName.notHere, isName.notAbove, isName.short⟩
  cases node with
  | file content modified =>
      exact follow_step_file isStep isThere
  | link target =>
      exact follow_step_link isStep isThere
  | directory =>
      rw [follow_directory isName.notHere isName.notAbove isName.short isThere, follow]

/-- What is in a directory is found by its name there. -/
theorem find_child
    (isDirectory : disk.find true path = .ok (outer, .directory))
    (isName : IsName name)
    (fits : (Path.child path name).utf8ByteSize ≤ maxPathLength)
    (isThere : disk.node? (outer ++ [name]) = some node) :
    disk.find false (Path.child path name) = .ok (outer ++ [name], node) := by
  have followed := isFollowed_of_find isDirectory
  obtain ⟨remaining, continues⟩ := exists_follow_child isDirectory
  apply find_of_follow (followed.child isName fits)
  rw [Path.steps_child followed.nonempty isName, continues false [name] (by simp),
    follow_single isName isThere]

/-- What is found in a directory is at the place of its name there. -/
theorem exists_place_of_find_child
    (isPath : path ≠ "")
    (isName : IsName name)
    (isFound : disk.find false (Path.child path name) = .ok (place, node)) :
    ∃ outer, disk.find true path = .ok (outer, .directory) ∧ place = outer ++ [name] ∧
      disk.node? place = some node := by
  obtain ⟨outer, isDirectory⟩ := exists_directory_of_find_child isPath isName isFound
  obtain ⟨remaining, continues⟩ := exists_follow_child isDirectory
  have leads := follow_of_find isFound
  rw [Path.steps_child isPath isName, continues false [name] (by simp)] at leads
  cases isThere : disk.node? (outer ++ [name]) with
  | none =>
      rw [follow_vacant isName isThere] at leads
      simp at leads
  | some other =>
      rw [follow_single isName isThere] at leads
      obtain ⟨rfl, rfl⟩ := Destination.found.inj (Except.ok.inj leads)
      exact ⟨outer, isDirectory, rfl, isThere⟩

/-- What is found and is no link is found where its path leads. -/
theorem find_of_ne_link
    {node : Node}
    (isFound : disk.find false path = .ok (place, node))
    (noLink : ∀ target, node ≠ .link target) :
    disk.find true path = .ok (place, node) := by
  have leads := follow_of_find isFound
  apply find_of_follow (isFollowed_of_find isFound)
  rcases disk.follow_true_cases maxLinks [] (steps path) with same | ⟨_, target, isLink⟩
  · rw [same, leads]
  · rw [leads, Except.ok.injEq, Destination.found.injEq] at isLink
    exact absurd isLink.2 (noLink target)

/-- A directory that is no link is found where its path leads. -/
theorem find_of_find_directory
    (isFound : disk.find false path = .ok (place, .directory)) :
    disk.find true path = .ok (place, .directory) :=
  find_of_ne_link isFound nofun

/-- A path to a directory is that of the directory or of a link. -/
theorem find_directory_cases
    (isFound : disk.find true path = .ok (place, .directory)) :
    disk.find false path = .ok (place, .directory) ∨
      ∃ other target, disk.find false path = .ok (other, .link target) := by
  have leads := follow_of_find isFound
  have followed := isFollowed_of_find isFound
  rcases disk.follow_true_cases maxLinks [] (steps path) with same | ⟨other, target, isLink⟩
  · exact .inl (find_of_follow followed (same.symm.trans leads))
  · exact .inr ⟨other, target, find_of_follow followed isLink⟩

/-- What is found in a directory behind another way is found behind its own name. -/
theorem find_in_directory
    {other : String}
    {found : Place × Node}
    (isPath : path ≠ "")
    (isName : IsName name)
    (isOther : IsName other)
    {inner : String}
    (isInner : IsName inner)
    (isDirectory : disk.find false (Path.child path name) = .ok (place, .directory))
    (isDirectoryToo : disk.find true (Path.child path other) = .ok (place, .directory))
    (fits : (Path.child (Path.child path name) inner).utf8ByteSize ≤ maxPathLength)
    (isFound : disk.find true (Path.child (Path.child path other) inner) = .ok found) :
    disk.find true (Path.child (Path.child path name) inner) = .ok found := by
  obtain ⟨outer, isOuter, rfl, isThere⟩ := exists_place_of_find_child isPath isName isDirectory
  obtain ⟨remaining, continues⟩ := exists_follow_child isOuter
  have isChild := Path.child_ne_empty isPath isName
  have isOtherChild := Path.child_ne_empty isPath isOther
  have leadsThere := follow_of_find isDirectoryToo
  have leads := follow_of_find isFound
  rw [Path.steps_child isPath isOther, continues true [other] (by simp)] at leadsThere
  rw [Path.steps_child isOtherChild isInner, Path.names_child isPath isOther, List.append_assoc,
    continues true _ (by simp)] at leads
  apply find_of_follow ((isFollowed_of_find isDirectory).child isInner fits)
  rw [Path.steps_child isChild isInner, Path.names_child isPath isName, List.append_assoc,
    continues true _ (by simp), List.cons_append,
    follow_directory isName.notHere isName.notAbove isName.short isThere]
  exact follow_of_follow_append leadsThere (by simp) leads

/-! ## Names of what is there -/

/-- Everything in a tree has a name of the system. -/
def HasNames (disk : Disk) : Prop :=
  ∀ place node, (place, node) ∈ disk.entries → ∀ name ∈ place, IsName name

theorem HasNames.of_node?
    (hasNames : disk.HasNames)
    (isThere : disk.node? place = some node)
    (member : name ∈ place) :
    IsName name := by
  apply Classical.byContradiction
  intro notName
  have absent : disk.node? place = none :=
    (node?_eq_none (List.ne_nil_of_mem member)).mpr fun other isEntry =>
      notName (hasNames place other isEntry name member)
  rw [isThere] at absent
  simp at absent

/-- What is listed in a directory is there, and has a name of the system. -/
theorem HasNames.of_mem_children
    (hasNames : disk.HasNames)
    (isChild : (name, node) ∈ disk.children place) :
    IsName name ∧ ∃ there, disk.node? (place ++ [name]) = some there := by
  have member := mem_children.mp isChild
  refine ⟨hasNames _ node member name (by simp), ?_⟩
  cases isThere : disk.node? (place ++ [name]) with
  | none =>
      exact absurd member ((node?_eq_none (by simp)).mp isThere node)
  | some there =>
      exact ⟨there, rfl⟩

/-! ## Removing directories -/

/-- A directory is removed by its path if it is empty. -/
theorem removeDirectory_child
    (isPath : path ≠ "")
    (isName : IsName name)
    (isDirectory : disk.find false (Path.child path name) = .ok (place, .directory)) :
    disk.removeDirectory (Path.child path name) =
      if (disk.children place).isEmpty then .ok (disk.erase place) else .error .notEmpty := by
  rw [removeDirectory, Path.withoutSlashes_child isPath isName, isDirectory]

/-- A link to a directory is not removed. -/
theorem removeDirectory_link
    {target : String}
    (isPath : path ≠ "")
    (isName : IsName name)
    (isLink : disk.find false (Path.child path name) = .ok (place, .link target)) :
    disk.removeDirectory (Path.child path name) = .error .notDirectory := by
  rw [removeDirectory, Path.withoutSlashes_child isPath isName, isLink]

/-! ## Directories that are reached -/

/-- A directory is reached as before once what leads to a file is removed. -/
theorem IsRemovable.reaches_erase
    {other : String}
    {content : Bytes}
    (removable : IsRemovable disk path place content)
    (reaches : disk.Reaches other outer) :
    (disk.erase place).Reaches other outer := by
  have isFound := follow_of_find reaches
  have pruned : (disk.erase place).prune outer = (disk.prune outer).erase place := by
    apply eq_of_entries_eq
    simp only [prune, erase, List.filter_filter]
    congr 1
    funext entry
    exact Bool.and_comm ..
  obtain ⟨front, name, remaining, target, modified, isPlace, leads, _⟩ := removable.exists_step
  rw [Reaches, pruned]
  apply find_of_follow reaches.isFollowed
  rcases (lacks_erase (disk.prune outer) removable.nonempty).follow_cases true maxLinks []
    (steps other) with same | ⟨others, front', name', rest, isPlace', _, _, comes⟩
  · rw [← same, isFound]
  · -- Behind what leads to a file no directory is found.
    rw [comes] at isFound
    obtain ⟨isFound, _⟩ := follow_append_of_directory node?_of_prune isFound
    rw [isPlace] at isPlace'
    obtain ⟨rfl, sameName⟩ := List.append_inj' isPlace' rfl
    obtain rfl := List.singleton_inj.mp sameName
    cases rest with
    | nil =>
        rcases follow_of_file leads others with isFile | fails
        · rw [isFound] at isFile
          simp at isFile
        · rw [isFound] at fails
          simp at fails
    | cons next more =>
        obtain ⟨error, fails⟩ :=
          follow_append_of_file leads (List.cons_ne_nil next more) true others
        rw [List.singleton_append, isFound] at fails
        simp at fails

/-! ## Siblings -/

/-- Dots before other names do not matter. -/
theorem follow_dots
    {dots : List String}
    (areDots : ∀ step ∈ dots, step = ".") :
    disk.follow followsLast links base (dots ++ rest) =
      disk.follow followsLast links base rest := by
  induction dots with
  | nil =>
      rfl
  | cons dot more inductionHypothesis =>
      rw [List.forall_mem_cons] at areDots
      rw [List.cons_append, areDots.1, follow_here, inductionHypothesis areDots.2]

/-- A single name leads to the place of that name. -/
theorem place_of_follow_single
    (notHere : name ≠ ".")
    (notAbove : name ≠ "..")
    (leads : disk.follow false links base [name] = .ok destination) :
    destination.place = base ++ [name] := by
  rw [follow] at leads
  · split at leads
    · simp at leads
    · dsimp only at leads
      split at leads
      · obtain rfl := Except.ok.inj leads
        rfl
      · rw [follow] at leads
        obtain rfl := Except.ok.inj leads
        rfl
      · obtain rfl := Except.ok.inj leads
        rfl
      · obtain rfl := Except.ok.inj leads
        rfl
  · exact notHere
  · exact notAbove

/-- Nothing is put at a path that ends with a slash or in dots. -/
theorem ending_of_landing
    (lands : disk.landing path = .ok place) :
    Path.endsWithSlash path = false ∧ endsInDots path = false := by
  rw [landing] at lands
  split at lands
  · simp at lands
  · rename_i noDots
    refine ⟨?_, Bool.not_eq_true _ ▸ noDots⟩
    cases ends : Path.endsWithSlash path with
    | false =>
        rfl
    | true =>
        rw [ends] at lands
        split at lands <;> simp at lands

/-- What is put at a path is put into the directory in which its siblings are. -/
theorem exists_directory_of_landing
    {here there : Place}
    (noSlash : '/' ∉ name.toList)
    (notEmpty : name ≠ "")
    (notHere : name ≠ ".")
    (notAbove : name ≠ "..")
    (lands : disk.landing path = .ok there)
    (isFound : disk.find false (Path.sibling path name) = .ok (here, node)) :
    ∃ outer last, there = outer ++ [last] ∧ here = outer ++ [name] := by
  obtain ⟨-, destination, leads, rfl, -⟩ := getLast?_of_landing lands
  obtain ⟨isOpen, noDots⟩ := ending_of_landing lands
  have followed := isFollowed_of_destination leads
  have leadsSibling := follow_of_find isFound
  obtain ⟨front, dots, last, areSteps, areDots, lastNotHere, lastNotAbove, areSiblingSteps⟩ :=
    Path.exists_steps_of_sibling followed.nonempty followed.relative isOpen noDots noSlash notEmpty
  rw [destination_of_isFollowed followed, areSteps, List.append_assoc] at leads
  rw [areSiblingSteps] at leadsSibling
  obtain ⟨place, isDirectory⟩ := exists_directory_of_follow_append (by simp) leads
  have leadsThere := follow_of_follow_append isDirectory (by simp) leads
  have leadsHere := follow_of_follow_append isDirectory (by simp) leadsSibling
  rw [follow_dots areDots] at leadsThere
  exact ⟨place, last, place_of_follow_single lastNotHere lastNotAbove leadsThere,
    place_of_follow_single notHere notAbove leadsHere⟩

/-! ## What comes into a directory -/

/-- There are no links below a place. -/
def NoLinks (disk : Disk) (place : Place) : Prop :=
  ∀ inner ≠ [], ∀ target, disk.node? (place ++ inner) ≠ some (.link target)

/-- Nothing comes into a tree below a place but directories and files with new contents. -/
def Gains (isNew : Bytes → Prop) (place : Place) (before after : Disk) : Prop :=
  ∀ inner ≠ [], ∀ node, after.node? (place ++ inner) = some node →
    before.node? (place ++ inner) = some node ∨ node = .directory ∨
      ∃ content modified, isNew content ∧ node = .file content modified

section Gains

variable {isNew : Bytes → Prop} {before between after : Disk} {here there : Place}

theorem Gains.refl
    (isNew : Bytes → Prop)
    (place : Place)
    (disk : Disk) :
    Gains isNew place disk disk :=
  fun _ _ _ isThere => .inl isThere

theorem Gains.trans
    (gains : Gains isNew place before between)
    (gainsMore : Gains isNew place between after) :
    Gains isNew place before after := by
  intro inner notPlace node isThere
  rcases gainsMore inner notPlace node isThere with wasThere | isGained
  · exact gains inner notPlace node wasThere
  · exact .inr isGained

/-- There are still no links below a place after something came there. -/
theorem NoLinks.of_gains
    (noLinks : before.NoLinks place)
    (gains : Gains isNew place before after) :
    after.NoLinks place := by
  intro inner notPlace target isLink
  rcases gains inner notPlace _ isLink with wasLink | isDirectory | ⟨_, _, _, isFile⟩
  · exact noLinks inner notPlace target wasLink
  · exact absurd isDirectory (by simp)
  · exact absurd isFile (by simp)

/-- What is put somewhere comes there. -/
theorem gains_set
    {node : Node}
    (allowed : (∃ inner, inner ≠ [] ∧ here = place ++ inner) →
      node = .directory ∨ ∃ content modified, isNew content ∧ node = .file content modified)
    (disk : Disk) :
    Gains isNew place disk (disk.set here node) := by
  intro inner notPlace other isThere
  by_cases isHere : place ++ inner = here
  · subst isHere
    rw [node?_set_self disk (by simp [notPlace])] at isThere
    obtain rfl := Option.some.inj isThere
    exact .inr (allowed ⟨inner, notPlace, rfl⟩)
  · rw [node?_set_of_ne disk isHere] at isThere
    exact .inl isThere

/-- Nothing comes by removing something. -/
theorem gains_erase
    (isNew : Bytes → Prop)
    (place here : Place)
    (disk : Disk) :
    Gains isNew place disk (disk.erase here) := by
  intro inner notPlace node isThere
  by_cases isHere : place ++ inner = here
  · subst isHere
    rw [node?_erase_self disk (by simp [notPlace])] at isThere
    exact absurd isThere (by simp)
  · rw [node?_erase_of_ne disk isHere] at isThere
    exact .inl isThere

/-! ### Making directories -/

/-- Making a directory brings nothing but directories. -/
theorem gains_ensureDirectory
    (isNew : Bytes → Prop)
    (place : Place)
    (disk : Disk)
    (path : String) :
    Gains isNew place disk (disk.ensureDirectory path).2 := by
  rw [ensureDirectory]
  cases made : disk.createDirectory path with
  | error error =>
      exact .refl isNew place disk
  | ok changed =>
      rw [createDirectory] at made
      split at made
      · simp at made
      · simp at made
      · obtain rfl := Except.ok.inj made
        exact gains_set (fun _ => .inl rfl) disk

/-- Making a directory and those that it is in brings nothing but directories. -/
theorem gains_ensureWithin
    (isNew : Bytes → Prop)
    (place : Place)
    (disk : Disk)
    (depth : Nat)
    (path : String) :
    Gains isNew place disk (disk.ensureWithin depth path).2 := by
  induction depth generalizing disk path with
  | zero =>
      exact gains_ensureDirectory isNew place disk path
  | succ depth inductionHypothesis =>
      rw [ensureWithin]
      split
      · exact .refl isNew place disk
      · rename_i parent _ _ _
        have gains := inductionHypothesis disk parent
        generalize disk.ensureWithin depth parent = within at gains ⊢
        obtain ⟨error | _, made⟩ := within
        · exact gains
        · exact gains.trans (gains_ensureDirectory isNew place made path)
      · exact gains_ensureDirectory isNew place disk path

theorem gains_createDirectories
    (isNew : Bytes → Prop)
    (place : Place)
    (disk : Disk)
    (path : String) :
    Gains isNew place disk (disk.createDirectories path).2 := by
  rw [createDirectories]
  split
  · exact .refl isNew place disk
  · exact gains_ensureWithin isNew place disk _ path

/-! ### Replacing files -/

/-- What a file that is written leads to. -/
theorem destination_of_write
    {content : Bytes}
    {now : Instant}
    (writes : disk.write path content now = .ok after) :
    ∃ place destination, disk.destination true path = .ok destination ∧ destination.IsFor place ∧
      after = disk.set place (.file content now) ∧
      after.destination true path = .ok (.found place (.file content now)) := by
  rw [write] at writes
  split at writes
  · simp at writes
  · rename_i place old modified leads
    obtain rfl := Except.ok.inj writes
    exact ⟨place, _, leads, rfl, rfl, destination_set leads rfl content now⟩
  · rename_i place leads
    obtain rfl := Except.ok.inj writes
    exact ⟨place, _, leads, rfl, rfl, destination_set leads rfl content now⟩
  · simp at writes
  · simp at writes

/-- What a path finds is where it leads. -/
theorem destination_of_find
    (isFound : disk.find followsLast path = .ok (place, node)) :
    disk.destination followsLast path = .ok (.found place node) := by
  rw [destination_of_isFollowed (isFollowed_of_find isFound), follow_of_find isFound]

/-- What is found at the end of a path is a link, or it is what the path leads to. -/
theorem link_or_of_find
    {other : Node}
    (leads : disk.destination true path = .ok (.found place node))
    (isFound : disk.find false path = .ok (here, other)) :
    other = node ∨ ∃ target, other = .link target := by
  cases other with
  | link target =>
      exact .inr ⟨target, rfl⟩
  | file _ _ | directory =>
      have isThere := find_of_ne_link isFound (by simp)
      rw [find, leads] at isThere
      exact .inl (Prod.mk.inj (Except.ok.inj isThere)).2.symm

/-- What holds of a tree still holds after a replacement if it does after every step that a
replacement can take. -/
theorem replace_induction
    {motive : Disk → Prop}
    {content : Bytes}
    {tag : String}
    {now : Instant}
    (path : String)
    (start : motive disk)
    (writes : ∀ {tree destination place bytes}, motive tree →
      tree.destination true (Replacement.temporary { path, content, tag, now }) =
        .ok destination → destination.IsFor place → bytes = [] ∨ bytes = content →
          motive (tree.set place (.file bytes now)))
    (removes : ∀ {tree place node}, motive tree →
      tree.find false (Replacement.temporary { path, content, tag, now }) = .ok (place, node) →
        motive (tree.erase place))
    (moves : ∀ {tree here there node}, motive tree →
      tree.find false (Replacement.temporary { path, content, tag, now }) = .ok (here, node) →
        tree.landing path = .ok there →
          node = .file content now ∨ (∃ target, node = .link target) →
            motive ((tree.erase here).set there node)) :
    motive (disk.replace path content tag now).2 := by
  let replacement : Replacement := { path, content, tag, now }
  have cleans : ∀ {tree}, motive tree → motive (replacement.cleanUp tree) := by
    intro tree isHeld
    rw [replacement.cleanUp_eq rfl, removeFile]
    split
    · exact isHeld
    · exact isHeld
    · rename_i place node _ isFound
      exact removes isHeld isFound
  show motive (replacement.run disk).2
  rcases disk.write_cases replacement.temporary with ⟨error, cannot⟩ | ⟨place, written⟩
  · rw [replacement.run_of_unwritable rfl cannot]
    exact cleans start
  · obtain ⟨creates, fills⟩ := written [] now
    have fills := fills content now
    obtain ⟨_, _, leads, isFor, isMade, _⟩ := destination_of_write creates
    obtain ⟨_, _, leadsMade, isForMade, isFilled, leadsFilled⟩ := destination_of_write fills
    have madeHeld := isMade ▸ writes start leads isFor (.inl rfl)
    have filledHeld := isFilled ▸ writes madeHeld leadsMade isForMade (.inr rfl)
    rw [replacement.run_of_writes rfl creates fills, rename_eq]
    cases isFound : (replacement.filled disk place).find false replacement.temporary with
    | error error =>
        exact cleans filledHeld
    | ok found =>
        obtain ⟨here, node⟩ := found
        cases lands : (replacement.filled disk place).landing replacement.path with
        | error error =>
            exact cleans filledHeld
        | ok there =>
            exact moves filledHeld isFound lands (link_or_of_find leadsFilled isFound)

/-- Replacing a file brings nothing but directories and files that are empty or have the new
content, wherever links outside lead. -/
theorem gains_replace
    {content : Bytes}
    {tag : String}
    (noLinks : disk.NoLinks place)
    (noSlash : '/' ∉ tag.toList)
    (path : String)
    (now : Instant) :
    Gains (fun bytes => bytes = [] ∨ bytes = content) place disk
      (disk.replace path content tag now).2 := by
  let replacement : Replacement := { path, content, tag, now }
  have noSlashInName := replacement.noSlash_newName noSlash
  have isSome : replacement.newName ≠ "" ∧ replacement.newName ≠ "." ∧
      replacement.newName ≠ ".." := by
    have long : 6 ≤ replacement.newName.toList.length := by
      simp [Replacement.newName, temporaryName]
      omega
    refine ⟨?_, ?_, ?_⟩ <;>
    · intro same
      rw [same] at long
      exact absurd long (by decide)
  refine replace_induction path (.refl _ place disk) ?_ ?_ ?_
  · intro tree _ _ bytes gains _ _ isBytes
    exact gains.trans (gains_set (fun _ => .inr ⟨bytes, now, isBytes, rfl⟩) tree)
  · intro tree here _ gains _
    exact gains.trans (gains_erase _ place here tree)
  · intro tree here there node gains isFound lands isMoved
    refine (gains.trans (gains_erase _ place here tree)).trans (gains_set ?_ _)
    rintro ⟨inner, notPlace, isThere⟩
    rcases isMoved with rfl | ⟨target, rfl⟩
    · exact .inr ⟨content, now, .inr rfl, rfl⟩
    · -- The link would have been below the place before, beside what it is moved to.
      obtain ⟨outer, last, rfl, rfl⟩ := exists_directory_of_landing noSlashInName isSome.1
        isSome.2.1 isSome.2.2 lands isFound
      obtain ⟨front, final, rfl⟩ : ∃ front final, inner = front ++ [final] := by
        rcases List.eq_nil_or_concat inner with none | ⟨front, final, isInner⟩
        · exact absurd none notPlace
        · exact ⟨front, final, by rw [isInner, List.concat_eq_append]⟩
      obtain ⟨rfl, -⟩ := List.append_inj' (isThere.trans (List.append_assoc ..).symm) rfl
      rcases node?_of_follow (follow_of_find isFound) with isDirectory | isLink
      · exact absurd isDirectory (by simp)
      · rw [List.append_assoc] at isLink
        exact absurd isLink (noLinks.of_gains gains _ (by simp) target)

/-! ### Where there are no links -/

/-- There are no links below a directory that is itself below such a place. -/
theorem NoLinks.append
    (noLinks : disk.NoLinks place)
    (inner : Place) :
    disk.NoLinks (place ++ inner) := by
  intro rest notEmpty target
  rw [List.append_assoc]
  exact noLinks _ (by simp [notEmpty]) target

/-- Where there are no links, names lead to the place of these names. -/
theorem NoLinks.place_of_follow
    (noLinks : disk.NoLinks place)
    (proper : ∀ name ∈ names, name ≠ "." ∧ name ≠ "..")
    (isBelow : place <+: base)
    (leads : disk.follow followsLast links base names = .ok destination) :
    destination.place = base ++ names := by
  have noLink : ∀ {base : Place} {name target}, place <+: base →
      disk.node? (base ++ [name]) ≠ some (.link target) := by
    rintro _ name target ⟨inner, rfl⟩
    rw [List.append_assoc]
    exact noLinks _ (by simp) target
  fun_induction follow disk followsLast links base names with
  | case1 links base =>
      obtain rfl := Except.ok.inj leads
      exact (List.append_nil base).symm
  | case2 links base rest =>
      exact absurd rfl (proper "." List.mem_cons_self).1
  | case3 links base rest =>
      exact absurd rfl (proper ".." List.mem_cons_self).2
  | case5 links base name rest notHere notAbove short inner isVacant isLast
  | case8 links base name rest notHere notAbove short inner content modified isFile isLast =>
      obtain rfl := Except.ok.inj leads
      obtain rfl := List.isEmpty_iff.mp isLast
      rfl
  | case7 links base name rest notHere notAbove short inner isDirectory inductionHypothesis =>
      rw [inductionHypothesis (fun other member => proper other (List.mem_cons_of_mem _ member))
        (isBelow.trans (List.prefix_append base [name])) leads, List.append_assoc,
        List.singleton_append]
  | case10 links base name rest notHere notAbove short inner target isLink stops
  | case13 base name rest notHere notAbove short inner target isLink goesOn links relative
      inductionHypothesis =>
      exact absurd isLink (noLink isBelow)
  | _ => simp at leads

/-- The place for a file is the one that the path leads to. -/
theorem Destination.IsFor.place_eq
    (isFor : destination.IsFor place) :
    destination.place = place := by
  rcases destination with ⟨other, _ | _ | _⟩ | other
  · exact isFor
  · exact isFor.elim
  · exact isFor.elim
  · exact isFor

/-- Where there are no links, the path of something in a directory leads to its place. -/
theorem Reaches.place_of_destination
    (reaches : disk.Reaches path place)
    (noLinks : disk.NoLinks place)
    (isName : IsName name)
    (fits : (Path.child path name).utf8ByteSize ≤ maxPathLength)
    (leads : disk.destination followsLast (Path.child path name) = .ok destination) :
    destination.place = place ++ [name] := by
  obtain ⟨remaining, continues⟩ := reaches.exists_destination_child isName fits
  rw [continues] at leads
  exact noLinks.place_of_follow (by simp [isName.notHere, isName.notAbove]) List.prefix_rfl leads

/-- Replacing a file of a directory without links leaves everything outside as it is. -/
theorem Reaches.prune_replace
    {content : Bytes}
    {tag : String}
    (reaches : disk.Reaches path place)
    (noLinks : disk.NoLinks place)
    (isName : IsName name)
    (isTemporary : IsName (temporaryName name tag))
    (isParent : Path.parent? (Path.child path name) = some path)
    (fits : (Path.child path name).utf8ByteSize ≤ maxPathLength)
    (temporaryFits : (Path.child path (temporaryName name tag)).utf8ByteSize ≤ maxPathLength)
    (now : Instant) :
    (disk.replace (Path.child path name) content tag now).2.prune place = disk.prune place := by
  have isPath := reaches.isFollowed.nonempty
  have isTemporaryPath :
      Replacement.temporary { path := Path.child path name, content, tag, now } =
        Path.child path (temporaryName name tag) :=
    Replacement.temporary_child isPath isName isParent rfl
  -- There are no links in the directory throughout, so that each step is taken at one of two
  -- places in it.
  let Spared (tree : Disk) : Prop := tree.prune place = disk.prune place ∧ tree.NoLinks place
  have isPlace : ∀ {tree followsLast other destination}, Spared tree → IsName other →
      (Path.child path other).utf8ByteSize ≤ maxPathLength →
        tree.destination followsLast (Path.child path other) = .ok destination →
          destination.place = place ++ [other] := by
    intro tree followsLast other destination spared isOther otherFits leads
    exact (reaches.of_prune_eq spared.1).place_of_destination spared.2 isOther otherFits leads
  suffices spared : Spared (disk.replace (Path.child path name) content tag now).2 from spared.1
  refine replace_induction (Path.child path name) ⟨rfl, noLinks⟩ ?_ ?_ ?_
  · intro tree destination here bytes spared leads isFor isBytes
    rw [isTemporaryPath] at leads
    have isHere := isPlace spared isTemporary temporaryFits leads
    rw [isFor.place_eq] at isHere
    subst isHere
    have gains : Gains (fun _ => True) place tree
        (tree.set (place ++ [temporaryName name tag]) (.file bytes now)) :=
      gains_set (fun _ => .inr ⟨bytes, now, trivial, rfl⟩) tree
    exact ⟨(prune_set tree place (by simp) _).trans spared.1, spared.2.of_gains gains⟩
  · intro tree here node spared isFound
    rw [isTemporaryPath] at isFound
    obtain rfl : here = place ++ [temporaryName name tag] :=
      isPlace spared isTemporary temporaryFits (destination_of_find isFound)
    exact ⟨(prune_erase tree place (by simp)).trans spared.1,
      spared.2.of_gains (gains_erase (fun _ => True) place _ tree)⟩
  · intro tree here there node spared isFound lands isMoved
    rw [isTemporaryPath] at isFound
    obtain rfl : here = place ++ [temporaryName name tag] :=
      isPlace spared isTemporary temporaryFits (destination_of_find isFound)
    obtain ⟨-, destination, leads, isThere, -⟩ := getLast?_of_landing lands
    rw [isPlace spared isName fits leads] at isThere
    subst isThere
    rcases isMoved with rfl | ⟨target, rfl⟩
    · have gains : Gains (fun _ => True) place tree
          ((tree.erase (place ++ [temporaryName name tag])).set (place ++ [name])
            (.file content now)) :=
        (gains_erase _ place _ tree).trans
          (gains_set (fun _ => .inr ⟨content, now, trivial, rfl⟩) _)
      refine ⟨?_, spared.2.of_gains gains⟩
      rw [prune_set _ _ (by simp), prune_erase _ _ (by simp), spared.1]
    · rcases node?_of_follow (follow_of_find isFound) with isDirectory | isLink
      · exact absurd isDirectory (by simp)
      · exact absurd isLink (spared.2 _ (by simp) target)

end Gains

end SourceFacts.Disk
