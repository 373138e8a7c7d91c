import SourceFacts.Disk.Files
import SourceFacts.Failures.Log
import SourceFacts.Proofs.Disk.Operations
import SourceFacts.Proofs.Disk.Tree

namespace SourceFacts.Disk

/-!
# What files contain, and what it matters to

Where paths lead does not depend on what files contain. So whatever is written for a file, the
trees after that differ in this file at most.
-/

open Text Time

/-!
## What files contain does not matter to paths

Where a path leads depends on the names in a tree and on what is a file, a link or a
directory. What files contain and when they were modified does not matter: a path leads to the
same place in the tree of blank files.
-/

section Blank

/-- Something in a directory, as a blank file if it is a file. -/
def Node.blank : Node → Node
  | .file _ _ => .file [] {}
  | .link target => .link target
  | .directory => .directory

theorem directory_of_blank
    {node : Node}
    (sameBlank : Node.directory.blank = node.blank) :
    node = .directory := by
  cases node with
  | directory =>
      rfl
  | file _ _ | link _ =>
      exact absurd sameBlank (by simp [Node.blank])

/-- A tree with blank files. -/
def blank (disk : Disk) : Disk :=
  { entries := disk.entries.map fun entry => (entry.1, entry.2.blank) }

/-- Where a path leads, as to a blank file if it is a file. -/
def Destination.blank : Destination → Destination
  | .found place node => .found place node.blank
  | .vacant place => .vacant place

variable {disk : Disk}

/-! ### Trees -/

/-- At a place there is what was there before it was blank. -/
theorem node?_blank
    (disk : Disk)
    (place : Place) :
    disk.blank.node? place = (disk.node? place).map Node.blank := by
  cases place with
  | nil =>
      rfl
  | cons name rest =>
      simp only [node?, blank, List.find?_map, Option.map_map]
      rfl

theorem blank_set
    (disk : Disk)
    (place : Place)
    (node : Node) :
    (disk.set place node).blank = disk.blank.set place node.blank := by
  have sameAny : disk.blank.entries.any (·.1 = place) = disk.entries.any (·.1 = place) := by
    rw [blank, List.any_map]
    rfl
  unfold set
  rw [sameAny]
  split
  · simp only [blank, List.map_map]
    congr 1
    refine List.map_congr_left fun entry _ => ?_
    by_cases isPlace : entry.1 = place <;> simp [isPlace]
  · simp [blank]

theorem blank_erase
    (disk : Disk)
    (place : Place) :
    (disk.erase place).blank = disk.blank.erase place := by
  simp only [blank, erase, List.filter_map]
  rfl

/-! ### Paths -/

/-- Names lead to the same place in the tree of blank files. -/
theorem follow_blank
    (disk : Disk)
    (followsLast : Bool)
    (links : Nat)
    (base : Place)
    (names : List String) :
    disk.blank.follow followsLast links base names =
      (disk.follow followsLast links base names).map Destination.blank := by
  have seen : ∀ place {node?}, disk.node? place = node? →
      disk.blank.node? place = node?.map Node.blank :=
    fun place _ isNode => isNode ▸ node?_blank disk place
  fun_induction follow disk followsLast links base names with
  | case1 links base =>
      rw [follow]
      rfl
  | case2 links base rest inductionHypothesis =>
      rw [follow, inductionHypothesis]
  | case3 links base rest inductionHypothesis =>
      rw [follow, inductionHypothesis]
  | case4 links base name rest notHere notAbove long =>
      simp [follow, long, Except.map]
  | case5 links base name rest notHere notAbove short place isVacant isLast =>
      simp [follow, short, seen (base ++ [name]) isVacant, isLast, place, Except.map,
        Destination.blank]
  | case6 links base name rest notHere notAbove short place isVacant goesOn =>
      simp [follow, short, seen (base ++ [name]) isVacant, goesOn, Except.map]
  | case7 links base name rest notHere notAbove short place isDirectory inductionHypothesis =>
      simpa [follow, short, seen (base ++ [name]) isDirectory, Node.blank]
        using inductionHypothesis
  | case8 links base name rest notHere notAbove short place content modified isFile isLast =>
      simp [follow, short, seen (base ++ [name]) isFile, isLast, place, Except.map,
        Destination.blank, Node.blank]
  | case9 links base name rest notHere notAbove short place content modified isFile goesOn =>
      simp [follow, short, seen (base ++ [name]) isFile, goesOn, Except.map, Node.blank]
  | case10 links base name rest notHere notAbove short place target isLink stops =>
      simp [follow, short, seen (base ++ [name]) isLink, stops, place, Except.map,
        Destination.blank, Node.blank]
  | case11 base name rest notHere notAbove short place target isLink goesOn =>
      simp [follow, short, seen (base ++ [name]) isLink, goesOn, Except.map, Node.blank]
  | case12 base name rest notHere notAbove short place target isLink goesOn links absolute =>
      simp [follow, short, seen (base ++ [name]) isLink, goesOn, absolute, Except.map, Node.blank]
  | case13 base name rest notHere notAbove short place target isLink goesOn links relative
      inductionHypothesis =>
      simp [follow, short, seen (base ++ [name]) isLink, goesOn, relative, inductionHypothesis,
        Node.blank]

theorem destination_blank
    (disk : Disk)
    (followsLast : Bool)
    (path : String) :
    disk.blank.destination followsLast path =
      (disk.destination followsLast path).map Destination.blank := by
  unfold destination
  repeat' split
  · rfl
  · rfl
  · rfl
  · rfl
  · exact follow_blank ..

/-- A path finds the same in the tree of blank files. -/
theorem find_blank
    (disk : Disk)
    (followsLast : Bool)
    (path : String) :
    disk.blank.find followsLast path =
      (disk.find followsLast path).map fun found => (found.1, found.2.blank) := by
  rw [find, find, destination_blank]
  rcases disk.destination followsLast path with error | ⟨place, node⟩ | place <;> rfl

end Blank

/-!
## Trees that differ in one file

If the content of a file is replaced by one or by another, then the trees after that differ in
what one file contains, if they differ at all. This holds wherever links lead, and whether the
replacement succeeds or not.
-/

/-! ### Changes at one place -/

theorem erase_set_self
    (disk : Disk)
    (place : Place)
    (node : Node) :
    (disk.set place node).erase place = disk.erase place := by
  apply eq_of_entries_eq
  unfold set
  split
  · simp only [erase, List.filter_map]
    have unchanged : ∀ entry ∈ disk.entries.filter (·.1 ≠ place),
        (if entry.1 = place then (place, node) else entry) = entry := by
      intro entry member
      rw [if_neg (by simpa using (List.mem_filter.mp member).2)]
    have samePlaces : ((fun entry : Place × Node => decide (entry.1 ≠ place)) ∘
        fun entry => if entry.1 = place then (place, node) else entry) =
          fun entry => decide (entry.1 ≠ place) := by
      funext entry
      by_cases isPlace : entry.1 = place <;> simp [isPlace]
    rw [samePlaces, List.map_congr_left unchanged, List.map_id']
  · simp [erase]

theorem erase_set_of_ne
    (disk : Disk)
    {place other : Place}
    (elsewhere : other ≠ place)
    (node : Node) :
    (disk.set other node).erase place = (disk.erase place).set other node := by
  apply eq_of_entries_eq
  have sameAny : (disk.erase place).entries.any (·.1 = other) =
      disk.entries.any (·.1 = other) := by
    rw [erase, List.any_filter]
    congr 1
    funext entry
    by_cases isOther : entry.1 = other <;> simp [isOther, elsewhere]
  unfold set
  rw [sameAny]
  split
  · simp only [erase, List.filter_map]
    congr 2
    funext entry
    by_cases isOther : entry.1 = other <;> simp [isOther, elsewhere]
  · simp [erase, elsewhere]

theorem erase_comm
    (disk : Disk)
    (place other : Place) :
    (disk.erase place).erase other = (disk.erase other).erase place := by
  apply eq_of_entries_eq
  simp only [erase, List.filter_filter]
  congr 1
  funext entry
  exact Bool.and_comm ..

/-! ### Writing twice -/

/-- A destination that is a place for a file. -/
def Destination.IsFor : Destination → Place → Prop
  | .vacant other, place => other = place
  | .found other (.file _ _), place => other = place
  | .found .., _ => False

/-- A path for a file leads to a place where there is a file or nothing. -/
theorem isFree_of_follow
    {disk : Disk}
    {followsLast : Bool}
    {links : Nat}
    {base place : Place}
    {names : List String}
    {destination : Destination}
    (leads : disk.follow followsLast links base names = .ok destination)
    (isFor : destination.IsFor place) :
    disk.IsFree place := by
  fun_induction follow disk followsLast links base names with
  | case1 links base =>
      obtain rfl := Except.ok.inj leads
      exact isFor.elim
  | case5 links base name rest notHere notAbove short inner isVacant isLast =>
      obtain rfl := Except.ok.inj leads
      exact .inl (isFor ▸ isVacant)
  | case8 links base name rest notHere notAbove short inner content modified isFile isLast =>
      obtain rfl := Except.ok.inj leads
      exact .inr ⟨content, modified, isFor ▸ isFile⟩
  | case10 links base name rest notHere notAbove short inner target isLink stops =>
      obtain rfl := Except.ok.inj leads
      exact isFor.elim
  | _ => simp_all

/-- Names that lead to a place for a file lead to the file that is put there. -/
theorem follow_set
    {disk : Disk}
    {followsLast : Bool}
    {links : Nat}
    {base place : Place}
    {names : List String}
    {destination : Destination}
    (leads : disk.follow followsLast links base names = .ok destination)
    (isFor : destination.IsFor place)
    (content : Bytes)
    (modified : Instant) :
    (disk.set place (.file content modified)).follow followsLast links base names =
      .ok (.found place (.file content modified)) := by
  have free := isFree_of_follow leads isFor
  have nonempty : place ≠ [] := by
    rintro rfl
    simp [IsFree, node?] at free
  have isThere := node?_set_self disk nonempty (.file content modified)
  -- Names are followed by way of directories and links, and none of these is at the place.
  have elsewhere : ∀ {inner node}, disk.node? inner = some node →
      (∀ content modified, node ≠ .file content modified) →
      (disk.set place (.file content modified)).node? inner = some node := by
    intro inner node isNode notFile
    rw [node?_set_of_ne disk, isNode]
    rintro rfl
    rcases free with isVacant | ⟨old, oldModified, isFile⟩
    · exact absurd (isNode.symm.trans isVacant) (by simp)
    · exact notFile _ _ (Option.some.inj (isNode.symm.trans isFile))
  fun_induction follow disk followsLast links base names with
  | case1 links base =>
      obtain rfl := Except.ok.inj leads
      exact isFor.elim
  | case2 links base rest inductionHypothesis =>
      rw [follow]
      exact inductionHypothesis leads
  | case3 links base rest inductionHypothesis =>
      rw [follow]
      exact inductionHypothesis leads
  | case5 links base name rest notHere notAbove short inner isVacant isLast =>
      obtain rfl := Except.ok.inj leads
      obtain rfl : inner = place := isFor
      simp [follow, short, isThere, isLast, inner]
  | case7 links base name rest notHere notAbove short inner isDirectory inductionHypothesis =>
      have stays := elsewhere isDirectory (by simp)
      simpa [follow, short, inner, stays] using inductionHypothesis leads
  | case8 links base name rest notHere notAbove short inner old oldModified isFile isLast =>
      obtain rfl := Except.ok.inj leads
      obtain rfl : inner = place := isFor
      simp [follow, short, isThere, isLast, inner]
  | case10 links base name rest notHere notAbove short inner target isLink stops =>
      obtain rfl := Except.ok.inj leads
      exact isFor.elim
  | case13 base name rest notHere notAbove short inner target isLink goesOn links relative
      inductionHypothesis =>
      have stays := elsewhere isLink (by simp)
      simpa [follow, short, inner, stays, goesOn, relative] using inductionHypothesis leads
  | _ => simp_all

/-- A path that leads to a place for a file leads to the file that is put there. -/
theorem destination_set
    {disk : Disk}
    {path : String}
    {place : Place}
    {destination : Destination}
    {followsLast : Bool}
    (leads : disk.destination followsLast path = .ok destination)
    (isFor : destination.IsFor place)
    (content : Bytes)
    (now : Instant) :
    (disk.set place (.file content now)).destination followsLast path =
      .ok (.found place (.file content now)) := by
  have followed := isFollowed_of_destination leads
  rw [destination_of_isFollowed followed] at leads ⊢
  exact follow_set leads isFor content now

/-- Writing to a path fails whatever is written, or puts a file at a place to which the path
leads from then on. -/
theorem write_cases
    (disk : Disk)
    (path : String) :
    (∃ error, ∀ content now, disk.write path content now = .error error) ∨
      ∃ place, ∀ content now,
        disk.write path content now = .ok (disk.set place (.file content now)) ∧
        ∀ more later, (disk.set place (.file content now)).write path more later =
          .ok ((disk.set place (.file content now)).set place (.file more later)) := by
  cases leads : disk.destination true path with
  | error error =>
      exact .inl ⟨error, fun _ _ => by rw [write, leads]⟩
  | ok destination =>
      rcases destination with ⟨place, _ | _ | _⟩ | place
      · refine .inr ⟨place, fun content now => ⟨by rw [write, leads], fun more later => ?_⟩⟩
        rw [write, destination_set leads rfl]
      · exact .inl ⟨.tooManyLinks, fun _ _ => by rw [write, leads]⟩
      · exact .inl ⟨.isDirectory, fun _ _ => by rw [write, leads]⟩
      · refine .inr ⟨place, fun content now => ⟨by rw [write, leads], fun more later => ?_⟩⟩
        rw [write, destination_set leads rfl]

/-! ### Moving -/

/-- Where something is put that is moved to a path. -/
def landing (disk : Disk) (target : String) : Except OsError Place :=
  if endsInDots target then .error .busy
  else
    match disk.destination false (withoutSlashes target) with
    | .error error => .error error
    | .ok (.found _ .directory) => .error .isDirectory
    | .ok (.found place _) | .ok (.vacant place) =>
        if Path.endsWithSlash target then .error .notDirectory else .ok place

theorem rename_eq
    (disk : Disk)
    (source target : String) :
    disk.rename source target =
      match disk.find false source with
      | .error error => .error error
      | .ok (place, node) =>
          (disk.landing target).map fun other => (disk.erase place).set other node := by
  rw [rename, landing]
  rcases disk.find false source with error | ⟨place, node⟩
  · rfl
  · cases endsInDots target with
    | true =>
        rfl
    | false =>
        rcases disk.destination false (withoutSlashes target) with
          error | ⟨other, _ | _ | _⟩ | other
        · rfl
        · cases Path.endsWithSlash target <;> rfl
        · cases Path.endsWithSlash target <;> rfl
        · rfl
        · cases Path.endsWithSlash target <;> rfl

/-- What files contain does not matter to where something is put. -/
theorem landing_blank
    (disk : Disk)
    (target : String) :
    disk.blank.landing target = disk.landing target := by
  rw [landing, landing, destination_blank]
  rcases disk.destination false (withoutSlashes target) with error | ⟨other, _ | _ | _⟩ | other <;>
    rfl

/-! ### Trees that differ at one place -/

/-- Trees that differ at most in what a file contains. -/
structure DifferAt (place : Place) (first second : Disk) : Prop where
  blank : first.blank = second.blank
  erase : first.erase place = second.erase place

/-- Names lead to a directory or to what is there. -/
theorem node?_of_follow
    {disk : Disk}
    {followsLast : Bool}
    {links : Nat}
    {base place : Place}
    {names : List String}
    {node : Node}
    (leads : disk.follow followsLast links base names = .ok (.found place node)) :
    node = .directory ∨ disk.node? place = some node := by
  fun_induction follow disk followsLast links base names with
  | case1 links base =>
      simp_all
  | case8 links base name rest notHere notAbove short inner content modified isFile isLast =>
      simp_all
  | _ => simp_all

namespace DifferAt

variable {place : Place} {first second : Disk}

/-- A path finds the same in both trees, apart from what the file contains. -/
theorem find
    (differ : DifferAt place first second)
    (followsLast : Bool)
    (path : String) :
    (∃ error, first.find followsLast path = .error error ∧
        second.find followsLast path = .error error) ∨
      ∃ other node otherNode, first.find followsLast path = .ok (other, node) ∧
        second.find followsLast path = .ok (other, otherNode) ∧ node.blank = otherNode.blank ∧
        (other ≠ place → node = otherNode) := by
  -- With blank files the trees are the same, so the path leads to the same place in both.
  have alike : (first.find followsLast path).map (fun found => (found.1, found.2.blank)) =
      (second.find followsLast path).map fun found => (found.1, found.2.blank) := by
    rw [← find_blank, ← find_blank, differ.blank]
  cases found : first.find followsLast path with
  | error error =>
      cases foundToo : second.find followsLast path with
      | error other =>
          rw [found, foundToo] at alike
          exact .inl ⟨error, rfl, congrArg Except.error (Except.error.inj alike).symm⟩
      | ok _ =>
          rw [found, foundToo] at alike
          exact absurd alike (by simp [Except.map])
  | ok thing =>
      cases foundToo : second.find followsLast path with
      | error other =>
          rw [found, foundToo] at alike
          exact absurd alike (by simp [Except.map])
      | ok otherThing =>
          obtain ⟨other, node⟩ := thing
          obtain ⟨_, otherNode⟩ := otherThing
          rw [found, foundToo] at alike
          obtain ⟨rfl, sameBlank⟩ := Prod.mk.inj (Except.ok.inj alike)
          refine .inr ⟨other, node, otherNode, rfl, rfl, sameBlank, fun elsewhere => ?_⟩
          have sameNode : first.node? other = second.node? other := by
            rw [← node?_erase_of_ne first elsewhere, differ.erase,
              node?_erase_of_ne second elsewhere]
          rcases node?_of_follow (follow_of_find found) with rfl | isThere
          · exact (directory_of_blank sameBlank).symm
          · rcases node?_of_follow (follow_of_find foundToo) with rfl | isThereToo
            · exact directory_of_blank sameBlank.symm
            · exact Option.some.inj (isThere.symm.trans (sameNode.trans isThereToo))

/-- Trees that differ at a place that is cleared do not differ. -/
theorem erase_eq
    (differ : DifferAt place first second)
    (other : Place) :
    DifferAt place (first.erase other) (second.erase other) where
  blank := by
    rw [blank_erase, blank_erase, differ.blank]
  erase := by
    rw [erase_comm, erase_comm second, differ.erase]

/-- Trees that differ at a place differ there if the same is put at another one. -/
theorem set_eq
    (differ : DifferAt place first second)
    (other : Place)
    (node : Node) :
    DifferAt place (first.set other node) (second.set other node) where
  blank := by
    rw [blank_set, blank_set, differ.blank]
  erase := by
    by_cases isPlace : other = place
    · rw [isPlace, erase_set_self, erase_set_self, differ.erase]
    · rw [erase_set_of_ne first isPlace, erase_set_of_ne second isPlace, differ.erase]

/-- A file or another in one tree makes two that differ where it is. -/
theorem of_set
    (disk : Disk)
    (place : Place)
    {node otherNode : Node}
    (sameBlank : node.blank = otherNode.blank) :
    DifferAt place (disk.set place node) (disk.set place otherNode) where
  blank := by
    rw [blank_set, blank_set, sameBlank]
  erase := by
    rw [erase_set_self, erase_set_self]

/-- What is below a place is the same in both trees if the file is not there. -/
theorem sub_eq
    (differ : DifferAt place first second)
    {outer : Place}
    (elsewhere : relative? outer place = none) :
    first.sub outer = second.sub outer := by
  have spared : ∀ disk : Disk, (disk.erase place).sub outer = disk.sub outer := by
    intro disk
    apply eq_of_entries_eq
    rw [entries_sub, entries_sub]
    simp only [Disk.erase]
    rw [List.filterMap_filter]
    congr 1
    funext entry
    by_cases isPlace : entry.1 = place
    · simp [isPlace, elsewhere]
    · simp [isPlace]
  rw [← spared first, differ.erase, spared]

theorem removeFile
    (differ : DifferAt place first second)
    (path : String) :
    DifferAt place ((first.removeFile path).toOption.getD first)
      ((second.removeFile path).toOption.getD second) := by
  rcases differ.find false path with
    ⟨error, found, foundToo⟩ | ⟨other, node, otherNode, found, foundToo, sameBlank, _⟩
  · rw [Disk.removeFile, Disk.removeFile, found, foundToo]
    exact differ
  · rw [Disk.removeFile, Disk.removeFile, found, foundToo]
    cases node with
    | directory =>
        obtain rfl := directory_of_blank sameBlank
        exact differ
    | file _ _ | link _ =>
        cases otherNode with
        | directory =>
            exact absurd (directory_of_blank sameBlank.symm) (by simp)
        | file _ _ | link _ =>
            exact differ.erase_eq other

theorem rename
    (differ : DifferAt place first second)
    (source target : String) :
    (∃ error, first.rename source target = .error error ∧
        second.rename source target = .error error) ∨
      ∃ other changed changedToo, first.rename source target = .ok changed ∧
        second.rename source target = .ok changedToo ∧ DifferAt other changed changedToo := by
  have moves : ∀ {here node otherNode} (there : Place), node.blank = otherNode.blank →
      (here ≠ place → node = otherNode) →
      ∃ other, DifferAt other ((first.erase here).set there node)
        ((second.erase here).set there otherNode) := by
    intro here node otherNode there sameBlank sameNode
    by_cases isPlace : here = place
    · rw [isPlace, differ.erase]
      exact ⟨there, .of_set _ there sameBlank⟩
    · rw [sameNode isPlace]
      exact ⟨place, (differ.erase_eq here).set_eq there otherNode⟩
  have lands : first.landing target = second.landing target := by
    rw [← landing_blank, differ.blank, landing_blank]
  rw [rename_eq, rename_eq, ← lands]
  rcases differ.find false source with
    ⟨error, found, foundToo⟩ | ⟨here, node, otherNode, found, foundToo, sameBlank, sameNode⟩
  · rw [found, foundToo]
    exact .inl ⟨error, rfl, rfl⟩
  · rw [found, foundToo]
    cases first.landing target with
    | error error =>
        exact .inl ⟨error, rfl, rfl⟩
    | ok there =>
        obtain ⟨other, differs⟩ := moves there sameBlank sameNode
        exact .inr ⟨other, _, _, rfl, rfl, differs⟩

end DifferAt

/-! ### Replacing a file -/

namespace Replacement

variable {disk : Disk} (replacement : Replacement)

/-- The new file is removed unless it is to be kept. -/
theorem cleanUp_eq
    (removes : replacement.trouble.keepsTemporary = false)
    (disk : Disk) :
    replacement.cleanUp disk = (disk.removeFile replacement.temporary).toOption.getD disk := by
  simp [cleanUp, removes]

/-- A replacement whose new file cannot be written fails for that reason. -/
theorem run_of_unwritable
    {error : OsError}
    (noFault : replacement.trouble.fault? = none)
    (cannot : ∀ content now, disk.write replacement.temporary content now = .error error) :
    replacement.run disk = (.error error, replacement.cleanUp disk) := by
  simp [run, ReplaceStep.all, take, noFault, perform, cannot]

/-- The tree once the new file is written at a place. -/
def filled (disk : Disk) (place : Place) : Disk :=
  (disk.set place (.file [] replacement.now)).set place
    (.file replacement.content replacement.now)

/-- A replacement whose new file is written moves it to the path. -/
theorem run_of_writes
    {place : Place}
    (noFault : replacement.trouble.fault? = none)
    (creates : disk.write replacement.temporary [] replacement.now =
      .ok (disk.set place (.file [] replacement.now)))
    (fills : (disk.set place (.file [] replacement.now)).write replacement.temporary
      replacement.content replacement.now = .ok (replacement.filled disk place)) :
    replacement.run disk =
      match (replacement.filled disk place).rename replacement.temporary replacement.path with
      | .error error => (.error error, replacement.cleanUp (replacement.filled disk place))
      | .ok changed => (.ok (), changed) := by
  simp only [run, ReplaceStep.all, take, noFault, Option.filter_none, perform, creates, fills]
  cases (replacement.filled disk place).rename replacement.temporary replacement.path <;> rfl

/-- Replacements at one place leave trees that differ there at most. -/
theorem filled_differAt
    (first second : Replacement)
    (disk : Disk)
    (place : Place) :
    DifferAt place (first.filled disk place) (second.filled disk place) where
  blank := by
    simp only [filled, blank_set]
    rfl
  erase := by
    simp only [filled, erase_set_self]

end Replacement

/-- Two contents for one file are put in its place or not alike, and what they leave differs in
one file at most. -/
theorem replace_differAt
    (disk : Disk)
    (path : String)
    (content other : Bytes)
    (tag : String)
    (now later : Instant) :
    (disk.replace path content tag now).1 = (disk.replace path other tag later).1 ∧
      ∃ place, DifferAt place (disk.replace path content tag now).2
        (disk.replace path other tag later).2 := by
  let first : Replacement := { path, content, tag, now }
  let second : Replacement := { path, content := other, tag, now := later }
  have sameTemporary : second.temporary = first.temporary := rfl
  have cleans : ∀ {place tree otherTree}, DifferAt place tree otherTree →
      DifferAt place (first.cleanUp tree) (second.cleanUp otherTree) := by
    intro place tree otherTree differ
    rw [first.cleanUp_eq rfl, second.cleanUp_eq rfl, sameTemporary]
    exact differ.removeFile first.temporary
  show (first.run disk).1 = (second.run disk).1 ∧
    ∃ place, DifferAt place (first.run disk).2 (second.run disk).2
  rcases disk.write_cases first.temporary with ⟨error, cannot⟩ | ⟨place, writes⟩
  · rw [first.run_of_unwritable rfl cannot, second.run_of_unwritable rfl cannot]
    dsimp only
    exact ⟨rfl, [], cleans ⟨rfl, rfl⟩⟩
  · have differ := Replacement.filled_differAt first second disk place
    have goesOn := first.run_of_writes rfl (writes [] now).1 ((writes [] now).2 content now)
    have goesOnToo := second.run_of_writes rfl (writes [] later).1 ((writes [] later).2 other later)
    rw [goesOn, goesOnToo, sameTemporary]
    rcases differ.rename first.temporary path with
      ⟨error, moves, movesToo⟩ | ⟨place, changed, changedToo, moves, movesToo, differs⟩
    · rw [moves, movesToo]
      dsimp only
      exact ⟨rfl, place, cleans differ⟩
    · rw [moves, movesToo]
      exact ⟨rfl, place, differs⟩

end Disk

open Disk Time

/-- Two reports on failures for one path are written or not alike, and what they leave differs
in one file at most. -/
theorem Failures.saveReport_differAt
    (disk : Disk)
    (path : String)
    (report other : Json)
    (tag : String)
    (now later : Instant) :
    (saveReport disk path report tag now).1 = (saveReport disk path other tag later).1 ∧
      ∃ place, DifferAt place (saveReport disk path report tag now).2
        (saveReport disk path other tag later).2 := by
  unfold saveReport
  rcases disk.createDirectories ((Path.parent? path).getD "") with ⟨error | _, made⟩
  · exact ⟨rfl, [], rfl, rfl⟩
  · exact replace_differAt made path _ _ tag now later

end SourceFacts
