import SourceFacts.Proofs.Cache.Contents
import SourceFacts.Proofs.Cache.Listing
import SourceFacts.Proofs.Disk.Children

namespace SourceFacts.Cache

/-!
# Removing stale files

A stale content is as good as none, now and later. The unwanted files of some paths, such as the
stale ones, are removed one after the other: each step leaves what other paths read, or they read
an unwanted content or failed.
-/

open Disk Text Time

/-! ## Stale contents -/

section Staleness

variable {store : Store} {disk after : Disk} {content : Bytes} {now later : Instant} {key : Key}

/-- What was over at a moment is over at every later one. -/
theorem before_of_not_before
    {moment : Instant}
    (isOver : moment.before now = true)
    (isLater : later.before now = false) :
    moment.before later = true := by
  simp only [Instant.before, Bool.or_eq_true, Bool.and_eq_true, decide_eq_true_eq,
    Bool.or_eq_false_iff, Bool.and_eq_false_iff, decide_eq_false_iff_not] at *
  omega

/-- A stale content is as good as none, whatever key is looked up and however late. -/
theorem Store.entry?_inspect_of_isStale
    (isStale : store.isStale now content = true)
    (isLater : later.before now = false)
    (key : Key) :
    Lookup.entry? (store.inspect key later content) = none := by
  rw [Store.inspect]
  rw [Store.isStale] at isStale
  cases decoded : decodeEntry? content with
  | none =>
      rfl
  | some entry =>
      rw [decoded] at isStale
      dsimp only at isStale ⊢
      split
      · rfl
      · rename_i matching
        have sameSchema : entry.schemaVersion = store.schemaVersion := by
          simp only [ne_eq, Bool.or_eq_true, decide_eq_true_eq, not_or, Decidable.not_not]
            at matching
          exact matching.2
        have isOver : entry.isExpiredAt now = true := by
          simpa [sameSchema] using isStale
        have stillOver : entry.isExpiredAt later = true := before_of_not_before isOver isLater
        rw [if_pos stillOver]
        rfl

/-- What is read once unwanted contents are removed: what was read before, or nothing where there
was an unwanted content or a failure. -/
def ReadsWanted (isUnwanted : Bytes → Bool) (disk after : Disk) (path : String) : Prop :=
  after.read path = disk.read path ∨
    (after.read path = .error .noSuchFile ∧
      ((∃ content, disk.read path = .ok content ∧ isUnwanted content = true) ∨
        ∃ error, disk.read path = .error error))

theorem ReadsWanted.trans
    {isUnwanted : Bytes → Bool}
    {middle : Disk}
    {path : String}
    (first : ReadsWanted isUnwanted disk middle path)
    (second : ReadsWanted isUnwanted middle after path) :
    ReadsWanted isUnwanted disk after path := by
  rcases first with same | ⟨nothing, before⟩
  · rw [ReadsWanted, same] at second
    exact second
  · rcases second with same | ⟨nothingThen, _⟩
    · exact .inr ⟨same.trans nothing, before⟩
    · exact .inr ⟨nothingThen, before⟩

/-- A look-up after a purge comes to the same as before, or it failed before. -/
theorem ReadsWanted.get_cases
    (readsFresh : ReadsWanted (store.isStale now) disk after (store.entryPath key))
    (isLater : later.before now = false) :
    (store.get after key later).1 = (store.get disk key later).1 ∨
      ((∃ error, disk.read (store.entryPath key) = .error error) ∧
        (store.get after key later).1 = .ok none) := by
  rcases readsFresh with same | ⟨nothing, ⟨content, reads, isStale⟩ | fails⟩
  · refine .inl ?_
    unfold Store.get Store.lookup
    rw [same]
  · have notFound := Store.entry?_inspect_of_isStale isStale isLater key
    refine .inl ?_
    unfold Store.get Store.lookup
    rw [reads, nothing]
    exact congrArg Except.ok notFound.symm
  · refine .inr ⟨fails, ?_⟩
    unfold Store.get Store.lookup
    rw [nothing]
    rfl

end Staleness

/-! ## Removing files -/

section Removing

variable {isUnwanted : Bytes → Bool} {disk after : Disk} {path : String} {paths : List String}
  {place : Place} {removed : List Place}

/-- A tree without what is at some places. -/
def eraseAll (disk : Disk) (places : List Place) : Disk :=
  { entries := disk.entries.filter (·.1 ∉ places) }

theorem eraseAll_nil (disk : Disk) : eraseAll disk [] = disk := by
  apply eq_of_entries_eq
  simp [eraseAll]

theorem eraseAll_cons
    (disk : Disk)
    (place : Place)
    (places : List Place) :
    eraseAll disk (place :: places) = eraseAll (disk.erase place) places := by
  apply eq_of_entries_eq
  simp only [eraseAll, erase, List.filter_filter]
  congr 1
  funext entry
  simp [Bool.and_comm]

theorem node?_eraseAll_of_not_mem
    (disk : Disk)
    {place : Place}
    {places : List Place}
    (spared : place ∉ places) :
    (eraseAll disk places).node? place = disk.node? place := by
  induction places generalizing disk with
  | nil =>
      rw [eraseAll_nil]
  | cons first rest inductionHypothesis =>
      rw [List.mem_cons, not_or] at spared
      rw [eraseAll_cons, inductionHypothesis _ spared.2, node?_erase_of_ne disk spared.1]

/-- What is removed when the files of some paths with an unwanted content are removed. -/
structure Removes
    (isUnwanted : Bytes → Bool)
    (disk : Disk)
    (paths : List String)
    (removed : List Place)
    (after : Disk) : Prop where
  distinct : removed.Nodup
  rest : after = eraseAll disk removed
  /-- What is removed is what one of the paths names, which leads to an unwanted file. -/
  unwanted : ∀ place ∈ removed, ∃ path ∈ paths, ∃ content,
    IsRemovable disk path place content ∧ isUnwanted content = true
  /-- An unwanted file that one of the paths names is removed. -/
  files : ∀ path ∈ paths, ∀ place content modified,
    disk.find false path = .ok (place, .file content modified) →
      isUnwanted content = true → place ∈ removed
  /-- What one of the paths names is removed, or it leads nowhere any more. -/
  links : ∀ path ∈ paths, ∀ place content,
    IsRemovable disk path place content → isUnwanted content = true →
      place ∈ removed ∨ after.read path = .error .noSuchFile
  reads : ∀ path, ReadsWanted isUnwanted disk after path
  directories : ∀ path outer, disk.find true path = .ok (outer, .directory) →
    after.find true path = .ok (outer, .directory)
  reaches : ∀ path outer, disk.Reaches path outer → after.Reaches path outer

theorem read_of_find_file
    {content : Bytes}
    {modified : Instant}
    (named : disk.find false path = .ok (place, .file content modified)) :
    disk.read path = .ok content := by
  have leads := follow_of_find named
  rcases disk.follow_true_cases maxLinks [] (steps path) with same | ⟨_, _, isLink⟩
  · rw [leads] at same
    rw [Disk.read, find_of_follow (isFollowed_of_find named) same]
  · rw [leads] at isLink
    simp at isLink

/-- What is read can be removed. -/
theorem exists_isRemovable
    {content : Bytes}
    (reads : disk.read path = .ok content) :
    ∃ place, IsRemovable disk path place content := by
  obtain ⟨target, _, modified, found⟩ := exists_read_iff.mp ⟨content, reads⟩
  have leads := follow_of_find found
  have followed := isFollowed_of_find found
  rcases disk.follow_true_cases maxLinks [] (steps path) with same | ⟨place, link, isLink⟩
  · rw [leads] at same
    exact ⟨target, ⟨_, find_of_follow followed same.symm⟩, reads⟩
  · exact ⟨place, ⟨_, find_of_follow followed isLink⟩, reads⟩

namespace Removes

theorem nil (isUnwanted : Bytes → Bool) (disk : Disk) : Removes isUnwanted disk [] [] disk where
  distinct := List.nodup_nil
  rest := (eraseAll_nil disk).symm
  unwanted := by simp
  files := by simp
  links := by simp
  reads := fun _ => .inl rfl
  directories := fun _ _ found => found
  reaches := fun _ _ reaches => reaches

/-- A path that does not lead to an unwanted file is passed over. -/
theorem skip
    (removes : Removes isUnwanted disk paths removed after)
    (keeps : ∀ content, disk.read path = .ok content → isUnwanted content = false) :
    Removes isUnwanted disk (path :: paths) removed after where
  distinct := removes.distinct
  rest := removes.rest
  unwanted := by
    intro place member
    obtain ⟨other, isOther, found⟩ := removes.unwanted place member
    exact ⟨other, List.mem_cons_of_mem _ isOther, found⟩
  files := by
    intro other member place content modified named unwantedContent
    rcases List.mem_cons.mp member with rfl | member
    · exact absurd unwantedContent (by simp [keeps content (read_of_find_file named)])
    · exact removes.files other member place content modified named unwantedContent
  links := by
    intro other member place content removable unwantedContent
    rcases List.mem_cons.mp member with rfl | member
    · exact absurd unwantedContent (by simp [keeps content removable.reads])
    · exact removes.links other member place content removable unwantedContent
  reads := removes.reads
  directories := removes.directories
  reaches := removes.reaches

/-- What a path names that leads to an unwanted file is removed first. -/
theorem remove
    {content : Bytes}
    (removable : IsRemovable disk path place content)
    (unwantedContent : isUnwanted content = true)
    (removes : Removes isUnwanted (disk.erase place) paths removed after) :
    Removes isUnwanted disk (path :: paths) (place :: removed) after where
  distinct := by
    refine List.nodup_cons.mpr ⟨fun again => ?_, removes.distinct⟩
    obtain ⟨_, _, _, removableAgain, _⟩ := removes.unwanted place again
    obtain ⟨_, isThere, _⟩ := removableAgain.exists_node
    rw [node?_erase_self disk removable.nonempty] at isThere
    simp at isThere
  rest := by
    rw [eraseAll_cons, removes.rest]
  unwanted := by
    intro other member
    rcases List.mem_cons.mp member with rfl | member
    · exact ⟨path, List.mem_cons_self, content, removable, unwantedContent⟩
    · obtain ⟨otherPath, isOther, found, ⟨⟨node, named⟩, reads⟩, unwantedContent⟩ :=
        removes.unwanted other member
      refine ⟨otherPath, List.mem_cons_of_mem _ isOther, found, ⟨⟨node, ?_⟩, ?_⟩,
        unwantedContent⟩
      · exact removable.find_of_erase named
      · obtain ⟨target, _, modified, isFound⟩ := exists_read_iff.mp ⟨found, reads⟩
        rw [Disk.read, isFound] at reads
        rw [Disk.read, removable.find_of_erase isFound]
        exact reads
  files := by
    intro other member target found modified named unwantedContent
    rcases List.mem_cons.mp member with rfl | member
    · obtain ⟨node, sameNamed⟩ := removable.named
      rw [named] at sameNamed
      obtain ⟨rfl, _⟩ := Prod.mk.inj (Except.ok.inj sameNamed)
      exact List.mem_cons_self
    · rcases removable.find_erase named with rfl | stillNamed
      · exact List.mem_cons_self
      · exact List.mem_cons_of_mem _
          (removes.files other member target found modified stillNamed unwantedContent)
  links := by
    intro other member target found otherRemovable unwantedContent
    rcases List.mem_cons.mp member with rfl | member
    · obtain ⟨node, named⟩ := removable.named
      obtain ⟨otherNode, otherNamed⟩ := otherRemovable.named
      rw [named] at otherNamed
      obtain ⟨rfl, _⟩ := Prod.mk.inj (Except.ok.inj otherNamed)
      exact .inl List.mem_cons_self
    · obtain ⟨node, named⟩ := otherRemovable.named
      rcases removable.find_erase named with rfl | stillNamed
      · exact .inl List.mem_cons_self
      · rcases removable.read_erase other with same | ⟨nothing, _⟩
        · rw [otherRemovable.reads] at same
          exact (removes.links other member target found ⟨⟨node, stillNamed⟩, same⟩
            unwantedContent).imp_left (List.mem_cons_of_mem _)
        · rcases removes.reads other with same | ⟨nothingThen, _⟩
          · exact .inr (same.trans nothing)
          · exact .inr nothingThen
  reads := by
    intro other
    refine ReadsWanted.trans ?_ (removes.reads other)
    rcases removable.read_erase other with same | ⟨nothing, reads | fails⟩
    · exact .inl same
    · exact .inr ⟨nothing, .inl ⟨content, reads, unwantedContent⟩⟩
    · exact .inr ⟨nothing, .inr fails⟩
  directories := by
    intro other outer found
    exact removes.directories other outer (removable.find_directory_erase found)
  reaches := by
    intro other outer reaches
    exact removes.reaches other outer (removable.reaches_erase reaches)

end Removes

/-- Removing the stale files of some paths removes what they name, and counts it. -/
theorem Store.purgeFiles_removesStale
    {store : Store}
    {now : Instant}
    {count total : Nat}
    (purges : store.purgeFiles now count disk paths = (.ok total, after)) :
    ∃ removed, total = count + removed.length ∧
      Removes (store.isStale now) disk paths removed after := by
  induction paths generalizing disk count with
  | nil =>
      rw [Store.purgeFiles] at purges
      obtain ⟨sameTotal, rfl⟩ := Prod.mk.inj purges
      exact ⟨[], (Except.ok.inj sameTotal).symm, .nil (store.isStale now) disk⟩
  | cons path rest inductionHypothesis =>
      rw [Store.purgeFiles] at purges
      cases reads : disk.read path with
      | error error =>
          rw [reads] at purges
          cases error with
          | noSuchFile =>
              obtain ⟨removed, counted, removes⟩ := inductionHypothesis purges
              exact ⟨removed, counted, removes.skip fun content found => by simp [reads] at found⟩
          | _ =>
              simp at purges
      | ok content =>
          rw [reads] at purges
          dsimp only at purges
          cases isStale : store.isStale now content with
          | false =>
              rw [isStale, if_neg Bool.false_ne_true] at purges
              obtain ⟨removed, counted, removes⟩ := inductionHypothesis purges
              refine ⟨removed, counted, removes.skip fun other found => ?_⟩
              rw [reads] at found
              exact Except.ok.inj found ▸ isStale
          | true =>
              obtain ⟨place, removable⟩ := exists_isRemovable reads
              rw [isStale, if_pos rfl, removable.removeFile_eq] at purges
              obtain ⟨removed, counted, removes⟩ := inductionHypothesis purges
              refine ⟨place :: removed, ?_, .remove removable isStale removes⟩
              rw [counted, List.length_cons]
              omega

end Removing

end SourceFacts.Cache
