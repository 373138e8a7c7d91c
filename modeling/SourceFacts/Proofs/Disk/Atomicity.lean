import SourceFacts.Proofs.Disk.Differences
import SourceFacts.Proofs.Disk.Endings

namespace SourceFacts.Disk

/-!
# Replacements happen at once

Whatever the tree is like, whichever step fails and wherever a replacement is stopped: what the
path names is as it was or has exactly the new content, and nothing else differs apart from the
new file beside it. The name of the new file has to be new: nothing is found there before.
-/

open Text Time

/-! ## The new file -/

namespace Replacement

variable {replacement : Replacement} {disk tree : Disk} {place : Place}

/-- The name of the new file is one that nothing has. -/
structure IsNew (replacement : Replacement) (disk : Disk) : Prop where
  noSlash : '/' ∉ replacement.tag.toList
  absent : ∀ found, disk.find false replacement.temporary ≠ .ok found

/-- The last name of the new file's path. -/
def newName (replacement : Replacement) : String :=
  temporaryName ((Path.fileName? replacement.path).getD unnamed) replacement.tag

theorem noSlash_newName
    (noSlash : '/' ∉ replacement.tag.toList) :
    '/' ∉ replacement.newName.toList := by
  have noSlashInName : '/' ∉ ((Path.fileName? replacement.path).getD unnamed).toList := by
    cases isLast : Path.fileName? replacement.path with
    | none =>
        decide
    | some name =>
        exact Path.noSlash_of_fileName? isLast
  have dot : ".".toList = ['.'] := rfl
  have ending : ".tmp".toList = ['.', 't', 'm', 'p'] := rfl
  simp [newName, temporaryName, dot, ending, noSlash, noSlashInName]

/-- The path of the new file ends in its name. -/
theorem getLast?_steps_temporary
    (noSlash : '/' ∉ replacement.tag.toList) :
    (steps replacement.temporary).getLast? = some replacement.newName := by
  have nonempty : replacement.newName ≠ "" := by
    intro isEmpty
    have chars := congrArg String.toList isEmpty
    simp [newName, temporaryName] at chars
  have noSlashes := noSlash_newName noSlash
  show (steps (Path.sibling replacement.path replacement.newName)).getLast? = _
  rw [Path.sibling]
  split
  · exact Path.getLast?_steps_child noSlashes nonempty
  · exact Path.getLast?_steps_child noSlashes nonempty

/-- The path does not end in the name of the new file. -/
theorem fileName?_ne_newName : Path.fileName? replacement.path ≠ some replacement.newName := by
  intro same
  have isItself : replacement.newName =
      temporaryName ((Path.fileName? replacement.path).getD unnamed) replacement.tag := rfl
  rw [same, Option.getD_some] at isItself
  exact temporaryName_ne _ _ isItself.symm

/-- The path of the new file leads to a place where nothing is, or nowhere. -/
theorem IsNew.destination_cases
    (isNew : replacement.IsNew disk) :
    (∃ error, ∀ followsLast,
        disk.destination followsLast replacement.temporary = .error error) ∨
      ∃ place, ∀ followsLast,
        disk.destination followsLast replacement.temporary = .ok (.vacant place) := by
  have sameForLast : disk.destination true replacement.temporary =
      disk.destination false replacement.temporary := by
    rcases isFollowed_or replacement.temporary with followed | ⟨error, fails⟩
    · rw [destination_of_isFollowed followed, destination_of_isFollowed followed]
      rcases disk.follow_true_cases maxLinks [] (steps replacement.temporary) with
        same | ⟨place, target, isLink⟩
      · exact same
      · exact absurd (find_of_follow followed isLink) (isNew.absent (place, .link target))
    · rw [fails, fails]
  cases leads : disk.destination false replacement.temporary with
  | error error =>
      refine .inl ⟨error, fun followsLast => ?_⟩
      cases followsLast
      · exact leads
      · rw [sameForLast, leads]
  | ok destination =>
      rcases destination with ⟨place, node⟩ | place
      · exact absurd (by rw [find, leads]) (isNew.absent (place, node))
      · refine .inr ⟨place, fun followsLast => ?_⟩
        cases followsLast
        · exact leads
        · rw [sameForLast, leads]

end Replacement

/-! ## The place of the path -/

/-- What is moved to a path is put at a place with the last name of the path. -/
theorem getLast?_of_landing
    {disk : Disk}
    {path : String}
    {place : Place}
    (lands : disk.landing path = .ok place) :
    (∃ name, place.getLast? = some name ∧ Path.fileName? path = some name) ∧
      ∃ destination, disk.destination false path = .ok destination ∧
        destination.place = place ∧ ∀ other, destination ≠ .found other .directory := by
  rw [landing] at lands
  split at lands
  · simp at lands
  · cases isOpen : Path.endsWithSlash path with
    | true =>
        rw [isOpen] at lands
        split at lands <;> simp at lands
    | false =>
        rw [isOpen, Path.withoutSlashes_of_open isOpen] at lands
        have leadsThere : ∃ destination, disk.destination false path = .ok destination ∧
            destination.place = place ∧ ∀ other, destination ≠ .found other .directory := by
          split at lands
          · simp at lands
          · simp at lands
          · rename_i other node notDirectory leads
            refine ⟨.found other node, leads, by simpa [Destination.place] using lands, ?_⟩
            rintro _ isDirectory
            exact notDirectory (Destination.found.inj isDirectory).2
          · rename_i other leads
            exact ⟨.vacant other, leads, by simpa [Destination.place] using lands, by simp⟩
        refine ⟨?_, leadsThere⟩
        obtain ⟨destination, leads, rfl, notDirectory⟩ := leadsThere
        rw [destination_of_isFollowed (isFollowed_of_destination leads)] at leads
        obtain ⟨name, isStep, last, same⟩ := getLast?_of_follow leads notDirectory
        exact ⟨name, same, Path.fileName?_of_steps last isStep.notHere isStep.notAbove⟩

/-- A path leads to the same in a tree that lacks a file, or it comes to the file. -/
theorem Lacks.destination_file
    {place : Place}
    {smaller larger : Disk}
    {content : Bytes}
    {modified : Instant}
    (lacks : Lacks place smaller larger)
    (isFile : larger.node? place = some (.file content modified))
    (followsLast : Bool)
    (path : String) :
    larger.destination followsLast path = smaller.destination followsLast path ∨
      (smaller.destination followsLast path = .ok (.vacant place) ∧
        larger.destination followsLast path = .ok (.found place (.file content modified))) ∨
      (smaller.destination followsLast path = .error .noSuchFile ∧
        larger.destination followsLast path = .error .notDirectory) := by
  rcases isFollowed_or path with followed | ⟨error, fails⟩
  · simp only [destination_of_isFollowed followed]
    exact lacks.follow_file isFile followsLast maxLinks [] (steps path)
  · exact .inl (by rw [fails, fails])

/-- A file that is added to a tree does not change where something is put. -/
theorem Lacks.landing_file
    {place : Place}
    {smaller larger : Disk}
    {content : Bytes}
    {modified : Instant}
    (lacks : Lacks place smaller larger)
    (isFile : larger.node? place = some (.file content modified))
    (path : String) :
    (larger.landing path).toOption = (smaller.landing path).toOption := by
  rw [landing, landing]
  split
  · rfl
  · rcases lacks.destination_file isFile false (withoutSlashes path) with
      same | ⟨absent, isThere⟩ | ⟨fails, failsToo⟩
    · rw [same]
    · rw [absent, isThere]
    · rw [fails, failsToo]
      rfl

/-! ## Steps -/

namespace Replacement

variable {replacement : Replacement} {disk tree next : Disk} {place : Place}
  {step : ReplaceStep} {rest steps : List ReplaceStep}

/-- The tree at a moment of the steps that are still to be taken. A replacement can be stopped at
each of these moments, and each failure leaves the tree of one of them. -/
inductive Passes (replacement : Replacement) : List ReplaceStep → Disk → Disk → Prop where
  | before (steps : List ReplaceStep) (disk : Disk) : Passes replacement steps disk disk
  /-- A part of the content is written. -/
  | amid {rest : List ReplaceStep} {disk tree : Disk} {bytes : Bytes}
      (isPart : bytes <+: replacement.content)
      (writes : disk.write replacement.temporary bytes replacement.now = .ok tree) :
      Passes replacement (.fill :: rest) disk tree
  | later {step : ReplaceStep} {rest : List ReplaceStep} {disk next tree : Disk}
      (performs : replacement.perform disk step = .ok next)
      (passes : Passes replacement rest next tree) :
      Passes replacement (step :: rest) disk tree

/-- What a failing step leaves is a tree of a moment before its end. -/
theorem passes_spoil
    (replacement : Replacement)
    (disk : Disk)
    (fault : ReplaceFault)
    (rest : List ReplaceStep) :
    replacement.Passes (fault.step :: rest) disk (replacement.spoil disk fault) := by
  rw [spoil]
  cases fault.step with
  | fill =>
      dsimp only
      cases writes : disk.write replacement.temporary (replacement.content.take fault.written)
          replacement.now with
      | error error =>
          exact .before _ disk
      | ok tree =>
          exact .amid (List.take_prefix fault.written replacement.content) writes
  | create | sync | move =>
      exact .before _ disk

/-- The tree after steps are taken is that of a moment. -/
theorem passes_take
    (replacement : Replacement)
    (steps : List ReplaceStep)
    (disk : Disk) :
    replacement.Passes steps disk (replacement.take steps disk).2 := by
  induction steps generalizing disk with
  | nil =>
      exact .before [] disk
  | cons step rest inductionHypothesis =>
      rw [take]
      cases isFault : replacement.trouble.fault?.filter (·.step = step) with
      | some fault =>
          obtain rfl : fault.step = step := by
            simpa using (Option.filter_eq_some_iff.mp isFault).2
          exact passes_spoil replacement disk fault rest
      | none =>
          dsimp only
          cases performs : replacement.perform disk step with
          | error error =>
              exact .before _ disk
          | ok next =>
              exact .later performs (inductionHypothesis next)

/-- How far a replacement has come whose new file has a place: the steps that are still to be
taken, and the tree. -/
inductive Stage (replacement : Replacement) (disk : Disk) (place : Place) :
    List ReplaceStep → Disk → Prop where
  | started : Stage replacement disk place ReplaceStep.all disk
  | created : Stage replacement disk place [.fill, .sync, .move]
      (disk.set place (.file [] replacement.now))
  | filled : Stage replacement disk place [.sync, .move]
      (disk.set place (.file replacement.content replacement.now))
  | synced : Stage replacement disk place [.move]
      (disk.set place (.file replacement.content replacement.now))
  | moved {target : Place} (lands : disk.landing replacement.path = .ok target) :
      Stage replacement disk place [] (disk.set target (.file replacement.content replacement.now))

/-- At most the new file is added to a tree, with a part of the content. -/
inductive Added (replacement : Replacement) (disk : Disk) (place : Place) : Disk → Prop where
  | nothing : Added replacement disk place disk
  | part {bytes : Bytes} (isPart : bytes <+: replacement.content) :
      Added replacement disk place (disk.set place (.file bytes replacement.now))

/-- Only what the path names has changed: it has exactly the new content. -/
def IsReplaced (replacement : Replacement) (disk tree : Disk) : Prop :=
  ∃ place, disk.landing replacement.path = .ok place ∧
    tree = disk.set place (.file replacement.content replacement.now)

/-- Before its last step a replacement has at most added the new file. -/
theorem Stage.added
    (stage : Stage replacement disk place (step :: rest) tree) :
    Added replacement disk place tree := by
  cases stage with
  | started =>
      exact .nothing
  | created =>
      exact .part List.nil_prefix
  | filled | synced =>
      exact .part List.prefix_rfl

section Steps

variable (leads : ∀ followsLast,
  disk.destination followsLast replacement.temporary = .ok (.vacant place))

include leads

theorem absent_of_leads : disk.node? place = none := by
  have leads := leads false
  rw [destination_of_isFollowed (isFollowed_of_destination leads)] at leads
  exact absent_of_follow leads

/-- The path of the new file leads to the new file once it is there. -/
theorem destination_added
    (bytes : Bytes)
    (followsLast : Bool) :
    (disk.set place (.file bytes replacement.now)).destination followsLast replacement.temporary =
      .ok (.found place (.file bytes replacement.now)) := by
  have leads := leads followsLast
  have followed := isFollowed_of_destination leads
  rw [destination_of_isFollowed followed] at leads ⊢
  exact follow_set leads rfl bytes replacement.now

/-- Writing to the new file gives it another content. -/
theorem write_added
    (bytes more : Bytes) :
    (disk.set place (.file bytes replacement.now)).write replacement.temporary more
        replacement.now =
      .ok (disk.set place (.file more replacement.now)) := by
  rw [write, destination_added leads bytes true]
  dsimp only
  rw [set_set]

/-- The new file is not at the place of the path. -/
theorem landing_ne_of_leads
    (noSlash : '/' ∉ replacement.tag.toList) :
    disk.landing replacement.path ≠ .ok place := by
  intro lands
  have leads := leads false
  rw [destination_of_isFollowed (isFollowed_of_destination leads)] at leads
  obtain ⟨name, -, last, same⟩ := getLast?_of_follow leads (by simp)
  rw [getLast?_steps_temporary noSlash] at last
  obtain ⟨⟨other, isLast, isFileName⟩, -⟩ := getLast?_of_landing lands
  rw [show place.getLast? = some name from same, ← last] at isLast
  exact fileName?_ne_newName (isFileName.trans isLast.symm)

/-- A step that succeeds leads to the next stage. -/
theorem Stage.advances
    (stage : Stage replacement disk place (step :: rest) tree)
    (performs : replacement.perform tree step = .ok next) :
    Stage replacement disk place rest next := by
  have absent := absent_of_leads leads
  cases stage with
  | started =>
      rw [perform, write, leads true] at performs
      obtain rfl := Except.ok.inj performs
      exact .created
  | created =>
      rw [perform, write_added leads] at performs
      obtain rfl := Except.ok.inj performs
      exact .filled
  | filled =>
      rw [perform] at performs
      obtain rfl := Except.ok.inj performs
      exact .synced
  | synced =>
      have found : (disk.set place (.file replacement.content replacement.now)).find false
          replacement.temporary = .ok (place, .file replacement.content replacement.now) := by
        rw [find, destination_added leads replacement.content false]
      have lacks := lacks_set absent (.file replacement.content replacement.now)
      have isFile := node?_set_self disk lacks.nonempty (.file replacement.content replacement.now)
      have sameLanding := lacks.landing_file isFile replacement.path
      rw [perform, rename_eq, found] at performs
      dsimp only at performs
      rw [erase_set_self, erase_of_absent absent] at performs
      cases landsThere : (disk.set place
          (.file replacement.content replacement.now)).landing replacement.path with
      | error error =>
          rw [landsThere] at performs
          exact absurd performs (by simp [Except.map])
      | ok target =>
          rw [landsThere] at performs sameLanding
          obtain rfl := Except.ok.inj performs
          cases lands : disk.landing replacement.path with
          | error error =>
              rw [lands] at sameLanding
              exact absurd sameLanding (by simp [Except.toOption])
          | ok other =>
              rw [lands] at sameLanding
              obtain rfl : target = other := Option.some.inj sameLanding
              exact .moved lands

/-- What a failing step leaves has at most the new file added. -/
theorem Stage.added_spoil
    {fault : ReplaceFault}
    (stage : Stage replacement disk place (fault.step :: rest) tree) :
    Added replacement disk place (replacement.spoil tree fault) := by
  have before := stage.added
  rw [spoil]
  cases isFill : fault.step with
  | create | sync | move =>
      exact before
  | fill =>
      rw [isFill] at stage
      cases stage
      dsimp only
      rw [write_added leads]
      exact .part (List.take_prefix fault.written replacement.content)

/-- At each moment after a stage at most the new file is added, or it is where the path leads. -/
theorem Stage.passes
    (stage : Stage replacement disk place steps tree)
    (passes : replacement.Passes steps tree next) :
    Added replacement disk place next ∨ replacement.IsReplaced disk next := by
  induction passes with
  | before steps tree =>
      cases stage with
      | moved lands =>
          exact .inr ⟨_, lands, rfl⟩
      | started =>
          exact .inl .nothing
      | created =>
          exact .inl (.part List.nil_prefix)
      | filled | synced =>
          exact .inl (.part List.prefix_rfl)
  | amid isPart writes =>
      cases stage
      rw [write_added leads] at writes
      obtain rfl := Except.ok.inj writes
      exact .inl (.part isPart)
  | later performs _ inductionHypothesis =>
      exact inductionHypothesis (stage.advances leads performs)

/-- Steps are all taken, or they fail when at most the new file is added. -/
theorem Stage.take_cases
    (stage : Stage replacement disk place steps tree) :
    ((replacement.take steps tree).1 = none ∧
        replacement.IsReplaced disk (replacement.take steps tree).2) ∨
      ∃ error, (replacement.take steps tree).1 = some error ∧
        Added replacement disk place (replacement.take steps tree).2 := by
  induction steps generalizing tree with
  | nil =>
      cases stage with
      | moved lands =>
          exact .inl ⟨rfl, _, lands, rfl⟩
  | cons step rest inductionHypothesis =>
      rw [take]
      cases isFault : replacement.trouble.fault?.filter (·.step = step) with
      | some fault =>
          obtain rfl : fault.step = step := by
            simpa using (Option.filter_eq_some_iff.mp isFault).2
          exact .inr ⟨fault.error, rfl, stage.added_spoil leads⟩
      | none =>
          dsimp only
          cases performs : replacement.perform tree step with
          | error error =>
              exact .inr ⟨error, rfl, stage.added⟩
          | ok next =>
              exact inductionHypothesis (stage.advances leads performs)

/-- Removing the new file gives the tree that there was. -/
theorem removeFile_added
    (added : Added replacement disk place tree) :
    (tree.removeFile replacement.temporary).toOption.getD tree = disk := by
  cases added with
  | nothing =>
      rw [removeFile, find, leads false]
      rfl
  | part isPart =>
      rw [removeFile, find, destination_added leads _ false]
      dsimp only
      rw [erase_set_self, erase_of_absent (absent_of_leads leads)]
      rfl

end Steps

/-! ## Whole replacements -/

/-- A tree at a moment of a replacement: wherever it is stopped, or once it is over. -/
def IsMoment (replacement : Replacement) (disk tree : Disk) : Prop :=
  replacement.Passes ReplaceStep.all disk tree ∨ tree = (replacement.run disk).2

/-- At most the new file is added, at a place of its own. -/
inductive Grows (replacement : Replacement) (disk : Disk) : Disk → Prop where
  | nothing : Grows replacement disk disk
  | part {place : Place} {bytes : Bytes}
      (isPart : bytes <+: replacement.content)
      (absent : disk.node? place = none)
      (named : place.getLast? = some replacement.newName)
      (elsewhere : disk.landing replacement.path ≠ .ok place) :
      Grows replacement disk (disk.set place (.file bytes replacement.now))

/-- What a replacement guarantees, whatever goes wrong. -/
structure IsAtomic (replacement : Replacement) (disk : Disk) : Prop where
  /-- At every moment nothing but the new file is added to the tree, or nothing but what the path
  names has changed. -/
  intact : ∀ tree, replacement.IsMoment disk tree →
    replacement.Grows disk tree ∨ replacement.IsReplaced disk tree
  /-- At every moment the place of the path holds what it held or the new content. -/
  holds : ∀ tree, replacement.IsMoment disk tree → ∀ place,
    disk.landing replacement.path = .ok place →
      tree.node? place = disk.node? place ∨
        tree.node? place = some (.file replacement.content replacement.now)
  /-- At every moment the old content is read, or nothing as before, or the new content, if the
  path is not that of a link. -/
  reads : (∀ place target,
      disk.find false replacement.path ≠ .ok (place, .link target)) →
    ∀ tree, replacement.IsMoment disk tree →
      (tree.read replacement.path).toOption = (disk.read replacement.path).toOption ∨
        tree.read replacement.path = .ok replacement.content
  /-- A replacement that succeeds changes nothing else, and the new file is not left behind. -/
  succeeds : (replacement.run disk).1 = .ok () →
    replacement.IsReplaced disk (replacement.run disk).2 ∧
      ∀ found, (replacement.run disk).2.find false replacement.temporary ≠ .ok found
  /-- A replacement that fails changes nothing if the new file can be removed. -/
  fails : ∀ error, (replacement.run disk).1 = .error error →
    replacement.trouble.keepsTemporary = false → (replacement.run disk).2 = disk

/-- The new file is at a place of its own. -/
theorem grows_of_added
    (isNew : replacement.IsNew disk)
    (leads : ∀ followsLast,
      disk.destination followsLast replacement.temporary = .ok (.vacant place))
    (added : Added replacement disk place tree) :
    replacement.Grows disk tree := by
  cases added with
  | nothing =>
      exact .nothing
  | part isPart =>
      have named : place.getLast? = some replacement.newName := by
        have leads := leads false
        rw [destination_of_isFollowed (isFollowed_of_destination leads)] at leads
        obtain ⟨name, -, last, same⟩ := getLast?_of_follow leads (by simp)
        rw [getLast?_steps_temporary isNew.noSlash] at last
        exact last ▸ same
      exact .part isPart (absent_of_leads leads) named (landing_ne_of_leads leads isNew.noSlash)

/-- A replacement whose new file leads nowhere does not begin. -/
theorem take_of_lost
    {error : OsError}
    (lost : disk.destination true replacement.temporary = .error error) :
    ∃ error, replacement.take ReplaceStep.all disk = (some error, disk) := by
  rw [ReplaceStep.all, take]
  cases isFault : replacement.trouble.fault?.filter (·.step = .create) with
  | some fault =>
      have isCreate : fault.step = .create := by
        simpa using (Option.filter_eq_some_iff.mp isFault).2
      exact ⟨fault.error, by simp [spoil, isCreate]⟩
  | none =>
      exact ⟨error, by simp [perform, write, lost]⟩

/-- At every moment of a replacement whose new file has a place, at most that file is added, or the
path has the content. -/
theorem IsMoment.cases_of_leads
    (isMoment : replacement.IsMoment disk tree)
    (leads : ∀ followsLast,
      disk.destination followsLast replacement.temporary = .ok (.vacant place)) :
    Added replacement disk place tree ∨ replacement.IsReplaced disk tree := by
  rcases isMoment with passes | rfl
  · exact Stage.started.passes leads passes
  · rcases Stage.started.take_cases leads with ⟨takesAll, replaced⟩ | ⟨error, fails, added⟩
    · rw [run, ← Prod.eta (replacement.take ReplaceStep.all disk), takesAll]
      exact .inr replaced
    · rw [run, ← Prod.eta (replacement.take ReplaceStep.all disk), fails]
      dsimp only
      cases keeps : replacement.trouble.keepsTemporary with
      | true =>
          rw [cleanUp, keeps, if_pos rfl]
          exact .inl added
      | false =>
          rw [replacement.cleanUp_eq keeps, removeFile_added leads added]
          exact .inl .nothing

/-- A replacement whose new file leads nowhere fails and changes nothing. -/
theorem run_of_lost
    {error : OsError}
    (lost : ∀ followsLast, disk.destination followsLast replacement.temporary = .error error) :
    ∃ failure, replacement.run disk = (.error failure, disk) := by
  obtain ⟨failure, takes⟩ := take_of_lost (lost true)
  have unchanged : replacement.cleanUp disk = disk := by
    rw [cleanUp, removeFile, find, lost false]
    split <;> rfl
  exact ⟨failure, by rw [run, takes, Prod.mk.injEq]; exact ⟨rfl, unchanged⟩⟩

theorem IsMoment.eq_of_lost
    {error : OsError}
    (isMoment : replacement.IsMoment disk tree)
    (lost : ∀ followsLast, disk.destination followsLast replacement.temporary = .error error) :
    tree = disk := by
  rcases isMoment with passes | rfl
  · cases passes with
    | before =>
        rfl
    | later performs =>
        rw [perform, write, lost true] at performs
        exact absurd performs (by simp)
  · obtain ⟨_, fails⟩ := run_of_lost lost
    rw [fails]

/-- A replacement succeeds with nothing else changed, or fails with at most the new file added,
and nothing if that can be removed. -/
theorem IsNew.run_cases
    (isNew : replacement.IsNew disk) :
    ((replacement.run disk).1 = .ok () ∧ replacement.IsReplaced disk (replacement.run disk).2) ∨
      ∃ error, (replacement.run disk).1 = .error error ∧
        replacement.Grows disk (replacement.run disk).2 ∧
        (replacement.trouble.keepsTemporary = false → (replacement.run disk).2 = disk) := by
  have cleans : ∀ {error next}, replacement.take ReplaceStep.all disk = (some error, next) →
      replacement.run disk = (.error error, replacement.cleanUp next) := by
    intro error next takes
    rw [run, takes]
  rcases isNew.destination_cases with ⟨error, lost⟩ | ⟨place, leads⟩
  · obtain ⟨failure, fails⟩ := run_of_lost lost
    rw [fails]
    exact .inr ⟨failure, rfl, .nothing, fun _ => rfl⟩
  · rcases Stage.started.take_cases leads with ⟨takesAll, replaced⟩ | ⟨error, fails, added⟩
    · have whole : replacement.run disk =
          (.ok (), (replacement.take ReplaceStep.all disk).2) := by
        rw [run, ← Prod.eta (replacement.take ReplaceStep.all disk), takesAll]
      rw [whole]
      exact .inl ⟨rfl, replaced⟩
    · rw [cleans (Prod.ext fails rfl)]
      refine .inr ⟨error, rfl, ?_, fun removes => ?_⟩
      · cases keeps : replacement.trouble.keepsTemporary with
        | true =>
            rw [cleanUp, keeps, if_pos rfl]
            exact grows_of_added isNew leads added
        | false =>
            rw [replacement.cleanUp_eq keeps, removeFile_added leads added]
            exact .nothing
      · rw [replacement.cleanUp_eq removes, removeFile_added leads added]

theorem IsNew.moment_cases
    (isNew : replacement.IsNew disk)
    (isMoment : replacement.IsMoment disk tree) :
    replacement.Grows disk tree ∨ replacement.IsReplaced disk tree := by
  rcases isNew.destination_cases with ⟨error, lost⟩ | ⟨place, leads⟩
  · exact .inl (isMoment.eq_of_lost lost ▸ .nothing)
  · exact (isMoment.cases_of_leads leads).imp_left (grows_of_added isNew leads)

/-- What is read while the new file is added is what was read before. -/
theorem Grows.read_eq
    (grows : replacement.Grows disk tree)
    (notLink : ∀ place target, disk.find false replacement.path ≠ .ok (place, .link target)) :
    (tree.read replacement.path).toOption = (disk.read replacement.path).toOption := by
  cases grows with
  | nothing =>
      rfl
  | @part place bytes isPart absent named elsewhere =>
      have lacks := lacks_set absent (.file bytes replacement.now)
      have isFile := node?_set_self disk lacks.nonempty (.file bytes replacement.now)
      rcases lacks.destination_file isFile true replacement.path with
        same | ⟨comes, _⟩ | ⟨fails, failsToo⟩
      · rw [read, read, find, find, same]
      · -- The path would have to end in the name of the new file, or to be that of a link.
        have followed := isFollowed_of_destination comes
        rw [destination_of_isFollowed followed] at comes
        rcases disk.follow_true_cases maxLinks [] (steps replacement.path) with
          same | ⟨place, target, isLink⟩
        · rw [same] at comes
          obtain ⟨name, isStep, last, isLast⟩ := getLast?_of_follow comes (by simp)
          have isFileName := Path.fileName?_of_steps last isStep.notHere isStep.notAbove
          exact absurd (isFileName.trans (isLast.symm.trans named)) fileName?_ne_newName
        · exact absurd (find_of_follow followed isLink) (notLink place target)
      · rw [read, read, find, find, fails, failsToo]
        rfl

/-- What a path names that is not that of a link is the new file, once something is put there. -/
theorem find_of_landing
    (lands : disk.landing replacement.path = .ok place)
    (notLink : ∀ place target, disk.find false replacement.path ≠ .ok (place, .link target))
    (content : Bytes)
    (modified : Instant) :
    (disk.set place (.file content modified)).find false replacement.path =
      .ok (place, .file content modified) := by
  obtain ⟨_, destination, leads, isPlace, notDirectory⟩ := getLast?_of_landing lands
  have followed := isFollowed_of_destination leads
  have isFor : destination.IsFor place := by
    rcases destination with ⟨other, _ | target | _⟩ | other
    · exact isPlace
    · exact absurd (by rw [find, leads]) (notLink other target)
    · exact absurd rfl (notDirectory other)
    · exact isPlace
  rw [destination_of_isFollowed followed] at leads
  exact find_of_follow followed (follow_set leads isFor content modified)

/-- A path that is not that of a link has the new content once the file is replaced. -/
theorem IsReplaced.read_eq
    (replaced : replacement.IsReplaced disk tree)
    (notLink : ∀ place target, disk.find false replacement.path ≠ .ok (place, .link target)) :
    tree.read replacement.path = .ok replacement.content := by
  obtain ⟨place, lands, rfl⟩ := replaced
  have named := find_of_landing lands notLink replacement.content replacement.now
  have leads := follow_of_find named
  rcases follow_true_cases _ maxLinks [] (steps replacement.path) with same | ⟨_, _, isLink⟩
  · rw [read, find_of_follow (isFollowed_of_find named) (same.trans leads)]
  · rw [leads] at isLink
    simp at isLink

/-- Nothing has the name of the new file once the file is replaced. -/
theorem IsReplaced.find_temporary
    (replaced : replacement.IsReplaced disk tree)
    (isNew : replacement.IsNew disk)
    (found : Place × Node) :
    tree.find false replacement.temporary ≠ .ok found := by
  obtain ⟨place, lands, rfl⟩ := replaced
  obtain ⟨⟨name, isLast, isFileName⟩, -⟩ := getLast?_of_landing lands
  have nonempty : place ≠ [] := by
    rintro rfl
    simp at isLast
  have isFile := node?_set_self disk nonempty (.file replacement.content replacement.now)
  have lacksToo := lacks_erase (disk.set place (.file replacement.content replacement.now)) nonempty
  rw [erase_set_self] at lacksToo
  intro isFound
  have followed := isFollowed_of_find isFound
  have leads := follow_of_find isFound
  rcases lacksToo.follow_file isFile false maxLinks [] (steps replacement.temporary) with
    same | ⟨_, comes⟩ | ⟨_, fails⟩
  · -- What is found has nothing to do with the place of the path, so it was there before.
    rw [same] at leads
    rcases (lacks_erase disk nonempty).follow_eq_or false maxLinks []
      (steps replacement.temporary) with same | absent | absent
    · exact isNew.absent found (find_of_follow followed (same.trans leads))
    · simp [leads] at absent
    · simp [leads] at absent
  · obtain ⟨other, isStep, last, isOther⟩ := getLast?_of_follow comes (by simp)
    rw [getLast?_steps_temporary isNew.noSlash] at last
    exact fileName?_ne_newName
      (isFileName.trans (isLast.symm.trans (isOther.trans last.symm)))
  · simp [leads] at fails

/-- What has changed at a moment of a replacement is a file that the path names, or the path of the
new file. -/
theorem IsMoment.exists_find
    (isMoment : replacement.IsMoment disk tree)
    (isNew : replacement.IsNew disk)
    (notLink : ∀ place target, disk.find false replacement.path ≠ .ok (place, .link target))
    (changed : tree.node? place ≠ disk.node? place) :
    ∃ content modified,
      tree.find false replacement.temporary = .ok (place, .file content modified) ∨
        tree.find false replacement.path = .ok (place, .file content modified) := by
  have isSet : ∀ {other node}, tree = disk.set other node → place = other := by
    rintro other node rfl
    exact Classical.byContradiction fun differs => changed (node?_set_of_ne disk differs node)
  rcases isNew.destination_cases with ⟨error, lost⟩ | ⟨other, leads⟩
  · exact absurd (by rw [isMoment.eq_of_lost lost]) changed
  · rcases isMoment.cases_of_leads leads with added | ⟨target, lands, sameTree⟩
    · cases added with
      | nothing =>
          exact absurd rfl changed
      | @part bytes _ =>
          obtain rfl := isSet rfl
          refine ⟨bytes, replacement.now, .inl ?_⟩
          rw [find, destination_added leads bytes false]
    · obtain rfl := isSet sameTree
      refine ⟨replacement.content, replacement.now, .inr ?_⟩
      rw [sameTree, find_of_landing lands notLink replacement.content replacement.now]

/-- Whatever goes wrong, a replacement whose new file has a new name happens at once. -/
theorem run_isAtomic
    (replacement : Replacement)
    (disk : Disk)
    (isNew : replacement.IsNew disk) :
    replacement.IsAtomic disk where
  intact := fun _ isMoment => isNew.moment_cases isMoment
  holds := by
    intro tree isMoment place lands
    rcases isNew.moment_cases isMoment with grows | ⟨other, landsToo, rfl⟩
    · cases grows with
      | nothing =>
          exact .inl rfl
      | part isPart absent named elsewhere =>
          refine .inl (node?_set_of_ne disk ?_ _)
          rintro rfl
          exact elsewhere lands
    · obtain rfl : place = other := Except.ok.inj (lands.symm.trans landsToo)
      have nonempty : place ≠ [] := by
        rintro rfl
        obtain ⟨⟨name, isLast, _⟩, _⟩ := getLast?_of_landing lands
        simp at isLast
      exact .inr (node?_set_self disk nonempty _)
  reads := by
    intro notLink tree isMoment
    rcases isNew.moment_cases isMoment with grows | replaced
    · exact .inl (grows.read_eq notLink)
    · exact .inr (replaced.read_eq notLink)
  succeeds := by
    intro isDone
    rcases isNew.run_cases with ⟨_, replaced⟩ | ⟨error, fails, _⟩
    · exact ⟨replaced, replaced.find_temporary isNew⟩
    · rw [fails] at isDone
      exact absurd isDone (by simp)
  fails := by
    intro error isFailure removes
    rcases isNew.run_cases with ⟨isDone, _⟩ | ⟨_, _, _, unchanged⟩
    · rw [isDone] at isFailure
      exact absurd isFailure (by simp)
    · exact unchanged removes

theorem run_isAtomic_of_spoiled_file :
    let disk : Disk := { entries := [(["a"], .file [1] {}), (["b"], .directory)] }
    let replacement : Replacement :=
      { path := "a", content := [2, 3], tag := "0", now := {},
        trouble := { fault? := some { step := .fill, error := .noSpace, written := 1 } } }
    replacement.IsNew disk ∧ replacement.IsAtomic disk := by
  intro disk replacement
  have isName : IsName ".a.0.tmp" := by decide
  have isTemporary : replacement.temporary = ".a.0.tmp" := by decide
  have isNew : replacement.IsNew disk := by
    refine ⟨by decide, fun found isFound => ?_⟩
    rw [isTemporary, find, destination_of_isFollowed isName.isFollowed,
      Path.steps_of_isName isName, follow_vacant isName rfl] at isFound
    exact absurd isFound (by simp)
  exact ⟨isNew, run_isAtomic replacement disk isNew⟩

end Replacement

end SourceFacts.Disk
