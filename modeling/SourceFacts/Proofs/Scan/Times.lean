import SourceFacts.Proofs.Disk.Directories
import SourceFacts.Proofs.Time.Calendar
import SourceFacts.Scan.SourceFiles

namespace SourceFacts.Scan

/-!
# When files were changed

A descriptor tells the moment at which its file was changed last. The nanoseconds up to that
moment are kept in a signed word, so that the moment is told to the nanosecond as long as the
word holds them, and whole turns of the word are lost afterwards.
-/

open Disk Facts Text Time Instant

/-! ## Nanoseconds in a word -/

/-- The number of nanoseconds that is the first one too large for a signed word. -/
def wordLimit : Int := 9223372036854775808

/-- What the moment that is told has to do with the moment at which a file was changed. -/
structure TellsTime (modified shown : Instant) : Prop where
  noLeapSecond : shown.nanoseconds < nanosecondsPerSecond
  begins : -wordLimit ≤ shown.toNanoseconds
  ends : shown.toNanoseconds < wordLimit
  losesTurns : ∃ turns : Nat, modified.toNanoseconds = shown.toNanoseconds + turns * (2 * wordLimit)
  exact_iff : shown = modified ↔ modified.toNanoseconds < wordLimit
  earlier : wordLimit ≤ modified.toNanoseconds → shown.before modified = true

/-- A later moment is told as a later one, as long as a word holds its nanoseconds. -/
theorem TellsTime.before
    {modified shown later laterShown : Instant}
    (tells : TellsTime modified shown)
    (laterTells : TellsTime later laterShown)
    (isLater : modified.before later = true)
    (short : modified.nanoseconds < nanosecondsPerSecond)
    (laterShort : later.nanoseconds < nanosecondsPerSecond)
    (isHeld : later.toNanoseconds < wordLimit) :
    shown.before laterShown = true := by
  have ordered := (before_iff_lt short laterShort).mp isLater
  rw [tells.exact_iff.mpr (by omega), laterTells.exact_iff.mpr isHeld]
  exact isLater

/-- The moment in a word tells the moment that was put into it. -/
theorem tellsTime_wordInstant
    {modified : Instant}
    (short : modified.nanoseconds < nanosecondsPerSecond)
    (isLate : 0 ≤ modified.toNanoseconds) :
    TellsTime modified (wordInstant modified) := by
  have shortWord : (wordInstant modified).nanoseconds < nanosecondsPerSecond :=
    nanoseconds_ofNanoseconds_lt _
  have inWord :
      (wordInstant modified).toNanoseconds = modified.toNanoseconds.bmod 18446744073709551616 :=
    toNanoseconds_ofNanoseconds _
  have begins : -wordLimit ≤ modified.toNanoseconds.bmod 18446744073709551616 :=
    Int.le_bmod (by decide)
  have ends : modified.toNanoseconds.bmod 18446744073709551616 < wordLimit :=
    Int.bmod_lt (by decide)
  obtain ⟨turns, isTurned⟩ : (18446744073709551616 : Int) ∣
      modified.toNanoseconds - modified.toNanoseconds.bmod 18446744073709551616 :=
    Int.dvd_self_sub_bmod
  rw [wordLimit] at begins ends
  refine ⟨shortWord, ?_, ?_, ⟨turns.toNat, ?_⟩, ?_, fun isBeyond => ?_⟩
  · rw [inWord, wordLimit]
    exact begins
  · rw [inWord, wordLimit]
    exact ends
  · rw [inWord, wordLimit]
    omega
  · rw [eq_iff_toNanoseconds_eq shortWord short, inWord, wordLimit]
    omega
  · rw [before_iff_lt shortWord short, inWord]
    rw [wordLimit] at isBeyond
    omega

/-! ## Descriptors -/

variable {disk : Disk} {path : String} {place : Place} {content : Bytes} {modified : Instant}

/-- A moment that is not before 1970 has no negative number of nanoseconds. -/
theorem toNanoseconds_nonneg_iff (short : modified.nanoseconds < nanosecondsPerSecond) :
    0 ≤ modified.toNanoseconds ↔ modified.before {} = false := by
  rw [← Bool.not_eq_true, before_iff_lt short (by decide), Int.not_lt]
  rfl

/-- The descriptor of a file that was not changed before 1970 tells the moment in a word. -/
theorem describe_modified?
    (isFound : disk.find true path = .ok (place, .file content modified))
    (isLate : modified.before {} = false) :
    ∃ descriptor, describe disk path = .ok descriptor ∧
      descriptor.modified? = some (wordInstant modified) := by
  have isDescribed : describe disk path = describeFile path content modified := by
    rw [describe, isFound]
  rw [isDescribed, describeFile, if_neg (by rw [isLate]; decide)]
  exact ⟨_, rfl, rfl⟩

/-- Whatever file a path leads to, as long as it was not changed before 1970, its descriptor
tells when it was changed: to the nanosecond if a word holds the nanoseconds up to then, and
too early if it does not. Two files whose moments a word holds are told in their order. -/
theorem describe_tellsTime
    (isFound : disk.find true path = .ok (place, .file content modified))
    (short : modified.nanoseconds < nanosecondsPerSecond)
    (isLate : modified.before {} = false) :
    ∃ descriptor shown, describe disk path = .ok descriptor ∧
      descriptor.modified? = some shown ∧
      TellsTime modified shown ∧
      ∀ {other : Disk} {otherPath : String} {otherPlace : Place} {otherContent : Bytes}
        {later : Instant},
        other.find true otherPath = .ok (otherPlace, .file otherContent later) →
        later.nanoseconds < nanosecondsPerSecond →
        later.toNanoseconds < wordLimit →
        modified.before later = true →
        ∃ otherDescriptor laterShown, describe other otherPath = .ok otherDescriptor ∧
          otherDescriptor.modified? = some laterShown ∧
          shown.before laterShown = true := by
  have counted := (toNanoseconds_nonneg_iff short).mpr isLate
  have tells := tellsTime_wordInstant short counted
  obtain ⟨descriptor, isDescribed, isTold⟩ := describe_modified? isFound isLate
  refine ⟨descriptor, _, isDescribed, isTold, tells, ?_⟩
  intro other otherPath otherPlace otherContent later isOtherFound laterShort isHeld isLater
  have ordered := (before_iff_lt short laterShort).mp isLater
  have laterCounted : 0 ≤ later.toNanoseconds := by omega
  obtain ⟨otherDescriptor, isOtherDescribed, isOtherTold⟩ :=
    describe_modified? isOtherFound ((toNanoseconds_nonneg_iff laterShort).mp laterCounted)
  exact ⟨otherDescriptor, _, isOtherDescribed, isOtherTold,
    tells.before (tellsTime_wordInstant laterShort laterCounted) isLater short laterShort isHeld⟩

/-! ### A file of the far future -/

/-- A tree with a file that was changed at a moment. -/
def stampedDisk (modified : Instant) : Disk where
  entries := [(["a.py"], .file [] modified)]

/-- The file is found. -/
theorem find_stampedDisk (modified : Instant) :
    (stampedDisk modified).find true "a.py" = .ok (["a.py"], .file [] modified) :=
  find_top_file (by decide) rfl

/-- The twentieth of November 2286 is later than any moment whose nanoseconds a word holds. -/
def farFuture : Instant := { seconds := 10000000000 }

/-- The last second that a word holds whole. -/
def lastWholeSecond : Instant := { seconds := 9223372035 }

theorem describe_tellsTime_farFuture :
    ∃ descriptor shown, describe (stampedDisk farFuture) "a.py" = .ok descriptor ∧
      descriptor.modified? = some shown ∧ TellsTime farFuture shown := by
  obtain ⟨descriptor, shown, isDescribed, isTold, tells, _⟩ :=
    describe_tellsTime (find_stampedDisk farFuture) (by decide) (by decide)
  exact ⟨descriptor, shown, isDescribed, isTold, tells⟩

/-- A file of the far future is told to be from before 1970, and so to be older than one
that was changed before it. -/
theorem exists_later_told_earlier :
    ∃ early late earlyShown lateShown,
      describe (stampedDisk lastWholeSecond) "a.py" = .ok early ∧
      describe (stampedDisk farFuture) "a.py" = .ok late ∧
      early.modified? = some earlyShown ∧ late.modified? = some lateShown ∧
      lastWholeSecond.before farFuture = true ∧ lateShown.before earlyShown = true ∧
      lateShown.before {} = true ∧ lateShown ≠ farFuture := by
  obtain ⟨early, isEarly, earlyTold⟩ :=
    describe_modified? (find_stampedDisk lastWholeSecond) (by decide)
  obtain ⟨late, isLate, lateTold⟩ := describe_modified? (find_stampedDisk farFuture) (by decide)
  exact ⟨early, late, _, _, isEarly, isLate, earlyTold, lateTold,
    by decide, by decide, by decide, by decide⟩

end SourceFacts.Scan
