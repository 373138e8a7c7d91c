import SourceFacts.Cache.Entry
import SourceFacts.Proofs.Time.Calendar

namespace SourceFacts.Cache

/-!
# When entries expire

An entry expires as soon as more time has passed since it was made than it may stay, to the
nanosecond and however long it may stay. The moment is computed in words of 64 bits: the seconds
become a signed word, which is cut to what a duration can hold, and a moment after the calendar
becomes the last one. None of these cuts shows, because every duration that is cut is longer than
the calendar.
-/

open Time
open Time.Instant (nanosecondsPerSecond)

variable {created : Instant}

/-! ## Durations in words -/

/-- A word as a signed one, the largest if it is too large. -/
def signed (word : UInt64) : Int64 :=
  if word.toNat ≤ Int64.maxValue.toInt then Int64.ofNat word.toNat else Int64.maxValue

/-- A duration of whole seconds. There is none whose milliseconds no signed word can count. -/
def durationSeconds? (count : Int64) : Option Int :=
  if -Int64.maxValue.toInt ≤ count.toInt * 1000 ∧ count.toInt * 1000 ≤ Int64.maxValue.toInt then
    some count.toInt
  else none

/-- The moment of expiry, computed in words. There is none if the duration to be added does
not exist. -/
def expiryInWords? (created : Instant) (ttl : UInt64) : Option Instant := do
  let duration ← durationSeconds? (min (signed ttl) (Int64.maxValue / 1000))
  return (created.addSeconds? duration.toNat).getD Instant.last

/-- The largest signed word. -/
theorem toInt_maxValue : Int64.maxValue.toInt = 9223372036854775807 := by decide

/-- A word becomes the signed word of its value, or the largest one. -/
theorem toInt_signed (word : UInt64) :
    (signed word).toInt = min (word.toNat : Int) Int64.maxValue.toInt := by
  rw [signed]
  split
  · rename_i small
    rw [toInt_maxValue] at small ⊢
    rw [Int64.toInt_ofNat_of_lt (by omega)]
    omega
  · rename_i large
    rw [toInt_maxValue] at large ⊢
    omega

/-- The smaller of two signed words is the one of the smaller value. -/
theorem toInt_min (left right : Int64) : (min left right).toInt = min left.toInt right.toInt := by
  have shape : min left right = if left ≤ right then left else right := rfl
  rw [shape]
  split
  · rename_i inOrder
    rw [Int64.le_iff_toInt_le] at inOrder
    omega
  · rename_i notInOrder
    rw [Int64.le_iff_toInt_le] at notInOrder
    omega

/-- The seconds that are added, cut as they are, make up a duration. -/
theorem durationSeconds?_signed (ttl : UInt64) :
    durationSeconds? (min (signed ttl) (Int64.maxValue / 1000)) =
      some ((min ttl.toNat maxDuration : Nat) : Int) := by
  have longest : (Int64.maxValue / 1000).toInt = maxDuration := by decide
  have seconds :
      (min (signed ttl) (Int64.maxValue / 1000)).toInt = (min ttl.toNat maxDuration : Nat) := by
    rw [toInt_min, toInt_signed, toInt_maxValue, longest, maxDuration]
    omega
  rw [durationSeconds?, seconds, toInt_maxValue, maxDuration]
  exact if_pos (by omega)

/-- The moment of expiry is what is computed in words, where no duration is too long. -/
theorem expiryInWords?_eq
    (created : Instant)
    (ttl : UInt64) :
    expiryInWords? created ttl = some (expiry created ttl) := by
  rw [expiryInWords?, durationSeconds?_signed]
  rfl

/-! ## The moment itself -/

/-- The nanoseconds of the moment up to which something may stay, were there no end to the
calendar. -/
def unboundedExpiry (created : Instant) (ttl : UInt64) : Int :=
  created.toNanoseconds + ttl.toNat * nanosecondsPerSecond

/-- From every moment the longest duration leads out of the calendar. -/
theorem last_lt_add_maxDuration (plain : created.IsPlain) :
    Instant.last.toNanoseconds <
      created.toNanoseconds + maxDuration * nanosecondsPerSecond := by
  have first : Instant.firstSecond = -8334601228800 := by decide
  have last : Instant.lastSecond = 8210266876799 := by decide
  have begun := (Instant.inCalendar_iff.mp plain.inCalendar).1
  simp only [Instant.toNanoseconds, Instant.last, maxDuration, nanosecondsPerSecond]
  omega

/-- Something expires at its unbounded moment of expiry, or at the end of the calendar. -/
theorem expiry_spec
    (plain : created.IsPlain)
    (ttl : UInt64) :
    (expiry created ttl).IsPlain ∧
      (expiry created ttl).toNanoseconds =
        min (unboundedExpiry created ttl) Instant.last.toNanoseconds := by
  -- A duration that is cut ends after the calendar, and so does the uncut one.
  have isCut := last_lt_add_maxDuration plain
  rcases Instant.addSeconds?_cases plain (min ttl.toNat maxDuration) with
    ⟨later, added, laterPlain, sum⟩ | ⟨beyond, tooLate⟩
  · have inTime := Instant.toNanoseconds_le_last laterPlain
    rw [expiry, added, Option.getD_some]
    refine ⟨laterPlain, ?_⟩
    rw [unboundedExpiry]
    rw [nanosecondsPerSecond] at *
    omega
  · rw [expiry, beyond, Option.getD_none]
    refine ⟨Instant.isPlain_last, ?_⟩
    rw [unboundedExpiry]
    rw [nanosecondsPerSecond] at *
    omega

/-! ## Entries -/

/-- When an entry expires. -/
structure ExpiresExactly (entry : Entry) : Prop where
  /-- Computing the moment in words never fails. -/
  inWords : expiryInWords? entry.createdAt entry.ttlSeconds = some entry.expiresAt
  isPlain : entry.expiresAt.IsPlain
  /-- It is the moment after all the time that the entry may stay. -/
  sum : ∀ moment : Instant, moment.IsPlain →
    moment.toNanoseconds = unboundedExpiry entry.createdAt entry.ttlSeconds →
    entry.expiresAt = moment
  /-- If there is none, it is the moment before which all others are. -/
  saturated : (∀ moment : Instant, moment.IsPlain →
      moment.toNanoseconds ≠ unboundedExpiry entry.createdAt entry.ttlSeconds) →
    ∀ moment : Instant, moment.IsPlain → moment ≠ entry.expiresAt →
      moment.before entry.expiresAt = true
  /-- The entry has expired at the moments after all that time, and at no others. -/
  expired : ∀ now : Instant, now.IsPlain →
    (entry.isExpiredAt now = true ↔
      unboundedExpiry entry.createdAt entry.ttlSeconds < now.toNanoseconds)
  /-- What is made later, or may stay longer, does not expire earlier. -/
  mono : ∀ other : Entry, other.createdAt.IsPlain →
    other.createdAt.before entry.createdAt = false → entry.ttlSeconds ≤ other.ttlSeconds →
    other.expiresAt.before entry.expiresAt = false

/-- An entry that was made at a moment of the calendar expires exactly when its time is over. -/
theorem Entry.expiresExactly
    (entry : Entry)
    (plain : entry.createdAt.IsPlain) :
    ExpiresExactly entry := by
  obtain ⟨isPlain, value⟩ := expiry_spec plain entry.ttlSeconds
  rw [← Entry.expiresAt] at isPlain value
  exact {
    inWords := expiryInWords?_eq entry.createdAt entry.ttlSeconds
    isPlain
    sum := by
      intro moment momentPlain isSum
      have inTime := Instant.toNanoseconds_le_last momentPlain
      refine Instant.eq_of_toNanoseconds_eq isPlain momentPlain ?_
      rw [value, ← isSum]
      omega
    saturated := by
      intro noMoment moment momentPlain differs
      have isLast : entry.expiresAt.toNanoseconds = Instant.last.toNanoseconds := by
        have notSum := noMoment entry.expiresAt isPlain
        omega
      have notSame : moment.toNanoseconds ≠ entry.expiresAt.toNanoseconds :=
        fun same => differs (Instant.eq_of_toNanoseconds_eq momentPlain isPlain same)
      have inTime := Instant.toNanoseconds_le_last momentPlain
      rw [Instant.before_iff momentPlain isPlain]
      omega
    expired := by
      intro now nowPlain
      have inTime := Instant.toNanoseconds_le_last nowPlain
      rw [Entry.isExpiredAt, Instant.before_iff isPlain nowPlain, value]
      omega
    mono := by
      intro other otherPlain notEarlier notShorter
      obtain ⟨otherIsPlain, otherValue⟩ := expiry_spec otherPlain other.ttlSeconds
      rw [← Entry.expiresAt] at otherIsPlain otherValue
      rw [Bool.eq_false_iff, ne_eq, Instant.before_iff otherPlain plain] at notEarlier
      rw [UInt64.le_iff_toNat_le] at notShorter
      rw [Bool.eq_false_iff, ne_eq, Instant.before_iff otherIsPlain isPlain, value, otherValue,
        unboundedExpiry, unboundedExpiry]
      rw [nanosecondsPerSecond]
      omega }

/-- An entry of the first nanosecond of the calendar that may stay as long as a word can say. -/
def everlastingEntry : Entry where
  key := Hash.Fingerprint.ofContent []
  payload := .null
  createdAt := { seconds := Instant.firstSecond, nanoseconds := 1 }
  ttlSeconds := 18446744073709551615
  schemaVersion := "1"
  source := {}

/-- Such an entry never expires. -/
theorem Entry.expiresExactly_everlasting :
    everlastingEntry.createdAt.IsPlain ∧ ExpiresExactly everlastingEntry ∧
      everlastingEntry.isExpiredAt Instant.last = false := by
  have plain : everlastingEntry.createdAt.IsPlain := by decide
  have exact := Entry.expiresExactly everlastingEntry plain
  refine ⟨plain, exact, ?_⟩
  rw [Bool.eq_false_iff, ne_eq, exact.expired Instant.last Instant.isPlain_last]
  decide

end SourceFacts.Cache
