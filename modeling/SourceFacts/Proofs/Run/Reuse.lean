import SourceFacts.Proofs.Run.History

namespace SourceFacts.Run

/-!
# Enrichments are made once

As long as entries are fresh whenever their keys are looked up, no more than one
enrichment is made for a key. From then on it is reported for every file with that key,
and nothing is asked for. Until then every file with the key asks for one.
-/

open Analysis Cache Config Disk Facts Failures Time

/-- The enrichments that were made at a visit. -/
def Visit.made (visit : Visit) : List Json := visit.asked.filterMap fun asked => asked.2.toOption

/-- Whenever a key is looked up, the first entry that was stored under it is fresh. -/
def Timely (visits : List Visit) : Prop :=
  ∀ later visit earlier, visits = later ++ visit :: earlier →
    ∀ entry ∈ visit.kept, (∀ other ∈ earlier, ∀ stored ∈ other.kept, stored.key ≠ entry.key) →
      ∀ other ∈ later, ∀ moment, (entry.key, moment) ∈ other.sought →
        entry.isExpiredAt moment = false

/-- What was made for a key at a visit is reported at a later one with that key, where
nothing is asked for. -/
def Reuses (later earlier : Visit) : Prop :=
  ∀ key payload, earlier.key? = some key → payload ∈ earlier.made → later.key? = some key →
    later.enrichment? = some (.cached payload) ∧ later.asked = [] ∧ later.kept = []

/-- Enrichments are made once for every key and used again. The latest visit is the first. -/
structure EnrichedOnce (visits : List Visit) : Prop where
  /-- No more than one enrichment is made for a key. -/
  once : ∀ key, ((visits.filter (·.key? = some key)).flatMap Visit.made).length ≤ 1
  /-- What was made for a key is reported later, without asking again. -/
  reused : visits.Pairwise Reuses
  /-- As long as nothing was made for a key, it is asked for at every visit. -/
  asked : ∀ visit earlier, visit :: earlier <:+ visits → ∀ key, visit.key? = some key →
    (∀ other ∈ earlier, other.key? = some key → other.made = []) →
      ∃ request answer, visit.asked = [(request, answer)]
  /-- What was made is reported and stored under the key of the file. -/
  stored : ∀ visit ∈ visits, ∀ payload ∈ visit.made,
    visit.enrichment? = some (.fresh payload) ∧
      ∃ entry, visit.kept = [entry] ∧ entry.payload = payload ∧ visit.key? = some entry.key
  /-- Nothing is stored when no enrichment can be made. -/
  failed : ∀ visit ∈ visits, ∀ request failure, (request, .error failure) ∈ visit.asked →
    visit.enrichment? = some (.failed failure.message) ∧ visit.kept = []
  /-- Nothing is asked for without a key. -/
  keyed : ∀ visit ∈ visits, visit.key? = none → visit.asked = []

variable {enricher : Enricher ε} {takes : Pipeline → Enricher ε → Prop} {pipeline : Pipeline}
  {contents : Contents} {visit : Visit} {visits earlier : List Visit} {key : Key}

/-! ## Courses -/

/-- What becomes of a file with a key. -/
theorem Visit.Course.of_key
    (course : visit.Course pipeline enricher contents)
    (isKey : visit.key? = some key) :
    ∃ request now enrichment asked kept, visit.sought = [(key, now)] ∧
      visit.enrichment? = some enrichment ∧ visit.asked = asked ∧ visit.kept = kept ∧
      Enriched enricher contents request key now enrichment asked kept := by
  cases course with
  | passedBy _ _ _ isReport _ =>
      obtain ⟨report, isReported, hasKey⟩ := Option.bind_eq_some_iff.mp isKey
      rw [(isReport report isReported).1] at hasKey
      exact absurd hasKey (by simp)
  | @enriched report _ _ other now isReport _ _ _ _ hasKey isSought became =>
      obtain rfl : other = key := by
        simpa [Visit.key?, isReport, hasKey] using isKey
      exact ⟨_, now, report.enrichment, _, _, isSought, by simp [Visit.enrichment?, isReport],
        rfl, rfl, became⟩

/-- Nothing becomes of a file without a key. -/
theorem Visit.Course.of_no_key
    (course : visit.Course pipeline enricher contents)
    (noKey : visit.key? = none) :
    visit.asked = [] ∧ visit.kept = [] := by
  cases course with
  | passedBy _ askedNothing keptNothing _ _ =>
      exact ⟨askedNothing, keptNothing⟩
  | enriched isReport _ _ _ _ hasKey _ _ =>
      simp [Visit.key?, isReport, hasKey] at noKey

/-- Where an entry was stored, an enrichment was made for a key without a fresh entry. -/
theorem Visit.Course.of_kept
    {entry : Entry}
    (course : visit.Course pipeline enricher contents)
    (isKept : entry ∈ visit.kept) :
    visit.key? = some entry.key ∧ visit.kept = [entry] ∧ visit.made = [entry.payload] ∧
      visit.enrichment? = some (.fresh entry.payload) ∧
      ∃ now, visit.sought = [(entry.key, now)] ∧ contents.fresh entry.key now = none := by
  cases isKey : visit.key? with
  | none =>
      rw [(course.of_no_key isKey).2] at isKept
      exact absurd isKept List.not_mem_nil
  | some key =>
      obtain ⟨request, now, enrichment, asked, kept, isSought, isEnrichment, isAsked, areKept,
        became⟩ := course.of_key isKey
      rw [areKept] at isKept
      cases became with
      | found isHit =>
          exact absurd isKept List.not_mem_nil
      | failed isMiss answer =>
          exact absurd isKept List.not_mem_nil
      | made isMiss answer hasKey =>
          obtain rfl := List.mem_singleton.mp isKept
          subst hasKey
          refine ⟨rfl, areKept, ?_, isEnrichment, now, isSought, isMiss⟩
          simp [Visit.made, isAsked, Except.toOption]

/-- Where an enrichment was made, an entry with it was stored under the key. -/
theorem Visit.Course.of_made
    {payload : Json}
    (course : visit.Course pipeline enricher contents)
    (isMade : payload ∈ visit.made) :
    ∃ entry ∈ visit.kept, entry.payload = payload := by
  rw [Visit.made] at isMade
  cases isKey : visit.key? with
  | none =>
      rw [(course.of_no_key isKey).1] at isMade
      exact absurd isMade List.not_mem_nil
  | some key =>
      obtain ⟨request, now, enrichment, asked, kept, isSought, isEnrichment, isAsked, areKept,
        became⟩ := course.of_key isKey
      rw [isAsked] at isMade
      rw [areKept]
      cases became with
      | found isHit =>
          exact absurd isMade List.not_mem_nil
      | failed isMiss answer =>
          simp [Except.toOption] at isMade
      | @made entry _ isMiss answer hasKey =>
          obtain rfl : payload = entry.payload := by
            simpa [Except.toOption] using isMade
          exact ⟨entry, List.mem_cons_self, rfl⟩

/-! ## What is under a key -/

/-- What was stored at the latest visit comes first. -/
theorem stored_cons
    (visit : Visit)
    (earlier : List Visit) :
    stored (visit :: earlier) = visit.kept ++ stored earlier :=
  List.flatMap_cons

/-- What is under a key after entries were stored is the latest of them with the key, or
what was there before. -/
theorem keep_eq
    (contents : Contents)
    (entries : List Entry)
    (key : Key) :
    keep contents entries key =
      (entries.find? fun entry => entry.key = key).or (contents key) := by
  induction entries with
  | nil =>
      rfl
  | cons first rest inductionHypothesis =>
      rw [keep, List.foldr_cons, Contents.update]
      by_cases isKey : first.key = key
      · simp [isKey]
      · have differs : key ≠ first.key := fun same => isKey same.symm
        rw [if_neg differs, List.find?_cons_of_neg (by simpa using isKey)]
        exact inductionHypothesis

/-- What is under a key is the latest entry with it. -/
theorem keptBy_eq
    (visits : List Visit)
    (key : Key) :
    keptBy visits key = (stored visits).find? fun entry => entry.key = key := by
  induction visits with
  | nil =>
      rfl
  | cons visit earlier inductionHypothesis =>
      rw [keptBy, keep_eq, inductionHypothesis, stored_cons, List.find?_append]

/-- An entry is found by its key, if no other has it. -/
theorem find?_key_eq_some
    {entries : List Entry}
    {entry : Entry}
    (distinct : (entries.map (·.key)).Nodup)
    (member : entry ∈ entries) :
    (entries.find? fun other => other.key = entry.key) = some entry := by
  induction entries with
  | nil =>
      exact absurd member List.not_mem_nil
  | cons first rest inductionHypothesis =>
      rw [List.map_cons, List.nodup_cons] at distinct
      rcases List.mem_cons.mp member with rfl | later
      · simp
      · have differs : first.key ≠ entry.key := by
          intro same
          exact distinct.1 (same ▸ List.mem_map_of_mem later)
        rw [List.find?_cons_of_neg (by simpa using differs)]
        exact inductionHypothesis distinct.2 later

/-! ## Chronicles -/

/-- Every visit takes its course. -/
theorem Chronicle.course
    (chronicle : Chronicle takes visits)
    (isSuffix : visit :: earlier <:+ visits) :
    ∃ pipeline enricher, takes pipeline enricher ∧
      visit.Course pipeline enricher (keptBy earlier) := by
  induction visits with
  | nil =>
      exact absurd isSuffix (by simp)
  | cons first rest inductionHypothesis =>
      rcases List.suffix_cons_iff.mp isSuffix with same | further
      · obtain ⟨rfl, rfl⟩ := List.cons.inj same
        exact chronicle.1
      · exact inductionHypothesis chronicle.2 further

/-- Every visit takes its course after some others. -/
theorem Chronicle.course_of_mem
    (chronicle : Chronicle takes visits)
    (member : visit ∈ visits) :
    ∃ pipeline enricher earlier, takes pipeline enricher ∧
      visit.Course pipeline enricher (keptBy earlier) := by
  obtain ⟨later, earlier, rfl⟩ := List.append_of_mem member
  obtain ⟨pipeline, enricher, taken, course⟩ :=
    chronicle.course (List.suffix_append later (visit :: earlier))
  exact ⟨pipeline, enricher, earlier, taken, course⟩

/-- What is left of timely visits is timely. -/
theorem Timely.of_cons
    (timely : Timely (visit :: earlier)) :
    Timely earlier := by
  rintro later other before rfl entry isKept isFirst after member moment isSought
  exact timely (visit :: later) other before rfl entry isKept isFirst after
    (List.mem_cons_of_mem visit member) moment isSought

/-- What is under a key is fresh when it is looked up. -/
theorem fresh_keptBy
    {now : Instant}
    (timely : Timely (visit :: earlier))
    (distinct : ((stored earlier).map (·.key)).Nodup)
    (isSought : (key, now) ∈ visit.sought) :
    (keptBy earlier).fresh key now = keptBy earlier key := by
  cases held : keptBy earlier key with
  | none =>
      rw [Contents.fresh, held]
      rfl
  | some entry =>
      rw [Contents.fresh_eq_some]
      refine ⟨held, ?_⟩
      rw [keptBy_eq] at held
      have isKey : entry.key = key := by
        simpa using List.find?_some held
      obtain ⟨other, member, isKept⟩ := List.mem_flatMap.mp (List.mem_of_find?_eq_some held)
      obtain ⟨later, before, rfl⟩ := List.append_of_mem member
      subst isKey
      refine timely (visit :: later) other before rfl entry isKept ?_ visit List.mem_cons_self now
        isSought
      intro third isEarlier first isStored same
      rw [stored, List.flatMap_append, List.map_append, List.nodup_append, List.flatMap_cons,
        List.map_append, List.nodup_append] at distinct
      have isBefore : first ∈ before.flatMap (·.kept) :=
        List.mem_flatMap.mpr ⟨third, isEarlier, isStored⟩
      exact distinct.2.1.2.2 entry.key (List.mem_map_of_mem isKept) first.key
        (List.mem_map_of_mem isBefore) same.symm

/-- No two entries are stored under the same key. -/
theorem nodup_stored
    (chronicle : Chronicle takes visits)
    (timely : Timely visits) :
    ((stored visits).map (·.key)).Nodup := by
  induction visits with
  | nil =>
      exact List.nodup_nil
  | cons visit earlier inductionHypothesis =>
      have distinct := inductionHypothesis chronicle.2 timely.of_cons
      obtain ⟨⟨pipeline, enricher, _, course⟩, _⟩ := chronicle
      rw [stored_cons, List.map_append, List.nodup_append]
      cases areKept : visit.kept with
      | nil =>
          exact ⟨List.nodup_nil, distinct, by simp⟩
      | cons entry rest =>
          obtain ⟨_, isOnly, _, _, now, isSought, isMiss⟩ :=
            course.of_kept (areKept ▸ List.mem_cons_self)
          rw [areKept] at isOnly
          have absent : keptBy earlier entry.key = none := by
            rw [← fresh_keptBy timely distinct (isSought ▸ List.mem_cons_self)]
            exact isMiss
          rw [keptBy_eq, List.find?_eq_none] at absent
          rw [isOnly]
          refine ⟨by simp, distinct, ?_⟩
          rintro _ isEntry _ isEarlier rfl
          obtain rfl := List.mem_singleton.mp isEntry
          obtain ⟨first, member, sameKey⟩ := List.mem_map.mp isEarlier
          exact absent first member (by simpa using sameKey)

/-- What was made for a key is reported later, without asking again. -/
theorem pairwise_reuses
    (chronicle : Chronicle takes visits)
    (timely : Timely visits) :
    visits.Pairwise Reuses := by
  induction visits with
  | nil =>
      exact .nil
  | cons visit earlier inductionHypothesis =>
      refine .cons ?_ (inductionHypothesis chronicle.2 timely.of_cons)
      intro other member key payload isKey isMade sameKey
      obtain ⟨_, _, _, _, otherCourse⟩ := Chronicle.course_of_mem chronicle.2 member
      obtain ⟨entry, isKept, rfl⟩ := otherCourse.of_made isMade
      obtain rfl : entry.key = key := by
        simpa [isKey] using (otherCourse.of_kept isKept).1.symm
      have distinct := nodup_stored chronicle.2 timely.of_cons
      obtain ⟨⟨pipeline, enricher, _, course⟩, _⟩ := chronicle
      obtain ⟨request, now, enrichment, asked, kept, isSought, isEnrichment, isAsked, areKept,
        became⟩ := course.of_key sameKey
      have isFresh :
          (keptBy earlier).fresh entry.key now = some entry := by
        rw [fresh_keptBy timely distinct (isSought ▸ List.mem_cons_self), keptBy_eq]
        exact find?_key_eq_some distinct (List.mem_flatMap.mpr ⟨other, member, isKept⟩)
      cases became with
      | found isHit =>
          obtain rfl := Option.some.inj (isHit.symm.trans isFresh)
          exact ⟨isEnrichment, isAsked, areKept⟩
      | failed isMiss answer =>
          exact absurd (isMiss.symm.trans isFresh) (by simp)
      | made isMiss answer hasKey =>
          exact absurd (isMiss.symm.trans isFresh) (by simp)

/-- No more than one enrichment is made at a visit. -/
theorem Visit.Course.length_made
    (course : visit.Course pipeline enricher contents) :
    visit.made.length ≤ 1 := by
  cases isMade : visit.made with
  | nil =>
      exact Nat.zero_le 1
  | cons payload rest =>
      obtain ⟨entry, isKept, _⟩ := course.of_made (isMade ▸ List.mem_cons_self)
      rw [← isMade, (course.of_kept isKept).2.2.1]
      exact Nat.le_refl 1

/-- No more than one enrichment is made for a key. -/
theorem length_made_le_one
    (chronicle : Chronicle takes visits)
    (reused : visits.Pairwise Reuses)
    (key : Key) :
    ((visits.filter (·.key? = some key)).flatMap Visit.made).length ≤ 1 := by
  induction visits with
  | nil =>
      exact Nat.zero_le 1
  | cons visit earlier inductionHypothesis =>
      rw [List.pairwise_cons] at reused
      have before := inductionHypothesis chronicle.2 reused.2
      by_cases isKey : visit.key? = some key
      · rw [List.filter_cons_of_pos (by simpa using isKey), List.flatMap_cons]
        cases isMade : (earlier.filter (·.key? = some key)).flatMap Visit.made with
        | nil =>
            obtain ⟨⟨pipeline, enricher, _, course⟩, _⟩ := chronicle
            rw [List.append_nil]
            exact course.length_made
        | cons payload rest =>
            have isThere : payload ∈ (earlier.filter (·.key? = some key)).flatMap Visit.made :=
              isMade ▸ List.mem_cons_self
            obtain ⟨other, isOther, madeThere⟩ := List.mem_flatMap.mp isThere
            obtain ⟨member, sameKey⟩ := List.mem_filter.mp isOther
            have noneAsked :=
              (reused.1 other member key payload (of_decide_eq_true sameKey) madeThere isKey).2.1
            rw [isMade] at before
            simpa [Visit.made, noneAsked] using before
      · rw [List.filter_cons_of_neg (by simpa using isKey)]
        exact before

/-- Enrichments are made once for every key and used again, as long as they are fresh. -/
theorem enrichedOnce_of_chronicle
    (chronicle : Chronicle takes visits)
    (timely : Timely visits) :
    EnrichedOnce visits where
  once := length_made_le_one chronicle (pairwise_reuses chronicle timely)
  reused := pairwise_reuses chronicle timely
  asked := by
    intro visit earlier isSuffix key isKey nothingMade
    obtain ⟨pipeline, enricher, _, course⟩ := chronicle.course isSuffix
    obtain ⟨request, now, enrichment, asked, kept, isSought, isEnrichment, isAsked, areKept,
      became⟩ := course.of_key isKey
    cases became with
    | @found entry isHit =>
        have held := (Contents.fresh_eq_some.mp isHit).1
        rw [keptBy_eq] at held
        obtain rfl : entry.key = key := by
          simpa using List.find?_some held
        obtain ⟨other, member, isKept⟩ := List.mem_flatMap.mp (List.mem_of_find?_eq_some held)
        obtain ⟨_, _, _, _, otherCourse⟩ :=
          chronicle.course_of_mem (isSuffix.subset (List.mem_cons_of_mem visit member))
        obtain ⟨sameKey, _, isMade, _⟩ := otherCourse.of_kept isKept
        rw [nothingMade other member sameKey] at isMade
        exact absurd isMade (by simp)
    | failed isMiss answer =>
        exact ⟨_, _, isAsked⟩
    | made isMiss answer hasKey =>
        exact ⟨_, _, isAsked⟩
  stored := by
    intro visit member payload isMade
    obtain ⟨_, _, _, _, course⟩ := chronicle.course_of_mem member
    obtain ⟨entry, isKept, rfl⟩ := course.of_made isMade
    obtain ⟨hasKey, isOnly, _, isFresh, _⟩ := course.of_kept isKept
    exact ⟨isFresh, entry, isOnly, rfl, hasKey⟩
  failed := by
    intro visit member request failure isFailed
    obtain ⟨_, _, _, _, course⟩ := chronicle.course_of_mem member
    cases isKey : visit.key? with
    | none =>
        rw [(course.of_no_key isKey).1] at isFailed
        exact absurd isFailed List.not_mem_nil
    | some key =>
        obtain ⟨_, now, enrichment, asked, kept, isSought, isEnrichment, isAsked, areKept,
          became⟩ := course.of_key isKey
        rw [isAsked] at isFailed
        cases became with
        | found isHit =>
            exact absurd isFailed List.not_mem_nil
        | failed isMiss answer =>
            simp only [List.mem_singleton, Prod.mk.injEq, Except.error.injEq] at isFailed
            rw [isFailed.2]
            exact ⟨isEnrichment, areKept⟩
        | made isMiss answer hasKey =>
            simp at isFailed
  keyed := by
    intro visit member noKey
    obtain ⟨_, _, _, _, course⟩ := chronicle.course_of_mem member
    exact (course.of_no_key noKey).1

/-- In a history of runs with enrichers whose payloads can be stored, enrichments are made
once for every key and used again, as long as they are fresh. -/
theorem History.enrichedOnce
    {cache : CacheSettings}
    {place : Place}
    {workspace : Workspace ε π}
    (history : History cache place takes workspace visits)
    (dated : Dated visits)
    (timely : Timely visits) :
    EnrichedOnce visits :=
  enrichedOnce_of_chronicle (history.sound dated).chronicle timely

/-! ## Runs that do not take long -/

/-- An entry is fresh until the second in which it expires. -/
theorem isExpiredAt_of_lt
    {entry : Entry}
    {moment : Instant}
    (inCalendar : Instant.firstSecond ≤ entry.createdAt.seconds ∧
      entry.createdAt.seconds + entry.ttlSeconds.toNat ≤ Instant.lastSecond)
    (isShort : entry.ttlSeconds.toNat ≤ maxDuration)
    (soon : moment.seconds < entry.createdAt.seconds + entry.ttlSeconds.toNat) :
    entry.isExpiredAt moment = false := by
  have later : entry.expiresAt.seconds = entry.createdAt.seconds + entry.ttlSeconds.toNat := by
    rw [Entry.expiresAt, expiry, Nat.min_eq_left isShort, Instant.addSeconds?]
    by_cases isNow : entry.ttlSeconds.toNat = 0
    · have isHere : entry.createdAt.inCalendar = true := by
        rw [Instant.inCalendar, Bool.and_eq_true, decide_eq_true_iff, decide_eq_true_iff]
        omega
      simp [isNow, isHere]
    · simp only [if_neg isNow, Instant.inCalendar]
      rw [if_pos (by rw [Bool.and_eq_true, decide_eq_true_iff, decide_eq_true_iff]; omega)]
      rfl
  rw [Entry.isExpiredAt, Instant.before, later, Bool.or_eq_false_iff, Bool.and_eq_false_iff]
  exact ⟨decide_eq_false (by omega), Or.inl (decide_eq_false (by omega))⟩

/-- A moment is one of the calendar, no later than a number of seconds after a start. -/
def Soon (start : Int) (seconds : Nat) (moment : Instant) : Prop :=
  moment.IsValid ∧ start ≤ moment.seconds ∧ moment.seconds < start + seconds

/-- What was stored soon has a date. -/
theorem dated_of_during
    {start : Int}
    {seconds : Nat}
    {ttl : UInt64}
    (during : ∀ visit ∈ visits, visit.During (Soon start seconds) ttl) :
    Dated visits :=
  fun visit member entry isKept => ((during visit member).2 entry isKept).1.1

/-- If everything happens before the first entry can expire, keys are looked up in time. -/
theorem timely_of_during
    {start : Int}
    {ttl : UInt64}
    (during : ∀ visit ∈ visits, visit.During (Soon start ttl.toNat) ttl)
    (inCalendar : Instant.firstSecond ≤ start ∧ start + 2 * ttl.toNat ≤ Instant.lastSecond)
    (isShort : ttl.toNat ≤ maxDuration) :
    Timely visits := by
  rintro later visit earlier rfl entry isKept _ other isLater moment isSought
  obtain ⟨⟨_, notEarly, early⟩, isTtl⟩ :=
    (during visit (List.mem_append_right later List.mem_cons_self)).2 entry isKept
  obtain ⟨_, _, soon⟩ := (during other (List.mem_append_left _ isLater)).1 _ isSought
  dsimp only at soon
  refine isExpiredAt_of_lt ?_ ?_ ?_
  · rw [isTtl]
    omega
  · rw [isTtl]
    exact isShort
  · rw [isTtl]
    omega

/-! ## Two equal files -/

/-- Settings with a directory at the top. -/
def topCache : CacheSettings where
  directory := "cache"

/-- An enricher that has the same to say about every file. -/
def constantEnricher : Enricher Unit where
  configId := "constant"
  enrich _ state := (.ok .null, state)

/-- A publisher that takes everything. -/
def patientPublisher : Publisher Unit where
  publish _ _ state := (.ok (), state)
  finish _ state := (.ok (), state)

/-- A workspace with two equal files and an empty directory for a store. -/
def twins : Workspace Unit Unit where
  disk := { entries := [(["cache"], .directory), (["a.py"], .file [] {}), (["b.py"], .file [] {})] }
  store := Store.ofSettings topCache
  enricher := ()
  publisher := ()

/-- A run over two equal files makes no more than one enrichment. -/
theorem History.enrichedOnce_twins :
    EnrichedOnce ((Pipeline.ofSettings { cache := topCache } "constant").run
      (watched {} constantEnricher patientPublisher)
      [{ path := "a.py", sizeBytes := 0 }, { path := "b.py", sizeBytes := 0 }]
      (twins, [])).state.2 := by
  have found : twins.disk.find true topCache.directory = .ok (["cache"], .directory) :=
    find_top (by decide) (by decide)
  have begins : History topCache ["cache"] (fun _ _ => True) twins [] :=
    .begin rfl found (by decide) (by decide) (by decide)
  have storable : constantEnricher.IsStorable := by
    rintro request state payload isMade
    obtain rfl := Except.ok.inj isMade
    exact Json.plain_null
  have elsewhere : SavesElsewhere topCache ["cache"] (twins.disk.prune ["cache"])
      (Pipeline.ofSettings { cache := topCache } "constant") :=
    fun path isPath => absurd isPath (by simp [Pipeline.ofSettings])
  have isShown : twins.clock.Shows (Soon 0 topCache.ttlSeconds.toNat) 7 := by
    unfold Clock.Shows Soon
    decide
  obtain ⟨made, areMade, during⟩ :=
    exists_run_visits {} constantEnricher patientPublisher
      (Pipeline.ofSettings { cache := topCache } "constant")
      [{ path := "a.py", sizeBytes := 0 }, { path := "b.py", sizeBytes := 0 }] isShown []
  rw [List.append_nil] at areMade
  rw [← areMade] at during
  exact History.enrichedOnce
    (.run begins rfl trivial storable elsewhere patientPublisher _)
    (dated_of_during during) (timely_of_during during (by decide) (by decide))

end SourceFacts.Run
