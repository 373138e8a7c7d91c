import Mathlib.Data.List.Infix
import SourceFacts.Failures.Record
import SourceFacts.Proofs.Text.Encodings
import SourceFacts.Text.Lowercase
import SourceFacts.Text.Pieces

namespace SourceFacts.Text

open List

/-!
# Categories of failures by the words of their messages

A message has a category if a word of that occurs in it, whatever its case.
-/

/-!
## Words in texts

Where a word occurs in a text that is put together from others, and in one that is taken in lower
case. The lower-case form of a text is not put together from those of its parts: what a capital
sigma becomes depends on its neighbours. It is when all small sigmas are written alike, which does
not matter to a word that has none.
-/

/-! ### Occurrences -/

theorem occursIn_iff
    {word chars : List Char} :
    occursIn word chars = true ↔ word <:+: chars := by
  induction chars with
  | nil =>
      simp [occursIn]
  | cons c rest inductionHypothesis =>
      simp only [occursIn, Bool.or_eq_true, List.isPrefixOf_iff_prefix, inductionHypothesis,
        List.infix_cons_iff]

/-- A word does not go over a character that it does not have. -/
theorem infix_append_cons_iff
    {word before after : List Char}
    {mark : Char}
    (noMark : mark ∉ word) :
    word <:+: before ++ mark :: after ↔ word <:+: before ∨ word <:+: after := by
  constructor
  · intro occurs
    rcases List.infix_append_iff.mp occurs with isBefore | isAfter | ⟨first, rest, rfl, ends, begins⟩
    · exact .inl isBefore
    · rcases List.infix_cons_iff.mp isAfter with begins | isAfter
      · cases word with
        | nil =>
            exact .inl List.nil_infix
        | cons c more =>
            obtain rfl := (List.cons_prefix_cons.mp begins).1
            exact (noMark List.mem_cons_self).elim
      · exact .inr isAfter
    · cases rest with
      | nil =>
          rw [List.append_nil]
          exact .inl ends.isInfix
      | cons c more =>
          obtain rfl := (List.cons_prefix_cons.mp begins).1
          exact (noMark (List.mem_append_right first List.mem_cons_self)).elim
  · rintro (isBefore | isAfter)
    · exact isBefore.trans (List.prefix_append before _).isInfix
    · exact isAfter.trans ((List.suffix_cons mark after).trans
        (List.suffix_append before _)).isInfix

/-- A word does not go over characters none of which it has. -/
theorem infix_append_append_iff
    {word before between after : List Char}
    (isBetween : between ≠ [])
    (apart : ∀ c ∈ between, c ∉ word) :
    word <:+: before ++ (between ++ after) ↔ word <:+: before ∨ word <:+: after := by
  induction between generalizing before with
  | nil =>
      exact (isBetween rfl).elim
  | cons mark marks inductionHypothesis =>
      rw [List.forall_mem_cons] at apart
      rw [List.cons_append, infix_append_cons_iff apart.1]
      cases marks with
      | nil =>
          rfl
      | cons next more =>
          have onlyAfter : word <:+: next :: more ++ after ↔ word <:+: [] ∨ word <:+: after :=
            @inductionHypothesis [] (List.cons_ne_nil next more) apart.2
          have emptyBefore : word <:+: [] → word <:+: before := by
            intro isEmpty
            rw [List.eq_nil_of_infix_nil isEmpty]
            exact List.nil_infix
          rw [onlyAfter, ← or_assoc, or_iff_left_of_imp emptyBefore]

/-! ### Lower case -/

/-- A character, where the sigma at the end of a word is written as any other. -/
def unfinal (c : Char) : Char := if c = 'ς' then 'σ' else c

/-- The lower-case form of a character wherever it stands, with all small sigmas written alike. -/
def lowerLetter (c : Char) : List Char := (lowerBetween [] c []).map unfinal

/-- The lower-case form of characters, with all small sigmas written alike. -/
def lowerLetters (chars : List Char) : List Char := chars.flatMap lowerLetter

@[simp] theorem lowerLetters_append (first second : List Char) :
    lowerLetters (first ++ second) = lowerLetters first ++ lowerLetters second :=
  List.flatMap_append

/-- Up to the form of a sigma, neighbours do not matter to the lower-case form. -/
theorem map_unfinal_lowerBetween (before : List Char) (c : Char) (after : List Char) :
    (lowerBetween before c after).map unfinal = lowerLetter c := by
  rw [lowerLetter]
  unfold lowerBetween
  by_cases isSigma : c = 'Σ'
  · rw [if_pos isSigma, if_pos isSigma]
    split <;> rfl
  · rw [if_neg isSigma, if_neg isSigma]

theorem map_unfinal_lowerAfter (before chars : List Char) :
    (lowerAfter before chars).map unfinal = lowerLetters chars := by
  induction chars generalizing before with
  | nil =>
      rfl
  | cons c rest inductionHypothesis =>
      rw [lowerAfter, List.map_append, map_unfinal_lowerBetween, inductionHypothesis]
      rfl

/-- A word without sigmas occurs in characters whether or not their sigmas are written alike. -/
theorem infix_map_unfinal_iff
    {word chars : List Char}
    (noSigma : 'σ' ∉ word ∧ 'ς' ∉ word) :
    word <:+: chars.map unfinal ↔ word <:+: chars := by
  have notFinal {c : Char} (member : unfinal c ∈ word) : unfinal c = c := by
    unfold unfinal at member ⊢
    split at member
    · exact (noSigma.1 member).elim
    next notFinal =>
      rw [if_neg notFinal]
  constructor
  · intro occurs
    obtain ⟨part, isPart, rfl⟩ := List.infix_map_iff.mp occurs
    have same : part.map unfinal = part := by
      conv_rhs => rw [← List.map_id part]
      apply List.map_congr_left
      intro c member
      exact notFinal (List.mem_map_of_mem member)
    rwa [same]
  · intro occurs
    have same : word.map unfinal = word := by
      conv_rhs => rw [← List.map_id word]
      apply List.map_congr_left
      intro c member
      apply if_neg
      rintro rfl
      exact noSigma.2 member
    rw [← same]
    exact occurs.map unfinal

/-- Whether a text has a word in lower case can be told from its letters one by one. -/
theorem contains_lowercase_iff
    {text word : String}
    (noSigma : 'σ' ∉ word.toList ∧ 'ς' ∉ word.toList) :
    contains (lowercase text) word = true ↔ word.toList <:+: lowerLetters text.toList := by
  rw [contains, occursIn_iff, lowercase, String.toList_ofList, ← infix_map_unfinal_iff noSigma,
    map_unfinal_lowerAfter]

/-! ### ASCII -/

/-- Of the runs of capitals only the first one is in ASCII. -/
theorem lowerChar_of_ascii
    {c : Char}
    (isAscii : c.toNat < 128) :
    lowerChar c = c.toLower := by
  have capitals : capitalRuns = [⟨'A'.toNat, 'Z'.toNat, 1, 32⟩] ++ capitalRuns.tail := rfl
  have noLater : capitalRuns.tail.find? (·.covers c.toNat) = none := by
    rw [List.find?_eq_none]
    intro run member covers
    have begins : ∀ run ∈ capitalRuns.tail, 128 ≤ run.first := by decide +kernel
    simp only [CapitalRun.covers, Bool.and_eq_true, decide_eq_true_eq] at covers
    exact absurd isAscii (Nat.not_lt.mpr (Nat.le_trans (begins run member) covers.1.1))
  have byFirst : ∀ code : Fin 128,
      ([(⟨'A'.toNat, 'Z'.toNat, 1, 32⟩ : CapitalRun)].find?
          (·.covers (Char.ofNat code).toNat)).elim (Char.ofNat code)
          (fun run => Char.ofNat ((Char.ofNat code).toNat + run.shift).toNat) =
        (Char.ofNat code).toLower := by
    decide +kernel
  have same := byFirst ⟨c.toNat, isAscii⟩
  rw [Char.ofNat_toNat] at same
  rw [lowerChar, capitals, List.find?_append, noLater, Option.or_none, ← same]
  split
  next run isFirst =>
    rw [isFirst]
    rfl
  next noFirst =>
    rw [noFirst]
    rfl

theorem lowerLetter_of_ascii
    {c : Char}
    (isAscii : c.toNat < 128) :
    lowerLetter c = [c.toLower] := by
  have noneSpecial : ∀ code : Fin 128,
      Char.ofNat code ≠ 'Σ' ∧ Char.ofNat code ≠ 'İ' ∧ (Char.ofNat code).toLower ≠ 'ς' := by
    decide +kernel
  have notSpecial := noneSpecial ⟨c.toNat, isAscii⟩
  rw [Char.ofNat_toNat] at notSpecial
  rw [lowerLetter, lowerBetween, if_neg notSpecial.1, if_neg notSpecial.2.1,
    lowerChar_of_ascii isAscii, List.map_singleton, unfinal, if_neg notSpecial.2.2]

theorem lowerLetters_of_ascii
    {chars : List Char}
    (isAscii : ∀ c ∈ chars, c.toNat < 128) :
    lowerLetters chars = chars.map Char.toLower := by
  rw [lowerLetters, List.flatMap_congr fun c member => lowerLetter_of_ascii (isAscii c member)]
  exact List.map_eq_flatMap.symm

/-- The digits of a number are in lower case. -/
theorem lowerLetters_toDigits (value : Nat) :
    lowerLetters (Nat.toDigits 10 value) = Nat.toDigits 10 value := by
  have isOwn : ∀ code : Fin 128,
      (Char.ofNat code).isDigit = true → (Char.ofNat code).toLower = Char.ofNat code := by
    decide +kernel
  have isLower : ∀ c ∈ Nat.toDigits 10 value, c.toNat < 128 ∧ c.toLower = c := by
    intro c member
    have isDigit := List.all_eq_true.mp (all_isDigit_toDigits value) c member
    have isAscii : c.toNat < 128 := by
      simp only [Char.isDigit, Bool.and_eq_true, decide_eq_true_eq] at isDigit
      exact Nat.lt_of_le_of_lt isDigit.2 (by decide)
    have same := isOwn ⟨c.toNat, isAscii⟩
    rw [Char.ofNat_toNat] at same
    exact ⟨isAscii, same isDigit⟩
  rw [lowerLetters_of_ascii fun c member => (isLower c member).1,
    List.map_congr_left fun c member => (isLower c member).2]
  exact List.map_id _

end SourceFacts.Text

namespace SourceFacts.Failures.Category

open List Text

/-!
## How messages are sorted

The groups of words are tried in order, and the first one that has a word in the message tells its
category. More text around a message brings more words with it and takes none away, so that the
category can only come from the same group or an earlier one.
-/

/-! ### Words of messages -/

/-- A message has a word, whatever its case. -/
def HasWord (message word : String) : Prop := word.toList <:+: lowerLetters message.toList

/-- Words are looked for in ASCII texts without the table of capitals. -/
instance (message word : String) : Decidable (HasWord message word) :=
  if isAscii : message.toList.all (·.toNat < 128) then
    decidable_of_iff (word.toList <:+: message.toList.map Char.toLower)
      (Iff.of_eq (congrArg (word.toList <:+: ·) (lowerLetters_of_ascii fun c member =>
        of_decide_eq_true (List.all_eq_true.mp isAscii c member)).symm))
  else inferInstanceAs (Decidable (word.toList <:+: lowerLetters message.toList))

/-- A message has a word of a group. -/
def fits (message : String) (rule : Category × List String) : Bool :=
  rule.2.any (Text.contains (lowercase message))

/-- No word of a group has a sigma. -/
theorem no_sigma :
    ∀ rule ∈ rules, ∀ word ∈ rule.2, 'σ' ∉ word.toList ∧ 'ς' ∉ word.toList := by
  decide

theorem fits_iff
    {message : String}
    {rule : Category × List String}
    (isRule : rule ∈ rules) :
    fits message rule = true ↔ ∃ word ∈ rule.2, HasWord message word := by
  rw [fits, List.any_eq_true]
  apply exists_congr
  intro word
  apply and_congr_right
  intro isWord
  exact contains_lowercase_iff (no_sigma rule isRule word isWord)

/-- A message keeps its words when there is more text around it. -/
theorem HasWord.wrapped
    {message word : String}
    (hasWord : HasWord message word)
    (before after : String) :
    HasWord (before ++ message ++ after) word := by
  rw [HasWord, String.toList_append, String.toList_append, lowerLetters_append,
    lowerLetters_append]
  exact hasWord.trans (List.infix_append _ _ _)

/-! ### The order of the groups -/

/-- The categories in the order in which their words are looked for, and last the one of a message
without such words. -/
def precedence : List Category := rules.map (·.1) ++ [.unknownError]

example :
    precedence =
      [.timeoutError, .resourceLimitError, .encodingError, .syntaxError, .fileAccessError,
        .unknownError] :=
  rfl

/-- The place of a category in that order. -/
def rank (category : Category) : Nat := precedence.idxOf category

/-! ### The first group that fits -/

theorem classify_eq (message : String) :
    classify message = ((rules.find? (fits message)).map (·.1)).getD .unknownError :=
  rfl

/-- The first group that has a word in a message tells the category. -/
theorem classify_of_first
    {message : String}
    (rule : Category × List String)
    (isRule : rule ∈ rules)
    (hasWord : ∃ word ∈ rule.2, HasWord message word)
    (noEarlier : ∀ earlier ∈ rules, earlier.1.rank < rule.1.rank →
      ∀ word ∈ earlier.2, ¬ HasWord message word) :
    classify message = rule.1 := by
  have ordered : rules.Pairwise fun first second => first.1.rank < second.1.rank := by
    decide
  obtain ⟨before, after, isRules⟩ := List.append_of_mem isRule
  rw [isRules, List.pairwise_append] at ordered
  have isSkipped : before.find? (fits message) = none := by
    rw [List.find?_eq_none]
    intro earlier member isFitting
    have isEarlier : earlier ∈ rules := by
      rw [isRules]
      exact List.mem_append_left _ member
    obtain ⟨word, isWord, hasWord⟩ := (fits_iff isEarlier).mp isFitting
    have ranks := ordered.2.2 earlier member rule List.mem_cons_self
    exact noEarlier earlier isEarlier ranks word isWord hasWord
  rw [classify_eq, isRules, List.find?_append, isSkipped,
    List.find?_cons_of_pos ((fits_iff isRule).mpr hasWord)]
  rfl

/-- Among groups of different categories, the category of the first one that fits has the place of
that group. -/
theorem idxOf_firstFitting
    {groups : List (Category × List String)}
    {other : Category}
    (isFitting : Category × List String → Bool)
    (distinct : (groups.map (·.1) ++ [other]).Nodup) :
    (groups.map (·.1) ++ [other]).idxOf (((groups.find? isFitting).map (·.1)).getD other) =
      groups.findIdx isFitting := by
  induction groups with
  | nil =>
      exact List.idxOf_cons_self
  | cons first rest inductionHypothesis =>
      rw [List.map_cons, List.cons_append] at distinct ⊢
      cases fitsFirst : isFitting first with
      | true =>
          rw [List.find?_cons_of_pos fitsFirst, List.findIdx_cons, fitsFirst]
          exact List.idxOf_cons_self
      | false =>
          have isLater :
              ((rest.find? isFitting).map (·.1)).getD other ∈ rest.map (·.1) ++ [other] := by
            cases found : rest.find? isFitting with
            | none =>
                exact List.mem_append_right _ List.mem_cons_self
            | some rule =>
                have isRule := List.mem_of_find?_eq_some found
                exact List.mem_append_left _ (List.mem_map_of_mem isRule)
          have differs := ne_of_mem_of_not_mem isLater (List.nodup_cons.mp distinct).1
          rw [List.find?_cons_of_neg (Bool.eq_false_iff.mp fitsFirst), List.findIdx_cons, fitsFirst,
            List.idxOf_cons_ne _ differs.symm,
            inductionHypothesis (List.nodup_cons.mp distinct).2]
          rfl

/-- The category of a message has the place of the first group that fits. -/
theorem rank_classify (message : String) :
    (classify message).rank = rules.findIdx (fits message) :=
  idxOf_firstFitting (fits message) (by decide)

/-- More text around a message never takes it to a later group, and case does not matter. -/
theorem rank_classify_wrapped_le (before message after other : String) :
    (classify (before ++ message ++ after)).rank ≤ (classify message).rank ∧
      (lowercase other = lowercase message → classify other = classify message) := by
  constructor
  · rw [rank_classify, rank_classify]
    apply List.findIdx_le_findIdx
    intro rule isRule isFitting
    obtain ⟨word, isWord, hasWord⟩ := (fits_iff isRule).mp isFitting
    exact (fits_iff isRule).mpr ⟨word, isWord, hasWord.wrapped before after⟩
  · intro sameLetters
    exact congrArg ofLowered sameLetters

/-- The sigma that ends a message has another form when a letter follows, so that the message in
lower case is no part of the longer one in lower case; its words still are. -/
theorem rank_classify_wrapped_le_sigma :
    ¬ (lowercase "Syntax error: ΑΣ").toList <:+:
        (lowercase ("UNICODE " ++ "Syntax error: ΑΣ" ++ "Β")).toList ∧
      lowercase "SYNTAX ERROR: ας" = lowercase "Syntax error: ΑΣ" ∧
      classify "Syntax error: ΑΣ" = .syntaxError ∧
      (classify ("UNICODE " ++ "Syntax error: ΑΣ" ++ "Β")).rank ≤
        (classify "Syntax error: ΑΣ").rank ∧
      classify "SYNTAX ERROR: ας" = classify "Syntax error: ΑΣ" := by
  have sameLetters : lowercase "SYNTAX ERROR: ας" = lowercase "Syntax error: ΑΣ" := by
    decide +kernel
  have sorted := rank_classify_wrapped_le "UNICODE " "Syntax error: ΑΣ" "Β" "SYNTAX ERROR: ας"
  exact ⟨by decide +kernel, sameLetters, by decide +kernel, sorted.1, sorted.2 sameLetters⟩

end SourceFacts.Failures.Category
