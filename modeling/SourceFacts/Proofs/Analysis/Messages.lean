import SourceFacts.Analysis.SourceFile
import SourceFacts.Proofs.Failures.Categories

namespace SourceFacts.Analysis

open Disk Failures Failures.Category List Text

/-!
# What failures are sorted into

Every message begins with words that belong to the category of its failure. Numbers in it bring no
word, so that it depends on the fixed words only where it is sorted. The words of the system are
not fixed: where they have a word of a group that is tried before that of file access, a file that
cannot be read is sorted by them.
-/

/-! ## Messages with numbers -/

theorem lowerLetters_number (before after : String) (number : Nat) :
    lowerLetters (before ++ toString number ++ after).toList =
      lowerLetters before.toList ++ (Nat.toDigits 10 number ++ lowerLetters after.toList) := by
  have digits : (toString number).toList = Nat.toDigits 10 number := Nat.toList_repr
  rw [String.toList_append, String.toList_append, digits, lowerLetters_append,
    lowerLetters_append, lowerLetters_toDigits, List.append_assoc]

/-- A number in a message brings no word without digits. -/
theorem hasWord_number_iff
    (before after : String)
    (number : Nat)
    {word : String}
    (noDigit : word.toList.any Char.isDigit = false) :
    HasWord (before ++ toString number ++ after) word ↔
      HasWord before word ∨ HasWord after word := by
  have apart : ∀ c ∈ Nat.toDigits 10 number, c ∉ word.toList := by
    intro c isDigit inWord
    have digit := List.all_eq_true.mp (all_isDigit_toDigits number) c isDigit
    exact List.any_eq_false.mp noDigit c inWord digit
  rw [HasWord, lowerLetters_number]
  exact infix_append_append_iff Nat.toDigits_ne_nil apart

/-- A word does not occur without its characters, of which a number only brings digits. -/
theorem not_hasWord_number
    {before after word : String}
    {number : Nat}
    {c : Char}
    (inWord : c ∈ word.toList)
    (noDigit : c.isDigit = false)
    (notBefore : ¬ HasWord before (String.singleton c))
    (notAfter : ¬ HasWord after (String.singleton c)) :
    ¬ HasWord (before ++ toString number ++ after) word := by
  intro hasWord
  rw [HasWord, String.toList_singleton, List.singleton_infix_iff] at notBefore notAfter
  rw [HasWord, lowerLetters_number] at hasWord
  have member := hasWord.subset inWord
  simp only [List.mem_append, notBefore, notAfter, false_or, or_false] at member
  have digit := List.all_eq_true.mp (all_isDigit_toDigits number) c member
  rw [noDigit] at digit
  cases digit

/-! ## Messages that quote another text -/

/-- A word without a colon is in what stands before a colon or in what is quoted after it. -/
theorem hasWord_colon_iff
    (before after : String)
    {word : String}
    (noColon : ':' ∉ word.toList)
    (noBlank : word.toList.head? ≠ some ' ') :
    HasWord (before ++ ": " ++ after) word ↔ HasWord before word ∨ HasWord after word := by
  have colon : lowerLetters ": ".toList = [':', ' '] := by
    decide +kernel
  have behind {chars : List Char} : word.toList <:+: ' ' :: chars ↔ word.toList <:+: chars := by
    rw [List.infix_cons_iff]
    constructor
    · rintro (begins | occurs)
      · cases isText : word.toList with
        | nil =>
            exact List.nil_infix
        | cons c rest =>
            rw [isText] at begins noBlank
            exact (noBlank (congrArg some (List.cons_prefix_cons.mp begins).1)).elim
      · exact occurs
    · exact .inr
  rw [HasWord, String.toList_append, String.toList_append, lowerLetters_append,
    lowerLetters_append, colon, List.append_assoc, List.cons_append, List.cons_append,
    List.nil_append, infix_append_cons_iff noColon, behind]
  rfl

/-! ## Fixed words -/

/-- The texts that messages consist of besides numbers and the words of the system, each with the
category of its failure. -/
def fixedTexts : List (String × Category) := [
  ("Parse timed out after ", .timeoutError), (" ms", .timeoutError),
  ("File size ", .resourceLimitError), (" bytes exceeds limit of ", .resourceLimitError),
  (" bytes", .resourceLimitError), ("Encoding error", .encodingError),
  ("binary content (NUL byte at offset ", .encodingError),
  ("content is not valid UTF-8 (invalid byte at offset ", .encodingError), (")", .encodingError),
  ("Syntax error at line ", .syntaxError),
  (": no complete statement could be parsed", .syntaxError),
  ("File access error", .fileAccessError)]

/-- Fixed texts have no words of groups that are tried before their own. -/
theorem fixedTexts_apart :
    ∀ fixed ∈ fixedTexts, ∀ rule ∈ rules, rule.1.rank < fixed.2.rank →
      ∀ word ∈ rule.2, ¬ HasWord fixed.1 word := by
  decide +kernel

/-- Every message has a word of its own group in one of its fixed texts. -/
theorem fixedTexts_haveWords :
    HasWord "Parse timed out after " "timed out" ∧
      HasWord " bytes exceeds limit of " "exceeds limit" ∧ HasWord "Encoding error" "encoding" ∧
      HasWord "Syntax error at line " "syntax" ∧ HasWord "File access error: " "file access" := by
  decide +kernel

/-- The fixed texts of syntax errors have no hyphen. -/
theorem fixedTexts_noHyphen :
    ∀ fixed ∈ fixedTexts, fixed.2 = .syntaxError → ¬ HasWord fixed.1 (String.singleton '-') := by
  decide +kernel

/-- No word has a colon or begins with a blank, and the one word with a digit has a hyphen. -/
theorem words_arePlain :
    ∀ rule ∈ rules, ∀ word ∈ rule.2,
      ':' ∉ word.toList ∧ word.toList.head? ≠ some ' ' ∧
        (word.toList.any Char.isDigit = false ∨
          rule.1 = .encodingError ∧ '-' ∈ word.toList) := by
  decide +kernel

/-- Words that are tried before those of encodings have no digits. -/
theorem noDigit_of_earlier
    {rule : Category × List String}
    {word : String}
    (isRule : rule ∈ rules)
    (isEarlier : rule.1.rank < Category.encodingError.rank)
    (isWord : word ∈ rule.2) :
    word.toList.any Char.isDigit = false := by
  rcases (words_arePlain rule isRule word isWord).2.2 with noDigit | ⟨isEncoding, -⟩
  · exact noDigit
  · rw [isEncoding] at isEarlier
    exact (Nat.lt_irrefl _ isEarlier).elim

/-- A text has a word of a group that is tried before that of file access. -/
def HasEarlierWord (text : String) : Prop :=
  ∃ rule ∈ rules, rule.1.rank < Category.fileAccessError.rank ∧ ∃ word ∈ rule.2, HasWord text word

instance (text : String) : Decidable (HasEarlierWord text) :=
  inferInstanceAs (Decidable (∃ rule ∈ rules, _ ∧ ∃ word ∈ rule.2, HasWord text word))

/-- A word of an earlier group is in the message of a file that cannot be read only if the system
says it. -/
theorem hasWord_fileAccess_iff
    {error : OsError}
    {rule : Category × List String}
    {word : String}
    (isRule : rule ∈ rules)
    (isEarlier : rule.1.rank < Category.fileAccessError.rank)
    (isWord : word ∈ rule.2) :
    HasWord (Failure.fileAccess error).message word ↔ HasWord error.message word := by
  obtain ⟨noColon, noBlank, -⟩ := words_arePlain rule isRule word isWord
  have notFixed : ¬ HasWord "File access error" word :=
    fixedTexts_apart (_, .fileAccessError) (by simp [fixedTexts]) rule isRule isEarlier word isWord
  have lead : "File access error: " = "File access error" ++ ": " := by
    decide
  have message :
      (Failure.fileAccess error).message = "File access error" ++ ": " ++ error.message :=
    congrArg (· ++ error.message) lead
  rw [message, hasWord_colon_iff _ _ noColon noBlank]
  exact or_iff_right notFixed

/-! ## Categories -/

/-- The category of a failure. -/
def Failure.category : Failure → Category
  | .fileAccess _ => .fileAccessError
  | .resourceLimit .. => .resourceLimitError
  | .encoding _ => .encodingError
  | .timeout _ => .timeoutError
  | .syntaxError _ => .syntaxError

theorem classify_timeout (milliseconds : Nat) :
    classify (Failure.timeout milliseconds).message = .timeoutError := by
  have isFirst : ∀ earlier ∈ rules, ¬ earlier.1.rank < Category.timeoutError.rank := by
    decide
  have isFixed : HasWord "Parse timed out after " "timed out" := fixedTexts_haveWords.1
  refine classify_of_first rules[0] (by decide) ⟨"timed out", by decide, ?_⟩ ?_
  · exact (hasWord_number_iff _ _ _ (by decide)).mpr (.inl isFixed)
  · intro earlier isRule isEarlier
    exact (isFirst earlier isRule isEarlier).elim

theorem classify_resourceLimit (size limit : Nat) :
    classify (Failure.resourceLimit size limit).message = .resourceLimitError := by
  have isFixed : HasWord " bytes exceeds limit of " "exceeds limit" := fixedTexts_haveWords.2.1
  refine classify_of_first rules[1] (by decide) ⟨"exceeds limit", by decide, ?_⟩ ?_
  · apply (hasWord_number_iff _ " bytes" limit (by decide)).mpr
    exact .inl ((hasWord_number_iff "File size " _ size (by decide)).mpr (.inr isFixed))
  · intro earlier isRule isEarlier word isWord hasWord
    have noDigit := noDigit_of_earlier isRule (isEarlier.trans (by decide)) isWord
    have apart {text : String} (isText : (text, .resourceLimitError) ∈ fixedTexts) :
        ¬ HasWord text word :=
      fixedTexts_apart _ isText earlier isRule isEarlier word isWord
    rcases (hasWord_number_iff _ _ limit noDigit).mp hasWord with inSize | inLast
    · rcases (hasWord_number_iff _ _ size noDigit).mp inSize with inFirst | inSecond
      · exact apart (by simp [fixedTexts]) inFirst
      · exact apart (by simp [fixedTexts]) inSecond
    · exact apart (by simp [fixedTexts]) inLast

theorem classify_encoding (fault : EncodingFault) :
    classify (Failure.encoding fault).message = .encodingError := by
  have lead : "Encoding error: " = "Encoding error" ++ ": " := by
    decide
  have message :
      (Failure.encoding fault).message = "Encoding error" ++ ": " ++ fault.message :=
    congrArg (· ++ fault.message) lead
  have isFixed : HasWord "Encoding error" "encoding" := fixedTexts_haveWords.2.2.1
  refine classify_of_first rules[2] (by decide) ⟨"encoding", by decide, ?_⟩ ?_
  · rw [message]
    exact (hasWord_colon_iff _ _ (by decide) (by decide)).mpr (.inl isFixed)
  · intro earlier isRule isEarlier word isWord
    obtain ⟨noColon, noBlank, -⟩ := words_arePlain earlier isRule word isWord
    have noDigit := noDigit_of_earlier isRule isEarlier isWord
    have apart {text : String} (isText : (text, .encodingError) ∈ fixedTexts) :
        ¬ HasWord text word :=
      fixedTexts_apart _ isText earlier isRule isEarlier word isWord
    rw [message, hasWord_colon_iff _ _ noColon noBlank]
    apply not_or_intro (apart (by simp [fixedTexts]))
    intro inFault
    cases fault with
    | binary offset =>
        rcases (hasWord_number_iff _ _ offset noDigit).mp inFault with inFirst | inLast
        · exact apart (by simp [fixedTexts]) inFirst
        · exact apart (by simp [fixedTexts]) inLast
    | invalid offset =>
        rcases (hasWord_number_iff _ _ offset noDigit).mp inFault with inFirst | inLast
        · exact apart (by simp [fixedTexts]) inFirst
        · exact apart (by simp [fixedTexts]) inLast

theorem classify_syntaxError (line : UInt32) :
    classify (Failure.syntaxError line).message = .syntaxError := by
  have isFixed : HasWord "Syntax error at line " "syntax" := fixedTexts_haveWords.2.2.2.1
  have noHyphen {text : String} (isText : (text, .syntaxError) ∈ fixedTexts) :
      ¬ HasWord text (String.singleton '-') :=
    fixedTexts_noHyphen _ isText rfl
  refine classify_of_first rules[3] (by decide) ⟨"syntax", by decide, ?_⟩ ?_
  · exact (hasWord_number_iff _ _ line.toNat (by decide)).mpr (.inl isFixed)
  · intro earlier isRule isEarlier word isWord hasWord
    have apart {text : String} (isText : (text, .syntaxError) ∈ fixedTexts) :
        ¬ HasWord text word :=
      fixedTexts_apart _ isText earlier isRule isEarlier word isWord
    rcases (words_arePlain earlier isRule word isWord).2.2 with noDigit | ⟨-, hyphen⟩
    · rcases (hasWord_number_iff _ _ line.toNat noDigit).mp hasWord with inFirst | inLast
      · exact apart (by simp [fixedTexts]) inFirst
      · exact apart (by simp [fixedTexts]) inLast
    · exact not_hasWord_number hyphen (by decide) (noHyphen (by simp [fixedTexts]))
        (noHyphen (by simp [fixedTexts])) hasWord

/-- A file that cannot be read is sorted as such unless the words of the system stand in the way. -/
theorem classify_fileAccess
    {error : OsError}
    (noEarlier : ¬ HasEarlierWord error.message) :
    classify (Failure.fileAccess error).message = .fileAccessError := by
  have lead : HasWord "File access error: " "file access" := fixedTexts_haveWords.2.2.2.2
  refine classify_of_first rules[4] (by decide) ⟨"file access", by decide, ?_⟩ ?_
  · exact lead.wrapped "" error.message
  · intro earlier isRule isEarlier word isWord hasWord
    have inSystem := (hasWord_fileAccess_iff isRule isEarlier isWord).mp hasWord
    exact noEarlier ⟨earlier, isRule, isEarlier, word, isWord, inSystem⟩

/-- Words of an earlier group lead a file that cannot be read to where they lead by themselves. -/
theorem classify_fileAccess_of_hasEarlierWord
    {error : OsError}
    (hasEarlier : HasEarlierWord error.message) :
    classify (Failure.fileAccess error).message = classify error.message ∧
      classify error.message ≠ .fileAccessError := by
  have isEarlier : ∀ rule ∈ rules.take 4,
      rule ∈ rules ∧ rule.1.rank < Category.fileAccessError.rank ∧ rule.1 ≠ .fileAccessError := by
    decide
  have isAmong : ∀ rule ∈ rules,
      rule.1.rank < Category.fileAccessError.rank → rule ∈ rules.take 4 := by
    decide
  have sameFits : ∀ rule ∈ rules.take 4,
      fits (Failure.fileAccess error).message rule = fits error.message rule := by
    intro rule member
    obtain ⟨isRule, ranks, -⟩ := isEarlier rule member
    rw [Bool.eq_iff_iff, fits_iff isRule, fits_iff isRule]
    apply exists_congr
    intro word
    apply and_congr_right
    intro isWord
    exact hasWord_fileAccess_iff isRule ranks isWord
  obtain ⟨rule, isRule, ranks, hasWord⟩ := hasEarlier
  have isSome : ((rules.take 4).find? (fits error.message)).isSome := by
    rw [List.find?_isSome]
    exact ⟨rule, isAmong rule isRule ranks, (fits_iff isRule).mpr hasWord⟩
  obtain ⟨first, isFirst⟩ := Option.isSome_iff_exists.mp isSome
  have sameFirst :
      (rules.take 4).find? (fits (Failure.fileAccess error).message) = some first := by
    rw [← List.head?_filter, List.filter_congr sameFits, List.head?_filter, isFirst]
  have isSorted {message : String} (isFirst : (rules.take 4).find? (fits message) = some first) :
      classify message = first.1 := by
    have parted : rules = rules.take 4 ++ rules.drop 4 := (List.take_append_drop 4 rules).symm
    rw [classify_eq, parted, List.find?_append, isFirst]
    rfl
  rw [isSorted sameFirst, isSorted isFirst]
  exact ⟨rfl, (isEarlier first (List.mem_of_find?_eq_some isFirst)).2.2⟩

/-- What the system says of a path with a NUL character looks like a syntax error. -/
theorem classify_nulInPath :
    HasEarlierWord OsError.nulInPath.message ∧
      classify OsError.nulInPath.message = .syntaxError := by
  have words : HasWord OsError.nulInPath.message "unexpected" ∧
      ∀ earlier ∈ rules, earlier.1.rank < Category.syntaxError.rank →
        ∀ word ∈ earlier.2, ¬ HasWord OsError.nulInPath.message word := by
    decide +kernel
  constructor
  · exact ⟨rules[3], by decide, by decide, "unexpected", by decide, words.1⟩
  · exact classify_of_first rules[3] (by decide) ⟨"unexpected", by decide, words.1⟩ words.2

/-- A failure is sorted into its own category exactly unless the words of the system have a word of
an earlier group, by which it is then sorted. -/
theorem classify_message (failure : Failure) :
    (classify failure.message = failure.category ↔
      ∀ error, failure = .fileAccess error → ¬ HasEarlierWord error.message) ∧
    ∀ error, failure = .fileAccess error → HasEarlierWord error.message →
      classify failure.message = classify error.message := by
  cases failure with
  | fileAccess error =>
      simp only [Failure.fileAccess.injEq, forall_eq', Failure.category]
      constructor
      · constructor
        · intro isOwn hasEarlier
          obtain ⟨same, differs⟩ := classify_fileAccess_of_hasEarlierWord hasEarlier
          exact differs (same.symm.trans isOwn)
        · exact classify_fileAccess
      · intro hasEarlier
        exact (classify_fileAccess_of_hasEarlierWord hasEarlier).1
  | resourceLimit size limit =>
      simp [classify_resourceLimit, Failure.category]
  | encoding fault =>
      simp [classify_encoding, Failure.category]
  | timeout milliseconds =>
      simp [classify_timeout, Failure.category]
  | syntaxError line =>
      simp [classify_syntaxError, Failure.category]

/-- A file that is not there is sorted as one that cannot be read; a path with a NUL character is
sorted by what the system says about it. -/
theorem classify_message_fileAccess :
    (¬ HasEarlierWord OsError.noSuchFile.message ∧
      classify (Failure.fileAccess .noSuchFile).message = .fileAccessError) ∧
    HasEarlierWord OsError.nulInPath.message ∧
      classify (Failure.fileAccess .nulInPath).message = classify OsError.nulInPath.message := by
  have noEarlier : ¬ HasEarlierWord OsError.noSuchFile.message := by
    decide +kernel
  have hasEarlier : HasEarlierWord OsError.nulInPath.message := classify_nulInPath.1
  refine ⟨⟨noEarlier, ?_⟩, hasEarlier, ?_⟩
  · apply (classify_message (.fileAccess .noSuchFile)).1.mpr
    rintro error ⟨⟩
    exact noEarlier
  · exact (classify_message (.fileAccess .nulInPath)).2 _ rfl hasEarlier

/-- A path with a NUL character cannot be read, which is taken for a syntax error. -/
theorem exists_misplaced_failure :
    (readSource {} {} "a\x00.py" = .error (.fileAccess .nulInPath) ∧
      classify (Failure.fileAccess .nulInPath).message = .syntaxError) ∧
    ¬ ∀ failure : Failure, classify failure.message = failure.category := by
  have isRefused : readSource {} {} "a\x00.py" = .error (.fileAccess .nulInPath) := by
    decide +kernel
  obtain ⟨hasEarlier, isSyntaxError⟩ := classify_nulInPath
  obtain ⟨same, differs⟩ := classify_fileAccess_of_hasEarlierWord hasEarlier
  refine ⟨⟨isRefused, same.trans isSyntaxError⟩, fun isOwn => ?_⟩
  exact differs (same.symm.trans (isOwn (.fileAccess .nulInPath)))

end SourceFacts.Analysis
