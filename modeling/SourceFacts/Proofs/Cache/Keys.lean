import SourceFacts.Cache.Key
import SourceFacts.Proofs.Text.Encodings

namespace SourceFacts.Cache

/-!
# Keys and contents

The bytes that are hashed for a key can be taken apart again, and of a content they hold all but
its mark and the carriage returns at the ends of its lines.
-/

open Hash List Text

/-!
## What a key stands for

The bytes that are hashed for a key can be taken apart again: every field comes
with its length, and the path with a mark that tells whether there is one. Two
keys of different inputs can therefore only be the same when the hash function
fails to tell their bytes apart.
-/

/-! ### Lengths -/

/-- A length always takes eight bytes. -/
@[simp] theorem length_lengthBytes (length : Nat) :
    (lengthBytes length).length = 8 := by
  simp [lengthBytes]

/-- A number of a few bytes is determined by them. -/
theorem eq_of_least_bytes_eq
    {count first second : Nat}
    (firstFits : first < Nat.pow 256 count)
    (secondFits : second < Nat.pow 256 count)
    (same :
      (List.range count).map (fun index => UInt8.ofNat (first / Nat.pow 256 index)) =
        (List.range count).map (fun index => UInt8.ofNat (second / Nat.pow 256 index))) :
    first = second := by
  induction count generalizing first second with
  | zero =>
      have firstZero : first = 0 := Nat.lt_one_iff.mp firstFits
      have secondZero : second = 0 := Nat.lt_one_iff.mp secondFits
      rw [firstZero, secondZero]
  | succ count inductionHypothesis =>
      have shifted (value : Nat) :
          (fun index => UInt8.ofNat (value / Nat.pow 256 index)) ∘ Nat.succ =
            fun index => UInt8.ofNat (value / 256 / Nat.pow 256 index) := by
        funext index
        simp only [Function.comp_apply, Nat.pow_eq, Nat.succ_eq_add_one, Nat.pow_succ',
          Nat.div_div_eq_div_mul]
      rw [List.range_succ_eq_map, List.map_cons, List.map_cons, List.map_map, List.map_map,
        shifted, shifted, List.cons.injEq] at same
      have lowest : first % 256 = second % 256 := by
        simpa [← UInt8.toNat_inj] using same.1
      have grows : Nat.pow 256 (count + 1) = 256 * Nat.pow 256 count := Nat.mul_comm _ _
      rw [grows] at firstFits secondFits
      have rest : first / 256 = second / 256 :=
        inductionHypothesis (Nat.div_lt_of_lt_mul firstFits) (Nat.div_lt_of_lt_mul secondFits)
          same.2
      omega

/-- A length below the size of a word is determined by its eight bytes. -/
theorem lengthBytes_inj
    {first second : Nat}
    (firstFits : first < UInt64.size)
    (secondFits : second < UInt64.size) :
    lengthBytes first = lengthBytes second ↔ first = second := by
  constructor
  · exact @eq_of_least_bytes_eq 8 first second firstFits secondFits
  · intro same
    rw [same]

/-! ### Fields -/

/-- A field ends where its length says: what follows it can be told apart. -/
theorem fieldBytes_append_inj
    {first second rest others : Bytes}
    (firstFits : first.length < UInt64.size)
    (secondFits : second.length < UInt64.size) :
    fieldBytes first ++ rest = fieldBytes second ++ others ↔
      first = second ∧ rest = others := by
  constructor
  · intro same
    simp only [fieldBytes, List.append_assoc] at same
    obtain ⟨lengths, contents⟩ := List.append_inj same (by simp)
    have lengthSame : first.length = second.length :=
      (lengthBytes_inj firstFits secondFits).mp lengths
    exact List.append_inj contents lengthSame
  · rintro ⟨rfl, rfl⟩
    rfl

/-- The bytes of a path that may be absent. -/
def pathBytes : Option String → Bytes
  | none => [0]
  | some path => 1 :: fieldBytes (encode path)

/-- The mark before a path tells an absent path from every other, and paths are
told apart by their bytes. -/
theorem pathBytes_inj
    {first second : Option String}
    (firstFits : ∀ path ∈ first, (encode path).length < UInt64.size)
    (secondFits : ∀ path ∈ second, (encode path).length < UInt64.size) :
    pathBytes first = pathBytes second ↔ first = second := by
  cases first with
  | none =>
      cases second <;> simp [pathBytes]
  | some path =>
      cases second with
      | none =>
          simp [pathBytes]
      | some other =>
          have fields :
              fieldBytes (encode path) ++ [] = fieldBytes (encode other) ++ [] ↔
                encode path = encode other ∧ ([] : Bytes) = [] :=
            fieldBytes_append_inj (firstFits path rfl) (secondFits other rfl)
          simpa [pathBytes, encode_inj] using fields

/-! ### Inputs -/

namespace KeyInputs

/-- Every field takes fewer bytes than eight bytes can count. -/
structure Countable (inputs : KeyInputs) : Prop where
  content : inputs.content.length < UInt64.size
  configId : (encode inputs.configId).length < UInt64.size
  signature : (encode inputs.signature).length < UInt64.size
  schemaVersion : (encode inputs.schemaVersion).length < UInt64.size
  path : ∀ path ∈ inputs.path?, (encode path).length < UInt64.size

/-- Inputs that differ at most in the line endings of the content and the mark
before it. -/
structure Agree (first second : KeyInputs) : Prop where
  content : normalize first.content = normalize second.content
  configId : first.configId = second.configId
  signature : first.signature = second.signature
  schemaVersion : first.schemaVersion = second.schemaVersion
  path : first.path? = second.path?

end KeyInputs

/-- Folding line endings adds nothing to a content. -/
theorem length_foldReturns_le (content : Bytes) :
    (foldReturns content).length ≤ content.length := by
  fun_induction foldReturns content with
  | case1 =>
      exact Nat.le_refl 0
  | case2 rest inductionHypothesis =>
      simp only [List.length_cons]
      omega
  | case3 byte rest _ inductionHypothesis =>
      simp only [List.length_cons]
      omega

/-- Normalizing adds nothing to a content. -/
theorem length_normalize_le (content : Bytes) :
    (normalize content).length ≤ content.length := by
  have folded := length_foldReturns_le (dropMark content)
  have dropped : (dropMark content).length ≤ content.length := by
    unfold dropMark
    split
    · simp
    · exact Nat.le_refl _
  exact Nat.le_trans folded dropped

namespace KeyInputs

/-- The fields in their order, as they are hashed. -/
theorem preimage_eq (inputs : KeyInputs) :
    inputs.preimage =
      keyDomain ++ (fieldBytes (normalize inputs.content) ++
        (fieldBytes (encode inputs.configId) ++ (fieldBytes (encode inputs.signature) ++
          (fieldBytes (encode inputs.schemaVersion) ++ pathBytes inputs.path?)))) := by
  simp only [preimage, List.append_assoc]
  cases inputs.path? <;> rfl

/-- What is hashed can be taken apart again. -/
theorem preimage_eq_iff
    {first second : KeyInputs}
    (firstCountable : first.Countable)
    (secondCountable : second.Countable) :
    first.preimage = second.preimage ↔ first.Agree second := by
  have firstContent : (normalize first.content).length < UInt64.size :=
    Nat.lt_of_le_of_lt (length_normalize_le _) firstCountable.content
  have secondContent : (normalize second.content).length < UInt64.size :=
    Nat.lt_of_le_of_lt (length_normalize_le _) secondCountable.content
  rw [preimage_eq, preimage_eq, List.append_cancel_left_eq,
    fieldBytes_append_inj firstContent secondContent,
    fieldBytes_append_inj firstCountable.configId secondCountable.configId,
    fieldBytes_append_inj firstCountable.signature secondCountable.signature,
    fieldBytes_append_inj firstCountable.schemaVersion secondCountable.schemaVersion,
    pathBytes_inj firstCountable.path secondCountable.path,
    encode_inj, encode_inj, encode_inj]
  constructor
  · rintro ⟨content, configId, signature, schemaVersion, path⟩
    exact ⟨content, configId, signature, schemaVersion, path⟩
  · rintro ⟨content, configId, signature, schemaVersion, path⟩
    exact ⟨content, configId, signature, schemaVersion, path⟩

/-- The hash function tells the bytes of two inputs apart if they differ. -/
def Distinguished (first second : KeyInputs) : Prop :=
  blake3 first.preimage = blake3 second.preimage → first.preimage = second.preimage

/-- Keys that the hash function tells apart are the same only for inputs that agree. -/
theorem key_eq_iff
    {first second : KeyInputs}
    (firstCountable : first.Countable)
    (secondCountable : second.Countable)
    (distinguished : first.Distinguished second) :
    first.key = second.key ↔ first.Agree second := by
  rw [← preimage_eq_iff firstCountable secondCountable]
  constructor
  · intro same
    exact distinguished (congrArg Fingerprint.bytes same)
  · intro same
    rw [key, key, same]

/-- The bytes that are hashed for a key are those of another key exactly if the
inputs agree; if the hash function tells the bytes apart, so are the keys. -/
theorem preimage_determines_inputs
    {first second : KeyInputs}
    (firstCountable : first.Countable)
    (secondCountable : second.Countable) :
    (first.preimage = second.preimage ↔ first.Agree second) ∧
      (first.Distinguished second → (first.key = second.key ↔ first.Agree second)) :=
  ⟨preimage_eq_iff firstCountable secondCountable,
    key_eq_iff firstCountable secondCountable⟩

/-- A line with a line ending of two bytes, at no path. -/
def lineAtNoPath : KeyInputs where
  content := encode "a\r\n"
  configId := "bc"
  signature := "v1"
  schemaVersion := "1"

/-- The same line with a line feed, at a path without characters. -/
def lineAtEmptyPath : KeyInputs where
  content := encode "a\n"
  configId := "bc"
  signature := "v1"
  schemaVersion := "1"
  path? := some ""

/-- The line endings of two inputs do not matter, but an absent path is not an empty
one: the bytes differ, and the keys as well. -/
theorem preimage_of_absent_path_ne_empty :
    lineAtNoPath.Countable ∧ lineAtEmptyPath.Countable ∧
      lineAtNoPath.Distinguished lineAtEmptyPath ∧
      normalize lineAtNoPath.content = normalize lineAtEmptyPath.content ∧
      lineAtNoPath.preimage ≠ lineAtEmptyPath.preimage ∧
      lineAtNoPath.key ≠ lineAtEmptyPath.key := by
  have absentCountable : lineAtNoPath.Countable :=
    ⟨by decide, by decide, by decide, by decide, by decide⟩
  have emptyCountable : lineAtEmptyPath.Countable :=
    ⟨by decide, by decide, by decide, by decide, by decide⟩
  have distinguished : lineAtNoPath.Distinguished lineAtEmptyPath := by
    intro sameHash
    have hashesDiffer : blake3 lineAtNoPath.preimage ≠ blake3 lineAtEmptyPath.preimage := by
      decide +kernel
    exact (hashesDiffer sameHash).elim
  have disagree : ¬ lineAtNoPath.Agree lineAtEmptyPath := by
    intro agree
    exact absurd agree.path (by decide)
  have determined := preimage_determines_inputs absentCountable emptyCountable
  refine ⟨absentCountable, emptyCountable, distinguished, by decide, ?_, ?_⟩
  · rw [Ne, determined.1]
    exact disagree
  · rw [Ne, determined.2 distinguished]
    exact disagree

end KeyInputs

/-!
## Line endings of contents

Normalizing a content takes one mark off and then works line by line: each line that a line feed
ends loses one carriage return at its end. Nothing else is changed, so that a content without
carriage returns is found again whatever its line endings were made.
-/

/-! ### Lines -/

/-- A line without the carriage return at its end. -/
def withoutReturn (line : Bytes) : Bytes :=
  if line.getLast? = some 0x0D then line.dropLast else line

/-- Lines put together again. All but the last one were ended by a line feed and lose the carriage
return before it. -/
def joinLines (lines : List Bytes) : Bytes :=
  [0x0A].intercalate (lines.dropLast.map withoutReturn ++ lines.getLast?.toList)

/-- A content without the carriage returns at the ends of its lines. What follows the last line feed
stays as it is. -/
def foldLines (content : Bytes) : Bytes := joinLines (content.splitOn 0x0A)

theorem joinLines_singleton (line : Bytes) : joinLines [line] = line := by
  simp [joinLines]

theorem joinLines_cons
    {lines : List Bytes}
    (line : Bytes)
    (isEnded : lines ≠ []) :
    joinLines (line :: lines) = withoutReturn line ++ 0x0A :: joinLines lines := by
  cases lines with
  | nil =>
      exact (isEnded rfl).elim
  | cons next more =>
      have remains : (next :: more).dropLast.map withoutReturn ++
          (next :: more).getLast?.toList ≠ [] := by
        simp [List.getLast?_cons]
      rw [joinLines, List.dropLast_cons_cons, List.map_cons, List.cons_append,
        List.getLast?_cons_cons, List.intercalate_cons_of_ne_nil remains, List.append_assoc]
      rfl

/-- A byte before a line stays, unless it is the carriage return that is dropped. -/
theorem withoutReturn_cons
    {byte : UInt8}
    {line : Bytes}
    (isKept : byte = 0x0D → line ≠ []) :
    withoutReturn (byte :: line) = byte :: withoutReturn line := by
  cases line with
  | nil =>
      have noReturn : byte ≠ 0x0D := fun isReturn => isKept isReturn rfl
      simp [withoutReturn, noReturn]
  | cons next rest =>
      simp only [withoutReturn, List.getLast?_cons_cons, List.dropLast_cons_cons]
      split <;> rfl

/-- Folding carriage returns byte by byte does what is said of lines. -/
theorem foldReturns_eq_foldLines (content : Bytes) : foldReturns content = foldLines content := by
  fun_induction foldReturns content with
  | case1 =>
      exact (joinLines_singleton []).symm
  | case2 rest inductionHypothesis =>
      have lines : (0x0D :: 0x0A :: rest).splitOn 0x0A = [0x0D] :: rest.splitOn 0x0A := by
        rw [List.splitOn_cons_eq_if_modifyHead, List.splitOn_cons_eq_if_modifyHead]
        rfl
      rw [foldLines, lines, joinLines_cons _ (List.splitOn_ne_nil _ _), inductionHypothesis]
      rfl
  | case3 byte rest noPair inductionHypothesis =>
      rw [inductionHypothesis, foldLines, foldLines, List.splitOn_cons_eq_if_modifyHead]
      by_cases isFeed : byte = 0x0A
      · rw [if_pos (beq_iff_eq.mpr isFeed), joinLines_cons _ (List.splitOn_ne_nil _ _), isFeed]
        rfl
      · rw [if_neg (mt beq_iff_eq.mp isFeed)]
        have joined : [0x0A].intercalate (rest.splitOn 0x0A) = rest := List.intercalate_splitOn 0x0A
        cases lines : rest.splitOn 0x0A with
        | nil =>
            exact (List.splitOn_ne_nil _ _ lines).elim
        | cons line more =>
            rw [List.modifyHead_cons]
            cases more with
            | nil =>
                rw [joinLines_singleton, joinLines_singleton]
            | cons next others =>
                have isKept : byte = 0x0D → line ≠ [] := by
                  rintro isReturn rfl
                  rw [lines, List.intercalate_cons_cons] at joined
                  exact noPair _ isReturn joined.symm
                rw [joinLines_cons _ (List.cons_ne_nil next others),
                  joinLines_cons _ (List.cons_ne_nil next others), withoutReturn_cons isKept,
                  List.cons_append]

/-! ### Line endings -/

/-- Where no line ends with two bytes nothing is folded. -/
theorem foldReturns_of_noPair
    {content : Bytes}
    (noPair : ¬ [0x0D, 0x0A] <:+: content) :
    foldReturns content = content := by
  fun_induction foldReturns content with
  | case1 =>
      rfl
  | case2 rest =>
      exact (noPair (List.prefix_append [0x0D, 0x0A] rest).isInfix).elim
  | case3 byte rest _ inductionHypothesis =>
      have noLater : ¬ [0x0D, 0x0A] <:+: rest :=
        fun occurs => noPair (occurs.trans (List.suffix_cons byte rest).isInfix)
      rw [inductionHypothesis noLater]

/-- A content with carriage returns put before its line feeds at chosen places. -/
def withReturns (chosen : Nat → Bool) : Bytes → Bytes
  | [] => []
  | byte :: rest =>
      if byte = 0x0A ∧ chosen 0 then
        0x0D :: byte :: withReturns (fun place => chosen (place + 1)) rest
      else byte :: withReturns (fun place => chosen (place + 1)) rest

/-- Folding takes away the carriage returns that were put before line feeds. -/
theorem foldReturns_withReturns
    {content : Bytes}
    (noReturn : 0x0D ∉ content)
    (chosen : Nat → Bool) :
    foldReturns (withReturns chosen content) = content := by
  induction content generalizing chosen with
  | nil =>
      rfl
  | cons byte rest inductionHypothesis =>
      rw [List.mem_cons, not_or] at noReturn
      have restored := inductionHypothesis noReturn.2 fun place => chosen (place + 1)
      rw [withReturns]
      split
      next isChosen =>
        rw [isChosen.1, foldReturns, restored]
      next =>
        rw [foldReturns, restored]
        intro _ isReturn
        exact (noReturn.1 isReturn.symm).elim

/-- What is put before line feeds is not at the beginning of a mark. -/
theorem prefix_of_prefix_withReturns
    {mark content : Bytes}
    {chosen : Nat → Bool}
    (noReturn : 0x0D ∉ mark)
    (isMarked : mark <+: withReturns chosen content) :
    mark <+: content := by
  induction mark generalizing content chosen with
  | nil =>
      exact List.nil_prefix
  | cons first mark inductionHypothesis =>
      rw [List.mem_cons, not_or] at noReturn
      cases content with
      | nil =>
          exact isMarked
      | cons byte rest =>
          rw [withReturns] at isMarked
          split at isMarked
          · exact (noReturn.1 (List.cons_prefix_cons.mp isMarked).1.symm).elim
          · obtain ⟨rfl, isLater⟩ := List.cons_prefix_cons.mp isMarked
            exact List.cons_prefix_cons.mpr ⟨rfl, inductionHypothesis noReturn.2 isLater⟩

/-! ### Normalizing -/

theorem normalize_marked (content : Bytes) :
    normalize (byteOrderMark ++ content) = foldReturns content := by
  have isMarked : byteOrderMark.isPrefixOf (byteOrderMark ++ content) = true :=
    List.isPrefixOf_iff_prefix.mpr (List.prefix_append _ _)
  rw [normalize, dropMark, if_pos isMarked]
  rfl

theorem normalize_unmarked
    {content : Bytes}
    (noMark : ¬ byteOrderMark <+: content) :
    normalize content = foldReturns content := by
  rw [normalize, dropMark, if_neg (mt List.isPrefixOf_iff_prefix.mp noMark)]

/-- Normalizing takes off one mark and then works line by line. A content without line endings of
two bytes is only freed from its mark, and one without carriage returns is found again with a mark
before it or carriage returns at the ends of any of its lines. -/
theorem normalize_isLineBased :
    (∀ content, normalize (byteOrderMark ++ content) = foldLines content) ∧
    (∀ content, ¬ byteOrderMark <+: content → normalize content = foldLines content) ∧
    (∀ content, ¬ [0x0D, 0x0A] <:+: dropMark content → normalize content = dropMark content) ∧
    ∀ content, 0x0D ∉ content → ¬ byteOrderMark <+: content →
      normalize content = content ∧ normalize (byteOrderMark ++ content) = content ∧
        ∀ chosen, normalize (withReturns chosen content) = content := by
  refine ⟨?_, ?_, ?_, ?_⟩
  · intro content
    rw [normalize_marked, foldReturns_eq_foldLines]
  · intro content noMark
    rw [normalize_unmarked noMark, foldReturns_eq_foldLines]
  · intro content noPair
    exact foldReturns_of_noPair noPair
  · intro content noReturn noMark
    have unchanged : foldReturns content = content := by
      apply foldReturns_of_noPair
      intro occurs
      exact noReturn (occurs.subset List.mem_cons_self)
    have markHasNone : 0x0D ∉ byteOrderMark := by
      decide
    refine ⟨?_, ?_, ?_⟩
    · rw [normalize_unmarked noMark, unchanged]
    · rw [normalize_marked, unchanged]
    · intro chosen
      have stillNone : ¬ byteOrderMark <+: withReturns chosen content :=
        fun isMarked => noMark (prefix_of_prefix_withReturns markHasNone isMarked)
      rw [normalize_unmarked stillNone, foldReturns_withReturns noReturn]

/-- Of two carriage returns before a line feed one stays, and so does one at the end. Where only the
first of two line feeds was given a carriage return, the content is found again. -/
theorem normalize_isLineBased_returns :
    normalize [0xEF, 0xBB, 0xBF, 0x0D, 0x0D, 0x0A, 0x0D] = [0x0D, 0x0A, 0x0D] ∧
      normalize [0x0D, 0x0A, 0xEF, 0xBB, 0xBF] = [0x0A, 0xEF, 0xBB, 0xBF] ∧
      normalize [0xEF, 0xBB, 0xBF, 0x0D] = [0x0D] ∧
      withReturns (· = 1) [0x61, 0x0A, 0x0A] = [0x61, 0x0D, 0x0A, 0x0A] ∧
      normalize [0x61, 0x0D, 0x0A, 0x0A] = [0x61, 0x0A, 0x0A] := by
  obtain ⟨marked, unmarked, unfolded, restored⟩ := normalize_isLineBased
  refine ⟨?_, ?_, ?_, by decide, ?_⟩
  · exact (marked [0x0D, 0x0D, 0x0A, 0x0D]).trans (by decide)
  · exact (unmarked [0x0D, 0x0A, 0xEF, 0xBB, 0xBF] (by decide)).trans (by decide)
  · exact unfolded [0xEF, 0xBB, 0xBF, 0x0D] (by decide)
  · exact (restored [0x61, 0x0A, 0x0A] (by decide) (by decide)).2.2 (· = 1)

end SourceFacts.Cache
