import SourceFacts.Analysis.Analyzer
import SourceFacts.Proofs.Text.WellFormed

namespace SourceFacts.Analysis

open List Text

/-!
# How bytes are read

A zero byte near the beginning is looked for first, among the bytes as they are. Only then the mark
is taken off, and what is left is read as UTF-8 if it is well-formed, and byte by byte otherwise, if
that is allowed. The place of a zero byte is that in the file, but the place where UTF-8 ends is
counted behind the mark.
-/

/-! ## Content -/

/-- There is a zero byte near the beginning. -/
def LooksBinary (bytes : Bytes) : Prop := ∃ offset < 8192, bytes[offset]? = some 0

/-- Bytes have a content, before which one mark may stand. -/
def HasContent (bytes content : Bytes) : Prop :=
  bytes = byteOrderMark ++ content ∨ ¬ byteOrderMark <+: bytes ∧ bytes = content

/-- A mark that is taken off stands before the rest. -/
theorem hasContent_iff
    {bytes content : Bytes} :
    HasContent bytes content ↔ content = dropMark bytes := by
  rw [HasContent, dropMark]
  by_cases isMarked : byteOrderMark <+: bytes
  · obtain ⟨rest, rfl⟩ := isMarked
    rw [if_pos (List.isPrefixOf_iff_prefix.mpr (List.prefix_append _ _))]
    constructor
    · rintro (same | ⟨noMark, _⟩)
      · exact (List.append_cancel_left same).symm
      · exact absurd (List.prefix_append _ _) noMark
    · rintro rfl
      exact .inl rfl
  · rw [if_neg (mt List.isPrefixOf_iff_prefix.mp isMarked)]
    constructor
    · rintro (rfl | ⟨_, same⟩)
      · exact absurd (List.prefix_append _ _) isMarked
      · exact same.symm
    · rintro rfl
      exact .inr ⟨isMarked, rfl⟩

theorem hasContent_dropMark (bytes : Bytes) : HasContent bytes (dropMark bytes) :=
  hasContent_iff.mpr rfl

/-! ## Zero bytes -/

theorem getElem?_take_sniffed
    {bytes : Bytes}
    {offset : Nat}
    (isNear : offset < 8192) :
    (bytes.take sniffedLength)[offset]? = bytes[offset]? :=
  List.getElem?_take_of_lt isNear

theorem lt_of_getElem?_take_sniffed
    {bytes : Bytes}
    {offset : Nat}
    {byte : UInt8}
    (found : (bytes.take sniffedLength)[offset]? = some byte) :
    offset < 8192 := by
  obtain ⟨isWithin, _⟩ := List.getElem?_eq_some_iff.mp found
  exact Nat.lt_of_lt_of_le isWithin (List.length_take_le _ _)

/-- A zero byte near the beginning that none comes before. -/
structure IsFirstZero (bytes : Bytes) (offset : Nat) : Prop where
  isNear : offset < 8192
  isZero : bytes[offset]? = some 0
  isFirst : ∀ earlier < offset, bytes[earlier]? ≠ some 0

/-- What is found near the beginning is the first zero byte. -/
theorem isFirstZero_of_findIdx?
    {bytes : Bytes}
    {offset : Nat}
    (found : (bytes.take sniffedLength).findIdx? (· == 0) = some offset) :
    IsFirstZero bytes offset := by
  obtain ⟨isWithin, isZero, isFirst⟩ := List.findIdx?_eq_some_iff_getElem.mp found
  have isThere := List.getElem?_eq_some_iff.mpr ⟨isWithin, beq_iff_eq.mp isZero⟩
  have isNear := lt_of_getElem?_take_sniffed isThere
  refine ⟨isNear, (getElem?_take_sniffed isNear).symm.trans isThere, ?_⟩
  intro earlier isEarlier isZero
  rw [← getElem?_take_sniffed (Nat.lt_trans isEarlier isNear)] at isZero
  obtain ⟨_, isZero⟩ := List.getElem?_eq_some_iff.mp isZero
  exact isFirst earlier isEarlier (beq_iff_eq.mpr isZero)

theorem findIdx?_sniffed_eq_none_iff
    {bytes : Bytes} :
    (bytes.take sniffedLength).findIdx? (· == 0) = none ↔ ¬ LooksBinary bytes := by
  rw [List.findIdx?_eq_none_iff]
  constructor
  · rintro noZero ⟨offset, isNear, isZero⟩
    rw [← getElem?_take_sniffed isNear] at isZero
    exact absurd (noZero 0 (List.mem_of_getElem? isZero)) (by decide)
  · intro noBinary byte isByte
    rw [beq_eq_false_iff_ne]
    rintro rfl
    obtain ⟨offset, isZero⟩ := List.mem_iff_getElem?.mp isByte
    have isNear := lt_of_getElem?_take_sniffed isZero
    exact noBinary ⟨offset, isNear, (getElem?_take_sniffed isNear).symm.trans isZero⟩

/-! ## The cases -/

section Cases

variable {useFallback : Bool} {bytes : Bytes}

/-- Where a zero byte is near the beginning, the first one is the fault. -/
theorem decode_of_looksBinary
    (useFallback : Bool)
    (isBinary : LooksBinary bytes) :
    ∃ offset, decode useFallback bytes = .error (.binary offset) ∧ IsFirstZero bytes offset := by
  cases found : (bytes.take sniffedLength).findIdx? (· == 0) with
  | none =>
      exact absurd isBinary (findIdx?_sniffed_eq_none_iff.mp found)
  | some offset =>
      exact ⟨offset, by rw [decode, found], isFirstZero_of_findIdx? found⟩

/-- Without a zero byte near the beginning, the content decides. -/
theorem decode_of_not_looksBinary (noBinary : ¬ LooksBinary bytes) :
    decode useFallback bytes =
      match decode? (dropMark bytes) with
      | some text => .ok { text }
      | none =>
          if useFallback then
            .ok { text := latin1 (dropMark bytes), encoding := some fallbackEncoding }
          else .error (.invalid (validLength (dropMark bytes))) := by
  rewrite [decode, findIdx?_sniffed_eq_none_iff.mpr noBinary]
  rfl

theorem decode_of_isUtf8
    (useFallback : Bool)
    (noBinary : ¬ LooksBinary bytes)
    (isUtf8 : IsUtf8 (dropMark bytes)) :
    ∃ text, decode useFallback bytes = .ok { text } ∧ encode text = dropMark bytes := by
  obtain ⟨text, isForm⟩ := isUtf8_iff_exists_encode.mp isUtf8
  refine ⟨text, ?_, isForm⟩
  rw [decode_of_not_looksBinary noBinary, decode?_eq_some_iff.mpr isForm]

theorem decode_of_not_isUtf8
    (noBinary : ¬ LooksBinary bytes)
    (noUtf8 : ¬ IsUtf8 (dropMark bytes)) :
    decode useFallback bytes =
      if useFallback then
        .ok { text := latin1 (dropMark bytes), encoding := some fallbackEncoding }
      else .error (.invalid (validLength (dropMark bytes))) := by
  rw [decode_of_not_looksBinary noBinary, decode?_eq_none_iff.mpr noUtf8]

/-- Bytes are rejected where they look binary, or where nothing stands in for UTF-8. -/
theorem exists_decode_eq_error_iff :
    (∃ fault, decode useFallback bytes = .error fault) ↔
      LooksBinary bytes ∨ ¬ IsUtf8 (dropMark bytes) ∧ useFallback = false := by
  by_cases isBinary : LooksBinary bytes
  · obtain ⟨offset, isError, _⟩ := decode_of_looksBinary useFallback isBinary
    exact iff_of_true ⟨_, isError⟩ (.inl isBinary)
  · rw [or_iff_right isBinary]
    by_cases isUtf8 : IsUtf8 (dropMark bytes)
    · obtain ⟨text, isText, _⟩ := decode_of_isUtf8 useFallback isBinary isUtf8
      refine iff_of_false ?_ fun rejects => rejects.1 isUtf8
      rintro ⟨fault, isError⟩
      rw [isText] at isError
      cases isError
    · rw [decode_of_not_isUtf8 isBinary isUtf8]
      cases useFallback with
      | true =>
          refine iff_of_false ?_ fun rejects => Bool.noConfusion rejects.2
          rintro ⟨fault, isError⟩
          cases isError
      | false =>
          exact iff_of_true ⟨_, rfl⟩ ⟨isUtf8, rfl⟩

end Cases

/-! ## One character for every byte -/

/-- The bytes of a text in which every character is a single byte. -/
def encodeLatin1? (text : String) : Option Bytes :=
  text.toList.mapM fun c => if c.toNat < 256 then some (UInt8.ofNat c.toNat) else none

/-- The characters that stand for bytes have their values as codes. -/
theorem map_toNat_latin1 (bytes : Bytes) :
    (latin1 bytes).toList.map Char.toNat = bytes.map UInt8.toNat := by
  have code : ∀ byte : UInt8, (Char.ofNat byte.toNat).toNat = byte.toNat := fun byte =>
    toNat_val_ofNat ((isValidChar_iff _).mpr (.inl (Nat.lt_trans byte.toNat_lt (by decide))))
  rw [latin1, String.toList_ofList, List.map_map]
  exact List.map_congr_left fun byte _ => code byte

/-- Bytes are restored from the codes of characters. -/
theorem encodeLatin1?_of_map_toNat
    {text : String}
    {bytes : Bytes}
    (codes : text.toList.map Char.toNat = bytes.map UInt8.toNat) :
    encodeLatin1? text = some bytes := by
  rw [encodeLatin1?]
  generalize text.toList = characters at codes
  induction characters generalizing bytes with
  | nil =>
      rw [List.map_nil, eq_comm, List.map_eq_nil_iff] at codes
      rw [codes]
      rfl
  | cons c others inductionHypothesis =>
      cases bytes with
      | nil =>
          cases codes
      | cons byte rest =>
          rw [List.map_cons, List.map_cons, List.cons.injEq] at codes
          rw [List.mapM_cons, inductionHypothesis codes.2, codes.1, if_pos byte.toNat_lt,
            UInt8.ofNat_toNat]
          rfl

/-! ## Rules of reading -/

/-- What reading bytes comes to. -/
structure IsReadByRules (useFallback : Bool) (bytes : Bytes) : Prop where
  /-- There is one content, with at most one mark before it. -/
  existsUnique_content : ∃ content, HasContent bytes content ∧
    ∀ other, HasContent bytes other → other = content
  /-- Bytes are rejected if a zero byte is near the beginning, or if the content is not UTF-8 and
  nothing stands in for that. -/
  rejected_iff : ∀ content, HasContent bytes content →
    ((∃ fault, decode useFallback bytes = .error fault) ↔
      LooksBinary bytes ∨ ¬ IsUtf8 content ∧ useFallback = false)
  /-- Content in UTF-8 is the form of the text, whether or not another encoding is allowed. -/
  utf8 : ∀ content, HasContent bytes content → ¬ LooksBinary bytes → IsUtf8 content →
    ∃ text, decode useFallback bytes = .ok { text, encoding := none } ∧ encode text = content
  /-- Other content has a character for every byte, from which it can be restored. -/
  latin1 : ∀ content, HasContent bytes content → ¬ LooksBinary bytes → ¬ IsUtf8 content →
    useFallback = true →
      ∃ text, decode useFallback bytes = .ok { text, encoding := some "iso-8859-1" } ∧
        text.toList.map Char.toNat = content.map UInt8.toNat ∧
        encodeLatin1? text = some content
  /-- The encoding is given exactly if the content is not UTF-8. -/
  encoding_eq_none_iff : ∀ content decoded, HasContent bytes content →
    decode useFallback bytes = .ok decoded → (decoded.encoding = none ↔ IsUtf8 content)

/-- All bytes are read by these rules. -/
theorem isReadByRules
    (useFallback : Bool)
    (bytes : Bytes) :
    IsReadByRules useFallback bytes where
  existsUnique_content :=
    ⟨dropMark bytes, hasContent_dropMark bytes, fun _ hasContent => hasContent_iff.mp hasContent⟩
  rejected_iff := by
    intro content hasContent
    rw [hasContent_iff.mp hasContent]
    exact exists_decode_eq_error_iff
  utf8 := by
    intro content hasContent noBinary isUtf8
    rw [hasContent_iff.mp hasContent] at isUtf8 ⊢
    exact decode_of_isUtf8 useFallback noBinary isUtf8
  latin1 := by
    rintro content hasContent noBinary noUtf8 rfl
    rw [hasContent_iff.mp hasContent] at noUtf8 ⊢
    have codes := map_toNat_latin1 (dropMark bytes)
    exact ⟨_, decode_of_not_isUtf8 noBinary noUtf8, codes, encodeLatin1?_of_map_toNat codes⟩
  encoding_eq_none_iff := by
    intro content decoded hasContent isDecoded
    have noBinary : ¬ LooksBinary bytes := by
      intro isBinary
      obtain ⟨offset, isError, _⟩ := decode_of_looksBinary useFallback isBinary
      rw [isError] at isDecoded
      cases isDecoded
    rw [hasContent_iff.mp hasContent]
    by_cases isUtf8 : IsUtf8 (dropMark bytes)
    · obtain ⟨text, isText, _⟩ := decode_of_isUtf8 useFallback noBinary isUtf8
      rw [isText, Except.ok.injEq] at isDecoded
      rw [← isDecoded]
      exact iff_of_true rfl isUtf8
    · rw [decode_of_not_isUtf8 noBinary isUtf8] at isDecoded
      split at isDecoded
      · rw [Except.ok.injEq] at isDecoded
        rw [← isDecoded]
        exact iff_of_false (Option.some_ne_none _) isUtf8
      · cases isDecoded

/-! ## Places of faults -/

/-- The mark is itself a character. -/
theorem isCharacter_byteOrderMark : IsCharacter byteOrderMark :=
  .three ⟨by decide, by decide⟩ ⟨by decide, by decide⟩ ⟨by decide, by decide⟩ (by decide)
    (by decide)

/-- The number of bytes of the mark before a content. -/
def markLength (bytes : Bytes) : Nat := if byteOrderMark.isPrefixOf bytes then 3 else 0

/-- The longest well-formed prefix is longer with the mark. -/
theorem isLongestUtf8Prefix_of_content
    {bytes : Bytes}
    {length : Nat}
    (isLongest : IsLongestUtf8Prefix (dropMark bytes) length) :
    IsLongestUtf8Prefix bytes (markLength bytes + length) := by
  rcases hasContent_dropMark bytes with isMarked | ⟨noMark, isContent⟩
  · have isPrefix : byteOrderMark.isPrefixOf bytes = true :=
      List.isPrefixOf_iff_prefix.mpr ⟨_, isMarked.symm⟩
    have longer := isLongest.append isCharacter_byteOrderMark
    rw [← isMarked] at longer
    rw [markLength, if_pos isPrefix]
    exact longer
  · rw [← isContent] at isLongest
    rw [markLength, if_neg (mt List.isPrefixOf_iff_prefix.mp noMark), Nat.zero_add]
    exact isLongest

/-- The place in the file is told exactly if there is no mark. -/
theorem isLongestUtf8Prefix_iff_not_marked
    {bytes : Bytes}
    {length : Nat}
    (isLongest : IsLongestUtf8Prefix (dropMark bytes) length) :
    IsLongestUtf8Prefix bytes length ↔ ¬ byteOrderMark <+: bytes := by
  have inFile := isLongestUtf8Prefix_of_content isLongest
  rw [← List.isPrefixOf_iff_prefix]
  rw [markLength] at inFile
  split at inFile
  next isMarked =>
    refine iff_of_false (fun isExact => ?_) (not_not_intro isMarked)
    have same := isExact.unique inFile
    omega
  next noMark =>
    rw [Nat.zero_add] at inFile
    exact iff_of_true inFile noMark

/-- What the fault of rejected bytes tells about them. -/
inductive Locates (bytes : Bytes) : EncodingFault → Prop where
  /-- The first zero byte of the file, whether or not there is a mark. -/
  | binary {offset : Nat}
      (isFirstZero : IsFirstZero bytes offset)
      (tells : (Failure.encoding (.binary offset)).message =
        "Encoding error: " ++ ("binary content (NUL byte at offset " ++ toString offset ++ ")")) :
      Locates bytes (.binary offset)
  /-- The longest well-formed prefix of the content. That of the file is longer by the mark, and a
  byte follows it; it is told exactly if there is no mark. -/
  | invalid {offset : Nat}
      (inContent : ∀ content, HasContent bytes content → IsLongestUtf8Prefix content offset)
      (inFile : IsLongestUtf8Prefix bytes (markLength bytes + offset))
      (isFollowed : markLength bytes + offset < bytes.length)
      (isExact_iff : IsLongestUtf8Prefix bytes offset ↔ ¬ byteOrderMark <+: bytes)
      (tells : (Failure.encoding (.invalid offset)).message =
        "Encoding error: " ++
          ("content is not valid UTF-8 (invalid byte at offset " ++ toString offset ++ ")")) :
      Locates bytes (.invalid offset)

/-- The fault of rejected bytes tells where it is, counted behind the mark if it is no zero byte. -/
theorem decode_locates
    {useFallback : Bool}
    {bytes : Bytes}
    {fault : EncodingFault}
    (rejected : decode useFallback bytes = .error fault) :
    Locates bytes fault := by
  by_cases isBinary : LooksBinary bytes
  · obtain ⟨offset, isError, isFirstZero⟩ :=
      decode_of_looksBinary useFallback isBinary
    rw [isError, Except.error.injEq] at rejected
    rw [← rejected]
    exact .binary isFirstZero rfl
  · obtain ⟨noUtf8, rfl⟩ :=
      (exists_decode_eq_error_iff.mp ⟨fault, rejected⟩).resolve_left isBinary
    rw [decode_of_not_isUtf8 isBinary noUtf8, if_neg Bool.false_ne_true, Except.error.injEq]
      at rejected
    have inContent := validLength_isLongest (dropMark bytes)
    have inFile := isLongestUtf8Prefix_of_content inContent
    rw [← rejected]
    refine .invalid ?_ inFile ?_ (isLongestUtf8Prefix_iff_not_marked inContent) rfl
    · intro content hasContent
      rwa [hasContent_iff.mp hasContent]
    · refine inFile.lt_length_iff.mpr fun isUtf8 => noUtf8 ?_
      rcases hasContent_dropMark bytes with isMarked | ⟨_, isContent⟩
      · rwa [isMarked, isUtf8_append_iff isCharacter_byteOrderMark] at isUtf8
      · rwa [← isContent]

/-- A mark, a letter and the first byte of a character that is not whole. -/
def markedBytes : Bytes := byteOrderMark ++ [0x61, 0xE9]

theorem decode_markedBytes : decode false markedBytes = .error (.invalid 1) := by
  have noText : decode? (dropMark markedBytes) = none := by decide +kernel
  have isEnd : validLength (dropMark markedBytes) = 1 := by decide +kernel
  have noZero : (markedBytes.take sniffedLength).findIdx? (· == 0) = none := by decide
  rw [decode, noZero]
  dsimp only
  rw [noText, isEnd]
  rfl

/-- Behind a mark, the fault is located one byte after the beginning of the content. -/
theorem decode_locates_markedBytes :
    decode false markedBytes = .error (.invalid 1) ∧ Locates markedBytes (.invalid 1) :=
  ⟨decode_markedBytes, decode_locates decode_markedBytes⟩

/-- The fault at the fifth byte of a file is said to be at the second one. -/
theorem exists_fault_misplaced :
    (decode false markedBytes = .error (.invalid 1) ∧ IsLongestUtf8Prefix markedBytes 4) ∧
      ¬ ∀ (useFallback : Bool) (bytes : Bytes) (offset : Nat),
        decode useFallback bytes = .error (.invalid offset) →
          IsLongestUtf8Prefix bytes offset := by
  have isLongest : IsLongestUtf8Prefix markedBytes 4 := by
    have isEnd : validLength markedBytes = 4 := by decide +kernel
    rw [← isEnd]
    exact validLength_isLongest markedBytes
  refine ⟨⟨decode_markedBytes, isLongest⟩, fun isExact => ?_⟩
  have same := (isExact false markedBytes 1 decode_markedBytes).unique isLongest
  exact absurd same (by decide)

end SourceFacts.Analysis
