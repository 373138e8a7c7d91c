import SourceFacts.Proofs.Text.Encodings

namespace SourceFacts.Text

/-!
# Well-formed UTF-8

Which bytes are UTF-8 is said by their values alone: a character begins with a lead byte and goes on
with as many others as this one asks for, in no form that is longer than it has to be. The bytes of
texts are exactly the well-formed ones. Since no character begins another one, the longest
well-formed prefix of any bytes is found character by character.
-/

/-! ## Characters -/

/-- A byte that goes on with a character. -/
def IsTail (byte : UInt8) : Prop := 0x80 ≤ byte.toNat ∧ byte.toNat ≤ 0xBF

/-- The bytes of one character: in the shortest form, no surrogate, and nothing beyond the last code
point. -/
inductive IsCharacter : Bytes → Prop where
  | one {a : UInt8}
      (isLead : a.toNat ≤ 0x7F) :
      IsCharacter [a]
  | two {a b : UInt8}
      (isLead : 0xC2 ≤ a.toNat ∧ a.toNat ≤ 0xDF)
      (second : IsTail b) :
      IsCharacter [a, b]
  | three {a b c : UInt8}
      (isLead : 0xE0 ≤ a.toNat ∧ a.toNat ≤ 0xEF)
      (second : IsTail b)
      (third : IsTail c)
      (isShortest : a.toNat = 0xE0 → 0xA0 ≤ b.toNat)
      (noSurrogate : a.toNat = 0xED → b.toNat ≤ 0x9F) :
      IsCharacter [a, b, c]
  | four {a b c d : UInt8}
      (isLead : 0xF0 ≤ a.toNat ∧ a.toNat ≤ 0xF4)
      (second : IsTail b)
      (third : IsTail c)
      (fourth : IsTail d)
      (isShortest : a.toNat = 0xF0 → 0x90 ≤ b.toNat)
      (isCodePoint : a.toNat = 0xF4 → b.toNat ≤ 0x8F) :
      IsCharacter [a, b, c, d]

/-- The code of a character is no surrogate and not beyond the last code point. -/
theorem isValidChar_iff (code : Nat) :
    code.isValidChar ↔ code < 0xD800 ∨ 0xDFFF < code ∧ code < 0x110000 :=
  Iff.rfl

theorem toNat_val_ofNat
    {code : Nat}
    (valid : code.isValidChar) :
    (Char.ofNat code).val.toNat = code := by
  rw [Char.ofNat, dif_pos valid]
  rfl

theorem ofNat_eq_of_toNat
    (byte : UInt8)
    {value : Nat}
    (same : value = byte.toNat) :
    UInt8.ofNat value = byte := by
  rw [same, UInt8.ofNat_toNat]

theorem isCharacter_utf8EncodeChar (c : Char) : IsCharacter (String.utf8EncodeChar c) := by
  have valid := (isValidChar_iff c.val.toNat).mp c.valid
  rw [String.utf8EncodeChar]
  split
  · refine .one ?_
    rw [UInt8.toNat_ofNat']
    omega
  · split
    · refine .two ?_ ?_ <;> simp only [IsTail, UInt8.toNat_ofNat'] <;> omega
    · split
      · refine .three ?_ ?_ ?_ ?_ ?_ <;> simp only [IsTail, UInt8.toNat_ofNat'] <;> omega
      · refine .four ?_ ?_ ?_ ?_ ?_ ?_ <;> simp only [IsTail, UInt8.toNat_ofNat'] <;> omega

theorem IsCharacter.exists_utf8EncodeChar
    {bytes : Bytes}
    (isCharacter : IsCharacter bytes) :
    ∃ c, String.utf8EncodeChar c = bytes := by
  cases isCharacter with
  | @one a isLead =>
      refine ⟨Char.ofNat a.toNat, ?_⟩
      rw [String.utf8EncodeChar, toNat_val_ofNat ((isValidChar_iff _).mpr (by omega)),
        if_pos isLead, UInt8.ofNat_toNat]
  -- Where there are several bytes, the code has a name of its own, so that what is asked of it is
  -- linear.
  | @two a b isLead second =>
      rw [IsTail] at second
      obtain ⟨code, isCode⟩ : ∃ code, code = (a.toNat - 0xC0) * 64 + (b.toNat - 0x80) :=
        ⟨_, rfl⟩
      refine ⟨Char.ofNat code, ?_⟩
      rw [String.utf8EncodeChar, toNat_val_ofNat ((isValidChar_iff _).mpr (by omega)),
        if_neg (by omega), if_pos (by omega), ofNat_eq_of_toNat a (by omega),
        ofNat_eq_of_toNat b (by omega)]
  | @three a b c isLead second third isShortest noSurrogate =>
      rw [IsTail] at second third
      obtain ⟨code, isCode⟩ : ∃ code, code =
          (a.toNat - 0xE0) * 4096 + (b.toNat - 0x80) * 64 + (c.toNat - 0x80) := ⟨_, rfl⟩
      refine ⟨Char.ofNat code, ?_⟩
      rw [String.utf8EncodeChar, toNat_val_ofNat ((isValidChar_iff _).mpr (by omega)),
        if_neg (by omega), if_neg (by omega), if_pos (by omega),
        ofNat_eq_of_toNat a (by omega), ofNat_eq_of_toNat b (by omega),
        ofNat_eq_of_toNat c (by omega)]
  | @four a b c d isLead second third fourth isShortest isCodePoint =>
      rw [IsTail] at second third fourth
      obtain ⟨code, isCode⟩ : ∃ code, code = (a.toNat - 0xF0) * 262144 +
          (b.toNat - 0x80) * 4096 + (c.toNat - 0x80) * 64 + (d.toNat - 0x80) := ⟨_, rfl⟩
      refine ⟨Char.ofNat code, ?_⟩
      rw [String.utf8EncodeChar, toNat_val_ofNat ((isValidChar_iff _).mpr (by omega)),
        if_neg (by omega), if_neg (by omega), if_neg (by omega),
        ofNat_eq_of_toNat a (by omega), ofNat_eq_of_toNat b (by omega),
        ofNat_eq_of_toNat c (by omega), ofNat_eq_of_toNat d (by omega)]

/-! ## Texts -/

/-- Bytes that are those of characters one after another. -/
inductive IsUtf8 : Bytes → Prop where
  | nil : IsUtf8 []
  | cons {first rest : Bytes}
      (isCharacter : IsCharacter first)
      (isUtf8 : IsUtf8 rest) :
      IsUtf8 (first ++ rest)

theorem isUtf8_flatMap (characters : List Char) :
    IsUtf8 (characters.flatMap String.utf8EncodeChar) := by
  induction characters with
  | nil =>
      exact .nil
  | cons c rest inductionHypothesis =>
      rw [List.flatMap_cons]
      exact .cons (isCharacter_utf8EncodeChar c) inductionHypothesis

theorem IsUtf8.exists_flatMap
    {bytes : Bytes}
    (isUtf8 : IsUtf8 bytes) :
    ∃ characters : List Char, characters.flatMap String.utf8EncodeChar = bytes := by
  induction isUtf8 with
  | nil =>
      exact ⟨[], rfl⟩
  | cons isCharacter _ inductionHypothesis =>
      obtain ⟨c, rfl⟩ := isCharacter.exists_utf8EncodeChar
      obtain ⟨others, rfl⟩ := inductionHypothesis
      exact ⟨c :: others, List.flatMap_cons⟩

/-- The well-formed bytes are those of texts. -/
theorem isUtf8_iff_exists_encode
    {bytes : Bytes} :
    IsUtf8 bytes ↔ ∃ text, encode text = bytes := by
  constructor
  · intro isUtf8
    obtain ⟨characters, rfl⟩ := isUtf8.exists_flatMap
    exact ⟨String.ofList characters, by rw [encode_eq_flatMap, String.toList_ofList]⟩
  · rintro ⟨text, rfl⟩
    rw [encode_eq_flatMap]
    exact isUtf8_flatMap text.toList

theorem decode?_eq_some_iff
    {bytes : Bytes}
    {text : String} :
    decode? bytes = some text ↔ encode text = bytes := by
  constructor
  · exact encode_of_decode?
  · rintro rfl
    exact decode?_encode text

/-- Bytes are no text if they are not well-formed. -/
theorem decode?_eq_none_iff
    {bytes : Bytes} :
    decode? bytes = none ↔ ¬ IsUtf8 bytes := by
  rw [isUtf8_iff_exists_encode, Option.eq_none_iff_forall_not_mem, not_exists]
  simp only [Option.mem_def, decode?_eq_some_iff]

/-! ## The first character -/

/-- The character with which bytes begin. -/
def firstCharacter? (bytes : Bytes) : Option Char :=
  ByteArray.utf8DecodeChar? ⟨bytes.toArray⟩ 0

/-- Bytes begin with a character if its form stands before the others. -/
theorem firstCharacter?_eq_some_iff
    {bytes : Bytes}
    {c : Char} :
    firstCharacter? bytes = some c ↔ ∃ rest, bytes = String.utf8EncodeChar c ++ rest := by
  constructor
  · intro begins
    have parts := congrArg (·.data.toList) (ByteArray.eq_of_utf8DecodeChar?_eq_some begins)
    simp only [ByteArray.data_append, List.data_toByteArray, Array.toList_append] at parts
    exact ⟨_, parts⟩
  · rintro ⟨rest, rfl⟩
    have joined : (⟨(String.utf8EncodeChar c ++ rest).toArray⟩ : ByteArray) =
        (String.utf8EncodeChar c).toByteArray ++ ⟨rest.toArray⟩ := by
      refine ByteArray.ext ?_
      rw [ByteArray.data_append, List.data_toByteArray]
      exact (List.append_toArray _ _).symm
    rw [firstCharacter?, joined]
    exact ByteArray.utf8DecodeChar?_utf8EncodeChar_append

/-- No character begins another one. -/
theorem utf8EncodeChar_append_inj
    {c other : Char}
    {rest more : Bytes}
    (same : String.utf8EncodeChar c ++ rest = String.utf8EncodeChar other ++ more) :
    c = other ∧ rest = more := by
  have first : firstCharacter? (String.utf8EncodeChar c ++ rest) = some c :=
    firstCharacter?_eq_some_iff.mpr ⟨rest, rfl⟩
  rw [same, firstCharacter?_eq_some_iff.mpr ⟨more, rfl⟩, Option.some.injEq] at first
  subst first
  exact ⟨rfl, List.append_cancel_left same⟩

/-- What follows a character is well-formed if all is. -/
theorem isUtf8_append_iff
    {first rest : Bytes}
    (isCharacter : IsCharacter first) :
    IsUtf8 (first ++ rest) ↔ IsUtf8 rest := by
  obtain ⟨c, rfl⟩ := isCharacter.exists_utf8EncodeChar
  constructor
  · intro isUtf8
    obtain ⟨characters, same⟩ := isUtf8.exists_flatMap
    cases characters with
    | nil =>
        rw [List.flatMap_nil, eq_comm, List.append_eq_nil_iff] at same
        exact absurd same.1 String.utf8EncodeChar_ne_nil
    | cons other others =>
        rw [List.flatMap_cons] at same
        rw [← (utf8EncodeChar_append_inj same).2]
        exact isUtf8_flatMap others
  · exact .cons isCharacter

/-! ## The longest well-formed prefix -/

/-- A length up to which bytes are well-formed, and beyond which they are not. -/
structure IsLongestUtf8Prefix (bytes : Bytes) (length : Nat) : Prop where
  within : length ≤ bytes.length
  isUtf8 : IsUtf8 (bytes.take length)
  longest : ∀ other ≤ bytes.length, IsUtf8 (bytes.take other) → other ≤ length

theorem IsLongestUtf8Prefix.unique
    {bytes : Bytes}
    {length other : Nat}
    (isLongest : IsLongestUtf8Prefix bytes length)
    (isOther : IsLongestUtf8Prefix bytes other) :
    length = other :=
  Nat.le_antisymm (isOther.longest length isLongest.within isLongest.isUtf8)
    (isLongest.longest other isOther.within isOther.isUtf8)

/-- All bytes are well-formed if and only if no shorter prefix is the longest. -/
theorem IsLongestUtf8Prefix.lt_length_iff
    {bytes : Bytes}
    {length : Nat}
    (isLongest : IsLongestUtf8Prefix bytes length) :
    length < bytes.length ↔ ¬ IsUtf8 bytes := by
  constructor
  · intro shorter isUtf8
    have all := isLongest.longest bytes.length (Nat.le_refl _) (by rwa [List.take_length])
    omega
  · intro noUtf8
    refine Nat.lt_of_le_of_ne isLongest.within fun isAll => noUtf8 ?_
    have isUtf8 := isLongest.isUtf8
    rwa [isAll, List.take_length] at isUtf8

/-- Bytes that begin with no character have no well-formed prefix. -/
theorem isLongestUtf8Prefix_zero
    {bytes : Bytes}
    (isNone : firstCharacter? bytes = none) :
    IsLongestUtf8Prefix bytes 0 where
  within := Nat.zero_le _
  isUtf8 := .nil
  longest := by
    intro other isWithin isUtf8
    obtain ⟨characters, same⟩ := isUtf8.exists_flatMap
    cases characters with
    | nil =>
        have isEmpty := congrArg List.length same
        rw [List.flatMap_nil, List.length_nil, List.length_take] at isEmpty
        omega
    | cons c others =>
        have begins : firstCharacter? bytes = some c := by
          refine firstCharacter?_eq_some_iff.mpr
            ⟨others.flatMap String.utf8EncodeChar ++ bytes.drop other, ?_⟩
          rw [← List.append_assoc, ← List.flatMap_cons, same, List.take_append_drop]
        rw [isNone] at begins
        cases begins

/-- A character before bytes makes their longest well-formed prefix longer. -/
theorem IsLongestUtf8Prefix.append
    {first rest : Bytes}
    {length : Nat}
    (isLongest : IsLongestUtf8Prefix rest length)
    (isCharacter : IsCharacter first) :
    IsLongestUtf8Prefix (first ++ rest) (first.length + length) where
  within := by
    rw [List.length_append]
    exact Nat.add_le_add_left isLongest.within _
  isUtf8 := by
    rw [List.take_length_add_append]
    exact .cons isCharacter isLongest.isUtf8
  longest := by
    intro other isWithin isUtf8
    rw [List.length_append] at isWithin
    by_cases isShort : other ≤ first.length
    · exact Nat.le_trans isShort (Nat.le_add_right _ _)
    · obtain ⟨more, rfl⟩ := Nat.exists_eq_add_of_le (Nat.le_of_not_le isShort)
      rw [List.take_length_add_append, isUtf8_append_iff isCharacter] at isUtf8
      exact Nat.add_le_add_left (isLongest.longest more (by omega) isUtf8) _

theorem utf8DecodeChar?_eq_firstCharacter?
    (bytes : ByteArray)
    (position : Nat) :
    bytes.utf8DecodeChar? position = firstCharacter? (bytes.data.toList.drop position) := by
  have rest : bytes.extract position bytes.size =
      ⟨(bytes.data.toList.drop position).toArray⟩ := by
    refine ByteArray.ext ?_
    rw [ByteArray.data_extract, ← Array.toList_inj, Array.toList_extract, List.extract_eq_take_drop,
      List.take_of_length_le]
    rw [List.length_drop]
    exact Nat.le_refl _
  rw [ByteArray.utf8DecodeChar?_eq_utf8DecodeChar?_extract, rest]
  rfl

/-- Whole characters are read up to the end of the longest well-formed prefix. -/
theorem exists_validEnd_eq
    (bytes : ByteArray)
    (position : Nat) :
    ∃ length, validEnd bytes position = position + length ∧
      IsLongestUtf8Prefix (bytes.data.toList.drop position) length := by
  fun_induction validEnd bytes position with
  | case1 position isWithin c begins inductionHypothesis =>
      obtain ⟨length, isEnd, isLongest⟩ := inductionHypothesis
      rw [utf8DecodeChar?_eq_firstCharacter?] at begins
      obtain ⟨rest, parts⟩ := firstCharacter?_eq_some_iff.mp begins
      have isRest : bytes.data.toList.drop (position + c.utf8Size) = rest := by
        rw [← List.drop_drop, parts, ← String.length_utf8EncodeChar, List.drop_left]
      rw [isRest] at isLongest
      refine ⟨c.utf8Size + length, by omega, ?_⟩
      rw [parts, ← String.length_utf8EncodeChar]
      exact isLongest.append (isCharacter_utf8EncodeChar c)
  | case2 position isWithin isNone =>
      rw [utf8DecodeChar?_eq_firstCharacter?] at isNone
      exact ⟨0, rfl, isLongestUtf8Prefix_zero isNone⟩
  | case3 position isBeyond =>
      refine ⟨0, rfl, ?_⟩
      rw [List.drop_eq_nil_of_le (Nat.le_of_not_lt isBeyond)]
      exact isLongestUtf8Prefix_zero rfl

/-- The length of whole characters is that of the longest well-formed prefix. -/
theorem validLength_isLongest (bytes : Bytes) :
    IsLongestUtf8Prefix bytes (validLength bytes) := by
  obtain ⟨length, isEnd, isLongest⟩ := exists_validEnd_eq ⟨bytes.toArray⟩ 0
  rw [Nat.zero_add] at isEnd
  rw [validLength, isEnd]
  exact isLongest

end SourceFacts.Text
