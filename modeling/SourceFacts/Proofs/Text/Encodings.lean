import SourceFacts.Hash.Fingerprint
import SourceFacts.Text.Utf8

namespace SourceFacts.Text

/-!
# Bytes and digits

A text can be recovered from its bytes, bytes from their hexadecimal digits, and a natural
number from its decimal ones.
-/

/-! ## Bytes of texts -/

/-- A text is recovered from its bytes. -/
@[simp] theorem decode?_encode (text : String) :
    decode? (encode text) = some text := by
  have bytesSame :
      (⟨text.toByteArray.data.toList.toArray⟩ : ByteArray) = text.toByteArray := by
    simp
  simp only [decode?, encode, bytesSame, String.fromUTF8?]
  rw [dif_pos (String.isValidUTF8 text)]
  rfl

/-- Different texts have different bytes. -/
theorem encode_inj {first second : String} :
    encode first = encode second ↔ first = second := by
  constructor
  · intro same
    have decoded := congrArg decode? same
    simpa using decoded
  · intro same
    rw [same]

/-- Bytes that stand for a text are those of the text. -/
theorem encode_of_decode?
    {bytes : Bytes}
    {text : String}
    (isText : decode? bytes = some text) :
    encode text = bytes := by
  simp only [decode?, String.fromUTF8?] at isText
  split at isText
  · rw [← Option.some.inj isText]
    rfl
  · cases isText

/-- The size of a text is the number of its bytes. -/
theorem length_encode (text : String) : (encode text).length = text.utf8ByteSize :=
  Array.length_toList

/-- The bytes of a text are those of its characters. -/
theorem encode_eq_flatMap (text : String) :
    encode text = text.toList.flatMap String.utf8EncodeChar := by
  rw [encode, ← String.utf8Encode_toList, List.utf8Encode, List.data_toByteArray]

/-- The bytes of two texts one after the other are those of both. -/
theorem encode_append (first second : String) :
    encode (first ++ second) = encode first ++ encode second := by
  rw [encode_eq_flatMap, String.toList_append, List.flatMap_append, ← encode_eq_flatMap,
    ← encode_eq_flatMap]

/-- A line feed is among the bytes of a character only if it is that character. -/
theorem eq_newline_of_mem_utf8EncodeChar
    {c : Char}
    (member : 0x0A ∈ String.utf8EncodeChar c) :
    c = '\n' := by
  have code_of_feed : ∀ code, (0x0A : UInt8) = UInt8.ofNat code → code % 256 = 0x0A := by
    intro code same
    have sameNat := congrArg UInt8.toNat same
    rw [UInt8.toNat_ofNat'] at sameNat
    exact sameNat.symm
  have notFeed : ∀ code, 0x80 ≤ code → code < 0x100 → (0x0A : UInt8) ≠ UInt8.ofNat code := by
    intro code atLeast atMost same
    have isCode := code_of_feed code same
    omega
  have isCode : c.val.toNat = 0x0A := by
    simp only [String.utf8EncodeChar] at member
    -- All bytes of a character with several are above 0x7F.
    split at member
    · have isCode := code_of_feed _ (List.mem_singleton.mp member)
      omega
    · repeat' split at member
      all_goals
        simp (disch := omega) only [List.mem_cons, List.not_mem_nil, notFeed, or_self] at member
  exact Char.ext (UInt32.toNat_inj.mp isCode)

/-- A line feed among the bytes of a text is one of its characters. -/
theorem newline_mem_of_lineFeed_mem_encode
    {text : String}
    (member : 0x0A ∈ encode text) :
    '\n' ∈ text.toList := by
  rw [encode_eq_flatMap, List.mem_flatMap] at member
  obtain ⟨c, isChar, inBytes⟩ := member
  rwa [eq_newline_of_mem_utf8EncodeChar inBytes] at isChar

/-! ## Decimal digits -/

/-- Digits are all that is written for a number. -/
theorem all_isDigit_toDigits (value : Nat) :
    (Nat.toDigits 10 value).all Char.isDigit = true := by
  rw [List.all_eq_true]
  intro c member
  exact Nat.isDigit_of_mem_toDigits (by decide) (by decide) member

/-- A number above zero does not begin with a zero. -/
theorem head?_toDigits_ne_zero
    {value : Nat}
    (positive : 0 < value) :
    (Nat.toDigits 10 value).head? ≠ some '0' := by
  induction value using Nat.strongRecOn with
  | ind value inductionHypothesis =>
      rw [Nat.toDigits_eq_if (by decide)]
      split
      · rename_i oneDigit
        have everyDigit :
            ∀ digit : Fin 10, 0 < digit.val → Nat.digitChar digit.val ≠ '0' := by
          decide
        simpa using everyDigit ⟨value, oneDigit⟩ positive
      · rename_i moreDigits
        have leading :
            (Nat.toDigits 10 (value / 10)).head? ≠ some '0' :=
          inductionHypothesis (value / 10) (by omega) (by omega)
        rw [List.head?_append]
        cases leadingDigits : (Nat.toDigits 10 (value / 10)).head? with
        | none =>
            exact (Nat.toDigits_ne_nil (List.head?_eq_none_iff.mp leadingDigits)).elim
        | some digit =>
            rw [leadingDigits] at leading
            simpa using leading

/-- Reading digits from the left gives the value of a number that they were written
for. -/
theorem foldl_toDigits (value : Nat) :
    (Nat.toDigits 10 value).foldl
        (fun read c => read * 10 + (c.toNat - '0'.toNat)) 0 =
      value := by
  have read := Nat.ofDigitChars_ten_toDigits (n := value)
  rw [Nat.ofDigitChars_eq_foldl] at read
  simpa only [Nat.mul_comm] using read

/-- Digits end where something else begins. -/
theorem takeWhile_isDigit_append
    {digits rest : List Char}
    (digitsOnly : digits.all Char.isDigit = true)
    (stop : ∀ c ∈ rest.head?, c.isDigit = false) :
    (digits ++ rest).takeWhile Char.isDigit = digits ∧
      (digits ++ rest).dropWhile Char.isDigit = rest := by
  have member : ∀ c ∈ digits, Char.isDigit c = true :=
    List.all_eq_true.mp digitsOnly
  rw [List.takeWhile_append_of_pos member, List.dropWhile_append_of_pos member]
  cases rest with
  | nil =>
      simp
  | cons c more =>
      have noDigit : c.isDigit = false := stop c rfl
      simp [noDigit]

/-! ## Hexadecimal digits -/

/-- The value of a digit is what it was written for. -/
theorem hexValue?_hexDigit
    {value : Nat}
    (isDigit : value < 16) :
    hexValue? (hexDigit value) = some value := by
  have everyDigit : ∀ digit : Fin 16, hexValue? (hexDigit digit) = some digit.val := by
    decide
  exact everyDigit ⟨value, isDigit⟩

/-- Bytes are recovered from the characters of their digits. -/
theorem ofHexChars?_flatMap (bytes : Bytes) :
    ofHexChars? (bytes.flatMap fun byte =>
      [hexDigit (byte.toNat / 16), hexDigit (byte.toNat % 16)]) = some bytes := by
  induction bytes with
  | nil =>
      rfl
  | cons byte rest inductionHypothesis =>
      have bound := byte.toNat_lt
      have high : hexValue? (hexDigit (byte.toNat / 16)) = some (byte.toNat / 16) :=
        hexValue?_hexDigit (by omega)
      have low : hexValue? (hexDigit (byte.toNat % 16)) = some (byte.toNat % 16) :=
        hexValue?_hexDigit (by omega)
      have joined : UInt8.ofNat (16 * (byte.toNat / 16) + byte.toNat % 16) = byte := by
        rw [Nat.div_add_mod, UInt8.ofNat_toNat]
      rw [List.flatMap_cons, List.cons_append, List.cons_append, List.nil_append, ofHexChars?,
        high, low, inductionHypothesis]
      simp [joined]

/-- Bytes are recovered from their digits. -/
@[simp] theorem ofHex?_toHex (bytes : Bytes) : ofHex? (toHex bytes) = some bytes := by
  rw [ofHex?, toHex, String.toList_ofList, ofHexChars?_flatMap]

/-- There are two digits for every byte. -/
theorem length_toHex (bytes : Bytes) : (toHex bytes).toList.length = 2 * bytes.length := by
  rw [toHex, String.toList_ofList]
  induction bytes with
  | nil =>
      rfl
  | cons byte rest inductionHypothesis =>
      rw [List.flatMap_cons, List.length_append, inductionHypothesis, List.length_cons]
      simp only [List.length_cons, List.length_nil]
      omega

/-- The digits of bytes are digits of values below sixteen. -/
theorem mem_toHex
    {bytes : Bytes}
    {c : Char}
    (member : c ∈ (toHex bytes).toList) :
    ∃ value < 16, c = hexDigit value := by
  rw [toHex, String.toList_ofList, List.mem_flatMap] at member
  obtain ⟨byte, _, digit⟩ := member
  have bound := byte.toNat_lt
  simp only [List.mem_cons, List.not_mem_nil, or_false] at digit
  rcases digit with rfl | rfl
  · exact ⟨byte.toNat / 16, by omega, rfl⟩
  · exact ⟨byte.toNat % 16, by omega, rfl⟩

end SourceFacts.Text

namespace SourceFacts.Hash.Fingerprint

/-- A fingerprint is recovered from its digits. -/
@[simp] theorem ofHex?_toHex (fingerprint : Fingerprint) :
    ofHex? fingerprint.toHex = some fingerprint := by
  obtain ⟨bytes, length_eq⟩ := fingerprint
  simp [ofHex?, toHex, ofBytes?, length_eq]

/-- Different fingerprints have different digits. -/
theorem toHex_inj {first second : Fingerprint} :
    first.toHex = second.toHex ↔ first = second := by
  constructor
  · intro same
    have recovered := congrArg ofHex? same
    simpa using recovered
  · intro same
    rw [same]

/-- A fingerprint has 64 digits. -/
theorem length_toHex (fingerprint : Fingerprint) :
    fingerprint.toHex.toList.length = 64 := by
  rw [toHex, Text.length_toHex, fingerprint.length_eq]
  rfl

end SourceFacts.Hash.Fingerprint
