import SourceFacts.Cache.Store
import SourceFacts.Proofs.Disk.Operations
import SourceFacts.Proofs.Failures.Records
import SourceFacts.Proofs.Json.RoundTrip
import SourceFacts.Proofs.Text.Encodings

namespace SourceFacts.Cache

/-!
# Names and texts of entries

Entries of a store are found again under their names, and read back from what is written in
their files.
-/

open Hash Text

/-!
## Names in the directory of a store

The names of shards, of the files of entries and of the files from which these are
made are names of the system, and no two of them are the same.
-/

section Names

open Disk

/-! ### Plain names -/

/-- A character that stands in the names of a store. -/
def isPlain (c : Char) : Bool := '.' ≤ c && c ≤ 'z' && c != '/'

/-- A plain character takes one byte. -/
theorem utf8Size_of_isPlain
    {c : Char}
    (plain : isPlain c = true) :
    c.utf8Size = 1 := by
  simp only [isPlain, Bool.and_eq_true, decide_eq_true_eq] at plain
  have small : c.val ≤ 127 := UInt32.le_trans plain.1.2 (by decide)
  rw [Char.utf8Size]
  exact if_pos small

/-- A text of plain characters takes a byte for each of them. -/
theorem utf8ByteSize_of_isPlain
    {name : String}
    (plain : name.toList.all isPlain = true) :
    name.utf8ByteSize = name.toList.length := by
  obtain ⟨chars, rfl⟩ : ∃ chars, name = String.ofList chars :=
    ⟨name.toList, String.ofList_toList.symm⟩
  rw [String.toList_ofList] at plain ⊢
  induction chars with
  | nil =>
      rfl
  | cons c more inductionHypothesis =>
      rw [List.all_cons, Bool.and_eq_true] at plain
      rw [String.ofList_cons, String.utf8ByteSize_append, String.utf8ByteSize_singleton,
        utf8Size_of_isPlain plain.1, inductionHypothesis plain.2, List.length_cons]
      omega

/-- A text of plain characters, not only dots, is a name if it is not too long. -/
theorem isName_of_isPlain
    {name : String}
    {c : Char}
    (plain : name.toList.all isPlain = true)
    (member : c ∈ name.toList)
    (noDot : c ≠ '.')
    (short : name.toList.length ≤ maxNameLength) :
    IsName name where
  nonempty := by
    rintro rfl
    simp at member
  noSlash := by
    intro slash
    have isPlainSlash := List.all_eq_true.mp plain '/' slash
    exact absurd isPlainSlash (by decide)
  noNul := by
    intro nul
    have isPlainNul := List.all_eq_true.mp plain '\x00' nul
    exact absurd isPlainNul (by decide)
  notHere := by
    rintro rfl
    have dots : ".".toList = ['.'] := rfl
    simp [dots] at member
    exact noDot member
  notAbove := by
    rintro rfl
    have dots : "..".toList = ['.', '.'] := rfl
    simp [dots] at member
    exact noDot member
  short := by
    rw [utf8ByteSize_of_isPlain plain]
    exact short

/-! ### Keys -/

/-- The digits of a key are lower-case hexadecimal digits. -/
theorem isKeyDigit_of_mem_toHex
    {key : Key}
    {c : Char}
    (member : c ∈ key.toHex.toList) :
    isKeyDigit c = true := by
  have everyDigit : ∀ value : Fin 16, isKeyDigit (hexDigit value.val) = true := by
    decide
  obtain ⟨value, small, rfl⟩ := mem_toHex member
  exact everyDigit ⟨value, small⟩

/-- A digit of a key is plain and no dot. -/
theorem isPlain_of_isKeyDigit
    {c : Char}
    (digit : isKeyDigit c = true) :
    isPlain c = true ∧ c ≠ '.' := by
  have noSlash : c ≠ '/' := by
    rintro rfl
    exact absurd digit (by decide)
  constructor
  · simp only [isPlain, Bool.and_eq_true, decide_eq_true_eq, bne_iff_ne]
    refine ⟨?_, noSlash⟩
    simp [isKeyDigit, Char.le_def, UInt32.le_iff_toNat_le] at digit ⊢
    omega
  · rintro rfl
    exact absurd digit (by decide)

/-- The digits of a key are of the right number and kind. -/
theorem areKeyDigits_toHex (key : Key) :
    areKeyDigits keyDigits key.toHex.toList = true := by
  have digits : key.toHex.toList.all isKeyDigit = true :=
    List.all_eq_true.mpr fun _ member => isKeyDigit_of_mem_toHex member
  simp [areKeyDigits, keyDigits, Fingerprint.length_toHex, digits]

/-- The digits of a key are plain. -/
theorem all_isPlain_toHex (key : Key) : key.toHex.toList.all isPlain = true :=
  List.all_eq_true.mpr fun _ member => (isPlain_of_isKeyDigit (isKeyDigit_of_mem_toHex member)).1

/-- A key begins with a digit. -/
theorem exists_toHex_eq_cons (key : Key) :
    ∃ first more, key.toHex.toList = first :: more ∧ first ≠ '.' := by
  cases shape : key.toHex.toList with
  | nil =>
      have length := Fingerprint.length_toHex key
      rw [shape] at length
      exact absurd length (by decide)
  | cons first more =>
      have digit : isKeyDigit first = true :=
        isKeyDigit_of_mem_toHex (by rw [shape]; exact List.mem_cons_self)
      exact ⟨first, more, rfl, (isPlain_of_isKeyDigit digit).2⟩

/-! ### Shards -/

variable {digits : Nat} {key : Key}

/-- The digits in the name of a shard. -/
theorem toList_shardOf (digits : Nat) (key : Key) :
    (shardOf digits key).toList = key.toHex.toList.take digits := by
  rw [shardOf, String.toList_ofList]

/-- The digits in the name of a shard are plain. -/
theorem all_isPlain_shardOf (digits : Nat) (key : Key) :
    (shardOf digits key).toList.all isPlain = true := by
  rw [toList_shardOf, List.all_eq_true]
  intro c member
  exact (isPlain_of_isKeyDigit (isKeyDigit_of_mem_toHex (List.mem_of_mem_take member))).1

/-- The size of the name of a shard. -/
theorem utf8ByteSize_shardOf
    (bound : digits ≤ keyDigits)
    (key : Key) :
    (shardOf digits key).utf8ByteSize = digits := by
  rw [utf8ByteSize_of_isPlain (all_isPlain_shardOf digits key), toList_shardOf, List.length_take,
    Fingerprint.length_toHex]
  exact Nat.min_eq_left bound

/-- The name of the shard of a key is that of a shard. -/
theorem isShardName_shardOf
    {store : Store}
    (bound : store.shardDigits ≤ keyDigits)
    (key : Key) :
    store.isShardName (shardOf store.shardDigits key) = true := by
  have digits : (key.toHex.toList.take store.shardDigits).all isKeyDigit = true :=
    List.all_eq_true.mpr fun _ member => isKeyDigit_of_mem_toHex (List.mem_of_mem_take member)
  have length : (key.toHex.toList.take store.shardDigits).length = store.shardDigits := by
    rw [List.length_take, Fingerprint.length_toHex]
    exact Nat.min_eq_left bound
  rw [Store.isShardName, areKeyDigits, toList_shardOf, length, digits]
  simp

/-- The name of a shard is a name. -/
theorem isName_shardOf
    (positive : 0 < digits)
    (key : Key) :
    IsName (shardOf digits key) := by
  have chars := toList_shardOf digits key
  have some : (shardOf digits key).toList ≠ [] := by
    intro none
    have lengths := congrArg List.length none
    rw [chars, List.length_take, Fingerprint.length_toHex, List.length_nil] at lengths
    omega
  obtain ⟨c, member⟩ := List.exists_mem_of_ne_nil _ some
  have short : (shardOf digits key).toList.length ≤ maxNameLength := by
    rw [chars, List.length_take, Fingerprint.length_toHex]
    simp only [maxNameLength]
    omega
  have digit := isKeyDigit_of_mem_toHex (List.mem_of_mem_take (chars ▸ member))
  exact isName_of_isPlain (all_isPlain_shardOf digits key) member
    (isPlain_of_isKeyDigit digit).2 short

/-! ### Files of entries -/

/-- The characters in the name of an entry's file. -/
theorem toList_entryName (key : Key) :
    (entryName key).toList = key.toHex.toList ++ ['.', 'j', 's', 'o', 'n'] := by
  rw [entryName, String.toList_append]
  rfl

/-- Different keys have different files. -/
theorem entryName_inj {first second : Key} :
    entryName first = entryName second ↔ first = second := by
  constructor
  · intro same
    have chars := congrArg String.toList same
    rw [toList_entryName, toList_entryName] at chars
    exact Fingerprint.toHex_inj.mp (String.toList_inj.mp (List.append_cancel_right chars))
  · rintro rfl
    rfl

/-- The rest of a list after its beginning. -/
theorem dropStart?_append
    [BEq α] [LawfulBEq α]
    (start items : List α) :
    dropStart? start (start ++ items) = some items := by
  induction start with
  | nil =>
      simp [dropStart?]
  | cons first more inductionHypothesis =>
      simp [dropStart?, inductionHypothesis]

/-- The name of the file of an entry is that of one. -/
theorem isEntryName_entryName (key : Key) : isEntryName (entryName key) = true := by
  have ending : entryEnding.toList = ['.', 'j', 's', 'o', 'n'] := rfl
  have stem : dropEnd? entryEnding.toList (entryName key).toList = some key.toHex.toList := by
    rw [dropEnd?, toList_entryName, ending, List.reverse_append, dropStart?_append,
      Option.map_some, List.reverse_reverse]
  rw [isEntryName, stem]
  exact areKeyDigits_toHex key

/-- The name of the file of an entry is a name. -/
theorem isName_entryName (key : Key) : IsName (entryName key) := by
  have chars := toList_entryName key
  obtain ⟨first, more, shape, noDot⟩ := exists_toHex_eq_cons key
  have plain : (entryName key).toList.all isPlain = true := by
    rw [chars, List.all_append, all_isPlain_toHex]
    rfl
  have member : first ∈ (entryName key).toList := by
    simp [chars, shape]
  have short : (entryName key).toList.length ≤ maxNameLength := by
    rw [chars, List.length_append, Fingerprint.length_toHex]
    decide
  exact isName_of_isPlain plain member noDot short

/-! ### New files -/

/-- The characters of a tag are plain, and there are 32 of them. -/
theorem tagText_plain (number : Nat) :
    (tagText number).toList.all isPlain = true ∧ (tagText number).toList.length = 32 := by
  have everyDigit : ∀ value : Fin 16, isPlain (hexDigit value.val) = true := by
    decide
  rw [tagText, String.toList_ofList]
  constructor
  · rw [List.all_eq_true]
    intro c member
    obtain ⟨index, _, rfl⟩ := List.mem_map.mp member
    exact everyDigit ⟨_, Nat.mod_lt _ (by decide)⟩
  · simp

theorem noSlash_tagText (number : Nat) : '/' ∉ (tagText number).toList := fun member =>
  absurd (List.all_eq_true.mp (tagText_plain number).1 '/' member) (by decide)

/-- The characters in the name of the file from which an entry's file is made. -/
theorem toList_temporaryName
    (key : Key)
    (tag : String) :
    (temporaryName (entryName key) tag).toList =
      '.' :: ((entryName key).toList ++ '.' :: (tag.toList ++ ['.', 't', 'm', 'p'])) := by
  simp [temporaryName]

/-- The characters in the name of such a file are plain. -/
theorem all_isPlain_temporaryName
    (key : Key)
    (number : Nat) :
    (temporaryName (entryName key) (tagText number)).toList.all isPlain = true := by
  have dot : isPlain '.' = true := rfl
  simp only [toList_temporaryName, toList_entryName, List.all_cons, List.all_append,
    all_isPlain_toHex, (tagText_plain number).1, dot]
  rfl

/-- The size of the name of such a file. -/
def temporaryNameSize : Nat := 107

/-- The size of the name of the file from which an entry's file is made. -/
theorem utf8ByteSize_temporaryName
    (key : Key)
    (number : Nat) :
    (temporaryName (entryName key) (tagText number)).utf8ByteSize = temporaryNameSize := by
  rw [utf8ByteSize_of_isPlain (all_isPlain_temporaryName key number)]
  simp [toList_temporaryName, toList_entryName, Fingerprint.length_toHex,
    (tagText_plain number).2, temporaryNameSize]

/-- The name of the file from which an entry's file is made is a name. -/
theorem isName_temporaryName
    (key : Key)
    (number : Nat) :
    IsName (temporaryName (entryName key) (tagText number)) := by
  have plain := all_isPlain_temporaryName key number
  obtain ⟨first, more, shape, noDot⟩ := exists_toHex_eq_cons key
  have member : first ∈ (temporaryName (entryName key) (tagText number)).toList := by
    simp [toList_temporaryName, toList_entryName, shape]
  have short :
      (temporaryName (entryName key) (tagText number)).toList.length ≤ maxNameLength := by
    rw [← utf8ByteSize_of_isPlain plain, utf8ByteSize_temporaryName]
    decide
  exact isName_of_isPlain plain member noDot short

/-- The file from which an entry's file is made is no entry's file. -/
theorem temporaryName_ne_entryName
    (key other : Key)
    (tag : String) :
    temporaryName (entryName key) tag ≠ entryName other := by
  intro same
  obtain ⟨first, more, shape, noDot⟩ := exists_toHex_eq_cons other
  have chars := congrArg String.toList same
  rw [toList_temporaryName, toList_entryName other, shape, List.cons_append,
    List.cons.injEq] at chars
  exact noDot chars.1.symm

end Names

/-!
## Entries are read back

What is written for an entry is read as that entry, if its payload is a value
that is read back and its moment is one of the calendar.
-/

open Json Time

/-- A payload that can be stored: its fields are in order, it is nested a hundred
times at most and its numbers are read back from their texts. -/
abbrev IsStorable (payload : Json) : Prop := payload.Plain 100

/-- An entry that can be stored. -/
structure Entry.IsStorable (entry : Entry) : Prop where
  payload : Cache.IsStorable entry.payload
  createdAt : entry.createdAt.IsValid

/-! ### Fields -/

variable {arrangement : Arrangement}

/-- A fingerprint is read back. -/
@[simp] theorem ofJson?_toJson_fingerprint (fingerprint : Fingerprint) :
    Fingerprint.ofJson? (arrangement.of fingerprint.toJson) = some fingerprint := by
  simp [Fingerprint.ofJson?, Fingerprint.toJson]

/-- What is known about a source is read back. -/
@[simp] theorem SourceMetadata.ofJson?_toJson (source : SourceMetadata) :
    SourceMetadata.ofJson? (arrangement.of source.toJson) = some source := by
  obtain ⟨record, isRecord, finds⟩ :=
    arrangement.exists_record (rfl : source.toJson = _) (List.Sublist.refl fieldNames) (by decide)
  simp [ofJson?, isRecord, finds.field?, toFields]

/-- An entry is read back from its record, its payload in canonical form. -/
theorem Entry.ofJson?_toJson
    (arrangement : Arrangement)
    (entry : Entry)
    (valid : entry.createdAt.IsValid) :
    Entry.ofJson? (arrangement.of entry.toJson) =
      some { entry with payload := entry.payload.canonical } := by
  obtain ⟨record, isRecord, finds⟩ :=
    arrangement.exists_record (rfl : entry.toJson = _) (List.Sublist.refl fieldNames) (by decide)
  have createdAt := Failures.asInstant?_instantJson arrangement valid
  simp [ofJson?, isRecord, finds.field?, toFields, createdAt]

/-! ### Files -/

/-- What is read of a payload in the file of an entry. There, a payload is nested in the record of
the entry, so that it is read only if it is not nested in itself as often as is allowed. -/
def recovered? (payload : Json) : Option Json :=
  if payload.depth < maxOpen then payload.reread? else none

/-- A payload is read back exactly if it is not nested too deeply and its numbers are read
back. -/
theorem recovered?_eq_self_iff
    {payload : Json} :
    recovered? payload = some payload ↔ payload.depth < maxOpen ∧ payload.ReadsBack := by
  rw [recovered?, ← reread?_eq_self_iff]
  by_cases shallow : payload.depth < maxOpen <;> simp [shallow]

/-- What is read of the record of an entry is the record with what is read of its payload. -/
theorem Entry.parse?_toJson (entry : Entry) :
    parse? entry.toJson.compact =
      (recovered? entry.payload).map fun payload => { entry with payload }.toJson := by
  have reread : entry.toJson.reread? =
      entry.payload.reread?.map fun payload => { entry with payload }.toJson := by
    cases isRead : entry.payload.reread? <;>
      simp [Entry.toJson, Entry.toFields, reread?, rereadFields?, isRead, Json.word,
        Fingerprint.toJson, Failures.instantJson, SourceMetadata.toJson, SourceMetadata.toFields]
  have nested : entry.toJson.depth ≤ maxOpen ↔ entry.payload.depth < maxOpen := by
    simp only [Entry.toJson, Entry.toFields, depth, depthOfFields, Json.word, Fingerprint.toJson,
      Failures.instantJson, SourceMetadata.toJson, SourceMetadata.toFields, maxOpen]
    omega
  rw [parse?_compact, reread, recovered?]
  by_cases shallow : entry.payload.depth < maxOpen
  · rw [if_pos (nested.mpr shallow), if_pos shallow]
  · rw [if_neg (mt nested.mp shallow), if_neg shallow, Option.map_none]

/-- What is read of the file of an entry is the entry with what is read of its payload, in
canonical form. -/
theorem Store.decodeEntry?_encode
    (entry : Entry)
    (valid : entry.createdAt.IsValid) :
    Store.decodeEntry? (Store.encodeEntry entry) =
      (recovered? entry.payload).map fun payload =>
        { entry with payload := payload.canonical } := by
  rw [Store.decodeEntry?, Store.encodeEntry, decode?_encode]
  simp only [Option.bind_eq_bind, Option.bind_some]
  rw [Entry.parse?_toJson]
  cases recovered? entry.payload with
  | none =>
      rfl
  | some payload =>
      exact Entry.ofJson?_toJson .written { entry with payload } valid

/-- An entry that can be stored is read back from its file. -/
theorem Store.decodeEntry?_encodeEntry
    {entry : Entry}
    (storable : entry.IsStorable) :
    Store.decodeEntry? (Store.encodeEntry entry) = some entry := by
  have shallow : entry.payload.depth < maxOpen :=
    Nat.lt_of_le_of_lt storable.payload.shallow (by decide)
  rw [Store.decodeEntry?_encode entry storable.createdAt,
    recovered?_eq_self_iff.mpr ⟨shallow, storable.payload.readsBack⟩, Option.map_some,
    storable.payload.canonical]

/-! ### Other files -/

/-- An empty file is that of no entry. -/
theorem Store.decodeEntry?_nil : Store.decodeEntry? [] = none := by
  have isEmpty : decode? [] = some "" := by decide
  have noValue : Json.parse? "" = none := by
    simp [Json.parse?, Json.tokens?, Json.Reading.run?]
  simp [Store.decodeEntry?, isEmpty, noValue]

/-- An object without a key is no entry. -/
theorem Entry.ofJson?_of_noKey
    {fields : List (String × Json)}
    (noKey : "key" ∉ fields.map (·.1)) :
    Entry.ofJson? (.object fields) = none := by
  rw [Entry.ofJson?]
  cases isRecord : (Json.object fields).asRecord? Entry.fieldNames with
  | none =>
      rfl
  | some known =>
      have isMissing : lookup? "key" known = none := by
        rw [lookup?_eq_none_iff]
        intro isNamed
        obtain ⟨field, member, isKey⟩ := List.mem_map.mp isNamed
        have isField : field ∈ fields := by
          rw [asRecord?] at isRecord
          split at isRecord
          · obtain rfl := Option.some.inj isRecord
            exact (List.mem_filter.mp member).1
          · exact absurd isRecord (by simp)
        exact noKey (List.mem_map.mpr ⟨field, isField, isKey⟩)
      have noField : field? Fingerprint.ofJson? "key" known = none := by
        rw [field?, isMissing]
        rfl
      simp only [Option.bind_eq_bind, Option.bind_some, noField, Option.bind_none]

/-- The text of an object without a key is that of no entry. -/
theorem Store.decodeEntry?_pretty_of_noKey
    {fields : List (String × Json)}
    (noKey : "key" ∉ fields.map (·.1)) :
    Store.decodeEntry? (encode (Json.object fields).pretty) = none := by
  rw [Store.decodeEntry?, decode?_encode]
  simp only [Option.bind_eq_bind, Option.bind_some]
  rw [parse?_pretty, parse?_compact, reread?]
  split
  · cases areRead : rereadFields? fields with
    | none =>
        rfl
    | some read =>
        rw [← names_of_rereadFields? areRead] at noKey
        exact Entry.ofJson?_of_noKey noKey
  · rfl

end SourceFacts.Cache
