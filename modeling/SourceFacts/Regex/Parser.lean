import SourceFacts.Regex.Expression

namespace SourceFacts.Regex

/-!
# Reading regular expressions

The notation knows groups, alternatives, repetitions, classes of characters with
operations on them, conditions on places, and flags. It knows neither references
to groups nor conditions on what stands before or after a match.
-/

open Text

/-- Flags that hold from some place of an expression on. -/
structure Flags where
  anyCase : Bool := false
  multiLine : Bool := false
  dotMatchesLineFeed : Bool := false
  returnsEndLines : Bool := false
  ignoresBlanks : Bool := false
  unicode : Bool := true
deriving Repr, DecidableEq, Inhabited

/-- A piece of a sequence. Setting flags is a piece that cannot be repeated. -/
inductive Piece where
  | regex (regex : Regex) (depth : Nat)
  | flags
deriving Repr, Inhabited

/-- How deeply the parts of an expression may be nested. -/
def maxDepth : Nat := 250

/-! ## Blanks and numbers -/

/-- Drops a comment, up to the end of the line. -/
def dropComment (chars : List Char) : List Char := (chars.dropWhile (· ≠ '\n')).drop 1

/-- Drops blanks and comments if the flags say so. -/
def skip (flags : Flags) : Nat → List Char → List Char
  | 0, chars => chars
  | fuel + 1, chars =>
      if flags.ignoresBlanks then
        match chars.dropWhile isBlank with
        | '#' :: rest => skip flags fuel (dropComment rest)
        | rest => rest
      else chars

/-- The greatest number of repetitions. -/
def maxCount : Nat := 4294967295

/-- A decimal number between blanks. -/
def decimal? (chars : List Char) : Option (Nat × List Char) :=
  let chars := chars.dropWhile isBlank
  let digits := chars.takeWhile Char.isDigit
  let value := digits.foldl (fun value c => value * 10 + (c.toNat - '0'.toNat)) 0
  if digits.isEmpty || maxCount < value then none
  else some (value, (chars.dropWhile Char.isDigit).dropWhile isBlank)

/-- The value of a hexadecimal digit. -/
def hexDigit? (c : Char) : Option Nat :=
  if c.isDigit then some (c.toNat - '0'.toNat)
  else if 'a' ≤ c ∧ c ≤ 'f' then some (c.toNat - 'a'.toNat + 10)
  else if 'A' ≤ c ∧ c ≤ 'F' then some (c.toNat - 'A'.toNat + 10)
  else none

/-- The character that hexadecimal digits stand for. -/
def hexChar? (digits : List Char) : Option Char := do
  let value ← digits.foldlM (fun value c => do return value * 16 + (← hexDigit? c)) 0
  if value.isValidChar then some (Char.ofNat value) else none

/-- The character of a number of digits, or of digits in braces. -/
def readHex? (count : Nat) (chars : List Char) : Option (Char × List Char) :=
  match chars with
  | '\x7b' :: rest =>
      let digits := rest.takeWhile (· ≠ '\x7d')
      match rest.dropWhile (· ≠ '\x7d') with
      | _ :: after =>
          if digits.isEmpty then none else (hexChar? digits).map (·, after)
      | [] => none
  | chars =>
      if chars.length < count then none
      else (hexChar? (chars.take count)).map (·, chars.drop count)

/-! ## Classes with names -/

/-- The sets of characters that are named after a general category. -/
def categories : List (List String × CharSet) :=
  let all (sets : List CodePointSet) : CharSet :=
    (sets.map CharSet.property).foldl .union .nothing
  let letters := [uppercaseLetter, lowercaseLetter, titlecaseLetter, modifierLetter, otherLetter]
  let marks := [nonspacingMark, spacingMark, enclosingMark]
  let numbers := [decimalNumber, letterNumber, otherNumber]
  let punctuation := [connectorPunctuation, dashPunctuation, openPunctuation, closePunctuation,
    initialPunctuation, finalPunctuation, otherPunctuation]
  let symbols := [mathSymbol, currencySymbol, modifierSymbol, otherSymbol]
  let separators := [spaceSeparator, lineSeparator, paragraphSeparator]
  let known := letters ++ marks ++ numbers ++ punctuation ++ symbols ++ separators ++
    [control, formatCharacter, privateUse]
  let unassigned := CharSet.complement (all known)
  [(["lu", "uppercaseletter"], .property uppercaseLetter),
    (["ll", "lowercaseletter"], .property lowercaseLetter),
    (["lt", "titlecaseletter"], .property titlecaseLetter),
    (["lc", "casedletter"], all [uppercaseLetter, lowercaseLetter, titlecaseLetter]),
    (["lm", "modifierletter"], .property modifierLetter),
    (["lo", "otherletter"], .property otherLetter),
    (["l", "letter"], all letters),
    (["mn", "nonspacingmark"], .property nonspacingMark),
    (["mc", "spacingmark"], .property spacingMark),
    (["me", "enclosingmark"], .property enclosingMark),
    (["m", "mark", "combiningmark"], all marks),
    (["nd", "decimalnumber", "digit"], .property decimalNumber),
    (["nl", "letternumber"], .property letterNumber),
    (["no", "othernumber"], .property otherNumber),
    (["n", "number"], all numbers),
    (["pc", "connectorpunctuation"], .property connectorPunctuation),
    (["pd", "dashpunctuation"], .property dashPunctuation),
    (["ps", "openpunctuation"], .property openPunctuation),
    (["pe", "closepunctuation"], .property closePunctuation),
    (["pi", "initialpunctuation"], .property initialPunctuation),
    (["pf", "finalpunctuation"], .property finalPunctuation),
    (["po", "otherpunctuation"], .property otherPunctuation),
    (["p", "punctuation", "punct"], all punctuation),
    (["sm", "mathsymbol"], .property mathSymbol),
    (["sc", "currencysymbol"], .property currencySymbol),
    (["sk", "modifiersymbol"], .property modifierSymbol),
    (["so", "othersymbol"], .property otherSymbol),
    (["s", "symbol"], all symbols),
    (["zs", "spaceseparator"], .property spaceSeparator),
    (["zl", "lineseparator"], .property lineSeparator),
    (["zp", "paragraphseparator"], .property paragraphSeparator),
    (["z", "separator"], all separators),
    (["cc", "control", "cntrl"], .property control),
    (["cf", "format"], .property formatCharacter),
    (["co", "privateuse"], .property privateUse),
    (["cn", "unassigned"], unassigned),
    (["c", "other"], .union (all [control, formatCharacter, privateUse]) unassigned),
    (["assigned"], all known)]

/-- The sets of characters that are named after another property. -/
def properties : List (List String × CharSet) :=
  [(["any"], .range 0 0x10FFFF),
    (["ascii"], .range 0 0x7F),
    (["alphabetic", "alpha"], .alphabetic),
    (["lowercase", "lower"], .union (.property lowercaseLetter) (.property otherLowercase)),
    (["uppercase", "upper"], .union (.property uppercaseLetter) (.property otherUppercase)),
    (["whitespace", "wspace", "space"], .blank)]

/-- The sets of characters that are named after a script. -/
def scripts : List (List String × CharSet) :=
  [(["latin", "latn"], .property scriptLatin),
    (["greek", "grek"], .property scriptGreek),
    (["cyrillic", "cyrl"], .property scriptCyrillic),
    (["armenian", "armn"], .property scriptArmenian),
    (["hebrew", "hebr"], .property scriptHebrew),
    (["arabic", "arab"], .property scriptArabic),
    (["devanagari", "deva"], .property scriptDevanagari),
    (["bengali", "beng"], .property scriptBengali),
    (["thai"], .property scriptThai),
    (["georgian", "geor"], .property scriptGeorgian),
    (["hangul", "hang"], .property scriptHangul),
    (["hiragana", "hira"], .property scriptHiragana),
    (["katakana", "kana"], .property scriptKatakana),
    (["han", "hani"], .property scriptHan)]

/-- The name of a set as it is compared: in lower case, without separators and
without `is` before it. -/
def looseName (name : List Char) : String :=
  let letters := (name.filter fun c => !(isBlank c || c == '_' || c == '-')).map Char.toLower
  String.ofList <| match letters with
    | 'i' :: 's' :: rest => if rest.isEmpty || rest == ['c'] then letters else rest
    | _ => letters

/-- The set of a name among named sets. -/
def setOf? (table : List (List String × CharSet)) (name : String) : Option CharSet :=
  (table.find? (·.1.contains name)).map (·.2)

/-- The set that a name between braces stands for, also `property=value`. -/
def namedSet? (name : List Char) : Option CharSet :=
  match name.findIdx? fun c => c == '=' || c == ':' with
  | none =>
      let name := looseName name
      (setOf? categories name).or ((setOf? properties name).or (setOf? scripts name))
  | some position =>
      let key := name.take position
      let isNegated := key.getLast? == some '!'
      let key := looseName (if isNegated then key.dropLast else key)
      let value := looseName (name.drop (position + 1))
      let set? :=
        if ["gc", "generalcategory"].contains key then setOf? categories value
        else if ["sc", "script", "scx", "scriptextensions"].contains key then setOf? scripts value
        else none
      if isNegated then set?.map .complement else set?

/-- A set with a name of one letter or in braces. -/
def readNamedSet? : List Char → Option (CharSet × List Char)
  | '\x7b' :: rest =>
      let (negated, rest) : Bool × List Char :=
        match rest with
        | '^' :: rest => (true, rest)
        | rest => (false, rest)
      let name := rest.takeWhile (· ≠ '\x7d')
      match rest.dropWhile (· ≠ '\x7d') with
      | _ :: after =>
          (namedSet? name).map fun set => (if negated then .complement set else set, after)
      | [] => none
  | c :: rest => (namedSet? [c]).map (·, rest)
  | [] => none

/-- The sets of ASCII characters with names of their own. -/
def asciiSets : List (String × CharSet) :=
  let digits := CharSet.range 0x30 0x39
  let lower := CharSet.range 0x61 0x7A
  let upper := CharSet.range 0x41 0x5A
  let letters := CharSet.union lower upper
  [("alnum", .union letters digits), ("alpha", letters), ("ascii", .range 0 0x7F),
    ("blank", .union (.single '\t') (.single ' ')),
    ("cntrl", .union (.range 0 0x1F) (.single '\x7f')), ("digit", digits),
    ("graph", .range 0x21 0x7E), ("lower", lower), ("print", .range 0x20 0x7E),
    ("punct", .union (.union (.range 0x21 0x2F) (.range 0x3A 0x40))
      (.union (.range 0x5B 0x60) (.range 0x7B 0x7E))),
    ("space", .union (.range 9 0xD) (.single ' ')), ("upper", upper),
    ("word", .union (.union letters digits) (.single '_')),
    ("xdigit", .union digits (.union (.range 0x41 0x46) (.range 0x61 0x66)))]

/-! ## Escapes -/

/-- What a backslash and the characters after it stand for. -/
inductive Escape where
  | literal (c : Char)
  | set (set : CharSet)
  | place (place : Place)
deriving Repr, Inhabited

/-- The set of a letter: digits, blanks or word characters. -/
def letterSet (flags : Flags) (letter : Char) : CharSet :=
  match letter with
  | 'd' => if flags.unicode then .property decimalNumber else .range 0x30 0x39
  | 's' => if flags.unicode then .blank else .union (.range 9 0xD) (.single ' ')
  | _ =>
      if flags.unicode then .word
      else .union (.union (.range 0x61 0x7A) (.range 0x41 0x5A))
        (.union (.range 0x30 0x39) (.single '_'))

/-- A word boundary with the side that a name in braces gives. -/
def namedBoundary? (ascii : Bool) (name : List Char) : Option Place :=
  if name = "start".toList then some (.wordStart ascii)
  else if name = "end".toList then some (.wordEnd ascii)
  else if name = "start-half".toList then some (.wordStartHalf ascii)
  else if name = "end-half".toList then some (.wordEndHalf ascii)
  else none

/-- Whether a name in braces could be that of a boundary, and not a number of repetitions. -/
def looksLikeBoundary (chars : List Char) : Bool :=
  match chars with
  | c :: _ => c.isAlpha || c == '-'
  | [] => false

/-- A word boundary, after the letter for it. -/
def readBoundary? (flags : Flags) (chars : List Char) : Option (Place × List Char) :=
  match chars with
  | '\x7b' :: rest =>
      let rest := rest.dropWhile isBlank
      if looksLikeBoundary rest then
        let name := rest.takeWhile fun c => c.isAlpha || c == '-'
        match (rest.dropWhile fun c => c.isAlpha || c == '-').dropWhile isBlank with
        | '\x7d' :: after => (namedBoundary? (!flags.unicode) name).map (·, after)
        | _ => none
      else some (.wordBoundary (!flags.unicode), chars)
  | chars => some (.wordBoundary (!flags.unicode), chars)

/-- Reads what follows a backslash. -/
def readEscape? (flags : Flags) : List Char → Option (Escape × List Char)
  | [] => none
  | c :: rest =>
      match c with
      | 'x' => (readHex? 2 rest).map fun (c, rest) => (.literal c, rest)
      | 'u' => (readHex? 4 rest).map fun (c, rest) => (.literal c, rest)
      | 'U' => (readHex? 8 rest).map fun (c, rest) => (.literal c, rest)
      | 'p' =>
          if flags.unicode then (readNamedSet? rest).map fun (set, rest) => (.set set, rest)
          else none
      | 'P' =>
          if flags.unicode then
            (readNamedSet? rest).map fun (set, rest) => (.set (.complement set), rest)
          else none
      | 'd' | 's' | 'w' => some (.set (letterSet flags c), rest)
      | 'D' | 'S' | 'W' =>
          if flags.unicode then some (.set (.complement (letterSet flags c.toLower)), rest)
          else none
      | 'A' => some (.place .textStart, rest)
      | 'z' => some (.place .textEnd, rest)
      | 'b' => (readBoundary? flags rest).map fun (place, rest) => (.place place, rest)
      | 'B' => some (.place (.notWordBoundary (!flags.unicode)), rest)
      | '<' => some (.place (.wordStart (!flags.unicode)), rest)
      | '>' => some (.place (.wordEnd (!flags.unicode)), rest)
      | 'a' => some (.literal '\x07', rest)
      | 'f' => some (.literal '\x0c', rest)
      | 't' => some (.literal '\t', rest)
      | 'n' => some (.literal '\n', rest)
      | 'r' => some (.literal '\r', rest)
      | 'v' => some (.literal '\x0b', rest)
      | c => if c.toNat < 0x80 && !c.isAlphanum then some (.literal c, rest) else none

/-! ## Classes in brackets -/

/-- An operation on two sets. -/
inductive SetOperation where
  | intersection
  | difference
  | exclusive
deriving Repr, DecidableEq, Inhabited

/-- What an operation makes of two sets. -/
def SetOperation.apply : SetOperation → CharSet → CharSet → CharSet
  | .intersection => .intersection
  | .difference => .difference
  | .exclusive => .exclusive

/-- A set with the variants of its characters if case does not matter. -/
def Flags.foldCase (flags : Flags) (set : CharSet) : CharSet :=
  if flags.anyCase then .anyCase set else set

/-- One end of a range, or a set. -/
inductive ClassItem where
  | literal (c : Char)
  | set (set : CharSet)
deriving Repr, Inhabited

/-- Reads a character, or a set after a backslash. -/
def readClassItem? (flags : Flags) : List Char → Option (ClassItem × List Char)
  | [] => none
  | '\\' :: rest =>
      match readEscape? flags rest with
      | some (.literal c, rest) => some (.literal c, rest)
      | some (.set set, rest) => some (.set set, rest)
      | _ => none
  | c :: rest => if !flags.unicode && c.toNat ≥ 0x80 then none else some (.literal c, rest)

/-- Reads an item of a class, or a range between two characters. -/
def readClassRange? (flags : Flags) (chars : List Char) : Option (CharSet × List Char) := do
  let (first, rest) ← readClassItem? flags chars
  let rest := skip flags rest.length rest
  let single : CharSet :=
    match first with
    | .literal c => .single c
    | .set set => set
  match rest with
  | [] => none
  | '-' :: after =>
      match skip flags after.length after with
      | ']' :: _ | '-' :: _ => return (single, rest)
      | after =>
          match first, ← readClassItem? flags after with
          | .literal low, (.literal high, rest) =>
              if low.toNat ≤ high.toNat then return (.range low.toNat high.toNat, rest) else none
          | _, _ => none
  | rest => return (single, rest)

/-- Reads a named set of ASCII characters, after its opening bracket. -/
def readAsciiSet? : List Char → Option (CharSet × List Char)
  | ':' :: rest =>
      let (negated, rest) : Bool × List Char :=
        match rest with
        | '^' :: rest => (true, rest)
        | rest => (false, rest)
      let name := rest.takeWhile (· ≠ ':')
      match rest.drop name.length with
      | ':' :: ']' :: after =>
          ((asciiSets.find? (·.1 == String.ofList name)).map (·.2)).map fun set =>
            (if negated then .complement set else set, after)
      | _ => none
  | _ => none

/-- A class that is being read: what is on the left of an operation, and the
union so far. -/
structure ClassReading where
  left? : Option (CharSet × SetOperation) := none
  set : CharSet := .nothing
deriving Repr, Inhabited

namespace ClassReading

/-- Adds a set. -/
def add (reading : ClassReading) (set : CharSet) : ClassReading :=
  { reading with set := .union reading.set set }

/-- The set that was read. -/
def finish (reading : ClassReading) : CharSet :=
  match reading.left? with
  | none => reading.set
  | some (left, operation) => operation.apply left reading.set

/-- Begins the right side of an operation. -/
def operate (reading : ClassReading) (operation : SetOperation) : ClassReading :=
  { left? := some (reading.finish, operation), set := .nothing }

end ClassReading

/-- The signs after an opening bracket: whether the class is negated, and the
characters that stand for themselves there. -/
def readClassStart (flags : Flags) (chars : List Char) : Bool × CharSet × List Char :=
  let chars := skip flags chars.length chars
  let (negated, chars) : Bool × List Char :=
    match chars with
    | '^' :: rest => (true, skip flags rest.length rest)
    | rest => (false, rest)
  let hyphens := chars.takeWhile (· == '-')
  let rest := chars.dropWhile (· == '-')
  let rest := skip flags rest.length rest
  if !hyphens.isEmpty then (negated, .single '-', rest)
  else
    match rest with
    | ']' :: rest => (negated, .single ']', rest)
    | rest => (negated, .nothing, rest)

mutual

/-- Reads a class after its opening bracket. -/
def readClass? (flags : Flags) (depth : Nat) : Nat → List Char → Option (CharSet × List Char)
  | 0, _ => none
  | fuel + 1, chars =>
      if maxDepth < depth then none
      else
        let (negated, start, rest) := readClassStart flags chars
        match readClassItems? flags depth fuel { set := start } rest with
        | none => none
        | some (set, rest) =>
            let set := flags.foldCase set
            if negated then (if flags.unicode then some (.complement set, rest) else none)
            else some (set, rest)

/-- Reads the items of a class up to its closing bracket. -/
def readClassItems? (flags : Flags) (depth : Nat) :
    Nat → ClassReading → List Char → Option (CharSet × List Char)
  | 0, _, _ => none
  | fuel + 1, reading, chars =>
      match skip flags chars.length chars with
      | [] => none
      | ']' :: rest => some (reading.finish, rest)
      | '[' :: rest =>
          match readAsciiSet? rest with
          | some (set, rest) =>
              readClassItems? flags depth fuel (reading.add (flags.foldCase set)) rest
          | none =>
              match readClass? flags (depth + 1) fuel rest with
              | none => none
              | some (set, rest) => readClassItems? flags depth fuel (reading.add set) rest
      | '&' :: '&' :: rest => readClassItems? flags depth fuel (reading.operate .intersection) rest
      | '-' :: '-' :: rest => readClassItems? flags depth fuel (reading.operate .difference) rest
      | '~' :: '~' :: rest => readClassItems? flags depth fuel (reading.operate .exclusive) rest
      | chars =>
          match readClassRange? flags chars with
          | none => none
          | some (set, rest) =>
              readClassItems? flags depth fuel (reading.add (flags.foldCase set)) rest

end

/-! ## Groups -/

/-- How a group begins. -/
inductive GroupStart where
  /-- A group with flags of its own and perhaps a name. -/
  | group (flags : Flags) (name? : Option String)
  /-- New flags for the rest of the group around it. -/
  | flags (flags : Flags)
deriving Repr, Inhabited

/-- The flags with one of them set or cleared. -/
def Flags.set? (flags : Flags) (letter : Char) (value : Bool) : Option Flags :=
  match letter with
  | 'i' => some { flags with anyCase := value }
  | 'm' => some { flags with multiLine := value }
  | 's' => some { flags with dotMatchesLineFeed := value }
  | 'R' => some { flags with returnsEndLines := value }
  | 'x' => some { flags with ignoresBlanks := value }
  | 'u' => some { flags with unicode := value }
  | 'U' => some flags
  | _ => none

/-- Reads flags up to the sign that ends them. Every flag comes once, and at
least one follows the sign that clears. -/
def readFlags? (flags : Flags) (value : Bool) (seen : List Char) :
    List Char → Option (GroupStart × List Char)
  | [] => none
  | ':' :: rest => if seen.head? == some '-' then none else some (.group flags none, rest)
  | ')' :: rest =>
      if seen.head? == some '-' || seen.isEmpty then none else some (.flags flags, rest)
  | '-' :: rest => if value then readFlags? flags false ('-' :: seen) rest else none
  | c :: rest =>
      if seen.contains c then none
      else
        match flags.set? c value with
        | none => none
        | some flags => readFlags? flags value (c :: seen) rest

/-- Whether a character can be part of the name of a group. -/
def isNameChar (isFirst : Bool) (c : Char) : Bool :=
  c == '_' || isAlphabetic c ||
    (!isFirst && (decimalNumber.containsChar c || letterNumber.containsChar c ||
      otherNumber.containsChar c || c == '.' || c == '[' || c == ']'))

/-- Reads the name of a group up to the sign that closes it. -/
def readName? (flags : Flags) (names : List String) (chars : List Char) :
    Option (GroupStart × List Char) :=
  let name := chars.takeWhile (· ≠ '>')
  match name, chars.dropWhile (· ≠ '>') with
  | first :: more, _ :: rest =>
      if isNameChar true first && more.all (isNameChar false) &&
          !names.contains (String.ofList name) then
        some (.group flags (some (String.ofList name)), rest)
      else none
  | _, _ => none

/-- Reads the beginning of a group after its opening parenthesis. -/
def readGroupStart? (flags : Flags) (names : List String) (chars : List Char) :
    Option (GroupStart × List Char) :=
  match skip flags chars.length chars with
  | '?' :: rest =>
      match skip flags rest.length rest with
      | '=' :: _ | '!' :: _ | '<' :: '=' :: _ | '<' :: '!' :: _ => none
      | 'P' :: '<' :: rest | '<' :: rest => readName? flags names rest
      | rest => readFlags? flags true [] rest
  | rest => some (.group flags none, rest)

/-! ## Expressions -/

/-- What was read of a group: the alternatives before the current one, and the
pieces of the current one in reverse. -/
structure GroupReading where
  flags : Flags := {}
  names : List String := []
  alternatives : List (Regex × Nat) := []
  pieces : List Piece := []
deriving Repr, Inhabited

namespace GroupReading

/-- The current alternative, with its depth. -/
def current (reading : GroupReading) : Regex × Nat :=
  let parts : List (Regex × Nat) := reading.pieces.reverse.filterMap fun piece =>
    match piece with
    | .regex regex depth => some (regex, depth)
    | .flags => none
  match parts with
  | [] => (.empty, 0)
  | [part] => part
  | first :: rest =>
      (rest.foldl (fun whole part => .sequence whole part.1) first.1,
        1 + (parts.map (·.2)).foldl max 0)

/-- Begins the next alternative. -/
def next (reading : GroupReading) : GroupReading :=
  { reading with alternatives := reading.alternatives ++ [reading.current], pieces := [] }

/-- All alternatives together, with their depth. -/
def finish (reading : GroupReading) : Regex × Nat :=
  match reading.alternatives ++ [reading.current] with
  | [] => (.empty, 0)
  | [part] => part
  | first :: rest =>
      (rest.foldl (fun whole part => .choice whole part.1) first.1,
        1 + ((first :: rest).map (·.2)).foldl max 0)

/-- Adds a piece. -/
def add (reading : GroupReading) (regex : Regex) (depth : Nat) : GroupReading :=
  { reading with pieces := .regex regex depth :: reading.pieces }

/-- Repeats the last piece, if there is one that can be repeated. -/
def repeat? (reading : GroupReading) (least : Nat) (most : Option Nat) : Option GroupReading :=
  match reading.pieces with
  | .regex regex depth :: rest =>
      some { reading with pieces := .regex (.repetition least most regex) (depth + 1) :: rest }
  | _ => none

end GroupReading

/-- The expression for a character that stands for itself. -/
def literal (flags : Flags) (c : Char) : Regex := .oneOf (flags.foldCase (.single c))

/-- The expression for any character. -/
def anyChar (flags : Flags) : Regex :=
  if flags.dotMatchesLineFeed then .oneOf (.range 0 0x10FFFF)
  else if flags.returnsEndLines then
    .oneOf (.complement (.union (.single '\n') (.single '\r')))
  else .oneOf (.complement (.single '\n'))

/-- The beginning of the text or of a line. -/
def startPlace (flags : Flags) : Place :=
  if flags.multiLine then .lineStart flags.returnsEndLines else .textStart

/-- The end of the text or of a line. -/
def endPlace (flags : Flags) : Place :=
  if flags.multiLine then .lineEnd flags.returnsEndLines else .textEnd

/-- The expression that an escape stands for. -/
def escapeRegex (flags : Flags) : Escape → Regex
  | .literal c => literal flags c
  | .set set => .oneOf (flags.foldCase set)
  | .place place => .atPlace place

/-- Drops the sign that makes a repetition prefer fewer rounds. -/
def dropLazy (flags : Flags) (chars : List Char) : List Char :=
  match skip flags chars.length chars with
  | '?' :: rest => rest
  | rest => rest

/-- Reads the numbers of a repetition after the opening brace. -/
def readCounts? (chars : List Char) : Option (Nat × Option Nat × List Char) := do
  let (least, rest) ← decimal? chars
  match rest with
  | '\x7d' :: rest => return (least, some least, rest)
  | ',' :: rest =>
      match rest.dropWhile isBlank with
      | '\x7d' :: rest => return (least, none, rest)
      | rest =>
          let (most, rest) ← decimal? rest
          match rest with
          | '\x7d' :: rest => if least ≤ most then return (least, some most, rest) else none
          | _ => none
  | _ => none

/-- Reads a group up to its closing parenthesis or the end. -/
def readGroup? : Nat → GroupReading → List Char → Option (GroupReading × List Char)
  | 0, _, _ => none
  | fuel + 1, reading, chars =>
      let flags := reading.flags
      match skip flags chars.length chars with
      | [] => some (reading, [])
      | ')' :: rest => some (reading, ')' :: rest)
      | '|' :: rest => readGroup? fuel reading.next rest
      | '*' :: rest => do readGroup? fuel (← reading.repeat? 0 none) (dropLazy flags rest)
      | '+' :: rest => do readGroup? fuel (← reading.repeat? 1 none) (dropLazy flags rest)
      | '?' :: rest => do readGroup? fuel (← reading.repeat? 0 (some 1)) (dropLazy flags rest)
      | '\x7b' :: rest => do
          let (least, most, rest) ← readCounts? rest
          readGroup? fuel (← reading.repeat? least most) (dropLazy flags rest)
      | '[' :: rest => do
          let (set, rest) ← readClass? flags 0 fuel rest
          readGroup? fuel (reading.add (.oneOf set) 1) rest
      | '\\' :: rest => do
          let (escape, rest) ← readEscape? flags rest
          readGroup? fuel (reading.add (escapeRegex flags escape) 0) rest
      | '.' :: rest =>
          if flags.unicode then readGroup? fuel (reading.add (anyChar flags) 0) rest else none
      | '^' :: rest => readGroup? fuel (reading.add (.atPlace (startPlace flags)) 0) rest
      | '$' :: rest => readGroup? fuel (reading.add (.atPlace (endPlace flags)) 0) rest
      | '(' :: rest => do
          let (start, rest) ← readGroupStart? flags reading.names rest
          match start with
          | .flags flags =>
              readGroup? fuel { reading with flags, pieces := .flags :: reading.pieces } rest
          | .group innerFlags name? =>
              let names := name?.toList ++ reading.names
              let (inner, rest) ← readGroup? fuel { flags := innerFlags, names } rest
              match rest with
              | ')' :: rest =>
                  let (regex, depth) := inner.finish
                  readGroup? fuel ({ reading with names := inner.names }.add regex (depth + 1)) rest
              | _ => none
      | c :: rest => readGroup? fuel (reading.add (literal flags c) 0) rest

/-- The expression that a text stands for. -/
def ofText? (text : String) : Option Regex := do
  let chars := text.toList
  let (reading, rest) ← readGroup? (chars.length + 1) {} chars
  let (regex, depth) := reading.finish
  if rest.isEmpty && depth ≤ maxDepth then some regex else none

end SourceFacts.Regex
