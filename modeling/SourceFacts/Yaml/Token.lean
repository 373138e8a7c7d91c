import SourceFacts.Text.Utf8
import SourceFacts.Yaml.Scalar

namespace SourceFacts.Yaml

/-!
# The tokens of a YAML text

Indentation opens and closes collections. What stands before a colon turns out to
be a key only when the colon comes, so the place of a possible key is remembered
until then, for each level of brackets.
-/

/-! ## Tags -/

/-- A tag as it is written: a handle, empty if the tag is complete, and a suffix. -/
structure Tag where
  handle : String
  suffix : String
deriving Repr, DecidableEq, Inhabited

/-- A token. -/
inductive Token where
  | version (major minor : Nat)
  | tagDirective (handle start : String)
  | documentStart
  | documentEnd
  | blockSequenceStart
  | blockMappingStart
  | blockEnd
  | flowSequenceStart
  | flowSequenceEnd
  | flowMappingStart
  | flowMappingEnd
  | blockEntry
  | flowEntry
  | key
  | value
  | alias_ (name : String)
  | anchor (name : String)
  | tag (tag : Tag)
  | scalar (text : String) (isPlain : Bool)
  | streamEnd
deriving Repr, DecidableEq, Inhabited

/-! ## Names and tags -/

/-- Whether a character may stand in a name. -/
def isNameChar (c : Char) : Bool := c.isAlphanum || c = '-' || c = '_'

/-- Whether a character may stand in a tag. -/
def isUriChar (verbatim : Bool) (c : Char) : Bool :=
  isNameChar c || ";/?:@&=+$.!~*'()%".toList.contains c ||
    (verbatim && (c = ',' || c = '[' || c = ']'))

/-- The bytes that a part of a tag stands for. -/
def uriBytes? : List Char → Option Text.Bytes
  | [] => some []
  | '%' :: high :: low :: rest => do
      return UInt8.ofNat (← hexValue? [high, low]) :: (← uriBytes? rest)
  | '%' :: _ => none
  | c :: rest => do return Text.encode (String.singleton c) ++ (← uriBytes? rest)

/-- The text that a part of a tag stands for. -/
def uriText? (chars : List Char) : Option String := (uriBytes? chars).bind Text.decode?

/-- Reads the name of an anchor after the sign before it. -/
def readName (cursor : Cursor) : Option (String × Cursor) :=
  let (name, cursor) := cursor.takeWhile isNameChar
  let ends := cursor.gapAfter 0 || cursor.isAtAny "?:,]\x7d%@\x60".toList.contains
  if name.isEmpty || !ends then none else some (String.ofList name, cursor)

/-- Reads a tag. -/
def readTag (inFlow : Bool) (cursor : Cursor) : Option (Tag × Cursor) := do
  let (tag, cursor) ←
    if (cursor.rest.drop 1).head? = some '<' then do
      let (uri, cursor) := (cursor.advanceBy 2).takeWhile (isUriChar true)
      if uri.isEmpty || !cursor.isAt '>' then none
      else some ({ handle := "", suffix := ← uriText? uri : Tag }, cursor.advance)
    else do
      let (name, after) := cursor.advance.takeWhile isNameChar
      if after.isAt '!' then
        let (uri, after) := after.advance.takeWhile (isUriChar false)
        if uri.isEmpty then none
        else some (
          { handle := "!" ++ String.ofList name ++ "!", suffix := ← uriText? uri : Tag }, after)
      else
        let (uri, after) := after.takeWhile (isUriChar false)
        match name ++ uri with
        | [] => some ({ handle := "", suffix := "!" : Tag }, after)
        | suffix => some ({ handle := "!", suffix := ← uriText? suffix : Tag }, after)
  if cursor.gapAfter 0 || (inFlow && cursor.isAt ',') then some (tag, cursor) else none

/-! ## Directives -/

/-- Reads a number of at most nine digits. -/
def readVersionNumber (cursor : Cursor) : Option (Nat × Cursor) :=
  let (digits, cursor) := cursor.takeWhile Char.isDigit
  if digits.isEmpty || 9 < digits.length then none
  else some (digits.foldl (fun value c => value * 10 + (c.toNat - '0'.toNat)) 0, cursor)

/-- Reads a directive after the sign that begins it. -/
def readDirective (cursor : Cursor) : Option (Token × Cursor) := do
  let (name, cursor) := cursor.takeWhile isNameChar
  if !cursor.gapAfter 0 then none
  else
    let cursor := cursor.skipWhile isBlank
    let (token, cursor) ←
      if name = "YAML".toList then do
        let (major, cursor) ← readVersionNumber cursor
        if !cursor.isAt '.' then none
        else
          let (minor, cursor) ← readVersionNumber cursor.advance
          some (Token.version major minor, cursor)
      else if name = "TAG".toList then do
        if !cursor.isAt '!' then none
        else
          let (inner, after) := cursor.advance.takeWhile isNameChar
          let (handle, after) ←
            if after.isAt '!' then some ("!" ++ String.ofList inner ++ "!", after.advance)
            else if inner.isEmpty then some ("!", after)
            else none
          if !after.isAtAny isBlank then none
          else
            let (uri, after) := (after.skipWhile isBlank).takeWhile (isUriChar true)
            if uri.isEmpty || !after.gapAfter 0 then none
            else some (Token.tagDirective handle (← uriText? uri), after)
      else none
    return (token, ← skipLineEnd cursor)

/-! ## Scanning -/

/-- A place where a key may begin. -/
structure PossibleKey where
  /-- The number of tokens before it. -/
  tokenCount : Nat
  /-- Whether there must be a key, since nothing else can begin there. -/
  required : Bool
  index : Nat
  line : Nat
  column : Nat
deriving Repr, DecidableEq, Inhabited

/-- How far a text has been scanned. -/
structure Scanner where
  cursor : Cursor
  /-- The tokens so far. -/
  tokens : List Token := []
  /-- The column of the innermost block, negative outside of blocks. -/
  column : Int := -1
  /-- The columns of the blocks around it. -/
  outerColumns : List Int := []
  keyAllowed : Bool := true
  /-- The possible key outside of brackets. -/
  blockKey? : Option PossibleKey := none
  /-- The possible keys in the brackets that are open, the innermost first. -/
  flowKeys : List (Option PossibleKey) := []
  finished : Bool := false
deriving Repr, DecidableEq, Inhabited

namespace Scanner

/-- Whether some brackets are open. -/
def inFlow (scanner : Scanner) : Bool := !scanner.flowKeys.isEmpty

/-- The possible key on the innermost level. -/
def possibleKey? (scanner : Scanner) : Option PossibleKey :=
  match scanner.flowKeys with
  | [] => scanner.blockKey?
  | key? :: _ => key?

/-- The scanner with another possible key on the innermost level. -/
def setKey (scanner : Scanner) (key? : Option PossibleKey) : Scanner :=
  match scanner.flowKeys with
  | [] => { scanner with blockKey? := key? }
  | _ :: outer => { scanner with flowKeys := key? :: outer }

/-- Forgets the possible key, unless there must be one. -/
def dropKey (scanner : Scanner) : Option Scanner :=
  if scanner.possibleKey?.any (·.required) then none else some (scanner.setKey none)

/-- Whether a possible key is too far back: on another line, or too long. -/
def isStale (scanner : Scanner) (key : PossibleKey) : Bool :=
  key.line < scanner.cursor.line || key.index + 1024 < scanner.cursor.index

/-- Forgets all possible keys that are too far back. -/
def dropStaleKeys (scanner : Scanner) : Option Scanner :=
  let keys := scanner.blockKey? :: scanner.flowKeys
  if keys.any fun key? => key?.any fun key => key.required && scanner.isStale key then none
  else
    let kept (key? : Option PossibleKey) : Option PossibleKey := key?.filter (!scanner.isStale ·)
    some { scanner with
      blockKey? := kept scanner.blockKey?
      flowKeys := scanner.flowKeys.map kept }

/-- Remembers that a key may begin here. -/
def saveKey (scanner : Scanner) : Option Scanner :=
  if !scanner.keyAllowed then some scanner
  else do
    let scanner ← scanner.dropKey
    let cursor := scanner.cursor
    return scanner.setKey (some {
      tokenCount := scanner.tokens.length
      required := !scanner.inFlow && scanner.column = cursor.column
      index := cursor.index, line := cursor.line, column := cursor.column })

/-- Adds a token. -/
def push (scanner : Scanner) (token : Token) : Scanner :=
  { scanner with tokens := scanner.tokens ++ [token] }

/-- Adds a token after a number of tokens. -/
def insert (scanner : Scanner) (count : Nat) (token : Token) : Scanner :=
  { scanner with tokens := scanner.tokens.take count ++ token :: scanner.tokens.drop count }

/-- Opens a block in a column, unless one is open there. -/
def openBlock (scanner : Scanner) (column count : Nat) (token : Token) : Scanner :=
  if scanner.inFlow || (column : Int) ≤ scanner.column then scanner
  else
    { scanner.insert count token with
      column
      outerColumns := scanner.column :: scanner.outerColumns }

/-- Closes the blocks that begin after a column. -/
def closeBlocks (scanner : Scanner) (column : Int) : Scanner :=
  if scanner.inFlow then scanner
  else
    let rec close : Int → List Int → List Token → Int × List Int × List Token
      | current, [], closed => (current, [], closed)
      | current, outer :: rest, closed =>
          if column < current then close outer rest (.blockEnd :: closed)
          else (current, outer :: rest, closed)
    let (current, outer, closed) := close scanner.column scanner.outerColumns []
    { scanner with
      column := current
      outerColumns := outer
      tokens := scanner.tokens ++ closed }

/-- Goes on to the next token: over spaces, comments and line ends. A tab may
stand where no key can begin. -/
def skipToToken : Nat → Scanner → Scanner
  | 0, scanner => scanner
  | fuel + 1, scanner =>
      let mayTab := scanner.inFlow || !scanner.keyAllowed
      let cursor := scanner.cursor.skipWhile fun c => c = ' ' || (mayTab && c = '\t')
      let cursor := if cursor.isAt '#' then cursor.skipWhile (!isBreak ·) else cursor
      if cursor.isAtAny isBreak then
        skipToToken fuel { scanner with
          cursor := cursor.skipBreak
          keyAllowed := scanner.keyAllowed || !scanner.inFlow }
      else { scanner with cursor }

/-- Adds a token that some characters are. -/
def pushAt (scanner : Scanner) (length : Nat) (token : Token) : Scanner :=
  { scanner.push token with cursor := scanner.cursor.advanceBy length }

/-- Ends the text. -/
def finish (scanner : Scanner) : Option Scanner := do
  let scanner ← (scanner.closeBlocks (-1)).dropKey
  return { scanner.push .streamEnd with keyAllowed := false, finished := true }

/-- Reads a mark between documents. -/
def scanDocumentMark (scanner : Scanner) : Option Scanner := do
  let token := if scanner.cursor.isAt '-' then Token.documentStart else .documentEnd
  let scanner ← (scanner.closeBlocks (-1)).dropKey
  return { scanner.pushAt 3 token with keyAllowed := false }

/-- Reads a directive. -/
def scanDirective (scanner : Scanner) : Option Scanner := do
  let scanner ← (scanner.closeBlocks (-1)).dropKey
  let (token, cursor) ← readDirective scanner.cursor.advance
  return { scanner.push token with cursor, keyAllowed := false }

/-- Reads an opening bracket. -/
def scanOpening (scanner : Scanner) (token : Token) : Option Scanner := do
  let scanner ← scanner.saveKey
  return { scanner.pushAt 1 token with
    flowKeys := none :: scanner.flowKeys
    keyAllowed := true }

/-- Reads a closing bracket. -/
def scanClosing (scanner : Scanner) (token : Token) : Option Scanner := do
  let scanner ← scanner.dropKey
  return { scanner.pushAt 1 token with
    flowKeys := scanner.flowKeys.drop 1
    keyAllowed := false }

/-- Reads a comma. -/
def scanComma (scanner : Scanner) : Option Scanner := do
  let scanner ← scanner.dropKey
  return { scanner.pushAt 1 .flowEntry with keyAllowed := true }

/-- Reads the dash before an item. -/
def scanDash (scanner : Scanner) : Option Scanner :=
  if !scanner.inFlow && !scanner.keyAllowed then none
  else do
    let scanner ←
      (scanner.openBlock scanner.cursor.column scanner.tokens.length .blockSequenceStart).dropKey
    return { scanner.pushAt 1 .blockEntry with keyAllowed := true }

/-- Reads the question mark before a key. -/
def scanQuestion (scanner : Scanner) : Option Scanner :=
  if !scanner.inFlow && !scanner.keyAllowed then none
  else do
    let scanner ←
      (scanner.openBlock scanner.cursor.column scanner.tokens.length .blockMappingStart).dropKey
    return { scanner.pushAt 1 .key with keyAllowed := !scanner.inFlow }

/-- Reads the colon before a value. -/
def scanColon (scanner : Scanner) : Option Scanner :=
  match scanner.possibleKey? with
  | some key =>
      let scanner := scanner.insert key.tokenCount .key
      let scanner := scanner.openBlock key.column key.tokenCount .blockMappingStart
      some { (scanner.setKey none).pushAt 1 .value with keyAllowed := false }
  | none =>
      if !scanner.inFlow && !scanner.keyAllowed then none
      else
        let scanner :=
          scanner.openBlock scanner.cursor.column scanner.tokens.length .blockMappingStart
        some { scanner.pushAt 1 .value with keyAllowed := !scanner.inFlow }

/-- Reads an anchor or an alias. -/
def scanName (scanner : Scanner) (token : String → Token) : Option Scanner := do
  let scanner ← scanner.saveKey
  let (name, cursor) ← readName scanner.cursor.advance
  return { scanner.push (token name) with cursor, keyAllowed := false }

/-- Reads a tag. -/
def scanTag (scanner : Scanner) : Option Scanner := do
  let scanner ← scanner.saveKey
  let (tag, cursor) ← readTag scanner.inFlow scanner.cursor
  return { scanner.push (.tag tag) with cursor, keyAllowed := false }

/-- Reads a block scalar. -/
def scanBlock (scanner : Scanner) (literal : Bool) : Option Scanner := do
  let scanner ← scanner.dropKey
  let (text, cursor) ← readBlock literal scanner.column scanner.cursor.advance
  return { scanner.push (.scalar (String.ofList text) false) with cursor, keyAllowed := true }

/-- Reads a quoted scalar. -/
def scanQuoted (scanner : Scanner) (quote : Char) : Option Scanner := do
  let scanner ← scanner.saveKey
  let cursor := scanner.cursor.advance
  let (text, cursor) ← readQuoted quote (cursor.rest.length + 1) [] cursor
  return { scanner.push (.scalar (String.ofList text) false) with cursor, keyAllowed := false }

/-- Reads a plain scalar. -/
def scanPlain (scanner : Scanner) : Option Scanner := do
  let scanner ← scanner.saveKey
  let (text, endsLine, cursor) ←
    readPlain scanner.inFlow (scanner.column + 1).toNat (scanner.cursor.rest.length + 1) [] {}
      scanner.cursor
  return { scanner.push (.scalar (String.ofList text) true) with cursor, keyAllowed := endsLine }

/-- Whether a plain scalar begins here. -/
def beginsPlain (scanner : Scanner) (c : Char) : Bool :=
  let blankFollows := ((scanner.cursor.rest.drop 1).head?).any isBlank
  !(isGap c || "-?:,[]\x7b\x7d#&*!|>'\"%@\x60".toList.contains c) ||
    (c = '-' && !blankFollows) ||
    (!scanner.inFlow && (c = '?' || c = ':') && !scanner.cursor.gapAfter 1)

/-- Reads the token that a character begins. -/
def scanAt (scanner : Scanner) (c : Char) : Option Scanner :=
  let gapFollows := scanner.cursor.gapAfter 1
  if scanner.cursor.column = 0 && c = '%' then scanner.scanDirective
  else if scanner.cursor.atDocumentMark then scanner.scanDocumentMark
  else if c = '[' then scanner.scanOpening .flowSequenceStart
  else if c = '\x7b' then scanner.scanOpening .flowMappingStart
  else if c = ']' then scanner.scanClosing .flowSequenceEnd
  else if c = '\x7d' then scanner.scanClosing .flowMappingEnd
  else if c = ',' then scanner.scanComma
  else if c = '-' && gapFollows then scanner.scanDash
  else if c = '?' && (scanner.inFlow || gapFollows) then scanner.scanQuestion
  else if c = ':' && (scanner.inFlow || gapFollows) then scanner.scanColon
  else if c = '*' then scanner.scanName .alias_
  else if c = '&' then scanner.scanName .anchor
  else if c = '!' then scanner.scanTag
  else if c = '|' && !scanner.inFlow then scanner.scanBlock true
  else if c = '>' && !scanner.inFlow then scanner.scanBlock false
  else if c = '\'' || c = '"' then scanner.scanQuoted c
  else if scanner.beginsPlain c then scanner.scanPlain
  else none

/-- Reads the next token. -/
def step (scanner : Scanner) : Option Scanner := do
  let scanner ← (skipToToken (scanner.cursor.rest.length + 1) scanner).dropStaleKeys
  match scanner.cursor.peek? with
  | none => scanner.finish
  | some c => (scanner.closeBlocks scanner.cursor.column).scanAt c

/-- Reads tokens to the end. -/
def run : Nat → Scanner → Option Scanner
  | 0, _ => none
  | fuel + 1, scanner => if scanner.finished then some scanner else scanner.step.bind (run fuel)

end Scanner

/-- A text without the byte-order mark at its beginning. -/
def withoutMark : List Char → List Char
  | '\uFEFF' :: rest => rest
  | chars => chars

/-- The tokens of a text. -/
def tokens? (text : String) : Option (List Token) :=
  let chars := withoutMark text.toList
  if !chars.all isAllowed then none
  else (Scanner.run (chars.length + 2) { cursor := { rest := chars } }).map (·.tokens)

end SourceFacts.Yaml
