import SourceFacts.Number.Double
import SourceFacts.Text.Pieces
import SourceFacts.Yaml.Node

namespace SourceFacts.Yaml

/-!
# The values of YAML nodes

A plain scalar is null, a truth value or a number if it looks like one, and a text
otherwise. Quoted scalars are texts. Integers have 64 bits; those beyond that are
refused, or read as other numbers if they do not even fit into 128 bits.
-/

/-- A value. -/
inductive Value where
  | null
  | bool (value : Bool)
  | integer (value : Int)
  /-- A number that is no integer, as it is written. -/
  | number (text : String)
  | string (text : String)
  | sequence (items : List Value)
  | mapping (entries : List (Value × Value))
deriving Repr, Inhabited

/-! ## Scalars -/

/-- Whether a plain scalar is null. -/
def isNull (text : String) : Bool :=
  text = "" || text = "null" || text = "Null" || text = "NULL" || text = "~"

/-- The truth value that a plain scalar is. -/
def bool? (text : String) : Option Bool :=
  if text = "true" || text = "True" || text = "TRUE" then some true
  else if text = "false" || text = "False" || text = "FALSE" then some false
  else none

/-- The value of digits in a base, of which there is at least one. -/
def digits? (base : Nat) (chars : List Char) : Option Nat :=
  if chars.isEmpty then none
  else
    chars.foldlM (fun value c => do
      let digit ← hexValue? [c]
      if digit < base then some (value * base + digit) else none) 0

/-- A text without the sign that it may begin with. -/
def withoutSign : List Char → List Char
  | '+' :: rest => rest
  | '-' :: rest => rest
  | chars => chars

/-- Whether there are several digits, the first of them zero. Such a text is no
number. -/
def hasLeadingZero (chars : List Char) : Bool :=
  match withoutSign chars with
  | '0' :: rest => !rest.isEmpty && rest.all Char.isDigit
  | _ => false

/-- The magnitude of an integer: digits, or a mark of the base and digits. -/
def magnitude? : List Char → Option Nat
  | '0' :: 'x' :: rest => digits? 16 rest
  | '0' :: 'o' :: rest => digits? 8 rest
  | '0' :: 'b' :: rest => digits? 2 rest
  | chars => if hasLeadingZero chars then none else digits? 10 chars

/-- The integer that a plain scalar is, however large. -/
def integer? : List Char → Option Int
  | '+' :: rest => (magnitude? rest).map Int.ofNat
  | '-' :: rest => (magnitude? rest).map fun value => -(value : Int)
  | chars => (magnitude? chars).map Int.ofNat

/-- The parts of a decimal: its digits and the power of ten that they count. -/
def decimal? (chars : List Char) : Option (Nat × Int) := do
  let whole := chars.takeWhile Char.isDigit
  let rest := chars.dropWhile Char.isDigit
  let (fraction, rest) := match rest with
    | '.' :: rest => (rest.takeWhile Char.isDigit, rest.dropWhile Char.isDigit)
    | rest => ([], rest)
  let significand ← digits? 10 (whole ++ fraction)
  let exponent : Int ← match rest with
    | [] => some 0
    | mark :: rest =>
        if mark ≠ 'e' && mark ≠ 'E' then none
        else
          match rest with
          | '+' :: rest => (digits? 10 rest).map Int.ofNat
          | '-' :: rest => (digits? 10 rest).map fun value => -(value : Int)
          | rest => (digits? 10 rest).map Int.ofNat
  return (significand, exponent - fraction.length)

/-- Whether a decimal is too large for a number with double precision. Exponents far
outside of the range need not be computed. -/
def isTooLarge (significand : Nat) (exponent : Int) : Bool :=
  if significand = 0 then false
  else if exponent < 0 then
    let digits := (toString significand).length
    if (digits : Int) + exponent < 400 then
      (digits : Int) + exponent > 0 &&
        (Number.Double.ofRatio? false significand (Nat.pow 10 exponent.natAbs)).isNone
    else true
  else if 400 < exponent then true
  else (Number.Double.ofRatio? false (significand * Nat.pow 10 exponent.toNat) 1).isNone

/-- Whether a text stands for a number that is no integer. -/
def isNumber (chars : List Char) : Bool :=
  let unsigned := match chars with
    | '+' :: rest => rest
    | chars => chars
  let isInfinite (chars : List Char) : Bool :=
    chars = ".inf".toList || chars = ".Inf".toList || chars = ".INF".toList
  let isUndefined :=
    chars = ".nan".toList || chars = ".NaN".toList || chars = ".NAN".toList
  if isInfinite (withoutSign chars) || isUndefined then true
  else
    let magnitude := match unsigned, chars with
      | '-' :: _, '+' :: _ => []
      | '+' :: _, '+' :: _ => []
      | '-' :: rest, _ => rest
      | unsigned, _ => unsigned
    match decimal? magnitude with
    | some (significand, exponent) => !isTooLarge significand exponent
    | none => false

/-- The least integer of 128 bits. -/
def leastWide : Int := -170141183460469231731687303715884105728

/-- The greatest integer of 128 bits. -/
def mostWide : Int := 340282366920938463463374607431768211455

/-- What a plain scalar looks like. -/
inductive PlainKind where
  | null
  | bool (value : Bool)
  | integer (value : Int)
  /-- An integer of more than 64 bits. -/
  | wideInteger
  | number
  | string
deriving Repr, DecidableEq, Inhabited

/-- What a plain scalar looks like. -/
def plainKind (text : String) : PlainKind :=
  let chars := text.toList
  if isNull text then .null
  else
    match bool? text, integer? chars with
    | some value, _ => .bool value
    | none, some value =>
        if -9223372036854775808 ≤ value && value < 18446744073709551616 then .integer value
        else if leastWide ≤ value && value ≤ mostWide then .wideInteger
        else if isNumber chars then .number
        else .string
    | none, none => if !hasLeadingZero chars && isNumber chars then .number else .string

/-- The value of a scalar that looks like something. -/
def PlainKind.value? (kind : PlainKind) (text : String) : Option Value :=
  match kind with
  | .null => some .null
  | .bool value => some (.bool value)
  | .integer value => some (.integer value)
  | .wideInteger => none
  | .number => some (.number text)
  | .string => some (.string text)

/-- What the tags of the standard begin with. -/
def standardTag (name : String) : String := "tag:yaml.org,2002:" ++ name

/-- The value of a scalar with a tag. -/
def taggedValue? (text : String) (isPlain : Bool) (tag : String) : Option Value :=
  let kind := plainKind text
  if tag = standardTag "bool" then (bool? text).map .bool
  else if tag = standardTag "int" then
    match kind with
    | .integer _ => kind.value? text
    | _ => none
  else if tag = standardTag "float" then
    if isNumber text.toList then some (.number text) else none
  else if tag = standardTag "null" then
    if isNull text && text ≠ "" then some .null else none
  else if isPlain && Text.beginsWith tag "!" then kind.value? text
  else some (.string text)

/-! ## Nodes -/

mutual

/-- Whether two values are equal. -/
def Value.same : Value → Value → Bool
  | .null, .null => true
  | .bool left, .bool right => left = right
  | .integer left, .integer right => left = right
  | .number left, .number right => left = right
  | .string left, .string right => left = right
  | .sequence left, .sequence right => sameItems left right
  | .mapping left, .mapping right => left.length = right.length && sameEntries left right
  | _, _ => false

/-- Whether two lists of values are equal. -/
def sameItems : List Value → List Value → Bool
  | [], [] => true
  | left :: lefts, right :: rights => left.same right && sameItems lefts rights
  | _, _ => false

/-- Whether two lists of entries are equal. -/
def sameEntries : List (Value × Value) → List (Value × Value) → Bool
  | [], [] => true
  | (leftKey, left) :: lefts, (rightKey, right) :: rights =>
      leftKey.same rightKey && left.same right && sameEntries lefts rights
  | _, _ => false

end

/-- How deeply collections may be nested. -/
def maxNesting : Nat := 128

mutual

/-- The value of a node with at most a number of collections inside each other. -/
def Node.value? : Node → Nat → Option Value
  | .scalar text isPlain none, _ =>
      if isPlain then (plainKind text).value? text else some (.string text)
  | .scalar text isPlain (some tag), _ => taggedValue? text isPlain tag
  | .sequence _, 0 | .mapping _, 0 => none
  | .sequence items, nesting + 1 => (itemValues? items nesting).map .sequence
  | .mapping entries, nesting + 1 => (entryValues? entries nesting []).map .mapping

/-- The values of some nodes. -/
def itemValues? : List Node → Nat → Option (List Value)
  | [], _ => some []
  | item :: rest, nesting => do return (← item.value? nesting) :: (← itemValues? rest nesting)

/-- The values of entries, after those before them. No key comes twice. -/
def entryValues? : List (Node × Node) → Nat → List (Value × Value) →
    Option (List (Value × Value))
  | [], _, done => some done
  | (key, value) :: rest, nesting, done => do
      let key ← key.value? nesting
      if done.any fun entry => entry.1.same key then none
      else entryValues? rest nesting (done ++ [(key, ← value.value? nesting)])

end

/-- The value of a text, which holds at most one document. -/
def parse? (text : String) : Option Value := do
  match ← nodeOfTokens? (← tokens? text) with
  | none => return .null
  | some node => node.value? maxNesting

end SourceFacts.Yaml
