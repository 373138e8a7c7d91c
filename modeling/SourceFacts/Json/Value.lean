import SourceFacts.Number.Double

namespace SourceFacts

/-!
# JSON values

Values as they stand in a JSON text: the fields of an object keep their order,
and a name may come twice. The canonical form of a value has the fields sorted
by name and keeps the last of those that share one.
-/

open Number

/-- An integer that fits into a signed or an unsigned word of 64 bits. -/
structure Integer where
  value : Int
  inRange : -9223372036854775808 ≤ value ∧ value < 18446744073709551616
deriving Repr, DecidableEq

instance : Inhabited Integer := ⟨0, by decide⟩

namespace Integer

/-- The integer of a value that fits into a word. -/
def ofInt? (value : Int) : Option Integer :=
  if inRange : -9223372036854775808 ≤ value ∧ value < 18446744073709551616 then
    some ⟨value, inRange⟩
  else none

/-- An unsigned word. -/
def ofWord (word : UInt64) : Integer where
  value := word.toNat
  inRange := by
    have := word.toNat_lt
    omega

end Integer

/-- A JSON value. -/
inductive Json where
  | null
  | bool (value : Bool)
  | integer (value : Integer)
  | double (value : Double)
  | string (value : String)
  | array (items : List Json)
  | object (fields : List (String × Json))
deriving Repr, Inhabited

namespace Json

/-- An unsigned word of 64 bits. -/
def word (value : UInt64) : Json := .integer (.ofWord value)

/-- An unsigned word of 32 bits. -/
def halfWord (value : UInt32) : Json := .integer (.ofWord value.toUInt64)

/-- A natural number; one that does not fit into a word is given modulo its size. -/
def natural (value : Nat) : Json := .integer (.ofWord (UInt64.ofNat value))

/-- A list of texts. -/
def strings (texts : List String) : Json := .array (texts.map .string)

/-- A value that may be absent. -/
def orNull (encode : α → Json) : Option α → Json
  | none => .null
  | some value => encode value

/-- Puts a field in its place among sorted ones, in place of one of its name. -/
def insertField (name : String) (value : Json) :
    List (String × Json) → List (String × Json)
  | [] => [(name, value)]
  | (other, otherValue) :: rest =>
      if name = other then (name, value) :: rest
      else if name < other then (name, value) :: (other, otherValue) :: rest
      else (other, otherValue) :: insertField name value rest

mutual

/-- The value with the fields of every object sorted and each there once. -/
def canonical : Json → Json
  | .array items => .array (canonicalItems items)
  | .object fields => .object (canonicalFields fields [])
  | value => value

/-- The canonical forms of some values. -/
def canonicalItems : List Json → List Json
  | [] => []
  | item :: rest => item.canonical :: canonicalItems rest

/-- Adds the canonical forms of fields to those before them. -/
def canonicalFields : List (String × Json) → List (String × Json) → List (String × Json)
  | [], done => done
  | (name, value) :: rest, done =>
      canonicalFields rest (insertField name value.canonical done)

end

mutual

/-- How deeply arrays and objects are nested in a value. -/
def depth : Json → Nat
  | .array items => depthOfItems items + 1
  | .object fields => depthOfFields fields + 1
  | _ => 0

/-- The greatest depth among values. -/
def depthOfItems : List Json → Nat
  | [] => 0
  | item :: rest => max item.depth (depthOfItems rest)

/-- The greatest depth among fields. -/
def depthOfFields : List (String × Json) → Nat
  | [] => 0
  | (_, value) :: rest => max value.depth (depthOfFields rest)

end

mutual

/-- Whether two values are the same, up to the sign of zero. -/
def same : Json → Json → Bool
  | .null, .null => true
  | .bool left, .bool right => left == right
  | .integer left, .integer right => left.value == right.value
  | .double left, .double right =>
      left.magnitude == right.magnitude && (left.negative == right.negative || left.isZero)
  | .string left, .string right => left == right
  | .array left, .array right => sameItems left right
  | .object left, .object right => sameFields left right
  | _, _ => false

/-- Whether two lists of values are the same. -/
def sameItems : List Json → List Json → Bool
  | [], [] => true
  | left :: lefts, right :: rights => left.same right && sameItems lefts rights
  | _, _ => false

/-- Whether two lists of fields are the same. -/
def sameFields : List (String × Json) → List (String × Json) → Bool
  | [], [] => true
  | (leftName, left) :: lefts, (rightName, right) :: rights =>
      leftName == rightName && left.same right && sameFields lefts rights
  | _, _ => false

end

instance : BEq Json := ⟨same⟩

end Json

end SourceFacts
