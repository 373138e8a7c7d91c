import SourceFacts.Json.Value

namespace SourceFacts.Json

/-!
# Taking JSON values apart

How the values of the domain are read. A record is an object, whose further
fields do not matter, or an array with the values of all fields in order.
-/

/-- A text. -/
def asString? : Json → Option String
  | .string text => some text
  | _ => none

/-- A truth value. -/
def asBool? : Json → Option Bool
  | .bool value => some value
  | _ => none

/-- An integer. -/
def asInt? : Json → Option Int
  | .integer value => some value.value
  | _ => none

/-- A natural number below a bound. -/
def asNatBelow? (bound : Nat) (json : Json) : Option Nat := do
  let value ← json.asInt?
  if 0 ≤ value && value < bound then some value.toNat else none

/-- An unsigned word of 32 bits. -/
def asHalfWord? (json : Json) : Option UInt32 := (json.asNatBelow? UInt32.size).map UInt32.ofNat

/-- An unsigned word of 64 bits. -/
def asWord? (json : Json) : Option UInt64 := (json.asNatBelow? UInt64.size).map UInt64.ofNat

/-- A number; an integer is taken as the number nearest to it. -/
def asDouble? : Json → Option Number.Double
  | .double value => some value
  | .integer value => Number.Double.ofRatio? (value.value < 0) value.value.natAbs 1
  | _ => none

/-- A list of values. -/
def asList? (read : Json → Option α) : Json → Option (List α)
  | .array items => items.mapM read
  | _ => none

/-- The items of an array. -/
def asItems? : Json → Option (List Json)
  | .array items => some items
  | _ => none

/-- The fields of an object. -/
def asFields? : Json → Option (List (String × Json))
  | .object fields => some fields
  | _ => none

/-- A value that may be null. -/
def asOption? (read : Json → Option α) : Json → Option (Option α)
  | .null => some none
  | json => (read json).map some

/-- The name of a case without values: a text, or an object whose only field has
that name and holds nothing. -/
def asCase? : Json → Option String
  | .string text => some text
  | .object [(name, .null)] => some name
  | _ => none

/-- The first value of a name. -/
def lookup? (name : String) : List (String × Json) → Option Json
  | [] => none
  | (other, value) :: rest => if other = name then some value else lookup? name rest

/-- The fields of a record that has fields of the given names, which must not
come twice. -/
def asRecord? (names : List String) : Json → Option (List (String × Json))
  | .object fields =>
      let known := fields.filter fun field => names.contains field.1
      if (known.map (·.1)).Nodup then some known else none
  | .array items => if items.length = names.length then some (names.zip items) else none
  | _ => none

/-- The case of a record that names it, and the record without that name. An
array has the name in front. -/
def tagged? (tag : String) : Json → Option (String × Json)
  | .object fields =>
      match fields.filter (·.1 = tag) with
      | [(_, .string name)] => some (name, .object (fields.filter (·.1 ≠ tag)))
      | _ => none
  | .array (.string name :: items) => some (name, .array items)
  | _ => none

/-- The value of a field that must be there. -/
def field? (read : Json → Option α) (name : String) (fields : List (String × Json)) :
    Option α := do
  read (← lookup? name fields)

/-- The value of a field that may be missing or null. -/
def optionalField? (read : Json → Option α) (name : String) (fields : List (String × Json)) :
    Option (Option α) :=
  match lookup? name fields with
  | none => some none
  | some value => value.asOption? read

/-- The fields that are there, for a record that leaves out what is absent. -/
def present (name : String) (encode : α → Json) : Option α → List (String × Json)
  | none => []
  | some value => [(name, encode value)]

end SourceFacts.Json
