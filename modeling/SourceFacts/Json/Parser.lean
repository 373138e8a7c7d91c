import SourceFacts.Json.Token

namespace SourceFacts.Json

/-!
# Reading JSON

A text is read token by token. Arrays and objects that are still open wait on a
stack, whose height is bounded.
-/

/-- How many arrays and objects may be open at a time. -/
def maxOpen : Nat := 127

/-- An array or an object that is still open, its parts in reverse. -/
inductive Open where
  | array (done : List Json)
  | object (done : List (String × Json)) (name : String)
deriving Repr, Inhabited

/-- What has to come next. -/
inductive Awaited where
  | value
  /-- A value or the end of the array. -/
  | firstItem
  /-- A name or the end of the object. -/
  | firstName
  | name
  | colon
  /-- A comma or the end of what is open. -/
  | separator
  /-- The end of the text. -/
  | nothing
deriving Repr, DecidableEq, Inhabited

/-- How far a text has been read. -/
structure Reading where
  awaited : Awaited := .value
  opened : List Open := []
  result : Json := .null
deriving Repr, Inhabited

namespace Reading

/-- Takes a complete value. -/
def take (reading : Reading) (value : Json) : Reading :=
  match reading.opened with
  | [] => { awaited := .nothing, opened := [], result := value }
  | .array done :: outer =>
      { reading with awaited := .separator, opened := .array (value :: done) :: outer }
  | .object done name :: outer =>
      { reading with awaited := .separator, opened := .object ((name, value) :: done) name :: outer }

/-- Opens an array or an object. -/
def enter? (reading : Reading) (opened : Open) (awaited : Awaited) : Option Reading :=
  if reading.opened.length < maxOpen then
    some { reading with awaited, opened := opened :: reading.opened }
  else none

/-- Closes the innermost array. -/
def closeArray? (reading : Reading) : Option Reading :=
  match reading.opened with
  | .array done :: outer => some (take { reading with opened := outer } (.array done.reverse))
  | _ => none

/-- Closes the innermost object. -/
def closeObject? (reading : Reading) : Option Reading :=
  match reading.opened with
  | .object done _ :: outer => some (take { reading with opened := outer } (.object done.reverse))
  | _ => none

/-- Takes a name of the innermost object. -/
def name? (reading : Reading) (name : String) : Option Reading :=
  match reading.opened with
  | .object done _ :: outer =>
      some { reading with awaited := .colon, opened := .object done name :: outer }
  | _ => none

/-- Takes the beginning of a value. -/
def value? (reading : Reading) : Token → Option Reading
  | .scalar value => some (reading.take value)
  | .openArray => reading.enter? (.array []) .firstItem
  | .openObject => reading.enter? (.object [] "") .firstName
  | _ => none

/-- Takes a token. -/
def step? (reading : Reading) (token : Token) : Option Reading :=
  match reading.awaited, token with
  | .value, token => reading.value? token
  | .firstItem, .closeArray => reading.closeArray?
  | .firstItem, token => reading.value? token
  | .firstName, .closeObject => reading.closeObject?
  | .firstName, .scalar (.string name) => reading.name? name
  | .name, .scalar (.string name) => reading.name? name
  | .colon, .colon => some { reading with awaited := .value }
  | .separator, .comma =>
      match reading.opened with
      | .array _ :: _ => some { reading with awaited := .value }
      | .object _ _ :: _ => some { reading with awaited := .name }
      | [] => none
  | .separator, .closeArray => reading.closeArray?
  | .separator, .closeObject => reading.closeObject?
  | _, _ => none

/-- Takes tokens one after another. -/
def run? (reading : Reading) : List Token → Option Reading
  | [] => some reading
  | token :: rest =>
      match reading.step? token with
      | none => none
      | some reading => reading.run? rest

end Reading

/-- The value that a text stands for. -/
def parse? (text : String) : Option Json := do
  let tokens ← tokens? text.toList
  let reading ← Reading.run? {} tokens
  if reading.awaited = .nothing then some reading.result else none

end SourceFacts.Json
