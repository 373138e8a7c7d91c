namespace SourceFacts.Parsing

/-!
# Extents

An extent measures a piece of text in characters, in bytes of its UTF-8 form,
and in rows and columns. Only a line feed ends a row, and columns count bytes.
Positions in a text are the extents of what stands before them.
-/

/-- The measure of a piece of text. -/
structure Extent where
  chars : Nat := 0
  bytes : Nat := 0
  rows : Nat := 0
  /-- Bytes after the last line feed. -/
  columns : Nat := 0
deriving Repr, DecidableEq, Inhabited

namespace Extent

/-- The extent of the empty text. -/
def zero : Extent := {}

/-- The extent of a text followed by one character. -/
def addChar (extent : Extent) (c : Char) : Extent :=
  let size := c.utf8Size
  if c = '\n' then
    { chars := extent.chars + 1, bytes := extent.bytes + size,
      rows := extent.rows + 1, columns := 0 }
  else
    { chars := extent.chars + 1, bytes := extent.bytes + size,
      rows := extent.rows, columns := extent.columns + size }

/-- The extent of one text followed by another. -/
def add (left right : Extent) : Extent where
  chars := left.chars + right.chars
  bytes := left.bytes + right.bytes
  rows := left.rows + right.rows
  columns := if right.rows = 0 then left.columns + right.columns else right.columns

/-- The extent of what follows `start` in a text of extent `stop`. -/
def sub (stop start : Extent) : Extent where
  chars := stop.chars - start.chars
  bytes := stop.bytes - start.bytes
  rows := stop.rows - start.rows
  columns := if stop.rows > start.rows then stop.columns else stop.columns - start.columns

instance : Add Extent := ⟨add⟩
instance : Sub Extent := ⟨sub⟩

end Extent

end SourceFacts.Parsing
