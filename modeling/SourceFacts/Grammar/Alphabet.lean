import SourceFacts.Text.Identifier

namespace SourceFacts.Grammar

/-!
# Letters

Lexical patterns do not tell all characters apart. A *letter* is a class of
characters that every pattern treats alike: each ASCII character is a letter of
its own, and the characters outside ASCII fall into six more letters. Sets of
letters are bit sets, so patterns can be intersected and compared by finite
computation.
-/

/-- A class of characters that no pattern tells apart. -/
abbrev Letter := Nat

namespace Letter

/-- The letter of the byte-order mark. -/
def byteOrderMark : Letter := 128

/-- The letter of the word joiner. -/
def wordJoiner : Letter := 129

/-- The letter of the zero-width space. -/
def zeroWidthSpace : Letter := 130

/-- The letter of non-ASCII characters that may begin an identifier. -/
def identifierStart : Letter := 131

/-- The letter of non-ASCII characters that may only continue an identifier. -/
def identifierContinue : Letter := 132

/-- The letter of all other characters. -/
def other : Letter := 133

/-- Number of letters. -/
def count : Nat := 134

/-- The letter a character belongs to. -/
def ofChar (c : Char) : Letter :=
  let point := c.toNat
  if point < 128 then point
  else if point = 0xFEFF then byteOrderMark
  else if point = 0x2060 then wordJoiner
  else if point = 0x200B then zeroWidthSpace
  else if Text.identifierStart.contains point then identifierStart
  else if Text.identifierContinue.contains point then identifierContinue
  else other

end Letter

/-- A set of letters; bit `l` is set exactly when letter `l` belongs to it. -/
structure LetterSet where
  bits : Nat
deriving Repr, DecidableEq, Hashable

namespace LetterSet

/-- The set without letters. -/
def empty : LetterSet := ⟨0⟩

/-- The set of all letters. -/
def full : LetterSet := ⟨Nat.pow 2 Letter.count - 1⟩

/-- The set of one letter. -/
def single (letter : Letter) : LetterSet := ⟨1 <<< letter⟩

/-- Letters of either set. -/
def union (left right : LetterSet) : LetterSet := ⟨left.bits ||| right.bits⟩

/-- Letters of both sets. -/
def inter (left right : LetterSet) : LetterSet := ⟨left.bits &&& right.bits⟩

/-- Letters of the first set that are not in the second. -/
def diff (left right : LetterSet) : LetterSet :=
  ⟨left.bits ^^^ (left.bits &&& right.bits)⟩

/-- Whether a letter belongs to the set. -/
def contains (set : LetterSet) (letter : Letter) : Bool := set.bits.testBit letter

/-- Whether the set has no letters. -/
def isEmpty (set : LetterSet) : Bool := set.bits == 0

/-- The letters of the characters of a text. -/
def ofText (text : String) : LetterSet :=
  text.toList.foldl (fun set c => set.union (single (Letter.ofChar c))) empty

/-- The ASCII letters from `low` to `high`. -/
def range (low high : Char) : LetterSet :=
  ⟨Nat.pow 2 (high.toNat + 1) - Nat.pow 2 low.toNat⟩

/-- The letters outside the set. -/
def compl (set : LetterSet) : LetterSet := full.diff set

instance : Union LetterSet := ⟨union⟩

end LetterSet

end SourceFacts.Grammar
