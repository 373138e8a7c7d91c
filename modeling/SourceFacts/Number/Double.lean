namespace SourceFacts.Number

/-!
# Floating-point numbers and decimals

Numbers are read from decimals, and written as decimals from which they are read again.
-/

/-!
## Binary floating-point numbers

Finite numbers of the binary format with 53 significant bits, as exact
fractions. A number is its sign and the bits of its magnitude, which grow with
the magnitude. Whatever has to be rounded goes to the nearest number, and from
the middle between two to the even one.
-/

/-- The bit above those of a fraction, which is left out of the format. -/
def leadingBit : Nat := 4503599627370496

/-- The magnitudes of finite numbers are below this one. -/
def infinity : Nat := 9218868437227405312

/-- A finite number of double precision. -/
structure Double where
  negative : Bool := false
  /-- Exponent and fraction, as they stand in the format. -/
  magnitude : Nat := 0
  isFinite : magnitude < infinity := by decide
deriving Repr, DecidableEq

/-- Zero, which has two signs. -/
def Double.zero (negative : Bool) : Double := { negative }

instance : Inhabited Double := ⟨Double.zero false⟩

/-- The quotient rounded to the nearest integer, ties to even. -/
def roundDiv (numerator denominator : Nat) : Nat :=
  let quotient := numerator / denominator
  let rest := numerator % denominator
  if 2 * rest < denominator then quotient
  else if denominator < 2 * rest then quotient + 1
  else quotient + quotient % 2

/-- A power of a base that is above one, else one. -/
def powerAbove (base : Nat) (exponent : Int) : Nat := Nat.pow base exponent.toNat

/-- The number of bits that a number has left of a unit with a power of two,
for a fraction: the exponent of the unit in the last place. -/
def unitExponent (numerator denominator : Nat) : Int :=
  let low : Int := (numerator.log2 : Int) - denominator.log2 - 53
  let scaled := numerator * powerAbove 2 (-low) / (denominator * powerAbove 2 low)
  max (-1074) (if 2 * leadingBit ≤ scaled then low + 1 else low)

namespace Double

/-- The bits of the number nearest to a fraction, whether or not they are those
of a finite number. -/
def roundedMagnitude (numerator denominator : Nat) : Nat :=
  if numerator = 0 then 0
  else
    let unit := unitExponent numerator denominator
    let significand :=
      roundDiv (numerator * powerAbove 2 (-unit)) (denominator * powerAbove 2 unit)
    (unit + 1074).toNat * leadingBit + significand

/-- The number nearest to a fraction, unless it is too large. -/
def ofRatio? (negative : Bool) (numerator denominator : Nat) : Option Double :=
  if fits : roundedMagnitude numerator denominator < infinity then
    some { negative, magnitude := roundedMagnitude numerator denominator, isFinite := fits }
  else none

/-- The significand of a magnitude. -/
def significand (number : Double) : Nat :=
  if number.magnitude < leadingBit then number.magnitude
  else leadingBit + number.magnitude % leadingBit

/-- The exponent of the unit in the last place. -/
def exponent (number : Double) : Int :=
  if number.magnitude < leadingBit then -1074
  else (number.magnitude / leadingBit : Nat) - 1075

/-- The magnitude as a fraction. -/
def ratio (number : Double) : Nat × Nat :=
  (number.significand * powerAbove 2 number.exponent, powerAbove 2 (-number.exponent))

/-- Whether a number is zero, of either sign. -/
def isZero (number : Double) : Bool := number.magnitude = 0

/-- The number nearest to a natural number, unless it is too large. -/
def ofNat? (value : Nat) : Option Double := ofRatio? false value 1

/-- The product of two numbers, unless it is too large. -/
def mul? (left right : Double) : Option Double :=
  ofRatio? (left.negative != right.negative)
    (left.ratio.1 * right.ratio.1) (left.ratio.2 * right.ratio.2)

/-- The quotient of two numbers, unless it is too large or the divisor is zero. -/
def div? (left right : Double) : Option Double :=
  if right.isZero then none
  else
    ofRatio? (left.negative != right.negative)
      (left.ratio.1 * right.ratio.2) (left.ratio.2 * right.ratio.1)

end Double

/-!
### Reading decimals

A decimal is read in two steps: as many leading digits as fit into a word of 64
bits, rounded to a number, then one multiplication or division by a power of
ten, itself rounded. The outcome may be a neighbour of the nearest number.
-/

/-- The largest value of a word. -/
def maxWord : Nat := 18446744073709551615

/-- The number nearest to a power of ten. -/
def powerOfTen? (exponent : Nat) : Option Double := Double.ofNat? (Nat.pow 10 exponent)

/-- Scales a number by a power of ten, dividing by `1e308` as often as needed. -/
def scale? : Nat → Double → Int → Option Double
  | 0, number, _ => some number
  | fuel + 1, number, exponent =>
      if exponent.natAbs ≤ 308 then do
        let power ← powerOfTen? exponent.natAbs
        if 0 ≤ exponent then number.mul? power else number.div? power
      else if number.isZero then some number
      else if 0 ≤ exponent then none
      else do
        let number ← number.div? (← powerOfTen? 308)
        scale? fuel number (exponent + 308)

/-- The number that is read from `significand * 10 ^ exponent`, if it is not too large. -/
def ofDecimal? (negative : Bool) (significand : Nat) (exponent : Int) : Option Double := do
  let number ← Double.ofNat? significand
  let number ← scale? 8 number exponent
  return { number with negative }

/-- A significand followed by as many digits as fit into a word, and the number
of digits that do not. -/
def takeDigits : Nat → Nat → List Char → Nat × Nat
  | significand, dropped, [] => (significand, dropped)
  | significand, dropped, c :: rest =>
      let next := significand * 10 + (c.toNat - '0'.toNat)
      if dropped = 0 && next ≤ maxWord then takeDigits next 0 rest
      else takeDigits significand (dropped + 1) rest

/-!
## The shortest decimal of a number

Of all decimals that are nearer to a number than to any other of its format,
the one with the fewest digits is written, and the nearest of those.
-/

/-- A decimal fraction `digits * 10 ^ exponent`. -/
structure Decimal where
  digits : Nat
  exponent : Int
deriving Repr, DecidableEq, Inhabited

/-- The decimals that read back as a number, counted in quarters of the unit in
its last place. -/
structure Neighbourhood where
  low : Nat
  value : Nat
  high : Nat
  /-- Whether the ends read back as the number. -/
  isClosed : Bool
deriving Repr

/-- The decimals that read back as a number. Below a power of two the numbers
are twice as close. -/
def Double.neighbourhood (number : Double) : Neighbourhood :=
  let value := 4 * number.significand
  let isNarrow := number.significand = leadingBit && number.exponent > -1074
  { low := value - (if isNarrow then 1 else 2), value, high := value + 2
    isClosed := number.significand % 2 = 0 }

/-- Whether a value with the given scale is in a neighbourhood with the other. -/
def Neighbourhood.covers (around : Neighbourhood) (candidate scale : Nat) : Bool :=
  if around.isClosed then around.low * scale ≤ candidate && candidate ≤ around.high * scale
  else around.low * scale < candidate && candidate < around.high * scale

/-- The multiple of a power of ten that reads back as a number, the nearest if
there are several. -/
def Double.onGrid? (number : Double) (gridExponent : Int) : Option Decimal :=
  let around := number.neighbourhood
  let unit := number.exponent - 2
  let grid := powerAbove 10 gridExponent * powerAbove 2 (-unit)
  let scale := powerAbove 10 (-gridExponent) * powerAbove 2 unit
  let below := around.value * scale / grid
  let above := below + 1
  let belowCovered := around.covers (below * grid) scale
  let aboveCovered := around.covers (above * grid) scale
  let toBelow := around.value * scale - below * grid
  let toAbove := above * grid - around.value * scale
  let preferBelow := toBelow < toAbove || (toBelow = toAbove && below % 2 = 0)
  if belowCovered && (preferBelow || !aboveCovered) then some ⟨below, gridExponent⟩
  else if aboveCovered then some ⟨above, gridExponent⟩
  else none

/-- The decimal on the coarsest of some grids, each ten times finer than the last. -/
def Double.search (number : Double) : Nat → Int → Decimal
  | 0, gridExponent => ⟨0, gridExponent⟩
  | fuel + 1, gridExponent =>
      match number.onGrid? gridExponent with
      | some decimal => decimal
      | none => number.search fuel (gridExponent - 1)

/-- The shortest decimal that reads back as a number. The search begins above the
first digit; seventeen digits always suffice. -/
def Double.shortest (number : Double) : Decimal :=
  let (numerator, denominator) := number.ratio
  let first : Int :=
    if denominator ≤ numerator then ((toString (numerator / denominator)).length : Int)
    else 1 - ((toString (denominator / numerator)).length : Int)
  number.search 20 (first + 1)

/-- The text of a number: at least one digit on both sides of the point up to
sixteen digits before it and four zeros after it, else with an exponent. -/
def Double.toText (number : Double) : String :=
  let sign := if number.negative then "-" else ""
  if number.isZero then sign ++ "0.0"
  else
    let decimal := number.shortest
    let digits := (toString decimal.digits).toList
    let point : Int := digits.length + decimal.exponent
    let zeros (count : Nat) : List Char := List.replicate count '0'
    let body : List Char :=
      if 0 ≤ decimal.exponent && point ≤ 16 then
        digits ++ zeros decimal.exponent.toNat ++ ['.', '0']
      else if 0 < point && point ≤ 16 then
        digits.take point.toNat ++ ['.'] ++ digits.drop point.toNat
      else if -5 < point && point ≤ 0 then
        ['0', '.'] ++ zeros (-point).toNat ++ digits
      else
        let fraction := if digits.length = 1 then [] else '.' :: digits.drop 1
        digits.take 1 ++ fraction ++ ['e'] ++ (toString (point - 1)).toList
    sign ++ String.ofList body

/-- The text of a number with a fixed number of digits after the point. -/
def Double.toFixed (places : Nat) (number : Double) : String :=
  let scaled := roundDiv (number.ratio.1 * Nat.pow 10 places) number.ratio.2
  let sign := if number.negative then "-" else ""
  let digits := (toString scaled).toList
  let padded := List.replicate (places + 1 - digits.length) '0' ++ digits
  let whole := padded.take (padded.length - places)
  if places = 0 then sign ++ String.ofList whole
  else sign ++ String.ofList whole ++ "." ++ String.ofList (padded.drop (padded.length - places))

end SourceFacts.Number
