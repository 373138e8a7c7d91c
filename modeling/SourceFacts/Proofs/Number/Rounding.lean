import Mathlib.Algebra.Order.Field.Power
import Mathlib.Algebra.Order.Ring.Unbundled.Rat
import Mathlib.Tactic.FieldSimp
import Mathlib.Tactic.Linarith
import Mathlib.Tactic.NormNum
import Mathlib.Tactic.Positivity
import Mathlib.Tactic.Ring
import SourceFacts.Number.Double

namespace SourceFacts.Number

/-!
# Rounding

A fraction is rounded to the nearest number of double precision, and to the even one of two that
are as near. The numbers from some unit on are multiples of that unit, and those below are less
than `leadingBit` units, so that it suffices to round to the nearest multiple of a unit of which
the fraction has at least so many.
-/

/-! ## Natural numbers near a fraction -/

/-- A natural number is nearest to a fraction, and even if it is as near as another one. -/
def IsNearestNatural (nearest : Nat) (target : ℚ) : Prop :=
  |(nearest : ℚ) - target| < 1 / 2 ∨ |(nearest : ℚ) - target| = 1 / 2 ∧ nearest % 2 = 0

/-- A quotient leaves a part of one, which the rest tells from a half. -/
theorem exists_part
    (numerator : Nat)
    {denominator : Nat}
    (positive : 0 < denominator) :
    ∃ part : ℚ, (numerator / denominator : ℚ) = (numerator / denominator : Nat) + part ∧
      0 ≤ part ∧ part < 1 ∧
      (2 * (numerator % denominator) < denominator ↔ part < 1 / 2) ∧
      (denominator < 2 * (numerator % denominator) ↔ 1 / 2 < part) := by
  have positiveToo : (0 : ℚ) < denominator := by exact_mod_cast positive
  refine ⟨(numerator % denominator : Nat) / denominator, ?_, by positivity, ?_, ?_, ?_⟩
  · have whole : (numerator : ℚ) =
        denominator * (numerator / denominator : Nat) + (numerator % denominator : Nat) := by
      exact_mod_cast (Nat.div_add_mod numerator denominator).symm
    field_simp
    exact whole
  · rw [div_lt_one positiveToo]
    exact_mod_cast Nat.mod_lt numerator positive
  · rw [div_lt_div_iff₀ positiveToo two_pos, one_mul, mul_comm]
    exact_mod_cast Iff.rfl
  · rw [div_lt_div_iff₀ two_pos positiveToo, one_mul, mul_comm]
    exact_mod_cast Iff.rfl

/-- A quotient is rounded to the nearest natural number. -/
theorem isNearestNatural_roundDiv
    (numerator : Nat)
    {denominator : Nat}
    (positive : 0 < denominator) :
    IsNearestNatural (roundDiv numerator denominator) (numerator / denominator : ℚ) := by
  obtain ⟨part, isSum, notNegative, belowOne, isBelow, isAbove⟩ := exists_part numerator positive
  rw [isSum, IsNearestNatural, roundDiv]
  split
  · rename_i below
    rw [isBelow] at below
    left
    rw [abs_lt]
    constructor <;> linarith
  · rename_i notBelow
    rw [isBelow, not_lt] at notBelow
    split
    · rename_i above
      rw [isAbove] at above
      left
      push_cast
      rw [abs_lt]
      constructor <;> linarith
    · rename_i notAbove
      rw [isAbove, not_lt] at notAbove
      -- The quotient is in the middle of two numbers, of which the even one is taken.
      obtain rfl : part = 1 / 2 := le_antisymm notAbove notBelow
      right
      refine ⟨?_, by omega⟩
      rw [abs_eq (by norm_num)]
      rcases Nat.mod_two_eq_zero_or_one (numerator / denominator) with isEven | isOdd
      · right
        rw [isEven]
        push_cast
        ring
      · left
        rw [isOdd]
        push_cast
        ring

namespace IsNearestNatural

variable {nearest : Nat} {target : ℚ}

/-- No integer is nearer than the nearest natural number, which is even if another one is as
near. -/
theorem near
    (isNearest : IsNearestNatural nearest target)
    {other : Int}
    (isOther : other ≠ nearest) :
    |(nearest : ℚ) - target| < |(other : ℚ) - target| ∨
      |(nearest : ℚ) - target| = |(other : ℚ) - target| ∧ nearest % 2 = 0 := by
  have apart : (1 : ℚ) ≤ |(other : ℚ) - nearest| := by
    have apart : 1 ≤ |other - nearest| := Int.one_le_abs (sub_ne_zero.mpr isOther)
    exact_mod_cast apart
  have between : |(other : ℚ) - nearest| ≤ |(other : ℚ) - target| + |(nearest : ℚ) - target| := by
    rw [abs_sub_comm (nearest : ℚ)]
    exact abs_sub_le _ _ _
  rcases isNearest with nearer | ⟨half, isEven⟩
  · left
    linarith
  · rcases (show 1 / 2 ≤ |(other : ℚ) - target| by linarith).lt_or_eq with farther | asNear
    · left
      linarith
    · right
      exact ⟨half.trans asNear, isEven⟩

/-- A fraction is no farther from its nearest natural number than from any integer. -/
theorem near_le
    (isNearest : IsNearestNatural nearest target)
    (other : Int) :
    |(nearest : ℚ) - target| ≤ |(other : ℚ) - target| := by
  by_cases isOther : other = nearest
  · rw [isOther, Int.cast_natCast]
  · rcases isNearest.near isOther with nearer | ⟨asNear, _⟩
    · exact nearer.le
    · exact asNear.le

/-- What is at least a natural number is rounded to no less. -/
theorem le_of_le
    (isNearest : IsNearestNatural nearest target)
    {least : Nat}
    (isLeast : (least : ℚ) ≤ target) :
    least ≤ nearest := by
  have near : |(nearest : ℚ) - target| ≤ 1 / 2 := isNearest.elim le_of_lt (·.1.le)
  have above : (least : ℚ) < nearest + 1 := by
    have := (abs_le.mp near).1
    linarith
  exact Nat.lt_succ_iff.mp (by exact_mod_cast above)

/-- What is at most a natural number is rounded to no more. -/
theorem le_of_ge
    (isNearest : IsNearestNatural nearest target)
    {most : Nat}
    (isMost : target ≤ most) :
    nearest ≤ most := by
  have near : |(nearest : ℚ) - target| ≤ 1 / 2 := isNearest.elim le_of_lt (·.1.le)
  have below : (nearest : ℚ) < most + 1 := by
    have := (abs_le.mp near).2
    linarith
  exact Nat.lt_succ_iff.mp (by exact_mod_cast below)

end IsNearestNatural

/-! ## Units -/

/-- The powers of two that scale a fraction make up a power with a sign in its exponent. -/
theorem powerAbove_div (exponent : Int) :
    (powerAbove 2 exponent : ℚ) / powerAbove 2 (-exponent) = 2 ^ exponent := by
  rcases Int.le_total 0 exponent with isPositive | isNegative
  · obtain ⟨power, rfl⟩ := Int.eq_ofNat_of_zero_le isPositive
    simp [powerAbove]
  · obtain ⟨power, isPower⟩ := Int.eq_ofNat_of_zero_le (Int.neg_nonneg.mpr isNegative)
    obtain rfl : exponent = -power := by omega
    simp [powerAbove]

theorem powerAbove_pos (exponent : Int) : 0 < powerAbove 2 exponent :=
  Nat.pow_pos (by decide)

/-- A fraction that is scaled by powers of two is a number of units. -/
theorem scaled_eq (numerator denominator : Nat) (exponent : Int) :
    ((numerator * powerAbove 2 (-exponent) : Nat) : ℚ) /
        (denominator * powerAbove 2 exponent : Nat) =
      numerator / denominator / 2 ^ exponent := by
  have above : (powerAbove 2 exponent : ℚ) ≠ 0 := by exact_mod_cast (powerAbove_pos _).ne'
  have below : (powerAbove 2 (-exponent) : ℚ) ≠ 0 := by exact_mod_cast (powerAbove_pos _).ne'
  rw [← powerAbove_div]
  push_cast
  field_simp

/-- What the unit in the last place of a fraction is. -/
structure IsUnit (target : ℚ) (unit : Int) : Prop where
  smallest : -1074 ≤ unit
  below : target / 2 ^ unit < 2 * leadingBit
  above : unit = -1074 ∨ leadingBit ≤ target / 2 ^ unit

/-- The power of two that a fraction is near to. -/
theorem log2_div
    {numerator denominator : Nat}
    (positive : 0 < numerator)
    (positiveToo : 0 < denominator) :
    (2 : ℚ) ^ ((numerator.log2 : Int) - denominator.log2 - 1) < numerator / denominator ∧
      (numerator / denominator : ℚ) < 2 ^ ((numerator.log2 : Int) - denominator.log2 + 1) := by
  have numeratorAbove : ((2 : ℚ) ^ numerator.log2) ≤ numerator := by
    exact_mod_cast Nat.log2_self_le positive.ne'
  have numeratorBelow : (numerator : ℚ) < 2 ^ (numerator.log2 + 1) := by
    exact_mod_cast Nat.lt_log2_self
  have denominatorAbove : ((2 : ℚ) ^ denominator.log2) ≤ denominator := by
    exact_mod_cast Nat.log2_self_le positiveToo.ne'
  have denominatorBelow : (denominator : ℚ) < 2 ^ (denominator.log2 + 1) := by
    exact_mod_cast Nat.lt_log2_self
  have positiveToo : (0 : ℚ) < denominator := by exact_mod_cast positiveToo
  constructor
  · rw [lt_div_iff₀ positiveToo]
    calc (2 : ℚ) ^ ((numerator.log2 : Int) - denominator.log2 - 1) * denominator
        < 2 ^ ((numerator.log2 : Int) - denominator.log2 - 1) * 2 ^ (denominator.log2 + 1) := by
          gcongr
      _ = 2 ^ numerator.log2 := by
          rw [← zpow_natCast, ← zpow_natCast, ← zpow_add₀ two_ne_zero]
          congr 1
          push_cast
          ring
      _ ≤ numerator := numeratorAbove
  · rw [div_lt_iff₀ positiveToo]
    calc (numerator : ℚ) < 2 ^ (numerator.log2 + 1) := numeratorBelow
      _ = 2 ^ ((numerator.log2 : Int) - denominator.log2 + 1) * 2 ^ denominator.log2 := by
          rw [← zpow_natCast, ← zpow_natCast, ← zpow_add₀ two_ne_zero]
          congr 1
          push_cast
          ring
      _ ≤ 2 ^ ((numerator.log2 : Int) - denominator.log2 + 1) * denominator := by gcongr

/-- Whether a fraction has a number of units shows when it is scaled. -/
theorem le_scaled_iff
    {denominator : Nat}
    (numerator : Nat)
    (positive : 0 < denominator)
    (count : Nat)
    (exponent : Int) :
    count ≤ numerator * powerAbove 2 (-exponent) / (denominator * powerAbove 2 exponent) ↔
      (count : ℚ) ≤ numerator / denominator / 2 ^ exponent := by
  have positiveScale : 0 < denominator * powerAbove 2 exponent :=
    Nat.mul_pos positive (powerAbove_pos _)
  rw [Nat.le_div_iff_mul_le positiveScale, ← scaled_eq,
    le_div_iff₀ (by exact_mod_cast positiveScale)]
  exact_mod_cast Iff.rfl

/-- A fraction between two powers of two has a leading bit in the smaller of two units, or in the
larger one if it has too many of the smaller one. -/
theorem exact_of_between
    {target : ℚ}
    {low : Int}
    (above : 2 ^ (52 + low) < target)
    (below : target < 2 ^ (52 + (low + 1) + 1)) :
    (leadingBit : ℚ) ≤ target / 2 ^ low ∧ target / 2 ^ low < 2 * leadingBit ∨
      2 * (leadingBit : ℚ) ≤ target / 2 ^ low ∧
        (leadingBit : ℚ) ≤ target / 2 ^ (low + 1) ∧ target / 2 ^ (low + 1) < 2 * leadingBit := by
  have isLeading : (leadingBit : ℚ) = 2 ^ (52 : Int) := by norm_num [leadingBit]
  have scale : ∀ exponent : Int, (0 : ℚ) < 2 ^ exponent := fun exponent => by positivity
  have shift : ∀ exponent : Int, (2 : ℚ) ^ (52 : Int) * 2 ^ exponent = 2 ^ (52 + exponent) :=
    fun exponent => (zpow_add₀ two_ne_zero _ _).symm
  have double : ∀ exponent : Int, 2 * (2 : ℚ) ^ exponent = 2 ^ (exponent + 1) := by
    intro exponent
    rw [zpow_add_one₀ two_ne_zero, mul_comm]
  rw [isLeading]
  rcases lt_or_ge (target / 2 ^ low) (2 * 2 ^ (52 : Int)) with isShort | isLong
  · left
    refine ⟨?_, isShort⟩
    rw [le_div_iff₀ (scale _), shift]
    exact above.le
  · right
    refine ⟨isLong, ?_, ?_⟩
    · rw [le_div_iff₀ (scale _), mul_assoc, shift, double] at isLong
      rw [le_div_iff₀ (scale _), shift, ← add_assoc]
      exact isLong
    · rw [div_lt_iff₀ (scale _), mul_assoc, shift, double]
      exact below

/-- The unit of a fraction is found from the powers of two of its parts. -/
theorem isUnit_unitExponent
    {numerator denominator : Nat}
    (positive : 0 < numerator)
    (positiveToo : 0 < denominator) :
    IsUnit (numerator / denominator) (unitExponent numerator denominator) := by
  obtain ⟨above, below⟩ := log2_div positive positiveToo
  obtain ⟨low, isLow⟩ : ∃ low : Int, low = (numerator.log2 : Int) - denominator.log2 - 53 :=
    ⟨_, rfl⟩
  rw [show (numerator.log2 : Int) - denominator.log2 - 1 = 52 + low by omega] at above
  rw [show (numerator.log2 : Int) - denominator.log2 + 1 = 52 + (low + 1) + 1 by omega] at below
  obtain ⟨exact, isExact, exactAbove, exactBelow⟩ : ∃ exact : Int,
      unitExponent numerator denominator = max (-1074) exact ∧
      (leadingBit : ℚ) ≤ numerator / denominator / 2 ^ exact ∧
      (numerator / denominator : ℚ) / 2 ^ exact < 2 * leadingBit := by
    refine ⟨_, by rw [unitExponent, ← isLow], ?_⟩
    have isDouble := le_scaled_iff numerator positiveToo (2 * leadingBit) low
    push_cast at isDouble
    rcases exact_of_between above below with ⟨isLeading, isShort⟩ | ⟨isLong, isExact⟩
    · rw [if_neg (by rw [isDouble]; exact not_le.mpr isShort)]
      exact ⟨isLeading, isShort⟩
    · rw [if_pos (isDouble.mpr isLong)]
      exact isExact
  rw [isExact]
  rcases le_total (-1074) exact with isFine | isCoarse
  · rw [max_eq_right isFine]
    exact ⟨isFine, exactBelow, .inr exactAbove⟩
  · rw [max_eq_left isCoarse]
    refine ⟨le_rfl, lt_of_le_of_lt ?_ exactBelow, .inl rfl⟩
    gcongr
    exact one_le_two

/-! ## Magnitudes -/

/-- The value of a magnitude. -/
def magnitudeValue (magnitude : Nat) : ℚ :=
  if magnitude < leadingBit then magnitude * 2 ^ (-1074 : Int)
  else (leadingBit + magnitude % leadingBit : Nat) *
    2 ^ (((magnitude / leadingBit : Nat) : Int) - 1075)

theorem magnitudeValue_zero : magnitudeValue 0 = 0 := by
  rw [magnitudeValue, if_pos (by decide), Nat.cast_zero, zero_mul]

/-- A unit is a power of two, and each step to the next one doubles it. -/
def unitOf (steps : Nat) : ℚ := 2 ^ ((steps : Int) - 1074)

theorem unitOf_pos (steps : Nat) : 0 < unitOf steps := by
  rw [unitOf]
  positivity

theorem unitOf_le {fewer steps : Nat} (isFewer : fewer ≤ steps) : unitOf fewer ≤ unitOf steps := by
  rw [unitOf, unitOf]
  gcongr
  exact one_le_two

/-- A magnitude made of steps and a significand has as many units as the significand says, even
if the significand is that of the next step. -/
theorem magnitudeValue_add
    {steps significand : Nat}
    (isShort : significand ≤ 2 * leadingBit)
    (isLeading : steps = 0 ∨ leadingBit ≤ significand) :
    magnitudeValue (steps * leadingBit + significand) = significand * unitOf steps := by
  rw [magnitudeValue, unitOf]
  split
  · rename_i isSmall
    obtain rfl : steps = 0 := by
      rw [leadingBit] at isSmall
      omega
    simp
  · rename_i isLarge
    have isSignificand : leadingBit ≤ significand := by
      rcases isLeading with rfl | isSignificand
      · omega
      · exact isSignificand
    rcases isShort.lt_or_eq with isShorter | rfl
    · have isStep : (steps * leadingBit + significand) / leadingBit = steps + 1 := by
        rw [leadingBit] at isSignificand isShorter ⊢
        omega
      have isRest : leadingBit + (steps * leadingBit + significand) % leadingBit = significand := by
        rw [leadingBit] at isSignificand isShorter ⊢
        omega
      rw [isStep, isRest]
      congr 2
      push_cast
      ring
    · have isStep : (steps * leadingBit + 2 * leadingBit) / leadingBit = steps + 2 := by
        rw [leadingBit]
        omega
      have isRest : (steps * leadingBit + 2 * leadingBit) % leadingBit = 0 := by
        rw [leadingBit]
        omega
      rw [isStep, isRest,
        show ((steps + 2 : Nat) : Int) - 1075 = (steps : Int) - 1074 + 1 by push_cast; ring,
        zpow_add_one₀ two_ne_zero]
      push_cast
      ring

/-- Every magnitude is a multiple of a unit, or less than so many units that it may have a
smaller one. -/
theorem magnitudeValue_cases (magnitude steps : Nat) :
    (∃ count : Nat, magnitudeValue magnitude = count * unitOf steps) ∨
      0 < steps ∧ magnitudeValue magnitude < leadingBit * unitOf steps := by
  rw [magnitudeValue]
  split
  · rename_i isSmall
    rcases Nat.eq_zero_or_pos steps with rfl | isStepped
    · exact .inl ⟨magnitude, rfl⟩
    · refine .inr ⟨isStepped, ?_⟩
      calc (magnitude : ℚ) * unitOf 0 < leadingBit * unitOf 0 := by
            have := unitOf_pos 0
            gcongr
        _ ≤ leadingBit * unitOf steps := by
            gcongr
            exact unitOf_le steps.zero_le
  · obtain ⟨exponent, isExponent⟩ : ∃ exponent, magnitude / leadingBit = exponent + 1 := by
      refine Nat.exists_eq_add_one.mpr (Nat.div_pos (by omega) (by decide))
    rw [isExponent, show ((exponent + 1 : Nat) : Int) - 1075 = (exponent : Int) - 1074 by
      push_cast; ring]
    rcases Nat.lt_or_ge exponent steps with isFiner | isCoarser
    · refine .inr ⟨by omega, ?_⟩
      have isShort : leadingBit + magnitude % leadingBit < 2 * leadingBit := by
        have := Nat.mod_lt magnitude (show 0 < leadingBit by decide)
        omega
      have isShort : ((leadingBit + magnitude % leadingBit : Nat) : ℚ) < 2 * leadingBit := by
        exact_mod_cast isShort
      calc ((leadingBit + magnitude % leadingBit : Nat) : ℚ) * unitOf exponent
          < 2 * leadingBit * unitOf exponent := by
            have := unitOf_pos exponent
            gcongr
        _ = leadingBit * unitOf (exponent + 1) := by
            rw [unitOf, unitOf, show ((exponent + 1 : Nat) : Int) - 1074 = exponent - 1074 + 1 by
              push_cast; ring, zpow_add_one₀ two_ne_zero]
            ring
        _ ≤ leadingBit * unitOf steps := by
            gcongr
            exact unitOf_le isFiner
    · refine .inl ⟨(leadingBit + magnitude % leadingBit) * 2 ^ (exponent - steps), ?_⟩
      rw [unitOf, show (exponent : Int) - 1074 = (exponent - steps : Nat) + (steps - 1074) by omega,
        zpow_add₀ two_ne_zero, zpow_natCast]
      push_cast
      ring

namespace Double

/-! ## Numbers -/

/-- The value of a number. -/
def value (number : Double) : ℚ :=
  (if number.negative then -1 else 1) * (number.ratio.1 / number.ratio.2)

/-- The fraction of a number is the value of its magnitude. -/
theorem ratio_eq (number : Double) :
    (number.ratio.1 / number.ratio.2 : ℚ) = magnitudeValue number.magnitude := by
  have isScaled : (number.ratio.1 / number.ratio.2 : ℚ) =
      number.significand * 2 ^ number.exponent := by
    rw [ratio, ← powerAbove_div]
    push_cast
    ring
  rw [isScaled, significand, exponent, magnitudeValue]
  split <;> rfl

/-- A number without a sign is as large as its magnitude. -/
theorem value_eq {number : Double} (noSign : number.negative = false) :
    number.value = magnitudeValue number.magnitude := by
  rw [value, ratio_eq, noSign]
  simp

theorem magnitudeValue_nonneg (magnitude : Nat) : 0 ≤ magnitudeValue magnitude := by
  rw [magnitudeValue]
  split <;> positivity

/-- Every number is a multiple of a unit, or less than so many units that it may have a smaller
one. -/
theorem value_cases (number : Double) (steps : Nat) :
    (∃ count : Int, number.value = count * unitOf steps) ∨
      0 < steps ∧ number.value < leadingBit * unitOf steps := by
  rw [value, ratio_eq]
  cases number.negative with
  | false =>
      rcases magnitudeValue_cases number.magnitude steps with ⟨count, isMultiple⟩ | isLess
      · exact .inl ⟨count, by simp [isMultiple]⟩
      · exact .inr (by simpa using isLess)
  | true =>
      rcases magnitudeValue_cases number.magnitude steps with ⟨count, isMultiple⟩ | ⟨isStepped, _⟩
      · exact .inl ⟨-count, by simp [isMultiple]⟩
      · refine .inr ⟨isStepped, ?_⟩
        have positive : 0 < (leadingBit : ℚ) * unitOf steps :=
          mul_pos (by norm_num [leadingBit]) (unitOf_pos steps)
        have := magnitudeValue_nonneg number.magnitude
        simp only [if_true]
        linarith

/-- A number is nearest to a fraction among all numbers, and even if another one is as near. -/
structure IsNearest (number : Double) (target : ℚ) : Prop where
  near : ∀ other : Double, |number.value - target| ≤ |other.value - target|
  even : ∀ other : Double, other.value ≠ number.value →
    |other.value - target| = |number.value - target| → number.magnitude % 2 = 0

namespace IsNearest

variable {number other : Double} {target : ℚ}

/-- A fraction that is at most some number is rounded to at most that number. -/
theorem le_of_le
    (isNearest : IsNearest number target)
    (isBelow : target ≤ other.value) :
    number.value ≤ other.value := by
  have near := isNearest.near other
  rw [abs_of_nonneg (sub_nonneg.mpr isBelow)] at near
  linarith [le_abs_self (number.value - target)]

/-- A fraction that is at least some number is rounded to at least that number. -/
theorem le_of_ge
    (isNearest : IsNearest number target)
    (isAbove : other.value ≤ target) :
    other.value ≤ number.value := by
  have near := isNearest.near other
  rw [abs_sub_comm other.value, abs_of_nonneg (sub_nonneg.mpr isAbove)] at near
  linarith [neg_abs_le (number.value - target)]

/-- A fraction that is a number is rounded to that number. -/
theorem value_eq
    (isNearest : IsNearest number target)
    (isExact : target = other.value) :
    number.value = target :=
  le_antisymm (isExact ▸ isNearest.le_of_le isExact.le) (isExact ▸ isNearest.le_of_ge isExact.ge)

/-- Larger fractions are not rounded to smaller numbers. -/
theorem mono
    {larger : ℚ}
    (isNearest : IsNearest number target)
    (otherNearest : IsNearest other larger)
    (isLarger : target < larger) :
    number.value ≤ other.value := by
  by_contra isBelow
  rw [not_le] at isBelow
  have near := sq_le_sq.mpr (isNearest.near other)
  have nearToo := sq_le_sq.mpr (otherNearest.near number)
  -- Both fractions are on the wrong side of the middle between the numbers.
  have aboveMiddle : number.value + other.value ≤ 2 * target := by nlinarith
  have belowMiddle : 2 * larger ≤ number.value + other.value := by nlinarith
  linarith

end IsNearest

/-- A multiple of a unit is the nearest number if it is the nearest multiple, as long as the
fraction has so many units that no smaller unit is needed. -/
theorem isNearest_of_multiple
    {number : Double}
    {target : ℚ}
    {steps count : Nat}
    (isValue : number.value = count * unitOf steps)
    (isEven : count % 2 = 0 → number.magnitude % 2 = 0)
    (isLeading : steps = 0 ∨ leadingBit ≤ target / unitOf steps)
    (isNearest : IsNearestNatural count (target / unitOf steps)) :
    IsNearest number target := by
  have positive := unitOf_pos steps
  have distance : ∀ multiple : ℚ,
      |multiple * unitOf steps - target| = |multiple - target / unitOf steps| * unitOf steps := by
    intro multiple
    rw [← abs_of_pos positive, ← abs_mul, abs_of_pos positive, sub_mul,
      div_mul_cancel₀ _ positive.ne']
  have nearer : ∀ other : Double, other.value ≠ number.value →
      |number.value - target| < |other.value - target| ∨
        |number.value - target| = |other.value - target| ∧ count % 2 = 0 := by
    intro other isOther
    rcases other.value_cases steps with ⟨multiple, isMultiple⟩ | ⟨isStepped, isLess⟩
    · have notSame : multiple ≠ count := by
        rintro rfl
        exact isOther (isMultiple.trans (by rw [isValue, Int.cast_natCast]))
      rw [isValue, isMultiple, distance, distance]
      rcases isNearest.near notSame with isNearer | ⟨asNear, isEven⟩
      · exact .inl (mul_lt_mul_of_pos_right isNearer positive)
      · exact .inr ⟨by rw [asNear], isEven⟩
    · -- What has a smaller unit is below the least multiple that needs none.
      left
      have isAbove : (leadingBit : ℚ) * unitOf steps ≤ target := by
        rw [← le_div_iff₀ positive]
        exact isLeading.resolve_left isStepped.ne'
      have near : |number.value - target| ≤ |(leadingBit : ℚ) * unitOf steps - target| := by
        rw [isValue, distance, distance]
        have := isNearest.near_le leadingBit
        rw [Int.cast_natCast] at this
        gcongr
      rw [abs_of_nonpos (sub_nonpos.mpr isAbove)] at near
      rw [abs_of_neg (by linarith : other.value - target < 0)]
      linarith
  constructor
  · intro other
    by_cases isSame : other.value = number.value
    · rw [isSame]
    · exact (nearer other isSame).elim le_of_lt (·.1.le)
  · intro other isOther asNear
    rcases nearer other isOther with isNearer | ⟨_, isEvenCount⟩
    · exact absurd asNear isNearer.ne'
    · exact isEven isEvenCount

/-! ## Rounded fractions -/

/-- A fraction is rounded to the nearest multiple of its unit. -/
theorem exists_roundedMagnitude
    {numerator denominator : Nat}
    (positive : 0 < numerator)
    (positiveToo : 0 < denominator) :
    ∃ steps count : Nat,
      roundedMagnitude numerator denominator = steps * leadingBit + count ∧
      count ≤ 2 * leadingBit ∧
      (steps = 0 ∨ leadingBit ≤ (numerator / denominator : ℚ) / unitOf steps) ∧
      IsNearestNatural count ((numerator / denominator : ℚ) / unitOf steps) := by
  have isUnit := isUnit_unitExponent positive positiveToo
  obtain ⟨steps, isSteps⟩ : ∃ steps : Nat,
      unitExponent numerator denominator = (steps : Int) - 1074 :=
    ⟨(unitExponent numerator denominator + 1074).toNat, by have := isUnit.smallest; omega⟩
  have nearest := isNearestNatural_roundDiv
    (numerator * powerAbove 2 (-unitExponent numerator denominator))
    (Nat.mul_pos positiveToo (powerAbove_pos (unitExponent numerator denominator)))
  rw [scaled_eq] at nearest
  have below := isUnit.below
  have above := isUnit.above
  rw [isSteps] at nearest below above
  refine ⟨steps, _, ?_, nearest.le_of_ge (by push_cast; exact below.le), ?_, nearest⟩
  · have isIndex : ((steps : Int) - 1074 + 1074).toNat = steps := by omega
    rw [roundedMagnitude, if_neg positive.ne', isSteps]
    dsimp only
    rw [isIndex]
  · rcases above with isSmallest | above
    · exact .inl (by omega)
    · exact .inr above

/-- The number that a fraction is rounded to is nearest to it. -/
theorem isNearest_of_ofRatio?
    {number : Double}
    {numerator denominator : Nat}
    (positive : 0 < denominator)
    (isRounded : ofRatio? false numerator denominator = some number) :
    number.negative = false ∧ IsNearest number (numerator / denominator) := by
  obtain ⟨noSign, isMagnitude⟩ : number.negative = false ∧
      number.magnitude = roundedMagnitude numerator denominator := by
    rw [ofRatio?] at isRounded
    split at isRounded
    · cases isRounded
      exact ⟨rfl, rfl⟩
    · cases isRounded
  refine ⟨noSign, ?_⟩
  rcases Nat.eq_zero_or_pos numerator with rfl | isPositive
  · have isZero : number.magnitude = 0 := isMagnitude
    have noValue : number.value = 0 := by
      rw [Double.value_eq noSign, isZero, magnitudeValue_zero]
    constructor
    · intro other
      simp [noValue]
    · intro _ _ _
      rw [isZero]
  · obtain ⟨steps, count, isSum, isShort, isLeading, isNearest⟩ :=
      exists_roundedMagnitude isPositive positive
    have isLeadingToo : steps = 0 ∨ leadingBit ≤ count := isLeading.imp_right isNearest.le_of_le
    refine isNearest_of_multiple ?_ ?_ isLeading isNearest
    · rw [Double.value_eq noSign, isMagnitude, isSum, magnitudeValue_add isShort isLeadingToo]
    · intro isEven
      rw [isMagnitude, isSum, leadingBit]
      omega

/-- A fraction that is less than the first number beyond a word is rounded to a number. -/
theorem exists_ofRatio?
    {numerator denominator : Nat}
    (negative : Bool)
    (positive : 0 < denominator)
    (isSmall : (numerator / denominator : ℚ) < 2 ^ 64) :
    ∃ number, ofRatio? negative numerator denominator = some number := by
  suffices isFinite : roundedMagnitude numerator denominator < infinity by
    exact ⟨_, dif_pos isFinite⟩
  rcases Nat.eq_zero_or_pos numerator with rfl | isPositive
  · rw [roundedMagnitude, if_pos rfl]
    decide
  · obtain ⟨steps, count, isSum, isShort, isLeading, _⟩ :=
      exists_roundedMagnitude isPositive positive
    have isEarly : steps < 1087 := by
      rcases isLeading with rfl | isLeading
      · decide
      · by_contra isLate
        rw [le_div_iff₀ (unitOf_pos _)] at isLeading
        have isLarge : (2 : ℚ) ^ 64 ≤ leadingBit * unitOf steps := by
          calc (2 : ℚ) ^ 64 ≤ leadingBit * unitOf 1087 := by
                norm_num [leadingBit, unitOf]
            _ ≤ leadingBit * unitOf steps := by
                gcongr
                exact unitOf_le (by omega)
        linarith
    rw [isSum]
    rw [leadingBit] at isShort ⊢
    rw [infinity]
    omega

/-! ## Natural numbers -/

/-- One is a number. -/
def one : Double where
  magnitude := 4607182418800017408

theorem value_one : one.value = 1 := by
  rw [value_eq rfl, show one.magnitude = 1022 * leadingBit + leadingBit by decide,
    magnitudeValue_add (by decide) (.inr le_rfl)]
  norm_num [leadingBit, unitOf]

theorem value_zero : (zero false).value = 0 := by
  rw [value_eq rfl]
  exact magnitudeValue_zero

/-- What is more than nothing is not zero. -/
theorem isZero_eq_false {number : Double} (positive : 0 < number.value) :
    number.isZero = false := by
  rw [isZero, decide_eq_false_iff_not]
  intro isZero
  rw [value, ratio_eq, isZero, magnitudeValue_zero, mul_zero] at positive
  exact lt_irrefl 0 positive

/-- The number that a natural number is rounded to is nearest to it. -/
theorem isNearest_of_ofNat?
    {number : Double}
    {natural : Nat}
    (isRounded : ofNat? natural = some number) :
    number.negative = false ∧ IsNearest number natural := by
  have isNearest := isNearest_of_ofRatio? Nat.one_pos isRounded
  rwa [Nat.cast_one, div_one] at isNearest

/-- Natural numbers of a word are rounded to numbers. -/
theorem exists_ofNat?
    {natural : Nat}
    (isWord : natural < 2 ^ 64) :
    ∃ number, ofNat? natural = some number := by
  refine exists_ofRatio? false Nat.one_pos ?_
  rw [Nat.cast_one, div_one]
  exact_mod_cast isWord

/-- Natural numbers that fit into a significand are numbers. -/
theorem exists_value_eq
    {natural : Nat}
    (fits : natural < 2 * leadingBit) :
    ∃ number : Double, number.value = natural := by
  rcases Nat.eq_zero_or_pos natural with rfl | positive
  · exact ⟨zero false, by rw [value_zero, Nat.cast_zero]⟩
  -- The significand is the number, shifted until it has a leading bit.
  have isShort : natural.log2 < 53 := (Nat.log2_lt positive.ne').mpr fits
  have isLeading : leadingBit ≤ natural * 2 ^ (52 - natural.log2) := by
    calc leadingBit = 2 ^ natural.log2 * 2 ^ (52 - natural.log2) := by
          rw [← Nat.pow_add, show natural.log2 + (52 - natural.log2) = 52 by omega]
          rfl
      _ ≤ natural * 2 ^ (52 - natural.log2) :=
          Nat.mul_le_mul_right _ (Nat.log2_self_le positive.ne')
  have isBelow : natural * 2 ^ (52 - natural.log2) ≤ 2 * leadingBit := by
    calc natural * 2 ^ (52 - natural.log2)
        ≤ 2 ^ (natural.log2 + 1) * 2 ^ (52 - natural.log2) :=
          Nat.mul_le_mul_right _ Nat.lt_log2_self.le
      _ = 2 * leadingBit := by
          rw [← Nat.pow_add, show natural.log2 + 1 + (52 - natural.log2) = 53 by omega]
          rfl
  have isFinite : (1022 + natural.log2) * leadingBit + natural * 2 ^ (52 - natural.log2) <
      infinity := by
    rw [leadingBit] at isBelow ⊢
    rw [infinity]
    omega
  refine ⟨{ magnitude := _, isFinite }, ?_⟩
  rw [value_eq rfl]
  dsimp only
  rw [magnitudeValue_add isBelow (.inr isLeading), unitOf]
  push_cast
  rw [← zpow_natCast, mul_assoc, ← zpow_add₀ two_ne_zero,
    show ((52 - natural.log2 : Nat) : Int) + (1022 + (natural.log2 : Int) - 1074) = 0 by omega,
    zpow_zero, mul_one]

/-- Natural numbers that fit into a significand are not changed by rounding. -/
theorem value_of_ofNat?
    {number : Double}
    {natural : Nat}
    (fits : natural < 2 * leadingBit)
    (isRounded : ofNat? natural = some number) :
    number.value = natural := by
  obtain ⟨exact, isExact⟩ := exists_value_eq fits
  exact (isNearest_of_ofNat? isRounded).2.value_eq isExact.symm

/-- Larger natural numbers are not rounded to smaller numbers. -/
theorem value_le_of_ofNat?
    {number other : Double}
    {natural larger : Nat}
    (isRounded : ofNat? natural = some number)
    (isRoundedToo : ofNat? larger = some other)
    (isLarger : natural ≤ larger) :
    number.value ≤ other.value := by
  rcases isLarger.lt_or_eq with isLarger | rfl
  · exact (isNearest_of_ofNat? isRounded).2.mono (isNearest_of_ofNat? isRoundedToo).2
      (by exact_mod_cast isLarger)
  · rw [isRounded] at isRoundedToo
    cases isRoundedToo
    rfl

/-- Natural numbers other than zero are rounded to no less than one. -/
theorem one_le_value_of_ofNat?
    {number : Double}
    {natural : Nat}
    (positive : 0 < natural)
    (isRounded : ofNat? natural = some number) :
    1 ≤ number.value := by
  rw [← value_one]
  refine (isNearest_of_ofNat? isRounded).2.le_of_ge ?_
  rw [value_one]
  exact_mod_cast positive

/-! ## Quotients -/

theorem ratio_snd_pos (number : Double) : 0 < number.ratio.2 := powerAbove_pos _

/-- Only zero has a fraction without a numerator. -/
theorem ratio_fst_pos {number : Double} (notZero : number.isZero = false) : 0 < number.ratio.1 := by
  have notZero : number.magnitude ≠ 0 := by simpa [isZero] using notZero
  refine Nat.mul_pos ?_ (powerAbove_pos _)
  rw [significand]
  split
  · omega
  · exact Nat.add_pos_left (by decide) _

/-- The fraction that a quotient is rounded from is the quotient of the values. -/
theorem div_ratio
    {left right : Double}
    (noSign : left.negative = false)
    (noSignToo : right.negative = false) :
    ((left.ratio.1 * right.ratio.2 : Nat) / (left.ratio.2 * right.ratio.1 : Nat) : ℚ) =
      left.value / right.value := by
  rw [value, value, noSign, noSignToo]
  push_cast
  simp [div_div_div_eq]

/-- The quotient of two numbers without signs is the number nearest to that of their values. -/
theorem isNearest_of_div?
    {left right quotient : Double}
    (noSign : left.negative = false)
    (noSignToo : right.negative = false)
    (isDivided : left.div? right = some quotient) :
    quotient.negative = false ∧ IsNearest quotient (left.value / right.value) := by
  rw [div?] at isDivided
  split at isDivided
  · cases isDivided
  · rename_i notZero
    rw [noSign, noSignToo] at isDivided
    rw [← div_ratio noSign noSignToo]
    exact isNearest_of_ofRatio?
      (Nat.mul_pos left.ratio_snd_pos (ratio_fst_pos (by simpa using notZero))) isDivided

/-- There is a quotient of two numbers without signs if it is less than the first number beyond
a word. -/
theorem exists_div?
    {left right : Double}
    (noSign : left.negative = false)
    (noSignToo : right.negative = false)
    (notZero : right.isZero = false)
    (isSmall : left.value / right.value < 2 ^ 64) :
    ∃ quotient, left.div? right = some quotient := by
  rw [div?, if_neg (by rw [notZero]; decide)]
  refine exists_ofRatio? _ (Nat.mul_pos left.ratio_snd_pos (ratio_fst_pos notZero)) ?_
  rw [div_ratio noSign noSignToo]
  exact isSmall

end Double

end SourceFacts.Number
