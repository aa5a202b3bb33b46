/-!
# Binary64 numbers

Delays are IEEE 754 binary64 numbers, and their exact bits are part of every
answer.  A number is held as a sign and the *rank* of its magnitude: counting
the magnitudes upward from zero, the magnitude of rank `r` is the one whose bit
pattern without the sign bit is the integer `r`.  Ranks are therefore ordered as
the magnitudes are, and rounding is rounding of ranks.

Every finite magnitude is a whole number of *units* of 2⁻¹⁰⁷⁴, so exact values
are integers and no rational arithmetic is needed.
-/

namespace Retry

/-- The rank of infinity, one above the rank of the largest finite magnitude. -/
def infinityRank : Nat := 2047 * Nat.pow 2 52

/-- A unit is two to the power of minus this. -/
def unitPlaces : Nat := 1074

/-- How many units make one. -/
def unitsPerOne : Nat := Nat.pow 2 unitPlaces

theorem unitsPerOne_pos : (0 : Int) < unitsPerOne := by
  apply Int.natCast_pos.mpr
  unfold unitsPerOne
  generalize unitPlaces = places
  exact Nat.two_pow_pos places

/-- A binary64 number.  The payload of a NaN tells it from other NaNs; it has no
part in arithmetic or comparison. -/
inductive Binary64 where
  | nan (payload : Nat)
  | signed (negative : Bool) (rank : Nat) (rank_le : rank ≤ infinityRank)
  deriving DecidableEq

namespace Binary64

/-- The units in the magnitude of a finite rank. -/
def units (rank : Nat) : Nat :=
  let exponent := rank / Nat.pow 2 52
  let fraction := rank % Nat.pow 2 52
  if exponent = 0 then fraction else (Nat.pow 2 52 + fraction) * Nat.pow 2 (exponent - 1)

/-- Only the lowest rank is that of a magnitude without units. -/
theorem units_eq_zero_iff
    {rank : Nat} :
    units rank = 0 ↔ rank = 0 := by
  have whole : Nat.pow 2 52 * (rank / Nat.pow 2 52) + rank % Nat.pow 2 52 = rank :=
    Nat.div_add_mod ..
  rw [units]
  split
  · rename_i subnormal
    rw [subnormal, Nat.mul_zero, Nat.zero_add] at whole
    rw [whole]
  · rename_i normal
    have scaled : 0 < Nat.pow 2 52 + rank % Nat.pow 2 52 :=
      Nat.add_pos_left (Nat.two_pow_pos 52) _
    have positive := Nat.mul_pos scaled (Nat.two_pow_pos (rank / Nat.pow 2 52 - 1))
    constructor
    · intro noUnits
      exact absurd noUnits (Nat.ne_of_gt positive)
    · rintro rfl
      exact absurd (Nat.zero_div _) normal

/-- The integer nearest a quotient, the even one of two that are equally near. -/
def roundHalfEven (numerator denominator : Nat) : Nat :=
  let quotient := numerator / denominator
  let remainder := numerator % denominator
  if 2 * remainder < denominator then quotient
  else if denominator < 2 * remainder then quotient + 1
  else quotient + quotient % 2

/-- The rank nearest a magnitude given as a quotient of units.  Above 2⁵³ units
neighbouring magnitudes lie 2, 4, 8, … units apart, and `scale` counts those
doublings; a magnitude beyond the largest finite one takes the rank of infinity. -/
def nearestRank (numerator denominator : Nat) : Nat :=
  let whole := numerator / denominator
  let scale := if whole < Nat.pow 2 53 then 0 else whole.log2 - 52
  min infinityRank
    (scale * Nat.pow 2 52 + roundHalfEven numerator (denominator * Nat.pow 2 scale))

theorem nearestRank_le
    (numerator denominator : Nat) :
    nearestRank numerator denominator ≤ infinityRank :=
  Nat.min_le_left ..

/-- The number nearest a signed quotient of units. -/
def nearest
    (negative : Bool)
    (numerator denominator : Nat) : Binary64 :=
  .signed negative (nearestRank numerator denominator)
    (nearestRank_le numerator denominator)

/-- The NaN of an operation that has no result. -/
def invalid : Binary64 := .nan 0

/-- Positive zero. -/
def zero : Binary64 := .signed false 0 (Nat.zero_le _)

/-- Infinity of the given sign. -/
def infinity (negative : Bool) : Binary64 :=
  .signed negative infinityRank (Nat.le_refl _)

/-- The units of a signed finite rank. -/
def signedUnits (negative : Bool) (rank : Nat) : Int :=
  if negative then -(units rank : Int) else units rank

/-- The finite number nearest an integer, or nothing when the integer rounds
beyond the largest finite magnitude. -/
def ofInt? (value : Int) : Option Binary64 :=
  let rank := nearestRank (value.natAbs * unitsPerOne) 1
  if rank = infinityRank then none
  else some (nearest (decide (value < 0)) (value.natAbs * unitsPerOne) 1)

/-- The 64 bits of a number read as an integer, and nothing for NaN. -/
def bits? : Binary64 → Option Nat
  | .nan _ => none
  | .signed negative rank _ => some (rank + if negative then Nat.pow 2 63 else 0)

@[simp] theorem bits?_nan
    (payload : Nat) :
    (nan payload).bits? = none := rfl

end Binary64
end Retry
