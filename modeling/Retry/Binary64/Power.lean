import Retry.Binary64.Basic

/-!
# Powers of two in binary64

Two to the power of a binary64 number.  A whole exponent has an exact power as far
as the format reaches.  The power of a fractional exponent is the result of a fixed
course of binary64 operations, which is not always the number nearest the true
power; its last bit shows in delays, so the course itself is part of the behaviour.

The course multiplies the exponent by the natural logarithm of two, splits the
product into a whole number of 128ths of that logarithm and a small rest, looks the
power of the former up in a table and computes the exponential of the latter from a
polynomial.  Its numbers are finite throughout and are held as units, and each
operation is exact but for a single rounding at its end.
-/

namespace Retry
namespace Binary64
namespace Power

/-- The units of the number nearest a signed quotient of units. -/
def rounded
    (numerator : Int)
    (denominator : Nat) : Int :=
  signedUnits (decide (numerator < 0)) (nearestRank numerator.natAbs denominator)

/-- A sum, rounded. -/
def add (left right : Int) : Int :=
  rounded (left + right) 1

/-- A product, rounded. -/
def mul (left right : Int) : Int :=
  rounded (left * right) unitsPerOne

/-- A product with an addend, rounded once. -/
def mulAdd (left right addend : Int) : Int :=
  rounded (left * right + addend * unitsPerOne) unitsPerOne

/-- The units of an integer over a power of two. -/
def dyadic
    (numerator : Int)
    (places : Nat) : Int :=
  numerator * Nat.pow 2 (unitPlaces - places)

/-- A number times a power of two that the format can hold. -/
def scaled
    (value : Int)
    (exponent : Int) : Int :=
  value * Nat.pow 2 exponent.toNat / Nat.pow 2 (-exponent).toNat

/-- The integer part of a square root, found from its leading binary digit down
to its last: `root` holds the digits above place `bit`, and a digit is one when
the square of the digits so far still does not exceed `value`. -/
def squareRootFrom (value : Nat) : (bit : Nat) → (root : Nat) → Nat
  | 0, root => if (root + 1) * (root + 1) ≤ value then root + 1 else root
  | bit + 1, root =>
    let raised := root + Nat.pow 2 (bit + 1)
    squareRootFrom value bit (if raised * raised ≤ value then raised else root)

/-- The integer part of the square root. -/
def squareRoot (value : Nat) : Nat :=
  squareRootFrom value (value.log2 / 2) 0

/-- Fixed-point places carried while a root of two is computed: far more than a
table entry and its rest together can depend on. -/
def rootPlaces : Nat := 192

/-- In fixed point, the product of the roots 2^(1/2), 2^(1/4), 2^(1/8), …
selected by the leading binary digits of `fraction`, a fraction written in
`width` binary digits. -/
def rootsOfTwo
    (fraction : Nat) : (width : Nat) → (root product : Nat) → Nat
  | 0, _, product => product
  | width + 1, root, product =>
    let next := squareRoot (root * Nat.pow 2 rootPlaces)
    rootsOfTwo fraction width next
      (if fraction.testBit width then product * next / Nat.pow 2 rootPlaces else product)

/-- Binary digits of a step of the table, which has 128 of them. -/
def stepPlaces : Nat := 7

/-- Two to the power of a number of steps, in fixed point. -/
def powerOfSteps (steps : Nat) : Nat :=
  rootsOfTwo steps stepPlaces (2 * Nat.pow 2 rootPlaces) (Nat.pow 2 rootPlaces)

/-- The table: the number nearest two to the power of a number of steps. -/
def entry (steps : Nat) : Int :=
  rounded (powerOfSteps steps * unitsPerOne) (Nat.pow 2 rootPlaces)

/-- What a table entry lacks of the power it stands for, relative to the entry. -/
def entryRest (steps : Nat) : Int :=
  let held := entry steps * Nat.pow 2 rootPlaces
  rounded ((powerOfSteps steps * unitsPerOne - held) * unitsPerOne) held.natAbs

/-- The natural logarithm of two. -/
def logarithm : Int := dyadic 6243314768165359 53

/-- What `logarithm` lacks of the true one. -/
def logarithmRest : Int := dyadic 229667272307 93

/-- The number of steps whose powers multiply to the base of natural logarithms. -/
def stepsPerExponent : Int := dyadic 3248660424278399 44

/-- The logarithm of one step, to the places that its multiples can be exact in. -/
def stepLogarithm : Int := dyadic 47632711549 43

/-- What `stepLogarithm` lacks of the true one. -/
def stepLogarithmRest : Int := dyadic 8153543309409081 99

/-- The number of steps nearest a natural exponent. -/
def nearestSteps (exponent : Int) : Int :=
  let product := exponent * stepsPerExponent
  let steps : Int := roundHalfEven product.natAbs (unitsPerOne * unitsPerOne)
  if product < 0 then -steps else steps

/-- How far the exponential of a small number, to which the rest of a table entry is
added, lies above one. -/
def excess (small rest : Int) : Int :=
  let square := mul small small
  let second := mulAdd small (dyadic 1501199875790095 53) (dyadic 9007199254740413 54)
  let fourth := mulAdd small (dyadic 4803841055051799 59) (dyadic 6004801545907089 57)
  mulAdd (mul square square) fourth (mulAdd square second (add rest small))

/-- Exponents of this magnitude and larger lie where powers can be below the normal
range of the format. -/
def farExponent : Int := 512 * unitsPerOne

/-- One unit of the normal range's lower end counts as this power of two while a
power that may lie below it is computed. -/
def farShift : Nat := 1022

/-- A power that may lie below the normal range, from its two factors.  It is computed
far above the range, and rounded there to the places that it has below. -/
def farPower (scale excess : Int) : Int :=
  let product := mul scale excess
  let power := add scale product
  if power < unitsPerOne then
    let lost := add (add scale (-power)) product
    let high := add unitsPerOne power
    let low := add (add (add unitsPerOne (-high)) power) lost
    add (add high low) (-unitsPerOne)
  else power

/-- Two to the power of an exponent, both in units. -/
def course (exponent : Int) : Int :=
  let natural := mul exponent logarithm
  let naturalRest :=
    mulAdd exponent logarithmRest (mulAdd exponent logarithm (-natural))
  let steps := nearestSteps natural
  let small :=
    add (mulAdd (steps * unitsPerOne) (-stepLogarithmRest)
      (mulAdd (steps * unitsPerOne) (-stepLogarithm) natural)) naturalRest
  let index := (steps % Nat.pow 2 stepPlaces).toNat
  let doublings := steps / Nat.pow 2 stepPlaces
  let excess := excess small (entryRest index)
  if natural ≤ -farExponent then
    scaled (farPower (scaled (entry index) (doublings + farShift)) excess) (-farShift)
  else
    let scale := scaled (entry index) doublings
    mulAdd scale excess scale

end Power

/-- The rank nearest two to the power of a whole number.  Far outside the format's
range the answer is known without computing a power. -/
def wholePowerRank (exponent : Int) : Nat :=
  if 1024 ≤ exponent then infinityRank
  else if exponent < -1080 then 0
  else
    let places := exponent + unitPlaces
    nearestRank (Nat.pow 2 places.toNat) (Nat.pow 2 (-places).toNat)

/-- The rank of two to the power of an exponent in units. -/
def powerRank (exponent : Int) : Nat :=
  let whole := exponent / unitsPerOne
  if exponent % unitsPerOne = 0 ∨ 1024 ≤ whole ∨ whole < -1080 then wholePowerRank whole
  else nearestRank (Power.course exponent).natAbs 1

/-- Two to the power of a number, or nothing when a finite power is beyond the
largest finite magnitude. -/
def twoPow? : Binary64 → Option Binary64
  | .nan payload => some (.nan payload)
  | .signed negative rank _ =>
    if rank = infinityRank then
      some (if negative then zero else infinity false)
    else
      let power := powerRank (signedUnits negative rank)
      if h : power < infinityRank then some (.signed false power (Nat.le_of_lt h))
      else none

@[simp] theorem twoPow?_nan
    (payload : Nat) :
    twoPow? (nan payload) = some (nan payload) := rfl

end Binary64
end Retry
