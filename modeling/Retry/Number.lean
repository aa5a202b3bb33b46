import Retry.Binary64.Arithmetic
import Retry.Binary64.Decimal
import Retry.Binary64.Power

/-!
# Numbers

Attempt counts and delays are flags, integers of any size, or binary64 numbers.
The three mix freely: a flag counts as one or zero, comparison is by exact value
across kinds, and an operation that meets a binary64 number is carried out in
binary64 after converting the other operand.
-/

namespace Retry

/-- A flag, an integer, or a binary64 number. -/
inductive Number where
  | flag (value : Bool)
  | int (value : Int)
  | real (value : Binary64)
  deriving DecidableEq

/-- The exact place of a number on the extended line, in units of 2⁻¹⁰⁷⁴. -/
inductive Place where
  | unordered
  | belowAll
  | finite (units : Int)
  | aboveAll
  deriving DecidableEq

namespace Place

/-- Strict order of places; NaN's place is below and above nothing. -/
def lt : Place → Place → Bool
  | .finite left, .finite right => left < right
  | .belowAll, .finite _ | .belowAll, .aboveAll | .finite _, .aboveAll => true
  | _, _ => false

/-- Equality of places; NaN's place differs even from itself. -/
def same : Place → Place → Bool
  | .unordered, _ => false
  | left, right => left = right

/-- Order of places. -/
def le (left right : Place) : Bool :=
  left.lt right || left.same right

end Place

namespace Binary64

/-- Where a binary64 number lies. -/
def place : Binary64 → Place
  | .nan _ => .unordered
  | .signed negative rank _ =>
    if rank = infinityRank then if negative then .belowAll else .aboveAll
    else .finite (signedUnits negative rank)

end Binary64

namespace Number

/-- A flag as the integer it counts as. -/
def ofFlag (value : Bool) : Int := if value then 1 else 0

/-- Where a number lies. -/
def place : Number → Place
  | .flag value => .finite (ofFlag value * unitsPerOne)
  | .int value => .finite (value * unitsPerOne)
  | .real value => value.place

/-- Strict comparison by exact value. -/
def lt (left right : Number) : Bool := left.place.lt right.place

/-- Comparison by exact value. -/
def le (left right : Number) : Bool := left.place.le right.place

/-- Equality by exact value: a flag, an integer and a binary64 number can be
equal, and NaN equals nothing. -/
def same (left right : Number) : Bool := left.place.same right.place

/-- Whether two numbers are equal, or the very same: the latter holds of a NaN
and itself, but not of two NaNs. -/
def agrees (left right : Number) : Bool := left = right || left.same right

/-- Every number but zero and the flag false counts as true. -/
def isTruthy : Number → Bool
  | .flag value => value
  | .int value => value ≠ 0
  | .real (.nan _) => true
  | .real (.signed _ rank _) => rank ≠ 0

@[simp] theorem lt_int_int
    (left right : Int) :
    (int left).lt (int right) = decide (left < right) := by
  have unfolded : (int left).lt (int right) =
      decide (left * (unitsPerOne : Int) < right * unitsPerOne) := rfl
  rw [unfolded]
  exact decide_eq_decide.mpr (Int.mul_lt_mul_right unitsPerOne_pos)

@[simp] theorem same_int_int
    (left right : Int) :
    (int left).same (int right) = decide (left = right) := by
  have unfolded : (int left).same (int right) =
      decide (Place.finite (left * (unitsPerOne : Int)) = .finite (right * unitsPerOne)) := rfl
  rw [unfolded]
  refine decide_eq_decide.mpr ⟨fun equal => ?_, fun equal => by rw [equal]⟩
  injection equal with product
  exact Int.eq_of_mul_eq_mul_right (Int.ne_of_gt unitsPerOne_pos) product

@[simp] theorem le_int_int
    (left right : Int) :
    (int left).le (int right) = decide (left ≤ right) := by
  have byCases : (int left).le (int right) =
      ((int left).lt (int right) || (int left).same (int right)) := rfl
  rw [byCases, lt_int_int, same_int_int, ← Bool.decide_or]
  exact decide_eq_decide.mpr (by omega)

/-- A number as an integer, unless it is a binary64 number. -/
def toInt? : Number → Option Int
  | .flag value => some (ofFlag value)
  | .int value => some value
  | .real _ => none

/-- A number as a binary64 number, unless it is an integer out of range. -/
def toReal? : Number → Option Binary64
  | .flag value => Binary64.ofInt? (ofFlag value)
  | .int value => Binary64.ofInt? value
  | .real value => some value

/-- A number less one. -/
def pred : Number → Number
  | .flag value => .int (ofFlag value - 1)
  | .int value => .int (value - 1)
  | .real value => .real value.pred

/-- A number and one. -/
def succ : Number → Number
  | .flag value => .int (ofFlag value + 1)
  | .int value => .int (value + 1)
  | .real value => .real value.succ

/-- The product of two numbers, or nothing when an integer operand is out of
binary64 range. -/
def mul? (left right : Number) : Option Number :=
  match left.toInt?, right.toInt? with
  | some left, some right => some (.int (left * right))
  | _, _ => do
    let left ← left.toReal?
    let right ← right.toReal?
    some (.real (left.mul right))

/-- Two to the power of a number: an integer for a natural exponent, a binary64
number for any other.  There is none when a negative integer exponent is out of
binary64 range or a finite binary64 exponent is too large. -/
def twoPow? (exponent : Number) : Option Number :=
  match exponent.toInt? with
  | some (.ofNat exponent) => some (.int (Nat.pow 2 exponent))
  | _ => do
    let exponent ← exponent.toReal?
    let power ← exponent.twoPow?
    some (.real power)

/-- A number in decimal. -/
def text : Number → String
  | .flag true => "True"
  | .flag false => "False"
  | .int value => toString value
  | .real value => value.text

end Number
end Retry
