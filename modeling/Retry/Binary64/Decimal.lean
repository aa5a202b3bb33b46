import Retry.Binary64.Basic
import Retry.Text.Blank
import Retry.Text.Digit

/-!
# Binary64 numbers in decimal

Reading rounds an exact decimal to the nearest number.  Writing finds the
fewest digits that read back, and among decimals with that many digits the one
nearest the number.
-/

namespace Retry

/-- The decimal `coefficient × 10 ^ exponent`. -/
structure Decimal where
  coefficient : Nat
  exponent : Int
  deriving DecidableEq

namespace Decimal

/-- The decimal digits of the coefficient, most significant first. -/
def digits (decimal : Decimal) : List Char :=
  Nat.toDigits 10 decimal.coefficient

/-- The power of ten just above the decimal: it lies below `10 ^ point`, and at
or above `10 ^ (point - 1)` unless it is zero. -/
def point (decimal : Decimal) : Int :=
  decimal.digits.length + decimal.exponent

/-- The magnitude as a quotient of binary64 units. -/
def quotient (decimal : Decimal) : Nat × Nat :=
  if 0 ≤ decimal.exponent then
    (decimal.coefficient * Nat.pow 10 decimal.exponent.toNat * unitsPerOne, 1)
  else (decimal.coefficient * unitsPerOne, Nat.pow 10 (-decimal.exponent).toNat)

/-- The rank nearest the decimal.  Every decimal from 10³¹⁰ up is nearest to
infinity and every one below 10⁻³³⁰ to zero, whatever its digits are. -/
def rank (decimal : Decimal) : Nat :=
  if decimal.coefficient = 0 ∨ decimal.point < -330 then 0
  else if 310 < decimal.point then infinityRank
  else Binary64.nearestRank decimal.quotient.1 decimal.quotient.2

theorem rank_le
    (decimal : Decimal) :
    decimal.rank ≤ infinityRank := by
  unfold rank
  split
  · exact Nat.zero_le _
  · split
    · exact Nat.le_refl _
    · exact Binary64.nearestRank_le ..

/-- The number nearest the decimal, with the given sign. -/
def toBinary64
    (negative : Bool)
    (decimal : Decimal) : Binary64 :=
  .signed negative decimal.rank decimal.rank_le

end Decimal

namespace Binary64

/-- The power of ten just above a magnitude, read off the digits of its integer
part after a shift that leaves every magnitude above one. -/
def decimalPoint (units : Nat) : Int :=
  (Nat.toDigits 10 (units * Nat.pow 10 400 / unitsPerOne)).length - 400

/-- The decimal nearest a magnitude among its two neighbours on the grid of
multiples of `10 ^ exponent` that read back as `rank`, if one does.  Of two that
are equally near, the one with the even coefficient is preferred. -/
def onGrid?
    (rank : Nat)
    (exponent : Int) : Option Decimal :=
  let numerator := units rank * Nat.pow 10 (-exponent).toNat
  let denominator := unitsPerOne * Nat.pow 10 exponent.toNat
  let below := numerator / denominator
  let nearer := roundHalfEven numerator denominator
  let farther := if nearer = below then below + 1 else below
  [nearer, farther].findSome? fun coefficient =>
    let decimal : Decimal := ⟨coefficient, exponent⟩
    if decimal.rank = rank then some decimal else none

/-- The shortest decimal of a finite magnitude; seventeen digits always
suffice. -/
def shortest (rank : Nat) : Decimal :=
  let point := decimalPoint (units rank)
  ((List.range 17).findSome? fun (more : Nat) => onGrid? rank (point - (more + 1 : Nat))).getD ⟨0, 0⟩

/-- Digits written with a point for magnitudes from 10⁻⁴ up to 10¹⁶. -/
def positional
    (digits : List Char)
    (point : Int) : List Char :=
  if point ≤ 0 then
    '0' :: '.' :: (List.replicate (-point).toNat '0' ++ digits)
  else
    let place := point.toNat
    if digits.length ≤ place then
      digits ++ List.replicate (place - digits.length) '0' ++ ['.', '0']
    else digits.take place ++ '.' :: digits.drop place

/-- Digits written with one digit before the point and a signed exponent of at
least two digits. -/
def scientific
    (digits : List Char)
    (point : Int) : List Char :=
  let exponent := point - 1
  let exponentDigits := Nat.toDigits 10 exponent.natAbs
  let fraction := digits.drop 1
  digits.take 1 ++ (if fraction.isEmpty then [] else '.' :: fraction) ++
    ['e', if exponent < 0 then '-' else '+'] ++
    List.replicate (2 - exponentDigits.length) '0' ++ exponentDigits

/-- Trailing zeros of a digit sequence dropped. -/
def withoutTrailingZeros (digits : List Char) : List Char :=
  (digits.reverse.dropWhile (· == '0')).reverse

/-- A magnitude in decimal. -/
def magnitudeText (rank : Nat) : List Char :=
  if rank = infinityRank then "inf".toList
  else if rank = 0 then "0.0".toList
  else
    let decimal := shortest rank
    let digits := withoutTrailingZeros decimal.digits
    if -4 < decimal.point ∧ decimal.point ≤ 16 then positional digits decimal.point
    else scientific digits decimal.point

/-- A number in decimal. -/
def text : Binary64 → String
  | .nan _ => "nan"
  | .signed negative rank _ =>
    String.ofList ((if negative then ['-'] else []) ++ magnitudeText rank)

end Binary64

namespace Decimal

/-- The value of a sequence of decimal digits, if it is one and not empty. -/
def digitsValue? (digits : List Char) : Option Nat :=
  if !digits.isEmpty && digits.all Char.isDigit then
    some (digits.foldl (fun value digit => value * 10 + (digit.toNat - '0'.toNat)) 0)
  else none

/-- An optional sign taken off the front: whether it was a minus, and the rest. -/
def splitSign : List Char → Bool × List Char
  | '-' :: rest => (true, rest)
  | '+' :: rest => (false, rest)
  | rest => (false, rest)

/-- The exponent written after the mark `e`, zero where there is no mark. -/
def exponentValue? : List Char → Option Int
  | [] => some 0
  | _ :: rest =>
    let (negative, digits) := splitSign rest
    (digitsValue? digits).map fun value => if negative then -(value : Int) else value

/-- Whether every underscore stands between two digits, in a text that follows the
character `previous`. -/
def separatesDigits : (previous : Char) → List Char → Bool
  | _, [] => true
  | previous, c :: rest =>
    (c != '_' || previous.isDigit && rest.head?.any Char.isDigit) && separatesDigits c rest

/-- A text without the underscores that separate its digits, if all of them do. -/
def withoutSeparators? (chars : List Char) : Option (List Char) :=
  if separatesDigits ' ' chars then some (chars.filter (· != '_')) else none

/-- An unsigned decimal: digits, an optional point with more digits on at least
one of its sides, and an optional exponent. -/
def ofChars? (chars : List Char) : Option Decimal := do
  let mantissa := chars.takeWhile fun c => c != 'e' && c != 'E'
  let exponent ← exponentValue? (chars.drop mantissa.length)
  let whole := mantissa.takeWhile (· != '.')
  let fraction := (mantissa.drop whole.length).drop 1
  let coefficient ← digitsValue? (whole ++ fraction)
  some ⟨coefficient, exponent - fraction.length⟩

end Decimal

namespace Binary64

/-- The number that a word stands for: an infinity, or the NaN with the given
payload. -/
def ofWord?
    (negative : Bool)
    (payload : Nat)
    (word : String) : Option Binary64 :=
  if word = "inf" ∨ word = "infinity" then some (infinity negative)
  else if word = "nan" then some (.nan payload)
  else none

/-- The number a text stands for, white space around it apart: a word in any case, or
a decimal, whose digits may be of any script and separated by underscores.  A NaN
takes the given payload. -/
def ofText?
    (payload : Nat)
    (text : String) : Option Binary64 :=
  let chars := (Text.trim Text.isWhiteSpace text.toList).map Text.plainDigit
  let (negative, rest) := Decimal.splitSign chars
  (ofWord? negative payload (String.ofList (rest.map Char.toLower))).or
    (((Decimal.withoutSeparators? rest).bind Decimal.ofChars?).map
      (Decimal.toBinary64 negative))

end Binary64
end Retry
