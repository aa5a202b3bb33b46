import Retry.Binary64.Decimal
import Retry.Settings.Error
import Retry.Text.Blank

/-!
# Integers in settings

An integer is plainly written as an optional minus and digits that do not begin
with a superfluous zero.  A text that is not plainly written is tidied once and
read again: white space around it, a sign, leading zeros, single underscores and a
fraction of zeros may all be dropped.  Only a text that begins like a plain integer
of too many digits, before it is tidied, is told its size; every other refusal says
that there is no integer.
-/

namespace Retry
namespace Settings

/-- The most digits an integer may be written with. -/
def maxDigits : Nat := 4300

/-- The value of a sequence of digits. -/
def digitsValue (digits : List Char) : Nat :=
  digits.foldl (fun value digit => value * 10 + (digit.toNat - '0'.toNat)) 0

/-- A minus taken off the front: whether there was one, and the rest. -/
def splitMinus : List Char → Bool × List Char
  | '-' :: rest => (true, rest)
  | rest => (false, rest)

/-- Whether a text begins like a plain integer of more digits than allowed. -/
def isOversize (chars : List Char) : Bool :=
  let digits := (splitMinus chars).2.takeWhile Char.isDigit
  digits.head? != some '0' && maxDigits < digits.length

/-- Whether digits are those of a plain integer: there are some, and they do not
begin with a zero unless it is the only digit. -/
def isPlain (digits : List Char) : Bool :=
  !digits.isEmpty && digits.all Char.isDigit &&
    (digits.head? != some '0' || digits.length == 1)

/-- The integer a text plainly stands for, if it is one of an allowed size. -/
def plainInteger? (chars : List Char) : Option Int :=
  let (negative, digits) := splitMinus chars
  if isPlain digits && !isOversize chars then
    some (if negative then -(digitsValue digits : Int) else digitsValue digits)
  else none

/-- An unsigned text without its leading zeros and the underscores among them.
Where nothing or a point follows them the last of them stays; else a digit or a
minus has to follow.  A text that begins otherwise than with a digit is none. -/
def withoutLeadingZeros? (chars : List Char) : Option (List Char) :=
  if chars.head? = some '0' then
    let run := chars.takeWhile fun c => c == '0' || c == '_'
    match chars.drop run.length with
    | [] => some run.getLast?.toList
    | c :: rest =>
      if c = '.' then some (run.getLast?.toList ++ c :: rest)
      else if c.isDigit || c == '-' then some (c :: rest)
      else none
  else if chars.head?.any Char.isDigit then some chars
  else none

/-- The part before the first point, where zeros and nothing else follow it. -/
def withoutZeroFraction (chars : List Char) : List Char :=
  let whole := chars.takeWhile (· != '.')
  let fraction := chars.drop (whole.length + 1)
  if !fraction.isEmpty && fraction.all (· == '0') then whole else chars

/-- Whether one underscore directly follows another. -/
def hasAdjacentUnderscores : List Char → Bool
  | first :: second :: rest =>
    (first == '_' && second == '_') || hasAdjacentUnderscores (second :: rest)
  | _ => false

/-- Underscores dropped, where none of them is first, last, or next to another. -/
def withoutUnderscores (chars : List Char) : List Char :=
  if chars.head? == some '_' || chars.getLast? == some '_' || hasAdjacentUnderscores chars then
    chars
  else chars.filter (· != '_')

/-- A text without the liberties it may be written with, if it begins like an
integer once it is trimmed.  A plus is dropped; a minus is put back before what is
left, which may have a minus of its own behind its leading zeros. -/
def tidied? (chars : List Char) : Option (List Char) :=
  let (negative, unsigned) := Decimal.splitSign (Text.trim Text.isWhiteSpace chars)
  (withoutLeadingZeros? unsigned).map fun digits =>
    (if negative then ['-'] else []) ++ withoutUnderscores (withoutZeroFraction digits)

/-- The integer a text stands for. -/
def readInteger (text : String) : Except SettingError Int :=
  let chars := text.toList
  if isOversize chars then .error .oversize
  else match (plainInteger? chars).or ((tidied? chars).bind plainInteger?) with
    | some value => .ok value
    | none => .error .notInteger

end Settings
end Retry
