import Retry.Fault
import Retry.Value.Order

/-!
# Backoff

The wait before the next attempt: a base delay doubled for every attempt after
the first, and never more than a bound.  The bound is applied to the computed
delay, so an attempt number too large for the doubling is a fault and not a
bounded delay.

A strategy made directly from its fields may hold any values for its delays.  A
text or a list as base delay is repeated in place of being multiplied, and the
bound is compared with it in the order of texts or lists.
-/

namespace Retry

/-- A value as a number. -/
def Value.asNumber : Value → Except Fault Number
  | .number n => .ok n
  | _ => .error .incompatible

/-- The largest number of items that a sequence can have. -/
def sequenceLimit : Nat := Nat.pow 2 63 - 1

/-- The largest number of items that memory is taken to have room for. -/
def memoryLimit : Nat := Nat.pow 2 34

/-- How often a sequence may be repeated: at most as often as a sequence can have
items, and, unless it is empty, within memory.  Texts are checked against both
limits; a list that is too long for a sequence has no room in memory either. -/
def checkRepetition
    (isText : Bool)
    (length count : Nat) : Except Fault Unit :=
  if sequenceLimit < count then .error .outOfRange
  else if isText && sequenceLimit < length * count then .error .outOfRange
  else if memoryLimit < length * count then .error .outOfMemory
  else .ok ()

/-- A text repeated. -/
def repeatedText
    (text : String)
    (count : Nat) : Except Fault Value := do
  checkRepetition true text.length count
  return .text (if text.isEmpty then text else String.join (List.replicate count text))

/-- A list repeated. -/
def repeatedList
    (items : List Value)
    (count : Nat) : Except Fault Value := do
  checkRepetition false items.length count
  return .list (if items.isEmpty then items else (List.replicate count items).flatten)

/-- A base delay times a growth.  Texts, modes as their names, and lists are
repeated; only an integer can say how often. -/
def scaled
    (base : Value)
    (growth : Number) : Except Fault Value :=
  match base with
  | .number base => .number <$> inRange (base.mul? growth)
  | .text text => do repeatedText text (← compatible growth.toInt?).toNat
  | .mode mode => do repeatedText mode.name (← compatible growth.toInt?).toNat
  | .list items => do repeatedList items (← compatible growth.toInt?).toNat
  | .null | .object _ | .foreign _ => .error .incompatible

/-- The delay after an attempt: `base` times two to the power of the attempts
before it, or `bound` where that is not above the product. -/
def backoff
    (base bound attempt : Value) : Except Fault Value := do
  let attempt ← attempt.asNumber
  let growth ← inRange attempt.pred.twoPow?
  let delay ← scaled base growth
  return if ← compatible (delay.ordered? .below bound) then delay else bound

end Retry
