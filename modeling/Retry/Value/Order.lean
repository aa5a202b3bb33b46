import Retry.Value

/-!
# Order of values

Budgets and bounds are compared as values are: numbers by exact value, texts by
code points, and lists by the first items that differ, or else by length.  Values
of different kinds, nulls and objects have no order.
-/

namespace Retry

/-- The two ways in which one value can be asked to precede another. -/
inductive Order where
  | below
  | atMost
  deriving DecidableEq

namespace Order

/-- Order of numbers. -/
def ofNumbers : Order → Number → Number → Bool
  | below, left, right => left.lt right
  | atMost, left, right => left.le right

/-- Order of texts. -/
def ofTexts : Order → String → String → Bool
  | below, left, right => left < right
  | atMost, left, right => left ≤ right

/-- Order of lengths. -/
def ofLengths : Order → Nat → Nat → Bool
  | below, left, right => left < right
  | atMost, left, right => left ≤ right

end Order

namespace Value

mutual

/-- Whether one value precedes another, if they have an order. -/
def ordered? (order : Order) : Value → Value → Option Bool
  | .number left, .number right => some (order.ofNumbers left right)
  | .list left, .list right => orderedItems? order left right
  | left, right => do some (order.ofTexts (← left.text?) (← right.text?))

/-- Whether one sequence precedes another: the first items that are not equal
decide, and where there are none the lengths. -/
def orderedItems? (order : Order) : List Value → List Value → Option Bool
  | left :: lefts, right :: rights =>
    if left.same right then orderedItems? order lefts rights
    else ordered? order left right
  | left, right => some (order.ofLengths left.length right.length)

end

@[simp] theorem ordered?_number_number
    (order : Order)
    (left right : Number) :
    ordered? order (.number left) (.number right) = some (order.ofNumbers left right) := by
  simp [ordered?]

theorem atMost_int_int
    (left right : Int) :
    (int left).ordered? .atMost (int right) = some (decide (left ≤ right)) := by
  rw [int, int, ordered?_number_number, Order.ofNumbers, Number.le_int_int]

end Value
end Retry
