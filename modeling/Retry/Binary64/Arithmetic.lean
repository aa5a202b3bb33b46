import Retry.Binary64.Basic

/-!
# Binary64 arithmetic

The operations a delay is computed with besides powers: product, and moving by
one.  Each is rounded once, from the exact result.
-/

namespace Retry
namespace Binary64

/-- The product of two numbers, correctly rounded.  A NaN is passed on, the left
one of two. -/
def mul : Binary64 → Binary64 → Binary64
  | .nan payload, _ | .signed _ _ _, .nan payload => .nan payload
  | .signed leftNegative left _, .signed rightNegative right _ =>
    if left = infinityRank ∨ right = infinityRank then
      if left = 0 ∨ right = 0 then invalid else infinity (leftNegative != rightNegative)
    else nearest (leftNegative != rightNegative) (units left * units right) unitsPerOne

/-- A number moved by a whole number of units, correctly rounded; a sum that is
exactly zero is positive zero. -/
def addUnits
    (amount : Int) : Binary64 → Binary64
  | .nan payload => .nan payload
  | .signed negative rank rank_le =>
    if rank = infinityRank then .signed negative rank rank_le
    else
      let sum := signedUnits negative rank + amount
      nearest (decide (sum < 0)) sum.natAbs 1

/-- A number less one. -/
def pred (value : Binary64) : Binary64 := addUnits (-unitsPerOne) value

/-- A number and one. -/
def succ (value : Binary64) : Binary64 := addUnits unitsPerOne value

@[simp] theorem mul_nan_left
    (payload : Nat)
    (right : Binary64) :
    mul (nan payload) right = nan payload := by
  cases right <;> rfl

@[simp] theorem mul_nan_right
    (negative : Bool)
    (rank : Nat)
    (rank_le : rank ≤ infinityRank)
    (payload : Nat) :
    mul (signed negative rank rank_le) (nan payload) = nan payload := rfl

@[simp] theorem addUnits_nan
    (amount : Int)
    (payload : Nat) :
    addUnits amount (nan payload) = nan payload := rfl

end Binary64
end Retry
