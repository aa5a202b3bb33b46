import Retry.Sorting.Placement

/-!
# Stretches

How many items at one end of a run belong before an item of another run.  Few are
expected: the search looks at items ever farther from the end, at twice the distance
each time, and bisects between the last two it has looked at.
-/

namespace Retry
namespace Sorting

variable {α : Type}

/-- The end of two runs at which they are merged. -/
inductive RunEnd where
  | front
  | back
  deriving DecidableEq

namespace RunEnd

/-- The item that is looked at between two distances from an end.  Of two middle
ones it is the later one in the order of the run. -/
def middle
    (side : RunEnd)
    (low high : Nat) : Nat :=
  match side with
  | front => low + (high - low) / 2
  | back => high - 1 - (high - low) / 2

/-- The length of a stretch that lies between two lengths. -/
def bisect?
    (side : RunEnd)
    (leads : α → Option Bool)
    (items : List α)
    (low high : Nat) : Option Nat :=
  if low < high then do
    let middle := side.middle low high
    if ← leads (← items[middle]?) then bisect? side leads items (middle + 1) high
    else bisect? side leads items low middle
  else some low
termination_by high - low
decreasing_by all_goals cases side <;> simp only [RunEnd.middle] <;> omega

/-- The length of a stretch, searched from a distance on, where the item at another
distance is known to be part of it. -/
def widen?
    (side : RunEnd)
    (leads : α → Option Bool)
    (items : List α)
    (known distance : Nat) : Option Nat :=
  if distance < items.length then do
    if ← leads (← items[distance]?) then
      widen? side leads items distance (2 * distance + 1)
    else side.bisect? leads items (known + 1) distance
  else side.bisect? leads items (known + 1) (min distance items.length)
termination_by items.length - distance
decreasing_by omega

/-- The length of the stretch of items, from an end on, that lead. -/
def stretch?
    (side : RunEnd)
    (leads : α → Option Bool) : List α → Option Nat
  | [] => some 0
  | first :: rest => do
    if ← leads first then side.widen? leads (first :: rest) 0 1 else return 0

end RunEnd
end Sorting
end Retry
