/-!
# Placement

Items are sorted by asking of two at a time whether the one belongs strictly before
the other.  The question may have no answer, and then the items cannot be sorted.
It may also be answered without regard to any order, as for a NaN and its
neighbours; such items stay where the course of questions leaves them, so the course
is fixed here.  A run, of items that never descend or always descend, is taken as it
is; a further item is placed by bisection.
-/

namespace Retry
namespace Sorting

variable {α : Type}

/-- The question whether one item belongs strictly before another. -/
abbrev Comparison (α : Type) := α → α → Option Bool

/-- The items from the first on, up to where they stop to descend, or not to, and
the rest. -/
def splitRun?
    (below : Comparison α)
    (descending : Bool)
    (previous : α) : List α → Option (List α × List α)
  | [] => some ([], [])
  | item :: rest => do
    if (← below item previous) = descending then
      let (run, others) ← splitRun? below descending item rest
      return (item :: run, others)
    else return ([], item :: rest)

/-- The first run of a list, turned if it descends, and the rest. -/
def firstRun? (below : Comparison α) : List α → Option (List α × List α)
  | first :: second :: rest => do
    let descending ← below second first
    let (run, others) ← splitRun? below descending first (second :: rest)
    return (if descending then (first :: run).reverse else first :: run, others)
  | items => some (items, [])

/-- Where an item belongs among sorted ones, between two positions: behind all that
it is not below. -/
def position?
    (below : Comparison α)
    (item : α)
    (sorted : List α)
    (low high : Nat) : Option Nat :=
  if low < high then do
    let middle := (low + high) / 2
    if ← below item (← sorted[middle]?) then position? below item sorted low middle
    else position? below item sorted (middle + 1) high
  else some low
termination_by high - low

/-- An item put at its place among sorted ones. -/
def placed?
    (below : Comparison α)
    (sorted : List α)
    (item : α) : Option (List α) := do
  let place ← position? below item sorted 0 sorted.length
  return sorted.take place ++ item :: sorted.drop place

/-- A run brought to a least length by items of the rest, as far as there are any,
and what is left of the rest. -/
def extended?
    (below : Comparison α)
    (least : Nat)
    (run rest : List α) : Option (List α × List α) := do
  let wanted := least - run.length
  return (← (rest.take wanted).foldlM (placed? below) run, rest.drop wanted)

end Sorting
end Retry
