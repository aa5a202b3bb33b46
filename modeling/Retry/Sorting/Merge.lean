import Retry.Sorting.Stretch

/-!
# Merging

Two neighbouring runs become one.  What is in its place already is left there, and
the rest is merged from the end at which the shorter run is used up.  Items are taken
one at a time until one run has given several in a row; then whole stretches are
taken, for as long as they are long.  How many in a row it takes is the patience of
the sort: it grows whenever stretches turn out short, and shrinks while they are long.
-/

namespace Retry
namespace Sorting

variable {α : Type}

/-- The items in a row that make a stretch long, and the patience a sort begins
with. -/
def longStretch : Nat := 7

/-- Two runs on their way into one.  Each begins with the item that is next from the
end at which they are merged. -/
structure Merging (α : Type) where
  left : List α
  right : List α
  /-- The items that have been taken, the last one first. -/
  taken : List α
  patience : Nat

namespace Merging

/-- Some items more of the left run are taken. -/
def takeLeft
    (count : Nat)
    (merging : Merging α) : Merging α :=
  { merging with
    left := merging.left.drop count
    taken := (merging.left.take count).reverse ++ merging.taken }

/-- Some items more of the right run are taken. -/
def takeRight
    (count : Nat)
    (merging : Merging α) : Merging α :=
  { merging with
    right := merging.right.drop count
    taken := (merging.right.take count).reverse ++ merging.taken }

/-- The run that gives the item taken last, and the one that gives the item taken
before all others. -/
def lastAndFirst
    (side : RunEnd)
    (merging : Merging α) : List α × List α :=
  match side with
  | .front => (merging.left, merging.right)
  | .back => (merging.right, merging.left)

/-- Whether the order of what is left is known: the item taken last comes behind all
others. -/
def isSettled
    (side : RunEnd)
    (merging : Merging α) : Bool :=
  let (last, first) := merging.lastAndFirst side
  last.length ≤ 1 || first.isEmpty

/-- All items, in the order in which they are taken. -/
def items
    (side : RunEnd)
    (merging : Merging α) : List α :=
  let (last, first) := merging.lastAndFirst side
  merging.taken.reverse ++ first ++ last

/-- Whether an item of the right run is taken before one of the left run: equal items
stay as they are. -/
def rightLeads?
    (below : Comparison α)
    (side : RunEnd)
    (right left : α) : Option Bool := do
  return (← below right left) != (side == .back)

/-- How the next items are taken: one at a time, where the runs have given some in a
row, or in stretches. -/
inductive Pace where
  | single (lefts rights : Nat)
  | stretches

/-- The pace once the runs have given some items in a row. -/
def pace
    (lefts rights : Nat)
    (merging : Merging α) : Pace :=
  if merging.patience ≤ max lefts rights then .stretches else .single lefts rights

/-- One item is taken. -/
def single?
    (below : Comparison α)
    (side : RunEnd)
    (lefts rights : Nat)
    (merging : Merging α) : Option (Merging α × Pace) := do
  if ← rightLeads? below side (← merging.right.head?) (← merging.left.head?) then
    return (merging.takeRight 1, merging.pace 0 (rights + 1))
  else return (merging.takeLeft 1, merging.pace (lefts + 1) 0)

/-- The items of the left run that are taken before the next one of the right run,
and that one. -/
def leftStretch?
    (below : Comparison α)
    (side : RunEnd)
    (merging : Merging α) : Option (Merging α × Nat) := do
  let next ← merging.right.head?
  let count ← side.stretch? (fun left => (! ·) <$> rightLeads? below side next left) merging.left
  let merging := merging.takeLeft count
  return (if merging.isSettled side then merging else merging.takeRight 1, count)

/-- The items of the right run that are taken before the next one of the left run,
and that one. -/
def rightStretch?
    (below : Comparison α)
    (side : RunEnd)
    (merging : Merging α) : Option (Merging α × Nat) := do
  let next ← merging.left.head?
  let count ← side.stretch? (fun right => rightLeads? below side right next) merging.right
  let merging := merging.takeRight count
  return (if merging.isSettled side then merging else merging.takeLeft 1, count)

/-- A stretch of each run is taken.  Where both are short, the next items are taken
one at a time, with more patience; else with less, but never none. -/
def stretches?
    (below : Comparison α)
    (side : RunEnd)
    (merging : Merging α) : Option (Merging α × Pace) := do
  let (merging, lefts) ← merging.leftStretch? below side
  if merging.isSettled side then return (merging, .stretches)
  let (merging, rights) ← merging.rightStretch? below side
  if merging.isSettled side then return (merging, .stretches)
  if longStretch ≤ max lefts rights then
    return ({ merging with patience := max 1 (merging.patience - 1) }, .stretches)
  else return ({ merging with patience := merging.patience + 1 }, .single 0 0)

/-- Items are taken until the order of the others is known.  Every step takes one at
least, so that as many steps as there are items will do. -/
def settled?
    (below : Comparison α)
    (side : RunEnd) : Nat → Pace → Merging α → Option (Merging α)
  | 0, _, merging => some merging
  | steps + 1, pace, merging =>
    if merging.isSettled side then some merging
    else do
      let (merging, pace) ← match pace with
        | .single lefts rights => merging.single? below side lefts rights
        | .stretches => merging.stretches? below side
      settled? below side steps pace merging

end Merging

/-- Two runs merged from their front, where the first item of the right run comes
before all others and the last one of the left run behind them. -/
def mergedFromFront?
    (below : Comparison α)
    (patience : Nat)
    (left right : List α) : Option (List α × Nat) := do
  let start := Merging.takeRight 1 ⟨left, right, [], patience⟩
  let done ← start.settled? below .front (left.length + right.length) (.single 0 0)
  return (done.items .front, done.patience)

/-- Two such runs merged from their back. -/
def mergedFromBack?
    (below : Comparison α)
    (patience : Nat)
    (left right : List α) : Option (List α × Nat) := do
  let start := Merging.takeLeft 1 ⟨left.reverse, right.reverse, [], patience⟩
  let done ← start.settled? below .back (left.length + right.length) (.single 0 0)
  return ((done.items .back).reverse, done.patience)

/-- Two neighbouring runs merged, and the patience that is left. -/
def merged?
    (below : Comparison α)
    (patience : Nat)
    (left right : List α) : Option (List α × Nat) := do
  let first ← right.head?
  let inPlace ← RunEnd.front.stretch? (fun item => (! ·) <$> below first item) left
  let (before, left) := left.splitAt inPlace
  match left.getLast? with
  | none => return (before ++ right, patience)
  | some last =>
    let inPlace ← RunEnd.back.stretch? (fun item => (! ·) <$> below item last) right.reverse
    let (right, behind) := right.splitAt (right.length - inPlace)
    if right.isEmpty then return (before ++ left ++ behind, patience)
    let (middle, patience) ←
      if left.length ≤ right.length then mergedFromFront? below patience left right
      else mergedFromBack? below patience left right
    return (before ++ middle ++ behind, patience)

end Sorting
end Retry
