import Retry.Sorting.Merge

/-!
# Sorting

A list is cut into runs, short ones are brought to a least length, and neighbouring
runs are merged.  Which ones is decided by powers: of a cut between two runs, the
power is the place of the first binary digit in which the middles of the two differ,
as fractions of the whole.  Cuts of a high power are closed first, so that runs of
about one length are merged.
-/

namespace Retry
namespace Sorting

variable {α : Type}

/-- The least length of a run, for a list of some length: the length itself below 64,
else its part by a power of two, rounded up, that lies between 32 and 64. -/
def leastRun (length : Nat) : Nat :=
  let part := Nat.pow 2 (length.log2 - 5)
  (length + part - 1) / part

/-- The runs of a list, of a least length each but for the last. -/
def runs?
    (below : Comparison α)
    (least : Nat) : Nat → List α → Option (List (List α))
  | 0, _ => some []
  | steps + 1, items => do
    if items.isEmpty then return []
    let (run, rest) ← firstRun? below items
    let (run, rest) ← extended? below least run rest
    return run :: (← runs? below least steps rest)

/-- The power of the cut between two neighbouring runs: where the first one starts,
how long they are, and how long the whole is. -/
def cutPower (start first second whole : Nat) : Nat :=
  let middle := 2 * start + first
  let nextMiddle := middle + first + second
  ((List.range (whole.log2 + 2)).find? fun place =>
    middle * Nat.pow 2 place / whole ≠ nextMiddle * Nat.pow 2 place / whole).getD 0

/-- A run that waits to be merged, and the power of the cut behind it. -/
structure Waiting (α : Type) where
  items : List α
  power : Nat

/-- Runs that wait, the last one first, and the patience of the sort. -/
structure Stack (α : Type) where
  waiting : List (Waiting α)
  patience : Nat

namespace Stack

/-- The stack before the first run. -/
def empty : Stack α := ⟨[], longStretch⟩

/-- Merges the last two runs for as long as the cut between them has a power above a
given one. -/
def closeAbove?
    (below : Comparison α)
    (power patience : Nat) : List (Waiting α) → Option (Stack α)
  | top :: second :: rest =>
    if second.power ≤ power then some ⟨{ top with power } :: second :: rest, patience⟩
    else do
      let (items, patience) ← merged? below patience second.items top.items
      closeAbove? below power patience (⟨items, second.power⟩ :: rest)
  | [top] => some ⟨[{ top with power }], patience⟩
  | [] => some ⟨[], patience⟩
termination_by waiting => waiting.length

/-- The stack with one more run, after the cuts of a higher power have been closed. -/
def push?
    (below : Comparison α)
    (whole : Nat)
    (stack : Stack α)
    (run : List α) : Option (Stack α) := do
  let stack ← match stack.waiting with
    | [] => some stack
    | top :: rest =>
      let start := (rest.flatMap Waiting.items).length
      let power := cutPower start top.items.length run.length whole
      closeAbove? below power stack.patience stack.waiting
  return { stack with waiting := ⟨run, 0⟩ :: stack.waiting }

/-- All runs merged, the last two first, unless the one before them is shorter than
the last. -/
def close?
    (below : Comparison α)
    (patience : Nat) : List (Waiting α) → Option (List α)
  | top :: second :: third :: rest => do
    if third.items.length < top.items.length then
      let (items, patience) ← merged? below patience third.items second.items
      close? below patience (top :: ⟨items, 0⟩ :: rest)
    else
      let (items, patience) ← merged? below patience second.items top.items
      close? below patience (⟨items, 0⟩ :: third :: rest)
  | [top, second] => (·.1) <$> merged? below patience second.items top.items
  | [top] => some top.items
  | [] => some []
termination_by waiting => waiting.length

end Stack

/-- The items of a list in order, if the questions asked on the way have answers. -/
def sorted?
    (below : Comparison α)
    (items : List α) : Option (List α) := do
  let found ← runs? below (leastRun items.length) items.length items
  let stack ← found.foldlM (Stack.push? below items.length) Stack.empty
  Stack.close? below stack.patience stack.waiting

end Sorting
end Retry
