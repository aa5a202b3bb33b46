import Retry.Value.Sorted

/-!
# Markers

The names of the defaults bundles a builder has already taken in.  Names are texts,
kept in order and without repetition, so two equal sets of texts are equal values.
What else a caller names a bundle by is kept apart, in the order in which it came.
-/

namespace Retry

/-- A set of names: texts in increasing order, and other keys. -/
structure Markers where
  names : List String
  increasing : names.Pairwise (· < ·)
  others : List Value

namespace Markers

/-- A name put at its place in an increasing list. -/
def place (name : String) : List String → List String
  | [] => [name]
  | first :: rest =>
    if name < first then name :: first :: rest
    else if first < name then first :: place name rest
    else first :: rest

theorem mem_place
    (name other : String)
    (names : List String) :
    other ∈ place name names ↔ other = name ∨ other ∈ names := by
  induction names with
  | nil => simp [place]
  | cons first rest inductionHypothesis =>
    unfold place
    split
    · simp
    · rename_i notBefore
      split
      · simp [inductionHypothesis, or_left_comm]
      · rename_i notAfter
        have same : name = first :=
          String.le_antisymm (String.not_lt.mp notAfter) (String.not_lt.mp notBefore)
        simp [same]

theorem pairwise_place
    (name : String)
    (names : List String)
    (increasing : names.Pairwise (· < ·)) :
    (place name names).Pairwise (· < ·) := by
  induction names with
  | nil => simp [place]
  | cons first rest inductionHypothesis =>
    obtain ⟨firstBelow, restIncreasing⟩ := List.pairwise_cons.mp increasing
    unfold place
    split
    · rename_i before
      refine List.pairwise_cons.mpr ⟨?_, increasing⟩
      intro other member
      rcases List.mem_cons.mp member with rfl | member
      · exact before
      · exact String.lt_trans before (firstBelow other member)
    · split
      · rename_i after
        refine List.pairwise_cons.mpr ⟨?_, inductionHypothesis restIncreasing⟩
        intro other member
        rcases (mem_place name other rest).mp member with rfl | member
        · exact after
        · exact firstBelow other member
      · exact increasing

/-- No names. -/
def empty : Markers := ⟨[], List.Pairwise.nil, []⟩

/-- The set with one more text. -/
def insert
    (name : String)
    (markers : Markers) : Markers where
  names := place name markers.names
  increasing := pairwise_place name markers.names markers.increasing
  others := markers.others

/-- All names in the set. -/
def values (markers : Markers) : List Value :=
  markers.names.map .text ++ markers.others

/-- Whether a name is in the set. -/
def contains
    (markers : Markers)
    (name : Value) : Bool :=
  markers.values.any name.same

/-- The set with one more name, if that is a key. -/
def add?
    (name : Value)
    (markers : Markers) : Option Markers :=
  if !name.isKey then none
  else if markers.contains name then some markers
  else match name with
    | .text name => some (markers.insert name)
    | name => some { markers with others := markers.others ++ [name] }

/-- The set of the names in a list, if all are keys. -/
def ofValues? (names : List Value) : Option Markers :=
  names.foldlM (fun markers name => markers.add? name) empty

/-- The names in order, if they have one. -/
def sorted? (markers : Markers) : Option (List Value) :=
  if markers.others.isEmpty then some (markers.names.map .text)
  else Value.sorted? markers.values

/-- Equality of sets: each holds all names of the other. -/
def same (left right : Markers) : Bool :=
  left.values.all right.contains && right.values.all left.contains

@[simp] theorem contains_empty
    (name : Value) :
    empty.contains name = false := rfl

@[simp] theorem contains_text
    (markers : Markers)
    (name : String) :
    markers.contains (.text name) =
      (markers.names.contains name || markers.others.any (Value.same (.text name))) := by
  rw [contains, values, List.any_append, List.any_map, ← List.any_beq]
  congr 2
  funext other
  exact Value.same_text_text name other

@[simp] theorem contains_insert
    (markers : Markers)
    (name other : String) :
    (markers.insert name).contains (.text other) =
      (other == name || markers.contains (.text other)) := by
  rw [contains_text, contains_text, ← Bool.or_assoc]
  congr 1
  rw [Bool.eq_iff_iff]
  simp [insert, mem_place]

end Markers
end Retry
