import Retry.Fault

/-!
# Attributes

Objects that are not sealed take values under names of a user's choosing.  A value
kept under the name of an operation hides the operation: calling it then means to
call the value, which no value supplied by a user stands for.  A value kept under
the name of a place, where an object keeps what it is made of, stands in that place
until the object puts something else there.
-/

namespace Retry

/-- What stands in a place of an object: what the object put there, or a value that a
user put there. -/
inductive Content (α : Type) where
  | own (content : α)
  | value (value : Value)

/-- The values kept with an object, each name once, and the places of the object that
lost what the object put there. -/
structure Attributes where
  entries : List (String × Value)
  lost : List String

namespace Attributes

/-- No values, and every place as the object left it. -/
def empty : Attributes := ⟨[], []⟩

/-- The value kept under a name. -/
def find?
    (attributes : Attributes)
    (name : String) : Option Value :=
  attributes.entries.lookup name

/-- Keeps a value under a name, in place of the one kept there before. -/
def set
    (attributes : Attributes)
    (name : String)
    (value : Value) : Attributes :=
  { attributes with
    entries := (name, value) :: attributes.entries.filter fun entry => entry.1 != name }

/-- Leaves a place to what the object puts there. -/
def restore
    (attributes : Attributes)
    (place : String) : Attributes where
  entries := attributes.entries.filter fun entry => entry.1 != place
  lost := attributes.lost.filter (· != place)

/-- What stands in a place where the object put the given content, if anything does. -/
def content
    {α : Type}
    (attributes : Attributes)
    (place : String)
    (own : α) : Except Fault (Content α) :=
  match attributes.find? place with
  | some value => .ok (.value value)
  | none => if attributes.lost.contains place then .error .missingMember else .ok (.own own)

/-- The value that stands in a place where the object put a value. -/
def value
    (attributes : Attributes)
    (place : String)
    (own : Value) : Except Fault Value := do
  match ← attributes.content place own with
  | .own value | .value value => return value

/-- Whether an operation is hidden. -/
def hides
    (attributes : Attributes)
    (operation : String) : Bool :=
  (attributes.find? operation).isSome

/-- Passes where none of some operations is hidden. -/
def reach
    (attributes : Attributes)
    (operations : List String) : Except Fault Unit :=
  if operations.any attributes.hides then .error .incompatible else .ok ()

@[simp] theorem find?_empty
    (name : String) :
    empty.find? name = none := rfl

@[simp] theorem content_empty
    {α : Type}
    (place : String)
    (own : α) :
    empty.content place own = .ok (.own own) := rfl

@[simp] theorem value_empty
    (place : String)
    (own : Value) :
    empty.value place own = .ok own := rfl

@[simp] theorem reach_empty
    (operations : List String) :
    empty.reach operations = .ok () := by
  simp [reach, hides]

@[simp] theorem find?_set_self
    (attributes : Attributes)
    (name : String)
    (value : Value) :
    (attributes.set name value).find? name = some value := by
  simp [set, find?]

@[simp] theorem content_set_self
    {α : Type}
    (attributes : Attributes)
    (place : String)
    (value : Value)
    (own : α) :
    (attributes.set place value).content place own = .ok (.value value) := by
  simp [content]

end Attributes

/-- An object with the values kept with it. -/
structure Annotated (α : Type) where
  object : α
  attributes : Attributes

namespace Annotated

/-- An object with which no values are kept. -/
def bare
    {α : Type}
    (object : α) : Annotated α :=
  ⟨object, .empty⟩

/-- A change of the object alone. -/
def map
    {α γ : Type}
    (change : α → γ)
    (annotated : Annotated α) : Annotated γ :=
  ⟨change annotated.object, annotated.attributes⟩

/-- A change of the object that puts something into some of its places. -/
def put
    {α γ : Type}
    (change : α → γ)
    (places : List String)
    (annotated : Annotated α) : Annotated γ :=
  ⟨change annotated.object, places.foldl Attributes.restore annotated.attributes⟩

end Annotated
end Retry
