import Retry.Event

/-!
# Steps

Configuring a builder can fail half-way, and what was done before stays done.  A
step therefore always leaves a builder, together with the events it reported and
the fault that ended it early, if one did.
-/

namespace Retry

/-- What an operation on a builder leaves behind. -/
structure Step (β : Type) where
  builder : β
  events : List Event
  fault : Option Fault

namespace Step

variable {β : Type}

/-- A step that succeeds silently. -/
def done (builder : β) : Step β :=
  ⟨builder, [], none⟩

/-- A step that fails and leaves the builder as it was. -/
def failed
    (builder : β)
    (fault : Fault) : Step β :=
  ⟨builder, [], some fault⟩

/-- A step that reports an event. -/
def reported
    (builder : β)
    (event : Event) : Step β :=
  ⟨builder, [event], none⟩

/-- A change that succeeds, or fails and leaves the builder as it was. -/
def ofExcept
    (builder : β) : Except Fault β → Step β
  | .ok changed => done changed
  | .error fault => failed builder fault

/-- A step seen as one on a larger object, of which the builder is a part. -/
def lift
    {γ : Type}
    (whole : β → γ)
    (step : Step β) : Step γ :=
  ⟨whole step.builder, step.events, step.fault⟩

/-- One step after another, which is not taken once the first has failed. -/
def andThen
    (step : Step β)
    (next : β → Step β) : Step β :=
  match step.fault with
  | some _ => step
  | none =>
    let later := next step.builder
    ⟨later.builder, step.events ++ later.events, later.fault⟩

/-- One step for each item in order, until one fails. -/
def forEach
    {α : Type}
    (next : α → β → Step β) : List α → β → Step β
  | [], builder => done builder
  | item :: rest, builder => (next item builder).andThen (forEach next rest)

/-- The builder that a step leaves, unless the step failed. -/
def result (step : Step β) : Reported β :=
  ⟨step.events, match step.fault with
    | some fault => .error fault
    | none => .ok step.builder⟩

@[simp] theorem done_andThen
    (builder : β)
    (next : β → Step β) :
    (done builder).andThen next = next builder := by
  simp [andThen, done]

@[simp] theorem failed_andThen
    (builder : β)
    (fault : Fault)
    (next : β → Step β) :
    (failed builder fault).andThen next = failed builder fault := rfl

@[simp] theorem forEach_nil
    {α : Type}
    (next : α → β → Step β)
    (builder : β) :
    forEach next [] builder = done builder := rfl

@[simp] theorem forEach_cons
    {α : Type}
    (next : α → β → Step β)
    (item : α)
    (rest : List α)
    (builder : β) :
    forEach next (item :: rest) builder =
      (next item builder).andThen (forEach next rest) := rfl

end Step
end Retry
