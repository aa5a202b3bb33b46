import Retry.Builder.Basic

/-!
# Calls on builders

Configuration reaches a builder only through the calls of this module, so any
type that accepts them can be configured: the library's own builders, or a
recorder that merely keeps what it was told.
-/

namespace Retry

/-- A call that every builder accepts, and the marking of a defaults bundle,
which only some accept. -/
inductive Call where
  | retryOn (condition : Condition)
  | retryOnInstanceOf (ref : ClassRef)
  | retryOnInstanceOrCauseOf (ref : ClassRef)
  | treatAsThrottling (condition : Condition)
  | maxAttempts (budget : Value)
  | markDefaults (name : Value)

namespace Call

/-- The name of the operation that a call is of. -/
def name : Call → String
  | retryOn _ => "retry_on_exception"
  | retryOnInstanceOf _ => "retry_on_exception_instance_of"
  | retryOnInstanceOrCauseOf _ => "retry_on_exception_or_cause_instance_of"
  | treatAsThrottling _ => "treat_as_throttling"
  | maxAttempts _ => "max_attempts"
  | markDefaults _ => "mark_default_added"

/-- The condition that a call registers, if it registers one.  Rules on classes are
conditions like any other. -/
def registered? : Call → Option Condition
  | retryOn condition => some condition
  | retryOnInstanceOf ref => some (.instanceOf ref)
  | retryOnInstanceOrCauseOf ref => some (.instanceOrCauseOf ref)
  | treatAsThrottling _ | maxAttempts _ | markDefaults _ => none

end Call

/-- A type whose values accept calls. -/
class AcceptsCalls (β : Type) where
  /-- The name that events show for a builder. -/
  label : β → String
  /-- Whether a builder remembers the defaults bundles it took in. -/
  tracksDefaults : β → Bool
  /-- A call to a builder. -/
  call : Call → β → Step β
  /-- The builder after being asked whether a defaults bundle is still to be
  taken in, and its answer. -/
  lacksDefaults : β → Value → β × Except Fault Bool

namespace Builder

/-- What a call does to a builder. -/
def call : Call → Builder → Step Builder
  | .retryOn condition, builder => .done (builder.retryOn condition)
  | .retryOnInstanceOf ref, builder => .done (builder.retryOn (.instanceOf ref))
  | .retryOnInstanceOrCauseOf ref, builder =>
    .done (builder.retryOn (.instanceOrCauseOf ref))
  | .treatAsThrottling condition, builder =>
    .done (builder.treatAsThrottling condition)
  | .maxAttempts budget, builder =>
    .ofExcept builder (builder.setMaxAttempts budget)
  | .markDefaults name, builder =>
    if builder.variant.tracksDefaults then .ofExcept builder (builder.markDefaults name)
    else .failed builder .missingMember

instance instAcceptsCalls : AcceptsCalls Builder where
  label builder := builder.variant.builderLabel.name
  tracksDefaults builder := builder.variant.tracksDefaults
  call := call
  lacksDefaults builder name := (builder, builder.lacksDefaults name)

theorem call_of_registered?
    {call : Call}
    {condition : Condition}
    (registers : call.registered? = some condition)
    (builder : Builder) :
    builder.call call = .done (builder.retryOn condition) := by
  cases call <;> simp_all [Call.registered?, Builder.call]

end Builder

/-- An entry of a record: a call, or the question whether a defaults bundle is
still to be taken in. -/
inductive Entry where
  | called (call : Call)
  | asked (name : Value)

/-- A builder that builds nothing and keeps every call it was given, without
checking or merging any. -/
structure Recorder where
  label : TypeLabel
  tracksDefaults : Bool
  entries : List Entry
  defaultsAdded : Markers

namespace Recorder

/-- A recorder that was given no call yet. -/
def fresh
    (label : TypeLabel)
    (tracksDefaults : Bool) : Recorder :=
  ⟨label, tracksDefaults, [], .empty⟩

/-- A recorder with one more entry. -/
def record
    (recorder : Recorder)
    (entry : Entry) : Recorder :=
  { recorder with entries := recorder.entries ++ [entry] }

/-- Records that a defaults bundle was taken in, if its name is a key. -/
def mark
    (recorder : Recorder)
    (name : Value) : Except Fault Recorder := do
  return { recorder with defaultsAdded := ← compatible (recorder.defaultsAdded.add? name) }

/-- What a call does to a recorder.  A mark is recorded before its name is looked
at. -/
def call : Call → Recorder → Step Recorder
  | .markDefaults name, recorder =>
    if recorder.tracksDefaults then
      let recorded := recorder.record (.called (.markDefaults name))
      .ofExcept recorded (recorded.mark name)
    else .failed recorder .missingMember
  | call, recorder => .done (recorder.record (.called call))

/-- Whether a defaults bundle is still to be taken in, if its name is a key.  The
question is recorded too. -/
def lacksDefaults
    (recorder : Recorder)
    (name : Value) : Recorder × Except Fault Bool :=
  (recorder.record (.asked name),
    if name.isKey then .ok !(recorder.defaultsAdded.contains name)
    else .error .incompatible)

instance instAcceptsCalls : AcceptsCalls Recorder where
  label recorder := recorder.label.name
  tracksDefaults recorder := recorder.tracksDefaults
  call := call
  lacksDefaults := lacksDefaults

end Recorder
end Retry
