import Retry.Selection
import Retry.Session.Builder
import Retry.Session.Recorder
import Retry.Session.Strategy
import Retry.Session.View

/-!
# Held objects

What a session can hold, what each kind of object can be used as, and what it
does when it is used as something else.
-/

namespace Retry

/-- An object that a session can hold. -/
inductive Held where
  | builder (builder : Builder)
  | recorder (recorder : Recorder)
  | policy (policy : Policy)
  | retrier (retrier : Retrier)
  /-- The object with a number, in the guise of a strategy. -/
  | guise (number : Nat)

namespace Held

/-- The label of an object in diagnostics. -/
def label : Held → TypeLabel
  | builder b => b.variant.builderLabel
  | recorder r => r.label
  | policy _ => Policy.label
  | retrier r => r.label
  | guise _ => Policy.adapterLabel

/-- An object in search of its mode: only retriers carry a tag. -/
def subject : Held → Subject
  | retrier r => r.subject
  | guise _ => ⟨Policy.adapterLabel.full, [some (.text Policy.adapterKind)], none⟩
  | other => ⟨other.label.full, [], none⟩

/-- Whether an object remembers the defaults bundles it took in. -/
def tracksDefaults : Held → Bool
  | builder b => b.variant.tracksDefaults
  | recorder r => r.tracksDefaults
  | _ => false

/-- The operations by which a plan is consulted. -/
def consultations : List String :=
  ["is_retryable", "is_throttling", "should_retry", "compute_delay"]

/-- The operations that every builder has. -/
def registrations : List String :=
  ["retry_on_exception", "retry_on_exception_instance_of",
    "retry_on_exception_or_cause_instance_of", "treat_as_throttling", "max_attempts", "build"]

/-- The operations of an object by which it is known as a retrier or a builder. -/
def operations : Held → List String
  | builder _ | recorder _ => registrations
  | policy _ => []
  | retrier _ | guise _ => consultations

/-- Whether an object is a builder by its class, whatever is kept with it. -/
def isBuilder : Held → Bool
  | builder _ | recorder _ => true
  | _ => false

/-- Whether an object is a retrier by its class. -/
def isRetrier : Held → Bool
  | retrier _ | guise _ => true
  | _ => false

/-- The places of an object in which a user can put values. -/
def places : Held → List String
  | builder _ => HeldBuilder.places
  | recorder _ => HeldRecorder.places
  | retrier (.strategy _) => Strategy.fields
  | policy _ | retrier (.adapted _) | guise _ => []

/-- The object without the collection that stood in a place. -/
def emptied
    (place : String) : Held → Held
  | builder b =>
    .builder (if place = HeldBuilder.conditionsPlace then { b with conditions := [] } else b)
  | recorder r =>
    .recorder (if place = HeldRecorder.recordPlace then { r with entries := [] } else r)
  | other => other

/-- Whether an object refuses every assignment under a name.  Objects of the library's
own strategies and policies are sealed, strategies of a client's label only in their
fields. -/
def isFrozen
    (name : String) : Held → Bool
  | policy _ | retrier (.adapted _) | guise _ => true
  | retrier (.strategy s) => s.isSealed || Strategy.fields.contains name
  | builder _ | recorder _ => false

end Held

namespace Annotated

/-- A builder with the values kept with an object. -/
def asBuilder
    (held : Annotated Held)
    (builder : Builder) : HeldBuilder :=
  ⟨builder, held.attributes⟩

/-- A recorder with the values kept with an object. -/
def asRecorder
    (held : Annotated Held)
    (recorder : Recorder) : HeldRecorder :=
  ⟨recorder, held.attributes⟩

/-- A strategy with the values kept with an object. -/
def asStrategy
    (held : Annotated Held)
    (strategy : Strategy) : HeldStrategy :=
  ⟨strategy, held.attributes⟩

/-- Replaces all that is kept with an object, and all that stands in its places. -/
def replaceAll
    (entries : List (String × Value))
    (held : Annotated Held) : Annotated Held :=
  ⟨held.object.places.foldl (fun object place => object.emptied place) held.object,
    ⟨entries, held.object.places⟩⟩

/-- Keeps a value with an object, unless the object refuses it.  Three names are not
free: that of the object's class, which no value is, that of all that is kept with the
object, which an object of names and values is, and that of the references to it.
Builders show their conditions under a name that cannot be assigned to. -/
def assign
    (name : String)
    (value : Value)
    (held : Annotated Held) : Except Fault (Annotated Held) :=
  if held.object.isFrozen name then .error (.frozen name)
  else match name, value with
    | "__class__", _ => .error .incompatible
    | "__weakref__", _ => .error .missingMember
    | "__dict__", .object entries => .ok (held.replaceAll entries)
    | "__dict__", _ => .error .incompatible
    | name, value =>
      if name = "retry_conditions" && held.object matches .builder _ then
        .error .missingMember
      else .ok ⟨held.object.emptied name, held.attributes.set name value⟩

/-- The tag under which a strategy is shown: the value kept under its name, if there is
one. -/
def shownKind
    (held : Annotated Held)
    (strategy : Strategy) : Value :=
  (held.attributes.find? "kind").getD (.text strategy.variant.kind)

/-- What is shown of an object, if it is not in a guise. -/
def view (held : Annotated Held) : Except Fault View :=
  match held.object with
  | .builder builder => do
    let builder := held.asBuilder builder
    let plan ← builder.outlook.shown
    return .builder builder.object.variant.builderLabel plan (← builder.shownMarkers)
  | .recorder recorder => do
    match ← held.attributes.content HeldRecorder.recordPlace () with
    | .own () => return .record recorder.label [] recorder.entries
    | .value (.list items) => return .record recorder.label items recorder.entries
    | .value value => return .spoiltRecord recorder.label value
  | .policy policy => .ok (.policy policy)
  | .retrier (.adapted policy) => .ok (.adapter policy.plan.maxAttempts (.policy policy))
  | .retrier (.strategy strategy) => do
    let plan ← (held.asStrategy strategy).outlook.shown
    return .strategy strategy.label (held.shownKind strategy) plan
      (← (held.asStrategy strategy).shownMarkers)
  | .guise _ => .error .missingMember

/-- What an object that is no policy has of the parts of one, for use in the guise of a
strategy.  Builders and strategies have conditions of their own, and strategies delays;
the rest is whatever values are kept under the names of the parts. -/
def disguised (held : Annotated Held) : Outlook :=
  let kept (name : String) : Except Fault Value := present (held.attributes.find? name)
  let retries := do return .number (← (← kept "num_retries").asNumber).succ
  let bare : Outlook := {
    maxAttempts := retries
    conditions := do (Content.value (← kept "retry_conditions")).conditions
    classifier := Content.value <$> kept "throttling_condition"
    baseDelay := kept "base_delay"
    throttledBaseDelay := kept "throttled_base_delay"
    maxBackoff := kept "max_backoff" }
  match held.object with
  | .builder builder => { bare with conditions := (held.asBuilder builder).outlook.conditions }
  | .retrier (.strategy strategy) =>
    { (held.asStrategy strategy).outlook with maxAttempts := retries }
  | _ => bare

/-- The parts of the plan of a retrier that is in no guise. -/
def outlook (held : Annotated Held) : Except Fault Outlook :=
  match held.object with
  | .retrier (.strategy strategy) => .ok (held.asStrategy strategy).outlook
  | .retrier (.adapted policy) => .ok (.ofPlan policy.plan)
  | _ => .error .missingMember

/-- Whether an object has anything under a name: a value kept with it, or an operation. -/
def has
    (held : Annotated Held)
    (name : String) : Bool :=
  (held.attributes.find? name).isSome || held.object.operations.contains name

/-- Whether an object has something other than null under a name. -/
def offers
    (held : Annotated Held)
    (name : String) : Bool :=
  match held.attributes.find? name with
  | some value => !value.isNull
  | none => held.object.operations.contains name

/-- Whether an object with the given budget, if it is a retrier, can be used as a builder:
by its class, or because it has what a builder has, whatever that is worth. -/
def countsAsBuilder
    (held : Annotated Held)
    (budget? : Option Value) : Bool :=
  held.object.isBuilder || Held.registrations.all fun name =>
    held.offers name || name = "max_attempts" && budget?.any (!·.isNull)

/-- Whether an object with the given budget, if it is a retrier, can be used as a retrier.
It counts as one if it has what a retrier has, whatever that is worth; its tag and its
budget may even be null. -/
def countsAsRetrier
    (held : Annotated Held)
    (budget? : Option Value) : Bool :=
  (held.object.isRetrier || held.has "kind") &&
    (budget?.isSome || held.has "max_attempts") && Held.consultations.all held.offers

/-- Passes where an object has something under the name of a consultation. -/
def lookUp
    (operation : String)
    (held : Annotated Held) : Except Fault Unit :=
  if held.has operation then .ok () else .error .missingMember

/-- The builder that starts from an object's configuration. -/
def toBuilder (held : Annotated Held) : Except Fault Builder := do
  held.attributes.reach ["to_builder"]
  match held.object with
  | .retrier (.strategy strategy) => (held.asStrategy strategy).toBuilder
  | _ => throw .missingMember

/-- Builds what an object builds. -/
def build (held : Annotated Held) : Reported Strategy :=
  match held.attributes.reach ["build"], held.object with
  | .error fault, _ => ⟨[], .error fault⟩
  | .ok (), .builder builder => (held.asBuilder builder).build
  | .ok (), .recorder _ => ⟨[], .error (.doesNotBuild "RecordingBuilder")⟩
  | .ok (), _ => ⟨[], .error .missingMember⟩

/-- What an operation on a builder does to an object that is none, given its budget.  Only
taking in an empty bundle asks nothing of it, and the budget of a retrier is a value and
not a setter. -/
def operateOnOther
    (operation : Operation)
    (budget : Except Fault Value)
    (target : Annotated Held) : Except Fault Unit :=
  match operation with
  | .applyDefaults (.own ⟨_, [], _⟩) => .ok ()
  | .maxAttempts _ => do
    let _ ← budget
    throw .incompatible
  | .configure | .addConditions | .applyDefaults _ => do
    target.attributes.reach ["retry_on_exception"]
    throw .missingMember
  | _ => .error .missingMember

/-- Performs an operation on an object, unless the operation is hidden.  The budget is
that of the object as a retrier. -/
def perform
    (env : Environment)
    (operation : Operation)
    (budget : Except Fault Value)
    (target : Annotated Held) : Step (Annotated Held) :=
  match target.attributes.reach operation.name?.toList, target.object with
  | .error fault, _ => .failed target fault
  | .ok (), .builder builder =>
    ((target.asBuilder builder).perform env operation).lift (·.map .builder)
  | .ok (), .recorder recorder =>
    (operation.perform env (target.asRecorder recorder)).lift (·.map .recorder)
  | .ok (), _ =>
    .ofExcept target ((fun () => target) <$> target.operateOnOther operation budget)

/-- Asks an object whether a defaults bundle is still to be taken in. -/
def askDefaults
    (name : Value)
    (target : Annotated Held) : Annotated Held × Except Fault Bool :=
  match target.attributes.reach ["should_add_defaults"], target.object with
  | .error fault, _ => (target, .error fault)
  | .ok (), .builder builder =>
    (target,
      if builder.variant.tracksDefaults then
        (target.asBuilder builder).lacksDefaults name
      else .error .missingMember)
  | .ok (), .recorder recorder =>
    if recorder.tracksDefaults then
      let (asked, answer) := (target.asRecorder recorder).lacksDefaults name
      (asked.map .recorder, answer)
    else (target, .error .missingMember)
  | .ok (), _ => (target, .error .missingMember)

end Annotated
end Retry
