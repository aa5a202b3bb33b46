import Retry.Builder.Operation
import Retry.Session.Outlook

/-!
# Builders that take values

What a builder does while values are kept with it.  Where a value stands in the place
of its conditions, a list takes further conditions behind its items, and no other value
takes any; setters put the value that stands in their place aside.  Without values a
builder does what it does by itself.
-/

namespace Retry

/-- A builder with the values kept with it. -/
abbrev HeldBuilder : Type := Annotated Builder

namespace HeldBuilder

/-- The place of a builder's conditions. -/
def conditionsPlace : String := "_retry_conditions"

/-- The place of a builder's classifier. -/
def classifierPlace : String := "_throttling_condition"

/-- The place of a builder's budget. -/
def budgetPlace : String := "_max_attempts"

/-- The place of the base delay of generic failures. -/
def baseDelayPlace : String := "_base_delay"

/-- The place of the base delay of throttled failures. -/
def throttledBaseDelayPlace : String := "_throttled_base_delay"

/-- The place of the bound of all delays. -/
def maxBackoffPlace : String := "_max_backoff"

/-- The place of the markers of defaults bundles. -/
def markersPlace : String := "_defaults_added"

/-- All places of a builder. -/
def places : List String :=
  [conditionsPlace, classifierPlace, budgetPlace, baseDelayPlace, throttledBaseDelayPlace,
    maxBackoffPlace, markersPlace]

/-- The parts of a plan that stand in the places of a builder.  Conditions registered
after a list was put in their place stand behind its items. -/
def outlook (builder : HeldBuilder) : Outlook where
  maxAttempts := builder.attributes.value budgetPlace builder.object.maxAttempts
  conditions := do
    let registered := builder.object.conditions.map Content.own
    match ← builder.attributes.content conditionsPlace () with
    | .own () => return registered
    | .value value => return (← compatible value.items?).map Content.value ++ registered
  classifier :=
    builder.attributes.content classifierPlace (builder.object.classifier.getD .absent)
  baseDelay := builder.attributes.value baseDelayPlace builder.object.baseDelay
  throttledBaseDelay :=
    builder.attributes.value throttledBaseDelayPlace builder.object.throttledBaseDelay
  maxBackoff := builder.attributes.value maxBackoffPlace builder.object.maxBackoff

/-- The markers in order, as they are shown. -/
def shownMarkers (builder : HeldBuilder) : Except Fault (List Value) := do
  match ← builder.attributes.content markersPlace builder.object.defaultsAdded with
  | .own markers => compatible markers.sorted?
  | .value value => compatible (value.items?.bind Value.sorted?)

/-- The markers that a strategy is given. -/
def markers (builder : HeldBuilder) : Except Fault Markers := do
  match ← builder.attributes.content markersPlace builder.object.defaultsAdded with
  | .own markers => return markers
  | .value value => compatible (value.items?.bind Markers.ofValues?)

/-- A change of a builder that puts something into some of its places. -/
def putting
    (places : List String)
    (builder : HeldBuilder) : Except Fault Builder → Step HeldBuilder
  | .ok changed => .done (builder.put (fun _ => changed) places)
  | .error fault => .failed builder fault

/-- Registers a condition.  Where a list stands in the place of the conditions, the
absent condition counts as registered if null is in the list. -/
def retryOn
    (condition : Condition)
    (builder : HeldBuilder) : Step HeldBuilder :=
  match builder.attributes.content conditionsPlace () with
  | .error fault => .failed builder fault
  | .ok (.value (.list items)) =>
    if condition = .absent && items.any Value.isNull then .done builder
    else .done (builder.map (·.retryOn condition))
  | .ok (.value (.object _)) => .failed builder .missingMember
  | .ok (.value _) => .failed builder .incompatible
  | .ok (.own ()) => .done (builder.map (·.retryOn condition))

/-- Marks a defaults bundle as taken in, which a value in the place of the markers
cannot do. -/
def mark
    (name : Value)
    (builder : HeldBuilder) : Step HeldBuilder :=
  match builder.attributes.content markersPlace () with
  | .error fault => .failed builder fault
  | .ok (.value _) => .failed builder .missingMember
  | .ok (.own ()) => (builder.object.call (.markDefaults name)).lift (⟨·, builder.attributes⟩)

/-- The names of the operations that a call goes through, its own among them. -/
def route (call : Call) : List String :=
  if call.registered?.isSome then [call.name, "retry_on_exception"] else [call.name]

/-- What a call does, unless one of the operations it goes through is hidden. -/
def call
    (call : Call)
    (builder : HeldBuilder) : Step HeldBuilder :=
  match builder.attributes.reach (route call), call with
  | .error fault, _ => .failed builder fault
  | .ok (), .treatAsThrottling condition =>
    builder.putting [classifierPlace] (.ok (builder.object.treatAsThrottling condition))
  | .ok (), .maxAttempts budget =>
    builder.putting [budgetPlace] (builder.object.setMaxAttempts budget)
  | .ok (), .markDefaults name =>
    if builder.object.variant.tracksDefaults then builder.mark name
    else .failed builder .missingMember
  | .ok (), .retryOn condition => builder.retryOn condition
  | .ok (), .retryOnInstanceOf ref => builder.retryOn (.instanceOf ref)
  | .ok (), .retryOnInstanceOrCauseOf ref => builder.retryOn (.instanceOrCauseOf ref)

/-- Whether a defaults bundle is still to be taken in. -/
def lacksDefaults
    (builder : HeldBuilder)
    (name : Value) : Except Fault Bool := do
  builder.attributes.reach ["should_add_defaults"]
  match ← builder.attributes.content markersPlace () with
  | .own () => builder.object.lacksDefaults name
  | .value value => return !(← compatible (value.holds? name))

instance instAcceptsCalls : AcceptsCalls HeldBuilder where
  label builder := AcceptsCalls.label builder.object
  tracksDefaults builder := AcceptsCalls.tracksDefaults builder.object
  call := call
  lacksDefaults builder name := (builder, builder.lacksDefaults name)

/-- Performs an operation. -/
def perform
    (env : Environment) : Operation → HeldBuilder → Step HeldBuilder
  | .backoff [baseDelay], builder =>
    builder.putting [baseDelayPlace] (builder.object.setBackoff baseDelay .null)
  | .backoff [baseDelay, maxBackoff], builder =>
    builder.putting
      (if maxBackoff.isNull then [baseDelayPlace] else [baseDelayPlace, maxBackoffPlace])
      (builder.object.setBackoff baseDelay maxBackoff)
  | .throttledBackoff [baseDelay], builder =>
    builder.putting [throttledBaseDelayPlace] (builder.object.setThrottledBackoff baseDelay)
  | .backoff _, builder | .throttledBackoff _, builder => .failed builder .incompatible
  | operation, builder => operation.perform env builder

/-- The classifier of a strategy: the one that stands in the place of a builder's, or
none if that counts as false. -/
def settledClassifier : Content Condition → Option Condition
  | .own condition => if condition = .absent then none else some condition
  | .value .null => none
  | .value value => some (if value.isTruthy then .absent else .neverThrottling)

/-- The builder of what stands in its places, before any of it is shown.  A builder
that cannot do without a classifier looks for that first. -/
def settled (builder : HeldBuilder) : Except Fault Builder := do
  builder.attributes.reach ["build"]
  let outlook := builder.outlook
  if builder.object.variant.needsClassifier then
    if (settledClassifier (← outlook.classifier)).isNone then throw .missingClassifier
  let maxAttempts ← outlook.maxAttempts
  let conditions ← outlook.conditions
  let classifier ← outlook.classifier
  let baseDelay ← outlook.baseDelay
  let throttledBaseDelay ← outlook.throttledBaseDelay
  let maxBackoff ← outlook.maxBackoff
  let markers ← builder.markers
  builder.attributes.reach ["strategy_class"]
  return ⟨builder.object.variant, conditions.map Content.condition,
    settledClassifier classifier, maxAttempts, baseDelay, throttledBaseDelay, maxBackoff,
    markers⟩

/-- Builds the strategy of what stands in a builder's places.  It is found to have
values in the place of conditions only once it is built. -/
def build (builder : HeldBuilder) : Reported Strategy :=
  match builder.settled with
  | .error fault => ⟨[], .error fault⟩
  | .ok settled =>
    let built := settled.build
    ⟨built.events, do
      let strategy ← built.outcome
      let _ ← (← builder.outlook.conditions).mapM Content.shownCondition
      if settled.classifier = some .absent then throw .missingMember
      return strategy⟩

theorem settledClassifier_own
    {classifier : Option Condition}
    (present : classifier ≠ some .absent) :
    settledClassifier (.own (classifier.getD .absent)) = classifier := by
  cases classifier with
  | none => rfl
  | some condition =>
    have distinct : condition ≠ .absent := fun equal => present (by rw [equal])
    simp [settledClassifier, distinct]

end HeldBuilder
end Retry
