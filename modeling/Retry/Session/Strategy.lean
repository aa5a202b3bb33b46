import Retry.Builder.Basic
import Retry.Session.Outlook

/-!
# Strategies that take values

A strategy of a client's label refuses assignments to its fields, but all of its fields
can be replaced at once.  What stands in them then are values, none of which is a
condition.
-/

namespace Retry

/-- A strategy with the values kept with it. -/
abbrev HeldStrategy : Type := Annotated Strategy

namespace HeldStrategy

/-- The parts of a plan that stand in the fields of a strategy. -/
def outlook (strategy : HeldStrategy) : Outlook :=
  let plan := strategy.object.plan
  { maxAttempts := strategy.attributes.value "max_attempts" plan.maxAttempts
    conditions := do
      (← strategy.attributes.content "retry_conditions" plan.rules.conditions).conditions
    classifier := strategy.attributes.content "throttling_condition" plan.rules.classifier
    baseDelay := strategy.attributes.value "base_delay" plan.rules.baseDelay
    throttledBaseDelay :=
      strategy.attributes.value "throttled_base_delay" plan.rules.throttledBaseDelay
    maxBackoff := strategy.attributes.value "max_backoff" plan.rules.maxBackoff }

/-- What stands in the field of the markers. -/
def markers (strategy : HeldStrategy) : Except Fault (Content Markers) :=
  strategy.attributes.content "defaults_added" strategy.object.defaultsAdded

/-- The markers in order, as they are shown. -/
def shownMarkers (strategy : HeldStrategy) : Except Fault (List Value) := do
  match ← strategy.markers with
  | .own markers => compatible markers.sorted?
  | .value value => compatible (value.items?.bind Value.sorted?)

/-- The builder that starts from what stands in the fields of a strategy, part by part.
It is found to have values in the place of conditions only when it is shown. -/
def toBuilder (strategy : HeldStrategy) : Except Fault Builder := do
  strategy.attributes.reach ["to_builder", "builder"]
  let outlook := strategy.outlook
  let fresh := Builder.fresh strategy.object.variant
  let conditions ← outlook.conditions
  let registered := (conditions.map Content.condition).foldl Builder.retryOn fresh
  let classifier ← outlook.classifier
  let classified := registered.treatAsThrottling classifier.condition
  let budgeted ← classified.setMaxAttempts (← outlook.maxAttempts)
  let paced ← budgeted.setBackoff (← outlook.baseDelay) (← outlook.maxBackoff)
  let builder ← paced.setThrottledBackoff (← outlook.throttledBaseDelay)
  let marked ←
    if strategy.object.variant.tracksDefaults then do
      match ← strategy.markers with
      | .own markers => pure { builder with defaultsAdded := markers }
      | .value value => do
        let markers ← compatible (value.items?.bind Markers.ofValues?)
        pure { builder with defaultsAdded := markers }
    else pure builder
  let _ ← conditions.mapM Content.shownCondition
  let _ ← classifier.shownCondition
  return marked

/-- Equality of what stands in two fields, the object's own contents being equal as
told.  Of values only the null is equal to contents, and only to an absent condition. -/
def sameContent
    {α : Type}
    (sameOwn : α → α → Bool)
    (isNull : α → Bool) : Content α → Content α → Bool
  | .own left, .own right => sameOwn left right
  | .value left, .value right => left.same right
  | .own left, .value right => isNull left && right.isNull
  | .value left, .own right => left.isNull && isNull right

/-- Equality of strategies: of the same label, with equal fields.  All fields are looked
at before any two are compared. -/
def same (left right : HeldStrategy) : Except Fault Bool := do
  if left.object.label ≠ right.object.label then return false
  let conditions (strategy : HeldStrategy) :=
    strategy.attributes.content "retry_conditions" strategy.object.plan.rules.conditions
  let values (strategy : HeldStrategy) : Except Fault (List Value) :=
    let outlook := strategy.outlook
    [outlook.maxAttempts, outlook.baseDelay, outlook.throttledBaseDelay,
      outlook.maxBackoff].mapM id
  return sameContent (· = ·) (fun _ => false) (← conditions left) (← conditions right) &&
    sameContent (· = ·) (· = .absent) (← left.outlook.classifier)
      (← right.outlook.classifier) &&
    Value.sameItems (← values left) (← values right) &&
    sameContent Markers.same (fun _ => false) (← left.markers) (← right.markers)

end HeldStrategy
end Retry
