import Retry.Builder.Step
import Retry.Strategy

/-!
# Builders

A builder collects conditions, a classifier, a budget and delays for a strategy
of its variant.  A condition registered twice is held once, and numbers are
checked as they are set.
-/

namespace Retry

/-- A builder of strategies. -/
structure Builder where
  variant : Variant
  conditions : List Condition
  classifier : Option Condition
  maxAttempts : Value
  baseDelay : Value
  throttledBaseDelay : Value
  maxBackoff : Value
  defaultsAdded : Markers

namespace Builder

/-- An empty builder of a variant. -/
def fresh (variant : Variant) : Builder where
  variant := variant
  conditions := []
  classifier := none
  maxAttempts := .int variant.maxAttempts
  baseDelay := .number (.real variant.baseDelay)
  throttledBaseDelay := .number (.real variant.throttledBaseDelay)
  maxBackoff := .number (.real variant.maxBackoff)
  defaultsAdded := .empty

/-- Registers a condition, unless it is registered already. -/
def retryOn
    (builder : Builder)
    (condition : Condition) : Builder :=
  if builder.conditions.contains condition then builder
  else { builder with conditions := builder.conditions ++ [condition] }

@[simp] theorem mem_conditions_retryOn
    (builder : Builder)
    (condition other : Condition) :
    other ∈ (builder.retryOn condition).conditions ↔
      other ∈ builder.conditions ∨ other = condition := by
  unfold retryOn
  split
  · rename_i registered
    constructor
    · exact Or.inl
    · rintro (member | rfl)
      · exact member
      · simpa using registered
  · simp

theorem retryOn_of_mem
    {builder : Builder}
    {condition : Condition}
    (registered : condition ∈ builder.conditions) :
    builder.retryOn condition = builder := by
  simp [retryOn, registered]

theorem nodup_conditions_retryOn
    {builder : Builder}
    (distinct : builder.conditions.Nodup)
    (condition : Condition) :
    (builder.retryOn condition).conditions.Nodup := by
  unfold retryOn
  split
  · exact distinct
  · rename_i unregistered
    have absent : condition ∉ builder.conditions := by simpa using unregistered
    exact List.nodup_append.mpr
      ⟨distinct, by simp, by
        intro first firstMember second secondMember
        rcases List.mem_singleton.mp secondMember with rfl
        rintro rfl
        exact absent firstMember⟩

/-- Sets the classifier of throttled failures; an absent condition unsets it. -/
def treatAsThrottling
    (builder : Builder)
    (condition : Condition) : Builder :=
  { builder with classifier := if condition = .absent then none else some condition }

/-- Records that a defaults bundle was taken in, if its name is a key. -/
def markDefaults
    (builder : Builder)
    (name : Value) : Except Fault Builder := do
  return { builder with defaultsAdded := ← compatible (builder.defaultsAdded.add? name) }

/-- Whether a defaults bundle is still to be taken in, if its name is a key. -/
def lacksDefaults
    (builder : Builder)
    (name : Value) : Except Fault Bool :=
  if name.isKey then .ok !(builder.defaultsAdded.contains name) else .error .incompatible

/-- Sets the budget, which is one attempt at least. -/
def setMaxAttempts
    (builder : Builder)
    (budget : Value) : Except Fault Builder := do
  let budget ← budget.asNumber
  if budget.lt (.int 1) then .error (.attemptsBelowOne budget)
  else .ok { builder with maxAttempts := .number budget }

/-- A delay that is not negative. -/
def checkDelay (delay : Value) : Except Fault Number := do
  let delay ← delay.asNumber
  if delay.lt (.int 0) then .error (.negativeDelay delay) else .ok delay

/-- Sets the base delay of generic failures, and the bound of all delays unless
the one given is null.  The bound is not checked. -/
def setBackoff
    (builder : Builder)
    (baseDelay maxBackoff : Value) : Except Fault Builder := do
  let baseDelay ← checkDelay baseDelay
  return { builder with
    baseDelay := .number baseDelay
    maxBackoff := if maxBackoff.isNull then builder.maxBackoff else maxBackoff }

/-- Sets the base delay of throttled failures. -/
def setThrottledBackoff
    (builder : Builder)
    (baseDelay : Value) : Except Fault Builder := do
  let baseDelay ← checkDelay baseDelay
  return { builder with throttledBaseDelay := .number baseDelay }

/-- The classifier of a strategy that is built of what was collected so far. -/
def effectiveClassifier (builder : Builder) : Condition :=
  Condition.classifierOf builder.classifier

theorem effectiveClassifier_of_truthy
    {builder : Builder}
    {condition : Condition}
    (registered : builder.classifier = some condition)
    (truthy : condition.isTruthy = true) :
    builder.effectiveClassifier = condition := by
  rw [effectiveClassifier, registered, Condition.classifierOf, Option.filter_some,
    if_pos truthy]
  rfl

/-- What a strategy is given as a classifier counts as true. -/
theorem isTruthy_effectiveClassifier
    (builder : Builder) :
    builder.effectiveClassifier.isTruthy = true := by
  rw [effectiveClassifier, Condition.classifierOf]
  cases kept : builder.classifier.filter Condition.isTruthy with
  | none => rfl
  | some condition => exact (Option.filter_eq_some_iff.mp kept).2

theorem effectiveClassifier_ne_absent
    (builder : Builder) :
    builder.effectiveClassifier ≠ .absent :=
  Condition.ne_absent_of_truthy builder.isTruthy_effectiveClassifier

/-- The rules collected so far. -/
def rules (builder : Builder) : Rules where
  conditions := builder.conditions
  classifier := builder.effectiveClassifier
  baseDelay := builder.baseDelay
  throttledBaseDelay := builder.throttledBaseDelay
  maxBackoff := builder.maxBackoff

/-- The strategy of what was collected so far. -/
def strategy (builder : Builder) : Strategy where
  label := builder.variant.strategyLabel
  variant := builder.variant
  plan := ⟨builder.maxAttempts, builder.rules⟩
  defaultsAdded := builder.defaultsAdded

/-- Builds the strategy, if the variant has any and does not miss a classifier.  The
event of it shows the markers in order, which they have to have. -/
def build (builder : Builder) : Reported Strategy :=
  if builder.variant.needsClassifier && builder.classifier.isNone then
    ⟨[], .error .missingClassifier⟩
  else if builder.variant.isConcrete then
    match builder.defaultsAdded.sorted? with
    | some names =>
      ⟨[.strategyBuilt builder.variant.kind builder.maxAttempts builder.conditions.length
          names],
        .ok builder.strategy⟩
    | none => ⟨[], .error .incompatible⟩
  else ⟨[], .error .incompatible⟩

end Builder

namespace Strategy

/-- A builder that starts from a strategy's own configuration.  It checks the
numbers again, which a strategy made directly from its fields may fail, and takes
over the markers if it remembers defaults bundles. -/
def toBuilder (strategy : Strategy) : Except Fault Builder := do
  let registered :=
    strategy.plan.rules.conditions.foldl Builder.retryOn (Builder.fresh strategy.variant)
  let classified := registered.treatAsThrottling strategy.plan.rules.classifier
  let budgeted ← classified.setMaxAttempts strategy.plan.maxAttempts
  let paced ←
    budgeted.setBackoff strategy.plan.rules.baseDelay strategy.plan.rules.maxBackoff
  let builder ← paced.setThrottledBackoff strategy.plan.rules.throttledBaseDelay
  return if strategy.variant.tracksDefaults then
      { builder with defaultsAdded := strategy.defaultsAdded }
    else builder

end Strategy
end Retry
