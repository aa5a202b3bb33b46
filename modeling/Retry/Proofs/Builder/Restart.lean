import Retry.Proofs.Builder.Sound

/-!
# Builders that start from strategies

A strategy can be made directly from its fields, which nobody checks, and a builder that
starts from it checks them again.  The main statements say which checks these are, and that a
builder that starts from a strategy at all is sound: it holds every condition of the strategy
once, where it first comes.
-/

namespace Retry

namespace Condition

/-- Conditions without their repetitions are those that a builder holds that registers
them. -/
theorem conditions_fresh_foldl
    (variant : Variant)
    (conditions : List Condition) :
    (conditions.foldl Builder.retryOn (.fresh variant)).conditions = conditions.eraseDups := by
  have empty : (Builder.fresh variant).conditions = ([] : List Condition).eraseDups := rfl
  exact Builder.conditions_foldl_retryOn empty conditions

theorem nodup_eraseDups (conditions : List Condition) :
    conditions.eraseDups.Nodup := by
  rw [← conditions_fresh_foldl .standard]
  exact Builder.nodup_foldl_retryOn List.nodup_nil conditions

/-- Only conditions without repetitions are what is left when these are dropped. -/
theorem eraseDups_eq_self_iff
    {conditions : List Condition} :
    conditions.eraseDups = conditions ↔ conditions.Nodup := by
  constructor
  · intro same
    rw [← same]
    exact nodup_eraseDups conditions
  · intro distinct
    rw [← conditions_fresh_foldl .standard,
      Builder.foldl_retryOn (.fresh .standard) conditions distinct]
    rfl

end Condition

namespace Strategy

/-- The builder that starts from a strategy whose numbers have passed the checks. -/
def restarted
    (strategy : Strategy)
    (budget delay throttledDelay : Number) : Builder where
  variant := strategy.variant
  conditions := strategy.plan.rules.conditions.eraseDups
  classifier :=
    if strategy.plan.rules.classifier = .absent then none
    else some strategy.plan.rules.classifier
  maxAttempts := .number budget
  baseDelay := .number delay
  throttledBaseDelay := .number throttledDelay
  maxBackoff :=
    if strategy.plan.rules.maxBackoff.isNull then .number (.real strategy.variant.maxBackoff)
    else strategy.plan.rules.maxBackoff
  defaultsAdded := strategy.defaultsAdded

/-- A builder starts from a strategy where the budget, the base delay and the base delay of
throttled failures pass the checks of the setters, in this order. -/
theorem toBuilder_eq
    {strategy : Strategy}
    (tracks : strategy.variant.tracksDefaults = true) :
    strategy.toBuilder = (do
      let budget ← Builder.checkBudget strategy.plan.maxAttempts
      let delay ← Builder.checkDelay strategy.plan.rules.baseDelay
      let throttledDelay ← Builder.checkDelay strategy.plan.rules.throttledBaseDelay
      return strategy.restarted budget delay throttledDelay) := by
  have registered : strategy.plan.rules.conditions.foldl Builder.retryOn
      (.fresh strategy.variant) =
      { Builder.fresh strategy.variant with
        conditions := strategy.plan.rules.conditions.eraseDups } := by
    rw [Builder.foldl_retryOn_eq, Condition.conditions_fresh_foldl]
  rw [toBuilder, registered, Builder.setMaxAttempts_eq]
  cases Builder.checkBudget strategy.plan.maxAttempts with
  | error fault => rfl
  | ok budget =>
    rw [Outcome.map_ok, Outcome.ok_bind, Outcome.ok_bind, Builder.setBackoff_eq]
    cases Builder.checkDelay strategy.plan.rules.baseDelay with
    | error fault => rfl
    | ok delay =>
      rw [Outcome.map_ok, Outcome.ok_bind, Outcome.ok_bind, Builder.setThrottledBackoff_eq]
      cases Builder.checkDelay strategy.plan.rules.throttledBaseDelay with
      | error fault => rfl
      | ok throttledDelay =>
        rw [Outcome.map_ok, Outcome.ok_bind, Outcome.ok_bind, if_pos tracks]
        rfl

/-- A builder that starts from a strategy is sound, whatever the strategy was made of. -/
theorem sound_of_toBuilder
    {strategy : Strategy}
    (tracks : strategy.variant.tracksDefaults = true)
    {builder : Builder}
    (starts : strategy.toBuilder = .ok builder) :
    builder.Sound := by
  rw [toBuilder_eq tracks] at starts
  obtain ⟨budget, isBudget, starts⟩ := Outcome.bind_eq_ok_iff.mp starts
  obtain ⟨delay, isDelay, starts⟩ := Outcome.bind_eq_ok_iff.mp starts
  obtain ⟨throttledDelay, isThrottled, starts⟩ := Outcome.bind_eq_ok_iff.mp starts
  obtain rfl : strategy.restarted budget delay throttledDelay = builder := Except.ok.inj starts
  have classifier : (if strategy.plan.rules.classifier = .absent then none
      else some strategy.plan.rules.classifier) ≠ some .absent := by
    split
    · nofun
    · rename_i present
      exact fun absent => present (Option.some.inj absent)
  have maxBackoff : (if strategy.plan.rules.maxBackoff.isNull then
      .number (.real strategy.variant.maxBackoff)
      else strategy.plan.rules.maxBackoff : Value).isNull = false := by
    cases given : strategy.plan.rules.maxBackoff.isNull with
    | true => rfl
    | false => exact given
  exact {
    distinct := Condition.nodup_eraseDups _
    classifier := classifier
    maxAttempts := ⟨budget, rfl, Builder.checkAtLeast_again isBudget⟩
    baseDelay := ⟨delay, rfl, Builder.checkAtLeast_again isDelay⟩
    throttledBaseDelay := ⟨throttledDelay, rfl, Builder.checkAtLeast_again isThrottled⟩
    maxBackoff := maxBackoff
    tracksDefaults := tracks }

end Strategy
end Retry
