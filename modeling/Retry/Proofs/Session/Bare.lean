import Retry.Proofs.Builder.Alike
import Retry.Proofs.Outcome
import Retry.Session.Held

/-!
# Objects without values

An object with which no values are kept does what it does by itself.  The main statements
say this of the builders and the strategies that a session holds.
-/

namespace Retry

namespace HeldBuilder

/-- Whether a builder is held without values. -/
def IsBare
    (builder : Builder)
    (held : HeldBuilder) : Prop :=
  held = .bare builder

theorem isBare_bare
    (builder : Builder) :
    IsBare builder (.bare builder) := rfl

theorem putting_bare
    (builder : Builder)
    (places : List String)
    (changed : Except Fault Builder) :
    Step.Related IsBare
      (.ofExcept builder changed) (putting places (.bare builder) changed) := by
  have kept : places.foldl Attributes.restore .empty = .empty := by
    induction places with
    | nil => rfl
    | cons place rest inductionHypothesis => exact inductionHypothesis
  cases changed with
  | error fault => exact Step.Related.failed (isBare_bare builder) fault
  | ok changed =>
    apply Step.Related.done
    show Annotated.mk changed (places.foldl Attributes.restore .empty) = _
    rw [kept]
    rfl

/-- A builder held without values takes every call as the builder does. -/
theorem alike_isBare : AcceptsCalls.Alike IsBare where
  label := by
    rintro builder _ rfl
    rfl
  tracksDefaults := by
    rintro builder _ rfl
    rfl
  lacksDefaults := by
    rintro name builder _ rfl
    refine ⟨rfl, ?_⟩
    show _ = lacksDefaults (.bare builder) name
    rw [lacksDefaults, Annotated.bare, Attributes.reach_empty, Attributes.content_empty]
    rfl
  call := by
    rintro call builder _ rfl
    cases call with
    | retryOn condition => exact Step.Related.done (isBare_bare _)
    | retryOnInstanceOf ref => exact Step.Related.done (isBare_bare _)
    | retryOnInstanceOrCauseOf ref => exact Step.Related.done (isBare_bare _)
    | treatAsThrottling condition =>
      exact putting_bare builder [classifierPlace] (.ok (builder.treatAsThrottling condition))
    | maxAttempts budget =>
      exact putting_bare builder [budgetPlace] (builder.setMaxAttempts budget)
    | markDefaults name =>
      show Step.Related IsBare
        (builder.call (.markDefaults name))
        (if builder.variant.tracksDefaults then
            (builder.call (.markDefaults name)).lift (⟨·, Attributes.empty⟩)
          else .failed (.bare builder) .missingMember)
      rw [Builder.call]
      split
      · exact ⟨rfl, rfl, rfl⟩
      · exact Step.Related.failed (isBare_bare builder) _

/-- A builder held without values performs every operation as the builder does. -/
theorem perform_bare
    (env : Environment)
    (operation : Operation)
    (builder : Builder) :
    perform env operation (.bare builder) = (builder.perform env operation).lift .bare := by
  have start := isBare_bare builder
  have steps : Step.Related IsBare
      (builder.perform env operation) (perform env operation (.bare builder)) := by
    cases operation with
    | backoff arguments =>
      match arguments with
      | [] | _ :: _ :: _ :: _ => exact Step.Related.failed start _
      | [baseDelay] => exact putting_bare builder _ _
      | [baseDelay, maxBackoff] => exact putting_bare builder _ _
    | throttledBackoff arguments =>
      match arguments with
      | [] | _ :: _ :: _ => exact Step.Related.failed start _
      | [baseDelay] => exact putting_bare builder _ _
    | retryOn condition => exact alike_isBare.perform env (.retryOn condition) start
    | retryOnInstanceOf ref => exact alike_isBare.perform env (.retryOnInstanceOf ref) start
    | retryOnInstanceOrCauseOf ref =>
      exact alike_isBare.perform env (.retryOnInstanceOrCauseOf ref) start
    | treatAsThrottling condition =>
      exact alike_isBare.perform env (.treatAsThrottling condition) start
    | maxAttempts arguments => exact alike_isBare.perform env (.maxAttempts arguments) start
    | markDefaults name => exact alike_isBare.perform env (.markDefaults name) start
    | addConditions => exact alike_isBare.perform env .addConditions start
    | configure => exact alike_isBare.perform env .configure start
    | applyDefaults defaults => exact alike_isBare.perform env (.applyDefaults defaults) start
    | addDefaults defaults => exact alike_isBare.perform env (.addDefaults defaults) start
  exact steps.eq_lift

/-- What stands in the places of a builder held without values is the builder, unless it
misses a classifier. -/
theorem settled_bare
    {builder : Builder}
    (present : builder.classifier ≠ some .absent) :
    settled (.bare builder) =
      if builder.variant.needsClassifier && builder.classifier.isNone then
        .error .missingClassifier
      else .ok builder := by
  have classifier : settledClassifier (.own (builder.classifier.getD .absent)) =
      builder.classifier := settledClassifier_own present
  have conditions := Outlook.map_condition_own builder.conditions
  have collected : settled (.bare builder) = (do
      if builder.variant.needsClassifier then
        if (settledClassifier (.own (builder.classifier.getD .absent))).isNone then
          throw .missingClassifier
      return { builder with
        conditions := (builder.conditions.map Content.own).map Content.condition
        classifier := settledClassifier (.own (builder.classifier.getD .absent)) }) := rfl
  rw [collected, classifier, conditions]
  cases builder.variant.needsClassifier with
  | false => rfl
  | true => cases builder.classifier.isNone <;> rfl

/-- A builder held without values builds what the builder builds. -/
theorem build_bare
    {builder : Builder}
    (present : builder.classifier ≠ some .absent) :
    build (.bare builder) = builder.build := by
  have showing (built : Reported Strategy) :
      (⟨built.events, do
        let strategy ← built.outcome
        let _ ← (builder.conditions.map Content.own).mapM Content.shownCondition
        if builder.classifier = some .absent then throw .missingMember
        return strategy⟩ : Reported Strategy) = built := by
    obtain ⟨events, outcome⟩ := built
    cases outcome with
    | error fault => rfl
    | ok strategy =>
      simp only [Outcome.ok_bind, Outlook.mapM_shownCondition_own, if_neg present]
      rfl
  rw [build, settled_bare present]
  cases classified : builder.variant.needsClassifier && builder.classifier.isNone with
  | true =>
    rw [Builder.build, classified]
    rfl
  | false => exact showing builder.build

end HeldBuilder

namespace HeldStrategy

/-- The fork of a strategy held without values is that of the strategy. -/
theorem toBuilder_bare
    (strategy : Strategy) :
    toBuilder (.bare strategy) = strategy.toBuilder := by
  have collected : toBuilder (.bare strategy) = (do
      let registered :=
        ((strategy.plan.rules.conditions.map Content.own).map Content.condition).foldl
          Builder.retryOn (Builder.fresh strategy.variant)
      let classified := registered.treatAsThrottling strategy.plan.rules.classifier
      let budgeted ← classified.setMaxAttempts strategy.plan.maxAttempts
      let paced ←
        budgeted.setBackoff strategy.plan.rules.baseDelay strategy.plan.rules.maxBackoff
      let builder ← paced.setThrottledBackoff strategy.plan.rules.throttledBaseDelay
      let marked ←
        if strategy.variant.tracksDefaults then
          pure { builder with defaultsAdded := strategy.defaultsAdded }
        else pure builder
      let _ ← (strategy.plan.rules.conditions.map Content.own).mapM Content.shownCondition
      return marked) := rfl
  rw [collected, Outlook.map_condition_own, Outlook.mapM_shownCondition_own,
    Strategy.toBuilder]
  cases strategy.variant.tracksDefaults <;> rfl

/-- Strategies held without values are equal where they are of the same label and equal field by
field. -/
theorem same_bare
    {left right : Strategy}
    (label : left.label = right.label) :
    same (.bare left) (.bare right) =
      .ok (decide (left.plan.rules.conditions = right.plan.rules.conditions) &&
        decide (left.plan.rules.classifier = right.plan.rules.classifier) &&
        Value.sameItems
          [left.plan.maxAttempts, left.plan.rules.baseDelay,
            left.plan.rules.throttledBaseDelay, left.plan.rules.maxBackoff]
          [right.plan.maxAttempts, right.plan.rules.baseDelay,
            right.plan.rules.throttledBaseDelay, right.plan.rules.maxBackoff] &&
        left.defaultsAdded.same right.defaultsAdded) := by
  have labels : ¬left.label ≠ right.label := not_not_intro label
  show (if left.label ≠ right.label then .ok false else _ : Except Fault Bool) = _
  rw [if_neg labels]
  rfl

end HeldStrategy

namespace Annotated

/-- A builder that a session holds without values performs every operation as the builder
does. -/
theorem perform_bare
    (env : Environment)
    (operation : Operation)
    (budget : Except Fault Value)
    (builder : Builder) :
    perform env operation budget (.bare (.builder builder)) =
      (builder.perform env operation).lift fun builder => .bare (.builder builder) := by
  have held : perform env operation budget (.bare (.builder builder)) =
      (HeldBuilder.perform env operation (.bare builder)).lift (·.map .builder) := by
    rw [perform, bare, Attributes.reach_empty]
    rfl
  rw [held, HeldBuilder.perform_bare]
  rfl

theorem askDefaults_bare
    (name : Value)
    (builder : Builder) :
    askDefaults name (.bare (.builder builder)) =
      (.bare (.builder builder),
        if builder.variant.tracksDefaults then builder.lacksDefaults name
        else .error .missingMember) := rfl

theorem build_bare
    {builder : Builder}
    (present : builder.classifier ≠ some .absent) :
    build (.bare (.builder builder)) = builder.build :=
  HeldBuilder.build_bare present

theorem toBuilder_bare
    (strategy : Strategy) :
    toBuilder (.bare (.retrier (.strategy strategy))) = strategy.toBuilder :=
  HeldStrategy.toBuilder_bare strategy

end Annotated
end Retry
