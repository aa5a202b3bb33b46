import Retry.Proofs.Builder.Account
import Retry.Proofs.Builder.Source

/-!
# Classifiers of builders

A builder has the classifier that was registered last.  The main statements say which
operations register one, also where they fail, and that a builder whose markers are texts
misses nothing else when it builds a strategy.
-/

namespace Retry

namespace Operation

/-- The classifier that an operation registers, if it registers one; none can be registered
too.  The canonical bundle brings its own only while it is not marked, and configuration
always does. -/
def classifier? (marked : Bool) : Operation → Option (Option Condition)
  | treatAsThrottling condition => some (if condition = .absent then none else some condition)
  | addConditions | configure => some (some .throttlingClassifier)
  | applyDefaults .sdk | addDefaults .sdk =>
    if marked then none else some (some .throttlingClassifier)
  | retryOn _ | retryOnInstanceOf _ | retryOnInstanceOrCauseOf _ | maxAttempts _ | backoff _
  | throttledBackoff _ | markDefaults _ | applyDefaults (.own _) | addDefaults (.own _) => none

/-- Whether all names by which an operation marks bundles are texts. -/
def MarksTexts : Operation → Prop
  | markDefaults name => name.text?.isSome = true
  | applyDefaults defaults | addDefaults defaults => defaults.name.text?.isSome = true
  | _ => True

end Operation

namespace Effect

theorem filterMap_classifier_canonical :
    canonical.filterMap classifier? = [some .throttlingClassifier] := rfl

theorem filterMap_classifier_delay
    (given bound : Value) :
    (backoff given bound).filterMap classifier? = [] := by
  rw [backoff]
  split
  · split <;> rfl
  · rfl

section Setters

variable (env : Environment) (marked : Value → Bool) (arguments : List Value)

theorem filterMap_classifier_maxAttempts :
    ((Operation.maxAttempts arguments).effects env marked).filterMap classifier? = [] := by
  match arguments with
  | [] | _ :: _ :: _ => rfl
  | [given] =>
    rw [Operation.effects, budget]
    split <;> rfl

theorem filterMap_classifier_backoff :
    ((Operation.backoff arguments).effects env marked).filterMap classifier? = [] := by
  match arguments with
  | [] | _ :: _ :: _ :: _ => rfl
  | [given] => exact filterMap_classifier_delay given .null
  | [given, bound] => exact filterMap_classifier_delay given bound

theorem filterMap_classifier_throttledBackoff :
    ((Operation.throttledBackoff arguments).effects env marked).filterMap classifier? = [] := by
  match arguments with
  | [] | _ :: _ :: _ => rfl
  | [given] =>
    rw [Operation.effects, throttledBackoff]
    split <;> rfl

end Setters

theorem filterMap_classifier_configuration
    (env : Environment) :
    (configuration env).filterMap classifier? = [some .throttlingClassifier] := by
  rw [configuration, List.filterMap_append, filterMap_classifier_canonical]
  split <;> rfl

theorem filterMap_classifier_sdk
    (marked : Value → Bool) :
    (Defaults.sdk.effects marked).filterMap classifier? =
      if marked (.text sdkDefaults) then [] else [some .throttlingClassifier] := by
  rw [Defaults.effects]
  split <;> rfl

theorem filterMap_classifier_own
    (bundle : Bundle)
    (marked : Value → Bool) :
    ((Defaults.own bundle).effects marked).filterMap classifier? = [] := by
  have registers : (bundle.conditions.map condition).filterMap classifier? = [] := by
    simp [classifier?]
  rw [Defaults.effects, List.filterMap_append, registers]
  split <;> rfl

/-- An operation sets the classifier at most once, to the one that it registers. -/
theorem filterMap_classifier_effects
    (env : Environment)
    (marked : Value → Bool)
    (operation : Operation) :
    (operation.effects env marked).filterMap classifier? =
      (operation.classifier? (marked (.text sdkDefaults))).toList := by
  have sdk : (Defaults.sdk.effects marked).filterMap classifier? =
      (Operation.classifier? (marked (.text sdkDefaults)) (.applyDefaults .sdk)).toList := by
    rw [filterMap_classifier_sdk, Operation.classifier?]
    split <;> rfl
  cases operation with
  | retryOn | retryOnInstanceOf | retryOnInstanceOrCauseOf | treatAsThrottling | markDefaults
  | addConditions => rfl
  | maxAttempts arguments => exact filterMap_classifier_maxAttempts env marked arguments
  | backoff arguments => exact filterMap_classifier_backoff env marked arguments
  | throttledBackoff arguments =>
    exact filterMap_classifier_throttledBackoff env marked arguments
  | configure => exact filterMap_classifier_configuration env
  | applyDefaults defaults =>
    cases defaults with
    | sdk => exact sdk
    | own bundle => exact filterMap_classifier_own bundle marked
  | addDefaults defaults =>
    cases defaults with
    | sdk =>
      -- The bundle is offered only where it is not marked, and not taken in elsewhere.
      rw [Operation.effects]
      split
      · exact sdk
      · rename_i refused
        have isMarked : marked (.text sdkDefaults) = true := by
          simpa [Defaults.name, Value.isKey] using refused
        rw [Operation.classifier?, if_pos isMarked]
        rfl
    | own bundle =>
      rw [Operation.effects]
      split
      · exact filterMap_classifier_own bundle marked
      · rfl

end Effect

namespace Builder

variable {builder : Builder}

theorem classifier_takeAll
    (builder : Builder)
    (effects : List Effect) :
    (builder.takeAll effects).classifier =
      (effects.filterMap Effect.classifier?).getLastD builder.classifier := by
  induction effects generalizing builder with
  | nil => rfl
  | cons first rest inductionHypothesis =>
    rw [takeAll_cons, inductionHypothesis, take_eq]
    cases sets : first.classifier? with
    | none => rw [List.filterMap_cons_none sets, Option.getD_none]
    | some given => rw [List.filterMap_cons_some sets, List.getLastD_cons, Option.getD_some]

/-- An operation leaves the classifier that it registers, also where it fails, or else the one
that was there. -/
theorem classifier_perform
    (tracks : builder.variant.tracksDefaults = true)
    (env : Environment)
    (operation : Operation) :
    (builder.perform env operation).builder.classifier =
      (operation.classifier? (builder.defaultsAdded.contains (.text sdkDefaults))).getD
        builder.classifier := by
  rw [builder_perform tracks, classifier_takeAll, Effect.filterMap_classifier_effects]
  cases operation.classifier? (builder.defaultsAdded.contains (.text sdkDefaults)) <;> rfl

/-- An operation that marks bundles by texts leaves markers that are texts. -/
theorem areTexts_perform
    (tracks : builder.variant.tracksDefaults = true)
    (texts : builder.defaultsAdded.AreTexts)
    {operation : Operation}
    (marksTexts : operation.MarksTexts)
    (env : Environment) :
    (builder.perform env operation).builder.defaultsAdded.AreTexts := by
  refine perform_keeps_of_brings (fun builder => builder.defaultsAdded.AreTexts) ?_ tracks texts
  intro effect brings builder texts
  cases brings with
  | condition _ condition =>
    obtain ⟨conditions, registered⟩ := builder.exists_retryOn_eq condition
    rw [take, registered]
    exact texts
  | classifier | budget | override | baseDelay | maxBackoff | throttledBaseDelay => exact texts
  | canonicalMarker => exact texts.including rfl
  | marker | applied | added => exact texts.including marksTexts

/-- A builder of strategies whose markers are texts builds what it has collected, unless it
needs a classifier and has none, and reports its markers. -/
theorem build_of_areTexts
    (texts : builder.defaultsAdded.AreTexts)
    (concrete : builder.variant.isConcrete = true) :
    ∃ names, names.Perm builder.defaultsAdded.values ∧
      builder.build =
        if builder.variant.needsClassifier && builder.classifier.isNone then
          ⟨[], .error .missingClassifier⟩
        else
          ⟨[.strategyBuilt builder.variant.kind builder.maxAttempts builder.conditions.length
              names],
            .ok builder.strategy⟩ := by
  obtain ⟨names, sorted, perm⟩ := texts.exists_sorted?
  refine ⟨names, perm, ?_⟩
  rw [build, if_pos concrete, sorted]

end Builder
end Retry
