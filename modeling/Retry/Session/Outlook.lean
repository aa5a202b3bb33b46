import Retry.Plan
import Retry.Session.Attributes

/-!
# Outlooks

An object in whose places a user put values may not have all that makes a plan, or
have values where a plan has conditions.  It still answers the questions that a plan
answers, as far as these get: a part is looked at when an answer comes to need it,
and is only then found missing.  The main statements say that the outlook of a plan
answers as the plan does.
-/

namespace Retry

namespace Content

/-- What is asked where a condition stands.  A value can be asked no more than a
condition that is absent. -/
def condition : Content Condition → Condition
  | own condition => condition
  | value _ => .absent

/-- The condition that is shown where a condition stands.  Null is shown as a
condition that is absent, and no other value as a condition. -/
def shownCondition : Content Condition → Except Fault Condition
  | own condition => .ok condition
  | value .null => .ok .absent
  | value _ => .error .missingMember

/-- The contents of a collection of conditions, which a value is if it has items. -/
def conditions : Content (List Condition) → Except Fault (List (Content Condition))
  | own conditions => .ok (conditions.map own)
  | value items => List.map value <$> compatible items.items?

end Content

/-- The parts of a plan, each as it is found when it is looked at. -/
structure Outlook where
  maxAttempts : Except Fault Value
  conditions : Except Fault (List (Content Condition))
  classifier : Except Fault (Content Condition)
  baseDelay : Except Fault Value
  throttledBaseDelay : Except Fault Value
  maxBackoff : Except Fault Value

namespace Outlook

/-- The outlook of a plan, which has all parts. -/
def ofPlan (plan : Plan) : Outlook where
  maxAttempts := .ok plan.maxAttempts
  conditions := .ok (plan.rules.conditions.map .own)
  classifier := .ok (.own plan.rules.classifier)
  baseDelay := .ok plan.rules.baseDelay
  throttledBaseDelay := .ok plan.rules.throttledBaseDelay
  maxBackoff := .ok plan.rules.maxBackoff

/-- The outlook as it answers through the values kept with an object.  Where a question
is hidden, nothing can be asked in its course. -/
def behind
    (attributes : Attributes)
    (outlook : Outlook) : Outlook :=
  { outlook with
    conditions :=
      if attributes.hides "is_retryable" then .error .incompatible else outlook.conditions
    classifier :=
      if attributes.hides "is_throttling" then .error .incompatible else outlook.classifier }

/-- The plan that is shown of an outlook. -/
def shown (outlook : Outlook) : Except Fault Plan := do
  let conditions ← (← outlook.conditions).mapM Content.shownCondition
  let classifier ← (← outlook.classifier).shownCondition
  let maxAttempts ← outlook.maxAttempts
  return ⟨maxAttempts, conditions, classifier, ← outlook.baseDelay,
    ← outlook.throttledBaseDelay, ← outlook.maxBackoff⟩

variable (users : UserConditions)

/-- Whether any condition says to retry after a failure. -/
def isRetryable
    (outlook : Outlook)
    (failure : Failure) : Consultation Bool :=
  match outlook.conditions with
  | .error fault => .unasked (.error fault)
  | .ok conditions => Condition.any users failure (conditions.map Content.condition)

/-- What the classifier answers about a failure. -/
def isThrottling
    (outlook : Outlook)
    (failure : Failure) : Consultation Value :=
  match outlook.classifier with
  | .error fault => .unasked (.error fault)
  | .ok classifier => classifier.condition.consult users failure

/-- Whether to retry after a failure of the attempt with the given number. -/
def shouldRetry
    (outlook : Outlook)
    (failure : Failure)
    (attempt : Value) : Consultation Bool :=
  match outlook.maxAttempts.bind fun budget => Plan.isSpent budget attempt with
  | .error fault => .unasked (.error fault)
  | .ok true => .unasked (.ok false)
  | .ok false => outlook.isRetryable users failure

/-- How long to wait after a failure of the attempt with the given number. -/
def computeDelay
    (outlook : Outlook)
    (attempt : Value)
    (failure : Failure) : Consultation Value :=
  let classified := outlook.isThrottling users failure
  ⟨classified.asked, do
    let answer ← classified.outcome
    let classifier ← outlook.classifier
    let throttled ← classifier.condition.tell users failure answer
    let base ← if throttled then outlook.throttledBaseDelay else outlook.baseDelay
    let bound ← outlook.maxBackoff
    backoff base bound attempt⟩

@[simp] theorem behind_empty
    (outlook : Outlook) :
    outlook.behind .empty = outlook := rfl

@[simp] theorem map_condition_own
    (conditions : List Condition) :
    (conditions.map Content.own).map Content.condition = conditions := by
  induction conditions with
  | nil => rfl
  | cons condition rest inductionHypothesis =>
    simp only [List.map_cons, Content.condition, inductionHypothesis]

@[simp] theorem mapM_shownCondition_own
    (conditions : List Condition) :
    (conditions.map Content.own).mapM Content.shownCondition = .ok conditions := by
  induction conditions with
  | nil => rfl
  | cons condition rest inductionHypothesis =>
    rw [List.map_cons, List.mapM_cons, inductionHypothesis]
    rfl

@[simp] theorem shown_ofPlan
    (plan : Plan) :
    (ofPlan plan).shown = .ok plan := by
  simp only [shown, ofPlan, bind, Except.bind, mapM_shownCondition_own]
  rfl

@[simp] theorem isRetryable_ofPlan
    (plan : Plan)
    (failure : Failure) :
    (ofPlan plan).isRetryable users failure = plan.isRetryable users failure := by
  simp only [isRetryable, ofPlan, map_condition_own, Plan.isRetryable]

@[simp] theorem isThrottling_ofPlan
    (plan : Plan)
    (failure : Failure) :
    (ofPlan plan).isThrottling users failure = plan.isThrottling users failure := rfl

@[simp] theorem shouldRetry_ofPlan
    (plan : Plan)
    (failure : Failure)
    (attempt : Value) :
    (ofPlan plan).shouldRetry users failure attempt =
      plan.shouldRetry users failure attempt := by
  simp only [shouldRetry, Plan.shouldRetry, isRetryable_ofPlan]
  rfl

@[simp] theorem computeDelay_ofPlan
    (plan : Plan)
    (attempt : Value)
    (failure : Failure) :
    (ofPlan plan).computeDelay users attempt failure =
      plan.computeDelay users attempt failure := by
  simp only [computeDelay, Plan.computeDelay, isThrottling_ofPlan]
  congr 1
  cases (plan.isThrottling users failure).outcome with
  | error fault => rfl
  | ok answer =>
    show (do
      let throttled ← plan.rules.classifier.tell users failure answer
      let base ← if throttled then (ofPlan plan).throttledBaseDelay
        else (ofPlan plan).baseDelay
      let bound ← (ofPlan plan).maxBackoff
      backoff base bound attempt) = (do
      let throttled ← plan.rules.classifier.tell users failure answer
      backoff (plan.rules.baseOf throttled) plan.rules.maxBackoff attempt)
    refine bind_congr fun throttled => ?_
    cases throttled <;> rfl

end Outlook
end Retry
