import Retry.Backoff
import Retry.Condition

/-!
# Plans

A plan is what every finished strategy and policy comes down to: a budget of
attempts, the conditions to retry under, the classifier of throttled failures
and the delays of the two tiers.  It answers, after each failed attempt, whether
to retry and how long to wait.
-/

namespace Retry

/-- Under which conditions to retry, and after which delays. -/
structure Rules where
  conditions : List Condition
  classifier : Condition
  baseDelay : Value
  throttledBaseDelay : Value
  maxBackoff : Value

namespace Rules

/-- Equality of rules, field by field. -/
def same (left right : Rules) : Bool :=
  left.conditions = right.conditions && left.classifier = right.classifier &&
    left.baseDelay.same right.baseDelay &&
    left.throttledBaseDelay.same right.throttledBaseDelay &&
    left.maxBackoff.same right.maxBackoff

/-- The base delay of the throttled tier or of the generic one. -/
def baseOf
    (rules : Rules)
    (throttled : Bool) : Value :=
  if throttled then rules.throttledBaseDelay else rules.baseDelay

end Rules

/-- Rules with a budget of attempts, the first one included. -/
structure Plan where
  maxAttempts : Value
  rules : Rules

namespace Plan

/-- Equality of plans, field by field. -/
def same (left right : Plan) : Bool :=
  left.maxAttempts.same right.maxAttempts && left.rules.same right.rules

/-- Whether any condition says to retry after a failure. -/
def isRetryable
    (users : UserConditions)
    (plan : Plan)
    (failure : Failure) : Consultation Bool :=
  Condition.any users failure plan.rules.conditions

/-- What the classifier answers about a failure. -/
def isThrottling
    (users : UserConditions)
    (plan : Plan)
    (failure : Failure) : Consultation Value :=
  plan.rules.classifier.consult users failure

/-- Whether an attempt is the last that a budget allows. -/
def isSpent
    (maxAttempts attempt : Value) : Except Fault Bool :=
  compatible (maxAttempts.ordered? .atMost attempt)

/-- Whether to retry after a failure of the attempt with the given number.  Once
the budget is spent no condition is asked. -/
def shouldRetry
    (users : UserConditions)
    (plan : Plan)
    (failure : Failure)
    (attempt : Value) : Consultation Bool :=
  match isSpent plan.maxAttempts attempt with
  | .error fault => .unasked (.error fault)
  | .ok true => .unasked (.ok false)
  | .ok false => plan.isRetryable users failure

/-- How long to wait after a failure of the attempt with the given number. -/
def computeDelay
    (users : UserConditions)
    (plan : Plan)
    (attempt : Value)
    (failure : Failure) : Consultation Value :=
  let classified := plan.isThrottling users failure
  ⟨classified.asked, do
    let answer ← classified.outcome
    let throttled ← plan.rules.classifier.tell users failure answer
    backoff (plan.rules.baseOf throttled) plan.rules.maxBackoff attempt⟩

/-- The delay after a failure of which the classifier says, one way or the other, whether it
was throttled. -/
theorem computeDelay_of_told
    {users : UserConditions}
    {plan : Plan}
    {failure : Failure}
    {answer : Value}
    {throttled : Bool}
    (answers : (plan.isThrottling users failure).outcome = .ok answer)
    (told : plan.rules.classifier.tell users failure answer = .ok throttled)
    (attempt : Value) :
    (plan.computeDelay users attempt failure).outcome =
      backoff (plan.rules.baseOf throttled) plan.rules.maxBackoff attempt := by
  simp only [computeDelay, answers, bind, Except.bind, told]

end Plan
end Retry
