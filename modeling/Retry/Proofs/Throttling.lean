import Retry.Proofs.Decision

/-!
# Throttled failures

The classifier that picks the tier of a delay and the condition on throttled failures are
registered apart from each other, but ask a failure the same question.  The main statement
says that a plan with both retries every failure that it gives a throttled delay, whatever
else the failure answers and whatever other conditions there are.
-/

namespace Retry

namespace Plan

/-- Whether a plan asks the conditions of the taxonomy, among any others, and has the
classifier of throttled failures. -/
structure SpotsThrottling (plan : Plan) : Prop where
  conditions : Condition.sdk ⊆ plan.rules.conditions
  classifier : plan.rules.classifier = .throttlingClassifier

variable {users : UserConditions} {plan : Plan} {failure : Failure}

/-- The classifier answers what the condition on throttled failures does. -/
theorem SpotsThrottling.isThrottling_eq
    (spots : plan.SpotsThrottling)
    (users : UserConditions)
    (failure : Failure) :
    (plan.isThrottling users failure).outcome = Condition.throttled.answer users failure := by
  rw [isThrottling, spots.classifier]
  rfl

/-- A failure that no condition approves of is not classified as throttled. -/
theorem SpotsThrottling.classifies_of_refused
    (spots : plan.SpotsThrottling)
    (refused : (plan.isRetryable users failure).outcome = .ok false) :
    ∃ value, (plan.isThrottling users failure).outcome = .ok value ∧ value.isTruthy = false := by
  have asked : Condition.throttled ∈ plan.rules.conditions := spots.conditions (by decide)
  obtain ⟨value, answers, told⟩ := Condition.outcome_any_eq_false_iff.mp refused _ asked
  rw [spots.isThrottling_eq]
  exact ⟨value, answers, Except.ok.inj told⟩

/-- A failure that is classified as throttled is one to retry, if the conditions come to an
answer about it. -/
theorem SpotsThrottling.approves_of_throttled
    (spots : plan.SpotsThrottling)
    {value : Value}
    (throttled : (plan.isThrottling users failure).outcome = .ok value)
    (truthy : value.isTruthy = true)
    {decision : Bool}
    (decides : (plan.isRetryable users failure).outcome = .ok decision) :
    decision = true := by
  cases decision with
  | true => rfl
  | false =>
    obtain ⟨other, classified, falsy⟩ := spots.classifies_of_refused decides
    rw [throttled] at classified
    cases classified
    rw [truthy] at falsy
    cases falsy

/-- The delay after a failure that no condition approves of is that of the generic tier. -/
theorem SpotsThrottling.computeDelay_of_refused
    (spots : plan.SpotsThrottling)
    (refused : (plan.isRetryable users failure).outcome = .ok false)
    (attempt : Value) :
    (plan.computeDelay users attempt failure).outcome =
      backoff plan.rules.baseDelay plan.rules.maxBackoff attempt := by
  obtain ⟨value, classified, falsy⟩ := spots.classifies_of_refused refused
  have told : plan.rules.classifier.tell users failure value = .ok false := by
    rw [spots.classifier, ← falsy]
    rfl
  exact computeDelay_of_told classified told attempt

theorem shouldRetry_of_unspent
    {attempt : Value}
    (unspent : isSpent plan.maxAttempts attempt = .ok false) :
    plan.shouldRetry users failure attempt = plan.isRetryable users failure := by
  rw [shouldRetry, unspent]

end Plan

/-- The plans of the modes ask the conditions of the taxonomy, and have its classifier. -/
theorem Mode.spotsThrottling_plan
    (mode : Mode)
    (override : Option Int) :
    (mode.plan override).SpotsThrottling where
  conditions := List.subset_append_left ..
  classifier := rfl

/-- The retriers of the modes, and all others with the conditions of the taxonomy and its
classifier, retry every failure that is classified as throttled while the budget lasts, if
the conditions come to an answer about it, and they do where all of them decide.  No delay
after a failure that they would refuse is of the throttled tier. -/
theorem Retrier.retries_throttled
    {retrier : Retrier}
    (made : (∃ env mode, (forMode env mode).outcome = .ok retrier) ∨
      retrier.plan.SpotsThrottling)
    (users : UserConditions)
    (failure : Failure) :
    (∀ value, (retrier.plan.isThrottling users failure).outcome = .ok value →
      value.isTruthy = true →
      (∀ decision, (retrier.plan.isRetryable users failure).outcome = .ok decision →
        decision = true ∧
        ∀ attempt, Plan.isSpent retrier.plan.maxAttempts attempt = .ok false →
          (retrier.plan.shouldRetry users failure attempt).outcome = .ok true) ∧
      ((∀ condition ∈ retrier.plan.rules.conditions, condition.Decides users failure) →
        (retrier.plan.isRetryable users failure).outcome = .ok true)) ∧
    ((retrier.plan.isRetryable users failure).outcome = .ok false →
      ∀ attempt, (retrier.plan.computeDelay users attempt failure).outcome =
        backoff retrier.plan.rules.baseDelay retrier.plan.rules.maxBackoff attempt) := by
  have spots : retrier.plan.SpotsThrottling := by
    rcases made with ⟨env, mode, selected⟩ | spots
    · obtain ⟨override, _, plan⟩ := Mode.plan_of_retrier selected
      rw [plan]
      exact mode.spotsThrottling_plan override
    · exact spots
  refine ⟨?_, spots.computeDelay_of_refused⟩
  intro value throttled truthy
  constructor
  · intro decision decides
    have yes : decision = true := spots.approves_of_throttled throttled truthy decides
    refine ⟨yes, ?_⟩
    intro attempt unspent
    rw [Plan.shouldRetry_of_unspent unspent, decides, yes]
  · intro decisive
    obtain ⟨decision, decides, _⟩ := Condition.any_outcome decisive
    have yes : decision = true := spots.approves_of_throttled throttled truthy decides
    rw [Plan.isRetryable, decides, yes]

/-- A class of a client's whose failures say that they are not worth retrying. -/
def FailureClass.resigned : FailureClass where
  own := .defined ⟨0, "Resigned", [.known .serviceError],
    [(Question.retryable.name, .constant (.flag false))], [], ⟨true, true, .general, false⟩⟩
  inherited := [.known .serviceError, .known .sdkError, .known .exception,
    .known .baseException]
  parents_follow := by decide
  distinct := by decide

/-- A failure that says that it is not worth retrying, of a request that the service
throttled. -/
def Failure.throttledResigned : Failure :=
  .mk (((Facts.bare .resigned [.text "slow down"]).keep .statusCode .null).keep
    .errorCode (.text "ThrottlingException")) .none none

/-- A builder of legacy strategies with the conditions of the taxonomy behind one of the
user's own. -/
def Builder.withUserFirst : Builder :=
  ((Builder.fresh .legacy).retryOn (.user "never")).canonical

/-- The first attempt of a throttled request is followed by another although the failure and
the user's condition are against it. -/
theorem Retrier.retries_throttledResigned :
    ∃ strategy, Builder.withUserFirst.build.outcome = .ok strategy ∧
      Condition.inherentlyRetryable.answer (fun _ _ => .ok (.flag false))
        Failure.throttledResigned = .ok (.flag false) ∧
      (strategy.plan.shouldRetry (fun _ _ => .ok (.flag false)) Failure.throttledResigned
        (.int 1)).outcome = .ok true := by
  refine ⟨_, rfl, rfl, ?_⟩
  have spots : (Retrier.strategy Builder.withUserFirst.strategy).plan.SpotsThrottling :=
    ⟨by decide, rfl⟩
  have classified : Condition.throttled.answer (fun _ _ => .ok (.flag false))
      Failure.throttledResigned = .ok (.flag true) := rfl
  have retried := ((retries_throttled (Or.inr spots) (fun _ _ => .ok (.flag false))
    Failure.throttledResigned).1 (.flag true) ((spots.isThrottling_eq ..).trans classified)
    rfl).1
  exact (retried true rfl).2 (.int 1) (Plan.isSpent_int 4 1)

end Retry
