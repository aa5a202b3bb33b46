import Retry.Proofs.Condition.Search
import Retry.Proofs.Failure.Answerable

/-!
# Where the conditions have an answer

The conditions of the taxonomy, and the classifier, tell the failures of the taxonomy from
all others, and hand on to these the question that they stand for.  The main statements say
that they all have an answer exactly about the answerable failures, and which answer that is
for a failure outside the taxonomy.
-/

namespace Retry
namespace Condition

/-- The conditions of the taxonomy and the classifier of throttled failures. -/
def predicates : List Condition :=
  sdk ++ [throttlingClassifier]

variable {users : UserConditions} {failure : Failure}

theorem mem_predicates_iff
    {condition : Condition} :
    condition ∈ predicates ↔
      condition = inherentlyRetryable ∨ condition = retryableStatus ∨
        condition = clockSkew ∨ condition = throttled ∨ condition = throttlingClassifier := by
  simp [predicates, sdk]

theorem inherentlyRetryable_eq
    (users : UserConditions)
    (failure : Failure) :
    answer users failure inherentlyRetryable =
      failure.answerIf .sdkError (failure.askRetryable users) := rfl

theorem retryableStatus_eq
    (users : UserConditions)
    (failure : Failure) :
    answer users failure retryableStatus =
      failure.answerIf .serviceError (.flag <$> failure.hasRetryableStatus) := rfl

theorem clockSkew_eq
    (users : UserConditions)
    (failure : Failure) :
    answer users failure clockSkew =
      failure.answerIf .serviceError (failure.askClockSkew users) :=
  failure.answerIf_sdk_service (failure.askClockSkew users)

theorem throttled_eq
    (users : UserConditions)
    (failure : Failure) :
    answer users failure throttled =
      failure.answerIf .serviceError (failure.askThrottling users) :=
  failure.answerIf_sdk_service (failure.askThrottling users)

theorem inherentlyRetryable_returns_iff :
    inherentlyRetryable.Returns users failure ↔
      (failure.isA .sdkError = true → Outcome.Returns (failure.askRetryable users)) ∧
      (failure.isA .sdkError = false → failure.failureClass.checkClaim = .ok ()) := by
  rw [Returns, inherentlyRetryable_eq]
  exact Failure.answerIf_returns_iff

theorem retryableStatus_returns_iff :
    retryableStatus.Returns users failure ↔
      (failure.isA .serviceError = true → failure.HasStatusKey) ∧
      (failure.isA .serviceError = false → failure.failureClass.checkClaim = .ok ()) := by
  rw [Returns, retryableStatus_eq, ← Failure.hasRetryableStatus_returns_iff,
    ← Outcome.returns_map_iff]
  exact Failure.answerIf_returns_iff

theorem clockSkew_returns_iff :
    clockSkew.Returns users failure ↔
      (failure.isA .serviceError = true → Outcome.Returns (failure.askClockSkew users)) ∧
      (failure.isA .serviceError = false → failure.failureClass.checkClaim = .ok ()) := by
  rw [Returns, clockSkew_eq]
  exact Failure.answerIf_returns_iff

theorem throttled_returns_iff :
    throttled.Returns users failure ↔
      (failure.isA .serviceError = true → Outcome.Returns (failure.askThrottling users)) ∧
      (failure.isA .serviceError = false → failure.failureClass.checkClaim = .ok ()) := by
  rw [Returns, throttled_eq]
  exact Failure.answerIf_returns_iff

/-- The classifier answers as the condition on throttling does. -/
theorem throttlingClassifier_returns_iff :
    throttlingClassifier.Returns users failure ↔ throttled.Returns users failure := Iff.rfl

/-- The conditions of the taxonomy and the classifier all have an answer about exactly the
answerable failures. -/
theorem predicates_return_iff :
    (∀ condition ∈ predicates, condition.Returns users failure) ↔
      failure.Answerable users := by
  simp only [mem_predicates_iff, forall_eq_or_imp, forall_eq, throttlingClassifier_returns_iff,
    and_self]
  rw [inherentlyRetryable_returns_iff, retryableStatus_returns_iff, clockSkew_returns_iff,
    throttled_returns_iff]
  constructor
  · rintro ⟨⟨retryable, _⟩, ⟨status, claims⟩, ⟨skew, _⟩, ⟨throttling, _⟩⟩
    have inItself (sdk : failure.isA .sdkError = true) :=
      (Failure.askRetryable_returns_iff sdk).mp (retryable sdk)
    have byThrottling (service : failure.isA .serviceError = true) :=
      (Failure.askThrottling_returns_iff service).mp (throttling service)
    have bySkew (service : failure.isA .serviceError = true) :=
      (Failure.askClockSkew_returns_iff service).mp (skew service)
    exact {
      claims := claims
      look := fun sdk => (inItself sdk).1
      retryable := fun sdk => (inItself sdk).2.1
      throttling := fun service => (byThrottling service).2.1
      clockSkew := fun service => (bySkew service).2.1
      status := status
      throttlingKey := fun service => (byThrottling service).2.2
      clockSkewKey := fun service => (bySkew service).2.2
      flag := fun found =>
        have client := Failure.isClient_of_flagOrCause found
        (inItself (FailureClass.isA_sdkError_of_client client)).2.2.1 found }
  · intro answerable
    exact ⟨⟨answerable.askRetryable, fun notSdk =>
        answerable.claims (Failure.notService_of_notSdk notSdk)⟩,
      ⟨answerable.status, answerable.claims⟩, ⟨answerable.askClockSkew, answerable.claims⟩,
      ⟨answerable.askThrottling, answerable.claims⟩⟩

/-- Of a failure outside the taxonomy all of them say no, whatever it carries, if it can be
looked at for the class that it says it is of. -/
theorem predicates_refuse
    (notSdk : failure.isA .sdkError = false)
    (claims : failure.failureClass.checkClaim = .ok ()) :
    ∀ condition ∈ predicates, condition.answer users failure = .ok (.flag false) := by
  have notService : failure.isA .serviceError = false := Failure.notService_of_notSdk notSdk
  have refuses {known : KnownClass} (notA : failure.isA known = false)
      (own : Except Fault Value) : failure.answerIf known own = .ok (.flag false) := by
    rw [Failure.answerIf_of_not_isA notA, claims]
    rfl
  intro condition member
  rcases mem_predicates_iff.mp member with rfl | rfl | rfl | rfl | rfl
  · exact refuses notSdk _
  · exact refuses notService _
  · exact refuses notSdk _
  · exact refuses notSdk _
  · exact refuses notSdk _

end Condition
end Retry
