import Retry.Proofs.Condition.Domain
import Retry.Proofs.Failure.WellTyped

/-!
# The canonical conditions

Configuration registers four conditions on the taxonomy and four on classes, and the
classifier of throttled failures.  The main statements say that all of them have an
answer about every failure that is answerable and can be looked at.
-/

namespace Retry

namespace Condition

variable {users : UserConditions} {failure : Failure}

/-- Every canonical condition is one of the taxonomy or one on a class. -/
theorem mem_canonical
    {condition : Condition}
    (canonical : condition ∈ Condition.canonical) :
    condition ∈ sdk ∨ ∃ known, condition = .instanceOrCauseOf (.known known) := by
  rcases List.mem_append.mp canonical with taxonomy | class_
  · exact Or.inl taxonomy
  · obtain ⟨known, _, same⟩ := List.mem_map.mp class_
    exact Or.inr ⟨known, same.symm⟩

/-- What a condition on a class answers. -/
theorem answer_instanceOrCauseOf
    (inspectable : failure.Inspectable)
    (known : KnownClass) :
    answer users failure (.instanceOrCauseOf (.known known)) =
      .ok (.flag (failure.isA known || failure.isCausedByA known)) := by
  rw [answer, inspectable.isInstance, inspectable.isCausedBy, Outcome.seen_ok,
    Outcome.ok_bind, Outcome.seen_ok]
  cases failure.isA known <;> rfl

theorem answer_inherentlyRetryable
    (inspectable : failure.Inspectable) :
    answer users failure .inherentlyRetryable =
      if failure.isA .sdkError then failure.askRetryable users else .ok (.flag false) := by
  rw [inherentlyRetryable_eq, inspectable.answerIf_eq]

/-- What the condition on throttling, and the classifier, answer. -/
theorem answer_throttled
    (inspectable : failure.Inspectable) :
    answer users failure .throttled =
      if failure.isA .serviceError then failure.askThrottling users else .ok (.flag false) := by
  rw [throttled_eq, inspectable.answerIf_eq]

theorem answer_clockSkew
    (inspectable : failure.Inspectable) :
    answer users failure .clockSkew =
      if failure.isA .serviceError then failure.askClockSkew users else .ok (.flag false) := by
  rw [clockSkew_eq, inspectable.answerIf_eq]

theorem answer_retryableStatus
    (inspectable : failure.Inspectable) :
    answer users failure .retryableStatus =
      if failure.isA .serviceError then .flag <$> failure.hasRetryableStatus
      else .ok (.flag false) := by
  rw [retryableStatus_eq, inspectable.answerIf_eq]

/-- The classifier has an answer about every answerable failure. -/
theorem classifier_returns
    (answerable : failure.Answerable users) :
    throttlingClassifier.Returns users failure :=
  predicates_return_iff.mpr answerable _ (by decide)

/-- Every answer of a canonical condition speaks for itself. -/
theorem canonical_clear :
    ∀ condition ∈ canonical, condition.isVague = false := by
  decide

/-- Every canonical condition decides about every failure that is answerable and can be looked
at. -/
theorem canonical_decide
    (answerable : failure.Answerable users)
    (inspectable : failure.Inspectable) :
    ∀ condition ∈ canonical, condition.Decides users failure := by
  intro condition member
  have returns : condition.Returns users failure := by
    rcases mem_canonical member with taxonomy | ⟨known, rfl⟩
    · exact predicates_return_iff.mpr answerable condition (List.mem_append_left _ taxonomy)
    · exact ⟨_, answer_instanceOrCauseOf inspectable known⟩
  exact decides_of_returns (canonical_clear condition member) returns

end Condition
end Retry
