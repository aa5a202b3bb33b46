import Retry.Proofs.Failure.Resemblance
import Retry.Proofs.OptOut

/-!
# Decisions about failures that resemble each other

The canonical conditions, and with them the retriers of the modes, look no further than at
what failures that resemble each other have in common, but hand on what an operation of a
client's says in place of the taxonomy.  The main statement says that failures that resemble
each other, and of which such operations say the same, are decided alike: every canonical
condition answers alike about them, every retrier of a mode retries after the one where it
retries after the other, after the same delay, and both are asked and answered by the same
conditions.
-/

namespace Retry

namespace Condition

variable {users : UserConditions} {left right : Failure}

/-- A search among conditions that answer alike about two failures, in answers that speak for
themselves, comes to the same. -/
theorem any_eq_of_agree
    {conditions : List Condition}
    (clear : ∀ condition ∈ conditions, condition.isVague = false)
    (agree : ∀ condition ∈ conditions, Outcome.Agree Value.Equals
      (condition.answer users left) (condition.answer users right)) :
    any users left conditions = any users right conditions := by
  induction conditions with
  | nil => rfl
  | cons first rest inductionHypothesis =>
    obtain ⟨firstClear, restClear⟩ := List.forall_mem_cons.mp clear
    obtain ⟨firstAgrees, restAgree⟩ := List.forall_mem_cons.mp agree
    have later := inductionHypothesis restClear restAgree
    generalize answers : first.answer users left = answer at firstAgrees
    generalize answersRight : first.answer users right = answerRight at firstAgrees
    cases firstAgrees with
    | error fault =>
      rw [any_cons_of_error (decision_of_error answers),
        any_cons_of_error (decision_of_error answersRight)]
    | @ok value valueRight equal =>
      have decided := decision_of_answer firstClear answers
      have decidedRight := decision_of_answer firstClear answersRight
      rw [← equal.countAlike.isTruthy] at decidedRight
      cases means : value.isTruthy with
      | true =>
        rw [means] at decided decidedRight
        rw [any_cons_of_true decided, any_cons_of_true decidedRight]
      | false =>
        rw [means] at decided decidedRight
        rw [any_cons_of_false decided, any_cons_of_false decidedRight, later]

variable (resembles : left.Resembles right)
  (alike : Failure.OverriddenAlike users left right)
include resembles alike

omit alike in
theorem ifSdk_eq_of_resembles
    {answer answerRight : Except Fault Value}
    (same : answer = answerRight) :
    ifSdk left answer = ifSdk right answerRight := by
  rw [ifSdk, ifSdk, resembles.isSdk, same]

/-- The classifier answers the same about failures that resemble each other and of which
operations of a client's say the same. -/
theorem classifier_answer_eq :
    throttlingClassifier.answer users left = throttlingClassifier.answer users right :=
  ifSdk_eq_of_resembles resembles (resembles.isThrottled alike)

/-- Every canonical condition answers alike about such failures.  What it hands on of a
failure is the flag at most, so its answers are as alike as the flags. -/
theorem canonical_answers_agree
    {related : Value → Value → Prop}
    (reflexive : ∀ value, related value value)
    (nulls : ∀ flag flagRight, related flag flagRight → flag.isNull = flagRight.isNull)
    (flags : Outcome.Agree related left.retryFlag right.retryFlag) :
    ∀ condition ∈ canonical, Outcome.Agree related
      (condition.answer users left) (condition.answer users right) := by
  have same {condition : Condition}
      (answers : condition.answer users left = condition.answer users right) :
      Outcome.Agree related (condition.answer users left) (condition.answer users right) := by
    rw [answers]
    exact .refl reflexive _
  intro condition member
  rcases mem_canonical member with taxonomy | ⟨known, rfl⟩
  · simp only [sdk, List.mem_cons, List.not_mem_nil, or_false] at taxonomy
    rcases taxonomy with rfl | rfl | rfl | rfl
    · rw [answer, answer, ifSdk, ifSdk, resembles.isSdk]
      apply (Outcome.Agree.refl (fun _ => rfl) right.isSdk).bind
      rintro isSdk _ rfl
      split
      · exact resembles.askRetryable alike reflexive nulls flags
      · exact .refl reflexive _
    · apply same
      rw [answer, answer, resembles.isService, resembles.hasRetryableStatus]
    · exact same (ifSdk_eq_of_resembles resembles (resembles.isClockSkewed alike))
    · exact same (ifSdk_eq_of_resembles resembles (resembles.isThrottled alike))
  · apply same
    rw [answer, answer, resembles.isInstance, resembles.isCausedBy]

end Condition

namespace Failure

variable {left right : Failure}

/-- A request that was throttled, as an integer says. -/
def throttledByInteger : Failure :=
  .mk (((Facts.bare KnownClass.serviceError.toClass [.text "slow down"]).keep .statusCode
    (.int 429)).keep .errorCode .null) (.other (.ofKnown .osError)) none

/-- A request that was throttled, as a binary64 number says, while another failure was
handled.  Its cause says more, and is the cause of itself. -/
def throttledByReal : Failure :=
  .mk (((Facts.bare KnownClass.serviceError.toClass [.text "later"]).keep .statusCode
    (.number (.real (Variant.delay 429 0)))).keep .errorCode .null)
    (.other (.mk (.bare KnownClass.osError.toClass [.int 5, .text "unreachable"]) .itself none))
    (some .unavailable)

end Failure

/-- A class of a client's whose failures answer by an operation of the client's whether they
are worth retrying. -/
def FailureClass.outspoken : FailureClass where
  own := .defined ⟨0, "Outspoken", [.known .clientError], [], [(.retryable, "saysAgain")],
    ⟨true, true, .general, false⟩⟩
  inherited := [.known .clientError, .known .sdkError, .known .exception,
    .known .baseException]
  parents_follow := by decide
  distinct := by decide

/-- The operation of the outspoken class: whether the message of a failure says to try
again. -/
def UserConditions.saysAgain : UserConditions :=
  fun _ failure => (fun message => .flag (message.isText "again")) <$> failure.part .message

namespace Failure

/-- An outspoken failure with a message. -/
def outspoken (message : String) : Failure :=
  let facts := Facts.bare .outspoken [.text message]
  .mk ((facts.keep .message (.text message)).keep .retryable .null) .none none

/-- A client failure with a flag. -/
def flagged (flag : Value) : Failure :=
  .mk ((Facts.bare KnownClass.clientError.toClass [.text "m"]).keep .retryable flag) .none none

end Failure
end Retry
