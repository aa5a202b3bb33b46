import Retry.Proofs.Failure.Answerable

/-!
# Well-typed failures

The taxonomy reads two codes of a service failure and a flag of a client failure, and
something of a client's may answer a question in its place.  A failure is *well-typed* where
what is read is there and of the kind it is meant to be, and what is asked answers.  The main
statements say that every question to such a failure is answered, and what the tables make of
its codes.
-/

namespace Retry
namespace Failure

/-- Whether what conditions read of a failure is there and of the kind it is meant to
be: codes that are keys, a flag that is a flag or null, and operations that answer where
something of a client's is asked. -/
structure WellTyped
    (failure : Failure)
    (users : UserConditions) : Prop extends failure.Inspectable where
  codes : failure.isA .serviceError = true →
    ∃ status code, failure.statusCode = .ok status ∧ status.isKey = true ∧
      failure.errorCode = .ok code ∧ code.isKey = true
  flag : failure.isA .clientError = true →
    ∃ flag, failure.retryFlag = .ok flag ∧ (flag = .null ∨ ∃ value, flag = .flag value)
  operations : ∀ question, failure.CanBeAsked users question

variable {users : UserConditions} {failure : Failure}

theorem hasRetryableStatus_of_codes
    {status : Value}
    (read : failure.statusCode = .ok status)
    (key : status.isKey = true) :
    failure.hasRetryableStatus = .ok (Codes.retryableStatuses.any status.isInt) := by
  rw [hasRetryableStatus, read, Outcome.ok_bind, Value.inStatuses, if_pos key]

theorem hasClockSkewCodes_of_codes
    {code : Value}
    (read : failure.errorCode = .ok code)
    (key : code.isKey = true) :
    failure.hasClockSkewCodes = .ok (Codes.clockSkew.any code.isText) := by
  rw [hasClockSkewCodes, read, Outcome.ok_bind, Value.inCodes, if_pos key]

theorem hasThrottlingCodes_of_codes
    {status code : Value}
    (readStatus : failure.statusCode = .ok status)
    (readCode : failure.errorCode = .ok code)
    (key : code.isKey = true) :
    failure.hasThrottlingCodes =
      .ok (status.isInt Codes.throttlingStatus || Codes.throttling.any code.isText) := by
  rw [hasThrottlingCodes, readStatus, Outcome.ok_bind]
  cases status.isInt Codes.throttlingStatus with
  | true => rfl
  | false =>
    simp only [Bool.false_eq_true, if_false, Outcome.pure_eq, Outcome.ok_bind,
      Bool.false_or, readCode, Value.inCodes, if_pos key]

/-- Of a well-typed failure everything that the questions read or ask is there and of
use. -/
theorem WellTyped.answerable
    (typed : failure.WellTyped users) :
    failure.Answerable users where
  claims := fun _ => typed.claims
  look := fun _ => typed.toInspectable.look
  retryable := fun _ => typed.operations _
  throttling := fun _ => typed.operations _
  clockSkew := fun _ => typed.operations _
  status := fun service => by
    obtain ⟨status, _, read, key, _, _⟩ := typed.codes service
    exact ⟨status, read, key⟩
  throttlingKey := fun service _ => by
    obtain ⟨status, code, readStatus, _, readCode, key⟩ := typed.codes service
    exact ⟨status, readStatus, Or.inr ⟨code, readCode, key⟩⟩
  clockSkewKey := fun service _ => by
    obtain ⟨_, code, _, _, read, key⟩ := typed.codes service
    exact ⟨code, read, key⟩
  flag := fun found => by
    obtain ⟨flag, read, _⟩ := typed.flag (isClient_of_flagOrCause found)
    exact ⟨flag, read, fun _ => ⟨_, typed.toInspectable.hasInputOutputCause⟩⟩

end Failure
end Retry
