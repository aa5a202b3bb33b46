import Retry.Proofs.Condition.Canonical

/-!
# Which failures are retried

Where nothing of a client's answers in place of the taxonomy, and no failure is of both
its branches, the canonical conditions come down to three reasons to retry: the codes
of a service failure, the flag or the cause of a client failure, and the class of the
failure or of its cause.  The main statement says that one of the conditions approves
exactly where there is one of these reasons.
-/

namespace Retry

namespace Failure

/-- Whether the codes of a service failure are among those that are retried. -/
def HasRetriedCodes (failure : Failure) : Prop :=
  failure.isA .serviceError = true ∧
    ∃ status code, failure.statusCode = .ok status ∧ failure.errorCode = .ok code ∧
      (Codes.retryableStatuses.any status.isInt = true ∨
        status.isInt Codes.throttlingStatus = true ∨
        Codes.throttling.any code.isText = true ∨
        Codes.clockSkew.any code.isText = true)

/-- Whether a client failure is flagged to be retried, or, without a flag, caused by
one of input or output. -/
def IsMeantToBeRetried (failure : Failure) : Prop :=
  failure.isA .clientError = true ∧
    (failure.retryFlag = .ok (.flag true) ∨
      failure.retryFlag = .ok .null ∧
        Codes.inputOutputClasses.any failure.isCausedByA = true)

/-- Whether a failure, or its direct cause, is of a class whose failures are
retried. -/
def IsOfRetriedClass (failure : Failure) : Prop :=
  ∃ known ∈ Codes.retryableClasses,
    failure.isA known = true ∨ failure.isCausedByA known = true

/-- Whether a failure is one to retry after. -/
def IsRetried (failure : Failure) : Prop :=
  failure.HasRetriedCodes ∨ failure.IsMeantToBeRetried ∨ failure.IsOfRetriedClass

/-- Whether neither a failure itself nor a client's class answers a question in place of the
taxonomy, and the failure is not of both its branches. -/
structure Plain (failure : Failure) : Prop where
  kept : ∀ question, failure.overrides question = false
  oneBranch : ¬(failure.isA .clientError = true ∧ failure.isA .serviceError = true)

variable {users : UserConditions} {failure : Failure}

namespace Plain

/-- The rule by which a plain failure answers a question is that of its class. -/
theorem rule?_eq
    (plain : failure.Plain)
    (question : Question) :
    failure.rule? question = failure.failureClass.rule? question :=
  rule?_of_kept (plain.kept question)

/-- No class of a plain failure answers a question in place of the taxonomy. -/
theorem class_kept
    (plain : failure.Plain)
    (question : Question) :
    failure.failureClass.overrides question = false :=
  (overrides_eq_false_iff.mp (plain.kept question)).2

theorem notClient
    (plain : failure.Plain)
    (service : failure.isA .serviceError = true) :
    failure.isA .clientError = false :=
  Bool.eq_false_iff.mpr fun client => plain.oneBranch ⟨client, service⟩

theorem notService
    (plain : failure.Plain)
    (client : failure.isA .clientError = true) :
    failure.isA .serviceError = false :=
  Bool.eq_false_iff.mpr fun service => plain.oneBranch ⟨client, service⟩

/-- A plain service failure is asked for throttling by its codes. -/
theorem askThrottling
    (plain : failure.Plain)
    (inspectable : failure.Inspectable)
    (service : failure.isA .serviceError = true) :
    failure.askThrottling users = .flag <$> failure.hasThrottlingCodes := by
  have found : failure.rule? .throttling = some .throttlingCodes :=
    (plain.rule?_eq _).trans
      (FailureClass.rule?_of_service (plain.class_kept _) service (plain.notClient service))
  rw [Failure.askThrottling, inspectable.rule found]
  rfl

theorem askClockSkew
    (plain : failure.Plain)
    (inspectable : failure.Inspectable)
    (service : failure.isA .serviceError = true) :
    failure.askClockSkew users = .flag <$> failure.hasClockSkewCodes := by
  have found : failure.rule? .clockSkew = some .clockSkewCodes :=
    (plain.rule?_eq _).trans
      (FailureClass.rule?_of_service (plain.class_kept _) service (plain.notClient service))
  rw [Failure.askClockSkew, inspectable.rule found]
  rfl

/-- A plain service failure is worth retrying by its codes. -/
theorem askRetryable_of_service
    (plain : failure.Plain)
    (inspectable : failure.Inspectable)
    (service : failure.isA .serviceError = true) :
    failure.askRetryable users = failure.retryableByCodes users := by
  have found : failure.rule? .retryable = some .retryableCodes :=
    (plain.rule?_eq _).trans
      (FailureClass.rule?_of_service (plain.class_kept _) service (plain.notClient service))
  rw [Failure.askRetryable, inspectable.rule found]
  rfl

/-- A plain client failure is worth retrying by its flag or its cause. -/
theorem askRetryable_of_client
    (plain : failure.Plain)
    (inspectable : failure.Inspectable)
    (client : failure.isA .clientError = true) :
    failure.askRetryable users = failure.flagOrCause := by
  have found : failure.rule? .retryable = some .flagOrCause :=
    (plain.rule?_eq _).trans (FailureClass.rule?_retryable_of_client (plain.class_kept _)
      client (plain.notService client))
  rw [Failure.askRetryable, inspectable.rule found]
  rfl

theorem askRetryable_of_root
    (plain : failure.Plain)
    (inspectable : failure.Inspectable)
    (sdk : failure.isA .sdkError = true)
    (notClient : failure.isA .clientError = false)
    (notService : failure.isA .serviceError = false) :
    failure.askRetryable users = .ok (.flag false) := by
  have found : failure.rule? .retryable = some .never :=
    (plain.rule?_eq _).trans
      (FailureClass.rule?_retryable_of_root (plain.class_kept _) sdk notClient notService)
  rw [Failure.askRetryable, inspectable.rule found]
  rfl

end Plain

theorem flagOrCause_of_flag
    {value : Bool}
    (read : failure.retryFlag = .ok (.flag value)) :
    failure.flagOrCause = .ok (.flag value) := by
  rw [flagOrCause, read, Outcome.ok_bind]
  rfl

theorem flagOrCause_of_null
    (inspectable : failure.Inspectable)
    (read : failure.retryFlag = .ok .null) :
    failure.flagOrCause = .ok (.flag (Codes.inputOutputClasses.any failure.isCausedByA)) := by
  rw [flagOrCause, read, Outcome.ok_bind, inspectable.hasInputOutputCause]
  rfl

/-- What a service failure says of itself, once it has answered what that takes. -/
theorem retryableByCodes_of_answers
    {status throttling skew : Bool}
    (answersStatus : failure.hasRetryableStatus = .ok status)
    (answersThrottling : failure.askThrottling users = .ok (.flag throttling))
    (answersSkew : failure.askClockSkew users = .ok (.flag skew)) :
    failure.retryableByCodes users = .ok (.flag (status || throttling || skew)) := by
  rw [retryableByCodes, answersStatus, Outcome.ok_bind, answersThrottling, answersSkew]
  cases status with
  | true => rfl
  | false => cases throttling <;> rfl

theorem hasRetriedCodes_iff
    {status code : Value}
    (service : failure.isA .serviceError = true)
    (readStatus : failure.statusCode = .ok status)
    (readCode : failure.errorCode = .ok code) :
    failure.HasRetriedCodes ↔
      Codes.retryableStatuses.any status.isInt = true ∨
        status.isInt Codes.throttlingStatus = true ∨
        Codes.throttling.any code.isText = true ∨
        Codes.clockSkew.any code.isText = true := by
  constructor
  · rintro ⟨_, otherStatus, otherCode, otherReadStatus, otherReadCode, reason⟩
    rw [readStatus] at otherReadStatus
    rw [readCode] at otherReadCode
    cases otherReadStatus
    cases otherReadCode
    exact reason
  · intro reason
    exact ⟨service, status, code, readStatus, readCode, reason⟩

end Failure

namespace Condition

variable {users : UserConditions} {failure : Failure}

/-- A condition approves where it has an answer that means yes by itself. -/
theorem approves_iff
    {condition : Condition}
    (clear : condition.isVague = false)
    {value : Value}
    (answers : condition.answer users failure = .ok value) :
    condition.Approves users failure ↔ value.isTruthy = true := by
  rw [Approves, ← decision_eq_ok_iff, decision_of_answer clear answers, Except.ok.injEq]

theorem exists_mem_sdk_iff
    (holds : Condition → Prop) :
    (∃ condition ∈ sdk, holds condition) ↔
      holds inherentlyRetryable ∨ holds retryableStatus ∨ holds clockSkew ∨
        holds throttled := by
  simp [sdk]

/-- The conditions of the taxonomy approve of a service failure by its codes. -/
theorem sdk_approves_of_service
    (typed : failure.WellTyped users)
    (plain : failure.Plain)
    (service : failure.isA .serviceError = true) :
    (∃ condition ∈ sdk, condition.Approves users failure) ↔ failure.HasRetriedCodes := by
  obtain ⟨status, code, readStatus, statusKey, readCode, codeKey⟩ := typed.codes service
  have inspectable := typed.toInspectable
  have sdkError : failure.isA .sdkError = true := FailureClass.isA_sdkError_of_service service
  have statuses := Failure.hasRetryableStatus_of_codes readStatus statusKey
  have throttling : failure.askThrottling users = .ok (.flag
      (status.isInt Codes.throttlingStatus || Codes.throttling.any code.isText)) := by
    rw [plain.askThrottling inspectable service,
      Failure.hasThrottlingCodes_of_codes readStatus readCode codeKey, Outcome.map_ok]
  have skew : failure.askClockSkew users = .ok (.flag (Codes.clockSkew.any code.isText)) := by
    rw [plain.askClockSkew inspectable service,
      Failure.hasClockSkewCodes_of_codes readCode codeKey, Outcome.map_ok]
  have byStatus : retryableStatus.answer users failure =
      .ok (.flag (Codes.retryableStatuses.any status.isInt)) := by
    rw [answer_retryableStatus inspectable, if_pos service, statuses, Outcome.map_ok]
  have bySkew : clockSkew.answer users failure =
      .ok (.flag (Codes.clockSkew.any code.isText)) := by
    rw [answer_clockSkew inspectable, if_pos service, skew]
  have byThrottling : throttled.answer users failure = .ok (.flag
      (status.isInt Codes.throttlingStatus || Codes.throttling.any code.isText)) := by
    rw [answer_throttled inspectable, if_pos service, throttling]
  have inItself : inherentlyRetryable.answer users failure = .ok (.flag
      (Codes.retryableStatuses.any status.isInt ||
        (status.isInt Codes.throttlingStatus || Codes.throttling.any code.isText) ||
        Codes.clockSkew.any code.isText)) := by
    rw [answer_inherentlyRetryable inspectable, if_pos sdkError,
      plain.askRetryable_of_service inspectable service,
      Failure.retryableByCodes_of_answers statuses throttling skew]
  rw [exists_mem_sdk_iff, approves_iff rfl inItself, approves_iff rfl byStatus,
    approves_iff rfl bySkew, approves_iff rfl byThrottling, Failure.hasRetriedCodes_iff service readStatus readCode]
  simp only [Value.isTruthy_flag, Bool.or_eq_true]
  grind

/-- Of a failure that is not a service's, only the condition on what it is in itself can
approve among those of the taxonomy. -/
theorem sdk_approves_of_not_service
    (inspectable : failure.Inspectable)
    (notService : failure.isA .serviceError = false) :
    (∃ condition ∈ sdk, condition.Approves users failure) ↔
      inherentlyRetryable.Approves users failure := by
  have byStatus : retryableStatus.answer users failure = .ok (.flag false) := by
    rw [answer_retryableStatus inspectable, notService]
    rfl
  have bySkew : clockSkew.answer users failure = .ok (.flag false) := by
    rw [answer_clockSkew inspectable, notService]
    rfl
  have byThrottling : throttled.answer users failure = .ok (.flag false) := by
    rw [answer_throttled inspectable, notService]
    rfl
  rw [exists_mem_sdk_iff, approves_iff rfl byStatus, approves_iff rfl bySkew,
    approves_iff rfl byThrottling]
  simp only [Value.isTruthy_flag, Bool.false_eq_true, or_false]

/-- The conditions of the taxonomy approve of a client failure by its flag or its
cause. -/
theorem sdk_approves_of_client
    (typed : failure.WellTyped users)
    (plain : failure.Plain)
    (client : failure.isA .clientError = true) :
    (∃ condition ∈ sdk, condition.Approves users failure) ↔ failure.IsMeantToBeRetried := by
  have inspectable := typed.toInspectable
  have sdkError : failure.isA .sdkError = true := FailureClass.isA_sdkError_of_client client
  obtain ⟨flag, read, kind⟩ := typed.flag client
  have inItself {own : Value} (asked : failure.flagOrCause = .ok own) :
      inherentlyRetryable.answer users failure = .ok own := by
    rw [answer_inherentlyRetryable inspectable, if_pos sdkError,
      plain.askRetryable_of_client inspectable client, asked]
  rw [sdk_approves_of_not_service inspectable (plain.notService client),
    Failure.IsMeantToBeRetried, read]
  rcases kind with rfl | ⟨value, rfl⟩
  · rw [approves_iff rfl (inItself (Failure.flagOrCause_of_null inspectable read)),
      Value.isTruthy_flag]
    constructor
    · intro caused
      exact ⟨client, Or.inr ⟨rfl, caused⟩⟩
    · rintro ⟨_, flagged | ⟨_, caused⟩⟩
      · cases flagged
      · exact caused
  · rw [approves_iff rfl (inItself (Failure.flagOrCause_of_flag read)), Value.isTruthy_flag]
    constructor
    · rintro rfl
      exact ⟨client, Or.inl rfl⟩
    · rintro ⟨_, flagged | ⟨unflagged, _⟩⟩
      · cases flagged
        rfl
      · cases unflagged

/-- The conditions of the taxonomy approve of no failure that is of neither branch of
it. -/
theorem sdk_refuses
    (typed : failure.WellTyped users)
    (plain : failure.Plain)
    (notClient : failure.isA .clientError = false)
    (notService : failure.isA .serviceError = false) :
    ¬∃ condition ∈ sdk, condition.Approves users failure := by
  have inspectable := typed.toInspectable
  have inItself : inherentlyRetryable.answer users failure = .ok (.flag false) := by
    rw [answer_inherentlyRetryable inspectable]
    cases sdk : failure.isA .sdkError with
    | true => exact plain.askRetryable_of_root inspectable sdk notClient notService
    | false => rfl
  rw [sdk_approves_of_not_service inspectable notService, approves_iff rfl inItself,
    Value.isTruthy_flag]
  exact Bool.false_ne_true

/-- The conditions of the taxonomy approve by the codes of a service failure and by
the flag or the cause of a client failure. -/
theorem sdk_approves_iff
    (typed : failure.WellTyped users)
    (plain : failure.Plain) :
    (∃ condition ∈ sdk, condition.Approves users failure) ↔
      failure.HasRetriedCodes ∨ failure.IsMeantToBeRetried := by
  cases service : failure.isA .serviceError with
  | true =>
    have notMeant : ¬failure.IsMeantToBeRetried := fun meant =>
      plain.oneBranch ⟨meant.1, service⟩
    rw [sdk_approves_of_service typed plain service]
    exact (or_iff_left notMeant).symm
  | false =>
    have noCodes : ¬failure.HasRetriedCodes := fun codes => by
      rw [codes.1] at service
      cases service
    cases client : failure.isA .clientError with
    | true =>
      rw [sdk_approves_of_client typed plain client]
      exact (or_iff_right noCodes).symm
    | false =>
      have notMeant : ¬failure.IsMeantToBeRetried := fun meant => by
        rw [meant.1] at client
        cases client
      exact iff_of_false (sdk_refuses typed plain client service)
        (not_or.mpr ⟨noCodes, notMeant⟩)

/-- The conditions on classes approve by the class of a failure or of its cause. -/
theorem retryableClasses_approve_iff
    (inspectable : failure.Inspectable) :
    (∃ condition ∈ retryableClasses, condition.Approves users failure) ↔
      failure.IsOfRetriedClass := by
  have each (known : KnownClass) :
      (instanceOrCauseOf (.known known)).Approves users failure ↔
        failure.isA known = true ∨ failure.isCausedByA known = true := by
    rw [approves_iff rfl (answer_instanceOrCauseOf inspectable known), Value.isTruthy_flag,
      Bool.or_eq_true]
  constructor
  · rintro ⟨condition, member, approves⟩
    obtain ⟨known, listed, rfl⟩ := List.mem_map.mp member
    exact ⟨known, listed, (each known).mp approves⟩
  · rintro ⟨known, listed, reason⟩
    exact ⟨_, List.mem_map.mpr ⟨known, listed, rfl⟩, (each known).mpr reason⟩

/-- One of the canonical conditions approves of a failure exactly where there is a
reason to retry after it. -/
theorem canonical_approves_iff
    (typed : failure.WellTyped users)
    (plain : failure.Plain) :
    (∃ condition ∈ canonical, condition.Approves users failure) ↔ failure.IsRetried := by
  have apart : (∃ condition ∈ canonical, condition.Approves users failure) ↔
      (∃ condition ∈ sdk, condition.Approves users failure) ∨
        ∃ condition ∈ retryableClasses, condition.Approves users failure := by
    simp only [canonical, List.mem_append, or_and_right, exists_or]
  rw [apart, sdk_approves_iff typed plain, retryableClasses_approve_iff typed.toInspectable,
    or_assoc, Failure.IsRetried]

end Condition
end Retry
