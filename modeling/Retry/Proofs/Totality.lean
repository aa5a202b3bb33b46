import Retry.Proofs.Decision

/-!
# Failures that conditions fail on

The conditions of the taxonomy are meant to answer whatever the failure is, but look codes
up that can be of any kind, and rely on what a client left out or put in place of the
taxonomy's own.  The main statement says exactly where they all answer, and what this means
for the retriers of the modes, which hand on the fault of a condition in place of a decision.
-/

namespace Retry

namespace Failure

/-- Whether the codes of a failure decide about a retry: its status code can be looked up, and
says so itself, or leaves the matter to an error code that can be looked up. -/
def HasDecidingKeys (failure : Failure) : Prop :=
  ∃ status, failure.statusCode = .ok status ∧ status.isKey = true ∧
    (Codes.retryableStatuses.any status.isInt = true ∨
      status.isInt Codes.throttlingStatus = true ∨ failure.HasCodeKey)

variable {users : UserConditions} {failure : Failure}

/-- Of a plain service failure with two codes that can be looked up everything that the
questions read or ask is there and of use. -/
theorem Plain.answerable
    (plain : failure.Plain)
    (inspectable : failure.Inspectable)
    (service : failure.isA .serviceError = true)
    (status : failure.HasStatusKey)
    (code : failure.HasCodeKey) :
    failure.Answerable users where
  claims := fun _ => inspectable.claims
  look := fun _ => inspectable.look
  retryable := fun _ => canBeAsked_of_kept (plain.kept _)
  throttling := fun _ => canBeAsked_of_kept (plain.kept _)
  clockSkew := fun _ => canBeAsked_of_kept (plain.kept _)
  status := fun _ => status
  throttlingKey := fun _ _ => by
    obtain ⟨status, read, _⟩ := status
    exact ⟨status, read, Or.inr code⟩
  clockSkewKey := fun _ _ => code
  flag := fun found => absurd ⟨isClient_of_flagOrCause found, service⟩ plain.oneBranch

/-- A plain service failure says whether it was throttled exactly where its status says so or
its error code can be looked up. -/
theorem Plain.askThrottling_returns_iff
    (plain : failure.Plain)
    (inspectable : failure.Inspectable)
    (service : failure.isA .serviceError = true) :
    Outcome.Returns (failure.askThrottling users) ↔ failure.HasThrottlingKey := by
  rw [plain.askThrottling inspectable service, Outcome.returns_map_iff,
    hasThrottlingCodes_returns_iff]

/-- A status that decides by itself makes a plain service failure worth retrying. -/
theorem Plain.askRetryable_of_status
    (plain : failure.Plain)
    (inspectable : failure.Inspectable)
    (service : failure.isA .serviceError = true)
    {status : Value}
    (read : failure.statusCode = .ok status)
    (key : status.isKey = true)
    (decides : Codes.retryableStatuses.any status.isInt = true ∨
      status.isInt Codes.throttlingStatus = true) :
    failure.askRetryable users = .ok (.flag true) := by
  rw [plain.askRetryable_of_service inspectable service, retryableByCodes,
    hasRetryableStatus_of_codes read key, Outcome.ok_bind]
  cases listed : Codes.retryableStatuses.any status.isInt with
  | true => rfl
  | false =>
    have throttled : status.isInt Codes.throttlingStatus = true := by simpa [listed] using decides
    have codes : failure.hasThrottlingCodes = .ok true := by
      rw [hasThrottlingCodes, read, Outcome.ok_bind, if_pos throttled]
      rfl
    rw [plain.askThrottling inspectable service, codes]
    rfl

/-- A plain service failure that says whether it is worth retrying has codes that decide. -/
theorem Plain.hasDecidingKeys
    (plain : failure.Plain)
    (inspectable : failure.Inspectable)
    (service : failure.isA .serviceError = true)
    (answers : Outcome.Returns (failure.askRetryable users)) :
    failure.HasDecidingKeys := by
  obtain ⟨value, answered⟩ := answers
  rw [plain.askRetryable_of_service inspectable service, retryableByCodes] at answered
  obtain ⟨listed, looksUp, later⟩ := Outcome.bind_eq_ok_iff.mp answered
  obtain ⟨status, read, key⟩ := hasRetryableStatus_returns_iff.mp ⟨listed, looksUp⟩
  refine ⟨status, read, key, ?_⟩
  cases listed with
  | true =>
    rw [hasRetryableStatus_of_codes read key] at looksUp
    exact Or.inl (Except.ok.inj looksUp)
  | false =>
    obtain ⟨throttling, asked, _⟩ := Outcome.bind_eq_ok_iff.mp later
    obtain ⟨other, otherRead, reason⟩ :=
      (plain.askThrottling_returns_iff inspectable service).mp ⟨throttling, asked⟩
    obtain rfl : status = other := Except.ok.inj (read.symm.trans otherRead)
    exact Or.inr reason

end Failure

namespace Condition

variable {users : UserConditions} {failure : Failure}

/-- The canonical conditions come to an answer about a plain service failure exactly where its
codes decide. -/
theorem any_canonical_returns_iff
    (plain : failure.Plain)
    (inspectable : failure.Inspectable)
    (service : failure.isA .serviceError = true) :
    Outcome.Returns (any users failure canonical).outcome ↔ failure.HasDecidingKeys := by
  have sdkError : failure.isA .sdkError = true := FailureClass.isA_sdkError_of_service service
  have first : answer users failure inherentlyRetryable = failure.askRetryable users := by
    rw [answer_inherentlyRetryable inspectable, if_pos sdkError]
  constructor
  · intro returns
    apply plain.hasDecidingKeys inspectable service
    rw [← first]
    exact returns_head_of_any returns
  · rintro ⟨status, read, key, decides⟩
    rcases or_assoc.mpr decides with byStatus | code
    · have answers : answer users failure inherentlyRetryable = .ok (.flag true) :=
        first.trans (plain.askRetryable_of_status inspectable service read key byStatus)
      rw [canonical, sdk, List.cons_append, any_cons_of_true (decision_of_answer rfl answers)]
      exact Outcome.returns_ok true
    · have answerable : failure.Answerable users :=
        plain.answerable inspectable service ⟨status, read, key⟩ code
      obtain ⟨found, outcome, _⟩ := any_outcome (canonical_decide answerable inspectable)
      exact ⟨found, outcome⟩

/-- The classifier comes to an answer about a plain service failure exactly where its status
says that it was throttled or its error code can be looked up. -/
theorem classifier_returns_iff
    (plain : failure.Plain)
    (inspectable : failure.Inspectable)
    (service : failure.isA .serviceError = true) :
    throttlingClassifier.Returns users failure ↔ failure.HasThrottlingKey := by
  have asked : Outcome.Returns (failure.askThrottling users) ↔ failure.HasThrottlingKey :=
    plain.askThrottling_returns_iff inspectable service
  rw [throttlingClassifier_returns_iff, throttled_returns_iff, asked]
  simp [service]

end Condition

/-- The conditions of the taxonomy and the classifier all answer about exactly the answerable
failures, and say no of one outside the taxonomy that can be looked at.  The retrier of a mode
classifies every answerable failure, and decides about it if it can also be looked at; of the
failures of a service that leave the answers to the taxonomy it classifies and decides about
exactly those whose codes allow it. -/
theorem Retrier.answers_iff_answerable
    {env : Environment}
    {mode : Mode}
    {retrier : Retrier}
    (selected : (Retrier.forMode env mode).outcome = .ok retrier)
    (users : UserConditions)
    (failure : Failure) :
    ((∀ condition ∈ Condition.predicates, condition.Returns users failure) ↔
      failure.Answerable users) ∧
    (failure.isA .sdkError = false → failure.failureClass.checkClaim = .ok () →
      ∀ condition ∈ Condition.predicates,
        condition.answer users failure = .ok (.flag false)) ∧
    (failure.Answerable users →
      Outcome.Returns (retrier.plan.isThrottling users failure).outcome) ∧
    (failure.Answerable users → failure.Inspectable →
      Outcome.Returns (retrier.plan.isRetryable users failure).outcome) ∧
    (failure.Plain → failure.Inspectable → failure.isA .serviceError = true →
      (Outcome.Returns (retrier.plan.isThrottling users failure).outcome ↔
        failure.HasThrottlingKey) ∧
      (Outcome.Returns (retrier.plan.isRetryable users failure).outcome ↔
        failure.HasDecidingKeys)) := by
  obtain ⟨override, _, plan⟩ := Mode.plan_of_retrier selected
  rw [plan]
  refine ⟨Condition.predicates_return_iff, Condition.predicates_refuse, ?_, ?_, ?_⟩
  · intro answerable
    have returns : Condition.throttlingClassifier.Returns users failure :=
      Condition.classifier_returns answerable
    exact returns
  · intro answerable inspectable
    obtain ⟨found, outcome, _⟩ :=
      Condition.any_outcome (Condition.canonical_decide answerable inspectable)
    exact ⟨found, outcome⟩
  · intro plain inspectable service
    have classified : Condition.throttlingClassifier.Returns users failure ↔
        failure.HasThrottlingKey :=
      Condition.classifier_returns_iff plain inspectable service
    exact ⟨classified,
      Condition.any_canonical_returns_iff plain inspectable service⟩

/-- Every condition of the taxonomy answers where the service is unavailable, and so does a
retrier. -/
theorem Retrier.answers_unavailable :
    ∃ retrier, (Retrier.forMode .empty .standard).outcome = .ok retrier ∧
      (∀ condition ∈ Condition.predicates,
        condition.Returns (fun _ _ => .ok .null) Failure.unavailable) ∧
      Outcome.Returns
        (retrier.plan.isThrottling (fun _ _ => .ok .null) Failure.unavailable).outcome ∧
      Outcome.Returns
        (retrier.plan.isRetryable (fun _ _ => .ok .null) Failure.unavailable).outcome := by
  have read : Settings.attempts .empty = .ok none := rfl
  obtain ⟨retrier, selected, _⟩ := Mode.standard.retrier_of_ok read
  obtain ⟨exact_, _, classified, decided, _⟩ :=
    answers_iff_answerable selected (fun _ _ => .ok .null) Failure.unavailable
  have typed := Failure.unavailable_wellTyped (fun _ _ => .ok .null)
  exact ⟨retrier, selected, exact_.mpr typed.answerable, classified typed.answerable,
    decided typed.answerable typed.toInspectable⟩

/-- The service's failure with a status that decides nothing and a list in the place of an
error code. -/
def Failure.listedCode : Failure :=
  let facts := Facts.bare KnownClass.serviceError.toClass [.text "slow down"]
  let worded := (facts.keep .message (.text "slow down")).keep .details (.object [])
  let coded := (worded.keep .statusCode (.int 400)).keep .errorCode (.list [.text "SlowDown"])
  .mk (coded.keep .requestId .null) .none none

namespace Failure

theorem listedCode_plain : listedCode.Plain where
  kept := fun _ => overrides_of_known rfl rfl
  oneBranch := by decide

theorem listedCode_inspectable : listedCode.Inspectable := by
  have own : listedCode.failureClass = KnownClass.serviceError.toClass := rfl
  refine inspectable_of_known own ?_
  intro cls found
  cases found

theorem listedCode_askThrottling
    (users : UserConditions) :
    listedCode.askThrottling users = .error .incompatible := by
  have read : listedCode.statusCode = .ok (.int 400) := rfl
  have notThrottled : ¬(Value.int 400).isInt Codes.throttlingStatus = true := by
    simp [Codes.throttlingStatus, Value.isInt, Value.int]
  rw [listedCode_plain.askThrottling listedCode_inspectable (by decide), hasThrottlingCodes,
    read, Outcome.ok_bind, if_neg notThrottled]
  rfl

theorem listedCode_askRetryable
    (users : UserConditions) :
    listedCode.askRetryable users = .error .incompatible := by
  have read : listedCode.statusCode = .ok (.int 400) := rfl
  have unlisted : Codes.retryableStatuses.any (Value.int 400).isInt = false := by
    simp [Codes.retryableStatuses, Value.isInt, Value.int]
  rw [listedCode_plain.askRetryable_of_service listedCode_inspectable (by decide),
    retryableByCodes, hasRetryableStatus_of_codes read rfl, unlisted, listedCode_askThrottling]
  rfl

end Failure

/-- A failure can be made with a list in the place of its error code, and then neither the
conditions that look the code up nor the retrier of a mode answer. -/
theorem Retrier.undecided_listedCode :
    Facts.make KnownClass.serviceError.toClass (.text "slow down") (.int 400)
        [(.errorCode, .list [.text "SlowDown"])] = .ok Failure.listedCode.facts ∧
      Condition.throttled.answer (fun _ _ => .ok .null) Failure.listedCode =
        .error .incompatible ∧
      ∃ retrier, (Retrier.forMode .empty .standard).outcome = .ok retrier ∧
        (retrier.plan.isThrottling (fun _ _ => .ok .null) Failure.listedCode).outcome =
          .error .incompatible ∧
        (retrier.plan.isRetryable (fun _ _ => .ok .null) Failure.listedCode).outcome =
          .error .incompatible := by
  have read : Settings.attempts .empty = .ok none := rfl
  obtain ⟨retrier, selected, plan⟩ := Mode.standard.retrier_of_ok read
  have inspectable := Failure.listedCode_inspectable
  have byThrottling : Condition.throttled.answer (fun _ _ => .ok .null) Failure.listedCode =
      .error .incompatible := by
    rw [Condition.answer_throttled inspectable, if_pos (by decide),
      Failure.listedCode_askThrottling]
  have inItself : Condition.inherentlyRetryable.answer (fun _ _ => .ok .null)
      Failure.listedCode = .error .incompatible := by
    rw [Condition.answer_inherentlyRetryable inspectable, if_pos (by decide),
      Failure.listedCode_askRetryable]
  refine ⟨rfl, byThrottling, retrier, selected, ?_, ?_⟩
  · rw [plan]
    exact byThrottling
  · rw [plan]
    have decided := Condition.decision_of_error inItself
    exact congrArg Consultation.outcome (Condition.any_cons_of_error decided _)

/-- A class of a client's that extends one of the operating system's before that of service
failures, so that it is the former that ends the making of its failures. -/
def FailureClass.gatewayDown : FailureClass where
  own := .defined ⟨0, "GatewayDown", [.known .connectionError, .known .serviceError], [], [],
    ⟨true, true, .system, false⟩⟩
  inherited := [.known .connectionError, .known .osError, .known .serviceError,
    .known .sdkError, .known .exception, .known .baseException]
  parents_follow := by decide
  distinct := by decide

/-- A failure of a service can also be made without a status code, of values that are all of
the right kinds, and the condition on the status then does not answer either. -/
theorem Condition.retryableStatus_fails_gatewayDown :
    ∃ facts,
      Facts.make .gatewayDown (.text "gateway down") (.int 503) [] = .ok facts ∧
      retryableStatus.answer (fun _ _ => .ok .null) (.mk facts .none none) =
        .error .missingMember :=
  ⟨_, rfl, rfl⟩

end Retry
