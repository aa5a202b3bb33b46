import Retry.Proofs.Failure.Inspection

/-!
# Answerable failures

Nothing checks the codes and the flag of a failure when it is made, nor what a client puts
in place of the taxonomy's own answers, so a question to a failure may have no answer.  A
failure is *answerable* where everything that the questions read or ask is there and of use.
The main statements say of each question exactly when it is answered.
-/

namespace Retry

/-- Whether what a client put in the place of an answer has one about a failure: it is an
operation, and does not fail. -/
def Override.Answers
    (users : UserConditions)
    (failure : Failure) : Override → Prop
  | .held member => ∃ value, member = .constant value
  | .written operation => Outcome.Returns (users operation failure)

namespace Failure

/-- Whether what answers a question in place of the taxonomy, if anything does, has an
answer. -/
def CanBeAsked
    (failure : Failure)
    (users : UserConditions)
    (question : Question) : Prop :=
  ∀ override, failure.rule? question = some (.overridden override) →
    override.Answers users failure

/-- Whether a failure has a status code that can be looked up. -/
def HasStatusKey (failure : Failure) : Prop :=
  ∃ status, failure.statusCode = .ok status ∧ status.isKey = true

/-- Whether a failure has an error code that can be looked up. -/
def HasCodeKey (failure : Failure) : Prop :=
  ∃ code, failure.errorCode = .ok code ∧ code.isKey = true

/-- Whether a failure says that it was throttled by its status, or else has an error code
that can be looked up. -/
def HasThrottlingKey (failure : Failure) : Prop :=
  ∃ status, failure.statusCode = .ok status ∧
    (status.isInt Codes.throttlingStatus = true ∨ failure.HasCodeKey)

/-- Whether a failure has a flag, which if it is null leaves the matter to a cause that can
be looked at. -/
def HasFlagOrCause (failure : Failure) : Prop :=
  ∃ flag, failure.retryFlag = .ok flag ∧
    (flag.isNull = true → Outcome.Returns failure.hasInputOutputCause)

/-- Whether everything that the questions to a failure read or ask is there and of use.  The
error code is read only where nothing of a client's answers in place of the taxonomy. -/
structure Answerable
    (failure : Failure)
    (users : UserConditions) : Prop where
  claims : failure.isA .serviceError = false → failure.failureClass.checkClaim = .ok ()
  look : failure.isA .sdkError = true → failure.failureClass.look = .ok ()
  retryable : failure.isA .sdkError = true → failure.CanBeAsked users .retryable
  throttling : failure.isA .serviceError = true → failure.CanBeAsked users .throttling
  clockSkew : failure.isA .serviceError = true → failure.CanBeAsked users .clockSkew
  status : failure.isA .serviceError = true → failure.HasStatusKey
  throttlingKey : failure.isA .serviceError = true →
    failure.overrides .throttling = false → failure.HasThrottlingKey
  clockSkewKey : failure.isA .serviceError = true →
    failure.overrides .clockSkew = false → failure.HasCodeKey
  flag : failure.rule? .retryable = some .flagOrCause → failure.HasFlagOrCause

/-- An answer of the taxonomy to a question that something of a client's may answer in its
place. -/
def answerBy
    (failure : Failure)
    (users : UserConditions)
    (question : Question)
    (own : Except Fault Bool) : Except Fault Value := do
  match ← seen (failure.rule question) with
  | .overridden override => failure.overriddenAnswer users override
  | _ => .flag <$> own

/-- An answer to a question that only failures of a known class are asked. -/
def answerIf
    (failure : Failure)
    (known : KnownClass)
    (own : Except Fault Value) : Except Fault Value := do
  if ← seen (failure.isInstance (.known known)) then own else return .flag false

variable {users : UserConditions} {failure : Failure}

/-- Where the taxonomy itself answers a question, nothing else is asked. -/
theorem canBeAsked_of_kept
    {question : Question}
    (kept : failure.overrides question = false) :
    failure.CanBeAsked users question :=
  fun override found => absurd found (rule?_ne_overridden kept override)

theorem askThrottling_eq
    (users : UserConditions)
    (failure : Failure) :
    failure.askThrottling users =
      failure.answerBy users .throttling failure.hasThrottlingCodes := rfl

theorem askClockSkew_eq
    (users : UserConditions)
    (failure : Failure) :
    failure.askClockSkew users =
      failure.answerBy users .clockSkew failure.hasClockSkewCodes := rfl

theorem answerIf_of_isA
    {known : KnownClass}
    (isA : failure.isA known = true)
    (own : Except Fault Value) :
    failure.answerIf known own = own := by
  have counts : failure.isInstance (.known known) = .ok true := by
    have listed : failure.failureClass.extends? (.known known) = true := isA
    rw [isInstance, FailureClass.counts, if_pos listed]
    rfl
  rw [answerIf, counts]
  rfl

/-- A failure of another class is looked at for the class that it says it is of. -/
theorem answerIf_of_not_isA
    {known : KnownClass}
    (notA : failure.isA known = false)
    (own : Except Fault Value) :
    failure.answerIf known own =
      (fun _ => .flag false) <$> seen failure.failureClass.checkClaim := by
  have unlisted : failure.failureClass.extends? (.known known) = false := notA
  rw [answerIf, isInstance, FailureClass.counts, unlisted, if_neg Bool.false_ne_true]
  cases failure.failureClass.checkClaim <;> rfl

theorem Inspectable.answerIf_eq
    (inspectable : failure.Inspectable)
    (known : KnownClass)
    (own : Except Fault Value) :
    failure.answerIf known own =
      if failure.isA known then own else .ok (.flag false) := by
  rw [answerIf, inspectable.isInstance, Outcome.seen_ok, Outcome.ok_bind]
  rfl

theorem answerIf_returns_iff
    {known : KnownClass}
    {own : Except Fault Value} :
    Outcome.Returns (failure.answerIf known own) ↔
      (failure.isA known = true → Outcome.Returns own) ∧
      (failure.isA known = false → failure.failureClass.checkClaim = .ok ()) := by
  cases isA : failure.isA known with
  | true => simp [answerIf_of_isA isA]
  | false =>
    rw [answerIf_of_not_isA isA, Outcome.returns_map_iff, Outcome.returns_seen_iff,
      Outcome.returns_unit_iff]
    simp

theorem notService_of_notSdk
    (notSdk : failure.isA .sdkError = false) :
    failure.isA .serviceError = false :=
  Bool.eq_false_iff.mpr fun service => by
    rw [isA, FailureClass.isA_sdkError_of_service service] at notSdk
    cases notSdk

/-- A question to service failures is not asked of any other failure of the taxonomy. -/
theorem answerIf_sdk_service
    (failure : Failure)
    (own : Except Fault Value) :
    failure.answerIf .sdkError (failure.answerIf .serviceError own) =
      failure.answerIf .serviceError own := by
  cases sdk : failure.isA .sdkError with
  | true => exact answerIf_of_isA sdk _
  | false => rw [answerIf_of_not_isA sdk, answerIf_of_not_isA (notService_of_notSdk sdk)]

theorem rule_eq_ok_iff
    {question : Question}
    {rule : Rule} :
    failure.rule question = .ok rule ↔
      failure.failureClass.look = .ok () ∧ failure.rule? question = some rule := by
  rw [Failure.rule]
  cases failure.failureClass.look with
  | error refusal => simp
  | ok passed =>
    cases failure.rule? question <;> simp [throw, throwThe, MonadExceptOf.throw]

theorem rule_of_look
    {question : Question}
    {refusal : Refusal}
    (looked : failure.failureClass.look = .error refusal) :
    failure.rule question = .error refusal := by
  rw [Failure.rule, looked]
  rfl

theorem overriddenAnswer_returns_iff
    {override : Override} :
    Outcome.Returns (failure.overriddenAnswer users override) ↔
      override.Answers users failure := by
  cases override with
  | held member =>
    cases member <;> simp [overriddenAnswer, Override.Answers, Member.ask]
  | written operation => rfl

/-- A question that the taxonomy has a rule for is answered where the failure can be looked
at, and what a client put in the place of the answer or else the taxonomy itself answers. -/
theorem answerBy_returns_iff
    {question : Question}
    {rule : Rule}
    (found : failure.rule? question = some rule)
    {own : Except Fault Bool} :
    Outcome.Returns (failure.answerBy users question own) ↔
      failure.failureClass.look = .ok () ∧ failure.CanBeAsked users question ∧
        (failure.overrides question = false → Outcome.Returns own) := by
  cases looked : failure.failureClass.look with
  | error refusal =>
    rw [answerBy, rule_of_look looked]
    show Outcome.Returns (.error (Fault.ofRefusal refusal)) ↔ _
    simp
  | ok passed =>
    have asked : failure.rule question = .ok rule := rule_eq_ok_iff.mpr ⟨looked, found⟩
    rw [answerBy, asked, Outcome.seen_ok, Outcome.ok_bind, CanBeAsked, overrides, found]
    cases rule with
    | overridden override =>
      simp [overriddenAnswer_returns_iff]
    | _ => simp

theorem hasRetryableStatus_returns_iff :
    Outcome.Returns failure.hasRetryableStatus ↔ failure.HasStatusKey := by
  rw [hasRetryableStatus, HasStatusKey]
  cases failure.statusCode <;> simp [Value.inStatuses]

theorem hasClockSkewCodes_returns_iff :
    Outcome.Returns failure.hasClockSkewCodes ↔ failure.HasCodeKey := by
  rw [hasClockSkewCodes, HasCodeKey]
  cases failure.errorCode <;> simp [Value.inCodes]

theorem hasThrottlingCodes_returns_iff :
    Outcome.Returns failure.hasThrottlingCodes ↔ failure.HasThrottlingKey := by
  rw [hasThrottlingCodes, HasThrottlingKey, HasCodeKey]
  cases failure.statusCode with
  | error fault => simp
  | ok status =>
    cases throttled : status.isInt Codes.throttlingStatus with
    | true => simp [throttled]
    | false => cases failure.errorCode <;> simp [throttled, Value.inCodes]

theorem flagOrCause_returns_iff :
    Outcome.Returns failure.flagOrCause ↔ failure.HasFlagOrCause := by
  rw [flagOrCause, HasFlagOrCause]
  cases failure.retryFlag with
  | error fault => simp
  | ok flag =>
    cases unflagged : flag.isNull with
    | true => cases failure.hasInputOutputCause <;> simp [unflagged]
    | false => simp [unflagged]

/-- A service failure says whether it was throttled exactly where what that takes is
there. -/
theorem askThrottling_returns_iff
    (service : failure.isA .serviceError = true) :
    Outcome.Returns (failure.askThrottling users) ↔
      failure.failureClass.look = .ok () ∧ failure.CanBeAsked users .throttling ∧
        (failure.overrides .throttling = false → failure.HasThrottlingKey) := by
  obtain ⟨rule, found⟩ := exists_rule? .throttling service rfl
  rw [askThrottling_eq, answerBy_returns_iff found, hasThrottlingCodes_returns_iff]

/-- A service failure says whether the clocks disagree exactly where what that takes is
there. -/
theorem askClockSkew_returns_iff
    (service : failure.isA .serviceError = true) :
    Outcome.Returns (failure.askClockSkew users) ↔
      failure.failureClass.look = .ok () ∧ failure.CanBeAsked users .clockSkew ∧
        (failure.overrides .clockSkew = false → failure.HasCodeKey) := by
  obtain ⟨rule, found⟩ := exists_rule? .clockSkew service rfl
  rw [askClockSkew_eq, answerBy_returns_iff found, hasClockSkewCodes_returns_iff]

/-- A failure of the taxonomy says whether it is worth retrying in itself exactly where what
it goes by is there. -/
theorem askRetryable_returns_iff
    (sdk : failure.isA .sdkError = true) :
    Outcome.Returns (failure.askRetryable users) ↔
      failure.failureClass.look = .ok () ∧ failure.CanBeAsked users .retryable ∧
        (failure.rule? .retryable = some .flagOrCause → failure.HasFlagOrCause) ∧
        (failure.rule? .retryable = some .retryableCodes →
          Outcome.Returns (failure.retryableByCodes users)) := by
  obtain ⟨rule, found⟩ := exists_rule? .retryable sdk rfl
  cases looked : failure.failureClass.look with
  | error refusal =>
    rw [askRetryable, rule_of_look looked]
    show Outcome.Returns (.error (Fault.ofRefusal refusal)) ↔ _
    simp
  | ok passed =>
    have asked : failure.rule .retryable = .ok rule := rule_eq_ok_iff.mpr ⟨looked, found⟩
    rw [askRetryable, asked, Outcome.seen_ok, Outcome.ok_bind, CanBeAsked, found]
    cases rule with
    | overridden override => simp [overriddenAnswer_returns_iff]
    | never => simp
    | flagOrCause => simp [flagOrCause_returns_iff]
    | retryableCodes => simp
    | throttlingCodes | clockSkewCodes =>
      -- no class of the taxonomy has this rule for the question
      obtain ⟨known, _, answers⟩ := known_of_rule? found (by simp)
      cases known <;> simp [Layer.rule?] at answers

/-- Only service failures go by their codes. -/
theorem isService_of_retryableCodes
    (found : failure.rule? .retryable = some .retryableCodes) :
    failure.isA .serviceError = true := by
  obtain ⟨known, isA, answers⟩ := known_of_rule? found (by simp)
  cases known <;> simp [Layer.rule?] at answers
  exact isA

/-- Only client failures go by a flag. -/
theorem isClient_of_flagOrCause
    (found : failure.rule? .retryable = some .flagOrCause) :
    failure.isA .clientError = true := by
  obtain ⟨known, isA, answers⟩ := known_of_rule? found (by simp)
  cases known <;> simp [Layer.rule?] at answers
  exact isA

/-- A service failure that answers the two other questions, and whose status can be looked
up, says by its codes whether it is worth retrying. -/
theorem retryableByCodes_returns
    (status : failure.HasStatusKey)
    (throttling : Outcome.Returns (failure.askThrottling users))
    (skew : Outcome.Returns (failure.askClockSkew users)) :
    Outcome.Returns (failure.retryableByCodes users) := by
  obtain ⟨listed, looksUp⟩ := hasRetryableStatus_returns_iff.mpr status
  obtain ⟨throttled, answersThrottling⟩ := throttling
  obtain ⟨skewed, answersSkew⟩ := skew
  rw [retryableByCodes, looksUp, Outcome.ok_bind, answersThrottling, answersSkew]
  cases listed with
  | true => exact ⟨_, rfl⟩
  | false =>
    rw [Outcome.ok_bind]
    cases throttled.isTruthy with
    | true => exact ⟨_, rfl⟩
    | false => exact ⟨_, rfl⟩

namespace Answerable

variable (answerable : failure.Answerable users)
include answerable

theorem askThrottling
    (service : failure.isA .serviceError = true) :
    Outcome.Returns (failure.askThrottling users) :=
  (askThrottling_returns_iff service).mpr
    ⟨answerable.look (FailureClass.isA_sdkError_of_service service),
      answerable.throttling service, answerable.throttlingKey service⟩

theorem askClockSkew
    (service : failure.isA .serviceError = true) :
    Outcome.Returns (failure.askClockSkew users) :=
  (askClockSkew_returns_iff service).mpr
    ⟨answerable.look (FailureClass.isA_sdkError_of_service service),
      answerable.clockSkew service, answerable.clockSkewKey service⟩

/-- An answerable failure of the taxonomy says whether it is worth retrying in itself. -/
theorem askRetryable
    (sdk : failure.isA .sdkError = true) :
    Outcome.Returns (failure.askRetryable users) := by
  refine (askRetryable_returns_iff sdk).mpr
    ⟨answerable.look sdk, answerable.retryable sdk, answerable.flag, ?_⟩
  intro found
  have service := isService_of_retryableCodes found
  exact retryableByCodes_returns (answerable.status service) (answerable.askThrottling service)
    (answerable.askClockSkew service)

end Answerable
end Failure
end Retry
