import Retry.Proofs.Condition.Retried
import Retry.Proofs.Selection

/-!
# Decisions

Whether the retriers of the modes retry.  The main statement says that they decide about
every well-typed failure of every attempt, and that they decide to retry exactly where
the budget allows another attempt and there is a reason to make one.
-/

namespace Retry

namespace Plan

variable {users : UserConditions} {plan : Plan} {failure : Failure} {budget attempt : Int}

/-- A budget is spent from the attempt on that it is equal to. -/
theorem isSpent_int
    (budget attempt : Int) :
    isSpent (.int budget) (.int attempt) = .ok (decide (budget ≤ attempt)) := by
  rw [isSpent, Value.atMost_int_int]
  rfl

theorem shouldRetry_of_spent
    (allows : plan.maxAttempts = .int budget)
    (spent : budget ≤ attempt) :
    plan.shouldRetry users failure (.int attempt) = .unasked (.ok false) := by
  rw [shouldRetry, allows, isSpent_int, decide_eq_true spent]

theorem shouldRetry_of_lt
    (allows : plan.maxAttempts = .int budget)
    (left : attempt < budget) :
    plan.shouldRetry users failure (.int attempt) = plan.isRetryable users failure := by
  have unspent : decide (budget ≤ attempt) = false := by
    rw [decide_eq_false_iff_not]
    omega
  rw [shouldRetry, allows, isSpent_int, unspent]

end Plan

namespace Mode

variable {failure : Failure}

/-- The plan of a mode decides about every well-typed failure: to retry exactly where
its budget allows another attempt and a canonical condition approves. -/
theorem plan_shouldRetry
    (users : UserConditions)
    (mode : Mode)
    (override : Option Int)
    (typed : failure.WellTyped users)
    (attempt : Int) :
    ∃ decision,
      ((mode.plan override).shouldRetry users failure (.int attempt)).outcome =
        .ok decision ∧
      (decision = true ↔ attempt < override.getD mode.variant.maxAttempts ∧
        ∃ condition ∈ Condition.canonical, condition.Approves users failure) := by
  rcases Int.lt_or_le attempt (override.getD mode.variant.maxAttempts) with left | spent
  · obtain ⟨decision, found, approved⟩ := Condition.any_outcome
      (Condition.canonical_decide typed.answerable typed.toInspectable)
    refine ⟨decision, ?_, ?_⟩
    · rw [Plan.shouldRetry_of_lt rfl left]
      exact found
    · rw [approved, and_iff_right left]
  · refine ⟨false, ?_, ?_⟩
    · rw [Plan.shouldRetry_of_spent rfl spent]
      rfl
    · have notLeft : ¬attempt < override.getD mode.variant.maxAttempts := by omega
      simp [notLeft]

end Mode

/-- The retrier of a mode decides about every failure that is well-typed and plain, at
every attempt, and decides to retry exactly where the budget allows another attempt and
the codes, the flag, the class or the cause of the failure are a reason to make one. -/
theorem Retrier.retries_iff_isRetried
    {env : Environment}
    {override : Option Int}
    (read : Settings.attempts env = .ok override)
    (mode : Mode)
    (users : UserConditions)
    {failure : Failure}
    (typed : failure.WellTyped users)
    (plain : failure.Plain)
    (attempt : Int) :
    ∃ retrier budget,
      (Retrier.forMode env mode).outcome = .ok retrier ∧
      retrier.plan.maxAttempts = .int budget ∧
      budget = override.getD mode.variant.maxAttempts ∧
      ∃ decision,
        (retrier.plan.shouldRetry users failure (.int attempt)).outcome = .ok decision ∧
        (decision = true ↔ attempt < budget ∧ failure.IsRetried) := by
  obtain ⟨retrier, selected, plan⟩ := mode.retrier_of_ok read
  obtain ⟨decision, decides, approved⟩ :=
    mode.plan_shouldRetry users override typed attempt
  refine ⟨retrier, _, selected, ?_, rfl, decision, ?_, ?_⟩
  · rw [plan]
    rfl
  · rw [plan]
    exact decides
  · rw [approved, Condition.canonical_approves_iff typed plain]

/-- The service's failure of being unavailable, which its status tells. -/
def Failure.unavailable : Failure :=
  .mk (((Facts.bare KnownClass.serviceError.toClass [.text "unavailable"]).keep .statusCode
    (.int 503)).keep .errorCode .null) .none none

theorem Failure.unavailable_plain : unavailable.Plain where
  kept := fun _ => overrides_of_known rfl rfl
  oneBranch := by decide

theorem Failure.unavailable_wellTyped
    (users : UserConditions) :
    unavailable.WellTyped users where
  toInspectable := by
    have own : unavailable.failureClass = KnownClass.serviceError.toClass := rfl
    refine inspectable_of_known own ?_
    intro cls found
    cases found
  codes := fun _ => ⟨.int 503, .null, rfl, rfl, rfl, rfl⟩
  flag := fun client => absurd client (by decide)
  operations := fun question => canBeAsked_of_kept (unavailable_plain.kept question)

theorem Failure.unavailable_isRetried : unavailable.IsRetried := by
  have listed : Codes.retryableStatuses.any (Value.int 503).isInt = true := by
    simp [Codes.retryableStatuses, Value.isInt, Value.int]
  exact Or.inl ⟨by decide, .int 503, .null, rfl, rfl, Or.inl listed⟩

/-- The second of three attempts is followed by another where the service is
unavailable. -/
theorem Retrier.retries_unavailable :
    ∃ retrier, (Retrier.forMode .empty .standard).outcome = .ok retrier ∧
      (retrier.plan.shouldRetry (fun _ _ => .ok .null) Failure.unavailable
        (.int 2)).outcome = .ok true := by
  have read : Settings.attempts .empty = .ok none := rfl
  obtain ⟨retrier, budget, selected, _, same, decision, decides, approved⟩ :=
    retries_iff_isRetried read .standard (fun _ _ => .ok .null)
      (Failure.unavailable_wellTyped _) Failure.unavailable_plain 2
  have yes : decision = true := by
    refine approved.mpr ⟨?_, Failure.unavailable_isRetried⟩
    rw [same]
    decide
  exact ⟨retrier, selected, yes ▸ decides⟩

/-- A class of a client's that reserves the name under which failures keep their
cause. -/
def FailureClass.hidingCause : FailureClass where
  own := .defined ⟨0, "Opaque", [.known .exception],
    [(Reserved.declaration, .plain (.list [.text Feature.cause.name])),
      (Feature.cause.name, .reserved)],
    [], ⟨true, false, .general, false⟩⟩
  inherited := [.known .exception, .known .baseException]
  parents_follow := by decide
  distinct := by decide

/-- A failure that cannot be looked at for its cause. -/
def Failure.hidingCause : Failure :=
  .mk (.bare .hidingCause [.text "m"]) .none none

/-- A failure that is plain, and neither of a service nor of a client, can still fail to
be decided about, where its class hides the cause that conditions look at. -/
theorem Retrier.undecided_hidingCause :
    Failure.hidingCause.Plain ∧
      Failure.hidingCause.isA .serviceError = false ∧
      Failure.hidingCause.isA .clientError = false ∧
      ∃ retrier, (Retrier.forMode .empty .standard).outcome = .ok retrier ∧
        (retrier.plan.shouldRetry (fun _ _ => .ok .null) Failure.hidingCause
          (.int 1)).outcome = .error .missingMember := by
  have kept (question : Question) : Failure.hidingCause.overrides question = false := by
    cases question <;> rfl
  have fails : (Condition.any (fun _ _ => .ok .null) Failure.hidingCause
      Condition.canonical).outcome = .error .missingMember := rfl
  have read : Settings.attempts .empty = .ok none := rfl
  obtain ⟨retrier, selected, plan⟩ := Mode.standard.retrier_of_ok read
  refine ⟨⟨kept, by decide⟩, by decide, by decide, retrier, selected, ?_⟩
  rw [plan, Plan.shouldRetry_of_lt rfl (by decide)]
  exact fails

/-- A failure of a client that holds a flag under the name of the question whether it is worth
retrying, and so no answer to it. -/
def Failure.misflagged : Failure :=
  let facts := (Facts.bare KnownClass.clientError.toClass [.text "x"]).keep .message (.text "x")
  .mk ((facts.keep .retryable .null).put .retryable (.held (.plain (.flag false)))) .none none

/-- A failure whose class leaves every answer to the taxonomy can fail to be decided about as
well, where the failure itself holds something of no use in the place of an answer. -/
theorem Retrier.undecided_misflagged :
    (∀ question, Failure.misflagged.failureClass.overrides question = false) ∧
      Failure.misflagged.isA .serviceError = false ∧
      Failure.misflagged.retryFlag = .ok .null ∧
      ∃ retrier, (Retrier.forMode .empty .standard).outcome = .ok retrier ∧
        (retrier.plan.shouldRetry (fun _ _ => .ok .null) Failure.misflagged
          (.int 1)).outcome = .error .incompatible := by
  have fails : (Condition.any (fun _ _ => .ok .null) Failure.misflagged
      Condition.canonical).outcome = .error .incompatible := rfl
  have read : Settings.attempts .empty = .ok none := rfl
  obtain ⟨retrier, selected, plan⟩ := Mode.standard.retrier_of_ok read
  refine ⟨KnownClass.clientError.overrides_toClass, by decide, rfl, retrier, selected, ?_⟩
  rw [plan, Plan.shouldRetry_of_lt rfl (by decide)]
  exact fails

end Retry
