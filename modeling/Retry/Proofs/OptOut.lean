import Retry.Proofs.Decision
import Retry.Proofs.Failure.Flag

/-!
# Opting out of retries

A caller can flag a client failure as one that is not worth retrying.  Only one of the
canonical conditions looks at the flag, and those on classes look past it.  The main
statement says that the retriers of the modes honour the flag exactly where no condition on
a class approves, and that they would then not have retried without the flag either.
-/

namespace Retry

namespace Failure

/-- The same failure, with null in place of its flag. -/
def withoutFlag : Failure → Failure
  | .mk facts cause context => .mk (facts.keep .retryable .null) cause context

variable {users : UserConditions} {failure : Failure}

@[simp] theorem failureClass_withoutFlag
    (failure : Failure) :
    failure.withoutFlag.failureClass = failure.failureClass := by
  cases failure
  rfl

@[simp] theorem override?_withoutFlag
    (failure : Failure)
    (question : Question) :
    failure.withoutFlag.facts.override? question = failure.facts.override? question := by
  cases failure
  rfl

@[simp] theorem isA_withoutFlag
    (failure : Failure)
    (known : KnownClass) :
    failure.withoutFlag.isA known = failure.isA known := by
  rw [isA, isA, failureClass_withoutFlag]

@[simp] theorem causeClass?_withoutFlag
    (failure : Failure) :
    failure.withoutFlag.causeClass? = failure.causeClass? := by
  obtain ⟨facts, cause, context⟩ := failure
  cases cause <;> rfl

@[simp] theorem origin_withoutFlag
    (failure : Failure) :
    failure.withoutFlag.origin = failure.origin := by
  obtain ⟨facts, cause, context⟩ := failure
  cases cause <;> rfl

theorem isOfRetriedClass_withoutFlag
    (failure : Failure) :
    failure.withoutFlag.IsOfRetriedClass ↔ failure.IsOfRetriedClass := by
  simp only [IsOfRetriedClass, isCausedByA, isA_withoutFlag, causeClass?_withoutFlag]

theorem Inspectable.withoutFlag
    (inspectable : failure.Inspectable) :
    failure.withoutFlag.Inspectable where
  claims := by
    rw [failureClass_withoutFlag]
    exact inspectable.claims
  origin := by
    rw [origin_withoutFlag]
    exact inspectable.origin
  causeClaims := by
    rw [causeClass?_withoutFlag]
    exact inspectable.causeClaims

theorem Plain.withoutFlag
    (plain : failure.Plain) :
    failure.withoutFlag.Plain where
  kept := by
    intro question
    have kept := overrides_eq_false_iff.mp (plain.kept question)
    rw [overrides_eq_false_iff, override?_withoutFlag, failureClass_withoutFlag]
    exact kept
  oneBranch := by
    rw [isA_withoutFlag, isA_withoutFlag]
    exact plain.oneBranch

/-- A failure that keeps a flag has that flag. -/
theorem Inspectable.retryFlag
    (inspectable : failure.Inspectable)
    {flag : Value}
    (own : failure.facts.own? .retryable = some flag) :
    failure.retryFlag = .ok flag := by
  have looked : failure.facts.failureClass.look = .ok () := inspectable.look
  rw [Failure.retryFlag, part, Facts.part, looked, Outcome.ok_bind, Facts.found?_of_own? own]
  rfl

/-- A plain client failure with a flag of the right kind is well-typed. -/
theorem Plain.wellTyped
    (plain : failure.Plain)
    (inspectable : failure.Inspectable)
    (client : failure.isA .clientError = true)
    {flag : Value}
    (read : failure.retryFlag = .ok flag)
    (kind : flag = .null ∨ ∃ value, flag = .flag value) :
    failure.WellTyped users where
  toInspectable := inspectable
  codes := fun service => absurd ⟨client, service⟩ plain.oneBranch
  flag := fun _ => ⟨flag, read, kind⟩
  operations := fun question => canBeAsked_of_kept (plain.kept question)

/-- A client failure that is not flagged to be retried is retried only for its class or
that of its cause: what its cause could say for it, the conditions on classes say too. -/
theorem Plain.isRetried_iff
    (plain : failure.Plain)
    (client : failure.isA .clientError = true)
    {flag : Value}
    (read : failure.retryFlag = .ok flag)
    (notAsked : flag = .null ∨ flag = .flag false) :
    failure.IsRetried ↔ failure.IsOfRetriedClass := by
  constructor
  · rintro (codes | ⟨_, flagged | ⟨_, caused⟩⟩ | ofClass)
    · exact absurd ⟨client, codes.1⟩ plain.oneBranch
    · rw [read] at flagged
      injection flagged with flagged
      rcases notAsked with rfl | rfl <;> cases flagged
    · obtain ⟨known, listed, causes⟩ := List.any_eq_true.mp caused
      have among : known ∈ Codes.retryableClasses := by
        simp only [Codes.inputOutputClasses, List.mem_cons, List.not_mem_nil, or_false] at listed
        rcases listed with rfl | rfl <;> decide
      exact ⟨known, among, Or.inr causes⟩
    · exact ofClass
  · exact fun ofClass => Or.inr (Or.inr ofClass)

end Failure

namespace Mode

variable {failure : Failure}

/-- A mode decides about a client failure that is not flagged to be retried by the classes
of it and of its cause alone. -/
theorem plan_shouldRetry_of_notFlagged
    (users : UserConditions)
    (mode : Mode)
    (override : Option Int)
    (plain : failure.Plain)
    (inspectable : failure.Inspectable)
    (client : failure.isA .clientError = true)
    {flag : Value}
    (read : failure.retryFlag = .ok flag)
    (notAsked : flag = .null ∨ flag = .flag false)
    (attempt : Int) :
    ∃ decision,
      ((mode.plan override).shouldRetry users failure (.int attempt)).outcome =
        .ok decision ∧
      (decision = true ↔ attempt < override.getD mode.variant.maxAttempts ∧
        failure.IsOfRetriedClass) := by
  have typed : failure.WellTyped users :=
    plain.wellTyped inspectable client read (notAsked.imp_right fun same => ⟨false, same⟩)
  obtain ⟨decision, decides, approved⟩ := mode.plan_shouldRetry users override typed attempt
  refine ⟨decision, decides, approved.trans ?_⟩
  rw [Condition.canonical_approves_iff typed plain, plain.isRetried_iff client read notAsked]

end Mode

/-- A failure that is made with the flag not to retry it is refused by the retriers of the
modes exactly where the budget is spent, or neither its class nor that of its cause is one
whose failures are retried.  They decide the same without the flag. -/
theorem Retrier.refuses_optedOut_iff
    {env : Environment}
    {override : Option Int}
    (read : Settings.attempts env = .ok override)
    (mode : Mode)
    (users : UserConditions)
    {cls : FailureClass}
    (takes : cls.TakesFlag)
    {message statusCode : Value}
    {named : List (Part × Value)}
    (optsOut : named.lookup .retryable = some (.flag false))
    {facts : Facts}
    (makes : Facts.make cls message statusCode named = .ok facts)
    {cause : Cause Failure}
    {context : Option Failure}
    (plain : (Failure.mk facts cause context).Plain)
    (inspectable : (Failure.mk facts cause context).Inspectable)
    (attempt : Int) :
    ∃ retrier budget decision,
      (Retrier.forMode env mode).outcome = .ok retrier ∧
      retrier.plan.maxAttempts = .int budget ∧
      budget = override.getD mode.variant.maxAttempts ∧
      (retrier.plan.shouldRetry users (.mk facts cause context) (.int attempt)).outcome =
        .ok decision ∧
      (decision = false ↔
        budget ≤ attempt ∨ ¬(Failure.mk facts cause context).IsOfRetriedClass) ∧
      (retrier.plan.shouldRetry users (Failure.mk facts cause context).withoutFlag
        (.int attempt)).outcome = .ok decision := by
  obtain ⟨sameClass, keeps⟩ := Facts.make_flag takes optsOut makes
  have client : (Failure.mk facts cause context).isA .clientError = true := by
    rw [Failure.isA, Failure.failureClass, Failure.facts, sameClass]
    exact takes.client
  have flagged : (Failure.mk facts cause context).retryFlag = .ok (.flag false) :=
    inspectable.retryFlag keeps
  have unflagged : (Failure.mk facts cause context).withoutFlag.retryFlag = .ok .null :=
    inspectable.withoutFlag.retryFlag (Facts.own?_keep_self ..)
  obtain ⟨retrier, selected, plan⟩ := mode.retrier_of_ok read
  obtain ⟨decision, decides, approved⟩ :=
    mode.plan_shouldRetry_of_notFlagged users override plain inspectable client flagged
      (Or.inr rfl) attempt
  obtain ⟨other, otherDecides, otherApproved⟩ :=
    mode.plan_shouldRetry_of_notFlagged users override plain.withoutFlag
      inspectable.withoutFlag ((Failure.isA_withoutFlag ..).trans client) unflagged
      (Or.inl rfl) attempt
  rw [Failure.isOfRetriedClass_withoutFlag, ← approved, Bool.coe_iff_coe] at otherApproved
  refine ⟨retrier, _, decision, selected, by rw [plan]; rfl, rfl, ?_, ?_, ?_⟩
  · rw [plan]
    exact decides
  · rw [← Bool.not_eq_true, approved, Decidable.not_and_iff_not_or_not, Int.not_lt]
  · rw [plan, otherDecides, otherApproved]

namespace Failure

/-- The failure that a caller makes with the flag not to retry it, with the given
cause. -/
def optedOut (cause : Cause Failure) : Failure :=
  let facts := Facts.bare KnownClass.clientError.toClass [.text "do not retry"]
  let worded := (facts.keep .message (.text "do not retry")).keep .details (.object [])
  .mk (worded.keep .retryable (.flag false)) cause none

/-- A failure of a known class that says nothing of itself. -/
def ofKnown (known : KnownClass) : Failure :=
  .mk (.bare known.toClass []) .none none

theorem make_optedOut
    (cause : Cause Failure) :
    Facts.make KnownClass.clientError.toClass (.text "do not retry") .null
      [(.retryable, .flag false)] = .ok (optedOut cause).facts := rfl

theorem optedOut_plain
    (cause : Cause Failure) :
    (optedOut cause).Plain where
  kept := fun _ => overrides_of_known rfl rfl
  oneBranch := by
    show ¬(KnownClass.clientError.toClass.isA .clientError = true ∧
      KnownClass.clientError.toClass.isA .serviceError = true)
    decide

theorem optedOut_inspectable
    (known : KnownClass) :
    (optedOut (.other (ofKnown known))).Inspectable := by
  have own : (optedOut (.other (ofKnown known))).failureClass =
      KnownClass.clientError.toClass := rfl
  apply inspectable_of_known own
  intro cls found
  cases found
  exact ⟨known, rfl⟩

end Failure

theorem KnownClass.clientError_takesFlag : clientError.toClass.TakesFlag where
  client := by decide
  own := Or.inl rfl

/-- The flag not to retry is honoured where the cause is a key that was not found, and so
is the lack of a flag. -/
theorem Retrier.refuses_optedOut_keyError :
    ∃ retrier, (Retrier.forMode .empty .standard).outcome = .ok retrier ∧
      (retrier.plan.shouldRetry (fun _ _ => .ok .null)
        (Failure.optedOut (.other (.ofKnown .keyError))) (.int 1)).outcome = .ok false ∧
      (retrier.plan.shouldRetry (fun _ _ => .ok .null)
        (Failure.optedOut (.other (.ofKnown .keyError))).withoutFlag
        (.int 1)).outcome = .ok false := by
  have read : Settings.attempts .empty = .ok none := rfl
  obtain ⟨retrier, budget, decision, selected, _, _, decides, refused, unflagged⟩ :=
    refuses_optedOut_iff read .standard (fun _ _ => .ok .null)
      KnownClass.clientError_takesFlag rfl (Failure.make_optedOut (.other (.ofKnown .keyError)))
      (Failure.optedOut_plain _) (Failure.optedOut_inspectable .keyError) 1
  have notRetried :
      ¬(Failure.optedOut (.other (.ofKnown .keyError))).IsOfRetriedClass := by
    unfold Failure.IsOfRetriedClass
    decide
  obtain rfl : decision = false := refused.mpr (Or.inr notRetried)
  exact ⟨retrier, selected, decides, unflagged⟩

/-- The flag not to retry is not honoured where the cause is a connection that was
reset. -/
theorem Retrier.retries_optedOut_connectionReset :
    ∃ facts retrier,
      Facts.make KnownClass.clientError.toClass (.text "do not retry") .null
        [(.retryable, .flag false)] = .ok facts ∧
      (Retrier.forMode .empty .standard).outcome = .ok retrier ∧
      (retrier.plan.shouldRetry (fun _ _ => .ok .null)
        (.mk facts (.other (.ofKnown .connectionResetError)) none)
        (.int 1)).outcome = .ok true := by
  have inspectable := Failure.optedOut_inspectable .connectionResetError
  have flagged : (Failure.optedOut (.other (.ofKnown .connectionResetError))).retryFlag =
      .ok (.flag false) :=
    inspectable.retryFlag (Facts.own?_keep_self ..)
  have read : Settings.attempts .empty = .ok none := rfl
  obtain ⟨retrier, selected, plan⟩ := Mode.standard.retrier_of_ok read
  obtain ⟨decision, decides, approved⟩ :=
    Mode.standard.plan_shouldRetry_of_notFlagged (fun _ _ => .ok .null) none
      (Failure.optedOut_plain _) inspectable KnownClass.clientError_takesFlag.client
      flagged (Or.inr rfl) 1
  have retried :
      (Failure.optedOut (.other (.ofKnown .connectionResetError))).IsOfRetriedClass :=
    ⟨.osError, by decide, Or.inr (by decide)⟩
  obtain rfl : decision = true := approved.mpr ⟨by decide, retried⟩
  refine ⟨_, retrier, Failure.make_optedOut (.other (.ofKnown .connectionResetError)),
    selected, ?_⟩
  rw [plan]
  exact decides

end Retry
