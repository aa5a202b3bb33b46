import Retry.Proofs.Failure.Lineage
import Retry.Proofs.Outcome

/-!
# Looking at failures

A condition looks at a failure for its class and for its direct cause, and at the
cause for its class.  A client's class can take over each of these looks, and fail at
it.  A failure is *inspectable* where none of them fails; the main statements say
that its class and that of its cause are then what their lineages say.
-/

namespace Retry

namespace FailureClass

variable {cls : FailureClass}

/-- A class whose failures say what they are, or say nothing, counts as what is in
its lineage. -/
theorem counts_of_checkClaim
    (claims : cls.checkClaim = .ok ())
    (other : ClassRef) :
    cls.counts other = .ok (cls.extends? other) := by
  unfold counts
  cases cls.extends? other with
  | true => rfl
  | false => simp [claims]

theorem countsAsAny_of_checkClaim
    (claims : cls.checkClaim = .ok ())
    (known : List KnownClass) :
    cls.countsAsAny known = .ok (known.any cls.isA) := by
  induction known with
  | nil => rfl
  | cons first rest inductionHypothesis =>
    rw [countsAsAny, counts_of_checkClaim claims, inductionHypothesis, List.any_cons,
      Outcome.ok_bind, ← isA]
    cases cls.isA first <;> rfl

end FailureClass

theorem KnownClass.checkClaim_toClass
    (known : KnownClass) :
    known.toClass.checkClaim = .ok () := by
  rw [FailureClass.checkClaim, FailureClass.look, known.member?_toClass,
    known.member?_toClass]
  rfl

namespace Failure

/-- The class of the direct cause of a failure, if it has one. -/
def causeClass? : Failure → Option FailureClass
  | .mk _ .none _ => none
  | .mk facts .itself _ => some facts.failureClass
  | .mk _ (.other cause) _ => some cause.failureClass

/-- The class of what stands in the place of a cause, if that is a failure. -/
def Origin.class? : Origin → Option FailureClass
  | .failure cls => some cls
  | .none | .value _ => Option.none

/-- Whether the direct cause of a failure is of a known class. -/
def isCausedByA
    (failure : Failure)
    (known : KnownClass) : Bool :=
  failure.causeClass?.any fun cls => cls.isA known

/-- Whether a failure lets itself be looked at for its class and its cause, and its
cause for its class. -/
structure Inspectable (failure : Failure) : Prop where
  claims : failure.failureClass.checkClaim = .ok ()
  origin : ∃ origin, failure.origin = .ok origin
  causeClaims : ∀ cls, failure.causeClass? = some cls → cls.checkClaim = .ok ()

variable {failure : Failure}

/-- What stands in the place of a cause is the cause where there is one, and else no
failure. -/
theorem causeClass?_of_origin
    {origin : Origin}
    (found : failure.origin = .ok origin) :
    failure.failureClass.look = .ok () ∧ failure.causeClass? = origin.class? := by
  obtain ⟨⟨⟩, looked, found⟩ := Outcome.bind_eq_ok_iff.mp found
  refine ⟨looked, ?_⟩
  obtain ⟨facts, cause, context⟩ := failure
  cases cause with
  | itself =>
    cases found
    rfl
  | other cause =>
    cases found
    rfl
  | none =>
    cases held : facts.failureClass.member? .cause with
    | none =>
      simp only [held, Outcome.pure_eq, Except.ok.injEq] at found
      rw [← found]
      rfl
    | some member =>
      cases seen : member.seen? with
      | none => simp [held, seen, throw, throwThe, MonadExceptOf.throw] at found
      | some value =>
        simp only [held, seen, Outcome.pure_eq, Except.ok.injEq] at found
        rw [← found]
        cases value.isNull <;> rfl

namespace Inspectable

theorem look
    (inspectable : failure.Inspectable) :
    failure.failureClass.look = .ok () := by
  obtain ⟨origin, found⟩ := inspectable.origin
  exact (causeClass?_of_origin found).1

theorem isInstance
    (inspectable : failure.Inspectable)
    (known : KnownClass) :
    failure.isInstance (.known known) = .ok (failure.isA known) :=
  FailureClass.counts_of_checkClaim inspectable.claims _

theorem isCausedBy
    (inspectable : failure.Inspectable)
    (known : KnownClass) :
    failure.isCausedBy (.known known) = .ok (failure.isCausedByA known) := by
  obtain ⟨origin, found⟩ := inspectable.origin
  have cause := (causeClass?_of_origin found).2
  rw [Failure.isCausedBy, found, Outcome.ok_bind, isCausedByA, cause]
  cases origin with
  | failure cls => exact FailureClass.counts_of_checkClaim (inspectable.causeClaims cls cause) _
  | none => rfl
  | value value => rfl

theorem isSdk
    (inspectable : failure.Inspectable) :
    failure.isSdk = .ok (failure.isA .sdkError) := by
  rw [Failure.isSdk, inspectable.isInstance, Outcome.seen_ok]

theorem isService
    (inspectable : failure.Inspectable) :
    failure.isService = .ok (failure.isA .serviceError) := by
  rw [Failure.isService, inspectable.isInstance, Outcome.seen_ok]

theorem hasInputOutputCause
    (inspectable : failure.Inspectable) :
    failure.hasInputOutputCause =
      .ok (Codes.inputOutputClasses.any failure.isCausedByA) := by
  obtain ⟨origin, found⟩ := inspectable.origin
  have cause := (causeClass?_of_origin found).2
  have causes : failure.isCausedByA = fun known =>
      origin.class?.any fun cls => cls.isA known := by
    funext known
    rw [isCausedByA, cause]
  rw [Failure.hasInputOutputCause, found, Outcome.ok_bind, causes]
  cases origin with
  | failure cls =>
    exact congrArg seen
      (FailureClass.countsAsAny_of_checkClaim (inspectable.causeClaims cls cause) _)
  | none => rfl
  | value value => rfl

/-- An inspectable failure that is asked a question answers by the rule that it has. -/
theorem rule
    (inspectable : failure.Inspectable)
    {question : Question}
    {rule : Rule}
    (found : failure.rule? question = some rule) :
    failure.rule question = .ok rule := by
  rw [Failure.rule, inspectable.look, Outcome.ok_bind, found]
  rfl

end Inspectable

/-- A failure of a known class, with no cause or one of a known class, lets itself be
looked at. -/
theorem inspectable_of_known
    {known : KnownClass}
    (own : failure.failureClass = known.toClass)
    (causes : ∀ cls, failure.causeClass? = some cls →
      ∃ cause : KnownClass, cls = cause.toClass) :
    failure.Inspectable where
  claims := by
    rw [own]
    exact known.checkClaim_toClass
  origin := by
    obtain ⟨facts, cause, context⟩ := failure
    have same : facts.failureClass = known.toClass := own
    have looked : facts.failureClass.look = .ok () := by
      rw [same, FailureClass.look, known.member?_toClass]
    have uncaused : facts.failureClass.member? .cause = none := by
      rw [same, known.member?_toClass]
    cases cause with
    | none =>
      refine ⟨.none, ?_⟩
      rw [origin, failureClass, Failure.facts, looked, Outcome.ok_bind]
      simp only [uncaused]
      rfl
    | itself =>
      refine ⟨.failure facts.failureClass, ?_⟩
      rw [origin, failureClass, Failure.facts, looked, Outcome.ok_bind]
      rfl
    | other cause =>
      refine ⟨.failure cause.failureClass, ?_⟩
      rw [origin, failureClass, Failure.facts, looked, Outcome.ok_bind]
      rfl
  causeClaims := by
    intro cls found
    obtain ⟨cause, rfl⟩ := causes cls found
    exact cause.checkClaim_toClass

end Failure
end Retry
