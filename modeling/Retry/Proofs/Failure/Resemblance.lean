import Retry.Proofs.Failure.Answerable
import Retry.Proofs.Value

/-!
# Failures that resemble each other

Decisions look at the class of a failure, at its two codes and its flag, and at the class
of its direct cause.  Failures *resemble* each other where these are the same, whatever
else they say and whatever is behind their causes.  An operation that a client put in the
place of the taxonomy's answer can look further.  The main statements say that failures that
resemble each other, and of which these operations say the same, answer every question of
the taxonomy alike, and fail alike where they cannot answer.
-/

namespace Retry

/-- What a class has its failures show in the place of a cause where they have none. -/
def FailureClass.originWithoutCause (cls : FailureClass) : Except Refusal Failure.Origin :=
  match cls.member? .cause with
  | none => .ok .none
  | some member =>
    match member.seen? with
    | some value => .ok (if value.isNull then .none else .value value)
    | none => .error cls.lacking

namespace Failure

variable {failure : Failure}

theorem origin_of_caused
    {cls : FailureClass}
    (caused : failure.causeClass? = some cls) :
    failure.origin = (do failure.failureClass.look; return .failure cls) := by
  obtain ⟨facts, cause, context⟩ := failure
  cases cause with
  | none => cases caused
  | itself | other cause =>
    cases caused
    rfl

theorem origin_of_uncaused
    (uncaused : failure.causeClass? = none) :
    failure.origin = (do
      failure.failureClass.look
      failure.failureClass.originWithoutCause) := by
  obtain ⟨facts, cause, context⟩ := failure
  cases cause with
  | none => rfl
  | itself | other cause => cases uncaused

/-- Whether two failures are the same in all that decisions look at: their class, that of
their direct cause, and what they carry as codes and as a flag. -/
structure Resembles (left right : Failure) : Prop where
  failureClass : left.failureClass = right.failureClass
  causeClass : left.causeClass? = right.causeClass?
  statusCode : Outcome.Agree Value.Equals left.statusCode right.statusCode
  errorCode : Outcome.Agree Value.Equals left.errorCode right.errorCode
  retryFlag : Outcome.Agree Value.Equals left.retryFlag right.retryFlag

/-- What comes of asking a failure a question, where something of a client's answers it in
place of the taxonomy. -/
def overridden?
    (failure : Failure)
    (users : UserConditions)
    (question : Question) : Option (Except Fault Value) :=
  match failure.rule? question with
  | some (.overridden override) => some (failure.overriddenAnswer users override)
  | _ => none

/-- Whether something of a client's answers the same questions to two failures in place of
the taxonomy, and comes to the same. -/
def OverriddenAlike
    (users : UserConditions)
    (left right : Failure) : Prop :=
  ∀ question, left.overridden? users question = right.overridden? users question

theorem overridden?_eq_none_iff
    {users : UserConditions}
    {question : Question} :
    failure.overridden? users question = none ↔ failure.overrides question = false := by
  rw [overridden?, overrides]
  cases failure.rule? question with
  | none => simp
  | some rule => cases rule <;> simp

theorem overridden?_eq_some_iff
    {users : UserConditions}
    {question : Question}
    {outcome : Except Fault Value} :
    failure.overridden? users question = some outcome ↔
      ∃ override, failure.rule? question = some (.overridden override) ∧
        failure.overriddenAnswer users override = outcome := by
  rw [overridden?]
  split
  · rename_i override found
    simp [found]
  · rename_i other
    refine iff_of_false (by simp) ?_
    rintro ⟨override, found, _⟩
    exact other override found

namespace Resembles

variable {left right : Failure} (resembles : left.Resembles right)
include resembles

theorem isInstance
    (ref : ClassRef) :
    left.isInstance ref = right.isInstance ref := by
  rw [Failure.isInstance, Failure.isInstance, resembles.failureClass]

theorem isSdk : left.isSdk = right.isSdk := by
  rw [Failure.isSdk, Failure.isSdk, resembles.isInstance]

theorem isService : left.isService = right.isService := by
  rw [Failure.isService, Failure.isService, resembles.isInstance]

/-- What stands in the place of a cause depends on the classes of a failure and of its
cause alone. -/
theorem origin : left.origin = right.origin := by
  cases caused : left.causeClass? with
  | none =>
    have uncausedToo : right.causeClass? = none := resembles.causeClass ▸ caused
    rw [origin_of_uncaused caused, origin_of_uncaused uncausedToo, resembles.failureClass]
  | some cls =>
    have causedToo : right.causeClass? = some cls := resembles.causeClass ▸ caused
    rw [origin_of_caused caused, origin_of_caused causedToo, resembles.failureClass]

theorem isCausedBy
    (ref : ClassRef) :
    left.isCausedBy ref = right.isCausedBy ref := by
  rw [Failure.isCausedBy, Failure.isCausedBy, resembles.origin]

theorem hasInputOutputCause : left.hasInputOutputCause = right.hasInputOutputCause := by
  rw [Failure.hasInputOutputCause, Failure.hasInputOutputCause, resembles.origin]

theorem hasRetryableStatus : left.hasRetryableStatus = right.hasRetryableStatus := by
  refine resembles.statusCode.bind_eq ?_
  intro status statusRight equal
  rw [Value.inStatuses, Value.inStatuses, equal.countAlike.isKey, equal.countAlike.isInt]

/-- Equal error codes are in the same tables. -/
theorem errorCode_inCodes
    (codes : List String) :
    (left.errorCode >>= (·.inCodes codes)) = (right.errorCode >>= (·.inCodes codes)) := by
  refine resembles.errorCode.bind_eq ?_
  intro code codeRight equal
  rw [Value.inCodes, Value.inCodes, equal.countAlike.isKey, equal.countAlike.isText]

theorem hasClockSkewCodes : left.hasClockSkewCodes = right.hasClockSkewCodes :=
  resembles.errorCode_inCodes Codes.clockSkew

theorem hasThrottlingCodes : left.hasThrottlingCodes = right.hasThrottlingCodes := by
  have codes := resembles.errorCode_inCodes Codes.throttling
  refine resembles.statusCode.bind_eq ?_
  intro status statusRight equal
  rw [equal.countAlike.isInt]
  split
  · rfl
  · exact codes

section Overrides

variable {users : UserConditions} (alike : OverriddenAlike users left right)
include alike

/-- Asked a question, failures that resemble each other go by the same rule of the taxonomy,
if by any, or both by something of a client's, which comes to the same. -/
theorem rule_alike
    (question : Question) :
    (left.rule question = right.rule question ∧
      ∀ override, right.rule question ≠ .ok (.overridden override)) ∨
    ∃ override overrideRight,
      left.rule question = .ok (.overridden override) ∧
      right.rule question = .ok (.overridden overrideRight) ∧
      left.overriddenAnswer users override = right.overriddenAnswer users overrideRight := by
  cases looked : right.failureClass.look with
  | error refusal =>
    have lookedToo : left.failureClass.look = .error refusal :=
      resembles.failureClass ▸ looked
    refine Or.inl ⟨(rule_of_look lookedToo).trans (rule_of_look looked).symm, ?_⟩
    intro override asked
    rw [rule_of_look looked] at asked
    cases asked
  | ok passed =>
    have lookedToo : left.failureClass.look = .ok () := resembles.failureClass ▸ looked
    have same := alike question
    cases outcome? : right.overridden? users question with
    | none =>
      have kept : right.overrides question = false := overridden?_eq_none_iff.mp outcome?
      have keptToo : left.overrides question = false :=
        overridden?_eq_none_iff.mp (same.trans outcome?)
      have rules : left.rule? question = right.rule? question := by
        rw [rule?_of_kept kept, rule?_of_kept keptToo, resembles.failureClass]
      refine Or.inl ⟨?_, ?_⟩
      · rw [Failure.rule, Failure.rule, rules, resembles.failureClass]
      · intro override asked
        exact rule?_ne_overridden kept override (rule_eq_ok_iff.mp asked).2
    | some outcome =>
      obtain ⟨override, found, comes⟩ := overridden?_eq_some_iff.mp (same.trans outcome?)
      obtain ⟨overrideRight, foundRight, comesRight⟩ := overridden?_eq_some_iff.mp outcome?
      exact Or.inr ⟨override, overrideRight, rule_eq_ok_iff.mpr ⟨lookedToo, found⟩,
        rule_eq_ok_iff.mpr ⟨looked, foundRight⟩, comes.trans comesRight.symm⟩

/-- A question to which the taxonomy would answer the same is answered the same. -/
theorem answerBy
    {own ownRight : Except Fault Bool}
    (question : Question)
    (same : own = ownRight) :
    left.answerBy users question own = right.answerBy users question ownRight := by
  rw [Failure.answerBy, Failure.answerBy, same]
  rcases resembles.rule_alike alike question with
    ⟨rules, kept⟩ | ⟨_, _, asked, askedRight, comes⟩
  · rw [rules]
    cases asked : right.rule question with
    | error refusal => rfl
    | ok rule =>
      cases rule with
      | overridden override => exact absurd asked (kept override)
      | never | flagOrCause | retryableCodes | throttlingCodes | clockSkewCodes => rfl
  · rw [asked, askedRight]
    exact comes

theorem askThrottling : left.askThrottling users = right.askThrottling users := by
  rw [askThrottling_eq, askThrottling_eq]
  exact resembles.answerBy alike .throttling resembles.hasThrottlingCodes

theorem askClockSkew : left.askClockSkew users = right.askClockSkew users := by
  rw [askClockSkew_eq, askClockSkew_eq]
  exact resembles.answerBy alike .clockSkew resembles.hasClockSkewCodes

theorem isThrottled : left.isThrottled users = right.isThrottled users := by
  rw [Failure.isThrottled, Failure.isThrottled, resembles.isService,
    resembles.askThrottling alike]

theorem isClockSkewed : left.isClockSkewed users = right.isClockSkewed users := by
  rw [Failure.isClockSkewed, Failure.isClockSkewed, resembles.isService,
    resembles.askClockSkew alike]

theorem retryableByCodes : left.retryableByCodes users = right.retryableByCodes users := by
  rw [Failure.retryableByCodes, Failure.retryableByCodes, resembles.hasRetryableStatus,
    resembles.askThrottling alike, resembles.askClockSkew alike]

section Flags

variable {related : Value → Value → Prop} (reflexive : ∀ value, related value value)
  (nulls : ∀ flag flagRight, related flag flagRight → flag.isNull = flagRight.isNull)
  (flags : Outcome.Agree related left.retryFlag right.retryFlag)
include reflexive nulls flags

omit alike in
/-- A flag is handed on as it is, so the answers are as alike as the flags are. -/
theorem flagOrCause : Outcome.Agree related left.flagOrCause right.flagOrCause := by
  refine flags.bind ?_
  intro flag flagRight same
  rw [nulls flag flagRight same, resembles.hasInputOutputCause]
  split
  · exact .refl reflexive _
  · exact .ok same

theorem askRetryable :
    Outcome.Agree related (left.askRetryable users) (right.askRetryable users) := by
  rw [Failure.askRetryable, Failure.askRetryable, resembles.retryableByCodes alike]
  rcases resembles.rule_alike alike .retryable with
    ⟨rules, kept⟩ | ⟨_, _, asked, askedRight, comes⟩
  · rw [rules]
    cases asked : right.rule .retryable with
    | error refusal => exact .refl reflexive _
    | ok rule =>
      cases rule with
      | overridden override => exact absurd asked (kept override)
      | flagOrCause => exact resembles.flagOrCause reflexive nulls flags
      | never | retryableCodes | throttlingCodes | clockSkewCodes => exact .refl reflexive _
  · rw [asked, askedRight]
    simp only [Outcome.seen_ok, Outcome.ok_bind, comes]
    exact .refl reflexive _

end Flags
end Overrides
end Resembles
end Failure
end Retry
