import Retry.Proofs.Builder.Configuration

/-!
# Calls of configuration

What configuration does to a builder comes down to calls, which can be made again.  The main
statements say that the calls of a request all succeed, and that they leave of a builder what
the request itself leaves, up to markers.  A builder with the marker of the canonical bundle
skips the bundle and has its calls made again, which comes to the same.
-/

namespace Retry

/-- The operations that configure a builder. -/
inductive Operation.Configures : Operation → Prop where
  | configure : Configures .configure
  | addConditions : Configures .addConditions
  | applySdk : Configures (.applyDefaults .sdk)

namespace Request

/-- The budget that a request reads in its environment, which only configuration itself
does. -/
def override (request : Request) : Except SettingError (Option Int) :=
  match request.operation with
  | .configure => Settings.attempts request.environment
  | _ => .ok none

/-- The budget that a request reads, if there is one and it can be read. -/
def budget? (request : Request) : Option Int :=
  request.override.toOption.join

/-- The calls of a request that configures: one for each condition of the taxonomy, for each
class whose failures are retried and for the classifier, and one for the budget, if there is
one. -/
def calls (request : Request) : List Call :=
  Condition.sdk.map .retryOn ++
    Codes.retryableClasses.map (fun known => .retryOnInstanceOrCauseOf (.known known)) ++
    [.treatAsThrottling .throttlingClassifier] ++
    request.budget?.toList.map fun budget => .maxAttempts (.int budget)

/-- The fault of a request that configures: a budget that cannot be read. -/
def fault? (request : Request) : Option Fault :=
  match request.override with
  | .ok _ => none
  | .error error => some (.setting error)

section Override

variable {request : Request} {override : Option Int} {error : SettingError}

theorem budget?_of_ok
    (read : request.override = .ok override) :
    request.budget? = override := by
  rw [budget?, read]
  rfl

theorem budget?_of_error
    (unreadable : request.override = .error error) :
    request.budget? = none := by
  rw [budget?, unreadable]
  rfl

theorem calls_of_ok
    (read : request.override = .ok override) :
    request.calls = Configuration.canonicalCalls ++
      override.toList.map fun budget => .maxAttempts (.int budget) := by
  rw [calls, budget?_of_ok read]
  rfl

theorem calls_of_budget?_eq_none
    (noBudget : request.budget? = none) :
    request.calls = Configuration.canonicalCalls := by
  rw [calls, noBudget]
  exact List.append_nil _

theorem fault?_of_ok
    (read : request.override = .ok override) :
    request.fault? = none := by
  rw [fault?, read]

theorem fault?_of_error
    (unreadable : request.override = .error error) :
    request.fault? = some (.setting error) := by
  rw [fault?, unreadable]

end Override

/-- A budget is read where configuration is asked for and the environment sets one. -/
theorem budget?_eq_some_iff
    {request : Request}
    {budget : Int} :
    request.budget? = some budget ↔
      request.operation = .configure ∧
        Settings.attempts request.environment = .ok (some budget) := by
  rw [budget?, Option.join_eq_some_iff, Outcome.toOption_eq_some_iff]
  obtain ⟨env, operation⟩ := request
  cases operation with
  | configure => exact (and_iff_right rfl).symm
  | _ => exact iff_of_false nofun nofun

end Request

namespace Builder

/-- A builder without its markers. -/
def unmarked (builder : Builder) : Builder :=
  { builder with defaultsAdded := .empty }

section Unmarked

variable (builder : Builder)

theorem unmarked_foldl_retryOn
    (conditions : List Condition) :
    (conditions.foldl retryOn builder).unmarked = conditions.foldl retryOn builder.unmarked := by
  have registers (builder : Builder) (condition : Condition) :
      (builder.retryOn condition).unmarked = builder.unmarked.retryOn condition := by
    unfold retryOn unmarked
    split <;> rfl
  induction conditions generalizing builder with
  | nil => rfl
  | cons first rest inductionHypothesis =>
    rw [List.foldl_cons, inductionHypothesis, registers, List.foldl_cons]

theorem unmarked_canonical :
    builder.canonical.unmarked = builder.unmarked.canonical := by
  rw [canonical, canonical, ← unmarked_foldl_retryOn]
  rfl

theorem unmarked_marked
    (name : Value) :
    (builder.marked name).unmarked = builder.unmarked := rfl

theorem unmarked_configured
    (override : Option Int) :
    (builder.configured override).unmarked = builder.unmarked.canonical.budgeted override := by
  rw [← unmarked_canonical, configured, unmarked_marked]
  generalize builder.canonical = registered
  cases override <;> rfl

end Unmarked

/-- A builder after the calls of a request. -/
def called
    (builder : Builder)
    (request : Request) : Builder :=
  builder.canonical.budgeted request.budget?

/-- The calls of a request succeed. -/
theorem forEach_calls_leaves
    (builder : Builder)
    (request : Request) :
    (Step.forEach AcceptsCalls.call request.calls builder).Leaves (builder.called request)
      none := by
  have classified :
      Step.forEach AcceptsCalls.call request.calls builder =
        Step.forEach AcceptsCalls.call
          (request.budget?.toList.map fun budget => .maxAttempts (.int budget))
          builder.canonical := by
    rw [Request.calls, List.append_assoc,
      forEach_call_of_registered? _ _ Condition.canonical rfl, List.singleton_append,
      Step.forEach_cons]
    rfl
  rw [classified, called]
  cases reads : request.budget? with
  | none => exact .done _
  | some budget =>
    have positive : 1 ≤ budget :=
      Settings.one_le_of_attempts (Request.budget?_eq_some_iff.mp reads).2
    have set : AcceptsCalls.call (.maxAttempts (.int budget)) builder.canonical =
        .done (builder.canonical.budgeted (some budget)) := by
      show Step.ofExcept _ (builder.canonical.setMaxAttempts (.int budget)) = _
      rw [setMaxAttempts_int positive]
      rfl
    show (Step.forEach AcceptsCalls.call [.maxAttempts (.int budget)] _).Leaves _ _
    rw [Step.forEach_cons, set, Step.done_andThen]
    exact .done _

/-- The calls of several requests succeed one after another. -/
theorem forEach_flatMap_calls_leaves
    (builder : Builder)
    (requests : List Request) :
    (Step.forEach AcceptsCalls.call (requests.flatMap Request.calls) builder).Leaves
      (requests.foldl called builder) none := by
  induction requests generalizing builder with
  | nil => exact .done builder
  | cons request rest inductionHypothesis =>
    exact (forEach_calls_leaves builder request).forEach_append
      (inductionHypothesis (builder.called request))

/-- Whether a builder that has the marker of the canonical bundle would not be changed by its
calls. -/
def Settled (builder : Builder) : Prop :=
  builder.defaultsAdded.contains (.text sdkDefaults) = true → builder.canonical = builder

/-- A request that configures fails where it cannot read a budget.  It leaves what its calls
leave, up to markers. -/
theorem Settled.handle_leaves
    {builder : Builder}
    (settled : builder.Settled)
    (tracks : builder.variant.tracksDefaults = true)
    {request : Request}
    (configures : request.operation.Configures) :
    ∃ next,
      (builder.handle request).Leaves next request.fault? ∧
      next.unmarked = builder.unmarked.called request ∧
      next.Settled ∧
      next.variant = builder.variant := by
  obtain ⟨env, operation⟩ := request
  have canonicalSettled : builder.canonical.Settled :=
    fun _ => canonical_of_canonical builder rfl rfl
  cases configures with
  | configure =>
    cases read : (Request.mk env .configure).override with
    | ok override =>
      rw [Request.fault?_of_ok read, called, Request.budget?_of_ok read]
      exact ⟨builder.configured override, configure_leaves tracks read,
        builder.unmarked_configured override, fun _ => builder.canonical_configured override,
        variant_configured ..⟩
    | error error =>
      rw [Request.fault?_of_error read, called, Request.budget?_of_error read]
      exact ⟨builder.canonical, configure_fails read, builder.unmarked_canonical,
        canonicalSettled, variant_canonical _⟩
  | addConditions =>
    exact ⟨builder.canonical, addConditions_leaves builder, builder.unmarked_canonical,
      canonicalSettled, variant_canonical _⟩
  | applySdk =>
    refine ⟨builder.defaulted, applySdk_leaves tracks, ?_, ?_, variant_defaulted _⟩
    · show _ = builder.unmarked.canonical
      rw [← unmarked_canonical]
      cases contained : builder.defaultsAdded.contains (.text sdkDefaults) with
      | true => rw [defaulted_of_contains contained, settled contained]
      | false => rw [defaulted, contained, if_neg Bool.false_ne_true, unmarked_marked]
    · rw [defaulted]
      split
      · exact settled
      · exact fun _ => builder.canonical_marked_canonical _

end Builder
end Retry
