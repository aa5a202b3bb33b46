import Retry.Proofs.Builder.Account
import Retry.Proofs.Condition.Search
import Retry.Proofs.Value

/-!
# Decisions by what was registered

A builder holds each condition where it was first registered, and a strategy asks its
conditions in that order.  The main statement says that neither the order nor the number of
registrations matters to a decision, as long as no condition fails: a strategy retries
exactly where one of the conditions that were ever registered approves.
-/

namespace Retry

/-- The conditions that a history of requests registers, as often as it does. -/
def Effect.registered (history : List Request) : List Condition :=
  (ofHistory history).filterMap condition?

/-- What a history registers stays registered, and what comes after it is added. -/
theorem Effect.registered_append
    (history : List Request)
    (request : Request) :
    registered (history ++ [request]) =
      registered history ++
        (request.operation.effects request.environment
          (marked (ofHistory history))).filterMap condition? := by
  have continued : ofHistory (history ++ [request]) =
      ofHistory history ++
        request.operation.effects request.environment (marked (ofHistory history)) :=
    List.foldl_append ..
  rw [registered, continued, List.filterMap_append, registered]

/-- Configuration registers the canonical conditions, also where it fails. -/
theorem Effect.mem_registered_configure
    (history : List Request)
    (env : Environment)
    (condition : Condition) :
    condition ∈ registered (history ++ [⟨env, .configure⟩]) ↔
      condition ∈ registered history ∨ condition ∈ Condition.canonical := by
  have registers : (configuration env).filterMap condition? = Condition.canonical := by
    have canonicalOnly : canonical.filterMap condition? = Condition.canonical := rfl
    rw [configuration, List.filterMap_append, canonicalOnly]
    cases Settings.attempts env with
    | error error => rfl
    | ok override => cases override <;> rfl
  rw [registered_append, Operation.effects, registers, List.mem_append]

/-- Budgets that are equal are spent at the same attempts. -/
theorem Plan.isSpent_of_equals
    {left right : Number}
    (equal : Value.Equals (.number left) (.number right))
    (attempt : Value) :
    isSpent (.number left) attempt = isSpent (.number right) attempt := by
  have place : left.place = right.place := by
    rcases equal with same | same
    · injection same with same
      rw [same]
    · exact Number.place_eq_of_agrees same
  cases attempt with
  | number attempt =>
    have le : left.le attempt = right.le attempt := congrArg (·.le attempt.place) place
    rw [isSpent, isSpent, Value.ordered?_number_number, Value.ordered?_number_number,
      Order.ofNumbers, Order.ofNumbers, le]
  | null | text | mode | list | object | foreign => simp [isSpent, Value.ordered?, Value.text?]

/-- Plans that decide alike with attempts left, and allow as many of them, decide alike about
every attempt. -/
theorem Plan.shouldRetry_of_equals
    {users : UserConditions}
    {failure : Failure}
    {left right : Plan}
    {leftBudget rightBudget : Number}
    (leftAllows : left.maxAttempts = .number leftBudget)
    (rightAllows : right.maxAttempts = .number rightBudget)
    (equal : left.maxAttempts.Equals right.maxAttempts)
    (alike : (left.isRetryable users failure).outcome = (right.isRetryable users failure).outcome)
    (attempt : Value) :
    (left.shouldRetry users failure attempt).outcome =
      (right.shouldRetry users failure attempt).outcome := by
  rw [leftAllows, rightAllows] at equal
  rw [shouldRetry, shouldRetry, leftAllows, rightAllows, isSpent_of_equals equal]
  cases isSpent (.number rightBudget) attempt with
  | error fault => rfl
  | ok spent =>
    cases spent with
    | true => rfl
    | false => exact alike

namespace Builder

variable {variant : Variant} {history : List Request} {strategy : Strategy}

/-- A strategy that is built after a history of requests holds the conditions that these
registered. -/
theorem mem_conditions_of_build
    (library : variant ∈ [Variant.standard, .legacy, .adaptive])
    (builds : ((fresh variant).after history).build.outcome = .ok strategy)
    (condition : Condition) :
    condition ∈ strategy.plan.rules.conditions ↔ condition ∈ Effect.registered history := by
  obtain ⟨rfl, _⟩ := of_build_eq_ok builds
  have held : ((fresh variant).after history).conditions =
      (Effect.registered history).eraseDups :=
    (accounts_after library history).1.conditions
  show condition ∈ ((fresh variant).after history).conditions ↔ _
  rw [held, List.mem_eraseDups]

/-- A strategy that is built allows a number of attempts. -/
theorem maxAttempts_of_build
    (library : variant ∈ [Variant.standard, .legacy, .adaptive])
    (builds : ((fresh variant).after history).build.outcome = .ok strategy) :
    ∃ budget, strategy.plan.maxAttempts = .number budget := by
  obtain ⟨rfl, _⟩ := of_build_eq_ok builds
  obtain ⟨budget, allows, _⟩ := ((sound_fresh library).after history).maxAttempts
  exact ⟨budget, allows⟩

/-- A strategy retries exactly where one of the conditions that were registered approves, if
all of them decide. -/
theorem isRetryable_of_build
    (library : variant ∈ [Variant.standard, .legacy, .adaptive])
    (builds : ((fresh variant).after history).build.outcome = .ok strategy)
    {users : UserConditions}
    {failure : Failure}
    (decisive : ∀ condition ∈ Effect.registered history, condition.Decides users failure) :
    ∃ decision,
      (strategy.plan.isRetryable users failure).outcome = .ok decision ∧
      (decision = true ↔
        ∃ condition ∈ Effect.registered history, condition.Approves users failure) := by
  have held := mem_conditions_of_build library builds
  obtain ⟨decision, decides, approved⟩ :=
    Condition.any_outcome fun condition member => decisive condition ((held condition).mp member)
  refine ⟨decision, decides, approved.trans ?_⟩
  simp only [held]

/-- Strategies that are built after any two histories that register the same conditions decide
alike about every failure about which all of these decide: to retry where one of them
approves, and with equal budgets also at the same attempts.  Configuration adds the canonical
conditions to those registered before it. -/
theorem decides_by_registered
    {first second : Variant}
    (firstLibrary : first ∈ [Variant.standard, .legacy, .adaptive])
    (secondLibrary : second ∈ [Variant.standard, .legacy, .adaptive])
    {history other : List Request}
    (sameConditions : ∀ condition,
      condition ∈ Effect.registered history ↔ condition ∈ Effect.registered other)
    {strategy otherStrategy : Strategy}
    (builds : ((fresh first).after history).build.outcome = .ok strategy)
    (otherBuilds : ((fresh second).after other).build.outcome = .ok otherStrategy)
    (users : UserConditions)
    {failure : Failure}
    (decisive : ∀ condition ∈ Effect.registered history, condition.Decides users failure) :
    (∃ decision,
      (strategy.plan.isRetryable users failure).outcome = .ok decision ∧
      (otherStrategy.plan.isRetryable users failure).outcome = .ok decision ∧
      (decision = true ↔
        ∃ condition ∈ Effect.registered history, condition.Approves users failure)) ∧
    (strategy.plan.maxAttempts.Equals otherStrategy.plan.maxAttempts →
      ∀ attempt,
        (strategy.plan.shouldRetry users failure attempt).outcome =
          (otherStrategy.plan.shouldRetry users failure attempt).outcome) ∧
    ∀ env configured,
      ((fresh first).after (history ++ [⟨env, .configure⟩])).build.outcome = .ok configured →
      (∀ condition ∈ Condition.canonical, condition.Decides users failure) →
      ∃ decision,
        (configured.plan.isRetryable users failure).outcome = .ok decision ∧
        (decision = true ↔
          (∃ condition ∈ Effect.registered history, condition.Approves users failure) ∨
            ∃ condition ∈ Condition.canonical, condition.Approves users failure) := by
  obtain ⟨decision, decides, approved⟩ := isRetryable_of_build firstLibrary builds decisive
  obtain ⟨otherDecision, otherDecides, otherApproved⟩ :=
    isRetryable_of_build secondLibrary otherBuilds fun condition member =>
      decisive condition ((sameConditions condition).mpr member)
  have alike : otherDecision = decision := by
    rw [← Bool.coe_iff_coe, otherApproved, approved]
    simp only [sameConditions]
  rw [alike] at otherDecides
  refine ⟨⟨decision, decides, otherDecides, approved⟩, ?_, ?_⟩
  · intro equal
    obtain ⟨budget, allows⟩ := maxAttempts_of_build firstLibrary builds
    obtain ⟨otherBudget, otherAllows⟩ := maxAttempts_of_build secondLibrary otherBuilds
    exact Plan.shouldRetry_of_equals allows otherAllows equal (decides.trans otherDecides.symm)
  · intro env configured configuredBuilds canonical
    have every : ∀ condition ∈ Effect.registered (history ++ [⟨env, .configure⟩]),
        condition.Decides users failure := by
      intro condition member
      rcases (Effect.mem_registered_configure history env condition).mp member with
        earlier | added
      · exact decisive condition earlier
      · exact canonical condition added
    obtain ⟨decision, decides, approved⟩ :=
      isRetryable_of_build firstLibrary configuredBuilds every
    refine ⟨decision, decides, approved.trans ?_⟩
    simp only [Effect.mem_registered_configure, or_and_right, exists_or]

/-- A history that registers a condition of the user's own and then one on a class. -/
def ownFirst : List Request :=
  [⟨.empty, .retryOn (.user "mine")⟩, ⟨.empty, .retryOnInstanceOf (.known .osError)⟩]

/-- A history that registers the same conditions in another order, one of them twice, and
sets a classifier. -/
def ownBetween : List Request :=
  [⟨.empty, .treatAsThrottling .throttlingClassifier⟩,
    ⟨.empty, .retryOnInstanceOf (.known .osError)⟩, ⟨.empty, .retryOn (.user "mine")⟩,
    ⟨.empty, .retryOnInstanceOf (.known .osError)⟩]

/-- A time-out is retried by strategies of different variants, in whichever order the condition
that approves of it was registered. -/
theorem decides_by_registered_timeout :
    ∃ strategy otherStrategy,
      ((fresh .standard).after ownFirst).build.outcome = .ok strategy ∧
      ((fresh .adaptive).after ownBetween).build.outcome = .ok otherStrategy ∧
      (strategy.plan.isRetryable (fun _ _ => .ok .null)
        (.mk (.bare KnownClass.timeoutError.toClass []) .none none)).outcome = .ok true ∧
      (otherStrategy.plan.isRetryable (fun _ _ => .ok .null)
        (.mk (.bare KnownClass.timeoutError.toClass []) .none none)).outcome = .ok true := by
  have registered : Effect.registered ownFirst = [.user "mine", .instanceOf (.known .osError)] :=
    rfl
  have otherRegistered : Effect.registered ownBetween =
      [.instanceOf (.known .osError), .user "mine", .instanceOf (.known .osError)] := rfl
  have sameConditions (condition : Condition) :
      condition ∈ Effect.registered ownFirst ↔ condition ∈ Effect.registered ownBetween := by
    rw [registered, otherRegistered]
    grind
  have decisive : ∀ condition ∈ Effect.registered ownFirst,
      condition.Decides (fun _ _ => .ok .null)
        (.mk (.bare KnownClass.timeoutError.toClass []) .none none) := by
    rw [registered, List.forall_mem_cons, List.forall_mem_singleton]
    exact ⟨⟨false, .null, rfl, rfl⟩, ⟨true, .flag true, rfl, rfl⟩⟩
  have library : Variant.standard ∈ [Variant.standard, .legacy, .adaptive] := by simp
  have otherLibrary : Variant.adaptive ∈ [Variant.standard, .legacy, .adaptive] := by simp
  obtain ⟨⟨decision, decides, otherDecides, approved⟩, _⟩ :=
    decides_by_registered library otherLibrary sameConditions rfl rfl (fun _ _ => .ok .null)
      decisive
  obtain rfl : decision = true :=
    approved.mpr ⟨.instanceOf (.known .osError), by simp [registered], .flag true, rfl, rfl⟩
  exact ⟨_, _, rfl, rfl, decides, otherDecides⟩

end Builder
end Retry
