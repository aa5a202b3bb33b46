import Retry.Proofs.Builder.Configuration
import Retry.Selection

/-!
# What a mode comes down to

A policy and a builder arrive at the retrier of a mode by different ways.  The main
statements say that both arrive at the same plan, that of the mode with the budget the
environment sets, and that both fail where the environment sets one that is no budget.
-/

namespace Retry

theorem Condition.nodup_canonical : canonical.Nodup := by
  decide

namespace Variant

/-- A builder of a variant with the canonical conditions and a budget. -/
def canonicalBuilder
    (variant : Variant)
    (override : Option Int) : Builder :=
  { Builder.fresh variant with
    conditions := Condition.canonical
    classifier := some .throttlingClassifier
    maxAttempts := .int (override.getD variant.maxAttempts)
    defaultsAdded := Markers.empty.insert sdkDefaults }

variable {env : Environment} {variant : Variant}

/-- A fresh builder holds the canonical conditions in order once they are registered. -/
theorem canonical_fresh
    (variant : Variant) :
    (Builder.fresh variant).canonical =
      { Builder.fresh variant with
        conditions := Condition.canonical
        classifier := some .throttlingClassifier } := by
  have registered : Condition.canonical.foldl Builder.retryOn (Builder.fresh variant) =
      { Builder.fresh variant with conditions := Condition.canonical } :=
    Builder.foldl_retryOn (Builder.fresh variant) Condition.canonical Condition.nodup_canonical
  rw [Builder.canonical, registered]

/-- Configuration fails with a fresh builder where the environment sets no budget. -/
theorem configured_of_error
    {error : SettingError}
    (unreadable : Settings.attempts env = .error error) :
    (configured env variant).fault = some (.setting error) :=
  (Builder.configure_fails unreadable).fault

/-- Configuration leaves a fresh builder with the canonical conditions and the budget
that the environment sets. -/
theorem configured_of_ok
    {override : Option Int}
    (read : Settings.attempts env = .ok override)
    (tracks : variant.tracksDefaults = true) :
    (configured env variant).Leaves (variant.canonicalBuilder override) none := by
  have made : (Builder.fresh variant).configured override =
      variant.canonicalBuilder override := by
    rw [Builder.configured, canonical_fresh]
    cases override <;> rfl
  rw [← made]
  exact Builder.configure_leaves tracks read

/-- A builder with the canonical conditions builds a strategy of the same parts. -/
theorem build_canonicalBuilder
    (concrete : variant.isConcrete = true)
    (override : Option Int) :
    (variant.canonicalBuilder override).build.outcome =
      .ok (variant.canonicalBuilder override).strategy := by
  have classified :
      ((variant.canonicalBuilder override).variant.needsClassifier &&
        (variant.canonicalBuilder override).classifier.isNone) = false := Bool.and_false _
  have makes : (variant.canonicalBuilder override).variant.isConcrete = true := concrete
  have sorted : (variant.canonicalBuilder override).defaultsAdded.sorted? =
      some [.text sdkDefaults] := rfl
  rw [Builder.build, classified, makes, sorted]
  rfl

/-- No strategy of a variant can be selected where the environment sets no budget. -/
theorem select_of_error
    {error : SettingError}
    (unreadable : Settings.attempts env = .error error) :
    (select env variant).outcome = .error (.setting error) := by
  simp only [select, configured_of_error unreadable]

/-- The strategy of a variant has the canonical conditions and the budget that the
environment sets. -/
theorem select_of_ok
    {override : Option Int}
    (read : Settings.attempts env = .ok override)
    (tracks : variant.tracksDefaults = true)
    (concrete : variant.isConcrete = true) :
    (select env variant).outcome = .ok (variant.canonicalBuilder override).strategy := by
  obtain ⟨left, passes⟩ := configured_of_ok read tracks
  simp only [select, passes, left, build_canonicalBuilder concrete override]

/-- A selected strategy is that of the configured builder. -/
theorem of_select_eq_ok
    {strategy : Strategy}
    (selects : (select env variant).outcome = .ok strategy) :
    (configured env variant).builder.strategy = strategy := by
  cases failed : (configured env variant).fault with
  | some fault =>
    simp only [select, failed] at selects
    cases selects
  | none =>
    simp only [select, failed] at selects
    exact (Builder.of_build_eq_ok selects).1

/-- A selected strategy is of the variant it was selected for. -/
theorem variant_of_select
    {strategy : Strategy}
    (selects : (select env variant).outcome = .ok strategy) :
    strategy.variant = variant := by
  rw [← of_select_eq_ok selects]
  exact Builder.variant_perform env .configure (.fresh variant)

end Variant

/-- The retrier of a mode is the one that is made for it. -/
theorem Retrier.make_of_forMode
    {env : Environment}
    {mode : Mode}
    {retrier : Retrier}
    (selected : (forMode env mode).outcome = .ok retrier) :
    (make env mode).outcome = .ok retrier := by
  rw [forMode] at selected
  cases makes : (make env mode).outcome with
  | error fault =>
    rw [makes] at selected
    cases selected
  | ok made =>
    rw [makes] at selected
    exact selected

namespace Mode

/-- The variant of the strategies that stand for a mode, also where a policy serves
it. -/
def variant (mode : Mode) : Variant :=
  mode.variant?.getD .adaptive

/-- The plan of a mode with the budget that the environment sets, if it sets one. -/
def plan
    (mode : Mode)
    (override : Option Int) : Plan where
  maxAttempts := .int (override.getD mode.variant.maxAttempts)
  rules := Policy.rulesFor mode

variable {env : Environment}

/-- No policy of a mode can be made where the environment sets no budget. -/
theorem policy_of_error
    (mode : Mode)
    {error : SettingError}
    (unreadable : Settings.attempts env = .error error) :
    (Policy.forMode env mode).outcome = .error (.setting error) := by
  simp only [Policy.forMode, unreadable]

/-- The policy of a mode has the plan of the mode: its retries come after a first
attempt. -/
theorem policy_of_ok
    (mode : Mode)
    {override : Option Int}
    (read : Settings.attempts env = .ok override) :
    ∃ policy, (Policy.forMode env mode).outcome = .ok policy ∧
      (Retrier.adapted policy).plan = mode.plan override := by
  have defaults : mode.variant.maxAttempts = Policy.defaultRetries mode + 1 := by
    cases mode <;> rfl
  have atLeast : 0 ≤ Policy.defaultRetries mode := by
    cases mode <;> decide
  have budget : ∃ retries : Int,
      (override.map (· - 1)).getD (Policy.defaultRetries mode) = retries ∧ 0 ≤ retries ∧
        override.getD mode.variant.maxAttempts = retries + 1 := by
    cases override with
    | none => exact ⟨_, rfl, atLeast, defaults⟩
    | some budget =>
      have positive : 1 ≤ budget := Settings.one_le_of_attempts read
      refine ⟨budget - 1, rfl, ?_, ?_⟩
      · omega
      · rw [Option.getD_some]
        omega
  obtain ⟨retries, counted, natural, attempts⟩ := budget
  have enough : ¬(Number.int retries).lt (.int 0) = true := by
    rw [Number.lt_int_int, decide_eq_true_iff]
    omega
  refine ⟨⟨.mode mode, .int retries, Policy.rulesFor mode⟩, ?_, ?_⟩
  · simp only [Policy.forMode, read, counted, Policy.make, Value.int, Value.asNumber,
      Outcome.ok_bind, if_neg enough]
  · rw [plan, attempts]
    rfl

/-- No strategy that stands for a mode can be selected where the environment sets no
budget. -/
theorem strategy_of_error
    (mode : Mode)
    {error : SettingError}
    (unreadable : Settings.attempts env = .error error) :
    (mode.variant.select env).outcome = .error (.setting error) :=
  Variant.select_of_error unreadable

/-- The strategy that stands for a mode has the plan of the mode. -/
theorem strategy_of_ok
    (mode : Mode)
    {override : Option Int}
    (read : Settings.attempts env = .ok override) :
    ∃ strategy, (mode.variant.select env).outcome = .ok strategy ∧
      (Retrier.strategy strategy).plan = mode.plan override := by
  have tracks : mode.variant.tracksDefaults = true := by cases mode <;> rfl
  have concrete : mode.variant.isConcrete = true := by cases mode <;> rfl
  refine ⟨_, Variant.select_of_ok read tracks concrete, ?_⟩
  cases mode <;> rfl

/-- The retrier of a mode has the plan of the mode. -/
theorem retrier_of_ok
    (mode : Mode)
    {override : Option Int}
    (read : Settings.attempts env = .ok override) :
    ∃ retrier, (Retrier.forMode env mode).outcome = .ok retrier ∧
      retrier.plan = mode.plan override := by
  have made : ∃ retrier, (Retrier.make env mode).outcome = .ok retrier ∧
      retrier.plan = mode.plan override := by
    obtain ⟨policy, byPolicy, policyPlan⟩ := mode.policy_of_ok read
    obtain ⟨strategy, byStrategy, strategyPlan⟩ := mode.strategy_of_ok read
    cases mode with
    | adaptive =>
      refine ⟨.adapted policy, ?_, policyPlan⟩
      simp [Retrier.make, variant?, byPolicy]
    | standard | adaptiveV2 | legacy =>
      refine ⟨.strategy strategy, ?_, strategyPlan⟩
      exact congrArg (Retrier.strategy <$> ·) byStrategy
  obtain ⟨retrier, makes, plan⟩ := made
  refine ⟨retrier, ?_, plan⟩
  simp only [Retrier.forMode, makes]

/-- There is no retrier of a mode where the environment sets no budget. -/
theorem retrier_of_error
    (mode : Mode)
    {error : SettingError}
    (unreadable : Settings.attempts env = .error error) :
    (Retrier.forMode env mode).outcome = .error (.setting error) := by
  have fails : (Retrier.make env mode).outcome = .error (.setting error) := by
    have byPolicy := mode.policy_of_error unreadable
    have byStrategy := mode.strategy_of_error unreadable
    cases mode with
    | adaptive => simp [Retrier.make, variant?, byPolicy]
    | standard | adaptiveV2 | legacy => exact congrArg (Retrier.strategy <$> ·) byStrategy
  simp only [Retrier.forMode, fails]

/-- The retrier of a mode has the plan of the mode with a budget that the environment
sets. -/
theorem plan_of_retrier
    {mode : Mode}
    {retrier : Retrier}
    (selected : (Retrier.forMode env mode).outcome = .ok retrier) :
    ∃ override, Settings.attempts env = .ok override ∧ retrier.plan = mode.plan override := by
  cases read : Settings.attempts env with
  | error error =>
    rw [mode.retrier_of_error read] at selected
    cases selected
  | ok override =>
    obtain ⟨other, otherSelected, plan⟩ := mode.retrier_of_ok read
    rw [otherSelected] at selected
    cases selected
    exact ⟨override, rfl, plan⟩

/-- The policy of a mode in the guise of a strategy and the strategy that stands for the
mode agree.  In any environment both fail with the same fault, or both allow as many
attempts, and answer every question about every failure and attempt alike, whatever the
users' conditions answer. -/
theorem policy_agrees_strategy
    (env : Environment)
    (mode : Mode) :
    (∃ error,
      (Policy.forMode env mode).outcome = .error (.setting error) ∧
      (mode.variant.select env).outcome = .error (.setting error)) ∨
    ∃ policy strategy,
      (Policy.forMode env mode).outcome = .ok policy ∧
      (mode.variant.select env).outcome = .ok strategy ∧
      (Retrier.adapted policy).plan.maxAttempts =
        (Retrier.strategy strategy).plan.maxAttempts ∧
      ∀ users failure attempt,
        (Retrier.adapted policy).plan.isRetryable users failure =
          (Retrier.strategy strategy).plan.isRetryable users failure ∧
        (Retrier.adapted policy).plan.isThrottling users failure =
          (Retrier.strategy strategy).plan.isThrottling users failure ∧
        (Retrier.adapted policy).plan.shouldRetry users failure attempt =
          (Retrier.strategy strategy).plan.shouldRetry users failure attempt ∧
        (Retrier.adapted policy).plan.computeDelay users attempt failure =
          (Retrier.strategy strategy).plan.computeDelay users attempt failure := by
  cases read : Settings.attempts env with
  | error error =>
    exact Or.inl ⟨error, mode.policy_of_error read, mode.strategy_of_error read⟩
  | ok override =>
    obtain ⟨policy, byPolicy, policyPlan⟩ := mode.policy_of_ok read
    obtain ⟨strategy, byStrategy, strategyPlan⟩ := mode.strategy_of_ok read
    refine Or.inr ⟨policy, strategy, byPolicy, byStrategy, ?_, ?_⟩
    · rw [policyPlan, strategyPlan]
    · intro users failure attempt
      rw [policyPlan, strategyPlan]
      exact ⟨rfl, rfl, rfl, rfl⟩

end Mode
end Retry
