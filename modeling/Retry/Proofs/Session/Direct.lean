import Retry.Proofs.Condition.Search
import Retry.Proofs.Markers
import Retry.Proofs.Session.Fork

/-!
# Strategies made directly

A strategy can be made directly from its fields, with repeated conditions and numbers that no
setter would take.  The main statement says which of these strategies cannot be started from,
and what the builder that starts from any other builds: the strategy without its repetitions,
which decides and waits as before, and is equal to it where there were none.
-/

namespace Retry

/-- Whether a budget or one of two base delays would be refused by the setters. -/
def Builder.Refuses (budget baseDelay throttledBaseDelay : Number) : Prop :=
  budget.lt (.int 1) = true ∨ baseDelay.lt (.int 0) = true ∨
    throttledBaseDelay.lt (.int 0) = true

/-- The strategy with each condition only where it first comes. -/
def Strategy.distinct (strategy : Strategy) : Strategy :=
  { strategy with
    plan := { strategy.plan with
      rules := { strategy.plan.rules with
        conditions := strategy.plan.rules.conditions.eraseDups } } }

/-- Whether a strategy is one of the library's own that is made directly of numbers, a
classifier that counts as true, and texts. -/
structure Strategy.IsDirect
    (budget baseDelay throttledBaseDelay maxBackoff : Number)
    (strategy : Strategy) : Prop where
  library : strategy.variant ∈ [Variant.standard, .legacy, .adaptive]
  label : strategy.label = strategy.variant.strategyLabel
  classifier : strategy.plan.rules.classifier.isTruthy = true
  maxAttempts : strategy.plan.maxAttempts = .number budget
  baseDelay : strategy.plan.rules.baseDelay = .number baseDelay
  throttledBaseDelay : strategy.plan.rules.throttledBaseDelay = .number throttledBaseDelay
  maxBackoff : strategy.plan.rules.maxBackoff = .number maxBackoff
  textsOnly : strategy.defaultsAdded.others = []

namespace Strategy

/-- Dropping repeated conditions changes no decision, also where one fails, and no delay. -/
theorem distinct_decides
    (strategy : Strategy)
    (users : UserConditions)
    (failure : Failure)
    (attempt : Value) :
    (strategy.distinct.plan.shouldRetry users failure attempt).outcome =
        (strategy.plan.shouldRetry users failure attempt).outcome ∧
      (strategy.distinct.plan.computeDelay users attempt failure).outcome =
        (strategy.plan.computeDelay users attempt failure).outcome := by
  refine ⟨?_, rfl⟩
  have budget : strategy.distinct.plan.maxAttempts = strategy.plan.maxAttempts := rfl
  rw [Plan.shouldRetry, Plan.shouldRetry, budget]
  cases Plan.isSpent strategy.plan.maxAttempts attempt with
  | error fault => rfl
  | ok spent =>
    cases spent with
    | true => rfl
    | false => exact Condition.outcome_any_eraseDups strategy.plan.rules.conditions

section Direct

variable {budget baseDelay throttledBaseDelay maxBackoff : Number} {strategy : Strategy}
  (direct : strategy.IsDirect budget baseDelay throttledBaseDelay maxBackoff)
include direct

/-- A strategy that is made directly can be started from unless a setter refuses one of its
numbers, which is then the fault. -/
theorem IsDirect.toBuilder_cases :
    (Builder.Refuses budget baseDelay throttledBaseDelay ∧
      ∃ fault ∈ [.attemptsBelowOne budget, .negativeDelay baseDelay,
          .negativeDelay throttledBaseDelay],
        strategy.toBuilder = .error fault) ∨
    (¬Builder.Refuses budget baseDelay throttledBaseDelay ∧
      strategy.toBuilder = .ok (strategy.restarted budget baseDelay throttledBaseDelay)) := by
  have tracks : strategy.variant.tracksDefaults = true :=
    (Builder.sound_fresh direct.library).tracksDefaults
  rw [toBuilder_eq tracks, direct.maxAttempts, direct.baseDelay, direct.throttledBaseDelay,
    Builder.checkBudget_eq, Builder.checkDelay_eq, checkAtLeast_number, checkAtLeast_number,
    checkAtLeast_number, Builder.Refuses]
  cases budget.lt (.int 1) with
  | true => exact Or.inl ⟨Or.inl rfl, _, by simp, rfl⟩
  | false =>
    cases baseDelay.lt (.int 0) with
    | true => exact Or.inl ⟨Or.inr (Or.inl rfl), _, by simp, rfl⟩
    | false =>
      cases throttledBaseDelay.lt (.int 0) with
      | true => exact Or.inl ⟨Or.inr (Or.inr rfl), _, by simp, rfl⟩
      | false => exact Or.inr ⟨by simp, rfl⟩

/-- The builder that starts from a strategy that is made directly builds it without its
repetitions. -/
theorem IsDirect.build_restarted :
    (strategy.restarted budget baseDelay throttledBaseDelay).build.outcome =
      .ok strategy.distinct := by
  have classifier : (strategy.restarted budget baseDelay throttledBaseDelay).classifier =
      some strategy.plan.rules.classifier :=
    if_neg (Condition.ne_absent_of_truthy direct.classifier)
  have effective : (strategy.restarted budget baseDelay throttledBaseDelay).effectiveClassifier =
      strategy.plan.rules.classifier :=
    Builder.effectiveClassifier_of_truthy classifier direct.classifier
  have concrete : (strategy.restarted budget baseDelay throttledBaseDelay).variant.isConcrete =
      true := by
    show strategy.variant.isConcrete = true
    rcases Variant.eq_of_library direct.library with same | same | same <;> rw [same] <;> rfl
  have sorted : (strategy.restarted budget baseDelay throttledBaseDelay).defaultsAdded.sorted? =
      some (strategy.defaultsAdded.names.map .text) := by
    show strategy.defaultsAdded.sorted? = _
    rw [Markers.sorted?, direct.textsOnly]
    rfl
  have built : (strategy.restarted budget baseDelay throttledBaseDelay).strategy =
      strategy.distinct := by
    have bounded : strategy.plan.rules.maxBackoff.isNull = false := by
      rw [direct.maxBackoff]
      rfl
    rw [Builder.strategy, Builder.rules, effective]
    simp only [restarted, distinct, bounded, Bool.false_eq_true, if_false, ← direct.label,
      ← direct.maxAttempts, ← direct.baseDelay, ← direct.throttledBaseDelay]
  rw [Builder.build, classifier, concrete, sorted, built, Option.isNone_some, Bool.and_false]
  rfl

/-- A strategy that is made directly is equal to itself without its repetitions where it has
none. -/
theorem IsDirect.same_distinct :
    HeldStrategy.same (.bare strategy.distinct) (.bare strategy) =
      .ok (decide strategy.plan.rules.conditions.Nodup) := by
  have label : strategy.distinct.label = strategy.label := rfl
  have itself (number : Number) : number.agrees number = true := by simp [Number.agrees]
  have numbers : Value.sameItems
      [strategy.plan.maxAttempts, strategy.plan.rules.baseDelay,
        strategy.plan.rules.throttledBaseDelay, strategy.plan.rules.maxBackoff]
      [strategy.plan.maxAttempts, strategy.plan.rules.baseDelay,
        strategy.plan.rules.throttledBaseDelay, strategy.plan.rules.maxBackoff] = true := by
    rw [direct.maxAttempts, direct.baseDelay, direct.throttledBaseDelay, direct.maxBackoff]
    simp [Value.sameItems, Value.same, itself]
  rw [HeldStrategy.same_bare label]
  show Except.ok (decide (strategy.plan.rules.conditions.eraseDups =
      strategy.plan.rules.conditions) && decide (strategy.plan.rules.classifier =
      strategy.plan.rules.classifier) && Value.sameItems
        [strategy.plan.maxAttempts, strategy.plan.rules.baseDelay,
          strategy.plan.rules.throttledBaseDelay, strategy.plan.rules.maxBackoff]
        [strategy.plan.maxAttempts, strategy.plan.rules.baseDelay,
          strategy.plan.rules.throttledBaseDelay, strategy.plan.rules.maxBackoff] &&
      strategy.defaultsAdded.same strategy.defaultsAdded) = _
  rw [numbers, Markers.same_self direct.textsOnly, decide_eq_true rfl]
  simp only [Bool.and_true, Condition.eraseDups_eq_self_iff]

end Direct

/-- A strategy of the library can be made directly of any conditions, numbers and texts. -/
theorem exists_make
    {variant : Variant}
    (library : variant ∈ [Variant.standard, .legacy, .adaptive])
    (conditions : List Condition)
    {classifier : Condition}
    (truthy : classifier.isTruthy = true)
    (budget baseDelay throttledBaseDelay maxBackoff : Number)
    (markers : List String) :
    ∃ strategy : Strategy,
      make variant.strategyLabel variant
        ⟨.number budget, conditions, classifier, .number baseDelay,
          .number throttledBaseDelay, .number maxBackoff⟩
        (.list (markers.map .text)) = .ok strategy ∧
      strategy.IsDirect budget baseDelay throttledBaseDelay maxBackoff ∧
      strategy.plan.rules.conditions = conditions := by
  obtain ⟨names, made, textsOnly, _⟩ := Markers.exists_ofValues?_texts markers
  have concrete : variant.isConcrete = true := by
    rcases Variant.eq_of_library library with rfl | rfl | rfl <;> rfl
  refine ⟨⟨variant.strategyLabel, variant,
    ⟨.number budget, conditions, classifier, .number baseDelay, .number throttledBaseDelay,
      .number maxBackoff⟩, names⟩, ?_, ?_, rfl⟩
  · have collected : (Value.list (markers.map .text)).items?.bind Markers.ofValues? =
        some names := made
    rw [make, collected, compatible, Outcome.ok_bind, concrete]
    rfl
  · exact ⟨library, rfl, truthy, rfl, rfl, rfl, rfl, textsOnly⟩

/-- A strategy of the library can be made directly of any conditions, numbers and texts, and a
classifier that counts as true.  It cannot be started from exactly where a setter would refuse
one of its numbers.  The builder that starts from it otherwise builds the strategy without its
repetitions, which decides and waits as the strategy does about every failure of every attempt,
and is equal to it exactly where there were no repetitions. -/
theorem restart_of_made
    {variant : Variant}
    (library : variant ∈ [Variant.standard, .legacy, .adaptive])
    (conditions : List Condition)
    {classifier : Condition}
    (truthy : classifier.isTruthy = true)
    (budget baseDelay throttledBaseDelay maxBackoff : Number)
    (markers : List String) :
    ∃ strategy : Strategy,
      make variant.strategyLabel variant
        ⟨.number budget, conditions, classifier, .number baseDelay,
          .number throttledBaseDelay, .number maxBackoff⟩
        (.list (markers.map .text)) = .ok strategy ∧
      ((∃ fault, Annotated.toBuilder (.bare (.retrier (.strategy strategy))) = .error fault) ↔
        Builder.Refuses budget baseDelay throttledBaseDelay) ∧
      (∀ fault, Annotated.toBuilder (.bare (.retrier (.strategy strategy))) = .error fault →
        fault ∈ [.attemptsBelowOne budget, .negativeDelay baseDelay,
          .negativeDelay throttledBaseDelay]) ∧
      ∀ builder, Annotated.toBuilder (.bare (.retrier (.strategy strategy))) = .ok builder →
        (Annotated.build (.bare (.builder builder))).outcome = .ok strategy.distinct ∧
        (∀ users failure attempt,
          (strategy.distinct.plan.shouldRetry users failure attempt).outcome =
              (strategy.plan.shouldRetry users failure attempt).outcome ∧
            (strategy.distinct.plan.computeDelay users attempt failure).outcome =
              (strategy.plan.computeDelay users attempt failure).outcome) ∧
        HeldStrategy.same (.bare strategy.distinct) (.bare strategy) =
          .ok (decide conditions.Nodup) := by
  obtain ⟨strategy, made, direct, same⟩ :=
    exists_make library conditions truthy budget baseDelay throttledBaseDelay maxBackoff markers
  refine ⟨strategy, made, ?_⟩
  rw [Annotated.toBuilder_bare]
  rcases direct.toBuilder_cases with ⟨refuses, fault, listed, fails⟩ | ⟨accepts, starts⟩
  · refine ⟨iff_of_true ⟨fault, fails⟩ refuses, ?_, ?_⟩
    · intro other otherFails
      rw [fails] at otherFails
      exact Except.error.inj otherFails ▸ listed
    · intro builder starts
      rw [fails] at starts
      cases starts
  · have sound : (strategy.restarted budget baseDelay throttledBaseDelay).Sound :=
      sound_of_toBuilder (Builder.sound_fresh direct.library).tracksDefaults starts
    have passes (fault : Fault) : ¬strategy.toBuilder = .error fault := by
      intro fails
      rw [starts] at fails
      cases fails
    refine ⟨iff_of_false (fun ⟨fault, fails⟩ => passes fault fails) accepts, ?_, ?_⟩
    · intro fault fails
      exact absurd fails (passes fault)
    · intro builder otherStarts
      obtain rfl := Except.ok.inj (starts.symm.trans otherStarts)
      refine ⟨?_, strategy.distinct_decides, ?_⟩
      · rw [Annotated.build_bare sound.classifier, direct.build_restarted]
      · rw [direct.same_distinct, same]

/-- A strategy that holds a condition twice can be started from, and what the builder builds
that starts from it holds the condition once, and is not equal to it. -/
theorem restart_of_made_repeated :
    ∃ strategy builder,
      make Variant.standard.strategyLabel .standard
        ⟨.int 2, [.user "mine", .throttled, .user "mine"], .throttlingClassifier, .int 0,
          .int 0, .int 1⟩
        (.list [.text sdkDefaults]) = .ok strategy ∧
      Annotated.toBuilder (.bare (.retrier (.strategy strategy))) = .ok builder ∧
      (Annotated.build (.bare (.builder builder))).outcome = .ok strategy.distinct ∧
      HeldStrategy.same (.bare strategy.distinct) (.bare strategy) = .ok false := by
  obtain ⟨strategy, made, fails, _, starts⟩ :=
    restart_of_made (List.mem_cons_self ..) [.user "mine", .throttled, .user "mine"]
      (show Condition.throttlingClassifier.isTruthy = true from rfl) (.int 2) (.int 0) (.int 0)
      (.int 1) [sdkDefaults]
  have accepts : ¬Builder.Refuses (.int 2) (.int 0) (.int 0) := by
    simp [Builder.Refuses, Number.lt_int_int]
  have repeats : ¬[Condition.user "mine", .throttled, .user "mine"].Nodup := by decide
  cases started : Annotated.toBuilder (.bare (.retrier (.strategy strategy))) with
  | error fault => exact absurd (fails.mp ⟨fault, started⟩) accepts
  | ok builder =>
    obtain ⟨builds, _, same⟩ := starts builder started
    rw [decide_eq_false repeats] at same
    exact ⟨strategy, builder, made, started, builds, same⟩

end Strategy
end Retry
