import Retry.Proofs.Builder.Restart
import Retry.Proofs.Session.Bare

/-!
# Forks of builders

A finished strategy can be turned back into a builder, its *fork*.  The main statement
says that the fork cannot be told from the builder that the strategy was built by:
whatever is then done with both, they report, fail, answer and build alike.  The two may
differ in one place, since a builder without a classifier that counts as true gives its
strategies one.
-/

namespace Retry

namespace Builder

/-- A builder with the classifier that its strategies get. -/
def settle (builder : Builder) : Builder :=
  { builder with classifier := some builder.effectiveClassifier }

/-- Whether a builder is another one, or that one with the classifier that its strategies
get, if it builds any. -/
inductive Matches : Builder → Builder → Prop where
  | same (builder : Builder) : Matches builder builder
  | settled
      {builder : Builder}
      (optional : builder.classifier = none → builder.variant.needsClassifier = false) :
      Matches builder builder.settle

/-- A change that leaves the classifier alone leaves builders that match. -/
theorem Matches.change
    {left right : Builder}
    (start : Matches left right)
    {change : Builder → Builder}
    (settles : ∀ builder, change builder.settle = (change builder).settle)
    (classifier : ∀ builder, (change builder).classifier = builder.classifier)
    (variant : ∀ builder, (change builder).variant = builder.variant) :
    Matches (change left) (change right) := by
  cases start with
  | same => exact .same _
  | settled optional =>
    rw [settles]
    refine .settled ?_
    rw [classifier, variant]
    exact optional

theorem Matches.retryOn
    {left right : Builder}
    (start : Matches left right)
    (condition : Condition) :
    Matches (left.retryOn condition) (right.retryOn condition) := by
  apply start.change
  · intro builder
    unfold Builder.retryOn settle
    split <;> rfl
  · intro builder
    unfold Builder.retryOn
    split <;> rfl
  · intro builder
    unfold Builder.retryOn
    split <;> rfl

/-- Setting a classifier makes a builder that matches another one the same as it. -/
theorem Matches.treatAsThrottling
    {left right : Builder}
    (start : Matches left right)
    (condition : Condition) :
    Matches (left.treatAsThrottling condition) (right.treatAsThrottling condition) := by
  cases start with
  | same => exact .same _
  | settled optional => exact .same _

/-- Writing what passes a check, and leaving the classifier alone, leaves builders that
match. -/
theorem Matches.write
    {left right : Builder}
    (start : Matches left right)
    {α : Type}
    (checked : Except Fault α)
    (write : α → Builder → Builder)
    (settles : ∀ value builder,
      write value builder.settle = (write value builder).settle)
    (classifier : ∀ value builder, (write value builder).classifier = builder.classifier)
    (variant : ∀ value builder, (write value builder).variant = builder.variant) :
    Step.Related Matches
      (.ofExcept left ((write · left) <$> checked))
      (.ofExcept right ((write · right) <$> checked)) := by
  apply Step.Related.ofExcept start
  intro value _
  exact start.change (settles value) (classifier value) (variant value)

theorem Matches.setBackoff
    {left right : Builder}
    (start : Matches left right)
    (baseDelay maxBackoff : Value) :
    Step.Related Matches
      (.ofExcept left (left.setBackoff baseDelay maxBackoff))
      (.ofExcept right (right.setBackoff baseDelay maxBackoff)) := by
  rw [setBackoff_eq, setBackoff_eq]
  refine start.write (checkDelay baseDelay)
    (fun delay builder =>
      { builder with
        baseDelay := .number delay
        maxBackoff := if maxBackoff.isNull then builder.maxBackoff else maxBackoff })
    ?_ ?_ ?_
  all_goals intros; rfl

theorem Matches.setThrottledBackoff
    {left right : Builder}
    (start : Matches left right)
    (baseDelay : Value) :
    Step.Related Matches
      (.ofExcept left (left.setThrottledBackoff baseDelay))
      (.ofExcept right (right.setThrottledBackoff baseDelay)) := by
  rw [setThrottledBackoff_eq, setThrottledBackoff_eq]
  refine start.write (checkDelay baseDelay)
    (fun delay builder => { builder with throttledBaseDelay := .number delay }) ?_ ?_ ?_
  all_goals intros; rfl

theorem Matches.setMaxAttempts
    {left right : Builder}
    (start : Matches left right)
    (budget : Value) :
    Step.Related Matches
      (.ofExcept left (left.setMaxAttempts budget))
      (.ofExcept right (right.setMaxAttempts budget)) := by
  rw [setMaxAttempts_eq, setMaxAttempts_eq]
  refine start.write (checkBudget budget)
    (fun budget builder => { builder with maxAttempts := .number budget }) ?_ ?_ ?_
  all_goals intros; rfl

theorem Matches.markDefaults
    {left right : Builder}
    (start : Matches left right)
    (name : Value) :
    Step.Related Matches
      (left.call (.markDefaults name)) (right.call (.markDefaults name)) := by
  have variant : left.variant = right.variant := by
    cases start <;> rfl
  have markers : left.defaultsAdded = right.defaultsAdded := by
    cases start <;> rfl
  rw [Builder.call, Builder.call, variant]
  split
  · rw [markDefaults_eq, markDefaults_eq, markers]
    refine start.write (compatible (right.defaultsAdded.add? name))
      (fun markers builder => { builder with defaultsAdded := markers }) ?_ ?_ ?_
    all_goals intros; rfl
  · exact Step.Related.failed start _

theorem alike_matches : AcceptsCalls.Alike Matches where
  label := by
    intro left right start
    cases start <;> rfl
  tracksDefaults := by
    intro left right start
    cases start <;> rfl
  lacksDefaults := by
    intro name left right start
    refine ⟨start, ?_⟩
    cases start <;> rfl
  call := by
    intro call left right start
    cases call with
    | retryOn condition => exact Step.Related.done (start.retryOn condition)
    | retryOnInstanceOf ref => exact Step.Related.done (start.retryOn _)
    | retryOnInstanceOrCauseOf ref => exact Step.Related.done (start.retryOn _)
    | treatAsThrottling condition => exact Step.Related.done (start.treatAsThrottling condition)
    | maxAttempts budget => exact start.setMaxAttempts budget
    | markDefaults name => exact start.markDefaults name

/-- Builders that match build alike. -/
theorem Matches.build
    {left right : Builder}
    (start : Matches left right) :
    left.build = right.build := by
  cases start with
  | same => rfl
  | settled optional =>
    have again : left.settle.effectiveClassifier = left.effectiveClassifier :=
      effectiveClassifier_of_truthy rfl left.isTruthy_effectiveClassifier
    have strategy : left.settle.strategy = left.strategy := by
      rw [Builder.strategy, Builder.strategy, Builder.rules, Builder.rules, again]
      rfl
    have ready : (left.variant.needsClassifier && left.classifier.isNone) = false := by
      cases set_ : left.classifier with
      | none => rw [optional set_]; rfl
      | some condition => exact Bool.and_false _
    have readyToo :
        (left.settle.variant.needsClassifier && left.settle.classifier.isNone) = false :=
      Bool.and_false _
    rw [Builder.build, Builder.build, strategy, ready, readyToo]
    rfl

theorem Sound.settle
    {builder : Builder}
    (sound : builder.Sound) :
    builder.settle.Sound :=
  { sound with
    classifier := fun absent =>
      builder.effectiveClassifier_ne_absent (Option.some.inj absent) }

/-- The fork of a strategy that a sound builder builds is that builder, with the
classifier of the strategy. -/
theorem Sound.toBuilder
    {builder : Builder}
    (sound : builder.Sound) :
    builder.strategy.toBuilder = .ok builder.settle := by
  obtain ⟨budget, isBudget, budgetAgain⟩ := sound.maxAttempts
  obtain ⟨delay, isDelay, delayAgain⟩ := sound.baseDelay
  obtain ⟨throttledDelay, isThrottled, throttledAgain⟩ := sound.throttledBaseDelay
  have tracks : builder.strategy.variant.tracksDefaults = true := sound.tracksDefaults
  have checked : builder.strategy.toBuilder =
      .ok (builder.strategy.restarted budget delay throttledDelay) := by
    rw [Strategy.toBuilder_eq tracks]
    show (do
      let budget ← checkBudget builder.maxAttempts
      let delay ← checkDelay builder.baseDelay
      let throttledDelay ← checkDelay builder.throttledBaseDelay
      return builder.strategy.restarted budget delay throttledDelay) = _
    rw [isBudget, isDelay, isThrottled, budgetAgain, delayAgain, throttledAgain]
    rfl
  have conditions : builder.conditions.eraseDups = builder.conditions :=
    Condition.eraseDups_eq_self_iff.mpr sound.distinct
  rw [checked, Strategy.restarted, Builder.settle, isBudget, isDelay, isThrottled]
  simp only [strategy, rules, conditions, sound.maxBackoff, builder.effectiveClassifier_ne_absent,
    Bool.false_eq_true, if_false]

/-- The fork of a strategy matches the sound builder that the strategy was built by. -/
theorem Sound.matches_fork
    {builder : Builder}
    (sound : builder.Sound)
    {strategy : Strategy}
    (builds : builder.build.outcome = .ok strategy) :
    ∃ fork, strategy.toBuilder = .ok fork ∧ fork.Sound ∧ Matches builder fork := by
  obtain ⟨rfl, optional⟩ := of_build_eq_ok builds
  exact ⟨builder.settle, sound.toBuilder, sound.settle, .settled optional⟩

end Builder

/-- What is done with a builder, or with the environment in which it is used. -/
inductive Act where
  | operate (operation : Operation)
  /-- The question whether a bundle is still to be taken in. -/
  | ask (name : Value)
  /-- The change to another environment. -/
  | move (env : Environment)
  | build

/-- What comes of an act. -/
inductive Answer where
  | performed (events : List Event) (fault : Option Fault)
  | told (lacks : Except Fault Bool)
  | moved
  | built (strategy : Reported Strategy)

/-- An object in an environment. -/
structure Bench where
  environment : Environment
  object : Annotated Held

namespace Bench

/-- A builder, with which no values are kept. -/
def ofBuilder
    (env : Environment)
    (builder : Builder) : Bench :=
  ⟨env, .bare (.builder builder)⟩

/-- One act, and what comes of it. -/
def act (bench : Bench) : Act → Bench × Answer
  | .operate operation =>
    let budget := do (← bench.object.outlook).maxAttempts
    let step := bench.object.perform bench.environment operation budget
    ({ bench with object := step.builder }, .performed step.events step.fault)
  | .ask name =>
    let (asked, answer) := bench.object.askDefaults name
    ({ bench with object := asked }, .told answer)
  | .move env => ({ bench with environment := env }, .moved)
  | .build => (bench, .built bench.object.build)

/-- Acts in order, and what comes of each.  One that fails does not stop the others. -/
def acts : List Act → Bench → Bench × List Answer
  | [], bench => (bench, [])
  | first :: rest, bench =>
    let (next, answer) := bench.act first
    let (last, answers) := next.acts rest
    (last, answer :: answers)

theorem acts_cons
    (first : Act)
    (rest : List Act)
    (bench : Bench) :
    acts (first :: rest) bench =
      ((acts rest (bench.act first).1).1,
        (bench.act first).2 :: (acts rest (bench.act first).1).2) := rfl

theorem act_operate_ofBuilder
    (env : Environment)
    (builder : Builder)
    (operation : Operation) :
    (ofBuilder env builder).act (.operate operation) =
      (ofBuilder env (builder.perform env operation).builder,
        .performed (builder.perform env operation).events
          (builder.perform env operation).fault) := by
  simp only [Bench.act, ofBuilder, Annotated.perform_bare]
  rfl

/-- Whether two benches hold sound builders that match, in the same environment. -/
inductive Matches : Bench → Bench → Prop where
  | builders
      (env : Environment)
      {left right : Builder}
      (leftSound : left.Sound)
      (rightSound : right.Sound)
      (pair : left.Matches right) :
      Matches (ofBuilder env left) (ofBuilder env right)

/-- An act on builders that match leaves builders that match, and comes to the same. -/
theorem Matches.act
    {left right : Bench}
    (start : left.Matches right)
    (act : Act) :
    (left.act act).1.Matches (right.act act).1 ∧ (left.act act).2 = (right.act act).2 := by
  obtain @⟨env, left, right, leftSound, rightSound, pair⟩ := start
  cases act with
  | operate operation =>
    have steps : Step.Related Builder.Matches
        (left.perform env operation) (right.perform env operation) :=
      Builder.perform_related Builder.alike_matches
        (fun baseDelay maxBackoff _ _ start => start.setBackoff baseDelay maxBackoff)
        (fun baseDelay _ _ start => start.setThrottledBackoff baseDelay)
        env operation pair
    rw [act_operate_ofBuilder, act_operate_ofBuilder, steps.events, steps.fault]
    refine ⟨?_, rfl⟩
    exact .builders env (leftSound.perform env operation) (rightSound.perform env operation)
      steps.builder
  | ask name =>
    have acted (builder : Builder) :
        (ofBuilder env builder).act (.ask name) =
          (ofBuilder env builder, .told <|
            if builder.variant.tracksDefaults then builder.lacksDefaults name
            else .error .missingMember) := by
      simp only [Bench.act, ofBuilder, Annotated.askDefaults_bare]
    rw [acted, acted]
    refine ⟨.builders env leftSound rightSound pair, ?_⟩
    cases pair <;> rfl
  | move other => exact ⟨.builders other leftSound rightSound pair, rfl⟩
  | build =>
    refine ⟨.builders env leftSound rightSound pair, ?_⟩
    show Answer.built (Annotated.build (.bare (.builder left))) =
      .built (Annotated.build (.bare (.builder right)))
    rw [Annotated.build_bare leftSound.classifier, Annotated.build_bare rightSound.classifier,
      pair.build]

/-- Acts on builders that match leave builders that match, and come to the same, one by
one. -/
theorem Matches.acts
    {left right : Bench}
    (start : left.Matches right)
    (further : List Act) :
    (Bench.acts further left).1.Matches (Bench.acts further right).1 ∧
      (Bench.acts further left).2 = (Bench.acts further right).2 := by
  induction further generalizing left right with
  | nil => exact ⟨start, rfl⟩
  | cons first rest inductionHypothesis =>
    obtain ⟨next, answer⟩ := start.act first
    obtain ⟨last, answers⟩ := inductionHypothesis next
    rw [acts_cons, acts_cons, answer, answers]
    exact ⟨last, rfl⟩

end Bench

/-- A builder of one of the library's variants and the fork of a strategy that it builds
cannot be told apart.  The fork exists and builds the same strategy, and whatever else is
done with the two, in whatever environments, comes to the same, act by act. -/
theorem Strategy.fork_indistinguishable
    {variant : Variant}
    (library : variant ∈ [Variant.standard, .legacy, .adaptive])
    (start : Environment)
    (history : List Act)
    {strategy : Strategy}
    (builds : (Bench.acts history
      (.ofBuilder start (.fresh variant))).1.object.build.outcome = .ok strategy) :
    ∃ fork,
      Annotated.toBuilder (.bare (.retrier (.strategy strategy))) = .ok fork ∧
      (Annotated.build (.bare (.builder fork))).outcome = .ok strategy ∧
      ∀ (env : Environment) (further : List Act),
        (Bench.acts further
          ⟨env, (Bench.acts history (.ofBuilder start (.fresh variant))).1.object⟩).2 =
          (Bench.acts further (.ofBuilder env fork)).2 := by
  have fresh : (Builder.fresh variant).Sound := Builder.sound_fresh library
  have alone : (Bench.ofBuilder start (.fresh variant)).Matches
      (.ofBuilder start (.fresh variant)) := .builders start fresh fresh (.same _)
  have reached := (alone.acts history).1
  generalize (Bench.acts history (.ofBuilder start (.fresh variant))).1 = bench
    at builds reached ⊢
  obtain @⟨last, builder, _, sound, _, _⟩ := reached
  have built : builder.build.outcome = .ok strategy := by
    rw [← Annotated.build_bare sound.classifier]
    exact builds
  obtain ⟨fork, forks, forkSound, pair⟩ := sound.matches_fork built
  refine ⟨fork, ?_, ?_, ?_⟩
  · rw [Annotated.toBuilder_bare]
    exact forks
  · rw [Annotated.build_bare forkSound.classifier, ← pair.build]
    exact built
  · intro env further
    have both : (Bench.ofBuilder env builder).Matches (.ofBuilder env fork) :=
      .builders env sound forkSound pair
    exact (both.acts further).2

/-- A standard builder that lost its classifier builds a strategy, and asking, setting a
budget that is none and building come to the same with the strategy's fork. -/
theorem Strategy.fork_of_unclassified :
    ∃ strategy fork,
      Annotated.toBuilder (.bare (.retrier (.strategy strategy))) = .ok fork ∧
      (Annotated.build (.bare (.builder fork))).outcome = .ok strategy ∧
      (Bench.acts [.ask (.text sdkDefaults), .operate (.maxAttempts [.int 0]), .build]
        ⟨.empty, (Bench.acts
          [.operate .addConditions, .operate (.treatAsThrottling .absent)]
          (.ofBuilder .empty (.fresh .standard))).1.object⟩).2 =
        (Bench.acts [.ask (.text sdkDefaults), .operate (.maxAttempts [.int 0]), .build]
          (.ofBuilder .empty fork)).2 := by
  have builds : (Bench.acts [.operate .addConditions, .operate (.treatAsThrottling .absent)]
      (.ofBuilder .empty (.fresh .standard))).1.object.build.outcome = .ok _ := rfl
  obtain ⟨fork, forks, again, alike⟩ :=
    fork_indistinguishable (List.mem_cons_self ..) .empty _ builds
  exact ⟨_, fork, forks, again, alike .empty _⟩

end Retry
