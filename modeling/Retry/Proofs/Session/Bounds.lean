import Retry.Proofs.Builder.Setter
import Retry.Proofs.Session.History

/-!
# Numbers of builders and strategies

The setters of a builder guard its numbers.  The main statement says how, and that the guard
holds over all histories: wherever a history begins, no builder and no strategy that it comes
to allows less than one attempt or has a base delay below zero, unless NaN was set.
-/

namespace Retry

/-- The plan of an object, or the plan of the strategy that a builder would build. -/
def Held.plan? : Held → Option Plan
  | builder b => some b.strategy.plan
  | retrier r => some r.plan
  | policy p => some p.plan
  | recorder _ | guise _ => none

/-- Whether a move that sets a number sets one that has an order. -/
def Move.SetsOrdered : Move → Prop
  | .doing (.operate operation) => operation.SetsOrdered
  | .doing (.ask _) | .doing (.move _) | .doing .build | .toStrategy | .toBuilder => True

namespace Bench

variable {bench : Bench} {builder next : Builder} {move : Move}

/-- A move that sets no NaN keeps numbers within bounds. -/
theorem Follows.isWithinBounds
    (follows : Follows builder move next)
    (tracks : builder.variant.tracksDefaults = true)
    (within : builder.strategy.plan.IsWithinBounds)
    (ordered : move.SetsOrdered) :
    next.strategy.plan.IsWithinBounds := by
  cases follows with
  | stays => exact within
  | performs env operation => exact Builder.isWithinBounds_perform tracks within ordered env
  | classifies => exact { within with }

/-- Moves that set no NaN keep numbers within bounds. -/
theorem Holds.goAll_withinBounds
    (holds : bench.Holds builder)
    (sound : builder.Sound)
    (within : builder.strategy.plan.IsWithinBounds)
    {moves : List Move}
    (ordered : ∀ move ∈ moves, move.SetsOrdered) :
    ∃ last, (bench.goAll moves).Holds last ∧ last.Sound ∧
      last.strategy.plan.IsWithinBounds := by
  have step (builder : Builder) (move : Move) (next : Builder) (ordered : move.SetsOrdered)
      (follows : Follows builder move next)
      (kept : builder.variant.tracksDefaults = true ∧ builder.strategy.plan.IsWithinBounds) :
      next.variant.tracksDefaults = true ∧ next.strategy.plan.IsWithinBounds := by
    rw [follows.variant]
    exact ⟨kept.1, follows.isWithinBounds kept.1 kept.2 ordered⟩
  obtain ⟨last, lastHolds, lastSound, _, lastWithin⟩ :=
    holds.goAll_keeps step sound ⟨sound.tracksDefaults, within⟩ ordered
  exact ⟨last, lastHolds, lastSound, lastWithin⟩

/-- What a bench holds, and what is built from it, has the numbers of the builder. -/
theorem Holds.plan_eq
    (holds : bench.Holds builder)
    (sound : builder.Sound) :
    (∃ held, bench.object = .bare held ∧ held.plan? = some builder.strategy.plan) ∧
      ∀ strategy, bench.object.build.outcome = .ok strategy → strategy = builder.strategy := by
  cases holds with
  | builder env =>
    refine ⟨⟨_, rfl, rfl⟩, ?_⟩
    intro strategy builds
    rw [Annotated.build_bare sound.classifier] at builds
    exact (Builder.of_build_eq_ok builds).1.symm
  | strategy env =>
    refine ⟨⟨_, rfl, rfl⟩, ?_⟩
    intro strategy builds
    cases builds

end Bench

/-- Histories begin with builders, or strategies of builders, within bounds. -/
theorem Held.IsOrigin.holds_withinBounds
    {env : Environment}
    {origin : Held}
    (isOrigin : origin.IsOrigin env) :
    ∃ builder, (Bench.mk env (.bare origin)).Holds builder ∧ builder.Sound ∧
      builder.strategy.plan.IsWithinBounds := by
  obtain ⟨variant, library, builder, made, holds⟩ := isOrigin.exists_configured
  have fresh := Builder.sound_fresh library
  have within := Builder.isWithinBounds_fresh library
  have configureOrdered : Operation.configure.SetsOrdered := trivial
  rcases made with rfl | rfl
  · exact ⟨_, holds, fresh, within⟩
  · exact ⟨_, holds, fresh.perform env .configure,
      Builder.isWithinBounds_perform fresh.tracksDefaults within configureOrdered env⟩

namespace Bench

/-- A setter that fails leaves the builder as it was, and fails because it gets no number or
refuses the one it gets.  It refuses a number exactly where that is below the least one, and
otherwise puts it in its place and leaves all others as they are, the bound of delays too unless
one is given.  All histories that set no NaN come to builders and strategies, and build
strategies, whose budget is at least one and whose base delays are at least zero. -/
theorem setters_guard_bounds :
    (∀ (builder : Builder) (env : Environment) (operation : Operation),
      operation.IsSetter →
      (∀ fault, (builder.perform env operation).fault = some fault →
        builder.perform env operation = .failed builder fault ∧
        (fault = .incompatible ∨
          ∃ number, fault = .attemptsBelowOne number ∨ fault = .negativeDelay number)) ∧
      ((∃ number least refusal change, operation.Sets number least refusal change) ∨
        builder.perform env operation = .failed builder .incompatible)) ∧
    (∀ (builder : Builder) (env : Environment) (operation : Operation) (number : Number)
      (least : Int) (refusal : Number → Fault) (change : Builder → Builder),
      operation.Sets number least refusal change →
      ((builder.perform env operation).fault = some (refusal number) ↔
        number.lt (.int least) = true) ∧
      ((builder.perform env operation).fault = none ↔ number.lt (.int least) = false) ∧
      (number.place ≠ .unordered →
        ((builder.perform env operation).fault = none ↔
          (Number.int least).le number = true)) ∧
      ((builder.perform env operation).fault = none →
        builder.perform env operation = .done (change builder))) ∧
    ∀ (start : Environment) (origin : Held) (history : List Move),
      origin.IsOrigin start → (∀ move ∈ history, move.SetsOrdered) →
      (∃ held plan, (goAll history ⟨start, .bare origin⟩).object = .bare held ∧
        held.plan? = some plan ∧ plan.IsWithinBounds) ∧
      ∀ strategy, (goAll history ⟨start, .bare origin⟩).object.build.outcome = .ok strategy →
        strategy.plan.IsWithinBounds := by
  refine ⟨?_, ?_, ?_⟩
  · intro builder env operation isSetter
    exact ⟨fun fault => isSetter.perform_of_fault, isSetter.sets_or_fails env builder⟩
  · intro builder env operation number least refusal change sets
    obtain ⟨refuses, accepts, changes⟩ := sets.guards env builder
    exact ⟨refuses, accepts, fun ordered => accepts.trans (Number.le_iff_not_lt ordered).symm,
      changes⟩
  · intro start origin history isOrigin ordered
    obtain ⟨builder, holds, sound, within⟩ := isOrigin.holds_withinBounds
    obtain ⟨last, lastHolds, lastSound, lastWithin⟩ :=
      holds.goAll_withinBounds sound within ordered
    obtain ⟨⟨held, isHeld, hasPlan⟩, builds⟩ := lastHolds.plan_eq lastSound
    refine ⟨⟨held, _, isHeld, hasPlan, lastWithin⟩, ?_⟩
    intro strategy built
    rw [builds strategy built]
    exact lastWithin

/-- No attempts are refused as a budget, and null is no bound of delays.  Neither a setter that
fails nor a budget that the environment sets takes a builder and its strategy out of bounds. -/
theorem setters_guard_bounds_legacy :
    (Builder.fresh .legacy).perform .empty (.maxAttempts [.int 0]) =
      .failed (.fresh .legacy) (.attemptsBelowOne (.int 0)) ∧
    (Builder.fresh .legacy).perform .empty (.backoff [.int 2, .null]) =
      .done { Builder.fresh .legacy with baseDelay := .int 2 } ∧
    ∃ held plan,
      (goAll
        [.doing (.operate (.maxAttempts [.int 0])), .doing (.operate (.backoff [.text "fast"])),
          .doing (.operate .configure), .doing (.operate (.throttledBackoff [.int 3])),
          .toStrategy, .toBuilder]
        ⟨⟨[("SDK_MAX_ATTEMPTS", "7")]⟩, .bare (.builder (.fresh .legacy))⟩).object =
          .bare held ∧
      held.plan? = some plan ∧ plan.IsWithinBounds := by
  obtain ⟨fails, guards, histories⟩ := setters_guard_bounds
  refine ⟨?_, ?_, ?_⟩
  · have refused := (guards (.fresh .legacy) .empty _ (.int 0) _ _ _ .maxAttempts).1.mpr
      (Number.lt_int_int 0 1)
    exact ((fails (.fresh .legacy) .empty (.maxAttempts [.int 0]) trivial).1 _ refused).1
  · obtain ⟨_, accepts, _, changes⟩ :=
      guards (.fresh .legacy) .empty _ (.int 2) _ _ _ (.backoffWithin .null)
    exact changes (accepts.mpr (Number.lt_int_int 2 0))
  · refine (histories _ _ _ (.fresh (by simp)) ?_).1
    intro move member
    have notNaN (value : Int) : ∀ number, Value.int value = .number number →
        number.place ≠ .unordered := by
      rintro _ ⟨rfl⟩
      exact Number.place_int_ne value
    simp only [List.mem_cons, List.not_mem_nil, or_false] at member
    obtain rfl | rfl | rfl | rfl | rfl | rfl := member
    · exact notNaN 0
    · exact nofun
    · trivial
    · exact notNaN 3
    · trivial
    · trivial

end Bench
end Retry
