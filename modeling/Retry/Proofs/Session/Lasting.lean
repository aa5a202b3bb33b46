import Retry.Proofs.Condition.Search
import Retry.Proofs.Session.History

/-!
# Decisions to retry last

Conditions are asked in the order in which they were registered, and a search ends with the
first that approves.  The main statement says that whatever is asked of a builder later, in
whatever guise it goes on, every failure that would have been retried is still retried, by
the same course of questions: what was registered in between is not asked.
-/

namespace Retry

namespace Bench

variable {bench : Bench} {builder : Builder}

theorem Follows.conditions
    {move : Move}
    {next : Builder}
    (follows : Follows builder move next) :
    builder.conditions <+: next.conditions := by
  cases follows with
  | stays | classifies => exact List.prefix_refl _
  | performs env operation => exact Builder.prefix_perform env operation builder

/-- A history only puts conditions behind those that were there. -/
theorem Holds.goAll_conditions
    (holds : bench.Holds builder)
    (sound : builder.Sound)
    (moves : List Move) :
    ∃ last, (bench.goAll moves).Holds last ∧ last.Sound ∧
      builder.conditions <+: last.conditions := by
  have all : ∀ move ∈ moves, True := fun _ _ => trivial
  refine holds.goAll_keeps ?step sound ?start all
  case step =>
    intro middle move next _ follows kept
    exact kept.trans follows.conditions
  case start => exact List.prefix_refl _

/-- A strategy that a bench builds has the conditions of the builder that it holds. -/
theorem Holds.conditions_of_build
    (holds : bench.Holds builder)
    (sound : builder.Sound)
    {strategy : Strategy}
    (builds : bench.object.build.outcome = .ok strategy) :
    strategy.plan.rules.conditions = builder.conditions := by
  cases holds with
  | builder env =>
    rw [Annotated.build_bare sound.classifier] at builds
    obtain ⟨rfl, _⟩ := Builder.of_build_eq_ok builds
    rfl
  | strategy env => cases builds

end Bench

/-- Whether an object is one that histories begin with, or the builder that starts from a
strategy of the library, whatever that was made of. -/
inductive Held.IsStart (env : Environment) : Held → Prop where
  | origin
      {origin : Held}
      (isOrigin : origin.IsOrigin env) :
      IsStart env origin
  | restarted
      {strategy : Strategy}
      (library : strategy.variant ∈ [Variant.standard, .legacy, .adaptive])
      {builder : Builder}
      (starts : strategy.toBuilder = .ok builder) :
      IsStart env (.builder builder)

theorem Held.IsStart.holds
    {env : Environment}
    {start : Held}
    (isStart : start.IsStart env) :
    ∃ builder, (Bench.mk env (.bare start)).Holds builder ∧ builder.Sound := by
  cases isStart with
  | origin isOrigin =>
    obtain ⟨builder, holds, sound, _⟩ := isOrigin.holds
    exact ⟨builder, holds, sound⟩
  | @restarted strategy library builder starts =>
    have tracks : strategy.variant.tracksDefaults = true :=
      (Builder.sound_fresh library).tracksDefaults
    exact ⟨builder, .builder env, Strategy.sound_of_toBuilder tracks starts⟩

/-- A failure that a strategy retries is retried by every strategy that is built later in the
same history, whatever is registered, set, configured, built or started from anew in between,
and whatever fails there.  The later strategy asks the same conditions, and none that was
registered in between, so that it does not matter what these do. -/
theorem Held.IsStart.retries_lastingly
    {env : Environment}
    {start : Held}
    (isStart : start.IsStart env)
    {history further : List Move}
    {first last : Strategy}
    (builds : (Bench.goAll history ⟨env, .bare start⟩).object.build.outcome = .ok first)
    (buildsLater : (Bench.goAll (history ++ further)
      ⟨env, .bare start⟩).object.build.outcome = .ok last)
    {users : UserConditions}
    {failure : Failure}
    (retries : (first.plan.isRetryable users failure).outcome = .ok true) :
    last.plan.isRetryable users failure = first.plan.isRetryable users failure := by
  obtain ⟨builder, holds, sound⟩ := isStart.holds
  obtain ⟨middle, middleHolds, middleSound, _⟩ := holds.goAll_conditions sound history
  obtain ⟨final, finalHolds, finalSound, added, same⟩ :=
    middleHolds.goAll_conditions middleSound further
  have continued : Bench.goAll (history ++ further) ⟨env, .bare start⟩ =
      Bench.goAll further (Bench.goAll history ⟨env, .bare start⟩) :=
    List.foldl_append ..
  rw [continued] at buildsLater
  have firstConditions : first.plan.rules.conditions = middle.conditions :=
    middleHolds.conditions_of_build middleSound builds
  have lastConditions : last.plan.rules.conditions = middle.conditions ++ added :=
    (finalHolds.conditions_of_build finalSound buildsLater).trans same.symm
  rw [Plan.isRetryable, firstConditions] at retries
  rw [Plan.isRetryable, Plan.isRetryable, firstConditions, lastConditions]
  exact Condition.any_append_of_true retries added

/-- A strategy is built and started from anew, a condition is registered that fails, and
configuration fails half-way. -/
def troubled : List Move :=
  [.toStrategy, .toBuilder, .doing (.operate (.retryOn (.user "fails"))),
    .doing (.move ⟨[("SDK_MAX_ATTEMPTS", "0")]⟩), .doing (.operate .configure)]

/-- A time-out is retried as before after all this, and the condition that fails is not
asked. -/
theorem Held.IsStart.retries_lastingly_timeout :
    ∃ last : Strategy,
      (Bench.goAll ([.doing (.operate (.retryOnInstanceOf (.known .osError)))] ++ troubled)
        ⟨.empty, .bare (.builder (.fresh .standard))⟩).object.build.outcome = .ok last ∧
      .user "fails" ∈ last.plan.rules.conditions ∧
      last.plan.isRetryable (fun _ _ => .error .incompatible)
          (.mk (.bare KnownClass.timeoutError.toClass []) .none none) =
        ⟨[.instanceOf (.known .osError)], .ok true⟩ := by
  have isStart : Held.IsStart .empty (.builder (.fresh .standard)) :=
    .origin (.fresh (List.mem_cons_self ..))
  obtain ⟨first, builds, conditions⟩ : ∃ first,
      (Bench.goAll [.doing (.operate (.retryOnInstanceOf (.known .osError)))]
        ⟨.empty, .bare (.builder (.fresh .standard))⟩).object.build.outcome = .ok first ∧
      first.plan.rules.conditions = [.instanceOf (.known .osError)] := ⟨_, rfl, rfl⟩
  have asks : first.plan.isRetryable (fun _ _ => .error .incompatible)
      (.mk (.bare KnownClass.timeoutError.toClass []) .none none) =
      ⟨[.instanceOf (.known .osError)], .ok true⟩ := by
    rw [Plan.isRetryable, conditions]
    rfl
  have buildsLater : ((Bench.goAll
      ([.doing (.operate (.retryOnInstanceOf (.known .osError)))] ++ troubled)
      ⟨.empty, .bare (.builder (.fresh .standard))⟩).object.build.outcome.toOption.map
        fun last => last.plan.rules.conditions.contains (.user "fails")) = some true := by
    decide +kernel
  obtain ⟨last, built, held⟩ := Option.map_eq_some_iff.mp buildsLater
  have later := Outcome.toOption_eq_some_iff.mp built
  have lasts := isStart.retries_lastingly builds later (congrArg Consultation.outcome asks)
  exact ⟨last, later, List.contains_iff_mem.mp held, lasts.trans asks⟩

end Retry
