import Retry.Proofs.Builder.Growth
import Retry.Proofs.Selection
import Retry.Proofs.Session.Fork

/-!
# Histories of builders and strategies

A builder goes on as the strategy that it builds, and a strategy as the builder that starts
from it.  The main statement says of every such history, whatever fails in it and wherever
it begins, that no condition and no marker is lost in it, and that the marker of the
canonical bundle is truthful unless someone else sets it.
-/

namespace Retry

namespace Held

/-- The conditions under which an object retries, or lets what it builds retry. -/
def conditions : Held → List Condition
  | builder b => b.conditions
  | retrier r => r.plan.rules.conditions
  | policy p => p.rules.conditions
  | recorder _ | guise _ => []

/-- The markers of the defaults bundles that were taken in by a builder, or while a strategy
was built. -/
def markers : Held → Markers
  | builder b => b.defaultsAdded
  | retrier (.strategy s) => s.defaultsAdded
  | recorder r => r.defaultsAdded
  | retrier (.adapted _) | policy _ | guise _ => .empty

/-- Whether an object is one that histories begin with in an environment: an empty builder,
a configured one, or a strategy that is selected. -/
inductive IsOrigin (env : Environment) : Held → Prop where
  | fresh
      {variant : Variant}
      (library : variant ∈ [Variant.standard, .legacy, .adaptive]) :
      IsOrigin env (.builder (.fresh variant))
  | configured
      {variant : Variant}
      (library : variant ∈ [Variant.standard, .legacy, .adaptive])
      {builder : Builder}
      (configures : (variant.configured env).result.outcome = .ok builder) :
      IsOrigin env (.builder builder)
  | selected
      {variant : Variant}
      (library : variant ∈ [Variant.standard, .legacy, .adaptive])
      {strategy : Strategy}
      (selects : (variant.select env).outcome = .ok strategy) :
      IsOrigin env (.retrier (.strategy strategy))
  | forMode
      {mode : Mode}
      {strategy : Strategy}
      (selects : (Retrier.forMode env mode).outcome = .ok (.strategy strategy)) :
      IsOrigin env (.retrier (.strategy strategy))
  | default
      {strategy : Strategy}
      (selects : (Retrier.default env).outcome = .ok (.strategy strategy)) :
      IsOrigin env (.retrier (.strategy strategy))

end Held

/-- How a history goes on: by an act, or with the strategy that a builder builds, or with
the builder that starts from a strategy. -/
inductive Move where
  | doing (act : Act)
  | toStrategy
  | toBuilder

/-- Whether an act leaves the marker of the canonical bundle to the bundle itself. -/
def Act.IsHonest : Act → Prop
  | .operate operation => operation.IsHonest
  | .ask _ | .move _ | .build => True

/-- Whether a move leaves the marker of the canonical bundle to the bundle itself. -/
def Move.IsHonest : Move → Prop
  | .doing act => act.IsHonest
  | .toStrategy | .toBuilder => True

namespace Bench

/-- A bench after a move.  One that fails leaves the object that is there. -/
def go (bench : Bench) : Move → Bench
  | .doing act => (bench.act act).1
  | .toStrategy =>
    match bench.object.build.outcome with
    | .ok strategy => { bench with object := .bare (.retrier (.strategy strategy)) }
    | .error _ => bench
  | .toBuilder =>
    match bench.object.toBuilder with
    | .ok builder => { bench with object := .bare (.builder builder) }
    | .error _ => bench

/-- A bench after moves in order. -/
def goAll (moves : List Move) (bench : Bench) : Bench :=
  moves.foldl go bench

/-- Whether a bench holds a builder, or the strategy of what that builder collected. -/
inductive Holds (builder : Builder) : Bench → Prop where
  | builder (env : Environment) : Holds builder ⟨env, .bare (.builder builder)⟩
  | strategy (env : Environment) :
    Holds builder ⟨env, .bare (.retrier (.strategy builder.strategy))⟩

variable {bench : Bench} {builder : Builder}

/-- What a bench holds has the conditions and the markers of the builder. -/
theorem Holds.exists_held
    (holds : bench.Holds builder) :
    ∃ held, bench.object = .bare held ∧ held.conditions = builder.conditions ∧
      held.markers = builder.defaultsAdded := by
  cases holds with
  | builder => exact ⟨_, rfl, rfl, rfl⟩
  | strategy => exact ⟨_, rfl, rfl, rfl⟩

/-- A finished strategy stays what it is under every operation. -/
theorem act_operate_ofStrategy
    (env : Environment)
    (strategy : Strategy)
    (operation : Operation) :
    ((Bench.mk env (.bare (.retrier (.strategy strategy)))).act (.operate operation)).1 =
      ⟨env, .bare (.retrier (.strategy strategy))⟩ := by
  have stays (target : Annotated Held) (outcome : Except Fault Unit) :
      (Step.ofExcept target ((fun () => target) <$> outcome)).builder = target := by
    cases outcome <;> rfl
  simp only [Bench.act, Annotated.perform, Annotated.bare, Attributes.reach_empty, stays]

/-- The builders that can stand for an object after a move, if the given one did before: the
same, where the move fails or only looks; the one that an operation leaves; or, at the start
from a strategy, one whose classifier is the strategy's. -/
inductive Follows (builder : Builder) : Move → Builder → Prop where
  | stays (move : Move) : Follows builder move builder
  | performs (env : Environment) (operation : Operation) :
    Follows builder (.doing (.operate operation)) (builder.perform env operation).builder
  | classifies :
    Follows builder .toBuilder builder.settle

namespace Follows

variable {next : Builder} {move : Move}

theorem sound
    (follows : Follows builder move next)
    (sound : builder.Sound) :
    next.Sound := by
  cases follows with
  | stays => exact sound
  | performs env operation => exact sound.perform env operation
  | classifies => exact sound.settle

theorem truthful
    (follows : Follows builder move next)
    (truthful : builder.Truthful)
    (honest : move.IsHonest) :
    next.Truthful := by
  cases follows with
  | stays | classifies => exact truthful
  | performs env operation => exact truthful.perform env honest

theorem grows
    (follows : Follows builder move next) :
    builder.Grows next := by
  have same := Builder.Grows.refl builder
  cases follows with
  | stays => exact same
  | performs env operation => exact Builder.grows_perform env operation builder
  | classifies => exact ⟨same.conditions, same.markers⟩

theorem variant
    (follows : Follows builder move next) :
    next.variant = builder.variant := by
  cases follows with
  | stays | classifies => rfl
  | performs env operation => exact Builder.variant_perform env operation builder

end Follows

/-- A move goes on with one of the builders that can follow, or the strategy of one. -/
theorem Holds.exists_follows
    (holds : bench.Holds builder)
    (sound : builder.Sound)
    (move : Move) :
    ∃ next, (bench.go move).Holds next ∧ Follows builder move next := by
  cases holds with
  | builder env =>
    cases move with
    | doing act =>
      cases act with
      | operate operation =>
        refine ⟨(builder.perform env operation).builder, ?_, .performs env operation⟩
        rw [Bench.go, ← ofBuilder, act_operate_ofBuilder]
        exact .builder env
      | ask name => exact ⟨builder, .builder env, .stays _⟩
      | move other => exact ⟨builder, .builder other, .stays _⟩
      | build => exact ⟨builder, .builder env, .stays _⟩
    | toStrategy =>
      refine ⟨builder, ?_, .stays _⟩
      rw [Bench.go, Annotated.build_bare sound.classifier]
      cases built : builder.build.outcome with
      | error fault => exact .builder env
      | ok strategy =>
        obtain ⟨rfl, _⟩ := Builder.of_build_eq_ok built
        exact .strategy env
    | toBuilder => exact ⟨builder, .builder env, .stays _⟩
  | strategy env =>
    cases move with
    | doing act =>
      cases act with
      | operate operation =>
        refine ⟨builder, ?_, .stays _⟩
        rw [Bench.go, act_operate_ofStrategy]
        exact .strategy env
      | ask name => exact ⟨builder, .strategy env, .stays _⟩
      | move other => exact ⟨builder, .strategy other, .stays _⟩
      | build => exact ⟨builder, .strategy env, .stays _⟩
    | toStrategy => exact ⟨builder, .strategy env, .stays _⟩
    | toBuilder =>
      refine ⟨builder.settle, ?_, .classifies⟩
      rw [Bench.go, Annotated.toBuilder_bare, sound.toBuilder]
      exact .builder env

/-- What every move of a kind keeps, a history of such moves keeps. -/
theorem Holds.goAll_keeps
    {keeps : Builder → Prop}
    {allowed : Move → Prop}
    (step : ∀ builder move next, allowed move → Follows builder move next → keeps builder →
      keeps next)
    (holds : bench.Holds builder)
    (sound : builder.Sound)
    (kept : keeps builder)
    {moves : List Move}
    (all : ∀ move ∈ moves, allowed move) :
    ∃ last, (bench.goAll moves).Holds last ∧ last.Sound ∧ keeps last := by
  induction moves generalizing bench builder with
  | nil => exact ⟨builder, holds, sound, kept⟩
  | cons first rest inductionHypothesis =>
    obtain ⟨next, nextHolds, follows⟩ := holds.exists_follows sound first
    have allowedFirst : allowed first := all first (List.mem_cons_self ..)
    exact inductionHypothesis nextHolds (follows.sound sound)
      (step builder first next allowedFirst follows kept)
      fun move member => all move (List.mem_cons_of_mem _ member)

/-- A history goes on with builders, or strategies of builders, that have lost nothing and
whose marker of the canonical bundle is truthful. -/
theorem Holds.goAll
    (holds : bench.Holds builder)
    (sound : builder.Sound)
    (truthful : builder.Truthful)
    {moves : List Move}
    (honest : ∀ move ∈ moves, move.IsHonest) :
    ∃ last, (bench.goAll moves).Holds last ∧ last.Sound ∧ last.Truthful ∧
      builder.Grows last := by
  refine holds.goAll_keeps ?_ sound ⟨truthful, .refl builder⟩ honest
  intro middle move next honest follows kept
  exact ⟨follows.truthful kept.1 honest, kept.2.trans follows.grows⟩

end Bench

/-- Configuration leaves a builder of the library sound and truthful, also where it
fails. -/
theorem Variant.configured_sound_truthful
    {variant : Variant}
    (library : variant ∈ [Variant.standard, .legacy, .adaptive])
    (env : Environment) :
    (variant.configured env).builder.Sound ∧ (variant.configured env).builder.Truthful :=
  ⟨(Builder.sound_fresh library).perform env .configure,
    (Builder.holdsCanonical_configure env (.fresh variant)).truthful⟩

/-- A selected strategy is that of a sound and truthful builder. -/
theorem Variant.select_sound_truthful
    {variant : Variant}
    (library : variant ∈ [Variant.standard, .legacy, .adaptive])
    {env : Environment}
    {strategy : Strategy}
    (selects : (variant.select env).outcome = .ok strategy) :
    ∃ builder : Builder, builder.strategy = strategy ∧ builder.Sound ∧ builder.Truthful := by
  obtain ⟨sound, truthful⟩ := configured_sound_truthful library env
  exact ⟨(variant.configured env).builder, of_select_eq_ok selects, sound, truthful⟩

/-- Where a mode is served by a strategy, that is the one selected for its variant. -/
theorem Mode.select_of_forMode
    {env : Environment}
    {mode : Mode}
    {strategy : Strategy}
    (selects : (Retrier.forMode env mode).outcome = .ok (.strategy strategy)) :
    ∃ variant ∈ [Variant.standard, .legacy, .adaptive],
      (variant.select env).outcome = .ok strategy := by
  have made : (Retrier.make env mode).outcome = .ok (.strategy strategy) :=
    Retrier.make_of_forMode selects
  rw [Retrier.make] at made
  cases serves : mode.variant? with
  | none =>
    rw [serves] at made
    obtain ⟨_, _, same⟩ := Outcome.map_eq_ok_iff.mp made
    cases same
  | some variant =>
    rw [serves] at made
    obtain ⟨_, selects, same⟩ := Outcome.map_eq_ok_iff.mp made
    cases same
    refine ⟨variant, ?_, selects⟩
    cases mode <;> cases serves <;> simp

/-- Histories begin with the builder of a variant, empty or configured, or with the strategy
of a configured one. -/
theorem Held.IsOrigin.exists_configured
    {env : Environment}
    {origin : Held}
    (isOrigin : origin.IsOrigin env) :
    ∃ variant ∈ [Variant.standard, .legacy, .adaptive], ∃ builder,
      (builder = .fresh variant ∨ builder = (variant.configured env).builder) ∧
      (Bench.mk env (.bare origin)).Holds builder := by
  have ofSelected {variant : Variant}
      (library : variant ∈ [Variant.standard, .legacy, .adaptive])
      {strategy : Strategy}
      (selects : (variant.select env).outcome = .ok strategy) :
      ∃ variant ∈ [Variant.standard, .legacy, .adaptive], ∃ builder,
        (builder = .fresh variant ∨ builder = (variant.configured env).builder) ∧
        (Bench.mk env (.bare (.retrier (.strategy strategy)))).Holds builder := by
    obtain rfl := Variant.of_select_eq_ok selects
    exact ⟨variant, library, _, Or.inr rfl, .strategy env⟩
  cases isOrigin with
  | fresh library => exact ⟨_, library, _, Or.inl rfl, .builder env⟩
  | @configured variant library builder configures =>
    have left : (variant.configured env).builder = builder := by
      rw [Step.result] at configures
      cases failed : (variant.configured env).fault with
      | some fault =>
        rw [failed] at configures
        cases configures
      | none =>
        rw [failed] at configures
        injection configures
    exact ⟨variant, library, builder, Or.inr left.symm, .builder env⟩
  | selected library selects => exact ofSelected library selects
  | forMode selects =>
    obtain ⟨variant, library, selects⟩ := Mode.select_of_forMode selects
    exact ofSelected library selects
  | default selects =>
    rw [Retrier.default] at selects
    cases read : Settings.mode env with
    | error error =>
      rw [read] at selects
      cases selects
    | ok mode =>
      rw [read] at selects
      obtain ⟨variant, library, selects⟩ := Mode.select_of_forMode selects
      exact ofSelected library selects

/-- Histories begin with builders, or strategies of builders, that are sound and
truthful. -/
theorem Held.IsOrigin.holds
    {env : Environment}
    {origin : Held}
    (isOrigin : origin.IsOrigin env) :
    ∃ builder, (Bench.mk env (.bare origin)).Holds builder ∧ builder.Sound ∧
      builder.Truthful := by
  obtain ⟨variant, library, builder, rfl | rfl, holds⟩ := isOrigin.exists_configured
  · exact ⟨_, holds, Builder.sound_fresh library, nofun⟩
  · exact ⟨_, holds, Variant.configured_sound_truthful library env⟩

/-- At every point of a history, whatever fails in it, an object that has the marker of
the canonical bundle holds the canonical conditions, unless someone else set the marker.
No condition and no marker that it has there is lost in what follows. -/
theorem Held.IsOrigin.truthful_and_lasting
    {start : Environment}
    {origin : Held}
    (isOrigin : origin.IsOrigin start)
    {history further : List Move}
    (honest : ∀ move ∈ history ++ further, move.IsHonest) :
    ∃ here last : Held,
      (Bench.goAll history ⟨start, .bare origin⟩).object = .bare here ∧
      (Bench.goAll (history ++ further) ⟨start, .bare origin⟩).object = .bare last ∧
      (here.markers.contains (.text sdkDefaults) = true →
        Condition.canonical ⊆ here.conditions) ∧
      here.conditions ⊆ last.conditions ∧
      here.markers.values ⊆ last.markers.values := by
  obtain ⟨builder, holds, sound, truthful⟩ := isOrigin.holds
  obtain ⟨middle, middleHolds, middleSound, middleTruthful, _⟩ :=
    holds.goAll sound truthful fun move member =>
      honest move (List.mem_append_left further member)
  obtain ⟨final, finalHolds, _, _, grows⟩ :=
    middleHolds.goAll middleSound middleTruthful fun move member =>
      honest move (List.mem_append_right history member)
  obtain ⟨here, isHere, hereConditions, hereMarkers⟩ := middleHolds.exists_held
  obtain ⟨last, isLast, lastConditions, lastMarkers⟩ := finalHolds.exists_held
  refine ⟨here, last, isHere, ?_, ?_⟩
  · rw [Bench.goAll, List.foldl_append]
    exact isLast
  · rw [hereConditions, hereMarkers, lastConditions, lastMarkers]
    exact ⟨middleTruthful, grows.conditions, grows.markers⟩

/-- A budget of no attempts fails configuration half-way, before it marks the builder.
The bundle is then still taken in, and all of it passes through a strategy to the builder
that starts from that. -/
theorem Held.IsOrigin.truthful_after_failure :
    (Variant.standard.configured ⟨[("SDK_MAX_ATTEMPTS", "0")]⟩).fault.isSome = true ∧
    ∃ last : Held,
      (Bench.goAll
        [.doing (.operate .configure), .doing (.move .empty),
          .doing (.operate (.addDefaults .sdk)), .toStrategy, .toBuilder]
        ⟨⟨[("SDK_MAX_ATTEMPTS", "0")]⟩, .bare (.builder (.fresh .standard))⟩).object =
          .bare last ∧
      Condition.canonical ⊆ last.conditions := by
  have honest : ∀ move ∈ [Move.doing (.operate .configure), .doing (.move .empty),
      .doing (.operate (.addDefaults .sdk)), .toStrategy] ++ [.toBuilder],
      move.IsHonest := by
    simp [Move.IsHonest, Act.IsHonest, Operation.IsHonest, Defaults.IsHonest]
  have fresh : Held.IsOrigin ⟨[("SDK_MAX_ATTEMPTS", "0")]⟩ (.builder (.fresh .standard)) :=
    .fresh (List.mem_cons_self ..)
  obtain ⟨here, last, isHere, isLast, truthful, lasting, _⟩ :=
    fresh.truthful_and_lasting honest
  refine ⟨rfl, last, isLast, List.Subset.trans (truthful ?_) lasting⟩
  rw [← show (Annotated.bare here).object = here from rfl, ← isHere]
  rfl

end Retry
