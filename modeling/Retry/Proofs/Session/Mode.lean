import Retry.Proofs.Mode
import Retry.Proofs.Session.History

/-!
# Selection and the search for a mode

Selecting a retrier for a mode and searching for the mode of a retrier are inverse to each
other, and no history loses the mode: a strategy goes on as a builder and comes back as a
strategy of the same variant, whatever is asked of it in between.
-/

namespace Retry

namespace Bench

variable {bench : Bench} {builder : Builder}

/-- No history changes the variant of the builder that stands for an object. -/
theorem Holds.goAll_variant
    (holds : bench.Holds builder)
    (sound : builder.Sound)
    (moves : List Move) :
    ∃ last, (bench.goAll moves).Holds last ∧ last.Sound ∧
      last.variant = builder.variant := by
  have all : ∀ move ∈ moves, True := fun _ _ => trivial
  refine holds.goAll_keeps ?step sound ?start all
  case step =>
    intro middle move next _ follows same
    exact follows.variant.trans same
  case start => rfl

/-- A retrier that a bench holds is the strategy of the builder that stands for it. -/
theorem Holds.eq_strategy
    (holds : bench.Holds builder)
    (held : bench.object.object.isRetrier = true) :
    bench.object = .bare (.retrier (.strategy builder.strategy)) := by
  cases holds with
  | builder => cases held
  | strategy => rfl

/-- A retrier that a bench holds carries the tag of the builder that stands for it. -/
theorem Holds.kind_eq
    (holds : bench.Holds builder)
    {retrier : Retrier}
    (held : bench.object = .bare (.retrier retrier)) :
    retrier.kind = builder.variant.kind := by
  have same := holds.eq_strategy (by rw [held]; rfl)
  rw [held] at same
  cases same
  rfl

end Bench

namespace Mode

/-- A history of a selected strategy goes on with builders, or strategies of builders, of
its variant. -/
theorem exists_holds_goAll
    {env : Environment}
    {mode : Mode}
    {strategy : Strategy}
    (selected : (Retrier.forMode env mode).outcome = .ok (.strategy strategy))
    (moves : List Move) :
    ∃ last : Builder,
      (Bench.goAll moves ⟨env, .bare (.retrier (.strategy strategy))⟩).Holds last ∧
      last.variant = strategy.variant := by
  obtain ⟨variant, library, selects⟩ := select_of_forMode selected
  obtain ⟨builder, rfl, sound, _⟩ := Variant.select_sound_truthful library selects
  have start : (Bench.mk env (.bare (.retrier (.strategy builder.strategy)))).Holds builder :=
    .strategy env
  obtain ⟨last, holds, _, same⟩ := start.goAll_variant sound moves
  exact ⟨last, holds, same⟩

/-- Where a mode is served by a strategy, every retrier that a history makes of it is of
this mode. -/
theorem mode_goAll
    {env : Environment}
    {mode : Mode}
    {retrier : Retrier}
    (selected : (Retrier.forMode env mode).outcome = .ok retrier)
    (served : mode ≠ .adaptive)
    {moves : List Move}
    {last : Retrier}
    (reached : (Bench.goAll moves ⟨env, .bare (.retrier retrier)⟩).object =
      .bare (.retrier last)) :
    last.mode = .ok mode := by
  have tagged : retrier.kind = mode.kind := kind_of_retrier selected
  cases retrier with
  | adapted policy =>
    -- Only the one mode that is left out is served by a policy.
    have same : Mode.adaptive.kind = mode.kind := tagged
    exact absurd (kind_injective same).symm served
  | strategy strategy =>
    obtain ⟨builder, holds, same⟩ := exists_holds_goAll selected moves
    refine Retrier.mode_of_kind ?_
    calc
      last.kind = builder.variant.kind := holds.kind_eq reached
      _ = strategy.variant.kind := by rw [same]
      _ = mode.kind := tagged

/-- Selection and the search for a mode are inverse to each other.  In every environment
whose attempts can be read, the retrier of a mode is of this mode, and, unless a policy
serves it, so is every strategy that a history of operations, builds and new starts makes of
it.  An object whose class carries the tag of a kind of retriers is of a mode whose
retriers carry this tag, and any other object is of none.  Nothing but a mode has a
retrier, not even the text of a mode's name; that a value is not a mode is said of exactly
those that can be written, while of the others the writing fails. -/
theorem search_inverts_selection
    {env : Environment}
    {override : Option Int}
    (read : Settings.attempts env = .ok override) :
    (∀ mode : Mode,
      ∃ retrier, (Retrier.forMode env mode).outcome = .ok retrier ∧
        retrier.mode = .ok mode ∧
        (mode ≠ .adaptive → ∀ (moves : List Move) (last : Retrier),
          (Bench.goAll moves ⟨env, .bare (.retrier retrier)⟩).object =
            .bare (.retrier last) →
          last.mode = .ok mode)) ∧
    (∀ subject : Subject,
      (∀ tag ∈ tags, subject.Carries tag →
        ∃ mode, subject.mode = .ok mode ∧
          ∃ retrier, (Retrier.forMode env mode).outcome = .ok retrier ∧
            retrier.kind = tag) ∧
      ((¬∃ tag ∈ tags, subject.Carries tag) →
        subject.mode = .error (.unknownStrategyClass subject.label))) ∧
    ∀ (value : Value) (anywhere : Environment), (∀ mode, value ≠ .mode mode) →
      Retrier.forValue anywhere value = ⟨[], .error
        (if value.isWritable then .unknownMode value else .raised .tooManyDigits)⟩ := by
  refine ⟨?selection, ?search, ?others⟩
  case selection =>
    intro mode
    obtain ⟨retrier, selected, _⟩ := mode.retrier_of_ok read
    exact ⟨retrier, selected, Retrier.mode_of_kind (kind_of_retrier selected),
      fun served _ _ reached => mode_goAll selected served reached⟩
  case search =>
    intro subject
    refine ⟨?_, Subject.mode_of_not_carries⟩
    intro tag known carries
    obtain ⟨mode, rfl⟩ := mem_tags_iff.mp known
    refine ⟨mode, Subject.mode_of_carries carries, ?_⟩
    obtain ⟨retrier, selected, _⟩ := mode.retrier_of_ok read
    exact ⟨retrier, selected, kind_of_retrier selected⟩
  case others =>
    intro value anywhere other
    exact Retrier.forValue_of_not_mode other anywhere

/-- The least integer that is too large to be written is no mode, but its refusal fails before
it is told, with a failure of another class. -/
theorem forValue_oversized :
    Retrier.forValue .empty (.int (.ofNat Value.writtenLimit)) =
        ⟨[], .error (.raised .tooManyDigits)⟩ ∧
      Failure.tooManyDigits.isA .valueError = true ∧
      Failure.tooManyDigits.isA .runtimeError = false := by
  have atLimit (limit : Nat) : ¬(Int.ofNat limit).natAbs < limit := Nat.lt_irrefl limit
  have oversized : (Value.int (.ofNat Value.writtenLimit)).isWritable = false := by
    rw [Value.isWritable_int, decide_eq_false_iff_not]
    exact atLimit Value.writtenLimit
  have other (mode : Mode) : Value.int (.ofNat Value.writtenLimit) ≠ .mode mode := nofun
  have refused := Retrier.forValue_of_not_mode other .empty
  rw [oversized] at refused
  exact ⟨refused, by decide, by decide⟩

/-- A strategy is rebuilt with another budget and rebuilt once more in an environment
without settings. -/
def rebuilding : List Move :=
  [.toBuilder, .doing (.operate (.maxAttempts [.int 2])), .toStrategy, .toBuilder,
    .doing (.move .empty), .doing (.operate .configure), .toStrategy]

/-- A legacy strategy stays one while it is rebuilt.  A class that inherits a mode as its
tag is found by the name of that, whatever tag an object of it has of its own; one whose tag
is null is not, whatever it extends; and the name of a mode is no mode. -/
theorem search_after_rebuilding :
    (∃ retrier last,
      (Retrier.forMode ⟨[("SDK_MAX_ATTEMPTS", "5")]⟩ .legacy).outcome = .ok retrier ∧
      (Bench.goAll rebuilding
        ⟨⟨[("SDK_MAX_ATTEMPTS", "5")]⟩, .bare (.retrier retrier)⟩).object =
          .bare (.retrier last) ∧
      last.mode = .ok .legacy) ∧
    (∃ mode,
      (Subject.mk "app.Own" [none, some (.mode .standard)] (some (.text "legacy"))).mode =
        .ok mode ∧
      ∃ retrier, (Retrier.forMode .empty mode).outcome = .ok retrier ∧
        retrier.kind = "standard") ∧
    (Subject.mk "app.Null" [some .null, some (.text "standard")] none).mode =
      .error (.unknownStrategyClass "app.Null") ∧
    Retrier.forValue .empty (.text "standard") =
      ⟨[], .error (.unknownMode (.text "standard"))⟩ := by
  have read : Settings.attempts ⟨[("SDK_MAX_ATTEMPTS", "5")]⟩ = .ok (some 5) := rfl
  have unset : Settings.attempts .empty = .ok none := rfl
  obtain ⟨selection, _⟩ := search_inverts_selection read
  obtain ⟨_, search, others⟩ := search_inverts_selection unset
  refine ⟨?rebuilt, ?inherited, ?null, others _ _ nofun⟩
  case rebuilt =>
    have serves : Mode.legacy.variant? = some .legacy := rfl
    obtain ⟨retrier, selected, _, kept⟩ := selection .legacy
    have selects := strategy_of_variant serves read
    rw [selects] at selected
    cases selected
    have isStrategy : (Bench.goAll rebuilding
        ⟨⟨[("SDK_MAX_ATTEMPTS", "5")]⟩, .bare (.retrier (.strategy
          (Variant.legacy.canonicalBuilder (some 5)).strategy))⟩).object.object.isRetrier =
        true := by
      decide +kernel
    obtain ⟨_, holds, _⟩ := exists_holds_goAll selects rebuilding
    have reached := holds.eq_strategy isStrategy
    exact ⟨_, _, selects, reached, kept nofun _ _ reached⟩
  case inherited =>
    have carries : (Subject.mk "app.Own" [none, some (.mode .standard)]
        (some (.text "legacy"))).Carries "standard" :=
      ⟨[none], .mode .standard, [], rfl, by simp, rfl⟩
    obtain ⟨mode, found, selects⟩ := (search _).1 "standard" (by decide) carries
    exact ⟨mode, found, selects⟩
  case null =>
    refine (search (Subject.mk "app.Null" _ none)).2 ?_
    rintro ⟨tag, _, carries⟩
    cases (Subject.carries_iff.mp carries : none = some tag)

end Mode
end Retry
