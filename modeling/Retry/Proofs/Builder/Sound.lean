import Retry.Builder.Request
import Retry.Proofs.Backoff.Bound
import Retry.Proofs.Builder.Alike

/-!
# What builders hold

Setters check what they are given and then keep it.  A builder is *sound* where what it
holds has passed these checks, so that a setter would accept it again.  The main
statements say that fresh builders are sound, and that every operation leaves a sound
builder, whether it succeeds or fails.
-/

namespace Retry

theorem Variant.eq_of_library
    {variant : Variant}
    (library : variant ∈ [standard, legacy, adaptive]) :
    variant = standard ∨ variant = legacy ∨ variant = adaptive := by
  simpa using library

/-- A number that is not below the least one that a setter accepts. -/
def checkAtLeast
    (least : Int)
    (refusal : Number → Fault)
    (given : Value) : Except Fault Number := do
  let number ← given.asNumber
  if number.lt (.int least) then .error (refusal number) else .ok number

theorem checkAtLeast_number
    (least : Int)
    (refusal : Number → Fault)
    (number : Number) :
    checkAtLeast least refusal (.number number) =
      if number.lt (.int least) then .error (refusal number) else .ok number := rfl

/-- Only numbers pass a check, each as itself. -/
theorem checkAtLeast_eq_ok_iff
    {least : Int}
    {refusal : Number → Fault}
    {given : Value}
    {checked : Number} :
    checkAtLeast least refusal given = .ok checked ↔
      given = .number checked ∧ checked.lt (.int least) = false := by
  cases given with
  | number number =>
    rw [checkAtLeast_number, Value.number.injEq]
    split
    · rename_i below
      constructor
      · nofun
      · rintro ⟨rfl, notBelow⟩
        rw [below] at notBelow
        cases notBelow
    · rename_i notBelow
      rw [Except.ok.injEq]
      constructor
      · rintro rfl
        exact ⟨rfl, Bool.eq_false_iff.mpr notBelow⟩
      · exact fun same => same.1
  | null | text | mode | list | object | foreign => exact ⟨nofun, nofun⟩

namespace Builder

/-- A budget that is one attempt at least. -/
def checkBudget (budget : Value) : Except Fault Number := do
  let budget ← budget.asNumber
  if budget.lt (.int 1) then .error (.attemptsBelowOne budget) else .ok budget

theorem checkBudget_eq :
    checkBudget = checkAtLeast 1 .attemptsBelowOne := rfl

theorem checkDelay_eq :
    checkDelay = checkAtLeast 0 .negativeDelay := rfl

theorem setMaxAttempts_eq
    (builder : Builder)
    (budget : Value) :
    builder.setMaxAttempts budget =
      (fun budget => { builder with maxAttempts := .number budget }) <$> checkBudget budget := by
  rw [setMaxAttempts, checkBudget]
  cases budget.asNumber with
  | error fault => rfl
  | ok number =>
    rw [Outcome.ok_bind, Outcome.ok_bind]
    cases number.lt (.int 1) <;> rfl

theorem setBackoff_eq
    (builder : Builder)
    (baseDelay maxBackoff : Value) :
    builder.setBackoff baseDelay maxBackoff =
      (fun delay =>
        { builder with
          baseDelay := .number delay
          maxBackoff := if maxBackoff.isNull then builder.maxBackoff else maxBackoff }) <$>
        checkDelay baseDelay := by
  rw [setBackoff]
  cases checkDelay baseDelay <;> rfl

theorem setThrottledBackoff_eq
    (builder : Builder)
    (baseDelay : Value) :
    builder.setThrottledBackoff baseDelay =
      (fun delay => { builder with throttledBaseDelay := .number delay }) <$>
        checkDelay baseDelay := by
  rw [setThrottledBackoff]
  cases checkDelay baseDelay <;> rfl

theorem markDefaults_eq
    (builder : Builder)
    (name : Value) :
    builder.markDefaults name =
      (fun markers => { builder with defaultsAdded := markers }) <$>
        compatible (builder.defaultsAdded.add? name) := by
  rw [markDefaults]
  cases compatible (builder.defaultsAdded.add? name) <;> rfl

/-- A number that passes the check of a setter passes it again. -/
theorem checkAtLeast_again
    {least : Int}
    {refusal : Number → Fault}
    {given : Value}
    {checked : Number}
    (passes : checkAtLeast least refusal given = .ok checked) :
    checkAtLeast least refusal (.number checked) = .ok checked :=
  checkAtLeast_eq_ok_iff.mpr ⟨rfl, (checkAtLeast_eq_ok_iff.mp passes).2⟩

/-- Whether what a builder holds has passed the checks of the setters. -/
structure Sound (builder : Builder) : Prop where
  distinct : builder.conditions.Nodup
  classifier : builder.classifier ≠ some .absent
  maxAttempts : ∃ number,
    builder.maxAttempts = .number number ∧ checkBudget (.number number) = .ok number
  baseDelay : ∃ number,
    builder.baseDelay = .number number ∧ checkDelay (.number number) = .ok number
  throttledBaseDelay : ∃ number,
    builder.throttledBaseDelay = .number number ∧ checkDelay (.number number) = .ok number
  maxBackoff : builder.maxBackoff.isNull = false
  tracksDefaults : builder.variant.tracksDefaults = true

/-- A positive integer is a budget. -/
theorem checkBudget_int
    {budget : Int}
    (positive : 1 ≤ budget) :
    checkBudget (.int budget) = .ok (.int budget) := by
  rw [checkBudget_eq, checkAtLeast_eq_ok_iff, Number.lt_int_int, decide_eq_false_iff_not]
  exact ⟨rfl, Int.not_lt.mpr positive⟩

/-- A natural integer is a delay. -/
theorem checkDelay_int
    {delay : Int}
    (natural : 0 ≤ delay) :
    checkDelay (.int delay) = .ok (.int delay) := by
  rw [checkDelay_eq, checkAtLeast_eq_ok_iff, Number.lt_int_int, decide_eq_false_iff_not]
  exact ⟨rfl, Int.not_lt.mpr natural⟩

/-- A binary64 number without a sign is a delay. -/
theorem checkDelay_of_unsigned
    (rank : Nat)
    (rank_le : rank ≤ infinityRank) :
    checkDelay (.number (.real (.signed false rank rank_le))) =
      .ok (.real (.signed false rank rank_le)) := by
  rw [checkDelay_eq, checkAtLeast_eq_ok_iff, Number.lt_zero]
  exact ⟨rfl, Binary64.unsigned_not_lt_zero rank rank_le⟩

/-- The builders of the library's variants are sound from the start. -/
theorem sound_fresh
    {variant : Variant}
    (library : variant ∈ [Variant.standard, .legacy, .adaptive]) :
    (fresh variant).Sound := by
  have one := Variant.eq_of_library library
  have attempts : 1 ≤ variant.maxAttempts ∧ variant.tracksDefaults = true := by
    rcases one with rfl | rfl | rfl <;> exact ⟨by decide, rfl⟩
  have delays : checkDelay (.number (.real variant.baseDelay)) = .ok (.real variant.baseDelay) ∧
      checkDelay (.number (.real variant.throttledBaseDelay)) =
        .ok (.real variant.throttledBaseDelay) := by
    rcases one with rfl | rfl | rfl <;>
      exact ⟨checkDelay_of_unsigned _ _, checkDelay_of_unsigned _ _⟩
  exact {
    distinct := List.nodup_nil
    classifier := (Option.some_ne_none _).symm
    maxAttempts := ⟨_, rfl, checkBudget_int attempts.1⟩
    baseDelay := ⟨_, rfl, delays.1⟩
    throttledBaseDelay := ⟨_, rfl, delays.2⟩
    maxBackoff := rfl
    tracksDefaults := attempts.2 }

theorem Sound.retryOn
    {builder : Builder}
    (sound : builder.Sound)
    (condition : Condition) :
    (builder.retryOn condition).Sound := by
  have distinct := nodup_conditions_retryOn sound.distinct condition
  unfold Builder.retryOn at distinct ⊢
  split
  · exact sound
  · rename_i unregistered
    rw [if_neg unregistered] at distinct
    exact { sound with distinct := distinct }

theorem Sound.treatAsThrottling
    {builder : Builder}
    (sound : builder.Sound)
    (condition : Condition) :
    (builder.treatAsThrottling condition).Sound := by
  have present : (builder.treatAsThrottling condition).classifier ≠ some .absent := by
    rw [Builder.treatAsThrottling]
    split
    · nofun
    · rename_i given
      intro same
      injection same with same
      exact given same
  exact { sound with classifier := present }

/-- Related builders stay related under every operation if they do under calls and under
the two setters of delays. -/
theorem perform_related
    {related : Builder → Builder → Prop}
    (alike : AcceptsCalls.Alike related)
    (backoff : ∀ (baseDelay maxBackoff : Value) {left right}, related left right →
      Step.Related related
        (.ofExcept left (left.setBackoff baseDelay maxBackoff))
        (.ofExcept right (right.setBackoff baseDelay maxBackoff)))
    (throttledBackoff : ∀ (baseDelay : Value) {left right}, related left right →
      Step.Related related
        (.ofExcept left (left.setThrottledBackoff baseDelay))
        (.ofExcept right (right.setThrottledBackoff baseDelay)))
    (env : Environment)
    (operation : Operation)
    {left right : Builder}
    (start : related left right) :
    Step.Related related (left.perform env operation) (right.perform env operation) := by
  cases operation with
  | backoff arguments =>
    match arguments with
    | [] | _ :: _ :: _ :: _ => exact Step.Related.failed start _
    | [baseDelay] => exact backoff baseDelay .null start
    | [baseDelay, maxBackoff] => exact backoff baseDelay maxBackoff start
  | throttledBackoff arguments =>
    match arguments with
    | [] | _ :: _ :: _ => exact Step.Related.failed start _
    | [baseDelay] => exact throttledBackoff baseDelay start
  | retryOn condition => exact alike.perform env (.retryOn condition) start
  | retryOnInstanceOf ref => exact alike.perform env (.retryOnInstanceOf ref) start
  | retryOnInstanceOrCauseOf ref =>
    exact alike.perform env (.retryOnInstanceOrCauseOf ref) start
  | treatAsThrottling condition => exact alike.perform env (.treatAsThrottling condition) start
  | maxAttempts arguments => exact alike.perform env (.maxAttempts arguments) start
  | markDefaults name => exact alike.perform env (.markDefaults name) start
  | addConditions => exact alike.perform env .addConditions start
  | configure => exact alike.perform env .configure start
  | applyDefaults defaults => exact alike.perform env (.applyDefaults defaults) start
  | addDefaults defaults => exact alike.perform env (.addDefaults defaults) start

/-- A property that every call keeps relates builders to themselves. -/
theorem alike_keeps
    {keeps : Builder → Prop}
    (calls : ∀ call builder, keeps builder → keeps (builder.call call).builder) :
    AcceptsCalls.Alike fun left right => left = right ∧ keeps left where
  label := by
    rintro left _ ⟨rfl, _⟩
    rfl
  tracksDefaults := by
    rintro left _ ⟨rfl, _⟩
    rfl
  lacksDefaults := by
    rintro name left _ ⟨rfl, kept⟩
    exact ⟨⟨rfl, kept⟩, rfl⟩
  call := by
    rintro call left _ ⟨rfl, kept⟩
    exact ⟨⟨rfl, calls call left kept⟩, rfl, rfl⟩

/-- A property is kept by every operation, also where that fails, if every call keeps it
and so does the writing of delays that pass the check of the setters. -/
theorem perform_keeps
    (keeps : Builder → Prop)
    (calls : ∀ call builder, keeps builder → keeps (builder.call call).builder)
    (backoff : ∀ baseDelay maxBackoff delay builder,
      checkDelay baseDelay = .ok delay → keeps builder →
      keeps { builder with
        baseDelay := .number delay
        maxBackoff := if maxBackoff.isNull then builder.maxBackoff else maxBackoff })
    (throttledBackoff : ∀ baseDelay delay builder,
      checkDelay baseDelay = .ok delay → keeps builder →
      keeps { builder with throttledBaseDelay := .number delay })
    (env : Environment)
    (operation : Operation)
    {builder : Builder}
    (start : keeps builder) :
    keeps (builder.perform env operation).builder := by
  have related : Step.Related (fun left right => left = right ∧ keeps left)
      (builder.perform env operation) (builder.perform env operation) := by
    apply perform_related (alike_keeps calls)
    · rintro baseDelay maxBackoff left _ ⟨rfl, kept⟩
      rw [setBackoff_eq]
      apply Step.Related.ofExcept ⟨rfl, kept⟩
      intro delay passes
      exact ⟨rfl, backoff baseDelay maxBackoff delay left passes kept⟩
    · rintro baseDelay left _ ⟨rfl, kept⟩
      rw [setThrottledBackoff_eq]
      apply Step.Related.ofExcept ⟨rfl, kept⟩
      intro delay passes
      exact ⟨rfl, throttledBackoff baseDelay delay left passes kept⟩
    · exact ⟨rfl, start⟩
  exact related.builder.2

/-- Every call leaves a sound builder, also where it fails. -/
theorem Sound.call
    {builder : Builder}
    (sound : builder.Sound)
    (call : Call) :
    (builder.call call).builder.Sound := by
  cases call with
  | retryOn condition => exact sound.retryOn condition
  | retryOnInstanceOf ref => exact sound.retryOn _
  | retryOnInstanceOrCauseOf ref => exact sound.retryOn _
  | treatAsThrottling condition => exact sound.treatAsThrottling condition
  | maxAttempts budget =>
    rw [Builder.call, setMaxAttempts_eq]
    apply Step.ofExcept_keeps sound
    intro number passes
    exact { sound with maxAttempts := ⟨number, rfl, checkAtLeast_again passes⟩ }
  | markDefaults name =>
    have tracks : builder.variant.tracksDefaults = true := sound.tracksDefaults
    rw [Builder.call, if_pos tracks, markDefaults_eq]
    apply Step.ofExcept_keeps sound
    intro markers _
    exact { sound with }

/-- Every operation leaves a sound builder, also where it fails. -/
theorem Sound.perform
    {builder : Builder}
    (sound : builder.Sound)
    (env : Environment)
    (operation : Operation) :
    (builder.perform env operation).builder.Sound := by
  apply perform_keeps Sound _ _ _ env operation sound
  · intro call builder sound
    exact sound.call call
  · intro baseDelay maxBackoff delay builder passes sound
    have bound : (if maxBackoff.isNull then builder.maxBackoff else maxBackoff).isNull =
        false := by
      cases given : maxBackoff.isNull with
      | true => exact sound.maxBackoff
      | false => exact given
    exact { sound with
      baseDelay := ⟨delay, rfl, checkAtLeast_again passes⟩
      maxBackoff := bound }
  · intro baseDelay delay builder passes sound
    exact { sound with throttledBaseDelay := ⟨delay, rfl, checkAtLeast_again passes⟩ }

/-- Requests leave a sound builder, whichever of them fail. -/
theorem Sound.after
    {builder : Builder}
    (sound : builder.Sound)
    (requests : List Request) :
    (builder.after requests).Sound := by
  induction requests generalizing builder with
  | nil => exact sound
  | cons first rest inductionHypothesis =>
    exact inductionHypothesis (sound.perform first.environment first.operation)

/-- A builder that builds a strategy builds that of what it holds, and has a classifier
where it needs one. -/
theorem of_build_eq_ok
    {builder : Builder}
    {strategy : Strategy}
    (builds : builder.build.outcome = .ok strategy) :
    builder.strategy = strategy ∧
      (builder.classifier = none → builder.variant.needsClassifier = false) := by
  rw [build] at builds
  split at builds
  · cases builds
  · rename_i classified
    refine ⟨?_, ?_⟩
    · split at builds
      · split at builds
        · injection builds
        · cases builds
      · cases builds
    · intro unset
      rw [unset, Option.isNone_none, Bool.and_true] at classified
      exact Bool.eq_false_iff.mpr classified

end Builder
end Retry
