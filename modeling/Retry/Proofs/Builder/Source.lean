import Retry.Proofs.Builder.Effect

/-!
# Sources of effects

Which operation can have which effect.  Any operation may register conditions and set the
classifier, and mark the canonical bundle.  Numbers come from the setter of their own, which
has checked them, or from an environment, and other markers from their names.  The main
statement says that this is all that operations do.
-/

namespace Retry

/-- Whether an operation, in an environment, can have an effect. -/
inductive Operation.Brings (env : Environment) : Operation → Effect → Prop where
  | condition (operation : Operation) (condition : Condition) :
    Brings env operation (.condition condition)
  | classifier (operation : Operation) (classifier : Option Condition) :
    Brings env operation (.classifier classifier)
  | budget
      {given : Value}
      {budget : Number}
      (passes : Builder.checkBudget given = .ok budget) :
    Brings env (.maxAttempts [given]) (.maxAttempts budget)
  | override
      {budget : Int}
      (read : Settings.attempts env = .ok (some budget)) :
    Brings env .configure (.maxAttempts (.int budget))
  | baseDelay
      {given : Value}
      {delay : Number}
      (passes : Builder.checkDelay given = .ok delay)
      (others : List Value) :
    Brings env (.backoff (given :: others)) (.baseDelay delay)
  | maxBackoff
      {bound : Value}
      (notNull : bound.isNull = false)
      (given : Value) :
    Brings env (.backoff [given, bound]) (.maxBackoff bound)
  | throttledBaseDelay
      {given : Value}
      {delay : Number}
      (passes : Builder.checkDelay given = .ok delay) :
    Brings env (.throttledBackoff [given]) (.throttledBaseDelay delay)
  | canonicalMarker (operation : Operation) :
    Brings env operation (.marker (.text sdkDefaults))
  | marker (name : Value) :
    Brings env (.markDefaults name) (.marker name)
  | applied (bundle : Bundle) :
    Brings env (.applyDefaults (.own bundle)) (.marker bundle.name)
  | added (bundle : Bundle) :
    Brings env (.addDefaults (.own bundle)) (.marker bundle.name)

namespace Operation

variable {env : Environment} {operation : Operation} {effect : Effect}

/-- The canonical conditions and their classifier can come from any operation. -/
theorem brings_of_mem_canonical
    (member : effect ∈ Effect.canonical) :
    operation.Brings env effect := by
  rcases List.mem_append.mp member with registers | classifies
  · obtain ⟨registered, _, rfl⟩ := List.mem_map.mp registers
    exact .condition operation registered
  · rw [List.mem_singleton.mp classifies]
    exact .classifier ..

theorem brings_of_mem_maxAttempts
    {arguments : List Value}
    {marked : Value → Bool}
    (member : effect ∈ (maxAttempts arguments).effects env marked) :
    (maxAttempts arguments).Brings env effect := by
  match arguments with
  | [] | _ :: _ :: _ => cases member
  | [given] =>
    simp only [effects, Effect.budget] at member
    split at member
    · rename_i budget passes
      rw [List.mem_singleton.mp member]
      exact .budget passes
    · cases member

theorem brings_of_mem_delay
    {given bound : Value}
    {others : List Value}
    (member : effect ∈ Effect.backoff given bound)
    (asks : bound.isNull = false → others = [bound]) :
    (backoff (given :: others)).Brings env effect := by
  rw [Effect.backoff] at member
  split at member
  · rename_i delay passes
    rcases List.mem_cons.mp member with rfl | bounds
    · exact .baseDelay passes others
    · split at bounds
      · cases bounds
      · rename_i given
        have notNull : bound.isNull = false := by simpa using given
        rw [List.mem_singleton.mp bounds, asks notNull]
        exact .maxBackoff notNull _
  · cases member

theorem brings_of_mem_backoff
    {arguments : List Value}
    {marked : Value → Bool}
    (member : effect ∈ (backoff arguments).effects env marked) :
    (backoff arguments).Brings env effect := by
  match arguments with
  | [] | _ :: _ :: _ :: _ => cases member
  | [given] => exact brings_of_mem_delay member nofun
  | [given, bound] => exact brings_of_mem_delay member fun _ => rfl

theorem brings_of_mem_throttledBackoff
    {arguments : List Value}
    {marked : Value → Bool}
    (member : effect ∈ (throttledBackoff arguments).effects env marked) :
    (throttledBackoff arguments).Brings env effect := by
  match arguments with
  | [] | _ :: _ :: _ => cases member
  | [given] =>
    simp only [effects, Effect.throttledBackoff] at member
    split at member
    · rename_i delay passes
      rw [List.mem_singleton.mp member]
      exact .throttledBaseDelay passes
    · cases member

/-- A bundle brings its conditions and its name. -/
theorem brings_of_mem_defaults
    {defaults : Defaults}
    {marked : Value → Bool}
    (names : ∀ bundle, defaults = .own bundle → operation.Brings env (.marker bundle.name))
    (member : effect ∈ defaults.effects marked) :
    operation.Brings env effect := by
  cases defaults with
  | sdk =>
    rw [Defaults.effects] at member
    split at member
    · cases member
    · rcases List.mem_append.mp member with canonical | marks
      · exact brings_of_mem_canonical canonical
      · rw [List.mem_singleton.mp marks]
        exact .canonicalMarker operation
  | own bundle =>
    rcases List.mem_append.mp member with registers | marks
    · obtain ⟨registered, _, rfl⟩ := List.mem_map.mp registers
      exact .condition operation registered
    · split at marks
      · rw [List.mem_singleton.mp marks]
        exact names bundle rfl
      · cases marks

theorem brings_of_mem_configuration
    (member : effect ∈ Effect.configuration env) :
    configure.Brings env effect := by
  rcases List.mem_append.mp member with canonical | added
  · exact brings_of_mem_canonical canonical
  · split at added
    · rename_i budget read
      rcases List.mem_cons.mp added with rfl | marks
      · exact .override read
      · rw [List.mem_singleton.mp marks]
        exact .canonicalMarker configure
    · rw [List.mem_singleton.mp added]
      exact .canonicalMarker configure
    · cases added

/-- Every effect of an operation comes from what it can come from. -/
theorem brings_of_mem_effects
    {marked : Value → Bool}
    (member : effect ∈ operation.effects env marked) :
    operation.Brings env effect := by
  cases operation with
  | retryOn | retryOnInstanceOf | retryOnInstanceOrCauseOf =>
    rw [List.mem_singleton.mp member]
    exact .condition ..
  | treatAsThrottling condition =>
    rw [List.mem_singleton.mp member]
    exact .classifier ..
  | markDefaults name =>
    rw [List.mem_singleton.mp member]
    exact .marker name
  | maxAttempts arguments => exact brings_of_mem_maxAttempts member
  | backoff arguments => exact brings_of_mem_backoff member
  | throttledBackoff arguments => exact brings_of_mem_throttledBackoff member
  | addConditions => exact brings_of_mem_canonical member
  | configure => exact brings_of_mem_configuration member
  | applyDefaults defaults =>
    refine brings_of_mem_defaults ?_ member
    rintro bundle rfl
    exact .applied bundle
  | addDefaults defaults =>
    rw [effects] at member
    split at member
    · refine brings_of_mem_defaults ?_ member
      rintro bundle rfl
      exact .added bundle
    · cases member

end Operation

namespace Builder

variable {keeps : Builder → Prop} {builder : Builder}

theorem takeAll_keeps
    {effects : List Effect}
    (each : ∀ effect ∈ effects, ∀ builder, keeps builder → keeps (builder.take effect))
    (kept : keeps builder) :
    keeps (builder.takeAll effects) := by
  induction effects generalizing builder with
  | nil => exact kept
  | cons first rest inductionHypothesis =>
    obtain ⟨firstKeeps, restKeeps⟩ := List.forall_mem_cons.mp each
    exact inductionHypothesis restKeeps (firstKeeps builder kept)

/-- What every effect that an operation can have keeps, the operation keeps, also where it
fails. -/
theorem perform_keeps_of_brings
    (keeps : Builder → Prop)
    {env : Environment}
    {operation : Operation}
    (each : ∀ effect, operation.Brings env effect → ∀ builder, keeps builder →
      keeps (builder.take effect))
    (tracks : builder.variant.tracksDefaults = true)
    (kept : keeps builder) :
    keeps (builder.perform env operation).builder := by
  rw [builder_perform tracks]
  apply takeAll_keeps _ kept
  intro effect member
  exact each effect (Operation.brings_of_mem_effects member)

end Builder
end Retry
