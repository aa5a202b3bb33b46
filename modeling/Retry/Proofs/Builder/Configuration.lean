import Retry.Proofs.Builder.Growth

/-!
# Configuration of builders

Configuration registers the canonical conditions, applies the budget that the environment
sets, and marks the canonical bundle as taken in, in this order.  The first main statement
says that nothing of it is done twice: configuring again, or taking in the bundle before or
after, leaves the builder that configuring once leaves.  The second says that a budget that
is none stops configuration after its first part, and that configuring later makes up for
that.
-/

namespace Retry

/-- A budget that the environment sets is one attempt at least. -/
theorem Settings.one_le_of_attempts
    {env : Environment}
    {budget : Int}
    (read : attempts env = .ok (some budget)) :
    1 ≤ budget := by
  rw [attempts] at read
  cases found : env.find? attemptsName with
  | none =>
    rw [found] at read
    cases read
  | some text =>
    rw [found] at read
    obtain ⟨value, checked, same⟩ := Outcome.map_eq_ok_iff.mp read
    obtain ⟨value, _, checked⟩ := Outcome.bind_eq_ok_iff.mp checked
    cases same
    rw [checkBudget] at checked
    split at checked
    · cases checked
    · cases checked
      omega

/-- A budget that cannot be read is not set, whatever the type of the builder. -/
theorem Configuration.applyOverride_fails
    {β : Type}
    [AcceptsCalls β]
    (builder : β)
    {env : Environment}
    {error : SettingError}
    (unreadable : Settings.attempts env = .error error) :
    (applyOverride env builder).Leaves builder (some (.setting error)) := by
  rw [applyOverride, unreadable]
  exact .failed _ _

namespace Builder

theorem setMaxAttempts_int
    {builder : Builder}
    {budget : Int}
    (positive : 1 ≤ budget) :
    builder.setMaxAttempts (.int budget) = .ok { builder with maxAttempts := .int budget } := by
  rw [setMaxAttempts_eq, checkBudget_int positive]
  rfl

/-- A builder with the budget of an override, if there is one. -/
def budgeted (builder : Builder) : Option Int → Builder
  | none => builder
  | some budget => { builder with maxAttempts := .int budget }

/-- A builder with the marker of a bundle, if that is a key. -/
def marked
    (builder : Builder)
    (name : Value) : Builder :=
  { builder with defaultsAdded := builder.defaultsAdded.including name }

/-- A builder after configuration with an override. -/
def configured
    (builder : Builder)
    (override : Option Int) : Builder :=
  (builder.canonical.budgeted override).marked (.text sdkDefaults)

/-- A builder after the canonical bundle was taken in, which is done only once. -/
def defaulted (builder : Builder) : Builder :=
  if builder.defaultsAdded.contains (.text sdkDefaults) then builder
  else builder.canonical.marked (.text sdkDefaults)

section Fields

variable (builder : Builder) (override : Option Int) (name : Value)

@[simp] theorem conditions_budgeted :
    (builder.budgeted override).conditions = builder.conditions := by
  cases override <;> rfl

@[simp] theorem classifier_budgeted :
    (builder.budgeted override).classifier = builder.classifier := by
  cases override <;> rfl

@[simp] theorem variant_budgeted :
    (builder.budgeted override).variant = builder.variant := by
  cases override <;> rfl

@[simp] theorem conditions_marked :
    (builder.marked name).conditions = builder.conditions := rfl

@[simp] theorem classifier_marked :
    (builder.marked name).classifier = builder.classifier := rfl

@[simp] theorem variant_marked :
    (builder.marked name).variant = builder.variant := rfl

@[simp] theorem budgeted_budgeted :
    (builder.budgeted override).budgeted override = builder.budgeted override := by
  cases override <;> rfl

theorem budgeted_marked :
    (builder.marked name).budgeted override = (builder.budgeted override).marked name := by
  cases override <;> rfl

@[simp] theorem variant_canonical :
    builder.canonical.variant = builder.variant := by
  rw [canonical_eq]

end Fields

theorem marked_of_contains
    {builder : Builder}
    {name : Value}
    (contained : builder.defaultsAdded.contains name = true) :
    builder.marked name = builder := by
  rw [marked, Markers.including_of_contains contained]

theorem contains_marked_text
    (builder : Builder)
    (name : String) :
    (builder.marked (.text name)).defaultsAdded.contains (.text name) = true := by
  have key : (Value.text name).isKey = true := rfl
  rw [marked, Markers.contains_including key]
  simp

/-- Marking a bundle again changes nothing. -/
@[simp] theorem marked_marked_text
    (builder : Builder)
    (name : String) :
    (builder.marked (.text name)).marked (.text name) = builder.marked (.text name) :=
  marked_of_contains (contains_marked_text builder name)

theorem holdsCanonical_canonical
    (builder : Builder) :
    builder.canonical.HoldsCanonical := by
  have registered := builder.holdsCanonical_addConditions
  rwa [addConditions_eq] at registered

/-- A builder that holds the canonical conditions and their classifier is not changed by
their registration. -/
theorem canonical_of_holds
    {builder : Builder}
    (holds : builder.HoldsCanonical)
    (classified : builder.classifier = some .throttlingClassifier) :
    builder.canonical = builder := by
  rw [canonical, foldl_retryOn_of_subset holds, ← classified]

/-- Budgets and markers leave a builder with the canonical conditions and their classifier
as it is. -/
theorem canonical_of_canonical
    (start : Builder)
    {builder : Builder}
    (conditions : builder.conditions = start.canonical.conditions)
    (classifier : builder.classifier = start.canonical.classifier) :
    builder.canonical = builder := by
  apply canonical_of_holds
  · rw [HoldsCanonical, conditions]
    exact start.holdsCanonical_canonical
  · rw [classifier, classifier_canonical]

theorem canonical_configured
    (builder : Builder)
    (override : Option Int) :
    (builder.configured override).canonical = builder.configured override := by
  apply canonical_of_canonical builder <;> simp [configured]

theorem canonical_marked_canonical
    (builder : Builder)
    (name : Value) :
    (builder.canonical.marked name).canonical = builder.canonical.marked name := by
  apply canonical_of_canonical builder <;> simp

/-- Configuring again changes nothing. -/
theorem configured_configured
    (builder : Builder)
    (override : Option Int) :
    (builder.configured override).configured override = builder.configured override := by
  rw [configured, canonical_configured]
  simp [configured, budgeted_marked]

@[simp] theorem variant_configured
    (builder : Builder)
    (override : Option Int) :
    (builder.configured override).variant = builder.variant := by
  simp [configured]

@[simp] theorem variant_defaulted
    (builder : Builder) :
    builder.defaulted.variant = builder.variant := by
  unfold defaulted
  split <;> simp

theorem defaulted_of_contains
    {builder : Builder}
    (contained : builder.defaultsAdded.contains (.text sdkDefaults) = true) :
    builder.defaulted = builder := by
  rw [defaulted, if_pos contained]

theorem contains_defaulted
    (builder : Builder) :
    builder.defaulted.defaultsAdded.contains (.text sdkDefaults) = true := by
  unfold defaulted
  split
  · assumption
  · exact contains_marked_text _ _

/-- Taking in the canonical bundle before configuration changes nothing. -/
theorem configured_defaulted
    (builder : Builder)
    (override : Option Int) :
    builder.defaulted.configured override = builder.configured override := by
  unfold defaulted
  split
  · rfl
  · rw [configured, canonical_marked_canonical]
    simp [configured, budgeted_marked]

section Steps

variable {builder : Builder} {env : Environment}

theorem markDefaults_leaves
    (tracks : builder.variant.tracksDefaults = true)
    {name : Value}
    (key : name.isKey = true) :
    (Configuration.markDefaults name builder).Leaves (builder.marked name) none := by
  have remembers : AcceptsCalls.tracksDefaults builder = true := tracks
  have added : builder.defaultsAdded.add? name =
      some (builder.defaultsAdded.including name) :=
    Markers.add?_eq_some_iff.mpr ⟨key, rfl⟩
  rw [Configuration.markDefaults, if_pos remembers]
  show (Builder.call (.markDefaults name) builder).Leaves _ _
  rw [Builder.call, if_pos tracks, markDefaults_eq, added]
  exact .done _

theorem addConditions_leaves
    (builder : Builder) :
    (Configuration.addConditions builder).Leaves builder.canonical none := by
  rw [addConditions_eq]
  exact .reported _ _

/-- An override is applied where the environment sets one that can be read. -/
theorem applyOverride_leaves
    {override : Option Int}
    (read : Settings.attempts env = .ok override) :
    (Configuration.applyOverride env builder).Leaves (builder.budgeted override) none := by
  rw [Configuration.applyOverride, read]
  cases override with
  | none => exact .done _
  | some budget =>
    have positive : 1 ≤ budget := Settings.one_le_of_attempts read
    have called : AcceptsCalls.call (.maxAttempts (.int budget)) builder =
        .done (builder.budgeted (some budget)) := by
      show Step.ofExcept builder (builder.setMaxAttempts (.int budget)) = _
      rw [setMaxAttempts_int positive]
      rfl
    simp only [called, Step.done_andThen]
    exact .reported _ _

/-- Configuration in an environment whose budget can be read. -/
theorem configure_leaves
    (tracks : builder.variant.tracksDefaults = true)
    {override : Option Int}
    (read : Settings.attempts env = .ok override) :
    (Configuration.configure env builder).Leaves (builder.configured override) none := by
  apply Step.Leaves.andThen
  · exact (addConditions_leaves builder).andThen (applyOverride_leaves read)
  · apply markDefaults_leaves _ rfl
    simpa using tracks

/-- Configuration in an environment whose budget cannot be read stops after its first
part. -/
theorem configure_fails
    {error : SettingError}
    (unreadable : Settings.attempts env = .error error) :
    (Configuration.configure env builder).Leaves builder.canonical
      (some (.setting error)) := by
  apply Step.Leaves.andThen_of_fault
  exact (addConditions_leaves builder).andThen (Configuration.applyOverride_fails _ unreadable)

/-- The canonical bundle is taken in once. -/
theorem applySdk_leaves
    (tracks : builder.variant.tracksDefaults = true) :
    (Configuration.applySdk builder).Leaves builder.defaulted none := by
  have remembers : AcceptsCalls.tracksDefaults builder = true := tracks
  have asked : builder.lacksDefaults (.text sdkDefaults) =
      .ok !(builder.defaultsAdded.contains (.text sdkDefaults)) := rfl
  rw [Configuration.applySdk, if_pos remembers, acceptsCalls_lacksDefaults, asked, defaulted]
  cases builder.defaultsAdded.contains (.text sdkDefaults) with
  | true => exact .reported _ _
  | false =>
    apply (addConditions_leaves builder).andThen
    apply markDefaults_leaves _ rfl
    simpa using tracks

/-- Offering the canonical bundle to a builder is taking it in. -/
theorem addSdk_leaves
    (tracks : builder.variant.tracksDefaults = true) :
    (Configuration.addDefaults .sdk builder).Leaves builder.defaulted none := by
  have remembers : AcceptsCalls.tracksDefaults builder = true := tracks
  have asked : builder.lacksDefaults Defaults.sdk.name =
      .ok !(builder.defaultsAdded.contains (.text sdkDefaults)) := rfl
  rw [Configuration.addDefaults, if_pos remembers, acceptsCalls_lacksDefaults, asked]
  cases contained : builder.defaultsAdded.contains (.text sdkDefaults) with
  | true =>
    rw [defaulted_of_contains contained]
    exact .done _
  | false => exact applySdk_leaves tracks

end Steps

section Requests

variable {builder : Builder} {env : Environment} {override : Option Int}

theorem after_configure
    (tracks : builder.variant.tracksDefaults = true)
    (read : Settings.attempts env = .ok override)
    (rest : List Request) :
    builder.after (⟨env, .configure⟩ :: rest) = (builder.configured override).after rest :=
  congrArg (after · rest) (configure_leaves tracks read).builder

theorem after_applySdk
    (tracks : builder.variant.tracksDefaults = true)
    (rest : List Request) :
    builder.after (⟨env, .applyDefaults .sdk⟩ :: rest) = builder.defaulted.after rest :=
  congrArg (after · rest) (applySdk_leaves tracks).builder

theorem after_addSdk
    (tracks : builder.variant.tracksDefaults = true)
    (rest : List Request) :
    builder.after (⟨env, .addDefaults .sdk⟩ :: rest) = builder.defaulted.after rest :=
  congrArg (after · rest) (addSdk_leaves tracks).builder

theorem after_configure_of_error
    {error : SettingError}
    (unreadable : Settings.attempts env = .error error)
    (rest : List Request) :
    builder.after (⟨env, .configure⟩ :: rest) = builder.canonical.after rest :=
  congrArg (after · rest) (configure_fails unreadable).builder

end Requests

/-- Nothing of configuration is done twice, whatever a builder held before.  Configuring
again or taking in the canonical bundle after configuration changes nothing, configuration
makes up for all that taking in the bundle did before it, and taking in the bundle is done
at most once, whatever is asked for in between. -/
theorem configuration_absorbs
    {builder : Builder}
    (tracks : builder.variant.tracksDefaults = true)
    {env : Environment}
    {override : Option Int}
    (read : Settings.attempts env = .ok override) :
    (∀ operation ∈ [Operation.configure, .applyDefaults .sdk, .addDefaults .sdk],
      (builder.handle ⟨env, operation⟩).fault = none) ∧
    builder.after [⟨env, .configure⟩, ⟨env, .configure⟩] =
      builder.after [⟨env, .configure⟩] ∧
    builder.after [⟨env, .configure⟩, ⟨env, .applyDefaults .sdk⟩] =
      builder.after [⟨env, .configure⟩] ∧
    builder.after [⟨env, .applyDefaults .sdk⟩, ⟨env, .configure⟩] =
      builder.after [⟨env, .configure⟩] ∧
    builder.after [⟨env, .applyDefaults .sdk⟩, ⟨env, .applyDefaults .sdk⟩] =
      builder.after [⟨env, .applyDefaults .sdk⟩] ∧
    builder.after [⟨env, .addDefaults .sdk⟩] =
      builder.after [⟨env, .applyDefaults .sdk⟩] ∧
    (builder.defaultsAdded.contains (.text sdkDefaults) = true →
      builder.after [⟨env, .applyDefaults .sdk⟩] = builder) ∧
    ∀ further : List Request,
      builder.after (⟨env, .applyDefaults .sdk⟩ :: further ++ [⟨env, .applyDefaults .sdk⟩]) =
        builder.after (⟨env, .applyDefaults .sdk⟩ :: further) := by
  have configuredTracks : (builder.configured override).variant.tracksDefaults = true := by
    simpa using tracks
  have defaultedTracks : builder.defaulted.variant.tracksDefaults = true := by
    simpa using tracks
  have configuredContains :
      (builder.configured override).defaultsAdded.contains (.text sdkDefaults) = true :=
    contains_marked_text ..
  refine ⟨?_, ?_, ?_, ?_, ?_, ?_, ?_, ?_⟩
  · simp only [List.forall_mem_cons]
    exact ⟨(configure_leaves tracks read).fault, (applySdk_leaves tracks).fault,
      (addSdk_leaves tracks).fault, nofun⟩
  · rw [after_configure tracks read, after_configure tracks read,
      after_configure configuredTracks read, configured_configured]
  · rw [after_configure tracks read, after_configure tracks read,
      after_applySdk configuredTracks, defaulted_of_contains configuredContains]
  · rw [after_applySdk tracks, after_configure tracks read,
      after_configure defaultedTracks read, configured_defaulted]
  · rw [after_applySdk tracks, after_applySdk tracks, after_applySdk defaultedTracks,
      defaulted_of_contains builder.contains_defaulted]
  · rw [after_addSdk tracks, after_applySdk tracks]
  · intro contained
    rw [after_applySdk tracks, defaulted_of_contains contained, after_nil]
  · intro further
    have lastTracks : (builder.defaulted.after further).variant.tracksDefaults = true := by
      rw [variant_after]
      exact defaultedTracks
    have lastContains :
        (builder.defaulted.after further).defaultsAdded.contains (.text sdkDefaults) = true :=
      (builder.defaulted.grows_after further).contains builder.contains_defaulted
    rw [List.cons_append, after_applySdk tracks, after_applySdk tracks, after_append,
      after_applySdk lastTracks, defaulted_of_contains lastContains, after_nil]

/-- Out of order, and with a classifier of its own, a builder is configured once. -/
theorem configuration_absorbs_reordered :
    (((Builder.fresh .legacy).after
        [⟨.empty, .retryOnInstanceOrCauseOf (.known .osError)⟩,
          ⟨.empty, .treatAsThrottling .throttled⟩]).after
        [⟨⟨[("SDK_MAX_ATTEMPTS", "5")]⟩, .configure⟩,
          ⟨⟨[("SDK_MAX_ATTEMPTS", "5")]⟩, .configure⟩]) =
      ((Builder.fresh .legacy).after
        [⟨.empty, .retryOnInstanceOrCauseOf (.known .osError)⟩,
          ⟨.empty, .treatAsThrottling .throttled⟩]).after
        [⟨⟨[("SDK_MAX_ATTEMPTS", "5")]⟩, .configure⟩] := by
  have tracks : ((Builder.fresh .legacy).after
      [⟨.empty, .retryOnInstanceOrCauseOf (.known .osError)⟩,
        ⟨.empty, .treatAsThrottling .throttled⟩]).variant.tracksDefaults = true := rfl
  have read : Settings.attempts ⟨[("SDK_MAX_ATTEMPTS", "5")]⟩ = .ok (some 5) := rfl
  exact (configuration_absorbs tracks read).2.1

/-- Failed configuration leaves nothing behind that later configuration does not make up
for. -/
theorem canonical_after_failing
    (builder : Builder)
    {failing : List Environment}
    (invalid : ∀ env ∈ failing, ∃ error, Settings.attempts env = .error error) :
    (builder.after (failing.map (⟨·, .configure⟩))).canonical = builder.canonical := by
  induction failing generalizing builder with
  | nil => rfl
  | cons env rest inductionHypothesis =>
    obtain ⟨⟨error, unreadable⟩, restInvalid⟩ := List.forall_mem_cons.mp invalid
    have again : builder.canonical.canonical = builder.canonical :=
      canonical_of_canonical builder rfl rfl
    rw [List.map_cons, after_configure_of_error unreadable,
      inductionHypothesis _ restInvalid, again]

/-- Configuration in an environment that sets a budget which is none fails, and leaves what
registration of the canonical conditions leaves: budget, delays and markers are as before.
However often it failed, configuration in an environment whose budget can be read, or is
unset, then succeeds, and leaves the same as if it had never failed. -/
theorem configuration_recovers
    {builder : Builder}
    (tracks : builder.variant.tracksDefaults = true)
    {failing : List Environment}
    (invalid : ∀ env ∈ failing, ∃ error, Settings.attempts env = .error error) :
    (∀ env error, Settings.attempts env = .error error →
      ∃ left,
        (builder.handle ⟨env, .configure⟩).Leaves left (some (.setting error)) ∧
        (builder.handle ⟨env, .addConditions⟩).Leaves left none ∧
        left.maxAttempts = builder.maxAttempts ∧
        left.baseDelay = builder.baseDelay ∧
        left.throttledBaseDelay = builder.throttledBaseDelay ∧
        left.maxBackoff = builder.maxBackoff ∧
        left.defaultsAdded = builder.defaultsAdded) ∧
    ∀ env override, Settings.attempts env = .ok override →
      ∃ last,
        ((builder.after (failing.map (⟨·, .configure⟩))).handle ⟨env, .configure⟩).Leaves
          last none ∧
        (builder.handle ⟨env, .configure⟩).Leaves last none := by
  refine ⟨?_, ?_⟩
  · intro env error unreadable
    refine ⟨builder.canonical, configure_fails unreadable, addConditions_leaves builder, ?_⟩
    rw [canonical_eq]
    exact ⟨rfl, rfl, rfl, rfl, rfl⟩
  · intro env override read
    refine ⟨builder.configured override, ?_, configure_leaves tracks read⟩
    have same : (builder.after (failing.map (⟨·, .configure⟩))).configured override =
        builder.configured override := by
      rw [configured, canonical_after_failing builder invalid, ← configured]
    rw [← same]
    apply configure_leaves _ read
    rw [variant_after]
    exact tracks

/-- A zero and a word are no budgets, and five is one. -/
theorem configuration_recovers_five :
    ∃ last,
      (((Builder.fresh .adaptive).after
        [⟨⟨[("SDK_MAX_ATTEMPTS", "0")]⟩, .configure⟩,
          ⟨⟨[("sdk_max_attempts", "many")]⟩, .configure⟩]).handle
        ⟨⟨[("SDK_MAX_ATTEMPTS", "5")]⟩, .configure⟩).Leaves last none ∧
      ((Builder.fresh .adaptive).handle
        ⟨⟨[("SDK_MAX_ATTEMPTS", "5")]⟩, .configure⟩).Leaves last none := by
  have invalid : ∀ env ∈ [Environment.mk [("SDK_MAX_ATTEMPTS", "0")],
      ⟨[("sdk_max_attempts", "many")]⟩], ∃ error, Settings.attempts env = .error error := by
    simp only [List.forall_mem_cons]
    exact ⟨⟨_, rfl⟩, ⟨_, rfl⟩, nofun⟩
  have tracks : (Builder.fresh .adaptive).variant.tracksDefaults = true := rfl
  exact (configuration_recovers tracks invalid).2 _ (some 5) rfl

end Builder
end Retry
