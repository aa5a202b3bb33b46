import Retry.Proofs.Builder.Sound
import Retry.Proofs.Markers

/-!
# What builders never lose

No operation takes a condition or a marker from a builder.  The main statements say this,
and that the marker of the canonical bundle is *truthful*: unless someone else sets it, a
builder that has it holds the canonical conditions.  Configuration that fails half-way has
registered them all before it could fail.
-/

namespace Retry

/-- Only the name of the canonical bundle itself is equal to it. -/
theorem Value.same_sdkDefaults
    {name : Value}
    (differs : name ≠ .text sdkDefaults) :
    (Value.text sdkDefaults).same name = false := by
  cases name with
  | text name =>
    rw [same_text_text, beq_eq_false_iff_ne]
    rintro rfl
    exact differs rfl
  | mode mode => cases mode <;> rfl
  | null | number | list | object | foreign => rfl

namespace Builder

/-- Whether a builder still has all conditions and markers that it had at the start. -/
structure Grows (start builder : Builder) : Prop where
  conditions : start.conditions ⊆ builder.conditions
  markers : start.defaultsAdded.values ⊆ builder.defaultsAdded.values

theorem Grows.refl
    (builder : Builder) :
    Grows builder builder :=
  ⟨List.Subset.refl _, List.Subset.refl _⟩

theorem Grows.trans
    {start middle last : Builder}
    (first : Grows start middle)
    (second : Grows middle last) :
    Grows start last :=
  ⟨List.Subset.trans first.conditions second.conditions,
    List.Subset.trans first.markers second.markers⟩

@[simp] theorem defaultsAdded_retryOn
    (builder : Builder)
    (condition : Condition) :
    (builder.retryOn condition).defaultsAdded = builder.defaultsAdded := by
  unfold retryOn
  split <;> rfl

theorem grows_retryOn
    (builder : Builder)
    (condition : Condition) :
    Grows builder (builder.retryOn condition) := by
  refine ⟨?_, ?_⟩
  · intro other member
    exact (mem_conditions_retryOn ..).mpr (Or.inl member)
  · rw [defaultsAdded_retryOn]
    exact List.Subset.refl _

/-- No call takes anything from a builder, also where it fails. -/
theorem grows_call
    (call : Call)
    (builder : Builder) :
    Grows builder (builder.call call).builder := by
  cases call with
  | retryOn condition => exact builder.grows_retryOn condition
  | retryOnInstanceOf ref => exact builder.grows_retryOn _
  | retryOnInstanceOrCauseOf ref => exact builder.grows_retryOn _
  | treatAsThrottling condition => exact ⟨List.Subset.refl _, List.Subset.refl _⟩
  | maxAttempts budget =>
    rw [Builder.call, setMaxAttempts_eq]
    apply Step.ofExcept_keeps (Grows.refl builder)
    intro budget _
    exact ⟨List.Subset.refl _, List.Subset.refl _⟩
  | markDefaults name =>
    rw [Builder.call]
    split
    · rw [markDefaults_eq]
      apply Step.ofExcept_keeps (Grows.refl builder)
      intro markers marks
      have added := Outcome.compatible_eq_ok_iff.mp marks
      obtain ⟨key, rfl⟩ := Markers.add?_eq_some_iff.mp added
      exact ⟨List.Subset.refl _, Markers.values_subset_including key⟩
    · exact Grows.refl builder

/-- No call changes the variant of a builder. -/
theorem variant_call
    (call : Call)
    (builder : Builder) :
    (builder.call call).builder.variant = builder.variant := by
  have registers (condition : Condition) :
      (builder.retryOn condition).variant = builder.variant := by
    obtain ⟨_, registered⟩ := builder.exists_retryOn_eq condition
    rw [registered]
  cases call with
  | retryOn condition => exact registers condition
  | retryOnInstanceOf ref => exact registers _
  | retryOnInstanceOrCauseOf ref => exact registers _
  | treatAsThrottling condition => rfl
  | maxAttempts budget =>
    rw [Builder.call, setMaxAttempts_eq]
    cases checkBudget budget <;> rfl
  | markDefaults name =>
    rw [Builder.call]
    split
    · rw [markDefaults_eq]
      cases compatible (builder.defaultsAdded.add? name) <;> rfl
    · rfl

/-- No operation takes anything from a builder, also where it fails. -/
theorem grows_perform
    (env : Environment)
    (operation : Operation)
    (builder : Builder) :
    Grows builder (builder.perform env operation).builder := by
  apply perform_keeps (Grows builder) _ _ _ env operation (Grows.refl builder)
  · intro call other grows
    exact grows.trans (grows_call call other)
  · intro _ _ _ _ _ grows
    exact ⟨grows.conditions, grows.markers⟩
  · intro _ _ _ _ grows
    exact ⟨grows.conditions, grows.markers⟩

/-- A condition that is registered is put behind the others. -/
theorem prefix_retryOn
    (builder : Builder)
    (condition : Condition) :
    builder.conditions <+: (builder.retryOn condition).conditions := by
  unfold retryOn
  split
  · exact List.prefix_refl _
  · exact List.prefix_append ..

/-- No call puts anything before or between the conditions of a builder, also where it
fails. -/
theorem prefix_call
    (call : Call)
    (builder : Builder) :
    builder.conditions <+: (builder.call call).builder.conditions := by
  have same : builder.conditions <+: builder.conditions := List.prefix_refl _
  cases call with
  | retryOn condition => exact builder.prefix_retryOn condition
  | retryOnInstanceOf ref => exact builder.prefix_retryOn _
  | retryOnInstanceOrCauseOf ref => exact builder.prefix_retryOn _
  | treatAsThrottling condition => exact same
  | maxAttempts budget =>
    rw [Builder.call, setMaxAttempts_eq]
    cases checkBudget budget <;> exact same
  | markDefaults name =>
    rw [Builder.call]
    split
    · rw [markDefaults_eq]
      cases compatible (builder.defaultsAdded.add? name) <;> exact same
    · exact same

/-- No operation puts anything before or between the conditions of a builder, also where it
fails. -/
theorem prefix_perform
    (env : Environment)
    (operation : Operation)
    (builder : Builder) :
    builder.conditions <+: (builder.perform env operation).builder.conditions := by
  apply perform_keeps (builder.conditions <+: ·.conditions) _ _ _ env operation
    (List.prefix_refl _)
  · intro call other kept
    exact kept.trans (prefix_call call other)
  · intro _ _ _ _ _ kept
    exact kept
  · intro _ _ _ _ kept
    exact kept

/-- No operation changes the variant of a builder. -/
theorem variant_perform
    (env : Environment)
    (operation : Operation)
    (builder : Builder) :
    (builder.perform env operation).builder.variant = builder.variant := by
  apply perform_keeps (·.variant = builder.variant) _ _ _ env operation rfl
  · intro call other same
    rw [← same]
    exact variant_call call other
  · intro _ _ _ _ _ same
    exact same
  · intro _ _ _ _ same
    exact same

/-- No requests take anything from a builder, whichever of them fail. -/
theorem grows_after
    (builder : Builder)
    (requests : List Request) :
    Grows builder (builder.after requests) := by
  induction requests generalizing builder with
  | nil => exact Grows.refl builder
  | cons first rest inductionHypothesis =>
    exact (grows_perform first.environment first.operation builder).trans
      (inductionHypothesis _)

/-- No requests change the variant of a builder. -/
theorem variant_after
    (builder : Builder)
    (requests : List Request) :
    (builder.after requests).variant = builder.variant := by
  induction requests generalizing builder with
  | nil => rfl
  | cons first rest inductionHypothesis =>
    rw [after_cons, inductionHypothesis]
    exact variant_perform first.environment first.operation builder

/-- A marker is not lost, whatever a builder is asked for. -/
theorem Grows.contains
    {start builder : Builder}
    (grows : Grows start builder)
    {name : Value}
    (contained : start.defaultsAdded.contains name = true) :
    builder.defaultsAdded.contains name = true := by
  obtain ⟨value, member, same⟩ := Markers.contains_iff.mp contained
  exact Markers.contains_iff.mpr ⟨value, grows.markers member, same⟩

/-- Whether the canonical conditions are registered with a builder. -/
def HoldsCanonical (builder : Builder) : Prop :=
  Condition.canonical ⊆ builder.conditions

/-- Whether a builder that has the marker of the canonical bundle holds the canonical
conditions. -/
def Truthful (builder : Builder) : Prop :=
  builder.defaultsAdded.contains (.text sdkDefaults) = true → builder.HoldsCanonical

theorem Truthful.retryOn
    {builder : Builder}
    (truthful : builder.Truthful)
    (condition : Condition) :
    (builder.retryOn condition).Truthful := by
  intro marked
  rw [defaultsAdded_retryOn] at marked
  exact List.Subset.trans (truthful marked) (builder.grows_retryOn condition).conditions

/-- Every call but the one that sets the marker of the canonical bundle leaves a truthful
builder. -/
theorem Truthful.call
    {builder : Builder}
    (truthful : builder.Truthful)
    {call : Call}
    (other : call ≠ .markDefaults (.text sdkDefaults)) :
    (builder.call call).builder.Truthful := by
  cases call with
  | retryOn condition => exact truthful.retryOn condition
  | retryOnInstanceOf ref => exact truthful.retryOn _
  | retryOnInstanceOrCauseOf ref => exact truthful.retryOn _
  | treatAsThrottling condition => exact truthful
  | maxAttempts budget =>
    rw [Builder.call, setMaxAttempts_eq]
    apply Step.ofExcept_keeps truthful
    intro _ _
    exact truthful
  | markDefaults name =>
    rw [Builder.call]
    split
    · rw [markDefaults_eq]
      apply Step.ofExcept_keeps truthful
      intro markers marks marked
      have added := Outcome.compatible_eq_ok_iff.mp marks
      obtain ⟨key, rfl⟩ := Markers.add?_eq_some_iff.mp added
      have differs : name ≠ .text sdkDefaults := fun same => other (congrArg _ same)
      have before : builder.defaultsAdded.contains (.text sdkDefaults) = true := by
        rwa [Markers.contains_including key, Value.same_sdkDefaults differs,
          Bool.false_or] at marked
      exact truthful before
    · exact truthful

/-- Registration of the canonical conditions registers them all. -/
theorem holdsCanonical_addConditions
    (builder : Builder) :
    (Configuration.addConditions builder).builder.HoldsCanonical := by
  rw [addConditions_eq, Step.reported_builder]
  intro condition member
  rw [conditions_canonical, mem_foldl_retryOn]
  exact Or.inr member

namespace HoldsCanonical

variable {builder : Builder} (holds : builder.HoldsCanonical)
include holds

theorem truthful : builder.Truthful :=
  fun _ => holds

theorem call
    (call : Call) :
    (builder.call call).builder.HoldsCanonical :=
  List.Subset.trans holds (grows_call call builder).conditions

theorem markDefaults
    (name : Value) :
    (Configuration.markDefaults name builder).builder.HoldsCanonical := by
  unfold Configuration.markDefaults
  split
  · exact holds.call _
  · exact holds

theorem applyOverride
    (env : Environment) :
    (Configuration.applyOverride env builder).builder.HoldsCanonical := by
  unfold Configuration.applyOverride
  split
  · exact holds
  · exact holds
  · apply Step.andThen_keeps (holds.call _)
    intro builder holds
    exact holds

end HoldsCanonical

/-- Configuration leaves the canonical conditions registered, also where it fails. -/
theorem holdsCanonical_configure
    (env : Environment)
    (builder : Builder) :
    (Configuration.configure env builder).builder.HoldsCanonical := by
  apply Step.andThen_keeps
  · apply Step.andThen_keeps (holdsCanonical_addConditions builder)
    intro builder holds
    exact holds.applyOverride env
  · intro builder holds
    exact holds.markDefaults _

/-- A builder is not changed by being asked. -/
theorem acceptsCalls_lacksDefaults
    (builder : Builder)
    (name : Value) :
    AcceptsCalls.lacksDefaults builder name = (builder, builder.lacksDefaults name) := rfl

/-- Without its marker the canonical bundle is taken in whole; with it, it is there. -/
theorem Truthful.applySdk
    {builder : Builder}
    (truthful : builder.Truthful) :
    (Configuration.applySdk builder).builder.Truthful := by
  have take : ((Configuration.addConditions builder).andThen
      (Configuration.markDefaults (.text sdkDefaults))).builder.Truthful := by
    apply HoldsCanonical.truthful
    apply Step.andThen_keeps (holdsCanonical_addConditions builder)
    intro builder holds
    exact holds.markDefaults _
  unfold Configuration.applySdk
  rw [acceptsCalls_lacksDefaults]
  split
  · cases builder.lacksDefaults (.text sdkDefaults) with
    | error fault => exact truthful
    | ok lacks =>
      cases lacks with
      | true => exact take
      | false => exact truthful
  · exact take

theorem Truthful.markDefaults
    {builder : Builder}
    (truthful : builder.Truthful)
    {name : Value}
    (other : name ≠ .text sdkDefaults) :
    (Configuration.markDefaults name builder).builder.Truthful := by
  unfold Configuration.markDefaults
  split
  · refine truthful.call fun same => ?_
    injection same with same
    exact other same
  · exact truthful

theorem Truthful.applyOwn
    {builder : Builder}
    (truthful : builder.Truthful)
    {bundle : Bundle}
    (other : bundle.name ≠ .text sdkDefaults) :
    (Configuration.applyOwn bundle builder).builder.Truthful := by
  apply Step.andThen_keeps
  · refine Step.forEach_keeps ?_ truthful
    intro call member builder truthful
    obtain ⟨condition, _, rfl⟩ := List.mem_map.mp member
    exact truthful.call nofun
  · intro builder truthful
    split
    · exact truthful.markDefaults other
    · exact truthful

end Builder

/-- Whether a bundle is the canonical one, or has another name. -/
def Defaults.IsHonest : Defaults → Prop
  | .sdk => True
  | .own bundle => bundle.name ≠ .text sdkDefaults

/-- Whether an operation leaves the marker of the canonical bundle to the bundle itself. -/
def Operation.IsHonest : Operation → Prop
  | .markDefaults name => name ≠ .text sdkDefaults
  | .applyDefaults defaults | .addDefaults defaults => defaults.IsHonest
  | _ => True

namespace Builder

theorem Truthful.applyDefaults
    {builder : Builder}
    (truthful : builder.Truthful)
    {defaults : Defaults}
    (honest : defaults.IsHonest) :
    (Configuration.applyDefaults defaults builder).builder.Truthful := by
  cases defaults with
  | sdk => exact truthful.applySdk
  | own bundle => exact truthful.applyOwn honest

theorem Truthful.addDefaults
    {builder : Builder}
    (truthful : builder.Truthful)
    {defaults : Defaults}
    (honest : defaults.IsHonest) :
    (Configuration.addDefaults defaults builder).builder.Truthful := by
  unfold Configuration.addDefaults
  rw [acceptsCalls_lacksDefaults]
  split
  · cases builder.lacksDefaults defaults.name with
    | error fault => exact truthful
    | ok lacks =>
      cases lacks with
      | true => exact truthful.applyDefaults honest
      | false => exact truthful
  · exact truthful

/-- Every honest operation leaves a truthful builder, also where it fails. -/
theorem Truthful.perform
    {builder : Builder}
    (truthful : builder.Truthful)
    (env : Environment)
    {operation : Operation}
    (honest : operation.IsHonest) :
    (builder.perform env operation).builder.Truthful := by
  cases operation with
  | backoff arguments =>
    have set (baseDelay maxBackoff : Value) :
        (Step.ofExcept builder (builder.setBackoff baseDelay maxBackoff)).builder.Truthful := by
      rw [setBackoff_eq]
      apply Step.ofExcept_keeps truthful
      intro _ _
      exact truthful
    match arguments with
    | [] | _ :: _ :: _ :: _ => exact truthful
    | [baseDelay] => exact set baseDelay .null
    | [baseDelay, maxBackoff] => exact set baseDelay maxBackoff
  | throttledBackoff arguments =>
    match arguments with
    | [] | _ :: _ :: _ => exact truthful
    | [baseDelay] =>
      rw [Builder.perform, setThrottledBackoff_eq]
      apply Step.ofExcept_keeps truthful
      intro _ _
      exact truthful
  | maxAttempts arguments =>
    match arguments with
    | [] | _ :: _ :: _ => exact truthful
    | [budget] => exact truthful.call nofun
  | retryOn | retryOnInstanceOf | retryOnInstanceOrCauseOf | treatAsThrottling =>
    exact truthful.call nofun
  | markDefaults name =>
    refine truthful.call fun same => ?_
    injection same with same
    exact honest same
  | addConditions => exact (holdsCanonical_addConditions builder).truthful
  | configure => exact (holdsCanonical_configure env builder).truthful
  | applyDefaults defaults => exact truthful.applyDefaults honest
  | addDefaults defaults => exact truthful.addDefaults honest

end Builder
end Retry
