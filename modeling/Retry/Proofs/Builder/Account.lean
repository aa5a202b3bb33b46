import Retry.Proofs.Builder.Effect

/-!
# Accounts of builders

A builder is accounted for by the effects of all that was asked of it.  The conditions are
those registered, each where it first was, and every other value is the last one set, or
the one its variant starts from.  The main statement says this of every history of requests,
whichever of them fail, and that a longer history only puts more conditions behind those of
a shorter one.
-/

namespace Retry

namespace Effect

/-- The condition that an effect registers. -/
def condition? : Effect → Option Condition
  | condition registered => some registered
  | _ => none

/-- The classifier that an effect sets, where none is one too. -/
def classifier? : Effect → Option (Option Condition)
  | classifier given => some given
  | _ => none

/-- The budget that an effect sets. -/
def maxAttempts? : Effect → Option Value
  | maxAttempts budget => some (.number budget)
  | _ => none

/-- The base delay of generic failures that an effect sets. -/
def baseDelay? : Effect → Option Value
  | baseDelay delay => some (.number delay)
  | _ => none

/-- The base delay of throttled failures that an effect sets. -/
def throttledBaseDelay? : Effect → Option Value
  | throttledBaseDelay delay => some (.number delay)
  | _ => none

/-- The bound of all delays that an effect sets. -/
def maxBackoff? : Effect → Option Value
  | maxBackoff bound => some bound
  | _ => none

/-- The last value of one kind that effects set, or the one it starts from. -/
def last
    {α : Type}
    (value? : Effect → Option α)
    (start : α)
    (effects : List Effect) : α :=
  (effects.filterMap value?).getLastD start

theorem last_append
    {α : Type}
    (value? : Effect → Option α)
    (start : α)
    (effects : List Effect)
    (effect : Effect) :
    last value? start (effects ++ [effect]) =
      (value? effect).getD (last value? start effects) := by
  rw [last, List.filterMap_append]
  cases sets : value? effect with
  | none => simp [sets, last]
  | some value => simp [sets]

end Effect

namespace Builder

/-- What an effect leaves of a builder besides its conditions and markers: the value that it
sets, and all others as they are. -/
theorem take_eq
    (builder : Builder)
    (effect : Effect) :
    builder.take effect =
      { builder with
        conditions := (builder.take effect).conditions
        classifier := effect.classifier?.getD builder.classifier
        maxAttempts := effect.maxAttempts?.getD builder.maxAttempts
        baseDelay := effect.baseDelay?.getD builder.baseDelay
        throttledBaseDelay := effect.throttledBaseDelay?.getD builder.throttledBaseDelay
        maxBackoff := effect.maxBackoff?.getD builder.maxBackoff
        defaultsAdded := (builder.take effect).defaultsAdded } := by
  cases effect with
  | condition condition =>
    obtain ⟨conditions, registered⟩ := builder.exists_retryOn_eq condition
    rw [take, registered]
    rfl
  | classifier | maxAttempts | baseDelay | throttledBaseDelay | maxBackoff | marker => rfl

/-- A condition that is registered is put behind the others, unless it was registered
before. -/
theorem conditions_take
    {builder : Builder}
    {registered : List Condition}
    (held : builder.conditions = registered.eraseDups)
    (effect : Effect) :
    (builder.take effect).conditions =
      (registered ++ effect.condition?.toList).eraseDups := by
  cases effect with
  | condition condition => exact conditions_retryOn held condition
  | classifier | maxAttempts | baseDelay | throttledBaseDelay | maxBackoff | marker =>
    simpa [take, Effect.condition?] using held

/-- A name is marked once it was put among the markers, if it is a key. -/
theorem contains_marked
    (builder : Builder)
    (name other : Value) :
    (builder.marked name).defaultsAdded.contains other =
      (builder.defaultsAdded.contains other || (name.isKey && other.same name)) := by
  rw [marked]
  cases key : name.isKey with
  | true => rw [Markers.contains_including key, Bool.true_and, Bool.or_comm]
  | false =>
    have refused : builder.defaultsAdded.including name = builder.defaultsAdded := by
      simp [Markers.including, Markers.add?, key]
    rw [refused, Bool.false_and, Bool.or_false]

/-- Whether a builder of a variant holds what effects come to: every condition where it was
first registered, every other value as it was last set, and every marker. -/
structure Accounts
    (start : Variant)
    (effects : List Effect)
    (builder : Builder) : Prop where
  variant : builder.variant = start
  conditions : builder.conditions = (effects.filterMap Effect.condition?).eraseDups
  classifier : builder.classifier = Effect.last Effect.classifier? none effects
  maxAttempts : builder.maxAttempts =
    Effect.last Effect.maxAttempts? (.int start.maxAttempts) effects
  baseDelay : builder.baseDelay =
    Effect.last Effect.baseDelay? (.number (.real start.baseDelay)) effects
  throttledBaseDelay : builder.throttledBaseDelay =
    Effect.last Effect.throttledBaseDelay? (.number (.real start.throttledBaseDelay)) effects
  maxBackoff : builder.maxBackoff =
    Effect.last Effect.maxBackoff? (.number (.real start.maxBackoff)) effects
  markers : ∀ name, builder.defaultsAdded.contains name = Effect.marked effects name

namespace Accounts

variable {variant : Variant} {effects : List Effect} {builder : Builder}

theorem fresh
    (variant : Variant) :
    Accounts variant [] (Builder.fresh variant) :=
  ⟨rfl, rfl, rfl, rfl, rfl, rfl, rfl, fun _ => rfl⟩

/-- A builder that is accounted for still is after one more effect. -/
theorem take
    (accounts : Accounts variant effects builder)
    (effect : Effect) :
    Accounts variant (effects ++ [effect]) (builder.take effect) where
  variant := by
    rw [take_eq]
    exact accounts.variant
  conditions := by
    rw [conditions_take accounts.conditions, List.filterMap_append]
    cases effect <;> rfl
  classifier := by
    rw [take_eq, Effect.last_append, ← accounts.classifier]
  maxAttempts := by
    rw [take_eq, Effect.last_append, ← accounts.maxAttempts]
  baseDelay := by
    rw [take_eq, Effect.last_append, ← accounts.baseDelay]
  throttledBaseDelay := by
    rw [take_eq, Effect.last_append, ← accounts.throttledBaseDelay]
  maxBackoff := by
    rw [take_eq, Effect.last_append, ← accounts.maxBackoff]
  markers := by
    intro name
    have before : builder.defaultsAdded.contains name = Effect.marked effects name :=
      accounts.markers name
    rw [Effect.marked, List.any_append, ← Effect.marked, ← before]
    cases effect with
    | marker other => simp [Builder.take, contains_marked]
    | condition condition => simp [Builder.take]
    | classifier | maxAttempts | baseDelay | throttledBaseDelay | maxBackoff =>
      simp [Builder.take]

theorem takeAll
    (accounts : Accounts variant effects builder)
    (further : List Effect) :
    Accounts variant (effects ++ further) (builder.takeAll further) := by
  induction further generalizing effects builder with
  | nil => simpa using accounts
  | cons effect rest inductionHypothesis =>
    have account := inductionHypothesis (accounts.take effect)
    rwa [List.append_assoc, List.singleton_append] at account

/-- The effects of a request follow from those of the requests before it: the names it finds
marked are the ones that these marked. -/
theorem handle
    (accounts : Accounts variant effects builder)
    (tracks : variant.tracksDefaults = true)
    (request : Request) :
    Accounts variant
      (effects ++ request.operation.effects request.environment (Effect.marked effects))
      (builder.handle request).builder := by
  have builderTracks : builder.variant.tracksDefaults = true := by
    rw [accounts.variant]
    exact tracks
  have marked : builder.defaultsAdded.contains = Effect.marked effects :=
    funext accounts.markers
  rw [Builder.handle, builder_perform builderTracks, marked]
  exact accounts.takeAll _

/-- A builder that is accounted for still is after more requests. -/
theorem extend
    (accounts : Accounts variant effects builder)
    (tracks : variant.tracksDefaults = true)
    (requests : List Request) :
    Accounts variant (Effect.extend effects requests) (builder.after requests) := by
  -- What a request does depends on the effects before it, so these vary in the induction.
  induction requests generalizing effects builder with
  | nil => exact accounts
  | cons request rest inductionHypothesis =>
    exact inductionHypothesis (accounts.handle tracks request)

/-- A fresh builder is accounted for after every history of requests. -/
theorem after
    (tracks : variant.tracksDefaults = true)
    (history : List Request) :
    Accounts variant (Effect.ofHistory history) ((Builder.fresh variant).after history) :=
  (Accounts.fresh variant).extend tracks history

end Accounts

/-- Every history of requests on a fresh builder, whichever of them fail, accounts for what
it holds.  No condition is held twice, and those of a longer history begin with those of a
shorter one. -/
theorem accounts_after
    {variant : Variant}
    (library : variant ∈ [Variant.standard, .legacy, .adaptive])
    (history : List Request) :
    Accounts variant (Effect.ofHistory history) ((fresh variant).after history) ∧
    ((fresh variant).after history).conditions.Nodup ∧
    ∀ later : List Request,
      ((fresh variant).after history).conditions <+:
        ((fresh variant).after (history ++ later)).conditions := by
  have tracks : variant.tracksDefaults = true := (sound_fresh library).tracksDefaults
  refine ⟨.after tracks history, ((sound_fresh library).after history).distinct, ?_⟩
  intro later
  obtain ⟨rest, registered⟩ :=
    (Effect.ofHistory_prefix history later).filterMap Effect.condition?
  rw [(Accounts.after tracks history).conditions,
    (Accounts.after tracks (history ++ later)).conditions, ← registered,
    List.eraseDups_append]
  exact List.prefix_append ..

/-- Configuration that fails registers the canonical conditions, which are then not
registered again.  A base delay that is none changes nothing, and the canonical bundle does
not bring its classifier back where it is marked. -/
theorem accounts_after_refusals :
    ∃ builder : Builder,
      builder = (fresh .legacy).after
        [⟨.empty, .retryOn (.user "mine")⟩,
          ⟨⟨[("SDK_MAX_ATTEMPTS", "zero")]⟩, .configure⟩,
          ⟨.empty, .retryOn .throttled⟩,
          ⟨.empty, .retryOnInstanceOf (.known .osError)⟩,
          ⟨.empty, .backoff [.null, .int 5]⟩,
          ⟨⟨[("SDK_MAX_ATTEMPTS", "7")]⟩, .configure⟩,
          ⟨.empty, .treatAsThrottling .absent⟩,
          ⟨.empty, .addDefaults .sdk⟩] ∧
      builder.conditions =
        .user "mine" :: Condition.canonical ++ [.instanceOf (.known .osError)] ∧
      builder.classifier = none ∧
      builder.maxAttempts = .int 7 ∧
      builder.maxBackoff = .number (.real Variant.defaultMaxBackoff) := by
  have library : Variant.legacy ∈ [Variant.standard, .legacy, .adaptive] := by simp
  have account (history : List Request) := (accounts_after library history).1
  exact ⟨_, rfl, (account _).conditions, (account _).classifier, (account _).maxAttempts,
    (account _).maxBackoff⟩

end Builder
end Retry
