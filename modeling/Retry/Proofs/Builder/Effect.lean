import Retry.Proofs.Builder.Configuration

/-!
# Effects of requests

What requests do to a builder, told from the requests alone: which conditions they
register, and which values they set that pass the checks of the setters.  Of what a request
found there, only the markers set before it matter, since a bundle that is marked is not
offered again.  The main statement says that a builder is left by an operation as its
effects leave it.
-/

namespace Retry

/-- One of the things that a request can do to a builder. -/
inductive Effect where
  | condition (condition : Condition)
  | classifier (classifier : Option Condition)
  | maxAttempts (budget : Number)
  | baseDelay (delay : Number)
  | throttledBaseDelay (delay : Number)
  | maxBackoff (bound : Value)
  | marker (name : Value)

namespace Effect

/-- The registration of the canonical conditions, and of their classifier. -/
def canonical : List Effect :=
  Condition.canonical.map condition ++ [classifier (some .throttlingClassifier)]

/-- A budget is set if it is one. -/
def budget (given : Value) : List Effect :=
  match Builder.checkBudget given with
  | .ok budget => [maxAttempts budget]
  | .error _ => []

/-- A base delay is set if it is one, and the bound of all delays with it unless the one
given is null. -/
def backoff (given bound : Value) : List Effect :=
  match Builder.checkDelay given with
  | .ok delay => baseDelay delay :: if bound.isNull then [] else [maxBackoff bound]
  | .error _ => []

/-- A base delay of throttled failures is set if it is one. -/
def throttledBackoff (given : Value) : List Effect :=
  match Builder.checkDelay given with
  | .ok delay => [throttledBaseDelay delay]
  | .error _ => []

/-- Configuration in an environment stops where that sets a budget that is none. -/
def configuration (env : Environment) : List Effect :=
  canonical ++
    match Settings.attempts env with
    | .ok (some budget) => [maxAttempts (.int budget), marker (.text sdkDefaults)]
    | .ok none => [marker (.text sdkDefaults)]
    | .error _ => []

end Effect

/-- What taking in a bundle does.  The canonical one is not taken in where it is marked. -/
def Defaults.effects (marked : Value → Bool) : Defaults → List Effect
  | sdk =>
    if marked (.text sdkDefaults) then []
    else Effect.canonical ++ [.marker (.text sdkDefaults)]
  | own bundle =>
    bundle.conditions.map .condition ++ if bundle.marks then [.marker bundle.name] else []

/-- What an operation does in an environment, where some names are marked before it. -/
def Operation.effects
    (env : Environment)
    (marked : Value → Bool) : Operation → List Effect
  | retryOn condition => [.condition condition]
  | retryOnInstanceOf ref => [.condition (.instanceOf ref)]
  | retryOnInstanceOrCauseOf ref => [.condition (.instanceOrCauseOf ref)]
  | treatAsThrottling condition =>
    [.classifier (if condition = .absent then none else some condition)]
  | maxAttempts [given] => Effect.budget given
  | backoff [given] => Effect.backoff given .null
  | backoff [given, bound] => Effect.backoff given bound
  | throttledBackoff [given] => Effect.throttledBackoff given
  | maxAttempts _ | backoff _ | throttledBackoff _ => []
  | markDefaults name => [.marker name]
  | addConditions => Effect.canonical
  | configure => Effect.configuration env
  | applyDefaults defaults => defaults.effects marked
  | addDefaults defaults =>
    if defaults.name.isKey && !marked defaults.name then defaults.effects marked else []

namespace Effect

/-- Whether a name is marked among effects.  Only keys can be. -/
def marked
    (effects : List Effect)
    (name : Value) : Bool :=
  effects.any fun
    | marker other => other.isKey && name.same other
    | _ => false

/-- The effects of requests behind those of the requests before them. -/
def extend
    (past : List Effect)
    (requests : List Request) : List Effect :=
  requests.foldl
    (fun past request =>
      past ++ request.operation.effects request.environment (marked past))
    past

/-- All effects of a history of requests, in order. -/
def ofHistory (history : List Request) : List Effect :=
  extend [] history

theorem extend_cons
    (past : List Effect)
    (request : Request)
    (rest : List Request) :
    extend past (request :: rest) =
      extend (past ++ request.operation.effects request.environment (marked past)) rest := rfl

/-- Effects stay where they are, whatever is asked for after them. -/
theorem prefix_extend
    (past : List Effect)
    (requests : List Request) :
    past <+: extend past requests := by
  induction requests generalizing past with
  | nil => exact List.prefix_refl past
  | cons request rest inductionHypothesis =>
    rw [extend_cons]
    exact (List.prefix_append ..).trans (inductionHypothesis _)

/-- What a longer history does begins with what a shorter one does. -/
theorem ofHistory_prefix
    (earlier later : List Request) :
    ofHistory earlier <+: ofHistory (earlier ++ later) := by
  have continued : ofHistory (earlier ++ later) = extend (ofHistory earlier) later :=
    List.foldl_append ..
  rw [continued]
  exact prefix_extend _ later

end Effect

namespace Builder

/-- A builder after one effect. -/
def take (builder : Builder) : Effect → Builder
  | .condition condition => builder.retryOn condition
  | .classifier classifier => { builder with classifier := classifier }
  | .maxAttempts budget => { builder with maxAttempts := .number budget }
  | .baseDelay delay => { builder with baseDelay := .number delay }
  | .throttledBaseDelay delay => { builder with throttledBaseDelay := .number delay }
  | .maxBackoff bound => { builder with maxBackoff := bound }
  | .marker name => builder.marked name

/-- A builder after effects in order. -/
def takeAll
    (builder : Builder)
    (effects : List Effect) : Builder :=
  effects.foldl take builder

section TakeAll

variable (builder : Builder)

@[simp] theorem takeAll_nil :
    builder.takeAll [] = builder := rfl

@[simp] theorem takeAll_cons
    (effect : Effect)
    (rest : List Effect) :
    builder.takeAll (effect :: rest) = (builder.take effect).takeAll rest := rfl

@[simp] theorem takeAll_append
    (first second : List Effect) :
    builder.takeAll (first ++ second) = (builder.takeAll first).takeAll second :=
  List.foldl_append ..

theorem takeAll_conditions
    (conditions : List Condition) :
    builder.takeAll (conditions.map .condition) = conditions.foldl retryOn builder :=
  List.foldl_map

@[simp] theorem takeAll_canonical :
    builder.takeAll Effect.canonical = builder.canonical := by
  rw [Effect.canonical, takeAll_append, takeAll_conditions, canonical]
  rfl

end TakeAll

section Steps

variable {builder : Builder}

/-- A bundle is marked if its name is a key, and the step fails otherwise. -/
theorem builder_markDefaults
    (tracks : builder.variant.tracksDefaults = true)
    (name : Value) :
    (builder.call (.markDefaults name)).builder = builder.marked name := by
  rw [Builder.call, if_pos tracks, markDefaults_eq, marked, Markers.including]
  cases builder.defaultsAdded.add? name <;> rfl

/-- Configuration, also where it stops half-way. -/
theorem builder_configure
    (tracks : builder.variant.tracksDefaults = true)
    (env : Environment) :
    (Configuration.configure env builder).builder =
      builder.takeAll (Effect.configuration env) := by
  rw [Effect.configuration, takeAll_append, takeAll_canonical]
  cases read : Settings.attempts env with
  | error error => exact (configure_fails read).builder
  | ok override =>
    rw [(configure_leaves tracks read).builder]
    cases override <;> rfl

theorem builder_applyOwn
    (tracks : builder.variant.tracksDefaults = true)
    (bundle : Bundle)
    (names : Value → Bool) :
    (Configuration.applyOwn bundle builder).builder =
      builder.takeAll ((Defaults.own bundle).effects names) := by
  have registers : (bundle.conditions.map Call.retryOn).map Call.registered? =
      bundle.conditions.map some := by
    simp [Call.registered?, Function.comp_def]
  have registered := forEach_call_of_registered? _ [] bundle.conditions registers builder
  have stillTracks :
      (bundle.conditions.foldl retryOn builder).variant.tracksDefaults = true := by
    rw [foldl_retryOn_eq]
    exact tracks
  have remembers :
      AcceptsCalls.tracksDefaults (bundle.conditions.foldl retryOn builder) = true :=
    stillTracks
  rw [List.append_nil, Step.forEach_nil] at registered
  rw [Configuration.applyOwn, registered, Step.done_andThen, Defaults.effects, takeAll_append,
    takeAll_conditions]
  split
  · rw [Configuration.markDefaults, if_pos remembers]
    exact builder_markDefaults stillTracks _
  · rfl

/-- Taking in a bundle. -/
theorem builder_applyDefaults
    (tracks : builder.variant.tracksDefaults = true)
    (defaults : Defaults) :
    (Configuration.applyDefaults defaults builder).builder =
      builder.takeAll (defaults.effects builder.defaultsAdded.contains) := by
  cases defaults with
  | own bundle => exact builder_applyOwn tracks bundle _
  | sdk =>
    rw [Configuration.applyDefaults, (applySdk_leaves tracks).builder, Defaults.effects,
      defaulted]
    split
    · rfl
    · rw [takeAll_append, takeAll_canonical]
      rfl

/-- Offering a bundle, which fails where its name is no key. -/
theorem builder_addDefaults
    (tracks : builder.variant.tracksDefaults = true)
    (env : Environment)
    (defaults : Defaults) :
    (Configuration.addDefaults defaults builder).builder =
      builder.takeAll
        ((Operation.addDefaults defaults).effects env builder.defaultsAdded.contains) := by
  have remembers : AcceptsCalls.tracksDefaults builder = true := tracks
  rw [Configuration.addDefaults, if_pos remembers, acceptsCalls_lacksDefaults, lacksDefaults,
    Operation.effects]
  cases defaults.name.isKey with
  | false => rfl
  | true =>
    cases builder.defaultsAdded.contains defaults.name with
    | true => rfl
    | false => exact builder_applyDefaults tracks defaults

/-- An operation leaves a builder as its effects do, also where it fails. -/
theorem builder_perform
    (tracks : builder.variant.tracksDefaults = true)
    (env : Environment)
    (operation : Operation) :
    (builder.perform env operation).builder =
      builder.takeAll (operation.effects env builder.defaultsAdded.contains) := by
  have setBackoff (given bound : Value) :
      (Step.ofExcept builder (builder.setBackoff given bound)).builder =
        builder.takeAll (Effect.backoff given bound) := by
    rw [setBackoff_eq, Effect.backoff]
    cases checkDelay given with
    | error fault => rfl
    | ok delay => cases bound.isNull <;> rfl
  cases operation with
  | backoff arguments =>
    match arguments with
    | [] | _ :: _ :: _ :: _ => rfl
    | [given] => exact setBackoff given .null
    | [given, bound] => exact setBackoff given bound
  | throttledBackoff arguments =>
    match arguments with
    | [] | _ :: _ :: _ => rfl
    | [given] =>
      rw [perform, setThrottledBackoff_eq, Operation.effects, Effect.throttledBackoff]
      cases checkDelay given <;> rfl
  | maxAttempts arguments =>
    match arguments with
    | [] | _ :: _ :: _ => rfl
    | [given] =>
      show (builder.call (.maxAttempts given)).builder = _
      rw [Builder.call, setMaxAttempts_eq, Operation.effects, Effect.budget]
      cases checkBudget given <;> rfl
  | retryOn | retryOnInstanceOf | retryOnInstanceOrCauseOf | treatAsThrottling => rfl
  | markDefaults name => exact builder_markDefaults tracks name
  | addConditions =>
    rw [Operation.effects, takeAll_canonical]
    exact (addConditions_leaves builder).builder
  | configure => exact builder_configure tracks env
  | applyDefaults defaults => exact builder_applyDefaults tracks defaults
  | addDefaults defaults => exact builder_addDefaults tracks env defaults

end Steps

end Builder
end Retry
