import Retry.Proofs.Builder.Replay
import Retry.Proofs.Session.Fork

/-!
# Replays of configuration

A recorder that offers no more than calls can be configured, and what it was called for can be
called for again.  The main statement says which record every series of requests leaves, which
of them fail, and that the record, replayed on a fresh builder, leaves what the requests
themselves leave of one, up to its markers.
-/

namespace Retry

/-- The operation that makes a call. -/
def Call.operation : Call → Operation
  | retryOn condition => .retryOn condition
  | retryOnInstanceOf ref => .retryOnInstanceOf ref
  | retryOnInstanceOrCauseOf ref => .retryOnInstanceOrCauseOf ref
  | treatAsThrottling condition => .treatAsThrottling condition
  | maxAttempts budget => .maxAttempts [budget]
  | markDefaults name => .markDefaults name

/-- Whether a call marks a bundle as taken in. -/
def Call.IsMark (call : Call) : Prop :=
  ∃ name, call = .markDefaults name

/-- The acts of a request: the change to its environment, and its operation. -/
def Request.acts (request : Request) : List Act :=
  [.move request.environment, .operate request.operation]

/-- The acts that make a call each. -/
def Call.acts (calls : List Call) : List Act :=
  calls.map fun call => .operate call.operation

/-- The fault of an act, if there is one. -/
def Answer.fault? : Answer → Option Fault
  | performed _ fault => fault
  | told (.error fault) | built ⟨_, .error fault⟩ => some fault
  | told (.ok _) | built ⟨_, .ok _⟩ | moved => none

theorem Request.not_isMark_of_mem_calls
    {request : Request}
    {call : Call}
    (member : call ∈ request.calls) :
    ¬call.IsMark := by
  rintro ⟨name, rfl⟩
  simp [Request.calls] at member

/-- A recorder that offers no more than calls, and was given some. -/
def Recorder.called
    (label : TypeLabel)
    (calls : List Call) : Recorder :=
  ⟨label, false, calls.map .called, .empty⟩

namespace HeldRecorder

variable {label : TypeLabel} {calls : List Call}

theorem call_called
    {call : Call}
    (noMark : ¬call.IsMark) :
    AcceptsCalls.call call (.bare (.called label calls) : HeldRecorder) =
      .done (.bare (.called label (calls ++ [call]))) := by
  have recorded : (Recorder.called label calls).record (.called call) =
      .called label (calls ++ [call]) := by
    rw [Recorder.called, Recorder.called, List.map_append]
    rfl
  rw [← recorded]
  cases call with
  | markDefaults name => exact absurd ⟨name, rfl⟩ noMark
  | retryOn | retryOnInstanceOf | retryOnInstanceOrCauseOf | treatAsThrottling
  | maxAttempts => rfl

/-- Calls are recorded one after another. -/
theorem forEach_call_called
    {further : List Call}
    (noMarks : ∀ call ∈ further, ¬call.IsMark) :
    Step.forEach AcceptsCalls.call further (.bare (.called label calls) : HeldRecorder) =
      .done (.bare (.called label (calls ++ further))) := by
  induction further generalizing calls with
  | nil =>
    rw [List.append_nil]
    rfl
  | cons call rest inductionHypothesis =>
    obtain ⟨noMark, restNoMarks⟩ := List.forall_mem_cons.mp noMarks
    rw [Step.forEach_cons, call_called noMark, Step.done_andThen,
      inductionHypothesis restNoMarks, List.append_assoc, List.singleton_append]

theorem addConditions_leaves
    (label : TypeLabel)
    (calls : List Call) :
    (Configuration.addConditions (.bare (.called label calls) : HeldRecorder)).Leaves
      (.bare (.called label (calls ++ Configuration.canonicalCalls))) none := by
  have noMarks : ∀ call ∈ Configuration.canonicalCalls, ¬call.IsMark := by
    intro call member
    have inCalls : call ∈ (Request.mk .empty .addConditions).calls :=
      List.mem_append_left _ member
    exact Request.not_isMark_of_mem_calls inCalls
  rw [Configuration.addConditions, forEach_call_called noMarks, Step.done_andThen]
  exact .reported _ _

/-- A recorder that was given calls is given one for the budget of an override, if there is
one. -/
theorem applyOverride_leaves
    (label : TypeLabel)
    (calls : List Call)
    {env : Environment}
    {override : Option Int}
    (read : Settings.attempts env = .ok override) :
    (Configuration.applyOverride env (.bare (.called label calls) : HeldRecorder)).Leaves
      (.bare (.called label
        (calls ++ override.toList.map fun budget => .maxAttempts (.int budget)))) none := by
  rw [Configuration.applyOverride, read]
  cases override with
  | none =>
    rw [Option.toList_none, List.map_nil, List.append_nil]
    exact .done _
  | some budget =>
    have noMark : ¬(Call.maxAttempts (.int budget)).IsMark := by
      rintro ⟨name, marks⟩
      cases marks
    simp only [call_called noMark, Step.done_andThen]
    exact .reported _ _

/-- No bundle is marked with a recorder that does not remember bundles. -/
theorem markDefaults_leaves
    (label : TypeLabel)
    (calls : List Call)
    (name : Value) :
    (Configuration.markDefaults name (.bare (.called label calls) : HeldRecorder)).Leaves
      (.bare (.called label calls)) none :=
  .done _

/-- A recorder that does not remember bundles takes the canonical one in whenever asked. -/
theorem applySdk_leaves
    (label : TypeLabel)
    (calls : List Call) :
    (Configuration.applySdk (.bare (.called label calls) : HeldRecorder)).Leaves
      (.bare (.called label (calls ++ Configuration.canonicalCalls))) none := by
  have forgets : AcceptsCalls.tracksDefaults (.bare (.called label calls) : HeldRecorder) =
      false := rfl
  rw [Configuration.applySdk, forgets, if_neg Bool.false_ne_true]
  exact (addConditions_leaves label calls).andThen (markDefaults_leaves label _ _)

theorem configure_leaves
    (label : TypeLabel)
    (calls : List Call)
    {env : Environment}
    {override : Option Int}
    (read : Settings.attempts env = .ok override) :
    (Configuration.configure env (.bare (.called label calls) : HeldRecorder)).Leaves
      (.bare (.called label (calls ++ (Configuration.canonicalCalls ++
        override.toList.map fun budget => .maxAttempts (.int budget))))) none := by
  have overridden := (addConditions_leaves label calls).andThen
    (applyOverride_leaves label _ read)
  rw [List.append_assoc] at overridden
  exact overridden.andThen (markDefaults_leaves label _ _)

theorem configure_fails
    (label : TypeLabel)
    (calls : List Call)
    {env : Environment}
    {error : SettingError}
    (unreadable : Settings.attempts env = .error error) :
    (Configuration.configure env (.bare (.called label calls) : HeldRecorder)).Leaves
      (.bare (.called label (calls ++ Configuration.canonicalCalls)))
      (some (.setting error)) := by
  apply Step.Leaves.andThen_of_fault
  exact (addConditions_leaves label calls).andThen
    (Configuration.applyOverride_fails _ unreadable)

/-- A recorder is given the calls of a request, which fails where it cannot read a budget. -/
theorem perform_leaves
    {request : Request}
    (configures : request.operation.Configures)
    (label : TypeLabel)
    (calls : List Call) :
    (request.operation.perform request.environment
        (.bare (.called label calls) : HeldRecorder)).Leaves
      (.bare (.called label (calls ++ request.calls))) request.fault? := by
  obtain ⟨env, operation⟩ := request
  cases configures with
  | addConditions =>
    have noBudget : (Request.mk env .addConditions).budget? = none := rfl
    rw [Request.calls_of_budget?_eq_none noBudget]
    exact addConditions_leaves label calls
  | applySdk =>
    have noBudget : (Request.mk env (.applyDefaults .sdk)).budget? = none := rfl
    rw [Request.calls_of_budget?_eq_none noBudget]
    exact applySdk_leaves label calls
  | configure =>
    cases read : (Request.mk env .configure).override with
    | ok override =>
      rw [Request.fault?_of_ok read, Request.calls_of_ok read]
      exact configure_leaves label calls read
    | error error =>
      rw [Request.fault?_of_error read,
        Request.calls_of_budget?_eq_none (Request.budget?_of_error read)]
      exact configure_fails label calls read

end HeldRecorder

namespace Bench

/-- What every request that configures keeps, with the fault that it tells, a series of such
requests keeps. -/
theorem acts_requests
    {State : Type}
    {advance : State → Request → State}
    {keeps : State → Annotated Held → Prop}
    (step : ∀ state object (request : Request), request.operation.Configures →
      keeps state object →
        keeps (advance state request)
          ((Bench.mk request.environment object).act (.operate request.operation)).1.object ∧
        ((Bench.mk request.environment object).act (.operate request.operation)).2.fault? =
          request.fault?)
    (start : Environment)
    {requests : List Request}
    (configure : ∀ request ∈ requests, request.operation.Configures)
    {state : State}
    {object : Annotated Held}
    (kept : keeps state object) :
    keeps (requests.foldl advance state)
      (acts (requests.flatMap Request.acts) ⟨start, object⟩).1.object ∧
    (acts (requests.flatMap Request.acts) ⟨start, object⟩).2.map Answer.fault? =
      requests.flatMap fun request => [none, request.fault?] := by
  induction requests generalizing start state object with
  | nil => exact ⟨kept, rfl⟩
  | cons request rest inductionHypothesis =>
    obtain ⟨configures, restConfigure⟩ := List.forall_mem_cons.mp configure
    obtain ⟨nextKept, fault⟩ := step state object request configures kept
    obtain ⟨lastKept, faults⟩ :=
      inductionHypothesis request.environment restConfigure nextKept
    refine ⟨lastKept, ?_⟩
    rw [List.flatMap_cons, List.flatMap_cons, ← faults, ← fault]
    rfl

theorem act_operate_ofRecorder
    (env : Environment)
    (recorder : Recorder)
    (operation : Operation) :
    (Bench.mk env (.bare (.recorder recorder))).act (.operate operation) =
      (⟨env, (operation.perform env (.bare recorder : HeldRecorder)).builder.map .recorder⟩,
        .performed (operation.perform env (.bare recorder : HeldRecorder)).events
          (operation.perform env (.bare recorder : HeldRecorder)).fault) := by
  simp only [Bench.act, Annotated.perform, Annotated.bare, Attributes.reach_empty]
  rfl

/-- Calls that succeed one after another are acts that do. -/
theorem acts_calls_ofBuilder
    (env : Environment)
    {calls : List Call}
    {builder last : Builder}
    (leaves : (Step.forEach AcceptsCalls.call calls builder).Leaves last none) :
    (acts (Call.acts calls) (ofBuilder env builder)).1 = ofBuilder env last ∧
    ∀ answer ∈ (acts (Call.acts calls) (ofBuilder env builder)).2, answer.fault? = none := by
  induction calls generalizing builder with
  | nil =>
    obtain rfl : builder = last := leaves.builder
    exact ⟨rfl, List.forall_mem_nil _⟩
  | cons call rest inductionHypothesis =>
    obtain ⟨passes, restLeaves⟩ := leaves.of_andThen
    obtain ⟨ends, restPasses⟩ := inductionHypothesis restLeaves
    have made : builder.perform env call.operation = AcceptsCalls.call call builder := by
      cases call <;> rfl
    have opened : Call.acts (call :: rest) = .operate call.operation :: Call.acts rest := rfl
    rw [opened, acts_cons, act_operate_ofBuilder, made]
    exact ⟨ends, List.forall_mem_cons.mpr ⟨passes, restPasses⟩⟩

/-- Requests leave a recorder with their calls, one after another. -/
theorem acts_requests_ofRecorder
    (label : TypeLabel)
    (start : Environment)
    {requests : List Request}
    (configure : ∀ request ∈ requests, request.operation.Configures) :
    (acts (requests.flatMap Request.acts)
        ⟨start, .bare (.recorder (.called label []))⟩).1.object =
      .bare (.recorder (.called label (requests.flatMap Request.calls))) ∧
    (acts (requests.flatMap Request.acts)
        ⟨start, .bare (.recorder (.called label []))⟩).2.map Answer.fault? =
      requests.flatMap fun request => [none, request.fault?] := by
  have step (calls : List Call) (object : Annotated Held) (request : Request)
      (configures : request.operation.Configures)
      (kept : object = .bare (.recorder (.called label calls))) :
      ((Bench.mk request.environment object).act (.operate request.operation)).1.object =
          .bare (.recorder (.called label (calls ++ request.calls))) ∧
        ((Bench.mk request.environment object).act (.operate request.operation)).2.fault? =
          request.fault? := by
    have leaves := HeldRecorder.perform_leaves configures label calls
    rw [kept, act_operate_ofRecorder, leaves.builder, leaves.fault]
    exact ⟨rfl, rfl⟩
  have given : (.bare (.recorder (.called label [])) : Annotated Held) =
      .bare (.recorder (.called label [])) := rfl
  have inOrder : requests.flatMap Request.calls =
      requests.foldl (fun calls request => calls ++ request.calls) [] :=
    List.flatMap_eq_foldl
  rw [inOrder]
  exact acts_requests step start configure given

/-- Whether an object is a builder that holds what another one does, up to markers, and that
would not be changed by the calls of a bundle that it skips. -/
inductive StandsFor (called : Builder) : Annotated Held → Prop where
  | builder
      {direct : Builder}
      (same : direct.unmarked = called)
      (settled : direct.Settled)
      (tracks : direct.variant.tracksDefaults = true) :
      StandsFor called (.bare (.builder direct))

theorem StandsFor.act
    {called : Builder}
    {object : Annotated Held}
    (stands : StandsFor called object)
    {request : Request}
    (configures : request.operation.Configures) :
    StandsFor (called.called request)
        ((Bench.mk request.environment object).act (.operate request.operation)).1.object ∧
      ((Bench.mk request.environment object).act (.operate request.operation)).2.fault? =
        request.fault? := by
  obtain @⟨direct, rfl, settled, tracks⟩ := stands
  obtain ⟨next, leaves, same, nextSettled, variant⟩ := settled.handle_leaves tracks configures
  have nextTracks : next.variant.tracksDefaults = true := by
    rw [variant]
    exact tracks
  rw [← ofBuilder, act_operate_ofBuilder, ← Builder.handle, leaves.builder]
  exact ⟨.builder same nextSettled nextTracks, leaves.fault⟩

/-- Requests leave a builder with what their calls leave, up to markers. -/
theorem exists_acts_requests_ofBuilder
    (start : Environment)
    {builder : Builder}
    (settled : builder.Settled)
    (tracks : builder.variant.tracksDefaults = true)
    {requests : List Request}
    (configure : ∀ request ∈ requests, request.operation.Configures) :
    ∃ direct,
      (acts (requests.flatMap Request.acts) (ofBuilder start builder)).1.object =
        .bare (.builder direct) ∧
      direct.unmarked = requests.foldl Builder.called builder.unmarked := by
  have stands : StandsFor builder.unmarked (.bare (.builder builder)) :=
    .builder rfl settled tracks
  have step (called : Builder) (object : Annotated Held) (request : Request)
      (configures : request.operation.Configures) (stands : StandsFor called object) :=
    stands.act configures
  obtain ⟨last, _⟩ := acts_requests step start configure stands
  rw [ofBuilder]
  generalize (acts _ _).1.object = object at last ⊢
  obtain @⟨direct, same, _, _⟩ := last
  exact ⟨direct, rfl, same⟩

end Bench

/-- Requests that configure leave a recorder that offers no more than calls with a record of
one block of calls for each, which ends with a budget exactly where configuration reads one;
configuration fails where it cannot read one, and no bundle is ever marked.  The record can be
replayed on every fresh builder, without a fault, and leaves what the requests themselves leave
of one, except for the markers. -/
theorem Recorder.configuration_replays
    (label : TypeLabel)
    (start : Environment)
    {requests : List Request}
    (configure : ∀ request ∈ requests, request.operation.Configures) :
    (Bench.acts (requests.flatMap Request.acts)
        ⟨start, .bare (.recorder (.fresh label false))⟩).1.object =
      .bare (.recorder
        ⟨label, false, (requests.flatMap Request.calls).map .called, .empty⟩) ∧
    (Bench.acts (requests.flatMap Request.acts)
        ⟨start, .bare (.recorder (.fresh label false))⟩).2.map Answer.fault? =
      requests.flatMap (fun request => [none, request.fault?]) ∧
    (∀ call ∈ requests.flatMap Request.calls, ¬call.IsMark) ∧
    ∀ variant ∈ [Variant.standard, .legacy, .adaptive], ∀ env,
      ∃ direct : Builder,
        (Bench.acts (requests.flatMap Request.acts)
          (.ofBuilder start (.fresh variant))).1.object = .bare (.builder direct) ∧
        (Bench.acts (Call.acts (requests.flatMap Request.calls))
          (.ofBuilder env (.fresh variant))).1 =
          .ofBuilder env { direct with defaultsAdded := .empty } ∧
        ∀ answer ∈ (Bench.acts (Call.acts (requests.flatMap Request.calls))
          (.ofBuilder env (.fresh variant))).2, answer.fault? = none := by
  have empty : Recorder.fresh label false = .called label [] := rfl
  obtain ⟨recorded, faults⟩ := Bench.acts_requests_ofRecorder label start configure
  rw [empty]
  refine ⟨recorded, faults, ?unmarked, ?replayed⟩
  case unmarked =>
    intro call member
    obtain ⟨request, _, called⟩ := List.mem_flatMap.mp member
    exact Request.not_isMark_of_mem_calls called
  case replayed =>
    intro variant library env
    have tracks : variant.tracksDefaults = true :=
      (Builder.sound_fresh library).tracksDefaults
    have settled : (Builder.fresh variant).Settled := nofun
    obtain ⟨direct, ended, same⟩ :=
      Bench.exists_acts_requests_ofBuilder start settled tracks configure
    obtain ⟨replayed, passes⟩ := Bench.acts_calls_ofBuilder env
      (Builder.forEach_flatMap_calls_leaves (.fresh variant) requests)
    refine ⟨direct, ended, ?_, passes⟩
    rw [replayed, ← Builder.unmarked, same]
    rfl

/-- Configuration fails, succeeds with a budget of five, and is followed by the canonical
bundle. -/
def Request.recovering : List Request :=
  [⟨⟨[("SDK_MAX_ATTEMPTS", "0")]⟩, .configure⟩, ⟨⟨[("SDK_MAX_ATTEMPTS", "5")]⟩, .configure⟩,
    ⟨.empty, .applyDefaults .sdk⟩]

/-- Three blocks of calls are recorded, of which the second ends with a budget, and replayed on
an adaptive builder, which remembers the bundle only where it was configured itself. -/
theorem Recorder.configuration_replays_recovering :
    (Bench.acts (Request.recovering.flatMap Request.acts)
        ⟨.empty, .bare (.recorder (.fresh Policy.label false))⟩).1.object =
      .bare (.recorder ⟨Policy.label, false,
        (Configuration.canonicalCalls ++ Configuration.canonicalCalls ++
          [Call.maxAttempts (.int 5)] ++ Configuration.canonicalCalls).map .called, .empty⟩) ∧
    (Bench.acts (Request.recovering.flatMap Request.acts)
        ⟨.empty, .bare (.recorder (.fresh Policy.label false))⟩).2.map Answer.fault? =
      [none, some (.setting .belowOne), none, none, none, none] ∧
    ∃ direct : Builder,
      (Bench.acts (Request.recovering.flatMap Request.acts)
        (.ofBuilder .empty (.fresh .adaptive))).1.object = .bare (.builder direct) ∧
      (Bench.acts (Call.acts (Request.recovering.flatMap Request.calls))
        (.ofBuilder .empty (.fresh .adaptive))).1 =
        .ofBuilder .empty { direct with defaultsAdded := .empty } := by
  have configure : ∀ request ∈ Request.recovering, request.operation.Configures := by
    simp only [Request.recovering, List.forall_mem_cons]
    exact ⟨.configure, .configure, .applySdk, nofun⟩
  obtain ⟨recorded, faults, _, replays⟩ :=
    Recorder.configuration_replays Policy.label .empty configure
  have adaptive : Variant.adaptive ∈ [Variant.standard, .legacy, .adaptive] := by simp
  obtain ⟨direct, ended, replayed, _⟩ := replays .adaptive adaptive .empty
  have calls : Request.recovering.flatMap Request.calls =
      Configuration.canonicalCalls ++ Configuration.canonicalCalls ++
        [.maxAttempts (.int 5)] ++ Configuration.canonicalCalls := rfl
  have told : Request.recovering.flatMap (fun request => [none, request.fault?]) =
      [none, some (.setting .belowOne), none, none, none, none] := rfl
  rw [calls] at recorded
  rw [told] at faults
  exact ⟨recorded, faults, direct, ended, replayed⟩

end Retry
