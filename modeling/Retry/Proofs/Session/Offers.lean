import Retry.Proofs.Builder.Account
import Retry.Proofs.Session.Lasting

/-!
# Repeated offers

A bundle that marks itself is known to a builder from the first offer on, by its name alone.
The main statement says that later offers under the same name can be left out of a history,
whichever bundle they offer and whatever else is done in between: the builder at its end is
the same.
-/

namespace Retry

namespace Builder

variable {builder : Builder} {name : Value}

/-- Whether every name that is equal to a given one is marked, if it is a key. -/
def Knows
    (builder : Builder)
    (name : Value) : Prop :=
  ∀ other : Value, other.same name = true → other.isKey = true →
    builder.defaultsAdded.contains other = true

theorem Knows.grows
    {later : Builder}
    (knows : builder.Knows name)
    (grows : builder.Grows later) :
    later.Knows name :=
  fun other same key => grows.contains (knows other same key)

/-- A name is known where it is marked. -/
theorem knows_of_contains
    (key : name.isKey = true)
    (contained : builder.defaultsAdded.contains name = true) :
    builder.Knows name := by
  intro other same _
  obtain ⟨value, member, sameValue⟩ := Markers.contains_iff.mp contained
  exact Markers.contains_iff.mpr ⟨value, member, Value.same_trans key same sameValue⟩

theorem knows_of_not_isKey
    (noKey : name.isKey = false) :
    builder.Knows name := by
  intro other same key
  have alike : other.isKey = name.isKey := (Value.Equals.countAlike (Or.inr same)).isKey
  rw [alike, noKey] at key
  cases key

theorem knows_marked
    (builder : Builder)
    (name : Value) :
    (builder.marked name).Knows name := by
  intro other same key
  have alike : other.isKey = name.isKey := (Value.Equals.countAlike (Or.inr same)).isKey
  rw [contains_marked, ← alike, key, same]
  simp

end Builder

/-- Whether a bundle marks itself as taken in. -/
def Defaults.Marks : Defaults → Prop
  | sdk => True
  | own bundle => bundle.marks = true

/-- The last thing that a bundle does which marks itself is to mark its name. -/
theorem Defaults.Marks.effects_eq
    {defaults : Defaults}
    (marks : defaults.Marks)
    {marked : Value → Bool}
    (unmarked : marked defaults.name = false) :
    ∃ before, defaults.effects marked = before ++ [.marker defaults.name] := by
  cases defaults with
  | sdk =>
    have unmarkedSdk : ¬marked (.text sdkDefaults) = true := by
      rw [← Defaults.name, unmarked]
      exact Bool.false_ne_true
    exact ⟨Effect.canonical, if_neg unmarkedSdk⟩
  | own bundle =>
    have marksItself : bundle.marks = true := marks
    refine ⟨bundle.conditions.map .condition, ?_⟩
    rw [Defaults.effects, if_pos marksItself]
    rfl

namespace Builder

variable {builder : Builder}

/-- Offering a bundle that is known, or whose name is no key, changes nothing. -/
theorem addDefaults_of_knows
    (tracks : builder.variant.tracksDefaults = true)
    (env : Environment)
    {defaults : Defaults}
    {name : Value}
    (knows : builder.Knows name)
    (same : defaults.name.same name = true) :
    (builder.perform env (.addDefaults defaults)).builder = builder := by
  have skipped :
      (defaults.name.isKey && !builder.defaultsAdded.contains defaults.name) = false := by
    cases key : defaults.name.isKey with
    | false => rfl
    | true => rw [knows defaults.name same key, Bool.not_true, Bool.and_false]
  rw [builder_perform tracks, Operation.effects, skipped]
  rfl

/-- A bundle that marks itself is known once it was offered. -/
theorem knows_addDefaults
    (tracks : builder.variant.tracksDefaults = true)
    (env : Environment)
    {defaults : Defaults}
    (marks : defaults.Marks) :
    (builder.perform env (.addDefaults defaults)).builder.Knows defaults.name := by
  cases key : defaults.name.isKey with
  | false => exact knows_of_not_isKey key
  | true =>
    cases contained : builder.defaultsAdded.contains defaults.name with
    | true => exact (knows_of_contains key contained).grows (grows_perform env _ builder)
    | false =>
      obtain ⟨before, effects⟩ := marks.effects_eq contained
      rw [builder_perform tracks, Operation.effects, key, contained]
      simp only [Bool.not_false, Bool.and_true, if_true, effects, takeAll_append]
      exact knows_marked _ _

end Builder

/-- What is done with a builder that goes on as a builder: an act, or a fork, which is the
builder that starts from the strategy it builds. -/
inductive Turn where
  | doing (act : Act)
  | forking

namespace Turn

/-- The moves of a turn. -/
def moves : Turn → List Move
  | doing act => [.doing act]
  | forking => [.toStrategy, .toBuilder]

/-- The bundle that a turn offers, if it offers one. -/
def offered? : Turn → Option Defaults
  | doing (.operate (.addDefaults defaults)) => some defaults
  | _ => none

/-- The turns without those that offer a bundle under a name that was offered before, in
these turns or among given names. -/
def withoutRepeats (names : List Value) : List Turn → List Turn
  | [] => []
  | turn :: rest =>
    match turn.offered? with
    | none => turn :: withoutRepeats names rest
    | some defaults =>
      let later := withoutRepeats (defaults.name :: names) rest
      if names.any defaults.name.same then later else turn :: later

theorem withoutRepeats_of_none
    {turn : Turn}
    (offers : turn.offered? = none)
    (names : List Value)
    (rest : List Turn) :
    withoutRepeats names (turn :: rest) = turn :: withoutRepeats names rest := by
  rw [withoutRepeats, offers]

theorem withoutRepeats_of_some
    {turn : Turn}
    {defaults : Defaults}
    (offers : turn.offered? = some defaults)
    (names : List Value)
    (rest : List Turn) :
    withoutRepeats names (turn :: rest) =
      if names.any defaults.name.same then withoutRepeats (defaults.name :: names) rest
      else turn :: withoutRepeats (defaults.name :: names) rest := by
  rw [withoutRepeats, offers]

theorem eq_of_offered?
    {turn : Turn}
    {defaults : Defaults}
    (offers : turn.offered? = some defaults) :
    turn = .doing (.operate (.addDefaults defaults)) := by
  match turn, offers with
  | doing (.operate (.addDefaults _)), rfl => rfl

end Turn

namespace Bench

variable {builder : Builder}

theorem goAll_operate_ofBuilder
    (env : Environment)
    (builder : Builder)
    (operation : Operation) :
    (ofBuilder env builder).goAll (Turn.doing (.operate operation)).moves =
      ofBuilder env (builder.perform env operation).builder := by
  show ((ofBuilder env builder).act (.operate operation)).1 = _
  rw [act_operate_ofBuilder]

/-- A fork of a sound builder is a sound builder that has lost nothing; one that cannot be
built leaves the builder that there is. -/
theorem exists_goAll_forking
    (env : Environment)
    (sound : builder.Sound) :
    ∃ next, (ofBuilder env builder).goAll Turn.forking.moves = ofBuilder env next ∧
      next.Sound ∧ builder.Grows next := by
  have built : (ofBuilder env builder).object.build = builder.build :=
    Annotated.build_bare sound.classifier
  show ∃ next, ((ofBuilder env builder).go .toStrategy).go .toBuilder = _ ∧ _
  cases builds : builder.build.outcome with
  | error fault =>
    have stays : (ofBuilder env builder).go .toStrategy = ofBuilder env builder := by
      rw [go, built, builds]
    rw [stays]
    exact ⟨builder, rfl, sound, .refl builder⟩
  | ok strategy =>
    obtain ⟨fork, starts, forkSound, pair⟩ := sound.matches_fork builds
    have finished : (ofBuilder env builder).go .toStrategy =
        ⟨env, .bare (.retrier (.strategy strategy))⟩ := by
      rw [go, built, builds]
      rfl
    have started : go ⟨env, .bare (.retrier (.strategy strategy))⟩ .toBuilder =
        ofBuilder env fork := by
      rw [go, Annotated.toBuilder_bare, starts]
      rfl
    have same := Builder.Grows.refl builder
    rw [finished, started]
    refine ⟨fork, rfl, forkSound, ?_⟩
    cases pair with
    | same => exact same
    | settled => exact ⟨same.conditions, same.markers⟩

/-- A turn leaves a sound builder, which has lost nothing. -/
theorem exists_goAll_moves
    (env : Environment)
    (sound : builder.Sound)
    (turn : Turn) :
    ∃ there next, (ofBuilder env builder).goAll turn.moves = ofBuilder there next ∧
      next.Sound ∧ builder.Grows next := by
  cases turn with
  | forking => exact ⟨env, exists_goAll_forking env sound⟩
  | doing act =>
    cases act with
    | operate operation =>
      exact ⟨env, _, goAll_operate_ofBuilder env builder operation,
        sound.perform env operation, Builder.grows_perform env operation builder⟩
    | ask name => exact ⟨env, builder, rfl, sound, .refl builder⟩
    | move other => exact ⟨other, builder, rfl, sound, .refl builder⟩
    | build => exact ⟨env, builder, rfl, sound, .refl builder⟩

theorem goAll_append
    (first second : List Move)
    (bench : Bench) :
    bench.goAll (first ++ second) = (bench.goAll first).goAll second :=
  List.foldl_append ..

/-- Where all names that were offered before are known, offers under these names change
nothing. -/
theorem goAll_withoutRepeats
    (env : Environment)
    (sound : builder.Sound)
    {names : List Value}
    (known : ∀ name ∈ names, builder.Knows name)
    {turns : List Turn}
    (marking : ∀ turn ∈ turns, ∀ defaults, turn.offered? = some defaults → defaults.Marks) :
    ∃ there last,
      (ofBuilder env builder).goAll (turns.flatMap Turn.moves) = ofBuilder there last ∧
      (ofBuilder env builder).goAll ((Turn.withoutRepeats names turns).flatMap Turn.moves) =
        ofBuilder there last := by
  -- Which offers are left out depends on the names before them, so these vary in the
  -- induction.
  induction turns generalizing env builder names with
  | nil => exact ⟨env, builder, rfl, rfl⟩
  | cons turn rest inductionHypothesis =>
    have restMarking : ∀ turn ∈ rest, ∀ defaults, turn.offered? = some defaults →
        defaults.Marks :=
      fun other member => marking other (List.mem_cons_of_mem _ member)
    cases offers : turn.offered? with
    | none =>
      obtain ⟨there, next, went, nextSound, grows⟩ := exists_goAll_moves env sound turn
      have stillKnown : ∀ name ∈ names, next.Knows name :=
        fun name member => (known name member).grows grows
      obtain ⟨atEnd, last, whole, reduced⟩ :=
        inductionHypothesis there nextSound stillKnown restMarking
      refine ⟨atEnd, last, ?_, ?_⟩
      · rw [List.flatMap_cons, goAll_append, went, whole]
      · rw [Turn.withoutRepeats_of_none offers, List.flatMap_cons, goAll_append, went, reduced]
    | some defaults =>
      obtain rfl := Turn.eq_of_offered? offers
      have went := goAll_operate_ofBuilder env builder (.addDefaults defaults)
      have knownNext : ∀ name ∈ defaults.name :: names,
          (builder.perform env (.addDefaults defaults)).builder.Knows name := by
        rw [List.forall_mem_cons]
        have marks : defaults.Marks := marking _ (List.mem_cons_self ..) defaults offers
        refine ⟨Builder.knows_addDefaults sound.tracksDefaults env marks, ?_⟩
        intro name member
        exact (known name member).grows (Builder.grows_perform env _ builder)
      obtain ⟨atEnd, last, whole, reduced⟩ :=
        inductionHypothesis env (sound.perform env _) knownNext restMarking
      refine ⟨atEnd, last, ?_, ?_⟩
      · rw [List.flatMap_cons, goAll_append, went, whole]
      · rw [Turn.withoutRepeats_of_some offers]
        split
        · rename_i repeated
          obtain ⟨name, member, same⟩ := List.any_eq_true.mp repeated
          rw [Builder.addDefaults_of_knows sound.tracksDefaults env (known name member) same]
            at reduced
          exact reduced
        · rw [List.flatMap_cons, goAll_append, went, reduced]

end Bench

/-- In a history of a builder that goes on as a builder, through whatever acts and forks and
in whatever environments, each bundle that is offered marking itself, the offers under a name
that was offered before can be left out: the builder at the end is the same. -/
theorem Held.IsStart.repeated_offers_change_nothing
    {env : Environment}
    {builder : Builder}
    (isStart : Held.IsStart env (.builder builder))
    {turns : List Turn}
    (marking : ∀ turn ∈ turns, ∀ defaults, turn.offered? = some defaults → defaults.Marks) :
    ∃ there last,
      (Bench.ofBuilder env builder).goAll (turns.flatMap Turn.moves) =
        .ofBuilder there last ∧
      (Bench.ofBuilder env builder).goAll
        ((Turn.withoutRepeats [] turns).flatMap Turn.moves) = .ofBuilder there last := by
  obtain ⟨held, holds, sound⟩ := isStart.holds
  obtain ⟨rfl⟩ : held = builder := by
    cases holds
    rfl
  exact Bench.goAll_withoutRepeats env sound (List.forall_mem_nil _) marking

/-- The offer of a bundle of one condition that marks itself. -/
def Turn.offer (name condition : String) : Turn :=
  .doing (.operate (.addDefaults (.own ⟨.text name, [.user condition], true⟩)))

/-- Two bundles share a name, with a fork between their offers, and the canonical bundle is
offered twice after configuration. -/
def Turn.repeating : List Turn :=
  [offer "mine" "first", .forking, offer "mine" "second", .doing (.operate .configure),
    .doing (.operate (.addDefaults .sdk)), .doing (.operate (.addDefaults .sdk))]

theorem Turn.withoutRepeats_repeating :
    withoutRepeats [] repeating =
      [offer "mine" "first", .forking, .doing (.operate .configure),
        .doing (.operate (.addDefaults .sdk))] := by
  simp [repeating, offer, withoutRepeats, offered?, Defaults.name, sdkDefaults]

/-- Nothing comes of the second offers, and the second bundle's condition is not asked. -/
theorem Held.IsStart.repeated_offers_repeating :
    ∃ there last,
      (Bench.ofBuilder .empty (.fresh .standard)).goAll
        (Turn.repeating.flatMap Turn.moves) = .ofBuilder there last ∧
      (Bench.ofBuilder .empty (.fresh .standard)).goAll
        ([Turn.offer "mine" "first", .forking, .doing (.operate .configure),
          .doing (.operate (.addDefaults .sdk))].flatMap Turn.moves) =
        .ofBuilder there last ∧
      last.conditions = .user "first" :: Condition.canonical := by
  have isStart : Held.IsStart .empty (.builder (.fresh .standard)) :=
    .origin (.fresh (List.mem_cons_self ..))
  have marking : ∀ turn ∈ Turn.repeating, ∀ defaults, turn.offered? = some defaults →
      defaults.Marks := by
    simp [Turn.repeating, Turn.offer, Turn.offered?, Defaults.Marks]
  obtain ⟨there, last, whole, reduced⟩ := isStart.repeated_offers_change_nothing marking
  rw [Turn.withoutRepeats_repeating] at reduced
  refine ⟨there, last, whole, reduced, ?_⟩
  have conditions : ((Bench.ofBuilder .empty (.fresh .standard)).goAll
      ([Turn.offer "mine" "first", .forking, .doing (.operate .configure),
        .doing (.operate (.addDefaults .sdk))].flatMap Turn.moves)).object.object.conditions =
      .user "first" :: Condition.canonical := by
    decide +kernel
  rw [reduced] at conditions
  exact conditions

end Retry
