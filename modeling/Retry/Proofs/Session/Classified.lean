import Retry.Proofs.Builder.Classified
import Retry.Proofs.Session.History

/-!
# Builders that miss a classifier

Adaptive strategies need a classifier of throttled failures.  The main statement says which
histories of a builder leave it without one, and that nothing else keeps a builder from
building a strategy, as long as the names by which bundles are marked are texts.
-/

namespace Retry

namespace Act

/-- The classifier that an act registers, if it registers one. -/
def classifier? (marked : Bool) : Act → Option (Option Condition)
  | operate operation => operation.classifier? marked
  | ask _ | move _ | build => none

/-- Whether all names by which an act marks bundles are texts. -/
def MarksTexts : Act → Prop
  | operate operation => operation.MarksTexts
  | ask _ | move _ | build => True

end Act

namespace Bench

/-- Whether the canonical bundle is marked with what a bench holds. -/
def isMarked (bench : Bench) : Bool :=
  bench.object.object.markers.contains (.text sdkDefaults)

/-- The classifiers that acts register, in order. -/
def classifiers : List Act → Bench → List (Option Condition)
  | [], _ => []
  | first :: rest, bench =>
    (first.classifier? bench.isMarked).toList ++ classifiers rest (bench.act first).1

/-- Whether a bench holds a sound builder of a variant whose markers are texts and whose
classifier is the given one. -/
inductive HoldsClassified (variant : Variant) (classifier : Option Condition) : Bench → Prop where
  | intro
      (env : Environment)
      {builder : Builder}
      (sound : builder.Sound)
      (texts : builder.defaultsAdded.AreTexts)
      (ofVariant : builder.variant = variant)
      (classified : builder.classifier = classifier) :
      HoldsClassified variant classifier (ofBuilder env builder)

variable {variant : Variant} {classifier : Option Condition} {bench : Bench}

/-- An act leaves the classifier that it registers, or else the one that was there. -/
theorem HoldsClassified.act
    (holds : bench.HoldsClassified variant classifier)
    {act : Act}
    (marksTexts : act.MarksTexts) :
    (bench.act act).1.HoldsClassified variant
      ((act.classifier? bench.isMarked).getD classifier) := by
  obtain ⟨env, sound, texts, ofVariant, classified⟩ := holds
  cases act with
  | operate operation =>
    rw [act_operate_ofBuilder]
    refine .intro env (sound.perform env operation)
      (Builder.areTexts_perform sound.tracksDefaults texts marksTexts env) ?_ ?_
    · rw [Builder.variant_perform]
      exact ofVariant
    · rw [Builder.classifier_perform sound.tracksDefaults, classified]
      rfl
  | ask name => exact .intro env sound texts ofVariant classified
  | move other => exact .intro other sound texts ofVariant classified
  | build => exact .intro env sound texts ofVariant classified

/-- Acts leave the classifier that was registered last, or else the one that was there. -/
theorem HoldsClassified.acts
    (holds : bench.HoldsClassified variant classifier)
    {history : List Act}
    (marksTexts : ∀ act ∈ history, act.MarksTexts) :
    (Bench.acts history bench).1.HoldsClassified variant
      ((classifiers history bench).getLastD classifier) := by
  induction history generalizing bench classifier with
  | nil => exact holds
  | cons first rest inductionHypothesis =>
    obtain ⟨firstTexts, restTexts⟩ := List.forall_mem_cons.mp marksTexts
    have last := inductionHypothesis (holds.act firstTexts) restTexts
    rw [acts_cons, classifiers]
    cases registers : first.classifier? bench.isMarked with
    | none =>
      rw [registers] at last
      exact last
    | some given =>
      rw [registers] at last
      rw [Option.toList_some, List.singleton_append, List.getLastD_cons]
      exact last

/-- What is built comes down to the variant and the classifier. -/
theorem HoldsClassified.build
    (holds : bench.HoldsClassified variant classifier)
    (concrete : variant.isConcrete = true) :
    if variant.needsClassifier && classifier.isNone then
      bench.object.build.outcome = .error .missingClassifier
    else
      ∃ strategy, bench.object.build.outcome = .ok strategy ∧
        strategy.plan.rules.classifier = Condition.classifierOf classifier := by
  obtain ⟨env, sound, texts, rfl, rfl⟩ := holds
  obtain ⟨_, _, built⟩ := Builder.build_of_areTexts texts concrete
  rw [ofBuilder, Annotated.build_bare sound.classifier, built]
  split
  · rfl
  · exact ⟨_, rfl, rfl⟩

end Bench

/-- After any history of a fresh builder, whatever fails in it, the builder misses a
classifier exactly where it is an adaptive one and none was registered, or no classifier was
registered last.  It builds a strategy in all other cases, with the classifier that was
registered last, if it counts as true, or one that never picks the throttled tier, and it goes
on as if it had not been asked to build. -/
theorem Variant.build_iff_classified
    {variant : Variant}
    (library : variant ∈ [standard, legacy, adaptive])
    (start : Environment)
    {history : List Act}
    (marksTexts : ∀ act ∈ history, act.MarksTexts)
    {bench : Bench}
    (reached : (Bench.acts history (.ofBuilder start (.fresh variant))).1 = bench)
    {registered : List (Option Condition)}
    (registers : Bench.classifiers history (.ofBuilder start (.fresh variant)) = registered) :
    (bench.object.build.outcome = .error .missingClassifier ↔
      variant = adaptive ∧ (registered = [] ∨ registered.getLast? = some none)) ∧
    (∀ fault, bench.object.build.outcome = .error fault → fault = .missingClassifier) ∧
    (∀ strategy, bench.object.build.outcome = .ok strategy →
      strategy.plan.rules.classifier = Condition.classifierOf registered.getLast?.join) ∧
    (variant ≠ adaptive → ∃ strategy, bench.object.build.outcome = .ok strategy) ∧
    ∀ further,
      Bench.acts (.build :: further) bench =
        ((Bench.acts further bench).1,
          .built bench.object.build :: (Bench.acts further bench).2) := by
  have fresh : (Bench.ofBuilder start (.fresh variant)).HoldsClassified variant none :=
    .intro start (Builder.sound_fresh library) Markers.areTexts_empty rfl rfl
  have holds := fresh.acts marksTexts
  have concrete : variant.isConcrete = true := by
    rcases eq_of_library library with rfl | rfl | rfl <;> rfl
  have needs : variant.needsClassifier = true ↔ variant = adaptive := by
    constructor
    · intro needed
      rcases eq_of_library library with rfl | rfl | rfl
      · cases needed
      · cases needed
      · rfl
    · rintro rfl
      rfl
  have last : registered.getLastD none = registered.getLast?.join := by
    rw [List.getLastD_eq_getLast?]
    cases registered.getLast? <;> rfl
  have unclassified : registered.getLast?.join = none ↔
      registered = [] ∨ registered.getLast? = some none := by
    rw [Option.join_eq_none_iff, List.getLast?_eq_none_iff]
  rw [reached, registers, last] at holds
  have missing : (variant.needsClassifier && registered.getLast?.join.isNone) = true ↔
      variant = adaptive ∧ registered.getLast?.join = none := by
    rw [Bool.and_eq_true, needs, Option.isNone_iff_eq_none]
  have built := holds.build concrete
  by_cases misses : variant = adaptive ∧ registered.getLast?.join = none
  · rw [if_pos (missing.mpr misses)] at built
    refine ⟨?_, ?_, ?_, fun other => absurd misses.1 other, fun _ => rfl⟩
    · rw [built, ← unclassified]
      exact ⟨fun _ => misses, fun _ => rfl⟩
    · intro fault fails
      rw [built] at fails
      cases fails
      rfl
    · intro strategy builds
      rw [built] at builds
      cases builds
  · rw [if_neg (misses ∘ missing.mp)] at built
    obtain ⟨strategy, builds, classified⟩ := built
    refine ⟨?_, ?_, ?_, fun _ => ⟨strategy, builds⟩, fun _ => rfl⟩
    · rw [builds, ← unclassified]
      exact ⟨nofun, fun missed => absurd missed misses⟩
    · intro fault fails
      rw [builds] at fails
      cases fails
    · intro other otherBuilds
      rw [builds] at otherBuilds
      cases otherBuilds
      exact classified

/-- An adaptive builder whose canonical bundle was marked by hand does not take it in, and
misses a classifier; one that failed to be configured with a budget of no number has one. -/
theorem Variant.build_after_mark_and_misconfiguration :
    (Bench.acts
      [.operate (.markDefaults (.text "sdk")), .operate (.applyDefaults .sdk)]
      (.ofBuilder .empty (.fresh adaptive))).1.object.build.outcome =
        .error .missingClassifier ∧
    ∃ strategy,
      (Bench.acts
        [.operate (.markDefaults (.mode .legacy)), .build, .operate (.markDefaults (.text "a")),
          .move ⟨[("SDK_MAX_ATTEMPTS", "zero")]⟩, .operate .configure]
        (.ofBuilder .empty (.fresh adaptive))).1.object.build.outcome = .ok strategy ∧
      strategy.plan.rules.classifier = .throttlingClassifier := by
  have library : adaptive ∈ [standard, legacy, adaptive] := by simp
  constructor
  · have texts : ∀ act ∈ [Act.operate (.markDefaults (.text "sdk")),
        .operate (.applyDefaults .sdk)], act.MarksTexts := by
      simp [Act.MarksTexts, Operation.MarksTexts, Value.text?, Defaults.name]
    have unclassified : Bench.classifiers
        [.operate (.markDefaults (.text "sdk")), .operate (.applyDefaults .sdk)]
        (.ofBuilder .empty (.fresh adaptive)) = [] := rfl
    exact (build_iff_classified library .empty texts rfl unclassified).1.mpr
      ⟨rfl, Or.inl rfl⟩
  · have texts : ∀ act ∈ [Act.operate (.markDefaults (.mode .legacy)), .build,
        .operate (.markDefaults (.text "a")), .move ⟨[("SDK_MAX_ATTEMPTS", "zero")]⟩,
        .operate .configure], act.MarksTexts := by
      simp [Act.MarksTexts, Operation.MarksTexts, Value.text?]
    have classified : Bench.classifiers
        [.operate (.markDefaults (.mode .legacy)), .build, .operate (.markDefaults (.text "a")),
          .move ⟨[("SDK_MAX_ATTEMPTS", "zero")]⟩, .operate .configure]
        (.ofBuilder .empty (.fresh adaptive)) = [some .throttlingClassifier] := rfl
    obtain ⟨misses, fails, classifies, _⟩ :=
      build_iff_classified library .empty texts rfl classified
    cases built : (Bench.acts
        [.operate (.markDefaults (.mode .legacy)), .build, .operate (.markDefaults (.text "a")),
          .move ⟨[("SDK_MAX_ATTEMPTS", "zero")]⟩, .operate .configure]
        (.ofBuilder .empty (.fresh adaptive))).1.object.build.outcome with
    | ok strategy => exact ⟨strategy, rfl, classifies strategy built⟩
    | error fault =>
      rw [fails fault built] at built
      obtain ⟨_, empty | unset⟩ := misses.mp built
      · cases empty
      · cases unset

/-- A classifier that counts as false itself is the one that was registered last, but not the
one that a strategy gets. -/
theorem Variant.build_drops_hollow :
    Bench.classifiers [.operate (.treatAsThrottling (.hollow "limits"))]
        (.ofBuilder .empty (.fresh standard)) = [some (.hollow "limits")] ∧
      ∃ strategy,
        (Bench.acts [.operate (.treatAsThrottling (.hollow "limits"))]
          (.ofBuilder .empty (.fresh standard))).1.object.build.outcome = .ok strategy ∧
        strategy.plan.rules.classifier = .neverThrottling :=
  ⟨rfl, _, rfl, rfl⟩

end Retry
