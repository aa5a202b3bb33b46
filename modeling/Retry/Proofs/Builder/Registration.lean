import Retry.Configuration

/-!
# Registration of conditions

A builder holds a condition once, however often it is registered.  The main statement
says that conditions none of which it holds, and none of which comes twice, are held in
the order in which they are registered.
-/

namespace Retry

namespace Step

variable {β : Type}

@[simp] theorem reported_fault
    (builder : β)
    (event : Event) :
    (reported builder event).fault = none := rfl

@[simp] theorem reported_builder
    (builder : β)
    (event : Event) :
    (reported builder event).builder = builder := rfl

/-- A step that is followed by another ends where that one does. -/
theorem andThen_of_none
    {step : Step β}
    (passes : step.fault = none)
    (next : β → Step β) :
    step.andThen next =
      ⟨(next step.builder).builder, step.events ++ (next step.builder).events,
        (next step.builder).fault⟩ := by
  simp only [andThen, passes]

theorem andThen_of_some
    {step : Step β}
    {fault : Fault}
    (fails : step.fault = some fault)
    (next : β → Step β) :
    step.andThen next = step := by
  simp only [andThen, fails]

/-- What a step leaves, and any step after it keeps, is left by both. -/
theorem andThen_keeps
    {keeps : β → Prop}
    {step : Step β}
    (first : keeps step.builder)
    {next : β → Step β}
    (later : ∀ builder, keeps builder → keeps (next builder).builder) :
    keeps (step.andThen next).builder := by
  cases failed : step.fault with
  | some fault =>
    rw [andThen_of_some failed]
    exact first
  | none =>
    rw [andThen_of_none failed]
    exact later _ first

theorem forEach_keeps
    {keeps : β → Prop}
    {α : Type}
    {next : α → β → Step β}
    {items : List α}
    (each : ∀ item ∈ items, ∀ builder, keeps builder → keeps (next item builder).builder)
    {builder : β}
    (start : keeps builder) :
    keeps (forEach next items builder).builder := by
  induction items generalizing builder with
  | nil => exact start
  | cons item rest inductionHypothesis =>
    rw [forEach_cons]
    apply andThen_keeps (each item (List.mem_cons_self ..) builder start)
    intro builder start
    exact inductionHypothesis
      (fun other member => each other (List.mem_cons_of_mem _ member)) start

theorem ofExcept_keeps
    {keeps : β → Prop}
    {α : Type}
    {builder : β}
    (start : keeps builder)
    {write : α → β}
    {checked : Except Fault α}
    (writes : ∀ value, checked = .ok value → keeps (write value)) :
    keeps (ofExcept builder (write <$> checked)).builder := by
  cases checked with
  | error fault => exact start
  | ok value => exact writes value rfl

/-- Whether a step leaves a builder and ends with a fault, or without one, whatever it
reports. -/
structure Leaves
    (step : Step β)
    (builder : β)
    (fault : Option Fault) : Prop where
  builder : step.builder = builder
  fault : step.fault = fault

namespace Leaves

variable {step : Step β} {builder last : β}

theorem done
    (builder : β) :
    (Step.done builder).Leaves builder none :=
  ⟨rfl, rfl⟩

theorem failed
    (builder : β)
    (fault : Fault) :
    (Step.failed builder fault).Leaves builder (some fault) :=
  ⟨rfl, rfl⟩

theorem reported
    (builder : β)
    (event : Event) :
    (Step.reported builder event).Leaves builder none :=
  ⟨rfl, rfl⟩

/-- What a step leaves that follows one without a fault. -/
theorem andThen
    (first : step.Leaves builder none)
    {next : β → Step β}
    {fault : Option Fault}
    (later : (next builder).Leaves last fault) :
    (step.andThen next).Leaves last fault := by
  obtain ⟨rfl, passes⟩ := first
  rw [andThen_of_none passes]
  exact ⟨later.builder, later.fault⟩

/-- Two steps that end without a fault both do. -/
theorem of_andThen
    {next : β → Step β}
    (both : (step.andThen next).Leaves last none) :
    step.fault = none ∧ (next step.builder).Leaves last none := by
  cases fails : step.fault with
  | some fault =>
    rw [andThen_of_some fails] at both
    cases fails.symm.trans both.fault
  | none =>
    rw [andThen_of_none fails] at both
    exact ⟨rfl, both.builder, both.fault⟩

/-- What steps for more items leave that follow those for other items. -/
theorem forEach_append
    {α : Type}
    {next : α → β → Step β}
    {items : List α}
    {start : β}
    (first : (forEach next items start).Leaves builder none)
    {further : List α}
    {fault : Option Fault}
    (later : (forEach next further builder).Leaves last fault) :
    (forEach next (items ++ further) start).Leaves last fault := by
  induction items generalizing start with
  | nil =>
    obtain rfl : start = builder := first.builder
    exact later
  | cons item rest inductionHypothesis =>
    obtain ⟨passes, restLeaves⟩ := first.of_andThen
    have stepLeaves : (next item start).Leaves (next item start).builder none := ⟨rfl, passes⟩
    exact stepLeaves.andThen (inductionHypothesis restLeaves)

/-- Nothing follows a step that ends with a fault. -/
theorem andThen_of_fault
    {fault : Fault}
    (fails : step.Leaves builder (some fault))
    (next : β → Step β) :
    (step.andThen next).Leaves builder (some fault) := by
  rw [andThen_of_some fails.fault]
  exact fails

end Leaves

end Step

namespace Builder

theorem retryOn_of_not_mem
    {builder : Builder}
    {condition : Condition}
    (unregistered : condition ∉ builder.conditions) :
    builder.retryOn condition =
      { builder with conditions := builder.conditions ++ [condition] } := by
  simp [retryOn, unregistered]

/-- Conditions that a builder does not hold yet are held in the order in which they are
registered. -/
theorem foldl_retryOn
    (builder : Builder)
    (conditions : List Condition)
    (distinct : (builder.conditions ++ conditions).Nodup) :
    conditions.foldl retryOn builder =
      { builder with conditions := builder.conditions ++ conditions } := by
  induction conditions generalizing builder with
  | nil => rw [List.foldl_nil, List.append_nil]
  | cons first rest inductionHypothesis =>
    have unregistered : first ∉ builder.conditions := fun member =>
      (List.nodup_append.mp distinct).2.2 first member first (List.mem_cons_self ..) rfl
    rw [List.append_cons] at distinct
    rw [List.foldl_cons, retryOn_of_not_mem unregistered, inductionHypothesis]
    · simp
    · exact distinct

/-- A condition that is registered is put behind the others, unless it was registered
before. -/
theorem conditions_retryOn
    {builder : Builder}
    {registered : List Condition}
    (held : builder.conditions = registered.eraseDups)
    (condition : Condition) :
    (builder.retryOn condition).conditions = (registered ++ [condition]).eraseDups := by
  rw [List.eraseDups_append]
  by_cases known : condition ∈ registered
  · have member : condition ∈ builder.conditions := by
      rwa [held, List.mem_eraseDups]
    simp [retryOn_of_mem member, held, List.removeAll, known]
  · have unregistered : condition ∉ builder.conditions := by
      rwa [held, List.mem_eraseDups]
    simp [retryOn_of_not_mem unregistered, held, List.removeAll, known, List.eraseDups_cons]

/-- Conditions are held where they were first registered. -/
theorem conditions_foldl_retryOn
    {builder : Builder}
    {registered : List Condition}
    (held : builder.conditions = registered.eraseDups)
    (conditions : List Condition) :
    (conditions.foldl retryOn builder).conditions = (registered ++ conditions).eraseDups := by
  induction conditions generalizing builder registered with
  | nil => rw [List.foldl_nil, List.append_nil, held]
  | cons first rest inductionHypothesis =>
    rw [List.foldl_cons, inductionHypothesis (conditions_retryOn held first),
      List.append_assoc, List.singleton_append]

theorem nodup_foldl_retryOn
    {builder : Builder}
    (distinct : builder.conditions.Nodup)
    (conditions : List Condition) :
    (conditions.foldl retryOn builder).conditions.Nodup := by
  induction conditions generalizing builder with
  | nil => exact distinct
  | cons first rest inductionHypothesis =>
    exact inductionHypothesis (nodup_conditions_retryOn distinct first)

theorem mem_foldl_retryOn
    (builder : Builder)
    (conditions : List Condition)
    (other : Condition) :
    other ∈ (conditions.foldl retryOn builder).conditions ↔
      other ∈ builder.conditions ∨ other ∈ conditions := by
  induction conditions generalizing builder with
  | nil => simp
  | cons first rest inductionHypothesis =>
    rw [List.foldl_cons, inductionHypothesis, mem_conditions_retryOn, List.mem_cons, or_assoc]

/-- Conditions that a builder holds are not registered again. -/
theorem foldl_retryOn_of_subset
    {builder : Builder}
    {conditions : List Condition}
    (registered : conditions ⊆ builder.conditions) :
    conditions.foldl retryOn builder = builder := by
  induction conditions with
  | nil => rfl
  | cons first rest inductionHypothesis =>
    obtain ⟨firstRegistered, restRegistered⟩ := List.cons_subset.mp registered
    rw [List.foldl_cons, retryOn_of_mem firstRegistered]
    exact inductionHypothesis restRegistered

/-- Registration of a condition changes the conditions and nothing else. -/
theorem exists_retryOn_eq
    (builder : Builder)
    (condition : Condition) :
    ∃ conditions, builder.retryOn condition = { builder with conditions := conditions } := by
  unfold retryOn
  split
  · exact ⟨builder.conditions, rfl⟩
  · exact ⟨_, rfl⟩

/-- Registration of conditions changes the conditions and nothing else. -/
theorem foldl_retryOn_eq
    (builder : Builder)
    (conditions : List Condition) :
    conditions.foldl retryOn builder =
      { builder with conditions := (conditions.foldl retryOn builder).conditions } := by
  induction conditions generalizing builder with
  | nil => rfl
  | cons first rest inductionHypothesis =>
    obtain ⟨held, registered⟩ := builder.exists_retryOn_eq first
    rw [List.foldl_cons, registered]
    exact inductionHypothesis _

/-- Calls that register conditions register them in order, and leave the builder to the
calls that follow. -/
theorem forEach_call_of_registered?
    (calls rest : List Call)
    (conditions : List Condition)
    (register : calls.map Call.registered? = conditions.map some)
    (builder : Builder) :
    Step.forEach AcceptsCalls.call (calls ++ rest) builder =
      Step.forEach AcceptsCalls.call rest (conditions.foldl retryOn builder) := by
  induction calls generalizing conditions builder with
  | nil =>
    cases conditions with
    | nil => rfl
    | cons => cases register
  | cons call calls inductionHypothesis =>
    cases conditions with
    | nil => cases register
    | cons condition conditions =>
      obtain ⟨registers, restRegister⟩ := List.cons.inj register
      have called : AcceptsCalls.call call builder = .done (builder.retryOn condition) :=
        call_of_registered? registers builder
      rw [List.cons_append, Step.forEach_cons, called, Step.done_andThen, List.foldl_cons]
      exact inductionHypothesis conditions restRegister _

/-- A builder with the canonical conditions registered and their classifier set. -/
def canonical (builder : Builder) : Builder :=
  { Condition.canonical.foldl retryOn builder with classifier := some .throttlingClassifier }

theorem conditions_canonical
    (builder : Builder) :
    builder.canonical.conditions =
      (Condition.canonical.foldl retryOn builder).conditions := by
  rw [canonical]

theorem classifier_canonical
    (builder : Builder) :
    builder.canonical.classifier = some .throttlingClassifier := by
  rw [canonical]

/-- The canonical conditions and their classifier leave the rest of a builder as it is. -/
theorem canonical_eq
    (builder : Builder) :
    builder.canonical =
      { builder with
        conditions := builder.canonical.conditions
        classifier := some .throttlingClassifier } := by
  rw [conditions_canonical, canonical, foldl_retryOn_eq]

/-- The calls of configuration register the canonical conditions and set their
classifier. -/
theorem addConditions_eq
    (builder : Builder) :
    Configuration.addConditions builder =
      .reported builder.canonical (.conditionsAdded builder.variant.builderLabel.name) := by
  rw [Configuration.addConditions, Configuration.canonicalCalls,
    forEach_call_of_registered? _ _ Condition.canonical rfl, Step.forEach_cons, canonical,
    foldl_retryOn_eq]
  rfl

end Builder
end Retry
