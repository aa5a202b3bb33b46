import Retry.Failure.Classification

/-!
# Which class answers

A question to a failure of the taxonomy that holds no answer itself is answered by the
first class of its lineage that has an answer.  Every class stands once in a lineage, and
before the classes it extends, so the taxonomy's own answer is that of the class furthest
from the root, whatever other classes are mixed in.  The main statements say which
rule this is for service failures, client failures and the rest.
-/

namespace Retry

theorem Layer.eq_known_of_ref
    {layer : Layer}
    {known : KnownClass}
    (named : layer.ref = .known known) :
    layer = .known known := by
  cases layer with
  | known other =>
    injection named with same
    rw [same]
  | defined definition => cases named

theorem Layer.mem_of_ref_mem
    {layers : List Layer}
    {known : KnownClass}
    (named : ClassRef.known known ∈ layers.map Layer.ref) :
    Layer.known known ∈ layers := by
  obtain ⟨layer, member, same⟩ := List.mem_map.mp named
  exact Layer.eq_known_of_ref same ▸ member

/-- The classes that a class of a lineage directly extends are in the lineage. -/
theorem ParentsFollow.parent_mem
    {layers : List Layer}
    (follow : ParentsFollow layers)
    {known parent : KnownClass}
    (member : Layer.known known ∈ layers)
    (extended : parent ∈ known.parents) :
    Layer.known parent ∈ layers := by
  induction layers with
  | nil => cases member
  | cons layer rest inductionHypothesis =>
    obtain ⟨parentsFollow, restFollow⟩ := follow
    rcases List.mem_cons.mp member with rfl | later
    · have named : ClassRef.known parent ∈ rest.map Layer.ref :=
        parentsFollow _ (List.mem_map.mpr ⟨parent, extended, rfl⟩)
      exact List.mem_cons_of_mem _ (Layer.mem_of_ref_mem named)
    · exact List.mem_cons_of_mem _ (inductionHypothesis restFollow later)

namespace FailureClass

theorem isA_iff
    (cls : FailureClass)
    (known : KnownClass) :
    cls.isA known = true ↔ Layer.known known ∈ cls.lineage := by
  constructor
  · intro isA
    obtain ⟨layer, member, same⟩ := List.any_eq_true.mp isA
    exact Layer.eq_known_of_ref (of_decide_eq_true same) ▸ member
  · intro member
    exact List.any_eq_true.mpr ⟨_, member, decide_eq_true rfl⟩

/-- A class that is or extends a known one is or extends what that one extends. -/
theorem isA_parent
    {cls : FailureClass}
    {known parent : KnownClass}
    (isA : cls.isA known = true)
    (extended : parent ∈ known.parents) :
    cls.isA parent = true := by
  rw [isA_iff] at isA ⊢
  exact cls.parents_follow.parent_mem isA extended

theorem isA_sdkError_of_client
    {cls : FailureClass}
    (client : cls.isA .clientError = true) :
    cls.isA .sdkError = true :=
  isA_parent client (List.mem_singleton.mpr rfl)

theorem isA_sdkError_of_service
    {cls : FailureClass}
    (service : cls.isA .serviceError = true) :
    cls.isA .sdkError = true :=
  isA_parent service (List.mem_singleton.mpr rfl)

/-- The rule that the lineage of a class has for a question, if it has one. -/
def rule?
    (cls : FailureClass)
    (question : Question) : Option Rule :=
  cls.lineage.findSome? (Layer.rule? question)

/-- Whether it is a client's class that answers a question in place of the
taxonomy. -/
def overrides
    (cls : FailureClass)
    (question : Question) : Bool :=
  match cls.rule? question with
  | some (.overridden _) => true
  | _ => false

end FailureClass

/-- The first rule of a lineage, where no client's class comes before it: that of a
known class, if the others that have one are classes it directly extends. -/
theorem Layer.findSome?_rule?
    {layers : List Layer}
    (follow : ParentsFollow layers)
    (distinct : (layers.map Layer.ref).Nodup)
    {question : Question}
    (kept : ∀ override,
      layers.findSome? (Layer.rule? question) ≠ some (.overridden override))
    {known : KnownClass}
    {rule : Rule}
    (present : Layer.known known ∈ layers)
    (answers : (Layer.known known).rule? question = some rule)
    (others : ∀ other, Layer.known other ∈ layers →
      ((Layer.known other).rule? question).isSome → other = known ∨ other ∈ known.parents) :
    layers.findSome? (Layer.rule? question) = some rule := by
  induction layers with
  | nil => cases present
  | cons layer rest inductionHypothesis =>
    obtain ⟨_, restFollow⟩ := follow
    obtain ⟨absent, restDistinct⟩ := List.nodup_cons.mp distinct
    rw [List.findSome?_cons] at kept ⊢
    cases own : layer.rule? question with
    | none =>
      rw [own] at kept
      have later : Layer.known known ∈ rest := by
        rcases List.mem_cons.mp present with rfl | later
        · rw [own] at answers
          cases answers
        · exact later
      exact inductionHypothesis restFollow restDistinct kept later fun other member =>
        others other (List.mem_cons_of_mem _ member)
    | some first =>
      rw [own] at kept
      cases layer with
      | defined definition =>
        obtain ⟨override, _, same⟩ := Option.map_eq_some_iff.mp own
        exact absurd (congrArg some same.symm) (kept override)
      | known other =>
        have answered : ((Layer.known other).rule? question).isSome := by simp [own]
        rcases others other (List.mem_cons_self ..) answered with rfl | extended
        · exact own.symm.trans answers
        · -- A class that `known` extends stands behind it, and nowhere else.
          exfalso
          apply absent
          rcases List.mem_cons.mp present with same | later
          · injection same with same
            subst same
            exact absurd extended (by cases known <;> decide)
          · exact List.mem_map.mpr ⟨_, restFollow.parent_mem later extended, rfl⟩

namespace FailureClass

variable {cls : FailureClass}

theorem rule?_ne_overridden
    {question : Question}
    (kept : cls.overrides question = false)
    (override : Override) :
    cls.rule? question ≠ some (.overridden override) := by
  intro overridden
  simp [overrides, overridden] at kept

/-- The rule of a class where the taxonomy answers, by the class of the taxonomy that
is furthest from the root. -/
theorem rule?_eq
    {question : Question}
    (kept : cls.overrides question = false)
    {known : KnownClass}
    {rule : Rule}
    (isA : cls.isA known = true)
    (answers : (Layer.known known).rule? question = some rule)
    (others : ∀ other, cls.isA other = true →
      ((Layer.known other).rule? question).isSome → other = known ∨ other ∈ known.parents) :
    cls.rule? question = some rule :=
  Layer.findSome?_rule? cls.parents_follow cls.distinct (rule?_ne_overridden kept)
    ((isA_iff cls known).mp isA) answers fun other member =>
      others other ((isA_iff cls other).mpr member)

/-- The known classes that answer a question. -/
theorem answers_iff
    (known : KnownClass)
    (question : Question) :
    ((Layer.known known).rule? question).isSome ↔
      known = .serviceError ∨
        question = .retryable ∧ (known = .sdkError ∨ known = .clientError) := by
  cases known <;> cases question <;> simp [Layer.rule?]

/-- A service failure that is no client failure answers by the service's rules. -/
theorem rule?_of_service
    {question : Question}
    (kept : cls.overrides question = false)
    (service : cls.isA .serviceError = true)
    (notClient : cls.isA .clientError = false) :
    cls.rule? question = (Layer.known .serviceError).rule? question := by
  refine rule?_eq kept service rfl ?_
  intro other isA answered
  rcases (answers_iff other question).mp answered with rfl | ⟨_, rfl | rfl⟩
  · exact Or.inl rfl
  · exact Or.inr (List.mem_singleton.mpr rfl)
  · rw [isA] at notClient
    cases notClient

/-- A client failure that is no service failure answers by its flag or its cause. -/
theorem rule?_retryable_of_client
    (kept : cls.overrides .retryable = false)
    (client : cls.isA .clientError = true)
    (notService : cls.isA .serviceError = false) :
    cls.rule? .retryable = some .flagOrCause := by
  refine rule?_eq kept client rfl ?_
  intro other isA answered
  rcases (answers_iff other .retryable).mp answered with rfl | ⟨_, rfl | rfl⟩
  · rw [isA] at notService
    cases notService
  · exact Or.inr (List.mem_singleton.mpr rfl)
  · exact Or.inl rfl

/-- A failure of the taxonomy that is of neither branch of it never answers yes. -/
theorem rule?_retryable_of_root
    (kept : cls.overrides .retryable = false)
    (sdk : cls.isA .sdkError = true)
    (notClient : cls.isA .clientError = false)
    (notService : cls.isA .serviceError = false) :
    cls.rule? .retryable = some .never := by
  refine rule?_eq kept sdk rfl ?_
  intro other isA answered
  rcases (answers_iff other .retryable).mp answered with rfl | ⟨_, rfl | rfl⟩
  · rw [isA] at notService
    cases notService
  · exact Or.inl rfl
  · rw [isA] at notClient
    cases notClient

/-- A question that a known class in the lineage answers has a rule. -/
theorem exists_rule?
    (question : Question)
    {known : KnownClass}
    (isA : cls.isA known = true)
    (answered : ((Layer.known known).rule? question).isSome) :
    ∃ rule, cls.rule? question = some rule := by
  apply Option.isSome_iff_exists.mp
  exact List.findSome?_isSome_iff.mpr ⟨_, (isA_iff cls known).mp isA, answered⟩

/-- A rule that is not a client's own is that of a known class in the lineage. -/
theorem known_of_rule?
    {question : Question}
    {rule : Rule}
    (found : cls.rule? question = some rule)
    (kept : ∀ override, rule ≠ .overridden override) :
    ∃ known, cls.isA known = true ∧ (Layer.known known).rule? question = some rule := by
  obtain ⟨layer, member, answers⟩ := List.exists_of_findSome?_eq_some found
  cases layer with
  | known known => exact ⟨known, (isA_iff cls known).mpr member, answers⟩
  | defined definition =>
    obtain ⟨override, _, same⟩ := Option.map_eq_some_iff.mp answers
    exact absurd same.symm (kept override)

end FailureClass

/-- A known class holds nothing of a client's. -/
theorem KnownClass.member?_toClass
    (known : KnownClass)
    (feature : Feature) :
    known.toClass.member? feature = none := by
  have nothing : ∀ layers : List KnownClass,
      ((layers.map Layer.known).findSome? (Layer.held? feature)).join = none := by
    intro layers
    induction layers with
    | nil => rfl
    | cons first rest inductionHypothesis =>
      rw [List.map_cons, List.findSome?_cons]
      cases held : (Layer.known first).held? feature with
      | none => exact inductionHypothesis
      | some member =>
        have own : member = none := by
          cases first <;> simp [Layer.held?] at held
          exact held.2.symm
        rw [own]
        rfl
  exact nothing (known :: known.lineage.tail)

/-- A known class has no rule of a client's. -/
theorem KnownClass.rule?_toClass_ne
    (known : KnownClass)
    (question : Question)
    (override : Override) :
    known.toClass.rule? question ≠ some (.overridden override) := by
  intro found
  obtain ⟨layer, listed, answers⟩ := List.exists_of_findSome?_eq_some found
  have known_ : ∃ other, layer = .known other := by
    rcases List.mem_cons.mp listed with rfl | inherited
    · exact ⟨known, rfl⟩
    · obtain ⟨other, _, same⟩ := List.mem_map.mp inherited
      exact ⟨other, same.symm⟩
  obtain ⟨other, rfl⟩ := known_
  cases other <;> cases question <;> simp [Layer.rule?] at answers

theorem KnownClass.overrides_toClass
    (known : KnownClass)
    (question : Question) :
    known.toClass.overrides question = false := by
  rw [FailureClass.overrides]
  split
  · rename_i override found
    exact absurd found (known.rule?_toClass_ne question override)
  · rfl

namespace Failure

/-- Whether it is something of a client's, held by a failure itself or by its class, that
answers a question in place of the taxonomy. -/
def overrides
    (failure : Failure)
    (question : Question) : Bool :=
  match failure.rule? question with
  | some (.overridden _) => true
  | _ => false

variable {failure : Failure} {question : Question}

theorem overrides_eq_false_iff :
    failure.overrides question = false ↔
      failure.facts.override? question = none ∧
        failure.failureClass.overrides question = false := by
  rw [overrides, rule?, FailureClass.overrides, FailureClass.rule?]
  cases failure.facts.override? question <;> simp

/-- The taxonomy answers for the failures of a known class that hold nothing themselves. -/
theorem overrides_of_known
    {known : KnownClass}
    (own : failure.failureClass = known.toClass)
    (bare : failure.facts.override? question = none) :
    failure.overrides question = false :=
  overrides_eq_false_iff.mpr ⟨bare, own ▸ known.overrides_toClass question⟩

theorem rule?_ne_overridden
    (kept : failure.overrides question = false)
    (override : Override) :
    failure.rule? question ≠ some (.overridden override) := by
  intro overridden
  simp [overrides, overridden] at kept

/-- Where the taxonomy answers, its answer depends on the class of a failure alone. -/
theorem rule?_of_kept
    (kept : failure.overrides question = false) :
    failure.rule? question = failure.failureClass.rule? question := by
  rw [rule?, (overrides_eq_false_iff.mp kept).1]
  rfl

/-- A question that a known class of a failure answers has a rule. -/
theorem exists_rule?
    (question : Question)
    {known : KnownClass}
    (isA : failure.isA known = true)
    (answered : ((Layer.known known).rule? question).isSome) :
    ∃ rule, failure.rule? question = some rule := by
  obtain ⟨rule, found⟩ := FailureClass.exists_rule? question isA answered
  rw [FailureClass.rule?] at found
  rw [rule?, found]
  cases failure.facts.override? question with
  | none => exact ⟨rule, rfl⟩
  | some override => exact ⟨.overridden override, rfl⟩

/-- A rule that is not a client's own is that of a known class of a failure. -/
theorem known_of_rule?
    {rule : Rule}
    (found : failure.rule? question = some rule)
    (kept : ∀ override, rule ≠ .overridden override) :
    ∃ known, failure.isA known = true ∧
      (Layer.known known).rule? question = some rule := by
  cases own : failure.facts.override? question with
  | some override =>
    rw [rule?, own] at found
    exact absurd (Option.some.inj found).symm (kept override)
  | none =>
    rw [rule?, own] at found
    exact FailureClass.known_of_rule? found kept

end Failure

end Retry
