import Retry.Proofs.Selection

/-!
# Modes and tags

Every mode has a tag of its own, and retriers carry the tag of the mode that they were
selected for.  An object is of the mode whose tag its class carries, or inherits from the
nearest class in its lineage that carries one; a tag of the object's own does not count.
-/

namespace Retry

namespace Mode

/-- The tags of the retriers that the library makes. -/
def tags : List String :=
  [Variant.standard.kind, Variant.adaptive.kind, Variant.legacy.kind, Policy.adapterKind]

theorem kind_injective
    {left right : Mode}
    (same : left.kind = right.kind) :
    left = right := by
  have found : some left = some right := by
    rw [← ofKind?_kind left, ← ofKind?_kind right, same]
  exact Option.some.inj found

/-- The tags are those of the modes. -/
theorem mem_tags_iff
    {tag : String} :
    tag ∈ tags ↔ ∃ mode : Mode, mode.kind = tag := by
  constructor
  · intro member
    simp only [tags, List.mem_cons, List.not_mem_nil, or_false] at member
    obtain rfl | rfl | rfl | rfl := member
    · exact ⟨.standard, rfl⟩
    · exact ⟨.adaptiveV2, rfl⟩
    · exact ⟨.legacy, rfl⟩
    · exact ⟨.adaptive, rfl⟩
  · rintro ⟨mode, rfl⟩
    cases mode <;> decide

/-- A tag has no mode unless it is the tag of one. -/
theorem ofKind?_eq_none
    {tag : String}
    (unknown : tag ∉ tags) :
    ofKind? tag = none := by
  rw [Option.eq_none_iff_forall_ne_some]
  intro mode found
  exact unknown (mem_tags_iff.mpr ⟨mode, ofKind?_eq_some_iff.mp found⟩)

/-- The retrier of a mode carries the tag of the mode. -/
theorem kind_of_retrier
    {env : Environment}
    {mode : Mode}
    {retrier : Retrier}
    (selected : (Retrier.forMode env mode).outcome = .ok retrier) :
    retrier.kind = mode.kind := by
  have made : (Retrier.make env mode).outcome = .ok retrier :=
    Retrier.make_of_forMode selected
  rw [Retrier.make] at made
  cases serves : mode.variant? with
  | none =>
    rw [serves] at made
    obtain ⟨policy, _, rfl⟩ := Outcome.map_eq_ok_iff.mp made
    rw [kind, serves]
    rfl
  | some variant =>
    rw [serves] at made
    obtain ⟨strategy, selects, rfl⟩ := Outcome.map_eq_ok_iff.mp made
    rw [kind, serves, Retrier.kind, Variant.variant_of_select selects]

/-- The retrier of a mode that a variant serves is the strategy of that variant with the
canonical conditions and the budget that the environment sets. -/
theorem strategy_of_variant
    {env : Environment}
    {mode : Mode}
    {variant : Variant}
    (serves : mode.variant? = some variant)
    {override : Option Int}
    (read : Settings.attempts env = .ok override) :
    (Retrier.forMode env mode).outcome =
      .ok (.strategy (variant.canonicalBuilder override).strategy) := by
  obtain ⟨retrier, selected, _⟩ := mode.retrier_of_ok read
  have made := Retrier.make_of_forMode selected
  rw [Retrier.make, serves] at made
  obtain ⟨strategy, selects, rfl⟩ := Outcome.map_eq_ok_iff.mp made
  have whole : variant.tracksDefaults = true ∧ variant.isConcrete = true := by
    cases mode <;> cases serves <;> exact ⟨rfl, rfl⟩
  have configured := Variant.select_of_ok read whole.1 whole.2
  rw [selects] at configured
  rw [selected, Except.ok.inj configured]

end Mode

namespace Subject

/-- Whether a text is the tag of an object's class: the nearest class in its lineage that
carries anything under the name of tags carries this text. -/
def Carries
    (subject : Subject)
    (tag : String) : Prop :=
  ∃ nearer value farther,
    subject.classKinds = nearer ++ some value :: farther ∧
    (∀ kind ∈ nearer, kind = none) ∧
    value.text? = some tag

variable {subject : Subject} {tag : String}

/-- An object's class carries a tag where that is the text of what is found. -/
theorem carries_iff :
    subject.Carries tag ↔ subject.kind?.bind Value.text? = some tag := by
  rw [Option.bind_eq_some_iff]
  constructor
  · rintro ⟨nearer, value, farther, lineage, untagged, text⟩
    refine ⟨value, ?_, text⟩
    exact List.findSome?_eq_some_iff.mpr ⟨nearer, some value, farther, lineage, rfl, untagged⟩
  · rintro ⟨value, found, text⟩
    obtain ⟨nearer, kind, farther, lineage, tagged, untagged⟩ :=
      List.findSome?_eq_some_iff.mp found
    rw [show kind = some value from tagged] at lineage
    exact ⟨nearer, value, farther, lineage, untagged, text⟩

/-- An object whose class carries the tag of a mode is of this mode. -/
theorem mode_of_carries
    {mode : Mode}
    (carries : subject.Carries mode.kind) :
    subject.mode = .ok mode := by
  rw [Subject.mode, carries_iff.mp carries, Option.bind_some, Mode.ofKind?_kind]

/-- An object whose class carries the tag of no mode is of none. -/
theorem mode_of_not_carries
    (unknown : ¬∃ tag ∈ Mode.tags, subject.Carries tag) :
    subject.mode = .error (.unknownStrategyClass subject.label) := by
  have none : (subject.kind?.bind Value.text?).bind Mode.ofKind? = none := by
    cases text : subject.kind?.bind Value.text? with
    | none => rfl
    | some tag =>
      refine Mode.ofKind?_eq_none fun member => ?_
      exact unknown ⟨tag, member, carries_iff.mpr text⟩
  rw [Subject.mode, none]

end Subject

namespace Retrier

/-- A retrier is of the mode whose tag it carries. -/
theorem mode_of_kind
    {retrier : Retrier}
    {mode : Mode}
    (tagged : retrier.kind = mode.kind) :
    retrier.mode = .ok mode := by
  refine Subject.mode_of_carries ⟨[], .text retrier.kind, [], rfl, nofun, ?_⟩
  rw [← tagged]
  rfl

/-- A value that is no mode has no retrier, and is named in the refusal if it can be
written. -/
theorem forValue_of_not_mode
    {value : Value}
    (other : ∀ mode, value ≠ .mode mode)
    (env : Environment) :
    forValue env value = ⟨[], .error
      (if value.isWritable then .unknownMode value else .raised .tooManyDigits)⟩ := by
  cases value with
  | mode mode => exact absurd rfl (other mode)
  | _ => rfl

end Retrier
end Retry
