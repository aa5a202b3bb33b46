import Retry.Markers
import Retry.Proofs.Sorting
import Retry.Proofs.Value

/-!
# Markers

A builder takes in a bundle of defaults once for each name, and two names are one where
they are equal as values.  The main statement says which names are in a set after one more
is put into it.
-/

namespace Retry

/-- Every two texts have an order. -/
theorem Value.answers_texts :
    Sorting.Answers (ordered? .below) fun value => value.text?.isSome = true := by
  intro left right leftText rightText
  obtain ⟨leftName, isLeft⟩ := Option.isSome_iff_exists.mp leftText
  obtain ⟨rightName, isRight⟩ := Option.isSome_iff_exists.mp rightText
  refine ⟨Order.below.ofTexts leftName rightName, ?_⟩
  cases left <;> cases right <;> simp_all [ordered?, text?]

namespace Markers

variable {markers : Markers} {name other : Value}

theorem contains_iff :
    markers.contains name = true ↔ ∃ value ∈ markers.values, name.same value = true :=
  List.any_eq_true

/-- The set with one more name, which is not put into it if it is no key. -/
def including
    (markers : Markers)
    (name : Value) : Markers :=
  (markers.add? name).getD markers

theorem add?_eq_some_iff
    {more : Markers} :
    markers.add? name = some more ↔ name.isKey = true ∧ more = markers.including name := by
  unfold including add?
  split
  · rename_i refused
    simp_all
  · rename_i accepted
    have key : name.isKey = true := by simpa using accepted
    have given (set : Markers) : some set = some more ↔ more = (some set).getD markers := by
      rw [Option.getD_some, Option.some.injEq, eq_comm]
    rw [and_iff_right key]
    split
    · exact given _
    · split <;> exact given _

theorem including_of_contains
    (contained : markers.contains name = true) :
    markers.including name = markers := by
  unfold including add?
  rw [if_pos contained]
  split <;> rfl

/-- A key that is new to a set is put at its place, or behind the other keys. -/
theorem mem_values_including
    (key : name.isKey = true)
    (absent : ¬markers.contains name = true)
    {value : Value} :
    value ∈ (markers.including name).values ↔ value = name ∨ value ∈ markers.values := by
  have accepted : ¬(!name.isKey) = true := by simp [key]
  unfold including add?
  rw [if_neg accepted, if_neg absent]
  split
  · simp only [Option.getD_some, values, insert, List.mem_append, List.mem_map, mem_place]
    grind
  · simp only [Option.getD_some, values, List.mem_append, List.mem_singleton]
    grind

/-- A set with one more name still has all others. -/
theorem values_subset_including
    (key : name.isKey = true) :
    markers.values ⊆ (markers.including name).values := by
  by_cases contained : markers.contains name = true
  · rw [including_of_contains contained]
    exact List.Subset.refl _
  · intro value member
    exact (mem_values_including key contained).mpr (Or.inr member)

/-- The names in a set with one more are that one and the names that were in it before,
up to equality as values. -/
theorem contains_including
    (key : name.isKey = true)
    (other : Value) :
    (markers.including name).contains other =
      (other.same name || markers.contains other) := by
  rw [Bool.eq_iff_iff, Bool.or_eq_true, contains_iff]
  by_cases contained : markers.contains name = true
  · rw [including_of_contains contained, ← contains_iff, iff_or_self]
    intro equal
    obtain ⟨value, member, same⟩ := contains_iff.mp contained
    exact contains_iff.mpr ⟨value, member, Value.same_trans key equal same⟩
  · rw [contains_iff]
    simp only [mem_values_including key contained, or_and_right, exists_or, exists_eq_left]

/-- Where nothing but texts was put into a set, a text is in it where it is one of these. -/
theorem contains_text_of_others
    (textsOnly : markers.others = [])
    (text : String) :
    markers.contains (.text text) = true ↔ text ∈ markers.names := by
  rw [contains_text, textsOnly, List.any_nil, Bool.or_false, List.contains_iff_mem]

/-- Texts can be put into a set that holds nothing else, and it then holds both. -/
theorem foldlM_add?_texts
    {start : Markers}
    (textsOnly : start.others = [])
    (texts : List String) :
    ∃ markers, (texts.map Value.text).foldlM (fun markers name => markers.add? name) start =
        some markers ∧
      markers.others = [] ∧
      ∀ text, text ∈ markers.names ↔ text ∈ start.names ∨ text ∈ texts := by
  induction texts generalizing start with
  | nil => exact ⟨start, rfl, textsOnly, by simp⟩
  | cons first rest inductionHypothesis =>
    obtain ⟨next, added, nextTextsOnly, holds⟩ : ∃ next,
        start.add? (.text first) = some next ∧ next.others = [] ∧
        ∀ text, text ∈ next.names ↔ text ∈ start.names ∨ text = first := by
      by_cases contained : start.contains (.text first) = true
      · have member := (contains_text_of_others textsOnly first).mp contained
        refine ⟨start, by simp [add?, Value.isKey, contained], textsOnly, ?_⟩
        intro text
        exact ⟨Or.inl, fun either => either.elim id fun same => same ▸ member⟩
      · refine ⟨start.insert first, by simp [add?, Value.isKey, contained], textsOnly, ?_⟩
        intro text
        rw [insert, mem_place, or_comm]
    obtain ⟨markers, built, builtTextsOnly, last⟩ := inductionHypothesis nextTextsOnly
    refine ⟨markers, ?_, builtTextsOnly, ?_⟩
    · rw [List.map_cons, List.foldlM_cons, added]
      exact built
    · intro text
      rw [last, holds, List.mem_cons, or_assoc]

/-- Texts make a set, which holds them and nothing else. -/
theorem exists_ofValues?_texts
    (texts : List String) :
    ∃ markers, ofValues? (texts.map .text) = some markers ∧ markers.others = [] ∧
      ∀ text, text ∈ markers.names ↔ text ∈ texts := by
  have nothing : empty.others = [] := rfl
  obtain ⟨markers, built, textsOnly, holds⟩ := foldlM_add?_texts nothing texts
  refine ⟨markers, built, textsOnly, ?_⟩
  intro text
  rw [holds]
  simp [empty]

/-- Whether all names of a set are texts, or modes, which are texts by their names. -/
def AreTexts (markers : Markers) : Prop :=
  ∀ name ∈ markers.values, name.text?.isSome = true

theorem areTexts_empty : empty.AreTexts := nofun

/-- A set of texts is one after another text is put into it. -/
theorem AreTexts.including
    (texts : markers.AreTexts)
    (isText : name.text?.isSome = true) :
    (markers.including name).AreTexts := by
  intro value member
  by_cases contained : markers.contains name = true
  · rw [including_of_contains contained] at member
    exact texts value member
  · have key : name.isKey = true := by
      cases name <;> simp_all [Value.isKey, Value.text?]
    rcases (mem_values_including key contained).mp member with rfl | before
    · exact isText
    · exact texts value before

/-- Texts are shown in order, all of them and nothing else. -/
theorem AreTexts.exists_sorted?
    (texts : markers.AreTexts) :
    ∃ names, markers.sorted? = some names ∧ names.Perm markers.values := by
  rw [sorted?]
  split
  · rename_i none
    refine ⟨_, rfl, ?_⟩
    rw [values, List.isEmpty_iff.mp none, List.append_nil]
  · exact Sorting.exists_sorted? Value.answers_texts texts

/-- A set of texts is equal to itself. -/
theorem same_self
    (textsOnly : markers.others = []) :
    markers.same markers = true := by
  have all : markers.values.all markers.contains = true := by
    rw [List.all_eq_true, values, textsOnly, List.append_nil]
    intro value member
    obtain ⟨text, listed, rfl⟩ := List.mem_map.mp member
    exact (contains_text_of_others textsOnly text).mpr listed
  rw [same, all]
  rfl

end Markers
end Retry
