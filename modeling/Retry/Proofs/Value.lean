import Retry.Value

/-!
# Equal values

Values of different kinds can be equal: numbers that lie at the same place, a mode and the
text of its name.  The main statements say that equal values cannot be told apart by what
decisions ask of a value, which is whether it is null, a key or true, and which integer or
text it is.
-/

namespace Retry

theorem Place.same_iff
    {left right : Place} :
    left.same right = true ↔ left = right ∧ left ≠ .unordered := by
  cases left <;> simp [Place.same]

theorem Number.agrees_trans
    {left middle right : Number}
    (first : left.agrees middle = true)
    (second : middle.agrees right = true) :
    left.agrees right = true := by
  simp only [agrees, same, Bool.or_eq_true, decide_eq_true_eq, Place.same_iff] at *
  rcases first with rfl | ⟨firstPlace, ordered⟩
  · exact second
  · rcases second with rfl | ⟨secondPlace, _⟩
    · exact Or.inr ⟨firstPlace, ordered⟩
    · exact Or.inr ⟨firstPlace.trans secondPlace, ordered⟩

/-- Numbers that agree lie at one place. -/
theorem Number.place_eq_of_agrees
    {left right : Number}
    (agree : left.agrees right = true) :
    left.place = right.place := by
  simp only [agrees, same, Bool.or_eq_true, decide_eq_true_eq, Place.same_iff] at agree
  rcases agree with rfl | ⟨place, _⟩
  · rfl
  · exact place

/-- An integer lies at zero only where it is zero. -/
theorem Number.place_int_eq_zero_iff
    {value : Int} :
    Place.finite (value * unitsPerOne) = .finite 0 ↔ value = 0 := by
  have one : (unitsPerOne : Int) ≠ 0 := Int.ne_of_gt unitsPerOne_pos
  rw [Place.finite.injEq]
  constructor
  · intro zero
    exact (Int.mul_eq_zero.mp zero).resolve_right one
  · rintro rfl
    exact Int.zero_mul _

/-- Every number counts as true unless it lies at zero. -/
theorem Number.isTruthy_iff
    {number : Number} :
    number.isTruthy = true ↔ number.place ≠ .finite 0 := by
  cases number with
  | flag value =>
    rw [isTruthy, place, ne_eq, place_int_eq_zero_iff]
    cases value <;> decide
  | int value =>
    rw [isTruthy, place, decide_eq_true_iff]
    exact not_congr place_int_eq_zero_iff.symm
  | real value =>
    cases value with
    | nan payload => simp [isTruthy, place, Binary64.place]
    | signed negative rank rank_le =>
      rw [isTruthy, place, Binary64.place, decide_eq_true_iff]
      refine not_congr ?_
      split
      · rename_i infinite
        have positive : rank ≠ 0 := infinite ▸ by decide
        cases negative <;> simp [positive]
      · cases negative <;>
          simp [Binary64.signedUnits, Binary64.units_eq_zero_iff]

namespace Value

/-- Keys that are equal to one and the same key are equal. -/
theorem same_trans
    {left middle right : Value}
    (key : middle.isKey = true)
    (first : left.same middle = true)
    (second : middle.same right = true) :
    left.same right = true := by
  cases middle with
  | list | object => cases key
  | foreign =>
    cases right <;> simp [same] at second
  | null =>
    cases right <;> simp [same] at second
    exact first
  | number =>
    cases left <;> simp [same, isText, text?] at first
    cases right <;> simp [same] at second
    rw [same]
    exact Number.agrees_trans first second
  | text | mode =>
    cases left <;> simp_all [same, isText, text?]

/-- A text counts as true unless it is empty, and so does a mode as the text of its name. -/
theorem isTruthy_of_text?
    {value : Value}
    {text : String}
    (isText : value.text? = some text) :
    value.isTruthy = !text.isEmpty := by
  cases value with
  | text own =>
    cases isText
    rfl
  | mode mode =>
    cases isText
    cases mode <;> rfl
  | _ => cases isText

/-- What two values have in common that count alike, whatever they are. -/
inductive CountAlike : Value → Value → Prop where
  | self (value : Value) : CountAlike value value
  | numbers
      {left right : Number}
      (place : left.place = right.place) :
      CountAlike (.number left) (.number right)
  | texts
      {left right : Value}
      {text : String}
      (leftText : left.text? = some text)
      (rightText : right.text? = some text) :
      CountAlike left right
  | lists
      {left right : List Value}
      (empty : left.isEmpty = right.isEmpty) :
      CountAlike (.list left) (.list right)
  | objects
      {left right : List (String × Value)}
      (empty : left.isEmpty = right.isEmpty) :
      CountAlike (.object left) (.object right)

/-- Whether two values are the very same, or equal. -/
def Equals (left right : Value) : Prop :=
  left = right ∨ left.same right = true

theorem Equals.refl (value : Value) : value.Equals value := Or.inl rfl

theorem Equals.countAlike
    {left right : Value}
    (equal : left.Equals right) :
    left.CountAlike right := by
  rcases equal with rfl | equal
  · exact .self left
  cases left with
  | null =>
    cases right <;> simp [same] at equal
    exact .self .null
  | number =>
    cases right <;> simp [same] at equal
    exact .numbers (Number.place_eq_of_agrees equal)
  | text text =>
    rw [same, isText, beq_iff_eq] at equal
    exact .texts rfl equal
  | mode mode =>
    rw [same, isText, beq_iff_eq] at equal
    exact .texts rfl equal
  | list items =>
    cases right <;> simp [same] at equal
    rename_i others
    apply CountAlike.lists
    cases items <;> cases others <;> simp [sameItems] at equal ⊢
  | object entries =>
    cases right <;> simp [same] at equal
    rename_i others
    apply CountAlike.objects
    rw [Bool.eq_iff_iff, List.isEmpty_iff_length_eq_zero, List.isEmpty_iff_length_eq_zero,
      equal.1]
  | foreign kind =>
    cases right <;> simp [same] at equal

namespace CountAlike

variable {left right : Value} (alike : left.CountAlike right)
include alike

theorem isKey : left.isKey = right.isKey := by
  cases alike with
  | self | numbers | lists | objects => rfl
  | texts leftText rightText =>
    cases left <;> cases right <;> simp_all [text?, Value.isKey]

theorem isNull : left.isNull = right.isNull := by
  cases alike with
  | self | numbers | lists | objects => rfl
  | texts leftText rightText =>
    cases left <;> cases right <;> simp_all [text?, Value.isNull]

theorem isInt : left.isInt = right.isInt := by
  funext expected
  cases alike with
  | self | lists | objects => rfl
  | numbers place => rw [Value.isInt, Value.isInt, Number.same, Number.same, place]
  | texts leftText rightText =>
    cases left <;> cases right <;> simp_all [text?, Value.isInt]

theorem isText : left.isText = right.isText := by
  funext expected
  cases alike with
  | self | numbers | lists | objects => rfl
  | texts leftText rightText => rw [Value.isText, Value.isText, leftText, rightText]

theorem isTruthy : left.isTruthy = right.isTruthy := by
  cases alike with
  | self => rfl
  | numbers place =>
    rw [Bool.eq_iff_iff, Value.isTruthy, Value.isTruthy, Number.isTruthy_iff,
      Number.isTruthy_iff, place]
  | texts leftText rightText => rw [isTruthy_of_text? leftText, isTruthy_of_text? rightText]
  | lists empty => rw [Value.isTruthy, Value.isTruthy, empty]
  | objects empty => rw [Value.isTruthy, Value.isTruthy, empty]

end CountAlike
end Value
end Retry
