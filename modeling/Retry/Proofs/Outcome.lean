import Retry.Fault

/-!
# Outcomes

How outcomes are carried from step to step: a value is handed to the next step, and
a fault skips it.
-/

namespace Retry
namespace Outcome

variable {ε α γ : Type}

@[simp] theorem pure_eq
    (value : α) :
    (pure value : Except ε α) = .ok value := rfl

@[simp] theorem ok_bind
    (value : α)
    (next : α → Except ε γ) :
    (Except.ok value >>= next) = next value := rfl

@[simp] theorem error_bind
    (fault : ε)
    (next : α → Except ε γ) :
    (Except.error fault >>= next) = .error fault := rfl

@[simp] theorem map_ok
    (change : α → γ)
    (value : α) :
    change <$> (Except.ok value : Except ε α) = .ok (change value) := rfl

@[simp] theorem map_error
    (change : α → γ)
    (fault : ε) :
    change <$> (Except.error fault : Except ε α) = .error fault := rfl

/-- Two steps succeed exactly when the first does and the second does after it. -/
theorem bind_eq_ok_iff
    {outcome : Except ε α}
    {next : α → Except ε γ}
    {result : γ} :
    (outcome >>= next) = .ok result ↔
      ∃ value, outcome = .ok value ∧ next value = .ok result := by
  cases outcome <;> simp

theorem map_eq_ok_iff
    {change : α → γ}
    {outcome : Except ε α}
    {result : γ} :
    change <$> outcome = .ok result ↔
      ∃ value, outcome = .ok value ∧ change value = result := by
  cases outcome <;> simp

theorem mapError_eq_error_iff
    {change : ε → γ}
    {outcome : Except ε α}
    {result : γ} :
    outcome.mapError change = .error result ↔
      ∃ fault, outcome = .error fault ∧ change fault = result := by
  cases outcome with
  | error fault =>
    show Except.error (change fault) = (Except.error result : Except γ α) ↔ _
    simp
  | ok value =>
    show (Except.ok value : Except γ α) = .error result ↔ _
    simp

theorem toOption_eq_some_iff
    {outcome : Except ε α}
    {value : α} :
    outcome.toOption = some value ↔ outcome = .ok value := by
  cases outcome <;> simp [Except.toOption]

theorem compatible_eq_ok_iff
    {result? : Option α}
    {result : α} :
    compatible result? = .ok result ↔ result? = some result := by
  cases result? <;> simp [compatible]

theorem inRange_eq_ok_iff
    {result? : Option α}
    {result : α} :
    inRange result? = .ok result ↔ result? = some result := by
  cases result? <;> simp [inRange]

@[simp] theorem seen_ok
    (value : α) :
    seen (.ok value) = .ok value := rfl

/-- Whether an outcome is a value and no fault. -/
def Returns (outcome : Except ε α) : Prop :=
  ∃ value, outcome = .ok value

@[simp] theorem returns_ok
    (value : α) :
    Returns (.ok value : Except ε α) :=
  ⟨value, rfl⟩

@[simp] theorem not_returns_error
    (fault : ε) :
    ¬Returns (.error fault : Except ε α) := by
  rintro ⟨value, impossible⟩
  cases impossible

@[simp] theorem returns_map_iff
    {change : α → γ}
    {outcome : Except ε α} :
    Returns (change <$> outcome) ↔ Returns outcome := by
  cases outcome <;> simp

@[simp] theorem returns_seen_iff
    {refused : Except Refusal α} :
    Returns (seen refused) ↔ Returns refused := by
  cases refused with
  | error refusal =>
    exact iff_of_false (not_returns_error (Fault.ofRefusal refusal)) (not_returns_error refusal)
  | ok value => simp

/-- A value that a table is asked for is there exactly where it can be. -/
@[simp] theorem returns_ite_iff
    {condition : Prop}
    [Decidable condition]
    {value : α}
    {fault : ε} :
    Returns (if condition then .ok value else .error fault) ↔ condition := by
  split <;> simp [*]

theorem returns_unit_iff
    {outcome : Except ε Unit} :
    Returns outcome ↔ outcome = .ok () := by
  constructor
  · rintro ⟨⟨⟩, passes⟩
    exact passes
  · rintro rfl
    exact returns_ok ()

/-- Whether two outcomes are the same fault, or values that are related. -/
inductive Agree (related : α → γ → Prop) : Except ε α → Except ε γ → Prop where
  | ok
      {left : α}
      {right : γ}
      (values : related left right) :
      Agree related (.ok left) (.ok right)
  | error (fault : ε) : Agree related (.error fault) (.error fault)

namespace Agree

variable {related : α → γ → Prop} {left : Except ε α} {right : Except ε γ}

theorem refl
    {related : α → α → Prop}
    (reflexive : ∀ value, related value value)
    (outcome : Except ε α) :
    Agree related outcome outcome := by
  cases outcome with
  | error fault => exact .error fault
  | ok value => exact .ok (reflexive value)

/-- Outcomes that agree, each handed to a step, have outcomes that agree if the steps do
on values that are related. -/
theorem bind
    {β δ : Type}
    {result : β → δ → Prop}
    {next : α → Except ε β}
    {nextRight : γ → Except ε δ}
    (outcomes : Agree related left right)
    (later : ∀ value valueRight, related value valueRight →
      Agree result (next value) (nextRight valueRight)) :
    Agree result (left >>= next) (right >>= nextRight) := by
  cases outcomes with
  | error fault => exact .error fault
  | ok values => exact later _ _ values

/-- Outcomes that agree come to the same where the steps do on values that are
related. -/
theorem bind_eq
    {β : Type}
    {next : α → Except ε β}
    {nextRight : γ → Except ε β}
    (outcomes : Agree related left right)
    (later : ∀ value valueRight, related value valueRight →
      next value = nextRight valueRight) :
    (left >>= next) = (right >>= nextRight) := by
  cases outcomes with
  | error fault => rfl
  | ok values => exact later _ _ values

end Agree

theorem agree_eq_iff
    {left right : Except ε α} :
    Agree Eq left right ↔ left = right := by
  constructor
  · rintro (@⟨value, _, rfl⟩ | fault)
    · rfl
    · rfl
  · rintro rfl
    exact .refl (fun _ => rfl) left

end Outcome
end Retry
