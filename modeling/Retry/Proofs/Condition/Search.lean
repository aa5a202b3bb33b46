import Retry.Condition

/-!
# Searching among conditions

A search asks conditions in order until one approves of a retry or fails.  Where
none of them fails, the search says yes exactly when one of them approves, so their
order does not matter.
-/

namespace Retry
namespace Condition

variable (users : UserConditions) (failure : Failure)

/-- Whether a condition has an answer about a failure. -/
def Returns (condition : Condition) : Prop :=
  ∃ value, condition.answer users failure = .ok value

/-- Whether a condition has an answer about a failure that counts as true, or one that counts
as false. -/
def Means
    (condition : Condition)
    (means : Bool) : Prop :=
  ∃ value, condition.answer users failure = .ok value ∧
    condition.tell users failure value = .ok means

/-- Whether a condition has an answer about a failure of which it can be told whether it counts
as true. -/
def Decides (condition : Condition) : Prop :=
  ∃ means, condition.Means users failure means

/-- Whether a condition has an answer about a failure that means yes. -/
def Approves (condition : Condition) : Prop :=
  condition.Means users failure true

/-- Whether a condition has an answer about a failure that means no. -/
def Refuses (condition : Condition) : Prop :=
  condition.Means users failure false

variable {users failure}

/-- What a search takes from a condition is what an answer of the condition means. -/
theorem decision_eq_ok_iff
    {condition : Condition}
    {means : Bool} :
    condition.decision users failure = .ok means ↔ condition.Means users failure means := by
  cases asked : condition.answer users failure with
  | ok value =>
    rw [decision_of_ok asked]
    constructor
    · intro told
      exact ⟨value, asked, told⟩
    · rintro ⟨other, answers, told⟩
      rw [asked] at answers
      cases answers
      exact told
  | error fault =>
    rw [decision_of_error asked]
    constructor
    · nofun
    · rintro ⟨other, answers, _⟩
      rw [asked] at answers
      cases answers

/-- An answer that speaks for itself decides. -/
theorem decision_of_answer
    {condition : Condition}
    (clear : condition.isVague = false)
    {value : Value}
    (answers : condition.answer users failure = .ok value) :
    condition.decision users failure = .ok value.isTruthy := by
  rw [decision_of_ok answers, tell_of_not_vague clear]

theorem decides_of_returns
    {condition : Condition}
    (clear : condition.isVague = false)
    (returns : condition.Returns users failure) :
    condition.Decides users failure := by
  obtain ⟨value, answers⟩ := returns
  exact ⟨value.isTruthy, value, answers, tell_of_not_vague clear users failure value⟩

/-- Searches that begin with the same condition come to the same if they do where that refuses. -/
theorem outcome_any_cons_congr
    {first : Condition}
    {rest others : List Condition}
    (alike : first.Refuses users failure →
      (any users failure rest).outcome = (any users failure others).outcome) :
    (any users failure (first :: rest)).outcome =
      (any users failure (first :: others)).outcome := by
  cases decided : first.decision users failure with
  | error fault => rw [any_cons_of_error decided, any_cons_of_error decided]
  | ok approves =>
    cases approves with
    | true => rw [any_cons_of_true decided, any_cons_of_true decided]
    | false =>
      rw [any_cons_of_false decided, any_cons_of_false decided]
      exact alike (decision_eq_ok_iff.mp decided)

/-- A condition that refuses can be dropped wherever it stands. -/
theorem outcome_any_filter_of_refuses
    {dropped : Condition}
    (refuses : dropped.Refuses users failure)
    (conditions : List Condition) :
    (any users failure (conditions.filter fun condition => !condition == dropped)).outcome =
      (any users failure conditions).outcome := by
  induction conditions with
  | nil => rfl
  | cons first rest inductionHypothesis =>
    rw [List.filter_cons]
    cases same : first == dropped with
    | true =>
      obtain rfl : first = dropped := LawfulBEq.eq_of_beq same
      rw [any_cons_of_false (decision_eq_ok_iff.mpr refuses)]
      exact inductionHypothesis
    | false => exact outcome_any_cons_congr fun _ => inductionHypothesis

/-- A condition that is asked again has approved or failed before, or refuses, so that
repetitions do not matter. -/
theorem outcome_any_eraseDups (conditions : List Condition) :
    (any users failure conditions.eraseDups).outcome =
      (any users failure conditions).outcome := by
  match conditions with
  | [] => rfl
  | first :: rest =>
    rw [List.eraseDups_cons]
    apply outcome_any_cons_congr
    intro refuses
    rw [outcome_any_eraseDups (rest.filter fun condition => !condition == first),
      outcome_any_filter_of_refuses refuses]
termination_by conditions.length
decreasing_by
  exact Nat.lt_succ_of_le (List.length_filter_le ..)

/-- A search that says yes asks no further: conditions behind those that it goes through are
not asked, and may as well fail. -/
theorem any_append_of_true
    {first : List Condition}
    (approves : (any users failure first).outcome = .ok true)
    (rest : List Condition) :
    any users failure (first ++ rest) = any users failure first := by
  induction first with
  | nil => cases approves
  | cons condition others inductionHypothesis =>
    rw [List.cons_append]
    cases decided : condition.decision users failure with
    | error fault => rw [any_cons_of_error decided, any_cons_of_error decided]
    | ok decision =>
      cases decision with
      | true => rw [any_cons_of_true decided, any_cons_of_true decided]
      | false =>
        rw [any_cons_of_false decided] at approves
        rw [any_cons_of_false decided, any_cons_of_false decided, inductionHypothesis approves]

/-- A search that comes to an answer has one of the condition that it asks first. -/
theorem returns_head_of_any
    {first : Condition}
    {rest : List Condition}
    (returns : ∃ answer, (any users failure (first :: rest)).outcome = .ok answer) :
    first.Returns users failure := by
  obtain ⟨answer, found⟩ := returns
  cases decided : first.decision users failure with
  | ok decision =>
    obtain ⟨value, answers, _⟩ := decision_eq_ok_iff.mp decided
    exact ⟨value, answers⟩
  | error fault =>
    rw [any_cons_of_error decided] at found
    cases found

/-- A search says no exactly where every condition refuses. -/
theorem outcome_any_eq_false_iff
    {conditions : List Condition} :
    (any users failure conditions).outcome = .ok false ↔
      ∀ condition ∈ conditions, condition.Refuses users failure := by
  induction conditions with
  | nil => simp [Consultation.unasked]
  | cons first rest inductionHypothesis =>
    rw [List.forall_mem_cons, Refuses, ← decision_eq_ok_iff]
    cases decided : first.decision users failure with
    | error fault => simp [any_cons_of_error decided]
    | ok decision =>
      cases decision with
      | true => simp [any_cons_of_true decided]
      | false => simp [any_cons_of_false decided, inductionHypothesis]

/-- A search among conditions that all decide is itself decided, by yes exactly when one of
them approves. -/
theorem any_outcome
    {conditions : List Condition}
    (decisive : ∀ condition ∈ conditions, condition.Decides users failure) :
    ∃ answer, (any users failure conditions).outcome = .ok answer ∧
      (answer = true ↔ ∃ condition ∈ conditions, condition.Approves users failure) := by
  induction conditions with
  | nil => exact ⟨false, rfl, by simp⟩
  | cons first rest inductionHypothesis =>
    obtain ⟨⟨means, firstMeans⟩, restDecisive⟩ := List.forall_mem_cons.mp decisive
    have decided := decision_eq_ok_iff.mpr firstMeans
    cases means with
    | true =>
      refine ⟨true, by rw [any_cons_of_true decided], ?_⟩
      exact ⟨fun _ => ⟨first, List.mem_cons_self .., firstMeans⟩, fun _ => rfl⟩
    | false =>
      obtain ⟨answer, found, spec⟩ := inductionHypothesis restDecisive
      refine ⟨answer, by rw [any_cons_of_false decided, found], spec.trans ?_⟩
      have refuses : ¬first.Approves users failure := by
        rw [Approves, ← decision_eq_ok_iff, decided]
        nofun
      simp [refuses]

end Condition
end Retry
