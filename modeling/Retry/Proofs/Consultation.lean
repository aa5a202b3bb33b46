import Retry.Proofs.Condition.Search
import Retry.Strategy

/-!
# Courses of consultations

Which conditions are asked about a failure, in which order, and how their answers carry
over.  A search goes through its conditions up to the first that approves or fails.  The main
statement says so of every search, and says of every retrier that a spent budget asks no
condition, that what is left of a budget asks its conditions, and that a delay asks the
classifier once and nothing else.
-/

namespace Retry

/-- Whether a fault is a failure that stands for the end of an iteration. -/
def Fault.StandsForEnd : Fault → Prop
  | raised failure => failure.isA .stopIteration = true
  | _ => False

theorem Fault.leavingSearch_of_standsForEnd
    {fault : Fault}
    (stands : fault.StandsForEnd) :
    fault.leavingSearch = strayEnd := by
  cases fault with
  | raised failure => exact if_pos stands
  | _ => cases stands

theorem Fault.leavingSearch_of_not_standsForEnd
    {fault : Fault}
    (other : ¬fault.StandsForEnd) :
    fault.leavingSearch = fault := by
  cases fault with
  | raised failure => exact if_neg other
  | _ => rfl

namespace Condition

variable (users : UserConditions) (failure : Failure)

/-- How a search goes through conditions.  It asks them in order: all of them, where all
refuse, and else those up to the first that does not, which decides: it approves, or fails, or
it has an answer of which it cannot be told whether it counts as true. -/
inductive Course : List Condition → Consultation Bool → Prop where
  | refused
      {conditions : List Condition}
      (refuse : ∀ condition ∈ conditions, condition.Refuses users failure) :
      Course conditions ⟨conditions, .ok false⟩
  | approved
      {before : List Condition}
      (refuse : ∀ condition ∈ before, condition.Refuses users failure)
      {condition : Condition}
      (approves : condition.Approves users failure)
      (rest : List Condition) :
      Course (before ++ condition :: rest) ⟨before ++ [condition], .ok true⟩
  | failed
      {before : List Condition}
      (refuse : ∀ condition ∈ before, condition.Refuses users failure)
      {condition : Condition}
      {fault : Fault}
      (fails : condition.answer users failure = .error fault)
      (other : ¬fault.StandsForEnd)
      (rest : List Condition) :
      Course (before ++ condition :: rest) ⟨before ++ [condition], .error fault⟩
  | strayed
      {before : List Condition}
      (refuse : ∀ condition ∈ before, condition.Refuses users failure)
      {condition : Condition}
      {fault : Fault}
      (fails : condition.answer users failure = .error fault)
      (stands : fault.StandsForEnd)
      (rest : List Condition) :
      Course (before ++ condition :: rest) ⟨before ++ [condition], .error .strayEnd⟩
  | untold
      {before : List Condition}
      (refuse : ∀ condition ∈ before, condition.Refuses users failure)
      {condition : Condition}
      {value : Value}
      (answers : condition.answer users failure = .ok value)
      {fault : Fault}
      (fails : condition.tell users failure value = .error fault)
      (rest : List Condition) :
      Course (before ++ condition :: rest) ⟨before ++ [condition], .error fault⟩

variable {users failure}

/-- Conditions that refuse are asked before the search goes on behind them. -/
theorem any_append_of_refuse
    {before : List Condition}
    (refuse : ∀ condition ∈ before, condition.Refuses users failure)
    (rest : List Condition) :
    any users failure (before ++ rest) =
      ⟨before ++ (any users failure rest).asked, (any users failure rest).outcome⟩ := by
  induction before with
  | nil => rfl
  | cons first others inductionHypothesis =>
    obtain ⟨firstRefuses, othersRefuse⟩ := List.forall_mem_cons.mp refuse
    rw [List.cons_append, any_cons_of_false (decision_eq_ok_iff.mpr firstRefuses),
      inductionHypothesis othersRefuse]
    rfl

/-- A course behind a condition that refuses is one with this condition asked first. -/
theorem Course.cons
    {first : Condition}
    (refuses : first.Refuses users failure)
    {conditions : List Condition}
    {consultation : Consultation Bool}
    (course : Course users failure conditions consultation) :
    Course users failure (first :: conditions)
      ⟨first :: consultation.asked, consultation.outcome⟩ := by
  cases course with
  | refused refuse => exact .refused (List.forall_mem_cons.mpr ⟨refuses, refuse⟩)
  | approved refuse approves rest =>
    exact .approved (List.forall_mem_cons.mpr ⟨refuses, refuse⟩) approves rest
  | failed refuse fails other rest =>
    exact .failed (List.forall_mem_cons.mpr ⟨refuses, refuse⟩) fails other rest
  | strayed refuse fails stands rest =>
    exact .strayed (List.forall_mem_cons.mpr ⟨refuses, refuse⟩) fails stands rest
  | untold refuse answers fails rest =>
    exact .untold (List.forall_mem_cons.mpr ⟨refuses, refuse⟩) answers fails rest

/-- Every search takes a course. -/
theorem course_any
    (users : UserConditions)
    (failure : Failure)
    (conditions : List Condition) :
    Course users failure conditions (any users failure conditions) := by
  induction conditions with
  | nil => exact .refused nofun
  | cons first rest inductionHypothesis =>
    have nothingBefore : ∀ condition ∈ [], Refuses users failure condition := nofun
    cases asked : first.answer users failure with
    | ok value =>
      have decision := decision_of_ok asked
      cases told : first.tell users failure value with
      | error fault =>
        rw [any_cons_of_error (decision.trans told)]
        exact .untold nothingBefore asked told rest
      | ok means =>
        cases means with
        | true =>
          rw [any_cons_of_true (decision.trans told)]
          exact .approved nothingBefore ⟨value, asked, told⟩ rest
        | false =>
          rw [any_cons_of_false (decision.trans told)]
          exact inductionHypothesis.cons ⟨value, asked, told⟩
    | error fault =>
      rw [any_cons_of_error (decision_of_error asked)]
      by_cases stands : fault.StandsForEnd
      · rw [Fault.leavingSearch_of_standsForEnd stands]
        exact .strayed nothingBefore asked stands rest
      · rw [Fault.leavingSearch_of_not_standsForEnd stands]
        exact .failed nothingBefore asked stands rest

/-- No search takes another course than its own. -/
theorem Course.any_eq
    {conditions : List Condition}
    {consultation : Consultation Bool}
    (course : Course users failure conditions consultation) :
    any users failure conditions = consultation := by
  cases course with
  | refused refuse =>
    have searched := any_append_of_refuse refuse []
    rw [List.append_nil] at searched
    rw [searched, any_nil]
    simp [Consultation.unasked]
  | approved refuse approves rest =>
    rw [any_append_of_refuse refuse, any_cons_of_true (decision_eq_ok_iff.mpr approves)]
  | failed refuse fails other rest =>
    rw [any_append_of_refuse refuse, any_cons_of_error (decision_of_error fails),
      Fault.leavingSearch_of_not_standsForEnd other]
  | strayed refuse fails stands rest =>
    rw [any_append_of_refuse refuse, any_cons_of_error (decision_of_error fails),
      Fault.leavingSearch_of_standsForEnd stands]
  | untold refuse answers fails rest =>
    rw [any_append_of_refuse refuse,
      any_cons_of_error ((decision_of_ok answers).trans fails)]

end Condition

/-- A search asks conditions in order up to the first that approves or fails, or has an answer
of which it cannot be told whether it counts as true, and comes to what that one says, except
that a fault of its own replaces a failure that stands for the end of an iteration.  A retrier
asks no condition once its budget is spent, and searches among its conditions before.  For a
delay it asks its classifier and nothing else, takes the throttled tier exactly where the
answer counts as true, and fails with every fault of the classifier and of telling this. -/
theorem Retrier.asks_until_decided
    (users : UserConditions)
    (failure : Failure) :
    (∀ conditions consultation,
      Condition.any users failure conditions = consultation ↔
        Condition.Course users failure conditions consultation) ∧
    ∀ (retrier : Retrier) (attempt : Value),
      (retrier.plan.maxAttempts.ordered? .atMost attempt = some true →
        retrier.plan.shouldRetry users failure attempt = ⟨[], .ok false⟩) ∧
      (retrier.plan.maxAttempts.ordered? .atMost attempt = some false →
        Condition.Course users failure retrier.plan.rules.conditions
          (retrier.plan.shouldRetry users failure attempt)) ∧
      (retrier.plan.maxAttempts.ordered? .atMost attempt = none →
        retrier.plan.shouldRetry users failure attempt = ⟨[], .error .incompatible⟩) ∧
      (retrier.plan.computeDelay users attempt failure).asked =
        [retrier.plan.rules.classifier] ∧
      (∀ fault, retrier.plan.rules.classifier.answer users failure = .error fault →
        (retrier.plan.computeDelay users attempt failure).outcome = .error fault) ∧
      ∀ answer, retrier.plan.rules.classifier.answer users failure = .ok answer →
        (∀ fault, retrier.plan.rules.classifier.tell users failure answer = .error fault →
          (retrier.plan.computeDelay users attempt failure).outcome = .error fault) ∧
        ∀ throttled, retrier.plan.rules.classifier.tell users failure answer = .ok throttled →
          (retrier.plan.computeDelay users attempt failure).outcome =
            if throttled then
              backoff retrier.plan.rules.throttledBaseDelay retrier.plan.rules.maxBackoff
                attempt
            else backoff retrier.plan.rules.baseDelay retrier.plan.rules.maxBackoff attempt := by
  refine ⟨?search, fun retrier attempt => ⟨?spent, ?left, ?unordered, rfl, ?fails, ?answers⟩⟩
  case search =>
    intro conditions consultation
    refine ⟨?_, Condition.Course.any_eq⟩
    rintro rfl
    exact Condition.course_any users failure conditions
  case spent =>
    intro spent
    rw [Plan.shouldRetry, Plan.isSpent, spent]
    rfl
  case left =>
    intro left
    have searches : retrier.plan.shouldRetry users failure attempt =
        Condition.any users failure retrier.plan.rules.conditions := by
      rw [Plan.shouldRetry, Plan.isSpent, left]
      rfl
    rw [searches]
    exact Condition.course_any ..
  case unordered =>
    intro unordered
    rw [Plan.shouldRetry, Plan.isSpent, unordered]
    rfl
  case fails =>
    intro fault fails
    rw [Plan.computeDelay, Plan.isThrottling, Condition.consult, fails]
    rfl
  case answers =>
    intro answer answers
    constructor
    · intro fault untold
      simp only [Plan.computeDelay, Plan.isThrottling, Condition.consult, answers, bind,
        Except.bind, untold]
    · intro throttled told
      rw [Plan.computeDelay_of_told answers told, Rules.baseOf]
      cases throttled <;> rfl

/-- A failure that no condition of the library approves of. -/
def Failure.badValue : Failure :=
  .mk (.bare KnownClass.valueError.toClass [.text "m"]) .none none

/-- A failure that stands for the end of an iteration. -/
def Failure.endOfIteration : Failure :=
  .mk (.bare KnownClass.stopIteration.toClass [.text "stop"]) .none none

/-- A user whose conditions do what their names say. -/
def UserConditions.byName : UserConditions := fun name _ =>
  if name = "refuses" then .ok .null
  else if name = "fails" then .error (.raised .badValue)
  else if name = "ends" then .error (.raised .endOfIteration)
  else .ok (.flag true)

/-- A policy of three attempts with a condition of each kind, whose classifier ends with a
failure that a search would replace. -/
def Policy.ofEachKind : Policy where
  mode := .null
  numRetries := .int 2
  rules := ⟨[.user "refuses", .user "fails", .user "approves"], .user "ends",
    .int 1, .int 2, .int 60⟩

/-- The second of three conditions fails, so the third is not asked, and none is once the
budget is spent.  The failure of the classifier is the one of the delay. -/
theorem Retrier.asks_until_failure :
    (Retrier.adapted .ofEachKind).plan.shouldRetry .byName .badValue (.int 2) =
      ⟨[.user "refuses", .user "fails"], .error (.raised .badValue)⟩ ∧
    (Retrier.adapted .ofEachKind).plan.shouldRetry .byName .badValue (.int 3) =
      ⟨[], .ok false⟩ ∧
    ((Retrier.adapted .ofEachKind).plan.computeDelay .byName (.int 2) .badValue).asked =
      [.user "ends"] ∧
    ((Retrier.adapted .ofEachKind).plan.computeDelay .byName (.int 2) .badValue).outcome =
      .error (.raised .endOfIteration) := by
  obtain ⟨search, retriers⟩ := Retrier.asks_until_decided .byName .badValue
  have refuses : ∀ condition ∈ [Condition.user "refuses"],
      condition.Refuses .byName .badValue :=
    List.forall_mem_singleton.mpr ⟨.null, rfl, rfl⟩
  have other : ¬(Fault.raised .badValue).StandsForEnd := by
    rw [Fault.StandsForEnd]
    decide
  have failing : (Condition.user "fails").answer .byName .badValue =
      .error (.raised .badValue) := rfl
  have searched := (search _ _).mpr (.failed refuses failing other [.user "approves"])
  obtain ⟨_, left, _, asked, fails, _⟩ := retriers (.adapted .ofEachKind) (.int 2)
  obtain ⟨spent, _⟩ := retriers (.adapted .ofEachKind) (.int 3)
  refine ⟨?_, spent (Value.atMost_int_int 3 3), asked, fails _ rfl⟩
  rw [← (search _ _).mpr (left (Value.atMost_int_int 3 2))]
  exact searched

/-- A condition that ends with a failure that stands for the end of an iteration does not
leave a search with it.  One whose answer does not say whether it counts as true ends a search
with the fault of telling it, although it has not failed itself. -/
theorem Condition.search_strays :
    (Condition.user "ends").answer .byName .badValue =
      .error (.raised .endOfIteration) ∧
    Condition.any .byName .badValue [.user "ends"] = ⟨[.user "ends"], .error .strayEnd⟩ ∧
    (Condition.any .byName .badValue [.user "ends"]).outcome ≠
      .error (.raised .endOfIteration) ∧
    (Condition.vague "refuses" "fails").answer .byName .badValue = .ok .null ∧
    Condition.any .byName .badValue [.vague "refuses" "fails", .user "approves"] =
      ⟨[.vague "refuses" "fails"], .error (.raised .badValue)⟩ := by
  have searched : Condition.any .byName .badValue [.user "ends"] =
      ⟨[.user "ends"], .error .strayEnd⟩ := rfl
  refine ⟨rfl, searched, ?_, rfl, rfl⟩
  rw [searched]
  nofun

end Retry
