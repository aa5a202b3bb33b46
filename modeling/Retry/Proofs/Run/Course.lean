import Retry.Proofs.Run

/-!
# The course of a run

A run goes on from attempt to attempt until one succeeds, is the last that the budget
allows, or fails with a failure that is not to be retried.  The main statement says that a
run that nothing disturbs ends at the first such attempt, in the way its outcome says, after
the delays that the attempts before it ask for, and that no later outcome matters.
-/

namespace Retry
namespace Run

/-- The outcome of the attempt with a number, the first of which is 1.  Past the end of
the outcomes attempts succeed. -/
def outcomeAt (outcomes : List (Option Failure)) : Nat → Option Failure
  | 0 => none
  | before + 1 => outcomes[before]?.join

/-- How a run ends whose last attempt has an outcome: by the success, or by the decision
not to retry after the failure. -/
def endingWith : Option Failure → Ending
  | none => .succeeded
  | some failure => .gaveUp failure (.ok false)

section Course

variable (users : UserConditions) (plan : Plan) (outcomes : List (Option Failure))

/-- Whether a run goes no further than an attempt: the attempt succeeds, spends the budget,
or fails with a failure of which no condition approves. -/
def EndsAt (budget : Int) (attempt : Nat) : Prop :=
  outcomeAt outcomes attempt = none ∨ budget ≤ attempt ∨
    ∃ failure, outcomeAt outcomes attempt = some failure ∧
      (plan.isRetryable users failure).outcome = .ok false

/-- Whether a run goes as far as an attempt: it ends at none before. -/
def Reaches (budget : Int) (attempt : Nat) : Prop :=
  ∀ earlier, 1 ≤ earlier → earlier < attempt → ¬EndsAt users plan outcomes budget earlier

/-- Whether an attempt is the first at which a run ends. -/
structure IsLast (budget : Int) (last : Nat) : Prop where
  first : 1 ≤ last
  reached : Reaches users plan outcomes budget last
  ends : EndsAt users plan outcomes budget last

/-- Whether the conditions answer about the failures within a budget that a run reaches,
and the delays that come of their answers can be computed. -/
structure Undisturbed (budget : Int) : Prop where
  answers : ∀ attempt failure, Reaches users plan outcomes budget attempt →
    outcomeAt outcomes attempt = some failure → attempt < budget →
      ∃ answer, (plan.isRetryable users failure).outcome = .ok answer
  delays : ∀ attempt failure, Reaches users plan outcomes budget attempt →
    outcomeAt outcomes attempt = some failure → attempt < budget →
      (plan.isRetryable users failure).outcome = .ok true →
        ∃ delay, (plan.computeDelay users (.int attempt) failure).outcome = .ok delay

/-- What comes of asking for the delay after an attempt, if it fails. -/
def delayAfter (attempt : Nat) : Option (Except Fault Value) :=
  (outcomeAt outcomes attempt).map fun failure =>
    (plan.computeDelay users (.int attempt) failure).outcome

end Course

variable {users : UserConditions} {plan : Plan} {outcomes : List (Option Failure)}
  {budget : Int}

/-- The last attempt of a run is within the budget, unless it is the first of all. -/
theorem IsLast.le_budget
    {last : Nat}
    (isLast : IsLast users plan outcomes budget last) :
    (last : Int) ≤ max 1 budget := by
  rcases Nat.lt_or_ge 1 last with later | early
  · have previous := isLast.reached (last - 1) (by omega) (by omega)
    simp only [EndsAt, not_or] at previous
    omega
  · have alone : last = 1 := Nat.le_antisymm early isLast.first
    omega

/-- A run has one last attempt. -/
theorem IsLast.unique
    {last other : Nat}
    (isLast : IsLast users plan outcomes budget last)
    (otherIsLast : IsLast users plan outcomes budget other) :
    last = other := by
  rcases Nat.lt_trichotomy last other with before | same | after
  · exact absurd isLast.ends (otherIsLast.reached last isLast.first before)
  · exact same
  · exact absurd otherIsLast.ends (isLast.reached other otherIsLast.first after)

/-- Whether a run from an attempt on takes a number of further attempts: it is at the end
of those that it ends for the first time, as the outcome there says, after the delays that
are asked for on the way. -/
structure Takes
    (users : UserConditions)
    (plan : Plan)
    (outcomes : List (Option Failure))
    (budget : Int)
    (attempt further : Nat)
    (run : Run) : Prop where
  ends : EndsAt users plan outcomes budget (attempt + further)
  goesOn : ∀ i < further, ¬EndsAt users plan outcomes budget (attempt + i)
  attempts : run.attempts = attempt + further
  ending : run.ending = endingWith (outcomeAt outcomes (attempt + further))
  delays : run.delays.map (some ∘ .ok) =
    (List.range' attempt further).map (delayAfter users plan outcomes)

theorem Takes.none
    {attempt : Nat}
    (ends : EndsAt users plan outcomes budget attempt)
    {outcome : Option Failure}
    (here : outcomeAt outcomes attempt = outcome) :
    Takes users plan outcomes budget attempt 0 ⟨attempt, [], endingWith outcome⟩ where
  ends := ends
  goesOn := by simp
  attempts := rfl
  ending := by rw [Nat.add_zero, here]
  delays := rfl

theorem Takes.next
    {attempt further : Nat}
    {run : Run}
    (later : Takes users plan outcomes budget (attempt + 1) further run)
    (goesOn : ¬EndsAt users plan outcomes budget attempt)
    {delay : Value}
    (asked : delayAfter users plan outcomes attempt = some (.ok delay)) :
    Takes users plan outcomes budget attempt (further + 1)
      { run with delays := delay :: run.delays } := by
  have shift (i : Nat) : attempt + (i + 1) = attempt + 1 + i := by omega
  constructor
  · rw [shift]
    exact later.ends
  · intro i below
    cases i with
    | zero => exact goesOn
    | succ i =>
      rw [shift]
      exact later.goesOn i (Nat.lt_of_succ_lt_succ below)
  · rw [shift]
    exact later.attempts
  · rw [shift]
    exact later.ending
  · rw [List.range'_succ, List.map_cons, List.map_cons, later.delays, asked]
    rfl

/-- The rest of a run from an attempt on takes the attempts up to the first at which it
ends. -/
theorem exists_takes
    (allows : plan.maxAttempts = .int budget)
    (undisturbed : Undisturbed users plan outcomes budget)
    {attempt : Nat}
    (first : 1 ≤ attempt)
    (reached : Reaches users plan outcomes budget attempt)
    {rest : List (Option Failure)}
    (remain : ∀ i, outcomeAt outcomes (attempt + i) = rest[i]?.join) :
    ∃ further,
      Takes users plan outcomes budget attempt further (go users plan 0 attempt rest) := by
  induction rest generalizing attempt with
  | nil =>
    have succeeds : outcomeAt outcomes attempt = none := remain 0
    exact ⟨0, .none (Or.inl succeeds) succeeds⟩
  | cons outcome rest inductionHypothesis =>
    have here : outcomeAt outcomes attempt = outcome := remain 0
    cases outcome with
    | none => exact ⟨0, .none (Or.inl here) here⟩
    | some failure =>
      rcases Int.lt_or_le attempt budget with left | spent
      · obtain ⟨answer, answers⟩ := undisturbed.answers attempt failure reached here left
        have decides :
            (plan.shouldRetry users failure (.int attempt)).outcome = .ok answer := by
          rw [Plan.shouldRetry_of_lt allows left, answers]
        cases answer with
        | false =>
          rw [go_of_refused decides]
          exact ⟨0, .none (Or.inr (Or.inr ⟨failure, here, answers⟩)) here⟩
        | true =>
          obtain ⟨delay, delays⟩ := undisturbed.delays attempt failure reached here left answers
          have restRemain (i : Nat) :
              outcomeAt outcomes (attempt + 1 + i) = rest[i]?.join := by
            have later := remain (i + 1)
            rwa [← Nat.add_assoc, Nat.add_right_comm] at later
          have goesOn : ¬EndsAt users plan outcomes budget attempt := by
            rintro (succeeds | spent | ⟨other, same, refused⟩)
            · rw [here] at succeeds
              cases succeeds
            · omega
            · rw [here] at same
              cases same
              rw [answers] at refused
              cases refused
          have asked : delayAfter users plan outcomes attempt = some (.ok delay) := by
            rw [delayAfter, here, Option.map_some, delays]
          have nextReached : Reaches users plan outcomes budget (attempt + 1) := by
            intro earlier start before
            rcases Nat.lt_or_eq_of_le (Nat.le_of_lt_succ before) with sooner | rfl
            · exact reached earlier start sooner
            · exact goesOn
          obtain ⟨further, later⟩ :=
            inductionHypothesis (Nat.le_succ_of_le first) nextReached restRemain
          rw [go_of_delay first decides delays]
          exact ⟨further + 1, later.next goesOn asked⟩
      · have decides :
            (plan.shouldRetry users failure (.int attempt)).outcome = .ok false := by
          rw [Plan.shouldRetry_of_spent allows spent]
          rfl
        rw [go_of_refused decides]
        exact ⟨0, .none (Or.inr (Or.inl spent)) here⟩

/-- A run makes the attempt that it begins with. -/
theorem attempt_le_go
    (users : UserConditions)
    (plan : Plan)
    {attempt : Nat}
    (first : 1 ≤ attempt)
    (outcomes : List (Option Failure)) :
    attempt ≤ (go users plan 0 attempt outcomes).attempts := by
  induction outcomes generalizing attempt with
  | nil => exact Nat.le_refl attempt
  | cons outcome rest inductionHypothesis =>
    cases outcome with
    | none => exact Nat.le_refl attempt
    | some failure =>
      cases reached : verdict users plan attempt failure with
      | error ending =>
        simp only [go_of_verdict_error first reached, Nat.le_refl]
      | ok delay =>
        rw [go_of_verdict_ok first reached]
        exact Nat.le_of_succ_le (inductionHypothesis (Nat.le_succ_of_le first))

theorem go_of_success
    (users : UserConditions)
    (plan : Plan)
    (attempt : Nat)
    {outcomes : List (Option Failure)}
    (succeeds : outcomes[0]?.join = none) :
    go users plan 0 attempt outcomes = ⟨attempt, [], .succeeded⟩ := by
  match outcomes with
  | [] | none :: _ => rfl
  | some failure :: _ => cases succeeds

/-- Runs are the same where the outcomes of the attempts that one of them makes are. -/
theorem go_eq_of_agree
    (users : UserConditions)
    (plan : Plan)
    {attempt : Nat}
    (first : 1 ≤ attempt)
    {outcomes other : List (Option Failure)}
    (agree : ∀ i, attempt + i ≤ (go users plan 0 attempt outcomes).attempts →
      other[i]?.join = outcomes[i]?.join) :
    go users plan 0 attempt other = go users plan 0 attempt outcomes := by
  have here := agree 0 (attempt_le_go users plan first outcomes)
  induction outcomes generalizing attempt other with
  | nil => exact go_of_success users plan attempt here
  | cons outcome rest inductionHypothesis =>
    cases outcome with
    | none => exact go_of_success users plan attempt here
    | some failure =>
      match other with
      | [] | none :: _ => cases here
      | some same :: otherRest =>
        cases here
        cases reached : verdict users plan attempt failure with
        | error ending =>
          rw [go_of_verdict_error first reached, go_of_verdict_error first reached]
        | ok delay =>
          -- The run goes on, and the rests agree as far as it does.
          have later : 1 ≤ attempt + 1 := Nat.le_succ_of_le first
          have restAgree (i : Nat)
              (made : attempt + 1 + i ≤ (go users plan 0 (attempt + 1) rest).attempts) :
              otherRest[i]?.join = rest[i]?.join := by
            rw [go_of_verdict_ok first reached] at agree
            have within : attempt + (i + 1) ≤ (go users plan 0 (attempt + 1) rest).attempts := by
              omega
            exact agree (i + 1) within
          rw [go_of_verdict_ok first reached, go_of_verdict_ok first reached,
            inductionHypothesis later restAgree
              (restAgree 0 (attempt_le_go users plan later rest))]

end Run

/-- A run of a retrier on whose way nothing fails ends at the first attempt that succeeds,
spends the budget or fails with a failure that is not to be retried, and as that attempt's
outcome says.  The delays are those that are asked for after the attempts before it, and
what comes after it does not matter. -/
theorem Retrier.run_to_last
    (retrier : Retrier)
    {budget : Int}
    (allows : retrier.plan.maxAttempts = .int budget)
    (users : UserConditions)
    (outcomes : List (Option Failure))
    (undisturbed : Run.Undisturbed users retrier.plan outcomes budget) :
    ∃ last,
      Run.IsLast users retrier.plan outcomes budget last ∧
      (last : Int) ≤ max 1 budget ∧
      (Run.of users retrier.plan outcomes).attempts = last ∧
      (Run.of users retrier.plan outcomes).ending =
        Run.endingWith (Run.outcomeAt outcomes last) ∧
      (Run.of users retrier.plan outcomes).delays.map (some ∘ .ok) =
        (List.range' 1 (last - 1)).map (Run.delayAfter users retrier.plan outcomes) ∧
      ∀ other,
        (∀ attempt ≤ last, Run.outcomeAt other attempt = Run.outcomeAt outcomes attempt) →
        Run.of users retrier.plan other = Run.of users retrier.plan outcomes := by
  have remain (i : Nat) : Run.outcomeAt outcomes (1 + i) = outcomes[i]?.join := by
    rw [Nat.add_comm]
    rfl
  obtain ⟨further, takes⟩ :=
    Run.exists_takes allows undisturbed (Nat.le_refl 1)
      (fun earlier start before => absurd start (Nat.not_le_of_lt before)) remain
  have isLast : Run.IsLast users retrier.plan outcomes budget (1 + further) := by
    refine ⟨Nat.le_add_right 1 further, ?_, takes.ends⟩
    intro attempt first earlier
    obtain ⟨i, rfl⟩ := Nat.exists_eq_add_of_le first
    exact takes.goesOn i (by omega)
  refine ⟨1 + further, isLast, isLast.le_budget, takes.attempts, takes.ending, ?_, ?_⟩
  · rw [Nat.add_sub_cancel_left]
    exact takes.delays
  · intro other agree
    refine Run.go_eq_of_agree users retrier.plan (Nat.le_refl 1) ?_
    intro i made
    rw [takes.attempts] at made
    have same := agree (i + 1) (by omega)
    exact same

/-- A policy of four attempts, whose delays are integers, that retries as the user says. -/
def Policy.ofUser : Policy where
  mode := .null
  numRetries := .int 3
  rules := ⟨[.user "again"], .neverThrottling, .int 2, .int 1, .int 3⟩

/-- A user who retries after failures of services. -/
def UserConditions.ofService : UserConditions :=
  fun _ failure => .ok (.flag (failure.isA .serviceError))

namespace Policy

theorem ofUser_isRetryable
    (failure : Failure) :
    ((Retrier.adapted ofUser).plan.isRetryable .ofService failure).outcome =
      .ok (failure.isA .serviceError) := by
  have decided : (Condition.user "again").decision .ofService failure =
      .ok (failure.isA .serviceError) := rfl
  show (Condition.any .ofService failure [.user "again"]).outcome = _
  cases service : failure.isA .serviceError with
  | true =>
    rw [service] at decided
    rw [Condition.any_cons_of_true decided]
  | false =>
    rw [service] at decided
    rw [Condition.any_cons_of_false decided]
    rfl

theorem ofUser_computeDelay
    (before : Nat)
    (failure : Failure) :
    ((Retrier.adapted ofUser).plan.computeDelay .ofService (.int (before + 1 : Nat))
      failure).outcome = .ok (.int (min (2 * Nat.pow 2 before) 3)) :=
  backoff_int 2 3 before

theorem ofUser_undisturbed
    (outcomes : List (Option Failure))
    (budget : Int) :
    Run.Undisturbed .ofService (Retrier.adapted ofUser).plan outcomes budget where
  answers := fun _ failure _ _ _ => ⟨_, ofUser_isRetryable failure⟩
  delays := by
    intro attempt failure _ found _ _
    cases attempt with
    | zero => cases found
    | succ before => exact ⟨_, ofUser_computeDelay before failure⟩

theorem ofUser_goesOn
    {outcomes : List (Option Failure)}
    {attempt : Nat}
    (found : Run.outcomeAt outcomes attempt = some .unavailable)
    {budget : Int}
    (left : attempt < budget) :
    ¬Run.EndsAt .ofService (Retrier.adapted ofUser).plan outcomes budget attempt := by
  have retried : Failure.unavailable.isA .serviceError = true := by decide
  rintro (succeeds | spent | ⟨failure, same, refuses⟩)
  · rw [found] at succeeds
    cases succeeds
  · omega
  · rw [found] at same
    cases same
    rw [ofUser_isRetryable, retried] at refuses
    cases refuses

end Policy

/-- Two attempts that fail for a service, one that fails for the client, and a success. -/
def Run.refusedThird : List (Option Failure) :=
  [some .unavailable, some .unavailable, some .hidingCause, none]

/-- A run that is refused a third retry gives up there, after two delays. -/
theorem Retrier.run_to_refusal :
    (Run.of .ofService (Retrier.adapted .ofUser).plan Run.refusedThird).attempts = 3 ∧
    (Run.of .ofService (Retrier.adapted .ofUser).plan Run.refusedThird).ending =
      .gaveUp .hidingCause (.ok false) ∧
    (Run.of .ofService (Retrier.adapted .ofUser).plan Run.refusedThird).delays =
      [.int 2, .int 3] := by
  have third : Run.IsLast .ofService (Retrier.adapted .ofUser).plan Run.refusedThird 4 3 := by
    have refused : Failure.hidingCause.isA .serviceError = false := by decide
    refine ⟨by decide, ?_, Or.inr (Or.inr ⟨.hidingCause, rfl, ?_⟩)⟩
    · intro attempt first early
      have early : attempt = 1 ∨ attempt = 2 := by omega
      rcases early with rfl | rfl
      · exact Policy.ofUser_goesOn rfl (by decide)
      · exact Policy.ofUser_goesOn rfl (by decide)
    · rw [Policy.ofUser_isRetryable, refused]
  obtain ⟨last, isLast, _, attempts, ending, delays, _⟩ :=
    Retrier.run_to_last (.adapted .ofUser) rfl .ofService Run.refusedThird
      (Policy.ofUser_undisturbed Run.refusedThird 4)
  obtain rfl := isLast.unique third
  have first : Run.delayAfter .ofService (Retrier.adapted .ofUser).plan Run.refusedThird 1 =
      some (.ok (.int 2)) :=
    congrArg some (Policy.ofUser_computeDelay 0 .unavailable)
  have second : Run.delayAfter .ofService (Retrier.adapted .ofUser).plan Run.refusedThird 2 =
      some (.ok (.int 3)) :=
    congrArg some (Policy.ofUser_computeDelay 1 .unavailable)
  have asked : (List.range' 1 (3 - 1)).map
      (Run.delayAfter .ofService (Retrier.adapted .ofUser).plan Run.refusedThird) =
      [Value.int 2, .int 3].map (some ∘ .ok) := by
    rw [List.range'_succ, List.range'_one, List.map_cons, List.map_cons, first, second]
    rfl
  have injective (left right : Value)
      (same : (some ∘ .ok) left = (some (.ok right) : Option (Except Fault Value))) :
      left = right :=
    Except.ok.inj (Option.some.inj same)
  have waited := delays.trans asked
  exact ⟨attempts, ending, (List.map_inj_right injective).mp waited⟩

end Retry
