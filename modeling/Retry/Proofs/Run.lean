import Retry.Proofs.Backoff
import Retry.Proofs.Decision
import Retry.Run

/-!
# How runs end

A run of a mode's retrier ends by a success or by a decision not to retry, unless it
comes to an attempt after which the delay is out of range.  The main statement says
exactly when that happens: the budget has to allow more than 1025 attempts, and the
first 1025 have to fail with failures that are retried.
-/

namespace Retry

namespace Mode

variable {failure : Failure} {attempt : Nat}

/-- Once the classifier has answered, the delay of a mode's plan is that of one of two
binary64 bases. -/
theorem plan_computeDelay_of_answer
    {users : UserConditions}
    {throttling : Value}
    (answers : (Condition.throttlingClassifier.consult users failure).outcome = .ok throttling)
    (mode : Mode)
    (override : Option Int)
    (attempt : Nat) :
    ∃ base bound : Binary64,
      ((mode.plan override).computeDelay users (.int attempt) failure).outcome =
        backoff (.number (.real base)) (.number (.real bound)) (.int attempt) := by
  have consulted : ((mode.plan override).isThrottling users failure).outcome =
      .ok throttling := answers
  have told : Condition.tell users failure (mode.plan override).rules.classifier throttling =
      .ok throttling.isTruthy := rfl
  have tier : ∃ base : Binary64,
      (mode.plan override).rules.baseOf throttling.isTruthy = .number (.real base) := by
    cases throttling.isTruthy with
    | true => exact ⟨_, rfl⟩
    | false => exact ⟨_, rfl⟩
  obtain ⟨base, tier⟩ := tier
  refine ⟨base, Variant.defaultMaxBackoff, ?_⟩
  rw [Plan.computeDelay_of_told consulted told, tier]
  rfl

/-- The delay of a mode's plan is that of one of two binary64 bases. -/
theorem plan_computeDelay
    (users : UserConditions)
    (mode : Mode)
    (override : Option Int)
    (typed : failure.WellTyped users)
    (attempt : Nat) :
    ∃ base bound : Binary64,
      ((mode.plan override).computeDelay users (.int attempt) failure).outcome =
        backoff (.number (.real base)) (.number (.real bound)) (.int attempt) := by
  have classified : Condition.throttlingClassifier.Returns users failure :=
    Condition.classifier_returns typed.answerable
  obtain ⟨throttling, answers⟩ := classified
  exact plan_computeDelay_of_answer answers mode override attempt

theorem plan_computeDelay_of_le
    (users : UserConditions)
    (mode : Mode)
    (override : Option Int)
    (typed : failure.WellTyped users)
    (first : 1 ≤ attempt)
    (early : attempt ≤ 1024) :
    ∃ delay,
      ((mode.plan override).computeDelay users (.int attempt) failure).outcome =
        .ok delay := by
  obtain ⟨base, bound, same⟩ := mode.plan_computeDelay users override typed attempt
  rw [same]
  exact backoff_real_of_le base (.real bound) first early

theorem plan_computeDelay_of_lt
    (users : UserConditions)
    (mode : Mode)
    (override : Option Int)
    (typed : failure.WellTyped users)
    (late : 1024 < attempt) :
    ((mode.plan override).computeDelay users (.int attempt) failure).outcome =
      .error .outOfRange := by
  obtain ⟨base, bound, same⟩ := mode.plan_computeDelay users override typed attempt
  rw [same]
  exact backoff_real_of_lt base (.real bound) late

end Mode

namespace Run

section Steps

variable {users : UserConditions} {plan : Plan} {attempt : Nat} {failure : Failure}
  {rest : List (Option Failure)}

theorem go_of_refused
    (refused : (plan.shouldRetry users failure (.int attempt)).outcome = .ok false) :
    go users plan 0 attempt (some failure :: rest) =
      ⟨attempt, [], .gaveUp failure (.ok false)⟩ := by
  rw [go, refused]

theorem go_of_fault
    {fault : Fault}
    (first : 1 ≤ attempt)
    (retried : (plan.shouldRetry users failure (.int attempt)).outcome = .ok true)
    (fails : (plan.computeDelay users (.int attempt) failure).outcome = .error fault) :
    go users plan 0 attempt (some failure :: rest) = ⟨attempt, [], .stalled fault⟩ := by
  have waits : ¬attempt ≤ 0 := by omega
  rw [go, retried]
  simp only [if_neg waits, fails]

theorem go_of_delay
    {delay : Value}
    (first : 1 ≤ attempt)
    (retried : (plan.shouldRetry users failure (.int attempt)).outcome = .ok true)
    (waited : (plan.computeDelay users (.int attempt) failure).outcome = .ok delay) :
    go users plan 0 attempt (some failure :: rest) =
      { go users plan 0 (attempt + 1) rest with
        delays := delay :: (go users plan 0 (attempt + 1) rest).delays } := by
  have waits : ¬attempt ≤ 0 := by omega
  rw [go, retried]
  simp only [if_neg waits, waited]

/-- What comes of a failed attempt: the delay before the next one, or the end of the
run. -/
def verdict
    (users : UserConditions)
    (plan : Plan)
    (attempt : Nat)
    (failure : Failure) : Except Ending Value :=
  match (plan.shouldRetry users failure (.int attempt)).outcome with
  | .ok true => (plan.computeDelay users (.int attempt) failure).outcome.mapError .stalled
  | decision => .error (.gaveUp failure decision)

theorem go_of_verdict_error
    {ending : Ending}
    (first : 1 ≤ attempt)
    (ends : verdict users plan attempt failure = .error ending) :
    go users plan 0 attempt (some failure :: rest) = ⟨attempt, [], ending⟩ := by
  rw [verdict] at ends
  split at ends
  · rename_i retried
    obtain ⟨fault, fails, rfl⟩ := Outcome.mapError_eq_error_iff.mp ends
    exact go_of_fault first retried fails
  · rename_i notRetried
    cases ends
    rw [go]
    split
    · rename_i retried
      exact absurd retried notRetried
    · rfl

theorem go_of_verdict_ok
    {delay : Value}
    (first : 1 ≤ attempt)
    (goesOn : verdict users plan attempt failure = .ok delay) :
    go users plan 0 attempt (some failure :: rest) =
      { go users plan 0 (attempt + 1) rest with
        delays := delay :: (go users plan 0 (attempt + 1) rest).delays } := by
  rw [verdict] at goesOn
  split at goesOn
  · rename_i retried
    cases waited : (plan.computeDelay users (.int attempt) failure).outcome with
    | error fault =>
      rw [waited] at goesOn
      cases goesOn
    | ok other =>
      rw [waited] at goesOn
      cases goesOn
      exact go_of_delay first retried waited
  · cases goesOn

end Steps

/-- Whether a number of attempts all fail, with failures of which a canonical condition
approves. -/
def AllRetried
    (users : UserConditions) : Nat → List (Option Failure) → Prop
  | 0, _ => True
  | _ + 1, [] | _ + 1, none :: _ => False
  | number + 1, some failure :: rest =>
    (∃ condition ∈ Condition.canonical, condition.Approves users failure) ∧
      AllRetried users number rest

/-- Whether a run ends by a success, or by a decision not to retry. -/
def IsDecided (run : Run) : Prop :=
  run.ending = .succeeded ∨ ∃ failure, run.ending = .gaveUp failure (.ok false)

/-- Whether a run ends after attempt 1025, whose delay is out of range. -/
def IsOutOfRange (run : Run) : Prop :=
  run.ending = .stalled .outOfRange ∧ run.attempts = 1025

/-- The attempts that remain up to attempt 1025 end the run out of range if all of them
are retried and the budget allows yet another one; else the run is decided. -/
theorem go_ending
    (users : UserConditions)
    (mode : Mode)
    (override : Option Int)
    {outcomes : List (Option Failure)}
    (typed : ∀ failure, some failure ∈ outcomes → failure.WellTyped users)
    {attempt remaining : Nat}
    (first : 1 ≤ attempt)
    (limit : attempt + remaining = 1025) :
    (1025 < override.getD mode.variant.maxAttempts ∧
        AllRetried users (remaining + 1) outcomes ∧
        (go users (mode.plan override) 0 attempt outcomes).IsOutOfRange) ∨
      (¬(1025 < override.getD mode.variant.maxAttempts ∧
          AllRetried users (remaining + 1) outcomes) ∧
        (go users (mode.plan override) 0 attempt outcomes).IsDecided) := by
  induction outcomes generalizing attempt remaining with
  | nil => exact Or.inr ⟨fun all => all.2, Or.inl rfl⟩
  | cons outcome rest inductionHypothesis =>
    cases outcome with
    | none => exact Or.inr ⟨fun all => all.2, Or.inl rfl⟩
    | some failure =>
      have headTyped : failure.WellTyped users := typed failure (List.mem_cons_self ..)
      obtain ⟨decision, decides, approved⟩ :=
        mode.plan_shouldRetry users override headTyped attempt
      cases decision with
      | false =>
        refine Or.inr ⟨?_, Or.inr ⟨failure, by rw [go_of_refused decides]⟩⟩
        rintro ⟨budget, approves, _⟩
        have left : (attempt : Int) < override.getD mode.variant.maxAttempts := by omega
        cases approved.mpr ⟨left, approves⟩
      | true =>
        obtain ⟨left, approves⟩ := approved.mp rfl
        cases remaining with
        | zero =>
          -- The attempt is the one whose delay is out of range.
          have late : 1024 < attempt := by omega
          have fails := mode.plan_computeDelay_of_lt users override headTyped late
          refine Or.inl ⟨by omega, ⟨approves, trivial⟩, ?_, ?_⟩
          · rw [go_of_fault first decides fails]
          · rw [go_of_fault first decides fails]
            exact limit
        | succ remaining =>
          have early : attempt ≤ 1024 := by omega
          obtain ⟨delay, waited⟩ :=
            mode.plan_computeDelay_of_le users override headTyped first early
          have restTyped : ∀ failure, some failure ∈ rest → failure.WellTyped users :=
            fun failure member => typed failure (List.mem_cons_of_mem _ member)
          have restLimit : attempt + 1 + remaining = 1025 := by omega
          have later := inductionHypothesis restTyped (Nat.le_succ_of_le first) restLimit
          rw [go_of_delay first decides waited]
          rcases later with ⟨budget, all, ends⟩ | ⟨notAll, ends⟩
          · exact Or.inl ⟨budget, ⟨approves, all⟩, ends⟩
          · exact Or.inr ⟨fun all => notAll ⟨all.1, all.2.2⟩, ends⟩

/-- Attempts beyond the budget are not made, so their outcomes do not matter. -/
theorem go_append
    {users : UserConditions}
    {plan : Plan}
    {budget : Int}
    (allows : plan.maxAttempts = .int budget)
    (hurried : Nat)
    {attempt : Nat}
    (left : attempt ≤ budget)
    {outcomes : List (Option Failure)}
    (covered : budget < attempt + outcomes.length)
    (more : List (Option Failure)) :
    go users plan hurried attempt (outcomes ++ more) =
      go users plan hurried attempt outcomes := by
  induction outcomes generalizing attempt with
  | nil =>
    rw [List.length_nil] at covered
    omega
  | cons outcome rest inductionHypothesis =>
    cases outcome with
    | none => rfl
    | some failure =>
      rw [List.cons_append, go, go]
      rcases Int.lt_or_le attempt budget with unspent | spent
      · have next : ((attempt + 1 : Nat) : Int) ≤ budget := by omega
        have restCovered : budget < ((attempt + 1 : Nat) : Int) + rest.length := by
          rw [List.length_cons] at covered
          omega
        rw [inductionHypothesis next restCovered]
      · rw [Plan.shouldRetry_of_spent allows spent]
        rfl

theorem allRetried_iff
    (users : UserConditions)
    (number : Nat)
    (outcomes : List (Option Failure)) :
    AllRetried users number outcomes ↔
      ∀ i < number, ∃ failure, outcomes[i]? = some (some failure) ∧
        ∃ condition ∈ Condition.canonical, condition.Approves users failure := by
  induction outcomes generalizing number with
  | nil =>
    cases number with
    | zero => simp [AllRetried]
    | succ number =>
      simp only [AllRetried, false_iff]
      intro all
      obtain ⟨_, missing, _⟩ := all 0 (Nat.succ_pos number)
      cases missing
  | cons outcome rest inductionHypothesis =>
    cases number with
    | zero => simp [AllRetried]
    | succ number =>
      cases outcome with
      | none =>
        simp only [AllRetried, false_iff]
        intro all
        obtain ⟨_, succeeded, _⟩ := all 0 (Nat.succ_pos number)
        cases succeeded
      | some failure =>
        rw [AllRetried, inductionHypothesis number]
        constructor
        · rintro ⟨approves, later⟩ i below
          cases i with
          | zero => exact ⟨failure, rfl, approves⟩
          | succ i => exact later i (Nat.lt_of_succ_lt_succ below)
        · intro all
          refine ⟨?_, fun i below => all (i + 1) (Nat.succ_lt_succ below)⟩
          obtain ⟨other, same, approves⟩ := all 0 (Nat.succ_pos number)
          cases same
          exact approves

theorem IsDecided.not_isOutOfRange
    {run : Run}
    (decided : run.IsDecided) :
    ¬run.IsOutOfRange := by
  rintro ⟨stalled, _⟩
  rcases decided with succeeded | ⟨failure, gaveUp⟩
  · rw [succeeded] at stalled
    cases stalled
  · rw [gaveUp] at stalled
    cases stalled

/-- A run of a mode's plan is decided, unless its first 1025 attempts are all retried and
its budget allows another one. -/
theorem of_ending
    (users : UserConditions)
    (mode : Mode)
    (override : Option Int)
    {outcomes : List (Option Failure)}
    (typed : ∀ failure, some failure ∈ outcomes → failure.WellTyped users) :
    ((of users (mode.plan override) outcomes).IsOutOfRange ↔
        1025 < override.getD mode.variant.maxAttempts ∧ AllRetried users 1025 outcomes) ∧
      ((of users (mode.plan override) outcomes).IsDecided ↔
        ¬(1025 < override.getD mode.variant.maxAttempts ∧
          AllRetried users 1025 outcomes)) := by
  have limit : 1 + 1024 = 1025 := rfl
  rcases go_ending users mode override typed (Nat.le_refl 1) limit with
    ⟨budget, all, ends⟩ | ⟨notAll, ends⟩
  · have both : 1025 < override.getD mode.variant.maxAttempts ∧
        AllRetried users 1025 outcomes := ⟨budget, all⟩
    refine ⟨iff_of_true ends both, iff_of_false ?_ (not_not_intro both)⟩
    intro decided
    exact decided.not_isOutOfRange ends
  · exact ⟨iff_of_false ends.not_isOutOfRange notAll, iff_of_true ends notAll⟩

/-- Whether a budget lets a run come to the attempt whose delay is out of range: there
are that many attempts, the budget allows yet another one, and all of them are retried. -/
def LeavesRange
    (users : UserConditions)
    (budget : Int)
    (length : Nat)
    (outcomes : Nat → Option Failure) : Prop :=
  1025 < budget ∧ 1025 ≤ length ∧
    ∀ number < 1025, ∃ failure, outcomes number = some failure ∧
      ∃ condition ∈ Condition.canonical, condition.Approves users failure

theorem allRetried_range_iff
    (users : UserConditions)
    (length : Nat)
    (outcomes : Nat → Option Failure) :
    AllRetried users 1025 ((List.range length).map outcomes) ↔
      1025 ≤ length ∧
        ∀ number < 1025, ∃ failure, outcomes number = some failure ∧
          ∃ condition ∈ Condition.canonical, condition.Approves users failure := by
  have within (number : Nat) (failure : Failure) :
      ((List.range length).map outcomes)[number]? = some (some failure) ↔
        number < length ∧ outcomes number = some failure := by
    rw [List.getElem?_map, Option.map_eq_some_iff]
    constructor
    · rintro ⟨other, found, same⟩
      obtain ⟨below, here⟩ := List.getElem?_eq_some_iff.mp found
      rw [List.getElem_range] at here
      rw [List.length_range] at below
      exact ⟨below, here ▸ same⟩
    · rintro ⟨below, same⟩
      exact ⟨number, List.getElem?_range below, same⟩
  rw [allRetried_iff]
  constructor
  · intro all
    refine ⟨?_, ?_⟩
    · obtain ⟨failure, found, _⟩ := all 1024 (by decide)
      have below := ((within 1024 failure).mp found).1
      omega
    · intro number below
      obtain ⟨failure, found, approves⟩ := all number below
      exact ⟨failure, ((within number failure).mp found).2, approves⟩
  · rintro ⟨long, all⟩ number below
    obtain ⟨failure, found, approves⟩ := all number below
    exact ⟨failure, (within number failure).mpr ⟨by omega, found⟩, approves⟩

end Run

theorem Mode.one_le_budget
    {env : Environment}
    {override : Option Int}
    (read : Settings.attempts env = .ok override)
    (mode : Mode) :
    1 ≤ override.getD mode.variant.maxAttempts := by
  cases override with
  | none => cases mode <;> decide
  | some budget => exact Settings.one_le_of_attempts read

/-- A run of the retrier of a mode is decided, for any finite number of outcomes of its
attempts, unless its first 1025 attempts all fail with failures that are retried and the
budget allows another one.  It then ends after attempt 1025, whose delay is out of range
before the bound is applied.  Outcomes beyond the budget do not matter, so this holds
of runs without end too. -/
theorem Retrier.run_isOutOfRange_iff
    {env : Environment}
    {override : Option Int}
    (read : Settings.attempts env = .ok override)
    (mode : Mode)
    (users : UserConditions)
    {outcomes : Nat → Option Failure}
    (typed : ∀ number failure, outcomes number = some failure → failure.WellTyped users)
    (length : Nat) :
    ∃ retrier budget,
      (Retrier.forMode env mode).outcome = .ok retrier ∧
      retrier.plan.maxAttempts = .int budget ∧
      budget = override.getD mode.variant.maxAttempts ∧
      ((Run.of users retrier.plan ((List.range length).map outcomes)).IsOutOfRange ↔
        Run.LeavesRange users budget length outcomes) ∧
      ((Run.of users retrier.plan ((List.range length).map outcomes)).IsDecided ↔
        ¬Run.LeavesRange users budget length outcomes) ∧
      (budget ≤ length → ∀ more,
        Run.of users retrier.plan ((List.range length).map outcomes ++ more) =
          Run.of users retrier.plan ((List.range length).map outcomes)) := by
  obtain ⟨retrier, selected, plan⟩ := mode.retrier_of_ok read
  have listTyped : ∀ failure, some failure ∈ (List.range length).map outcomes →
      failure.WellTyped users := by
    intro failure member
    obtain ⟨number, _, found⟩ := List.mem_map.mp member
    exact typed number failure found
  obtain ⟨outOfRange, decided⟩ := Run.of_ending users mode override listTyped
  rw [Run.allRetried_range_iff] at outOfRange decided
  refine ⟨retrier, _, selected, by rw [plan]; rfl, rfl, ?_, ?_, ?_⟩
  · rw [plan]
    exact outOfRange
  · rw [plan]
    exact decided
  · intro covered more
    have first : ((1 : Nat) : Int) ≤ override.getD mode.variant.maxAttempts :=
      mode.one_le_budget read
    have allows : retrier.plan.maxAttempts =
        .int (override.getD mode.variant.maxAttempts) := by
      rw [plan]
      rfl
    refine Run.go_append allows 0 first ?_ more
    rw [List.length_map, List.length_range]
    omega

/-- A run under the default budget is decided however often the service is
unavailable. -/
theorem Retrier.run_unavailable_isDecided :
    ∃ retrier, (Retrier.forMode .empty .standard).outcome = .ok retrier ∧
      (Run.of (fun _ _ => .ok .null) retrier.plan
        ((List.range 2000).map fun _ => some Failure.unavailable)).IsDecided := by
  have read : Settings.attempts .empty = .ok none := rfl
  have typed : ∀ (_ : Nat) failure, some Failure.unavailable = some failure →
      failure.WellTyped (fun _ _ => .ok .null) := by
    rintro _ _ ⟨⟩
    exact Failure.unavailable_wellTyped _
  obtain ⟨retrier, budget, selected, _, same, _, decided, _⟩ :=
    run_isOutOfRange_iff read .standard (fun _ _ => .ok .null) typed 2000
  refine ⟨retrier, selected, decided.mpr ?_⟩
  rintro ⟨beyond, _⟩
  rw [same] at beyond
  exact absurd beyond (by decide)

/-- With a budget of 1026 attempts a run of a service that stays unavailable comes to the
delay that is out of range. -/
theorem Retrier.run_unavailable_isOutOfRange :
    ∃ retrier,
      (Retrier.forMode ⟨[("SDK_MAX_ATTEMPTS", "1026")]⟩ .standard).outcome = .ok retrier ∧
      (Run.of (fun _ _ => .ok .null) retrier.plan
        (List.replicate 1026 (some Failure.unavailable))).IsOutOfRange := by
  have read : Settings.attempts ⟨[("SDK_MAX_ATTEMPTS", "1026")]⟩ = .ok (some 1026) := rfl
  have typed : ∀ failure, some failure ∈ List.replicate 1026 (some Failure.unavailable) →
      failure.WellTyped (fun _ _ => .ok .null) := by
    intro failure member
    cases List.eq_of_mem_replicate member
    exact Failure.unavailable_wellTyped _
  obtain ⟨retrier, selected, plan⟩ := Mode.standard.retrier_of_ok read
  refine ⟨retrier, selected, ?_⟩
  rw [plan]
  refine (Run.of_ending _ _ _ typed).1.mpr ⟨by decide, (Run.allRetried_iff _ _ _).mpr ?_⟩
  intro number below
  refine ⟨Failure.unavailable, ?_, ?_⟩
  · exact List.getElem?_replicate_of_lt (by omega)
  · exact (Condition.canonical_approves_iff (Failure.unavailable_wellTyped _)
      Failure.unavailable_plain).mpr Failure.unavailable_isRetried

end Retry
