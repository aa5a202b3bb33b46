import Retry.Proofs.Run

/-!
# Runs side by side

How runs over the same outcomes compare.  The main statement says that the retriers of two
modes with one budget make runs that end at the same attempt and in the same way, and that
a larger budget only adds to a run that spends the smaller one.
-/

namespace Retry

namespace Mode

variable {users : UserConditions} {failure : Failure} {attempt : Nat} {fault : Fault}

/-- The delay of a mode's plan cannot be computed where the classifier fails, or where it
is out of range.  Neither depends on the mode. -/
theorem plan_computeDelay_eq_error_iff
    (mode : Mode)
    (override : Option Int)
    (first : 1 ≤ attempt) :
    ((mode.plan override).computeDelay users (.int attempt) failure).outcome = .error fault ↔
      (Condition.throttlingClassifier.consult users failure).outcome = .error fault ∨
        (∃ throttling,
          (Condition.throttlingClassifier.consult users failure).outcome = .ok throttling) ∧
        1024 < attempt ∧ fault = .outOfRange := by
  cases classified : (Condition.throttlingClassifier.consult users failure).outcome with
  | error reason =>
    have fails : ((mode.plan override).computeDelay users (.int attempt) failure).outcome =
        .error reason := by
      have asked : ((mode.plan override).isThrottling users failure).outcome =
          .error reason := classified
      rw [Plan.computeDelay, asked, Outcome.error_bind]
    rw [fails]
    simp
  | ok throttling =>
    obtain ⟨base, bound, delays⟩ :=
      plan_computeDelay_of_answer classified mode override attempt
    rw [delays, backoff_real_eq_error_iff base (.real bound) first]
    simp

/-- Under one budget the plans of any two modes end runs after the same failures, and in
the same way. -/
theorem verdict_eq_error_iff
    (mode other : Mode)
    (budget : Int)
    (first : 1 ≤ attempt)
    {ending : Ending} :
    Run.verdict users (mode.plan (some budget)) attempt failure = .error ending ↔
      Run.verdict users (other.plan (some budget)) attempt failure = .error ending := by
  have sameDecision : (mode.plan (some budget)).shouldRetry users failure (.int attempt) =
      (other.plan (some budget)).shouldRetry users failure (.int attempt) := rfl
  rw [Run.verdict, Run.verdict, sameDecision]
  split
  · simp only [Outcome.mapError_eq_error_iff, mode.plan_computeDelay_eq_error_iff _ first,
      other.plan_computeDelay_eq_error_iff _ first]
  · exact Iff.rfl

end Mode

namespace Run

variable {users : UserConditions}

/-- Plans that end runs after the same failures, and in the same way, make runs that end
alike. -/
theorem go_ends_alike
    {left right : Plan}
    (alike : ∀ attempt failure ending, 1 ≤ attempt →
      (verdict users left attempt failure = .error ending ↔
        verdict users right attempt failure = .error ending))
    {attempt : Nat}
    (first : 1 ≤ attempt)
    (outcomes : List (Option Failure)) :
    (go users left 0 attempt outcomes).attempts =
        (go users right 0 attempt outcomes).attempts ∧
      (go users left 0 attempt outcomes).ending =
        (go users right 0 attempt outcomes).ending := by
  induction outcomes generalizing attempt with
  | nil => exact ⟨rfl, rfl⟩
  | cons outcome rest inductionHypothesis =>
    cases outcome with
    | none => exact ⟨rfl, rfl⟩
    | some failure =>
      cases reached : verdict users right attempt failure with
      | error ending =>
        have ends := (alike attempt failure ending first).mpr reached
        rw [go_of_verdict_error first ends, go_of_verdict_error first reached]
        exact ⟨rfl, rfl⟩
      | ok delay =>
        cases leftReached : verdict users left attempt failure with
        | error ending =>
          have ends := (alike attempt failure ending first).mp leftReached
          rw [reached] at ends
          cases ends
        | ok leftDelay =>
          rw [go_of_verdict_ok first leftReached, go_of_verdict_ok first reached]
          exact inductionHypothesis (Nat.le_succ_of_le first)

/-- A plan with the same rules and a larger budget makes a run that begins with the same
delays, and the same run unless the smaller budget ends it. -/
theorem go_grows
    {smaller larger : Plan}
    (sameRules : smaller.rules = larger.rules)
    {budget more : Int}
    (allows : smaller.maxAttempts = .int budget)
    (allowsMore : larger.maxAttempts = .int more)
    (grows : budget ≤ more)
    {attempt : Nat}
    (first : 1 ≤ attempt)
    (outcomes : List (Option Failure)) :
    (go users smaller 0 attempt outcomes).delays <+:
        (go users larger 0 attempt outcomes).delays ∧
      ((go users smaller 0 attempt outcomes).attempts < budget ∨
          (go users smaller 0 attempt outcomes).ending = .succeeded →
        go users larger 0 attempt outcomes = go users smaller 0 attempt outcomes) := by
  induction outcomes generalizing attempt with
  | nil => exact ⟨List.prefix_refl _, fun _ => rfl⟩
  | cons outcome rest inductionHypothesis =>
    cases outcome with
    | none => exact ⟨List.prefix_refl _, fun _ => rfl⟩
    | some failure =>
      rcases Int.lt_or_le attempt budget with left | spent
      · have same : verdict users larger attempt failure =
            verdict users smaller attempt failure := by
          rw [verdict, verdict, Plan.shouldRetry_of_lt allows left,
            Plan.shouldRetry_of_lt allowsMore (Int.lt_of_lt_of_le left grows),
            Plan.isRetryable, Plan.isRetryable, Plan.computeDelay, Plan.computeDelay,
            Plan.isThrottling, Plan.isThrottling, sameRules]
        cases reached : verdict users smaller attempt failure with
        | error ending =>
          rw [go_of_verdict_error first reached,
            go_of_verdict_error first (same.trans reached)]
          exact ⟨List.prefix_refl _, fun _ => rfl⟩
        | ok delay =>
          rw [go_of_verdict_ok first reached, go_of_verdict_ok first (same.trans reached)]
          obtain ⟨begins, restSame⟩ := inductionHypothesis (Nat.le_succ_of_le first)
          refine ⟨(List.prefix_cons_inj delay).mpr begins, fun ended => ?_⟩
          rw [restSame ended]
      · have refused : (smaller.shouldRetry users failure (.int attempt)).outcome =
            .ok false := by
          rw [Plan.shouldRetry_of_spent allows spent]
          rfl
        rw [go_of_refused refused]
        refine ⟨List.nil_prefix, ?_⟩
        rintro (early | succeeded)
        · exact absurd early (Int.not_lt.mpr spent)
        · cases succeeded

/-- Under one budget the plans of any two modes make runs that end alike. -/
theorem of_modes_agree
    (users : UserConditions)
    (mode other : Mode)
    (budget : Int)
    (outcomes : List (Option Failure)) :
    (of users (mode.plan (some budget)) outcomes).attempts =
        (of users (other.plan (some budget)) outcomes).attempts ∧
      (of users (mode.plan (some budget)) outcomes).ending =
        (of users (other.plan (some budget)) outcomes).ending := by
  refine go_ends_alike ?_ (Nat.le_refl 1) outcomes
  intro attempt failure ending first
  exact mode.verdict_eq_error_iff other budget first

/-- A larger budget only adds to a run of a mode's plan that spends the smaller one. -/
theorem of_mode_grows
    (users : UserConditions)
    (mode : Mode)
    {budget more : Int}
    (grows : budget ≤ more)
    (outcomes : List (Option Failure)) :
    (of users (mode.plan (some budget)) outcomes).delays <+:
        (of users (mode.plan (some more)) outcomes).delays ∧
      ((of users (mode.plan (some budget)) outcomes).attempts < budget ∨
          (of users (mode.plan (some budget)) outcomes).ending = .succeeded →
        of users (mode.plan (some more)) outcomes =
          of users (mode.plan (some budget)) outcomes) := by
  have sameRules : (mode.plan (some budget)).rules = (mode.plan (some more)).rules := rfl
  have allows : (mode.plan (some budget)).maxAttempts = .int budget := rfl
  have allowsMore : (mode.plan (some more)).maxAttempts = .int more := rfl
  exact go_grows sameRules allows allowsMore grows (Nat.le_refl 1) outcomes

end Run

/-- Under one budget the retriers of any two modes make runs of as many attempts that end
in the same way.  Under a larger budget the run of a mode begins with the same delays, and
is the same run where it ended before the smaller budget was spent or by a success.
Outcomes beyond the larger budget do not matter, so this holds of runs without end too. -/
theorem Retrier.runs_agree_and_grow
    {env moreEnv : Environment}
    {budget more : Int}
    (read : Settings.attempts env = .ok (some budget))
    (moreRead : Settings.attempts moreEnv = .ok (some more))
    (grows : budget ≤ more)
    (mode other : Mode)
    (users : UserConditions)
    (outcomes : List (Option Failure)) :
    ∃ retrier peer larger,
      (Retrier.forMode env mode).outcome = .ok retrier ∧
      (Retrier.forMode env other).outcome = .ok peer ∧
      (Retrier.forMode moreEnv mode).outcome = .ok larger ∧
      (Run.of users retrier.plan outcomes).attempts =
        (Run.of users peer.plan outcomes).attempts ∧
      (Run.of users retrier.plan outcomes).ending =
        (Run.of users peer.plan outcomes).ending ∧
      (Run.of users retrier.plan outcomes).delays <+:
        (Run.of users larger.plan outcomes).delays ∧
      ((Run.of users retrier.plan outcomes).attempts < budget ∨
          (Run.of users retrier.plan outcomes).ending = .succeeded →
        Run.of users larger.plan outcomes = Run.of users retrier.plan outcomes) ∧
      (more ≤ outcomes.length → ∀ beyond,
        Run.of users retrier.plan (outcomes ++ beyond) =
          Run.of users retrier.plan outcomes ∧
        Run.of users peer.plan (outcomes ++ beyond) = Run.of users peer.plan outcomes ∧
        Run.of users larger.plan (outcomes ++ beyond) =
          Run.of users larger.plan outcomes) := by
  obtain ⟨retrier, selected, plan⟩ := mode.retrier_of_ok read
  obtain ⟨peer, peerSelected, peerPlan⟩ := other.retrier_of_ok read
  obtain ⟨larger, largerSelected, largerPlan⟩ := mode.retrier_of_ok moreRead
  have positive : 1 ≤ budget := Settings.one_le_of_attempts read
  obtain ⟨attempts, ending⟩ := Run.of_modes_agree users mode other budget outcomes
  obtain ⟨begins, same⟩ := Run.of_mode_grows users mode grows outcomes
  refine ⟨retrier, peer, larger, selected, peerSelected, largerSelected, ?_⟩
  rw [plan, peerPlan, largerPlan]
  refine ⟨attempts, ending, begins, same, fun covered beyond => ⟨?_, ?_, ?_⟩⟩
  all_goals
    refine Run.go_append rfl 0 ?_ ?_ beyond
    all_goals
      simp only [Option.getD_some]
      omega

/-- Where a service stays unavailable, two modes make runs alike under a budget of two
attempts, with one delay, and a third attempt adds another. -/
theorem Retrier.runs_unavailable_grow :
    ∃ retrier peer larger,
      (Retrier.forMode ⟨[("SDK_MAX_ATTEMPTS", "2")]⟩ .legacy).outcome = .ok retrier ∧
      (Retrier.forMode ⟨[("SDK_MAX_ATTEMPTS", "2")]⟩ .adaptive).outcome = .ok peer ∧
      (Retrier.forMode ⟨[("SDK_MAX_ATTEMPTS", "3")]⟩ .legacy).outcome = .ok larger ∧
      (Run.of (fun _ _ => .ok .null) retrier.plan
          (List.replicate 3 (some Failure.unavailable))).ending =
        (Run.of (fun _ _ => .ok .null) peer.plan
          (List.replicate 3 (some Failure.unavailable))).ending ∧
      (Run.of (fun _ _ => .ok .null) retrier.plan
          (List.replicate 3 (some Failure.unavailable))).delays.map Value.number? =
        [some (.real (Variant.delay 1 1))] ∧
      (Run.of (fun _ _ => .ok .null) larger.plan
          (List.replicate 3 (some Failure.unavailable))).delays.map Value.number? =
        [some (.real (Variant.delay 1 1)), some (.real (Variant.delay 2 1))] ∧
      (Run.of (fun _ _ => .ok .null) retrier.plan
          (List.replicate 3 (some Failure.unavailable))).delays <+:
        (Run.of (fun _ _ => .ok .null) larger.plan
          (List.replicate 3 (some Failure.unavailable))).delays := by
  have read : Settings.attempts ⟨[("SDK_MAX_ATTEMPTS", "2")]⟩ = .ok (some 2) := rfl
  have moreRead : Settings.attempts ⟨[("SDK_MAX_ATTEMPTS", "3")]⟩ = .ok (some 3) := rfl
  have grows : (2 : Int) ≤ 3 := by decide
  obtain ⟨retrier, peer, larger, selected, peerSelected, largerSelected, _, ending, begins,
      _⟩ :=
    runs_agree_and_grow read moreRead grows .legacy .adaptive (fun _ _ => .ok .null)
      (List.replicate 3 (some .unavailable))
  obtain ⟨_, readAgain, plan⟩ := Mode.plan_of_retrier selected
  obtain ⟨_, moreReadAgain, largerPlan⟩ := Mode.plan_of_retrier largerSelected
  obtain rfl := Except.ok.inj (read.symm.trans readAgain)
  obtain rfl := Except.ok.inj (moreRead.symm.trans moreReadAgain)
  refine ⟨retrier, peer, larger, selected, peerSelected, largerSelected, ending, ?_, ?_, begins⟩
  · rw [plan]
    decide +kernel
  · rw [largerPlan]
    decide +kernel

end Retry
