import Retry.Proofs.Selection
import Retry.Proofs.Settings.Integer

/-!
# From the text of a budget to the budget of a retrier

A budget is read from an environment, checked, handed to a builder or turned into a number
of retries, and checked there once more.  The main statement says that it arrives unchanged
at the retrier of every mode, and that none but the first of these checks ever refuses it.
-/

namespace Retry

namespace Settings

variable {env : Environment} {budget : Int}

/-- The budget set by the decimal text of an integer is that integer, if it passes the
check. -/
theorem attempts_of_toString
    (found : env.find? attemptsName = some (toString budget))
    (fits : (Nat.toDigits 10 budget.natAbs).length ≤ maxDigits) :
    attempts env = some <$> checkBudget budget := by
  have read : readInteger (toString budget) = .ok budget := by
    rw [readInteger_toString, if_neg (Nat.not_lt.mpr fits)]
  rw [attempts, found]
  simp only [readBudget, read, Outcome.ok_bind]

/-- One attempt is a budget, and more are. -/
theorem checkBudget_of_one_le
    (positive : 1 ≤ budget) :
    checkBudget budget = .ok budget := by
  rw [checkBudget, if_neg (by omega)]

/-- No attempts are no budget. -/
theorem checkBudget_of_nonpos
    (nonpositive : budget ≤ 0) :
    checkBudget budget = .error .belowOne := by
  rw [checkBudget, if_pos (by omega)]

end Settings

namespace Mode

/-- The budget of attempts that an environment sets reaches the retrier of every mode.  The
decimal text of an integer of an allowed number of digits gives a retrier with exactly this
budget where the integer is one at least, and otherwise is refused as a setting.  In any
environment there is a retrier exactly where the attempts can be read, with the budget that
is read or else the one of the mode, and where they cannot, the error of the setting is what
is told: no later check of the budget and no lack of a classifier ever is. -/
theorem budget_reaches_retrier
    (mode : Mode) :
    (∀ (env : Environment) (budget : Int),
      env.find? Settings.attemptsName = some (toString budget) →
      (Nat.toDigits 10 budget.natAbs).length ≤ Settings.maxDigits →
      (1 ≤ budget →
        ∃ retrier, (Retrier.forMode env mode).outcome = .ok retrier ∧
          retrier.plan.maxAttempts = .int budget) ∧
      (budget ≤ 0 → (Retrier.forMode env mode).outcome = .error (.setting .belowOne))) ∧
    ∀ env : Environment,
      (∃ override retrier,
        Settings.attempts env = .ok override ∧
        (Retrier.forMode env mode).outcome = .ok retrier ∧
        retrier.plan.maxAttempts = .int (override.getD mode.variant.maxAttempts)) ∨
      ∃ error,
        Settings.attempts env = .error error ∧
        (Retrier.forMode env mode).outcome = .error (.setting error) := by
  constructor
  · intro env budget found fits
    have read : Settings.attempts env = some <$> Settings.checkBudget budget :=
      Settings.attempts_of_toString found fits
    constructor
    · intro positive
      rw [Settings.checkBudget_of_one_le positive] at read
      obtain ⟨retrier, selected, plan⟩ := mode.retrier_of_ok read
      refine ⟨retrier, selected, ?_⟩
      rw [plan]
      rfl
    · intro nonpositive
      rw [Settings.checkBudget_of_nonpos nonpositive] at read
      exact mode.retrier_of_error read
  · intro env
    cases read : Settings.attempts env with
    | ok override =>
      obtain ⟨retrier, selected, plan⟩ := mode.retrier_of_ok read
      refine Or.inl ⟨override, retrier, rfl, selected, ?_⟩
      rw [plan]
      rfl
    | error error => exact Or.inr ⟨error, rfl, mode.retrier_of_error read⟩

/-- One attempt is the least budget, also of the mode whose policy counts the retries after
it, and no attempts are refused. -/
theorem single_budget_reaches_retrier :
    (∃ retrier,
      (Retrier.forMode ⟨[("Sdk_Max_Attempts", "1")]⟩ .adaptive).outcome = .ok retrier ∧
        retrier.plan.maxAttempts = .int 1) ∧
      (Retrier.forMode ⟨[("Sdk_Max_Attempts", "0")]⟩ .standard).outcome =
        .error (.setting .belowOne) := by
  refine ⟨?_, ?_⟩
  · exact ((budget_reaches_retrier .adaptive).1 _ 1 rfl (by decide)).1 (by decide)
  · exact ((budget_reaches_retrier .standard).1 _ 0 rfl (by decide)).2 (by decide)

end Mode
end Retry
