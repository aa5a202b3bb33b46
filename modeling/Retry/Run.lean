import Retry.Strategy

/-!
# Runs

A run makes attempts until one succeeds, the plan says not to retry, or the wait
before the next attempt cannot be computed.
-/

namespace Retry

/-- How a run ends. -/
inductive Ending where
  | succeeded
  | gaveUp (failure : Failure) (decision : Except Fault Bool)
  | stalled (fault : Fault)

/-- A finished run: the number of its last attempt, the delays before the
attempts after the first, and how it ended. -/
structure Run where
  attempts : Nat
  delays : List Value
  ending : Ending

namespace Run

variable (users : UserConditions) (plan : Plan) (hurried : Nat)

/-- The run whose remaining attempts, from number `attempt` on, have the given
outcomes, none being a success; past their end attempts succeed.  After the first
`hurried` attempts there is no wait, and so no delay to compute. -/
def go : (attempt : Nat) → List (Option Failure) → Run
  | attempt, [] | attempt, none :: _ => ⟨attempt, [], .succeeded⟩
  | attempt, some failure :: rest =>
    match (plan.shouldRetry users failure (.int attempt)).outcome with
    | .ok true =>
      if attempt ≤ hurried then go (attempt + 1) rest
      else match (plan.computeDelay users (.int attempt) failure).outcome with
      | .error fault => ⟨attempt, [], .stalled fault⟩
      | .ok delay =>
        let later := go (attempt + 1) rest
        { later with delays := delay :: later.delays }
    | decision => ⟨attempt, [], .gaveUp failure decision⟩

/-- The run of a plan over the outcomes of its attempts. -/
def of (outcomes : List (Option Failure)) : Run :=
  go users plan 0 1 outcomes

/-- The run of a plan that waits only after more than `hurried` attempts. -/
def hurriedOf (outcomes : List (Option Failure)) : Run :=
  go users plan hurried 1 outcomes

/-- The outcomes before the first that cannot be made, and why that one cannot. -/
def untilFault : List (Except Fault (Option Failure)) → List (Option Failure) × Option Fault
  | [] => ([], none)
  | .error fault :: _ => ([], some fault)
  | .ok outcome :: rest =>
    let (made, fault?) := untilFault rest
    (outcome :: made, fault?)

/-- The run of a plan over outcomes of which some cannot be made, which matters only
if an attempt comes to such an outcome. -/
def ofMaking (outcomes : List (Except Fault (Option Failure))) : Except Fault Run :=
  let (made, fault?) := untilFault outcomes
  let run := hurriedOf users plan hurried made
  match fault? with
  | some fault => if made.length < run.attempts then .error fault else .ok run
  | none => .ok run

end Run
end Retry
