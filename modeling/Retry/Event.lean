import Retry.Condition

/-!
# Events

What the library reports for debugging while it configures, builds and selects
strategies.
-/

namespace Retry

/-- Something worth reporting. -/
inductive Event where
  | conditionsAdded (builder : String)
  | overrideApplied (builder : String) (maxAttempts : Int)
  | defaultsPresent (builder : String)
  | strategyBuilt
      (kind : String)
      (maxAttempts : Value)
      (conditions : Nat)
      (defaultsAdded : List Value)
  | policyCreated (mode : Mode) (numRetries : Int) (override : Option Int)
  | strategySelected (mode : Mode) (kind : String)

namespace Event

/-- How an event is announced. -/
def title : Event → String
  | conditionsAdded _ => "Added SDK retry conditions"
  | overrideApplied .. => "Applied max attempts override"
  | defaultsPresent _ => "SDK retry defaults already applied"
  | strategyBuilt .. => "Built retry strategy"
  | policyCreated .. => "Created retry policy"
  | strategySelected .. => "Selected retry strategy"

/-- The particulars of an event, each under its name. -/
def fields : Event → List (String × Value)
  | conditionsAdded builder =>
    [("builder", .text builder),
      ("conditions_count", .int Condition.sdk.length),
      ("exception_types",
        .list (Codes.retryableClasses.map fun known => .text known.name))]
  | overrideApplied builder maxAttempts =>
    [("builder", .text builder), ("max_attempts", .int maxAttempts)]
  | defaultsPresent builder => [("builder", .text builder)]
  | strategyBuilt kind maxAttempts conditions defaultsAdded =>
    [("kind", .text kind),
      ("max_attempts", maxAttempts),
      ("conditions_count", .int conditions),
      ("defaults_added", .list defaultsAdded)]
  | policyCreated mode numRetries override =>
    [("retry_mode", .text mode.name),
      ("num_retries", .int numRetries),
      ("max_attempts_override", (override.map Value.int).getD .null)]
  | strategySelected mode kind =>
    [("retry_mode", .text mode.name), ("kind", .text kind)]

end Event

/-- The outcome of an operation with the events reported on the way to it. -/
structure Reported (α : Type) where
  events : List Event
  outcome : Except Fault α

end Retry
