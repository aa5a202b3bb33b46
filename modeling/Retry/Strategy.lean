import Retry.Markers
import Retry.Plan
import Retry.Variant

/-!
# Strategies and policies

A strategy is a finished plan of some variant.  A policy is the older form, whose
budget counts retries instead of attempts.  Clients use either through
`Retrier`, which presents both as a plan.
-/

namespace Retry

/-- A finished strategy.  Its label is that of its variant unless a client
extended the variant's strategies. -/
structure Strategy where
  label : TypeLabel
  variant : Variant
  plan : Plan
  defaultsAdded : Markers

namespace Strategy

/-- Equality of strategies: of the same label, with equal fields. -/
def same (left right : Strategy) : Bool :=
  left.label = right.label && left.plan.same right.plan &&
    left.defaultsAdded.same right.defaultsAdded

/-- A strategy made directly from its fields, which are not checked.  Its markers are
the items of any collection of keys. -/
def make
    (label : TypeLabel)
    (variant : Variant)
    (plan : Plan)
    (defaultsAdded : Value) : Except Fault Strategy := do
  let markers ← compatible (defaultsAdded.items?.bind Markers.ofValues?)
  if variant.isConcrete then return ⟨label, variant, plan, markers⟩
  else throw .incompatible

/-- The names of a strategy's fields. -/
def fields : List String :=
  ["max_attempts", "retry_conditions", "throttling_condition", "base_delay",
    "throttled_base_delay", "max_backoff", "defaults_added"]

/-- Whether a strategy is of one of the library's own labels.  It then refuses
every assignment, and one of a client's label only assignments to fields. -/
def isSealed (strategy : Strategy) : Bool :=
  [Variant.standard, .legacy, .adaptive].any fun variant =>
    variant.strategyLabel = strategy.label

end Strategy

/-- A policy: rules, a budget of retries, and the mode it was made for. -/
structure Policy where
  mode : Value
  numRetries : Number
  rules : Rules

namespace Policy

/-- A policy, unless its budget is negative. -/
def make
    (mode numRetries : Value)
    (rules : Rules) : Except Fault Policy := do
  let numRetries ← numRetries.asNumber
  if numRetries.lt (.int 0) then .error .negativeRetries
  else .ok ⟨mode, numRetries, rules⟩

/-- The plan of a policy: its retries come after a first attempt. -/
def plan (policy : Policy) : Plan :=
  ⟨.number policy.numRetries.succ, policy.rules⟩

/-- Equality of policies, field by field. -/
def same (left right : Policy) : Bool :=
  left.mode.same right.mode && left.numRetries.agrees right.numRetries &&
    left.rules.same right.rules

/-- The label of policies. -/
def label : TypeLabel := ⟨"sdk_retry.retry_policy", "RetryPolicy"⟩

/-- The label of policies in the guise of strategies. -/
def adapterLabel : TypeLabel := ⟨"sdk_retry.retry_policy", "RetryPolicyAdapter"⟩

/-- The tag of policies in the guise of strategies. -/
def adapterKind : String := "retry_policy_adapter"

end Policy

/-- What clients retry with: a strategy, or a policy in the guise of one. -/
inductive Retrier where
  | strategy (strategy : Strategy)
  | adapted (policy : Policy)

namespace Retrier

/-- The plan to retry by. -/
def plan : Retrier → Plan
  | strategy s => s.plan
  | adapted p => p.plan

/-- The tag that tells the kind of retrier. -/
def kind : Retrier → String
  | strategy s => s.variant.kind
  | adapted _ => Policy.adapterKind

/-- The label of a retrier in diagnostics. -/
def label : Retrier → TypeLabel
  | strategy s => s.label
  | adapted _ => Policy.adapterLabel

/-- Equality of retriers of one kind. -/
def same : Retrier → Retrier → Bool
  | strategy left, strategy right => left.same right
  | adapted left, adapted right => left.same right
  | _, _ => false

end Retrier
end Retry
