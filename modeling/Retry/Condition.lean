import Retry.Failure.Classification

/-!
# Conditions

A condition says of a failure whether to retry after it.  Conditions are data,
so that a builder can tell whether it already holds one; what a user's own
condition answers, and what the answer means where it does not say so itself, is a
parameter of every decision, and statements about all users' conditions quantify
over it.
-/

namespace Retry

/-- A condition on failures. -/
inductive Condition where
  /-- The failure is worth retrying in itself. -/
  | inherentlyRetryable
  /-- The service reported a retryable status. -/
  | retryableStatus
  /-- The service refused the request over the clocks. -/
  | clockSkew
  /-- The service throttled the request. -/
  | throttled
  /-- The classifier that picks the throttled delay tier. -/
  | throttlingClassifier
  /-- The classifier that never picks the throttled delay tier. -/
  | neverThrottling
  /-- The failure is of a class. -/
  | instanceOf (ref : ClassRef)
  /-- The failure or its direct cause is of a class. -/
  | instanceOrCauseOf (ref : ClassRef)
  /-- A condition of the user's own. -/
  | user (name : String)
  /-- A condition of the user's own that counts as false itself, as one that is made of
  others does while it holds none. -/
  | hollow (name : String)
  /-- A condition of the user's own whose answers do not say by themselves whether they count
  as true: an operation of the user's says it of them, and can fail. -/
  | vague (name telling : String)
  /-- No condition, where one was called for. -/
  | absent
  deriving DecidableEq

namespace Condition

/-- Whether a condition itself counts as true. -/
def isTruthy : Condition → Bool
  | hollow _ | absent => false
  | _ => true

/-- The classifier that a strategy gets where one is registered or none: the one that is, if
it counts as true, and else one that never picks the throttled tier. -/
def classifierOf (registered : Option Condition) : Condition :=
  (registered.filter isTruthy).getD neverThrottling

/-- Whether a condition leaves it to another operation whether its answers count as true. -/
def isVague : Condition → Bool
  | vague .. => true
  | _ => false

theorem ne_absent_of_truthy
    {condition : Condition}
    (truthy : condition.isTruthy = true) :
    condition ≠ .absent := by
  rintro rfl
  cases truthy

/-- An answer of the taxonomy, which no other failure is asked for. -/
def ifSdk
    (failure : Failure)
    (answer : Except Fault Value) : Except Fault Value := do
  if ← failure.isSdk then answer else return .flag false

/-- What a condition answers about a failure. -/
def answer
    (users : UserConditions)
    (failure : Failure) : Condition → Except Fault Value
  | inherentlyRetryable => ifSdk failure (failure.askRetryable users)
  | retryableStatus => do
    if ← failure.isService then .flag <$> failure.hasRetryableStatus
    else return .flag false
  | clockSkew => ifSdk failure (failure.isClockSkewed users)
  | throttled | throttlingClassifier => ifSdk failure (failure.isThrottled users)
  | neverThrottling => .ok (.flag false)
  | instanceOf ref => .flag <$> seen (failure.isInstance ref)
  | instanceOrCauseOf ref => do
    if ← seen (failure.isInstance ref) then return .flag true
    else .flag <$> seen (failure.isCausedBy ref)
  | user name | hollow name | vague name _ => users name failure
  | absent => .error .incompatible

/-- Whether an answer of a condition counts as true. -/
def tell
    (users : UserConditions)
    (failure : Failure)
    (condition : Condition)
    (answer : Value) : Except Fault Bool :=
  match condition with
  | vague _ telling => Value.isTruthy <$> users telling failure
  | _ => .ok answer.isTruthy

theorem tell_of_not_vague
    {condition : Condition}
    (clear : condition.isVague = false)
    (users : UserConditions)
    (failure : Failure)
    (answer : Value) :
    condition.tell users failure answer = .ok answer.isTruthy := by
  cases condition with
  | vague => cases clear
  | _ => rfl

/-- The conditions of the taxonomy, in the order in which they are asked. -/
def sdk : List Condition :=
  [inherentlyRetryable, retryableStatus, clockSkew, throttled]

/-- The conditions on the classes whose failures are retried. -/
def retryableClasses : List Condition :=
  Codes.retryableClasses.map fun known => instanceOrCauseOf (.known known)

/-- Every condition that configuration registers, in order. -/
def canonical : List Condition :=
  sdk ++ retryableClasses

end Condition

/-- The course of a question put to conditions: those asked, in order, and the
outcome. -/
structure Consultation (α : Type) where
  asked : List Condition
  outcome : Except Fault α

namespace Consultation

/-- An outcome reached without asking anyone. -/
def unasked
    {α : Type}
    (outcome : Except Fault α) : Consultation α :=
  ⟨[], outcome⟩

/-- The users' own conditions among those asked, by name and in order. -/
def users
    {α : Type}
    (consultation : Consultation α) : List String :=
  consultation.asked.filterMap fun
    | .user name | .hollow name | .vague name _ => some name
    | _ => none

end Consultation

/-- A fault as it leaves a search among conditions.  A failure that stands for the
end of an iteration would be taken for the end of the search, so a fault of its
own replaces it. -/
def Fault.leavingSearch : Fault → Fault
  | raised failure => if failure.isA .stopIteration then strayEnd else raised failure
  | fault => fault

namespace Condition

/-- One condition asked by itself. -/
def consult
    (users : UserConditions)
    (failure : Failure)
    (condition : Condition) : Consultation Value :=
  ⟨[condition], condition.answer users failure⟩

/-- What a condition that is asked in a search comes to.  It is the fault of a condition that
may have to be replaced, and never one of telling whether an answer counts as true. -/
def decision
    (users : UserConditions)
    (failure : Failure)
    (condition : Condition) : Except Fault Bool :=
  match condition.answer users failure with
  | .error fault => .error fault.leavingSearch
  | .ok answer => condition.tell users failure answer

/-- Whether any condition means yes.  Conditions are asked in order until one
means yes or fails. -/
def any
    (users : UserConditions)
    (failure : Failure) : List Condition → Consultation Bool
  | [] => .unasked (.ok false)
  | condition :: rest =>
    match condition.decision users failure with
    | .error fault => ⟨[condition], .error fault⟩
    | .ok true => ⟨[condition], .ok true⟩
    | .ok false =>
      let later := any users failure rest
      ⟨condition :: later.asked, later.outcome⟩

theorem decision_of_error
    {users : UserConditions}
    {failure : Failure}
    {condition : Condition}
    {fault : Fault}
    (fails : condition.answer users failure = .error fault) :
    condition.decision users failure = .error fault.leavingSearch := by
  rw [decision, fails]

theorem decision_of_ok
    {users : UserConditions}
    {failure : Failure}
    {condition : Condition}
    {answer : Value}
    (answers : condition.answer users failure = .ok answer) :
    condition.decision users failure = condition.tell users failure answer := by
  rw [decision, answers]

@[simp] theorem any_nil
    (users : UserConditions)
    (failure : Failure) :
    any users failure [] = .unasked (.ok false) := rfl

section AnyCons

variable {users : UserConditions} {failure : Failure} {condition : Condition}

theorem any_cons_of_error
    {fault : Fault}
    (fails : condition.decision users failure = .error fault)
    (rest : List Condition) :
    any users failure (condition :: rest) = ⟨[condition], .error fault⟩ := by
  simp [any, fails]

theorem any_cons_of_true
    (approves : condition.decision users failure = .ok true)
    (rest : List Condition) :
    any users failure (condition :: rest) = ⟨[condition], .ok true⟩ := by
  simp [any, approves]

theorem any_cons_of_false
    (refuses : condition.decision users failure = .ok false)
    (rest : List Condition) :
    any users failure (condition :: rest) =
      ⟨condition :: (any users failure rest).asked,
        (any users failure rest).outcome⟩ := by
  simp [any, refuses]

end AnyCons

end Condition
end Retry
