import Retry.Failure.Codes
import Retry.Failure.Making

/-!
# Classification of failures

Failures of the taxonomy are asked three questions: whether they are worth
retrying in themselves, whether the service throttled the request, and whether
it refused the request over the clocks.  What a failure itself holds under the name of the
question answers it, else the first class in the lineage that has an answer gives it, so a
defined class can answer in place of the classes it extends.  Answers are values; whether
one means yes is left to who asks.  What an operation of a user's own answers is a parameter
of every question, and statements about all users' operations quantify over it.
-/

namespace Retry

/-- What the users' own conditions, and the operations by which users had failures answer,
say of a failure, each by its name. -/
abbrev UserConditions : Type :=
  String → Failure → Except Fault Value

/-- No operations of users' own: whatever name is asked for is missing. -/
def UserConditions.none : UserConditions :=
  fun _ _ => .error .missingMember

/-- How a failure answers a question. -/
inductive Rule where
  /-- As a client had it answer. -/
  | overridden (override : Override)
  /-- Never. -/
  | never
  /-- As flagged, else whether input or output failed. -/
  | flagOrCause
  /-- As the table of retryable statuses and the other two questions say. -/
  | retryableCodes
  /-- As the throttling tables say. -/
  | throttlingCodes
  /-- As the clock-skew table says. -/
  | clockSkewCodes

namespace Layer

/-- The answer that a class of the taxonomy contributes itself. -/
def rule? (question : Question) : Layer → Option Rule
  | .defined definition => (definition.override? question).map .overridden
  | .known .sdkError => if question = .retryable then some .never else none
  | .known .clientError => if question = .retryable then some .flagOrCause else none
  | .known .serviceError =>
    some <| match question with
      | .retryable => .retryableCodes
      | .throttling => .throttlingCodes
      | .clockSkew => .clockSkewCodes
  | .known _ => none

end Layer

namespace Value

/-- Looks a status code up in a table. -/
def inStatuses
    (value : Value)
    (statuses : List Int) : Except Fault Bool :=
  if value.isKey then .ok (statuses.any value.isInt) else .error .incompatible

/-- Looks an error code up in a table. -/
def inCodes
    (value : Value)
    (codes : List String) : Except Fault Bool :=
  if value.isKey then .ok (codes.any value.isText) else .error .incompatible

end Value

namespace Failure

/-- The rule by which a failure answers a question, if it has one: to answer as it itself
holds, else that of the first class in its lineage that has one. -/
def rule?
    (failure : Failure)
    (question : Question) : Option Rule :=
  ((failure.facts.override? question).map .overridden).or
    (failure.failureClass.lineage.findSome? (Layer.rule? question))

/-- The rule by which a failure that is asked a question answers it. -/
def rule
    (failure : Failure)
    (question : Question) : Except Refusal Rule := do
  failure.failureClass.look
  match failure.rule? question with
  | some rule => return rule
  | none => throw failure.failureClass.lacking

/-- The answer of what a client put in the place of the taxonomy's own. -/
def overriddenAnswer
    (failure : Failure)
    (users : UserConditions) : Override → Except Fault Value
  | .held .reserved => seen (.error failure.failureClass.lacking)
  | .held member => seen member.ask
  | .written operation => users operation failure

/-- Whether a failure is of the taxonomy. -/
def isSdk (failure : Failure) : Except Fault Bool :=
  seen (failure.isInstance (.known .sdkError))

/-- Whether the service answered, if with a failure. -/
def isService (failure : Failure) : Except Fault Bool :=
  seen (failure.isInstance (.known .serviceError))

/-- Whether a failure is one of input or output. -/
def isInputOutput (failure : Failure) : Except Fault Bool :=
  seen (failure.failureClass.countsAsAny Codes.inputOutputClasses)

/-- Whether a failure is directly caused by one of input or output. -/
def hasInputOutputCause (failure : Failure) : Except Fault Bool :=
  seen do
    match ← failure.origin with
    | .failure cls => cls.countsAsAny Codes.inputOutputClasses
    | .none | .value _ => return false

/-- A part of a failure that is looked at. -/
def part
    (failure : Failure)
    (part : Part) : Except Fault Value :=
  seen (failure.facts.part part)

/-- The status code of a failure. -/
def statusCode (failure : Failure) : Except Fault Value :=
  failure.part .statusCode

/-- The error code of a failure. -/
def errorCode (failure : Failure) : Except Fault Value :=
  failure.part .errorCode

/-- The flag with which a caller marks a failure as worth retrying or not. -/
def retryFlag (failure : Failure) : Except Fault Value :=
  failure.part .retryable

/-- Whether the codes say that the service throttled the request. -/
def hasThrottlingCodes (failure : Failure) : Except Fault Bool := do
  if (← failure.statusCode).isInt Codes.throttlingStatus then return true
  (← failure.errorCode).inCodes Codes.throttling

/-- Whether the codes say that the clocks disagree. -/
def hasClockSkewCodes (failure : Failure) : Except Fault Bool := do
  (← failure.errorCode).inCodes Codes.clockSkew

/-- Whether the status code is one of those worth retrying. -/
def hasRetryableStatus (failure : Failure) : Except Fault Bool := do
  (← failure.statusCode).inStatuses Codes.retryableStatuses

/-- The flag where there is one, else whether input or output failed. -/
def flagOrCause (failure : Failure) : Except Fault Value := do
  let flag ← failure.retryFlag
  if flag.isNull then return .flag (← failure.hasInputOutputCause) else return flag

/-- The answer to whether the service throttled the request. -/
def askThrottling
    (failure : Failure)
    (users : UserConditions := .none) : Except Fault Value := do
  match ← seen (failure.rule .throttling) with
  | .overridden override => failure.overriddenAnswer users override
  | _ => .flag <$> failure.hasThrottlingCodes

/-- The answer to whether the clocks disagree. -/
def askClockSkew
    (failure : Failure)
    (users : UserConditions := .none) : Except Fault Value := do
  match ← seen (failure.rule .clockSkew) with
  | .overridden override => failure.overriddenAnswer users override
  | _ => .flag <$> failure.hasClockSkewCodes

/-- The first answer that means yes among the status table, throttling and clock
skew, else the last one; later ones are not asked for once one means yes. -/
def retryableByCodes
    (failure : Failure)
    (users : UserConditions) : Except Fault Value := do
  if ← failure.hasRetryableStatus then return .flag true
  let throttling ← failure.askThrottling users
  if throttling.isTruthy then return throttling
  failure.askClockSkew users

/-- The answer to whether a failure is worth retrying in itself. -/
def askRetryable
    (failure : Failure)
    (users : UserConditions := .none) : Except Fault Value := do
  match ← seen (failure.rule .retryable) with
  | .overridden override => failure.overriddenAnswer users override
  | .never => return .flag false
  | .flagOrCause => failure.flagOrCause
  | _ => failure.retryableByCodes users

/-- Whether the clocks disagree; only services are asked. -/
def isClockSkewed
    (failure : Failure)
    (users : UserConditions := .none) : Except Fault Value := do
  if ← failure.isService then failure.askClockSkew users else return .flag false

/-- Whether the service throttled the request; only services are asked. -/
def isThrottled
    (failure : Failure)
    (users : UserConditions := .none) : Except Fault Value := do
  if ← failure.isService then failure.askThrottling users else return .flag false

/-- Whether the service found the request too large. -/
def isTooLarge (failure : Failure) : Except Fault Bool := do
  if ← failure.isService then return (← failure.statusCode).isInt Codes.tooLargeStatus
  return false

end Failure
end Retry
