import Retry.Configuration

/-!
# Operations on builders

Everything that can be asked of a builder, as data.  A history of operations is
a list, and its effect does not depend on who asked.
-/

namespace Retry

/-- What can be asked of a builder.  Setters take the arguments they are given,
of which there may be too few or too many. -/
inductive Operation where
  | retryOn (condition : Condition)
  | retryOnInstanceOf (ref : ClassRef)
  | retryOnInstanceOrCauseOf (ref : ClassRef)
  | treatAsThrottling (condition : Condition)
  | maxAttempts (arguments : List Value)
  | backoff (arguments : List Value)
  | throttledBackoff (arguments : List Value)
  | markDefaults (name : Value)
  | addConditions
  | configure
  | applyDefaults (defaults : Defaults)
  | addDefaults (defaults : Defaults)

namespace Operation

variable {β : Type} [AcceptsCalls β]

/-- The name of an operation, unless it is one of configuration, which goes through
the calls it makes. -/
def name? : Operation → Option String
  | retryOn _ => "retry_on_exception"
  | retryOnInstanceOf _ => "retry_on_exception_instance_of"
  | retryOnInstanceOrCauseOf _ => "retry_on_exception_or_cause_instance_of"
  | treatAsThrottling _ => "treat_as_throttling"
  | maxAttempts _ => "max_attempts"
  | backoff _ => "backoff"
  | throttledBackoff _ => "throttling_backoff"
  | markDefaults _ => "mark_default_added"
  | addDefaults _ => "add_defaults"
  | addConditions | configure | applyDefaults _ => none

/-- Performs an operation that needs no more of a builder than that it accepts
calls; the two setters of delays are not among them. -/
def perform
    (env : Environment) : Operation → β → Step β
  | retryOn condition => AcceptsCalls.call (.retryOn condition)
  | retryOnInstanceOf ref => AcceptsCalls.call (.retryOnInstanceOf ref)
  | retryOnInstanceOrCauseOf ref => AcceptsCalls.call (.retryOnInstanceOrCauseOf ref)
  | treatAsThrottling condition => AcceptsCalls.call (.treatAsThrottling condition)
  | maxAttempts [budget] => AcceptsCalls.call (.maxAttempts budget)
  | maxAttempts _ => fun builder => .failed builder .incompatible
  | backoff _ | throttledBackoff _ => fun builder => .failed builder .missingMember
  | markDefaults name => AcceptsCalls.call (.markDefaults name)
  | addConditions => Configuration.addConditions
  | configure => Configuration.configure env
  | applyDefaults defaults => Configuration.applyDefaults defaults
  | addDefaults defaults => Configuration.addDefaults defaults

end Operation

namespace Builder

/-- Performs an operation on one of the library's builders. -/
def perform
    (env : Environment) : Operation → Builder → Step Builder
  | .backoff [baseDelay], builder =>
    .ofExcept builder (builder.setBackoff baseDelay .null)
  | .backoff [baseDelay, maxBackoff], builder =>
    .ofExcept builder (builder.setBackoff baseDelay maxBackoff)
  | .backoff _, builder => .failed builder .incompatible
  | .throttledBackoff [baseDelay], builder =>
    .ofExcept builder (builder.setThrottledBackoff baseDelay)
  | .throttledBackoff _, builder => .failed builder .incompatible
  | operation, builder => operation.perform env builder

end Builder
end Retry
