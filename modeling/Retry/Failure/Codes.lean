import Retry.Failure.Class

/-!
# Codes and classes that decide about a retry

The tables of status codes, service error codes and failure classes that
conditions consult.  They are data of the library; conditions only look them up.
-/

namespace Retry
namespace Codes

/-- Status codes of a service that is temporarily unable to answer. -/
def retryableStatuses : List Int := [500, 502, 503, 504]

/-- The status code of a rate-limited request. -/
def throttlingStatus : Int := 429

/-- The status code of a request that is too large. -/
def tooLargeStatus : Int := 413

/-- Error codes of a rate-limited request. -/
def throttling : List String :=
  ["BandwidthLimitExceeded", "EC2ThrottledException", "PriorRequestNotComplete",
    "ProvisionedThroughputExceededException", "RequestLimitExceeded",
    "RequestThrottled", "RequestThrottledException", "SlowDown",
    "ThrottledException", "Throttling", "ThrottlingException",
    "TooManyRequestsException", "TransactionInProgressException"]

/-- Error codes of a request refused because the two clocks disagree. -/
def clockSkew : List String :=
  ["AuthFailure", "InvalidSignatureException", "RequestExpired",
    "RequestInTheFuture", "RequestTimeTooSkewed", "SignatureDoesNotMatch"]

/-- Input and output failures, which make a client error caused by one worth
retrying. -/
def inputOutputClasses : List KnownClass :=
  [.osError, .transportError]

/-- Classes whose failures are retried, as are failures directly caused by
them. -/
def retryableClasses : List KnownClass :=
  [.retryableError, .osError, .transportError, .attemptTimeoutError]

end Codes
end Retry
