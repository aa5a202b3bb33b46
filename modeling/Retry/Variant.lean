import Retry.Number

/-!
# Strategy variants

A variant is a family of strategies: the tag that tells it from others, the
names under which diagnostics show its strategies and builders, and the numbers
a fresh builder starts from.
-/

namespace Retry

/-- The full name by which diagnostics refer to a kind of object: where it is
defined, and its name there. -/
structure TypeLabel where
  home : String
  name : String
  deriving DecidableEq

namespace TypeLabel

/-- A label in one text. -/
def full (label : TypeLabel) : String :=
  label.home ++ "." ++ label.name

end TypeLabel

/-- A family of strategies. -/
structure Variant where
  kind : String
  strategyLabel : TypeLabel
  builderLabel : TypeLabel
  maxAttempts : Int
  baseDelay : Binary64
  throttledBaseDelay : Binary64
  maxBackoff : Binary64
  /-- Whether builders remember which defaults bundles they took in. -/
  tracksDefaults : Bool
  /-- Whether a strategy needs a classifier of throttled failures. -/
  needsClassifier : Bool
  /-- Whether strategies can be made at all. -/
  isConcrete : Bool
  deriving DecidableEq

namespace Variant

/-- A decimal fraction with the given number of places. -/
def delay (coefficient places : Nat) : Binary64 :=
  Decimal.toBinary64 false ⟨coefficient, -places⟩

/-- Delay before the second attempt after a generic failure: 0.1 seconds. -/
def defaultBaseDelay : Binary64 := delay 1 1

/-- Delay before the second attempt after a throttled failure: 1 second. -/
def defaultThrottledBaseDelay : Binary64 := delay 10 1

/-- The same for legacy strategies: 0.5 seconds. -/
def legacyThrottledBaseDelay : Binary64 := delay 5 1

/-- Upper bound of every delay: 20 seconds. -/
def defaultMaxBackoff : Binary64 := delay 200 1

/-- The default of most services: three attempts. -/
def standard : Variant where
  kind := "standard"
  strategyLabel := ⟨"sdk_retry.strategies.standard", "StandardRetryStrategy"⟩
  builderLabel := ⟨"sdk_retry.strategies.standard", "StandardRetryStrategyBuilder"⟩
  maxAttempts := 3
  baseDelay := defaultBaseDelay
  throttledBaseDelay := defaultThrottledBaseDelay
  maxBackoff := defaultMaxBackoff
  tracksDefaults := true
  needsClassifier := false
  isConcrete := true

/-- One attempt more and a shorter throttled delay than the default. -/
def legacy : Variant where
  kind := "legacy"
  strategyLabel := ⟨"sdk_retry.strategies.legacy", "LegacyRetryStrategy"⟩
  builderLabel := ⟨"sdk_retry.strategies.legacy", "LegacyRetryStrategyBuilder"⟩
  maxAttempts := 4
  baseDelay := defaultBaseDelay
  throttledBaseDelay := legacyThrottledBaseDelay
  maxBackoff := defaultMaxBackoff
  tracksDefaults := true
  needsClassifier := false
  isConcrete := true

/-- The delays of the default, keyed to a classifier it cannot do without. -/
def adaptive : Variant where
  kind := "adaptive"
  strategyLabel := ⟨"sdk_retry.strategies.adaptive", "AdaptiveRetryStrategy"⟩
  builderLabel := ⟨"sdk_retry.strategies.adaptive", "AdaptiveRetryStrategyBuilder"⟩
  maxAttempts := 3
  baseDelay := defaultBaseDelay
  throttledBaseDelay := defaultThrottledBaseDelay
  maxBackoff := defaultMaxBackoff
  tracksDefaults := true
  needsClassifier := true
  isConcrete := true

/-- What the others are built on: it remembers no defaults bundles, and there
are no strategies of it. -/
def base : Variant where
  kind := ""
  strategyLabel := ⟨"sdk_retry.strategies.base", "BaseRetryStrategy"⟩
  builderLabel := ⟨"sdk_retry.strategies.base", "BaseRetryStrategyBuilder"⟩
  maxAttempts := 3
  baseDelay := defaultBaseDelay
  throttledBaseDelay := defaultThrottledBaseDelay
  maxBackoff := defaultMaxBackoff
  tracksDefaults := false
  needsClassifier := false
  isConcrete := false

end Variant
end Retry
