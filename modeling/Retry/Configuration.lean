import Retry.Builder.Call
import Retry.Settings.Attempts

/-!
# Configuration

Registering the canonical conditions with any builder, with the override of its
budget that the environment holds, and taking in named bundles of defaults at
most once.
-/

namespace Retry

/-- The name of the bundle of canonical conditions. -/
def sdkDefaults : String := "sdk"

/-- A bundle of defaults of a user's own: conditions under a name.  Some bundles
leave it to others to mark them as taken in. -/
structure Bundle where
  name : Value
  conditions : List Condition
  marks : Bool

/-- A bundle of defaults: the canonical one, or a user's own. -/
inductive Defaults where
  | sdk
  | own (bundle : Bundle)

namespace Defaults

/-- The name of a bundle. -/
def name : Defaults → Value
  | sdk => .text sdkDefaults
  | own bundle => bundle.name

end Defaults

namespace Configuration

variable {β : Type} [AcceptsCalls β]

/-- The calls that register the canonical conditions and their classifier. -/
def canonicalCalls : List Call :=
  Condition.sdk.map .retryOn ++
    Codes.retryableClasses.map (fun known => .retryOnInstanceOrCauseOf (.known known)) ++
    [.treatAsThrottling .throttlingClassifier]

/-- Registers the canonical conditions and their classifier. -/
def addConditions (builder : β) : Step β :=
  (Step.forEach AcceptsCalls.call canonicalCalls builder).andThen fun builder =>
    .reported builder (.conditionsAdded (AcceptsCalls.label builder))

/-- Marks a bundle as taken in, with a builder that remembers it. -/
def markDefaults
    (name : Value)
    (builder : β) : Step β :=
  if AcceptsCalls.tracksDefaults builder then
    AcceptsCalls.call (.markDefaults name) builder
  else .done builder

/-- Applies the budget an environment sets, if it sets one. -/
def applyOverride
    (env : Environment)
    (builder : β) : Step β :=
  match Settings.attempts env with
  | .error error => .failed builder (.setting error)
  | .ok none => .done builder
  | .ok (some budget) =>
    (AcceptsCalls.call (.maxAttempts (.int budget)) builder).andThen fun builder =>
      .reported builder (.overrideApplied (AcceptsCalls.label builder) budget)

/-- Registers the canonical conditions, applies the budget that the environment
sets, and marks the canonical bundle as taken in. -/
def configure
    (env : Environment)
    (builder : β) : Step β :=
  ((addConditions builder).andThen (applyOverride env)).andThen
    (markDefaults (.text sdkDefaults))

/-- Takes in the canonical bundle, unless the builder remembers having done
so. -/
def applySdk (builder : β) : Step β :=
  let take (builder : β) : Step β :=
    (addConditions builder).andThen (markDefaults (.text sdkDefaults))
  if AcceptsCalls.tracksDefaults builder then
    match AcceptsCalls.lacksDefaults builder (.text sdkDefaults) with
    | (builder, .error fault) => .failed builder fault
    | (builder, .ok true) => take builder
    | (builder, .ok false) =>
      .reported builder (.defaultsPresent (AcceptsCalls.label builder))
  else take builder

/-- Takes in a user's own bundle. -/
def applyOwn
    (bundle : Bundle)
    (builder : β) : Step β :=
  (Step.forEach AcceptsCalls.call (bundle.conditions.map .retryOn) builder).andThen
    fun builder => if bundle.marks then markDefaults bundle.name builder else .done builder

/-- Takes in a bundle. -/
def applyDefaults : Defaults → β → Step β
  | .sdk, builder => applySdk builder
  | .own bundle, builder => applyOwn bundle builder

/-- Takes in a bundle with a builder that remembers bundles, unless it remembers
this one. -/
def addDefaults
    (defaults : Defaults)
    (builder : β) : Step β :=
  if AcceptsCalls.tracksDefaults builder then
    match AcceptsCalls.lacksDefaults builder defaults.name with
    | (builder, .error fault) => .failed builder fault
    | (builder, .ok true) => applyDefaults defaults builder
    | (builder, .ok false) => .done builder
  else .failed builder .missingMember

end Configuration
end Retry
