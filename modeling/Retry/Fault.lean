import Retry.Environment
import Retry.Failure.Basic
import Retry.Settings.Error

/-!
# Faults

Why an operation of the library itself fails, as opposed to the attempts whose
failures it decides about.
-/

namespace Retry

/-- Why an operation fails. -/
inductive Fault where
  | attemptsBelowOne (given : Number)
  | negativeDelay (given : Number)
  | negativeRetries
  | missingClassifier
  | unknownModeName (text : String)
  | unknownMode (given : Value)
  | unknownStrategyClass (label : String)
  | setting (error : SettingError)
  /-- A setting whose name in an environment cannot be made. -/
  | unreadableSetting (name : String)
  /-- A command line that states no settings. -/
  | commandLine (error : CommandLineError)
  /-- The program ends, with a code. -/
  | ended (code : Nat)
  | frozen (field : String)
  | doesNotBuild (builder : String)
  /-- A value of a kind that the operation is not defined on. -/
  | incompatible
  /-- A receiver without the operation that is asked of it. -/
  | missingMember
  /-- A number out of the range of the operation. -/
  | outOfRange
  /-- A result that memory has no room for. -/
  | outOfMemory
  /-- A name or text that no environment can hold. -/
  | environment (error : VariableError)
  /-- A user's condition that ended as if there were no more conditions. -/
  | strayEnd
  /-- A failure that something other than the library ends with: a user's condition, or the
  writing of a value. -/
  | raised (failure : Failure)
  /-- A name under which a session holds nothing. -/
  | unknownRegister (name : String)
  /-- A name that stands for nothing where one of a kind was called for. -/
  | unknownName (name : Value)
  /-- A text that no binary64 number is written as. -/
  | notDecimal (text : String)
  /-- A class that cannot be defined. -/
  | definition (error : DefinitionError)

/-- The failure that an integer has more digits than are written. -/
def Failure.tooManyDigits : Failure :=
  let text := "Exceeds the limit (4300 digits) for integer string conversion; " ++
    "use sys.set_int_max_str_digits() to increase the limit"
  .mk (.bare KnownClass.valueError.toClass [.text text]) .none none

namespace Fault

/-- The fault of looking at a failure for something that is not there. -/
def ofRefusal : Refusal → Fault
  | .missing => missingMember
  | .unusable => incompatible

/-- The classes whose failures are reported without a text, as the faults of mere use
are. -/
def untoldClasses : List KnownClass :=
  [.typeError, .attributeError, .overflowError]

/-- The name under which refused assignments are reported, with a text.  Failures of a
class of this name are reported with a text too. -/
def refusedAssignment : String := "FrozenInstanceError"

/-- The text that is reported of a failure, if one is.  The failure is looked at for its
class in any case. -/
def textOf (failure : Failure) : Except Refusal (Option String) := do
  let cls := failure.failureClass
  cls.checkClaim
  if cls.name ≠ refusedAssignment && (← cls.countsAsAny untoldClasses) then return none
  return some (← failure.facts.text)

/-- What is said of a fault, if anything.  A failure may have no text to say. -/
def message? : Fault → Except Fault (Option String)
  | attemptsBelowOne given => .ok ("max_attempts must be >= 1, got " ++ given.text)
  | negativeDelay given => .ok ("base_delay must be >= 0, got " ++ given.text)
  | negativeRetries => .ok "num_retries must be >= 0"
  | missingClassifier =>
    .ok "Adaptive retry strategy requires a throttling classifier"
  | unknownModeName text => .ok (Mode.unknownMessage text)
  | unknownMode given => .ok ("unknown retry mode: " ++ given.quoted)
  | unknownStrategyClass label => .ok ("unknown retry strategy class: " ++ label)
  | setting error => .ok error.message
  | unreadableSetting name =>
    .ok ("error getting value for field \"" ++ name ++
      "\" from source \"EnvSettingsSource\"")
  | commandLine error => .ok error.message
  | ended code => .ok (toString code)
  | frozen field => .ok ("cannot assign to field " ++ Text.quoted field)
  | doesNotBuild builder => .ok (builder ++ " does not build strategies")
  | incompatible | missingMember | outOfRange => .ok none
  | outOfMemory => .ok ""
  | environment error => .ok error.message
  | strayEnd => .ok "generator raised StopIteration"
  | raised failure => (textOf failure).mapError ofRefusal
  | unknownRegister name => .ok name
  | unknownName name => .ok name.quoted
  | notDecimal text => .ok ("could not convert string to float: " ++ Text.quoted text)
  | definition error => .ok error.message?

end Fault

/-- A result that exists unless a number was out of range. -/
def inRange
    {α : Type} : Option α → Except Fault α
  | some result => .ok result
  | none => .error .outOfRange

/-- A result that exists unless values were of kinds that do not go together. -/
def compatible
    {α : Type} : Option α → Except Fault α
  | some result => .ok result
  | none => .error .incompatible

/-- What is seen of a failure, as an outcome. -/
def seen
    {α : Type} : Except Refusal α → Except Fault α :=
  Except.mapError Fault.ofRefusal

namespace Environment

/-- Sets a variable whose name and text are values. -/
def setValue
    (env : Environment)
    (name value : Value) : Except Fault Environment := do
  let name ← compatible name.text?
  let text ← compatible value.text?
  match env.assign name text with
  | .ok changed => return changed
  | .error error => throw (.environment error)

/-- Removes a variable whose name is a value. -/
def unsetValue
    (env : Environment)
    (name : Value) : Except Fault Environment :=
  return env.unset (← compatible name.text?)

end Environment

/-- A part that is looked at, unless it is missing. -/
def present
    {α : Type} : Option α → Except Fault α
  | some part => .ok part
  | none => .error .missingMember

end Retry
