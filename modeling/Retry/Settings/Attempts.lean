import Retry.Settings.Integer
import Retry.Settings.Lookup

/-!
# The attempts setting

A budget of attempts that overrides the one of every strategy: an integer, one at
least.
-/

namespace Retry
namespace Settings

/-- The name of the attempts setting. -/
def attemptsName : String := "SDK_MAX_ATTEMPTS"

/-- An integer as a budget, which is one attempt at least. -/
def checkBudget (budget : Int) : Except SettingError Int :=
  if budget < 1 then .error .belowOne else .ok budget

/-- The budget a text stands for. -/
def readBudget (text : String) : Except SettingError Int := do
  checkBudget (← readInteger text)

/-- Binary64 numbers of this magnitude, two to the power of 63, and larger ones
are refused for their size even where they are integral. -/
def realLimit : Nat := Nat.pow 2 63

/-- The integer a binary64 number stands for. -/
def integerOfReal (value : Binary64) : Except SettingError Int :=
  match value.place with
  | .finite units =>
    if units % unitsPerOne ≠ 0 then .error .fractional
    else if (units / unitsPerOne).natAbs < realLimit then .ok (units / unitsPerOne)
    else .error .oversize
  | _ => .error .notFinite

/-- The budget a value stands for: null for none, an integral number, or a
text. -/
def budgetOfValue : Value → Except SettingError (Option Int)
  | .null => .ok none
  | .number (.flag value) => some <$> checkBudget (Number.ofFlag value)
  | .number (.int value) => some <$> checkBudget value
  | .number (.real value) => do some <$> checkBudget (← integerOfReal value)
  | .text text => some <$> readBudget text
  | .mode mode => some <$> readBudget mode.name
  | .list _ | .object _ | .foreign _ => .error .notNumeric

/-- The budget set in an environment, none where the setting is unset. -/
def attempts (env : Environment) : Except SettingError (Option Int) :=
  match env.find? attemptsName with
  | none => .ok none
  | some text => some <$> readBudget text

/-- The budget among a caller's arguments, else the one set in an environment. -/
def attemptsOr
    (arguments : Arguments)
    (env : Environment) : Except Fault (Option Int) := do
  let lookup ← Lookup.ofArguments arguments attemptsName
  match lookup.value? arguments env attemptsName with
  | some value => (budgetOfValue value).mapError .setting
  | none => return none

end Settings
end Retry
