import Retry.Value

/-!
# Arguments

A caller may give the value of a setting directly, by name, and options of how
settings are looked up.
-/

namespace Retry
namespace Settings

/-- Named values given by a caller. -/
structure Arguments where
  entries : List (String × Value)

namespace Arguments

/-- The value of an option, if one is given that is not null.  Options are named
exactly. -/
def option?
    (arguments : Arguments)
    (name : String) : Option Value :=
  match arguments.entries.lookup name with
  | none | some .null => none
  | some value => some value

/-- Whether an option is switched on. -/
def isOn
    (arguments : Arguments)
    (name : String) : Bool :=
  (arguments.option? name).any Value.isTruthy

end Arguments
end Settings
end Retry
