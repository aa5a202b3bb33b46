import Retry.Text.Lower

/-!
# Environments

An environment is an ordered list of named texts.  Settings are looked up
without regard to case, so several variables can spell one setting; the last of
them counts.
-/

namespace Retry

/-- Why a variable cannot be set. -/
inductive VariableError where
  /-- A name or text that holds the character that ends texts of an
  environment. -/
  | nullCharacter
  /-- A name that holds the sign between names and texts. -/
  | equalsSign
  /-- A name without characters. -/
  | noName
  deriving DecidableEq

/-- What is said of a variable that cannot be set. -/
def VariableError.message : VariableError → String
  | nullCharacter => "embedded null byte"
  | equalsSign => "illegal environment variable name"
  | noName => "[Errno 22] Invalid argument"

/-- Variables in the order in which they were first set. -/
structure Environment where
  entries : List (String × String)
  deriving DecidableEq

namespace Environment

/-- The environment without variables. -/
def empty : Environment := ⟨[]⟩

/-- Sets a variable: one of this very name keeps its position, a new one goes
last. -/
def set
    (env : Environment)
    (name value : String) : Environment :=
  if env.entries.any (·.1 == name) then
    ⟨env.entries.map fun entry =>
      if entry.1 = name then (name, value) else entry⟩
  else ⟨env.entries ++ [(name, value)]⟩

/-- Sets a variable that an environment can hold. -/
def assign
    (env : Environment)
    (name value : String) : Except VariableError Environment :=
  if name.contains '\x00' || value.contains '\x00' then .error .nullCharacter
  else if name.contains '=' then .error .equalsSign
  else if name.isEmpty then .error .noName
  else .ok (env.set name value)

/-- Removes the variable of this very name. -/
def unset
    (env : Environment)
    (name : String) : Environment :=
  ⟨env.entries.filter (·.1 != name)⟩

/-- Whether two names differ at most in case. -/
def sameName (left right : String) : Bool :=
  Text.lower left.toList = Text.lower right.toList

/-- The variables that spell a setting's name, in order. -/
def spellings
    (env : Environment)
    (setting : String) : List (String × String) :=
  env.entries.filter fun entry => sameName entry.1 setting

/-- The text of a setting: that of its last spelling. -/
def find?
    (env : Environment)
    (setting : String) : Option String :=
  (env.spellings setting).getLast?.map (·.2)

end Environment
end Retry
