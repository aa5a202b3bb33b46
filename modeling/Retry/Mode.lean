import Retry.Text.Blank
import Retry.Text.Lower

/-!
# Retry modes

A mode names the kind of strategy a client retries with.  Mode names are read
in any case and with blanks around them.
-/

namespace Retry

/-- The retry modes. -/
inductive Mode where
  | standard
  | adaptive
  | adaptiveV2
  | legacy
  deriving DecidableEq

namespace Mode

/-- Every mode, in the order in which messages list them. -/
def all : List Mode :=
  [standard, adaptive, adaptiveV2, legacy]

/-- The name a mode is written by. -/
def name : Mode → String
  | standard => "standard"
  | adaptive => "adaptive"
  | adaptiveV2 => "adaptive_v2"
  | legacy => "legacy"

/-- The symbol a mode is shown by in diagnostics. -/
def symbol : Mode → String
  | standard => "STANDARD"
  | adaptive => "ADAPTIVE"
  | adaptiveV2 => "ADAPTIVE_V2"
  | legacy => "LEGACY"

/-- The mode a text names: its name in any case, with any blanks around it. -/
def ofText? (text : String) : Option Mode :=
  let name := Text.lower (Text.trim Text.isBlank text.toList)
  all.find? fun mode => mode.name.toList = name

end Mode
end Retry
