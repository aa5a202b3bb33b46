import Retry.Settings.Lookup

/-!
# The mode setting

The mode of a client that picks none.
-/

namespace Retry
namespace Settings

/-- The name of the mode setting. -/
def modeName : String := "SDK_RETRY_MODE"

/-- The mode where the setting is unset. -/
def modeUnset : Mode := .legacy

/-- The mode a text names. -/
def readMode (text : String) : Except SettingError Mode :=
  match Mode.ofText? text with
  | some mode => .ok mode
  | none => .error (.unknownMode text)

/-- The mode a value stands for: a mode or the text of its name. -/
def modeOfValue (value : Value) : Except SettingError Mode :=
  match value.text? with
  | some text => readMode text
  | none => .error .notMode

/-- The mode set in an environment. -/
def mode (env : Environment) : Except SettingError Mode :=
  match env.find? modeName with
  | none => .ok modeUnset
  | some text => readMode text

/-- The mode among a caller's arguments, else the one set in an environment. -/
def modeOr
    (arguments : Arguments)
    (env : Environment) : Except Fault Mode := do
  let lookup ← Lookup.ofArguments arguments modeName
  match lookup.value? arguments env modeName with
  | some value => (modeOfValue value).mapError .setting
  | none => return modeUnset

/-- Without arguments, the mode is the one set in the environment. -/
theorem modeOr_nil (env : Environment) :
    modeOr ⟨[]⟩ env = (mode env).mapError .setting := by
  have found : Lookup.plain.value? ⟨[]⟩ env modeName =
      (env.find? modeName).map .text := Lookup.value?_plain_nil env modeName
  rw [modeOr, Lookup.ofArguments_nil, mode]
  show (match Lookup.plain.value? ⟨[]⟩ env modeName with
    | some value => (modeOfValue value).mapError Fault.setting
    | none => .ok modeUnset) = _
  rw [found]
  cases env.find? modeName with
  | none => rfl
  | some text => rfl

end Settings
end Retry
