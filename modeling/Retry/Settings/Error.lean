import Retry.Value

/-!
# Setting errors

Why the text or value of a setting is refused, or a command line on which it may be
stated.
-/

namespace Retry

/-- Why a setting is refused. -/
inductive SettingError where
  | notInteger
  | oversize
  | belowOne
  | fractional
  | notFinite
  | notNumeric
  | unknownMode (text : String)
  | notMode
  deriving DecidableEq

/-- A list of modes as prose, with `or` before the last. -/
def Mode.choices : String :=
  "'standard', 'adaptive', 'adaptive_v2' or 'legacy'"

/-- What is said of a text that names no mode. -/
def Mode.unknownMessage (text : String) : String :=
  "Unknown retry mode '" ++ text ++ "'. Expected one of: " ++
    ", ".intercalate (Mode.all.map Mode.name)

namespace SettingError

/-- The short code of an error. -/
def code : SettingError → String
  | notInteger => "int_parsing"
  | oversize => "int_parsing_size"
  | belowOne => "greater_than_equal"
  | fractional => "int_from_float"
  | notFinite => "finite_number"
  | notNumeric => "int_type"
  | unknownMode _ => "value_error"
  | notMode => "enum"

/-- What is said of an error. -/
def message : SettingError → String
  | notInteger =>
    "Input should be a valid integer, unable to parse string as an integer"
  | oversize =>
    "Unable to parse input string as an integer, exceeded maximum size"
  | belowOne => "Input should be greater than or equal to 1"
  | fractional =>
    "Input should be a valid integer, got a number with a fractional part"
  | notFinite => "Input should be a finite number"
  | notNumeric => "Input should be a valid integer"
  | unknownMode text => "Value error, " ++ Mode.unknownMessage text
  | notMode => "Input should be " ++ Mode.choices

end SettingError

/-- Why a command line is refused. -/
inductive CommandLineError where
  /-- Something that is no list of words. -/
  | notWords (given : Value)
  /-- What the names of options cannot begin with. -/
  | badLeading (text : String)
  /-- An option without a text. -/
  | lacksText (option : String)
  /-- Words that state nothing. -/
  | unknownWords (words : List String)
  /-- A question for help, which is answered and ends the program. -/
  | help

namespace CommandLineError

/-- Whether help is asked for. -/
def isHelp : CommandLineError → Bool
  | help => true
  | _ => false

/-- What is said of an error. -/
def message : CommandLineError → String
  | notWords given =>
    "cli_parse_args must be a list or tuple of strings, received " ++ given.kindLabel
  | badLeading text => "CLI settings source prefix is invalid: " ++ text
  | lacksText option =>
    "error parsing CLI: argument " ++ option ++ ": expected one argument"
  | unknownWords words =>
    "error parsing CLI: unrecognized arguments: " ++ " ".intercalate words
  | help => ""

end CommandLineError
end Retry
