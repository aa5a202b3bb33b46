import Retry.Fault
import Retry.Settings.Arguments
import Retry.Text.Blank
import Retry.Text.Digit
import Retry.Text.Identifier
import Retry.Text.Lower

/-!
# Settings on a command line

A caller may hand over the words of a command line.  A setting is stated there by an
option of its name, with the text in the same word behind an equals sign or in the
next word; the last statement counts, and it counts before all other sources.  Words
that state nothing are refused, unless the caller lets them pass.
-/

namespace Retry
namespace Settings

/-- The options of a command line. -/
structure CommandLine where
  /-- What the options' names begin with. -/
  leading : String
  /-- Whether the case of options matters. -/
  byCase : Bool
  /-- Whether options are written with hyphens between the parts of a name. -/
  hyphenated : Bool
  /-- Whether a wrong command line ends the program. -/
  endsProgram : Bool
  /-- Whether words that state nothing are let pass. -/
  passesUnknown : Bool
  /-- The text that stands for null. -/
  nullText : String

namespace CommandLine

/-- The option that states a setting. -/
def optionOf
    (line : CommandLine)
    (setting : String) : List Char :=
  let name := if line.byCase then setting.toList else Text.lower setting.toList
  let name := line.leading.toList ++ name
  '-' :: '-' :: if line.hyphenated then name.map fun c => if c = '_' then '-' else c else name

/-- The options that ask for help. -/
def helpOptions : List (List Char) := ["-h".toList, "--help".toList]

/-- A word as it is read where case does not matter: an option is put into lower case,
up to where its text begins, and what follows on another line is left out. -/
def loweredWord (word : List Char) : List Char :=
  let option := word.takeWhile fun c => !Text.isBlank c && c != '='
  if word.head? = some '-' && 2 ≤ option.length then
    Text.lower option ++ (word.drop option.length).takeWhile (· != '\n')
  else word

/-- Whether a word is a negative number. -/
def isNegativeNumber : List Char → Bool
  | '-' :: digits =>
    let whole := digits.takeWhile fun c => (Text.digit? c).isSome
    match digits.drop whole.length with
    | '.' :: fraction => !fraction.isEmpty && fraction.all fun c => (Text.digit? c).isSome
    | rest => !whole.isEmpty && rest.isEmpty
  | _ => false

/-- What a word is. -/
inductive Role where
  /-- The option of the setting, with its text if that is in the word. -/
  | states (text? : Option (List Char))
  | asksForHelp
  /-- An option of nothing. -/
  | unknown
  /-- A word that can be the text of an option. -/
  | free
  deriving DecidableEq

/-- What a word is, where some option states the setting. -/
def role (option word : List Char) : Role :=
  let name := word.takeWhile (· != '=')
  if word.head? ≠ some '-' then .free
  else if word = option then .states none
  else if helpOptions.contains word then .asksForHelp
  else if word.length = 1 then .free
  else if name = option then .states (some (word.drop (name.length + 1)))
  else if isNegativeNumber word || word.contains ' ' then .free
  else .unknown

/-- The word behind which all words are free. -/
def divider : List Char := ['-', '-']

/-- Words read one after another: the text that is stated last, and the words that
state nothing. -/
def readWords
    (option : List Char)
    (stated? : Option (List Char)) :
    List (List Char) → Except CommandLineError (Option (List Char) × List (List Char))
  | [] => .ok (stated?, [])
  | word :: rest =>
    if word = divider then .ok (stated?, word :: rest)
    else match role option word with
      | .states (some text) => readWords option (some text) rest
      | .states none =>
        match rest with
        | text :: others =>
          if text ≠ divider && role option text = .free then
            readWords option (some text) others
          else .error (.lacksText (String.ofList option))
        | [] => .error (.lacksText (String.ofList option))
      | .asksForHelp => .error .help
      | .unknown | .free => do
        let (stated?, others) ← readWords option stated? rest
        return (stated?, word :: others)

/-- The text that words state. -/
def readText?
    (line : CommandLine)
    (option : List Char)
    (words : List (List Char)) : Except CommandLineError (Option (List Char)) := do
  let words := if line.byCase then words else words.map loweredWord
  let (stated?, others) ← readWords option none words
  if others.isEmpty || line.passesUnknown then return stated?
  else throw (.unknownWords (others.map String.ofList))

/-- The value that words state of a setting, if they do. -/
def value?
    (line : CommandLine)
    (setting : String)
    (words : List (List Char)) : Except Fault (Option Value) :=
  match line.readText? (line.optionOf setting) words with
  | .ok stated? => .ok <| stated?.map fun text =>
    let text := String.ofList text
    if text = line.nullText then .null else .text text
  | .error error =>
    if error.isHelp then .error (.ended 0)
    else if line.endsProgram then .error (.ended 2)
    else .error (.commandLine error)

/-- What the options' names begin with, by a caller's arguments: names that stand
before points. -/
def leadingOf (arguments : Arguments) : Except Fault String :=
  match arguments.option? "_cli_prefix" with
  | none => .ok ""
  | some value =>
    if !value.isTruthy then .ok ""
    else do
      let leading ← present value.text?
      let chars := leading.toList
      let name := String.ofList (chars.filter (· != '.'))
      if chars.head? = some '.' || chars.getLast? = some '.' || !Text.isIdentifier name then
        throw (.commandLine (.badLeading leading))
      return leading ++ "."

/-- The text that stands for null, by a caller's arguments. -/
def nullTextOf (arguments : Arguments) : String :=
  match (arguments.option? "_cli_parse_none_str").bind Value.text? with
  | some text =>
    if text.isEmpty then plainNull else text
  | none => plainNull
where
  /-- The text where the caller names none. -/
  plainNull : String :=
    match arguments.option? "_cli_avoid_json" with
    | some (.number (.flag true)) => "None"
    | _ => "null"

/-- The options of a command line, by a caller's arguments. -/
def ofArguments (arguments : Arguments) : Except Fault CommandLine := do
  return {
    leading := ← leadingOf arguments
    byCase := arguments.isOn "_case_sensitive"
    hyphenated := arguments.isOn "_cli_kebab_case"
    endsProgram := (arguments.option? "_cli_exit_on_error").all Value.isTruthy
    passesUnknown := arguments.isOn "_cli_ignore_unknown_args"
    nullText := nullTextOf arguments }

/-- A word of a command line: a text, or something empty. -/
def wordOf (value : Value) : Except Fault (List Char) :=
  if value.isTruthy then do return (← compatible value.text?).toList
  else .ok []

/-- The words that an argument stands for, unless there are none to be read: the flag
true stands for the words the program was started with, and it is started without. -/
def wordsOf? : Value → Except Fault (Option (List (List Char)))
  | .number number =>
    if !number.isTruthy then .ok none
    else match number with
      | .flag _ => .ok (some [])
      | number => .error (.commandLine (.notWords (.number number)))
  | .list words => do return some (← words.mapM wordOf)
  | value => .error (.commandLine (.notWords value))

/-- The value stated of a setting, if a caller hands over a command line that does. -/
def stated?
    (arguments : Arguments)
    (setting : String) : Except Fault (Option Value) := do
  match arguments.option? "_cli_parse_args" with
  | none => return none
  | some value =>
    let line ← ofArguments arguments
    match ← wordsOf? value with
    | none => return none
    | some words => line.value? setting words

@[simp] theorem stated?_nil (setting : String) : stated? ⟨[]⟩ setting = .ok none := rfl

end CommandLine
end Settings
end Retry
