import Retry.Settings.CommandLine

/-!
# Looking settings up

A setting is looked up on a command line, if a caller hands one over, then among the
caller's arguments, and then in an environment.  The
case of its name does not matter, unless the caller asks for it: in an environment
the last spelling counts, while among arguments the exact spelling is preferred, and
of the others the first.  The caller may also ask for variables whose names begin
with a text of their own, for variables without text to be passed over, and for a
text to stand for null.
-/

namespace Retry
namespace Settings

/-- How settings are looked up. -/
structure Lookup where
  /-- What the names of variables begin with. -/
  leading : String
  /-- Whether the case of names matters. -/
  byCase : Bool
  /-- Whether variables without text are passed over. -/
  skipsEmpty : Bool
  /-- The text that stands for null, if one does. -/
  nullText? : Option String
  /-- The value that is stated on a command line, if one is. -/
  stated? : Option Value

namespace Lookup

/-- How settings are looked up where a caller asks for nothing. -/
def plain : Lookup := ⟨"", false, false, none, none⟩

/-- Whether a name is one of a setting. -/
def names
    (lookup : Lookup)
    (name setting : String) : Bool :=
  if lookup.byCase then name == setting else Environment.sameName name setting

/-- The value among a caller's arguments, if there is one. -/
def given?
    (lookup : Lookup)
    (arguments : Arguments)
    (setting : String) : Option Value :=
  (arguments.entries.lookup setting).or
    ((arguments.entries.find? fun entry => lookup.names entry.1 setting).map (·.2))

/-- The value of a variable's text. -/
def valueOf
    (lookup : Lookup)
    (text : String) : Value :=
  if lookup.nullText? = some text then .null else .text text

/-- The value in an environment, if there is one. -/
def inEnvironment?
    (lookup : Lookup)
    (env : Environment)
    (setting : String) : Option Value :=
  let found := env.entries.filter fun entry =>
    lookup.names entry.1 (lookup.leading ++ setting) &&
      !(lookup.skipsEmpty && entry.2.isEmpty)
  found.getLast?.map fun entry => lookup.valueOf entry.2

/-- The value of a setting, if there is one. -/
def value?
    (lookup : Lookup)
    (arguments : Arguments)
    (env : Environment)
    (setting : String) : Option Value :=
  lookup.stated?.or ((lookup.given? arguments setting).or (lookup.inEnvironment? env setting))

@[simp] theorem inEnvironment?_plain
    (env : Environment)
    (setting : String) :
    plain.inEnvironment? env setting = (env.find? setting).map .text := by
  simp [plain, inEnvironment?, names, valueOf, Environment.find?, Environment.spellings,
    Option.map_map, Function.comp_def]

/-- Whether a value can be the paths of files: a text, or texts. -/
def isPaths : Value → Bool
  | .list items => items.all fun item => item.text?.isSome
  | .object _ => true
  | value => value.text?.isSome

/-- Passes where the option of a name holds paths, if anything.  There are no files to
be read. -/
def checkPaths
    (arguments : Arguments)
    (name : String) : Except Fault Unit :=
  if (arguments.option? name).all isPaths then .ok () else .error .incompatible

/-- Passes where the option of how often names are split holds a number, if anything
that counts. -/
def checkSplits (arguments : Arguments) : Except Fault Unit :=
  match arguments.option? "_env_nested_max_split" with
  | none | some (.number _) => .ok ()
  | some value => if value.isTruthy then .error .incompatible else .ok ()

/-- Whether what names begin with is for names that stand for themselves. -/
def leadsNames (arguments : Arguments) : Bool :=
  (arguments.option? "_env_prefix_target").all fun target =>
    target.text? = some "variable" || target.text? = some "all"

/-- What the names of variables begin with, if names can be made of it: of a list or an
object they cannot. -/
def leadingText? (arguments : Arguments) : Except Fault (Option String) :=
  match arguments.option? "_env_prefix" with
  | none => .ok (some "")
  | some (.list _) | some (.object _) => .ok none
  | some value => some <$> compatible value.text?

/-- How a setting is looked up, by a caller's arguments. -/
def ofArguments
    (arguments : Arguments)
    (setting : String) : Except Fault Lookup := do
  checkSplits arguments
  checkPaths arguments "_env_file"
  let leading? ← leadingText? arguments
  let stated? ← CommandLine.stated? arguments setting
  let leading ← match if leadsNames arguments then leading? else some "" with
    | some leading => .ok leading
    | none => .error (.unreadableSetting setting)
  checkPaths arguments "_secrets_dir"
  return {
    leading
    byCase := arguments.isOn "_case_sensitive"
    skipsEmpty := arguments.isOn "_env_ignore_empty"
    nullText? := (arguments.option? "_env_parse_none_str").bind Value.text?
    stated? }

@[simp] theorem ofArguments_nil (setting : String) :
    ofArguments ⟨[]⟩ setting = .ok plain := rfl

@[simp] theorem value?_plain_nil
    (env : Environment)
    (setting : String) :
    plain.value? ⟨[]⟩ env setting = (env.find? setting).map .text := by
  rw [value?, show plain.stated? = none from rfl]
  simp [given?]

end Lookup
end Settings
end Retry
