import Retry.Mode
import Retry.Number
import Retry.Text.Quoted

/-!
# Values

Status codes, error codes, delay bounds and the answers of user conditions can
be any value a caller supplies.  What the library asks of a value is whether it
counts as true, whether it can be looked up in a table, whether it equals
another value, which items it holds, and how it reads in a message.  Every value
here says by itself whether it counts as true; an answer that leaves this to something
else is the matter of the condition that gives it.
-/

namespace Retry

/-- A value supplied by a caller. -/
inductive Value where
  | null
  | number (number : Number)
  | text (text : String)
  | mode (mode : Mode)
  | list (items : List Value)
  | object (entries : List (String × Value))
  /-- An operation that is looked at in the place of a value and is not asked: it counts
  as true, can be looked up in a table, and equals nothing. -/
  | foreign (kind : String)

instance Value.instInhabited : Inhabited Value := ⟨.null⟩

namespace Value

/-- The value of a flag. -/
def flag (value : Bool) : Value := .number (.flag value)

/-- The value of an integer. -/
def int (value : Int) : Value := .number (.int value)

/-- The number a value is, if it is one. -/
def number? : Value → Option Number
  | .number n => some n
  | _ => none

/-- The text a value is, if it is one; a mode is the text of its name. -/
def text? : Value → Option String
  | .text s => some s
  | .mode m => some m.name
  | _ => none

/-- Whether a value is null. -/
def isNull : Value → Bool
  | .null => true
  | _ => false

/-- Whether a value counts as true: null, zero, the flag false and everything empty count
as false, and what remains as true. -/
def isTruthy : Value → Bool
  | .null => false
  | .number n => n.isTruthy
  | .text s => !s.isEmpty
  | .mode _ => true
  | .list items => !items.isEmpty
  | .object entries => !entries.isEmpty
  | .foreign _ => true

/-- Whether a value can be a key of a table: lists and objects cannot. -/
def isKey : Value → Bool
  | .list _ | .object _ => false
  | _ => true

/-- Whether a value is a number equal to an integer. -/
def isInt
    (value : Value)
    (expected : Int) : Bool :=
  match value with
  | .number n => n.same (.int expected)
  | _ => false

/-- Whether a value is, or as a mode is named by, a text. -/
def isText
    (value : Value)
    (expected : String) : Bool :=
  value.text? == some expected

mutual

/-- Equality of values as parts of a whole: numbers by exact value across kinds, a
NaN with itself, a mode as its name, lists item by item, and objects entry by
entry in any order. -/
def same : Value → Value → Bool
  | .null, .null => true
  | .number left, .number right => left.agrees right
  | .list left, .list right => sameItems left right
  | .object left, .object right =>
    left.length = right.length && sameEntries left right
  | .text left, right => right.isText left
  | .mode left, right => right.isText left.name
  | _, _ => false

/-- Equality of two sequences item by item. -/
def sameItems : List Value → List Value → Bool
  | [], [] => true
  | left :: lefts, right :: rights => same left right && sameItems lefts rights
  | _, _ => false

/-- Whether every entry has an equal one of the same name among others. -/
def sameEntries : List (String × Value) → List (String × Value) → Bool
  | [], _ => true
  | (name, value) :: rest, others =>
    (match others.lookup name with
      | some other => same value other
      | none => false) && sameEntries rest others

end

/-- What is too large to be written, for it has more than 4300 digits. -/
def writtenLimit : Nat := Nat.pow 10 4300

mutual

/-- Whether a value can be written: no integer in it is too large. -/
def isWritable : Value → Bool
  | .number (.int value) => value.natAbs < writtenLimit
  | .list items => areWritable items
  | .object entries => entriesWritable entries
  | _ => true

/-- Whether every item of a sequence can be written. -/
def areWritable : List Value → Bool
  | [] => true
  | item :: rest => isWritable item && areWritable rest

/-- Whether the value of every entry of an object can be written. -/
def entriesWritable : List (String × Value) → Bool
  | [] => true
  | (_, value) :: rest => isWritable value && entriesWritable rest

end

mutual

/-- A value that can be written, as it reads inside brackets, texts between quotes. -/
def quoted : Value → String
  | .null => "None"
  | .number n => n.text
  | .text s => Text.quoted s
  | .mode m => "<RetryMode." ++ m.symbol ++ ": " ++ Text.quoted m.name ++ ">"
  | .list items => "[" ++ ", ".intercalate (quotedItems items) ++ "]"
  | .object entries => "\x7b" ++ ", ".intercalate (quotedEntries entries) ++ "\x7d"
  | .foreign kind => "<" ++ kind ++ ">"

/-- The quoted forms of a sequence. -/
def quotedItems : List Value → List String
  | [] => []
  | item :: rest => quoted item :: quotedItems rest

/-- The quoted forms of an object's entries, each name before its value. -/
def quotedEntries : List (String × Value) → List String
  | [] => []
  | (name, value) :: rest =>
    (Text.quoted name ++ ": " ++ quoted value) :: quotedEntries rest

end

/-- A value as it reads within a message, a text without quotes. -/
def shown : Value → String
  | .text s => s
  | .mode m => "RetryMode." ++ m.symbol
  | value => value.quoted

/-- The name of the kind of a value. -/
def kind : Value → String
  | .null => "NoneType"
  | .number (.flag _) => "bool"
  | .number (.int _) => "int"
  | .number (.real _) => "float"
  | .text _ => "str"
  | .mode _ => "RetryMode"
  | .list _ => "list"
  | .object _ => "dict"
  | .foreign kind => kind

/-- The kind of a value as it reads within a message: modes are one of a few, all others
of a class. -/
def kindLabel (value : Value) : String :=
  let sort := match value with
    | .mode _ => "enum"
    | _ => "class"
  "<" ++ sort ++ " '" ++ value.kind ++ "'>"

/-- The items of a value that is a collection: those of a list, the characters of a
text, and the names in an object. -/
def items? : Value → Option (List Value)
  | .list items => some items
  | .object entries => some (entries.map fun entry => .text entry.1)
  | value => value.text?.map fun text => text.toList.map fun c => .text c.toString

/-- Whether a collection holds a value, unless it cannot be asked: a list holds what
equals one of its items, an object the keys that are names in it, and a text every
text that is a part of it. -/
def holds? (collection value : Value) : Option Bool :=
  match collection with
  | .list items => some (items.any value.same)
  | .object entries =>
    if value.isKey then some (entries.any fun entry => value.isText entry.1) else none
  | collection => do
    let whole ← collection.text?
    let part ← value.text?
    return whole.contains part

@[simp] theorem isTruthy_flag
    (value : Bool) :
    (flag value).isTruthy = value := rfl

theorem isWritable_int
    (value : Int) :
    (int value).isWritable = decide (value.natAbs < writtenLimit) := rfl

@[simp] theorem same_text_text
    (left right : String) :
    same (.text left) (.text right) = (left == right) := by
  rw [same, Bool.eq_iff_iff]
  simp only [isText, text?, beq_iff_eq, Option.some.injEq]
  exact eq_comm

end Value
end Retry
