import Retry.Failure.Member
import Retry.Text.Identifier

/-!
# Reserved names

A class can declare that it makes room in its failures for values under certain names,
its *reserved* names.  The declaration is a text, which is one name, or a collection of
texts.  Names are identifiers.  Two of them are not like the others: they make room for
values under every name, and for references to the failure, which is done once at most.
-/

namespace Retry
namespace Reserved

/-- The name under which a class declares its reserved names. -/
def declaration : String := "__slots__"

/-- The name that makes room for values under every name. -/
def attributesName : String := "__dict__"

/-- The name that makes room for references to a failure. -/
def referencesName : String := "__weakref__"

/-- Names that a class may hold something under and reserve all the same. -/
def exempt : List String := ["__qualname__", "__classcell__"]

/-- The names that a value declares. -/
def names? (value : Value) : Option (List String) := do
  let names ←
    match value.text? with
    | some name => some [name]
    | none => (← value.items?).mapM Value.text?
  if names.all Text.isIdentifier then some names else none

/-- The name as it is held by the class of the given name.  Names that start with two
underscores, but do not end so, are private to a class. -/
def held (owner name : String) : String :=
  if name.startsWith "__" && !name.endsWith "__" then
    match owner.toList.dropWhile (· = '_') with
    | [] => name
    | owner => "_" ++ String.ofList owner ++ name
  else name

end Reserved
end Retry
