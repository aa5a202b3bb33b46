import Retry.Failure.Layout
import Retry.Failure.Reserved

/-!
# Failure classes

A failure class is a known class, or one that a client defines, with or without
other classes to extend.  Its *lineage* lists the class itself and every class it extends,
directly or not, in the order in which questions about an instance look for an
answer.  In a lineage every class stands once, and before the classes it directly
extends, which `FailureClass` carries as proofs.
-/

namespace Retry

/-- What tells one failure class from another: a known class, or the serial
number and name of a defined one. -/
inductive ClassRef where
  | known (known : KnownClass)
  | defined (serial : Nat) (name : String)
  deriving DecidableEq

namespace ClassRef

/-- The name a class is shown by. -/
def name : ClassRef → String
  | known k => k.name
  | defined _ name => name

end ClassRef

/-- A class a client defines, with what it holds under which name, and the operations that
it answers questions by. -/
structure Definition where
  serial : Nat
  name : String
  parents : List ClassRef
  members : List (String × Member)
  written : List (Question × String)
  layout : Layout

namespace Definition

/-- What a class holds under the name of a feature. -/
def member?
    (definition : Definition)
    (feature : Feature) : Option Member :=
  definition.members.lookup feature.name

/-- What stands in a class in the place of an answer to a question. -/
def override?
    (definition : Definition)
    (question : Question) : Option Override :=
  ((definition.written.lookup question).map .written).or
    ((definition.member? (.question question)).map .held)

/-- Whether a class makes room for values under reserved names. -/
def hasOwnShape (definition : Definition) : Bool :=
  definition.members.any fun entry => entry.2 matches .reserved

end Definition

/-- One class of a lineage, with what it contributes itself. -/
inductive Layer where
  | known (known : KnownClass)
  | defined (definition : Definition)

namespace Layer

/-- The class of a layer. -/
def ref : Layer → ClassRef
  | known k => .known k
  | defined d => .defined d.serial d.name

/-- The classes that the class of a layer directly extends. -/
def parents : Layer → List ClassRef
  | known k => k.parents.map .known
  | defined d => d.parents

/-- What a class holds under the name of a feature, if anything: what a client had it
hold, or something of the library's own.  The most basic class has its own way of being
looked at, of keeping parts and of holding a cause. -/
def held?
    (feature : Feature) : Layer → Option (Option Member)
  | known .baseException =>
    if [.access, .keeping, .cause].contains feature then some none else none
  | known _ => none
  | defined d => (d.member? feature).map some

/-- Whether the failures of the class of a layer have room for more than those of the
classes it extends. -/
def hasOwnShape : Layer → Bool
  | known k => k.hasOwnShape
  | defined d => d.hasOwnShape

end Layer

/-- Every class of a lineage stands before the classes it directly extends. -/
def ParentsFollow : List Layer → Prop
  | [] => True
  | layer :: rest =>
    (∀ parent ∈ layer.parents, parent ∈ rest.map Layer.ref) ∧ ParentsFollow rest

instance ParentsFollow.instDecidable :
    (layers : List Layer) → Decidable (ParentsFollow layers)
  | [] => .isTrue trivial
  | layer :: rest =>
    have : Decidable (ParentsFollow rest) := instDecidable rest
    inferInstanceAs
      (Decidable
        ((∀ parent ∈ layer.parents, parent ∈ rest.map Layer.ref) ∧ ParentsFollow rest))

@[simp] theorem ParentsFollow.nil : ParentsFollow [] := trivial

@[simp] theorem ParentsFollow.cons
    (layer : Layer)
    (rest : List Layer) :
    ParentsFollow (layer :: rest) ↔
      (∀ parent ∈ layer.parents, parent ∈ rest.map Layer.ref) ∧
        ParentsFollow rest := Iff.rfl

namespace Lineage

variable {α : Type} [DecidableEq α]

/-- A class may come next when it stands behind no other in any of the
sequences. -/
def isEligible
    (sequences : List (List α))
    (candidate : α) : Bool :=
  sequences.all fun sequence => !(sequence.drop 1).contains candidate

/-- The leftmost head that may come next. -/
def next? (sequences : List (List α)) : Option α :=
  (sequences.filterMap List.head?).find? (isEligible sequences)

/-- The sequences without a class at their heads. -/
def advance
    (chosen : α)
    (sequences : List (List α)) : List (List α) :=
  sequences.map fun sequence =>
    if sequence.head? = some chosen then sequence.drop 1 else sequence

/-- The one sequence that keeps the order of all the given ones, preferring the
leftmost, if there is one; `length` bounds the length of the result. -/
def merge? : (length : Nat) → List (List α) → Option (List α)
  | 0, sequences => if sequences.all List.isEmpty then some [] else none
  | length + 1, sequences =>
    if sequences.all List.isEmpty then some []
    else do
      let chosen ← next? sequences
      let rest ← merge? length (advance chosen sequences)
      some (chosen :: rest)

/-- The merge of sequences of any length. -/
def mergeAll? (sequences : List (List α)) : Option (List α) :=
  merge? sequences.flatten.length sequences

end Lineage

namespace KnownClass

/-- The lineage of a known class that extends others through at most `height`
steps. -/
def lineageWithin : (height : Nat) → KnownClass → List KnownClass
  | 0, known => [known]
  | height + 1, known =>
    let inherited := known.parents.map (lineageWithin height)
    known :: (Lineage.mergeAll? (inherited ++ [known.parents])).getD []

/-- The lineage of a known class; no known class lies more than seven steps
above another. -/
def lineage (known : KnownClass) : List KnownClass :=
  lineageWithin 7 known

end KnownClass

namespace KnownClass

/-- What creates the failures of a known class. -/
def creator (known : KnownClass) : Creator :=
  if known.lineage.contains osError then .system
  else if known.lineage.contains memoryError then .memory
  else .general

/-- The layout of a known class's failures. -/
def layout (known : KnownClass) : Layout where
  takesAttributes := true
  takesReferences := outerRoots.any known.lineage.contains
  creator := known.creator
  defersCreation := false

end KnownClass

/-- What says how failures are created. -/
inductive Creation where
  /-- The creator of a known class. -/
  | by (creator : Creator)
  /-- Something of a client's own, which takes nothing that a failure is made of. -/
  | overridden

namespace Layer

/-- What the class of a layer says of the creation of failures, nothing where it leaves
this to the classes it extends. -/
def creation? : Layer → Option Creation
  | known k => if k.creates then some (.by k.creator) else none
  | defined d => (d.member? .creation).map fun _ => .overridden

/-- The layout of the failures of the class of a layer. -/
def layout : Layer → Layout
  | known k => k.layout
  | defined d => d.layout

end Layer

/-- Why a class cannot be defined. -/
inductive DefinitionError where
  /-- A class is extended twice, the orders of the extended classes contradict each
  other, or two of them have room for different things. -/
  | conflict
  /-- It holds something of no use under a name that decides about the class itself. -/
  | unusable
  /-- It reserves a name under which it holds something. -/
  | reservedTwice (name : String)
  /-- Its name holds the character that ends names. -/
  | nullInName
  deriving DecidableEq

/-- What is said of a class that cannot be defined, if anything. -/
def DefinitionError.message? : DefinitionError → Option String
  | conflict | unusable => none
  | reservedTwice name =>
    some (Text.quoted name ++ " in " ++ Reserved.declaration ++
      " conflicts with class variable")
  | nullInName => some "type name must not contain null characters"

/-- A failure class: its own layer, then those of the classes it extends. -/
structure FailureClass where
  own : Layer
  inherited : List Layer
  parents_follow : ParentsFollow (own :: inherited)
  distinct : ((own :: inherited).map Layer.ref).Nodup

namespace FailureClass

/-- All layers, in the order in which answers are looked for. -/
def lineage (cls : FailureClass) : List Layer :=
  cls.own :: cls.inherited

/-- What tells the class from others. -/
def ref (cls : FailureClass) : ClassRef :=
  cls.own.ref

/-- The name the class is shown by. -/
def name (cls : FailureClass) : String :=
  cls.ref.name

/-- Whether the class is, or extends, another. -/
def extends?
    (cls : FailureClass)
    (other : ClassRef) : Bool :=
  cls.lineage.any fun layer => layer.ref = other

/-- Whether the class is, or extends, a known one. -/
def isA
    (cls : FailureClass)
    (known : KnownClass) : Bool :=
  cls.extends? (.known known)

/-- The class of a layer followed by others, if each stands once, and before the
classes it directly extends. -/
def ofLayers? : List Layer → Option FailureClass
  | [] => none
  | own :: inherited =>
    if ordered : ParentsFollow (own :: inherited) ∧
        ((own :: inherited).map Layer.ref).Nodup then
      some ⟨own, inherited, ordered.1, ordered.2⟩
    else none

/-- What a client had the first class in a lineage hold that holds anything under the
name of a feature, if it is a client's. -/
def member?
    (cls : FailureClass)
    (feature : Feature) : Option Member :=
  (cls.lineage.findSome? (Layer.held? feature)).join

/-- The classes in a lineage that make room for something. -/
def shapes (cls : FailureClass) : List ClassRef :=
  (cls.lineage.filter Layer.hasOwnShape).map Layer.ref

/-- The layout of a class's failures. -/
def layout (cls : FailureClass) : Layout :=
  cls.own.layout

/-- The class that a class with the given parents is shaped after: the first of those
that make room for all that the others make room for. -/
def model? : List FailureClass → Except DefinitionError (Option FailureClass) :=
  List.foldlM (fun
    | none, parent => .ok (some parent)
    | some model, parent =>
      if parent.shapes.all model.shapes.contains then .ok (some model)
      else if model.shapes.all parent.shapes.contains then .ok (some parent)
      else .error .conflict) none

/-- The names that a class reserves, nothing where it declares none.  A class that holds
something under a name cannot reserve it. -/
def reservedNames?
    (name : String)
    (members : List (String × Member)) : Except DefinitionError (Option (List String)) := do
  match members.lookup Reserved.declaration with
  | none => return none
  | some (.constant _) | some .reserved => throw .unusable
  | some (.plain value) =>
    match Reserved.names? value with
    | some names => return some (names.map (Reserved.held name))
    | none => throw .unusable

/-- The layout of a class that reserves some names, shaped after a model and with the
layouts of its other parents beside it.  A class that reserves none makes room for
everything, and one that does makes no room for what there is room for already. -/
def layoutFrom
    (model : Layout)
    (others : List Layout)
    (reserved? : Option (List String)) : Except DefinitionError Layout := do
  match reserved? with
  | none => return { model with takesAttributes := true, takesReferences := true }
  | some names =>
    let attributes := names.count Reserved.attributesName
    let references := names.count Reserved.referencesName
    if 1 < attributes || 0 < attributes && model.takesAttributes then throw .unusable
    if 1 < references || 0 < references && model.takesReferences then throw .unusable
    return { model with
      takesAttributes := model.takesAttributes || 0 < attributes ||
        others.any Layout.takesAttributes
      takesReferences := model.takesReferences || 0 < references ||
        others.any Layout.takesReferences }

/-- What a class holds that holds some members and reserves some names. -/
def membersWith
    (members : List (String × Member))
    (reserved : List String) : Except DefinitionError (List (String × Member)) := do
  let kept := reserved.filter fun name =>
    name != Reserved.attributesName && name != Reserved.referencesName
  match kept.find? fun name =>
      !Reserved.exempt.contains name && (members.lookup name).isSome with
  | some name => throw (.reservedTwice name)
  | none => return members ++ kept.map fun name => (name, .reserved)

/-- Passes where what a class holds under the two names that decide about the class
itself is of use. -/
def checkOwnNames (members : List (String × Member)) : Except DefinitionError Unit := do
  match members.lookup "__qualname__" with
  | some (.plain value) => if value.text?.isNone then throw .unusable
  | some _ => throw .unusable
  | none => pure ()
  if (members.lookup "__classcell__").isSome then throw .unusable

/-- Passes where the classes that a class extends let themselves be extended. -/
def checkExtension (inherited : List Layer) : Except DefinitionError Unit :=
  match (inherited.findSome? (Layer.held? .extension)).join with
  | none | some (.constant _) => .ok ()
  | some (.plain _) | some .reserved => .error .unusable

/-- A class that a client defines, on top of others or on top of none.  What its failures
have room for is looked at first, its name and the names that decide about it next, and
its lineage last. -/
def define
    (serial : Nat)
    (name : String)
    (parents : List FailureClass)
    (members : List (String × Member))
    (written : List (Question × String) := []) : Except DefinitionError FailureClass := do
  let model? ← model? parents
  let model := (model?.map layout).getD .bare
  let others := (parents.filter fun parent => model?.all (·.ref ≠ parent.ref)).map layout
  let reserved? ← reservedNames? name members
  let layout ← layoutFrom model others reserved?
  let held ← membersWith members (reserved?.getD [])
  if name.contains '\x00' then throw .nullInName
  checkOwnNames members
  let refs := parents.map ref
  let ancestors := parents.map fun parent => parent.lineage.map Layer.ref
  let layers := parents.flatMap lineage
  let some merged := Lineage.mergeAll? (ancestors ++ [refs]) | throw .conflict
  if !refs.Nodup then throw .conflict
  let inherited := merged.filterMap fun ref => layers.find? fun layer => layer.ref = ref
  let definition (defers : Bool) : Layer :=
    .defined ⟨serial, name, refs, held, written, { layout with defersCreation := defers }⟩
  let first? := (definition false :: inherited).findSome? Layer.creation?
  let defers := model.defersCreation || first? matches some .overridden
  let some cls := ofLayers? (definition defers :: inherited) | throw .conflict
  checkExtension inherited
  return cls

end FailureClass

/-- The lineage of a known class keeps the order that every lineage keeps. -/
theorem KnownClass.parentsFollow_lineage
    (known : KnownClass) :
    ParentsFollow (known.lineage.map Layer.known) := by
  cases known <;> decide +kernel

/-- No class stands twice in the lineage of a known class. -/
theorem KnownClass.nodup_lineage
    (known : KnownClass) :
    ((known.lineage.map Layer.known).map Layer.ref).Nodup := by
  cases known <;> decide +kernel

theorem KnownClass.lineage_eq_cons
    (known : KnownClass) :
    known.lineage = known :: known.lineage.tail := by
  rfl

/-- A known class as a failure class. -/
def KnownClass.toClass (known : KnownClass) : FailureClass where
  own := .known known
  inherited := known.lineage.tail.map .known
  parents_follow := by
    have follow := known.parentsFollow_lineage
    rw [known.lineage_eq_cons] at follow
    exact follow
  distinct := by
    have distinct := known.nodup_lineage
    rw [known.lineage_eq_cons] at distinct
    exact distinct

end Retry
