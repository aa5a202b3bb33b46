import Retry.Failure.Class

/-!
# Failures

A failure of an attempt: its class, what it says of itself, and the failures it
was caused by or arose while handling.  Decisions look no further than the
failure and the class of its direct cause.
-/

namespace Retry

/-- What a failure says of itself.  Its arguments are what its text is made of; where
the operating system reported it, two of them are a number and a text.  A part is
its own only if the class that keeps it took part in making the failure, and is
null where the caller supplied nothing for it.  What is put under the name of a question
once the failure is made hides the answer of its class. -/
structure Facts where
  failureClass : FailureClass
  arguments : List Value
  system : Option (Value × Value)
  own? : Part → Option Value
  override? : Question → Option Override

namespace Facts

/-- Arguments alone. -/
def bare
    (cls : FailureClass)
    (arguments : List Value) : Facts where
  failureClass := cls
  arguments := arguments
  system := none
  own? _ := none
  override? _ := none

/-- Keeps a part. -/
def keep
    (part : Part)
    (value : Value)
    (facts : Facts) : Facts :=
  { facts with own? := fun other => if other = part then some value else facts.own? other }

/-- Puts something under the name of a question. -/
def put
    (question : Question)
    (override : Override)
    (facts : Facts) : Facts :=
  { facts with override? := fun other =>
      if other = question then some override else facts.override? other }

end Facts

namespace FailureClass

/-- Why the failures of a class do not have something that they are looked at for: what
stands in for it in the class is of no use. -/
def lacking (cls : FailureClass) : Refusal :=
  ((cls.member? .fallback).map Member.refusal).getD .missing

/-- Passes where the failures of a class let themselves be looked at. -/
def look (cls : FailureClass) : Except Refusal Unit :=
  match cls.member? .access with
  | none => .ok ()
  | some .reserved => .error cls.lacking
  | some member => .error member.refusal

/-- Passes where something can be kept with the failures of a class. -/
def checkKeeping (cls : FailureClass) : Except Refusal Unit :=
  match cls.member? .keeping with
  | none => .ok ()
  | some member => .error member.refusal

/-- Passes where the failures of a class can be looked at for the class that they say they
are of.  It does not matter if they do not say. -/
def checkClaim (cls : FailureClass) : Except Refusal Unit :=
  let claim : Except Refusal Unit := do
    cls.look
    if cls.member? .claimedClass matches some .reserved then throw cls.lacking
  if claim matches .error .unusable then claim else .ok ()

/-- Whether a class counts as another: it is or extends it.  Where it is not, its failures
are looked at for the class that they say they are of.  What is found there makes no
difference, for no value is a class; a class that is held there would be followed. -/
def counts
    (cls : FailureClass)
    (other : ClassRef) : Except Refusal Bool := do
  if cls.extends? other then return true
  cls.checkClaim
  return false

/-- Whether a class counts as one of some known ones, which are gone through in order. -/
def countsAsAny (cls : FailureClass) : List KnownClass → Except Refusal Bool
  | [] => .ok false
  | known :: rest => do
    if ← cls.counts (.known known) then return true
    cls.countsAsAny rest

end FailureClass

namespace Facts

/-- What a failure has of a part: what it keeps itself, else what is seen of what the
first class in its lineage holds under the name of the part. -/
def found?
    (facts : Facts)
    (part : Part) : Option Value :=
  (facts.own? part).or ((facts.failureClass.member? (.part part)).bind Member.seen?)

/-- A part of a failure that is looked at. -/
def part
    (facts : Facts)
    (part : Part) : Except Refusal Value := do
  facts.failureClass.look
  match facts.found? part with
  | some value => return value
  | none => throw facts.failureClass.lacking

@[simp] theorem own?_keep_self
    (part : Part)
    (value : Value)
    (facts : Facts) :
    (facts.keep part value).own? part = some value := by
  simp [keep]

theorem found?_of_own?
    {facts : Facts}
    {part : Part}
    {value : Value}
    (own : facts.own? part = some value) :
    facts.found? part = some value := by
  simp [found?, own]

end Facts

/-- The direct cause of a failure: none, the failure itself, or another one. -/
inductive Cause (α : Type) where
  | none
  | itself
  | other (failure : α)

/-- A failure with its cause and the failure it arose while handling. -/
inductive Failure where
  | mk (facts : Facts) (cause : Cause Failure) (context : Option Failure)

namespace Failure

/-- What a failure says of itself. -/
def facts : Failure → Facts
  | .mk facts _ _ => facts

/-- The class of a failure. -/
def failureClass (failure : Failure) : FailureClass :=
  failure.facts.failureClass

/-- Whether a failure is of a known class. -/
def isA
    (failure : Failure)
    (known : KnownClass) : Bool :=
  failure.failureClass.isA known

/-- Whether a failure counts as of a class. -/
def isInstance
    (failure : Failure)
    (ref : ClassRef) : Except Refusal Bool :=
  failure.failureClass.counts ref

/-- What stands in the place of the direct cause of a failure. -/
inductive Origin where
  | none
  | failure (cls : FailureClass)
  /-- A value that a class of the failure holds in the place of a cause. -/
  | value (value : Value)

/-- What stands in the place of the direct cause of a failure that is looked at for it: a
cause of its own, else what its class holds there. -/
def origin (failure : Failure) : Except Refusal Origin := do
  failure.failureClass.look
  match failure with
  | .mk facts .itself _ => return .failure facts.failureClass
  | .mk _ (.other cause) _ => return .failure cause.failureClass
  | .mk facts .none _ =>
    match facts.failureClass.member? .cause with
    | Option.none => return .none
    | some member =>
      match member.seen? with
      | some value => return if value.isNull then .none else .value value
      | Option.none => throw facts.failureClass.lacking

/-- Whether the direct cause of a failure counts as of a class. -/
def isCausedBy
    (failure : Failure)
    (ref : ClassRef) : Except Refusal Bool := do
  match ← failure.origin with
  | .failure cls => cls.counts ref
  | .none | .value _ => return false

end Failure

namespace Value

/-- Values in round brackets; a single one is followed by a comma. -/
def bracketed (values : List Value) : String :=
  "(" ++ ", ".intercalate (values.map quoted) ++ (if values.length = 1 then "," else "") ++ ")"

/-- A single value as it reads within a message, and any other number of values
in brackets; no values read as nothing. -/
def shownAll : List Value → String
  | [] => ""
  | [value] => value.shown
  | values => bracketed values

end Value

namespace Facts

/-- The text of a service failure: its message and its codes. -/
def serviceText (facts : Facts) : Except Refusal String := do
  let errorCode ← facts.part .errorCode
  let message ← facts.part .message
  let statusCode ← facts.part .statusCode
  let code := if errorCode.isTruthy then " (" ++ errorCode.shown ++ ")" else ""
  return message.shown ++ " [status " ++ statusCode.shown ++ code ++ "]"

/-- The text of a failed look-up, which puts the key it looked for in quotes. -/
def keyText (facts : Facts) : String :=
  match facts.arguments with
  | [key] => key.quoted
  | arguments => Value.shownAll arguments

/-- The text of a failure that the operating system reported. -/
def systemText (facts : Facts) : String :=
  match facts.system with
  | some (number, text) => "[Errno " ++ number.shown ++ "] " ++ text.shown
  | none => Value.shownAll facts.arguments

/-- The text of a failure of transport security: the one that the system reported
where it is a text, else all arguments. -/
def securityText (facts : Facts) : String :=
  match facts.system.bind fun report => report.2.text? with
  | some text => text
  | none => Value.bracketed facts.arguments

/-- The wording that a member of a client's own gives, which is a text. -/
def wordingOf (member : Member) : Except Refusal String := do
  match (← member.ask).text? with
  | some text => return text
  | none => throw .unusable

/-- How a class words the failures of it, nothing where it leaves the wording to
the classes it extends. -/
def wording? (facts : Facts) : Layer → Option (Except Refusal String)
  | .defined definition => (definition.member? .wording).map wordingOf
  | .known .serviceError => some facts.serviceText
  | .known .keyError => some (.ok facts.keyText)
  | .known .osError => some (.ok facts.systemText)
  | .known .sslError => some (.ok facts.securityText)
  | .known .urlError =>
    some do return "<urlopen error " ++ (← facts.part .reason).shown ++ ">"
  | .known .attributeError | .known .importError | .known .baseException =>
    some (.ok (Value.shownAll facts.arguments))
  | .known _ => none

/-- A failure as a text: worded as the first class in its lineage that has a
wording does. -/
def text (facts : Facts) : Except Refusal String :=
  (facts.failureClass.lineage.findSome? facts.wording?).getD (.error .missing)

end Facts
end Retry
