import Retry.Fault

/-!
# Making failures

A failure is made by the classes of its lineage in turn.  Each class of the
taxonomy takes the parts it knows from what it is offered, keeps its own, and
hands on what the classes it extends are for; most classes outside the taxonomy
end the chain.  Where classes of different branches are combined, one can be
offered what another left over, so a part may be taken for something else, or
refused.
-/

namespace Retry

/-- What is offered to a class: values in order, and values for named parts. -/
structure Offer where
  inOrder : List Value
  named : List (Part × Value)

namespace Offer

/-- The parts of an offer to a class that takes the given ones, of which the
first `required` must be there.  It must be offered no more values than it takes,
no part it does not take, and no part twice. -/
def parts?
    (offer : Offer)
    (taken : List Part)
    (required : Nat) : Option (List (Part × Value)) :=
  let bound := taken.zip offer.inOrder
  if offer.inOrder.length ≤ taken.length &&
      offer.named.all (fun entry =>
        taken.contains entry.1 && (bound.lookup entry.1).isNone) &&
      (taken.take required).all fun part => ((bound ++ offer.named).lookup part).isSome then
    some (bound ++ offer.named)
  else none

end Offer

/-- How a known class takes part in making a failure. -/
inductive Share where
  /-- Not at all. -/
  | none
  /-- It keeps every value in order as an argument and ends the chain. -/
  | arguments
  /-- It keeps the first of at most two values as its reason and only argument, and
  ends the chain. -/
  | reason
  /-- It takes a single value and hands it on. -/
  | relay
  /-- It refuses every offer. -/
  | refusal
  /-- It takes the given parts, of which the first `required` must be there. -/
  | parts (taken : List Part) (required : Nat)

namespace KnownClass

/-- The share of a known class. -/
def share : KnownClass → Share
  | sdkError => .parts [.message, .details] 1
  | clientError => .parts [.message, .details, .retryable] 1
  | retryableError => .parts [.message, .details] 1
  | serviceError =>
    .parts [.message, .statusCode, .errorCode, .requestId, .details] 2
  | attemptTimeoutError => .none
  | httpError | requestError | invalidUrl | cookieConflict | streamError => .relay
  | transportError | timeoutException | connectTimeout | readTimeout | writeTimeout
  | poolTimeout | networkError | connectError | readError | writeError | closeError
  | protocolError | localProtocolError | remoteProtocolError | proxyError
  | unsupportedProtocol | decodingError | tooManyRedirects => .none
  | httpStatusError | streamConsumed => .refusal
  | cancelledError | addressInfoError | hostError | sslError | sslCertificateError
  | unsupportedOperation | httpException => .none
  | urlError => .reason
  | _ => .arguments

/-- Whether a class keeps something with the failures it takes part in making. -/
def keepsParts : KnownClass → Bool
  | sdkError | clientError | serviceError | httpError | requestError | urlError
  | remoteDisconnected => true
  | _ => false

end KnownClass

namespace Facts

/-- Keeps every value in order as an argument.  A failure of the operating system
takes two values for a number and a text. -/
def keepArguments
    (known : KnownClass)
    (inOrder : List Value)
    (facts : Facts) : Facts :=
  { facts with
    arguments := inOrder
    system :=
      match inOrder with
      | [number, text] =>
        if known.toClass.isA .osError then some (number, text) else none
      | _ => none }

/-- What a class of the taxonomy keeps of the parts it takes.  Details that count as
not given are an empty object. -/
def keepParts
    (known : KnownClass)
    (parts : List (Part × Value))
    (facts : Facts) : Facts :=
  let part (part : Part) : Value := (parts.lookup part).getD .null
  match known with
  | .sdkError =>
    let details := if (part .details).isTruthy then part .details else .object []
    (facts.keep .message (part .message)).keep .details details
  | .clientError => facts.keep .retryable (part .retryable)
  | .serviceError =>
    ((facts.keep .statusCode (part .statusCode)).keep .errorCode (part .errorCode)).keep
      .requestId (part .requestId)
  | _ => facts

/-- What a class of the taxonomy hands on of the parts it takes.  Failures of the
retryable class are flagged so whatever the caller supplies. -/
def handOn
    (known : KnownClass)
    (parts : List (Part × Value)) : Offer :=
  let part (part : Part) : Value := (parts.lookup part).getD .null
  match known with
  | .sdkError => ⟨[part .message], []⟩
  | .retryableError =>
    ⟨[part .message, part .details], [(.retryable, .flag true)]⟩
  | _ => ⟨[part .message, part .details], []⟩

/-- Passes where a known class can keep what it keeps with a failure, if anything. -/
def checkKeeping
    (known : KnownClass)
    (facts : Facts) : Except Fault Unit :=
  if known.keepsParts then seen facts.failureClass.checkKeeping else .ok ()

/-- The facts that the classes of a lineage make of an offer.  An offer that no class
is left to take is refused.  What a class hands on is taken before it keeps anything. -/
def assemble : List Layer → Offer → Facts → Except Fault Facts
  | [], _, _ => .error .incompatible
  | .defined definition :: rest, offer, facts =>
    match definition.member? .filling with
    | some member => seen (.error member.refusal)
    | none => assemble rest offer facts
  | .known known :: rest, offer, facts =>
    match known.share, offer with
    | .none, offer => assemble rest offer facts
    | .arguments, offer => do
      checkKeeping known facts
      if offer.named.isEmpty then return facts.keepArguments known offer.inOrder
      else throw .incompatible
    | .reason, ⟨[reason], []⟩ | .reason, ⟨[reason, _], []⟩ => do
      checkKeeping known facts
      return { facts with arguments := [reason] }.keep .reason reason
    | .relay, ⟨[value], []⟩ => do
      let made ← assemble rest ⟨[value], []⟩ facts
      checkKeeping known facts
      return made
    | .parts taken required, offer =>
      match offer.parts? taken required with
      | some parts => do
        let made ← assemble rest (handOn known parts) facts
        checkKeeping known facts
        return keepParts known parts made
      | none => .error .incompatible
    | _, _ => .error .incompatible

/-- The text of the failure that a stream was read a second time. -/
def streamConsumedText : String :=
  "Attempted to read or stream some content, but the content has already been " ++
    "streamed. For requests, this could be due to passing a generator as request " ++
    "content, and then receiving a redirect response or a secondary request as part " ++
    "of an authentication flow.For responses, this could be due to attempting to " ++
    "stream the response content more than once."

/-- Passes where failures of a class can be created.  Where their creation is left to what
the lineage says, the creator that this names has to be the one that the class is shaped
for. -/
def checkCreation (cls : FailureClass) : Except Fault Unit :=
  match cls.lineage.findSome? Layer.creation? with
  | none => .ok ()
  | some .overridden => .error .incompatible
  | some (.by creator) =>
    if cls.layout.defersCreation && creator ≠ cls.layout.creator then .error .incompatible
    else .ok ()

/-- The facts of a failure of a class.  It is offered its message and, if it is of the
taxonomy, the named parts, for a service failure after the status.  Failures of the
two classes that refuse every offer are made apart: the one with its message, the
other with a text of its own. -/
def make
    (cls : FailureClass)
    (message statusCode : Value)
    (named : List (Part × Value)) : Except Fault Facts := do
  if cls.ref = .known .httpStatusError then return bare cls [message]
  if cls.ref = .known .streamConsumed then return bare cls [.text streamConsumedText]
  checkCreation cls
  let offer : Offer :=
    if cls.isA .serviceError then ⟨[message, statusCode], named⟩
    else ⟨[message], if cls.isA .sdkError then named else []⟩
  assemble cls.lineage offer (bare cls [])

/-- Passes where a failure can be given a cause or a context. -/
def checkTaking (facts : Facts) : Except Fault Unit :=
  seen facts.failureClass.checkKeeping

end Facts
end Retry
