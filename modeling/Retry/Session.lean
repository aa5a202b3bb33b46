import Retry.Session.Held

/-!
# Sessions

A session keeps objects under names and an environment, and carries out one
command after another.  A command that fails keeps nothing new, but what it did
to a builder before it failed stays done.  Objects are numbered in the order in which
they are kept, so an object in the guise of a strategy stays the object that it is.
-/

namespace Retry

/-- How a new object is made. -/
inductive Maker where
  | builder (variant : Variant)
  | recorder (label : TypeLabel) (tracksDefaults : Bool)
  /-- A builder of a variant, configured. -/
  | configured (variant : Variant)
  /-- The strategy of a variant, configured. -/
  | selected (variant : Variant)
  /-- The retrier of the mode that the environment sets. -/
  | default
  | forMode (mode : Value)
  | policyForMode (mode : Value)
  | policy (mode numRetries : Value) (rules : Rules)
  | strategy
      (label : TypeLabel)
      (variant : Variant)
      (plan : Plan)
      (defaultsAdded : Value)
  /-- The object kept under a name, in the guise of a strategy. -/
  | adapter (receiver : String)
  | build (receiver : String)
  | toBuilder (receiver : String)

/-- A question to an object, which leaves it as it is.  What it is about may be
impossible to make, which shows once the object is found to take such questions. -/
inductive Query where
  | isRetryable (failure : Except Fault Failure)
  | isThrottling (failure : Except Fault Failure)
  | shouldRetry (failure : Except Fault Failure) (attempt : Except Fault Value)
  | computeDelay (attempt : Except Fault Value) (failure : Except Fault Failure)
  | mode
  | equals (other : String)
  | capabilities
  | inspect

/-- A command of a session. -/
inductive Command where
  /-- Sets a variable; names and values of variables are texts. -/
  | setVariable (name value : Value)
  | unsetVariable (name : Value)
  | make (name : Option String) (maker : Maker)
  | operate (receiver : String) (operation : Operation)
  /-- The question whether a defaults bundle is still to be taken in. -/
  | lacksDefaults (receiver : String) (name : Value)
  /-- Keeps a value with an object, which finished objects refuse. -/
  | assign (receiver name : String) (value : Value)
  | query (receiver : String) (query : Query)
  /-- A command, with the object it is for if there is one, of which something else
  it needs cannot be made. -/
  | refuse (receiver : Option String) (fault : Fault)

/-- What a command answers. -/
inductive Reply where
  | done
  | assigned
  | shown (view : View)
  | flag (value : Bool)
  | value (value : Value)
  | mode (mode : Mode)
  | capabilities (retries builds tracksDefaults : Bool)

/-- What a command leaves besides the session: the users' conditions it asked,
the events it reported, and its reply. -/
structure Report where
  users : List String
  events : List Event
  outcome : Except Fault Reply

/-- Numbered objects, the numbers that names stand for, and an environment. -/
structure Session where
  environment : Environment
  objects : List (Annotated Held)
  names : List (String × Nat)

namespace Report

/-- A report of an outcome alone. -/
def of (outcome : Except Fault Reply) : Report :=
  ⟨[], [], outcome⟩

/-- The report of a question put to conditions. -/
def ofConsultation
    {α : Type}
    (reply : α → Reply)
    (consultation : Consultation α) : Report :=
  ⟨consultation.users, [], reply <$> consultation.outcome⟩

end Report

namespace Session

/-- The session that holds nothing yet. -/
def start (environment : Environment) : Session :=
  ⟨environment, [], []⟩

/-- The number of the object kept under a name. -/
def numberOf
    (session : Session)
    (name : String) : Except Fault Nat :=
  match session.names.lookup name with
  | some number => .ok number
  | none => .error (.unknownRegister name)

/-- The object with a number. -/
def object
    (session : Session)
    (number : Nat) : Except Fault (Annotated Held) :=
  present session.objects[number]?

/-- The object kept under a name. -/
def find
    (session : Session)
    (name : String) : Except Fault (Annotated Held) := do
  session.object (← session.numberOf name)

/-- Keeps a new object under a name, in place of the one kept there before. -/
def keep
    (session : Session)
    (name : String)
    (held : Annotated Held) : Session :=
  { session with
    objects := session.objects ++ [held]
    names := (name, session.objects.length) ::
      session.names.filter fun entry => entry.1 != name }

/-- Changes the object kept under a name. -/
def update
    (session : Session)
    (name : String)
    (held : Annotated Held) : Session :=
  match session.numberOf name with
  | .ok number => { session with objects := session.objects.set number held }
  | .error _ => session

/-- The parts of the plan of an object that is a retrier. -/
def outlook
    (session : Session)
    (held : Annotated Held) : Except Fault Outlook :=
  match held.object with
  | .guise number => Annotated.disguised <$> session.object number
  | _ => held.outlook

/-- The budget of an object that is a retrier. -/
def budget
    (session : Session)
    (held : Annotated Held) : Except Fault Value := do
  (← session.outlook held).maxAttempts

/-- What is shown of an object. -/
def view
    (session : Session)
    (held : Annotated Held) : Except Fault View :=
  match held.object with
  | .guise number => do
    return .adapter (← session.budget held) (← (← session.object number).view)
  | _ => held.view

/-- Equality of two objects that are in no guise: builders are only equal to
themselves. -/
def sameUndisguised
    (session : Session)
    (left right : Nat) : Except Fault Bool := do
  let leftHeld ← session.object left
  let rightHeld ← session.object right
  match leftHeld.object, rightHeld.object with
  | .policy leftPolicy, .policy rightPolicy
  | .retrier (.adapted leftPolicy), .retrier (.adapted rightPolicy) =>
    return left == right || leftPolicy.same rightPolicy
  | .retrier (.strategy leftStrategy), .retrier (.strategy rightStrategy) => do
    let equal ← HeldStrategy.same (leftHeld.asStrategy leftStrategy)
      (rightHeld.asStrategy rightStrategy)
    return left == right || equal
  | _, _ => return left == right

/-- Equality of two objects.  Objects in a guise are compared as what they are, and an
object is then equal to itself whatever it is. -/
def same
    (session : Session)
    (left right : Nat) : Except Fault Bool := do
  match (← session.object left).object, (← session.object right).object with
  | .guise left, .guise right =>
    if left = right then return true else session.sameUndisguised left right
  | _, _ => session.sameUndisguised left right

/-- The budget of an object as a retrier, if it has one.  A budget of a wrong kind is a
fault. -/
def budget?
    (session : Session)
    (held : Annotated Held) : Except Fault (Option Value) :=
  match session.budget held with
  | .ok budget => .ok (some budget)
  | .error .missingMember => .ok none
  | .error fault => .error fault

/-- Whether an object can be used as a retrier, as a builder, and as one that remembers
defaults bundles. -/
def capabilities
    (session : Session)
    (held : Annotated Held) : Except Fault Reply := do
  let budget? ← session.budget? held
  return .capabilities (held.countsAsRetrier budget?) (held.countsAsBuilder budget?)
    held.object.tracksDefaults

/-- Makes a new object. -/
def make
    (session : Session) : Maker → Reported Held
  | .builder variant => ⟨[], .ok (.builder (.fresh variant))⟩
  | .recorder label tracksDefaults => ⟨[], .ok (.recorder (.fresh label tracksDefaults))⟩
  | .configured variant =>
    let configured := (variant.configured session.environment).result
    ⟨configured.events, .builder <$> configured.outcome⟩
  | .selected variant =>
    let selected := variant.select session.environment
    ⟨selected.events, (.retrier ∘ .strategy) <$> selected.outcome⟩
  | .default =>
    let selected := Retrier.default session.environment
    ⟨selected.events, .retrier <$> selected.outcome⟩
  | .forMode mode =>
    let selected := Retrier.forValue session.environment mode
    ⟨selected.events, .retrier <$> selected.outcome⟩
  | .policyForMode mode =>
    let created := Policy.forValue session.environment mode
    ⟨created.events, .policy <$> created.outcome⟩
  | .policy mode numRetries rules => ⟨[], .policy <$> Policy.make mode numRetries rules⟩
  | .strategy label variant plan defaultsAdded =>
    ⟨[], (.retrier ∘ .strategy) <$> Strategy.make label variant plan defaultsAdded⟩
  | .adapter receiver =>
    ⟨[], do
      let number ← session.numberOf receiver
      match (← session.object number).object with
      | .policy policy => return .retrier (.adapted policy)
      | _ => return .guise number⟩
  | .build receiver =>
    match session.find receiver with
    | .ok held =>
      let built := held.build
      ⟨built.events, (.retrier ∘ .strategy) <$> built.outcome⟩
    | .error fault => ⟨[], .error fault⟩
  | .toBuilder receiver =>
    ⟨[], do return .builder (← (← session.find receiver).toBuilder)⟩

/-- The report of a question to the plan of an object. -/
def consult
    {α γ : Type}
    (session : Session)
    (operation : String)
    (reply : α → Reply)
    (held : Annotated Held)
    (subject : Except Fault γ)
    (question : Outlook → γ → Consultation α) : Report :=
  let consultation : Except Fault (Consultation α) := do
    held.lookUp operation
    let subject ← subject
    held.attributes.reach [operation]
    return question ((← session.outlook held).behind held.attributes) subject
  match consultation with
  | .ok consultation => .ofConsultation reply consultation
  | .error fault => .of (.error fault)

/-- Answers a question to an object. -/
def answer
    (users : UserConditions)
    (session : Session)
    (number : Nat)
    (held : Annotated Held) : Query → Report
  | .isRetryable failure =>
    session.consult "is_retryable" .flag held failure fun outlook failure =>
      outlook.isRetryable users failure
  | .isThrottling failure =>
    session.consult "is_throttling" .value held failure fun outlook failure =>
      outlook.isThrottling users failure
  | .shouldRetry failure attempt =>
    session.consult "should_retry" .flag held (do return (← failure, ← attempt))
      fun outlook (failure, attempt) => outlook.shouldRetry users failure attempt
  | .computeDelay attempt failure =>
    session.consult "compute_delay" .value held (do return (← attempt, ← failure))
      fun outlook (attempt, failure) => outlook.computeDelay users attempt failure
  | .mode => .of (.mode <$> held.object.subject.mode)
  | .capabilities => .of (session.capabilities held)
  | .equals other =>
    .of do return .flag (← session.same number (← session.numberOf other))
  | .inspect => .of (.shown <$> session.view held)

/-- The session in another environment. -/
def moveTo
    (session : Session)
    (environment : Environment) : Session :=
  { session with environment := environment }

/-- A session changed by a command, or left as it was where the command fails. -/
def change
    (session : Session)
    (reply : Reply) : Except Fault Session → Session × Report
  | .ok changed => (changed, .of (.ok reply))
  | .error fault => (session, .of (.error fault))

/-- The session after a step on the object kept under a name, which is shown if the step
succeeds. -/
def afterStep
    (session : Session)
    (receiver : String)
    (step : Step (Annotated Held)) : Session × Report :=
  let changed := session.update receiver step.builder
  (changed, ⟨[], step.events, do
    return .shown (← changed.view (← step.result.outcome))⟩)

/-- Carries out a command.  A new object is kept only if it can be shown. -/
def perform
    (users : UserConditions)
    (session : Session) : Command → Session × Report
  | .setVariable name value =>
    session.change .done (session.moveTo <$> session.environment.setValue name value)
  | .unsetVariable name =>
    session.change .done (session.moveTo <$> session.environment.unsetValue name)
  | .make name maker =>
    let made := session.make maker
    let shown : Except Fault (Annotated Held × View) := do
      let held := Annotated.bare (← made.outcome)
      return (held, ← session.view held)
    match shown with
    | .error fault => (session, ⟨[], made.events, .error fault⟩)
    | .ok (held, view) =>
      ((name.map fun name => session.keep name held).getD session,
        ⟨[], made.events, .ok (.shown view)⟩)
  | .operate receiver operation =>
    match session.find receiver with
    | .error fault => (session, .of (.error fault))
    | .ok held =>
      session.afterStep receiver
        (held.perform session.environment operation (session.budget held))
  | .lacksDefaults receiver name =>
    match session.find receiver with
    | .error fault => (session, .of (.error fault))
    | .ok held =>
      let (asked, answer) := held.askDefaults name
      (session.update receiver asked, .of (.flag <$> answer))
  | .assign receiver name value =>
    session.change .assigned do
      let held ← session.find receiver
      return session.update receiver (← held.assign name value)
  | .query receiver query =>
    (session,
      match session.numberOf receiver, session.find receiver with
      | .ok number, .ok held => session.answer users number held query
      | .error fault, _ | _, .error fault => .of (.error fault))
  | .refuse receiver fault =>
    (session, .of do
      let _ ← receiver.mapM session.find
      throw fault)

/-- Carries out commands in order. -/
def performAll
    (users : UserConditions)
    (session : Session) : List Command → List Report
  | [] => []
  | command :: rest =>
    let (next, report) := session.perform users command
    report :: performAll users next rest

end Session
end Retry
