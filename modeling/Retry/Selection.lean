import Retry.Configuration
import Retry.Settings.DefaultMode

/-!
# Selection

From a mode to the retrier that serves it, and back from a retrier's tag to the
mode.  One mode is still served by a policy; the others have a variant each.
-/

namespace Retry

namespace Variant

/-- A builder of a variant configured in an environment. -/
def configured
    (env : Environment)
    (variant : Variant) : Step Builder :=
  Configuration.configure env (Builder.fresh variant)

/-- The strategy of a variant configured in an environment. -/
def select
    (env : Environment)
    (variant : Variant) : Reported Strategy :=
  let step := configured env variant
  match step.fault with
  | some fault => ⟨step.events, .error fault⟩
  | none =>
    let built := step.builder.build
    ⟨step.events ++ built.events, built.outcome⟩

end Variant

namespace Policy

/-- The budget of retries of a mode that nothing overrides. -/
def defaultRetries : Mode → Int
  | .legacy => Variant.legacy.maxAttempts - 1
  | _ => Variant.standard.maxAttempts - 1

/-- The throttled base delay of a mode. -/
def throttledBaseDelay : Mode → Binary64
  | .legacy => Variant.legacyThrottledBaseDelay
  | _ => Variant.defaultThrottledBaseDelay

/-- The rules of a mode. -/
def rulesFor (mode : Mode) : Rules where
  conditions := Condition.canonical
  classifier := .throttlingClassifier
  baseDelay := .number (.real Variant.defaultBaseDelay)
  throttledBaseDelay := .number (.real (throttledBaseDelay mode))
  maxBackoff := .number (.real Variant.defaultMaxBackoff)

/-- The policy of a mode, with the budget that the environment sets. -/
def forMode
    (env : Environment)
    (mode : Mode) : Reported Policy :=
  match Settings.attempts env with
  | .error error => ⟨[], .error (.setting error)⟩
  | .ok override =>
    let numRetries := (override.map (· - 1)).getD (defaultRetries mode)
    ⟨[.policyCreated mode numRetries override],
      make (.mode mode) (.int numRetries) (rulesFor mode)⟩

/-- The policy of a value that should be a mode.  The setting is read before
the value turns out not to be one. -/
def forValue
    (env : Environment) : Value → Reported Policy
  | .mode mode => forMode env mode
  | _ =>
    ⟨[], match Settings.attempts env with
      | .error error => .error (.setting error)
      | .ok _ => .error .missingMember⟩

end Policy

namespace Mode

/-- The variant that serves a mode, if one does. -/
def variant? : Mode → Option Variant
  | standard => some .standard
  | adaptive => none
  | adaptiveV2 => some .adaptive
  | legacy => some .legacy

/-- The tag of the retriers that serve a mode. -/
def kind (mode : Mode) : String :=
  match mode.variant? with
  | some variant => variant.kind
  | none => Policy.adapterKind

/-- The mode that stands for each tag of a retrier. -/
def byKind : List (String × Mode) :=
  [(Variant.standard.kind, standard), (Variant.adaptive.kind, adaptiveV2),
    (Variant.legacy.kind, legacy), (Policy.adapterKind, adaptive)]

/-- The mode that stands for a tag, if one does. -/
def ofKind? (kind : String) : Option Mode :=
  byKind.lookup kind

@[simp] theorem ofKind?_kind
    (mode : Mode) :
    ofKind? mode.kind = some mode := by
  cases mode <;> rfl

/-- The table of tags is the inverse of what tags the modes have. -/
theorem ofKind?_eq_some_iff
    {kind : String}
    {mode : Mode} :
    ofKind? kind = some mode ↔ mode.kind = kind := by
  constructor
  · intro found
    obtain ⟨before, after, entries, _⟩ := List.lookup_eq_some_iff.mp found
    have listed : (kind, mode) ∈ byKind := entries ▸ List.mem_append_right _ List.mem_cons_self
    simp only [byKind, List.mem_cons, Prod.mk.injEq, List.not_mem_nil, or_false] at listed
    rcases listed with ⟨rfl, rfl⟩ | ⟨rfl, rfl⟩ | ⟨rfl, rfl⟩ | ⟨rfl, rfl⟩ <;> rfl
  · rintro rfl
    exact ofKind?_kind mode

end Mode

namespace Retrier

/-- The retrier made for a mode, before its selection is reported. -/
def make
    (env : Environment)
    (mode : Mode) : Reported Retrier :=
  match mode.variant? with
  | some variant =>
    let selected := variant.select env
    ⟨selected.events, .strategy <$> selected.outcome⟩
  | none =>
    let created := Policy.forMode env mode
    ⟨created.events, .adapted <$> created.outcome⟩

/-- The retrier of a mode. -/
def forMode
    (env : Environment)
    (mode : Mode) : Reported Retrier :=
  let made := make env mode
  match made.outcome with
  | .error fault => ⟨made.events, .error fault⟩
  | .ok retrier =>
    ⟨made.events ++ [.strategySelected mode retrier.kind], .ok retrier⟩

/-- The retrier of a value that should be a mode.  The refusal of one that is not a mode
writes the value out, which can fail itself. -/
def forValue
    (env : Environment) : Value → Reported Retrier
  | .mode mode => forMode env mode
  | value =>
    ⟨[], .error (if value.isWritable then .unknownMode value else .raised .tooManyDigits)⟩

/-- The retrier of the mode that the environment sets. -/
def default (env : Environment) : Reported Retrier :=
  match Settings.mode env with
  | .error error => ⟨[], .error (.setting error)⟩
  | .ok mode => forMode env mode

end Retrier

/-- What diagnostics and the search for a mode see of an object: the label of its
class, the tags that this class and those it extends carry, each of which may
carry none, and a tag of its own. -/
structure Subject where
  label : String
  classKinds : List (Option Value)
  ownKind : Option Value

namespace Subject

/-- Passes where a value can name a class: it is a text that does not hold the character
that ends names. -/
def checkName (name : Value) : Except Fault Unit := do
  if (← compatible name.text?).contains '\x00' then throw (.definition .nullInName)

/-- The tag of an object's class: the first one in its lineage. -/
def kind? (subject : Subject) : Option Value :=
  subject.classKinds.findSome? id

/-- The mode of an object, by the tag of its class. -/
def mode (subject : Subject) : Except Fault Mode :=
  match (subject.kind?.bind Value.text?).bind Mode.ofKind? with
  | some mode => .ok mode
  | none => .error (.unknownStrategyClass subject.label)

end Subject

namespace Retrier

/-- A retrier as an object in search of its mode. -/
def subject (retrier : Retrier) : Subject where
  label := retrier.label.full
  classKinds := [some (.text retrier.kind)]
  ownKind := none

/-- The mode of a retrier. -/
def mode (retrier : Retrier) : Except Fault Mode :=
  retrier.subject.mode

end Retrier
end Retry
