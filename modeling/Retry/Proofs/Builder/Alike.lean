import Retry.Builder.Operation
import Retry.Proofs.Builder.Registration

/-!
# Configuration through calls

Configuration reaches a builder only through its calls and two questions.  The main
statement says that a relation between builders that the calls and the questions keep is
kept by every operation of configuration, which reports and fails alike on both sides.
-/

namespace Retry

/-- Whether two steps leave related builders, and report and fail alike. -/
structure Step.Related
    {β γ : Type}
    (related : β → γ → Prop)
    (left : Step β)
    (right : Step γ) : Prop where
  builder : related left.builder right.builder
  events : left.events = right.events
  fault : left.fault = right.fault

namespace Step.Related

variable {β γ : Type} {related : β → γ → Prop} {left : β} {right : γ}

theorem done
    (start : related left right) :
    Related related (.done left) (.done right) :=
  ⟨start, rfl, rfl⟩

theorem failed
    (start : related left right)
    (fault : Fault) :
    Related related (.failed left fault) (.failed right fault) :=
  ⟨start, rfl, rfl⟩

theorem reported
    (start : related left right)
    (event : Event) :
    Related related (.reported left event) (.reported right event) :=
  ⟨start, rfl, rfl⟩

/-- Changes that write what passes the same check leave related builders. -/
theorem ofExcept
    {α : Type}
    (start : related left right)
    (checked : Except Fault α)
    {write : α → β}
    {writeRight : α → γ}
    (writes : ∀ value, checked = .ok value → related (write value) (writeRight value)) :
    Related related
      (.ofExcept left (write <$> checked)) (.ofExcept right (writeRight <$> checked)) := by
  cases checked with
  | error fault => exact failed start fault
  | ok value => exact done (writes value rfl)

/-- A step that is related to another by a map of builders is the other one, mapped. -/
theorem eq_lift
    {whole : β → γ}
    {first : Step β}
    {second : Step γ}
    (steps : Related (fun left right => right = whole left) first second) :
    second = first.lift whole := by
  obtain ⟨builder, events, fault⟩ := second
  obtain ⟨builders, reported, faults⟩ := steps
  cases builders
  cases reported
  cases faults
  rfl

/-- Related steps are followed by related steps. -/
theorem andThen
    {first : Step β}
    {second : Step γ}
    (steps : Related related first second)
    {next : β → Step β}
    {nextRight : γ → Step γ}
    (later : ∀ left right, related left right → Related related (next left) (nextRight right)) :
    Related related (first.andThen next) (second.andThen nextRight) := by
  cases failed : first.fault with
  | some fault =>
    have failedToo : second.fault = some fault := steps.fault.symm.trans failed
    rw [andThen_of_some failed, andThen_of_some failedToo]
    exact steps
  | none =>
    have passedToo : second.fault = none := steps.fault.symm.trans failed
    obtain ⟨builders, events, faults⟩ := later _ _ steps.builder
    rw [andThen_of_none failed, andThen_of_none passedToo]
    refine ⟨builders, ?_, faults⟩
    rw [steps.events, events]

theorem forEach
    {α : Type}
    {next : α → β → Step β}
    {nextRight : α → γ → Step γ}
    (each : ∀ item left right, related left right →
      Related related (next item left) (nextRight item right))
    (items : List α)
    (start : related left right) :
    Related related (Step.forEach next items left) (Step.forEach nextRight items right) := by
  induction items generalizing left right with
  | nil => exact done start
  | cons item rest inductionHypothesis =>
    rw [Step.forEach_cons, Step.forEach_cons]
    apply andThen (each item left right start)
    intro left right start
    exact inductionHypothesis start

end Step.Related

/-- Whether related builders stay related under every call, report and fail alike, and
answer the two questions alike. -/
structure AcceptsCalls.Alike
    {β γ : Type}
    [AcceptsCalls β]
    [AcceptsCalls γ]
    (related : β → γ → Prop) : Prop where
  label : ∀ {left right}, related left right → label left = label right
  tracksDefaults : ∀ {left right}, related left right →
    tracksDefaults left = tracksDefaults right
  call : ∀ (call : Call) {left right}, related left right →
    Step.Related related (AcceptsCalls.call call left) (AcceptsCalls.call call right)
  lacksDefaults : ∀ (name : Value) {left right}, related left right →
    related (lacksDefaults left name).1 (lacksDefaults right name).1 ∧
      (lacksDefaults left name).2 = (lacksDefaults right name).2

namespace AcceptsCalls.Alike

variable {β γ : Type} [AcceptsCalls β] [AcceptsCalls γ] {related : β → γ → Prop}
  (alike : Alike related) {left : β} {right : γ}
include alike

theorem forEach_call
    (calls : List Call)
    (start : related left right) :
    Step.Related related
      (Step.forEach AcceptsCalls.call calls left)
      (Step.forEach AcceptsCalls.call calls right) :=
  Step.Related.forEach (fun call _ _ start => alike.call call start) calls start

theorem addConditions
    (start : related left right) :
    Step.Related related
      (Configuration.addConditions left) (Configuration.addConditions right) := by
  apply Step.Related.andThen (alike.forEach_call _ start)
  intro left right start
  rw [alike.label start]
  exact Step.Related.reported start _

theorem markDefaults
    (name : Value)
    (start : related left right) :
    Step.Related related
      (Configuration.markDefaults name left) (Configuration.markDefaults name right) := by
  unfold Configuration.markDefaults
  rw [alike.tracksDefaults start]
  split
  · exact alike.call _ start
  · exact Step.Related.done start

theorem applyOverride
    (env : Environment)
    (start : related left right) :
    Step.Related related
      (Configuration.applyOverride env left) (Configuration.applyOverride env right) := by
  unfold Configuration.applyOverride
  split
  · exact Step.Related.failed start _
  · exact Step.Related.done start
  · apply Step.Related.andThen (alike.call _ start)
    intro left right start
    rw [alike.label start]
    exact Step.Related.reported start _

theorem configure
    (env : Environment)
    (start : related left right) :
    Step.Related related
      (Configuration.configure env left) (Configuration.configure env right) := by
  apply Step.Related.andThen
  · apply Step.Related.andThen (alike.addConditions start)
    intro left right start
    exact alike.applyOverride env start
  · intro left right start
    exact alike.markDefaults _ start

/-- The question whether a bundle is still to be taken in, and what comes of each
answer to it. -/
theorem unlessPresent
    (name : Value)
    {take present : β → Step β}
    {takeRight presentRight : γ → Step γ}
    (takes : ∀ left right, related left right →
      Step.Related related (take left) (takeRight right))
    (presents : ∀ left right, related left right →
      Step.Related related (present left) (presentRight right))
    (start : related left right) :
    Step.Related related
      (match AcceptsCalls.lacksDefaults left name with
        | (builder, .error fault) => .failed builder fault
        | (builder, .ok true) => take builder
        | (builder, .ok false) => present builder)
      (match AcceptsCalls.lacksDefaults right name with
        | (builder, .error fault) => .failed builder fault
        | (builder, .ok true) => takeRight builder
        | (builder, .ok false) => presentRight builder) := by
  have both := alike.lacksDefaults name start
  generalize AcceptsCalls.lacksDefaults left name = first at both ⊢
  generalize AcceptsCalls.lacksDefaults right name = second at both ⊢
  obtain ⟨left, answer⟩ := first
  obtain ⟨right, answerRight⟩ := second
  obtain ⟨asked, answers⟩ := both
  cases answers
  cases answer with
  | error fault => exact Step.Related.failed asked fault
  | ok lacks =>
    cases lacks with
    | true => exact takes _ _ asked
    | false => exact presents _ _ asked

theorem applySdk
    (start : related left right) :
    Step.Related related (Configuration.applySdk left) (Configuration.applySdk right) := by
  have take (left : β) (right : γ) (start : related left right) :
      Step.Related related
        ((Configuration.addConditions left).andThen
          (Configuration.markDefaults (.text sdkDefaults)))
        ((Configuration.addConditions right).andThen
          (Configuration.markDefaults (.text sdkDefaults))) := by
    apply Step.Related.andThen (alike.addConditions start)
    intro left right start
    exact alike.markDefaults _ start
  unfold Configuration.applySdk
  rw [alike.tracksDefaults start]
  split
  · apply alike.unlessPresent _ take _ start
    intro left right start
    rw [alike.label start]
    exact Step.Related.reported start _
  · exact take left right start

theorem applyOwn
    (bundle : Bundle)
    (start : related left right) :
    Step.Related related
      (Configuration.applyOwn bundle left) (Configuration.applyOwn bundle right) := by
  apply Step.Related.andThen (alike.forEach_call _ start)
  intro left right start
  split
  · exact alike.markDefaults _ start
  · exact Step.Related.done start

theorem applyDefaults
    (defaults : Defaults)
    (start : related left right) :
    Step.Related related
      (Configuration.applyDefaults defaults left)
      (Configuration.applyDefaults defaults right) := by
  cases defaults with
  | sdk => exact alike.applySdk start
  | own bundle => exact alike.applyOwn bundle start

theorem addDefaults
    (defaults : Defaults)
    (start : related left right) :
    Step.Related related
      (Configuration.addDefaults defaults left) (Configuration.addDefaults defaults right) := by
  unfold Configuration.addDefaults
  rw [alike.tracksDefaults start]
  split
  · apply alike.unlessPresent _ _ _ start
    · intro left right start
      exact alike.applyDefaults defaults start
    · intro left right start
      exact Step.Related.done start
  · exact Step.Related.failed start _

/-- Related builders stay related under every operation that needs no more of them than
that they accept calls, and report and fail alike. -/
theorem perform
    (env : Environment)
    (operation : Operation)
    (start : related left right) :
    Step.Related related (operation.perform env left) (operation.perform env right) := by
  cases operation with
  | retryOn | retryOnInstanceOf | retryOnInstanceOrCauseOf | treatAsThrottling
  | markDefaults => exact alike.call _ start
  | maxAttempts arguments =>
    match arguments with
    | [] | _ :: _ :: _ => exact Step.Related.failed start _
    | [budget] => exact alike.call _ start
  | backoff | throttledBackoff => exact Step.Related.failed start _
  | addConditions => exact alike.addConditions start
  | configure => exact alike.configure env start
  | applyDefaults defaults => exact alike.applyDefaults defaults start
  | addDefaults defaults => exact alike.addDefaults defaults start

end AcceptsCalls.Alike
end Retry
