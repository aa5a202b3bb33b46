import Retry.Proofs.Builder.Delay

/-!
# Setters of numbers

Three operations set numbers of a builder: its budget, and the base delays of the two tiers.
Each refuses the numbers below a least one.  The main statements say that a setter that fails
leaves everything as it was, that it refuses exactly the numbers below the least one, and that
numbers which are not below it stay that way, whatever else is asked of a builder.
-/

namespace Retry

/-- A number that has an order is at least an integer exactly where it is not below it. -/
theorem Number.le_iff_not_lt
    {number : Number}
    {least : Int}
    (ordered : number.place ≠ .unordered) :
    (Number.int least).le number = true ↔ number.lt (.int least) = false := by
  rw [lt, Place.lt_eq_not_le ordered (place_int_ne least), Bool.not_eq_false']
  rfl

namespace Operation

/-- Whether an operation sets numbers, or would with other arguments. -/
def IsSetter : Operation → Prop
  | maxAttempts _ | backoff _ | throttledBackoff _ => True
  | _ => False

/-- Whether an operation sets a number, by changing a builder, and refuses those below a least
one. -/
inductive Sets (number : Number) :
    Operation → Int → (Number → Fault) → (Builder → Builder) → Prop where
  | maxAttempts :
    Sets number (.maxAttempts [.number number]) 1 .attemptsBelowOne
      fun builder => { builder with maxAttempts := .number number }
  | backoff :
    Sets number (.backoff [.number number]) 0 .negativeDelay
      fun builder => { builder with baseDelay := .number number }
  | backoffWithin (bound : Value) :
    Sets number (.backoff [.number number, bound]) 0 .negativeDelay
      fun builder =>
        { builder with
          baseDelay := .number number
          maxBackoff := if bound.isNull then builder.maxBackoff else bound }
  | throttledBackoff :
    Sets number (.throttledBackoff [.number number]) 0 .negativeDelay
      fun builder => { builder with throttledBaseDelay := .number number }

variable {number : Number} {operation : Operation} {least : Int} {refusal : Number → Fault}
  {change : Builder → Builder}

/-- What a setter does with a number. -/
theorem Sets.perform_eq
    (sets : operation.Sets number least refusal change)
    (env : Environment)
    (builder : Builder) :
    builder.perform env operation =
      if number.lt (.int least) then .failed builder (refusal number)
      else .done (change builder) := by
  have checked (change : Number → Builder) (least : Int) (refusal : Number → Fault) :
      Step.ofExcept builder (change <$> checkAtLeast least refusal (.number number)) =
        if number.lt (.int least) then .failed builder (refusal number)
        else .done (change number) := by
    rw [checkAtLeast_number]
    split <;> rfl
  cases sets with
  | maxAttempts =>
    show Step.ofExcept builder (builder.setMaxAttempts _) = _
    rw [Builder.setMaxAttempts_eq]
    exact checked ..
  | backoff | backoffWithin =>
    rw [Builder.perform, Builder.setBackoff_eq]
    exact checked ..
  | throttledBackoff =>
    rw [Builder.perform, Builder.setThrottledBackoff_eq]
    exact checked ..

/-- A setter refuses a number exactly where that is below the least one, and changes the
builder otherwise. -/
theorem Sets.guards
    (sets : operation.Sets number least refusal change)
    (env : Environment)
    (builder : Builder) :
    ((builder.perform env operation).fault = some (refusal number) ↔
      number.lt (.int least) = true) ∧
    ((builder.perform env operation).fault = none ↔ number.lt (.int least) = false) ∧
    ((builder.perform env operation).fault = none →
      builder.perform env operation = .done (change builder)) := by
  rw [sets.perform_eq]
  cases below : number.lt (.int least) with
  | true => exact ⟨⟨fun _ => rfl, fun _ => rfl⟩, ⟨nofun, nofun⟩, nofun⟩
  | false => exact ⟨⟨nofun, nofun⟩, ⟨fun _ => rfl, fun _ => rfl⟩, fun _ => rfl⟩

/-- A setter that does not get a number where it needs one fails. -/
theorem IsSetter.sets_or_fails
    (isSetter : operation.IsSetter)
    (env : Environment)
    (builder : Builder) :
    (∃ number least refusal change, operation.Sets number least refusal change) ∨
      builder.perform env operation = .failed builder .incompatible := by
  cases operation with
  | maxAttempts arguments =>
    match arguments with
    | [] | _ :: _ :: _ => exact Or.inr rfl
    | [.number number] => exact Or.inl ⟨number, _, _, _, .maxAttempts⟩
    | [.null] | [.text _] | [.mode _] | [.list _] | [.object _] | [.foreign _] =>
      exact Or.inr rfl
  | backoff arguments =>
    match arguments with
    | [] | _ :: _ :: _ :: _ => exact Or.inr rfl
    | [.number number] => exact Or.inl ⟨number, _, _, _, .backoff⟩
    | [.number number, bound] => exact Or.inl ⟨number, _, _, _, .backoffWithin bound⟩
    | [.null] | [.text _] | [.mode _] | [.list _] | [.object _] | [.foreign _]
    | [.null, _] | [.text _, _] | [.mode _, _] | [.list _, _] | [.object _, _]
    | [.foreign _, _] => exact Or.inr rfl
  | throttledBackoff arguments =>
    match arguments with
    | [] | _ :: _ :: _ => exact Or.inr rfl
    | [.number number] => exact Or.inl ⟨number, _, _, _, .throttledBackoff⟩
    | [.null] | [.text _] | [.mode _] | [.list _] | [.object _] | [.foreign _] =>
      exact Or.inr rfl
  | retryOn | retryOnInstanceOf | retryOnInstanceOrCauseOf | treatAsThrottling | markDefaults
  | addConditions | configure | applyDefaults | addDefaults => exact isSetter.elim

/-- A setter that fails leaves the builder as it was, and reports nothing else. -/
theorem IsSetter.perform_of_fault
    (isSetter : operation.IsSetter)
    {env : Environment}
    {builder : Builder}
    {fault : Fault}
    (fails : (builder.perform env operation).fault = some fault) :
    builder.perform env operation = .failed builder fault ∧
      (fault = .incompatible ∨
        ∃ number, fault = .attemptsBelowOne number ∨ fault = .negativeDelay number) := by
  rcases isSetter.sets_or_fails env builder with
    ⟨number, least, refusal, change, sets⟩ | incompatible
  · rw [sets.perform_eq] at fails ⊢
    split at fails
    · rename_i below
      have same : refusal number = fault := Option.some.inj fails
      rw [if_pos below, same]
      refine ⟨rfl, Or.inr ⟨number, ?_⟩⟩
      rw [← same]
      cases sets with
      | maxAttempts => exact Or.inl rfl
      | backoff | backoffWithin | throttledBackoff => exact Or.inr rfl
    · cases fails
  · rw [incompatible] at fails ⊢
    have same : Fault.incompatible = fault := Option.some.inj fails
    exact ⟨by rw [same], Or.inl same.symm⟩

/-- Whether an operation that sets a number sets one that has an order, as all but NaN
have. -/
def SetsOrdered : Operation → Prop
  | maxAttempts (given :: _) | backoff (given :: _) | throttledBackoff (given :: _) =>
    ∀ number, given = .number number → number.place ≠ .unordered
  | _ => True

end Operation

/-- Whether the numbers of a plan are not below the least ones that setters accept. -/
structure Plan.IsWithinBounds (plan : Plan) : Prop where
  maxAttempts : (Value.int 1).ordered? .atMost plan.maxAttempts = some true
  baseDelay : (Value.int 0).ordered? .atMost plan.rules.baseDelay = some true
  throttledBaseDelay :
    (Value.int 0).ordered? .atMost plan.rules.throttledBaseDelay = some true

namespace Builder

/-- A number that has passed a check, and has an order, is at least the least one. -/
theorem atMost_of_checkAtLeast
    {least : Int}
    {refusal : Number → Fault}
    {given : Value}
    {checked : Number}
    (passes : checkAtLeast least refusal given = .ok checked)
    (ordered : ∀ number, given = .number number → number.place ≠ .unordered) :
    (Value.int least).ordered? .atMost (.number checked) = some true := by
  obtain ⟨isNumber, notBelow⟩ := checkAtLeast_eq_ok_iff.mp passes
  rw [Value.int, Value.ordered?_number_number, Order.ofNumbers,
    (Number.le_iff_not_lt (ordered checked isNumber)).mpr notBelow]

/-- Operations that set no NaN keep the numbers of a builder within bounds, also where they
fail. -/
theorem isWithinBounds_perform
    {builder : Builder}
    (tracks : builder.variant.tracksDefaults = true)
    (within : builder.strategy.plan.IsWithinBounds)
    {operation : Operation}
    (ordered : operation.SetsOrdered)
    (env : Environment) :
    (builder.perform env operation).builder.strategy.plan.IsWithinBounds := by
  refine perform_keeps_of_brings (fun builder => builder.strategy.plan.IsWithinBounds) ?_ tracks
    within
  intro effect brings builder within
  cases brings with
  | condition _ condition =>
    obtain ⟨conditions, registered⟩ := builder.exists_retryOn_eq condition
    rw [take, registered]
    exact { within with }
  | classifier | maxBackoff | canonicalMarker | marker | applied | added =>
    exact { within with }
  | budget passes =>
    exact { within with maxAttempts := atMost_of_checkAtLeast passes ordered }
  | @override budget read =>
    have positive : (Value.int 1).ordered? .atMost (.int budget) = some true := by
      rw [Value.atMost_int_int, decide_eq_true (Settings.one_le_of_attempts read)]
    exact { within with maxAttempts := positive }
  | baseDelay passes =>
    exact { within with baseDelay := atMost_of_checkAtLeast passes ordered }
  | throttledBaseDelay passes =>
    exact { within with throttledBaseDelay := atMost_of_checkAtLeast passes ordered }

/-- The builders of the library's variants start within bounds. -/
theorem isWithinBounds_fresh
    {variant : Variant}
    (library : variant ∈ [Variant.standard, .legacy, .adaptive]) :
    (fresh variant).strategy.plan.IsWithinBounds := by
  have unsigned (rank : Nat) (rank_le : rank ≤ infinityRank) :
      (Value.int 0).ordered? .atMost (.number (.real (.signed false rank rank_le))) =
        some true := by
    obtain ⟨_, same, ordered⟩ := Value.isOrdered_signed false rank rank_le
    refine atMost_of_checkAtLeast (checkDelay_of_unsigned rank rank_le) ?_
    intro number isNumber
    cases same
    cases isNumber
    exact ordered
  have attempts : 1 ≤ variant.maxAttempts := by
    rcases Variant.eq_of_library library with rfl | rfl | rfl <;> decide
  have delays :
      (Value.int 0).ordered? .atMost (.number (.real variant.baseDelay)) = some true ∧
      (Value.int 0).ordered? .atMost (.number (.real variant.throttledBaseDelay)) =
        some true := by
    rcases Variant.eq_of_library library with rfl | rfl | rfl <;>
      exact ⟨unsigned _ _, unsigned _ _⟩
  refine ⟨?_, delays.1, delays.2⟩
  show (Value.int 1).ordered? .atMost (.int variant.maxAttempts) = some true
  rw [Value.atMost_int_int, decide_eq_true attempts]

end Builder
end Retry
