import Retry.Proofs.Builder.Account
import Retry.Proofs.Builder.Source

/-!
# Delays of built strategies

Builders check the base delays that they are given, and not the bound.  The main statement
says what follows for the strategies they build: a delay is at most the bound, whatever was
asked of the builder before, and it is negative exactly where the bound is.
-/

namespace Retry

/-- Whether a value is a number that has an order, as all but NaN have. -/
def Value.IsOrdered (value : Value) : Prop :=
  ∃ number, value = .number number ∧ number.place ≠ .unordered

theorem Value.isOrdered_signed
    (negative : Bool)
    (rank : Nat)
    (rank_le : rank ≤ infinityRank) :
    (Value.number (.real (.signed negative rank rank_le))).IsOrdered := by
  refine ⟨_, rfl, ?_⟩
  rw [Number.place, Binary64.place]
  split
  · split <;> simp
  · simp

/-- Whether an operation that sets the bound of delays sets it to a number that has an
order. -/
def Operation.BoundIsOrdered : Operation → Prop
  | backoff [_, bound] => bound.isNull = false → bound.IsOrdered
  | _ => True

/-- Only the setter of generic delays sets the bound, and never to null. -/
theorem Operation.of_mem_effects
    {operation : Operation}
    {env : Environment}
    {marked : Value → Bool}
    {bound : Value}
    (sets : .maxBackoff bound ∈ operation.effects env marked) :
    ∃ given, operation = .backoff [given, bound] ∧ bound.isNull = false := by
  cases brings_of_mem_effects sets with
  | maxBackoff notNull given => exact ⟨given, rfl, notNull⟩

namespace Effect

/-- What was not done before requests is done by one of them. -/
theorem of_mem_extend
    {past : List Effect}
    {requests : List Request}
    {effect : Effect}
    (member : effect ∈ extend past requests) :
    effect ∈ past ∨
      ∃ request ∈ requests, ∃ names,
        effect ∈ request.operation.effects request.environment names := by
  induction requests generalizing past with
  | nil => exact Or.inl member
  | cons request rest inductionHypothesis =>
    rcases inductionHypothesis member with before | ⟨other, otherMember, names, done⟩
    · rcases List.mem_append.mp before with before | here
      · exact Or.inl before
      · exact Or.inr ⟨request, List.mem_cons_self .., _, here⟩
    · exact Or.inr ⟨other, List.mem_cons_of_mem _ otherMember, names, done⟩

theorem eq_maxBackoff
    {effect : Effect}
    {bound : Value}
    (sets : effect.maxBackoff? = some bound) :
    effect = .maxBackoff bound := by
  cases effect <;> simp_all [maxBackoff?]

/-- The last value is the first one or one that was set. -/
theorem last_mem
    {α : Type}
    (value? : Effect → Option α)
    (start : α)
    (effects : List Effect) :
    last value? start effects = start ∨
      ∃ effect ∈ effects, value? effect = some (last value? start effects) := by
  have member : last value? start effects ∈ start :: effects.filterMap value? :=
    List.getLastD_mem_cons
  rcases List.mem_cons.mp member with same | later
  · exact Or.inl same
  · exact Or.inr (List.mem_filterMap.mp later)

end Effect

namespace Builder

/-- A delay that passes the check is not negative. -/
theorem not_lt_zero_of_checkDelay
    {given : Value}
    {delay : Number}
    (passes : checkDelay given = .ok delay) :
    delay.lt (.int 0) = false :=
  (checkAtLeast_eq_ok_iff.mp passes).2

/-- The base delays of both tiers of a sound builder are numbers that are not negative. -/
theorem Sound.exists_baseOf
    {builder : Builder}
    (sound : builder.Sound)
    (throttled : Bool) :
    ∃ base,
      builder.rules.baseOf throttled = .number base ∧
      base.lt (.int 0) = false := by
  rw [Rules.baseOf]
  split
  · obtain ⟨base, held, passes⟩ := sound.throttledBaseDelay
    exact ⟨base, held, not_lt_zero_of_checkDelay passes⟩
  · obtain ⟨base, held, passes⟩ := sound.baseDelay
    exact ⟨base, held, not_lt_zero_of_checkDelay passes⟩

/-- The bound has an order if every bound that was given has one. -/
theorem isOrdered_maxBackoff_after
    {variant : Variant}
    (library : variant ∈ [Variant.standard, .legacy, .adaptive])
    {history : List Request}
    (ordered : ∀ request ∈ history, request.operation.BoundIsOrdered) :
    ((fresh variant).after history).maxBackoff.IsOrdered := by
  have tracks : variant.tracksDefaults = true := (sound_fresh library).tracksDefaults
  have start : (Value.number (.real variant.maxBackoff)).IsOrdered := by
    rcases Variant.eq_of_library library with rfl | rfl | rfl <;> exact Value.isOrdered_signed _ _ _
  rw [(Accounts.after tracks history).maxBackoff]
  rcases Effect.last_mem Effect.maxBackoff? (.number (.real variant.maxBackoff))
    (Effect.ofHistory history) with same | ⟨effect, member, sets⟩
  · rw [same]
    exact start
  · rw [Effect.eq_maxBackoff sets] at member
    obtain ⟨request, requestMember, names, sets⟩ :=
      (Effect.of_mem_extend member).resolve_left List.not_mem_nil
    obtain ⟨_, asked, notNull⟩ := Operation.of_mem_effects sets
    have boundOrdered := ordered request requestMember
    rw [asked] at boundOrdered
    exact boundOrdered notNull

/-- A strategy that was built after any history of requests never waits longer than its
bound, if all bounds that were given have an order.  It waits a negative time exactly where
the bound is negative, which no setter refuses. -/
theorem delay_bounded
    {variant : Variant}
    (library : variant ∈ [Variant.standard, .legacy, .adaptive])
    {history : List Request}
    (ordered : ∀ request ∈ history, request.operation.BoundIsOrdered)
    {strategy : Strategy}
    (builds : ((fresh variant).after history).build.outcome = .ok strategy)
    {users : UserConditions}
    {failure : Failure}
    {attempt : Int}
    (first : 1 ≤ attempt)
    {delay : Value}
    (waits : (strategy.plan.computeDelay users (.int attempt) failure).outcome = .ok delay) :
    delay.ordered? .atMost strategy.plan.rules.maxBackoff = some true ∧
    ((Value.int 0).ordered? .atMost delay = some true ↔
      (Value.int 0).ordered? .atMost strategy.plan.rules.maxBackoff = some true) := by
  have sound : ((fresh variant).after history).Sound := (sound_fresh library).after history
  obtain ⟨bound, held, boundOrdered⟩ := isOrdered_maxBackoff_after library ordered
  obtain ⟨rfl, _⟩ := of_build_eq_ok builds
  -- The classifier only picks the tier, and the base delays of both were checked.
  obtain ⟨_, _, waits⟩ := Outcome.bind_eq_ok_iff.mp waits
  obtain ⟨throttled, _, waits⟩ := Outcome.bind_eq_ok_iff.mp waits
  obtain ⟨base, tier, notNegative⟩ := sound.exists_baseOf throttled
  have limit : ((fresh variant).after history).strategy.plan.rules.maxBackoff =
      .number bound := held
  have picked :
      ((fresh variant).after history).strategy.plan.rules.baseOf throttled = .number base := tier
  rw [picked, limit] at waits
  obtain ⟨number, rfl, atMost, natural⟩ :=
    backoff_bounded notNegative boundOrdered first waits
  rw [limit]
  simp only [Value.int, Value.ordered?_number_number, Option.some.injEq, Order.ofNumbers]
  exact ⟨atMost, natural⟩

/-- A builder with integers for the base delay of generic failures and for the bound. -/
def paced
    (variant : Variant)
    (base bound : Int) : Builder :=
  { fresh variant with baseDelay := .int base, maxBackoff := .int bound }

section Paced

variable {variant : Variant} {base : Int}

/-- A natural base delay is accepted with any bound. -/
theorem handle_backoff_int
    (natural : 0 ≤ base)
    (env : Environment)
    (bound : Int) :
    (fresh variant).handle ⟨env, .backoff [.int base, .int bound]⟩ =
      .done (paced variant base bound) := by
  show Step.ofExcept (fresh variant) ((fresh variant).setBackoff (.int base) (.int bound)) = _
  rw [setBackoff_eq, checkDelay_int natural]
  rfl

theorem after_backoff_int
    (natural : 0 ≤ base)
    (env : Environment)
    (bound : Int) :
    (fresh variant).after [⟨env, .backoff [.int base, .int bound]⟩] =
      paced variant base bound := by
  rw [after_cons, handle_backoff_int natural, after_nil]
  rfl

theorem build_paced
    (optional : variant.needsClassifier = false)
    (concrete : variant.isConcrete = true)
    (base bound : Int) :
    (paced variant base bound).build.outcome = .ok (paced variant base bound).strategy := by
  have noClassifierNeeded : (paced variant base bound).variant.needsClassifier = false :=
    optional
  have isConcrete : (paced variant base bound).variant.isConcrete = true := concrete
  rw [build, noClassifierNeeded, Bool.false_and, if_neg Bool.false_ne_true, if_pos isConcrete]
  rfl

/-- Integers are waited for, whatever failed: no classifier is set. -/
theorem computeDelay_paced
    (users : UserConditions)
    (failure : Failure)
    (base bound : Int)
    (before : Nat) :
    ((paced variant base bound).strategy.plan.computeDelay users
        (.int (before + 1 : Nat)) failure).outcome =
      .ok (.int (min (base * Nat.pow 2 before) bound)) :=
  backoff_int base bound before

end Paced

/-- Doubled three times, a base delay of two comes to more than a bound of ten. -/
theorem delay_bounded_paced :
    ∃ strategy,
      ((fresh .legacy).after [⟨.empty, .backoff [.int 2, .int 10]⟩]).build.outcome =
        .ok strategy ∧
      ∀ users failure,
        (strategy.plan.computeDelay users (.int 4) failure).outcome = .ok (.int 10) ∧
        (Value.int 10).ordered? .atMost strategy.plan.rules.maxBackoff = some true ∧
        (Value.int 0).ordered? .atMost (.int 10) = some true := by
  have library : Variant.legacy ∈ [Variant.standard, .legacy, .adaptive] := by simp
  have ordered : ∀ request ∈ [Request.mk .empty (.backoff [.int 2, .int 10])],
      request.operation.BoundIsOrdered := by
    rw [List.forall_mem_singleton]
    exact fun _ => ⟨.int 10, rfl, Number.place_int_ne 10⟩
  have builds : ((fresh .legacy).after
      [⟨.empty, .backoff [.int 2, .int 10]⟩]).build.outcome =
        .ok (paced .legacy 2 10).strategy := by
    rw [after_backoff_int (by decide)]
    exact build_paced rfl rfl 2 10
  refine ⟨(paced .legacy 2 10).strategy, builds, ?_⟩
  intro users failure
  have waits : ((paced .legacy 2 10).strategy.plan.computeDelay users (.int 4)
      failure).outcome = .ok (.int 10) :=
    computeDelay_paced users failure 2 10 3
  have bounded := delay_bounded library ordered builds (by decide) waits
  have natural : (Value.int 0).ordered? .atMost (.int 10) = some true :=
    Value.atMost_int_int 0 10
  exact ⟨waits, bounded.1, bounded.2.mpr natural⟩

/-- A negative bound is accepted with a base delay, and then waited for at once. -/
theorem delay_negative :
    ∃ strategy delay,
      ((fresh .standard).handle ⟨.empty, .backoff [.int 1, .int (-5)]⟩).fault = none ∧
      ((fresh .standard).after [⟨.empty, .backoff [.int 1, .int (-5)]⟩]).build.outcome =
        .ok strategy ∧
      (∀ users failure,
        (strategy.plan.computeDelay users (.int 1) failure).outcome = .ok delay) ∧
      (Value.int 0).ordered? .atMost delay = some false := by
  refine ⟨(paced .standard 1 (-5)).strategy, .int (-5), ?_, ?_, ?_, ?_⟩
  · rw [handle_backoff_int (by decide)]
    rfl
  · rw [after_backoff_int (by decide)]
    exact build_paced rfl rfl 1 (-5)
  · intro users failure
    exact computeDelay_paced users failure 1 (-5) 0
  · exact Value.atMost_int_int 0 (-5)

end Builder
end Retry
