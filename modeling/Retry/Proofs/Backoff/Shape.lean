import Retry.Proofs.Backoff.Bound
import Retry.Strategy

/-!
# The shape of delays

The delays of a tier, attempt after attempt.  A whole base is doubled without loss, so that
its delays have a closed form at every attempt, however late; a binary64 base has no delay
after attempt 1024.  The main statement says so of every retrier whose delays are numbers,
and that the delays of a whole base grow up to the bound and then stay there.
-/

namespace Retry

namespace Number

/-- A whole base doubled for every attempt after the first. -/
def doubled (base attempt : Int) : Number :=
  .int (base * Nat.pow 2 (attempt - 1).toNat)

/-- The lesser of a bound and a doubled base. -/
def doubledUpTo
    (bound : Number)
    (base attempt : Int) : Number :=
  if bound.le (doubled base attempt) then bound else doubled base attempt

variable {bound : Number} {base earlier later : Int}

theorem doubled_le_doubled
    (natural : 0 ≤ base)
    (order : earlier ≤ later) :
    (doubled base earlier).le (doubled base later) = true := by
  have exponents : (earlier - 1).toNat ≤ (later - 1).toNat := by omega
  have powers : Nat.pow 2 (earlier - 1).toNat ≤ Nat.pow 2 (later - 1).toNat :=
    Nat.pow_le_pow_right (by decide) exponents
  rw [doubled, doubled, le_int_int, decide_eq_true_iff]
  exact Int.mul_le_mul_of_nonneg_left (Int.ofNat_le.mpr powers) natural

/-- A bound that is reached at an attempt is reached at every later one. -/
theorem le_doubled_of_le
    (natural : 0 ≤ base)
    (order : earlier ≤ later)
    (reached : bound.le (doubled base earlier) = true) :
    bound.le (doubled base later) = true :=
  Place.le_trans reached (doubled_le_doubled natural order)

theorem doubledUpTo_of_le
    (reached : bound.le (doubled base earlier) = true) :
    doubledUpTo bound base earlier = bound :=
  if_pos reached

theorem doubledUpTo_of_not_le
    (notReached : bound.le (doubled base earlier) = false) :
    doubledUpTo bound base earlier = doubled base earlier := by
  rw [doubledUpTo, notReached]
  rfl

theorem doubledUpTo_le
    (ordered : bound.place ≠ .unordered)
    (base attempt : Int) :
    (doubledUpTo bound base attempt).le bound = true := by
  cases reached : bound.le (doubled base attempt) with
  | true =>
    rw [doubledUpTo_of_le reached]
    exact Place.le_self ordered
  | false =>
    have below : (doubled base attempt).lt bound = true := by
      rw [lt, doubled, Place.lt_eq_not_le (place_int_ne _) ordered, ← le, ← doubled, reached]
      rfl
    rw [doubledUpTo_of_not_le reached]
    exact Place.le_of_lt below

theorem doubledUpTo_le_doubledUpTo
    (natural : 0 ≤ base)
    (ordered : bound.place ≠ .unordered)
    (order : earlier ≤ later) :
    (doubledUpTo bound base earlier).le (doubledUpTo bound base later) = true := by
  cases reachedLater : bound.le (doubled base later) with
  | true =>
    rw [doubledUpTo_of_le reachedLater]
    exact doubledUpTo_le ordered base earlier
  | false =>
    have notReached : bound.le (doubled base earlier) = false := by
      cases reached : bound.le (doubled base earlier) with
      | false => rfl
      | true => exact (le_doubled_of_le natural order reached).symm.trans reachedLater
    rw [doubledUpTo_of_not_le notReached, doubledUpTo_of_not_le reachedLater]
    exact doubled_le_doubled natural order

/-- From the attempt on at which the bound is equalled it is the bound itself. -/
theorem doubledUpTo_eq_of_same
    (natural : 0 ≤ base)
    (order : earlier ≤ later)
    (equal : (doubledUpTo bound base earlier).same bound = true) :
    doubledUpTo bound base later = bound := by
  have reached : bound.le (doubled base earlier) = true := by
    cases reached : bound.le (doubled base earlier) with
    | true => rfl
    | false =>
      rw [doubledUpTo_of_not_le reached] at equal
      exact reached.symm.trans (Place.le_of_same equal)
  exact doubledUpTo_of_le (le_doubled_of_le natural order reached)

/-- A whole base is multiplied by an integer without loss. -/
theorem mul?_of_toInt?
    {number : Number}
    (whole : number.toInt? = some base)
    (growth : Int) :
    number.mul? (.int growth) = some (.int (base * growth)) := by
  rw [mul?, whole]
  rfl

/-- A number that is not binary64 is whole. -/
theorem exists_toInt?
    (number : Number)
    (notReal : ∀ real, number ≠ .real real) :
    ∃ whole, number.toInt? = some whole := by
  cases number with
  | flag value => exact ⟨ofFlag value, rfl⟩
  | int value => exact ⟨value, rfl⟩
  | real value => exact absurd rfl (notReal value)

end Number

section Backoff

variable {base : Number} {whole attempt : Int}

/-- A whole base has a delay at every attempt, under any bound. -/
theorem backoff_whole
    (isWhole : base.toInt? = some whole)
    (bound : Number)
    (first : 1 ≤ attempt) :
    backoff (.number base) (.number bound) (.int attempt) =
      .ok (.number (if (Number.doubled whole attempt).lt bound
        then Number.doubled whole attempt else bound)) := by
  obtain ⟨before, rfl⟩ : ∃ before : Nat, attempt = (before + 1 : Nat) :=
    ⟨(attempt - 1).toNat, by omega⟩
  have grown : Number.doubled whole (before + 1 : Nat) =
      .int (whole * Nat.pow 2 before) := by
    have exponent : ((before + 1 : Nat) - 1 : Int).toNat = before := by omega
    rw [Number.doubled, exponent]
  rw [backoff_succ, scaled, Number.mul?_of_toInt? isWhole, inRange, Outcome.map_ok,
    Outcome.ok_bind, Value.ordered?_number_number, grown, Order.ofNumbers]
  cases (Number.int (whole * Nat.pow 2 before)).lt bound <;> rfl

/-- Under a bound that has an order, the delay of a whole base is the lesser of the bound
and the doubled base. -/
theorem backoff_whole_of_ordered
    (isWhole : base.toInt? = some whole)
    {bound : Number}
    (ordered : bound.place ≠ .unordered)
    (first : 1 ≤ attempt) :
    backoff (.number base) (.number bound) (.int attempt) =
      .ok (.number (Number.doubledUpTo bound whole attempt)) := by
  have decides : (Number.doubled whole attempt).lt bound =
      !bound.le (Number.doubled whole attempt) :=
    Place.lt_eq_not_le (Number.place_int_ne _) ordered
  rw [backoff_whole isWhole bound first, decides, Number.doubledUpTo]
  cases bound.le (Number.doubled whole attempt) <;> rfl

/-- A number has no delay exactly where it is binary64 and the attempt is past 1024. -/
theorem backoff_eq_error_iff
    (base bound : Number)
    (first : 1 ≤ attempt)
    (fault : Fault) :
    backoff (.number base) (.number bound) (.int attempt) = .error fault ↔
      (∃ real, base = .real real) ∧ 1025 ≤ attempt ∧ fault = .outOfRange := by
  by_cases isReal : ∃ real, base = .real real
  · obtain ⟨real, rfl⟩ := isReal
    obtain ⟨natural, rfl⟩ := Int.eq_ofNat_of_zero_le (Int.le_of_lt first)
    have late : (1025 : Int) ≤ natural ↔ 1024 < natural := by omega
    rw [backoff_real_eq_error_iff real bound (by omega), late]
    exact (and_iff_right ⟨real, rfl⟩).symm
  · obtain ⟨whole, isWhole⟩ := base.exists_toInt? (not_exists.mp isReal)
    rw [backoff_whole isWhole bound first]
    simp [isReal]

end Backoff

/-- Whether the classifier answers about a failure and so puts it in a tier. -/
def Plan.PutsInTier
    (users : UserConditions)
    (plan : Plan)
    (throttled : Bool)
    (failure : Failure) : Prop :=
  ∃ answer, (plan.isThrottling users failure).outcome = .ok answer ∧
    plan.rules.classifier.tell users failure answer = .ok throttled

/-- The delay after a failure of a tier starts from the base of the tier. -/
theorem Plan.PutsInTier.computeDelay_outcome
    {users : UserConditions}
    {plan : Plan}
    {throttled : Bool}
    {failure : Failure}
    (classified : plan.PutsInTier users throttled failure)
    (attempt : Value) :
    (plan.computeDelay users attempt failure).outcome =
      backoff (plan.rules.baseOf throttled) plan.rules.maxBackoff attempt := by
  obtain ⟨_, answers, told⟩ := classified
  exact computeDelay_of_told answers told attempt

/-- Where the base of a tier and the bound are numbers, there is a delay after every failure
of the tier, except that a binary64 base has none after attempt 1024.  Where the base is
whole and not negative and the bound has an order, the delay is the bound where that is at
most the doubled base, and the doubled base else; so the delays of the tier never fall, never
pass the bound, and stay at it once they are equal to it. -/
theorem Retrier.delays_of_tier
    (users : UserConditions)
    (retrier : Retrier)
    (throttled : Bool)
    {base bound : Number}
    (based : retrier.plan.rules.baseOf throttled = .number base)
    (bounded : retrier.plan.rules.maxBackoff = .number bound) :
    (∀ failure, retrier.plan.PutsInTier users throttled failure →
      ∀ attempt : Int, 1 ≤ attempt → ∀ fault,
        (retrier.plan.computeDelay users (.int attempt) failure).outcome = .error fault ↔
          (∃ real, base = .real real) ∧ 1025 ≤ attempt ∧ fault = .outOfRange) ∧
    ∀ whole, base.toInt? = some whole → 0 ≤ whole → bound.place ≠ .unordered →
      (∀ failure, retrier.plan.PutsInTier users throttled failure →
        ∀ attempt : Int, 1 ≤ attempt →
          (retrier.plan.computeDelay users (.int attempt) failure).outcome =
            .ok (.number (if bound.le (.int (whole * Nat.pow 2 (attempt - 1).toNat))
              then bound else .int (whole * Nat.pow 2 (attempt - 1).toNat)))) ∧
      ∀ failure other, retrier.plan.PutsInTier users throttled failure →
        retrier.plan.PutsInTier users throttled other →
        ∀ earlier later : Int, 1 ≤ earlier → earlier ≤ later →
          ∃ before after,
            (retrier.plan.computeDelay users (.int earlier) failure).outcome =
              .ok (.number before) ∧
            (retrier.plan.computeDelay users (.int later) other).outcome =
              .ok (.number after) ∧
            before.le after = true ∧
            after.le bound = true ∧
            (before.same bound = true → after = bound) := by
  have delays {failure : Failure}
      (classified : retrier.plan.PutsInTier users throttled failure)
      (attempt : Int) :
      (retrier.plan.computeDelay users (.int attempt) failure).outcome =
        backoff (.number base) (.number bound) (.int attempt) := by
    rw [classified.computeDelay_outcome, based, bounded]
  refine ⟨?domain, fun whole isWhole natural ordered => ⟨?shape, ?growth⟩⟩
  case domain =>
    intro failure classified attempt first fault
    rw [delays classified]
    exact backoff_eq_error_iff base bound first fault
  case shape =>
    intro failure classified attempt first
    rw [delays classified]
    exact backoff_whole_of_ordered isWhole ordered first
  case growth =>
    intro failure other classified otherClassified earlier later first order
    refine ⟨Number.doubledUpTo bound whole earlier, Number.doubledUpTo bound whole later,
      ?_, ?_, ?_, ?_, ?_⟩
    · rw [delays classified]
      exact backoff_whole_of_ordered isWhole ordered first
    · rw [delays otherClassified]
      exact backoff_whole_of_ordered isWhole ordered (Int.le_trans first order)
    · exact Number.doubledUpTo_le_doubledUpTo natural ordered order
    · exact Number.doubledUpTo_le ordered whole later
    · exact Number.doubledUpTo_eq_of_same natural order

/-- A policy of whole generic delays and binary64 throttled ones. -/
def Policy.ofBothKinds : Policy where
  mode := .null
  numRetries := .int 2
  rules := ⟨[], .user "throttles", .int 3, .number (.real Variant.defaultThrottledBaseDelay),
    .int 20⟩

/-- A base of three seconds is doubled up to a bound of twenty, for good; a throttled base of
one binary64 second has no delay at attempt 1025. -/
theorem Retrier.delays_ofBothKinds :
    (∀ failure,
      ((adapted .ofBothKinds).plan.computeDelay (fun _ _ => .ok .null) (.int 3)
        failure).outcome = .ok (.int 12)) ∧
    (∀ failure, ∀ attempt : Int, 4 ≤ attempt →
      ((adapted .ofBothKinds).plan.computeDelay (fun _ _ => .ok .null) (.int attempt)
        failure).outcome = .ok (.int 20)) ∧
    ∀ failure,
      ((adapted .ofBothKinds).plan.computeDelay (fun _ _ => .ok (.flag true)) (.int 1025)
        failure).outcome = .error .outOfRange := by
  have generic (failure : Failure) :
      (adapted .ofBothKinds).plan.PutsInTier (fun _ _ => .ok .null) false failure :=
    ⟨.null, rfl, rfl⟩
  have throttled (failure : Failure) :
      (adapted .ofBothKinds).plan.PutsInTier (fun _ _ => .ok (.flag true)) true failure :=
    ⟨.flag true, rfl, rfl⟩
  obtain ⟨_, whole⟩ := delays_of_tier (fun _ _ => .ok .null) (adapted .ofBothKinds) false rfl rfl
  obtain ⟨shape, growth⟩ := whole 3 rfl (by decide) (Number.place_int_ne 20)
  obtain ⟨domain, _⟩ :=
    delays_of_tier (fun _ _ => .ok (.flag true)) (adapted .ofBothKinds) true rfl rfl
  refine ⟨?third, ?late, ?range⟩
  case third =>
    intro failure
    have third := shape failure (generic failure) 3 (by decide)
    simpa [Value.int] using third
  case late =>
    intro failure attempt late
    obtain ⟨before, after, atFourth, atLater, _, _, stays⟩ :=
      growth failure failure (generic failure) (generic failure) 4 attempt (by decide) late
    have fourth := shape failure (generic failure) 4 (by decide)
    have reached : before = .int 20 := by
      rw [atFourth] at fourth
      simpa using fourth
    rw [atLater, stays (by simp [reached])]
    rfl
  case range =>
    intro failure
    have late := domain failure (throttled failure) 1025 (by decide) .outOfRange
    exact late.mpr ⟨⟨_, rfl⟩, by decide, rfl⟩

end Retry
