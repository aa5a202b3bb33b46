import Retry.Backoff
import Retry.Proofs.Outcome

/-!
# The range of the doubling

A delay is a binary64 base times a power of two, and the power is converted to binary64
before the bound is applied.  The main statement says up to which attempt this has a
result: the power after attempt 1024 is the largest that binary64 numbers reach.  Integer
bases are multiplied without loss, however often.
-/

namespace Retry

namespace Binary64

/-- A quotient without remainder is rounded to itself. -/
theorem roundHalfEven_mul
    (quotient : Nat)
    {denominator : Nat}
    (positive : 0 < denominator) :
    roundHalfEven (quotient * denominator) denominator = quotient := by
  have whole : quotient * denominator / denominator = quotient :=
    Nat.mul_div_cancel quotient positive
  have noRemainder : quotient * denominator % denominator = 0 := Nat.mul_mod_left ..
  have below : 2 * 0 < denominator := positive
  rw [roundHalfEven, whole, noRemainder, if_pos below]

/-- The rank of a power of two of units, above those that lie one unit apart. -/
theorem nearestRank_two_pow
    {places : Nat}
    (large : 53 ≤ places) :
    nearestRank (Nat.pow 2 places) 1 =
      min infinityRank ((places - 51) * Nat.pow 2 52) := by
  have notSmall : ¬Nat.pow 2 places / 1 < Nat.pow 2 53 := by
    rw [Nat.div_one, Nat.not_lt]
    exact Nat.pow_le_pow_right (by decide) large
  have split : Nat.pow 2 places = Nat.pow 2 52 * Nat.pow 2 (places - 52) := by
    simp only [Nat.pow_eq]
    rw [← Nat.pow_add]
    congr 1
    omega
  have log : (Nat.pow 2 places).log2 = places := Nat.log2_two_pow
  have rounded : roundHalfEven (Nat.pow 2 places) (1 * Nat.pow 2 (places - 52)) =
      Nat.pow 2 52 := by
    rw [Nat.one_mul, split]
    exact roundHalfEven_mul _ (Nat.two_pow_pos _)
  rw [nearestRank, if_neg notSmall, Nat.div_one, log, rounded]
  have next : places - 51 = places - 52 + 1 := by omega
  rw [next, Nat.succ_mul]

/-- A power of two is out of range from the 1024th on. -/
theorem ofInt?_two_pow_isNone
    (exponent : Nat) :
    (ofInt? (Nat.pow 2 exponent)).isNone ↔ 1024 ≤ exponent := by
  have magnitude : (Nat.pow 2 exponent : Int).natAbs * unitsPerOne =
      Nat.pow 2 (exponent + unitPlaces) := by
    rw [Int.natAbs_natCast]
    unfold unitsPerOne
    generalize unitPlaces = places
    exact (Nat.pow_add 2 exponent places).symm
  have rank : nearestRank (Nat.pow 2 (exponent + unitPlaces)) 1 =
      min infinityRank ((exponent + 1023) * Nat.pow 2 52) := by
    have large : 53 ≤ exponent + unitPlaces := by
      rw [unitPlaces]
      omega
    rw [nearestRank_two_pow large]
    rfl
  rw [ofInt?, magnitude, rank]
  split
  · rename_i full
    simp only [Option.isNone_none, true_iff]
    simp only [infinityRank, Nat.pow_eq] at full
    omega
  · rename_i finite
    simp only [Option.isNone_some, Bool.false_eq_true, false_iff]
    simp only [infinityRank, Nat.pow_eq] at finite
    omega

end Binary64

/-- A binary64 number is multiplied by an integer where that is in range. -/
theorem Number.mul?_real_int
    (base : Binary64)
    (growth : Int) :
    (real base).mul? (.int growth) =
      (Binary64.ofInt? growth).map fun power => .real (base.mul power) := by
  cases power : Binary64.ofInt? growth <;> simp [mul?, toInt?, toReal?, power]

/-- A binary64 base is multiplied by an integer growth where that is in range. -/
theorem scaled_real
    (base : Binary64)
    (growth : Int) :
    scaled (.number (.real base)) (.int growth) =
      (fun power => .number (.real (base.mul power))) <$>
        inRange (Binary64.ofInt? growth) := by
  rw [scaled, Number.mul?_real_int]
  cases Binary64.ofInt? growth <;> rfl

/-- The growth after an attempt is two to the power of the attempts before it. -/
theorem backoff_succ
    (base bound : Value)
    (before : Nat) :
    backoff base bound (.int (before + 1 : Nat)) =
      (do
        let delay ← scaled base (.int (Nat.pow 2 before))
        return if ← compatible (delay.ordered? .below bound) then delay else bound) := by
  have exponent : (Number.int (before + 1 : Nat)).pred = .int (Int.ofNat before) := by
    rw [Number.pred]
    congr 1
    rw [Int.natCast_add, Int.ofNat_eq_natCast]
    exact Int.add_sub_cancel ..
  have growth : (Number.int (Int.ofNat before)).twoPow? =
      some (.int (Nat.pow 2 before)) := rfl
  rw [backoff, Value.int, Value.asNumber, Outcome.ok_bind, exponent, growth]
  rfl

/-- An integer base is multiplied by an integer growth without loss. -/
theorem scaled_int
    (base growth : Int) :
    scaled (.int base) (.int growth) = .ok (.int (base * growth)) := by
  simp [scaled, Value.int, Number.mul?, Number.toInt?, inRange]

/-- The delay of an integer base under an integer bound is an integer. -/
theorem backoff_int
    (base bound : Int)
    (before : Nat) :
    backoff (.int base) (.int bound) (.int (before + 1 : Nat)) =
      .ok (.int (min (base * Nat.pow 2 before) bound)) := by
  have compared : (Value.int (base * Nat.pow 2 before)).ordered? .below (.int bound) =
      some (decide (base * Nat.pow 2 before < bound)) := by
    rw [Value.int, Value.int, Value.ordered?_number_number, Order.ofNumbers,
      Number.lt_int_int]
  rw [backoff_succ, scaled_int, Outcome.ok_bind, compared, compatible, Outcome.ok_bind]
  by_cases below : base * Nat.pow 2 before < bound
  · rw [decide_eq_true below, Int.min_eq_left (Int.le_of_lt below)]
    rfl
  · rw [decide_eq_false below, Int.min_eq_right (Int.not_lt.mp below)]
    rfl

section Real

variable (base : Binary64) (bound : Number) {attempt : Nat}

/-- Up to attempt 1024 every binary64 base has a delay. -/
theorem backoff_real_of_le
    (first : 1 ≤ attempt)
    (early : attempt ≤ 1024) :
    ∃ delay,
      backoff (.number (.real base)) (.number bound) (.int attempt) = .ok delay := by
  obtain ⟨before, rfl⟩ := Nat.exists_eq_add_of_le' first
  have reached : Binary64.ofInt? (Nat.pow 2 before) ≠ none := by
    intro missing
    have late := (Binary64.ofInt?_two_pow_isNone before).mp (by rw [missing]; rfl)
    omega
  obtain ⟨power, found⟩ := Option.ne_none_iff_exists'.mp reached
  rw [backoff_succ, scaled_real, found, inRange, Outcome.map_ok, Outcome.ok_bind,
    Value.ordered?_number_number]
  exact ⟨_, rfl⟩

/-- After attempt 1024 no binary64 base has a delay, whatever the bound. -/
theorem backoff_real_of_lt
    (late : 1024 < attempt) :
    backoff (.number (.real base)) (.number bound) (.int attempt) =
      .error .outOfRange := by
  obtain ⟨before, rfl⟩ := Nat.exists_eq_add_of_le' (Nat.one_le_of_lt late)
  have missing : Binary64.ofInt? (Nat.pow 2 before) = none := by
    apply Option.isNone_iff_eq_none.mp
    apply (Binary64.ofInt?_two_pow_isNone before).mpr
    omega
  rw [backoff_succ, scaled_real, missing]
  rfl

/-- A binary64 base has no delay exactly after the attempts past 1024. -/
theorem backoff_real_eq_error_iff
    (first : 1 ≤ attempt)
    {fault : Fault} :
    backoff (.number (.real base)) (.number bound) (.int attempt) = .error fault ↔
      1024 < attempt ∧ fault = .outOfRange := by
  rcases Nat.lt_or_ge 1024 attempt with late | early
  · rw [backoff_real_of_lt base bound late, Except.error.injEq, and_iff_right late, eq_comm]
  · obtain ⟨delay, found⟩ := backoff_real_of_le base bound first early
    have notLate : ¬1024 < attempt := Nat.not_lt.mpr early
    simp [found, notLate]

end Real
end Retry
