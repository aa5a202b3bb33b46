import Retry.Proofs.Backoff

/-!
# The bound of delays

A delay is the lesser of a product and a bound.  A base that is not negative has no negative
product, in integers or in binary64, where the sign of a zero has no weight.  The main
statement says that a delay is then at most the bound, and that it is negative only where
the bound is.
-/

namespace Retry

namespace Place

variable {left middle right : Place}

theorem ordered_of_lt
    (below : left.lt right = true) :
    left ≠ .unordered ∧ right ≠ .unordered := by
  cases left <;> cases right <;> simp_all [lt]

theorem le_of_lt
    (below : left.lt right = true) :
    left.le right = true := by
  simp [le, below]

theorem le_self
    (ordered : left ≠ .unordered) :
    left.le left = true := by
  cases left <;> simp_all [le, same]

theorem le_of_same
    (equal : left.same right = true) :
    right.le left = true := by
  cases left <;> cases right <;> simp_all [le, same]

/-- Of two places that have an order, either one is below the other or that is at most it. -/
theorem lt_eq_not_le
    (leftOrdered : left ≠ .unordered)
    (rightOrdered : right ≠ .unordered) :
    left.lt right = !right.le left := by
  cases left <;> cases right <;> simp_all [lt, le, same]
  rw [Bool.eq_iff_iff]
  simp only [decide_eq_true_iff, Bool.and_eq_true, Bool.not_eq_true', decide_eq_false_iff_not]
  omega

theorem le_of_not_lt
    (leftOrdered : left ≠ .unordered)
    (rightOrdered : right ≠ .unordered)
    (notBelow : left.lt right = false) :
    right.le left = true := by
  rw [lt_eq_not_le leftOrdered rightOrdered] at notBelow
  exact (Bool.not_eq_false' _).mp notBelow

theorem le_trans
    (first : left.le middle = true)
    (second : middle.le right = true) :
    left.le right = true := by
  cases left <;> cases middle <;> cases right <;> simp_all [lt, le, same]
  omega

theorem lt_of_le_of_lt
    (first : left.le middle = true)
    (second : middle.lt right = true) :
    left.lt right = true := by
  cases left <;> cases middle <;> cases right <;> simp_all [lt, le, same]
  omega

end Place

namespace Binary64

/-- A number without a sign is not negative. -/
theorem unsigned_not_lt_zero
    (rank : Nat)
    (rank_le : rank ≤ infinityRank) :
    (signed false rank rank_le).place.lt (.finite 0) = false := by
  rw [place]
  split
  · rfl
  · have natural : ¬signedUnits false rank < 0 := Int.not_lt.mpr (Int.natCast_nonneg _)
    rw [Place.lt]
    exact decide_eq_false natural

/-- A number with a sign is negative unless it is zero. -/
theorem rank_eq_zero
    {rank : Nat}
    {rank_le : rank ≤ infinityRank}
    (notNegative : (signed true rank rank_le).place.lt (.finite 0) = false) :
    rank = 0 := by
  rw [place] at notNegative
  split at notNegative
  · cases notNegative
  · rw [Place.lt, decide_eq_false_iff_not, signedUnits, if_pos rfl] at notNegative
    exact units_eq_zero_iff.mp (by omega)

theorem nearestRank_zero
    {denominator : Nat}
    (positive : 0 < denominator) :
    nearestRank 0 denominator = 0 := by
  have rounded : roundHalfEven 0 denominator = 0 := by
    simpa using roundHalfEven_mul 0 positive
  simp [nearestRank, rounded]

/-- Zero of either sign lies at zero. -/
theorem place_nearest_zero
    (negative : Bool)
    {denominator : Nat}
    (positive : 0 < denominator) :
    (nearest negative 0 denominator).place = .finite 0 := by
  have finite : ¬0 = infinityRank := by decide
  have noUnits : units 0 = 0 := by decide
  rw [nearest, place, nearestRank_zero positive, if_neg finite, signedUnits, noUnits]
  cases negative <;> rfl

/-- A number that is not negative has no negative product with one without a sign. -/
theorem mul_not_lt_zero
    {value : Binary64}
    (notNegative : value.place.lt (.finite 0) = false)
    (rank : Nat)
    (rank_le : rank ≤ infinityRank) :
    (value.mul (signed false rank rank_le)).place.lt (.finite 0) = false := by
  cases value with
  | nan payload => rfl
  | signed negative factor factor_le =>
    cases negative with
    | false =>
      rw [mul]
      split
      · split
        · rfl
        · exact unsigned_not_lt_zero ..
      · exact unsigned_not_lt_zero ..
    | true =>
      obtain rfl := rank_eq_zero notNegative
      have unitsPositive : 0 < unitsPerOne := Int.natCast_pos.mp unitsPerOne_pos
      rw [mul]
      split
      · rw [if_pos (Or.inl rfl)]
        rfl
      · have noUnits : units 0 = 0 := by decide
        rw [noUnits, Nat.zero_mul, place_nearest_zero _ unitsPositive]
        rfl

/-- A natural number is converted to one without a sign. -/
theorem exists_of_ofInt?
    {value : Int}
    (natural : 0 ≤ value)
    {converted : Binary64}
    (found : ofInt? value = some converted) :
    ∃ rank rank_le, converted = signed false rank rank_le := by
  have noSign : decide (value < 0) = false := decide_eq_false (Int.not_lt.mpr natural)
  rw [ofInt?, noSign] at found
  split at found
  · cases found
  · cases found
    exact ⟨_, _, rfl⟩

end Binary64

namespace Number

theorem place_int_ne
    (value : Int) :
    (int value).place ≠ .unordered := by
  rw [place]
  intro same
  cases same

theorem lt_zero
    (number : Number) :
    number.lt (.int 0) = number.place.lt (.finite 0) := by
  rw [lt, place, Int.zero_mul]

/-- A base that is not negative has no negative product with a natural growth. -/
theorem mul?_not_lt_zero
    {base product : Number}
    (notNegative : base.lt (.int 0) = false)
    {growth : Int}
    (natural : 0 ≤ growth)
    (found : base.mul? (.int growth) = some product) :
    product.lt (.int 0) = false := by
  have integers (factor : Int) (factorNatural : 0 ≤ factor) :
      (int (factor * growth)).lt (.int 0) = false := by
    rw [lt_int_int, decide_eq_false_iff_not, Int.not_lt]
    exact Int.mul_nonneg factorNatural natural
  cases base with
  | flag value =>
    obtain rfl : int (ofFlag value * growth) = product := by
      simpa [mul?, toInt?] using found
    apply integers
    cases value <;> decide
  | int value =>
    obtain rfl : int (value * growth) = product := by
      simpa [mul?, toInt?] using found
    apply integers
    rwa [lt_int_int, decide_eq_false_iff_not, Int.not_lt] at notNegative
  | real value =>
    rw [mul?_real_int] at found
    obtain ⟨power, converted, rfl⟩ := Option.map_eq_some_iff.mp found
    obtain ⟨rank, rank_le, rfl⟩ := Binary64.exists_of_ofInt? natural converted
    rw [lt_zero] at notNegative ⊢
    exact Binary64.mul_not_lt_zero notNegative rank rank_le

end Number

/-- A delay whose base is not negative is at most its bound, which may be any number with an
order, and it is not negative exactly where the bound is not. -/
theorem backoff_bounded
    {base bound : Number}
    (notNegative : base.lt (.int 0) = false)
    (ordered : bound.place ≠ .unordered)
    {attempt : Int}
    (first : 1 ≤ attempt)
    {delay : Value}
    (waits : backoff (.number base) (.number bound) (.int attempt) = .ok delay) :
    ∃ number,
      delay = .number number ∧
      number.le bound = true ∧
      ((Number.int 0).le number = true ↔ (Number.int 0).le bound = true) := by
  obtain ⟨before, rfl⟩ : ∃ before : Nat, attempt = (before + 1 : Nat) :=
    ⟨(attempt - 1).toNat, by omega⟩
  rw [backoff_succ, scaled] at waits
  obtain ⟨scaled, multiplied, waits⟩ := Outcome.bind_eq_ok_iff.mp waits
  obtain ⟨product, ranged, rfl⟩ := Outcome.map_eq_ok_iff.mp multiplied
  have found : base.mul? (.int (Nat.pow 2 before)) = some product :=
    Outcome.inRange_eq_ok_iff.mp ranged
  have productNotNegative : product.lt (.int 0) = false :=
    Number.mul?_not_lt_zero notNegative (Int.natCast_nonneg _) found
  rw [Value.ordered?_number_number] at waits
  -- A product that is NaN is below nothing, so the bound is waited for in its place.
  cases below : product.lt bound with
  | true =>
    obtain rfl : Value.number product = delay := by
      simpa [Order.ofNumbers, below, compatible] using waits
    have productOrdered : product.place ≠ .unordered := (Place.ordered_of_lt below).1
    have natural : (Number.int 0).place.le product.place = true :=
      Place.le_of_not_lt productOrdered (Number.place_int_ne 0) productNotNegative
    have boundNatural : (Number.int 0).place.le bound.place = true :=
      Place.le_of_lt (Place.lt_of_le_of_lt natural below)
    exact ⟨product, rfl, Place.le_of_lt below, iff_of_true natural boundNatural⟩
  | false =>
    obtain rfl : Value.number bound = delay := by
      simpa [Order.ofNumbers, below, compatible] using waits
    exact ⟨bound, rfl, Place.le_self ordered, Iff.rfl⟩

end Retry
