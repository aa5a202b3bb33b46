import Retry.Settings.Integer

/-!
# Integers written out and read back

The decimal text of an integer is a plain one: a minus where it is negative, then digits
that do not begin with a superfluous zero.  The main statement says that it is read as the
integer it was written from, whatever its sign and its size, as long as it has no more
digits than allowed, and is told its size otherwise.
-/

namespace Retry
namespace Settings

/-- The value of digits is the number that they write in base ten. -/
theorem digitsValue_eq_ofDigitChars
    (digits : List Char) :
    digitsValue digits = Nat.ofDigitChars 10 digits 0 := by
  simp only [digitsValue, Nat.ofDigitChars_eq_foldl, Nat.mul_comm]

/-- Reading the digits of a number gives the number. -/
theorem digitsValue_toDigits
    (n : Nat) :
    digitsValue (Nat.toDigits 10 n) = n := by
  rw [digitsValue_eq_ofDigitChars]
  exact Nat.ofDigitChars_toDigits (by decide) (by decide)

/-- A single digit other than zero is not written as one. -/
theorem digitChar_ne_zero
    {n : Nat}
    (positive : n ≠ 0)
    (single : n < 10) :
    n.digitChar ≠ '0' := by
  match n with
  | 0 => exact absurd rfl positive
  | 1 | 2 | 3 | 4 | 5 | 6 | 7 | 8 | 9 => decide
  | rest + 10 => omega

/-- The digits of a number other than zero do not begin with a zero. -/
theorem head?_toDigits_ne_zero
    {n : Nat}
    (positive : n ≠ 0) :
    (Nat.toDigits 10 n).head? ≠ some '0' := by
  induction n using Nat.strongRecOn with
  | ind n inductionHypothesis =>
    by_cases single : n < 10
    · rw [Nat.toDigits_of_lt_base single, List.head?_cons]
      intro zero
      exact digitChar_ne_zero positive single (Option.some.inj zero)
    · have leading : (Nat.toDigits 10 (n / 10)).head? ≠ some '0' :=
        inductionHypothesis (n / 10) (by omega) (by omega)
      rw [Nat.toDigits_of_base_le (by decide) (by omega)]
      cases digits : Nat.toDigits 10 (n / 10) with
      | nil => exact absurd digits Nat.toDigits_ne_nil
      | cons c rest =>
        rw [digits] at leading
        exact leading

/-- The digits of a number are digits. -/
theorem all_isDigit_toDigits
    (n : Nat) :
    (Nat.toDigits 10 n).all Char.isDigit = true := by
  rw [List.all_eq_true]
  intro c member
  exact Nat.isDigit_of_mem_toDigits (by decide) (by decide) member

theorem takeWhile_isDigit_toDigits
    (n : Nat) :
    (Nat.toDigits 10 n).takeWhile Char.isDigit = Nat.toDigits 10 n := by
  have kept : (Nat.toDigits 10 n ++ []).takeWhile Char.isDigit =
      Nat.toDigits 10 n ++ [].takeWhile Char.isDigit :=
    List.takeWhile_append_of_pos (List.all_eq_true.mp (all_isDigit_toDigits n))
  rwa [List.takeWhile_nil, List.append_nil] at kept

/-- The digits of a number are those of a plain integer. -/
theorem isPlain_toDigits
    (n : Nat) :
    isPlain (Nat.toDigits 10 n) = true := by
  have present : (Nat.toDigits 10 n).isEmpty = false :=
    List.isEmpty_eq_false_iff.mpr Nat.toDigits_ne_nil
  rw [isPlain, present, all_isDigit_toDigits]
  by_cases zero : n = 0
  · subst zero
    rfl
  · rw [bne_iff_ne.mpr (head?_toDigits_ne_zero zero)]
    rfl

/-- Digits have no minus in front. -/
theorem splitMinus_of_all_isDigit
    {digits : List Char}
    (allDigits : digits.all Char.isDigit = true) :
    splitMinus digits = (false, digits) := by
  unfold splitMinus
  split
  case h_1 rest => exact absurd allDigits (by simp)
  case h_2 => rfl

/-- The text of an integer is a minus, where it is negative, and the digits of its
magnitude. -/
theorem splitMinus_toString
    (value : Int) :
    splitMinus (toString value).toList =
      (decide (value < 0), Nat.toDigits 10 value.natAbs) := by
  rw [Int.toString_eq_repr, Int.repr_eq_if]
  split
  case isTrue natural =>
    have magnitude : value.toNat = value.natAbs := by omega
    have unsigned : ¬value < 0 := by omega
    rw [Nat.toList_repr, magnitude, decide_eq_false unsigned]
    exact splitMinus_of_all_isDigit (all_isDigit_toDigits _)
  case isFalse negative =>
    have magnitude : (-value).toNat = value.natAbs := by omega
    have signed : value < 0 := by omega
    rw [String.toList_append, Nat.toList_repr, magnitude, decide_eq_true signed]
    rfl

/-- The text of an integer is of too many digits exactly where its magnitude has more of
them than allowed. -/
theorem isOversize_toString
    (value : Int) :
    isOversize (toString value).toList =
      decide (maxDigits < (Nat.toDigits 10 value.natAbs).length) := by
  rw [isOversize, splitMinus_toString, takeWhile_isDigit_toDigits]
  by_cases zero : value.natAbs = 0
  · rw [zero]
    rfl
  · rw [bne_iff_ne.mpr (head?_toDigits_ne_zero zero), Bool.true_and]

/-- Reading the decimal text of an integer gives the integer, unless it has more digits
than allowed. -/
theorem readInteger_toString
    (value : Int) :
    readInteger (toString value) =
      if maxDigits < (Nat.toDigits 10 value.natAbs).length then .error .oversize
      else .ok value := by
  rw [readInteger, isOversize_toString]
  by_cases oversize : maxDigits < (Nat.toDigits 10 value.natAbs).length
  · rw [if_pos oversize, if_pos (decide_eq_true oversize)]
  · have plain : plainInteger? (toString value).toList = some value := by
      rw [plainInteger?, splitMinus_toString, isOversize_toString]
      simp only [isPlain_toDigits, oversize, digitsValue_toDigits, decide_false, Bool.not_false,
        Bool.and_self, if_true, decide_eq_true_eq, Option.some.injEq]
      split <;> omega
    rw [if_neg oversize, plain, decide_eq_false oversize]
    rfl

end Settings
end Retry
