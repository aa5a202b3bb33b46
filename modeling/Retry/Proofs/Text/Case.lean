import Retry.Text.Lower

/-!
# Capitals in plain names

The capitals of every script have small letters, and one sign outside ASCII has its small
letter in ASCII.  The main statement says that none of this matters to a name of ASCII
characters that does without this letter: a text has the name as its lower-case form exactly
where the two differ in the case of ASCII letters at most, whichever form the small sigma
takes.
-/

namespace Retry
namespace Text

/-- Whether a character is in ASCII. -/
def IsAscii (c : Char) : Prop :=
  c.toNat < 0x80

instance instDecidableIsAscii (c : Char) : Decidable (IsAscii c) :=
  inferInstanceAs (Decidable (c.toNat < 0x80))

/-- The sign of a unit of temperature, a capital whose small letter is in ASCII. -/
def kelvinSign : Char := '\u212a'

/-- Whether a character is in ASCII, and is the small letter of no character that is not. -/
def IsPlain (c : Char) : Prop :=
  IsAscii c ∧ c ≠ 'k'

instance instDecidableIsPlain (c : Char) : Decidable (IsPlain c) :=
  inferInstanceAs (Decidable (IsAscii c ∧ c ≠ 'k'))

/-- The capitals outside ASCII are of runs whose small letters are characters outside ASCII,
but for one, which is alone. -/
theorem of_mem_tail_capitalRuns :
    ∀ run ∈ capitalRuns.tail,
      run.first = kelvinSign.toNat ∧ run.last = kelvinSign.toNat ∨
        0x80 ≤ run.first ∧ 0x80 ≤ run.first + run.shift ∧
          (run.last + run.shift < 0xd800 ∨
            0xe000 ≤ run.first + run.shift ∧ run.last + run.shift < 0x110000) := by
  decide +kernel

theorem CapitalRun.covers_iff
    {run : CapitalRun}
    {code : Nat} :
    run.covers code = true ↔
      run.first ≤ code ∧ code ≤ run.last ∧ (code - run.first) % run.stride = 0 := by
  simp [covers, and_assoc]

section Characters

variable {c : Char}

theorem toNat_ofNat
    {code : Nat}
    (valid : code.isValidChar) :
    (Char.ofNat code).toNat = code := by
  rw [Char.ofNat, dif_pos valid]
  rfl

theorem toLower_of_capital
    (first : 0x41 ≤ c.toNat)
    (last : c.toNat ≤ 0x5a) :
    c.toLower = Char.ofNat (c.toNat + 32) := by
  have capital : c.val ≥ 'A'.val ∧ c.val ≤ 'Z'.val :=
    ⟨UInt32.le_iff_toNat_le.mpr first, UInt32.le_iff_toNat_le.mpr last⟩
  have valid : (c.toNat + 32).isValidChar := by
    left
    omega
  have shifted : c.toLower.val = c.val + 32 := congrArg Char.val (dif_pos capital)
  apply Char.toNat_inj.mp
  rw [toNat_ofNat valid, Char.toNat, shifted]
  show (c.val + 32).toNat = c.val.toNat + 32
  have bound : c.val.toNat ≤ 0x5a := last
  rw [UInt32.toNat_add, Nat.mod_eq_of_lt]
  · rfl
  · have shift : (32 : UInt32).toNat = 32 := rfl
    omega

theorem toLower_of_not_capital
    (other : ¬(0x41 ≤ c.toNat ∧ c.toNat ≤ 0x5a)) :
    c.toLower = c := by
  have notCapital : ¬(c.val ≥ 'A'.val ∧ c.val ≤ 'Z'.val) := fun capital =>
    other ⟨UInt32.le_iff_toNat_le.mp capital.1, UInt32.le_iff_toNat_le.mp capital.2⟩
  exact dif_neg notCapital

/-- The first run of capitals is that of ASCII, and a character of another run is not in
ASCII. -/
theorem not_ascii_of_covers
    {run : CapitalRun}
    (member : run ∈ capitalRuns.tail)
    (covered : run.covers c.toNat = true) :
    ¬IsAscii c := by
  have least : run.first ≤ c.toNat := (CapitalRun.covers_iff.mp covered).1
  have outside : 0x80 ≤ run.first := by
    rcases of_mem_tail_capitalRuns run member with ⟨kelvin, _⟩ | ⟨bound, _⟩
    · rw [kelvin]
      decide
    · exact bound
  unfold IsAscii
  omega

theorem lowerSimple_eq
    (c : Char) :
    lowerSimple c =
      if 0x41 ≤ c.toNat ∧ c.toNat ≤ 0x5a then Char.ofNat (c.toNat + 32)
      else match capitalRuns.tail.find? (·.covers c.toNat) with
        | some run => Char.ofNat (c.toNat + run.shift).toNat
        | none => c := by
  have first : capitalRuns = ⟨0x41, 0x5a, 1, 32⟩ :: capitalRuns.tail := rfl
  have inAscii : (⟨0x41, 0x5a, 1, 32⟩ : CapitalRun).covers c.toNat = true ↔
      0x41 ≤ c.toNat ∧ c.toNat ≤ 0x5a := by
    simp [CapitalRun.covers_iff, Nat.mod_one]
  rw [lowerSimple, first, List.find?_cons]
  cases covered : (⟨0x41, 0x5a, 1, 32⟩ : CapitalRun).covers c.toNat with
  | true =>
    rw [if_pos (inAscii.mp covered)]
    rfl
  | false =>
    have notCapital : ¬(0x41 ≤ c.toNat ∧ c.toNat ≤ 0x5a) := by simp [← inAscii, covered]
    rw [if_neg notCapital]
    rfl

/-- Characters of ASCII have the small letters that they have in ASCII. -/
theorem lowerChar_of_ascii
    (ascii : IsAscii c) :
    lowerChar c = [c.toLower] := by
  have undotted : c ≠ dottedCapital := by
    rintro rfl
    exact absurd ascii (by decide)
  have uncovered : capitalRuns.tail.find? (·.covers c.toNat) = none := by
    rw [List.find?_eq_none]
    intro run member covered
    exact not_ascii_of_covers member covered ascii
  rw [lowerChar, if_neg undotted, lowerSimple_eq, uncovered]
  split
  · rename_i capital
    rw [toLower_of_capital capital.1 capital.2]
  · rename_i other
    rw [toLower_of_not_capital other]

/-- A character outside ASCII has a small letter outside ASCII, but for one. -/
theorem not_ascii_lowerSimple
    (outside : ¬IsAscii c)
    (other : c ≠ kelvinSign) :
    ¬IsAscii (lowerSimple c) := by
  have notCapital : ¬(0x41 ≤ c.toNat ∧ c.toNat ≤ 0x5a) := by
    unfold IsAscii at outside
    omega
  rw [lowerSimple_eq, if_neg notCapital]
  cases found : capitalRuns.tail.find? (·.covers c.toNat) with
  | none => exact outside
  | some run =>
    have covered := List.find?_some found
    obtain ⟨first, last, _⟩ := CapitalRun.covers_iff.mp covered
    rcases of_mem_tail_capitalRuns run (List.mem_of_find?_eq_some found) with
      ⟨isFirst, isLast⟩ | ⟨_, bound, valid⟩
    · exact absurd (Char.toNat_inj.mp (by omega)) other
    · have isValid : ((c.toNat + run.shift).toNat).isValidChar := by
        unfold Nat.isValidChar
        omega
      simp only [IsAscii, toNat_ofNat isValid]
      omega

end Characters

/-- The forms of the small sigma.  Which of them a capital sigma has depends on what stands
around it. -/
def smallSigmas : List Char := ['\u03c3', '\u03c2']

/-- The capital sigma. -/
def capitalSigma : Char := '\u03a3'

/-- The lower-case form of a text in which every capital sigma has the form that is picked for
it, by what stands before and behind it. -/
def lowerWith
    (form : List Char → List Char → Char)
    (before : List Char) : List Char → List Char
  | [] => []
  | c :: rest =>
    (if c = capitalSigma then [form before rest] else lowerChar c) ++
      lowerWith form (before ++ [c]) rest

/-- Always the same small sigma is the form that lower-casing picks. -/
theorem lower_eq_lowerWith
    (before chars : List Char) :
    lower chars = lowerWith (fun _ _ => '\u03c3') before chars := by
  induction chars generalizing before with
  | nil => rfl
  | cons c rest inductionHypothesis =>
    rw [lower_cons, lowerWith, inductionHypothesis (before ++ [c])]
    congr 1
    split
    · rename_i sigma
      rw [sigma]
      rfl
    · rfl

variable {form : List Char → List Char → Char}

/-- The lower-case form of a character outside ASCII holds one that is not plain. -/
theorem exists_not_plain
    (forms : ∀ before behind, form before behind ∈ smallSigmas)
    {c : Char}
    (outside : ¬IsAscii c)
    (before behind : List Char) :
    ∃ small ∈ if c = capitalSigma then [form before behind] else lowerChar c,
      ¬IsPlain small := by
  split
  · refine ⟨_, List.mem_singleton_self _, ?_⟩
    have isSigma := forms before behind
    simp only [smallSigmas, List.mem_cons, List.not_mem_nil, or_false] at isSigma
    rcases isSigma with same | same <;>
      · rw [same]
        decide
  · unfold lowerChar
    split
    · exact ⟨combiningDot, by simp, by decide⟩
    · refine ⟨lowerSimple c, List.mem_singleton_self _, ?_⟩
      by_cases kelvin : c = kelvinSign
      · rw [kelvin]
        exact fun plain => plain.2 (by decide +kernel)
      · exact fun plain => not_ascii_lowerSimple outside kelvin plain.1

/-- A text has a plain name as its lower-case form exactly where the two differ in the case of
ASCII letters at most, whichever form the small sigma takes. -/
theorem lowerWith_eq_iff
    (forms : ∀ before behind, form before behind ∈ smallSigmas)
    {name : List Char}
    (plain : ∀ c ∈ name, IsPlain c)
    (before chars : List Char) :
    lowerWith form before chars = name ↔ chars.map Char.toLower = name := by
  induction chars generalizing before name with
  | nil => rfl
  | cons c rest inductionHypothesis =>
    rw [lowerWith, List.map_cons]
    by_cases ascii : IsAscii c
    · have notSigma : c ≠ capitalSigma := by
        rintro rfl
        revert ascii
        decide
      rw [if_neg notSigma, lowerChar_of_ascii ascii, List.singleton_append]
      cases name with
      | nil => simp
      | cons first others =>
        have plainOthers : ∀ c ∈ others, IsPlain c := fun c member =>
          plain c (List.mem_cons_of_mem first member)
        rw [List.cons.injEq, List.cons.injEq, inductionHypothesis plainOthers]
    · constructor
      · intro same
        obtain ⟨small, member, notPlain⟩ := exists_not_plain forms ascii before rest
        have inName : small ∈ name := by
          rw [← same]
          exact List.mem_append_left _ member
        exact absurd (plain small inName) notPlain
      · intro same
        have unchanged : c.toLower = c := by
          apply toLower_of_not_capital
          unfold IsAscii at ascii
          omega
        have inName : c ∈ name := by
          rw [← same, unchanged]
          exact List.mem_cons_self
        exact absurd (plain c inName).1 ascii

end Text
end Retry
