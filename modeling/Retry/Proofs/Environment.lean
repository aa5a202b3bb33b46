import Retry.Environment

/-!
# What a setting sees of an environment

A setting is looked up among the variables that spell its name and sees no others, and of
these it takes the last.  Two environments agree on a setting when they hold the same of
these variables, which leaves open which of them comes last.  The main statements say that
the setting has the same text where the same one does, as it must where one variable alone
spells it, and that variables of any other name come, change and go without being seen.
-/

namespace Retry
namespace Environment

/-- Whether two environments hold the same variables under the spellings of a setting's
name, in whatever order, and whatever else they hold. -/
def Agree
    (setting : String)
    (left right : Environment) : Prop :=
  ∀ entry, entry ∈ left.spellings setting ↔ entry ∈ right.spellings setting

/-- Whether the same variable comes last in two environments under the spellings of a
setting's name, or none does in either. -/
def SameLast
    (setting : String)
    (left right : Environment) : Prop :=
  (left.spellings setting).getLast? = (right.spellings setting).getLast?

/-- Names that differ at most in case are spellings of the same settings. -/
theorem sameName_congr
    {name other : String}
    (same : sameName name other = true)
    (setting : String) :
    sameName name setting = sameName other setting := by
  have lower : Text.lower name.toList = Text.lower other.toList := of_decide_eq_true same
  rw [sameName, sameName, lower]

/-- No name is a spelling of two settings that differ in more than case. -/
theorem sameName_exclusive
    {setting other : String}
    (differ : sameName setting other = false)
    {name : String}
    (spells : sameName name setting = true) :
    sameName name other = false := by
  rw [sameName_congr spells, differ]

/-- What a setting sees of a list of variables is not changed by putting other texts,
under the same name, in place of variables that it does not see. -/
theorem filter_replace
    {setting name : String}
    (unseen : sameName name setting = false)
    (value : String)
    (entries : List (String × String)) :
    (entries.map fun entry => if entry.1 = name then (name, value) else entry).filter
        (fun entry => sameName entry.1 setting) =
      entries.filter fun entry => sameName entry.1 setting := by
  induction entries with
  | nil => rfl
  | cons entry rest inductionHypothesis =>
    rw [List.map_cons]
    by_cases named : entry.1 = name
    · have unseenEntry : sameName entry.1 setting = false := named ▸ unseen
      rw [if_pos named]
      simp only [List.filter_cons, unseen, unseenEntry, Bool.false_eq_true, if_false,
        inductionHypothesis]
    · rw [if_neg named]
      simp only [List.filter_cons, inductionHypothesis]

variable {env left right : Environment} {setting name : String}

/-- A setting has the same text in environments in which the same spelling comes last. -/
theorem SameLast.find?_eq
    (last : SameLast setting left right) :
    left.find? setting = right.find? setting := by
  rw [find?, find?, last]

/-- Where no two variables spell a setting, the environments that agree on it have the same
one last. -/
theorem Agree.sameLast
    (agree : Agree setting left right)
    (single : ∀ entry ∈ left.spellings setting, ∀ other ∈ left.spellings setting,
      entry = other) :
    SameLast setting left right := by
  rw [SameLast]
  cases lastRight : (right.spellings setting).getLast? with
  | none =>
    rw [List.getLast?_eq_none_iff] at lastRight ⊢
    refine List.eq_nil_iff_forall_not_mem.mpr fun entry member => ?_
    have impossible : entry ∈ right.spellings setting := (agree entry).mp member
    rw [lastRight] at impossible
    cases impossible
  | some entry =>
    have listed : entry ∈ left.spellings setting :=
      (agree entry).mpr (List.mem_of_getLast? lastRight)
    cases lastLeft : (left.spellings setting).getLast? with
    | none =>
      rw [List.getLast?_eq_none_iff.mp lastLeft] at listed
      cases listed
    | some other => rw [single other (List.mem_of_getLast? lastLeft) entry listed]

/-- Setting a variable that is no spelling of a setting is not seen by it. -/
theorem spellings_set
    (unseen : sameName name setting = false)
    (value : String) :
    (env.set name value).spellings setting = env.spellings setting := by
  rw [set]
  split
  · exact filter_replace unseen value env.entries
  · simp [spellings, List.filter_append, unseen]

/-- Removing a variable that is no spelling of a setting is not seen by it. -/
theorem spellings_unset
    (unseen : sameName name setting = false) :
    (env.unset name).spellings setting = env.spellings setting := by
  rw [eq_comm, spellings, spellings, unset, List.filter_filter]
  refine List.filter_congr fun entry _ => ?_
  by_cases named : entry.1 = name
  · have unseenEntry : sameName entry.1 setting = false := named ▸ unseen
    rw [unseenEntry, Bool.false_and]
  · rw [(bne_iff_ne (a := entry.1) (b := name)).mpr named, Bool.and_true]

/-- Setting or removing a spelling of one setting is not seen by another. -/
theorem sameLast_of_spelling
    {other : String}
    (differ : sameName other setting = false)
    (spells : sameName name other = true)
    (value : String) :
    SameLast setting env (env.set name value) ∧ SameLast setting env (env.unset name) := by
  have unseen : sameName name setting = false := sameName_exclusive differ spells
  rw [SameLast, SameLast, spellings_set unseen, spellings_unset unseen]
  exact ⟨rfl, rfl⟩

end Environment
end Retry
