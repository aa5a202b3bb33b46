import Retry.Proofs.Failure.Lineage
import Retry.Proofs.Outcome

/-!
# Failures made with a flag

A client failure can be made with a flag that says whether it is worth retrying.  The
classes of its lineage hand the offer of the flag from one to the next, and only the class
of client failures itself takes it.  The main statement says that a failure that is made
of such an offer keeps the flag.
-/

namespace Retry

namespace Offer

/-- A class that takes an offer with a flag takes parts of which the flag is one. -/
theorem parts?_flag
    {offer : Offer}
    {flag : Value}
    (flagged : offer.named.lookup .retryable = some flag)
    {taken : List Part}
    {required : Nat}
    {parts : List (Part × Value)}
    (takes : offer.parts? taken required = some parts) :
    Part.retryable ∈ taken ∧ parts.lookup .retryable = some flag := by
  obtain ⟨before, after, named, _⟩ := List.lookup_eq_some_iff.mp flagged
  have listed : (Part.retryable, flag) ∈ offer.named := by
    rw [named]
    exact List.mem_append_right before (List.mem_cons_self ..)
  rw [parts?] at takes
  split at takes
  · rename_i accepted
    injection takes with same
    simp only [Bool.and_eq_true, List.all_eq_true] at accepted
    obtain ⟨known, unbound⟩ := accepted.1.2 _ listed
    rw [Option.isNone_iff_eq_none] at unbound
    refine ⟨List.contains_iff_mem.mp known, ?_⟩
    rw [← same, List.lookup_append, unbound, flagged]
    rfl
  · cases takes

end Offer

/-- Of the known classes only that of client failures takes a flag. -/
theorem KnownClass.eq_clientError_of_takes_flag
    {known : KnownClass}
    {taken : List Part}
    {required : Nat}
    (shares : known.share = .parts taken required)
    (takes : Part.retryable ∈ taken) :
    known = .clientError := by
  cases known <;> simp [share] at shares
  case clientError => rfl
  all_goals
    rw [← shares.1] at takes
    simp at takes

namespace Facts

@[simp] theorem failureClass_keepParts
    (known : KnownClass)
    (parts : List (Part × Value))
    (facts : Facts) :
    (keepParts known parts facts).failureClass = facts.failureClass := by
  unfold keepParts
  split <;> rfl

/-- The first class of a lineage that makes a failure passes the offer on, or ends the chain
where no part is offered by name, or takes parts of the offer and hands on others. -/
theorem assemble_cons
    {layer : Layer}
    {rest : List Layer}
    {offer : Offer}
    {facts made : Facts}
    (makes : assemble (layer :: rest) offer facts = .ok made) :
    assemble rest offer facts = .ok made ∨
    (offer.named = [] ∧ made.failureClass = facts.failureClass) ∨
    ∃ known taken required parts inner,
      known.share = .parts taken required ∧
      offer.parts? taken required = some parts ∧
      assemble rest (handOn known parts) facts = .ok inner ∧
      made = keepParts known parts inner := by
  cases layer with
  | defined definition =>
    rw [assemble] at makes
    split at makes
    · rename_i member _
      cases member <;> cases makes
    · exact Or.inl makes
  | known known =>
    rw [assemble.eq_def] at makes
    simp only at makes
    split at makes
    · exact Or.inl makes
    · obtain ⟨_, _, makes⟩ := Outcome.bind_eq_ok_iff.mp makes
      split at makes
      · rename_i unnamed
        cases makes
        exact Or.inr (Or.inl ⟨List.isEmpty_iff.mp unnamed, rfl⟩)
      · cases makes
    · obtain ⟨_, _, makes⟩ := Outcome.bind_eq_ok_iff.mp makes
      cases makes
      exact Or.inr (Or.inl ⟨rfl, rfl⟩)
    · obtain ⟨_, _, makes⟩ := Outcome.bind_eq_ok_iff.mp makes
      cases makes
      exact Or.inr (Or.inl ⟨rfl, rfl⟩)
    · obtain ⟨inner, below, makes⟩ := Outcome.bind_eq_ok_iff.mp makes
      obtain ⟨_, _, makes⟩ := Outcome.bind_eq_ok_iff.mp makes
      cases makes
      exact Or.inl below
    · rename_i shares
      split at makes
      · rename_i parts takes
        obtain ⟨inner, below, makes⟩ := Outcome.bind_eq_ok_iff.mp makes
        obtain ⟨_, _, makes⟩ := Outcome.bind_eq_ok_iff.mp makes
        cases makes
        exact Or.inr (Or.inr ⟨known, _, _, parts, inner, shares, takes, below, rfl⟩)
      · cases makes
    · cases makes

/-- A failure that the classes of a lineage make is of the class that it is made as. -/
theorem failureClass_assemble
    {layers : List Layer}
    {offer : Offer}
    {facts made : Facts}
    (makes : assemble layers offer facts = .ok made) :
    made.failureClass = facts.failureClass := by
  induction layers generalizing offer made with
  | nil => cases makes
  | cons layer rest inductionHypothesis =>
    rcases assemble_cons makes with passed | ⟨_, same⟩ | ⟨_, _, _, _, _, _, _, below, rfl⟩
    · exact inductionHypothesis passed
    · exact same
    · rw [failureClass_keepParts]
      exact inductionHypothesis below

/-- A failure that the classes of a lineage make of an offer with a flag keeps the flag. -/
theorem own?_assemble_of_flag
    {layers : List Layer}
    {offer : Offer}
    {facts made : Facts}
    {flag : Value}
    (flagged : offer.named.lookup .retryable = some flag)
    (makes : assemble layers offer facts = .ok made) :
    made.own? .retryable = some flag := by
  induction layers generalizing made with
  | nil => cases makes
  | cons layer rest inductionHypothesis =>
    rcases assemble_cons makes with
      passed | ⟨unnamed, _⟩ | ⟨_, _, _, _, _, shares, takes, _, rfl⟩
    · exact inductionHypothesis passed
    · rw [unnamed] at flagged
      cases flagged
    · obtain ⟨taken, kept⟩ := Offer.parts?_flag flagged takes
      obtain rfl := KnownClass.eq_clientError_of_takes_flag shares taken
      rw [keepParts, own?_keep_self]
      simp only [kept, Option.getD_some]

end Facts

/-- Whether failures of a class can be made with a flag: those of client failures, those of
attempts that took too long, and those of a client's class that extends client
failures. -/
structure FailureClass.TakesFlag (cls : FailureClass) : Prop where
  client : cls.isA .clientError = true
  own : cls.own = .known .clientError ∨ cls.own = .known .attemptTimeoutError ∨
    ∃ definition, cls.own = .defined definition

/-- A failure that is made with a flag is of its class and keeps the flag. -/
theorem Facts.make_flag
    {cls : FailureClass}
    (takes : cls.TakesFlag)
    {message statusCode flag : Value}
    {named : List (Part × Value)}
    (flagged : named.lookup .retryable = some flag)
    {facts : Facts}
    (makes : make cls message statusCode named = .ok facts) :
    facts.failureClass = cls ∧ facts.own? .retryable = some flag := by
  have ordinary (known : KnownClass)
      (other : known ≠ .clientError ∧ known ≠ .attemptTimeoutError) :
      cls.ref ≠ .known known := by
    intro same
    have own : cls.own = .known known := Layer.eq_known_of_ref same
    rcases takes.own with client | timeout | ⟨definition, defined_⟩
    · rw [own] at client
      cases client
      exact other.1 rfl
    · rw [own] at timeout
      cases timeout
      exact other.2 rfl
    · rw [own] at defined_
      cases defined_
  have sdk : cls.isA .sdkError = true := FailureClass.isA_sdkError_of_client takes.client
  rw [make, if_neg (ordinary .httpStatusError (by decide)),
    if_neg (ordinary .streamConsumed (by decide))] at makes
  obtain ⟨_, _, makes⟩ := Outcome.bind_eq_ok_iff.mp makes
  refine ⟨failureClass_assemble makes, own?_assemble_of_flag ?_ makes⟩
  cases cls.isA .serviceError with
  | true => exact flagged
  | false =>
    rw [if_neg Bool.false_ne_true, if_pos sdk]
    exact flagged

end Retry
