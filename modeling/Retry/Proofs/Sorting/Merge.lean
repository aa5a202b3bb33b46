import Retry.Sorting.Merge

/-!
# What merging comes to

Merging asks of two items at a time which of them comes first.  The main statement says that
it comes to an end wherever these questions have answers, whatever they are, and that the
merged run then holds the items of both, each as often as they did.
-/

namespace Retry
namespace Sorting

open scoped List

variable {α : Type}

namespace RunEnd

section Stretches

variable {leads : α → Option Bool} {items : List α}
  (answers : ∀ item ∈ items, ∃ answer, leads item = some answer)

include answers

theorem exists_bisect?
    (side : RunEnd)
    (low high : Nat)
    (bound : high ≤ items.length) :
    ∃ count, side.bisect? leads items low high = some count := by
  rw [bisect?]
  split
  · have inside : side.middle low high < items.length := by
      cases side <;> simp only [middle] <;> omega
    obtain ⟨answer, answered⟩ := answers _ (List.getElem_mem inside)
    simp only [List.getElem?_eq_getElem inside, Option.bind_eq_bind, Option.bind_some, answered]
    cases answer with
    | true => exact exists_bisect? side _ high bound
    | false =>
      rw [if_neg Bool.false_ne_true]
      exact exists_bisect? side low _ (Nat.le_of_lt inside)
  · exact ⟨low, rfl⟩
termination_by high - low
decreasing_by all_goals cases side <;> simp only [middle] <;> omega

theorem exists_widen?
    (side : RunEnd)
    (known distance : Nat) :
    ∃ count, side.widen? leads items known distance = some count := by
  rw [widen?]
  split
  · rename_i inside
    obtain ⟨answer, answered⟩ := answers _ (List.getElem_mem inside)
    simp only [List.getElem?_eq_getElem inside, Option.bind_eq_bind, Option.bind_some, answered]
    cases answer with
    | true => exact exists_widen? side distance (2 * distance + 1)
    | false =>
      rw [if_neg Bool.false_ne_true]
      exact exists_bisect? answers side _ distance (Nat.le_of_lt inside)
  · exact exists_bisect? answers side _ _ (Nat.min_le_right ..)
termination_by items.length - distance
decreasing_by omega

/-- A stretch has a length where it is known of every item whether it leads. -/
theorem exists_stretch?
    (side : RunEnd) :
    ∃ count, side.stretch? leads items = some count := by
  cases items with
  | nil => exact ⟨0, rfl⟩
  | cons first rest =>
    obtain ⟨answer, answered⟩ := answers first List.mem_cons_self
    simp only [stretch?, answered, Option.bind_eq_bind, Option.bind_some]
    cases answer with
    | true => exact exists_widen? answers side 0 1
    | false => exact ⟨0, rfl⟩

end Stretches

end RunEnd

/-- Whether a comparison has an answer about every two items of a kind. -/
def Answers
    (below : Comparison α)
    (kind : α → Prop) : Prop :=
  ∀ left right, kind left → kind right → ∃ answer, below left right = some answer

variable {below : Comparison α} {kind : α → Prop}

namespace Merging

/-- Everything that is being merged. -/
def all (merging : Merging α) : List α :=
  merging.taken ++ (merging.left ++ merging.right)

theorem perm_take
    (count : Nat)
    (items taken others : List α) :
    (items.take count).reverse ++ taken ++ (items.drop count ++ others) ~
      taken ++ (items ++ others) := by
  have moved : (items.take count).reverse ++ taken ~ taken ++ items.take count :=
    ((List.reverse_perm _).append_right taken).trans List.perm_append_comm
  calc
    _ ~ taken ++ items.take count ++ (items.drop count ++ others) := moved.append_right _
    _ = taken ++ (items ++ others) := by
      rw [List.append_assoc, ← List.append_assoc (items.take count), List.take_append_drop]

theorem takeLeft_perm
    (count : Nat)
    (merging : Merging α) :
    (merging.takeLeft count).all ~ merging.all :=
  perm_take count merging.left merging.taken merging.right

theorem takeRight_perm
    (count : Nat)
    (merging : Merging α) :
    (merging.takeRight count).all ~ merging.all :=
  calc
    _ ~ (merging.right.take count).reverse ++ merging.taken ++
          (merging.right.drop count ++ merging.left) := List.perm_append_comm.append_left _
    _ ~ merging.taken ++ (merging.right ++ merging.left) := perm_take ..
    _ ~ merging.all := List.perm_append_comm.append_left _

variable {merging : Merging α} {side : RunEnd}

theorem items_perm
    (side : RunEnd)
    (merging : Merging α) :
    merging.items side ~ merging.all := by
  have begins : merging.taken.reverse ~ merging.taken := List.reverse_perm _
  cases side with
  | front =>
    show merging.taken.reverse ++ merging.right ++ merging.left ~ _
    rw [List.append_assoc]
    exact begins.append List.perm_append_comm
  | back =>
    show merging.taken.reverse ++ merging.left ++ merging.right ~ _
    rw [List.append_assoc]
    exact begins.append_right _

/-- Both runs have items left where the order of what is left is not known. -/
theorem exists_heads
    (unsettled : merging.isSettled side = false) :
    ∃ left right, merging.left.head? = some left ∧ merging.right.head? = some right := by
  have notEmpty : merging.left ≠ [] ∧ merging.right ≠ [] := by
    cases side <;>
      simp only [isSettled, lastAndFirst, Bool.or_eq_false_iff,
        List.isEmpty_eq_false_iff] at unsettled
    · refine ⟨?_, unsettled.2⟩
      intro none
      simp [none] at unsettled
    · refine ⟨unsettled.2, ?_⟩
      intro none
      simp [none] at unsettled
  exact ⟨_, _, List.head?_eq_some_head notEmpty.1, List.head?_eq_some_head notEmpty.2⟩

section Steps

variable (answers : Answers below kind)

include answers

theorem exists_rightLeads?
    (side : RunEnd)
    {right left : α}
    (rightKind : kind right)
    (leftKind : kind left) :
    ∃ answer, rightLeads? below side right left = some answer := by
  obtain ⟨answer, answered⟩ := answers right left rightKind leftKind
  exact ⟨answer != (side == .back), by simp [rightLeads?, answered]⟩

variable (ofKind : ∀ item ∈ merging.all, kind item)

include ofKind

theorem exists_single?
    (unsettled : merging.isSettled side = false)
    (lefts rights : Nat) :
    ∃ next pace, merging.single? below side lefts rights = some (next, pace) ∧
      next.all ~ merging.all := by
  obtain ⟨left, right, isLeft, isRight⟩ := exists_heads unsettled
  have leftKind : kind left := ofKind left (by simp [all, List.mem_of_head? isLeft])
  have rightKind : kind right := ofKind right (by simp [all, List.mem_of_head? isRight])
  obtain ⟨answer, answered⟩ := exists_rightLeads? answers side rightKind leftKind
  simp only [single?, isLeft, isRight, answered, Option.bind_eq_bind, Option.bind_some]
  cases answer with
  | true => exact ⟨_, _, rfl, takeRight_perm 1 merging⟩
  | false => exact ⟨_, _, rfl, takeLeft_perm 1 merging⟩

theorem exists_leftStretch?
    (unsettled : merging.isSettled side = false) :
    ∃ next count, merging.leftStretch? below side = some (next, count) ∧
      next.all ~ merging.all := by
  obtain ⟨_, right, _, isRight⟩ := exists_heads unsettled
  have rightKind : kind right := ofKind right (by simp [all, List.mem_of_head? isRight])
  have leads : ∀ left ∈ merging.left, ∃ answer,
      (! ·) <$> rightLeads? below side right left = some answer := by
    intro left member
    obtain ⟨answer, answered⟩ :=
      exists_rightLeads? answers side rightKind (ofKind left (by simp [all, member]))
    exact ⟨!answer, by simp [answered]⟩
  obtain ⟨count, counted⟩ := RunEnd.exists_stretch? leads side
  simp only [leftStretch?, isRight, counted, Option.bind_eq_bind, Option.bind_some]
  refine ⟨_, _, rfl, ?_⟩
  split
  · exact takeLeft_perm count merging
  · exact (takeRight_perm 1 _).trans (takeLeft_perm count merging)

theorem exists_rightStretch?
    (unsettled : merging.isSettled side = false) :
    ∃ next count, merging.rightStretch? below side = some (next, count) ∧
      next.all ~ merging.all := by
  obtain ⟨left, _, isLeft, _⟩ := exists_heads unsettled
  have leftKind : kind left := ofKind left (by simp [all, List.mem_of_head? isLeft])
  have leads : ∀ right ∈ merging.right, ∃ answer,
      rightLeads? below side right left = some answer := by
    intro right member
    exact exists_rightLeads? answers side (ofKind right (by simp [all, member])) leftKind
  obtain ⟨count, counted⟩ := RunEnd.exists_stretch? leads side
  simp only [rightStretch?, isLeft, counted, Option.bind_eq_bind, Option.bind_some]
  refine ⟨_, _, rfl, ?_⟩
  split
  · exact takeRight_perm count merging
  · exact (takeLeft_perm 1 _).trans (takeRight_perm count merging)

theorem exists_stretches?
    (unsettled : merging.isSettled side = false) :
    ∃ next pace, merging.stretches? below side = some (next, pace) ∧
      next.all ~ merging.all := by
  obtain ⟨first, lefts, taken, firstPerm⟩ := exists_leftStretch? answers ofKind unsettled
  simp only [stretches?, taken, Option.bind_eq_bind, Option.bind_some]
  cases settled : first.isSettled side with
  | true => exact ⟨_, _, rfl, firstPerm⟩
  | false =>
    have firstKind : ∀ item ∈ first.all, kind item := fun item member =>
      ofKind item (firstPerm.mem_iff.mp member)
    obtain ⟨second, rights, taken, secondPerm⟩ :=
      exists_rightStretch? answers firstKind settled
    have perm : second.all ~ merging.all := secondPerm.trans firstPerm
    simp only [taken, Option.bind_some, if_neg Bool.false_ne_true]
    split
    · exact ⟨_, _, rfl, perm⟩
    · split
      · exact ⟨_, _, rfl, perm⟩
      · exact ⟨_, _, rfl, perm⟩

/-- Merging comes to an end, and loses no items. -/
theorem exists_settled?
    (side : RunEnd)
    (steps : Nat)
    (pace : Pace) :
    ∃ done, merging.settled? below side steps pace = some done ∧
      done.all ~ merging.all := by
  induction steps generalizing pace merging with
  | zero => exact ⟨merging, rfl, .refl _⟩
  | succ steps inductionHypothesis =>
    rw [settled?]
    cases settled : merging.isSettled side with
    | true => exact ⟨merging, rfl, .refl _⟩
    | false =>
      -- Whatever the pace was, the rest is merged as the step has left it.
      have goesOn {next : Merging α} (nextPerm : next.all ~ merging.all) (nextPace : Pace) :
          ∃ done, next.settled? below side steps nextPace = some done ∧
            done.all ~ merging.all := by
        obtain ⟨done, ends, donePerm⟩ := inductionHypothesis
          (fun item member => ofKind item (nextPerm.mem_iff.mp member)) nextPace
        exact ⟨done, ends, donePerm.trans nextPerm⟩
      cases pace with
      | single lefts rights =>
        obtain ⟨next, nextPace, taken, nextPerm⟩ :=
          exists_single? answers ofKind settled lefts rights
        simpa [taken] using goesOn nextPerm nextPace
      | stretches =>
        obtain ⟨next, nextPace, taken, nextPerm⟩ := exists_stretches? answers ofKind settled
        simpa [taken] using goesOn nextPerm nextPace

end Steps

end Merging

section Runs

variable (answers : Answers below kind)

include answers

theorem exists_mergedFromFront?
    (patience : Nat)
    {left right : List α}
    (ofKind : ∀ item ∈ left ++ right, kind item) :
    ∃ items less, mergedFromFront? below patience left right = some (items, less) ∧
      items ~ left ++ right := by
  have start := Merging.takeRight_perm 1 ⟨left, right, [], patience⟩
  have startKind := fun item member => ofKind item (start.mem_iff.mp member)
  obtain ⟨done, ends, perm⟩ :=
    Merging.exists_settled? answers startKind .front (left.length + right.length) (.single 0 0)
  refine ⟨done.items .front, done.patience, ?_, (done.items_perm .front).trans (perm.trans start)⟩
  simp only [mergedFromFront?, ends, Option.bind_eq_bind, Option.bind_some]
  rfl

theorem exists_mergedFromBack?
    (patience : Nat)
    {left right : List α}
    (ofKind : ∀ item ∈ left ++ right, kind item) :
    ∃ items less, mergedFromBack? below patience left right = some (items, less) ∧
      items ~ left ++ right := by
  have start := Merging.takeLeft_perm 1 ⟨left.reverse, right.reverse, [], patience⟩
  have turned : left.reverse ++ right.reverse ~ left ++ right :=
    (List.reverse_perm left).append (List.reverse_perm right)
  have startKind := fun item member =>
    ofKind item (turned.mem_iff.mp (start.mem_iff.mp member))
  obtain ⟨done, ends, perm⟩ :=
    Merging.exists_settled? answers startKind .back (left.length + right.length) (.single 0 0)
  refine ⟨(done.items .back).reverse, done.patience, ?_, ?_⟩
  · simp only [mergedFromBack?, ends, Option.bind_eq_bind, Option.bind_some]
    rfl
  · calc
      _ ~ done.items .back := List.reverse_perm _
      _ ~ done.all := done.items_perm .back
      _ ~ _ := perm.trans start
      _ ~ left ++ right := turned

/-- Two runs are merged into one of their items, if the second one has any. -/
theorem exists_merged?
    (patience : Nat)
    {left right : List α}
    (notEmpty : right ≠ [])
    (ofKind : ∀ item ∈ left ++ right, kind item) :
    ∃ items less, merged? below patience left right = some (items, less) ∧
      items ~ left ++ right := by
  obtain ⟨first, isFirst⟩ : ∃ first, right.head? = some first :=
    ⟨_, List.head?_eq_some_head notEmpty⟩
  have ofLeft : ∀ item ∈ left, kind item := fun item member =>
    ofKind item (List.mem_append_left _ member)
  have ofRight : ∀ item ∈ right, kind item := fun item member =>
    ofKind item (List.mem_append_right _ member)
  -- What is in its place at the front of the left run stays there.
  have front : ∀ item ∈ left, ∃ answer, (! ·) <$> below first item = some answer := by
    intro item member
    obtain ⟨answer, answered⟩ :=
      answers first item (ofRight first (List.mem_of_head? isFirst)) (ofLeft item member)
    exact ⟨!answer, by simp [answered]⟩
  obtain ⟨before, counted⟩ := RunEnd.exists_stretch? front .front
  simp only [merged?, isFirst, counted, Option.bind_eq_bind, Option.bind_some,
    List.splitAt_eq]
  cases isLast : (left.drop before).getLast? with
  | none =>
    have dropped : left.drop before = [] := List.getLast?_eq_none_iff.mp isLast
    have taken : left.take before ++ left.drop before = left := List.take_append_drop before left
    rw [dropped, List.append_nil] at taken
    exact ⟨_, _, rfl, by rw [taken]⟩
  | some last =>
    have lastKind : kind last := ofLeft last (List.mem_of_mem_drop (List.mem_of_getLast? isLast))
    have back : ∀ item ∈ right.reverse, ∃ answer,
        (! ·) <$> below item last = some answer := by
      intro item member
      obtain ⟨answer, answered⟩ :=
        answers item last (ofRight item (List.mem_reverse.mp member)) lastKind
      exact ⟨!answer, by simp [answered]⟩
    obtain ⟨behind, counted⟩ := RunEnd.exists_stretch? back .back
    simp only [counted, Option.bind_some]
    generalize right.length - behind = kept
    have whole {middle : List α} (perm : middle ~ left.drop before ++ right.take kept) :
        left.take before ++ middle ++ right.drop kept ~ left ++ right := by
      calc
        _ ~ left.take before ++ (left.drop before ++ right.take kept) ++ right.drop kept :=
          (perm.append_left _).append_right _
        _ = left ++ right := by
          rw [← List.append_assoc (left.take before), List.take_append_drop, List.append_assoc,
            List.take_append_drop]
    have middleKind : ∀ item ∈ left.drop before ++ right.take kept, kind item := by
      intro item member
      rcases List.mem_append.mp member with inLeft | inRight
      · exact ofLeft item (List.mem_of_mem_drop inLeft)
      · exact ofRight item (List.mem_of_mem_take inRight)
    split
    · rename_i nothing
      refine ⟨_, _, rfl, whole ?_⟩
      rw [List.isEmpty_iff.mp nothing, List.append_nil]
    · split
      · obtain ⟨items, less, merges, perm⟩ :=
          exists_mergedFromFront? answers patience middleKind
        simp only [merges, Option.bind_some]
        exact ⟨_, _, rfl, whole perm⟩
      · obtain ⟨items, less, merges, perm⟩ :=
          exists_mergedFromBack? answers patience middleKind
        simp only [merges, Option.bind_some]
        exact ⟨_, _, rfl, whole perm⟩

end Runs

end Sorting
end Retry
