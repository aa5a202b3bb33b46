import Retry.Proofs.Sorting.Merge
import Retry.Sorting.Sorted

/-!
# What sorting comes to

Sorting asks of two items at a time which of them comes first.  The main statement says that
a list is sorted wherever these questions have answers about its items, whatever the answers
are, and that the result holds the items of the list, each as often as it did.
-/

namespace Retry
namespace Sorting

open scoped List

variable {α : Type} {below : Comparison α} {kind : α → Prop}

section Runs

variable (answers : Answers below kind)

include answers

theorem exists_splitRun?
    (descending : Bool)
    {previous : α}
    {items : List α}
    (previousKind : kind previous)
    (ofKind : ∀ item ∈ items, kind item) :
    ∃ run rest, splitRun? below descending previous items = some (run, rest) ∧
      run ++ rest = items := by
  induction items generalizing previous with
  | nil => exact ⟨[], [], rfl, rfl⟩
  | cons first others inductionHypothesis =>
    obtain ⟨firstKind, othersKind⟩ := List.forall_mem_cons.mp ofKind
    obtain ⟨answer, answered⟩ := answers first previous firstKind previousKind
    simp only [splitRun?, answered, Option.bind_eq_bind, Option.bind_some]
    split
    · obtain ⟨run, rest, splits, parts⟩ := inductionHypothesis firstKind othersKind
      simp only [splits, Option.bind_some]
      exact ⟨_, _, rfl, congrArg (first :: ·) parts⟩
    · exact ⟨_, _, rfl, rfl⟩

/-- A list that has items begins with a run that has some. -/
theorem exists_firstRun?
    {items : List α}
    (notEmpty : items ≠ [])
    (ofKind : ∀ item ∈ items, kind item) :
    ∃ run rest, firstRun? below items = some (run, rest) ∧ run ≠ [] ∧ run ++ rest ~ items := by
  match items with
  | [] => exact absurd rfl notEmpty
  | [first] => exact ⟨_, _, rfl, notEmpty, .refl _⟩
  | first :: second :: others =>
    obtain ⟨firstKind, laterKind⟩ := List.forall_mem_cons.mp ofKind
    obtain ⟨answer, answered⟩ :=
      answers second first (laterKind second List.mem_cons_self) firstKind
    obtain ⟨run, rest, splits, parts⟩ := exists_splitRun? answers answer firstKind laterKind
    simp only [firstRun?, answered, splits, Option.bind_eq_bind, Option.bind_some]
    refine ⟨_, _, rfl, ?_, ?_⟩
    · cases answer <;> simp
    · rw [← parts]
      cases answer with
      | true => exact (List.reverse_perm (first :: run)).append_right rest
      | false => exact .refl _

theorem exists_position?
    {item : α}
    {sorted : List α}
    (itemKind : kind item)
    (ofKind : ∀ other ∈ sorted, kind other)
    (low high : Nat)
    (bound : high ≤ sorted.length) :
    ∃ place, position? below item sorted low high = some place := by
  rw [position?]
  split
  · have inside : (low + high) / 2 < sorted.length := by omega
    obtain ⟨answer, answered⟩ := answers item _ itemKind (ofKind _ (List.getElem_mem inside))
    simp only [List.getElem?_eq_getElem inside, answered, Option.bind_eq_bind, Option.bind_some]
    cases answer with
    | true => exact exists_position? itemKind ofKind low _ (Nat.le_of_lt inside)
    | false =>
      rw [if_neg Bool.false_ne_true]
      exact exists_position? itemKind ofKind _ high bound
  · exact ⟨low, rfl⟩
termination_by high - low

theorem exists_placed?
    {item : α}
    {sorted : List α}
    (itemKind : kind item)
    (ofKind : ∀ other ∈ sorted, kind other) :
    ∃ more, placed? below sorted item = some more ∧ more ~ item :: sorted := by
  obtain ⟨place, found⟩ :=
    exists_position? answers itemKind ofKind 0 sorted.length (Nat.le_refl _)
  simp only [placed?, found, Option.bind_eq_bind, Option.bind_some]
  refine ⟨_, rfl, ?_⟩
  rw [List.perm_middle.congr_left, List.take_append_drop]

/-- Items that are placed one after another join those that are sorted. -/
theorem exists_foldlM_placed?
    {items sorted : List α}
    (ofKind : ∀ item ∈ items, kind item)
    (sortedKind : ∀ item ∈ sorted, kind item) :
    ∃ more, items.foldlM (placed? below) sorted = some more ∧ more ~ sorted ++ items := by
  induction items generalizing sorted with
  | nil => exact ⟨sorted, rfl, by simp⟩
  | cons first others inductionHypothesis =>
    obtain ⟨firstKind, othersKind⟩ := List.forall_mem_cons.mp ofKind
    obtain ⟨next, places, nextPerm⟩ := exists_placed? answers firstKind sortedKind
    have nextKind : ∀ item ∈ next, kind item := by
      intro item member
      rcases List.mem_cons.mp (nextPerm.mem_iff.mp member) with rfl | before
      · exact firstKind
      · exact sortedKind item before
    obtain ⟨more, placesOthers, morePerm⟩ := inductionHypothesis othersKind nextKind
    refine ⟨more, ?_, ?_⟩
    · simp only [List.foldlM_cons, places, Option.bind_eq_bind, Option.bind_some, placesOthers]
    · calc
        _ ~ next ++ others := morePerm
        _ ~ first :: sorted ++ others := nextPerm.append_right others
        _ ~ sorted ++ first :: others := List.perm_middle.symm

/-- A run that is brought to a length has its items and some of the rest. -/
theorem exists_extended?
    (least : Nat)
    {run rest : List α}
    (runKind : ∀ item ∈ run, kind item)
    (restKind : ∀ item ∈ rest, kind item) :
    ∃ longer others, extended? below least run rest = some (longer, others) ∧
      run.length ≤ longer.length ∧ longer ++ others ~ run ++ rest := by
  obtain ⟨longer, places, perm⟩ := exists_foldlM_placed? answers
    (fun item member => restKind item (List.mem_of_mem_take (i := least - run.length) member))
    runKind
  refine ⟨longer, rest.drop (least - run.length), ?_, ?_, ?_⟩
  · simp only [extended?, places, Option.bind_eq_bind, Option.bind_some, Option.pure_def]
  · rw [perm.length_eq, List.length_append]
    omega
  · calc
      _ ~ run ++ rest.take (least - run.length) ++ rest.drop (least - run.length) :=
        perm.append_right _
      _ = run ++ rest := by rw [List.append_assoc, List.take_append_drop]

/-- A list is cut into runs that have items, if there are steps enough. -/
theorem exists_runs?
    (least : Nat)
    {steps : Nat}
    {items : List α}
    (enough : items.length ≤ steps)
    (ofKind : ∀ item ∈ items, kind item) :
    ∃ found, runs? below least steps items = some found ∧ (∀ run ∈ found, run ≠ []) ∧
      found.flatten ~ items := by
  induction steps generalizing items with
  | zero =>
    have nothing : items = [] := List.length_eq_zero_iff.mp (Nat.le_zero.mp enough)
    exact ⟨[], rfl, nofun, by simp [nothing]⟩
  | succ steps inductionHypothesis =>
    rw [runs?]
    split
    · rename_i nothing
      exact ⟨[], rfl, nofun, by simp [List.isEmpty_iff.mp nothing]⟩
    · rename_i something
      have notEmpty : items ≠ [] := by simpa using something
      obtain ⟨run, rest, begins, runNotEmpty, parts⟩ := exists_firstRun? answers notEmpty ofKind
      obtain ⟨runKind, restKind⟩ := List.forall_mem_append.mp fun item member =>
        ofKind item (parts.mem_iff.mp member)
      obtain ⟨longer, others, extends_, atLeast, longerParts⟩ :=
        exists_extended? answers least runKind restKind
      have perm : longer ++ others ~ items := longerParts.trans parts
      have positive : 0 < longer.length :=
        Nat.lt_of_lt_of_le (List.length_pos_iff.mpr runNotEmpty) atLeast
      have shorter : others.length ≤ steps := by
        have whole := perm.length_eq
        rw [List.length_append] at whole
        omega
      obtain ⟨found, cuts, foundNotEmpty, foundPerm⟩ := inductionHypothesis shorter
        fun item member => ofKind item (perm.mem_iff.mp (List.mem_append_right _ member))
      refine ⟨longer :: found, ?_, ?_, ?_⟩
      · simp only [begins, extends_, cuts, Option.bind_eq_bind, Option.bind_some, Option.pure_def]
      · exact List.forall_mem_cons.mpr ⟨List.length_pos_iff.mp positive, foundNotEmpty⟩
      · rw [List.flatten_cons]
        exact (foundPerm.append_left longer).trans perm

end Runs

namespace Stack

/-- Whether runs that wait have come from others: all of them have items, and together those
of the others. -/
structure Keeps (before after : List (Waiting α)) : Prop where
  notEmpty : ∀ run ∈ after, run.items ≠ []
  perm : after.flatMap Waiting.items ~ before.flatMap Waiting.items

variable {waiting : List (Waiting α)}

theorem Keeps.trans
    {middle after : List (Waiting α)}
    (first : Keeps waiting middle)
    (second : Keeps middle after) :
    Keeps waiting after :=
  ⟨second.notEmpty, second.perm.trans first.perm⟩

theorem Keeps.ofKind
    {after : List (Waiting α)}
    (keeps : Keeps waiting after)
    (ofKind : ∀ item ∈ waiting.flatMap Waiting.items, kind item) :
    ∀ item ∈ after.flatMap Waiting.items, kind item :=
  fun item member => ofKind item (keeps.perm.mem_iff.mp member)

section Closing

variable (answers : Answers below kind)

include answers

/-- Two runs that wait are merged into one. -/
theorem exists_merged_items?
    (patience : Nat)
    {top second : Waiting α}
    {rest : List (Waiting α)}
    (notEmpty : ∀ run ∈ top :: second :: rest, run.items ≠ [])
    (ofKind : ∀ item ∈ (top :: second :: rest).flatMap Waiting.items, kind item) :
    ∃ items less, merged? below patience second.items top.items = some (items, less) ∧
      ∀ power, Keeps (top :: second :: rest) (⟨items, power⟩ :: rest) := by
  have topNotEmpty : top.items ≠ [] := notEmpty top List.mem_cons_self
  have pairKind : ∀ item ∈ second.items ++ top.items, kind item := by
    intro item member
    refine ofKind item ?_
    simp only [List.flatMap_cons, List.mem_append] at member ⊢
    grind
  obtain ⟨items, less, merges, perm⟩ := exists_merged? answers patience topNotEmpty pairKind
  refine ⟨items, less, merges, fun power => ⟨?_, ?_⟩⟩
  · rw [List.forall_mem_cons]
    refine ⟨?_, fun run member => notEmpty run (by simp [member])⟩
    rintro rfl
    exact topNotEmpty (List.append_eq_nil_iff.mp perm.nil_eq.symm).2
  · simp only [List.flatMap_cons, ← List.append_assoc]
    exact (perm.trans List.perm_append_comm).append_right _

theorem exists_closeAbove?
    (power patience : Nat)
    {waiting : List (Waiting α)}
    (notEmpty : ∀ run ∈ waiting, run.items ≠ [])
    (ofKind : ∀ item ∈ waiting.flatMap Waiting.items, kind item) :
    ∃ stack, closeAbove? below power patience waiting = some stack ∧
      Keeps waiting stack.waiting := by
  match waiting with
  | [] => exact ⟨_, by rw [closeAbove?], notEmpty, .refl _⟩
  | [top] =>
    refine ⟨_, by rw [closeAbove?], ?_, .refl _⟩
    simpa using notEmpty
  | top :: second :: rest =>
    rw [closeAbove?]
    split
    · refine ⟨_, rfl, ?_, .refl _⟩
      simpa using notEmpty
    · obtain ⟨items, less, merges, keeps⟩ :=
        exists_merged_items? answers patience notEmpty ofKind
      have next := keeps second.power
      obtain ⟨stack, closes, later⟩ :=
        exists_closeAbove? power less next.notEmpty (next.ofKind ofKind)
      simp only [merges, closes, Option.bind_eq_bind, Option.bind_some]
      exact ⟨stack, rfl, next.trans later⟩
termination_by waiting.length

/-- One more run waits, once others have been merged. -/
theorem exists_push?
    (whole : Nat)
    {stack : Stack α}
    {run : List α}
    (notEmpty : ∀ waiting ∈ stack.waiting, waiting.items ≠ [])
    (ofKind : ∀ item ∈ stack.waiting.flatMap Waiting.items, kind item)
    (runNotEmpty : run ≠ []) :
    ∃ next, push? below whole stack run = some next ∧
      Keeps (⟨run, 0⟩ :: stack.waiting) next.waiting := by
  have joined {after : List (Waiting α)} (keeps : Keeps stack.waiting after) :
      Keeps (⟨run, 0⟩ :: stack.waiting) (⟨run, 0⟩ :: after) :=
    ⟨List.forall_mem_cons.mpr ⟨runNotEmpty, keeps.notEmpty⟩, keeps.perm.append_left run⟩
  obtain ⟨waiting, patience⟩ := stack
  cases waiting with
  | nil => exact ⟨_, rfl, joined ⟨nofun, .refl _⟩⟩
  | cons top rest =>
    obtain ⟨closed, closes, keeps⟩ := exists_closeAbove? answers
      (cutPower (rest.flatMap Waiting.items).length top.items.length run.length whole) patience
      notEmpty ofKind
    simp only [push?, closes, Option.bind_eq_bind, Option.bind_some]
    exact ⟨_, rfl, joined keeps⟩

theorem exists_foldlM_push?
    (whole : Nat)
    {stack : Stack α}
    {found : List (List α)}
    (notEmpty : ∀ waiting ∈ stack.waiting, waiting.items ≠ [])
    (foundNotEmpty : ∀ run ∈ found, run ≠ [])
    (ofKind : ∀ item ∈ found.flatten ++ stack.waiting.flatMap Waiting.items, kind item) :
    ∃ last, found.foldlM (push? below whole) stack = some last ∧
      (∀ waiting ∈ last.waiting, waiting.items ≠ []) ∧
      last.waiting.flatMap Waiting.items ~
        found.flatten ++ stack.waiting.flatMap Waiting.items := by
  induction found generalizing stack with
  | nil => exact ⟨stack, rfl, notEmpty, .refl _⟩
  | cons run rest inductionHypothesis =>
    obtain ⟨runNotEmpty, restNotEmpty⟩ := List.forall_mem_cons.mp foundNotEmpty
    obtain ⟨next, pushes, keeps⟩ := exists_push? answers whole notEmpty
      (fun item member => ofKind item (List.mem_append_right _ member)) runNotEmpty
    have perm : rest.flatten ++ next.waiting.flatMap Waiting.items ~
        (run :: rest).flatten ++ stack.waiting.flatMap Waiting.items := by
      calc
        _ ~ rest.flatten ++ (run ++ stack.waiting.flatMap Waiting.items) :=
          keeps.perm.append_left _
        _ ~ (run ++ stack.waiting.flatMap Waiting.items) ++ rest.flatten :=
          List.perm_append_comm
        _ ~ run ++ (rest.flatten ++ stack.waiting.flatMap Waiting.items) := by
          rw [List.append_assoc]
          exact List.perm_append_comm.append_left run
        _ = _ := by rw [List.flatten_cons, List.append_assoc]
    obtain ⟨last, pushesRest, lastNotEmpty, lastPerm⟩ :=
      inductionHypothesis keeps.notEmpty restNotEmpty fun item member =>
        ofKind item (perm.mem_iff.mp member)
    refine ⟨last, ?_, lastNotEmpty, lastPerm.trans perm⟩
    simp only [List.foldlM_cons, pushes, Option.bind_eq_bind, Option.bind_some, pushesRest]

theorem exists_close?
    (patience : Nat)
    {waiting : List (Waiting α)}
    (notEmpty : ∀ run ∈ waiting, run.items ≠ [])
    (ofKind : ∀ item ∈ waiting.flatMap Waiting.items, kind item) :
    ∃ items, close? below patience waiting = some items ∧
      items ~ waiting.flatMap Waiting.items := by
  match waiting with
  | [] => exact ⟨[], by rw [close?], .refl _⟩
  | [top] => exact ⟨top.items, by rw [close?], by simp⟩
  | [top, second] =>
    obtain ⟨items, less, merges, keeps⟩ := exists_merged_items? answers patience notEmpty ofKind
    refine ⟨items, by rw [close?, merges]; rfl, ?_⟩
    simpa using (keeps 0).perm
  | top :: second :: third :: rest =>
    rw [close?]
    split
    · obtain ⟨topNotEmpty, laterNotEmpty⟩ := List.forall_mem_cons.mp notEmpty
      have laterKind : ∀ item ∈ (second :: third :: rest).flatMap Waiting.items, kind item :=
        fun item member => ofKind item (List.mem_append_right top.items member)
      obtain ⟨items, less, merges, keeps⟩ :=
        exists_merged_items? answers patience laterNotEmpty laterKind
      have next : Keeps (top :: second :: third :: rest) (top :: ⟨items, 0⟩ :: rest) :=
        ⟨List.forall_mem_cons.mpr ⟨topNotEmpty, (keeps 0).notEmpty⟩,
          (keeps 0).perm.append_left top.items⟩
      obtain ⟨sorted, closes, perm⟩ :=
        exists_close? less next.notEmpty (next.ofKind ofKind)
      simp only [merges, closes, Option.bind_eq_bind, Option.bind_some]
      exact ⟨sorted, rfl, perm.trans next.perm⟩
    · obtain ⟨items, less, merges, keeps⟩ :=
        exists_merged_items? answers patience notEmpty ofKind
      have next := keeps 0
      obtain ⟨sorted, closes, perm⟩ :=
        exists_close? less next.notEmpty (next.ofKind ofKind)
      simp only [merges, closes, Option.bind_eq_bind, Option.bind_some]
      exact ⟨sorted, rfl, perm.trans next.perm⟩
termination_by waiting.length

end Closing

end Stack

/-- A list is sorted where the comparison has an answer about every two of its items, and
the result holds the same items. -/
theorem exists_sorted?
    (answers : Answers below kind)
    {items : List α}
    (ofKind : ∀ item ∈ items, kind item) :
    ∃ sorted, sorted? below items = some sorted ∧ sorted ~ items := by
  obtain ⟨found, cuts, notEmpty, perm⟩ :=
    exists_runs? answers (leastRun items.length) (Nat.le_refl _) ofKind
  have startNotEmpty : ∀ waiting ∈ (Stack.empty : Stack α).waiting, waiting.items ≠ [] := nofun
  obtain ⟨last, pushes, lastNotEmpty, lastPerm⟩ :=
    Stack.exists_foldlM_push? answers items.length startNotEmpty notEmpty
      (by simpa [Stack.empty] using fun item member => ofKind item (perm.mem_iff.mp member))
  have whole : last.waiting.flatMap Waiting.items ~ items := by
    simpa [Stack.empty] using lastPerm.trans (perm.append_right _)
  obtain ⟨sorted, closes, sortedPerm⟩ :=
    Stack.exists_close? answers last.patience lastNotEmpty fun item member =>
      ofKind item (whole.mem_iff.mp member)
  refine ⟨sorted, ?_, sortedPerm.trans whole⟩
  simp only [sorted?, cuts, pushes, closes, Option.bind_eq_bind, Option.bind_some]

end Sorting
end Retry
