import Retry.Proofs.Environment
import Retry.Proofs.Text.Case
import Retry.Settings.DefaultMode

/-!
# Spellings of modes

A text spells a mode by its name, in which any letters may be capitals and around which there
may be blanks.  The main statement says that these texts are exactly the ones that are read as
the mode, wherever it is read from, and that the retry mode of an environment is read from the
text that is set there.
-/

namespace Retry

namespace Text

section Trim

variable {isTrimmed : Char → Bool}

/-- What is trimmed away stands at the two ends. -/
theorem exists_append_trim
    (isTrimmed : Char → Bool)
    (chars : List Char) :
    ∃ before behind,
      chars = before ++ trim isTrimmed chars ++ behind ∧
      (∀ c ∈ before, isTrimmed c = true) ∧
      ∀ c ∈ behind, isTrimmed c = true := by
  have taken (list : List Char) : ∀ c ∈ list.takeWhile isTrimmed, isTrimmed c = true :=
    List.all_eq_true.mp List.all_takeWhile
  refine ⟨chars.takeWhile isTrimmed,
    ((chars.dropWhile isTrimmed).reverse.takeWhile isTrimmed).reverse, ?_, taken _, ?_⟩
  · rw [trim, List.append_assoc, ← List.reverse_append, List.takeWhile_append_dropWhile,
      List.reverse_reverse, List.takeWhile_append_dropWhile]
  · intro c member
    exact taken _ c (List.mem_reverse.mp member)

/-- Nothing is dropped from the front of a text without characters that are trimmed. -/
theorem dropWhile_of_none
    {chars : List Char}
    (kept : ∀ c ∈ chars, isTrimmed c = false) :
    chars.dropWhile isTrimmed = chars := by
  cases chars with
  | nil => rfl
  | cons first rest =>
    have firstKept : isTrimmed first = false := kept first List.mem_cons_self
    simp [firstKept]

/-- Blanks are trimmed from both ends of a text without blanks. -/
theorem trim_append
    {before chars behind : List Char}
    (beforeTrimmed : ∀ c ∈ before, isTrimmed c = true)
    (kept : ∀ c ∈ chars, isTrimmed c = false)
    (behindTrimmed : ∀ c ∈ behind, isTrimmed c = true) :
    trim isTrimmed (before ++ chars ++ behind) = chars := by
  have reversedKept : ∀ c ∈ chars.reverse, isTrimmed c = false := fun c member =>
    kept c (List.mem_reverse.mp member)
  have reversedTrimmed : ∀ c ∈ behind.reverse, isTrimmed c = true := fun c member =>
    behindTrimmed c (List.mem_reverse.mp member)
  rw [trim, List.append_assoc, List.dropWhile_append_of_pos beforeTrimmed]
  cases chars with
  | nil =>
    have nothing : behind.dropWhile isTrimmed = [] := by
      rw [← List.append_nil behind, List.dropWhile_append_of_pos behindTrimmed]
      rfl
    rw [List.nil_append, nothing]
    rfl
  | cons first rest =>
    have firstKept : ¬isTrimmed first = true := by simp [kept first List.mem_cons_self]
    rw [List.cons_append, List.dropWhile_cons_of_neg firstKept, ← List.cons_append,
      List.reverse_append, List.dropWhile_append_of_pos reversedTrimmed,
      dropWhile_of_none reversedKept, List.reverse_reverse]

end Trim

end Text

namespace Mode

/-- Whether a text spells a mode: by its name, any ASCII letters of which may be capitals,
with any blanks before and behind it. -/
def IsSpelledBy
    (mode : Mode)
    (text : String) : Prop :=
  ∃ before name behind,
    text.toList = before ++ name ++ behind ∧
    (∀ c ∈ before, Text.isBlank c = true) ∧
    (∀ c ∈ behind, Text.isBlank c = true) ∧
    name.map Char.toLower = mode.name.toList

variable {mode : Mode} {text : String}

theorem plain_name
    (mode : Mode) :
    ∀ c ∈ mode.name.toList, Text.IsPlain c := by
  have all : mode.name.toList.all (fun c => decide (Text.IsPlain c)) = true := by
    cases mode <;> decide
  exact fun c member => of_decide_eq_true (List.all_eq_true.mp all c member)

theorem not_blank_name
    (mode : Mode) :
    ∀ c ∈ mode.name.toList, Text.isBlank c = false := by
  have none : mode.name.toList.any Text.isBlank = false := by
    cases mode <;> decide
  simpa using none

/-- No blank is a capital. -/
theorem toLower_of_blank
    {c : Char}
    (blank : Text.isBlank c = true) :
    c.toLower = c := by
  apply Text.toLower_of_not_capital
  simp [Text.isBlank, Text.isWhiteSpace, Text.inRanges, Text.whiteSpaceRanges] at blank
  omega

/-- A text names a mode if its lower-case form without blanks around it is the name. -/
theorem ofText?_eq_some_iff :
    ofText? text = some mode ↔
      Text.lower (Text.trim Text.isBlank text.toList) = mode.name.toList := by
  constructor
  · intro found
    have same := List.find?_some found
    simpa [eq_comm] using same
  · intro same
    have all : ofText? text = Mode.all.find? fun other => other.name.toList = mode.name.toList := by
      rw [ofText?, same]
    rw [all]
    cases mode <;> decide

/-- The texts that name a mode are those that spell it. -/
theorem ofText?_eq_some_iff_isSpelledBy :
    ofText? text = some mode ↔ mode.IsSpelledBy text := by
  have reads (chars : List Char) :
      Text.lower chars = mode.name.toList ↔ chars.map Char.toLower = mode.name.toList := by
    rw [Text.lower_eq_lowerWith []]
    exact Text.lowerWith_eq_iff (fun _ _ => by decide) mode.plain_name [] chars
  rw [ofText?_eq_some_iff, reads]
  constructor
  · intro same
    obtain ⟨before, behind, parts, beforeBlank, behindBlank⟩ :=
      Text.exists_append_trim Text.isBlank text.toList
    exact ⟨before, _, behind, parts, beforeBlank, behindBlank, same⟩
  · rintro ⟨before, name, behind, parts, beforeBlank, behindBlank, same⟩
    have kept : ∀ c ∈ name, Text.isBlank c = false := by
      intro c member
      cases blank : Text.isBlank c with
      | false => rfl
      | true =>
        have inName : c ∈ mode.name.toList := by
          rw [← same, ← toLower_of_blank blank]
          exact List.mem_map_of_mem member
        rw [← blank]
        exact mode.not_blank_name c inName
    rw [parts, Text.trim_append beforeBlank kept behindBlank, same]

end Mode

namespace Environment

variable {env : Environment} {name value : String}

theorem mem_set
    (env : Environment)
    (name value : String) :
    (name, value) ∈ (env.set name value).entries := by
  rw [set]
  split
  · rename_i present
    obtain ⟨entry, member, named⟩ := List.any_eq_true.mp present
    exact List.mem_map.mpr ⟨entry, member, if_pos (eq_of_beq named)⟩
  · exact List.mem_append_right _ (List.mem_singleton_self _)

/-- Where a variable is set, no other one has its name. -/
theorem of_mem_set
    {entry : String × String}
    (member : entry ∈ (env.set name value).entries) :
    entry = (name, value) ∨ entry ∈ env.entries ∧ entry.1 ≠ name := by
  rw [set] at member
  split at member
  · obtain ⟨before, beforeMember, rfl⟩ := List.mem_map.mp member
    split
    · exact Or.inl rfl
    · rename_i other
      exact Or.inr ⟨beforeMember, other⟩
  · rename_i absent
    rcases List.mem_append.mp member with before | new
    · refine Or.inr ⟨before, ?_⟩
      intro named
      exact absent (List.any_eq_true.mpr ⟨entry, before, beq_iff_eq.mpr named⟩)
    · exact Or.inl (List.mem_singleton.mp new)

/-- A setting has the text of the variable of its name, where no other variable spells it. -/
theorem find?_set
    (alone : ∀ entry ∈ env.entries, sameName entry.1 name = true → entry.1 = name)
    (value : String) :
    (env.set name value).find? name = some value := by
  have reflexive : sameName name name = true := decide_eq_true rfl
  have spelled : (name, value) ∈ (env.set name value).spellings name :=
    List.mem_filter.mpr ⟨mem_set env name value, reflexive⟩
  have only : ∀ entry ∈ (env.set name value).spellings name, entry = (name, value) := by
    intro entry member
    obtain ⟨member, spells⟩ := List.mem_filter.mp member
    rcases of_mem_set member with same | ⟨before, other⟩
    · exact same
    · exact absurd (alone entry before spells) other
  have notEmpty : (env.set name value).spellings name ≠ [] := List.ne_nil_of_mem spelled
  rw [find?, List.getLast?_eq_some_getLast notEmpty, Option.map_some,
    only _ (List.getLast_mem notEmpty)]

theorem find?_assign
    (alone : ∀ entry ∈ env.entries, sameName entry.1 name = true → entry.1 = name)
    {changed : Environment}
    (assigns : env.assign name value = .ok changed) :
    changed.find? name = some value := by
  rw [assign] at assigns
  split at assigns
  · cases assigns
  · split at assigns
    · cases assigns
    · split at assigns
      · cases assigns
      · cases assigns
        exact find?_set alone value

end Environment

namespace Settings

variable {env : Environment} {text : String}

/-- A text is read as the mode that it spells, or refused with itself as the reason. -/
theorem mapError_readMode
    (text : String) :
    (∀ mode, (readMode text).mapError Fault.setting = .ok mode ↔ mode.IsSpelledBy text) ∧
      ∀ fault, (readMode text).mapError Fault.setting = .error fault ↔
        fault = .setting (.unknownMode text) ∧ Mode.ofText? text = none := by
  cases found : Mode.ofText? text with
  | none =>
    have refused : (readMode text).mapError Fault.setting =
        .error (.setting (.unknownMode text)) := by
      rw [readMode, found]
      rfl
    rw [refused]
    constructor
    · intro mode
      simp [← Mode.ofText?_eq_some_iff_isSpelledBy, found]
    · intro fault
      simp [eq_comm]
  | some spelled =>
    have reads : (readMode text).mapError Fault.setting = .ok spelled := by
      rw [readMode, found]
      rfl
    rw [reads]
    constructor
    · intro mode
      simp [← Mode.ofText?_eq_some_iff_isSpelledBy, found]
    · intro fault
      simp

/-- The retry mode of an environment is read from the text that it has there. -/
theorem modeOr_of_find?
    (found : env.find? modeName = some text) :
    modeOr ⟨[]⟩ env = (readMode text).mapError .setting := by
  rw [modeOr_nil, Settings.mode, found]

/-- Without a variable that spells the name of the setting, the retry mode is the one of the
setting that is unset. -/
theorem modeOr_of_unset
    (unset : env.spellings modeName = []) :
    modeOr ⟨[]⟩ env = .ok .legacy := by
  have notFound : env.find? modeName = none := by
    rw [Environment.find?, unset]
    rfl
  rw [modeOr_nil, Settings.mode, notFound]
  rfl

end Settings

namespace Mode

/-- A text is read as a mode exactly where it spells the mode, so every text is read as at
most one mode, and one that spells none is refused.  No texts other than the names of modes
with some capitals of ASCII have such a name as their lower-case form, whichever form their
sigmas take.  An environment that has the text under the name of the setting is read by the
same rule, and has the mode of unset settings where nothing is set. -/
theorem reads_exactly_spellings
    (text : String) :
    (∀ mode, ofText? text = some mode ↔ mode.IsSpelledBy text) ∧
      (ofText? text = none ↔ ∀ mode : Mode, ¬mode.IsSpelledBy text) ∧
      (∀ mode other : Mode, mode.IsSpelledBy text → other.IsSpelledBy text → mode = other) ∧
      (∀ mode : Mode, Text.lower text.toList = mode.name.toList ↔
        text.toList.map Char.toLower = mode.name.toList) ∧
      (∀ form : List Char → List Char → Char,
        (∀ before behind, form before behind ∈ Text.smallSigmas) →
        ∀ mode : Mode, Text.lowerWith form [] text.toList = mode.name.toList ↔
          text.toList.map Char.toLower = mode.name.toList) ∧
      (∀ env : Environment, env.find? Settings.modeName = some text →
        (∀ mode, Settings.modeOr ⟨[]⟩ env = .ok mode ↔ mode.IsSpelledBy text) ∧
        ∀ fault, Settings.modeOr ⟨[]⟩ env = .error fault ↔
          fault = .setting (.unknownMode text) ∧ ofText? text = none) ∧
      (∀ env changed : Environment,
        (∀ entry ∈ env.entries,
          Environment.sameName entry.1 Settings.modeName = true → entry.1 = Settings.modeName) →
        env.assign Settings.modeName text = .ok changed →
        (∀ mode, Settings.modeOr ⟨[]⟩ changed = .ok mode ↔ mode.IsSpelledBy text) ∧
        ∀ fault, Settings.modeOr ⟨[]⟩ changed = .error fault ↔
          fault = .setting (.unknownMode text) ∧ ofText? text = none) ∧
      ∀ env : Environment, env.spellings Settings.modeName = [] →
        Settings.modeOr ⟨[]⟩ env = .ok .legacy := by
  have spelled (mode : Mode) : ofText? text = some mode ↔ mode.IsSpelledBy text :=
    ofText?_eq_some_iff_isSpelledBy
  have lowers : ∀ form : List Char → List Char → Char,
      (∀ before behind, form before behind ∈ Text.smallSigmas) →
      ∀ mode : Mode, Text.lowerWith form [] text.toList = mode.name.toList ↔
        text.toList.map Char.toLower = mode.name.toList := by
    intro form forms mode
    exact Text.lowerWith_eq_iff forms mode.plain_name [] text.toList
  have reads : ∀ env : Environment, env.find? Settings.modeName = some text →
      (∀ mode, Settings.modeOr ⟨[]⟩ env = .ok mode ↔ mode.IsSpelledBy text) ∧
      ∀ fault, Settings.modeOr ⟨[]⟩ env = .error fault ↔
        fault = .setting (.unknownMode text) ∧ ofText? text = none := by
    intro env found
    rw [Settings.modeOr_of_find? found]
    exact Settings.mapError_readMode text
  refine ⟨spelled, ?_, ?_, ?_, lowers, reads, ?_, fun env => Settings.modeOr_of_unset⟩
  · simp [← spelled, Option.eq_none_iff_forall_ne_some]
  · intro mode other spells otherSpells
    have same : some mode = some other :=
      ((spelled mode).mpr spells).symm.trans ((spelled other).mpr otherSpells)
    exact Option.some.inj same
  · intro mode
    rw [Text.lower_eq_lowerWith []]
    exact lowers _ (fun _ _ => by decide) mode
  · intro env changed alone assigns
    exact reads changed (Environment.find?_assign alone assigns)

/-- The name of a mode in mixed case, between blanks of several kinds. -/
theorem reads_spelling_between_blanks :
    Mode.adaptiveV2.IsSpelledBy " \u3000Adaptive_V2\n" ∧
      ∃ changed, Environment.empty.assign Settings.modeName " \u3000Adaptive_V2\n" =
          .ok changed ∧
        Settings.modeOr ⟨[]⟩ changed = .ok .adaptiveV2 := by
  obtain ⟨_, _, _, _, _, _, assigned, _⟩ := reads_exactly_spellings " \u3000Adaptive_V2\n"
  have spells : Mode.adaptiveV2.IsSpelledBy " \u3000Adaptive_V2\n" :=
    ⟨[' ', '\u3000'], "Adaptive_V2".toList, ['\n'], by decide,
      List.all_eq_true.mp (by decide), List.all_eq_true.mp (by decide), by decide⟩
  have assigns : Environment.empty.assign Settings.modeName " \u3000Adaptive_V2\n" =
      .ok (Environment.empty.set Settings.modeName " \u3000Adaptive_V2\n") := by
    simp [Environment.assign, Settings.modeName]
  exact ⟨spells, _, assigns, ((assigned .empty _ nofun assigns).1 .adaptiveV2).mpr spells⟩

end Mode

end Retry
