import Retry.Proofs.Environment
import Retry.Proofs.Selection

/-!
# What reads which setting

Of the two settings, configuration, the strategies of the variants, policies and the
retriers of modes read the attempts only, and the mode that a client falls back on is read
from the mode setting only.  So variables of either name, whatever they hold, do not
disturb what the other one decides.
-/

namespace Retry

namespace Settings

/-- The settings differ in more than case. -/
theorem attempts_apart_mode :
    Environment.sameName attemptsName modeName = false := by
  decide +kernel

theorem mode_apart_attempts :
    Environment.sameName modeName attemptsName = false := by
  decide +kernel

variable {left right : Environment}

/-- The budget is the same in environments in which the same spelling of the attempts comes
last. -/
theorem attempts_eq_of_sameLast
    (last : left.SameLast attemptsName right) :
    attempts left = attempts right := by
  rw [attempts, attempts, last.find?_eq]

/-- The mode is the same in environments in which the same spelling of the mode comes
last. -/
theorem mode_eq_of_sameLast
    (last : left.SameLast modeName right) :
    mode left = mode right := by
  rw [mode, mode, last.find?_eq]

end Settings

variable {left right : Environment}

/-- A budget is applied to a builder alike in environments that set the same one. -/
theorem Configuration.configure_eq_of_attempts
    {β : Type}
    [AcceptsCalls β]
    (same : Settings.attempts left = Settings.attempts right)
    (builder : β) :
    configure left builder = configure right builder := by
  have applied : applyOverride (β := β) left = applyOverride right := by
    funext builder
    rw [applyOverride, applyOverride, same]
  rw [configure, configure, applied]

/-- The strategy of a variant is selected alike in environments that set the same
budget. -/
theorem Variant.select_eq_of_attempts
    (same : Settings.attempts left = Settings.attempts right)
    (variant : Variant) :
    variant.select left = variant.select right := by
  have configured : variant.configured left = variant.configured right :=
    Configuration.configure_eq_of_attempts same (Builder.fresh variant)
  rw [select, select, configured]

/-- The policy of a value is made alike in environments that set the same budget. -/
theorem Policy.forValue_eq_of_attempts
    (same : Settings.attempts left = Settings.attempts right)
    (value : Value) :
    forValue left value = forValue right value := by
  cases value with
  | mode mode => rw [forValue, forValue, forMode, forMode, same]
  | _ => simp only [forValue, same]

/-- The retrier of a value is selected alike in environments that set the same
budget. -/
theorem Retrier.forValue_eq_of_attempts
    (same : Settings.attempts left = Settings.attempts right)
    (value : Value) :
    forValue left value = forValue right value := by
  cases value with
  | mode mode =>
    have made : make left mode = make right mode := by
      unfold make
      cases mode.variant? with
      | some variant => simp only [Variant.select_eq_of_attempts same variant]
      | none =>
        have policy : Policy.forMode left mode = Policy.forMode right mode :=
          Policy.forValue_eq_of_attempts same (.mode mode)
        simp only [policy]
    rw [forValue, forValue, forMode, forMode, made]
  | _ => rfl

namespace Environment

/-- The two settings do not interfere.  Environments in which the same spelling of the
attempts comes last, whatever else they hold, configure every builder alike and select the
same strategy of every variant, the same policy and the same retrier of every value, or fail
alike.  Environments in which the same spelling of the mode comes last set the same one.  In
every environment a client that picks no mode is served by the retrier of the mode that is
set, and is told of a mode that cannot be read before the attempts are looked at. -/
theorem settings_do_not_interfere
    (left right : Environment) :
    (SameLast Settings.attemptsName left right →
      (∀ {β : Type} [AcceptsCalls β] (builder : β),
        Configuration.configure left builder = Configuration.configure right builder) ∧
      (∀ variant : Variant,
        variant.configured left = variant.configured right ∧
        variant.select left = variant.select right) ∧
      (∀ value, Policy.forValue left value = Policy.forValue right value) ∧
      ∀ value, Retrier.forValue left value = Retrier.forValue right value) ∧
    (SameLast Settings.modeName left right → Settings.mode left = Settings.mode right) ∧
    ∀ env : Environment,
      (∀ mode, Settings.mode env = .ok mode → Retrier.default env = Retrier.forMode env mode) ∧
      ∀ error, Settings.mode env = .error error →
        Retrier.default env = ⟨[], .error (.setting error)⟩ := by
  refine ⟨?attempts, Settings.mode_eq_of_sameLast, ?default⟩
  case attempts =>
    intro last
    have same : Settings.attempts left = Settings.attempts right :=
      Settings.attempts_eq_of_sameLast last
    refine ⟨fun builder => Configuration.configure_eq_of_attempts same builder,
      fun variant => ⟨?_, Variant.select_eq_of_attempts same variant⟩,
      Policy.forValue_eq_of_attempts same, Retrier.forValue_eq_of_attempts same⟩
    exact Configuration.configure_eq_of_attempts same (Builder.fresh variant)
  case default =>
    intro env
    constructor
    · intro mode read
      rw [Retrier.default, read]
    · intro error unreadable
      rw [Retrier.default, unreadable]

/-- Two spellings of the attempts, the first of which is no budget. -/
def twiceAttempted : Environment :=
  ⟨[(Settings.attemptsName, "0"), ("sdk_max_attempts", "5")]⟩

/-- A mode that there is not disturbs no retrier of a mode that a client picks, and is what a
client is told of that picks none, also where the attempts cannot be read either. -/
theorem unknown_mode_does_not_interfere :
    Retrier.forValue twiceAttempted (.mode .standard) =
        Retrier.forValue (twiceAttempted.set Settings.modeName "turbo") (.mode .standard) ∧
      Settings.mode twiceAttempted =
        Settings.mode (twiceAttempted.set "SDK_MAX_attempts" "none") ∧
      Retrier.default
          ((twiceAttempted.set "SDK_MAX_attempts" "none").set Settings.modeName "turbo") =
        ⟨[], .error (.setting (.unknownMode "turbo"))⟩ := by
  have attempted :
      SameLast Settings.attemptsName twiceAttempted
        (twiceAttempted.set Settings.modeName "turbo") :=
    (sameLast_of_spelling Settings.mode_apart_attempts (by decide +kernel) "turbo").1
  have moded :
      SameLast Settings.modeName twiceAttempted
        (twiceAttempted.set "SDK_MAX_attempts" "none") :=
    (sameLast_of_spelling Settings.attempts_apart_mode (by decide +kernel) "none").1
  refine ⟨?_, ?_, ?_⟩
  · exact ((settings_do_not_interfere _ _).1 attempted).2.2.2 (.mode .standard)
  · exact (settings_do_not_interfere _ _).2.1 moded
  · refine ((settings_do_not_interfere twiceAttempted twiceAttempted).2.2 _).2 _ ?_
    rfl

/-- The same two spellings of the attempts, in the other order. -/
def attemptedTwice : Environment :=
  ⟨[("sdk_max_attempts", "5"), (Settings.attemptsName, "0")]⟩

/-- Environments that agree on the attempts can select apart, where they hold several
spellings of them in different orders. -/
theorem agreeing_select_apart :
    Agree Settings.attemptsName twiceAttempted attemptedTwice ∧
      (∃ retrier, (Retrier.forMode twiceAttempted .standard).outcome = .ok retrier ∧
        retrier.plan.maxAttempts = .int 5) ∧
      (Retrier.forMode attemptedTwice .standard).outcome = .error (.setting .belowOne) := by
  have spelled : twiceAttempted.spellings Settings.attemptsName = twiceAttempted.entries := by
    decide +kernel
  have spelledToo : attemptedTwice.spellings Settings.attemptsName = attemptedTwice.entries := by
    decide +kernel
  refine ⟨?_, ?_, rfl⟩
  · intro entry
    rw [spelled, spelledToo]
    exact (List.Perm.swap ..).mem_iff
  · have read : Settings.attempts twiceAttempted = .ok (some 5) := rfl
    obtain ⟨retrier, selected, plan⟩ := Mode.standard.retrier_of_ok read
    refine ⟨retrier, selected, ?_⟩
    rw [plan]
    rfl

end Environment
end Retry
