import Fleet.Command.Launch
import Fleet.Proofs.Log.Overrides

/-!
# The logging configuration of a launch

Four layers say how a launch logs: its options, three variables, the settings and the defaults. Only
a variable can be at fault. Each field is what the highest layer says that says anything about it;
of the options a level is higher than the wish for many records, and the wish for none is kept apart
from all levels. A filter in the environment speaks for the levels of modules as well.
-/
namespace Fleet.Invocation
open Log

/-- The logging part of settings. Settings that could not be loaded count as the standard ones. -/
def loggingOf : Except SettingsFault Settings → Log.Config
  | .ok settings => settings.logging
  | .error _ => .standard

/-- Each field of a configuration is what the highest layer says about it. -/
structure Effective (invocation : Invocation) (env : Environment)
    (settings config : Log.Config) : Prop where
  enabled : config.enabled = (settings.enabled && !invocation.quiet)
  level : config.level =
    ((invocation.logLevel.or (if invocation.verbose then some "debug" else none)).or
      (env.get? filterVariable)).getD settings.level
  format : config.format =
    (invocation.logFormat.or (env.get? formatVariable)).getD settings.format
  output : config.output =
    (invocation.logOutput.or (env.get? outputVariable)).getD settings.output
  file : config.file = invocation.logFile.or settings.file
  color : config.color = settings.color
  modules : config.modules =
    if (env.get? filterVariable).isSome then HashMap.empty else settings.modules

/-- What a launch comes to when it settles how to log. -/
structure Settles (grammar : Grammar) (invocation : Invocation) (env : Environment)
    (settings : Log.Config) (settled : Except ChoiceFault Log.Config) : Prop where
  fails : ∀ fault, settled = .error fault ↔ Override.RefusesFirst grammar env fault
  succeeds : ∀ config, settled = .ok config ↔
    (∀ override ∈ Override.all, Override.Admits grammar env override) ∧
      invocation.Effective env settings config

variable {grammar : Grammar} {host : Host} {env : Environment} {invocation : Invocation}
  {settings config other : Log.Config}

theorem Effective.unique (h : invocation.Effective env settings config)
    (hOther : invocation.Effective env settings other) : config = other := by
  cases config
  cases other
  rw [Config.mk.injEq]
  exact ⟨h.enabled.trans hOther.enabled.symm, h.level.trans hOther.level.symm,
    h.format.trans hOther.format.symm, h.output.trans hOther.output.symm,
    h.file.trans hOther.file.symm, h.color.trans hOther.color.symm,
    h.modules.trans hOther.modules.symm⟩

/-- The options over the variables over the settings. -/
theorem effective_overrideLogging (invocation : Invocation) (env : Environment)
    (settings : Log.Config) : invocation.Effective env settings
      (invocation.overrideLogging (Override.all.foldl (Override.take env) settings)) := by
  rw [Override.takeAll_eq]
  refine ⟨rfl, ?_, ?_, ?_, rfl, rfl, rfl⟩
  · simp only [overrideLogging]
    cases invocation.logLevel <;> cases invocation.verbose <;> rfl
  · simp only [overrideLogging]
    cases invocation.logFormat <;> rfl
  · simp only [overrideLogging]
    cases invocation.logOutput <;> rfl

theorem logging_eq (grammar : Grammar) (host : Host) (env : Environment)
    (invocation : Invocation) :
    invocation.logging grammar host env =
      match (loggingOf (invocation.loadSettings host env)).applyOverrides grammar env with
      | (_, some fault) => .error fault
      | (config, none) => .ok (invocation.overrideLogging config) := by
  unfold logging loggingOf
  cases invocation.loadSettings host env <;> rfl

theorem logging_of_admits (h : ∀ override ∈ Override.all, Override.Admits grammar env override) :
    invocation.logging grammar host env = .ok (invocation.overrideLogging (Override.all.foldl
      (Override.take env) (loggingOf (invocation.loadSettings host env)))) := by
  rw [logging_eq, Override.applyOverrides_of_admits h]

theorem logging_eq_error_iff {fault : ChoiceFault} :
    invocation.logging grammar host env = .error fault ↔
      Override.RefusesFirst grammar env fault := by
  have hApplied :
      ((loggingOf (invocation.loadSettings host env)).applyOverrides grammar env).2 =
        some fault ↔ Override.RefusesFirst grammar env fault :=
    Override.snd_applyOverrides_eq_some_iff
  rw [logging_eq, ← hApplied]
  rcases (loggingOf (invocation.loadSettings host env)).applyOverrides grammar env with
    ⟨after, failed⟩
  cases failed <;> simp

theorem admits_of_logging (h : invocation.logging grammar host env = .ok config) :
    ∀ override ∈ Override.all, Override.Admits grammar env override := by
  by_contra hNot
  push Not at hNot
  obtain ⟨override, hFirst⟩ := exists_firstBreach_iff.mpr hNot
  have ⟨_, _, _, _, hBreach⟩ := hFirst
  obtain ⟨fault, hRefuses⟩ := Override.exists_refuses_of_not_admits hBreach
  cases h.symm.trans (logging_eq_error_iff.mpr ⟨override, hFirst, hRefuses⟩)

/-- Options over variables over settings over defaults, field by field. Only a variable can be
refused, and the first one that is decides the fault; of filters it is the grammar that refuses. -/
theorem logging_settles (grammar : Grammar) (host : Host) (env : Environment)
    (invocation : Invocation) :
    invocation.Settles grammar env (loggingOf (invocation.loadSettings host env))
      (invocation.logging grammar host env) where
  fails _ := logging_eq_error_iff
  succeeds config := by
    have hEffective := effective_overrideLogging invocation env
      (loggingOf (invocation.loadSettings host env))
    constructor
    · intro h
      have hAdmits := admits_of_logging h
      rw [logging_of_admits hAdmits, Except.ok.injEq] at h
      exact ⟨hAdmits, h ▸ hEffective⟩
    · rintro ⟨hAdmits, hConfig⟩
      rw [logging_of_admits hAdmits, hEffective.unique hConfig]

end Fleet.Invocation
