import Fleet.Log.Overrides
import Fleet.Proofs.Decisive

/-!
# What overrides make of a configuration

Three variables override a logging configuration one after another. Each is refused or taken, by its
value alone, so the first variable that is refused decides the fault. What was taken before it stays:
a fault leaves the configuration as it was only if the variables before the refused one are unset or
say what the configuration says already.
-/
namespace Fleet.Log

inductive Override where
  | filter
  | format
  | output
  deriving DecidableEq, Repr

namespace Override

/-- The overrides in the order in which they are applied. -/
def all : List Override := [.filter, .format, .output]

/-- The overrides that are applied before this one. -/
def before (override : Override) : List Override := all.takeWhile (· ≠ override)

def variableName : Override → String
  | filter => filterVariable
  | format => formatVariable
  | output => outputVariable

/-- Why a value is refused, if it is. -/
def refusal? (grammar : Grammar) (value : String) : Override → Option ChoiceFault
  | filter =>
    match Filter.read grammar value with
    | .error reason => some (.filterOverride reason)
    | .ok _ => none
  | format => if value ∈ ["json", "text"] then none else some (.formatOverride value)
  | output => if value ∈ ["stdout", "stderr", "file"] then none else some (.output value)

/-- The configuration with a value that is taken. A filter drops the levels of modules. -/
def set (value : String) (config : Config) : Override → Config
  | filter => { config with level := value, modules := HashMap.empty }
  | format => { config with format := value }
  | output => { config with output := value }

/-- The override as it is applied. -/
def apply (grammar : Grammar) (env : Environment) :
    Override → Config → Except ChoiceFault Config
  | filter => Config.overrideFilter grammar env
  | format => Config.overrideFormat env
  | output => Config.overrideOutput env

section Values
variable {name : String}

theorem formatOfName?_eq_none_iff : Format.ofName? name = none ↔ name ∉ ["json", "text"] := by
  unfold Format.ofName?
  split
  · next h => simp [h]
  · next h => split <;> simp_all

theorem outputOfName?_eq_none_iff :
    Output.ofName? name = none ↔ name ∉ ["stdout", "stderr", "file"] := by
  unfold Output.ofName?
  split
  · next h => simp [h]
  · next h =>
    split
    · next h' => simp [h']
    · next h' => split <;> simp_all

end Values

/-- An override looks at its own variable and refuses or sets the value. -/
theorem apply_eq (grammar : Grammar) (env : Environment) (override : Override)
    (config : Config) :
    override.apply grammar env config =
      match env.get? override.variableName with
      | none => .ok config
      | some value =>
        match override.refusal? grammar value with
        | some fault => .error fault
        | none => .ok (override.set value config) := by
  cases override with
  | filter =>
    simp only [apply, Config.overrideFilter, variableName]
    cases env.get? filterVariable with
    | none => rfl
    | some text =>
      simp only [refusal?, set]
      cases Filter.read grammar text <;> rfl
  | format =>
    simp only [apply, Config.overrideFormat, variableName]
    cases env.get? formatVariable with
    | none => rfl
    | some name =>
      simp only [refusal?, set]
      cases hFormat : Format.ofName? name with
      | none => simp only [if_neg (formatOfName?_eq_none_iff.mp hFormat)]
      | some format =>
        have hName : name ∈ ["json", "text"] := by
          by_contra h
          cases hFormat.symm.trans (formatOfName?_eq_none_iff.mpr h)
        simp only [if_pos hName]
  | output =>
    simp only [apply, Config.overrideOutput, variableName]
    cases env.get? outputVariable with
    | none => rfl
    | some name =>
      simp only [refusal?, set]
      cases hOutput : Output.ofName? name with
      | none => simp only [if_neg (outputOfName?_eq_none_iff.mp hOutput)]
      | some output =>
        have hName : name ∈ ["stdout", "stderr", "file"] := by
          by_contra h
          cases hOutput.symm.trans (outputOfName?_eq_none_iff.mpr h)
        simp only [if_pos hName]

section Run
variable {grammar : Grammar} {env : Environment} {config : Config} {override : Override}
  {fault : ChoiceFault}

/-- The variable is set to a value that is refused. -/
def Refuses (grammar : Grammar) (env : Environment) (override : Override)
    (fault : ChoiceFault) : Prop :=
  ∃ value, env.get? override.variableName = some value ∧ override.refusal? grammar value = some fault

def Admits (grammar : Grammar) (env : Environment) (override : Override) : Prop :=
  ∀ value, env.get? override.variableName = some value → override.refusal? grammar value = none

instance (grammar : Grammar) (env : Environment) (override : Override) :
    Decidable (Admits grammar env override) :=
  inferInstanceAs (Decidable (∀ value ∈ env.get? override.variableName, _))

/-- Of all overrides, the first that is not admitted is refused with the fault. -/
def RefusesFirst (grammar : Grammar) (env : Environment) (fault : ChoiceFault) : Prop :=
  ∃ override, FirstBreach (Admits grammar env) all override ∧ Refuses grammar env override fault

/-- The configuration with the value of the variable, if it is set. -/
def take (env : Environment) (config : Config) (override : Override) : Config :=
  (env.get? override.variableName).elim config fun value => override.set value config

/-- The configuration says the value already. -/
def Says (config : Config) (value : String) : Override → Prop
  | filter => config.level = value ∧ config.modules = HashMap.empty
  | format => config.format = value
  | output => config.output = value

def Agrees (env : Environment) (config : Config) (override : Override) : Prop :=
  ∀ value, env.get? override.variableName = some value → override.Says config value

theorem exists_refuses_of_not_admits (h : ¬Admits grammar env override) :
    ∃ fault, Refuses grammar env override fault := by
  unfold Admits at h
  push Not at h
  obtain ⟨value, hSet, hSome⟩ := h
  obtain ⟨fault, hFault⟩ := Option.ne_none_iff_exists'.mp hSome
  exact ⟨fault, value, hSet, hFault⟩

theorem apply_of_admits (h : Admits grammar env override) (config : Config) :
    override.apply grammar env config = .ok (take env config override) := by
  rw [apply_eq, take]
  cases hSet : env.get? override.variableName with
  | none => rfl
  | some value => simp only [h value hSet, Option.elim_some]

theorem apply_of_refuses (h : Refuses grammar env override fault) (config : Config) :
    override.apply grammar env config = .error fault := by
  obtain ⟨value, hSet, hFault⟩ := h
  rw [apply_eq, hSet]
  simp only [hFault]

/-- What is admitted is taken, one after another. -/
theorem applyAll_of_admits {overrides : List Override}
    (h : ∀ override ∈ overrides, Admits grammar env override)
    (rest : List (Config → Except ChoiceFault Config)) (config : Config) :
    config.applyAll (overrides.map (apply grammar env) ++ rest) =
      (overrides.foldl (take env) config).applyAll rest := by
  induction overrides generalizing config with
  | nil => rfl
  | cons first later ih =>
    obtain ⟨hFirst, hLater⟩ := List.forall_mem_cons.mp h
    rw [List.map_cons, List.cons_append, Config.applyAll, apply_of_admits hFirst]
    exact ih hLater _

theorem applyOverrides_of_admits (h : ∀ override ∈ all, Admits grammar env override)
    (config : Config) :
    config.applyOverrides grammar env = (all.foldl (take env) config, none) := by
  have hAll := applyAll_of_admits h [] config
  rwa [List.append_nil] at hAll

theorem before_eq {before after : List Override} (h : all = before ++ override :: after) :
    override.before = before := by
  have hNodup : (before ++ override :: after).Nodup := h ▸ by decide
  have hNot : override ∉ before := by
    intro hMem
    exact (List.nodup_append.mp hNodup).2.2 _ hMem _ List.mem_cons_self rfl
  have hOther : ∀ other ∈ before, decide (other ≠ override) = true := by
    intro other hOther
    exact decide_eq_true fun hEq => hNot (hEq ▸ hOther)
  rw [Override.before, h, List.takeWhile_append_of_pos hOther, List.takeWhile_cons_of_neg (by simp),
    List.append_nil]

theorem applyOverrides_of_firstBreach (hFirst : FirstBreach (Admits grammar env) all override)
    (hRefuses : Refuses grammar env override fault) (config : Config) :
    config.applyOverrides grammar env = (override.before.foldl (take env) config, some fault) := by
  obtain ⟨before, after, hAll, hBefore, -⟩ := hFirst
  have hApplied := applyAll_of_admits hBefore ((override :: after).map (apply grammar env)) config
  rw [← List.map_append, ← hAll, List.map_cons, Config.applyAll,
    apply_of_refuses hRefuses] at hApplied
  rw [before_eq hAll]
  exact hApplied

/-- Applying overrides fails exactly if one is not admitted. -/
theorem snd_applyOverrides_eq_some_iff :
    (config.applyOverrides grammar env).2 = some fault ↔ RefusesFirst grammar env fault := by
  constructor
  · intro h
    by_cases hAll : ∀ override ∈ all, Admits grammar env override
    · rw [applyOverrides_of_admits hAll] at h
      cases h
    · push Not at hAll
      obtain ⟨override, hFirst⟩ := exists_firstBreach_iff.mpr hAll
      have ⟨_, _, _, _, hBreach⟩ := hFirst
      obtain ⟨other, hRefuses⟩ := exists_refuses_of_not_admits hBreach
      rw [applyOverrides_of_firstBreach hFirst hRefuses] at h
      cases h
      exact ⟨override, hFirst, hRefuses⟩
  · rintro ⟨override, hFirst, hRefuses⟩
    rw [applyOverrides_of_firstBreach hFirst hRefuses]

theorem takeAll_eq (env : Environment) (config : Config) :
    all.foldl (take env) config = { config with
      level := (env.get? filterVariable).getD config.level
      format := (env.get? formatVariable).getD config.format
      output := (env.get? outputVariable).getD config.output
      modules := if (env.get? filterVariable).isSome then HashMap.empty else config.modules } := by
  simp only [all, List.foldl_cons, List.foldl_nil, take, variableName]
  cases env.get? filterVariable <;> cases env.get? formatVariable <;>
    cases env.get? outputVariable <;> rfl

theorem set_eq_self_iff {value : String} :
    override.set value config = config ↔ override.Says config value := by
  cases config
  cases override <;> simp [set, Says, eq_comm]

theorem take_eq_self_iff : take env config override = config ↔ Agrees env config override := by
  rw [take, Agrees]
  cases env.get? override.variableName <;> simp [set_eq_self_iff]

/-- An override does not undo the one before it, for they set different fields. -/
theorem take_take_eq_self_iff :
    take env (take env config .filter) .format = config ↔
      Agrees env config .filter ∧ Agrees env config .format := by
  rw [← take_eq_self_iff, ← take_eq_self_iff]
  cases config
  simp only [take, variableName]
  cases env.get? filterVariable with
  | none => simp
  | some text =>
    cases env.get? formatVariable with
    | none => simp
    | some name =>
      simp only [Option.elim_some, set, Config.mk.injEq]
      tauto

theorem foldl_take_eq_self_iff :
    override.before.foldl (take env) config = config ↔
      ∀ earlier ∈ override.before, Agrees env config earlier := by
  cases override with
  | filter => simp [before, all]
  | format => simp [before, all, take_eq_self_iff]
  | output => simp [before, all, take_take_eq_self_iff]

end Run

end Override

namespace Config
open Override
variable {grammar : Grammar} {env : Environment} {config : Config} {fault : ChoiceFault}

/-- A refused variable leaves what the variables before it have set, and nothing else. So it leaves
the configuration as it was exactly if these are unset or say what it says already. -/
theorem kept_iff_of_refused (h : (config.applyOverrides grammar env).2 = some fault) :
    ∃ override, FirstBreach (Admits grammar env) Override.all override ∧
      Refuses grammar env override fault ∧
      (config.applyOverrides grammar env).1 = override.before.foldl (take env) config ∧
      ((config.applyOverrides grammar env).1 = config ↔
        ∀ earlier ∈ override.before, Agrees env config earlier) := by
  obtain ⟨override, hFirst, hRefuses⟩ := snd_applyOverrides_eq_some_iff.mp h
  refine ⟨override, hFirst, hRefuses, ?_⟩
  rw [applyOverrides_of_firstBreach hFirst hRefuses]
  exact ⟨rfl, foldl_take_eq_self_iff⟩

section Cases

/-- The variable of the output is refused, and the one of the format is set to what is standard. -/
def outputRefused : Environment :=
  .ofList [(formatVariable, "text"), (outputVariable, "both")]

theorem kept_iff_of_refused_output :
    (standard.applyOverrides .plain outputRefused).2 = some (.output "both") ∧
      (standard.applyOverrides .plain outputRefused).1 = standard := by
  have hFault : (standard.applyOverrides .plain outputRefused).2 = some (.output "both") := by
    decide +kernel
  obtain ⟨override, -, -, -, hKept⟩ := kept_iff_of_refused hFault
  refine ⟨hFault, hKept.mpr fun earlier hEarlier value hSet => ?_⟩
  cases earlier with
  | filter => cases hSet
  | format =>
    cases hSet
    rfl
  | output =>
    -- Nothing is applied after the output, so it stands before nothing.
    have hLast : Override.output ∉ override.before := by cases override <;> decide
    exact absurd hEarlier hLast

/-- Not every fault leaves a configuration as it was: the filter is set before the format is
refused. -/
theorem not_always_kept :
    ¬∀ (config : Config) (env : Environment) (fault : ChoiceFault),
      (config.applyOverrides .plain env).2 = some fault →
        (config.applyOverrides .plain env).1 = config := by
  intro hAlways
  let env : Environment := .ofList [(filterVariable, "debug"), (formatVariable, "yaml")]
  have hFault : (standard.applyOverrides .plain env).2 = some (.formatOverride "yaml") := by
    decide +kernel
  have hLevel : (standard.applyOverrides .plain env).1.level = "debug" := by decide +kernel
  rw [hAlways standard env _ hFault] at hLevel
  exact absurd hLevel (by decide)

end Cases

end Config

end Fleet.Log
