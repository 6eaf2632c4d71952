import Fleet.Log.Filter
import Mathlib.Data.List.Lex
import Mathlib.Data.Prod.Lex

/-!
# The rule that decides

The rules of a filter stand in the order of their ranks, and no two of them are of the same scope. So
a record is decided by the highest rule that fits it, and of the rules of one scope by the last that
was written. The rule of a bare level stands below all others. What modules say is therefore heard
before a level that lets nothing through, unless it is spelled `off`: then they are not asked.
-/
namespace Fleet.Log

namespace Rule
variable {a b rule : Rule} {target : List Char} {fields : List (List Char)}

/-- Where a rule stands: long targets are high, then many fields, then the letters count. -/
def rank (rule : Rule) : ℕ ×ₗ ℕ ×ₗ List (List ℕ) :=
  toLex (rule.targetRank, toLex (rule.fields.length,
    (rule.target.getD []).map Char.toNat :: rule.fields.map fun field => field.map Char.toNat))

theorem before_iff : a.before b = true ↔ b.rank < a.rank := by
  rw [rank, rank, Prod.Lex.toLex_lt_toLex, Prod.Lex.toLex_lt_toLex]
  simp only [before]
  split
  · simp only [decide_eq_true_eq]
    omega
  · split
    · simp only [decide_eq_true_eq]
      omega
    · simp_all

theorem not_before_iff : a.before b = false ↔ a.rank ≤ b.rank := by
  rw [← not_lt, ← before_iff, Bool.not_eq_true]

theorem letters_injective : Function.Injective fun letters : List Char => letters.map Char.toNat :=
  List.map_injective_iff.mpr fun _ _ h => Char.toNat_inj.mp h

theorem target_eq_of_rank_eq (hRank : a.targetRank = b.targetRank)
    (hLetters : (a.target.getD []).map Char.toNat = (b.target.getD []).map Char.toNat) :
    a.target = b.target := by
  have hTarget : a.target.getD [] = b.target.getD [] := letters_injective hLetters
  unfold targetRank at hRank
  cases hA : a.target <;> cases hB : b.target <;> simp_all

theorem sameScope_iff : a.sameScope b = true ↔ a.rank = b.rank := by
  simp only [sameScope, Bool.and_eq_true, beq_iff_eq]
  constructor
  · rintro ⟨hTarget, hFields⟩
    simp only [rank, targetRank, hTarget, hFields]
  · intro h
    simp only [rank, toLex_inj, Prod.mk.injEq, List.cons.injEq] at h
    obtain ⟨hRank, -, hTarget, hFields⟩ := h
    exact ⟨target_eq_of_rank_eq hRank hTarget, List.map_injective_iff.mpr letters_injective hFields⟩

theorem fits_of_rank_eq (h : a.rank = b.rank) : a.fits target fields = b.fits target fields := by
  have hScope := sameScope_iff.mpr h
  simp only [sameScope, Bool.and_eq_true, beq_iff_eq] at hScope
  rw [fits, fits, hScope.1, hScope.2]

/-- The rule of a bare level stands below every other. -/
theorem rank_catchAll_le (threshold : Threshold) (rule : Rule) :
    (⟨none, [], threshold⟩ : Rule).rank ≤ rule.rank := by
  rw [← not_lt, rank, rank, Prod.Lex.toLex_lt_toLex, Prod.Lex.toLex_lt_toLex]
  rintro (hRank | ⟨hRank, hLength | ⟨hLength, hLetters⟩⟩)
  · exact Nat.not_lt_zero _ hRank
  · exact Nat.not_lt_zero _ hLength
  · have hTarget : rule.target = none := by
      unfold targetRank at hRank
      cases hTarget : rule.target with
      | none => rfl
      | some target => simp [hTarget] at hRank
    simp only [hTarget, List.eq_nil_of_length_eq_zero hLength] at hLetters
    exact lt_irrefl _ hLetters

end Rule

namespace Filter
open Rule
variable {rule other new : Rule} {rules written : List Rule} {target : List Char}
  {fields : List (List Char)}

/-- From high to low, and so no two of the same scope. -/
def Ranked (rules : List Rule) : Prop := rules.Pairwise fun a b => b.rank < a.rank

/-- A rule that is inserted takes the place of the one of its scope. -/
theorem mem_insertRule_iff (h : Ranked rules) :
    rule ∈ insertRule new rules ↔ rule = new ∨ rule ∈ rules ∧ rule.rank ≠ new.rank := by
  induction rules with
  | nil => simp [insertRule]
  | cons first rest ih =>
    obtain ⟨hFirst, hRest⟩ := List.pairwise_cons.mp h
    rw [insertRule]
    split
    · next hScope =>
      have hNew := sameScope_iff.mp hScope
      -- What stands behind the new rule is lower, so nothing else of its scope is left.
      have hOther : ∀ rule ∈ rest, rule.rank ≠ new.rank := by
        intro rule hRule
        exact hNew ▸ (hFirst rule hRule).ne
      rw [List.mem_cons, List.mem_cons]
      grind
    · next hScope =>
      have hNe : first.rank ≠ new.rank := by
        intro hEq
        exact hScope (sameScope_iff.mpr hEq.symm)
      split
      · next hBefore =>
        have hNew := before_iff.mp hBefore
        have hOther : ∀ rule ∈ rest, rule.rank ≠ new.rank := by
          intro rule hRule
          exact ((hFirst rule hRule).trans hNew).ne
        simp only [List.mem_cons]
        grind
      · rw [List.mem_cons, ih hRest, List.mem_cons]
        grind

theorem ranked_insertRule (h : Ranked rules) : Ranked (insertRule new rules) := by
  induction rules with
  | nil => exact List.pairwise_singleton _ _
  | cons first rest ih =>
    obtain ⟨hFirst, hRest⟩ := List.pairwise_cons.mp h
    rw [insertRule]
    split
    · next hScope =>
      have hNew := sameScope_iff.mp hScope
      exact List.pairwise_cons.mpr ⟨fun rule hRule => hNew ▸ hFirst rule hRule, hRest⟩
    · next hScope =>
      split
      · next hBefore =>
        have hNew := before_iff.mp hBefore
        refine List.pairwise_cons.mpr ⟨fun rule hRule => ?_, h⟩
        rcases List.mem_cons.mp hRule with rfl | hRule
        · exact hNew
        · exact (hFirst rule hRule).trans hNew
      · next hBefore =>
        have hNew : new.rank < first.rank := by
          refine lt_of_le_of_ne (not_before_iff.mp (Bool.eq_false_iff.mpr hBefore)) fun hEq => ?_
          exact hScope (sameScope_iff.mpr hEq)
        refine List.pairwise_cons.mpr ⟨fun rule hRule => ?_, ih hRest⟩
        rcases (mem_insertRule_iff hRest).mp hRule with rfl | ⟨hRule, -⟩
        · exact hNew
        · exact hFirst rule hRule

/-- The rule is the last one of its scope. -/
def Holds (written : List Rule) (rule : Rule) : Prop :=
  ∃ earlier later, written = earlier ++ rule :: later ∧ ∀ other ∈ later, other.rank ≠ rule.rank

/-- The rule decides about a record: it holds and fits, and none that fits stands before it. -/
structure Decides (written : List Rule) (target : List Char) (fields : List (List Char))
    (rule : Rule) : Prop where
  holds : Holds written rule
  fits : rule.fits target fields = true
  highest : ∀ other ∈ written, other.fits target fields = true → other.before rule = false

theorem not_holds_nil : ¬Holds [] rule := by
  rintro ⟨earlier, later, hWritten, -⟩
  simp at hWritten

theorem holds_cons_iff :
    Holds (new :: written) rule ↔
      Holds written rule ∨ rule = new ∧ ∀ other ∈ written, other.rank ≠ rule.rank := by
  constructor
  · rintro ⟨earlier, later, hWritten, hLater⟩
    cases earlier with
    | nil =>
      obtain ⟨rfl, rfl⟩ := List.cons.inj hWritten
      exact .inr ⟨rfl, hLater⟩
    | cons first earlier =>
      obtain ⟨-, rfl⟩ := List.cons.inj hWritten
      exact .inl ⟨earlier, later, rfl, hLater⟩
  · rintro (⟨earlier, later, rfl, hLater⟩ | ⟨rfl, hWritten⟩)
    · exact ⟨new :: earlier, later, rfl, hLater⟩
    · exact ⟨[], written, rfl, hWritten⟩

theorem Holds.mem (h : Holds written rule) : rule ∈ written := by
  obtain ⟨earlier, later, rfl, -⟩ := h
  simp

theorem exists_holds_of_mem (h : rule ∈ written) :
    ∃ other, Holds written other ∧ other.rank = rule.rank := by
  induction written generalizing rule with
  | nil => cases h
  | cons first rest ih =>
    simp only [holds_cons_iff]
    by_cases hLater : ∃ later ∈ rest, later.rank = rule.rank
    · obtain ⟨later, hMem, hRank⟩ := hLater
      obtain ⟨other, hHolds, hOther⟩ := ih hMem
      exact ⟨other, .inl hHolds, hOther.trans hRank⟩
    · push Not at hLater
      rcases List.mem_cons.mp h with rfl | hMem
      · exact ⟨rule, .inr ⟨rfl, hLater⟩, rfl⟩
      · exact absurd rfl (hLater rule hMem)

def insertAll (written rules : List Rule) : List Rule :=
  written.foldl (fun rules rule => insertRule rule rules) rules

theorem mem_insertAll_iff (h : Ranked rules) :
    rule ∈ insertAll written rules ↔
      Holds written rule ∨ rule ∈ rules ∧ ∀ other ∈ written, other.rank ≠ rule.rank := by
  induction written generalizing rules with
  | nil => simp [insertAll, not_holds_nil]
  | cons new written ih =>
    rw [insertAll, List.foldl_cons, ← insertAll, ih (ranked_insertRule h), mem_insertRule_iff h,
      holds_cons_iff, List.forall_mem_cons]
    grind

theorem ranked_insertAll (h : Ranked rules) (written : List Rule) :
    Ranked (insertAll written rules) := by
  induction written generalizing rules with
  | nil => exact h
  | cons new written ih => exact ih (ranked_insertRule h)

/-- What is found in rules from high to low is the highest. -/
theorem find?_eq_some_iff_of_ranked {test : Rule → Bool} (h : Ranked rules) :
    rules.find? test = some rule ↔
      rule ∈ rules ∧ test rule = true ∧
        ∀ other ∈ rules, test other = true → other.rank ≤ rule.rank := by
  induction rules with
  | nil => simp
  | cons first rest ih =>
    obtain ⟨hFirst, hRest⟩ := List.pairwise_cons.mp h
    cases hTest : test first with
    | true =>
      rw [List.find?_cons_of_pos hTest]
      constructor
      · intro hFound
        cases hFound
        refine ⟨List.mem_cons_self, hTest, fun other hOther _ => ?_⟩
        rcases List.mem_cons.mp hOther with rfl | hOther
        · exact le_rfl
        · exact (hFirst other hOther).le
      · rintro ⟨hMem, -, hHighest⟩
        rcases List.mem_cons.mp hMem with rfl | hMem
        · rfl
        · exact absurd (hHighest first List.mem_cons_self hTest) (hFirst rule hMem).not_ge
    | false =>
      rw [List.find?_cons_of_neg (by simp [hTest]), ih hRest]
      simp only [List.mem_cons]
      grind

theorem find?_insertAll_eq_some_iff :
    ((insertAll written []).find? fun rule => rule.fits target fields) = some rule ↔
      Decides written target fields rule := by
  have hMem (rule : Rule) : rule ∈ insertAll written [] ↔ Holds written rule := by
    simp [mem_insertAll_iff List.Pairwise.nil]
  rw [find?_eq_some_iff_of_ranked (ranked_insertAll List.Pairwise.nil written)]
  simp only [hMem]
  constructor
  · rintro ⟨hHolds, hFits, hHighest⟩
    refine ⟨hHolds, hFits, fun other hOther hOtherFits => ?_⟩
    -- A rule that no longer holds has left its place to one that fits the same records.
    obtain ⟨last, hLast, hRank⟩ := exists_holds_of_mem hOther
    rw [not_before_iff, ← hRank]
    exact hHighest last hLast ((fits_of_rank_eq hRank).trans hOtherFits)
  · rintro ⟨hHolds, hFits, hHighest⟩
    refine ⟨hHolds, hFits, fun other hOther hOtherFits => ?_⟩
    exact not_before_iff.mp (hHighest other hOther.mem hOtherFits)

section Directives
variable {grammar : Grammar} {filter : Filter} {directive : Directive} {directives : List Directive}
  {modules : List (String × String)} {config : Config}

/-- The rules of the directives that apply outside all spans. -/
def staticRules (directives : List Directive) : List Rule :=
  (directives.filter Directive.isStatic).map .ofDirective

/-- A level that reads as the one directive that lets nothing through. -/
def MeansOff (grammar : Grammar) (level : String) : Prop :=
  grammar.filter level = .ok [{ threshold := .off }]

theorem eq_or_eq_toUpper_of_toLower_eq {c lower : Char} (h : c.toLower = lower) :
    c = lower ∨ c = lower.toUpper := by
  subst h
  unfold Char.toLower
  split
  · next hUpper =>
    right
    apply Char.ext
    have hRange : 65 ≤ c.val ∧ c.val ≤ 90 := hUpper
    unfold Char.toUpper
    dsimp only
    split <;> grind
  · exact .inl rfl

/-- The word in any mix of letter case. -/
theorem meansOff_of_toLower {level : String}
    (h : level.toList.map Char.toLower = ['o', 'f', 'f']) : MeansOff .plain level := by
  obtain ⟨first, rest, hLevel, hFirst, hRest⟩ := List.map_eq_cons_iff.mp h
  obtain ⟨second, rest, rfl, hSecond, hRest⟩ := List.map_eq_cons_iff.mp hRest
  obtain ⟨third, rest, rfl, hThird, hRest⟩ := List.map_eq_cons_iff.mp hRest
  cases List.map_eq_nil_iff.mp hRest
  simp only [MeansOff, Grammar.plain, hLevel]
  rcases eq_or_eq_toUpper_of_toLower_eq hFirst with rfl | rfl <;>
    rcases eq_or_eq_toUpper_of_toLower_eq hSecond with rfl | rfl <;>
      rcases eq_or_eq_toUpper_of_toLower_eq hThird with rfl | rfl <;> rfl

example : MeansOff .plain "0" := rfl

def ReadsModule (grammar : Grammar) (entry : String × String) (directive : Directive) : Prop :=
  grammar.directive (entry.1 ++ "=" ++ entry.2) = .ok directive

theorem rules_foldl_add :
    (directives.foldl add filter).rules = insertAll (staticRules directives) filter.rules := by
  induction directives generalizing filter with
  | nil => rfl
  | cons directive rest ih =>
    rw [List.foldl_cons, ih, staticRules, staticRules, add, List.filter_cons]
    cases directive.isStatic <;> rfl

theorem addModules_of_reads (h : List.Forall₂ (ReadsModule grammar) modules directives) :
    filter.addModules grammar modules = .ok (directives.foldl add filter) := by
  induction h generalizing filter with
  | nil => rfl
  | @cons entry directive modules directives hEntry hRest ih =>
    rw [addModules, hEntry]
    exact ih

theorem enables_iff_exists_decides (h : filter.rules = insertAll written []) (target : String)
    (fields : List String) (level : Level) :
    filter.enables target fields level = true ↔
      ∃ rule, Decides written target.toList (fields.map String.toList) rule ∧
        rule.threshold.passes level = true := by
  simp only [enables, h, ← find?_insertAll_eq_some_iff]
  cases (insertAll written []).find? fun rule =>
    rule.fits target.toList (fields.map String.toList) <;> simp

theorem not_passes_off (level : Level) : Threshold.off.passes level = false := by
  cases level <;> rfl

/-- The lowest rule decides nothing that another one decides. -/
theorem decides_catchAll_cons_iff {threshold : Threshold} (hRule : rule.threshold ≠ threshold) :
    Decides (⟨none, [], threshold⟩ :: written) target fields rule ↔
      Decides written target fields rule := by
  constructor
  · rintro ⟨hHolds, hFits, hHighest⟩
    refine ⟨?_, hFits, (List.forall_mem_cons.mp hHighest).2⟩
    rcases holds_cons_iff.mp hHolds with hHolds | ⟨rfl, -⟩
    · exact hHolds
    · exact absurd rfl hRule
  · rintro ⟨hHolds, hFits, hHighest⟩
    refine ⟨holds_cons_iff.mpr (.inl hHolds), hFits, ?_⟩
    exact List.forall_mem_cons.mpr ⟨fun _ => not_before_iff.mpr (rank_catchAll_le _ _), hHighest⟩

theorem ofConfig_of_meansOff (hOff : MeansOff grammar config.level) (hSpelled : config.level ≠ "off")
    (hModules : List.Forall₂ (ReadsModule grammar) config.modules.toList directives) :
    ofConfig grammar config = .ok (directives.foldl add off) := by
  have hRead : read grammar config.level = .ok off := by
    rw [read, hOff]
    rfl
  rw [ofConfig, if_neg hSpelled, hRead]
  exact addModules_of_reads hModules

theorem enables_off (target : String) (fields : List String) (level : Level) :
    off.enables target fields level = false := not_passes_off level

/-- Under a level that means off the modules alone say what is let through, and nothing is if the
level is spelled `off`. -/
theorem enables_iff_of_meansOff (hOff : MeansOff grammar config.level)
    (hModules : List.Forall₂ (ReadsModule grammar) config.modules.toList directives) :
    ∃ filter, ofConfig grammar config = .ok filter ∧ ∀ target fields level,
      filter.enables target fields level = true ↔
        config.level ≠ "off" ∧ ∃ rule,
          Decides (staticRules directives) target.toList (fields.map String.toList) rule ∧
            rule.threshold.passes level = true := by
  by_cases hSpelled : config.level = "off"
  · refine ⟨off, if_pos hSpelled, fun target fields level => ?_⟩
    simp [enables_off, hSpelled]
  · refine ⟨_, ofConfig_of_meansOff hOff hSpelled hModules, fun target fields level => ?_⟩
    have hRules : (directives.foldl add off).rules =
        insertAll (⟨none, [], .off⟩ :: staticRules directives) [] := rules_foldl_add
    have hCatchAll (rule : Rule) (hPasses : rule.threshold.passes level = true) :
        rule.threshold ≠ .off := by
      intro hThreshold
      rw [hThreshold, not_passes_off] at hPasses
      cases hPasses
    rw [enables_iff_exists_decides hRules, and_iff_right hSpelled]
    refine exists_congr fun rule => and_congr_left fun hPasses => ?_
    exact decides_catchAll_cons_iff (hCatchAll rule hPasses)

end Directives

section Cases

/-- The level is off in capitals, and a module is to be heard. -/
def capitalOff : Config :=
  { Config.standard with level := "OFF", modules := ⟨[("store", "debug")], by decide⟩ }

theorem readsModule_capitalOff :
    List.Forall₂ (ReadsModule .plain) capitalOff.modules.toList
      [{ target := some ['s', 't', 'o', 'r', 'e'], threshold := .upTo .debug }] :=
  .cons rfl .nil

theorem enables_iff_of_meansOff_capital :
    MeansOff .plain capitalOff.level ∧ ∃ filter, ofConfig .plain capitalOff = .ok filter ∧
      filter.enables "store" [] .debug = true := by
  have hOff : MeansOff .plain capitalOff.level := rfl
  obtain ⟨filter, hFilter, hEnables⟩ := enables_iff_of_meansOff hOff readsModule_capitalOff
  refine ⟨hOff, filter, hFilter, (hEnables "store" [] .debug).mpr ⟨by decide, ?_⟩⟩
  let heard : Rule := ⟨some ['s', 't', 'o', 'r', 'e'], [], .upTo .debug⟩
  have hDecides : Decides [heard] "store".toList [] heard := by
    refine ⟨⟨[], [], rfl, by simp⟩, by decide, fun other hOther _ => ?_⟩
    cases List.mem_singleton.mp hOther
    decide
  exact ⟨heard, hDecides, rfl⟩

/-- Modules are heard under a level that means off. -/
theorem not_always_off :
    ¬∀ (config : Config) (directives : List Directive), config.enabled = true →
      MeansOff .plain config.level →
      List.Forall₂ (ReadsModule .plain) config.modules.toList directives →
        ∃ filter, ofConfig .plain config = .ok filter ∧
          ∀ target fields level, filter.enables target fields level = false := by
  intro hAlways
  obtain ⟨filter, hFilter, hEnables⟩ := hAlways capitalOff _ rfl rfl readsModule_capitalOff
  have hSilent : ((ofConfig .plain capitalOff).toOption.any fun filter =>
      filter.enables "store" [] .debug) = false := by
    rw [hFilter]
    exact hEnables "store" [] .debug
  exact absurd hSilent (by decide +kernel)

end Cases

end Filter

end Fleet.Log
