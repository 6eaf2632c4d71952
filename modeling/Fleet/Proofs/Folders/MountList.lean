import Fleet.Proofs.Folders.Tokens
import Fleet.Proofs.Text.Runs
import Mathlib.Data.List.Forall2

/-!
# The grammar of a folder variable

A text spells a list of mounts if its runs are their tokens, in order and with repetitions. No text
spells two lists. `Grammar` says of one value what its reading must be: the list that it spells, or
else a refusal that names the first run that is no mount. So mounts that are written one after
another, with blanks between them, are read back.
-/
namespace Fleet.Folders
open Text

/-- The runs of the text are the tokens of the mounts. -/
def Spells (text : List Char) (mounts : List Mount) : Prop :=
  ∃ tokens, Laid tokens text ∧
    List.Forall₂ (fun token mount => TokenGives token mount.host mount.guest) tokens mounts

def Mount.token (mount : Mount) : List Char := mount.host.toList ++ ':' :: mount.guest.toList

/-- The mount can be written as one run that is cut where its host ends. -/
structure Mount.IsToken (mount : Mount) : Prop where
  host : mount.host ≠ ""
  guest : mount.guest ≠ ""
  colon : ':' ∉ mount.host.toList
  blank : ∀ c ∈ mount.token, isBlank c = false

/-- The text is the tokens of the mounts with some blanks between each two. -/
inductive Joins : List Mount → List Char → Prop where
  | none : Joins [] []
  | one (mount : Mount) : Joins [mount] mount.token
  | more (mount : Mount) {next : Mount} {mounts : List Mount} {gap text : List Char} :
      gap ≠ [] → AllBlank gap → Joins (next :: mounts) text →
        Joins (mount :: next :: mounts) (mount.token ++ gap ++ text)

theorem forall₂_tokenGives_iff {tokens : List (List Char)} {mounts : List Mount} :
    List.Forall₂ (fun token mount => TokenGives token mount.host mount.guest) tokens mounts ↔
      (∀ token ∈ tokens, IsMount token) ∧ mounts = tokens.filterMap splitMount := by
  induction tokens generalizing mounts with
  | nil => simp
  | cons token rest ih =>
    rw [List.forall₂_cons_left_iff, List.forall_mem_cons]
    constructor
    · rintro ⟨⟨host, guest⟩, others, hToken, hRest, rfl⟩
      obtain ⟨hAll, rfl⟩ := ih.mp hRest
      refine ⟨⟨⟨host, guest, hToken⟩, hAll⟩, ?_⟩
      rw [List.filterMap_cons_some ((splitMount_eq_some_iff token host guest).mpr hToken)]
    · rintro ⟨⟨⟨host, guest, hToken⟩, hAll⟩, rfl⟩
      rw [List.filterMap_cons_some ((splitMount_eq_some_iff token host guest).mpr hToken)]
      exact ⟨_, _, hToken, ih.mpr ⟨hAll, rfl⟩, rfl⟩

/-- The tokens of a spelling are the runs that a text is cut into. -/
theorem spells_iff {text : List Char} {mounts : List Mount} :
    Spells text mounts ↔
      (∀ token ∈ runs text, IsMount token) ∧ mounts = (runs text).filterMap splitMount := by
  rw [← forall₂_tokenGives_iff]
  constructor
  · rintro ⟨tokens, hLaid, hGives⟩
    rwa [runs_eq_iff.mpr hLaid]
  · exact fun hGives => ⟨runs text, runs_eq_iff.mp rfl, hGives⟩

section Reading
variable {variableName value : String} {mounts : List Mount}

theorem parseMounts_eq_ok_iff :
    parseMounts variableName value = .ok mounts ↔ Spells value.toList mounts := by
  rw [parseMounts, readMounts_eq_ok_iff, spells_iff]

theorem parseMounts_eq_error_iff {fault : MalformedMount} :
    parseMounts variableName value = .error fault ↔ fault.variableName = variableName ∧
      ∃ tokens, Laid tokens value.toList ∧ FirstBreach IsMount tokens fault.token.toList := by
  rw [parseMounts, readMounts_eq_error_iff]
  simp only [← runs_eq_iff, exists_eq_left']

end Reading

theorem Spells.unique {text : List Char} {mounts others : List Mount} (h : Spells text mounts)
    (hOthers : Spells text others) : mounts = others := by
  obtain ⟨-, rfl⟩ := spells_iff.mp h
  obtain ⟨-, rfl⟩ := spells_iff.mp hOthers
  rfl

section Joining
variable {mount : Mount} {mounts : List Mount} {text : List Char}

theorem Mount.IsToken.isRun (h : mount.IsToken) : IsRun mount.token :=
  ⟨by simp [Mount.token], h.blank⟩

theorem Mount.IsToken.gives (h : mount.IsToken) : TokenGives mount.token mount.host mount.guest :=
  ⟨rfl, h.host, h.colon, h.guest⟩

theorem endsRun_gap {gap : List Char} (hSome : gap ≠ []) (hGap : AllBlank gap)
    (rest : List Char) : EndsRun (gap ++ rest) := by
  cases gap with
  | nil => exact absurd rfl hSome
  | cons c gap =>
    rintro d ⟨⟩
    exact hGap c List.mem_cons_self

theorem Joins.laid (h : Joins mounts text) (hTokens : ∀ mount ∈ mounts, mount.IsToken) :
    Laid (mounts.map Mount.token) text := by
  induction h with
  | none => exact .blanks allBlank_nil
  | one mount =>
    have hRun := (hTokens mount List.mem_cons_self).isRun
    simpa using Laid.front hRun endsRun_nil (.blanks allBlank_nil)
  | @more mount next mounts gap text hSome hGap hJoins ih =>
    obtain ⟨hMount, hRest⟩ := List.forall_mem_cons.mp hTokens
    rw [List.append_assoc]
    exact ((ih hRest).gap hGap).front hMount.isRun (endsRun_gap hSome hGap text)

theorem Joins.spells (h : Joins mounts text) (hTokens : ∀ mount ∈ mounts, mount.IsToken) :
    Spells text mounts := by
  refine ⟨mounts.map Mount.token, h.laid hTokens, ?_⟩
  rw [List.forall₂_map_left_iff, List.forall₂_same]
  exact fun mount hMount => (hTokens mount hMount).gives

end Joining

/-- What the reading of a variable's value must be. -/
structure Grammar (variableName value : String)
    (answer : Except MalformedMount (List Mount)) : Prop where
  accepts : ∀ mounts, answer = .ok mounts ↔ Spells value.toList mounts
  unique : ∀ mounts others, Spells value.toList mounts → Spells value.toList others →
    mounts = others
  refuses : (∀ mounts, ¬Spells value.toList mounts) →
    ∃ tokens token, Laid tokens value.toList ∧ FirstBreach IsMount tokens token ∧
      answer = .error ⟨variableName, String.ofList token⟩
  joined : ∀ mounts, Joins mounts value.toList → (∀ mount ∈ mounts, mount.IsToken) →
    answer = .ok mounts

/-- The value of a folder variable is read by its grammar. -/
theorem grammar_parseMounts (variableName value : String) :
    Grammar variableName value (parseMounts variableName value) where
  accepts mounts := parseMounts_eq_ok_iff
  unique mounts others h hOthers := h.unique hOthers
  refuses hNone := by
    cases hParse : parseMounts variableName value with
    | ok mounts => exact absurd (parseMounts_eq_ok_iff.mp hParse) (hNone mounts)
    | error fault =>
      obtain ⟨rfl, tokens, hLaid, hFirst⟩ := parseMounts_eq_error_iff.mp hParse
      refine ⟨tokens, fault.token.toList, hLaid, hFirst, ?_⟩
      rw [String.ofList_toList]
  joined mounts hJoins hTokens := parseMounts_eq_ok_iff.mpr (hJoins.spells hTokens)

example :
    parseMounts "MOUNTS" "\u00a0/a:/b:c\u2003 /a:/d /e" = .error ⟨"MOUNTS", "/e"⟩ := rfl

end Fleet.Folders
