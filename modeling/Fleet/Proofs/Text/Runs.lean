import Fleet.Text.Blank
import Mathlib.Data.List.Basic

/-!
# Texts made of runs and blanks

`Laid runs text` says that the text is the runs in their order with blanks around them: as many as
one likes in front of each run and at the end, but at least one between two runs, as a run must
not go on. That determines the runs, and cutting a text finds them.
-/
namespace Fleet.Text

def AllBlank (text : List Char) : Prop := ∀ c ∈ text, isBlank c = true

/-- At least one character, and no blank. -/
def IsRun (text : List Char) : Prop := text ≠ [] ∧ ∀ c ∈ text, isBlank c = false

/-- A run ends in front of this text: it is at its end, or a blank comes first. -/
def EndsRun (rest : List Char) : Prop := ∀ c ∈ rest.head?, isBlank c = true

inductive Laid : List (List Char) → List Char → Prop where
  | blanks {gap : List Char} : AllBlank gap → Laid [] gap
  | run {gap run rest : List Char} {runs : List (List Char)} :
      AllBlank gap → IsRun run → EndsRun rest → Laid runs rest →
        Laid (run :: runs) (gap ++ run ++ rest)

/-- Holds by computation; the equations that Lean derives for `runs` unfold `isBlank` without end. -/
theorem runs_cons (c : Char) (rest : List Char) :
    runs (c :: rest) =
      if isBlank c then runs rest
      else
        match rest, runs rest with
        | d :: _, run :: more => if isBlank d then [c] :: run :: more else (c :: run) :: more
        | _, more => [c] :: more := rfl

@[simp] theorem allBlank_nil : AllBlank [] := by simp [AllBlank]

@[simp] theorem endsRun_nil : EndsRun [] := by simp [EndsRun]

theorem runs_blank {c : Char} (h : isBlank c = true) (rest : List Char) :
    runs (c :: rest) = runs rest := by
  rw [runs_cons, if_pos h]

theorem runs_gap {gap : List Char} (h : AllBlank gap) (rest : List Char) :
    runs (gap ++ rest) = runs rest := by
  induction gap with
  | nil => rfl
  | cons c gap ih =>
    obtain ⟨hBlank, hGap⟩ := List.forall_mem_cons.mp h
    rw [List.cons_append, runs_blank hBlank, ih hGap]

/-- A character in front of a blank or of the end is a run of its own. -/
theorem runs_last {c : Char} {rest : List Char} (hc : isBlank c = false) (h : EndsRun rest) :
    runs (c :: rest) = [c] :: runs rest := by
  rw [runs_cons, hc]
  cases rest with
  | nil => rfl
  | cons d rest =>
    have hBlank : isBlank d = true := h d rfl
    cases runs (d :: rest) <;> simp [hBlank]

/-- A character in front of a run joins it. -/
theorem runs_more {c d : Char} {rest run : List Char} {more : List (List Char)}
    (hc : isBlank c = false) (hd : isBlank d = false) (h : runs (d :: rest) = run :: more) :
    runs (c :: d :: rest) = (c :: run) :: more := by
  rw [runs_cons, hc, h]
  simp [hd]

theorem runs_run {run rest : List Char} (hRun : IsRun run) (hRest : EndsRun rest) :
    runs (run ++ rest) = run :: runs rest := by
  obtain ⟨hSome, hChars⟩ := hRun
  induction run with
  | nil => exact absurd rfl hSome
  | cons c run ih =>
    obtain ⟨hc, hChars⟩ := List.forall_mem_cons.mp hChars
    cases run with
    | nil => exact runs_last hc hRest
    | cons d run =>
      exact runs_more hc (hChars d List.mem_cons_self) (ih (by simp) hChars)

theorem runs_eq_of_laid {text : List Char} {pieces : List (List Char)} (h : Laid pieces text) :
    runs text = pieces := by
  induction h with
  | blanks hGap =>
    have hNone := runs_gap hGap []
    rwa [List.append_nil] at hNone
  | run hGap hRun hEnds _ ih =>
    rw [List.append_assoc, runs_gap hGap, runs_run hRun hEnds, ih]

theorem Laid.front {run rest : List Char} {pieces : List (List Char)} (hRun : IsRun run)
    (hEnds : EndsRun rest) (h : Laid pieces rest) : Laid (run :: pieces) (run ++ rest) :=
  .run allBlank_nil hRun hEnds h

theorem Laid.gap {gap text : List Char} {pieces : List (List Char)} (hGap : AllBlank gap)
    (h : Laid pieces text) : Laid pieces (gap ++ text) := by
  cases h with
  | blanks hMore => exact .blanks (List.forall_mem_append.mpr ⟨hGap, hMore⟩)
  | run hMore hRun hEnds hRest =>
    rw [List.append_assoc, ← List.append_assoc, ← List.append_assoc]
    exact .run (List.forall_mem_append.mpr ⟨hGap, hMore⟩) hRun hEnds hRest

/-- A character in front of a text that starts with a run joins that run. -/
theorem Laid.join {rest : List Char} {pieces : List (List Char)} {c d : Char}
    (hc : isBlank c = false) (hd : isBlank d = false) (h : Laid pieces (d :: rest)) :
    ∃ joined, Laid joined (c :: d :: rest) := by
  have hNot {gap : List Char} (hGap : AllBlank gap) : d ∉ gap := by
    intro hMem
    have hBlank := hGap d hMem
    rw [hd] at hBlank
    cases hBlank
  generalize hText : d :: rest = text at h
  cases h with
  | blanks hGap => exact absurd (hText ▸ List.mem_cons_self) (hNot hGap)
  | @run gap run tail runs hGap hRun hEnds hTail =>
    cases gap with
    | nil =>
      have hJoined : IsRun (c :: run) := ⟨by simp, List.forall_mem_cons.mpr ⟨hc, hRun.2⟩⟩
      exact ⟨_, hTail.front hJoined hEnds⟩
    | cons e gap =>
      obtain ⟨rfl, -⟩ := List.cons.inj hText
      exact absurd List.mem_cons_self (hNot hGap)

/-- Every text is made of runs and blanks. -/
theorem exists_laid (text : List Char) : ∃ pieces, Laid pieces text := by
  induction text with
  | nil => exact ⟨[], .blanks allBlank_nil⟩
  | cons c rest ih =>
    obtain ⟨pieces, hRest⟩ := ih
    by_cases hc : isBlank c = true
    · have hGap : AllBlank [c] := by simpa [AllBlank] using hc
      exact ⟨pieces, hRest.gap hGap⟩
    · rw [Bool.not_eq_true] at hc
      by_cases hEnds : EndsRun rest
      · have hRun : IsRun [c] := ⟨by simp, by simpa using hc⟩
        exact ⟨_, hRest.front hRun hEnds⟩
      · cases rest with
        | nil => exact absurd endsRun_nil hEnds
        | cons d rest => exact hRest.join hc (by simpa [EndsRun] using hEnds)

theorem runs_eq_iff {text : List Char} {pieces : List (List Char)} :
    runs text = pieces ↔ Laid pieces text := by
  constructor
  · rintro rfl
    obtain ⟨pieces, hLaid⟩ := exists_laid text
    rwa [runs_eq_of_laid hLaid]
  · exact runs_eq_of_laid

end Fleet.Text
