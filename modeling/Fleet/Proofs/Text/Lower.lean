import Fleet.Text.Letter
import Mathlib.Data.List.Basic

/-!
# Lower case is final

A text in lower case stays as it is when it is folded again. The runs of capital letters decide it:
the small letters of a run are capitals of no run. A run is an interval with a step, so that is
read off the ends of two runs, and where their intervals meet, off their parity.
-/
namespace Fleet.Text

namespace CaseRun

def Covers (run : CaseRun) (n : Nat) : Prop :=
  run.first ≤ n ∧ n ≤ run.last ∧ (n - run.first) % run.step = 0

def low (run : CaseRun) : Nat := (run.first + run.distance).toNat

def high (run : CaseRun) : Nat := (run.last + run.distance).toNat

/-- No small letter of `run` is a capital of `other`. -/
def clears (run other : CaseRun) : Bool :=
  run.high.blt other.first || other.last.blt run.low ||
    (run.step == 2 || run.first == run.last) && other.step == 2 && run.low % 2 != other.first % 2

/-- The small letters of the run are characters, other than the dotted capital I, and those within
ASCII are the letters there. -/
def lands (run : CaseRun) : Bool :=
  0 < run.first + run.distance && (run.high < 0x130 || 0x130 < run.low) &&
    (0x61 ≤ run.low && run.high ≤ 0x7A || 0x80 ≤ run.low && run.high < 0xD800 ||
      0xE000 ≤ run.low && run.high < 0x110000)

variable {run other : CaseRun} {n : Nat}

theorem Covers.image (h : run.Covers n) (hLands : run.lands) :
    run.low ≤ (n + run.distance).toNat ∧ (n + run.distance).toNat ≤ run.high ∧
      (run.step = 2 ∨ run.first = run.last → (n + run.distance).toNat % 2 = run.low % 2) := by
  obtain ⟨hFirst, hLast, hStep⟩ := h
  simp only [lands, Bool.and_eq_true, decide_eq_true_eq] at hLands
  have hPositive := hLands.1.1
  unfold low high
  refine ⟨by omega, by omega, ?_⟩
  rintro (hTwo | hOne)
  · rw [hTwo] at hStep
    omega
  · omega

theorem not_covers_image (hClears : run.clears other) (hLands : run.lands) (h : run.Covers n) :
    ¬other.Covers (n + run.distance).toNat := by
  obtain ⟨hLow, hHigh, hSame⟩ := h.image hLands
  rintro ⟨hFirst, hLast, hStep⟩
  simp only [clears, Bool.or_eq_true, Bool.and_eq_true, Nat.blt_eq, beq_iff_eq, bne_iff_ne]
    at hClears
  rcases hClears with (hBelow | hAbove) | ⟨⟨hRun, hOther⟩, hParity⟩
  · omega
  · omega
  · have hSame := hSame hRun
    rw [hOther] at hStep
    omega

end CaseRun

theorem caseRuns_clear : (caseRuns.all fun run => caseRuns.all run.clears) = true := by
  decide +kernel

theorem caseRuns_land : caseRuns.all CaseRun.lands = true := by
  decide +kernel

/-- The run that changes a letter beyond ASCII. -/
def runOf? (n : Nat) : Option CaseRun :=
  caseRuns.find? fun run => run.first ≤ n && n ≤ run.last && (n - run.first) % run.step == 0

theorem runOf?_eq_none_iff {n : Nat} : runOf? n = none ↔ ∀ run ∈ caseRuns, ¬run.Covers n := by
  simp [runOf?, CaseRun.Covers]

theorem covers_of_runOf? {n : Nat} {run : CaseRun} (h : runOf? n = some run) :
    run ∈ caseRuns ∧ run.Covers n := by
  refine ⟨List.mem_of_find?_eq_some h, ?_⟩
  simpa [CaseRun.Covers, and_assoc] using List.find?_some h

/-- The small letters of a run are not changed again. -/
theorem runOf?_image {n : Nat} {run : CaseRun} (h : runOf? n = some run) :
    runOf? (n + run.distance).toNat = none := by
  obtain ⟨hMem, hCovers⟩ := covers_of_runOf? h
  have hLands := List.all_eq_true.mp caseRuns_land run hMem
  rw [runOf?_eq_none_iff]
  intro other hOther
  have hClears := List.all_eq_true.mp (List.all_eq_true.mp caseRuns_clear run hMem) other hOther
  exact CaseRun.not_covers_image hClears hLands hCovers

/-- A character that lower case leaves alone wherever it stands. -/
def Settled (c : Char) : Prop := smallForm c = c ∧ c.toNat ≠ 0x130 ∧ c.toNat ≠ 0x3A3

instance (c : Char) : Decidable (Settled c) := inferInstanceAs (Decidable (_ ∧ _))

/-- The characters of ASCII, checked one by one. -/
theorem settled_toLower : ∀ n < 0x80, Settled (Char.ofNat n).toLower := by
  decide +kernel

theorem smallForm_of_ascii {c : Char} (h : c.toNat < 0x80) : smallForm c = c.toLower := by
  rw [smallForm, if_pos h]

theorem smallForm_of_not_ascii {c : Char} (h : ¬c.toNat < 0x80) :
    smallForm c =
      (runOf? c.toNat).elim c fun run => Char.ofNat (c.toNat + run.distance).toNat := by
  rw [smallForm, if_neg h, runOf?]
  cases caseRuns.find? _ <;> rfl

theorem settled_small : ∀ n < 0x7B, 0x61 ≤ n → Settled (Char.ofNat n) := by
  decide +kernel

/-- A letter that is no special case becomes one that stays. -/
theorem settled_smallForm {c : Char} (hDotted : c.toNat ≠ 0x130) (hSigma : c.toNat ≠ 0x3A3) :
    Settled (smallForm c) := by
  by_cases hAscii : c.toNat < 0x80
  · rw [smallForm_of_ascii hAscii]
    have h := settled_toLower c.toNat hAscii
    rwa [Char.ofNat_toNat] at h
  · rw [smallForm_of_not_ascii hAscii]
    cases hRun : runOf? c.toNat with
    | none =>
      rw [Option.elim_none]
      exact ⟨by rw [smallForm_of_not_ascii hAscii, hRun, Option.elim_none], hDotted, hSigma⟩
    | some run =>
      have hNone := runOf?_image hRun
      obtain ⟨hMem, hCovers⟩ := covers_of_runOf? hRun
      have hLands := List.all_eq_true.mp caseRuns_land run hMem
      obtain ⟨hLow, hHigh, -⟩ := hCovers.image hLands
      simp only [Option.elim_some]
      generalize (c.toNat + run.distance).toNat = small at hNone hLow hHigh ⊢
      simp only [CaseRun.lands, Bool.and_eq_true, Bool.or_eq_true, decide_eq_true_eq] at hLands
      obtain ⟨⟨-, hNot⟩, hRange⟩ := hLands
      by_cases hSmall : small < 0x80
      · exact settled_small small (by omega) (by omega)
      · have hValid : small.isValidChar := by
          unfold Nat.isValidChar
          omega
        have hNat : (Char.ofNat small).toNat = small := by
          rw [Char.ofNat, dif_pos hValid]
          rfl
        refine ⟨?_, by omega, ?_⟩
        · rw [smallForm_of_not_ascii (by omega), hNat, hNone, Option.elim_none]
        · -- The capital sigma is a letter of a run, so no small letter is one.
          rw [hNat]
          rintro rfl
          revert hNone
          decide +kernel

theorem lowerAfter_of_settled {text : List Char} (h : ∀ c ∈ text, Settled c)
    (before : List Char) : lowerAfter before text = text := by
  induction text generalizing before with
  | nil => rfl
  | cons c rest ih =>
    obtain ⟨⟨hForm, hDotted, hSigma⟩, hRest⟩ := List.forall_mem_cons.mp h
    rw [lowerAfter, if_neg hDotted, if_neg hSigma, hForm, ih hRest, List.singleton_append]

theorem settled_of_mem_lowerAfter {before text : List Char} :
    ∀ c ∈ lowerAfter before text, Settled c := by
  induction text generalizing before with
  | nil => simp [lowerAfter]
  | cons c rest ih =>
    rw [lowerAfter]
    intro small hSmall
    rcases List.mem_append.mp hSmall with hHead | hTail
    · split at hHead
      · rcases List.mem_pair.mp hHead with rfl | rfl <;> decide +kernel
      · next hDotted =>
        split at hHead
        · rw [List.mem_singleton.mp hHead]
          split <;> decide +kernel
        · next hSigma =>
          rw [List.mem_singleton.mp hHead]
          exact settled_smallForm hDotted hSigma
    · exact ih small hTail

@[simp] theorem lower_lower (s : String) : lower (lower s) = lower s := by
  unfold lower
  rw [String.toList_ofList, lowerAfter_of_settled settled_of_mem_lowerAfter]

theorem lower_eq_self_iff {s : String} : lower s = s ↔ ∀ c ∈ s.toList, Settled c := by
  constructor
  · intro h c hChar
    rw [← h, lower, String.toList_ofList] at hChar
    exact settled_of_mem_lowerAfter c hChar
  · intro h
    rw [lower, lowerAfter_of_settled h, String.ofList_toList]

end Fleet.Text
