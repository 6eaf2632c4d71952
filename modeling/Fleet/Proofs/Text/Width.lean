import Fleet.Text.Width

/-!
# The width of plain text

A plain character takes one column and never joins its neighbours, so plain text is as wide as it is
long.
-/
namespace Fleet.Text
variable {c : Char} {before after text : List Char}

/-- Printable ASCII, or a sign to draw boxes with. -/
def IsPlain (c : Char) : Prop :=
  0x20 ≤ c.toNat ∧ c.toNat < 0x7F ∨ 0x2500 ≤ c.toNat ∧ c.toNat < 0x2580

instance : DecidablePred IsPlain := fun _ => inferInstanceAs (Decidable (_ ∨ _))

theorem within_eq_false {ranges : List (Nat × Nat)} {n first last : Nat}
    (h : ∀ range ∈ ranges, range.2 < first ∨ last < range.1) (hFirst : first ≤ n)
    (hLast : n ≤ last) : within ranges n = false := by
  rw [within, List.any_eq_false]
  intro range hRange
  have hApart := h range hRange
  simp only [Bool.and_eq_true, decide_eq_true_eq]
  omega

theorem charWidth_of_isPlain (h : IsPlain c) : charWidth c = 1 := by
  obtain ⟨-, hBelow⟩ | ⟨hFrom, hBelow⟩ := h
  · rw [charWidth, if_pos (by omega)]
  · have hTo : c.toNat ≤ 0x257F := by omega
    have hZero : within zeroWidthRanges c.toNat = false :=
      within_eq_false (by decide +kernel) hFrom hTo
    have hWide : within wideRanges c.toNat = false :=
      within_eq_false (by decide +kernel) hFrom hTo
    have hMark : (c.toNat = 0x115F || c.toNat = 0x17A4) = false := by
      simp only [Bool.or_eq_false_iff, decide_eq_false_iff_not]
      omega
    simp only [charWidth, hZero, hWide, hMark]
    rw [if_neg (by omega), if_neg (by omega)]
    rfl

theorem ne_of_isPlain {d : Char} (h : IsPlain c) (hd : ¬IsPlain d) : c ≠ d := by
  rintro rfl
  exact hd h

theorem isSkinTone_of_isPlain (h : IsPlain c) : isSkinTone c = false := by
  rw [isSkinTone, Bool.and_eq_false_iff]
  left
  simp only [decide_eq_false_iff_not]
  obtain h | h := h <;> omega

theorem isAlef_of_isPlain (h : IsPlain c) : isAlef c = false := by
  simp only [isAlef, Bool.or_eq_false_iff, Bool.and_eq_false_iff, beq_eq_false_iff_ne,
    decide_eq_false_iff_not]
  obtain h | h := h <;> omega

theorem isLisuTone_of_isPlain {first : Nat} (hFirst : 0x2580 ≤ first) (last : Nat) (h : IsPlain c) :
    isLisuTone first last c = false := by
  rw [isLisuTone, Bool.and_eq_false_iff]
  left
  simp only [decide_eq_false_iff_not]
  obtain h | h := h <;> omega

theorem joinsBefore_of_isPlain (hBefore : ∀ b ∈ before, IsPlain b) (h : IsPlain c) :
    joinsBefore before c = false := by
  cases before with
  | nil => rfl
  | cons b rest =>
    have hLine : c ≠ '\n' := ne_of_isPlain h (by decide)
    have hJoiner : b ≠ joiner := ne_of_isPlain (hBefore b List.mem_cons_self) (by decide)
    have hLisu : isLisuTone 0xA4FC 0xA4FD c = false := isLisuTone_of_isPlain (by decide) _ h
    simp [joinsBefore, hLine, hJoiner, isSkinTone_of_isPlain h, isAlef_of_isPlain h, hLisu]

theorem advance_of_isPlain (hBefore : ∀ b ∈ before, IsPlain b) (h : IsPlain c)
    (hAfter : ∀ d ∈ after, IsPlain d) : advance before c after = 1 := by
  cases after with
  | nil =>
    rw [advance, joinsBefore_of_isPlain hBefore h]
    exact charWidth_of_isPlain h
  | cons d rest =>
    have hd := hAfter d List.mem_cons_self
    have hEmoji : d ≠ emojiStyle := ne_of_isPlain hd (by decide)
    have hText : d ≠ textStyle := ne_of_isPlain hd (by decide)
    simp [advance, joinsBefore_of_isPlain hBefore h, hEmoji, hText, isSkinTone_of_isPlain hd,
      charWidth_of_isPlain h]

theorem widthAfter_of_isPlain (hBefore : ∀ b ∈ before, IsPlain b) (h : ∀ c ∈ text, IsPlain c) :
    widthAfter before text = text.length := by
  induction text generalizing before with
  | nil => rfl
  | cons c rest ih =>
    obtain ⟨hc, hRest⟩ := List.forall_mem_cons.mp h
    rw [widthAfter, advance_of_isPlain hBefore hc hRest,
      ih (List.forall_mem_cons.mpr ⟨hc, hBefore⟩) hRest, List.length_cons, Nat.add_comm]

theorem width_of_isPlain (h : ∀ c ∈ text, IsPlain c) : width text = text.length :=
  widthAfter_of_isPlain (List.forall_mem_nil _) h

end Fleet.Text
