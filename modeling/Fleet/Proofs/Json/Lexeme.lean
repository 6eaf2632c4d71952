import Fleet.Json.Printer
import Fleet.Json.Scan
import Mathlib.Data.List.TakeDrop

/-!
# Lexemes read back

A string that was written is read back to itself, and so is an integer of 64 bits, whatever
follows. A string ends at its own closing quote, since every quote inside is escaped. An integer
has no end of its own: what follows must not continue a number.
-/
namespace Fleet.Json

section Spans
variable {p : Char → Bool} {front rest : List Char}

theorem takeWhile_append_of_head (hFront : ∀ c ∈ front, p c = true)
    (hRest : ∀ c ∈ rest.head?, p c = false) : (front ++ rest).takeWhile p = front := by
  rw [List.takeWhile_append_of_pos hFront]
  cases rest with
  | nil => simp
  | cons c rest => simp [hRest c rfl]

theorem dropWhile_append_of_head (hFront : ∀ c ∈ front, p c = true)
    (hRest : ∀ c ∈ rest.head?, p c = false) : (front ++ rest).dropWhile p = rest := by
  rw [List.dropWhile_append_of_pos hFront]
  cases rest with
  | nil => simp
  | cons c rest => simp [hRest c rfl]

end Spans

/-- What a test admits is none of the characters that it does not. -/
theorem ne_of_test {p : Char → Bool} {c d : Char} (hc : p c = true) (hd : p d = false) :
    c ≠ d := by
  rintro rfl
  rw [hc] at hd
  cases hd

theorem skipSpace_append {blanks : List Char} (h : ∀ c ∈ blanks, isSpace c = true)
    (rest : List Char) : skipSpace (blanks ++ rest) = skipSpace rest :=
  List.dropWhile_append_of_pos h

theorem skipSpace_cons {c : Char} (h : isSpace c = false) (rest : List Char) :
    skipSpace (c :: rest) = c :: rest :=
  List.dropWhile_cons_of_neg (by simp [h])

section Strings

theorem hexValue_hexDigit {n : Nat} (h : n < 16) : hexValue (hexDigit n) = some n := by
  have hAll : ∀ m : Fin 16, hexValue (hexDigit m) = some m.val := by decide
  exact hAll ⟨n, h⟩

theorem utf8Size_hexDigit {n : Nat} (h : n < 16) : (hexDigit n).utf8Size = 1 := by
  have hAll : ∀ m : Fin 16, (hexDigit m).utf8Size = 1 := by decide
  exact hAll ⟨n, h⟩

/-- The escape of a control character without a short one. -/
theorem readUnicode_control {c : Char} (h : c.toNat < 32) (rest : List Char) :
    readUnicode ('0' :: '0' :: hexDigit (c.toNat / 16) :: hexDigit (c.toNat % 16) :: rest) =
      .ok (c, rest) := by
  have hHigh : c.toNat / 16 < 16 := by omega
  have hLow : c.toNat % 16 < 16 := by omega
  have hHex : readHex ('0' :: '0' :: hexDigit (c.toNat / 16) :: hexDigit (c.toNat % 16) :: rest) =
      .ok (c.toNat, rest) := by
    have hZero : hexValue '0' = some 0 := by decide
    have hLength : Text.byteLength
        ['0', '0', hexDigit (c.toNat / 16), hexDigit (c.toNat % 16)] = 4 := by
      simp [Text.byteLength, utf8Size_hexDigit hHigh, utf8Size_hexDigit hLow]
      decide
    simp only [readHex, List.take_succ_cons, List.take_zero, hLength, hZero,
      hexValue_hexDigit hHigh, hexValue_hexDigit hLow]
    simp
    omega
  have hNotLow : ¬0xDC00 ≤ c.toNat := by omega
  have hNotHigh : ¬0xD800 ≤ c.toNat := by omega
  simp [readUnicode, hHex, hNotLow, hNotHigh, bind, Except.bind]

/-- Every character is read back from its escape, which no other text can cut short. -/
theorem readCharacter_escapeChar (c : Char) (rest : List Char) :
    readCharacter (escapeChar c ++ rest) = .ok (some c, rest) := by
  have hShort (letter plain : Char) (hLetter : letter ≠ 'u')
      (hSimple : simpleEscape letter = some plain) :
      readCharacter ('\\' :: letter :: rest) = .ok (some plain, rest) := by
    simp [readCharacter, readEscape, hLetter, hSimple, Except.map]
  unfold escapeChar
  split
  · rename_i h
    subst h
    exact hShort '"' '"' (by decide) rfl
  split
  · rename_i h
    subst h
    exact hShort '\\' '\\' (by decide) rfl
  split
  · rename_i h
    subst h
    exact hShort 'n' '\n' (by decide) rfl
  split
  · rename_i h
    subst h
    exact hShort 'r' '\r' (by decide) rfl
  split
  · rename_i h
    subst h
    exact hShort 't' '\t' (by decide) rfl
  split
  · rename_i h
    have hc : Char.ofNat 8 = c := by rw [← h, Char.ofNat_toNat]
    exact hc ▸ hShort 'b' (Char.ofNat 8) (by decide) rfl
  split
  · rename_i h
    have hc : Char.ofNat 12 = c := by rw [← h, Char.ofNat_toNat]
    exact hc ▸ hShort 'f' (Char.ofNat 12) (by decide) rfl
  split
  · rename_i h
    have hUnicode := readUnicode_control h rest
    simp [readCharacter, readEscape, hUnicode, Except.map]
  · rename_i hQuote hSlash _ _ _ _ _ hControl
    have hPlain : ¬c.toNat < 0x20 := hControl
    simp [readCharacter, hQuote, hSlash, hPlain]

theorem escapeChar_ne_nil (c : Char) : escapeChar c ≠ [] := by
  unfold escapeChar
  repeat' split
  all_goals simp

theorem readCharacters_escaped (chars rest : List Char) {fuel : Nat} (h : chars.length < fuel) :
    readCharacters fuel (chars.flatMap escapeChar ++ '"' :: rest) = .ok (chars, rest) := by
  induction chars generalizing fuel with
  | nil =>
    cases fuel with
    | zero => cases h
    | succ fuel => simp [readCharacters, readCharacter]
  | cons c chars ih =>
    cases fuel with
    | zero => cases h
    | succ fuel =>
      have hLess : chars.length < fuel := by simpa using h
      have hRest := ih hLess
      rw [List.flatMap_cons, List.append_assoc, readCharacters, readCharacter_escapeChar]
      simp [hRest, Except.map]

theorem length_le_flatMap_escapeChar (chars : List Char) :
    chars.length ≤ (chars.flatMap escapeChar).length := by
  induction chars with
  | nil => simp
  | cons c chars ih =>
    have hPos : 0 < (escapeChar c).length := List.length_pos_iff.mpr (escapeChar_ne_nil c)
    simp only [List.flatMap_cons, List.length_cons, List.length_append]
    omega

/-- A string is read back after its opening quote. -/
theorem readString_escaped (s : String) (rest : List Char) :
    readString (s.toList.flatMap escapeChar ++ '"' :: rest) = .ok (s, rest) := by
  have hFuel : s.toList.length < (s.toList.flatMap escapeChar ++ '"' :: rest).length + 1 := by
    have hLength := length_le_flatMap_escapeChar s.toList
    simp only [List.length_append]
    omega
  rw [readString, readCharacters_escaped s.toList rest hFuel]
  simp [Except.map]

end Strings

section Numbers

/-- No number goes on here. -/
def EndsNumber (rest : List Char) : Prop :=
  ∀ c ∈ rest.head?, c.isDigit = false ∧ c ≠ '.' ∧ c ≠ 'e' ∧ c ≠ 'E'

theorem le_ofDigitChars (digits : List Char) (value : Nat) :
    value ≤ Nat.ofDigitChars 10 digits value := by
  induction digits generalizing value with
  | nil => exact Nat.le_refl value
  | cons c rest ih =>
    rw [Nat.ofDigitChars_cons]
    exact Nat.le_trans (by omega) (ih _)

/-- Digits of a number that fits 64 bits are all taken. -/
theorem addDigits_of_fits {digits : List Char} {value : Nat}
    (h : Nat.ofDigitChars 10 digits value < Number.unsignedEnd.toNat) :
    addDigits value digits = (Nat.ofDigitChars 10 digits value, []) := by
  induction digits generalizing value with
  | nil => rfl
  | cons c rest ih =>
    rw [Nat.ofDigitChars_cons] at h ⊢
    have hNext : value * 10 + (c.toNat - '0'.toNat) = 10 * value + (c.toNat - '0'.toNat) := by omega
    have hStep : 10 * value + (c.toNat - '0'.toNat) < Number.unsignedEnd.toNat :=
      Nat.lt_of_le_of_lt (le_ofDigitChars _ _) h
    simp only [addDigits, hNext, if_pos hStep]
    exact ih h

theorem addDigits_toDigits {n : Nat} (h : n < Number.unsignedEnd.toNat) :
    addDigits 0 (Nat.toDigits 10 n) = (n, []) := by
  have hValue : Nat.ofDigitChars 10 (Nat.toDigits 10 n) 0 = n := Nat.ofDigitChars_ten_toDigits
  rw [addDigits_of_fits (by rwa [hValue]), hValue]

theorem isDigit_of_mem_toDigits {n : Nat} {c : Char} (h : c ∈ Nat.toDigits 10 n) :
    c.isDigit = true :=
  Nat.isDigit_of_mem_toDigits (by decide) (by decide) h

theorem toDigits_of_pos {n : Nat} (h : 0 < n) :
    ∃ c rest, Nat.toDigits 10 n = c :: rest ∧ c ≠ '0' := by
  induction n using Nat.strongRecOn with
  | ind n ih =>
    by_cases hSmall : n < 10
    · refine ⟨n.digitChar, [], Nat.toDigits_of_lt_base hSmall, ?_⟩
      rw [ne_eq, Nat.digitChar_eq_zero]
      omega
    · obtain ⟨c, rest, hDigits, hZero⟩ := ih (n / 10) (by omega) (by omega)
      refine ⟨c, rest ++ [(n % 10).digitChar], ?_, hZero⟩
      rw [Nat.toDigits_of_base_le (by decide) (by omega), hDigits, List.cons_append]

/-- Decimal digits start with a zero only if that is all. -/
theorem toDigits_eq_cons (n : Nat) :
    ∃ c rest, Nat.toDigits 10 n = c :: rest ∧ c.isDigit = true ∧ (c = '0' → rest = []) := by
  have hDigit (c : Char) (rest : List Char) (h : Nat.toDigits 10 n = c :: rest) :
      c.isDigit = true := isDigit_of_mem_toDigits (h ▸ List.mem_cons_self)
  rcases Nat.eq_zero_or_pos n with rfl | hPos
  · exact ⟨'0', [], Nat.toDigits_zero 10, by decide, fun _ => rfl⟩
  · obtain ⟨c, rest, hDigits, hZero⟩ := toDigits_of_pos hPos
    exact ⟨c, rest, hDigits, hDigit c rest hDigits, fun h => absurd h hZero⟩

/-- The digits of a number are read up to its end. -/
theorem readMagnitude_toDigits (negative : Bool) {n : Nat} (hFits : n < Number.unsignedEnd.toNat)
    {rest : List Char} (h : EndsNumber rest) :
    readMagnitude negative (Nat.toDigits 10 n ++ rest) = wholeNumber negative n rest := by
  have hAll : ∀ c ∈ Nat.toDigits 10 n, c.isDigit = true := fun c hc => isDigit_of_mem_toDigits hc
  have hTake := takeWhile_append_of_head hAll fun c hc => (h c hc).1
  have hDrop := dropWhile_append_of_head hAll fun c hc => (h c hc).1
  obtain ⟨c, more, hDigits, hDigit, hZero⟩ := toDigits_eq_cons n
  have hLeading : (c = '0' && ((more ++ rest).head?.any Char.isDigit)) = false := by
    by_cases hc : c = '0'
    · rw [hZero hc]
      cases rest with
      | nil => simp
      | cons d rest => simp [(h d rfl).1]
    · simp [hc]
  have hText : Nat.toDigits 10 n ++ rest = c :: (more ++ rest) := by
    rw [hDigits, List.cons_append]
  rw [hText, readMagnitude, ← hText, hTake, hDrop, addDigits_toDigits hFits]
  simp only [hDigit, hLeading, Bool.not_true, Bool.false_eq_true, if_false]
  cases rest with
  | nil => rfl
  | cons d rest =>
    obtain ⟨-, hPoint, hLower, hUpper⟩ := h d rfl
    simp [hPoint, hLower, hUpper]

/-- An integer that fits 64 bits stays an integer; only the negative zero would not. -/
theorem wholeNumber_of_fits {negative : Bool} {n : Nat} {value : Int}
    (hValue : value = if negative then -(n : Int) else n) (hFits : Number.fits value = true)
    (hZero : negative = true → n ≠ 0) (rest : List Char) :
    wholeNumber negative n rest = .ok (.whole value, rest) := by
  subst hValue
  have hNoZero : (negative && n == 0) = false := by
    cases negative with
    | false => rfl
    | true => simpa using hZero rfl
  rw [wholeNumber]
  simp only [hFits, hNoZero, Bool.not_false, Bool.and_self, if_true]

end Numbers

end Fleet.Json
