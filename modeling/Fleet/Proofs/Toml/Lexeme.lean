import Fleet.Proofs.Json.Lexeme
import Fleet.Toml.Reader
import Fleet.Toml.Tree
import Mathlib.Data.List.Forall2
import Mathlib.Data.Option.Basic

/-!
# TOML strings and integers that were written

`Writes` relates a value to the texts that may be written for it: a string between double quotes,
each character as itself where that is allowed or as one of its escapes, and a natural number of
63 bits as its decimal digits. Whichever text is chosen, the reader of values takes it to an item
that shows the value, up to the end of its line.
-/
namespace Fleet.Toml
open Json (dropWhile_append_of_head isDigit_of_mem_toDigits ne_of_test takeWhile_append_of_head
  toDigits_eq_cons)

/-- The escapes of one letter, with the characters that they stand for. -/
def shortForms : List (Char × Char) :=
  [('b', Char.ofNat 8), ('t', '\t'), ('n', '\n'), ('f', Char.ofNat 12), ('r', '\r'), ('"', '"'),
    ('\\', '\\')]

/-- The digits are hexadecimal ones of the number, in either letter case. -/
def IsHex (digits : List Char) (n : Nat) : Prop :=
  ∃ values : List Nat,
    List.Forall₂ (fun c v => v < 16 ∧ (c = v.digitChar ∨ c = v.digitChar.toUpper)) digits values ∧
      values.foldl (fun sum v => sum * 16 + v) 0 = n

/-- The forms of a character inside double quotes. -/
inductive Spells (c : Char) : List Char → Prop where
  | plain : c = '\t' ∨ (0x20 ≤ c.toNat ∧ c.toNat ≠ 0x7F) → c ≠ '"' → c ≠ '\\' → Spells c [c]
  | short {letter : Char} : (letter, c) ∈ shortForms → Spells c ['\\', letter]
  | four {digits : List Char} : digits.length = 4 → IsHex digits c.toNat →
      Spells c ('\\' :: 'u' :: digits)
  | eight {digits : List Char} : digits.length = 8 → IsHex digits c.toNat →
      Spells c ('\\' :: 'U' :: digits)

/-- The text is the string between double quotes. -/
def Quotes (s : String) (text : List Char) : Prop :=
  ∃ forms, List.Forall₂ Spells s.toList forms ∧ text = '"' :: (forms.flatten ++ ['"'])

inductive Writes : Json → List Char → Prop where
  | string {s : String} {text : List Char} : Quotes s text → Writes (.string s) text
  | natural {n : Nat} : (n : Int) < Number.signedEnd → Writes (.natural n) (Nat.toDigits 10 n)

/-- Wherever it stands, the item is read as this value. -/
def Item.Shows (item : Item) (value : Json) : Prop := ∀ place, (item.tree place).value = .ok value

/-- A line ends here. -/
def EndsLine (rest : List Char) : Prop := ∀ c ∈ rest.head?, c = '\n' ∨ c = '\r'

section Strings

theorem hexDigit?_digitChar {v : Nat} (h : v < 16) :
    hexDigit? v.digitChar = some v ∧ hexDigit? v.digitChar.toUpper = some v := by
  have hAll : ∀ v < 16,
      hexDigit? v.digitChar = some v ∧ hexDigit? v.digitChar.toUpper = some v := by decide
  exact hAll v h

theorem IsHex.hexValue? {digits : List Char} {n : Nat} (h : IsHex digits n) :
    hexValue? digits = some n := by
  obtain ⟨values, hDigits, rfl⟩ := h
  have hFold (sum : Nat) : digits.foldlM (fun sum c => (hexDigit? c).map (sum * 16 + ·)) sum =
      some (values.foldl (fun sum v => sum * 16 + v) sum) := by
    induction hDigits generalizing sum with
    | nil => rfl
    | cons hDigit _ ih =>
      obtain ⟨hSmall, rfl | rfl⟩ := hDigit
      · simp [hexDigit?_digitChar hSmall, ih]
      · simp [hexDigit?_digitChar hSmall, ih]
  exact hFold 0

theorem codePoint?_of_hex {count : Nat} {digits : List Char} {c : Char} (rest : List Char)
    (hLength : digits.length = count) (hHex : IsHex digits c.toNat) :
    codePoint? count (digits ++ rest) = some (c, rest) := by
  have hValue := hHex.hexValue?
  have hValid : c.toNat < 0xD800 ∨ (0xE000 ≤ c.toNat ∧ c.toNat < 0x110000) := by
    rcases c.valid with h | h
    · exact .inl h
    · exact .inr ⟨by have := h.1; simp only [Char.toNat]; omega, h.2⟩
  simp [codePoint?, ← hLength, hValue, hValid, Char.ofNat_toNat]

theorem escape?_short {letter c : Char} (h : (letter, c) ∈ shortForms) (rest : List Char) :
    escape? (letter :: rest) = some (c, rest) := by
  simp only [shortForms, List.mem_cons, Prod.mk.injEq, List.not_mem_nil, or_false] at h
  obtain ⟨rfl, rfl⟩ | ⟨rfl, rfl⟩ | ⟨rfl, rfl⟩ | ⟨rfl, rfl⟩ | ⟨rfl, rfl⟩ | ⟨rfl, rfl⟩ |
    ⟨rfl, rfl⟩ := h
  all_goals rfl

/-- Whatever its form, a character is read first and the rest of the body after it. -/
theorem basicString?_form {c : Char} {form : List Char} (h : Spells c form) {fuel : Nat}
    {body rest more : List Char} (hBody : basicString? fuel body = some (more, rest)) :
    basicString? (fuel + 1) (form ++ body) = some (c :: more, rest) := by
  cases h with
  | plain hChar hQuote hSlash =>
    have hPlain : isPlain c = true := by simpa [isPlain] using hChar
    simp [basicString?, hQuote, hSlash, hPlain, hBody]
  | short hShort => simp [basicString?, escape?_short hShort, hBody]
  | four hLength hHex =>
    have hEscape := codePoint?_of_hex body hLength hHex
    simp [basicString?, escape?, hEscape, hBody]
  | eight hLength hHex =>
    have hEscape := codePoint?_of_hex body hLength hHex
    simp [basicString?, escape?, hEscape, hBody]

/-- What may not stand for itself is a quote, a backslash or a control character. -/
theorem exists_spells (c : Char) : ∃ form, Spells c form := by
  by_cases hQuote : c = '"'
  · have hShort : ('"', c) ∈ shortForms := by simp [hQuote, shortForms]
    exact ⟨_, .short hShort⟩
  by_cases hSlash : c = '\\'
  · have hShort : ('\\', c) ∈ shortForms := by simp [hSlash, shortForms]
    exact ⟨_, .short hShort⟩
  by_cases hPlain : c = '\t' ∨ (0x20 ≤ c.toNat ∧ c.toNat ≠ 0x7F)
  · exact ⟨_, .plain hPlain hQuote hSlash⟩
  have hHigh : c.toNat / 16 < 16 := by omega
  have hLow : c.toNat % 16 < 16 := by omega
  have hHex : IsHex ([0, 0, c.toNat / 16, c.toNat % 16].map Nat.digitChar) c.toNat := by
    refine ⟨_, List.forall₂_map_left_iff.mpr (List.forall₂_same.mpr fun v hv => ⟨?_, .inl rfl⟩), ?_⟩
    · simp only [List.mem_cons, List.not_mem_nil, or_false] at hv
      omega
    · simp only [List.foldl_cons, List.foldl_nil]
      omega
  exact ⟨_, .four rfl hHex⟩

theorem exists_quotes (s : String) : ∃ text, Quotes s text := by
  choose form hForm using exists_spells
  have hForms : List.Forall₂ Spells s.toList (s.toList.map form) :=
    List.forall₂_map_right_iff.mpr (List.forall₂_same.mpr fun c _ => hForm c)
  exact ⟨_, _, hForms, rfl⟩

theorem basicString?_forms {chars : List Char} {forms : List (List Char)}
    (h : List.Forall₂ Spells chars forms) (rest : List Char) {fuel : Nat}
    (hFuel : chars.length < fuel) :
    basicString? fuel (forms.flatten ++ '"' :: rest) = some (chars, rest) := by
  induction h generalizing fuel with
  | nil =>
    cases fuel with
    | zero => cases hFuel
    | succ fuel => rfl
  | cons hForm _ ih =>
    cases fuel with
    | zero => cases hFuel
    | succ fuel =>
      rw [List.flatten_cons, List.append_assoc]
      exact basicString?_form hForm (ih (by simpa using hFuel))

theorem Spells.ne_nil {c : Char} {form : List Char} (h : Spells c form) : form ≠ [] := by
  cases h <;> simp

theorem length_le_flatten {chars : List Char} {forms : List (List Char)}
    (h : List.Forall₂ Spells chars forms) : chars.length ≤ forms.flatten.length := by
  induction h with
  | nil => simp
  | cons hForm _ ih =>
    have hPos := List.length_pos_iff.mpr hForm.ne_nil
    simp only [List.flatten_cons, List.length_cons, List.length_append]
    omega

/-- No form starts with a quote. -/
theorem head_flatten_ne {chars : List Char} {forms : List (List Char)}
    (h : List.Forall₂ Spells chars forms) : ∀ c ∈ forms.flatten.head?, c ≠ '"' := by
  cases h with
  | nil => simp
  | cons hForm _ =>
    intro c hc
    cases hForm with
    | plain _ hQuote _ =>
      cases hc
      exact hQuote
    | _ =>
      cases hc
      decide

/-- One quote opens a string of one line unless it is the first of three. -/
theorem string?_basic {body : List Char} (h : ∀ tail, body ≠ '"' :: '"' :: tail) :
    string? ('"' :: body) =
      (basicString? (body.length + 1) body).map fun read => (String.ofList read.1, read.2) := by
  unfold string?
  split
  · next hText =>
    obtain ⟨-, rfl⟩ := List.cons.inj hText
    exact absurd rfl (h _)
  · next hText => cases hText
  · next hText =>
    obtain ⟨-, rfl⟩ := List.cons.inj hText
    rfl
  · next hText => cases hText
  · next _ hNone _ => exact absurd rfl (hNone body)

theorem string?_of_quotes {s : String} {text rest : List Char} (h : Quotes s text)
    (hRest : ∀ c ∈ rest.head?, c ≠ '"') : string? (text ++ rest) = some (s, rest) := by
  obtain ⟨forms, hForms, rfl⟩ := h
  have hFuel : s.toList.length < (forms.flatten ++ '"' :: rest).length + 1 := by
    have hLength := length_le_flatten hForms
    simp only [List.length_append]
    omega
  have hBody := basicString?_forms hForms rest hFuel
  have hText : '"' :: (forms.flatten ++ ['"']) ++ rest = '"' :: (forms.flatten ++ '"' :: rest) := by
    simp
  have hOne : ∀ tail, forms.flatten ++ '"' :: rest ≠ '"' :: '"' :: tail := by
    intro tail hTail
    have hHead := head_flatten_ne hForms
    cases hFlat : forms.flatten with
    | nil =>
      rw [hFlat, List.nil_append, List.cons.injEq] at hTail
      exact hRest '"' (by rw [hTail.2]; rfl) rfl
    | cons c body =>
      rw [hFlat, List.cons_append, List.cons.injEq] at hTail
      exact hHead c (by rw [hFlat]; rfl) hTail.1
  rw [hText, string?_basic hOne, hBody, Option.map_some, String.ofList_toList]

end Strings

section Integers

theorem grouped?_digits {c : Char} {digits : List Char}
    (h : ∀ d ∈ c :: digits, d.isDigit = true) :
    grouped? Char.isDigit (c :: digits) = some (c :: digits) := by
  induction digits generalizing c with
  | nil => simp [grouped?, h c List.mem_cons_self]
  | cons d rest ih =>
    obtain ⟨hc, hRest⟩ := List.forall_mem_cons.mp h
    have hPlain : d ≠ '_' := ne_of_test (hRest d List.mem_cons_self) (by decide)
    simp [grouped?, hc, hPlain, ih hRest]

theorem digitsValue_toDigits (n : Nat) : digitsValue 10 (Nat.toDigits 10 n) = n := by
  have hStep : digitsValue 10 (Nat.toDigits 10 n) = Nat.ofDigitChars 10 (Nat.toDigits 10 n) 0 := by
    rw [digitsValue, Nat.ofDigitChars_eq_foldl]
    refine List.foldl_ext _ _ _ fun value c hc => ?_
    rw [if_pos (isDigit_of_mem_toDigits hc), Nat.mul_comm]
    rfl
  rw [hStep, Nat.ofDigitChars_ten_toDigits]

theorem decimal?_toDigits (n : Nat) : decimal? (Nat.toDigits 10 n) = some (Nat.toDigits 10 n) := by
  obtain ⟨c, more, hDigits, -, hZero⟩ := toDigits_eq_cons n
  have hAll : ∀ d ∈ c :: more, d.isDigit = true := by
    intro d hd
    exact isDigit_of_mem_toDigits (hDigits ▸ hd)
  rw [hDigits, decimal?, grouped?_digits hAll]
  by_cases hc : c = '0'
  · simp [hc, hZero hc]
  · simp [hc]

theorem inRange?_natural {n : Nat} (h : (n : Int) < Number.signedEnd) :
    inRange? n = some (.number (.whole n)) := by
  have hLow : -Number.signedEnd ≤ (n : Int) := by
    simp only [Number.signedEnd]
    omega
  rw [inRange?, if_pos ⟨hLow, h⟩]

theorem splitSign_digit {c : Char} (h : c.isDigit = true) (more : List Char) :
    splitSign (c :: more) = (false, c :: more) := by
  have hMinus : c ≠ '-' := ne_of_test h (by decide)
  have hPlus : c ≠ '+' := ne_of_test h (by decide)
  simp [splitSign, hMinus, hPlus]

/-- Decimal digits are not taken for those of another base, which follow a zero and a letter. -/
theorem integer?_of_decimal {c : Char} {more : List Char} (hDigit : c.isDigit = true)
    (hZero : c = '0' → more = []) (hDecimal : decimal? (c :: more) = some (c :: more)) :
    integer? (c :: more) = inRange? (digitsValue 10 (c :: more)) := by
  have hNoBase : ∀ letter rest, c :: more ≠ '0' :: letter :: rest := by
    intro letter rest hText
    rw [List.cons.injEq] at hText
    rw [hZero hText.1] at hText
    cases hText.2
  unfold integer?
  split
  · next rest hText => exact absurd hText (hNoBase 'x' rest)
  · next rest hText => exact absurd hText (hNoBase 'o' rest)
  · next rest hText => exact absurd hText (hNoBase 'b' rest)
  · simp only [splitSign_digit hDigit, hDecimal, Bool.false_eq_true, if_false]
    rw [Option.bind_eq_bind, Option.bind_some]

theorem integer?_toDigits {n : Nat} (h : (n : Int) < Number.signedEnd) :
    integer? (Nat.toDigits 10 n) = some (.number (.whole n)) := by
  obtain ⟨c, more, hDigits, hDigit, hZero⟩ := toDigits_eq_cons n
  have hDecimal := decimal?_toDigits n
  have hValue := digitsValue_toDigits n
  rw [hDigits] at hDecimal hValue ⊢
  rw [integer?_of_decimal hDigit hZero hDecimal, hValue, inRange?_natural h]

theorem isLiteralChar_of_isDigit {c : Char} (h : c.isDigit = true) : isLiteralChar c = true := by
  simp [isLiteralChar, Char.isAlphanum, h]

theorem splitLiteral_append {word rest : List Char} (hWord : ∀ c ∈ word, isLiteralChar c = true)
    (hRest : EndsLine rest) : splitLiteral (word ++ rest) = (word, rest) := by
  have hStop : ∀ c ∈ rest.head?, isLiteralChar c = false := by
    intro c hc
    obtain rfl | rfl := hRest c hc <;> rfl
  have hTake := takeWhile_append_of_head hWord hStop
  have hDrop := dropWhile_append_of_head hWord hStop
  unfold splitLiteral
  rw [hTake, hDrop]
  cases rest with
  | nil => rfl
  | cons d rest => obtain rfl | rfl := hRest d rfl <;> rfl

theorem literal?_toDigits {n : Nat} (h : (n : Int) < Number.signedEnd) :
    literal? (Nat.toDigits 10 n) = some (.scalar (.number (.whole n))) := by
  obtain ⟨c, more, hDigits, hDigit, -⟩ := toDigits_eq_cons n
  have hTrue : c ≠ 't' := ne_of_test hDigit (by decide)
  have hFalse : c ≠ 'f' := ne_of_test hDigit (by decide)
  have hInteger := integer?_toDigits h
  rw [hDigits] at hInteger ⊢
  simp [literal?, hTrue, hFalse, hInteger]

end Integers

/-- A value is read up to the end of its line. -/
theorem value?_of_writes {value : Json} {text rest : List Char} (h : Writes value text)
    (hRest : EndsLine rest) :
    ∃ item, item.Shows value ∧
      ∀ fuel depth, value? (fuel + 1) depth (text ++ rest) = some (item, rest) := by
  cases h with
  | @string s _ hQuotes =>
    refine ⟨.scalar (.string s), fun place => rfl, fun fuel depth => ?_⟩
    have hString := string?_of_quotes hQuotes fun c hc => by
      obtain rfl | rfl := hRest c hc <;> decide
    obtain ⟨forms, -, rfl⟩ := hQuotes
    rw [List.cons_append, List.append_assoc] at hString ⊢
    simp only [value?, hString, Option.bind_eq_bind, Option.bind_some, Option.pure_def]
  | @natural n hBound =>
    refine ⟨.scalar (.number (.whole n)), fun place => rfl, fun fuel depth => ?_⟩
    obtain ⟨c, more, hDigits, hDigit, -⟩ := toDigits_eq_cons n
    have hOther (d : Char) (hd : d.isDigit = false) : c ≠ d := ne_of_test hDigit hd
    have hSplit := splitLiteral_append
      (fun c hc => isLiteralChar_of_isDigit (isDigit_of_mem_toDigits (n := n) hc)) hRest
    have hLiteral := literal?_toDigits hBound
    rw [hDigits] at hSplit hLiteral ⊢
    rw [List.cons_append] at hSplit ⊢
    simp [value?, hOther, hSplit, hLiteral]

end Fleet.Toml
