import Fleet.Text.Raw

/-!
# Nothing is lost of a text in UTF-8

The bytes of a text are read as the text. A character takes one to four bytes: the first tells how
many follow and holds the leading bits, each later one holds six more. The first byte also narrows
the range of the second where otherwise the same number could be written with fewer bytes, or would
be that of no character.
-/
namespace Fleet.Text
variable {byte count low high : Nat} {rest came : List UInt8} {n : Nat}

theorem toNat_ofNat_byte (h : byte < 256) : (UInt8.ofNat byte).toNat = byte := by
  rw [UInt8.toNat_ofNat']
  exact Nat.mod_eq_of_lt h

theorem piecesFrom_ascii (h : byte < 0x80) (rest : List UInt8) :
    piecesFrom none (UInt8.ofNat byte :: rest) =
      .char (Char.ofNat byte) :: piecesFrom none rest := by
  rw [piecesFrom, beginChar, toNat_ofNat_byte (by omega)]
  simp [h]

theorem piecesFrom_lead (hByte : 0x80 ≤ byte ∧ byte < 256)
    (hFollow : continuation byte = some (count, low, high)) (rest : List UInt8) :
    piecesFrom none (UInt8.ofNat byte :: rest) =
      piecesFrom (some ⟨count, leadingBits byte count, low, high, [UInt8.ofNat byte]⟩) rest := by
  have hNot : ¬byte < 0x80 := by omega
  rw [piecesFrom, beginChar, toNat_ofNat_byte hByte.2]
  simp [hNot, hFollow]

theorem piecesFrom_last {value : Nat} (hByte : low ≤ byte ∧ byte ≤ high) (h : byte < 256)
    (rest : List UInt8) :
    piecesFrom (some ⟨1, value, low, high, came⟩) (UInt8.ofNat byte :: rest) =
      .char (Char.ofNat (value * 64 + byte % 64)) :: piecesFrom none rest := by
  rw [piecesFrom, toNat_ofNat_byte h]
  simp [hByte]

theorem piecesFrom_more {value : Nat} (hByte : low ≤ byte ∧ byte ≤ high) (h : byte < 256)
    (rest : List UInt8) :
    piecesFrom (some ⟨count + 2, value, low, high, came⟩) (UInt8.ofNat byte :: rest) =
      piecesFrom (some ⟨count + 1, value * 64 + byte % 64, 0x80, 0xBF, came ++ [UInt8.ofNat byte]⟩)
        rest := by
  rw [piecesFrom, toNat_ofNat_byte h]
  simp [hByte]

section Characters

theorem piecesFrom_two (hLow : 0x80 ≤ n) (hHigh : n ≤ 0x7FF) (rest : List UInt8) :
    piecesFrom none (UInt8.ofNat (n / 64 % 32 + 192) :: UInt8.ofNat (n % 64 + 128) :: rest) =
      .char (Char.ofNat n) :: piecesFrom none rest := by
  have hFollow : continuation (n / 64 % 32 + 192) = some (1, 0x80, 0xBF) := by
    rw [continuation, if_pos]
    simp only [Bool.and_eq_true, decide_eq_true_eq]
    omega
  have hBits : leadingBits (n / 64 % 32 + 192) 1 = n / 64 := by
    change (n / 64 % 32 + 192) % 32 = n / 64
    omega
  rw [piecesFrom_lead (by omega) hFollow, piecesFrom_last (by omega) (by omega), hBits]
  congr 3
  omega

/-- The second of three bytes is in the range that the first one allows. -/
theorem continuation_three (hLow : 0x800 ≤ n) (hHigh : n ≤ 0xFFFF)
    (hValid : n < 0xD800 ∨ 0xDFFF < n) :
    ∃ low high, continuation (n / 4096 % 16 + 224) = some (2, low, high) ∧
      low ≤ n / 64 % 64 + 128 ∧ n / 64 % 64 + 128 ≤ high := by
  have hLead : ¬(n / 4096 % 16 + 224 ≤ 0xDF) := by omega
  by_cases hFirst : n / 4096 % 16 + 224 = 0xE0
  · refine ⟨0xA0, 0xBF, ?_, by omega, by omega⟩
    simp [continuation, hFirst]
  · by_cases hSurrogate : n / 4096 % 16 + 224 = 0xED
    · refine ⟨0x80, 0x9F, ?_, by omega, by omega⟩
      simp [continuation, hSurrogate]
    · refine ⟨0x80, 0xBF, ?_, by omega, by omega⟩
      have hRange : 0xE1 ≤ n / 4096 % 16 + 224 ∧ n / 4096 % 16 + 224 ≤ 0xEF := by omega
      simp only [continuation, hLead, hFirst, hSurrogate, hRange, decide_false, decide_true,
        Bool.and_false, Bool.and_self, Bool.false_eq_true, if_false, if_true]

theorem piecesFrom_three (hLow : 0x800 ≤ n) (hHigh : n ≤ 0xFFFF)
    (hValid : n < 0xD800 ∨ 0xDFFF < n) (rest : List UInt8) :
    piecesFrom none (UInt8.ofNat (n / 4096 % 16 + 224) :: UInt8.ofNat (n / 64 % 64 + 128) ::
      UInt8.ofNat (n % 64 + 128) :: rest) = .char (Char.ofNat n) :: piecesFrom none rest := by
  obtain ⟨low, high, hFollow, hSecond⟩ := continuation_three hLow hHigh hValid
  have hBits : leadingBits (n / 4096 % 16 + 224) 2 = n / 4096 := by
    change (n / 4096 % 16 + 224) % 16 = n / 4096
    omega
  rw [piecesFrom_lead (by omega) hFollow, piecesFrom_more hSecond (by omega),
    piecesFrom_last (by omega) (by omega), hBits]
  congr 3
  omega

theorem continuation_four (hLow : 0x10000 ≤ n) (hHigh : n < 0x110000) :
    ∃ low high, continuation (n / 262144 % 8 + 240) = some (3, low, high) ∧
      low ≤ n / 4096 % 64 + 128 ∧ n / 4096 % 64 + 128 ≤ high := by
  have hLead : n / 262144 % 8 ≤ 4 := by omega
  by_cases hFirst : n / 262144 % 8 = 0
  · refine ⟨0x90, 0xBF, ?_, by omega, by omega⟩
    simp [continuation, hFirst]
  · by_cases hLast : n / 262144 % 8 = 4
    · refine ⟨0x80, 0x8F, ?_, by omega, by omega⟩
      simp [continuation, hLast]
    · refine ⟨0x80, 0xBF, ?_, by omega, by omega⟩
      have hMiddle : n / 262144 % 8 = 1 ∨ n / 262144 % 8 = 2 ∨ n / 262144 % 8 = 3 := by omega
      rcases hMiddle with h | h | h <;> simp [continuation, h]

theorem piecesFrom_four (hLow : 0x10000 ≤ n) (hHigh : n < 0x110000) (rest : List UInt8) :
    piecesFrom none (UInt8.ofNat (n / 262144 % 8 + 240) :: UInt8.ofNat (n / 4096 % 64 + 128) ::
      UInt8.ofNat (n / 64 % 64 + 128) :: UInt8.ofNat (n % 64 + 128) :: rest) =
        .char (Char.ofNat n) :: piecesFrom none rest := by
  obtain ⟨low, high, hFollow, hSecond⟩ := continuation_four hLow hHigh
  have hBits : leadingBits (n / 262144 % 8 + 240) 3 = n / 262144 := by
    change (n / 262144 % 8 + 240) % 8 = n / 262144
    omega
  rw [piecesFrom_lead (by omega) hFollow, piecesFrom_more hSecond (by omega),
    piecesFrom_more (by omega) (by omega), piecesFrom_last (by omega) (by omega), hBits]
  congr 3
  omega

end Characters

theorem piecesFrom_encoded (c : Char) (rest : List UInt8) :
    piecesFrom none (String.utf8EncodeChar c ++ rest) = .char c :: piecesFrom none rest := by
  have hNat : c.val.toNat = c.toNat := rfl
  have hValid : c.toNat < 0xD800 ∨ 0xDFFF < c.toNat ∧ c.toNat < 0x110000 := c.valid
  have hChar : Char.ofNat c.toNat = c := Char.ofNat_toNat c
  rw [String.utf8EncodeChar, hNat]
  by_cases hOne : c.toNat ≤ 0x7F
  · rw [if_pos hOne, List.singleton_append, piecesFrom_ascii (by omega), hChar]
  · by_cases hTwo : c.toNat ≤ 0x7FF
    · have h := piecesFrom_two (by omega) hTwo rest
      rw [hChar] at h
      simpa only [if_neg hOne, if_pos hTwo, List.cons_append, List.nil_append] using h
    · by_cases hThree : c.toNat ≤ 0xFFFF
      · have h := piecesFrom_three (by omega) hThree (by omega) rest
        rw [hChar] at h
        simpa only [if_neg hOne, if_neg hTwo, if_pos hThree, List.cons_append,
          List.nil_append] using h
      · have h := piecesFrom_four (n := c.toNat) (by omega) (by omega) rest
        rw [hChar] at h
        simpa only [if_neg hOne, if_neg hTwo, if_neg hThree, List.cons_append,
          List.nil_append] using h

theorem toUTF8_eq_flatMap (s : String) :
    s.toUTF8.data.toList = s.toList.flatMap String.utf8EncodeChar := by
  conv => lhs; rw [← String.ofList_toList (s := s)]
  simp [String.ofList, List.utf8Encode]

/-- The bytes of a text are taken apart into its characters. -/
theorem pieces_toUTF8 (s : String) : pieces s.toUTF8.data.toList = s.toList.map Piece.char := by
  have hChars : ∀ chars : List Char,
      piecesFrom none (chars.flatMap String.utf8EncodeChar) = chars.map Piece.char := by
    intro chars
    induction chars with
    | nil => rfl
    | cons c rest ih => rw [List.flatMap_cons, piecesFrom_encoded, ih, List.map_cons]
  rw [pieces, toUTF8_eq_flatMap, hChars]

theorem lossy_toUTF8 (s : String) : lossy s.toUTF8.data.toList = s := by
  rw [lossy, pieces_toUTF8, List.map_map]
  exact (congrArg String.ofList (List.map_id _)).trans String.ofList_toList

end Fleet.Text

namespace Fleet.RawText

theorem display_ofText (text : String) : (ofText text).display = text := Text.lossy_toUTF8 text

theorem ofText_injective {left right : String} (h : ofText left = ofText right) : left = right := by
  rw [← display_ofText left, h, display_ofText]

@[simp]
theorem ofText_inj {left right : String} : ofText left = ofText right ↔ left = right :=
  ⟨ofText_injective, congrArg ofText⟩

@[simp]
theorem ofText_beq (left right : String) : (ofText left == ofText right) = (left == right) := by
  rw [Bool.eq_iff_iff, beq_iff_eq, beq_iff_eq, ofText_inj]

theorem bytes_ofText_append (front back : String) :
    (ofText (front ++ back)).bytes = (ofText front).bytes ++ (ofText back).bytes := by
  simp [ofText]

theorem text?_ofText (text : String) : (ofText text).text? = some text := by
  have hBytes : (⟨(ofText text).bytes.toArray⟩ : ByteArray) = text.toByteArray := rfl
  rw [text?, hBytes, String.fromUTF8?, dif_pos text.isValidUTF8]
  rfl

theorem ofText_of_text? {raw : RawText} {text : String} (h : raw.text? = some text) :
    ofText text = raw := by
  unfold text? String.fromUTF8? at h
  split at h
  · cases h
    rfl
  · cases h

end Fleet.RawText
