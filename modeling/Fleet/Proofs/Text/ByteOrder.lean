import Fleet.Proofs.Text.Utf8
import Mathlib.Data.String.Basic
import Mathlib.Tactic.SplitIfs

/-!
# Texts in byte order

Texts are ordered by the code points of their characters, and that is the order of their bytes in
UTF-8. The first byte of a character grows with its code point, also from one number of bytes to
the next. Where two characters have the same first byte, they differ in the bits that follow, six
of them in each byte and the highest first. So of two different characters neither encoding starts
with the other, and what comes after them does not matter.
-/
namespace Fleet.Text

/-- How many bytes come after the first one of a character. -/
def bytesAfter (n : Nat) : Nat :=
  if n ≤ 0x7F then 0 else if n ≤ 0x7FF then 1 else if n ≤ 0xFFFF then 2 else 3

def firstByte (n : Nat) : Nat :=
  if n ≤ 0x7F then n
  else if n ≤ 0x7FF then n / 64 + 192
  else if n ≤ 0xFFFF then n / 64 ^ 2 + 224
  else n / 64 ^ 3 + 240

/-- The lower bits of a number, six in each byte, as so many bytes. -/
def lowBits : Nat → Nat → List UInt8
  | 0, _ => []
  | count + 1, n => UInt8.ofNat (n / 64 ^ count % 64 + 128) :: lowBits count n

theorem utf8EncodeChar_eq (c : Char) :
    String.utf8EncodeChar c =
      UInt8.ofNat (firstByte c.toNat) :: lowBits (bytesAfter c.toNat) c.toNat := by
  have hNat : c.val.toNat = c.toNat := rfl
  have hValid : c.toNat < 0xD800 ∨ 0xDFFF < c.toNat ∧ c.toNat < 0x110000 := c.valid
  rw [String.utf8EncodeChar, hNat, firstByte, bytesAfter]
  split
  · rfl
  · split
    · have hLead : c.toNat / 64 % 32 = c.toNat / 64 := by omega
      simp [lowBits, hLead]
    · split
      · have hLead : c.toNat / 4096 % 16 = c.toNat / 4096 := by omega
        simp [lowBits, hLead]
      · have hLead : c.toNat / 262144 % 8 = c.toNat / 262144 := by omega
        simp [lowBits, hLead]

theorem cons_lt_of_byte_lt {a b : Nat} {left right : List UInt8} (hLess : a < b) (hByte : b < 256) :
    UInt8.ofNat a :: left < UInt8.ofNat b :: right := by
  refine List.cons_lt_cons_iff.mpr (.inl ?_)
  rw [UInt8.lt_iff_toNat_lt, toNat_ofNat_byte (by omega), toNat_ofNat_byte hByte]
  exact hLess

/-- Of two numbers with the same higher bits the lower bits of the greater one come later. -/
theorem lowBits_append_lt {n m : Nat} (h : n < m) (count : Nat)
    (hHigher : n / 64 ^ count = m / 64 ^ count) (left right : List UInt8) :
    lowBits count n ++ left < lowBits count m ++ right := by
  induction count with
  | zero =>
    simp only [Nat.pow_zero, Nat.div_one] at hHigher
    omega
  | succ count ih =>
    rw [Nat.pow_succ, ← Nat.div_div_eq_div_mul, ← Nat.div_div_eq_div_mul] at hHigher
    have hOrder : n / 64 ^ count ≤ m / 64 ^ count := Nat.div_le_div_right (Nat.le_of_lt h)
    rcases Nat.lt_or_eq_of_le hOrder with hLess | hSame
    · -- The bits above this byte agree, so it is this byte that grows.
      exact cons_lt_of_byte_lt (by omega) (by omega)
    · rw [lowBits, lowBits, hSame]
      exact List.cons_lt_cons_iff.mpr (.inr ⟨rfl, ih hSame⟩)

/-- The first byte grows with the number, unless only the lower bits do. -/
theorem firstByte_lt_or_same {n m : Nat} (h : n < m) :
    firstByte n < firstByte m ∨ firstByte n = firstByte m ∧ bytesAfter n = bytesAfter m ∧
      n / 64 ^ bytesAfter m = m / 64 ^ bytesAfter m := by
  unfold firstByte bytesAfter
  split_ifs <;> omega

theorem firstByte_lt (c : Char) : firstByte c.toNat < 256 := by
  have hValid : c.toNat < 0xD800 ∨ 0xDFFF < c.toNat ∧ c.toNat < 0x110000 := c.valid
  unfold firstByte
  split_ifs <;> omega

/-- Whatever comes after two characters, their order is that of the bytes. -/
theorem utf8EncodeChar_append_lt {c d : Char} (h : c < d) (left right : List UInt8) :
    String.utf8EncodeChar c ++ left < String.utf8EncodeChar d ++ right := by
  rw [utf8EncodeChar_eq, utf8EncodeChar_eq]
  have hNat : c.toNat < d.toNat := h
  rcases firstByte_lt_or_same hNat with hFirst | ⟨hFirst, hCount, hHigher⟩
  · exact cons_lt_of_byte_lt hFirst (firstByte_lt d)
  · rw [hFirst, hCount]
    exact List.cons_lt_cons_iff.mpr (.inr ⟨rfl, lowBits_append_lt h _ hHigher left right⟩)

theorem flatMap_utf8EncodeChar_lt {left right : List Char} (h : left < right) :
    left.flatMap String.utf8EncodeChar < right.flatMap String.utf8EncodeChar := by
  induction h with
  | @nil d rest =>
    rw [List.flatMap_nil, List.flatMap_cons, utf8EncodeChar_eq, List.cons_append]
    exact .nil
  | cons _ ih => exact List.append_left_lt ih
  | rel h => exact utf8EncodeChar_append_lt h _ _

/-- Texts are ordered as their bytes are. -/
theorem bytes_lt_iff {a b : String} : a.toUTF8.data.toList < b.toUTF8.data.toList ↔ a < b := by
  have hBytes {a b : String} (h : a < b) : a.toUTF8.data.toList < b.toUTF8.data.toList := by
    rw [toUTF8_eq_flatMap, toUTF8_eq_flatMap]
    exact flatMap_utf8EncodeChar_lt h
  refine ⟨fun h => ?_, hBytes⟩
  rcases lt_trichotomy a b with hLess | rfl | hMore
  · exact hLess
  · exact absurd h (List.lt_irrefl _)
  · exact absurd h (List.lt_asymm (hBytes hMore))

end Fleet.Text
