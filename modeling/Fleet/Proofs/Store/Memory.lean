import Fleet.Proofs.Document.Descent
import Fleet.Store
import Mathlib.Algebra.Order.Field.Power
import Mathlib.Data.Rat.Cast.Order
import Mathlib.Tactic.NormNum
import Mathlib.Tactic.Linarith
import Mathlib.Tactic.Positivity

/-!
# Memory as an exact number

Every number of a document has an exact rational value, whichever way it is kept. The memory of a
machine is that value where it is a natural number below `2^64`, and nought otherwise, with one
exception at the end of the range: the double `2^64` is taken for `2^64 - 1`.
-/
namespace Fleet

def Double.value (x : Double) : ℚ :=
  (if x.negative then -1 else 1) * (x.mantissa * 2 ^ x.exponent)

def Number.value : Number → ℚ
  | .whole n => n
  | .real x => x.value

namespace Double

theorem magnitude?_eq_some_iff {x : Double} {n : ℕ} :
    x.magnitude? = some n ↔ (x.mantissa : ℚ) * 2 ^ x.exponent = n := by
  unfold magnitude?
  split
  · next hExponent =>
    obtain ⟨k, hk⟩ := Int.eq_ofNat_of_zero_le hExponent
    rw [hk, Int.toNat_natCast, Option.some_inj, zpow_natCast]
    norm_cast
  · next hExponent =>
    obtain ⟨k, hk⟩ := Int.eq_ofNat_of_zero_le (a := -x.exponent) (by omega)
    have hUnit : 0 < 2 ^ k := by positivity
    have hValue : (x.mantissa : ℚ) * 2 ^ x.exponent = n ↔ x.mantissa = n * 2 ^ k := by
      rw [← neg_neg x.exponent, hk, zpow_neg, zpow_natCast, ← div_eq_mul_inv,
        div_eq_iff (by positivity)]
      norm_cast
    rw [hValue, hk, Int.toNat_natCast, Nat.pow_eq]
    by_cases hWhole : x.mantissa % 2 ^ k = 0
    · rw [if_pos hWhole, Option.some_inj,
        Nat.div_eq_iff_eq_mul_left hUnit (Nat.dvd_of_mod_eq_zero hWhole)]
    · rw [if_neg hWhole]
      constructor
      · intro h
        cases h
      · intro h
        rw [h, Nat.mul_mod_left] at hWhole
        exact absurd rfl hWhole

/-- A double is a natural number if its magnitude is one and its sign has no say. -/
theorem value_eq_natCast_iff {x : Double} {n : ℕ} :
    x.value = n ↔ x.magnitude? = some n ∧ (x.negative = true → n = 0) := by
  rw [magnitude?_eq_some_iff, value]
  have hMagnitude : (0 : ℚ) ≤ x.mantissa * 2 ^ x.exponent := by positivity
  generalize (x.mantissa : ℚ) * 2 ^ x.exponent = magnitude at hMagnitude ⊢
  have hNat : (0 : ℚ) ≤ n := Nat.cast_nonneg n
  cases x.negative with
  | false => simp
  | true =>
    simp only [if_true, neg_one_mul, forall_const]
    constructor
    · intro h
      have hZero : (n : ℚ) = 0 := by linarith
      exact ⟨by linarith, by exact_mod_cast hZero⟩
    · rintro ⟨rfl, rfl⟩
      simp

end Double

namespace Json

/-- `2^64`, the first number beyond the range. -/
theorem unsignedEnd_eq : Number.unsignedEnd = ((2 ^ 64 : ℕ) : ℤ) := rfl

theorem megabytes?_whole {n : ℤ} {memory : UInt64} (h : n = memory.toNat) :
    megabytes? (.number (.whole n)) = some memory := by
  have hBound := memory.toNat_lt
  have hRange : 0 ≤ n ∧ n < Number.unsignedEnd := by
    rw [unsignedEnd_eq]
    omega
  rw [megabytes?, if_pos hRange, h, Int.toNat_natCast, UInt64.ofNat_toNat]

theorem megabytes?_whole_eq_none {n : ℤ} (h : ∀ memory : UInt64, n ≠ memory.toNat) :
    megabytes? (.number (.whole n)) = none := by
  rw [megabytes?, if_neg]
  rintro ⟨hNonneg, hBound⟩
  rw [unsignedEnd_eq] at hBound
  have hLess : n.toNat < UInt64.size := by
    simp only [UInt64.size]
    omega
  have hNat : (UInt64.ofNat n.toNat).toNat = n.toNat := UInt64.toNat_ofNat_of_lt hLess
  exact h (UInt64.ofNat n.toNat) (by omega)

theorem megabytes?_of_magnitude {x : Double} {n : ℕ} (hMagnitude : x.magnitude? = some n)
    (hSign : x.negative = true → n = 0) :
    megabytes? (.number (.real x)) =
      if n < 2 ^ 64 then some (UInt64.ofNat n)
      else if n = 2 ^ 64 then some (UInt64.ofNat (2 ^ 64 - 1)) else none := by
  have hPlain : ¬((x.negative && n != 0) = true) := by
    simpa using hSign
  simp only [megabytes?, hMagnitude, unsignedEnd_eq]
  rw [if_neg hPlain]
  norm_cast
  split
  · rfl
  split
  · next hEnd => rw [hEnd]
  · rfl

theorem megabytes?_real_eq_none {x : Double} (h : ∀ n ≤ 2 ^ 64, x.value ≠ (n : ℕ)) :
    megabytes? (.number (.real x)) = none := by
  cases hMagnitude : x.magnitude? with
  | none => simp only [megabytes?, hMagnitude]
  | some n =>
    by_cases hSign : x.negative = true → n = 0
    · have hValue : x.value = n := Double.value_eq_natCast_iff.mpr ⟨hMagnitude, hSign⟩
      have hLarge : 2 ^ 64 < n := not_le.mp fun hLe => h n hLe hValue
      rw [megabytes?_of_magnitude hMagnitude hSign, if_neg (by omega), if_neg (by omega)]
    · have hMinus : (x.negative && n != 0) = true := by simpa using hSign
      simp only [megabytes?, hMagnitude]
      rw [if_pos hMinus]

end Json

/-- The memory that a number of the document stands for. -/
structure MemoryOf (number : Number) (memory : UInt64) : Prop where
  exact : ∀ amount : UInt64, number.value = amount.toNat → memory = amount
  nought : (∀ amount : UInt64, number.value ≠ amount.toNat) →
    (∀ x, number = .real x → x.value ≠ 2 ^ 64) → memory = 0
  atEnd : ∀ x, number = .real x → x.value = 2 ^ 64 → memory = UInt64.ofNat (2 ^ 64 - 1)

namespace Store
variable {store : Store} {name : String} {number : Number}

theorem memory_of_number
    (h : store.document.root.Reaches ["boxes", name, "memory"] (.number number)) :
    store.memory name = (Json.megabytes? (.number number)).getD 0 := by
  have hNode : store.memoryNode name = some (.number number) :=
    Document.dig_eq_some_iff.mpr ⟨h, Json.noConfusion⟩
  rw [memory, hNode, Option.bind_some]

theorem megabytes?_of_value {amount : UInt64} (h : number.value = amount.toNat) :
    Json.megabytes? (.number number) = some amount := by
  cases number with
  | whole n =>
    refine Json.megabytes?_whole ?_
    have hRat : (n : ℚ) = amount.toNat := h
    exact_mod_cast hRat
  | real x =>
    obtain ⟨hMagnitude, hSign⟩ := Double.value_eq_natCast_iff.mp h
    rw [Json.megabytes?_of_magnitude hMagnitude hSign, if_pos amount.toNat_lt, UInt64.ofNat_toNat]

theorem megabytes?_eq_none (h : ∀ amount : UInt64, number.value ≠ amount.toNat)
    (hEnd : ∀ x, number = .real x → x.value ≠ 2 ^ 64) :
    Json.megabytes? (.number number) = none := by
  cases number with
  | whole n =>
    refine Json.megabytes?_whole_eq_none fun amount hAmount => h amount ?_
    rw [hAmount]
    rfl
  | real x =>
    refine Json.megabytes?_real_eq_none fun n hLe hValue => ?_
    rcases hLe.lt_or_eq with hLess | rfl
    · have hNat : (UInt64.ofNat n).toNat = n := UInt64.toNat_ofNat_of_lt hLess
      exact h (UInt64.ofNat n) (hNat.symm ▸ hValue)
    · exact hEnd x rfl (by exact_mod_cast hValue)

theorem megabytes?_at_end {x : Double} (h : x.value = 2 ^ 64) :
    Json.megabytes? (.number (.real x)) = some (UInt64.ofNat (2 ^ 64 - 1)) := by
  have hNat : x.value = (2 ^ 64 : ℕ) := by rw [h]; norm_cast
  obtain ⟨hMagnitude, hSign⟩ := Double.value_eq_natCast_iff.mp hNat
  rw [Json.megabytes?_of_magnitude hMagnitude hSign, if_neg (lt_irrefl _), if_pos rfl]

/-- A number of the document is taken for its exact value, and only `2^64` for another. -/
theorem memory_exact_below_end
    (h : store.document.root.Reaches ["boxes", name, "memory"] (.number number)) :
    MemoryOf number (store.memory name) where
  exact amount hValue := by
    rw [memory_of_number h, megabytes?_of_value hValue, Option.getD_some]
  nought hNone hEnd := by
    rw [memory_of_number h, megabytes?_eq_none hNone hEnd, Option.getD_none]
  atEnd x hNumber hValue := by
    subst hNumber
    rw [memory_of_number h, megabytes?_at_end hValue, Option.getD_some]

section End

/-- The double `2^64`. -/
def endOfRange : Double := ⟨false, 2 ^ 52, 12⟩

def endStore : Store where
  document := ⟨.object
    [("boxes", .object [("a", .object [("memory", .number (.real endOfRange))])])]⟩
  fallback := .standard
  env := .empty

/-- The digits of `2^64` are read as that double. -/
example :
    ((Document.parse
      "\x7b\"boxes\": \x7b\"a\": \x7b\"memory\": 18446744073709551616\x7d\x7d\x7d").toOption.map
        fun document => (Store.mk document .standard .empty).memory "a") =
          some 18446744073709551615 := by
  decide +kernel

theorem value_endOfRange : endOfRange.value = 2 ^ 64 := by
  norm_num [Double.value, endOfRange]

theorem reaches_endStore :
    endStore.document.root.Reaches ["boxes", "a", "memory"] (.number (.real endOfRange)) :=
  Json.follow_eq_some_iff.mp rfl

theorem memory_exact_below_end_at_end :
    endStore.document.root.Reaches ["boxes", "a", "memory"] (.number (.real endOfRange)) ∧
      MemoryOf (.real endOfRange) (endStore.memory "a") :=
  ⟨reaches_endStore, memory_exact_below_end reaches_endStore⟩

/-- The memory of a machine is not always the number of the document or nought. -/
theorem not_always_exact :
    ¬∀ (store : Store) (name : String) (number : Number),
      store.document.root.Reaches ["boxes", name, "memory"] (.number number) →
        (∀ amount : UInt64, number.value = amount.toNat → store.memory name = amount) ∧
          ((∀ amount : UInt64, number.value ≠ amount.toNat) → store.memory name = 0) := by
  intro hAlways
  obtain ⟨-, hNought⟩ := hAlways endStore "a" (.real endOfRange) reaches_endStore
  have hNone : ∀ amount : UInt64, (Number.real endOfRange).value ≠ amount.toNat := by
    intro amount hAmount
    have hLess := amount.toNat_lt
    have hNat : (2 ^ 64 : ℚ) = amount.toNat := value_endOfRange.symm.trans hAmount
    have hEq : 2 ^ 64 = amount.toNat := by exact_mod_cast hNat
    omega
  have hMemory : endStore.memory "a" = 18446744073709551615 := rfl
  rw [hNought hNone] at hMemory
  exact absurd hMemory (by decide)

end End

end Store

end Fleet
