import Fleet.Folders.Mount
import Fleet.Proofs.Decisive
import Mathlib.Data.List.TakeDrop
import Mathlib.Data.List.TakeWhile

/-!
# What a mount token means

A token gives a host its guest when it is the two of them around a colon, both non-empty and the
host without a colon. So a token is cut at its first colon or not at all, and the cut is unique.
A list of tokens is read as a whole: it either consists of mounts, which are handed on in order,
or it is refused with the first token that is none.
-/
namespace Fleet.Folders

/-- The token is `host:guest`. -/
def TokenGives (token : List Char) (host guest : String) : Prop :=
  token = host.toList ++ ':' :: guest.toList ∧ host ≠ "" ∧ ':' ∉ host.toList ∧ guest ≠ ""

def IsMount (token : List Char) : Prop := ∃ host guest, TokenGives token host guest

theorem ofList_ne_empty (c : Char) (rest : List Char) : String.ofList (c :: rest) ≠ "" := by
  intro h
  have hList := congrArg String.toList h
  rw [String.toList_ofList] at hList
  cases hList

theorem exists_cons_of_ne_empty {s : String} (h : s ≠ "") : ∃ c rest, s.toList = c :: rest := by
  cases hList : s.toList with
  | nil => exact absurd (String.toList_eq_nil_iff.mp hList) h
  | cons c rest => exact ⟨c, rest, rfl⟩

theorem span_first {p : Char → Bool} {front back : List Char} {c : Char}
    (hFront : ∀ d ∈ front, p d = true) (hc : p c = false) :
    (front ++ c :: back).span p = (front, c :: back) := by
  rw [List.span_eq_takeWhile_dropWhile, List.takeWhile_append_of_pos hFront,
    List.dropWhile_append_of_pos hFront, List.takeWhile_cons_of_neg (by simp [hc]),
    List.dropWhile_cons_of_neg (by simp [hc]), List.append_nil]

theorem splitMount_eq_some_iff (token : List Char) (host guest : String) :
    splitMount token = some ⟨host, guest⟩ ↔ TokenGives token host guest := by
  constructor
  · intro h
    unfold splitMount at h
    split at h
    · rename_i c front d e back hSpan
      rw [List.span_eq_takeWhile_dropWhile, Prod.mk.injEq] at hSpan
      obtain ⟨hFront, hBack⟩ := hSpan
      obtain ⟨rfl, rfl⟩ :
          String.ofList (c :: front) = host ∧ String.ofList (e :: back) = guest := by
        simpa using h
      have hColon : d = ':' := by
        have hHead := List.head_dropWhile_not (· != ':') (l := token) (by rw [hBack]; simp)
        simpa [hBack] using hHead
      have hToken : token = (c :: front) ++ d :: e :: back := by
        rw [← hFront, ← hBack, List.takeWhile_append_dropWhile]
      refine ⟨by simpa [hColon] using hToken, ofList_ne_empty c front, ?_, ofList_ne_empty e back⟩
      intro hMem
      rw [String.toList_ofList, ← hFront] at hMem
      simpa using List.mem_takeWhile_imp hMem
    · cases h
  · rintro ⟨rfl, hHost, hColon, hGuest⟩
    obtain ⟨c, front, hHostList⟩ := exists_cons_of_ne_empty hHost
    obtain ⟨d, back, hGuestList⟩ := exists_cons_of_ne_empty hGuest
    have hFront : ∀ x ∈ host.toList, (x != ':') = true := by
      intro x hx
      simpa using fun hEq : x = ':' => hColon (hEq ▸ hx)
    rw [splitMount, span_first hFront (by decide), hHostList, hGuestList]
    simp [← hHostList, ← hGuestList]

theorem isMount_iff (token : List Char) : IsMount token ↔ (splitMount token).isSome := by
  constructor
  · rintro ⟨host, guest, h⟩
    rw [(splitMount_eq_some_iff token host guest).mpr h]
    rfl
  · intro h
    obtain ⟨⟨host, guest⟩, hMount⟩ := Option.isSome_iff_exists.mp h
    exact ⟨host, guest, (splitMount_eq_some_iff token host guest).mp hMount⟩

theorem token_pair_iff (token : List Char) (host guest : String) :
    (splitMount token).map Mount.pair = some (host, guest) ↔ TokenGives token host guest := by
  rw [← splitMount_eq_some_iff, Option.map_eq_some_iff]
  constructor
  · rintro ⟨⟨h, g⟩, hMount, hPair⟩
    cases hPair
    exact hMount
  · intro h
    exact ⟨⟨host, guest⟩, h, rfl⟩

section Reading
variable {variableName : String} {tokens : List (List Char)}

/-- Reading succeeds on lists of mounts alone and hands all of them on. -/
theorem readMounts_eq_ok_iff {mounts : List Mount} :
    readMounts variableName tokens = .ok mounts ↔
      (∀ token ∈ tokens, IsMount token) ∧ mounts = tokens.filterMap splitMount := by
  induction tokens generalizing mounts with
  | nil => simp [readMounts, eq_comm]
  | cons token rest ih =>
    rw [readMounts, List.forall_mem_cons, isMount_iff]
    cases hToken : splitMount token with
    | none => simp
    | some mount =>
      rw [List.filterMap_cons_some hToken]
      cases hRest : readMounts variableName rest with
      | error fault =>
        have hNo : ¬∀ token ∈ rest, IsMount token := by
          intro hAll
          have hOk : readMounts variableName rest = .ok (rest.filterMap splitMount) :=
            ih.mpr ⟨hAll, rfl⟩
          rw [hOk] at hRest
          cases hRest
        simp [Except.map, hNo]
      | ok others =>
        obtain ⟨hAll, rfl⟩ := ih.mp hRest
        rw [and_iff_right ⟨rfl, hAll⟩, eq_comm (a := mounts)]
        simp [Except.map]

/-- Reading is refused exactly when some token is no mount, and then the first one is named. -/
theorem readMounts_eq_error_iff {fault : MalformedMount} :
    readMounts variableName tokens = .error fault ↔
      fault.variableName = variableName ∧ FirstBreach IsMount tokens fault.token.toList := by
  induction tokens with
  | nil => simp [readMounts, not_firstBreach_nil]
  | cons token rest ih =>
    rw [readMounts, firstBreach_cons_iff, isMount_iff]
    cases hToken : splitMount token with
    | none =>
      obtain ⟨name, text⟩ := fault
      constructor
      · intro h
        cases h
        simp
      · rintro ⟨rfl, ⟨-, hText⟩ | ⟨hSome, -⟩⟩
        · simp [hText]
        · cases hSome
    | some mount =>
      cases hRest : readMounts variableName rest with
      | error other => simpa [Except.map, hRest] using ih
      | ok others => simpa [Except.map, hRest] using ih

end Reading

end Fleet.Folders
