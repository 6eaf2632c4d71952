import Fleet.Json.Printer
import Fleet.Json.Reader
import Fleet.Proofs.Json.Lexeme
import Fleet.Proofs.Tree.Decode

/-!
# Values read back

What is written of a value is read to a tree of that value, and all of the text after it is left.
The value must be `Writable`: it nests no deeper than a reader follows, and its numbers are
integers of 64 bits. What is said of doubles needs the theory of their shortest texts and has no
place here. A typed reader therefore sees of a written text nothing but the value, which is how the
codecs use `decode_write`.
-/
namespace Fleet.Json

/-- The value nests at most so deep, and holds no number but integers of 64 bits. -/
inductive Writable : Nat → Json → Prop where
  | null {level : Nat} : Writable level .null
  | bool {level : Nat} (b : Bool) : Writable level (.bool b)
  | whole {level : Nat} {n : Int} : Number.fits n = true → Writable level (.number (.whole n))
  | string {level : Nat} (s : String) : Writable level (.string s)
  | array {level : Nat} {items : List Json} :
      (∀ item ∈ items, Writable level item) → Writable (level + 1) (.array items)
  | object {level : Nat} {members : List (String × Json)} :
      (∀ pair ∈ members, Writable level pair.2) → Writable (level + 1) (.object members)

namespace Writable
variable {level : Nat}

theorem natural (n : UInt64) : Writable level (.natural n.toNat) := by
  have hBound : n.toNat < 18446744073709551616 := n.toNat_lt
  have hFits : Number.fits n.toNat = true := by
    rw [Number.fits, Bool.and_eq_true, decide_eq_true_iff, decide_eq_true_iff]
    simp only [Number.signedEnd, Number.unsignedEnd]
    omega
  exact .whole hFits

theorem ofOption (s : Option String) : Writable level (.ofOption s) := by
  cases s with
  | none => exact .null
  | some s => exact .string s

theorem array_iff {items : List Json} :
    Writable (level + 1) (.array items) ↔ ∀ item ∈ items, Writable level item :=
  ⟨fun | .array h => h, .array⟩

theorem object_iff {members : List (String × Json)} :
    Writable (level + 1) (.object members) ↔ ∀ pair ∈ members, Writable level pair.2 :=
  ⟨fun | .object h => h, .object⟩

end Writable

attribute [simp] Writable.null Writable.bool Writable.string Writable.natural Writable.ofOption
  Writable.array_iff Writable.object_iff

/-- Nothing but blanks stands between the parts of a value. -/
structure Spacing.IsBlank (spacing : Spacing) : Prop where
  gap : ∀ depth, ∀ c ∈ spacing.gap depth, isSpace c = true
  colon : ∃ blanks, spacing.colon = ':' :: blanks ∧ ∀ c ∈ blanks, isSpace c = true

theorem Spacing.isBlank_pretty : Spacing.pretty.IsBlank where
  gap depth c h := by
    rcases List.mem_cons.mp h with rfl | h
    · decide
    · rw [List.eq_of_mem_replicate h]
      decide
  colon := ⟨[' '], rfl, by simp [isSpace]⟩

/-- What may follow a value: a blank, or what separates and closes parts. -/
def EndsValue (rest : List Char) : Prop :=
  ∀ c ∈ rest.head?, isSpace c = true ∨ c = ',' ∨ c = ']' ∨ c = '\x7d'

/-- A value may start here: there is neither a blank nor the end of a list. -/
def StartsValue (text : List Char) : Prop :=
  ∃ c rest, text = c :: rest ∧ isSpace c = false ∧ c ≠ ']'

theorem StartsValue.append {text : List Char} (h : StartsValue text) (rest : List Char) :
    StartsValue (text ++ rest) := by
  obtain ⟨c, more, rfl, hc⟩ := h
  exact ⟨c, more ++ rest, rfl, hc⟩

theorem EndsValue.endsNumber {rest : List Char} (h : EndsValue rest) : EndsNumber rest := by
  intro c hc
  rcases h c hc with hSpace | rfl | rfl | rfl
  · simp only [isSpace, Bool.or_eq_true, beq_iff_eq] at hSpace
    rcases hSpace with ((rfl | rfl) | rfl) | rfl <;> decide
  all_goals decide

theorem endsValue_nil : EndsValue [] := by
  intro c hc
  cases hc

theorem endsValue_cons {c : Char} {rest : List Char}
    (h : isSpace c = true ∨ c = ',' ∨ c = ']' ∨ c = '\x7d') : EndsValue (c :: rest) := by
  rintro d ⟨⟩
  exact h

/-- Blanks followed by the end of a value are an end of it too. -/
theorem endsValue_append {blanks rest : List Char} (hBlanks : ∀ c ∈ blanks, isSpace c = true)
    (h : EndsValue rest) : EndsValue (blanks ++ rest) := by
  cases blanks with
  | nil => exact h
  | cons c blanks => exact endsValue_cons (.inl (hBlanks c List.mem_cons_self))

section Scalars

theorem isSpace_of_isDigit {c : Char} (h : c.isDigit = true) : isSpace c = false := by
  have hOther (d : Char) (hd : d.isDigit = false) : c ≠ d := ne_of_test h hd
  simp [isSpace, hOther]

theorem writeInt_eq_cons (n : Int) :
    ∃ c rest, writeInt n = c :: rest ∧ (c = '-' ∨ c.isDigit = true) := by
  obtain ⟨c, rest, hDigits, hDigit, -⟩ := toDigits_eq_cons n.natAbs
  rw [writeInt, hDigits]
  split
  · exact ⟨'-', c :: rest, rfl, .inl rfl⟩
  · exact ⟨c, rest, rfl, .inr hDigit⟩

theorem startsValue_write (spacing : Spacing) (depth : Nat) {level : Nat} {value : Json}
    (h : Writable level value) : StartsValue (write spacing depth value) := by
  cases h with
  | null => exact ⟨'n', _, rfl, by decide, by decide⟩
  | bool b => cases b <;> exact ⟨_, _, rfl, by decide, by decide⟩
  | string s => exact ⟨'"', _, rfl, by decide, by decide⟩
  | @array _ items _ => cases items <;> exact ⟨'[', _, rfl, by decide, by decide⟩
  | @object _ members _ => cases members <;> exact ⟨'\x7b', _, rfl, by decide, by decide⟩
  | @whole _ n _ =>
    obtain ⟨c, rest, hText, hHead⟩ := writeInt_eq_cons n
    refine ⟨c, rest, hText, ?_⟩
    rcases hHead with rfl | hDigit
    · decide
    · exact ⟨isSpace_of_isDigit hDigit, ne_of_test hDigit (by decide)⟩

theorem readValue_blanks {blanks : List Char} (h : ∀ c ∈ blanks, isSpace c = true)
    (fuel level : Nat) (text : List Char) :
    readValue fuel level (blanks ++ text) = readValue fuel level text := by
  cases fuel with
  | zero => rfl
  | succ fuel => rw [readValue, readValue, skipSpace_append h]

theorem readValue_writeString (fuel level : Nat) (s : String) (rest : List Char) :
    readValue (fuel + 1) level (writeString s ++ rest) =
      ⟨.scalar (.string s) (at? rest), some rest⟩ := by
  have hText : writeString s ++ rest = '"' :: (s.toList.flatMap escapeChar ++ '"' :: rest) := by
    simp [writeString]
  rw [hText, readValue, skipSpace_cons (by decide)]
  simp [readString_escaped, Reading.ofScalar, Except.map, Char.isDigit]

theorem natAbs_lt_of_fits {n : Int} (h : Number.fits n = true) :
    n.natAbs < Number.unsignedEnd.toNat := by
  have hBounds : -Number.signedEnd ≤ n ∧ n < Number.unsignedEnd := by simpa [Number.fits] using h
  have hEnds : Number.signedEnd < Number.unsignedEnd := by decide
  omega

theorem readValue_writeInt (fuel level : Nat) {n : Int} (hFits : Number.fits n = true)
    {rest : List Char} (hEnd : EndsNumber rest) :
    readValue (fuel + 1) level (writeInt n ++ rest) =
      ⟨.scalar (.number (.whole n)) (at? rest), some rest⟩ := by
  have hMagnitude : n.natAbs < Number.unsignedEnd.toNat := natAbs_lt_of_fits hFits
  by_cases hNegative : n < 0
  · have hRead : readMagnitude true (Nat.toDigits 10 n.natAbs ++ rest) = .ok (.whole n, rest) := by
      rw [readMagnitude_toDigits true hMagnitude hEnd]
      have hValue : n = if true then -(n.natAbs : Int) else n.natAbs := by
        rw [if_pos rfl]
        omega
      exact wholeNumber_of_fits hValue hFits (by intro _; omega) rest
    have hText : writeInt n ++ rest = '-' :: (Nat.toDigits 10 n.natAbs ++ rest) := by
      simp [writeInt, hNegative]
    rw [hText, readValue, skipSpace_cons (by decide)]
    simp [hRead, Reading.ofScalar, Except.map]
  · have hRead : readMagnitude false (Nat.toDigits 10 n.natAbs ++ rest) = .ok (.whole n, rest) := by
      rw [readMagnitude_toDigits false hMagnitude hEnd]
      have hValue : n = if false then -(n.natAbs : Int) else n.natAbs := by
        rw [if_neg Bool.false_ne_true]
        omega
      exact wholeNumber_of_fits hValue hFits (by simp) rest
    obtain ⟨c, more, hDigits, hDigit, -⟩ := toDigits_eq_cons n.natAbs
    have hOther (d : Char) (hd : d.isDigit = false) : c ≠ d := ne_of_test hDigit hd
    have hText : writeInt n ++ rest = c :: (more ++ rest) := by
      simp [writeInt, hNegative, hDigits]
    rw [hDigits, List.cons_append] at hRead
    rw [hText, readValue, skipSpace_cons (isSpace_of_isDigit hDigit)]
    simp [hOther, hDigit, hRead, Reading.ofScalar, Except.map]

end Scalars

section Parts
variable {blanks : List Char}

theorem nextItem_close (hBlanks : ∀ c ∈ blanks, isSpace c = true) (after : List Char) :
    nextItem (blanks ++ ']' :: after) = .ok (none, after) := by
  rw [nextItem, skipSpace_append hBlanks, skipSpace_cons (by decide)]
  rfl

theorem nextItem_comma (hBlanks : ∀ c ∈ blanks, isSpace c = true) {text : List Char}
    (hText : StartsValue text) : nextItem (',' :: (blanks ++ text)) = .ok (some text, []) := by
  obtain ⟨c, rest, rfl, hSpace, hClose⟩ := hText
  rw [nextItem, skipSpace_cons (by decide)]
  simp [skipSpace_append hBlanks, skipSpace_cons hSpace, hClose]

theorem nextKey_close (hBlanks : ∀ c ∈ blanks, isSpace c = true) (first : Bool)
    (after : List Char) : nextKey first (blanks ++ '\x7d' :: after) = .ok (none, after) := by
  rw [nextKey, skipSpace_append hBlanks, skipSpace_cons (by decide)]
  rfl

theorem nextKey_first (hBlanks : ∀ c ∈ blanks, isSpace c = true) (rest : List Char) :
    nextKey true (blanks ++ '"' :: rest) = .ok (some rest, []) := by
  rw [nextKey, skipSpace_append hBlanks, skipSpace_cons (by decide)]
  rfl

theorem nextKey_comma (hBlanks : ∀ c ∈ blanks, isSpace c = true) (rest : List Char) :
    nextKey false (',' :: (blanks ++ '"' :: rest)) = .ok (some rest, []) := by
  rw [nextKey, skipSpace_cons (by decide)]
  simp [skipSpace_append hBlanks, skipSpace_cons (show isSpace '"' = false by decide)]

/-- With this fuel the value is read off the front of the text, and `rest` is left. -/
def IsRead (fuel level : Nat) (text rest : List Char) (value : Json) : Prop :=
  ∃ tree, readValue fuel level text = ⟨tree, some rest⟩ ∧ tree.value = .ok value

/-- Written at this depth, the value is read back with this level, whatever ends it. -/
def IsReadBack (spacing : Spacing) (level depth : Nat) (value : Json) : Prop :=
  ∀ fuel rest, EndsValue rest → 2 * (write spacing depth value).length ≤ fuel →
    IsRead fuel level (write spacing depth value ++ rest) rest value

theorem endsValue_items (spacing : Spacing) (depth : Nat)
    (hBlanks : ∀ c ∈ blanks, isSpace c = true) (items : List Json) (after : List Char) :
    EndsValue (writeItems spacing depth items ++ (blanks ++ ']' :: after)) := by
  cases items with
  | nil =>
    rw [writeItems, List.nil_append]
    exact endsValue_append hBlanks (endsValue_cons (by simp))
  | cons item rest => exact endsValue_cons (by simp)

theorem endsValue_members (spacing : Spacing) (depth : Nat)
    (hBlanks : ∀ c ∈ blanks, isSpace c = true) (members : List (String × Json))
    (after : List Char) :
    EndsValue (writeMembers spacing depth members ++ (blanks ++ '\x7d' :: after)) := by
  cases members with
  | nil =>
    rw [writeMembers, List.nil_append]
    exact endsValue_append hBlanks (endsValue_cons (by simp))
  | cons member rest => exact endsValue_cons (by simp)

variable {spacing : Spacing} {level depth : Nat}

/-- The items of a list are read one after another, up to its closing bracket. -/
theorem readItems_write (hSpacing : spacing.IsBlank) (hBlanks : ∀ c ∈ blanks, isSpace c = true)
    (lead : List Char) (hLead : ∀ c ∈ lead, isSpace c = true) {item : Json} {rest : List Json}
    (after : List Char) (hItem : IsReadBack spacing level depth item)
    (hRest : ∀ next ∈ rest, IsReadBack spacing level depth next)
    (hWritable : ∀ next ∈ rest, Writable level next) (fuel : Nat)
    (hFuel : 2 * ((write spacing depth item).length + (writeItems spacing depth rest).length) + 1 ≤
      fuel) :
    ∃ parts, readItems fuel level (lead ++ (write spacing depth item ++
        (writeItems spacing depth rest ++ (blanks ++ ']' :: after)))) =
          ⟨parts, .closed (at? after), some after⟩ ∧
      Tree.itemValues parts = .ok (item :: rest) := by
  -- The blanks in front of a later item are passed over with its comma, so `lead` is then empty.
  induction rest generalizing item lead fuel with
  | nil =>
    cases fuel with
    | zero => omega
    | succ fuel =>
      obtain ⟨tree, hTree, hValue⟩ := hItem fuel _
        (endsValue_items spacing depth hBlanks [] after) (by omega)
      rw [readItems, readValue_blanks hLead, hTree]
      simp only [Reading.follow, writeItems, List.nil_append, nextItem_close hBlanks,
        Option.map_some]
      exact ⟨_, rfl, Tree.itemValues_eq_ok_cons_iff.mpr ⟨_, _, _, rfl, hValue, rfl⟩⟩
  | cons next more ih =>
    cases fuel with
    | zero => omega
    | succ fuel =>
      simp only [writeItems, List.length_cons, List.length_append] at hFuel
      obtain ⟨tree, hTree, hValue⟩ := hItem fuel _
        (endsValue_items spacing depth hBlanks (next :: more) after)
        (by omega)
      obtain ⟨parts, hParts, hValues⟩ := ih [] (by simp) (hRest next List.mem_cons_self)
        (fun other h => hRest other (List.mem_cons_of_mem _ h))
        (fun other h => hWritable other (List.mem_cons_of_mem _ h)) fuel (by omega)
      rw [List.nil_append] at hParts
      have hStarts := (startsValue_write spacing depth (hWritable next List.mem_cons_self)).append
        (writeItems spacing depth more ++ (blanks ++ ']' :: after))
      have hNext := nextItem_comma (hSpacing.gap depth) hStarts
      rw [readItems, readValue_blanks hLead, hTree]
      simp only [Reading.follow, writeItems, List.cons_append, List.append_assoc, hNext, hParts,
        Option.bind_some]
      exact ⟨_, rfl, Tree.itemValues_eq_ok_cons_iff.mpr ⟨_, _, _, rfl, hValue, hValues⟩⟩

/-- A member is read by its key, its colon and its value, and the rest of the members after it. -/
theorem readMembers_member (hSpacing : spacing.IsBlank) {first : Bool} {key : String}
    {value : Json} {text unused rest : List Char}
    (hKey : nextKey first text = .ok (some (key.toList.flatMap escapeChar ++ '"' ::
      (spacing.colon ++ (write spacing depth value ++ rest))), unused))
    (hValue : IsReadBack spacing level depth value) (hRest : EndsValue rest) (fuel : Nat)
    (hFuel : 2 * (write spacing depth value).length ≤ fuel) :
    ∃ label tree, label.key = key ∧ tree.value = .ok value ∧
      readMembers (fuel + 1) level first text =
        ⟨(label, tree) :: (readMembers fuel level false rest).parts,
          (readMembers fuel level false rest).ending,
          (readMembers fuel level false rest).rest?⟩ := by
  obtain ⟨blanks, hColon, hBlanks⟩ := hSpacing.colon
  obtain ⟨tree, hTree, hTreeValue⟩ := hValue fuel rest hRest hFuel
  have hRead : readColon (spacing.colon ++ (write spacing depth value ++ rest)) =
      .ok (blanks ++ (write spacing depth value ++ rest)) := by
    rw [hColon, List.cons_append, readColon, skipSpace_cons (by decide)]
    rfl
  rw [readMembers, hKey]
  simp only [readString_escaped, hRead, readValue_blanks hBlanks, hTree, Reading.follow,
    Option.bind_some]
  exact ⟨_, tree, rfl, hTreeValue, rfl⟩

/-- The members after the first are read one after another, up to the closing brace. -/
theorem readMembers_writeMembers (hSpacing : spacing.IsBlank)
    (hBlanks : ∀ c ∈ blanks, isSpace c = true) {members : List (String × Json)}
    (after : List Char) (hMembers : ∀ pair ∈ members, IsReadBack spacing level depth pair.2)
    (fuel : Nat) (hFuel : 2 * (writeMembers spacing depth members).length + 1 ≤ fuel) :
    ∃ parts, readMembers fuel level false
        (writeMembers spacing depth members ++ (blanks ++ '\x7d' :: after)) =
          ⟨parts, .closed (at? after), some after⟩ ∧
      Tree.memberValues parts = .ok members := by
  induction members generalizing fuel with
  | nil =>
    cases fuel with
    | zero => omega
    | succ fuel =>
      rw [readMembers]
      simp only [writeMembers, List.nil_append, nextKey_close hBlanks]
      exact ⟨[], rfl, rfl⟩
  | cons member rest ih =>
    obtain ⟨key, value⟩ := member
    cases fuel with
    | zero => omega
    | succ fuel =>
      simp only [writeMembers, List.length_cons, List.length_append] at hFuel
      obtain ⟨parts, hParts, hValues⟩ := ih
        (fun other h => hMembers other (List.mem_cons_of_mem _ h)) fuel (by omega)
      have hKey := nextKey_comma (hSpacing.gap depth) (key.toList.flatMap escapeChar ++ '"' ::
        (spacing.colon ++ (write spacing depth value ++
          (writeMembers spacing depth rest ++ (blanks ++ '\x7d' :: after)))))
      obtain ⟨label, tree, hLabel, hValue, hRead⟩ := readMembers_member hSpacing hKey
        (hMembers _ List.mem_cons_self)
        (endsValue_members spacing depth hBlanks rest after)
        fuel (by omega)
      have hText : writeMembers spacing depth ((key, value) :: rest) ++
          (blanks ++ '\x7d' :: after) = ',' :: (spacing.gap depth ++ '"' ::
            (key.toList.flatMap escapeChar ++ '"' :: (spacing.colon ++
              (write spacing depth value ++
                (writeMembers spacing depth rest ++ (blanks ++ '\x7d' :: after)))))) := by
        simp [writeMembers, writeString]
      rw [hText, hRead, hParts]
      exact ⟨_, rfl, Tree.memberValues_eq_ok_cons_iff.mpr ⟨_, _, _, rfl, hLabel, hValue, hValues⟩⟩

/-- What is written is never empty, so there is fuel for it. -/
theorem IsReadBack.of_succ {value : Json} (hValue : Writable level value)
    (h : ∀ fuel rest, EndsValue rest → 2 * (write spacing depth value).length ≤ fuel + 1 →
      IsRead (fuel + 1) level (write spacing depth value ++ rest) rest value) :
    IsReadBack spacing level depth value := by
  intro fuel rest hRest hFuel
  cases fuel with
  | zero =>
    obtain ⟨c, more, hText, -⟩ := startsValue_write spacing depth hValue
    rw [hText] at hFuel
    cases hFuel
  | succ fuel => exact h fuel rest hRest hFuel

theorem isReadBack_array (hSpacing : spacing.IsBlank) {items : List Json}
    (hItems : ∀ item ∈ items, IsReadBack spacing level (depth + 1) item)
    (hWritable : ∀ item ∈ items, Writable level item) :
    IsReadBack spacing (level + 1) depth (.array items) := by
  refine .of_succ (.array hWritable) fun fuel rest _ hFuel => ?_
  cases items with
  | nil =>
    refine ⟨.list (at? ('[' :: ']' :: rest)) [] (.closed (at? rest)), ?_, rfl⟩
    simp [write, readValue, skipSpace_cons (show isSpace '[' = false by decide),
      skipSpace_cons (show isSpace ']' = false by decide), Char.isDigit]
  | cons item more =>
    -- The reader looks for a closing bracket before it turns to the items, and finds their first
    -- character instead.
    have hFirst := hWritable item List.mem_cons_self
    obtain ⟨d, tail, hText, hSpace, hClose⟩ := (startsValue_write spacing (depth + 1) hFirst).append
      (writeItems spacing (depth + 1) more ++ (spacing.gap depth ++ ']' :: rest))
    simp only [write, List.length_append, List.length_cons] at hFuel
    obtain ⟨parts, hParts, hValues⟩ := readItems_write hSpacing (hSpacing.gap depth)
      (spacing.gap (depth + 1)) (hSpacing.gap (depth + 1)) rest (hItems item List.mem_cons_self)
      (fun next h => hItems next (List.mem_cons_of_mem _ h))
      (fun next h => hWritable next (List.mem_cons_of_mem _ h)) fuel (by omega)
    rw [hText] at hParts
    refine ⟨.list (at? (write spacing depth (.array (item :: more)) ++ rest)) parts
      (.closed (at? rest)), ?_, Tree.value_eq_ok_iff.mpr (.list _ _ hValues)⟩
    simp [write, readValue, skipSpace_cons (show isSpace '[' = false by decide),
      skipSpace_append (hSpacing.gap (depth + 1)), hText, skipSpace_cons hSpace, hClose, hParts,
      Char.isDigit]

theorem isReadBack_object (hSpacing : spacing.IsBlank) {members : List (String × Json)}
    (hMembers : ∀ pair ∈ members, IsReadBack spacing level (depth + 1) pair.2)
    (hWritable : ∀ pair ∈ members, Writable level pair.2) :
    IsReadBack spacing (level + 1) depth (.object members) := by
  refine .of_succ (.object hWritable) fun fuel rest _ hFuel => ?_
  cases members with
  | nil =>
    cases fuel with
    | zero => simp [write] at hFuel
    | succ fuel =>
      refine ⟨.record (at? ('\x7b' :: '\x7d' :: rest)) [] (.closed (at? rest)), ?_, rfl⟩
      have hClose : nextKey true ('\x7d' :: rest) = .ok (none, rest) :=
        nextKey_close (List.forall_mem_nil _) true rest
      simp [write, readValue, readMembers, hClose,
        skipSpace_cons (show isSpace '\x7b' = false by decide), Char.isDigit]
  | cons member more =>
    obtain ⟨key, value⟩ := member
    simp only [write, List.length_append, List.length_cons] at hFuel
    cases fuel with
    | zero => omega
    | succ fuel =>
      have hKey := nextKey_first (hSpacing.gap (depth + 1)) (key.toList.flatMap escapeChar ++
        '"' :: (spacing.colon ++ (write spacing (depth + 1) value ++
          (writeMembers spacing (depth + 1) more ++ (spacing.gap depth ++ '\x7d' :: rest)))))
      obtain ⟨label, tree, hLabel, hValue, hRead⟩ := readMembers_member hSpacing hKey
        (hMembers _ List.mem_cons_self)
        (endsValue_members spacing (depth + 1) (hSpacing.gap depth) more rest) fuel (by omega)
      obtain ⟨parts, hParts, hValues⟩ := readMembers_writeMembers hSpacing (hSpacing.gap depth)
        rest (fun other h => hMembers other (List.mem_cons_of_mem _ h)) fuel (by omega)
      have hAll := Tree.memberValues_eq_ok_cons_iff.mpr
        ⟨label, tree, parts, rfl, hLabel, hValue, hValues⟩
      refine ⟨.record (at? (write spacing depth (.object ((key, value) :: more)) ++ rest))
        ((label, tree) :: parts) (.closed (at? rest)), ?_,
        Tree.value_eq_ok_iff.mpr (.record _ _ hAll)⟩
      rw [hParts] at hRead
      simp [write, writeString, readValue, hRead,
        skipSpace_cons (show isSpace '\x7b' = false by decide), Char.isDigit]

/-- Whatever ends a value that is written, the value is read back, and its end is left. -/
theorem readValue_write (hSpacing : spacing.IsBlank) {value : Json} (h : Writable level value)
    (depth : Nat) : IsReadBack spacing level depth value := by
  induction h generalizing depth with
  | null =>
    refine .of_succ .null fun fuel rest _ _ => ⟨.scalar .null (at? rest), ?_, rfl⟩
    simp [write, readValue, skipSpace_cons (show isSpace 'n' = false by decide), readWord,
      Reading.ofScalar, Except.map]
  | bool b =>
    refine .of_succ (.bool b) fun fuel rest _ _ => ⟨.scalar (.bool b) (at? rest), ?_, rfl⟩
    cases b with
    | false =>
      simp [write, readValue, skipSpace_cons (show isSpace 'f' = false by decide), readWord,
        Reading.ofScalar, Except.map]
    | true =>
      simp [write, readValue, skipSpace_cons (show isSpace 't' = false by decide), readWord,
        Reading.ofScalar, Except.map]
  | string s =>
    exact .of_succ (.string s) fun fuel rest _ _ => ⟨_, readValue_writeString fuel _ s rest, rfl⟩
  | whole hFits =>
    exact .of_succ (.whole hFits) fun fuel rest hRest _ =>
      ⟨_, readValue_writeInt fuel _ hFits hRest.endsNumber, rfl⟩
  | array hItems ih => exact isReadBack_array hSpacing (fun item h => ih item h _) hItems
  | object hMembers ih => exact isReadBack_object hSpacing (fun pair h => ih pair h _) hMembers

end Parts

/-- A reader that goes by the value reads what is written of it, whatever blanks come after. -/
theorem decode_write_blanks {α : Type} {spacing : Spacing} (hSpacing : spacing.IsBlank)
    {value : Json} (hValue : Writable maxDepth value) {blanks : List Char}
    (hBlanks : ∀ c ∈ blanks, isSpace c = true) {read : TextTree → Except TextFault α} {a : α}
    (hRead : Tree.Reads read value a) :
    decode read (String.ofList (write spacing 0 value ++ blanks)) = .ok a := by
  have hEnds : EndsValue blanks := by
    rw [← List.append_nil blanks]
    exact endsValue_append hBlanks endsValue_nil
  obtain ⟨tree, hTree, hTreeValue⟩ := readValue_write hSpacing hValue 0
    (2 * (write spacing 0 value ++ blanks).length + 2) blanks hEnds
    (by rw [List.length_append]; omega)
  have hText : readTree (write spacing 0 value ++ blanks) = ⟨tree, some blanks⟩ := hTree
  have hEnd : readEnd blanks = .ok () := by
    have hSkip := skipSpace_append hBlanks []
    rw [List.append_nil] at hSkip
    rw [readEnd, hSkip]
    rfl
  simp [decode, decodeChars, hText, hRead tree hTreeValue, Reading.follow, hEnd, bind, Except.bind,
    pure, Except.pure, Except.mapError]

theorem decode_write {α : Type} {spacing : Spacing} (hSpacing : spacing.IsBlank) {value : Json}
    (hValue : Writable maxDepth value) {read : TextTree → Except TextFault α} {a : α}
    (hRead : Tree.Reads read value a) :
    decode read (String.ofList (write spacing 0 value)) = .ok a := by
  have h := decode_write_blanks hSpacing hValue (List.forall_mem_nil _) hRead
  rwa [List.append_nil] at h

theorem decode_pretty {α : Type} {value : Json} (hValue : Writable maxDepth value)
    {read : TextTree → Except TextFault α} {a : α} (hRead : Tree.Reads read value a) :
    decode read value.pretty = .ok a :=
  decode_write Spacing.isBlank_pretty hValue hRead

/-- A text that is written is read as its value, with all members in ascending order. -/
theorem read_pretty_blanks {value : Json} (hValue : Writable maxDepth value) {blanks : List Char}
    (hBlanks : ∀ c ∈ blanks, isSpace c = true) :
    read (value.pretty ++ String.ofList blanks) = .ok value.sorted := by
  have hReads : Tree.Reads (P := Mark) Tree.value value value := fun _ h => h
  have h := decode_write_blanks Spacing.isBlank_pretty hValue hBlanks hReads
  rw [read, pretty, ← String.ofList_append, h]
  rfl

end Fleet.Json
