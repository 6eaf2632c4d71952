import Fleet.Proofs.Toml.Lines
import Fleet.Proofs.Tree.Decode

/-!
# Arrays of tables built from lines

A header of an array of tables starts a table at the end of the array, and the assignments after it
go to that table. `Holds` says of a root table that it has nothing but an array with these tables,
`Fills` says so while the last of them is being filled. Each line takes a root table from one such
state to the next, so a document ends with the tables that its lines spell, field by field.
-/
namespace Fleet.Toml

/-- The lines of one table of an array. -/
def tableLines (array : String) (fields : List (String × Json)) : List Line :=
  .element array :: fields.map fun field => .assign field.1 field.2

/-- The members of a table are these fields. -/
def Members.Are (members : Members) (fields : List (String × Json)) : Prop :=
  List.Forall₂ (fun member field => member.1.name = field.1 ∧ member.2.2.Shows field.2)
    members fields

/-- The element is a table with these fields. -/
def IsTable (element : Span × Item) (fields : List (String × Json)) : Prop :=
  ∃ (form : Form) (members : Members), element.2 = .table form members ∧ members.Are fields

/-- There is nothing but one array, if there is anything, and these are its tables. -/
inductive Members.Holds (array : String) : List (List (String × Json)) → Members → Prop where
  | nothing : Holds array [] []
  | tables {key : Key} {place : Span} {elements : List (Span × Item)}
      {tables : List (List (String × Json))} : key.name = array →
        List.Forall₂ IsTable elements tables → Holds array tables [(key, place, .tables elements)]

/-- There is nothing but one array, with these tables and one more that has these fields so far. -/
inductive Members.Filling (array : String) (tables : List (List (String × Json)))
    (fields : List (String × Json)) : Members → Prop where
  | last {key : Key} {place span : Span} {elements : List (Span × Item)} {form : Form}
      {members : Members} : key.name = array → List.Forall₂ IsTable elements tables →
        members.Are fields →
          Filling array tables fields
            [(key, place, .tables (elements ++ [(span, .table form members)]))]

namespace Members
variable {array : String} {members : Members} {tables : List (List (String × Json))}
  {fields : List (String × Json)}

theorem Are.append (h : members.Are fields) {key : Key} {span : Span} {item : Item} {value : Json}
    (hShows : item.Shows value) :
    Are (members ++ [(key, span, item)]) (fields ++ [(key.name, value)]) :=
  List.rel_append h (.cons ⟨rfl, hShows⟩ .nil)

theorem Are.find?_eq_none (h : members.Are fields) {name : String}
    (hName : name ∉ fields.map Prod.fst) : members.find? name = none := by
  induction h with
  | nil => rfl
  | cons hMember _ ih =>
    rw [List.map_cons, List.mem_cons, not_or] at hName
    have hOther : ¬_ = name := fun hEq => hName.1 (hMember.1 ▸ hEq.symm)
    rw [find?, List.find?_cons_of_neg (by simpa using hOther)]
    exact ih hName.2

theorem Filling.holds (h : Filling array tables fields members) :
    Holds array (tables ++ [fields]) members := by
  cases h with
  | @last _ _ span _ form inner hKey hTables hFields =>
    have hLast : IsTable (span, .table form inner) fields := ⟨form, inner, rfl, hFields⟩
    exact .tables hKey (List.rel_append hTables (.cons hLast .nil))

theorem changeLast?_cons (change : Members → Option Members) (first : Span × Item)
    {rest : List (Span × Item)} (h : rest ≠ []) :
    changeLast? change (first :: rest) = (changeLast? change rest).map (first :: ·) := by
  obtain ⟨second, more, rfl⟩ := List.exists_cons_of_ne_nil h
  rw [changeLast?]
  · cases changeLast? change (second :: more) <;> rfl
  · simp
  · simp

/-- A change of the last table leaves the tables in front of it. -/
theorem changeLast?_table (change : Members → Option Members) (elements : List (Span × Item))
    (span : Span) (form : Form) (members : Members) :
    changeLast? change (elements ++ [(span, .table form members)]) =
      (change members).map fun changed => elements ++ [(span, .table form changed)] := by
  induction elements with
  | nil => cases h : change members <;> simp [changeLast?, h]
  | cons first rest ih =>
    rw [List.cons_append, changeLast?_cons change first (by simp), ih, Option.map_map]
    rfl

section Steps

/-- A header opens a table without fields after those that are there. -/
theorem Holds.openElement? (h : Holds array tables members) (key : Key) (hKey : key.name = array)
    (span : Span) :
    ∃ opened, members.openElement? key span = some opened ∧ Filling array tables [] opened := by
  cases h with
  | nothing =>
    have hNone : List.Forall₂ IsTable [] [] := .nil
    exact ⟨_, rfl, .last hKey hNone .nil⟩
  | @tables old place elements _ hOld hTables =>
    refine ⟨[(old, ⟨place.start, span.stop⟩, .tables (elements ++ [(span, .table .headed [])]))],
      ?_, .last hOld hTables .nil⟩
    simp [Members.openElement?, find?, set, hOld, hKey]

/-- An assignment below the header adds its field to the table. -/
theorem Filling.assign? (h : Filling array tables fields members) {here : Key}
    (hHere : here.name = array) (key : Key) (hNew : key.name ∉ fields.map Prod.fst) (span : Span)
    {item : Item} {value : Json} (hShows : item.Shows value) :
    ∃ changed, changeAt? (assign? true [] key span item) [here] members = some changed ∧
      Filling array tables (fields ++ [(key.name, value)]) changed := by
  cases h with
  | @last old place last elements form inner hOld hTables hFields =>
    have hLast : (changeAt? (Members.assign? true [] key span item) []) inner =
        some (inner ++ [(key, span, item)]) := by
      simp [changeAt?, Members.assign?, hFields.find?_eq_none hNew]
    refine ⟨[(old, place,
      .tables (elements ++ [(last, .table form (inner ++ [(key, span, item)]))]))],
      ?_, .last hOld hTables (hFields.append hShows)⟩
    rw [changeAt?]
    simp [find?, set, hOld, hHere, changeLast?_table, hLast]

end Steps

section Runs
variable {statements : List Statement} {lines : List Line}

/-- The assignments after a header fill its table; what follows them is carried out next. -/
theorem Filling.carryOut? {more : List (String × Json)} (h : Filling array tables fields members)
    (here : Key) (hHere : here.name = array) (hKeys : ((fields ++ more).map Prod.fst).Nodup)
    (hSays : List.Forall₂ Says statements
      ((more.map fun field => .assign field.1 field.2) ++ lines)) :
    ∃ rest filled, List.Forall₂ Says rest lines ∧ Filling array tables (fields ++ more) filled ∧
      carryOut? [here] members statements = carryOut? [here] filled rest := by
  induction more generalizing fields members statements with
  | nil => exact ⟨statements, members, hSays, by rwa [List.append_nil], rfl⟩
  | cons field more ih =>
    obtain ⟨name, value⟩ := field
    have hAppend : fields ++ (name, value) :: more = fields ++ [(name, value)] ++ more := by simp
    have hNew : name ∉ fields.map Prod.fst := by
      rw [List.map_append, List.nodup_append] at hKeys
      exact fun hMem => hKeys.2.2 name hMem name (by simp) rfl
    cases hSays with
    | cons hFirst hRest =>
      cases hFirst with
      | assign _ place span hShows =>
        obtain ⟨changed, hChanged, hFilling⟩ := h.assign? hHere ⟨name, place⟩ hNew span hShows
        rw [hAppend] at hKeys ⊢
        obtain ⟨rest, filled, hLines, hFilled, hRun⟩ := ih hFilling hKeys hRest
        refine ⟨rest, filled, hLines, hFilled, ?_⟩
        simp [Members.carryOut?, hChanged, hRun]

/-- The lines of more tables put these after the tables that are there. -/
theorem Holds.carryOut? {more : List (List (String × Json))} (h : Holds array tables members)
    (hKeys : ∀ fields ∈ more, (fields.map Prod.fst).Nodup)
    (hSays : List.Forall₂ Says statements (more.flatMap (tableLines array))) (here : List Key) :
    ∃ final, carryOut? here members statements = some final ∧
      Holds array (tables ++ more) final := by
  induction more generalizing tables members statements here with
  | nil =>
    cases hSays
    exact ⟨members, rfl, by rwa [List.append_nil]⟩
  | cons fields more ih =>
    obtain ⟨hFields, hMore⟩ := List.forall_mem_cons.mp hKeys
    rw [List.flatMap_cons, tableLines, List.cons_append] at hSays
    cases hSays with
    | cons hFirst hRest =>
      cases hFirst with
      | element _ place span =>
        obtain ⟨opened, hOpened, hFilling⟩ := h.openElement? ⟨array, place⟩ rfl span
        obtain ⟨rest, filled, hLines, hFilled, hRun⟩ :=
          hFilling.carryOut? ⟨array, place⟩ rfl hFields hRest
        obtain ⟨final, hFinal, hHolds⟩ := ih hFilled.holds hMore hLines [⟨array, place⟩]
        rw [List.append_assoc] at hHolds
        refine ⟨final, ?_, hHolds⟩
        simp [Members.carryOut?, changeAt?, hOpened, hRun, hFinal]

end Runs

section Values

theorem Are.memberValues (h : members.Are fields) :
    Tree.memberValues (memberTrees members) = .ok fields := by
  induction h with
  | nil => rfl
  | @cons member field _ _ hMember _ ih =>
    obtain ⟨key, place, item⟩ := member
    exact Tree.memberValues_eq_ok_cons_iff.mpr ⟨_, _, _, rfl, hMember.1, hMember.2 place, ih⟩

theorem itemValues_of_tables {elements : List (Span × Item)}
    (h : List.Forall₂ IsTable elements tables) :
    Tree.itemValues (itemTrees elements) = .ok (tables.map .object) := by
  induction h with
  | nil => rfl
  | @cons element fields _ _ hTable _ ih =>
    obtain ⟨place, item⟩ := element
    obtain ⟨form, members, rfl, hFields⟩ := hTable
    have hTable := Tree.value_eq_ok_iff.mpr (.record (some place) (some place) hFields.memberValues)
    exact Tree.itemValues_eq_ok_cons_iff.mpr ⟨_, _, _, rfl, hTable, ih⟩

/-- An array without tables may be left out. -/
theorem Holds.value (h : Holds array tables members) :
    members.tree.value = .ok (.object [(array, .array (tables.map .object))]) ∨
      (tables = [] ∧ members.tree.value = .ok (.object [])) := by
  cases h with
  | nothing => exact .inr ⟨rfl, rfl⟩
  | @tables key place elements _ hKey hTables =>
    refine .inl (Tree.value_eq_ok_iff.mpr (.record none none ?_))
    have hArray := Tree.value_eq_ok_iff.mpr
      (.list (some place) (some place) (itemValues_of_tables hTables))
    exact Tree.memberValues_eq_ok_cons_iff.mpr ⟨_, _, _, rfl, hKey, hArray, rfl⟩

end Values

end Members

/-- The tables of a document are those that its lines spell. -/
theorem read?_of_tables {array : String} {tables : List (List (String × Json))} {text : String}
    (hKeys : ∀ fields ∈ tables, (fields.map Prod.fst).Nodup)
    (h : Lays (tables.flatMap (tableLines array)) text.toList) :
    ∃ members, read? text = some members ∧ members.Holds array tables := by
  obtain ⟨statements, hSays, hRead⟩ := read?_of_lays h
  obtain ⟨final, hFinal, hHolds⟩ := Members.Holds.nothing.carryOut? hKeys hSays []
  exact ⟨final, hRead.trans hFinal, hHolds⟩

end Fleet.Toml
