import Fleet.Proofs.KeyMap
import Fleet.Proofs.Text.Lower
import Fleet.Settings.Load

/-!
# The shape of settings

Settings have nine fields, each with a path and a kind, and the levels of single modules. A shape
says what a value has to look like for that: a record demands of a member that is meant for a field
that it is written by the name of the field and has its shape, and nothing of other members.
-/
namespace Fleet.Settings

inductive FieldKind where
  | text
  | path
  | flag
  | place
  deriving DecidableEq, Repr

inductive FieldValue where
  | text (value : String)
  | path (value : Path)
  | flag (value : Bool)
  | place (value : Option Path)
  deriving DecidableEq, Repr

/-- What a field of this kind takes from a scalar. A truth value may be given as a word, for that is
what the environment has. -/
def FieldKind.read : FieldKind → Scalar → Option FieldValue
  | .text, .string s => some (.text s)
  | .path, .string s => some (.path (.ofText s))
  | .flag, .bool b => some (.flag b)
  | .flag, .string s =>
    if Text.lower s ∈ Value.trueWords then some (.flag true)
    else if Text.lower s ∈ Value.falseWords then some (.flag false)
    else none
  | .place, .string s => some (.place (some (.ofText s)))
  | .place, .null => some (.place none)
  | _, _ => none

inductive Field where
  | document
  | linux
  | windows
  | enabled
  | level
  | format
  | output
  | file
  | color
  deriving DecidableEq, Repr

namespace Field

def all : List Field :=
  [document, linux, windows, enabled, level, format, output, file, color]

theorem mem_all (field : Field) : field ∈ all := by cases field <;> decide

instance {law : Field → Prop} [DecidablePred law] : Decidable (∀ field, law field) :=
  decidable_of_iff (∀ field ∈ all, law field)
    ⟨fun h field => h field field.mem_all, fun h field _ => h field⟩

def path : Field → List String
  | document => ["document"]
  | linux => ["boxes", "linux"]
  | windows => ["boxes", "windows"]
  | enabled => ["logging", "enabled"]
  | level => ["logging", "level"]
  | format => ["logging", "format"]
  | output => ["logging", "output"]
  | file => ["logging", "file"]
  | color => ["logging", "color"]

def kind : Field → FieldKind
  | document => .path
  | enabled | color => .flag
  | file => .place
  | _ => .text

def value (settings : Settings) : Field → FieldValue
  | document => .path settings.document
  | linux => .text settings.boxes.linux
  | windows => .text settings.boxes.windows
  | enabled => .flag settings.logging.enabled
  | level => .text settings.logging.level
  | format => .text settings.logging.format
  | output => .text settings.logging.output
  | file => .place settings.logging.file
  | color => .flag settings.logging.color

end Field

namespace Value

def scalar? : Value → Option Scalar
  | scalar value _ => some value
  | _ => none

/-- The scalar at the end of a path of members. -/
def leaf? (value : Value) : List String → Option Scalar
  | [] => value.scalar?
  | name :: rest => (Entries.get? name value.members).bind fun inner => inner.leaf? rest

@[simp] theorem members_table (members : Members) : (table members).members = members := rfl

@[simp] theorem members_scalar (x : Scalar) (origin : Option String) :
    (scalar x origin).members = [] := rfl

@[simp] theorem members_array (items : List Value) (origin : Option String) :
    (array items origin).members = [] := rfl

@[simp] theorem scalar?_scalar (x : Scalar) (origin : Option String) :
    (scalar x origin).scalar? = some x := rfl

@[simp] theorem leaf?_end (value : Value) : value.leaf? [] = value.scalar? := rfl

@[simp] theorem leaf?_cons (value : Value) (name : String) (rest : List String) :
    value.leaf? (name :: rest) =
      (Entries.get? name value.members).bind fun inner => inner.leaf? rest := rfl

/-- A scalar that says something can be read as a text. -/
def isText (value : Value) : Bool := value.scalar?.any (· ≠ .null)

end Value

inductive Shape where
  | field (kind : FieldKind)
  | record (fields : List (String × Shape))
  | texts
  | table

namespace Shape

mutual
def fits : Shape → Value → Bool
  | field kind, value => (value.scalar?.bind kind.read).isSome
  | record fields, .table members => fieldsFit fields members
  | texts, .table members => members.all fun member => member.2.isText
  | table, .table _ => true
  | _, _ => false

def fieldsFit : List (String × Shape) → Members → Bool
  | [], _ => true
  | (name, shape) :: rest, members =>
    (members.all fun member =>
      Text.lower member.1 ≠ name || member.1 = name && fits shape member.2) &&
        fieldsFit rest members
end

/-- The shape leads along a path of names in lower case to a field of some kind. -/
inductive Leads : Shape → List String → FieldKind → Prop where
  | here {kind : FieldKind} : Leads (field kind) [] kind
  | member {fields : List (String × Shape)} {name : String} {inner : Shape} {path : List String}
      {kind : FieldKind} : (name, inner) ∈ fields → Text.lower name = name →
      Leads inner path kind → Leads (record fields) (name :: path) kind

end Shape

def boxFields : List (String × Shape) := [("linux", .field .text), ("windows", .field .text)]

def logFields (modules : Shape) : List (String × Shape) := [
  ("enabled", .field .flag), ("level", .field .text), ("format", .field .text),
  ("output", .field .text), ("file", .field .place), ("color", .field .flag), ("modules", modules)]

def topFields (modules : Shape) : List (String × Shape) := [
  ("document", .field .path), ("boxes", .record boxFields),
  ("logging", .record (logFields modules))]

/-- The shape of settings, with a shape for the levels of modules. -/
def settingsShape (modules : Shape) : Shape := .record (topFields modules)

namespace Shape
variable {shape : Shape} {fields : List (String × Shape)} {members : Members} {value : Value}
  {path : List String} {kind : FieldKind}

@[induction_eliminator]
theorem induction {motive : Shape → Prop} (field : ∀ kind, motive (field kind))
    (record : ∀ fields, (∀ field ∈ fields, motive field.2) → motive (record fields))
    (texts : motive texts) (table : motive table) (shape : Shape) : motive shape := by
  refine @Shape.rec motive (fun fields => ∀ field ∈ fields, motive field.2)
    (fun field => motive field.2) field record texts table ?_ ?_ ?_ shape
  · simp
  · intro head tail hHead hTail
    exact List.forall_mem_cons.mpr ⟨hHead, hTail⟩
  · intro name inner hInner
    exact hInner

theorem fieldsFit_cons (field : String × Shape) (rest : List (String × Shape))
    (members : Members) : fieldsFit (field :: rest) members =
      ((members.all fun member =>
        Text.lower member.1 ≠ field.1 || member.1 = field.1 && fits field.2 member.2) &&
          fieldsFit rest members) := rfl

theorem fieldsFit_iff :
    fieldsFit fields members ↔ ∀ field ∈ fields, ∀ member ∈ members,
      Text.lower member.1 = field.1 → member.1 = field.1 ∧ field.2.fits member.2 := by
  induction fields with
  | nil => exact ⟨fun _ field hField => absurd hField List.not_mem_nil, fun _ => rfl⟩
  | cons field rest ih =>
    rw [fieldsFit_cons, Bool.and_eq_true, ih, List.forall_mem_cons]
    refine and_congr_left fun _ => ?_
    simp [Decidable.or_iff_not_imp_left]

theorem fits_field_iff :
    (field kind).fits value ↔ ∃ x origin, value = .scalar x origin ∧ (kind.read x).isSome := by
  constructor
  · intro h
    cases value with
    | scalar x origin => exact ⟨x, origin, rfl, h⟩
    | array items origin => cases h
    | table members => cases h
  · rintro ⟨x, origin, rfl, h⟩
    exact h

theorem fits_record_iff :
    (record fields).fits value ↔ ∃ members, value = .table members ∧
      ∀ field ∈ fields, ∀ member ∈ members,
        Text.lower member.1 = field.1 → member.1 = field.1 ∧ field.2.fits member.2 := by
  constructor
  · intro h
    cases value with
    | scalar x origin => cases h
    | array items origin => cases h
    | table members => exact ⟨members, rfl, fieldsFit_iff.mp h⟩
  · rintro ⟨members, rfl, h⟩
    exact fieldsFit_iff.mpr h

theorem fits_texts_iff :
    texts.fits value ↔ ∃ members, value = .table members ∧ ∀ member ∈ members, member.2.isText := by
  constructor
  · intro h
    cases value with
    | scalar x origin => cases h
    | array items origin => cases h
    | table members => exact ⟨members, rfl, List.all_eq_true.mp h⟩
  · rintro ⟨members, rfl, h⟩
    exact List.all_eq_true.mpr h

theorem fits_table_iff : table.fits value ↔ ∃ members, value = .table members := by
  constructor
  · intro h
    cases value with
    | scalar x origin => cases h
    | array items origin => cases h
    | table members => exact ⟨members, rfl⟩
  · rintro ⟨members, rfl⟩
    rfl

/-- What a value of the right shape has at a field can be read. -/
theorem Leads.read_leaf? (h : shape.Leads path kind) (hFits : shape.fits value) {x : Scalar}
    (hLeaf : value.leaf? path = some x) : (kind.read x).isSome := by
  induction h generalizing value with
  | here =>
    obtain ⟨y, origin, rfl, hRead⟩ := fits_field_iff.mp hFits
    cases hLeaf
    exact hRead
  | member hField hName _ ih =>
    obtain ⟨members, rfl, hMembers⟩ := fits_record_iff.mp hFits
    obtain ⟨inner, hGet, hInner⟩ := Option.bind_eq_some_iff.mp hLeaf
    have hMember := Entries.mem_of_get? hGet
    exact ih (hMembers _ hField _ hMember hName).2 hInner

end Shape

def fieldNames : List String := ["document", "boxes", "linux", "windows", "logging", "enabled",
  "level", "format", "output", "file", "color", "modules"]

/-- The names of fields and records are in lower case. -/
theorem lower_fieldName : ∀ name ∈ fieldNames, Text.lower name = name := by
  decide +kernel

namespace Field

theorem mem_fieldNames (field : Field) : ∀ name ∈ field.path, name ∈ fieldNames := by
  cases field <;> simp [path, fieldNames]

theorem leads (modules : Shape) (field : Field) :
    (settingsShape modules).Leads field.path field.kind := by
  have hLower : ∀ name ∈ field.path, Text.lower name = name :=
    fun name hName => lower_fieldName name (field.mem_fieldNames name hName)
  have hBoxes : ("boxes", .record boxFields) ∈ topFields modules := by simp [topFields]
  have hLogging : ("logging", .record (logFields modules)) ∈ topFields modules := by
    simp [topFields]
  cases field
  case document => exact .member (by simp [topFields, kind]) (hLower _ (by simp [path])) .here
  case linux | windows =>
    exact .member hBoxes (hLower _ (by simp [path]))
      (.member (by simp [boxFields, kind]) (hLower _ (by simp [path])) .here)
  all_goals
    exact .member hLogging (hLower _ (by simp [path]))
      (.member (by simp [logFields, kind]) (hLower _ (by simp [path])) .here)

end Field

end Fleet.Settings
