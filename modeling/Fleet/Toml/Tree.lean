import Fleet.Toml.Basic
import Fleet.Tree.Decode

/-!
# TOML values as trees

A TOML document is read by the same typed readers as JSON. A fault is placed at the value it is
about; a missing field at the header of its table, or at the whole of an inline table. A moment
looks like an empty record.
-/
namespace Fleet.Toml

abbrev SpanTree := Tree Span

mutual
def Item.tree (place : Span) : Item → SpanTree
  | .scalar value => .scalar value (some place)
  | .moment _ => .record (some place) [] (.closed (some place))
  | .array items => .list (some place) (itemTrees items) (.closed (some place))
  | .table _ members => .record (some place) (memberTrees members) (.closed (some place))
  | .tables elements => .list (some place) (itemTrees elements) (.closed (some place))

def itemTrees : List (Span × Item) → List (Slot Span × SpanTree)
  | [] => []
  | (place, item) :: rest => (⟨some place, none⟩, item.tree place) :: itemTrees rest

def memberTrees : List (Key × Span × Item) → List (Label Span × SpanTree)
  | [] => []
  | (key, place, item) :: rest =>
    (⟨key.name, some key.span, some place, none⟩, item.tree place) :: memberTrees rest
end

def Members.tree (members : Members) : SpanTree := .record none (memberTrees members) (.closed none)

end Fleet.Toml
