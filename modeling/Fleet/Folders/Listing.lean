import Fleet.Document
import Fleet.Folders.Mount

/-!
# Folder listings of a document

A document lists the shared folders of a category as an array of objects with the members `host`
and `guest`. Entries of any other shape, and entries with an empty or missing side, count as
absent; so does a listing that is not an array.
-/
namespace Fleet.Folders

/-- The string at a member of an entry, unless it is empty. -/
def side? (key : String) (entry : Json) : Option String :=
  ((entry.member? key).bind Json.string?).filter fun s => s ≠ ""

def listedMount? (entry : Json) : Option Mount :=
  match side? "host" entry, side? "guest" entry with
  | some host, some guest => some ⟨host, guest⟩
  | _, _ => none

def listedMounts : Option Json → List Mount
  | some (.array entries) => entries.filterMap listedMount?
  | _ => []

/-- The mounts a document lists for a category, in order. -/
def ofDocument (document : Document) (category : String) : List Mount :=
  listedMounts (document.dig ["folders", category])

end Fleet.Folders
