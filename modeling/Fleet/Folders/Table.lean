import Fleet.Folders.Mount
import Fleet.Text.Table

/-!
# Tables of shared folders

Folders are shown one a row, hosts ascending.
-/
namespace Fleet.Folders

def table (folders : FolderMap) : Text.Table :=
  .ofStrings ["Host", "Guest"] (folders.toList.map fun pair => [pair.1, pair.2])

def listing (category : String) (folders : FolderMap) : String :=
  if folders.isEmpty then s!"No {category} folders.\n" else (table folders).render ++ "\n"

end Fleet.Folders
