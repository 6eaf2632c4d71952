import Fleet.Files
import Fleet.Proofs.Except

/-!
# What reading a path tells

The outcome of reading a path decides whether anything is there and whether it is a file: a path
leads to a directory exactly if reading it is refused for that reason, for no way to a place is ever
refused for it. So of a path that two file trees read alike they tell alike.
-/
namespace Fleet.Files
variable {files left right : Files} {path : Path}

theorem walk_ne_isDirectory (place : List RawText) (parts : List RawText) :
    files.walk place parts ≠ .error .isDirectory := by
  induction parts generalizing place with
  | nil => simp [walk]
  | cons part rest ih =>
    rw [walk]
    split
    · simp
    · simp
    · split
      · simp
      · split
        · exact ih place
        · split
          · exact ih place.dropLast
          · exact ih (place ++ [part])

theorem locate_ne_isDirectory (files : Files) (path : Path) :
    files.locate path ≠ .error .isDirectory := by
  unfold locate
  split
  · simp
  · split
    · simp
    · split
      · simp
      · exact walk_ne_isDirectory _ _

theorem find?_eq_file_iff {bytes : List UInt8} :
    files.find? path = some (.file bytes) ↔ files.read path = .ok bytes := by
  unfold find? read
  cases files.locate path with
  | error reason => simp [bind, Except.bind]
  | ok place =>
    cases hNode : files.node? place with
    | none => simp [bind, Except.bind, hNode]
    | some node => cases node <;> simp [bind, Except.bind, hNode]

theorem find?_eq_directory_iff :
    files.find? path = some .directory ↔ files.read path = .error .isDirectory := by
  have hLocate := locate_ne_isDirectory files path
  unfold find? read
  cases hPlace : files.locate path with
  | error reason =>
    rw [hPlace] at hLocate
    simpa [bind, Except.bind] using hLocate
  | ok place =>
    cases hNode : files.node? place with
    | none => simp [bind, Except.bind, hNode]
    | some node => cases node <;> simp [bind, Except.bind, hNode]

/-- What is found at a path is decided by reading it. -/
theorem find?_congr (h : left.read path = right.read path) :
    left.find? path = right.find? path := by
  apply Option.ext
  intro node
  cases node with
  | file bytes => rw [find?_eq_file_iff, find?_eq_file_iff, h]
  | directory => rw [find?_eq_directory_iff, find?_eq_directory_iff, h]

theorem contains_congr (h : left.read path = right.read path) :
    left.contains path = right.contains path := by
  rw [contains, contains, find?_congr h]

theorem isFile_congr (h : left.read path = right.read path) :
    left.isFile path = right.isFile path := by
  rw [isFile, isFile, find?_congr h]

theorem readText_congr (h : left.read path = right.read path) :
    left.readText path = right.readText path := by
  rw [readText, readText, h]

end Fleet.Files
