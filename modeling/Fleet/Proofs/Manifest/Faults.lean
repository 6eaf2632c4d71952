import Fleet.Fault
import Fleet.Proofs.Manifest.Names

/-!
# Which file a fault of a manifest is about

A manifest can be absent, a directory, not text, not TOML, or TOML of another shape, and it can fail
the check of its names. Every fault but the last is made where the path is known, and its message
shows it. The check of names is not told where the names come from, and its message is handed on as
it is.
-/
namespace Fleet.Manifest

/-- The message that a run ends with shows the path. -/
def ShowsPath (path : Path) (fault : ManifestFault) : Prop :=
  path.display.toList <:+: (RunFault.manifest fault).message.toList

/-- The file describes machines whose names fail the check, and the text of the check is all that is
said. -/
def Misnamed (files : Files) (path : Path) (fault : ManifestFault) : Prop :=
  ∃ text manifest reason, files.readText path = .ok text ∧ Describes text manifest ∧
    manifest.validate = .error reason ∧ fault = .names reason ∧
      (RunFault.manifest fault).message = "Machine manifest error: " ++ reason.message

section Loading
variable {files : Files} {path : Path} {fault : ManifestFault}

theorem message_manifest (fault : ManifestFault) :
    (RunFault.manifest fault).message = "Machine manifest error: " ++ fault.message := rfl

theorem showsPath_of_message {front back : String}
    (h : fault.message = front ++ path.display ++ back) :
    ShowsPath path fault := by
  refine ⟨("Machine manifest error: " ++ front).toList, back.toList, ?_⟩
  rw [message_manifest, h]
  simp only [String.toList_append, List.append_assoc]

theorem showsPath_unreadable (path : Path) (reason : FileFault) :
    ShowsPath path (.unreadable path reason) := by
  have hMessage : (ManifestFault.unreadable path reason).message =
      "Failed to read " ++ path.display ++ (": " ++ reason.message) := by
    rw [← String.append_assoc]
    rfl
  exact showsPath_of_message hMessage

theorem located_eq (path : Path) (text : String) :
    ManifestFault.message.located (some path) text = "" ++ path.display ++ (": " ++ text) := by
  rw [← String.append_assoc]
  rfl

theorem showsPath_notToml (path : Path) : ShowsPath path (.notToml (some path)) :=
  showsPath_of_message (located_eq path Toml.reportHead)

theorem showsPath_misshapen (path : Path) (report : String) :
    ShowsPath path (.misshapen (some path) report) :=
  showsPath_of_message (located_eq path report)

/-- A manifest that cannot be loaded is reported with its path, unless nothing but its names is
wrong. -/
theorem showsPath_or_misnamed (h : load files path = .error fault) :
    ShowsPath path fault ∨ Misnamed files path fault := by
  unfold load at h
  cases hText : files.readText path with
  | error reason =>
    simp only [hText, Except.error.injEq] at h
    exact .inl (h ▸ showsPath_unreadable path reason)
  | ok text =>
    simp only [hText] at h
    by_cases hSome : ∃ manifest, Describes text manifest
    · obtain ⟨manifest, hDescribes⟩ := hSome
      rw [readText_of_describes hDescribes, Except.mapError_eq_error_iff] at h
      obtain ⟨reason, hNames, rfl⟩ := h
      rw [Except.map_eq_error_iff] at hNames
      exact .inr ⟨text, manifest, reason, hText, hDescribes, hNames, rfl, rfl⟩
    · have hNone := readText_of_not_describes (not_exists.mp hSome) (some path)
      rcases hNone with hOther | ⟨report, hOther⟩
      · cases h.symm.trans hOther
        exact .inl (showsPath_notToml path)
      · cases h.symm.trans hOther
        exact .inl (showsPath_misshapen path report)

end Loading

section Cases

def filesWith (text : String) : Files :=
  ⟨["work"], [(["work", "machines.toml"], .file text.toUTF8.data.toList)]⟩

/-- A machine without a kind has another shape. -/
theorem showsPath_or_misnamed_kindless :
    ∃ fault, load (filesWith "[[machine]]\nname = 'a'\n") "machines.toml" = .error fault ∧
      (ShowsPath "machines.toml" fault ∨
        Misnamed (filesWith "[[machine]]\nname = 'a'\n") "machines.toml" fault) := by
  have hNone : (load (filesWith "[[machine]]\nname = 'a'\n") "machines.toml").toOption = none := by
    decide +kernel
  cases hLoad : load (filesWith "[[machine]]\nname = 'a'\n") "machines.toml" with
  | ok manifest =>
    rw [hLoad] at hNone
    cases hNone
  | error fault => exact ⟨fault, rfl, showsPath_or_misnamed hLoad⟩

theorem load_nameless :
    load (filesWith "[[machine]]\nname = ''\nkind = 'linux'\nhostname = 'a'\nip = '1'\n")
      "machines.toml" = .error (.names .empty) := by
  decide +kernel

/-- Not every fault of a manifest shows where the manifest is. -/
theorem not_always_showsPath :
    ¬∀ (files : Files) (path : Path) (fault : ManifestFault),
      load files path = .error fault → ShowsPath path fault := by
  intro hAlways
  have hPoint : '.' ∈ (RunFault.manifest (.names .empty)).message.toList :=
    (hAlways _ _ _ load_nameless).subset (by decide)
  revert hPoint
  decide

end Cases

end Fleet.Manifest
