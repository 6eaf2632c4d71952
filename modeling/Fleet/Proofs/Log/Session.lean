import Fleet.Log.Session

/-!
# What logging leaves alone

A session whose logger, if it has one, writes to the error stream is discreet. Noting a record in it
writes at most one whole line to that stream, and neither the files nor the other stream nor the
logger change; so the same holds of a journal, by induction on its records. Setting up logging writes
nothing, whatever comes of it.
-/
namespace Fleet.Log

/-- The text ends where a line ends. -/
def WholeLines (text : String) : Prop := text = "" ∨ text.toList.getLast? = some '\n'

theorem WholeLines.append {front back : String} (hFront : WholeLines front)
    (hBack : WholeLines back) : WholeLines (front ++ back) := by
  rcases hBack with rfl | hLast
  · rwa [String.append_empty]
  · refine .inr ?_
    rw [String.toList_append, List.getLast?_append, hLast, Option.some_or]

theorem wholeLines_append_newline (text : String) : WholeLines (text ++ "\n") := by
  refine .inr ?_
  rw [String.toList_append, List.getLast?_append]
  rfl

namespace Session
variable {grammar : Grammar} {session before after : Session}

def Discreet (session : Session) : Prop :=
  ∀ logger, session.logger = some logger → logger.sink = .stderr

/-- From one session to the other nothing happened but whole lines on the error stream. -/
structure Notes (before after : Session) : Prop where
  files : after.files = before.files
  logger : after.logger = before.logger
  stdout : after.stdout = before.stdout
  stderr : ∃ noted, WholeLines noted ∧ after.stderr = before.stderr ++ noted

theorem Notes.refl (session : Session) : Notes session session :=
  ⟨rfl, rfl, rfl, "", .inl rfl, String.append_empty.symm⟩

theorem Notes.trans {between : Session} (hFirst : Notes before between)
    (hSecond : Notes between after) : Notes before after := by
  obtain ⟨noted, hNoted, hStderr⟩ := hFirst.stderr
  obtain ⟨later, hLater, hStderr'⟩ := hSecond.stderr
  refine ⟨hSecond.files.trans hFirst.files, hSecond.logger.trans hFirst.logger,
    hSecond.stdout.trans hFirst.stdout, noted ++ later, hNoted.append hLater, ?_⟩
  rw [hStderr', hStderr, String.append_assoc]

theorem Notes.discreet (h : Notes before after) (hDiscreet : before.Discreet) : after.Discreet := by
  intro logger hLogger
  exact hDiscreet logger (h.logger ▸ hLogger)

theorem wholeLines_line (logger : Logger) (clock : String) (record : Record) :
    WholeLines (line logger clock record) := by
  unfold line
  cases logger.format with
  | text => exact wholeLines_append_newline _
  | json => exact wholeLines_append_newline _

theorem notes_note (hDiscreet : session.Discreet) (record : Record) :
    Notes session (session.note record) := by
  unfold note
  cases hLogger : session.logger with
  | none => exact .refl session
  | some logger =>
    dsimp only
    split
    · rw [hDiscreet logger hLogger]
      exact ⟨rfl, rfl, rfl, _, wholeLines_line logger session.clock record, rfl⟩
    · exact .refl session

theorem notes_noteAll (hDiscreet : session.Discreet) (records : List Record) :
    Notes session (session.noteAll records) := by
  induction records generalizing session with
  | nil => exact .refl session
  | cons record rest ih =>
    have hFirst := notes_note hDiscreet record
    exact hFirst.trans (ih (hFirst.discreet hDiscreet))

theorem install_disabled {config : Config} (h : config.enabled = false) :
    session.install grammar config = (session, .ok ()) := by
  rw [install, h]
  rfl

/-- Setting up logging writes to neither stream. -/
theorem install_streams (session : Session) (grammar : Grammar) (config : Config) :
    (session.install grammar config).1.stdout = session.stdout ∧
      (session.install grammar config).1.stderr = session.stderr := by
  unfold install
  split
  · exact ⟨rfl, rfl⟩
  · cases checkChoices grammar config with
    | error fault => exact ⟨rfl, rfl⟩
    | ok choices =>
      obtain ⟨filter, format, output⟩ := choices
      dsimp only
      cases (openSink session.files config output).2 with
      | error fault => exact ⟨rfl, rfl⟩
      | ok sink => cases session.logger <;> exact ⟨rfl, rfl⟩

theorem output_of_checkChoices {config : Config} {filter : Filter} {format : Format}
    {output : Output} (h : checkChoices grammar config = .ok (filter, format, output)) :
    Output.ofName? config.output = some output := by
  unfold checkChoices at h
  split at h
  · cases h
  · split at h
    · cases h
    · split at h
      · cases h
      · rename_i hOutput
        cases h
        exact hOutput

/-- Logging that is off or goes to the error stream touches no file and leaves a discreet session. -/
theorem install_discreet {config : Config} (hDiscreet : session.Discreet)
    (hDirected : config.enabled = false ∨ config.output = "stderr") :
    (session.install grammar config).1.files = session.files ∧
      (session.install grammar config).1.Discreet := by
  unfold install
  split
  · exact ⟨rfl, hDiscreet⟩
  · rename_i hEnabled
    have hOutput : config.output = "stderr" := hDirected.resolve_left (by simpa using hEnabled)
    cases hChoices : checkChoices grammar config with
    | error fault => exact ⟨rfl, hDiscreet⟩
    | ok choices =>
      obtain ⟨filter, format, output⟩ := choices
      have hNamed := output_of_checkChoices hChoices
      rw [hOutput] at hNamed
      obtain rfl : Output.stderr = output := Option.some.inj hNamed
      dsimp only [openSink]
      cases hLogger : session.logger with
      | some logger => exact ⟨rfl, fun other hOther => hDiscreet other (hLogger ▸ hOther)⟩
      | none =>
        refine ⟨rfl, fun logger hOther => ?_⟩
        cases hOther
        rfl

end Session

end Fleet.Log
