import Fleet.Command.Launch
import Fleet.Proofs.Except
import Fleet.Proofs.Log.Session

/-!
# A launch answers what its run answers

A launch goes through the stages of a run and notes what happens in between. As long as its session
is discreet the notes change no file, so each stage gives what it gives in the bare run. What the
launch writes then follows from the outcome of the run alone.
-/
namespace Fleet
open Log

namespace Launch
variable {launch : Launch} {session : Session}

section Stages
variable {ε α : Type}

/-- A stage comes to the answer, and beside that it only notes records. -/
structure Mirrors (before : Session) (ended : Session × Except ε α) (answer : Except ε α) :
    Prop where
  notes : Session.Notes before ended.1
  answers : ended.2 = answer

/-- Of a session only the files matter to what is found around a run. -/
theorem host_congr {left right : Session} (h : left.files = right.files) :
    launch.host left = launch.host right := by
  simp only [host, hostWith, h]

theorem mirrors_loadSettings (launch : Launch) (hDiscreet : session.Discreet) :
    Mirrors session (launch.loadSettings session)
      (launch.invocation.loadSettings (launch.host session) launch.env) := by
  unfold loadSettings
  split
  · exact ⟨.refl session, rfl⟩
  · have hFile := Session.notes_note hDiscreet
      (Journal.settingsFile (launch.host session) launch.env)
    have hHost : launch.host (session.note (Journal.settingsFile (launch.host session) launch.env)) =
        launch.host session :=
      host_congr hFile.files
    simp only [hHost]
    cases launch.invocation.loadSettings (launch.host session) launch.env with
    | error fault => exact ⟨hFile, rfl⟩
    | ok settings =>
      have hLoaded := Session.notes_note (hFile.discreet hDiscreet) (Journal.settings settings)
      exact ⟨hFile.trans hLoaded, rfl⟩

theorem mirrors_loadStore (launch : Launch) (hDiscreet : session.Discreet)
    (settings : Settings) :
    Mirrors session (launch.loadStore session settings)
      (launch.invocation.loadStore session.files launch.env settings) := by
  have hJournal := Session.notes_noteAll hDiscreet (Journal.store session.files
    (settings.documentPath launch.invocation.workspace)
    (launch.invocation.loadStore session.files launch.env settings))
  unfold loadStore
  cases hLoaded : launch.invocation.loadStore session.files launch.env settings with
  | error fault =>
    rw [hLoaded] at hJournal
    exact ⟨hJournal, rfl⟩
  | ok store =>
    rw [hLoaded] at hJournal
    have hReady := Session.notes_note (hJournal.discreet hDiscreet)
      (Journal.ready (settings.documentPath launch.invocation.workspace))
    exact ⟨hJournal.trans hReady, rfl⟩

theorem mirrors_load (launch : Launch) (hDiscreet : session.Discreet) :
    Mirrors session (launch.load session)
      (launch.invocation.load (launch.host session) launch.env) := by
  obtain ⟨hNotes, hAnswer⟩ := mirrors_loadSettings launch hDiscreet
  unfold load Invocation.load
  rcases hSettings : launch.loadSettings session with ⟨between, loaded⟩
  rw [hSettings] at hNotes hAnswer
  simp only [← hAnswer]
  cases loaded with
  | error fault => exact ⟨hNotes, rfl⟩
  | ok settings =>
    obtain ⟨hLater, hStored⟩ := mirrors_loadStore launch (hNotes.discreet hDiscreet)
      (launch.invocation.overrideDocument settings)
    rcases hStore : launch.loadStore between (launch.invocation.overrideDocument settings) with
      ⟨after, stored⟩
    rw [hStore, hNotes.files] at hStored
    rw [hStore] at hLater
    have hBoth := hNotes.trans hLater
    change Mirrors session _ ((launch.invocation.loadStore _ _ _).mapError _ >>= _)
    simp only [bind, Except.bind, host, hostWith, ← hStored, hStore]
    cases stored with
    | error fault => exact ⟨hBoth, rfl⟩
    | ok store => exact ⟨hBoth, rfl⟩

theorem mirrors_execute (hDiscreet : session.Discreet) (context : Context) (command : Command) :
    Mirrors session (execute context command session)
      (context.execute session.files command) := by
  have hCommand := Session.notes_note hDiscreet (Journal.executing command)
  have hJournal := Session.notes_noteAll (hCommand.discreet hDiscreet)
    (Journal.execution context (session.note (Journal.executing command)).files command)
  refine ⟨hCommand.trans hJournal, ?_⟩
  rw [execute, hCommand.files]

end Stages

/-- How a launch ends that reports the answer of a run: a text is written, and its last line is
ended if need be; a fault is the last line on the error stream, and nothing is written. -/
structure Reports (answer : Except RunFault String) (ended : Session × Nat) : Prop where
  text : ∀ text, answer = .ok text → ended.2 = 0 ∧
    (text.toList.getLast? = some '\n' → ended.1.stdout = text) ∧
    (text.toList.getLast? ≠ some '\n' → ended.1.stdout = text ++ "\n")
  fault : ∀ fault, answer = .error fault → ended.2 = 1 ∧ ended.1.stdout = "" ∧
    ∃ noted, WholeLines noted ∧ ended.1.stderr = noted ++ "error: " ++ fault.message ++ "\n"

/-- How a launch ends whose logging cannot be set up. -/
structure Refuses (fault : LoggingFault) (ended : Session × Nat) : Prop where
  code : ended.2 = 1
  stdout : ended.1.stdout = ""
  stderr : ended.1.stderr =
    "Failed to initialize logging: " ++ (RunFault.logging fault).message ++ "\n"

section Answers

/-- So far the session may have noted records, and nothing else. -/
structure Quiet (session : Session) : Prop where
  discreet : session.Discreet
  stdout : session.stdout = ""
  stderr : WholeLines session.stderr

theorem Quiet.of_notes {before after : Session} (hQuiet : Quiet before)
    (hNotes : Session.Notes before after) : Quiet after := by
  obtain ⟨noted, hNoted, hStderr⟩ := hNotes.stderr
  refine ⟨hNotes.discreet hQuiet.discreet, hNotes.stdout.trans hQuiet.stdout, ?_⟩
  rw [hStderr]
  exact hQuiet.stderr.append hNoted

theorem Quiet.note (hQuiet : Quiet session) (record : Record) : Quiet (session.note record) :=
  hQuiet.of_notes (Session.notes_note hQuiet.discreet record)

theorem reports_text (hQuiet : Quiet session) (text : String) :
    Reports (.ok text) (session.write (lines text), 0) where
  text other hOther := by
    cases hOther
    refine ⟨rfl, fun hEnded => ?_, fun hOpen => ?_⟩
    · simp [Session.write, lines, hQuiet.stdout, hEnded]
    · simp [Session.write, lines, hQuiet.stdout, hOpen]
  fault fault hFault := by cases hFault

theorem reports_fault (hQuiet : Quiet session) (fault : RunFault) :
    Reports (.error fault) (session.writeError (fault.line ++ "\n"), 1) where
  text text hText := by cases hText
  fault other hOther := by
    cases hOther
    refine ⟨rfl, hQuiet.stdout, session.stderr, hQuiet.stderr, ?_⟩
    simp [Session.writeError, RunFault.line, String.append_assoc, toString]

theorem reports_run (launch : Launch) (hQuiet : Quiet session) :
    Reports (launch.invocation.output (launch.host session) launch.env) (launch.run session) := by
  have hStarting := Session.notes_note hQuiet.discreet Journal.starting
  have hFiles : launch.host (session.note Journal.starting) = launch.host session :=
    host_congr hStarting.files
  have hLoad := mirrors_load launch (hStarting.discreet hQuiet.discreet)
  rw [hFiles] at hLoad
  have hLoaded := (hQuiet.of_notes hStarting).of_notes hLoad.notes
  unfold run Invocation.output
  rw [← hLoad.answers]
  rcases hResult : launch.load (session.note Journal.starting) with ⟨between, loaded⟩
  rw [hResult] at hLoad hLoaded
  cases loaded with
  | error fault => exact reports_fault (hLoaded.note _) fault
  | ok context =>
    have hExecute := mirrors_execute hLoaded.discreet context launch.invocation.command
    have hExecuted := hLoaded.of_notes hExecute.notes
    have hSame : between.files = session.files := hLoad.notes.files.trans hStarting.files
    rw [hSame] at hExecute
    change Reports (context.execute session.files launch.invocation.command) _
    rw [← hExecute.answers]
    rcases hAnswer : execute context launch.invocation.command between with ⟨after, answer⟩
    rw [hAnswer] at hExecuted
    simp only [hAnswer]
    cases answer with
    | error fault => exact reports_fault (hExecuted.note _) fault
    | ok text => exact reports_text (hExecuted.note _) text

theorem refuses_refuse {fault : LoggingFault} (hStdout : session.stdout = "")
    (hStderr : session.stderr = "") : Refuses fault (refuse session fault) where
  code := rfl
  stdout := hStdout
  stderr := by simp [refuse, Session.writeError, hStderr, toString]

end Answers

/-- The logging that a launch asks for, from the files as they stand at its beginning. -/
def asks (launch : Launch) (files : Files) : Except ChoiceFault Config :=
  launch.invocation.logging launch.grammar ⟨files, launch.home, launch.formats, launch.early⟩
    launch.env

/-- What the bare run answers, from the files as they stand at the beginning. -/
def answer (launch : Launch) (files : Files) : Except RunFault String :=
  launch.invocation.output ⟨files, launch.home, launch.formats, launch.order⟩ launch.env

/-- How a launch may end, given what its logging is set up to. The logging may have been read off
the settings in another order than the run reads them in. -/
structure Faithful (launch : Launch) (clock : String) (files : Files) (ended : Session × Nat) :
    Prop where
  reports : ∀ config, launch.asks files = .ok config →
    ((Session.start clock files).install launch.grammar config).2 = .ok () →
    config.enabled = false ∨ config.output = "stderr" → Reports (launch.answer files) ended
  unconfigured : ∀ fault, launch.asks files = .error fault → Refuses (.choice fault) ended
  uninstalled : ∀ config fault, launch.asks files = .ok config →
    ((Session.start clock files).install launch.grammar config).2 = .error fault →
    Refuses fault ended

theorem start_of_install {clock : String} {files : Files} {config : Config}
    {installed : Except LoggingFault Unit} (hConfig : launch.asks files = .ok config)
    (hInstall : (Session.start clock files).install launch.grammar config =
      (session, installed)) :
    launch.start clock files =
      match installed with
      | .error fault => refuse session fault
      | .ok _ => launch.run session := by
  unfold start
  rw [asks] at hConfig
  simp only [earlyHost, hostWith, Session.start] at hInstall ⊢
  rw [hConfig]
  simp only [hInstall]
  cases installed <;> rfl

/-- Whatever it is given, a launch reports what its run answers, or why it cannot log. -/
theorem start_faithful (launch : Launch) (clock : String) (files : Files) :
    Faithful launch clock files (launch.start clock files) where
  reports config hConfig hInstalled hDirected := by
    have hFresh : (Session.start clock files).Discreet := by
      intro logger hLogger
      cases hLogger
    obtain ⟨hFiles, hDiscreet⟩ := Session.install_discreet hFresh hDirected
    obtain ⟨hStdout, hStderr⟩ :=
      Session.install_streams (Session.start clock files) launch.grammar config
    rcases hInstall : (Session.start clock files).install launch.grammar config with
      ⟨session, installed⟩
    rw [hInstall] at hInstalled hFiles hDiscreet hStdout hStderr
    have hHost : launch.host session = ⟨files, launch.home, launch.formats, launch.order⟩ := by
      rw [host, hostWith, hFiles, Session.start]
    obtain rfl : installed = .ok () := hInstalled
    rw [start_of_install hConfig hInstall, answer, ← hHost]
    exact reports_run launch ⟨hDiscreet, hStdout, .inl hStderr⟩
  unconfigured fault hFault := by
    rw [asks] at hFault
    unfold start
    simp only [earlyHost, hostWith, Session.start]
    rw [hFault]
    exact refuses_refuse rfl rfl
  uninstalled config fault hConfig hFault := by
    obtain ⟨hStdout, hStderr⟩ :=
      Session.install_streams (Session.start clock files) launch.grammar config
    rcases hInstall : (Session.start clock files).install launch.grammar config with
      ⟨session, installed⟩
    rw [hInstall] at hFault hStdout hStderr
    obtain rfl : installed = .error fault := hFault
    rw [start_of_install hConfig hInstall]
    exact refuses_refuse hStdout hStderr

example :
    let invocation : Invocation :=
      ⟨.machines "fleet.toml" .text, ".", none, none, false, true, none, none, none, none⟩
    let launch : Launch := { home := "home", env := KeyMap.empty, invocation }
    let ended := launch.start "now" ⟨["work"], []⟩
    ended.2 = 1 ∧ ended.1.stdout = "" ∧ ended.1.stderr = "error: Machine manifest error: " ++
      "Failed to read ./fleet.toml: No such file or directory (os error 2)\n" := by
  decide +kernel

end Launch

end Fleet
