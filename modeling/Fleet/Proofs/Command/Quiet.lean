import Fleet.Proofs.Command.Launch
import Fleet.Proofs.Command.Logging
import Fleet.Proofs.Command.Unlogged

/-!
# Quiet launches

A launch that is to be quiet installs no logger. Its logging is switched off whatever else is said
about it, so nothing of that is checked and no file is opened, and noting a record does nothing. What
is left is the answer of the run; and as this does not depend on logging either, two quiet launches
that differ in logging alone end alike. Only a variable that is refused is heard before the wish for
quiet.
-/
namespace Fleet
open Log

namespace Log.Session
variable {session : Session}

theorem note_of_silent (h : session.logger = none) (record : Record) :
    session.note record = session := by
  rw [note, h]

theorem noteAll_of_silent (h : session.logger = none) (records : List Record) :
    session.noteAll records = session := by
  induction records with
  | nil => rfl
  | cons record rest ih =>
    rw [noteAll, List.foldl_cons, note_of_silent h]
    exact ih

end Log.Session

namespace Launch
variable {launch other : Launch} {session : Session} {files : Files}

/-- The run that a launch carries out on these files. -/
def onFiles (launch : Launch) (files : Files) : Run :=
  ⟨⟨files, launch.home, launch.formats, launch.order⟩, launch.env, launch.invocation⟩

def shown (session : Session) : Except RunFault String → Session × Nat
  | .error fault => (session.writeError (fault.line ++ "\n"), 1)
  | .ok text => (session.write (lines text), 0)

section Silent

theorem loadSettings_of_silent (launch : Launch) (h : session.logger = none) :
    launch.loadSettings session =
      (session, launch.invocation.loadSettings (launch.host session) launch.env) := by
  rw [loadSettings]
  split
  · rfl
  · simp only [Session.note_of_silent h]
    cases launch.invocation.loadSettings (launch.host session) launch.env <;> rfl

theorem loadStore_of_silent (launch : Launch) (h : session.logger = none) (settings : Settings) :
    launch.loadStore session settings =
      (session, launch.invocation.loadStore session.files launch.env settings) := by
  unfold loadStore
  cases launch.invocation.loadStore session.files launch.env settings with
  | error fault => simp only [Session.noteAll_of_silent h]
  | ok store => simp only [Session.noteAll_of_silent h, Session.note_of_silent h]

theorem load_of_silent (launch : Launch) (h : session.logger = none) :
    launch.load session =
      (session, launch.invocation.load (launch.host session) launch.env) := by
  rw [load, loadSettings_of_silent launch h, Invocation.load]
  cases launch.invocation.loadSettings (launch.host session) launch.env with
  | error fault => rfl
  | ok settings =>
    simp only [loadStore_of_silent launch h, host, hostWith, bind, Except.bind, Except.mapError]
    cases launch.invocation.loadStore session.files launch.env
      (launch.invocation.overrideDocument settings) with
    | error fault => rfl
    | ok store => rfl

theorem execute_of_silent (context : Context) (command : Command) (h : session.logger = none) :
    execute context command session = (session, context.execute session.files command) := by
  rw [execute]
  simp only [Session.note_of_silent h, Session.noteAll_of_silent h]

/-- Without a logger a launch shows what its run answers, and nothing else. -/
theorem run_of_silent (launch : Launch) (h : session.logger = none) :
    launch.run session = shown session (launch.onFiles session.files).answer := by
  rw [run, Session.note_of_silent h, load_of_silent launch h, Run.answer, Invocation.output]
  change _ = shown session (launch.invocation.load (launch.host session) launch.env >>= _)
  cases launch.invocation.load (launch.host session) launch.env with
  | error fault =>
    simp only [Session.note_of_silent h]
    rfl
  | ok context =>
    simp only [execute_of_silent context _ h]
    change _ = shown session (context.execute session.files launch.invocation.command)
    cases context.execute session.files launch.invocation.command with
    | error fault =>
      simp only [Session.note_of_silent h]
      rfl
    | ok text =>
      simp only [Session.note_of_silent h]
      rfl

end Silent

/-- The launch is to be quiet, and of the variables that override logging none is refused. -/
structure Muted (launch : Launch) : Prop where
  quiet : launch.invocation.quiet = true
  admits : ∀ override ∈ Override.all, override.Admits launch.grammar launch.env

/-- How a launch ends that shows an answer and leaves nothing else behind. -/
structure ShowsOnly (answer : Except RunFault String) (files : Files) (ended : Session × Nat) :
    Prop where
  files : ended.1.files = files
  text : ∀ text, answer = .ok text → ended.2 = 0 ∧ ended.1.stderr = "" ∧
    (text.toList.getLast? = some '\n' → ended.1.stdout = text) ∧
    (text.toList.getLast? ≠ some '\n' → ended.1.stdout = text ++ "\n")
  fault : ∀ fault, answer = .error fault → ended.2 = 1 ∧ ended.1.stdout = "" ∧
    ended.1.stderr = "error: " ++ fault.message ++ "\n"

structure EndAlike (left right : Session × Nat) : Prop where
  code : left.2 = right.2
  stdout : left.1.stdout = right.1.stdout
  stderr : left.1.stderr = right.1.stderr

theorem start_of_muted (h : launch.Muted) (clock : String) (files : Files) :
    launch.start clock files = shown (Session.start clock files) (launch.onFiles files).answer := by
  have hLogging : launch.invocation.logging launch.grammar
      (launch.earlyHost (Session.start clock files)) launch.env = .ok _ :=
    Invocation.logging_of_admits h.admits
  rw [start]
  simp only [hLogging]
  -- The options are heard last, so the wish for quiet switches off whatever came before.
  rw [Session.install_disabled (by simp [Invocation.overrideLogging, h.quiet])]
  exact run_of_silent launch rfl

theorem showsOnly_shown (clock : String) (files : Files) (answer : Except RunFault String) :
    ShowsOnly answer files (shown (Session.start clock files) answer) := by
  cases answer with
  | error fault =>
    refine ⟨rfl, ?_, ?_⟩
    · intro text hText
      cases hText
    · intro other hOther
      cases hOther
      refine ⟨rfl, rfl, ?_⟩
      simp [shown, Session.writeError, Session.start, RunFault.line, toString]
  | ok text =>
    refine ⟨rfl, ?_, ?_⟩
    · intro other hOther
      cases hOther
      refine ⟨rfl, rfl, fun hEnded => ?_, fun hOpen => ?_⟩
      · simp [shown, Session.write, Session.start, lines, hEnded]
      · simp [shown, Session.write, Session.start, lines, hOpen]
    · intro fault hFault
      cases hFault

theorem endAlike_shown (clock otherClock : String) (files otherFiles : Files)
    (answer : Except RunFault String) :
    EndAlike (shown (Session.start clock files) answer)
      (shown (Session.start otherClock otherFiles) answer) := by
  cases answer <;> exact ⟨rfl, rfl, rfl⟩

/-- A quiet launch shows the answer of its run and leaves nothing else, whatever it is told about
logging; so launches of a command that are told the same about everything else end alike. What they
are told by the variables that folders are taken from counts as something else, and so does the order
in which they go through their tables, where it has a say. -/
theorem inert_of_muted (h : launch.Muted) (clock : String) (files : Files) :
    ShowsOnly (launch.onFiles files).answer files (launch.start clock files) ∧
      ∀ (other : Launch) (otherClock : String) (otherFiles : Files), other.Muted →
        (launch.onFiles files).SameButLogging (other.onFiles otherFiles) →
        (launch.onFiles files).ReadsLogging → (other.onFiles otherFiles).ReadsLogging →
        launch.invocation.command ≠ .settings →
        EndAlike (launch.start clock files) (other.start otherClock otherFiles) := by
  constructor
  · rw [start_of_muted h]
    exact showsOnly_shown clock files _
  · intro other otherClock otherFiles hOther hSame hReads hOtherReads hCommand
    rw [start_of_muted h, start_of_muted hOther, ← hSame.answer_eq hReads hOtherReads hCommand]
    exact endAlike_shown clock otherClock files otherFiles _

section Cases

/-- Quiet launches on the same files, told the same outside logging and related in a further way, end
alike. -/
def AlwaysAlike (related : Launch → Launch → Prop) : Prop :=
  ∀ (launch other : Launch) (clock : String) (files : Files), launch.Muted → other.Muted →
    (launch.onFiles files).SameInputs (other.onFiles files) → related launch other →
    (launch.onFiles files).ReadsLogging → (other.onFiles files).ReadsLogging →
    launch.invocation.command ≠ .settings →
    EndAlike (launch.start clock files) (other.start clock files)

def quietly (command : Command) : Invocation :=
  ⟨command, ".", none, some "hosts.json", false, true, none, none, none, none⟩

/-- A quiet launch that takes folders from a variable of logging. -/
def mountless : Launch where
  home := "home"
  env := .empty
  invocation := quietly (.folders "nfs" (some Log.filterVariable) .json)

/-- A quiet launch with a variable that sets all boxes and another one that sets one of them. -/
def wavering : Launch where
  home := "home"
  env := Run.wavering.env
  invocation := quietly (.folders "nfs" none .json)

/-- A variable of logging has a say in the folders that are taken from it, and the order of tables in
whether settings are found. -/
theorem not_always_alike : ¬AlwaysAlike (fun launch other => launch.order = other.order) ∧
    ¬AlwaysAlike fun launch other =>
      launch.env = other.env ∧ launch.invocation = other.invocation := by
  let bare : Files := ⟨["work"], []⟩
  constructor
  · intro hAlways
    let mounted : Launch := { mountless with env := .ofList [(Log.filterVariable, "debug")] }
    have hEnv : ∀ name, ¬Environment.IsLogging name →
        mounted.env.get? name = mountless.env.get? name := by
      intro name hName
      have hNe : Log.filterVariable ≠ name := fun hEq => hName (hEq ▸ .inl List.mem_cons_self)
      exact KeyMap.get?_insert_of_ne hNe _ _
    have hSame : (mounted.onFiles bare).SameInputs (mountless.onFiles bare) :=
      ⟨rfl, rfl, rfl, ⟨rfl, rfl, fun _ _ => rfl⟩, ⟨rfl, rfl, fun _ _ => rfl⟩,
        fun _ _ => ⟨rfl, fun _ => rfl⟩, hEnv⟩
    have hEnds : (mounted.start "now" bare).2 ≠ (mountless.start "now" bare).2 := by
      decide +kernel
    exact hEnds (hAlways mounted mountless "now" bare ⟨rfl, by decide +kernel⟩
      ⟨rfl, by decide⟩ hSame rfl (by decide +kernel) (by decide +kernel) (by decide)).code
  · intro hAlways
    let other : Launch := { wavering with order := Run.membersFirst }
    have hMuted : wavering.Muted := ⟨rfl, by decide⟩
    have hSame : (wavering.onFiles bare).SameInputs (other.onFiles bare) :=
      ⟨rfl, rfl, rfl, ⟨rfl, rfl, fun _ _ => rfl⟩, ⟨rfl, rfl, fun _ _ => rfl⟩,
        fun _ _ => ⟨rfl, fun _ => rfl⟩, fun _ _ => rfl⟩
    have hEnds : (wavering.start "now" bare).2 ≠ (other.start "now" bare).2 := by decide +kernel
    exact hEnds (hAlways wavering other "now" bare hMuted ⟨hMuted.quiet, hMuted.admits⟩ hSame
      ⟨rfl, rfl⟩ (by decide +kernel) (by decide +kernel) (by decide)).code

def settingsOnly (text : String) : Files :=
  ⟨["work"], [(["work", "machine-config.toml"], Settings.textFile text)]⟩

def loudFiles : Files := settingsOnly "[logging]\nlevel = 'loudest'\noutput = 'nowhere'\n"

/-- A quiet launch that is told much about logging, none of which could be used. -/
def loud : Launch where
  home := "home"
  env := .ofList [("MACHINE_CONFIG_LOG", "debug"), ("MACHINE_CONFIG_LOGGING__OUTPUT", "no")]
  invocation := ⟨.folders "nfs" none .json, ".", none, some "hosts.json", true, true, some "[",
    some "yaml", some "file", some "log/run.log"⟩

def plainFiles : Files := settingsOnly "# nothing\n"

/-- A quiet launch that is told nothing about logging. It goes through its tables in another order. -/
def plain : Launch where
  home := "home"
  env := .empty
  invocation := quietly (.folders "nfs" none .json)
  order := Run.membersFirst

theorem muted_loud : loud.Muted := ⟨rfl, by decide +kernel⟩

theorem shaped_loud : (loud.onFiles loudFiles).Shaped where
  env := by decide +kernel
  files path hPath := by
    have hGlobal : (loud.onFiles loudFiles).host.files.contains
        (Settings.globalFile (loud.onFiles loudFiles).host loud.env) = false := by decide +kernel
    have hWorkspace : (loud.onFiles loudFiles).host.files.contains (Settings.workspaceFile ".") ∧
        (Settings.fileLayer (loud.onFiles loudFiles).host (Settings.workspaceFile ".")).isOk ∧
        Settings.WellShaped .texts
          (Settings.layerAt (loud.onFiles loudFiles).host (Settings.workspaceFile ".")) := by
      decide +kernel
    rcases List.mem_pair.mp hPath with rfl | rfl
    · exact ⟨none, .absent hGlobal, by simp⟩
    · refine ⟨_, Settings.holds_layerAt hWorkspace.1 hWorkspace.2.1, fun layer hLayer => ?_⟩
      exact Option.mem_some_iff.mp hLayer ▸ hWorkspace.2.2

theorem sameButLogging_files (path : Path)
    (hPath : path ∈ (loud.onFiles loudFiles).settingsPaths) :
    Settings.SameButLogging (loud.onFiles loudFiles).host (plain.onFiles plainFiles).host path := by
  have hAll : ∀ path ∈ (loud.onFiles loudFiles).settingsPaths,
      loudFiles.contains path = plainFiles.contains path ∧ (loudFiles.contains path = true →
        (Settings.fileLayer (loud.onFiles loudFiles).host path).toOption.map
            (fun layer => (Settings.withoutLogging layer).isEmpty) = some true ∧
          (Settings.fileLayer (plain.onFiles plainFiles).host path).toOption.map
            (fun layer => (Settings.withoutLogging layer).isEmpty) = some true) := by
    decide +kernel
  obtain ⟨hPresent, hEmpty⟩ := hAll path hPath
  refine ⟨hPresent, fun hThere => ?_⟩
  obtain ⟨hLoud, hPlain⟩ := hEmpty hThere
  obtain ⟨layer, hLayer, hNone⟩ := Option.map_eq_some_iff.mp hLoud
  obtain ⟨other, hOther, hNone'⟩ := Option.map_eq_some_iff.mp hPlain
  rw [Except.eq_ok_of_toOption hLayer, Except.eq_ok_of_toOption hOther, Except.map, Except.map,
    List.isEmpty_iff.mp hNone, List.isEmpty_iff.mp hNone']

theorem sameButLogging_loud_plain :
    (loud.onFiles loudFiles).SameButLogging (plain.onFiles plainFiles) where
  command := rfl
  explicit := rfl
  home := rfl
  document := by
    have hRead : loudFiles.read "./hosts.json" = plainFiles.read "./hosts.json" := by
      decide +kernel
    have hJoin : Path.join "." "hosts.json" = "./hosts.json" := by decide +kernel
    refine ⟨rfl, rfl, fun settings _ => ?_⟩
    have hPath : (loud.onFiles loudFiles).documentPath settings = "./hosts.json" := hJoin
    rw [hPath]
    exact hRead
  manifest := ⟨rfl, rfl, nofun⟩
  files := sameButLogging_files
  env name hName := by
    have hOutput : Environment.IsLogging "MACHINE_CONFIG_LOGGING__OUTPUT" := by decide +kernel
    have hFilter : Environment.IsLogging "MACHINE_CONFIG_LOG" := by decide +kernel
    have hNe : "MACHINE_CONFIG_LOGGING__OUTPUT" ≠ name := fun hEq => hName (hEq ▸ hOutput)
    have hNe' : "MACHINE_CONFIG_LOG" ≠ name := fun hEq => hName (hEq ▸ hFilter)
    exact (KeyMap.get?_insert_of_ne hNe _ _).trans (KeyMap.get?_insert_of_ne hNe' _ _)
  folders name hName := by
    cases List.mem_singleton.mp hName
    rfl
  order := .inr ⟨shaped_loud.steady, shaped_loud.readsLogging⟩

theorem inert_of_muted_loud :
    loud.Muted ∧ plain.Muted ∧ (loud.onFiles loudFiles).SameButLogging (plain.onFiles plainFiles) ∧
      (loud.start "now" loudFiles).1.files = loudFiles ∧
      EndAlike (loud.start "now" loudFiles) (plain.start "later" plainFiles) := by
  have hPlain : plain.Muted := ⟨rfl, by decide⟩
  obtain ⟨hShows, hAlike⟩ := inert_of_muted muted_loud "now" loudFiles
  refine ⟨muted_loud, hPlain, sameButLogging_loud_plain, hShows.files, ?_⟩
  exact hAlike plain "later" plainFiles hPlain sameButLogging_loud_plain
    (by decide +kernel) (by decide +kernel) (by decide)

end Cases

end Launch

end Fleet
