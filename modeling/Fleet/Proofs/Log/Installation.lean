import Fleet.Proofs.Except
import Fleet.Proofs.Log.Filter
import Fleet.Proofs.Log.Overrides
import Fleet.Proofs.Log.Session

/-!
# One logger for a process

A process may set up logging as often as it likes, and meanwhile write records and change files. A
call succeeds if it asks for no logging, or if what it names is known, its log file opens and no
logger is there yet. As nothing but a successful call with logging changes the logger, the first of
these calls is the last one too, and its logger stays in force. Known names come before files: a call
that names something unknown opens none. The log file of a call that comes too late is opened.
-/
namespace Fleet.Log

namespace Config
variable {grammar : Grammar} {config : Config} {files : Files} {logger other : Logger} {sink : Sink}

/-- Whatever the configuration names is known. The level `off` is, and modules do not count under
it. -/
structure Proper (grammar : Grammar) (config : Config) : Prop where
  level : config.level = "off" ∨ ∃ filter, Filter.read grammar config.level = .ok filter
  modules : config.level = "off" ∨
    ∀ entry ∈ config.modules.toList, ∃ directive, Filter.ReadsModule grammar entry directive
  format : config.format ∈ ["json", "text"]
  output : config.output ∈ ["stdout", "stderr", "file"]

/-- A log file that is asked for is named, and it can be opened once its directories are made. -/
def Opens (config : Config) (files : Files) : Prop :=
  config.output = "file" → ∃ path made opened, config.file = some path ∧
    files.makeParents path = .ok made ∧ made.openForAppend path = .ok opened

inductive Directs (config : Config) (files : Files) : Sink → Prop where
  | stdout : config.output = "stdout" → Directs config files .stdout
  | stderr : config.output = "stderr" → Directs config files .stderr
  | file {path : Path} {made opened : Files} {place : List RawText} :
      config.output = "file" → config.file = some path → files.makeParents path = .ok made →
        made.openForAppend path = .ok (opened, place) → Directs config files (.file place)

def outputName : Output → String
  | .stdout => "stdout"
  | .stderr => "stderr"
  | .file => "file"

/-- The logger that the configuration asks for. Only a stream is coloured. -/
structure Describes (grammar : Grammar) (config : Config) (files : Files) (logger : Logger) :
    Prop where
  filter : Filter.ofConfig grammar config = .ok logger.filter
  format : Format.ofName? config.format = some logger.format
  color : logger.color = (config.color && config.output != "file")
  sink : config.Directs files logger.sink

theorem Directs.unique {left right : Sink} (h : config.Directs files left)
    (hRight : config.Directs files right) : left = right := by
  cases h <;> cases hRight <;> simp_all

theorem Describes.unique (h : config.Describes grammar files logger)
    (hOther : config.Describes grammar files other) : logger = other := by
  cases logger
  cases other
  rw [Logger.mk.injEq]
  exact ⟨Except.ok.inj (h.filter.symm.trans hOther.filter),
    Option.some.inj (h.format.symm.trans hOther.format), h.color.trans hOther.color.symm,
    h.sink.unique hOther.sink⟩

theorem exists_addModules_iff {filter : Filter} {modules : List (String × String)} :
    (∃ filled, filter.addModules grammar modules = .ok filled) ↔
      ∀ entry ∈ modules, ∃ directive, Filter.ReadsModule grammar entry directive := by
  induction modules generalizing filter with
  | nil => simp [Filter.addModules]
  | cons entry rest ih =>
    rw [Filter.addModules, List.forall_mem_cons]
    unfold Filter.ReadsModule
    cases grammar.directive (entry.1 ++ "=" ++ entry.2) with
    | error reason => simp
    | ok directive =>
      simp only [ih, Except.ok.injEq, exists_eq', true_and]
      rfl

theorem exists_filter_iff :
    (∃ filter, Filter.ofConfig grammar config = .ok filter) ↔
      (config.level = "off" ∨ ∃ filter, Filter.read grammar config.level = .ok filter) ∧
        (config.level = "off" ∨ ∀ entry ∈ config.modules.toList,
          ∃ directive, Filter.ReadsModule grammar entry directive) := by
  unfold Filter.ofConfig
  split
  · next hOff => simp [hOff]
  · next hOff =>
    cases Filter.read grammar config.level with
    | error reason => simp [hOff]
    | ok filter => simp [exists_addModules_iff, hOff]

theorem checkChoices_eq_ok_iff {filter : Filter} {format : Format} {output : Output} :
    checkChoices grammar config = .ok (filter, format, output) ↔
      Filter.ofConfig grammar config = .ok filter ∧ Format.ofName? config.format = some format ∧
        Output.ofName? config.output = some output := by
  unfold checkChoices
  cases Filter.ofConfig grammar config with
  | error reason => simp
  | ok filter =>
    cases Format.ofName? config.format with
    | none => simp
    | some format => cases Output.ofName? config.output <;> simp

theorem proper_iff :
    config.Proper grammar ↔
      ∃ filter format output, checkChoices grammar config = .ok (filter, format, output) := by
  simp only [checkChoices_eq_ok_iff, exists_and_left, exists_and_right]
  rw [exists_filter_iff, ← Option.ne_none_iff_exists', ← Option.ne_none_iff_exists',
    ne_eq, ne_eq, Override.formatOfName?_eq_none_iff, Override.outputOfName?_eq_none_iff,
    Classical.not_not, Classical.not_not]
  constructor
  · intro h
    exact ⟨⟨h.level, h.modules⟩, h.format, h.output⟩
  · rintro ⟨⟨hLevel, hModules⟩, hFormat, hOutput⟩
    exact ⟨hLevel, hModules, hFormat, hOutput⟩

theorem exists_directs_iff (h : config.Proper grammar) :
    (∃ sink, config.Directs files sink) ↔ config.Opens files := by
  constructor
  · rintro ⟨sink, hSink⟩ hFile
    cases hSink with
    | stdout hOutput => exact absurd (hOutput.symm.trans hFile) (by decide)
    | stderr hOutput => exact absurd (hOutput.symm.trans hFile) (by decide)
    | file _ hPath hMade hOpened => exact ⟨_, _, _, hPath, hMade, hOpened⟩
  · intro hOpens
    have hOutput := h.output
    simp only [List.mem_cons, List.not_mem_nil, or_false] at hOutput
    rcases hOutput with hOutput | hOutput | hOutput
    · exact ⟨_, .stdout hOutput⟩
    · exact ⟨_, .stderr hOutput⟩
    · obtain ⟨path, made, ⟨opened, place⟩, hPath, hMade, hOpened⟩ := hOpens hOutput
      exact ⟨_, .file hOutput hPath hMade hOpened⟩

theorem outputName_of_ofName? {output : Output} (h : Output.ofName? config.output = some output) :
    config.output = outputName output := by
  unfold Output.ofName? at h
  split at h
  · cases h
    assumption
  · split at h
    · cases h
      assumption
    · split at h
      · cases h
        assumption
      · cases h

theorem openLogFile_eq_ok_iff {path : Option Path} {place : List RawText} :
    (openLogFile files path).2 = .ok place ↔ ∃ name made opened, path = some name ∧
      files.makeParents name = .ok made ∧ made.openForAppend name = .ok (opened, place) := by
  unfold openLogFile
  cases path with
  | none => simp
  | some name =>
    cases hMade : files.makeParents name with
    | error reason => simp [hMade]
    | ok made =>
      cases hOpened : made.openForAppend name with
      | error reason => simp [hMade, hOpened]
      | ok pair => simp [hMade, hOpened, Prod.ext_iff]

theorem openSink_eq_ok_iff {output : Output} (h : Output.ofName? config.output = some output) :
    (openSink files config output).2 = .ok sink ↔ config.Directs files sink := by
  have hName := outputName_of_ofName? h
  constructor
  · intro hSink
    cases output with
    | stdout =>
      cases hSink
      exact .stdout hName
    | stderr =>
      cases hSink
      exact .stderr hName
    | file =>
      obtain ⟨place, hPlace, rfl⟩ := Except.map_eq_ok_iff.mp hSink
      obtain ⟨path, made, opened, hPath, hMade, hOpened⟩ := openLogFile_eq_ok_iff.mp hPlace
      exact .file hName hPath hMade hOpened
  · intro hSink
    cases hSink with
    | stdout hOutput =>
      rw [hOutput] at h
      obtain rfl : Output.stdout = output := Option.some.inj h
      rfl
    | stderr hOutput =>
      rw [hOutput] at h
      obtain rfl : Output.stderr = output := Option.some.inj h
      rfl
    | file hOutput hPath hMade hOpened =>
      rw [hOutput] at h
      obtain rfl : Output.file = output := Option.some.inj h
      have hPlace := openLogFile_eq_ok_iff.mpr ⟨_, _, _, hPath, hMade, hOpened⟩
      exact Except.map_eq_ok_iff.mpr ⟨_, hPlace, rfl⟩

end Config

/-- A request for logging, with the sessions around it. -/
structure Call where
  config : Config
  before : Session
  after : Session
  answer : Except LoggingFault Unit

namespace Call
variable {grammar : Grammar} {call : Call}

/-- A logger is asked for, and the request is granted. -/
def Installs (call : Call) : Prop := call.config.enabled = true ∧ call.answer = .ok ()

/-- What a single request comes to. -/
structure Sound (grammar : Grammar) (call : Call) : Prop where
  granted : call.answer = .ok () ↔ call.config.enabled = false ∨
    call.config.Proper grammar ∧ call.config.Opens call.before.files ∧ call.before.logger = none
  installed : call.Installs → ∃ logger, call.after.logger = some logger ∧
    call.config.Describes grammar call.before.files logger
  kept : ¬call.Installs → call.after.logger = call.before.logger
  spared : call.config.enabled = true → ¬call.config.Proper grammar →
    call.after.files = call.before.files

theorem Sound.of_error {fault : LoggingFault} (hAnswer : call.answer = .error fault)
    (hEnabled : call.config.enabled = true)
    (hNot : ¬(call.config.Proper grammar ∧ call.config.Opens call.before.files ∧
      call.before.logger = none))
    (hLogger : call.after.logger = call.before.logger)
    (hFiles : ¬call.config.Proper grammar → call.after.files = call.before.files) :
    call.Sound grammar := by
  refine ⟨?_, ?_, fun _ => hLogger, fun _ => hFiles⟩
  · rw [hAnswer, hEnabled]
    simpa using hNot
  · rintro ⟨-, hOk⟩
    cases hAnswer.symm.trans hOk

theorem Sound.refused (h : call.Sound grammar) (hEnabled : call.config.enabled = true)
    (hNot : ¬call.config.Proper grammar) : ∃ fault, call.answer = .error fault := by
  cases hAnswer : call.answer with
  | error fault => exact ⟨fault, rfl⟩
  | ok done =>
    obtain hOff | ⟨hProper, -⟩ := h.granted.mp hAnswer
    · cases hOff.symm.trans hEnabled
    · exact absurd hProper hNot

theorem Sound.logger_after_iff (h : call.Sound grammar) :
    call.after.logger = none ↔ call.before.logger = none ∧ ¬call.Installs := by
  by_cases hInstalls : call.Installs
  · obtain ⟨logger, hLogger, -⟩ := h.installed hInstalls
    simp [hInstalls, hLogger]
  · rw [h.kept hInstalls]
    simp [hInstalls]

end Call

namespace Session
variable {grammar : Grammar} {session : Session} {config : Config}

def call (session : Session) (grammar : Grammar) (asked : Option Config) : Call :=
  ⟨asked.getD .standard, session, (session.setUp grammar asked).1,
    (session.setUp grammar asked).2⟩

theorem install_of_choices (hEnabled : config.enabled = true) {filter : Filter} {format : Format}
    {output : Output} (hChoices : checkChoices grammar config = .ok (filter, format, output)) :
    session.install grammar config =
      let opened := openSink session.files config output
      match opened.2, session.logger with
      | .error fault, _ => ({ session with files := opened.1 }, .error fault)
      | .ok _, some _ => ({ session with files := opened.1 }, .error .installed)
      | .ok sink, none =>
        ({ session with
            files := opened.1
            logger := some ⟨filter, format, config.color && output != .file, sink⟩ }, .ok ()) := by
  rw [install, hEnabled, hChoices]
  dsimp only [Bool.not_true, Bool.false_eq_true, if_false]
  cases (openSink session.files config output).2 with
  | error fault => rfl
  | ok sink => cases session.logger <;> rfl

theorem install_of_not_proper (session : Session) (hEnabled : config.enabled = true)
    (h : ¬config.Proper grammar) :
    ∃ fault, session.install grammar config = (session, .error fault) := by
  rw [install, hEnabled]
  dsimp only [Bool.not_true, Bool.false_eq_true, if_false]
  cases hChoices : checkChoices grammar config with
  | error fault => exact ⟨fault, rfl⟩
  | ok choices => exact absurd (Config.proper_iff.mpr ⟨_, _, _, hChoices⟩) h

/-- Directories that were made on the way to a log file that does not open stay. -/
theorem install_of_not_opens (hEnabled : config.enabled = true) (hProper : config.Proper grammar)
    (h : ¬config.Opens session.files) :
    ∃ files fault, session.install grammar config = ({ session with files }, .error fault) := by
  obtain ⟨filter, format, output, hChoices⟩ := Config.proper_iff.mp hProper
  obtain ⟨-, -, hOutput⟩ := Config.checkChoices_eq_ok_iff.mp hChoices
  rw [install_of_choices hEnabled hChoices]
  cases hSink : (openSink session.files config output).2 with
  | error fault => exact ⟨(openSink session.files config output).1, fault, by simp only [hSink]⟩
  | ok sink =>
    have hDirects := (Config.openSink_eq_ok_iff hOutput).mp hSink
    exact absurd ((Config.exists_directs_iff hProper).mp ⟨sink, hDirects⟩) h

theorem install_of_opens (hEnabled : config.enabled = true) (hProper : config.Proper grammar)
    (h : config.Opens session.files) :
    ∃ files logger, config.Describes grammar session.files logger ∧
      session.install grammar config =
        if session.logger = none then ({ session with files, logger := some logger }, .ok ())
        else ({ session with files }, .error .installed) := by
  obtain ⟨filter, format, output, hChoices⟩ := Config.proper_iff.mp hProper
  obtain ⟨hFilter, hFormat, hOutput⟩ := Config.checkChoices_eq_ok_iff.mp hChoices
  obtain ⟨sink, hDirects⟩ := (Config.exists_directs_iff hProper).mpr h
  have hSink := (Config.openSink_eq_ok_iff hOutput).mpr hDirects
  have hColor : (config.color && output != .file) = (config.color && config.output != "file") := by
    rw [Config.outputName_of_ofName? hOutput]
    cases output <;> rfl
  let logger : Logger := ⟨filter, format, config.color && output != .file, sink⟩
  refine ⟨(openSink session.files config output).1, logger,
    ⟨hFilter, hFormat, hColor, hDirects⟩, ?_⟩
  rw [install_of_choices hEnabled hChoices]
  cases hLogger : session.logger <;> simp [hSink, logger]

theorem sound_call (session : Session) (grammar : Grammar) (asked : Option Config) :
    (session.call grammar asked).Sound grammar := by
  rw [call, setUp]
  generalize asked.getD .standard = config
  by_cases hEnabled : config.enabled = true
  · by_cases hProper : config.Proper grammar
    · by_cases hOpens : config.Opens session.files
      · obtain ⟨files, logger, hDescribes, hInstall⟩ := install_of_opens hEnabled hProper hOpens
        rw [hInstall]
        by_cases hLogger : session.logger = none
        · rw [if_pos hLogger]
          refine ⟨?_, fun _ => ⟨logger, rfl, hDescribes⟩, ?_, fun _ h => absurd hProper h⟩
          · simp [hProper, hOpens, hLogger]
          · intro hNot
            exact absurd ⟨hEnabled, rfl⟩ hNot
        · rw [if_neg hLogger]
          exact .of_error rfl hEnabled (fun h => hLogger h.2.2) rfl fun h => absurd hProper h
      · obtain ⟨files, fault, hInstall⟩ := install_of_not_opens hEnabled hProper hOpens
        rw [hInstall]
        exact .of_error rfl hEnabled (fun h => hOpens h.2.1) rfl fun h => absurd hProper h
    · obtain ⟨fault, hInstall⟩ := install_of_not_proper session hEnabled hProper
      rw [hInstall]
      exact .of_error rfl hEnabled (fun h => hProper h.1) rfl fun _ => rfl
  · rw [Bool.not_eq_true] at hEnabled
    rw [install_disabled hEnabled]
    refine ⟨?_, ?_, fun _ => rfl, fun _ _ => rfl⟩
    · simp [hEnabled]
    · rintro ⟨hOn, -⟩
      cases hEnabled.symm.trans hOn

end Session

/-- What a process does as far as its logger goes. Files may change in between. -/
inductive Activity where
  | setUp (asked : Option Config)
  | note (record : Record)
  | change (files : Files)

namespace Session
variable {grammar : Grammar} {session : Session} {activities : List Activity} {logger : Logger}

def act (grammar : Grammar) (session : Session) : Activity → Session
  | .setUp asked => (session.setUp grammar asked).1
  | .note record => session.note record
  | .change files => { session with files }

def run (session : Session) (grammar : Grammar) (activities : List Activity) : Session :=
  activities.foldl (act grammar) session

/-- The requests for logging, one after another. -/
def calls (session : Session) (grammar : Grammar) : List Activity → List Call
  | [] => []
  | .setUp asked :: rest =>
    session.call grammar asked :: (session.call grammar asked).after.calls grammar rest
  | .note record :: rest => (session.note record).calls grammar rest
  | .change files :: rest => calls { session with files } grammar rest

theorem logger_note (session : Session) (record : Record) :
    (session.note record).logger = session.logger := by
  unfold note
  split
  · rfl
  · next logger hLogger =>
    split
    · unfold writeTo
      split <;> rfl
    · rfl

theorem sound_of_mem_calls {call : Call} (h : call ∈ session.calls grammar activities) :
    call.Sound grammar := by
  induction activities generalizing session with
  | nil => cases h
  | cons activity rest ih =>
    cases activity with
    | setUp asked =>
      rcases List.mem_cons.mp h with rfl | hRest
      · exact sound_call session grammar asked
      · exact ih hRest
    | note record => exact ih h
    | change files => exact ih h

/-- A logger stays, and none is installed beside it. -/
theorem run_of_logger (h : session.logger = some logger) :
    (session.run grammar activities).logger = some logger ∧
      ∀ call ∈ session.calls grammar activities, ¬call.Installs := by
  induction activities generalizing session with
  | nil => exact ⟨h, by simp [calls]⟩
  | cons activity rest ih =>
    cases activity with
    | setUp asked =>
      have hSound := sound_call session grammar asked
      have hNot : ¬(session.call grammar asked).Installs := by
        rintro ⟨hEnabled, hOk⟩
        rcases hSound.granted.mp hOk with hOff | ⟨-, -, hNone⟩
        · cases hOff.symm.trans hEnabled
        · cases h.symm.trans hNone
      -- The request is refused or asks for no logging, so the logger is still there for the rest.
      obtain ⟨hRun, hCalls⟩ := ih ((hSound.kept hNot).trans h)
      exact ⟨hRun, List.forall_mem_cons.mpr ⟨hNot, hCalls⟩⟩
    | note record => exact ih ((logger_note session record).trans h)
    | change files => exact ih h

/-- Without a logger at first, the first request that installs one decides. -/
theorem logger_run_iff (h : session.logger = none) :
    (session.run grammar activities).logger = some logger ↔
      ∃ call, FirstBreach (fun other => ¬other.Installs) (session.calls grammar activities) call ∧
        call.after.logger = some logger := by
  induction activities generalizing session with
  | nil => simp [run, calls, h]
  | cons activity rest ih =>
    cases activity with
    | setUp asked =>
      have hSound := sound_call session grammar asked
      simp only [calls, firstBreach_cons_iff, Classical.not_not]
      by_cases hInstalls : (session.call grammar asked).Installs
      -- From the first request that installs a logger on, nothing changes it.
      · obtain ⟨first, hFirst, -⟩ := hSound.installed hInstalls
        have hRun : (session.run grammar (.setUp asked :: rest)).logger = some first :=
          (run_of_logger hFirst).1
        rw [hRun]
        constructor
        · rintro ⟨rfl⟩
          exact ⟨_, .inl ⟨hInstalls, rfl⟩, hFirst⟩
        · rintro ⟨call, ⟨-, rfl⟩ | ⟨hNot, -⟩, hAfter⟩
          · exact hFirst.symm.trans hAfter
          · exact absurd hInstalls hNot
      · have hRest := ih ((hSound.kept hInstalls).trans h)
        simp only [hInstalls, false_and, not_false_eq_true, true_and, false_or]
        exact hRest
    | note record => exact ih ((logger_note session record).trans h)
    | change files => exact ih h

theorem logger_run_eq_none_iff : (session.run grammar activities).logger = none ↔
    session.logger = none ∧ ∀ call ∈ session.calls grammar activities, ¬call.Installs := by
  induction activities generalizing session with
  | nil => simp [run, calls]
  | cons activity rest ih =>
    cases activity with
    | setUp asked =>
      have hSound := sound_call session grammar asked
      have hRun : session.run grammar (.setUp asked :: rest) =
          (session.call grammar asked).after.run grammar rest := rfl
      rw [hRun, ih, hSound.logger_after_iff, calls, List.forall_mem_cons, and_assoc]
      rfl
    | note record =>
      have hRun : session.run grammar (.note record :: rest) =
          (session.note record).run grammar rest := rfl
      rw [hRun, ih, logger_note, calls]
    | change files => exact ih

theorem logger_before_iff {earlier later : List Call} {call : Call}
    (hCalls : session.calls grammar activities = earlier ++ call :: later) :
    call.before.logger = none ↔ session.logger = none ∧ ∀ other ∈ earlier, ¬other.Installs := by
  induction activities generalizing session earlier with
  | nil => simp [calls] at hCalls
  | cons activity rest ih =>
    cases activity with
    | setUp asked =>
      have hSound := sound_call session grammar asked
      cases earlier with
      | nil =>
        obtain ⟨rfl, -⟩ := List.cons.inj hCalls
        simp [Session.call]
      | cons first earlier =>
        obtain ⟨rfl, hRest⟩ := List.cons.inj hCalls
        rw [ih hRest, List.forall_mem_cons, hSound.logger_after_iff, and_assoc]
        rfl
    | note record =>
      rw [calls] at hCalls
      rw [ih hCalls, logger_note]
    | change files =>
      rw [calls] at hCalls
      rw [ih hCalls]

end Session

/-- Requests for logging that were made one after another, and the session that they ended in. -/
structure InstalledOnce (grammar : Grammar) (calls : List Call) (ended : Session) : Prop where
  granted : ∀ earlier call later, calls = earlier ++ call :: later →
    (call.answer = .ok () ↔ call.config.enabled = false ∨ call.config.Proper grammar ∧
      call.config.Opens call.before.files ∧ ∀ other ∈ earlier, ¬other.Installs)
  inForce : ∀ logger, ended.logger = some logger ↔
    ∃ call, FirstBreach (fun other => ¬other.Installs) calls call ∧
      call.config.Describes grammar call.before.files logger
  bare : ended.logger = none ↔ ∀ call ∈ calls, ¬call.Installs
  kept : ∀ call ∈ calls, ¬call.Installs → call.after.logger = call.before.logger
  spared : ∀ call ∈ calls, call.config.enabled = true → ¬call.config.Proper grammar →
    (∃ fault, call.answer = .error fault) ∧ call.after.files = call.before.files

namespace Session
variable {grammar : Grammar} {session : Session}

/-- A process installs one logger at most, that of the first request with logging that is granted.
Requests that name something unknown touch no file. -/
theorem installed_once (h : session.logger = none) (activities : List Activity) :
    InstalledOnce grammar (session.calls grammar activities) (session.run grammar activities) where
  granted earlier call later hCalls := by
    have hMem : call ∈ session.calls grammar activities := by simp [hCalls]
    rw [(sound_of_mem_calls hMem).granted, logger_before_iff hCalls, and_iff_right h]
  inForce logger := by
    rw [logger_run_iff h]
    refine exists_congr fun call => and_congr_right fun hFirst => ?_
    obtain ⟨earlier, later, hCalls, -, hInstalls⟩ := hFirst
    have hMem : call ∈ session.calls grammar activities := by simp [hCalls]
    obtain ⟨installed, hAfter, hDescribes⟩ :=
      (sound_of_mem_calls hMem).installed (Classical.not_not.mp hInstalls)
    rw [hAfter, Option.some.injEq]
    constructor
    · rintro rfl
      exact hDescribes
    · exact hDescribes.unique
  bare := by rw [logger_run_eq_none_iff, and_iff_right h]
  kept call hCall := (sound_of_mem_calls hCall).kept
  spared call hCall hEnabled hProper := by
    have hSound := sound_of_mem_calls hCall
    exact ⟨hSound.refused hEnabled hProper, hSound.spared hEnabled hProper⟩

section Cases

def unknownFormat : Config := { Config.standard with format := "yaml" }

def toFile : Config := { Config.standard with output := "file", file := some "run.log" }

/-- The first request names something unknown, and the last one comes too late. -/
def requests : List Activity := [.setUp (some unknownFormat), .setUp none, .setUp (some toFile)]

theorem installed_once_requests :
    (start "now" ⟨["work"], []⟩).logger = none ∧
      ((start "now" ⟨["work"], []⟩).run .plain requests).logger ≠ none ∧
      ∃ call ∈ (start "now" ⟨["work"], []⟩).calls .plain requests,
        call.config = toFile ∧ call.answer ≠ .ok () := by
  let session := start "now" ⟨["work"], []⟩
  let late := session.run .plain (requests.take 2)
  have hBare : session.logger = none := rfl
  have hOnce : InstalledOnce .plain (session.calls .plain requests) (session.run .plain requests) :=
    installed_once hBare requests
  have hCalls : session.calls .plain requests = [session.call .plain (some unknownFormat),
      (session.call .plain (some unknownFormat)).after.call .plain none,
      late.call .plain (some toFile)] := rfl
  have hSecond : ((session.call .plain (some unknownFormat)).after.call .plain none).Installs :=
    ⟨rfl, by decide +kernel⟩
  refine ⟨hBare, fun hNone => ?_, late.call .plain (some toFile), by simp [session, hCalls], rfl, ?_⟩
  · exact hOnce.bare.mp hNone _ (by simp [hCalls]) hSecond
  · intro hAnswer
    rcases (hOnce.granted [_, _] _ [] hCalls).mp hAnswer with hOff | ⟨-, -, hNot⟩
    · exact absurd hOff (by decide)
    · exact hNot _ (by simp) hSecond

end Cases

end Session

end Fleet.Log
