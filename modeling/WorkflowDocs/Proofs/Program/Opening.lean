import WorkflowDocs.Proofs.Files.Directories
import WorkflowDocs.Proofs.Program.Contract

/-!
# Opening the log

If the log file lies in a directory that is there, the beginning of a run makes no more than that
file. A log that cannot be set up leaves no more than a warning.

Results:
1. `startLog_cases`: the log cannot be set up and nothing has changed, or its file has been made.
2. `opened_started`: the beginning changes no more than the log file.
3. `warned_of_unopened`: a run whose log cannot be set up does what it would do without a log.
-/

namespace WorkflowDocs

open FileTree Logging World

variable {α : Type} {world : World} {path : Text} {settings : Settings}

/-! ## Words on standard error -/

namespace World

/-- The world with a text in front of all that stands on standard error. -/
def behind (world : World) (text : Text) : World := { world with errors := text ++ world.errors }

theorem put_behind (world : World) (text : Text) (stream : Stream) (more : Text) :
    (world.behind text).put stream more = (world.put stream more).behind text := by
  cases stream with
  | output => rfl
  | errors => simp [put, behind]

theorem writeLog_behind (world : World) (text line : Text) :
    (world.behind text).writeLog line = (world.writeLog line).behind text := by
  obtain ⟨tree, output, errors, logger, logFile, time⟩ := world
  cases logFile <;> rfl

theorem writeConsole_behind (world : World) (text : Text) (console : Console) (line : Text) :
    (world.behind text).writeConsole console line =
      (world.writeConsole console line).behind text := by
  cases console with
  | stdout => exact put_behind world text .output line
  | stderr => exact put_behind world text .errors line
  | none => rfl

theorem note_behind (world : World) (text : Text) (event : Event) :
    (world.behind text).note event = (world.note event).behind text := by
  have logger : (world.behind text).logger = world.logger := rfl
  have time : (world.behind text).time = world.time := rfl
  unfold note
  rw [logger, time]
  cases world.logger with
  | none => rfl
  | some logger =>
    dsimp only
    cases logger.line? world.time event with
    | none => rfl
    | some line =>
      dsimp only
      rw [writeLog_behind, writeConsole_behind]

/-- What a script does is not affected by what has been said on standard error before. -/
theorem run_behind (world : World) (text : Text) (script : Script α) :
    (world.behind text).run script =
      ((world.run script).1, (world.run script).2.behind text) := by
  induction script generalizing world with
  | done value => rfl
  | file operation next ih =>
    exact ih (world.perform operation).1 (world.perform operation).2
  | log event next ih =>
    change ((world.behind text).note event).run next = _
    rw [note_behind]
    exact ih _
  | print stream more next ih =>
    change ((world.behind text).put stream more).run next = _
    rw [put_behind]
    exact ih _
  | startLog logger next ih => exact ih (world.start logger)

end World

/-! ## Preparing a log -/

namespace Logging

/-- The directory that the path lies in is there, unless it is the working directory or none. -/
def Housed (tree : FileTree) (path : Text) : Prop :=
  ∀ directory, Path.parent? path = some directory → directory ≠ [] →
    tree.isDirectoryAt directory = true

/-- The log file, if there is to be one, has been made. -/
def Made (tree : FileTree) (file : Option Text) (changed : FileTree) : Prop :=
  match file with
  | none => changed = tree
  | some path => tree.create path = .ok changed

/-- Looking for settings changes nothing. -/
theorem run_loadSettings (world : World) (explicit : Option Text) (base : Text) (verbose : Bool)
    (environment : Environment) :
    (world.run (Settings.load explicit base verbose environment)).2 = world := by
  have reads : ∀ path, (world.run (Settings.readSection path)).2 = world := by
    intro path
    unfold Settings.readSection
    rw [run_isThere]
    cases world.tree.isThere path with
    | false => rfl
    | true =>
      change (world.run (Script.perform (.read path) >>= _)).2 = world
      rw [run_read]
      cases world.tree.read path with
      | error error => rfl
      | ok source =>
        dsimp only
        cases Settings.sectionOf source <;> rfl
  unfold Settings.load
  rw [run_bind, reads]
  generalize (world.run (Settings.readSection _)).1 = found
  cases found <;> rfl

theorem run_makeDirectories (there : world.tree.isDirectoryAt path = true) (outer : List Text) :
    world.run (makeDirectories (path :: outer)) = (.ok (), world) := by
  have making : world.perform (.makeDirectory path) = (.error .alreadyThere, world) := by
    simp only [World.perform, Operation.perform, placeAfter, bind_some, FileTree.commit,
      makeDirectory_of_isDirectoryAt there]
  have asking : world.perform (.isDirectory path) = (true, world) := by
    simp only [World.perform, Operation.perform, placeAfter, bind_some, there]
  unfold makeDirectories
  rw [run_bind, run_perform, making]
  change world.run (Script.perform (.isDirectory path) >>= _) = _
  rw [run_bind, run_perform, asking]
  rfl

theorem withAncestors_eq (path : Text) : ∃ outer, withAncestors path = path :: outer := by
  unfold withAncestors
  cases path.length with
  | zero => exact ⟨[], rfl⟩
  | succ n =>
    unfold withAncestors.go
    split
    · split
      · exact ⟨[], rfl⟩
      · exact ⟨_, rfl⟩
    · exact ⟨[], rfl⟩

/-- What is left when there is a directory for the log file. -/
def makeFile (path : Text) : Script (Except Failure Unit) := do
  match ← Script.perform (.create path) with
  | .error error =>
    return .error (.internal ["failed to open log file ".toList ++ path, error.message])
  | .ok _ => return .ok ()

theorem run_prepareFile {directory : Text} (named : Path.parent? path = some directory)
    (housed : Housed world.tree path) :
    world.run (prepareFile path) = world.run (makeFile path) := by
  unfold prepareFile
  rw [named]
  dsimp only
  split
  · rfl
  next full =>
    obtain ⟨outer, listed⟩ := withAncestors_eq directory
    have there := housed directory named (by simpa using full)
    rw [listed, run_bind_of_eq (run_makeDirectories there outer)]
    rfl

theorem prepareFile_cases (housed : Housed world.tree path) :
    (∃ failure, world.run (prepareFile path) = (.error failure, world)) ∨
      ∃ changed, world.tree.create path = .ok changed ∧
        world.run (prepareFile path) = (.ok (), { world with tree := changed }) := by
  cases named : Path.parent? path with
  | none =>
    unfold prepareFile
    rw [named]
    exact .inl ⟨_, rfl⟩
  | some directory =>
    rw [run_prepareFile named housed, makeFile, run_bind, run_perform, perform_create]
    cases created : world.tree.create path with
    | error error => exact .inl ⟨_, rfl⟩
    | ok changed => exact .inr ⟨changed, rfl, rfl⟩

theorem prepare_cases (environment : Environment)
    (housed : ∀ path, settings.file = some path → Housed world.tree path) :
    (∃ failure, world.run (Logger.prepare settings environment) = (.error failure, world)) ∨
      ∃ logger changed, logger.file = settings.file ∧ Made world.tree settings.file changed ∧
        world.run (Logger.prepare settings environment) =
          (.ok logger, { world with tree := changed }) := by
  unfold Logger.prepare
  cases chooseFilter settings environment with
  | error failure => exact .inl ⟨failure, rfl⟩
  | ok filter =>
    cases named : settings.file with
    | none => exact .inr ⟨⟨filter, settings.console, none⟩, world.tree, rfl, rfl, rfl⟩
    | some path =>
      dsimp only
      rcases prepareFile_cases (housed path named) with ⟨failure, failed⟩ | ⟨changed, made, done⟩
      · rw [run_bind_of_eq failed]
        exact .inl ⟨failure, rfl⟩
      · rw [run_bind_of_eq done]
        exact .inr ⟨_, changed, rfl, made, rfl⟩

end Logging

namespace Program

open CommandLine

variable {arguments : Arguments} {around : Surroundings}

/-! ## The beginning of a run -/

/-- What a run settles for its log. -/
def logSettings (arguments : Arguments) (around : Surroundings) : Script (Except Failure Settings) :=
  Settings.load arguments.configFile around.directory arguments.verbose around.environment

/-- A log file lies in a directory that is there. -/
def Sheltered (arguments : Arguments) (around : Surroundings) (world : World) : Prop :=
  ∀ settings path, (world.run (logSettings arguments around)).1 = .ok settings →
    settings.file = some path → Housed world.tree path

theorem startLog_cases (sheltered : Sheltered arguments around world) :
    (∃ failure, world.run (startLog arguments around) = (.error failure, world)) ∨
      ∃ logger changed event, Made world.tree logger.file changed ∧
        world.run (startLog arguments around) =
          (.ok (), (World.start { world with tree := changed } logger).note event) := by
  rcases loads : world.run (logSettings arguments around) with ⟨settled, loaded⟩
  have same := run_loadSettings world arguments.configFile around.directory arguments.verbose
    around.environment
  change (world.run (logSettings arguments around)).2 = world at same
  rw [loads] at same
  subst same
  unfold startLog
  change (∃ failure, World.run _ (logSettings arguments around >>= _) = _) ∨ ∃ logger changed event,
    _ ∧ World.run _ (logSettings arguments around >>= _) = _
  simp only [run_bind_of_eq loads]
  cases settled with
  | error failure => exact .inl ⟨failure, rfl⟩
  | ok settings =>
    dsimp only
    have housed := fun path => sheltered settings path (congrArg Prod.fst loads)
    rcases prepare_cases around.environment housed with
      ⟨failure, failed⟩ | ⟨logger, changed, sameFile, made, done⟩
    · rw [run_bind_of_eq failed]
      exact .inl ⟨failure, rfl⟩
    · rw [run_bind_of_eq done]
      exact .inr ⟨logger, changed, _, sameFile ▸ made, rfl⟩

/-- The beginning changes no more than the log file, where nothing stood before, or a file. -/
structure Opened (world after : World) : Prop where
  touched : world.tree.Touched after.tree after.logFile
  loose : ∀ place, after.logFile = some place → Loose (world.tree.entry? place)

theorem started_of_unopened {failure : Failure}
    (failed : world.run (startLog arguments around) = (.error failure, world)) :
    started arguments around world = world.put .errors (logWarning failure) := by
  unfold started opening
  rw [run_bind_of_eq failed]
  rfl

theorem started_of_opened {after : World}
    (done : world.run (startLog arguments around) = (.ok (), after)) :
    started arguments around world = after := by
  unfold started opening
  rw [run_bind_of_eq done]
  rfl

theorem opened_of_made {logger : Logger} {changed : FileTree}
    (made : Made world.tree logger.file changed) (event : Event) :
    Opened world ((World.start { world with tree := changed } logger).note event) := by
  have told := touched_note (World.start { world with tree := changed } logger) event
  unfold Made at made
  cases named : logger.file with
  | none =>
    rw [named] at made
    have none : (World.start { world with tree := changed } logger).logFile = none := by
      simp [World.start, named]
    rw [none] at told
    subst made
    refine ⟨by rwa [logFile_note, none], fun place here => ?_⟩
    rw [logFile_note, none] at here
    cases here
  | some path =>
    rw [named] at made
    obtain ⟨place, leads, loose, touched⟩ := create_eq_ok made
    have here : (World.start { world with tree := changed } logger).logFile = some place := by
      simp only [World.start, named, Option.bind_some]
      exact touched.goal?_eq.trans leads
    rw [here] at told
    refine ⟨by rw [logFile_note, here]; exact touched.trans told, fun spot isLog => ?_⟩
    rw [logFile_note, here] at isLog
    cases isLog
    exact loose

theorem opened_started (nowhere : world.logFile = none)
    (sheltered : Sheltered arguments around world) :
    Opened world (started arguments around world) := by
  rcases startLog_cases sheltered with ⟨failure, failed⟩ | ⟨logger, changed, event, made, done⟩
  · rw [started_of_unopened failed]
    refine ⟨.refl _ _, fun place here => ?_⟩
    exact nomatch nowhere.symm.trans here
  · rw [started_of_opened done]
    exact opened_of_made made event

/-! ## A warning -/

/-- The run is the silent one, but for a warning in front of what that says on standard error. -/
def Warned (warning : Text) (world : World) (silent run : α × World) : Prop :=
  ∃ said, silent.2.errors = world.errors ++ said ∧
    run = (silent.1, { silent.2 with errors := world.errors ++ (warning ++ said) })

theorem warned_of_put (world : World) (warning : Text) (script : Script α) :
    Warned warning world (world.run script) ((world.put .errors warning).run script) := by
  have silent := run_behind { world with errors := [] } world.errors script
  have run := run_behind { world with errors := [] } (world.errors ++ warning) script
  have same : World.behind { world with errors := [] } world.errors = world := by
    simp [World.behind]
  have same' : World.behind { world with errors := [] } (world.errors ++ warning) =
      world.put .errors warning := by simp [World.behind, World.put]
  rw [same] at silent
  rw [same'] at run
  refine ⟨_, congrArg (·.2.errors) silent, ?_⟩
  rw [run, silent]
  simp [World.behind]

/-- A run whose log cannot be set up does what it would do without a log, after a warning. -/
theorem warned_of_unopened {words : List Text} {failure : Failure}
    (accepted : Arguments.ofWords words = .ok arguments)
    (sheltered : Sheltered arguments around world)
    (failed : (world.run (startLog arguments around)).1 = .error failure) :
    Warned (logWarning failure) world (world.run (generate arguments around >>= closing))
      (world.run (run words around)) := by
  rw [run_of_accepted accepted]
  rcases startLog_cases sheltered with ⟨failure', fails⟩ | ⟨logger, changed, event, made, done⟩
  · rw [fails] at failed
    cases failed
    rw [started_of_unopened fails]
    exact warned_of_put world _ _
  · rw [done] at failed
    cases failed

end Program

end WorkflowDocs
