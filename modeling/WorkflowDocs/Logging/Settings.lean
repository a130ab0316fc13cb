import WorkflowDocs.Environment
import WorkflowDocs.Failure
import WorkflowDocs.Logging.Logger
import WorkflowDocs.Script
import WorkflowDocs.Toml.Decode

/-!
# Log settings

Where log lines go and how much is told by default: from an environment variable if that is
usable, else from the settings file, else a default.
-/

namespace WorkflowDocs.Logging

structure Settings where
  level : Text := "warn".toList
  console : Console := .stderr
  file : Option Text := none
  deriving DecidableEq, Repr

namespace Settings

/-! ## The file -/

/-- What the settings file says about the log. -/
structure Section where
  level : Option Text := none
  console : Option Console := none
  file : Option Text := none
  deriving DecidableEq, Repr

def consoleWords : Toml.Words Console :=
  [Console.stdout, .stderr, .none].map fun console => (console.name, console)

def sectionFields : List (Toml.Field Section) :=
  [{ name := "default_level".toList
     read := fun item found =>
       (Toml.decodeText "a string" item).map fun level => { found with level := some level }
     optional := false },
   { name := "console_output".toList
     read := fun item found =>
       (Toml.decodeChoice consoleWords item).map fun console =>
         { found with console := some console } },
   { name := "log_file".toList
     read := fun item found =>
       (Toml.decodeText "a string" item).map fun file => { found with file := some file }
     optional := false }]

def fields : List (Toml.Field (Option Section)) :=
  [{ name := "logging".toList
     read := fun item _ =>
       (Toml.decodeRecord "TomlLoggingSection" sectionFields {} item).map some }]

/-- The part about the log in the text of a settings file. -/
def sectionOf (source : Text) : Except Toml.Problem (Option Section) := do
  let table ← Toml.parse source
  Toml.decodeRecord "TomlLogging" fields none (.table table)

/-- The part about the log in a settings file; a file that is not there has none. -/
def readSection (path : Text) : Script (Except Failure (Option Section)) := do
  if !(← Script.perform (.isThere path)) then return .ok none
  match ← Script.perform (.read path) with
  | .error error =>
    return .error (.internal ["failed to read logging config ".toList ++ path, error.message])
  | .ok source =>
    match sectionOf source with
    | .ok found => return .ok found
    | .error problem =>
      return .error (.internal
        ["failed to parse logging config ".toList ++ path, problem.text source])

/-- The settings with those of the file at `path`. A log file is named from the directory of the
settings file. -/
def apply (settings : Settings) (found : Section) (base path : Text) : Settings :=
  let directory := match Path.parent? path with
    | some parent => if parent.isEmpty then base else Path.join base parent
    | none => base
  { level := found.level.getD settings.level
    console := found.console.getD settings.console
    file := (found.file.map (Path.join directory)).or settings.file }

/-! ## The environment -/

/-- The settings with those from the environment; a value that cannot be used changes nothing. -/
def override (settings : Settings) (base : Text) (environment : Environment) : Settings :=
  let file := (environment.text? "WORKFLOWDOC_LOG_FILE".toList).filter fun file => !file.blank
  let console := (environment.text? "WORKFLOWDOC_LOG_CONSOLE".toList).bind Console.ofText?
  { settings with
    file := (file.map (Path.join base)).or settings.file
    console := console.getD settings.console }

def check (settings : Settings) : Except Failure Settings :=
  if (Directive.ofText? settings.level).isSome then .ok settings
  else .error (.internal ["logging.default_level must be a valid tracing directive".toList])

/-- The settings for one run. With `verbose` the level is `debug` whatever the file says. -/
def load (explicit : Option Text) (base : Text) (verbose : Bool) (environment : Environment) :
    Script (Except Failure Settings) := do
  let path := explicit.getD (Path.join base "workflowdoc.toml".toList)
  match ← readSection path with
  | .error failure => return .error failure
  | .ok found =>
    let settings : Settings := match found with
      | some found => apply {} found base path
      | none => {}
    let settings := settings.override base environment
    return check (if verbose then { settings with level := "debug".toList } else settings)

end Settings

/-! ## Starting -/

/-- A path and those of the directories it lies in, the innermost first. -/
def withAncestors (path : Text) : List Text :=
  go path path.length
where
  go (path : Text) : Nat → List Text
    | 0 => [path]
    | fuel + 1 =>
      match Path.parent? path with
      | some parent => if parent.isEmpty then [path] else path :: go parent fuel
      | none => [path]

/-- Makes the first of the directories, and if need be those it lies in. -/
def makeDirectories : List Text → Script (Except FileError Unit)
  | [] => return .ok ()
  | path :: outer => do
    match ← Script.perform (.makeDirectory path) with
    | .ok _ => return .ok ()
    | .error .missing =>
      match ← makeDirectories outer with
      | .error error => return .error error
      | .ok _ => unlessDirectory path (← Script.perform (.makeDirectory path))
    | .error error => unlessDirectory path (.error error)
where
  /-- A directory that is there already is as good as a new one. -/
  unlessDirectory (path : Text) (result : Except FileError Unit) :
      Script (Except FileError Unit) := do
    match result with
    | .ok _ => return .ok ()
    | .error error =>
      if ← Script.perform (.isDirectory path) then return .ok () else return .error error

/-- Makes the log file and its directory if they are not there. -/
def prepareFile (path : Text) : Script (Except Failure Unit) := do
  match Path.parent? path with
  | none =>
    return .error (.internal
      ["log file path ".toList ++ path ++ " has no parent directory".toList])
  | some directory =>
    let made ← if directory.isEmpty then pure (.ok ()) else makeDirectories (withAncestors directory)
    match made with
    | .error error =>
      return .error (.internal
        ["failed to create log directory ".toList ++ directory, error.message])
    | .ok _ =>
      match ← Script.perform (.create path) with
      | .error error =>
        return .error (.internal ["failed to open log file ".toList ++ path, error.message])
      | .ok _ => return .ok ()

/-- The variable that holds a filter. -/
def filterVariable : Text := "RUST_LOG".toList

/-- The filter from the environment if it is usable, else the one from the settings. -/
def chooseFilter (settings : Settings) (environment : Environment) : Except Failure Filter :=
  match (environment.text? filterVariable).bind Filter.ofText? with
  | some filter => .ok filter
  | none =>
    match Filter.ofText? settings.level with
    | some filter => .ok filter
    | none =>
      .error (.internal
        ["failed to configure tracing level".toList, "invalid filter directive".toList])

/-- The logger for some settings, with its file made. -/
def Logger.prepare (settings : Settings) (environment : Environment) :
    Script (Except Failure Logger) := do
  match chooseFilter settings environment with
  | .error failure => return .error failure
  | .ok filter =>
    let prepared ← match settings.file with
      | some path => prepareFile path
      | none => pure (.ok ())
    match prepared with
    | .error failure => return .error failure
    | .ok _ => return .ok ⟨filter, settings.console, settings.file⟩

end WorkflowDocs.Logging
