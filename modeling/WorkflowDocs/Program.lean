import WorkflowDocs.CommandLine.Reader
import WorkflowDocs.Config.Load
import WorkflowDocs.Logging.Settings
import WorkflowDocs.Report

/-!
# The program

A whole run as a script, from the words of the command line to the exit code. The document is
printed before a failed README update makes the run fail, and a log that cannot be set up makes it
fail never.
-/

namespace WorkflowDocs.Program

open CommandLine Logging

/-- What a run starts with besides its command line. -/
structure Surroundings where
  /-- The working directory, as an absolute path. -/
  directory : Text
  environment : Environment

/-! ## The log -/

def logTarget : Target := "workflowdoc::logging".toList

def fileField (file : Option Text) : Text :=
  match file with
  | some path => "Some(".toList ++ path.quotedPath ++ [')']
  | none => "None".toList

def tellStart (settings : Settings) : Script Unit :=
  Script.tell ⟨.debug, logTarget, "logging initialized".toList,
    [("level".toList, settings.level), ("console".toList, settings.console.name),
      ("log_file".toList, fileField settings.file)], []⟩

def startLog (arguments : Arguments) (around : Surroundings) : Script (Except Failure Unit) := do
  match ← Settings.load arguments.configFile around.directory arguments.verbose
      around.environment with
  | .error failure => return .error failure
  | .ok settings =>
    match ← Logger.prepare settings around.environment with
    | .error failure => return .error failure
    | .ok logger =>
      .startLog logger (.done ())
      tellStart settings
      return .ok ()

/-- What a person sees of a log that cannot be set up. -/
def logWarning (failure : Failure) : Text :=
  "[WARNING] logging disabled\n  Context: ".toList ++ failure.message ++ ['\n']

/-! ## The command `generate` -/

def target : Target := "workflowdoc::cli::commands".toList

/-- The settings of a run, if they can be used. -/
def configure (arguments : Arguments) (around : Surroundings) :
    Script (Except Failure Config) := do
  match ← Config.load arguments.configFile around.directory around.environment with
  | .error failure => return .error failure
  | .ok config =>
    let config := arguments.override config
    return config.validate.map fun _ => config

def request (arguments : Arguments) (config : Config) : Generation.Request where
  workflowFile := arguments.workflowFile
  outputFile := arguments.output
  updateReadme := arguments.updateReadme
  readme := config.readme
  render := config.render

/-- What is printed in the end. -/
def printed (arguments : Arguments) (options : RenderOptions) (outcome : Generation.Outcome) :
    Text :=
  match arguments.format with
  | .markdown => Generation.fileText outcome.markdown options
  | .json => (outcome.report arguments.workflowFile).pretty ++ ['\n']

def tellUpdate (update : Readme.Update) : Script Unit :=
  let message := if update.changed then "updated README" else "README already up to date"
  Script.tell ⟨.info, target, message.toList, [("readme".toList, update.path)], []⟩

def generate (arguments : Arguments) (around : Surroundings) : Script (Except Failure Unit) := do
  match ← configure arguments around with
  | .error failure => return .error failure
  | .ok config =>
    match ← Generation.run (request arguments config) with
    | .error failure => return .error failure
    | .ok outcome =>
      Script.put .output (printed arguments config.render outcome)
      match outcome.readme with
      | none => return .ok ()
      | some (.error failure) => return .error failure
      | some (.ok update) =>
        tellUpdate update
        return .ok ()

/-! ## A run -/

def runArguments (arguments : Arguments) (around : Surroundings) : Script Nat := do
  if let .error failure ← startLog arguments around then
    Script.put .errors (logWarning failure)
  match ← generate arguments around with
  | .ok _ => return 0
  | .error failure =>
    Script.put .errors failure.report
    return 1

/-- A run with its exit code, from the words of the command line, the program's name first. -/
def run (words : List Text) (around : Surroundings) : Script Nat := do
  match Arguments.ofWords words with
  | .error halt =>
    Script.put (if halt.isAnswer then .output else .errors) (halt.text (programName words))
    return halt.exitCode
  | .ok arguments => runArguments arguments around

end WorkflowDocs.Program
