import Std.Time
import WorkflowDocs.Program

/-!
# The executable

Runs the program's script on the files and streams of this machine. Permissions cannot be asked
for here, so a README that is replaced gets those of a new file.
-/

namespace WorkflowDocs.Executable

open Logging

/-- A failure with the words and the number that the operating system gives it. -/
def numbered (code : UInt32) (details : String) : FileError :=
  .other false (details.toList ++ " (os error ".toList ++ Text.ofNat code.toNat ++ [')'])

def fileError : IO.Error → FileError
  | .noFileOrDirectory .. => .missing
  | .alreadyExists _ code details | .inappropriateType _ code details
  | .permissionDenied _ code details | .invalidArgument _ code details
  | .resourceExhausted _ code details | .noSuchThing _ code details
  | .interrupted _ code details | .otherError code details | .resourceBusy code details
  | .resourceVanished code details | .unsupportedOperation code details
  | .hardwareFault code details | .unsatisfiedConstraints code details
  | .illegalOperation code details | .protocolError code details
  | .timeExpired code details => numbered code details
  | error => .other false (toString error).toList

def attempt {α : Type} (action : IO α) : IO (Except FileError α) := do
  try
    return .ok (← action)
  catch error =>
    return .error (fileError error)

def name (path : Text) : String := String.ofList path

/-- The file can be opened, or it cannot because it is not ours to read. -/
def isThere (path : String) : IO Bool := do
  try
    let _ ← IO.FS.Handle.mk path .read
    return true
  catch
    | .permissionDenied .. => return true
    | _ => return false

def read (path : String) : IO (Except FileError Text) := do
  match ← attempt (IO.FS.readBinFile path) with
  | .error error => return .error error
  | .ok bytes =>
    match String.fromUTF8? bytes with
    | some text => return .ok text.toList
    | none => return .error .notUtf8

def perform : (operation : Operation) → IO operation.Reply
  | .read path => read (name path)
  | .isThere path => isThere (name path)
  | .isDirectory path => isThere (name path ++ "/.")
  | .makeDirectory path => attempt (IO.FS.createDir (name path))
  | .create path => attempt (do let _ ← IO.FS.Handle.mk (name path) .append)
  | .write path text => attempt (IO.FS.writeFile (name path) (name text))
  | .mode _ => return .error (.other false "permissions are not known".toList)
  | .setMode .. => return .ok ()
  | .rename source target => attempt (IO.FS.rename (name source) (name target))
  | .remove path => attempt (IO.FS.removeFile (name path))

/-- The time in UTC, to the microsecond. -/
def now : IO Text := do
  let time := Std.Time.DateTime.ofTimestamp (← Std.Time.Timestamp.now) .UTC
  return (time.format "uuuu-MM-dd'T'HH:mm:ss.SSSSSS'Z'").toList

def print (stream : Stream) (text : Text) : IO Unit := do
  let handle ← match stream with
    | .output => IO.getStdout
    | .errors => IO.getStderr
  handle.putStr (name text)
  handle.flush

/-- A logger with its file open. -/
structure Sink where
  logger : Logger
  file : Option IO.FS.Handle

def Sink.ofLogger (logger : Logger) : IO Sink := do
  match logger.file with
  | none => return ⟨logger, none⟩
  | some path => return ⟨logger, (← attempt (IO.FS.Handle.mk (name path) .append)).toOption⟩

def Sink.note (sink : Sink) (event : Event) : IO Unit := do
  match sink.logger.line? (← now) event with
  | none => return
  | some line =>
    if let some handle := sink.file then
      handle.putStr (name line)
      handle.flush
    match sink.logger.console with
    | .stdout => print .output line
    | .stderr => print .errors line
    | .none => return

/-- Runs a script; until a logger starts, events are lost. -/
def run {α : Type} (sink : Option Sink) : Script α → IO α
  | .done value => return value
  | .file operation next => do run sink (next (← perform operation))
  | .log event next => do
    if let some sink := sink then sink.note event
    run sink next
  | .print stream text next => do
    print stream text
    run sink next
  | .startLog logger next => do run (some (← Sink.ofLogger logger)) next

/-- The variables that a run looks at. -/
def variableNames : List String :=
  ["RUST_LOG", "WORKFLOWDOC_LINE_BREAKS", "WORKFLOWDOC_TOC_LEVEL", "WORKFLOWDOC_README_FILE",
    "WORKFLOWDOC_START_MARKER", "WORKFLOWDOC_END_MARKER", "WORKFLOWDOC_LOG_FILE",
    "WORKFLOWDOC_LOG_CONSOLE"]

def environment : IO Environment := do
  let found ← variableNames.mapM fun key => do
    return (← IO.getEnv key).map fun value => (key.toList, some value.toList)
  return found.filterMap id

end WorkflowDocs.Executable

open WorkflowDocs

def main (arguments : List String) : IO UInt32 := do
  let directory ← IO.currentDir
  let words := CommandLine.Command.program.name :: arguments.map String.toList
  let environment ← Executable.environment
  let code ← Executable.run none (Program.run words ⟨directory.toString.toList, environment⟩)
  return code.toUInt32
