import WorkflowDocs.Script

/-!
# Worlds

What a script meets when it runs: the files, the two streams it prints on, and a logger with its
open file. The open file stays the same file when it is moved, and lines for it are lost when it is
removed.
-/

namespace WorkflowDocs

open Logging

structure World where
  tree : FileTree
  output : Text := []
  errors : Text := []
  logger : Option Logger := none
  /-- Where the open log file lies, if it still has a place. -/
  logFile : Option Location := none
  /-- The time as log lines show it. -/
  time : Text

namespace World

def put (world : World) (stream : Stream) (text : Text) : World :=
  match stream with
  | .output => { world with output := world.output ++ text }
  | .errors => { world with errors := world.errors ++ text }

/-! ## The log -/

def start (world : World) (logger : Logger) : World :=
  { world with
    logger := some logger
    logFile := logger.file.bind fun path => (world.tree.locate true path).toOption }

def writeConsole (world : World) (console : Console) (line : Text) : World :=
  match console with
  | .stdout => world.put .output line
  | .stderr => world.put .errors line
  | .none => world

def writeLog (world : World) (line : Text) : World :=
  match world.logFile with
  | some place => { world with tree := world.tree.appendAt place line }
  | none => world

/-- A line for an event on the console and in the log file, if the logger tells the event. -/
def note (world : World) (event : Event) : World :=
  match world.logger with
  | none => world
  | some logger =>
    match logger.line? world.time event with
    | none => world
    | some line => (world.writeLog line).writeConsole logger.console line

/-- The place of an open file after an operation on the tree. -/
def placeAfter (tree : FileTree) (place : Location) : Operation → Option Location
  | .rename source target =>
    match tree.rename source target, tree.locate false source, tree.locate false target with
    | .ok _, .ok start, .ok stop =>
      if start = place then some stop else if stop = place then none else some place
    | _, _, _ => some place
  | .remove path =>
    match tree.remove path, tree.locate false path with
    | .ok _, .ok removed => if removed = place then none else some place
    | _, _ => some place
  | _ => some place

/-! ## Running -/

def perform (world : World) (operation : Operation) : operation.Reply × World :=
  let (reply, tree) := operation.perform world.tree
  let logFile := world.logFile.bind fun place => placeAfter world.tree place operation
  (reply, { world with tree, logFile })

/-- The outcome of a script and the world after it. -/
def run {α : Type} (world : World) : Script α → α × World
  | .done value => (value, world)
  | .file operation next =>
    let (reply, world) := world.perform operation
    world.run (next reply)
  | .log event next => (world.note event).run next
  | .print stream text next => (world.put stream text).run next
  | .startLog logger next => (world.start logger).run next

end World

end WorkflowDocs
