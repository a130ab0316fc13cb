import WorkflowDocs.Config
import WorkflowDocs.Readme
import WorkflowDocs.Script

/-!
# Updating a README

The marker region of a README file gets new text. The new content is written to a staging file
beside the README, which then takes the README's place in one step, so that the README is complete
at every moment.
-/

namespace WorkflowDocs.Readme

open Logging

structure Update where
  path : Text
  /-- False if the region held the text already; then nothing is written. -/
  changed : Bool
  deriving DecidableEq, Repr

def target : Target := "workflowdoc::core::readme".toList

/-- The span of the work on one README. -/
def span (path : Text) : Span := ⟨"update_readme".toList, target, [("readme".toList, path)]⟩

def tell (path : Text) (level : Level) (message : String) (fields : List Field) : Script Unit :=
  Script.tell ⟨level, target, message.toList, fields, [span path]⟩

/-- The markers could not be found. -/
def markerFailure (path : Text) (options : ReadmeOptions) (error : MarkerError) : Failure :=
  (Failure.caused .markerNotFound
      ("cannot update ".toList ++ path ++ ':' :: ' ' :: error.message) error.message
    |>.suggest ("Add a `".toList ++ options.startMarker ++ "` line followed by a `".toList ++
      options.endMarker ++ "` line where the documentation belongs".toList)).addContext
    "path".toList path

def writeFailure (path : Text) (error : FileError) : Failure :=
  .caused .fileWriteError ("failed to write ".toList ++ path ++ ':' :: ' ' :: error.message)
    error.message

/-- The staging file beside a README. -/
def stagingPath (path name : Text) : Text :=
  Path.withFileName path ('.' :: (name ++ ".workflowdoc.tmp".toList))

/-- Writes the staging file, gives it the permissions of the README if those can be read, and lets
it take the README's place. -/
def install (path staging content : Text) : Script (Except FileError Unit) := do
  match ← Script.perform (.write staging content) with
  | .error error => return .error error
  | .ok _ =>
    match ← Script.perform (.mode path) with
    | .error _ => Script.perform (.rename staging path)
    | .ok mode =>
      match ← Script.perform (.setMode staging mode) with
      | .error error => return .error error
      | .ok _ => Script.perform (.rename staging path)

/-- Replaces a file; after a failure the staging file is removed. -/
def replaceFile (path content : Text) : Script (Except Failure Unit) := do
  match Path.fileName? path with
  | none => return .error (.of .fileWriteError (path ++ " does not name a file".toList))
  | some name =>
    let staging := stagingPath path name
    match ← install path staging content with
    | .ok _ => return .ok ()
    | .error error =>
      let _ ← Script.perform (.remove staging)
      return .error (writeFailure path error)

/-- Puts `markdown` into the marker region of a README. -/
def update (path markdown : Text) (options : ReadmeOptions) : Script (Except Failure Update) := do
  match ← Script.perform (.read path) with
  | .error error => return .error (.reading path error)
  | .ok content =>
    match splice content markdown options.startMarker options.endMarker with
    | .error error => return .error (markerFailure path options error)
    | .ok updated =>
      if updated = content then
        tell path .debug "README already up to date" []
        return .ok ⟨path, false⟩
      else
        match ← replaceFile path updated with
        | .error failure => return .error failure
        | .ok _ =>
          tell path .info "README updated" [("bytes".toList, Text.ofNat (Text.byteLength updated))]
          return .ok ⟨path, true⟩

end WorkflowDocs.Readme
