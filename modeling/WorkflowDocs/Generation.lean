import WorkflowDocs.Bundle
import WorkflowDocs.Readme.Update
import WorkflowDocs.Workflow.Reader

/-!
# Generating documentation

One run: the workflow is read and rendered, the document is written to a file if one is named, and
last a README is updated if that is asked for. A failed update leaves the document valid.
-/

namespace WorkflowDocs.Generation

open Logging

structure Request where
  workflowFile : Text
  /-- Where to write the document as well. -/
  outputFile : Option Text
  updateReadme : Bool
  readme : ReadmeOptions
  render : RenderOptions
  deriving DecidableEq, Repr

structure Outcome where
  bundle : Bundle
  markdown : Text
  /-- The outcome of the update, if one was asked for. -/
  readme : Option (Except Failure Readme.Update)

def target : Target := "workflowdoc::core::generator".toList

def span (path : Text) : Span :=
  ⟨"generate_workflow_docs".toList, target, [("workflow".toList, path)]⟩

/-- The sections of the workflow in a file. -/
def sections (path : Text) (options : RenderOptions) : Script (Except Failure Bundle) := do
  match ← Workflow.Document.load path with
  | .error failure => return .error failure
  | .ok document =>
    Script.tell ⟨.debug, target, "parsed workflow".toList,
      [("inputs".toList, Text.ofNat document.inputs.length),
        ("outputs".toList, Text.ofNat document.outputs.length),
        ("has_triggers".toList,
          if document.triggers.isSome then "true".toList else "false".toList)],
      [span path]⟩
    return .ok (.ofDocument document options)

/-- The document and one more line terminator. -/
def fileText (markdown : Text) (options : RenderOptions) : Text :=
  markdown ++ options.lineBreaks.terminator

def writeOutput (path markdown : Text) (options : RenderOptions) : Script (Except Failure Unit) := do
  match ← Script.perform (.write path (fileText markdown options)) with
  | .error error =>
    return .error ((Readme.writeFailure path error).addContext "path".toList path)
  | .ok _ =>
    Script.tell ⟨.debug, target, "wrote markdown file".toList, [("output".toList, path)], []⟩
    return .ok ()

/-- The update of the README, if it is asked for. -/
def updateReadme (request : Request) (markdown : Text) :
    Script (Option (Except Failure Readme.Update)) := do
  if request.updateReadme then
    let result ← Readme.update request.readme.file markdown request.readme
    if let .error failure := result then
      Script.tell ⟨.warn, target, "README update failed".toList,
        [("error".toList, failure.text)], []⟩
    return some result
  else return none

/-- Everything that can fail without an outcome comes before the README is touched. -/
def run (request : Request) : Script (Except Failure Outcome) := do
  match ← sections request.workflowFile request.render with
  | .error failure => return .error failure
  | .ok bundle =>
    let markdown := bundle.assemble request.render
    let written ← match request.outputFile with
      | some path => writeOutput path markdown request.render
      | none => pure (.ok ())
    match written with
    | .error failure => return .error failure
    | .ok _ =>
      let readme ← updateReadme request markdown
      return .ok ⟨bundle, markdown, readme⟩

end WorkflowDocs.Generation
