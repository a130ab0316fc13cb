import WorkflowDocs.Failure
import WorkflowDocs.Script
import WorkflowDocs.Workflow.Document
import WorkflowDocs.Yaml.Document

/-!
# Reading a workflow's documented parts
-/

namespace WorkflowDocs.Workflow

/-- A blank text is an empty workflow. Of any other text only the grammar is checked. -/
def Document.parse (source : Text) : Except Failure Document :=
  if source.blank then .ok (.ofValue .null source)
  else match Yaml.parse source with
    | .ok root => .ok (.ofValue root source)
    | .error problem =>
      .error (.caused .parseError ("workflow is not valid YAML: ".toList ++ problem.message)
        problem.message)

/-- The documented parts of the workflow in a file. -/
def Document.load (path : Text) : Script (Except Failure Document) := do
  match ← Script.perform (.read path) with
  | .error error => return .error (.reading path error)
  | .ok source =>
    return (Document.parse source).mapError fun failure => failure.addContext "path".toList path

end WorkflowDocs.Workflow
