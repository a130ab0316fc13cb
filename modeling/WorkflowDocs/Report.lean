import WorkflowDocs.Generation
import WorkflowDocs.Json

/-!
# Reports

The outcome of a run as a JSON document, for other programs to read.
-/

namespace WorkflowDocs

def Readme.Update.report (update : Readme.Update) : Json :=
  .object [("path".toList, .string update.path), ("changed".toList, .bool update.changed)]

/-- The sections, the document, and the README if it was updated. -/
def Generation.Outcome.report (outcome : Generation.Outcome) (workflowFile : Text) : Json :=
  .object ([("workflow_file".toList, .string workflowFile),
      ("description".toList, .string outcome.bundle.description),
      ("inputs".toList, .string outcome.bundle.inputs),
      ("outputs".toList, .string outcome.bundle.outputs),
      ("triggers".toList, .string outcome.bundle.triggers),
      ("markdown".toList, .string outcome.markdown)] ++
    match outcome.readme with
    | some (.ok update) => [("readme".toList, update.report)]
    | _ => [])

end WorkflowDocs
