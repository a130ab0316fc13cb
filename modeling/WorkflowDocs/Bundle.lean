import WorkflowDocs.Section.Description
import WorkflowDocs.Section.Triggers

/-!
# The documentation of a workflow

The four sections of a workflow's documentation and the markdown document made of them.
-/

namespace WorkflowDocs

open Text

structure Bundle where
  description : Text
  inputs : Text
  outputs : Text
  triggers : Text
  deriving DecidableEq, Repr

namespace Bundle

/-- The sections in the order of the document. -/
def fragments (bundle : Bundle) : List Text :=
  [bundle.description, bundle.inputs, bundle.outputs, bundle.triggers]

/-- The sections of a workflow, with the line breaks asked for. -/
def ofDocument (document : Workflow.Document) (options : RenderOptions) : Bundle :=
  let finish := normalizeBreaks options.lineBreaks
  { description := finish (Section.description document.name document.description options)
    inputs := finish (Section.inputs document.inputs options)
    outputs := finish (Section.outputs document.outputs options)
    triggers := finish (Section.triggers document.triggers document.secrets options) }

/-- The non-empty sections with one blank line between them. -/
def assemble (bundle : Bundle) (options : RenderOptions) : Text :=
  let parts := (bundle.fragments.map dropFinalBreaks).filter fun part => !part.isEmpty
  normalizeBreaks options.lineBreaks (join ['\n', '\n'] parts)

end Bundle

end WorkflowDocs
