import WorkflowDocs.RenderOptions

/-!
# The opening of a document

The workflow's name as a title one level above the sections, then the Description section.
-/

namespace WorkflowDocs.Section

/-- A text trimmed, unless it is missing or blank. -/
def nonBlank? (text : Option Text) : Option Text :=
  (text.map Text.trim).filter fun text => !text.isEmpty

def description (name text : Option Text) (options : RenderOptions) : Text :=
  let title := (nonBlank? name).map fun name => options.titleHeading ++ ' ' :: name
  let body := (nonBlank? text).map fun text =>
    options.heading ++ " Description\n\n".toList ++ text
  match title, body with
  | some title, some body => title ++ '\n' :: '\n' :: body
  | some only, none => only
  | none, some only => only
  | none, none => []

example : description (some "Deploy".toList) (some " ships it\n".toList) {} =
    "# Deploy\n\n## Description\n\nships it".toList := by decide

end WorkflowDocs.Section
