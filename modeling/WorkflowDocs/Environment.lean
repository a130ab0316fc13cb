import WorkflowDocs.Text

/-!
# Environment variables
-/

namespace WorkflowDocs

/-- The variables that are set; a value that is no text is `none`. -/
abbrev Environment := List (Text × Option Text)

namespace Environment

/-- The text of a variable. A value that is no text counts as not set. -/
def text? (environment : Environment) (name : Text) : Option Text :=
  (environment.find? fun entry => entry.1 = name).bind (·.2)

end Environment

end WorkflowDocs
