import WorkflowDocs.RenderOptions
import WorkflowDocs.Workflow.Document

/-!
# The Inputs and Outputs sections

A heading and a table with a row for each entry, or a sentence when there are no entries.
-/

namespace WorkflowDocs.Section

open Markdown Workflow

def noInputs : Text := "This workflow has no inputs.".toList

def noOutputs : Text := "This workflow has no outputs.".toList

def inputColumns : List Column :=
  [⟨"Name".toList, .left⟩, ⟨"Description".toList, .left⟩, ⟨"Default".toList, .left⟩,
    ⟨"Required".toList, .center⟩, ⟨"Type".toList, .left⟩]

def outputColumns : List Column := [⟨"Name".toList, .left⟩, ⟨"Description".toList, .left⟩]

/-- An entry is required only if it says so. -/
def requiredCell (required : Option Bool) : Text :=
  if required = some true then "yes".toList else "no".toList

/-- An empty default is shown as two quotes instead of an empty code span. -/
def defaultCell : Option Text → Text
  | none => []
  | some [] => code "\"\"".toList
  | some text => code text

/-- The type, and the options of a choice as a list below it. -/
def typeCell (input : Input) : Text :=
  match input.type with
  | none => []
  | some type =>
    if type = "choice".toList && !input.options.isEmpty then
      code type ++ ":<br /><ul>".toList ++
        input.options.flatMap (fun option => "<li>".toList ++ option ++ "</li>".toList) ++
        "</ul>".toList
    else code type

def inputRow (entry : Text × Input) : List Text :=
  [code entry.1, entry.2.description.getD [], defaultCell entry.2.default,
    requiredCell entry.2.required, typeCell entry.2]

def outputRow (entry : Text × Output) : List Text := [code entry.1, entry.2.description.getD []]

def inputs (entries : Entries Input) (options : RenderOptions) : Text :=
  options.heading ++ " Inputs\n\n".toList ++
    if entries.isEmpty then noInputs else Table.render ⟨inputColumns, entries.map inputRow⟩

def outputs (entries : Entries Output) (options : RenderOptions) : Text :=
  options.heading ++ " Outputs\n\n".toList ++
    if entries.isEmpty then noOutputs else Table.render ⟨outputColumns, entries.map outputRow⟩

end WorkflowDocs.Section
