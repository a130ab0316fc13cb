import WorkflowDocs.Entries
import WorkflowDocs.Yaml.Value
import WorkflowDocs.Text.Blank

/-!
# Documented parts of a workflow

A workflow file reduced to what is documented: name, description, inputs, outputs, secrets and
the `on` section. A text of another shape than expected counts as absent, and a section of another
shape has no entries. Inputs and outputs of the events are read only where the root has no such key;
one without entries hides them.
-/

namespace WorkflowDocs.Workflow

open Yaml (Value)

structure Input where
  description : Option Text
  default : Option Text
  required : Option Bool
  type : Option Text
  options : List Text
  deriving DecidableEq, Repr

structure Output where
  description : Option Text
  value : Option Text
  deriving DecidableEq, Repr

structure Secret where
  description : Option Text
  required : Option Bool
  deriving DecidableEq, Repr

structure Document where
  name : Option Text
  description : Option Text
  inputs : Entries Input
  outputs : Entries Output
  secrets : Entries Secret
  /-- The `on` section as it stands in the file. -/
  triggers : Option Value
  deriving Repr

/-- The text of a scalar, or the JSON text of a collection that has no tag. -/
def defaultText? : Value → Option Text
  | .sequence items => (Value.sequence items).toJson?.map (·.compact)
  | .mapping entries => (Value.mapping entries).toJson?.map (·.compact)
  | value => value.scalarText?

/-- A boolean, or a text that spells one in any case and with blanks around it. Folding ASCII is
enough: no other character has a small letter among those of the two words. -/
def flag? : Value → Option Bool
  | .bool value => some value
  | .text value =>
    let word := value.trim.lowered
    if word = "true".toList then some true
    else if word = "false".toList then some false
    else none
  | _ => none

def textAt? (value : Value) (key : Text) : Option Text := (value.get? key).bind Value.scalarText?

def flagAt? (value : Value) (key : Text) : Option Bool := (value.get? key).bind flag?

def Input.ofValue (value : Value) : Input where
  description := textAt? value "description".toList
  default := (value.get? "default".toList).bind defaultText?
  required := flagAt? value "required".toList
  type := textAt? value "type".toList
  options := match (value.get? "options".toList).bind Value.items? with
    | some items => items.filterMap Value.scalarText?
    | none => []

def Output.ofValue (value : Value) : Output where
  description := textAt? value "description".toList
  value := textAt? value "value".toList

def Secret.ofValue (value : Value) : Secret where
  description := textAt? value "description".toList
  required := flagAt? value "required".toList

/-- The entries of a section, none if it is not a mapping. -/
def readEntries {α : Type} (build : Value → α) (part : Value) : Entries α :=
  match part.entries? with
  | some entries => .ofPairs ((Value.namedEntries entries).map fun (name, spec) => (name, build spec))
  | none => []

/-- The `on` section. Some writers turn its key into the boolean `true`. -/
def triggerSection? (root : Value) : Option Value :=
  root.entries?.bind fun entries =>
    (Value.find? (Value.isText "on".toList) entries).orElse fun _ => Value.find? Value.isTrue entries

/-- The value under `key` in the configuration of `event`. -/
def eventSection? (triggers : Option Value) (event key : Text) : Option Value :=
  triggers.bind fun part => (part.get? event).bind (·.get? key)

/-- The inputs of the events that take any; those of reusable workflows come first. -/
def eventInputs (triggers : Option Value) : Entries Input :=
  let inputsOf (event : Text) : Entries Input :=
    match eventSection? triggers event "inputs".toList with
    | some part => readEntries Input.ofValue part
    | none => []
  (inputsOf "workflow_call".toList).union (inputsOf "workflow_dispatch".toList)

def descriptionMark : Text := "# <!-- description -->".toList

/-- The description in the comments: the lines starting with `#` directly below the first line
that starts with the mark, each without its `#` signs and the blanks around the rest. -/
def commentDescription? (source : Text) : Option Text :=
  match source.lines.dropWhile fun line => !descriptionMark.isPrefixOf line with
  | [] => none
  | _ :: following =>
    let body := following.takeWhile fun line => line.head? = some '#'
    let text := Text.trim (Text.join ['\n'] (body.map fun line => Text.trim (line.dropWhile (· = '#'))))
    if text.isEmpty then none else some text

/-- The documented parts of a root value; `source` is the text it was read from. -/
def Document.ofValue (root : Value) (source : Text) : Document :=
  let triggers := triggerSection? root
  { name := textAt? root "name".toList
    description := ((textAt? root "description".toList).filter fun text => !text.blank).orElse
      fun _ => commentDescription? source
    inputs := match root.get? "inputs".toList with
      | some part => readEntries Input.ofValue part
      | none => eventInputs triggers
    outputs := match root.get? "outputs".toList with
      | some part => readEntries Output.ofValue part
      | none => match eventSection? triggers "workflow_call".toList "outputs".toList with
        | some part => readEntries Output.ofValue part
        | none => []
    secrets := match eventSection? triggers "workflow_call".toList "secrets".toList with
      | some part => readEntries Secret.ofValue part
      | none => []
    triggers }

end WorkflowDocs.Workflow
