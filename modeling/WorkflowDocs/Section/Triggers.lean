import WorkflowDocs.Section.Inputs

/-!
# The Triggers section

A bullet for each event of the `on` section, the event's filters as bullets below it, and the
secrets that a reusable workflow expects.
-/

namespace WorkflowDocs.Section

open Markdown Workflow Text
open Yaml (Value)

def noTriggers : Text := "This workflow does not declare any triggers.".toList

/-- An event with its configuration, unless that is null or missing. -/
structure Event where
  name : Text
  config : Option Value
  deriving Repr

/-- The events of a mapping, one for each scalar key. -/
def mappedEvents (entries : List (Value × Value)) : List Event :=
  (Value.namedEntries entries).map fun (name, config) =>
    ⟨name, if config.isNull then none else some config⟩

mutual

/-- The events of an `on` value: of a scalar, of each item of a sequence, of each key of a mapping. -/
def eventsOf : Value → List Event
  | .null => []
  | .tagged _ value => eventsOf value
  | .sequence items => eventsOfItems items
  | .mapping entries => mappedEvents entries
  | .bool value => [⟨if value then "true".toList else "false".toList, none⟩]
  | .number value => [⟨value.text, none⟩]
  | .text value => [⟨value, none⟩]

def eventsOfItems : List Value → List Event
  | [] => []
  | item :: rest => eventsOf item ++ eventsOfItems rest

end

def events (triggers : Option Value) : List Event := (triggers.map eventsOf).getD []

/-- What is said about an event that needs no filters to be understood. -/
def eventSummary? (name : Text) : Option Text :=
  if name = "workflow_call".toList then some "reusable workflow".toList
  else if name = "workflow_dispatch".toList then some "can be triggered manually".toList
  else if name = "workflow_run".toList then some "runs after other workflows complete".toList
  else if name = "schedule".toList then some "runs on a schedule".toList
  else if name = "repository_dispatch".toList then
    some "triggered through the repository dispatch API".toList
  else none

/-- One bullet of a nested list. -/
structure Bullet where
  depth : Nat
  text : Text
  deriving DecidableEq, Repr

def Bullet.line (bullet : Bullet) : Text :=
  repeated (2 * bullet.depth) ' ' ++ '-' :: ' ' :: bullet.text

/-- A key of an event's own mapping that other sections document. -/
def documentedElsewhere (key : Text) : Bool :=
  key = "inputs".toList || key = "outputs".toList || key = "secrets".toList

def scalarCode (value : Value) : Text := code (value.scalarText?.getD [])

mutual

/-- The bullets for a configuration, the outermost at `depth`. -/
def filterBullets (depth : Nat) : Value → List Bullet
  | .mapping entries => entryBullets depth entries
  | .sequence items => itemBullets depth items
  | .tagged _ value => filterBullets depth value
  | .null => []
  | value => [⟨depth, scalarCode value⟩]

/-- A list of scalars stands beside its key, other collections below it. -/
def entryBullets (depth : Nat) : List (Value × Value) → List Bullet
  | [] => []
  | (key, value) :: rest =>
    let bullets : List Bullet := match key.scalarText? with
      | none => []
      | some name =>
        if depth = 1 && documentedElsewhere name then []
        else match value with
          | .null => [⟨depth, name⟩]
          | .sequence items =>
            if items.all Value.isScalar then
              [⟨depth, name ++ ':' :: ' ' :: join ", ".toList (items.map scalarCode)⟩]
            else ⟨depth, name ++ [':']⟩ :: itemBullets (depth + 1) items
          | .mapping entries => ⟨depth, name ++ [':']⟩ :: entryBullets (depth + 1) entries
          | scalar => [⟨depth, name ++ ':' :: ' ' :: scalarCode scalar⟩]
    bullets ++ entryBullets depth rest

def itemBullets (depth : Nat) : List Value → List Bullet
  | [] => []
  | item :: rest =>
    (if item.isScalar then [⟨depth, scalarCode item⟩] else filterBullets depth item) ++
      itemBullets depth rest

end

def eventBullet (event : Event) : Bullet :=
  match eventSummary? event.name with
  | some summary => ⟨0, code event.name ++ ':' :: ' ' :: summary⟩
  | none => ⟨0, code event.name⟩

/-- An event's bullet and those of its configuration below it. -/
def eventBullets (event : Event) : List Bullet :=
  eventBullet event :: match event.config with
    | some config => filterBullets 1 config
    | none => []

def secretColumns : List Column :=
  [⟨"Name".toList, .left⟩, ⟨"Description".toList, .left⟩, ⟨"Required".toList, .center⟩]

def secretRow (entry : Text × Secret) : List Text :=
  [code entry.1, entry.2.description.getD [], requiredCell entry.2.required]

def secretsTable (secrets : Entries Secret) : Table := ⟨secretColumns, secrets.map secretRow⟩

def triggers (value : Option Value) (secrets : Entries Secret) (options : RenderOptions) : Text :=
  options.heading ++ " Triggers\n\n".toList ++
    match events value with
    | [] => noTriggers
    | found =>
      join ['\n'] ((found.flatMap eventBullets).map Bullet.line) ++
        if secrets.isEmpty then []
        else '\n' :: '\n' :: (options.subHeading ++ " Secrets\n\n".toList ++
          (secretsTable secrets).render)

end WorkflowDocs.Section
