import WorkflowDocs.Proofs.Program.Configuration

/-!
# The parts of a run

A run has a beginning, in which the log is started, a middle, and an end, in which a failure is
reported. The middle is the settings, the sections of the workflow, a file with the document, an
update of the README, and what is printed.

Results:
1. `runArguments_eq`, `generation_eq`, `publish_eq`: the scripts are made of these parts.
2. `silent_configure`, `silent_sections`, `silent_writing`, `silent_update`: but for the end and the
   beginning, each part does no more than file operations and tells of events.
-/

namespace WorkflowDocs.Program

open CommandLine

/-! ## Scripts -/

/-- The log is started, or a warning says that there is none. -/
def opening (arguments : Arguments) (around : Surroundings) : Script Unit := do
  if let .error failure ← startLog arguments around then
    Script.put .errors (logWarning failure)

/-- The exit code, after the report of a failure. -/
def closing : Except Failure Unit → Script Nat
  | .ok _ => return 0
  | .error failure => do
    Script.put .errors failure.report
    return 1

theorem runArguments_eq (arguments : Arguments) (around : Surroundings) :
    runArguments arguments around =
      opening arguments around >>= fun _ => generate arguments around >>= closing := by
  change _ = Script.bind (Script.bind _ _) _
  rw [Script.bind_assoc]
  refine congrArg (Script.bind _) (funext fun started => ?_)
  cases started <;> rfl

/-- The document is written to a file if one is named. -/
def writing (output : Option Text) (markdown : Text) (options : RenderOptions) :
    Script (Except Failure Unit) :=
  match output with
  | some path => Generation.writeOutput path markdown options
  | none => return .ok ()

/-- What is made of the sections. -/
def rendering (request : Generation.Request) :
    Except Failure Bundle → Script (Except Failure Generation.Outcome)
  | .error failure => return .error failure
  | .ok bundle => do
    let markdown := bundle.assemble request.render
    match ← writing request.outputFile markdown request.render with
    | .error failure => return .error failure
    | .ok _ =>
      let readme ← Generation.updateReadme request markdown
      return .ok ⟨bundle, markdown, readme⟩

theorem generation_eq (request : Generation.Request) : Generation.run request =
    Generation.sections request.workflowFile request.render >>= rendering request := by
  refine congrArg (Script.bind _) (funext fun sections => ?_)
  cases sections with
  | error failure => rfl
  | ok bundle =>
    unfold rendering writing
    cases request.outputFile <;> rfl

/-- What is printed at the end, and what becomes of an update that has failed. -/
def concluding (arguments : Arguments) (config : Config) :
    Except Failure Generation.Outcome → Script (Except Failure Unit)
  | .error failure => return .error failure
  | .ok outcome => do
    Script.put .output (printed arguments config.render outcome)
    match outcome.readme with
    | none => return .ok ()
    | some (.error failure) => return .error failure
    | some (.ok update) =>
      tellUpdate update
      return .ok ()

theorem publish_eq (arguments : Arguments) (config : Config) : publish arguments (.ok config) =
    Generation.run (request arguments config) >>= concluding arguments config := by
  refine congrArg (Script.bind _) (funext fun outcome => ?_)
  cases outcome <;> rfl

/-! ## Silence -/

theorem silent_configure (arguments : Arguments) (around : Surroundings) :
    (configure arguments around).Silent := by
  rw [configure_eq]
  exact ((Config.within_load _ _ _).bind fun _ => Script.within_pure _).mono fun _ _ => trivial

theorem silent_sections (path : Text) (options : RenderOptions) :
    (Generation.sections path options).Silent := by
  have load : (Workflow.Document.load path).Silent := by
    refine (Script.within_perform trivial).bind fun reply => ?_
    cases reply <;> exact Script.within_pure _
  refine load.bind fun loaded => ?_
  cases loaded with
  | error failure => exact Script.within_pure _
  | ok document => exact (Script.within_tell _).bind fun _ => Script.within_pure _

theorem silent_writing (output : Option Text) (markdown : Text) (options : RenderOptions) :
    (writing output markdown options).Silent := by
  cases output with
  | none => exact Script.within_pure _
  | some path =>
    refine (Script.within_perform trivial).bind fun reply => ?_
    cases reply with
    | error error => exact Script.within_pure _
    | ok => exact (Script.within_tell _).bind fun _ => Script.within_pure _

theorem silent_install (path staging content : Text) :
    (Readme.install path staging content).Silent := by
  refine (Script.within_perform trivial).bind fun written => ?_
  cases written with
  | error error => exact Script.within_pure _
  | ok =>
    refine (Script.within_perform trivial).bind fun mode => ?_
    cases mode with
    | error error => exact Script.within_perform trivial
    | ok mode =>
      refine (Script.within_perform trivial).bind fun permitted => ?_
      cases permitted with
      | error error => exact Script.within_pure _
      | ok => exact Script.within_perform trivial

theorem silent_replaceFile (path content : Text) : (Readme.replaceFile path content).Silent := by
  unfold Readme.replaceFile
  split
  · exact Script.within_pure _
  · refine (silent_install _ _ _).bind fun installed => ?_
    cases installed with
    | ok => exact Script.within_pure _
    | error error => exact (Script.within_perform trivial).bind fun _ => Script.within_pure _

theorem silent_update (path markdown : Text) (options : ReadmeOptions) :
    (Readme.update path markdown options).Silent := by
  refine (Script.within_perform trivial).bind fun found => ?_
  cases found with
  | error error => exact Script.within_pure _
  | ok content =>
    dsimp only
    cases Readme.splice content markdown options.startMarker options.endMarker with
    | error error => exact Script.within_pure _
    | ok updated =>
      dsimp only
      split
      · exact (Script.within_tell _).bind fun _ => Script.within_pure _
      · refine (silent_replaceFile path updated).bind fun replaced => ?_
        cases replaced with
        | error failure => exact Script.within_pure _
        | ok => exact (Script.within_tell _).bind fun _ => Script.within_pure _

end WorkflowDocs.Program
