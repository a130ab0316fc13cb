import WorkflowDocs.Program
import WorkflowDocs.Proofs.World

/-!
# Starting a log

Before a log is started nothing is told, and afterwards it is told that it has been.

Results:
1. `silent_load`, `silent_prepare`: the settings of the log are found, and its file is made, without
   a word.
2. `output_startLog`: standard output stays as it is, unless the log goes there.
-/

namespace WorkflowDocs.Logging

theorem silent_readSection (path : Text) : (Settings.readSection path).Silent := by
  refine (Script.within_perform trivial).bind fun there => ?_
  cases there with
  | false => exact Script.within_pure _
  | true =>
    refine (Script.within_perform trivial).bind fun reply => ?_
    cases reply with
    | error error => exact Script.within_pure _
    | ok source =>
      dsimp only
      cases Settings.sectionOf source <;> exact Script.within_pure _

theorem silent_load (explicit : Option Text) (base : Text) (verbose : Bool)
    (environment : Environment) : (Settings.load explicit base verbose environment).Silent := by
  refine (silent_readSection _).bind fun found => ?_
  cases found <;> exact Script.within_pure _

theorem silent_unlessDirectory (path : Text) (result : Except FileError Unit) :
    (makeDirectories.unlessDirectory path result).Silent := by
  cases result with
  | ok => exact Script.within_pure _
  | error error =>
    refine (Script.within_perform trivial).bind fun directory => ?_
    cases directory <;> exact Script.within_pure _

theorem silent_makeDirectories (paths : List Text) : (makeDirectories paths).Silent := by
  induction paths with
  | nil => exact Script.within_pure _
  | cons path outer ih =>
    refine (Script.within_perform trivial).bind fun made => ?_
    split
    · exact Script.within_pure _
    · refine ih.bind fun outerMade => ?_
      cases outerMade with
      | error error => exact Script.within_pure _
      | ok => exact (Script.within_perform trivial).bind fun _ => silent_unlessDirectory _ _
    · exact silent_unlessDirectory _ _

theorem silent_prepareFile (path : Text) : (prepareFile path).Silent := by
  unfold prepareFile
  split
  · exact Script.within_pure _
  next directory _ =>
    dsimp only
    split
    · refine (Script.within_perform trivial).bind fun reply => ?_
      cases reply <;> exact Script.within_pure _
    · refine (silent_makeDirectories _).bind fun made => ?_
      cases made with
      | error error => exact Script.within_pure _
      | ok =>
        refine (Script.within_perform trivial).bind fun reply => ?_
        cases reply <;> exact Script.within_pure _

theorem silent_prepare (settings : Settings) (environment : Environment) :
    (Logger.prepare settings environment).Silent := by
  unfold Logger.prepare
  split
  · exact Script.within_pure _
  next filter _ =>
    split
    · refine (silent_prepareFile _).bind fun prepared => ?_
      cases prepared <;> exact Script.within_pure _
    · exact Script.within_pure _

end WorkflowDocs.Logging

namespace WorkflowDocs.Program

open CommandLine Logging World

/-- The log is told of first once it has been started. -/
theorem output_startLog (arguments : Arguments) (around : Surroundings) {world : World}
    (unlogged : world.logger = none)
    (reserved : Reserved (world.run (startLog arguments around)).2) :
    (world.run (startLog arguments around)).2.output = world.output := by
  have quiet : Reserved world := fun logger present => nomatch unlogged.symm.trans present
  rcases loads : world.run (Settings.load arguments.configFile around.directory arguments.verbose
    around.environment) with ⟨settled, loaded⟩
  have first := Hushed.of_run (silent_load _ _ _ _) loads quiet
  unfold startLog at reserved ⊢
  rw [run_bind_of_eq loads] at reserved ⊢
  cases settled with
  | error failure => exact first.output
  | ok settings =>
    rcases prepares : loaded.run (Logger.prepare settings around.environment) with ⟨made, prepared⟩
    have second := Hushed.of_run (silent_prepare _ _) prepares (first.reserved quiet)
    dsimp only at reserved ⊢
    rw [run_bind_of_eq prepares] at reserved ⊢
    cases made with
    | error failure => exact second.output.trans first.output
    | ok logger =>
      change Reserved (World.note (prepared.start logger) _) at reserved
      change World.output (World.note (prepared.start logger) _) = _
      have started : Reserved (prepared.start logger) := fun other present =>
        reserved other ((logger_note _ _).trans present)
      calc World.output (World.note (prepared.start logger) _)
          = (prepared.start logger).output := (Hushed.of_note started _).output
        _ = loaded.output := second.output
        _ = world.output := first.output

end WorkflowDocs.Program
