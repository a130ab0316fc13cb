import WorkflowDocs.Proofs.Files.Change
import WorkflowDocs.Proofs.Silent
import WorkflowDocs.World

/-!
# Runs in a world

What a script leaves of the world: its files, among which the log file grows, what stands on the two
streams, and the logger.

Results:
1. `run_bind`, `exists_runs`: a run of two scripts in a row, and a run as a list of steps.
2. `Ensures.bind` and the rules below it: what holds after a script, if something held before.
3. `touched_commit_write`, `touched_note`: what is written touches one file alone.
4. `Hushed.of_silent`: a silent script leaves standard output as it is, unless the log goes there, and
   adds no more than log lines to the other stream.
-/

namespace WorkflowDocs.World

variable {α β : Type} {world after last : World}

/-! ## Scripts in a row -/

theorem run_bind (world : World) (script : Script α) (f : α → Script β) :
    world.run (script >>= f) = (world.run script).2.run (f (world.run script).1) := by
  change world.run (script.bind f) = _
  induction script generalizing world with
  | done value => rfl
  | file operation next ih => exact ih _ _
  | log event next ih => exact ih _
  | print stream text next ih => exact ih _
  | startLog logger next ih => exact ih _

theorem run_bind_of_eq {script : Script α} {f : α → Script β} {value : α}
    (done : world.run script = (value, after)) :
    world.run (script >>= f) = after.run (f value) := by
  rw [run_bind, done]

/-- Where `before` holds, `after` holds of the value and the world that the script leaves. -/
def Ensures (before : World → Prop) (script : Script α) (after : α → World → Prop) : Prop :=
  ∀ world, before world → after (world.run script).1 (world.run script).2

section Rules

variable {before : World → Prop} {after : α → World → Prop}

theorem ensures_pure {value : α} (holds : ∀ world, before world → after value world) :
    Ensures before (pure value) after := holds

theorem Ensures.bind {script : Script α} {f : α → Script β} {between : α → World → Prop}
    {after : β → World → Prop} (first : Ensures before script between)
    (onward : ∀ value, Ensures (between value) (f value) after) :
    Ensures before (script >>= f) after := by
  intro world holds
  rw [run_bind]
  exact onward _ _ (first world holds)

theorem ensures_tell {event : Logging.Event} {after : Unit → World → Prop}
    (holds : ∀ world, before world → after () (world.note event)) :
    Ensures before (Script.tell event) after := holds

theorem ensures_perform {operation : Operation} {after : operation.Reply → World → Prop}
    (holds : ∀ world, before world →
      after (world.perform operation).1 (world.perform operation).2) :
    Ensures before (Script.perform operation) after := holds

end Rules

/-! ## Operations and the log file -/

theorem bind_some (logFile : Option Location) : (logFile.bind fun place => some place) = logFile := by
  cases logFile <;> rfl

theorem run_perform (world : World) (operation : Operation) :
    world.run (Script.perform operation) = world.perform operation := rfl

theorem perform_read (world : World) (path : Text) :
    world.perform (.read path) = (world.tree.read path, world) := by
  simp only [perform, Operation.perform, placeAfter, bind_some]

theorem run_read (world : World) (path : Text) (next : Except FileError Text → Script α) :
    world.run (Script.perform (.read path) >>= next) = world.run (next (world.tree.read path)) := by
  rw [run_bind, run_perform, perform_read]

theorem run_isThere (world : World) (path : Text) (next : Bool → Script α) :
    world.run (Script.perform (.isThere path) >>= next) =
      world.run (next (world.tree.isThere path)) := by
  have same : world.perform (.isThere path) = (world.tree.isThere path, world) := by
    simp only [perform, Operation.perform, placeAfter, bind_some]
  rw [run_bind, run_perform, same]

theorem perform_mode (world : World) (path : Text) :
    world.perform (.mode path) = (world.tree.mode path, world) := by
  simp only [perform, Operation.perform, placeAfter, bind_some]

theorem perform_write (world : World) (path text : Text) : world.perform (.write path text) =
    ((world.tree.commit (world.tree.write path text)).1,
      { world with tree := (world.tree.commit (world.tree.write path text)).2 }) := by
  simp only [perform, Operation.perform, placeAfter, bind_some]

theorem perform_create (world : World) (path : Text) : world.perform (.create path) =
    ((world.tree.commit (world.tree.create path)).1,
      { world with tree := (world.tree.commit (world.tree.create path)).2 }) := by
  simp only [perform, Operation.perform, placeAfter, bind_some]

theorem perform_setMode (world : World) (path : Text) (mode : Nat) :
    world.perform (.setMode path mode) =
      ((world.tree.commit (world.tree.setMode path mode)).1,
        { world with tree := (world.tree.commit (world.tree.setMode path mode)).2 }) := by
  simp only [perform, Operation.perform, placeAfter, bind_some]

theorem perform_rename_of_error {source target : Text} {error : FileError}
    (failed : (world.perform (.rename source target)).1 = .error error) :
    (world.perform (.rename source target)).2 = world := by
  cases moved : world.tree.rename source target with
  | ok changed => simp [perform, Operation.perform, FileTree.commit, moved] at failed
  | error error =>
    simp only [perform, Operation.perform, FileTree.commit, placeAfter, moved, bind_some]

/-- A log file that is moved goes to the place of the target. -/
theorem logFile_rename {source target : Text} {place : Location}
    (here : (world.perform (.rename source target)).2.logFile = some place) :
    world.logFile = some place ∨ (∃ start, world.tree.place? source = some start ∧
      world.logFile = some start) ∧ world.tree.place? target = some place := by
  obtain ⟨old, was, now⟩ := Option.bind_eq_some_iff.mp here
  simp only [placeAfter] at now
  split at now
  next start stop _ found found' =>
    split at now
    next moved =>
      subst moved
      rw [FileTree.place?, FileTree.place?, found, found']
      exact .inr ⟨⟨start, rfl, was⟩, now⟩
    · split at now
      · cases now
      · exact .inl (was.trans now)
  next => exact .inl (was.trans now)

theorem logFile_remove {path : Text} {place : Location}
    (here : (world.perform (.remove path)).2.logFile = some place) : world.logFile = some place := by
  obtain ⟨old, was, now⟩ := Option.bind_eq_some_iff.mp here
  simp only [placeAfter] at now
  split at now
  · split at now
    · cases now
    · exact was.trans now
  · exact was.trans now

theorem touched_commit_write (tree : FileTree) (path text : Text) :
    tree.Touched (tree.commit (tree.write path text)).2 (tree.goal? path) := by
  rcases Attempt.commit_cases tree (tree.write path text) with ⟨_, written⟩ | ⟨_, same⟩
  · obtain ⟨place, file, opened, changed⟩ := FileTree.write_eq_ok written
    obtain ⟨leads, _, touched⟩ := FileTree.touched_of_opened opened (.text text)
      ((file.map (·.2)).getD FileTree.fileMode)
    rwa [leads, changed]
  · rw [same]
    exact .refl _ _

theorem touched_commit_setMode (tree : FileTree) (path : Text) (mode : Nat) :
    tree.Touched (tree.commit (tree.setMode path mode)).2 (tree.goal? path) := by
  rcases Attempt.commit_cases tree (tree.setMode path mode) with ⟨_, done⟩ | ⟨_, same⟩
  · obtain ⟨place, leads, touched, _⟩ := FileTree.touched_of_permitted done
    rwa [leads]
  · rw [same]
    exact .refl _ _

theorem touched_appendAt (tree : FileTree) (place : Location) (text : Text) :
    tree.Touched (tree.appendAt place text) (some place) := by
  unfold FileTree.appendAt
  split
  next content mode here =>
    refine FileTree.touched_put (by simp [FileTree.isLink, here]) (by simp) ?_
    simp [FileTree.isDirectory, here]
  next => exact .refl _ _

theorem logFile_note (world : World) (event : Logging.Event) :
    (world.note event).logFile = world.logFile := by
  unfold note
  split
  · rfl
  next logger _ =>
    split
    · rfl
    next line _ =>
      have kept : (world.writeLog line).logFile = world.logFile := by
        unfold writeLog
        split <;> rfl
      rw [← kept]
      cases logger.console <;> rfl

theorem logger_note (world : World) (event : Logging.Event) :
    (world.note event).logger = world.logger := by
  unfold note
  split
  · rfl
  next logger _ =>
    split
    · rfl
    next line _ =>
      have kept : (world.writeLog line).logger = world.logger := by
        unfold writeLog
        split <;> rfl
      rw [← kept]
      cases logger.console <;> rfl

/-- A line in the log touches no more than the log file. -/
theorem touched_note (world : World) (event : Logging.Event) :
    world.tree.Touched (world.note event).tree world.logFile := by
  unfold note
  split
  · exact .refl _ _
  next logger _ =>
    split
    · exact .refl _ _
    next line _ =>
      have written : world.tree.Touched (world.writeLog line).tree world.logFile := by
        unfold writeLog
        split
        next place here =>
          rw [here]
          exact touched_appendAt _ _ _
        next none => exact .refl _ _
      cases logger.console <;> exact written

/-! ## Silence -/

/-- The log does not go to standard output. -/
def Reserved (world : World) : Prop := ∀ logger, world.logger = some logger → logger.console ≠ .stdout

/-- The world may have other files and more lines on standard error, but it has the same logger and
the same standard output. -/
structure Hushed (world after : World) : Prop where
  logger : after.logger = world.logger
  output : after.output = world.output
  errors : world.errors <+: after.errors

namespace Hushed

theorem refl (world : World) : Hushed world world := ⟨rfl, rfl, List.prefix_rfl⟩

theorem trans (first : Hushed world after) (second : Hushed after last) : Hushed world last where
  logger := second.logger.trans first.logger
  output := second.output.trans first.output
  errors := first.errors.trans second.errors

theorem reserved (hushed : Hushed world after) (reserved : Reserved world) : Reserved after :=
  fun logger present => reserved logger (hushed.logger.symm.trans present)

theorem of_note (reserved : Reserved world) (event : Logging.Event) :
    Hushed world (world.note event) := by
  unfold note
  split
  · exact refl world
  next logger present =>
    split
    · exact refl world
    next line told =>
      have untouched : Hushed world (world.writeLog line) := by
        unfold writeLog
        split <;> exact ⟨rfl, rfl, List.prefix_rfl⟩
      refine untouched.trans ?_
      cases console : logger.console with
      | stdout => exact absurd console (reserved logger present)
      | stderr => exact ⟨rfl, rfl, List.prefix_append _ _⟩
      | none => exact refl _

theorem of_perform (world : World) (operation : Operation) :
    Hushed world (world.perform operation).2 := ⟨rfl, rfl, List.prefix_rfl⟩

theorem of_silent {allowed : Operation → Prop} {script : Script α}
    (silent : script.Within allowed) (reserved : Reserved world) :
    Hushed world (world.run script).2 := by
  -- no step of the script changes the logger, so no log line goes to standard output
  induction silent generalizing world with
  | done value => exact refl world
  | @file operation _ _ _ ih =>
    have first := of_perform world operation
    exact first.trans (ih _ (first.reserved reserved))
  | log event _ ih =>
    have first := of_note reserved event
    exact first.trans (ih (first.reserved reserved))

/-- A silent script that has been run. -/
theorem of_run {allowed : Operation → Prop} {script : Script α} {value : α}
    (silent : script.Within allowed) (done : world.run script = (value, after))
    (reserved : Reserved world) : Hushed world after := by
  have hushed := of_silent silent reserved
  rwa [done] at hushed

end Hushed

end WorkflowDocs.World
