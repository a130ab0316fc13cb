import WorkflowDocs.Proofs.Files.Through
import WorkflowDocs.Proofs.World

/-!
# Two runs abreast

Two runs in worlds that differ in their logs: what one of them finds, the other one finds too. Logs
grow in both worlds as they like, as long as no path that counts leads to them.

Results:
1. `Together.bind` and the rules below it: what holds after two scripts, if something held before.
2. `Abreast.note`: log lines leave two worlds abreast.
3. `ends_write`, `ends_setMode`, `ends_rename`, `abreast_remove`: so do operations, which succeed in
   both worlds or in neither.
-/

namespace WorkflowDocs.World

open FileTree

variable {α β γ δ : Type} {logs : Location → Prop} {twins : Location → Text → Text → Prop}
  {base : FileTree} {world other : World} {path staging : Text}

/-! ## Two scripts -/

/-- Where `before` holds of two worlds, `after` holds of the values and the worlds that the two
scripts leave. -/
def Together (before : World → World → Prop) (script : Script α) (script' : Script β)
    (after : α → β → World → World → Prop) : Prop :=
  ∀ world other, before world other →
    after (world.run script).1 (other.run script').1 (world.run script).2 (other.run script').2

section Rules

variable {before : World → World → Prop} {after : α → β → World → World → Prop}

theorem together_pure {value : α} {value' : β}
    (holds : ∀ world other, before world other → after value value' world other) :
    Together before (pure value) (pure value') after := holds

theorem Together.bind {script : Script α} {script' : Script β} {f : α → Script γ}
    {f' : β → Script δ} {between : α → β → World → World → Prop}
    {after : γ → δ → World → World → Prop} (first : Together before script script' between)
    (onward : ∀ value value', Together (between value value') (f value) (f' value') after) :
    Together before (script >>= f) (script' >>= f') after := by
  intro world other holds
  rw [run_bind, run_bind]
  exact onward _ _ _ _ (first world other holds)

theorem together_tell {event event' : Logging.Event} {after : Unit → Unit → World → World → Prop}
    (holds : ∀ world other, before world other → after () () (world.note event) (other.note event')) :
    Together before (Script.tell event) (Script.tell event') after := holds

theorem together_perform {operation : Operation}
    {after : operation.Reply → operation.Reply → World → World → Prop}
    (holds : ∀ world other, before world other →
      after (world.perform operation).1 (other.perform operation).1
        (world.perform operation).2 (other.perform operation).2) :
    Together before (Script.perform operation) (Script.perform operation) after := holds

end Rules

/-! ## Worlds abreast -/

/-- The worlds differ in their logs, in twins, and in what stands on standard error. -/
structure Abreast (logs : Location → Prop) (twins : Location → Text → Text → Prop)
    (world other : World) : Prop where
  alike : Alike logs twins world.tree other.tree
  logged : ∀ place, world.logFile = some place → logs place
  logged' : ∀ place, other.logFile = some place → logs place
  reserved : Reserved world
  reserved' : Reserved other
  output : other.output = world.output

/-- Besides, paths lead where they led in the base. -/
structure Steady (logs : Location → Prop) (twins : Location → Text → Text → Prop) (base : FileTree)
    (world other : World) : Prop extends Abreast logs twins world other where
  kept : Kept base world.tree

/-- Besides, what a path leads to is the same in both worlds. -/
structure Written (logs : Location → Prop) (twins : Location → Text → Text → Prop) (base : FileTree)
    (path : Text) (world other : World) : Prop extends Steady logs twins base world other where
  same : ∀ place, base.goal? path = some place →
    other.tree.entry? place = world.tree.entry? place

namespace Abreast

theorem note (abreast : Abreast logs twins world other) (event event' : Logging.Event) :
    Abreast logs twins (world.note event) (other.note event') where
  alike := (abreast.alike.of_touched (touched_note world event) abreast.logged).of_touched'
    (touched_note other event') abreast.logged'
  logged := by
    rw [logFile_note]
    exact abreast.logged
  logged' := by
    rw [logFile_note]
    exact abreast.logged'
  reserved := (Hushed.of_note abreast.reserved event).reserved abreast.reserved
  reserved' := (Hushed.of_note abreast.reserved' event').reserved abreast.reserved'
  output := by
    rw [(Hushed.of_note abreast.reserved event).output,
      (Hushed.of_note abreast.reserved' event').output, abreast.output]

/-- The same text is printed in both worlds. -/
theorem put_output (abreast : Abreast logs twins world other) (text : Text) :
    Abreast logs twins (world.put .output text) (other.put .output text) where
  alike := abreast.alike
  logged := abreast.logged
  logged' := abreast.logged'
  reserved := abreast.reserved
  reserved' := abreast.reserved'
  output := congrArg (· ++ text) abreast.output

end Abreast

theorem Steady.note (steady : Steady logs twins base world other) (event event' : Logging.Event) :
    Steady logs twins base (world.note event) (other.note event') where
  toAbreast := steady.toAbreast.note event event'
  kept := steady.kept.touched (touched_note world event)

theorem abreast_tell (event event' : Logging.Event) :
    Together (Abreast logs twins) (Script.tell event) (Script.tell event')
      (fun _ _ => Abreast logs twins) :=
  together_tell fun _ _ abreast => abreast.note event event'

theorem steady_tell (event event' : Logging.Event) :
    Together (Steady logs twins base) (Script.tell event) (Script.tell event')
      (fun _ _ => Steady logs twins base) :=
  together_tell fun _ _ steady => steady.note event event'

/-! ## Operations -/

/-- An operation succeeds in both worlds, and then `done` holds of them, or fails in both. -/
inductive Ends (done failed : World → World → Prop) :
    Except FileError Unit → Except FileError Unit → World → World → Prop
  | ok {world other : World} : done world other → Ends done failed (.ok ()) (.ok ()) world other
  | error {world other : World} (error error' : FileError) : failed world other →
      Ends done failed (.error error) (.error error') world other

theorem ends_of_both {related : FileTree → FileTree → Prop} {done failed : World → World → Prop}
    {tree tree' : FileTree} {result result' : Except FileError FileTree}
    (both : Both related result result')
    (succeeds : ∀ changed changed', result = .ok changed → result' = .ok changed' →
      related changed changed' → done world other)
    (fails : ∀ error error', result = .error error → result' = .error error' →
      failed world other) :
    Ends done failed (tree.commit result).1 (tree'.commit result').1 world other := by
  cases both with
  | ok related => exact .ok (succeeds _ _ rfl rfl related)
  | error error error' => exact .error error error' (fails _ _ rfl rfl)

theorem ends_write (steady : Steady logs twins base world other)
    (apart : Unlogged logs base path) (text : Text) :
    Ends (Written logs twins base path) (Steady logs twins base)
      (world.perform (.write path text)).1 (other.perform (.write path text)).1
      (world.perform (.write path text)).2 (other.perform (.write path text)).2 := by
  rw [perform_write, perform_write]
  have both := steady.alike.write (steady.kept.unlogged apart) text
  have kept := steady.kept.touched (touched_commit_write world.tree path text)
  rw [steady.kept.goal?_eq] at both
  generalize world.tree.write path text = result at both kept ⊢
  generalize other.tree.write path text = result' at both ⊢
  cases both with
  | ok changes =>
    obtain ⟨alters, same⟩ := changes
    exact .ok
      { alike := alters.alike
        logged := steady.logged
        logged' := steady.logged'
        reserved := steady.reserved
        reserved' := steady.reserved'
        output := steady.output
        kept
        same }
  | error error error' => exact .error error error' steady

theorem ends_setMode (written : Written logs twins base staging world other)
    (apart : Unlogged logs base staging) (mode : Nat) :
    Ends (Written logs twins base staging) (Written logs twins base staging)
      (world.perform (.setMode staging mode)).1 (other.perform (.setMode staging mode)).1
      (world.perform (.setMode staging mode)).2 (other.perform (.setMode staging mode)).2 := by
  rw [perform_setMode, perform_setMode]
  have both := written.alike.setMode (written.kept.unlogged apart) mode
  have kept := written.kept.touched (touched_commit_setMode world.tree staging mode)
  generalize world.tree.setMode staging mode = result at both kept ⊢
  generalize other.tree.setMode staging mode = result' at both ⊢
  cases both with
  | ok alters =>
    exact .ok
      { alike := alters.alike
        logged := written.logged
        logged' := written.logged'
        reserved := written.reserved
        reserved' := written.reserved'
        output := written.output
        kept
        same := fun place leads => alters.agree place (written.same place leads) }
  | error error error' => exact .error error error' written

/-- The log of a world stays where it is when another file is moved to a place without a log. -/
theorem logged_rename (logged : ∀ place, world.logFile = some place → logs place)
    (moved : ∀ place, world.tree.place? staging = some place → ¬logs place) (place : Location)
    (here : (world.perform (.rename staging path)).2.logFile = some place) : logs place := by
  rcases logFile_rename here with was | ⟨⟨start, own, was⟩, _⟩
  · exact logged place was
  · exact absurd (logged start was) (moved start own)

theorem ends_rename (written : Written logs twins base staging world other)
    (apart : Unlogged logs base staging) (apart' : Unlogged logs base path) :
    Ends (Abreast logs twins) (Steady logs twins base)
      (world.perform (.rename staging path)).1 (other.perform (.rename staging path)).1
      (world.perform (.rename staging path)).2 (other.perform (.rename staging path)).2 := by
  have moved : ∀ place, world.tree.place? staging = some place →
      ¬logs place ∧ other.tree.entry? place = world.tree.entry? place := by
    intro place own
    refine ⟨written.alike.unlogged_place (written.kept.unlogged apart) own, ?_⟩
    -- a link is the same in both trees, and what is no link has been written to
    rcases written.alike.similar place with same | ⟨plain, _⟩
    · exact same
    · refine written.same place ?_
      rw [← written.kept.goal?_eq]
      exact goal?_of_place? own plain
  have replaced : ∀ place, world.tree.place? path = some place → ¬logs place := fun place own =>
    written.alike.unlogged_place (written.kept.unlogged apart') own
  have both := written.alike.rename moved replaced
  have moved' : ∀ place, other.tree.place? staging = some place → ¬logs place := fun place own =>
    (moved place (written.alike.place?_eq.symm.trans own)).1
  refine ends_of_both both (fun _ _ done done' alike => ?_) fun _ _ failed failed' => ?_
  · exact
      { alike := by
          change Alike logs twins (world.tree.commit (world.tree.rename staging path)).2
            (other.tree.commit (other.tree.rename staging path)).2
          rwa [done, done']
        logged := logged_rename written.logged fun place own => (moved place own).1
        logged' := logged_rename written.logged' moved'
        reserved := written.reserved
        reserved' := written.reserved'
        output := written.output }
  · rw [perform_rename_of_error (congrArg (fun result => (world.tree.commit result).1) failed),
      perform_rename_of_error (congrArg (fun result => (other.tree.commit result).1) failed')]
    exact written.toSteady

/-- Whatever a removal answers, the worlds stay abreast. -/
theorem abreast_remove (steady : Steady logs twins base world other)
    (apart : Unlogged logs base path) :
    Abreast logs twins (world.perform (.remove path)).2 (other.perform (.remove path)).2 where
  alike := by
    have both := steady.alike.remove fun place own =>
      steady.alike.unlogged_place (steady.kept.unlogged apart) own
    change Alike logs twins (world.tree.commit (world.tree.remove path)).2
      (other.tree.commit (other.tree.remove path)).2
    generalize world.tree.remove path = result at both ⊢
    generalize other.tree.remove path = result' at both ⊢
    cases both with
    | ok alike => exact alike
    | error => exact steady.alike
  logged place here := steady.logged place (logFile_remove here)
  logged' place here := steady.logged' place (logFile_remove here)
  reserved := steady.reserved
  reserved' := steady.reserved'
  output := steady.output

end WorkflowDocs.World
