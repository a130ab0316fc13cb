import WorkflowDocs.Proofs.Abreast
import WorkflowDocs.Proofs.Readme.Staging

/-!
# Updates in two worlds abreast

Two updates of the same README in worlds that differ in their logs. If the README is neither a log
nor a twin, and no log is written where the staging file is, both do the same.

Results:
1. `Steady.read_cases`: a file that counts has the same text in both worlds, or none.
2. `together_install`: the staging file takes the README's place in both worlds or in neither.
3. `together_update`: the updates have the same outcome and leave the worlds abreast.
-/

namespace WorkflowDocs

open FileTree World

variable {α : Type} {logs : Location → Prop} {twins : Location → Text → Text → Prop}
  {base : FileTree} {world other : World} {path staging content markdown : Text}
  {options : ReadmeOptions} {blocked weaker : Prop}

/-! ## Results that match -/

/-- The failures are of the same category. Only if `blocked` holds one of them may say that a file is
missing and the other one that it cannot be read. -/
def Akin (blocked : Prop) (failure failure' : Failure) : Prop :=
  failure'.category = failure.category ∨
    blocked ∧ failure.category.isReadFailure = true ∧ failure'.category.isReadFailure = true

/-- Two results are related values, or failures that are akin. -/
inductive Matched {β : Type} (blocked : Prop) (related : α → β → Prop) :
    Except Failure α → Except Failure β → Prop
  | ok {value : α} {value' : β} : related value value' →
      Matched blocked related (.ok value) (.ok value')
  | error {failure failure' : Failure} : Akin blocked failure failure' →
      Matched blocked related (.error failure) (.error failure')

/-- Two scripts end with results that match, in worlds of which `after` holds. -/
structure Agreed {β : Type} (blocked : Prop) (related : α → β → Prop) (after : World → World → Prop)
    (result : Except Failure α) (result' : Except Failure β) (world other : World) : Prop where
  matched : Matched blocked related result result'
  worlds : after world other

theorem Matched.refl (blocked : Prop) (result : Except Failure α) :
    Matched blocked Eq result result := by
  cases result with
  | error failure => exact .error (.inl rfl)
  | ok value => exact .ok rfl

theorem Akin.mono {failure failure' : Failure} (akin : Akin blocked failure failure')
    (implies : blocked → weaker) : Akin weaker failure failure' :=
  akin.imp_right fun ⟨holds, isRead⟩ => ⟨implies holds, isRead⟩

theorem Matched.weaken {β : Type} {related : α → β → Prop} {result : Except Failure α}
    {result' : Except Failure β} (matched : Matched blocked related result result')
    (implies : blocked → weaker) : Matched weaker related result result' := by
  cases matched with
  | ok same => exact .ok same
  | error akin => exact .error (akin.mono implies)

/-! ## Files that count -/

/-- The path leads to no log and to no twin. -/
structure Shared (logs : Location → Prop) (twins : Location → Text → Text → Prop) (base : FileTree)
    (path : Text) : Prop where
  apart : Unlogged logs base path
  single : ∀ place, base.goal? path = some place → ∀ text text', ¬twins place text text'

/-- The path goes on from the place of a log, as if a directory stood there. -/
def Blocked (logs : Location → Prop) (base : FileTree) (path : Text) : Prop :=
  ∃ place, logs place ∧ base.GoesThrough path place

theorem isReadFailure_reading (path : Text) (error : FileError) :
    (Failure.reading path error).category.isReadFailure = true := by
  rcases Failure.category_reading path error with category | category <;> rw [category] <;> rfl

/-- Both worlds have the same text to be read, or none. -/
theorem World.Steady.read_cases (steady : Steady logs twins base world other)
    (shared : Shared logs twins base path) :
    (∃ text, world.tree.read path = .ok text ∧ other.tree.read path = .ok text) ∨
      ∃ error error', world.tree.read path = .error error ∧ other.tree.read path = .error error' ∧
        Akin (Blocked logs base path) (.reading path error) (.reading path error') := by
  have apart := steady.kept.unlogged shared.apart
  have both := steady.alike.read apart
  cases found : world.tree.read path with
  | ok text =>
    cases found' : other.tree.read path with
    | error error' =>
      rw [found, found'] at both
      cases both
    | ok text' =>
      rw [found, found'] at both
      cases both with
      | ok same =>
        rcases same with rfl | ⟨place, leads, isTwin⟩
        · exact .inl ⟨text, rfl, rfl⟩
        · rw [steady.kept.goal?_eq] at leads
          exact absurd isTwin (shared.single place leads text text')
  | error error =>
    cases found' : other.tree.read path with
    | ok text' =>
      rw [found, found'] at both
      cases both
    | error error' =>
      refine .inr ⟨error, error', rfl, rfl, ?_⟩
      by_cases blocked : Blocked logs base path
      · exact .inr ⟨blocked, isReadFailure_reading _ _, isReadFailure_reading _ _⟩
      · have clear : ∀ spot, logs spot → ¬world.tree.GoesThrough path spot :=
          fun spot logged through => blocked ⟨spot, logged, steady.kept.goesThrough_iff.mp through⟩
        rw [steady.alike.error_eq apart (steady.alike.locate_eq clear) found found']
        exact .inl rfl

namespace Readme

/-! ## The staging file -/

theorem together_move (apart : Unlogged logs base staging) (apart' : Unlogged logs base path) :
    Together (Written logs twins base staging) (Script.perform (.rename staging path))
      (Script.perform (.rename staging path)) (Ends (Abreast logs twins) (Steady logs twins base)) :=
  together_perform fun _ _ written => ends_rename written apart apart'

theorem together_install (apart : Unlogged logs base staging) (apart' : Unlogged logs base path) :
    Together (Steady logs twins base) (install path staging content) (install path staging content)
      (Ends (Abreast logs twins) (Steady logs twins base)) := by
  have writing : Together (Steady logs twins base) (Script.perform (.write staging content))
      (Script.perform (.write staging content))
      (Ends (Written logs twins base staging) (Steady logs twins base)) :=
    together_perform fun _ _ steady => ends_write steady apart content
  refine writing.bind fun written written' world other ends => ?_
  cases ends with
  | error error error' steady => exact .error error error' steady
  | ok written =>
    have asking : Together (Written logs twins base staging) (Script.perform (.mode path))
        (Script.perform (.mode path)) (fun mode mode' world other =>
          Both Eq mode mode' ∧ Written logs twins base staging world other) := by
      refine together_perform fun world other written => ?_
      rw [perform_mode, perform_mode]
      exact ⟨written.alike.mode (written.kept.unlogged apart'), written⟩
    refine asking.bind (fun mode mode' world other asked => ?_) world other written
    obtain ⟨same, written⟩ := asked
    cases same with
    | error => exact together_move apart apart' world other written
    | @ok mode _ equal =>
      subst equal
      have permitting : Together (Written logs twins base staging)
          (Script.perform (.setMode staging mode)) (Script.perform (.setMode staging mode))
          (Ends (Written logs twins base staging) (Written logs twins base staging)) :=
        together_perform fun _ _ written => ends_setMode written apart mode
      refine permitting.bind (fun permitted permitted' world other ends => ?_) world other written
      cases ends with
      | error error error' written => exact .error error error' written.toSteady
      | ok written => exact together_move apart apart' world other written

/-! ## The update -/

theorem together_replaceFile (shared : Shared logs twins base path)
    (apart : ∀ staging, sibling? path = some staging → Unlogged logs base staging) :
    Together (Steady logs twins base) (replaceFile path content) (replaceFile path content)
      (Agreed blocked Eq (Abreast logs twins)) := by
  unfold replaceFile
  cases named : Path.fileName? path with
  | none => exact together_pure fun _ _ steady => ⟨.error (.inl rfl), steady.toAbreast⟩
  | some name =>
    have apart := apart (stagingPath path name) (by simp [sibling?, named])
    refine (together_install apart shared.apart).bind fun result result' world other ends => ?_
    cases ends with
    | ok abreast => exact ⟨.ok rfl, abreast⟩
    | error error error' steady =>
      have removing : Together (Steady logs twins base)
          (Script.perform (.remove (stagingPath path name)))
          (Script.perform (.remove (stagingPath path name)))
          (fun _ _ => Abreast logs twins) :=
        together_perform fun _ _ steady => abreast_remove steady apart
      exact removing.bind (fun _ _ => together_pure fun _ _ abreast => ⟨.error (.inl rfl), abreast⟩)
        world other steady

theorem together_tell_update {value : α} (event : Logging.Event) :
    Together (Abreast logs twins) (Script.tell event >>= fun _ => pure (.ok value))
      (Script.tell event >>= fun _ => pure (.ok value)) (Agreed blocked Eq (Abreast logs twins)) :=
  (abreast_tell event event).bind fun _ _ => together_pure fun _ _ abreast => ⟨.ok rfl, abreast⟩

/-- Both updates end alike, whatever is told of them. -/
theorem together_update (shared : Shared logs twins base path)
    (apart : ∀ staging, sibling? path = some staging → Unlogged logs base staging) :
    Together (Steady logs twins base) (update path markdown options) (update path markdown options)
      (Agreed (Blocked logs base path) Eq (Abreast logs twins)) := by
  intro world other steady
  unfold update
  rw [run_read, run_read]
  rcases steady.read_cases shared with ⟨found, read, read'⟩ | ⟨error, error', read, read', akin⟩
  · rw [read, read']
    dsimp only
    cases splice found markdown options.startMarker options.endMarker with
    | error error => exact ⟨.error (.inl rfl), steady.toAbreast⟩
    | ok updated =>
      dsimp only
      by_cases same : updated = found
      · rw [if_pos same]
        exact together_tell_update _ world other steady.toAbreast
      · rw [if_neg same]
        have replacing : Together (Steady logs twins base) (replaceFile path updated)
            (replaceFile path updated) (Agreed (Blocked logs base path) Eq (Abreast logs twins)) :=
          together_replaceFile shared apart
        refine replacing.bind (fun result result' world other replaced => ?_) world other steady
        obtain ⟨matched, abreast⟩ := replaced
        cases matched with
        | error akin => exact ⟨.error akin, abreast⟩
        | ok => exact together_tell_update _ world other abreast
  · rw [read, read']
    exact ⟨.error akin, steady.toAbreast⟩

end Readme

end WorkflowDocs
