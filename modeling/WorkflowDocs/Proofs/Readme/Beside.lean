import WorkflowDocs.Proofs.Readme.Staging
import WorkflowDocs.Proofs.World

/-!
# Other files than the README

What an update does to files it is not about, while a log is written that may lie anywhere.

Results:
1. `Outlasts.ensures_update`: what outlasts each operation of an update outlasts the update.
2. `held_after_update`: a file keeps its entry if neither the README nor the staging file lead to it
   and it is not the log file.
3. `leads_after_update`: a path leads where it led, if the staging file's name is no link.
-/

namespace WorkflowDocs.Readme

open FileTree World

variable {path markdown content staging other : Text} {options : ReadmeOptions}
  {early amid late : World → Prop} {world : World} {place goal : Location} {entry : Entry}

/-! ## The course of an update in a world -/

/-- `early` holds before the README is read, `amid` from then on until the staging file is moved or
removed, and `late` after that. -/
structure Outlasts (path : Text) (early amid late : World → Prop) : Prop where
  unread : ∀ world, early world → late world
  read : ∀ world content, early world → world.tree.read path = .ok content → amid world
  unchanged : ∀ world, amid world → late world
  note : ∀ world event, late world → late (world.note event)
  write : ∀ staging text world, sibling? path = some staging → amid world →
    amid (world.perform (.write staging text)).2
  setMode : ∀ staging mode world, sibling? path = some staging → amid world →
    amid (world.perform (.setMode staging mode)).2
  move : ∀ staging world, sibling? path = some staging → amid world →
    (world.perform (.rename staging path)).1 = .ok () →
    late (world.perform (.rename staging path)).2
  stuck : ∀ staging world error, sibling? path = some staging → amid world →
    (world.perform (.rename staging path)).1 = .error error →
    amid (world.perform (.rename staging path)).2
  remove : ∀ staging world, sibling? path = some staging → amid world →
    late (world.perform (.remove staging)).2

namespace Outlasts

/-- After a move `late` holds, after a failure still `amid`. -/
def installed (amid late : World → Prop) : Except FileError Unit → World → Prop
  | .ok _, world => late world
  | .error _, world => amid world

theorem ensures_move (outlasts : Outlasts path early amid late)
    (sibling : sibling? path = some staging) :
    Ensures amid (Script.perform (.rename staging path)) (installed amid late) := by
  refine ensures_perform fun world holds => ?_
  cases moved : (world.perform (.rename staging path)).1 with
  | error error => exact outlasts.stuck staging world error sibling holds moved
  | ok => exact outlasts.move staging world sibling holds moved

theorem ensures_install (outlasts : Outlasts path early amid late)
    (sibling : sibling? path = some staging) (content : Text) :
    Ensures amid (install path staging content) (installed amid late) := by
  have writing : Ensures amid (Script.perform (.write staging content)) (fun _ => amid) :=
    ensures_perform fun world holds => outlasts.write staging content world sibling holds
  refine writing.bind fun written => ?_
  cases written with
  | error error => exact ensures_pure fun _ holds => holds
  | ok =>
    have asking : Ensures amid (Script.perform (.mode path)) (fun _ => amid) :=
      ensures_perform fun world holds => by rwa [perform_mode]
    refine asking.bind fun mode => ?_
    cases mode with
    | error error => exact outlasts.ensures_move sibling
    | ok mode =>
      have permitting : Ensures amid (Script.perform (.setMode staging mode)) (fun _ => amid) :=
        ensures_perform fun world holds => outlasts.setMode staging mode world sibling holds
      refine permitting.bind fun permitted => ?_
      cases permitted with
      | error error => exact ensures_pure fun _ holds => holds
      | ok => exact outlasts.ensures_move sibling

theorem ensures_replaceFile (outlasts : Outlasts path early amid late) (content : Text) :
    Ensures amid (replaceFile path content) (fun _ => late) := by
  unfold replaceFile
  split
  next => exact ensures_pure outlasts.unchanged
  next name named =>
    have sibling : sibling? path = some (stagingPath path name) := by simp [sibling?, named]
    refine Ensures.bind (outlasts.ensures_install sibling content) fun result => ?_
    cases result with
    | ok => exact ensures_pure fun _ holds => holds
    | error error =>
      have removing : Ensures amid (Script.perform (.remove (stagingPath path name)))
          (fun _ => late) :=
        ensures_perform fun world holds => outlasts.remove _ world sibling holds
      exact removing.bind fun _ => ensures_pure fun _ holds => holds

theorem ensures_update (outlasts : Outlasts path early amid late) (markdown : Text)
    (options : ReadmeOptions) :
    Ensures early (update path markdown options) (fun _ => late) := by
  -- what the README holds is known only where it has been read
  have read : Ensures early (Script.perform (.read path)) fun found world =>
      match found with
      | .ok _ => amid world
      | .error _ => late world := by
    refine ensures_perform fun world holds => ?_
    rw [perform_read]
    cases found : world.tree.read path with
    | error error => exact outlasts.unread world holds
    | ok content => exact outlasts.read world content holds found
  refine read.bind fun found => ?_
  cases found with
  | error error => exact ensures_pure fun _ holds => holds
  | ok content =>
    dsimp only
    cases splice content markdown options.startMarker options.endMarker with
    | error error => exact ensures_pure outlasts.unchanged
    | ok updated =>
      dsimp only
      split
      · exact Ensures.bind
          (ensures_tell fun world holds => outlasts.note world _ (outlasts.unchanged world holds))
          fun _ => ensures_pure fun _ holds => holds
      · refine (outlasts.ensures_replaceFile updated).bind fun replaced => ?_
        cases replaced with
        | error failure => exact ensures_pure fun _ holds => holds
        | ok =>
          exact Ensures.bind (ensures_tell fun world holds => outlasts.note world _ holds)
            fun _ => ensures_pure fun _ holds => holds

end Outlasts

/-! ## The entry of another file -/

/-- The entry stands at `place`, where the log is not written to. -/
structure Held (place : Location) (entry : Entry) (world : World) : Prop where
  here : world.tree.entry? place = some entry
  unlogged : world.logFile ≠ some place

/-- Neither the README nor its staging file lead to `place`. -/
structure Clear (path : Text) (place : Location) (tree : FileTree) : Prop where
  readme : tree.goal? path ≠ some place
  staging : ∀ staging, sibling? path = some staging → tree.goal? staging ≠ some place

theorem Clear.of_touched {tree changed : FileTree} {spot : Option Location}
    (clear : Clear path place tree) (touched : Touched tree changed spot) :
    Clear path place changed where
  readme := by
    rw [touched.goal?_eq]
    exact clear.readme
  staging staging sibling := by
    rw [touched.goal?_eq]
    exact clear.staging staging sibling

theorem Held.of_touched {after : World} {spot : Option Location} (held : Held place entry world)
    (touched : Touched world.tree after.tree spot) (elsewhere : spot ≠ some place)
    (logFile : after.logFile = world.logFile) : Held place entry after where
  here := (touched.same place elsewhere).trans held.here
  unlogged := by
    rw [logFile]
    exact held.unlogged

theorem Held.note (held : Held place entry world) (event : Logging.Event) :
    Held place entry (world.note event) :=
  held.of_touched (touched_note world event) held.unlogged (logFile_note world event)

/-- A name whose own place this is leads to it, for no link stands there. -/
theorem place?_ne {tree : FileTree} {name : Text} {content : Content} {mode : Nat}
    (here : tree.entry? place = some (.file content mode)) (clear : tree.goal? name ≠ some place) :
    tree.place? name ≠ some place :=
  fun own => clear (goal?_of_place? own (by simp [isLink, here]))

theorem Held.rename {content : Content} {mode : Nat} (held : Held place (.file content mode) world)
    (clear : Clear path place world.tree) (sibling : sibling? path = some staging)
    (moved : (world.perform (.rename staging path)).1 = .ok ()) :
    Held place (.file content mode) (world.perform (.rename staging path)).2 where
  here := by
    rcases Attempt.commit_cases world.tree (world.tree.rename staging path) with
      ⟨_, done⟩ | ⟨⟨_, failed⟩, _⟩
    · obtain ⟨source, target, found, own, own', _, _, _, changed⟩ := rename_eq_ok done
      have fromSource : place ≠ source := fun equal =>
        place?_ne held.here (clear.staging staging sibling) (equal ▸ own)
      have fromTarget : place ≠ target := fun equal =>
        place?_ne held.here clear.readme (equal ▸ own')
      change FileTree.entry? (world.tree.commit _).2 place = _
      rw [changed]
      split
      · exact held.here
      · rw [ entry?_put_of_ne fromTarget, entry?_erase_of_ne fromSource]
        exact held.here
    · exact nomatch moved.symm.trans failed
  unlogged logged := by
    rcases logFile_rename logged with was | ⟨_, own⟩
    · exact held.unlogged was
    · exact place?_ne held.here clear.readme own

theorem Held.remove {content : Content} {mode : Nat} (held : Held place (.file content mode) world)
    (clear : Clear path place world.tree) (sibling : sibling? path = some staging) :
    Held place (.file content mode) (world.perform (.remove staging)).2 where
  here := by
    change FileTree.entry? (world.tree.commit (world.tree.remove staging)).2 place = _
    rcases Attempt.commit_cases world.tree (world.tree.remove staging) with ⟨_, done⟩ | ⟨_, same⟩
    · obtain ⟨spot, found, own, _, _, changed⟩ := remove_eq_ok done
      have elsewhere : place ≠ spot := fun equal =>
        place?_ne held.here (clear.staging staging sibling) (equal ▸ own)
      rw [changed, entry?_erase_of_ne elsewhere]
      exact held.here
    · rw [same]
      exact held.here
  unlogged logged := held.unlogged (logFile_remove logged)

theorem outlasts_held (path : Text) (place : Location) (content : Content) (mode : Nat) :
    Outlasts path
      (fun world => Held place (.file content mode) world ∧ Clear path place world.tree)
      (fun world => Held place (.file content mode) world ∧ Clear path place world.tree)
      (Held place (.file content mode)) where
  unread _ holds := holds.1
  read _ _ holds _ := holds
  unchanged _ holds := holds.1
  note _ event held := held.note event
  write staging text world sibling holds := by
    obtain ⟨held, clear⟩ := holds
    have touched := touched_commit_write world.tree staging text
    rw [perform_write]
    exact ⟨held.of_touched touched (clear.staging staging sibling) rfl, clear.of_touched touched⟩
  setMode staging mode world sibling holds := by
    obtain ⟨held, clear⟩ := holds
    have touched := touched_commit_setMode world.tree staging mode
    rw [perform_setMode]
    exact ⟨held.of_touched touched (clear.staging staging sibling) rfl, clear.of_touched touched⟩
  move _ _ sibling holds moved := holds.1.rename holds.2 sibling moved
  stuck _ _ _ _ holds failed := by rwa [perform_rename_of_error failed]
  remove _ _ sibling holds := holds.1.remove holds.2 sibling

/-- Another file keeps its entry, whatever becomes of the update. -/
theorem held_after_update {content : Content} {mode : Nat}
    (held : Held place (.file content mode) world) (clear : Clear path place world.tree)
    (markdown : Text) (options : ReadmeOptions) :
    Held place (.file content mode) (world.run (update path markdown options)).2 :=
  (outlasts_held path place content mode).ensures_update markdown options world ⟨held, clear⟩

/-! ## Where another path leads -/

/-- The path leads to `goal`, to which the README does not, and the staging name is no link. -/
structure Leading (path other : Text) (goal : Location) (tree : FileTree) : Prop where
  leads : tree.goal? other = some goal
  readme : tree.goal? path ≠ some goal
  plain : ∀ staging, sibling? path = some staging → tree.Plain staging

theorem Leading.of_touched {tree changed : FileTree} {spot : Option Location}
    (leading : Leading path other goal tree) (touched : Touched tree changed spot) :
    Leading path other goal changed where
  leads := touched.goal?_eq.trans leading.leads
  readme := by
    rw [touched.goal?_eq]
    exact leading.readme
  plain staging sibling := touched.plain (leading.plain staging sibling)

/-- An operation of the update leaves the path alone; the others than a move do no more than touch
the staging file. -/
theorem Leading.perform {operation : Operation} (leading : Leading path other goal world.tree)
    (leaf : ∃ final, Leaf world.tree path final) (sibling : sibling? path = some staging)
    (allowed : Allowed path staging operation) :
    (world.perform operation).2.tree.goal? other = some goal ∧
      (¬ Installs path staging ⟨operation, (world.perform operation).1,
          (world.perform operation).2.tree⟩ →
        Leading path other goal (world.perform operation).2.tree ∧
          ∃ final, Leaf (world.perform operation).2.tree path final) := by
  have ready : Ready world.tree path staging := ⟨leading.plain staging sibling, leaf⟩
  rcases step_cases sibling ready allowed (.done (.done operation)) with
    ⟨_, touched⟩ | ⟨installs, source, target, final, content, mode, exchange⟩
  · exact ⟨touched.goal?_eq.trans leading.leads, fun _ =>
      ⟨leading.of_touched touched, leaf.imp fun _ leaf => touched.leaf leaf⟩⟩
  · have differ : goal ≠ final := by
      rintro rfl
      exact leading.readme exchange.leads
    exact ⟨exchange.moved.goal?_eq leading.leads differ, fun still => absurd installs still⟩

theorem outlasts_leading (path other : Text) (goal : Location) :
    Outlasts path (fun world => Leading path other goal world.tree)
      (fun world => Leading path other goal world.tree ∧ ∃ final, Leaf world.tree path final)
      (fun world => world.tree.goal? other = some goal) where
  unread _ leading := leading.leads
  read _ _ leading found := ⟨leading, leaf_of_content? (read_eq_ok_iff.mp found)⟩
  unchanged _ holds := holds.1.leads
  note world event leads := (touched_note world event).goal?_eq.trans leads
  write _ text _ sibling holds :=
    (holds.1.perform holds.2 sibling (.write text)).2 (not_installs (by simp))
  setMode _ mode _ sibling holds :=
    (holds.1.perform holds.2 sibling (.setMode mode)).2 (not_installs (by simp))
  move _ _ sibling holds _ := (holds.1.perform holds.2 sibling .rename).1
  stuck _ _ _ _ holds failed := by rwa [perform_rename_of_error failed]
  remove _ _ sibling holds := (holds.1.perform holds.2 sibling .remove).1

/-- Another path leads where it led, whatever becomes of the update. -/
theorem leads_after_update (leading : Leading path other goal world.tree) (markdown : Text)
    (options : ReadmeOptions) :
    (world.run (update path markdown options)).2.tree.goal? other = some goal :=
  (outlasts_leading path other goal).ensures_update markdown options world leading

end WorkflowDocs.Readme
