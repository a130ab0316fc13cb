import WorkflowDocs.Proofs.Readme.Atomic

/-!
# Two updates at once

Two updates of one README share the staging file beside it, and nothing keeps their operations
apart. A run is an interleaving of the steps of both; the operations fail only as the tree makes
them fail.

That each run installs its own text, and a failed run none, is false (`race_ownText_unsound`): the
text that a rename installs is the one that was written last, by whichever run.

Results:
1. `reads_of_unreadable`: if the README cannot be read, nothing but reads is done.
2. `staged_lastWritten`: the staging file holds the text that was written last.
3. `race_settled`: a run that fails moves nothing, a run that succeeds with a change
   moves the text last written, and the README holds what was moved last.
-/

namespace WorkflowDocs.Readme

open FileTree

inductive Side
  | left
  | right
  deriving DecidableEq, Repr

/-- The steps of one side. -/
def own (side : Side) (steps : List (Side × Step)) : List Step :=
  steps.filterMap fun entry => if entry.1 = side then some entry.2 else none

/-- The steps of both sides. -/
def all (steps : List (Side × Step)) : List Step := steps.map (·.2)

/-- Two updates of one README, each with its text and its markers, from `tree` to `last`. -/
structure Race (path : Text) (markdown : Side → Text) (options : Side → ReadmeOptions)
    (tree : FileTree) (steps : List (Side × Step)) (last : FileTree)
    (result : Side → Except Failure Update) : Prop where
  trail : Trail Performed tree (all steps) last
  runs : ∀ side, (update path (markdown side) (options side)).Runs (own side steps) (result side)

/-! ## Steps of one side -/

variable {side other : Side} {step : Step} {steps before after : List (Side × Step)}

theorem own_cons_self : own side ((side, step) :: steps) = step :: own side steps := by
  simp [own]

theorem own_cons_of_ne (differ : other ≠ side) :
    own side ((other, step) :: steps) = own side steps := by
  simp [own, differ]

theorem own_append : own side (before ++ after) = own side before ++ own side after :=
  List.filterMap_append

theorem mem_own_iff : step ∈ own side steps ↔ (side, step) ∈ steps := by
  simp only [own, List.mem_filterMap, Option.ite_none_right_eq_some, Option.some.injEq]
  constructor
  · rintro ⟨⟨_, _⟩, member, rfl, rfl⟩
    exact member
  · exact fun member => ⟨(side, step), member, rfl, rfl⟩

/-- Where one side makes a step, the run can be cut. -/
theorem own_cut {first second : List Step} (cut : own side steps = first ++ step :: second) :
    ∃ before after, steps = before ++ (side, step) :: after ∧ own side before = first ∧
      own side after = second := by
  obtain ⟨before, rest, rfl, own, own'⟩ := List.filterMap_eq_append_iff.mp cut
  obtain ⟨skipped, ⟨_, _⟩, after, rfl, none, here, own''⟩ := List.filterMap_eq_cons_iff.mp own'
  simp only [Option.ite_none_right_eq_some, Option.some.injEq] at here
  obtain ⟨rfl, rfl⟩ := here
  refine ⟨before ++ skipped, after, by rw [List.append_assoc], ?_, own''⟩
  rw [own_append, show Readme.own _ skipped = [] from List.filterMap_eq_nil_iff.mpr none,
    List.append_nil]
  exact own

theorem all_append : all (before ++ after) = all before ++ all after := List.map_append

/-! ## Texts written -/

/-- The text of a write that has succeeded. -/
def written? (step : Step) : Option Text :=
  match step with
  | ⟨.write _ text, .ok _, _⟩ => some text
  | _ => none

/-- The text that was written last, or else `text`. -/
def lastWritten (text : Text) (steps : List Step) : Text :=
  steps.foldl (fun text step => (written? step).getD text) text

theorem lastWritten_of_none {text : Text} {steps : List Step}
    (none : ∀ step ∈ steps, written? step = none) : lastWritten text steps = text := by
  induction steps with
  | nil => rfl
  | cons step steps ih =>
    rw [List.forall_mem_cons] at none
    rw [lastWritten, List.foldl_cons, none.1, Option.getD_none]
    exact ih none.2

variable {path staging text : Text} {tree last : FileTree} {content : Content}

/-- One operation that is performed keeps what the staging file holds, unless it writes to it. -/
theorem staged_of_performed (sibling : sibling? path = some staging)
    (ready : Ready tree path staging) (allowed : Allowed path staging step.operation)
    (performed : Performed tree step) (staged : Staged tree staging (.text text)) :
    Staged step.tree staging (.text ((written? step).getD text)) := by
  obtain ⟨operation, reply, changed⟩ := step
  cases allowed with
  | write new =>
    cases performed
    simp only [Operation.perform, FileTree.commit]
    cases written : tree.write staging new with
    | ok changed => exact staged_of_write ready.plain written
    | error error => exact staged
  | read => exact staged_step sibling ready .read (.done performed) (by simp) staged
  | mode => exact staged_step sibling ready .mode (.done performed) (by simp) staged
  | setMode mode =>
    exact staged_step sibling ready (.setMode mode) (.done performed) (by simp) staged
  | rename => exact staged_step sibling ready .rename (.done performed) (by simp) staged
  | remove => exact staged_step sibling ready .remove (.done performed) (by simp) staged

theorem staged_lastWritten {steps : List Step} (sibling : sibling? path = some staging)
    (ready : Ready tree path staging)
    (allowed : ∀ step ∈ steps, Allowed path staging step.operation)
    (trail : Trail Performed tree steps last) (staged : Staged tree staging (.text text)) :
    Staged last staging (.text (lastWritten text steps)) := by
  induction trail generalizing text with
  | nil => exact staged
  | cons performed _ ih =>
    rw [List.forall_mem_cons] at allowed
    exact ih (ready_step sibling ready allowed.1 (.done performed)) allowed.2
      (staged_of_performed sibling ready allowed.1 performed staged)

/-! ## A README that cannot be read -/

variable {markdown : Side → Text} {options : Side → ReadmeOptions}
  {result : Side → Except Failure Update}

/-- A side that has not begun reads first, and stops if it cannot. -/
def Begins (path : Text) (steps : List Step) : Prop :=
  steps = [] ∨ ∃ reply tree rest, steps = ⟨.read path, reply, tree⟩ :: rest ∧
    ∀ error, reply = .error error → rest = []

theorem Course.begins {markdown : Text} {options : ReadmeOptions} {steps : List Step}
    {result : Except Failure Update} (course : Course path markdown options steps result) :
    Begins path steps := by
  cases course with
  | unread => exact .inr ⟨_, _, [], rfl, fun _ _ => rfl⟩
  | unmarked | same | nameless | replaced | failed => exact .inr ⟨_, _, _, rfl, by simp⟩

theorem reads_of_unreadable (unreadable : ∀ text, tree.read path ≠ .ok text)
    (trail : Trail Performed tree (all steps) last)
    (begins : ∀ side, Begins path (own side steps)) :
    ∀ step ∈ all steps, step.operation = .read path := by
  induction steps with
  | nil => simp [all]
  | cons entry steps ih =>
    obtain ⟨side, step⟩ := entry
    obtain ⟨performed, onward⟩ := trail_cons_iff.mp trail
    have own' := begins side
    rw [own_cons_self] at own'
    rcases own' with impossible | ⟨reply, tree', rest, equal, stops⟩
    · cases impossible
    · rw [List.cons.injEq] at equal
      obtain ⟨rfl, ended⟩ := equal
      cases performed
      -- the read has failed, so this side is done, and the other one has made no step
      have ended' : own side steps = [] := by
        rw [ended]
        cases found : tree.read path with
        | ok text => exact absurd found (unreadable text)
        | error error => exact stops error found
      refine List.forall_mem_cons.mpr ⟨rfl, ih onward fun other => ?_⟩
      by_cases equal : side = other
      · subst equal
        exact .inl ended'
      · have others := begins other
        rwa [own_cons_of_ne equal] at others

/-! ## What is moved -/

/-- The step has moved the staging file over the README. -/
def Moves (path : Text) (step : Step) : Prop :=
  ∃ staging, sibling? path = some staging ∧ Installs path staging step

theorem moves_iff (sibling : sibling? path = some staging) :
    Moves path step ↔ Installs path staging step := by
  simp [Moves, sibling]

theorem mem_all_iff : step ∈ all steps ↔ ∃ side, step ∈ own side steps := by
  simp [all, mem_own_iff]

/-- Either nothing but reads is done, or the README and its staging file can be worked on. -/
theorem Race.reads_or_ready (race : Race path markdown options tree steps last result)
    (plain : ∀ staging, sibling? path = some staging → tree.Plain staging) :
    (∀ step ∈ all steps, step.operation = .read path) ∨
    ∃ staging, sibling? path = some staging ∧ Ready tree path staging ∧
      ∀ step ∈ all steps, Allowed path staging step.operation := by
  have course := fun side => course_of_runs (race.runs side)
  cases sibling : sibling? path with
  | none =>
    left
    intro step member
    obtain ⟨side, member⟩ := mem_all_iff.mp member
    exact (course side).reads sibling step member
  | some staging =>
    by_cases readable : ∃ text, tree.read path = .ok text
    · obtain ⟨text, readable⟩ := readable
      refine .inr ⟨staging, rfl, ⟨plain staging sibling, ?_⟩, ?_⟩
      · exact leaf_of_content? (read_eq_ok_iff.mp readable)
      · intro step member
        obtain ⟨side, member⟩ := mem_all_iff.mp member
        exact (course side).allowed sibling step member
    · exact .inl (reads_of_unreadable (fun text found => readable ⟨text, found⟩) race.trail
        fun side => (course side).begins)

theorem stays_of_reads {steps : List Step} (trail : Trail Performed tree steps last)
    (reads : ∀ step ∈ steps, step.operation = .read path) : last = tree := by
  induction trail with
  | nil => rfl
  | cons performed _ ih =>
    rw [List.forall_mem_cons] at reads
    rw [ih reads.2]
    cases performed
    obtain ⟨rfl, _⟩ := reads
    rfl

/-- After some steps from `tree` to `spot` the README holds what was moved last, or what it held if
nothing was moved and it is not the staging file. -/
def Holds (path : Text) (tree spot : FileTree) (steps : List Step) : Prop :=
  ((∀ step ∈ steps, ¬ Moves path step) ∧
    ((∀ staging, sibling? path = some staging → Apart tree path staging) →
      spot.content? path = tree.content? path)) ∨
  ∃ earlier moved later, steps = earlier ++ moved :: later ∧ Moves path moved ∧
    (∀ step ∈ later, ¬ Moves path step) ∧ spot.content? path = moved.tree.content? path

theorem holds_of_trail {steps : List Step} (sibling : sibling? path = some staging)
    (ready : Ready tree path staging)
    (allowed : ∀ step ∈ steps, Allowed path staging step.operation)
    (trail : Trail Performed tree steps last) : Holds path tree last steps := by
  induction trail with
  | nil => exact .inl ⟨by simp, fun _ => rfl⟩
  | @cons tree last step steps performed _ ih =>
    rw [List.forall_mem_cons] at allowed
    have attempt : Attempt tree step := .done performed
    rcases ih (ready_step sibling ready allowed.1 attempt) allowed.2 with
      ⟨still, kept⟩ | ⟨earlier, moved, later, rfl, moves, still, held⟩
    · rcases step_cases sibling ready allowed.1 attempt with
        ⟨here, touched⟩ | ⟨installs, _, _, _, _, _, exchange⟩
      · rw [← moves_iff sibling] at here
        refine .inl ⟨List.forall_mem_cons.mpr ⟨here, still⟩, fun apart => ?_⟩
        have apart' := (apart staging sibling).of_touched touched
        rw [kept (forall_staging sibling apart'), (apart staging sibling).content?_eq touched]
      · -- whatever the README was before, now it is a file beside the staging file
        refine .inr ⟨[], step, steps, rfl, (moves_iff sibling).mpr installs, still, ?_⟩
        exact kept (forall_staging sibling exchange.apart)
    · exact .inr ⟨step :: earlier, moved, later, rfl, moves, still, held⟩

/-! ## The outcome -/

/-- One side's part in a run: it reads `content`, writes `updated`, and after the steps `between`,
in which it does neither again, it moves the staging file, which leaves `moved`. -/
structure Installation (path staging content updated : Text) (side : Side)
    (steps between : List (Side × Step)) (moved : FileTree) : Prop where
  cut : ∃ before after read write,
    steps = before ++ (side, ⟨.write staging updated, .ok (), write⟩) ::
      (between ++ (side, ⟨.rename staging path, .ok (), moved⟩) :: after) ∧
    own side before = [⟨.read path, .ok content, read⟩] ∧ own side after = []
  quiet : ∀ step ∈ own side between, Quiet path staging step

/-- What two updates at once leave. -/
structure Settled (path : Text) (markdown : Side → Text) (options : Side → ReadmeOptions)
    (tree : FileTree) (steps : List (Side × Step)) (result : Side → Except Failure Update) :
    Prop where
  /-- A run that fails, or finds its text in the region, moves nothing. -/
  still : ∀ side, (∀ update, result side = .ok update → update.changed = false) →
    ∀ step ∈ own side steps, ¬ Moves path step
  /-- A run with a change writes its splice once, and later moves once what was written last: its
  own splice, if there is no write in between. -/
  installed : ∀ side update, result side = .ok update → update.changed = true →
    ∃ staging content updated between moved, sibling? path = some staging ∧
      splice content (markdown side) (options side).startMarker (options side).endMarker =
        .ok updated ∧
      Installation path staging content updated side steps between moved ∧
      moved.content? path = some (.text (lastWritten updated (all between))) ∧
      ((∀ step ∈ all between, written? step = none) → moved.content? path = some (.text updated))
  /-- At every moment the README holds what was moved last, or what it held. -/
  held : ∀ before after spot, steps = before ++ after → Trail Performed tree (all before) spot →
    Holds path tree spot (all before)

theorem Race.still (race : Race path markdown options tree steps last result) (side : Side)
    (kept : ∀ update, result side = .ok update → update.changed = false) :
    ∀ step ∈ own side steps, ¬ Moves path step := by
  rintro step member ⟨staging, sibling, installs⟩
  exact (course_of_runs (race.runs side)).still sibling kept step member installs

theorem Race.held (race : Race path markdown options tree steps last result)
    (plain : ∀ staging, sibling? path = some staging → tree.Plain staging) {spot : FileTree}
    (cut : steps = before ++ after) (trail : Trail Performed tree (all before) spot) :
    Holds path tree spot (all before) := by
  have early : ∀ step ∈ all before, step ∈ all steps := by
    intro step member
    rw [cut, all_append]
    exact List.mem_append_left _ member
  rcases race.reads_or_ready plain with reads | ⟨staging, sibling, ready, allowed⟩
  · have reads' := fun step member => reads step (early step member)
    refine .inl ⟨?_, fun _ => by rw [stays_of_reads trail reads']⟩
    rintro _ member ⟨staging, _, tree', rfl⟩
    cases reads' _ member
  · exact holds_of_trail sibling ready (fun step member => allowed step (early step member)) trail

/-- After a write and a move that succeed the README holds what was written last between them. -/
theorem moved_lastWritten {write moved : FileTree} {between rest : List Step}
    (sibling : sibling? path = some staging) (ready : Ready tree path staging)
    (allowed : ∀ step ∈ between, Allowed path staging step.operation)
    (trail : Trail Performed tree (⟨.write staging text, .ok (), write⟩ ::
      (between ++ ⟨.rename staging path, .ok (), moved⟩ :: rest)) last) :
    moved.content? path = some (.text (lastWritten text between)) := by
  obtain ⟨writing, onward⟩ := trail_cons_iff.mp trail
  obtain ⟨spot, trail', ends⟩ := trail_append_iff.mp onward
  obtain ⟨moving, _⟩ := trail_cons_iff.mp ends
  have ready' := ready_step sibling ready (.write text) (.done writing)
  have ready'' := ready_of_trail sibling ready' allowed trail'.attempts
  rcases (Attempt.done writing).write with ⟨_, written⟩ | ⟨⟨_, impossible⟩, _⟩
  · have staged := staged_lastWritten sibling ready' allowed trail'
      (staged_of_write ready.plain written)
    obtain ⟨_, _, _, _, exchange⟩ := exchange_of_rename sibling ready'' (.done moving) staged
    exact exchange.moved.content?_target exchange.own'
  · cases impossible

theorem Race.installed (race : Race path markdown options tree steps last result)
    (plain : ∀ staging, sibling? path = some staging → tree.Plain staging) {update : Update}
    (done : result side = .ok update) (changes : update.changed = true) :
    ∃ staging content updated between moved, sibling? path = some staging ∧
      splice content (markdown side) (options side).startMarker (options side).endMarker =
        .ok updated ∧
      Installation path staging content updated side steps between moved ∧
      moved.content? path = some (.text (lastWritten updated (all between))) := by
  have course := course_of_runs (race.runs side)
  rw [done] at course
  generalize mine : own side steps = steps' at course
  cases course with
  | same => cases changes
  | @replaced content updated staging read rest spliced _ sibling installing =>
    rcases installing.installed with ⟨_, write, quiet, moved, rfl, still⟩ | ⟨⟨_, impossible⟩, _⟩
    · -- the run is cut at the write and at the move of this side
      obtain ⟨before, rest, rfl, reads, mine'⟩ := @own_cut _ _ _ [_] _ mine
      obtain ⟨between, after, rfl, rfl, none⟩ := own_cut mine'
      refine ⟨staging, content, updated, between, moved, sibling, spliced,
        ⟨⟨before, after, read, write, rfl, reads, none⟩, still⟩, ?_⟩
      -- the write was made on a tree that could be worked on, so the trail from there applies
      have trail := race.trail
      have cases := race.reads_or_ready plain
      rw [all_append] at trail cases
      simp only [all, List.map_cons, List.map_append] at trail cases
      rcases cases with reads | ⟨_, sibling', ready, allowed⟩
      · have impossible := reads ⟨.write staging updated, .ok (), write⟩ (by simp)
        cases impossible
      · cases sibling.symm.trans sibling'
        obtain ⟨spot, first, second⟩ := trail_append_iff.mp trail
        have ready' := ready_of_trail sibling ready
          (fun step member => allowed step (List.mem_append_left _ member)) first.attempts
        refine moved_lastWritten sibling ready' (fun step member => allowed step ?_) second
        exact List.mem_append_right _ (List.mem_cons_of_mem _ (List.mem_append_left _ member))
    · cases impossible

/-- Two updates at once: a run that fails has moved nothing, a run that succeeds with a change has
moved the text that was written last, its own if nobody wrote in between, and the README holds what
was moved last. -/
theorem race_settled (race : Race path markdown options tree steps last result)
    (plain : ∀ staging, sibling? path = some staging → tree.Plain staging) :
    Settled path markdown options tree steps result where
  still := race.still
  installed side update done changes := by
    obtain ⟨staging, content, updated, between, moved, sibling, spliced, installation, held⟩ :=
      race.installed plain done changes
    refine ⟨staging, content, updated, between, moved, sibling, spliced, installation, held,
      fun unwritten => ?_⟩
    rw [held, lastWritten_of_none unwritten]
  held _ _ _ cut trail := race.held plain cut trail

/-! ## Schedules -/

/-- The steps of a schedule, which says who does what, in this order. -/
def scheduled (tree : FileTree) : List (Side × Operation) → List (Side × Step)
  | [] => []
  | (side, operation) :: rest =>
    (side, ⟨operation, (operation.perform tree).1, (operation.perform tree).2⟩) ::
      scheduled (operation.perform tree).2 rest

def afterSchedule (tree : FileTree) (schedule : List (Side × Operation)) : FileTree :=
  schedule.foldl (fun tree entry => (entry.2.perform tree).2) tree

theorem trail_scheduled (tree : FileTree) (schedule : List (Side × Operation)) :
    Trail Performed tree (all (scheduled tree schedule)) (afterSchedule tree schedule) := by
  induction schedule generalizing tree with
  | nil => exact .nil
  | cons entry schedule ih => exact .cons (.done entry.2) (ih _)

def sampleMarkdown : Side → Text
  | .left => ['A']
  | .right => ['B']

/-- The right run writes between the write and the move of the left one, and then finds the staging
file gone. -/
def crossed : List (Side × Operation) :=
  let path := "README.md".toList
  [(.left, .read path), (.right, .read path), (.left, .write sampleStaging "<s>A<e>".toList),
    (.right, .write sampleStaging "<s>B<e>".toList), (.left, .mode path),
    (.left, .setMode sampleStaging 0o644), (.left, .rename sampleStaging path),
    (.right, .mode path), (.right, .setMode sampleStaging 0o644), (.right, .remove sampleStaging)]

def crossedResult : Side → Except Failure Update
  | .left => .ok ⟨"README.md".toList, true⟩
  | .right => .error (writeFailure "README.md".toList .missing)

theorem race_crossed : Race "README.md".toList sampleMarkdown (fun _ => sampleOptions) sampleReadme
    (scheduled sampleReadme crossed) (afterSchedule sampleReadme crossed) crossedResult where
  trail := trail_scheduled sampleReadme crossed
  runs
    | .left => .file (.file (.file (.file (.file (.log .done)))))
    | .right => .file (.file (.file (.file (.file .done))))

theorem race_settled_crossed : Settled "README.md".toList sampleMarkdown (fun _ => sampleOptions)
    sampleReadme (scheduled sampleReadme crossed) crossedResult :=
  race_settled race_crossed fun _ sibling => (apart_sample sibling).plain

/-- A README to which its staging file is a link. -/
def linkedReadme : FileTree :=
  sampleReadme.put [sampleStaging] (.link "README.md".toList)

/-- One run after the other. -/
def oneByOne : List (Side × Operation) :=
  let path := "README.md".toList
  [(.left, .read path), (.left, .write sampleStaging "<s>A<e>".toList), (.left, .mode path),
    (.left, .setMode sampleStaging 0o644), (.left, .rename sampleStaging path),
    (.right, .read path)]

def oneByOneResult : Side → Except Failure Update
  | .left => .ok ⟨"README.md".toList, true⟩
  | .right => .error (.reading "README.md".toList .tooManyLinks)

/-- A run that fails can have its text installed, by the other run, which succeeds and has its own
text lost. A link at the name of the staging file is moved as a link, and the README is lost with
it. -/
theorem race_ownText_unsound :
    (Race "README.md".toList sampleMarkdown (fun _ => sampleOptions) sampleReadme
        (scheduled sampleReadme crossed) (afterSchedule sampleReadme crossed) crossedResult ∧
      (∃ failure, crossedResult .right = .error failure) ∧
      (∃ update, crossedResult .left = .ok update ∧ update.changed = true) ∧
      Spliced sampleReadme "README.md".toList ['B'] sampleOptions "<s>B<e>".toList ∧
      (afterSchedule sampleReadme crossed).content? "README.md".toList =
        some (.text "<s>B<e>".toList)) ∧
    Race "README.md".toList sampleMarkdown (fun _ => sampleOptions) linkedReadme
        (scheduled linkedReadme oneByOne) (afterSchedule linkedReadme oneByOne) oneByOneResult ∧
      (∃ update, oneByOneResult .left = .ok update ∧ update.changed = true) ∧
      (afterSchedule linkedReadme oneByOne).content? "README.md".toList = none := by
  refine ⟨⟨race_crossed, ⟨_, rfl⟩, ⟨_, rfl, rfl⟩, ⟨_, rfl, rfl⟩, by decide⟩,
    ⟨?_, ?_⟩, ⟨_, rfl, rfl⟩, by decide⟩
  · exact trail_scheduled linkedReadme oneByOne
  · intro side
    cases side with
    | left => exact .file (.file (.file (.file (.file (.log .done)))))
    | right => exact .file .done

end WorkflowDocs.Readme
