import WorkflowDocs.Generation
import WorkflowDocs.Proofs.Readme.Atomic

/-!
# A failed generation and the README

A generation reads the workflow, may write the document to a file, and may update a README. Any of
its operations may fail.

That a generation that fails, or whose update fails, always leaves the README as it was is false
(`readme_kept_unsound`): the document may be written to the README itself, and the staging file of
the update may be a link or what the README leads to.

Results:
1. `generating_of_runs`: the steps of a generation, case by case.
2. `readme_kept_of_failure`: with the README, its staging file and the document in different files
   the README is kept.
-/

namespace WorkflowDocs.Generation

open FileTree Readme

variable {request : Request} {path markdown : Text} {steps : List Step}

/-! ## The course of a generation -/

theorem runs_sections {options : RenderOptions} {result : Except Failure Bundle}
    (runs : (sections path options).Runs steps result) :
    ∃ reply tree, steps = [⟨.read path, reply, tree⟩] := by
  obtain ⟨first, second, loaded, rfl, loading, onward⟩ := Script.runs_bind_iff.mp runs
  obtain ⟨reply, tree, rest, rfl, parsing⟩ := Script.runs_perform_iff.mp loading
  have none : rest = [] := by
    cases reply with
    | error error => exact (Script.runs_pure_iff.mp parsing).1
    | ok source => exact (Script.runs_pure_iff.mp parsing).1
  have none' : second = [] := by
    cases loaded with
    | error failure => exact (Script.runs_pure_iff.mp onward).1
    | ok document =>
      have told := Script.runs_tell_iff.mp onward
      exact (Script.runs_pure_iff.mp told).1
  exact ⟨reply, tree, by rw [none, none', List.append_nil]⟩

theorem runs_writeOutput {options : RenderOptions} {result : Except Failure Unit}
    (runs : (writeOutput path markdown options).Runs steps result) :
    ∃ reply tree, steps = [⟨.write path (fileText markdown options), reply, tree⟩] ∧
      ((∃ failure, result = .error failure) ∨ result = .ok ()) := by
  obtain ⟨reply, tree, rest, rfl, onward⟩ := Script.runs_perform_iff.mp runs
  cases reply with
  | error error =>
    obtain ⟨rfl, rfl⟩ := Script.runs_pure_iff.mp onward
    exact ⟨.error error, tree, rfl, .inl ⟨_, rfl⟩⟩
  | ok =>
    have told := Script.runs_tell_iff.mp onward
    obtain ⟨rfl, rfl⟩ := Script.runs_pure_iff.mp told
    exact ⟨.ok (), tree, rfl, .inr rfl⟩

theorem runs_updateReadme {result : Option (Except Failure Update)}
    (runs : (updateReadme request markdown).Runs steps result) :
    (result = none ∧ steps = []) ∨ ∃ updated, result = some updated ∧
      (Readme.update request.readme.file markdown request.readme).Runs steps updated := by
  unfold updateReadme at runs
  split at runs
  · obtain ⟨first, second, updated, rfl, updating, onward⟩ := Script.runs_bind_iff.mp runs
    cases updated with
    | error failure =>
      have told := Script.runs_tell_iff.mp onward
      obtain ⟨rfl, rfl⟩ := Script.runs_pure_iff.mp told
      exact .inr ⟨_, rfl, by rwa [List.append_nil]⟩
    | ok update =>
      obtain ⟨rfl, rfl⟩ := Script.runs_pure_iff.mp onward
      exact .inr ⟨_, rfl, by rwa [List.append_nil]⟩
  · obtain ⟨rfl, rfl⟩ := Script.runs_pure_iff.mp runs
    exact .inl ⟨rfl, rfl⟩

/-- The steps of a generation and its result. The document is written before the README is
touched. -/
inductive Generating (request : Request) : List Step → Except Failure Outcome → Prop
  | unread {reply : Except FileError Text} {failure : Failure} {tree : FileTree} :
      Generating request [⟨.read request.workflowFile, reply, tree⟩] (.error failure)
  | unwritten {output text : Text} {found : Except FileError Text}
      {reply : Except FileError Unit} {failure : Failure} {tree tree' : FileTree} :
      request.outputFile = some output →
      Generating request
        [⟨.read request.workflowFile, found, tree⟩, ⟨.write output text, reply, tree'⟩]
        (.error failure)
  | finished {found : Except FileError Text} {tree : FileTree} {written updating : List Step}
      {bundle : Bundle} {markdown : Text} {readme : Option (Except Failure Update)} :
      (written = [] ∨ ∃ output text reply tree', request.outputFile = some output ∧
        written = [⟨.write output text, reply, tree'⟩]) →
      (updateReadme request markdown).Runs updating readme →
      Generating request (⟨.read request.workflowFile, found, tree⟩ :: (written ++ updating))
        (.ok ⟨bundle, markdown, readme⟩)

theorem generating_of_runs {result : Except Failure Outcome}
    (runs : (Generation.run request).Runs steps result) : Generating request steps result := by
  obtain ⟨first, second, extracted, rfl, extracting, onward⟩ := Script.runs_bind_iff.mp runs
  obtain ⟨reply, tree, rfl⟩ := runs_sections extracting
  cases extracted with
  | error failure =>
    obtain ⟨rfl, rfl⟩ := Script.runs_pure_iff.mp onward
    exact .unread
  | ok bundle =>
    simp only at onward
    split at onward
    next output asked =>
      obtain ⟨writing, rest, written, rfl, writes, onward'⟩ := Script.runs_bind_iff.mp onward
      obtain ⟨reply', tree', rfl, ⟨failure, rfl⟩ | rfl⟩ := runs_writeOutput writes
      · obtain ⟨rfl, rfl⟩ := Script.runs_pure_iff.mp onward'
        exact .unwritten asked
      · obtain ⟨updating, last, readme, rfl, updates, ends⟩ := Script.runs_bind_iff.mp onward'
        obtain ⟨rfl, rfl⟩ := Script.runs_pure_iff.mp ends
        rw [List.append_nil]
        refine @Generating.finished _ _ _ [_] updating bundle _ readme (.inr ?_) updates
        exact ⟨output, _, reply', tree', asked, rfl⟩
    next =>
      obtain ⟨writing, rest, written, rfl, idle, onward'⟩ := Script.runs_bind_iff.mp onward
      obtain ⟨rfl, rfl⟩ := Script.runs_pure_iff.mp idle
      obtain ⟨updating, last, readme, rfl, updates, ends⟩ := Script.runs_bind_iff.mp onward'
      obtain ⟨rfl, rfl⟩ := Script.runs_pure_iff.mp ends
      rw [List.append_nil]
      exact @Generating.finished _ _ _ [] updating bundle _ readme (.inl rfl) updates

/-! ## The README after a failure -/

/-- The generation has failed, or its update has. -/
def failed : Except Failure Outcome → Bool
  | .error _ => true
  | .ok outcome =>
    match outcome.readme with
    | some (.error _) => true
    | _ => false

variable {tree last : FileTree}

/-- The document changes the tree where its path leads. -/
theorem touched_of_document {output text : Text} {reply : Except FileError Unit}
    {changed : FileTree} (attempt : Attempt tree ⟨.write output text, reply, changed⟩) :
    Touched tree changed (tree.goal? output) := by
  rcases attempt.write with ⟨rfl, written⟩ | ⟨_, rfl | ⟨place, file, left, mode, opened, rfl⟩⟩
  · obtain ⟨place, file, opened, rfl⟩ := write_eq_ok written
    obtain ⟨leads, _, touched⟩ := touched_of_opened opened (.text text)
      ((file.map (·.2)).getD fileMode)
    rwa [leads]
  · exact .refl _ _
  · obtain ⟨leads, _, touched⟩ := touched_of_opened opened left mode
    rwa [leads]

theorem touched_of_writes {written : List Step}
    (elsewhere : ∀ output goal, request.outputFile = some output →
      tree.goal? output = some goal → tree.goal? request.readme.file ≠ some goal)
    (writes : written = [] ∨ ∃ output text reply tree', request.outputFile = some output ∧
      written = [⟨.write output text, reply, tree'⟩])
    (trail : Trail Attempt tree written last) :
    ∃ spot, Touched tree last spot ∧
      ∀ goal, spot = some goal → tree.goal? request.readme.file ≠ some goal := by
  obtain rfl | ⟨output, text, reply, tree', asked, rfl⟩ := writes
  · obtain rfl := trail_nil_iff.mp trail
    exact ⟨none, .refl _ _, by simp⟩
  · obtain ⟨attempt, onward⟩ := trail_cons_iff.mp trail
    obtain rfl := trail_nil_iff.mp onward
    exact ⟨tree.goal? output, touched_of_document attempt, fun goal => elsewhere output goal asked⟩

/-- A generation that fails, or whose update fails, leaves the README as it was, if the document is
not written to it and it and its staging file are two files. -/
theorem readme_kept_of_failure {result : Except Failure Outcome}
    (runs : (Generation.run request).Runs steps result) (trail : Trail Attempt tree steps last)
    (failure : failed result = true)
    (elsewhere : ∀ output goal, request.outputFile = some output →
      tree.goal? output = some goal → tree.goal? request.readme.file ≠ some goal)
    (apart : ∀ staging, sibling? request.readme.file = some staging →
      Apart tree request.readme.file staging) :
    last.content? request.readme.file = tree.content? request.readme.file := by
  have generating := generating_of_runs runs
  cases generating with
  | unread =>
    obtain ⟨attempt, onward⟩ := trail_cons_iff.mp trail
    obtain rfl := trail_nil_iff.mp onward
    rw [attempt.read.1]
  | @unwritten output text found reply _ _ _ asked =>
    obtain ⟨attempt, onward⟩ := trail_cons_iff.mp trail
    obtain ⟨attempt', onward'⟩ := trail_cons_iff.mp onward
    obtain rfl := trail_nil_iff.mp onward'
    obtain ⟨rfl, _⟩ := attempt.read
    exact (touched_of_document attempt').content?_eq fun goal => elsewhere output goal asked
  | @finished _ start _ _ _ markdown readme writes updates =>
    obtain ⟨attempt, onward⟩ := trail_cons_iff.mp trail
    obtain ⟨rfl, _⟩ := attempt.read
    obtain ⟨middle, writing, updating⟩ := trail_append_iff.mp onward
    obtain ⟨spot, touched, away⟩ := touched_of_writes elsewhere writes writing
    obtain ⟨rfl, _⟩ | ⟨updated, rfl, updates'⟩ := runs_updateReadme updates
    · cases failure
    · cases updated with
      | ok update => cases failure
      | error problem =>
        -- the document has touched another file, so the update finds both files still apart
        have apart' : ∀ staging, sibling? request.readme.file = some staging →
            Apart middle request.readme.file staging :=
          fun staging sibling => (apart staging sibling).of_touched touched
        have kept := (atomic_of_error (fun staging sibling => (apart' staging sibling).plain)
          (course_of_runs updates') updating).failed (away_of_apart apart') problem rfl
        rw [kept, touched.content?_eq away]

/-! ## Runs on a blank workflow -/

def blankRequest (output : Option Text) : Request where
  workflowFile := "wf.yml".toList
  outputFile := output
  updateReadme := true
  readme := {}
  render := {}

def blankBundle : Bundle := .ofDocument (.ofValue .null []) {}

/-- A blank workflow and other entries. -/
def blankTree (entries : List (Location × Entry)) : FileTree :=
  ⟨(["wf.yml".toList], .file (.text []) 0o644) :: entries, []⟩

def emptyRegion : Entry := .file (.text "<!--start--><!--end-->".toList) 0o644

def ownTree : FileTree := blankTree [(["README.md".toList], emptyRegion)]

/-- The README lies behind a link with the name of its staging file, which leads to a directory. -/
def behindTree : FileTree := blankTree
  [(["README.md".toList], .link (sampleStaging ++ "/real.md".toList)),
    ([sampleStaging], .link "sub".toList), (["sub".toList], .directory 0o755),
    (["sub".toList, "real.md".toList], emptyRegion)]

/-- The README is a link to its staging file. -/
def leadingTree : FileTree := blankTree
  [(["README.md".toList], .link sampleStaging), ([sampleStaging], emptyRegion)]

/-- The disk runs full in the middle of the staging file. -/
def leadingSteps : List Step :=
  [⟨.read "wf.yml".toList, .ok [], leadingTree⟩,
    ⟨.read "README.md".toList, .ok "<!--start--><!--end-->".toList, leadingTree⟩,
    ⟨.write sampleStaging ("<!--start-->".toList ++ blankBundle.assemble {} ++ "<!--end-->".toList),
      .error fullDisk, leadingTree.put [sampleStaging] (.file (.text []) 0o644)⟩,
    ⟨.remove sampleStaging, .ok (), leadingTree.erase [sampleStaging]⟩]

def leadingResult : Except Failure Outcome :=
  .ok ⟨blankBundle, blankBundle.assemble {},
    some (.error (writeFailure "README.md".toList fullDisk))⟩

set_option maxRecDepth 10000 in
theorem runs_leading :
    (Generation.run (blankRequest none)).Runs leadingSteps leadingResult :=
  .file (.log (.file (.file (.file (.log .done)))))

theorem trail_leading :
    Trail Attempt leadingTree leadingSteps (leadingTree.erase [sampleStaging]) := by
  have opened : leadingTree.openForWriting sampleStaging =
      .ok ([sampleStaging], some (.text "<!--start--><!--end-->".toList, 0o644)) := rfl
  exact .cons (.done (.done (.read _))) (.cons (.done (.done (.read _)))
    (.cons (.broken fullDisk (.text []) opened) (.cons (.done (.done (.remove _))) .nil)))

/-- The README is lost if the document is written to it, if its staging file is a link on the way to
it, or if it leads to its staging file. -/
theorem readme_kept_unsound :
    (failed ((Generation.run (blankRequest (some "README.md".toList))).run ownTree).1 = true ∧
      ((Generation.run (blankRequest (some "README.md".toList))).run ownTree).2.content?
        "README.md".toList ≠ ownTree.content? "README.md".toList) ∧
    (failed ((Generation.run (blankRequest none)).run behindTree).1 = true ∧
      ((Generation.run (blankRequest none)).run behindTree).2.content? "README.md".toList ≠
        behindTree.content? "README.md".toList) ∧
    ∃ steps last result, (Generation.run (blankRequest none)).Runs steps result ∧
      Trail Attempt leadingTree steps last ∧ failed result = true ∧
      last.content? "README.md".toList ≠ leadingTree.content? "README.md".toList := by
  refine ⟨by decide +kernel, by decide +kernel, ?_⟩
  exact ⟨leadingSteps, _, leadingResult, runs_leading, trail_leading, rfl, by decide⟩

/-- A README without markers, and a document of its own. -/
def unmarkedTree : FileTree := blankTree [(["README.md".toList], .file (.text ['x']) 0o644)]

theorem readme_kept_of_failure_unmarked :
    ((Generation.run (blankRequest (some "out.md".toList))).run unmarkedTree).2.content?
      "README.md".toList = unmarkedTree.content? "README.md".toList := by
  obtain ⟨steps, runs, trail⟩ :=
    Script.runs_of_run (Generation.run (blankRequest (some "out.md".toList))) unmarkedTree
  refine readme_kept_of_failure runs trail.attempts (by decide +kernel) ?_ ?_
  · rintro output goal ⟨⟩ leads
    have there : unmarkedTree.goal? "out.md".toList = some ["out.md".toList] := rfl
    cases there.symm.trans leads
    exact show unmarkedTree.goal? "README.md".toList ≠ some ["out.md".toList] by decide
  · intro staging sibling
    cases sibling?_sample.symm.trans sibling
    exact @apart_of_place? _ _ _ [sampleStaging] rfl rfl (by decide)

end WorkflowDocs.Generation
