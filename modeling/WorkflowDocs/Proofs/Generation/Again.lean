import WorkflowDocs.Proofs.Generation.Failure
import WorkflowDocs.Proofs.Readme.Again

/-!
# Generating twice

That a second generation into a README always finds it as the first one left it is false
(`generation_again_unsound`): the rendered text may hold the end marker, the workflow may be read
from the staging file, and the staging file may be a link.

Results:
1. `run_sections`, `run_generation`: what a generation without a document of its own does, if no
   operation fails but by the state of the files.
2. `generation_again_iff`: with the workflow and the staging file apart, a second run finds nothing
   to change exactly if the end marker closes the rendered text.
-/

namespace WorkflowDocs.Generation

open FileTree Readme

variable {request : Request} {tree after : FileTree} {outcome : Outcome} {update : Update}

/-! ## Runs without a document -/

/-- The sections of a workflow, given what reading it answers. -/
def sectionsOf (path : Text) (options : RenderOptions) (reply : Except FileError Text) :
    Except Failure Bundle :=
  match reply with
  | .error error => .error (.reading path error)
  | .ok source =>
    match Workflow.Document.parse source with
    | .error failure => .error (failure.addContext "path".toList path)
    | .ok document => .ok (.ofDocument document options)

theorem run_sections (path : Text) (options : RenderOptions) (tree : FileTree) :
    (sections path options).run tree = (sectionsOf path options (tree.read path), tree) := by
  unfold sections Workflow.Document.load sectionsOf
  simp only [bind, Script.perform, Script.bind, Script.run, Operation.perform]
  cases tree.read path with
  | error error => rfl
  | ok source =>
    simp only [pure, Script.bind]
    cases Workflow.Document.parse source with
    | error failure => rfl
    | ok document => rfl

theorem run_updateReadme (asked : request.updateReadme = true) (markdown : Text) (tree : FileTree) :
    (updateReadme request markdown).run tree =
      (some ((Readme.update request.readme.file markdown request.readme).run tree).1,
        ((Readme.update request.readme.file markdown request.readme).run tree).2) := by
  unfold updateReadme
  rw [if_pos asked]
  simp only [bind]
  rw [Script.run_bind]
  cases ((Readme.update request.readme.file markdown request.readme).run tree).1 <;> rfl

theorem run_generation (noDocument : request.outputFile = none) (tree : FileTree) :
    (Generation.run request).run tree =
      match sectionsOf request.workflowFile request.render (tree.read request.workflowFile) with
      | .error failure => (.error failure, tree)
      | .ok bundle =>
        let markdown := bundle.assemble request.render
        let updated := (updateReadme request markdown).run tree
        (.ok ⟨bundle, markdown, updated.1⟩, updated.2) := by
  unfold Generation.run
  simp only [bind]
  rw [Script.run_bind, run_sections]
  cases sectionsOf request.workflowFile request.render (tree.read request.workflowFile) with
  | error failure => rfl
  | ok bundle =>
    simp only [noDocument, pure, Script.bind]
    rw [Script.run_bind]
    rfl

/-- What a run without a document whose update succeeds has done. -/
theorem updated_of_run (noDocument : request.outputFile = none)
    (done : (Generation.run request).run tree = (.ok outcome, after))
    (updated : outcome.readme = some (.ok update)) :
    request.updateReadme = true ∧
      sectionsOf request.workflowFile request.render (tree.read request.workflowFile) =
        .ok outcome.bundle ∧
      outcome.markdown = outcome.bundle.assemble request.render ∧
      (Readme.update request.readme.file outcome.markdown request.readme).run tree =
        (.ok update, after) := by
  rw [run_generation noDocument] at done
  split at done
  · cases done
  next bundle rendered =>
    cases done
    cases asked : request.updateReadme with
    | false => simp [updateReadme, asked, pure, Script.run] at updated
    | true =>
      simp only [run_updateReadme asked, Option.some.injEq] at updated
      refine ⟨rfl, rendered, rfl, ?_⟩
      rw [run_updateReadme asked, ← updated]

theorem source_of_sections {path : Text} {options : RenderOptions} {bundle : Bundle}
    (rendered : sectionsOf path options (tree.read path) = .ok bundle) :
    ∃ source, tree.read path = .ok source := by
  cases found : tree.read path with
  | error error => simp [sectionsOf, found] at rendered
  | ok source => exact ⟨source, rfl⟩

/-! ## The second run -/

/-- Whether the update of a run has changed the README, if it has succeeded. -/
def changed? (result : Except Failure Outcome) : Option Bool :=
  match result with
  | .ok ⟨_, _, some (.ok update)⟩ => some update.changed
  | _ => none

theorem updated_of_changed? {result : Except Failure Outcome} {changes : Bool}
    (answer : changed? result = some changes) :
    ∃ outcome update, result = .ok outcome ∧ outcome.readme = some (.ok update) := by
  unfold changed? at answer
  split at answer
  next bundle markdown update => exact ⟨⟨bundle, markdown, some (.ok update)⟩, update, rfl, rfl⟩
  · cases answer

theorem changed?_eq_some_false {bundle : Bundle} {markdown : Text} (tree : FileTree) :
    changed? (.ok ⟨bundle, markdown,
        some ((Readme.update request.readme.file markdown request.readme).run tree).1⟩) =
      some false ↔
    ((Readme.update request.readme.file markdown request.readme).run tree).1 =
      .ok ⟨request.readme.file, false⟩ := by
  cases done : ((Readme.update request.readme.file markdown request.readme).run tree).1 with
  | error failure => simp [changed?]
  | ok update =>
    obtain ⟨path, changed⟩ := update
    have same : path = request.readme.file := path_of_run done
    simp [changed?, same]

/-- A second run finds the README as the first one left it exactly if the end marker does not occur
in the rendered text, nor where it and the marker behind it meet. -/
theorem generation_again_iff (noDocument : request.outputFile = none)
    (done : (Generation.run request).run tree = (.ok outcome, after))
    (updated : outcome.readme = some (.ok update))
    (plain : ∀ staging, sibling? request.readme.file = some staging → tree.Plain staging)
    (notReadme : tree.goal? request.workflowFile ≠ tree.goal? request.readme.file)
    (notStaging : tree.goal? request.workflowFile ≠ stagingPlace? tree request.readme.file) :
    (changed? ((Generation.run request).run after).1 = some false ↔
      Closed request.readme.endMarker outcome.markdown) ∧
    (Closed request.readme.endMarker outcome.markdown →
      ((Generation.run request).run after).2 = after) := by
  obtain ⟨asked, rendered, markdown, first⟩ := updated_of_run noDocument done updated
  obtain ⟨source, found⟩ := source_of_sections rendered
  obtain ⟨_, _, _, others⟩ := installed_of_run first plain
  -- the first run has left the workflow alone, so the second renders the same text
  have found' : after.read request.workflowFile = .ok source :=
    read_eq_ok_iff.mpr (others _ _ (read_eq_ok_iff.mp found) notReadme notStaging)
  have second : (Generation.run request).run after =
      (.ok ⟨outcome.bundle, outcome.markdown,
        some ((Readme.update request.readme.file outcome.markdown request.readme).run after).1⟩,
        ((Readme.update request.readme.file outcome.markdown request.readme).run after).2) := by
    rw [run_generation noDocument, found', ← found, rendered, markdown]
    simp only [run_updateReadme asked]
  obtain ⟨same, kept⟩ := update_again_iff first plain
  rw [second]
  refine ⟨(changed?_eq_some_false after).trans same, fun closed => ?_⟩
  rw [kept closed]

theorem apart_ownTree {staging : Text} (sibling : sibling? "README.md".toList = some staging) :
    Apart ownTree "README.md".toList staging := by
  cases sibling?_sample.symm.trans sibling
  exact @apart_of_place? _ _ _ [sampleStaging] rfl rfl (by decide)

theorem goal?_ownTree : ownTree.goal? "wf.yml".toList = some ["wf.yml".toList] := rfl

theorem goal?_ownTree_ne : ownTree.goal? "README.md".toList ≠ some ["wf.yml".toList] := by decide

theorem stagingPlace?_ownTree_ne :
    stagingPlace? ownTree "README.md".toList ≠ some ["wf.yml".toList] := by
  rw [stagingPlace?_eq sibling?_sample]
  decide

/-- The text of a blank workflow holds no end marker. -/
theorem generation_again_blank : ∃ outcome after,
    (Generation.run (blankRequest none)).run ownTree = (.ok outcome, after) ∧
      changed? ((Generation.run (blankRequest none)).run after).1 = some false ∧
      ((Generation.run (blankRequest none)).run after).2 = after := by
  have answer : changed? ((Generation.run (blankRequest none)).run ownTree).1 = some true := by
    decide +kernel
  have rendered : sectionsOf "wf.yml".toList {} (ownTree.read "wf.yml".toList) =
      .ok blankBundle := rfl
  cases whole : (Generation.run (blankRequest none)).run ownTree with
  | mk result after =>
    rw [whole] at answer
    obtain ⟨outcome, update, rfl, updated⟩ := updated_of_changed? answer
    obtain ⟨_, rendered', markdown, _⟩ := updated_of_run rfl whole updated
    have closed : Closed "<!--end-->".toList outcome.markdown := by
      rw [markdown, Except.ok.inj (rendered'.symm.trans rendered)]
      decide +kernel
    have again := generation_again_iff rfl whole updated
      (fun _ sibling => (apart_ownTree sibling).plain)
      (fun same => goal?_ownTree_ne (same.symm.trans goal?_ownTree))
      (fun same => stagingPlace?_ownTree_ne (same.symm.trans goal?_ownTree))
    exact ⟨outcome, after, rfl, again.1.mpr closed, again.2 closed⟩

/-- What a first and a second run say, and the README after each. -/
def twice (request : Request) (tree : FileTree) :
    (Option Bool × Option Content) × (Option Bool × Option Content) :=
  let first := (Generation.run request).run tree
  let second := (Generation.run request).run first.2
  ((changed? first.1, first.2.content? request.readme.file),
    (changed? second.1, second.2.content? request.readme.file))

def endingTree : FileTree :=
  ⟨[(["wf.yml".toList], .file (.text "description: \"<!--end-->\"\n".toList) 0o644),
    (["README.md".toList], emptyRegion)], []⟩

def stagedRequest : Request := { blankRequest none with workflowFile := sampleStaging }

def stagedTree : FileTree :=
  ⟨[([sampleStaging], .file (.text []) 0o644), (["README.md".toList], emptyRegion)], []⟩

def linkingTree : FileTree := blankTree
  [([sampleStaging], .link "README.md".toList), (["README.md".toList], emptyRegion)]

/-- A second run changes the README again if the workflow's description holds the end marker, finds
no workflow if that was the staging file, and no README if the staging file was a link to it. -/
theorem generation_again_unsound :
    ((twice (blankRequest none) endingTree).1.1 = some true ∧
      (twice (blankRequest none) endingTree).2.1 = some true ∧
      (twice (blankRequest none) endingTree).2.2 ≠ (twice (blankRequest none) endingTree).1.2) ∧
    ((twice stagedRequest stagedTree).1.1 = some true ∧
      (twice stagedRequest stagedTree).2.1 = none) ∧
    (twice (blankRequest none) linkingTree).1.1 = some true ∧
      (twice (blankRequest none) linkingTree).2.1 = none := by
  refine ⟨?_, ?_, ?_⟩ <;> decide +kernel

end WorkflowDocs.Generation
