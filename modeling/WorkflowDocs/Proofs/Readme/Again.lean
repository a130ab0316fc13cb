import WorkflowDocs.Proofs.Readme.Atomic

/-!
# Updating twice

Results:
1. `installed_of_run`: after an update that succeeds the README holds the new content, and all other
   files hold what they held.
2. `unchanged_iff`: an update finds nothing to change exactly if the region holds the text.
3. `update_again_iff`: so it is after an update with the same text exactly if the end marker does
   not occur earlier, in the text.
-/

namespace WorkflowDocs.Readme

open FileTree

variable {path markdown : Text} {options : ReadmeOptions} {tree after : FileTree} {update : Update}

theorem installed_of_run
    (done : (Readme.update path markdown options).run tree = (.ok update, after))
    (plain : ∀ staging, sibling? path = some staging → tree.Plain staging) :
    ∃ updated, Spliced tree path markdown options updated ∧
      after.content? path = some (.text updated) ∧
      ∀ other content, tree.content? other = some content → tree.goal? other ≠ tree.goal? path →
        tree.goal? other ≠ stagingPlace? tree path → after.content? other = some content := by
  obtain ⟨steps, runs, trail⟩ := Script.runs_of_run (Readme.update path markdown options) tree
  rw [done] at runs trail
  have course := course_of_runs runs
  cases changes : update.changed with
  | true =>
    obtain ⟨staging, content, updated, before, spot, source, target, final, mode, sibling, readable,
      spliced, _, _, touched, _, exchange, _⟩ := course.exchange changes trail.attempts plain
    refine ⟨updated, ⟨content, readable, spliced⟩,
      exchange.moved.content?_target exchange.own', ?_⟩
    intro other content' found notReadme notStaging
    rw [stagingPlace?_eq sibling] at notStaging
    exact exchange.content?_other touched found notReadme notStaging
  | false =>
    cases course with
    | @same content tree' spliced =>
      obtain ⟨attempt, onward⟩ := trail_cons_iff.mp trail.attempts
      obtain rfl := trail_nil_iff.mp onward
      obtain ⟨rfl, found⟩ := attempt.read
      have readable := read_eq_ok_iff.mp (found content rfl)
      exact ⟨content, ⟨content, readable, spliced⟩, readable, fun _ _ found _ _ => found⟩
    | replaced => cases changes

/-- An update that finds its text in the region does no more than read. -/
theorem run_update_of_region {content : Text} (readable : tree.content? path = some (.text content))
    (region : region? content options.startMarker options.endMarker = some markdown) :
    (Readme.update path markdown options).run tree = (.ok ⟨path, false⟩, tree) := by
  have spliced := splice_eq_self_iff.mpr region
  have found := read_eq_ok_iff.mpr readable
  unfold Readme.update
  simp only [bind, Script.perform, Script.bind, Script.run, Operation.perform, found, spliced]
  simp [tell, Script.tell, pure, Script.run, Script.bind]

theorem path_of_run (done : ((Readme.update path markdown options).run tree).1 = .ok update) :
    update.path = path := by
  obtain ⟨steps, runs, _⟩ := Script.runs_of_run (Readme.update path markdown options) tree
  rw [done] at runs
  have course := course_of_runs runs
  cases course <;> rfl

theorem unchanged_iff : ((Readme.update path markdown options).run tree).1 = .ok ⟨path, false⟩ ↔
    ∃ content, tree.content? path = some (.text content) ∧
      region? content options.startMarker options.endMarker = some markdown := by
  constructor
  · intro done
    obtain ⟨steps, runs, trail⟩ := Script.runs_of_run (Readme.update path markdown options) tree
    rw [done] at runs
    have course := course_of_runs runs
    cases course with
    | @same content _ spliced =>
      obtain ⟨attempt, _⟩ := trail_cons_iff.mp trail.attempts
      exact ⟨content, read_eq_ok_iff.mp (attempt.read.2 content rfl),
        splice_eq_self_iff.mp spliced⟩
  · rintro ⟨content, readable, region⟩
    rw [run_update_of_region readable region]

/-- The same text is put in again: the README stays exactly if the end marker closes the text. -/
theorem update_again_iff
    (done : (Readme.update path markdown options).run tree = (.ok update, after))
    (plain : ∀ staging, sibling? path = some staging → tree.Plain staging) :
    (((Readme.update path markdown options).run after).1 = .ok ⟨path, false⟩ ↔
      Closed options.endMarker markdown) ∧
    (Closed options.endMarker markdown →
      (Readme.update path markdown options).run after = (.ok ⟨path, false⟩, after)) := by
  obtain ⟨updated, ⟨content, _, spliced⟩, installed, _⟩ := installed_of_run done plain
  have again := (splice_again spliced).2
  constructor
  · rw [unchanged_iff, ← again]
    simp [installed]
  · exact fun closed => run_update_of_region installed (again.mpr closed)

end WorkflowDocs.Readme
