import WorkflowDocs.Proofs.Readme.Course
import WorkflowDocs.Proofs.Readme.Region

/-!
# An update is all or nothing

Any operation of an update may fail, and a write that fails may leave anything in its file. Still
the README is complete at every moment, and a failed update leaves it as it was. This needs two
files: a README that leads to its staging file is written with it, and is lost if the update fails
then, and a staging file that is a link may be what the README is reached through
(`update_atomic_unsound`).

Results:
1. `Course.touched`: an update without a change touches no more than the staging file.
2. `Course.exchange`: one with a change touches no more before its last step, which moves the new
   content over the README.
3. `update_atomic`: what follows for the README, its permissions, the staging file and all others.
-/

namespace WorkflowDocs.Readme

open FileTree

variable {path staging markdown text : Text} {options : ReadmeOptions} {tree last : FileTree}
  {steps : List Step} {result : Except Failure Update}

/-- The place of the staging file. -/
def stagingPlace? (tree : FileTree) (path : Text) : Option Location :=
  (sibling? path).bind tree.place?

theorem stagingPlace?_eq (sibling : sibling? path = some staging) :
    stagingPlace? tree path = tree.place? staging := by
  rw [stagingPlace?, sibling, Option.bind_some]

/-- The README does not lead to its staging file. -/
def Away (tree : FileTree) (path : Text) : Prop :=
  ∀ place, stagingPlace? tree path = some place → tree.goal? path ≠ some place

theorem away_of_apart (apart : ∀ staging, sibling? path = some staging → Apart tree path staging) :
    Away tree path := by
  intro place there
  obtain ⟨staging, sibling, own⟩ := Option.bind_eq_some_iff.mp there
  exact (apart staging sibling).distinct place own

/-- The README with the text put in. -/
def Spliced (tree : FileTree) (path markdown : Text) (options : ReadmeOptions) (updated : Text) :
    Prop :=
  ∃ content, tree.content? path = some (.text content) ∧
    splice content markdown options.startMarker options.endMarker = .ok updated

theorem ready_of_content? {content : Content} (plain : tree.Plain staging)
    (readable : tree.content? path = some content) : Ready tree path staging :=
  ⟨plain, leaf_of_content? readable⟩

/-! ## Without a change -/

theorem touched_of_read {reply : Except FileError Text} {tree' : FileTree}
    (trail : Trail Attempt tree [⟨.read path, reply, tree'⟩] last) (spot : Option Location) :
    Touched tree last spot ∧
      ∀ step ∈ [(⟨.read path, reply, tree'⟩ : Step)], Touched tree step.tree spot := by
  obtain ⟨attempt, onward⟩ := trail_cons_iff.mp trail
  obtain rfl := trail_nil_iff.mp onward
  obtain ⟨rfl, _⟩ := attempt.read
  exact ⟨.refl _ _, by simpa using Touched.refl last spot⟩

theorem Course.touched (course : Course path markdown options steps result)
    (trail : Trail Attempt tree steps last)
    (plain : ∀ staging, sibling? path = some staging → tree.Plain staging)
    (kept : ∀ update, result = .ok update → update.changed = false) :
    Touched tree last (stagingPlace? tree path) ∧
      ∀ step ∈ steps, Touched tree step.tree (stagingPlace? tree path) := by
  have whole := course
  cases course with
  | unread | unmarked | same | nameless => exact touched_of_read trail _
  | replaced => exact absurd (kept _ rfl) (by simp)
  | @failed content updated staging _ _ _ _ _ spliced differ sibling installing =>
    obtain ⟨attempt, _⟩ := trail_cons_iff.mp trail
    have readable := read_eq_ok_iff.mp (attempt.read.2 content rfl)
    rw [stagingPlace?_eq sibling]
    exact touched_of_trail sibling (ready_of_content? (plain staging sibling) readable)
      (whole.allowed sibling) (whole.still sibling kept) trail

/-! ## With a change -/

/-- The staging file gets the permissions that were asked for. -/
theorem Exchange.mode_of_setMode {spot : FileTree} {source target final : Location}
    {content : Content} {mode mode' : Nat} (plain : tree.Plain staging)
    (attempt : Attempt tree ⟨.setMode staging mode, .ok (), spot⟩)
    (exchange : Exchange spot last path staging source target final content mode') :
    mode' = mode := by
  obtain ⟨touched, place, own, kinds⟩ := touched_of_setMode plain attempt.setMode_of_ok
  have own' := exchange.own
  rw [touched.place?_eq, own] at own'
  cases own'
  rcases kinds with ⟨_, _, _, after⟩ | ⟨_, directory⟩
  · cases after.symm.trans exchange.held
    rfl
  · simp [isDirectory, exchange.held] at directory

/-- Before the move the staging file holds the text, and it has the permissions of the README if
these were read. The README finds what it found, or all of the text if it leads to the staging
file. -/
theorem Installing.exchange {content : Content} (sibling : sibling? path = some staging)
    (plain : tree.Plain staging) (readable : tree.content? path = some content)
    (installing : Installing path staging text steps (.ok ()))
    (trail : Trail Attempt tree steps last) :
    ∃ before spot source target final mode,
      steps = before ++ [⟨.rename staging path, .ok (), last⟩] ∧
      (∀ step ∈ before, ¬ Installs path staging step ∧
        (step.tree.content? path = tree.content? path ∨
          step.tree.content? path = some (.text text))) ∧
      Trail Attempt tree before spot ∧
      Exchange spot last path staging source target final (.text text) mode ∧
      ∀ known tree', ⟨.mode path, .ok known, tree'⟩ ∈ steps →
        mode = known ∧ tree.mode path = .ok known := by
  have ready := ready_of_content? plain readable
  cases installing with
  | @unknown error _ tree₁ tree₂ tree₃ =>
    simp only [trail_cons_iff, trail_nil_iff] at trail
    obtain ⟨write, mode, rename, rfl⟩ := trail
    have written := write.write_of_ok
    have ready' := ready_step sibling ready (.write text) write
    obtain ⟨rfl, _⟩ := mode.mode
    obtain ⟨source, target, final, bits, exchange⟩ :=
      exchange_of_rename sibling ready' rename (staged_of_write plain written)
    refine ⟨[_, _], tree₂, source, target, final, bits, rfl, ?_, .cons write (.cons mode .nil),
      exchange, by simp⟩
    simpa [Installs] using content?_of_write written
  | @permitted mode _ tree₁ tree₂ tree₃ tree₄ =>
    simp only [trail_cons_iff, trail_nil_iff] at trail
    obtain ⟨write, mode', setMode, rename, rfl⟩ := trail
    have written := write.write_of_ok
    have ready' := ready_step sibling ready (.write text) write
    obtain ⟨rfl, found⟩ := mode'.mode
    have ready'' := ready_step sibling ready' (.setMode mode) setMode
    have staged := staged_step sibling ready' (.setMode mode) setMode (by simp)
      (staged_of_write plain written)
    obtain ⟨source, target, final, bits, exchange⟩ :=
      exchange_of_rename sibling ready'' rename staged
    refine ⟨[_, _, _], tree₃, source, target, final, bits, rfl, ?_,
      .cons write (.cons mode' (.cons setMode .nil)), exchange, ?_⟩
    · simpa [Installs, content?_of_setMode setMode.setMode_of_ok] using content?_of_write written
    · intro known tree' member
      obtain ⟨rfl, _⟩ : known = mode ∧ tree' = tree₂ := by simpa using member
      exact ⟨exchange.mode_of_setMode ready'.plain setMode,
        mode_of_write written readable (found known rfl)⟩

/-- An update with a change touches the staging file only, and then moves it over the README. -/
theorem Course.exchange {update : Update}
    (course : Course path markdown options steps (.ok update)) (changes : update.changed = true)
    (trail : Trail Attempt tree steps last)
    (plain : ∀ staging, sibling? path = some staging → tree.Plain staging) :
    ∃ staging content updated before spot source target final mode,
      sibling? path = some staging ∧ tree.content? path = some (.text content) ∧
      splice content markdown options.startMarker options.endMarker = .ok updated ∧
      updated ≠ content ∧ steps = before ++ [⟨.rename staging path, .ok (), last⟩] ∧
      Touched tree spot (tree.place? staging) ∧
      (∀ step ∈ before, Touched tree step.tree (tree.place? staging) ∧
        (step.tree.content? path = tree.content? path ∨
          step.tree.content? path = some (.text updated))) ∧
      Exchange spot last path staging source target final (.text updated) mode ∧
      ∀ known tree', ⟨.mode path, .ok known, tree'⟩ ∈ steps →
        mode = known ∧ tree.mode path = .ok known := by
  have whole := course
  cases course with
  | same => cases changes
  | @replaced content updated staging tree' rest spliced differ sibling installing =>
    have allowed := whole.allowed sibling
    obtain ⟨attempt, onward⟩ := trail_cons_iff.mp trail
    obtain ⟨rfl, found⟩ := attempt.read
    have readable := read_eq_ok_iff.mp (found content rfl)
    have ready := ready_of_content? (plain staging sibling) readable
    -- the read leaves the tree as it is, so the rest begins where the update began
    obtain ⟨before, spot, source, target, final, mode, rfl, each, trail', exchange, known⟩ :=
      installing.exchange sibling (plain staging sibling) readable onward
    have early : ∀ step ∈ before, Allowed path staging step.operation := fun step member =>
      allowed step (List.mem_cons_of_mem _ (List.mem_append_left _ member))
    obtain ⟨touched, touches⟩ := touched_of_trail sibling ready early
      (fun step member => (each step member).1) trail'
    refine ⟨staging, content, updated, ⟨.read path, .ok content, tree'⟩ :: before, spot, source,
      target, final, mode, sibling, readable, spliced, differ, rfl, touched, ?_, exchange, ?_⟩
    · refine List.forall_mem_cons.mpr ⟨⟨.refl _ _, .inl rfl⟩, fun step member => ?_⟩
      exact ⟨touches step member, (each step member).2⟩
    · intro mode' tree' member
      rcases List.mem_cons.mp member with equal | member
      · cases equal
      · exact known mode' tree' member

/-- A path to another file than the README and its staging file keeps its content. -/
theorem Exchange.content?_other {spot : FileTree} {source target final : Location} {mode : Nat}
    {other : Text} {content before : Content} (touched : Touched tree spot (tree.place? staging))
    (exchange : Exchange spot last path staging source target final content mode)
    (found : tree.content? other = some before) (notReadme : tree.goal? other ≠ tree.goal? path)
    (notStaging : tree.goal? other ≠ tree.place? staging) : last.content? other = some before := by
  have away : ∀ goal, tree.place? staging = some goal → tree.goal? other ≠ some goal :=
    fun goal there leads => notStaging (leads.trans there.symm)
  have own := exchange.own
  have leads := exchange.leads
  rw [touched.place?_eq] at own
  rw [touched.goal?_eq] at leads
  refine exchange.moved.content?_of_ne exchange.own' exchange.leads ?_ ?_ ?_
  · rw [touched.content?_eq away, found]
  · rwa [touched.goal?_eq, ← leads]
  · rw [touched.goal?_eq]
    exact away source own

/-! ## All or nothing -/

/-- What an update from `tree` to `last` promises, in whichever way its operations are answered. A
README that leads to its staging file may be written with it or lose it, but only if the update
fails. -/
structure Atomic (path markdown : Text) (options : ReadmeOptions) (tree : FileTree)
    (steps : List Step) (last : FileTree) (result : Except Failure Update) : Prop where
  /-- At every moment the README holds what it held or the whole new content. -/
  complete : Away tree path ∨ (∃ update, result = .ok update) →
    ∀ step ∈ steps, step.tree.content? path = tree.content? path ∨
      ∃ updated, Spliced tree path markdown options updated ∧
        step.tree.content? path = some (.text updated)
  failed : Away tree path → ∀ failure, result = .error failure →
    last.content? path = tree.content? path
  spliced : ∀ update, result = .ok update → ∃ updated, Spliced tree path markdown options updated ∧
    last.content? path = some (.text updated)
  /-- The README keeps its permissions if they could be read. -/
  permissions : ∀ update mode tree', result = .ok update → ⟨.mode path, .ok mode, tree'⟩ ∈ steps →
    tree.mode path = .ok mode ∧ last.mode path = .ok mode
  /-- Nothing changes exactly if the region held the text. -/
  changed : ∀ update, result = .ok update → (update.changed = false ↔
    ∃ content, tree.content? path = some (.text content) ∧
      region? content options.startMarker options.endMarker = some markdown)
  idle : ∀ update, result = .ok update → update.changed = false →
    last = tree ∧ ∀ step ∈ steps, step.operation = .read path
  /-- At every moment all stands as it stood but for the README and the staging file. -/
  elsewhere : ∀ step ∈ steps, ∀ place, tree.place? path ≠ some place →
    stagingPlace? tree path ≠ some place → step.tree.entry? place = tree.entry? place
  /-- Paths to other files keep their content. -/
  others : ∀ step ∈ steps, ∀ other content, tree.content? other = some content →
    tree.goal? other ≠ tree.goal? path → tree.goal? other ≠ stagingPlace? tree path →
    step.tree.content? other = some content
  /-- The staging file does not stay, unless it was not touched or could not be removed. -/
  cleared : ∀ staging place, sibling? path = some staging → tree.place? staging = some place →
    last.entry? place = none ∨
    (last = tree ∧ ∀ step ∈ steps, step.operation = .read path) ∨
    ∃ error tree', ⟨.remove staging, .error error, tree'⟩ ∈ steps

section

variable (plain : ∀ staging, sibling? path = some staging → tree.Plain staging)

include plain

/-- A failed update ends with the removal of its staging file. -/
theorem Course.cleared {failure : Failure} {place : Location}
    (course : Course path markdown options steps (.error failure))
    (trail : Trail Attempt tree steps last) (sibling : sibling? path = some staging)
    (own : tree.place? staging = some place) :
    last.entry? place = none ∨
    (last = tree ∧ ∀ step ∈ steps, step.operation = .read path) ∨
    ∃ error tree', ⟨.remove staging, .error error, tree'⟩ ∈ steps := by
  have whole := course
  cases course with
  | unread | unmarked | nameless =>
    obtain ⟨attempt, onward⟩ := trail_cons_iff.mp trail
    obtain rfl := trail_nil_iff.mp onward
    exact .inr (.inl ⟨attempt.read.1, by simp⟩)
  | @failed content updated staging' _ removed _ last' _ spliced differ sibling' installing =>
    cases sibling.symm.trans sibling'
    cases removed with
    | error error => exact .inr (.inr ⟨error, last', by simp⟩)
    | ok =>
      -- the removal is the last step, and before it no more than the staging file was touched
      have still := whole.still sibling (by simp)
      have allowed := whole.allowed sibling
      rw [← List.cons_append] at trail still allowed
      obtain ⟨spot, trail', ends⟩ := trail_append_iff.mp trail
      obtain ⟨attempt, _⟩ := trail_cons_iff.mp trail'
      obtain ⟨remove, onward⟩ := trail_cons_iff.mp ends
      obtain rfl := trail_nil_iff.mp onward
      have readable := read_eq_ok_iff.mp (attempt.read.2 content rfl)
      obtain ⟨touched, _⟩ := touched_of_trail sibling
        (ready_of_content? (plain staging sibling) readable)
        (fun step member => allowed step (List.mem_append_left _ member))
        (fun step member => still step (List.mem_append_left _ member)) trail'
      rcases remove.remove with ⟨_, done⟩ | ⟨⟨_, impossible⟩, _⟩
      · have plain' := touched.plain (plain staging sibling)
        exact .inl ((touched_of_remove plain' done).2 place (touched.place?_eq.trans own))
      · cases impossible

theorem atomic_of_error {failure : Failure}
    (course : Course path markdown options steps (.error failure))
    (trail : Trail Attempt tree steps last) :
    Atomic path markdown options tree steps last (.error failure) := by
  obtain ⟨touched, each⟩ := course.touched trail plain (by simp)
  refine { complete := ?complete, failed := fun away _ _ => touched.content?_eq away,
           spliced := by simp, permissions := by simp, changed := by simp, idle := by simp,
           elsewhere := fun step member place _ elsewhere => (each step member).same place elsewhere,
           others := ?others,
           cleared := fun _ _ sibling own => course.cleared plain trail sibling own }
  case complete =>
    rintro (away | ⟨_, impossible⟩) step member
    · exact .inl ((each step member).content?_eq away)
    · cases impossible
  case others =>
    intro step member other content found _ elsewhere
    rw [(each step member).content?_eq fun goal there leads => elsewhere (leads.trans there.symm),
      found]

end

theorem atomic_of_same {content : Text} {tree' : FileTree}
    (spliced : splice content markdown options.startMarker options.endMarker = .ok content)
    (trail : Trail Attempt tree [⟨.read path, .ok content, tree'⟩] last) :
    Atomic path markdown options tree [⟨.read path, .ok content, tree'⟩] last
      (.ok ⟨path, false⟩) := by
  obtain ⟨attempt, onward⟩ := trail_cons_iff.mp trail
  obtain rfl := trail_nil_iff.mp onward
  obtain ⟨rfl, found⟩ := attempt.read
  have readable := read_eq_ok_iff.mp (found content rfl)
  have same : ∀ step ∈ [(⟨.read path, .ok content, last⟩ : Step)], step.tree = last := by simp
  refine { complete := ?complete, failed := by simp, spliced := ?spliced,
           permissions := ?permissions, changed := ?changed, idle := ?idle,
           elsewhere := ?elsewhere, others := ?others, cleared := ?cleared }
  case complete =>
    intro _ step member
    exact .inl (by rw [same step member])
  case spliced =>
    rintro _ ⟨⟩
    exact ⟨content, ⟨content, readable, spliced⟩, readable⟩
  case permissions =>
    intro update mode tree' _ member
    simp at member
  case changed =>
    rintro _ ⟨⟩
    simp [readable, splice_eq_self_iff.mp spliced]
  case idle =>
    rintro _ ⟨⟩ _
    exact ⟨rfl, by simp⟩
  case elsewhere =>
    intro step member place _ _
    rw [same step member]
  case others =>
    intro step member other content' found _ _
    rw [same step member, found]
  case cleared =>
    intro staging place _ _
    exact .inr (.inl ⟨rfl, by simp⟩)

theorem atomic_of_change {update : Update}
    (plain : ∀ staging, sibling? path = some staging → tree.Plain staging)
    (course : Course path markdown options steps (.ok update)) (changes : update.changed = true)
    (trail : Trail Attempt tree steps last) :
    Atomic path markdown options tree steps last (.ok update) := by
  obtain ⟨staging, content, updated, before, spot, source, target, final, mode, sibling, readable,
    spliced, differ, rfl, touched, each, exchange, known⟩ := course.exchange changes trail plain
  have there : stagingPlace? tree path = tree.place? staging := stagingPlace?_eq sibling
  have installed : last.content? path = some (.text updated) :=
    exchange.moved.content?_target exchange.own'
  have whole : Spliced tree path markdown options updated := ⟨content, readable, spliced⟩
  -- both names had their places from the start
  have own := exchange.own
  have own' := exchange.own'
  rw [touched.place?_eq] at own own'
  refine { complete := ?complete, failed := by simp, spliced := ?spliced,
           permissions := ?permissions, changed := ?changed, idle := ?idle,
           elsewhere := ?elsewhere, others := ?others, cleared := ?cleared }
  case complete =>
    intro _ step member
    rcases List.mem_append.mp member with member | member
    · exact (each step member).2.imp_right fun held => ⟨updated, whole, held⟩
    · obtain rfl := List.mem_singleton.mp member
      exact .inr ⟨updated, whole, installed⟩
  case spliced =>
    rintro _ ⟨⟩
    exact ⟨updated, whole, installed⟩
  case permissions =>
    rintro _ mode' tree' ⟨⟩ member
    obtain ⟨rfl, before⟩ := known mode' tree' member
    exact ⟨before, exchange.moved.mode_target exchange.own'⟩
  case changed =>
    -- had the region held the text, the splice would have been the old content
    rintro _ ⟨⟩
    simp only [changes, Bool.true_eq_false, false_iff, not_exists, not_and]
    intro content' readable' region
    cases readable.symm.trans readable'
    cases spliced.symm.trans (splice_eq_self_iff.mpr region)
    exact differ rfl
  case idle =>
    rintro _ ⟨⟩ unchanged
    simp [changes] at unchanged
  case elsewhere =>
    intro step member place notReadme notStaging
    rw [there] at notStaging
    rcases List.mem_append.mp member with member | member
    · exact (each step member).1.same place notStaging
    · obtain rfl := List.mem_singleton.mp member
      have first : place ≠ source := fun equal => notStaging (equal ▸ own)
      have second : place ≠ target := fun equal => notReadme (equal ▸ own')
      exact (exchange.moved.same place first second).trans (touched.same place notStaging)
  case others =>
    intro step member other content' found notReadme notStaging
    rw [there] at notStaging
    rcases List.mem_append.mp member with member | member
    · rw [(each step member).1.content?_eq, found]
      exact fun goal there leads => notStaging (leads.trans there.symm)
    · obtain rfl := List.mem_singleton.mp member
      exact exchange.content?_other touched found notReadme notStaging
  case cleared =>
    intro staging' place sibling' own''
    cases sibling.symm.trans sibling'
    cases own.symm.trans own''
    exact .inl exchange.moved.gone

/-- An update whose staging file is no link is all or nothing, whichever of its operations fail. If
it fails, this needs a README that does not lead to the staging file. -/
theorem update_atomic (runs : (update path markdown options).Runs steps result)
    (trail : Trail Attempt tree steps last)
    (plain : ∀ staging, sibling? path = some staging → tree.Plain staging) :
    Atomic path markdown options tree steps last result := by
  have course := course_of_runs runs
  cases result with
  | error failure => exact atomic_of_error plain course trail
  | ok update =>
    cases changes : update.changed with
    | true => exact atomic_of_change plain course changes trail
    | false =>
      cases course with
      | same spliced => exact atomic_of_same spliced trail
      | replaced => cases changes

/-- A README with an empty region, and no staging file beside it. -/
def sampleReadme : FileTree :=
  ⟨[(["README.md".toList], .file (.text "<s><e>".toList) 0o644)], []⟩

def sampleOptions : ReadmeOptions := { startMarker := "<s>".toList, endMarker := "<e>".toList }

def sampleStaging : Text := ".README.md.workflowdoc.tmp".toList

theorem sibling?_sample : sibling? "README.md".toList = some sampleStaging := by decide

theorem apart_sample (sibling : sibling? "README.md".toList = some staging) :
    Apart sampleReadme "README.md".toList staging := by
  cases sibling?_sample.symm.trans sibling
  exact @apart_of_place? _ _ _ [sampleStaging] rfl rfl (by decide)

def fullDisk : FileError := .other false "No space left on device (os error 28)".toList

/-- A disk runs full in the middle of the staging file, which is then removed. -/
theorem update_atomic_fullDisk :
    Away sampleReadme "README.md".toList ∧
      Atomic "README.md".toList "A".toList sampleOptions sampleReadme
        [⟨.read "README.md".toList, .ok "<s><e>".toList, sampleReadme⟩,
          ⟨.write sampleStaging "<s>A<e>".toList, .error fullDisk,
            sampleReadme.put [sampleStaging] (.file (.text "<s>".toList) 0o644)⟩,
          ⟨.remove sampleStaging, .ok (), sampleReadme⟩]
        sampleReadme (.error (writeFailure "README.md".toList fullDisk)) := by
  have opened : sampleReadme.openForWriting sampleStaging = .ok ([sampleStaging], none) := rfl
  refine ⟨away_of_apart fun staging sibling => apart_sample sibling, ?_⟩
  refine update_atomic (.file (.file (.file .done))) ?_ fun staging sibling =>
    (apart_sample sibling).plain
  exact .cons (.done (.done (.read _))) (.cons (.broken fullDisk (.text "<s>".toList) opened)
    (.cons (.done (.done (.remove _))) .nil))

/-! ## Two names of one file -/

/-- The README is a link to its staging file. -/
def leadingReadme : FileTree :=
  ⟨[(["README.md".toList], .link sampleStaging),
    ([sampleStaging], .file (.text "<s><e>".toList) 0o644)], []⟩

/-- The README lies behind a link with the name of its staging file, which leads to a directory. -/
def behindReadme : FileTree :=
  ⟨[(["README.md".toList], .link (sampleStaging ++ "/real.md".toList)),
    ([sampleStaging], .link "sub".toList), (["sub".toList], .directory 0o755),
    (["sub".toList, "real.md".toList], .file (.text "<s><e>".toList) 0o644)], []⟩

/-- The disk runs full in the middle of the staging file. -/
def leadingUpdate : List Step :=
  [⟨.read "README.md".toList, .ok "<s><e>".toList, leadingReadme⟩,
    ⟨.write sampleStaging "<s>A<e>".toList, .error fullDisk,
      leadingReadme.put [sampleStaging] (.file (.text "<s>".toList) 0o644)⟩,
    ⟨.remove sampleStaging, .ok (), leadingReadme.erase [sampleStaging]⟩]

theorem trail_leadingUpdate :
    Trail Attempt leadingReadme leadingUpdate (leadingReadme.erase [sampleStaging]) := by
  have opened : leadingReadme.openForWriting sampleStaging =
      .ok ([sampleStaging], some (.text "<s><e>".toList, 0o644)) := rfl
  exact .cons (.done (.done (.read _))) (.cons (.broken fullDisk (.text "<s>".toList) opened)
    (.cons (.done (.done (.remove _))) .nil))

/-- An update that fails does not always leave the README as it was. With a README that leads to its
staging file, which is no link, a broken write shows in the README, and the README is lost. With a
staging file that is a link, though to no file, it may be lost even if nothing breaks. -/
theorem update_atomic_unsound :
    (leadingReadme.Plain sampleStaging ∧ ∃ steps last failure,
      (update "README.md".toList "A".toList sampleOptions).Runs steps (.error failure) ∧
      Trail Attempt leadingReadme steps last ∧
      last.content? "README.md".toList ≠ leadingReadme.content? "README.md".toList ∧
      ∃ step ∈ steps,
        step.tree.content? "README.md".toList ≠ leadingReadme.content? "README.md".toList ∧
        ∀ updated,
          Spliced leadingReadme "README.md".toList "A".toList sampleOptions updated →
          step.tree.content? "README.md".toList ≠ some (.text updated)) ∧
    (behindReadme.content? sampleStaging = none ∧
      (update "README.md".toList "A".toList sampleOptions).run behindReadme =
        (.error (writeFailure "README.md".toList .isDirectory),
          behindReadme.erase [sampleStaging]) ∧
      (behindReadme.erase [sampleStaging]).content? "README.md".toList ≠
        behindReadme.content? "README.md".toList) := by
  constructor
  · refine ⟨?_, leadingUpdate, _, _, .file (.file (.file .done)), trail_leadingUpdate, by decide,
      _, .tail _ (.head _), by decide, ?_⟩
    · rintro place own
      cases (show leadingReadme.place? sampleStaging = some [sampleStaging] from rfl).symm.trans own
      rfl
    · rintro updated ⟨content, readable, spliced⟩
      have held : leadingReadme.content? "README.md".toList = some (.text "<s><e>".toList) := rfl
      cases readable.symm.trans held
      have whole : splice "<s><e>".toList "A".toList sampleOptions.startMarker
          sampleOptions.endMarker = .ok "<s>A<e>".toList := by decide
      cases spliced.symm.trans whole
      decide
  · exact ⟨by decide +kernel, by decide +kernel, by decide +kernel⟩

end WorkflowDocs.Readme
