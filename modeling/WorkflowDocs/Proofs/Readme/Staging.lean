import WorkflowDocs.Proofs.Files.Change
import WorkflowDocs.Proofs.Path
import WorkflowDocs.Proofs.Trail
import WorkflowDocs.Readme.Update

/-!
# The staging file

An update works on two files, the README and a staging file beside it. Here is what its operations
can do to a tree, whoever asks for them, in which order, and whichever of them fail.

Results:
1. `place_ne`: the staging file has another place than the README.
2. `step_cases`: an operation touches the staging file or moves it over the README.
3. `staged_of_write`, `staged_step`: the staging file keeps what was written to it last.
4. `touched_of_trail`: without a move no more than the staging file is touched.
-/

namespace WorkflowDocs.Readme

open FileTree

/-- The staging file beside a README, if the path ends with a name. -/
def sibling? (path : Text) : Option Text := (Path.fileName? path).map (stagingPath path)

/-- A tree that an update can work on: the name of the staging file is no link, and the README leads
to a place for a file. -/
structure Ready (tree : FileTree) (path staging : Text) : Prop where
  plain : tree.Plain staging
  leaf : ∃ final, tree.Leaf path final

/-- The README and its staging file are two files: the name of the staging file is no link, and the
README does not lead to it. -/
structure Apart (tree : FileTree) (path staging : Text) : Prop where
  plain : tree.Plain staging
  distinct : ∀ place, tree.place? staging = some place → tree.goal? path ≠ some place

/-- The staging file, with this content, has been moved over the README. -/
structure Exchange (tree changed : FileTree) (path staging : Text) (source target final : Location)
    (content : Content) (mode : Nat) : Prop where
  own : tree.place? staging = some source
  own' : tree.place? path = some target
  differ : source ≠ target
  leads : tree.goal? path = some final
  held : tree.entry? source = some (.file content mode)
  moved : Moved tree changed source target final content mode

variable {path staging : Text} {tree changed last : FileTree} {source target final : Location}
  {step : Step} {steps : List Step} {content : Content} {mode : Nat}

/-- There is one staging file. -/
theorem forall_staging {property : Text → Prop} (sibling : sibling? path = some staging)
    (holds : property staging) (other : Text) (sibling' : sibling? path = some other) :
    property other := by
  cases sibling.symm.trans sibling'
  exact holds

theorem apart_of_place? {place : Location} (own : tree.place? staging = some place)
    (plain : tree.isLink place = false) (distinct : tree.goal? path ≠ some place) :
    Apart tree path staging where
  plain place' own' := by
    cases own.symm.trans own'
    exact plain
  distinct place' own' := by
    cases own.symm.trans own'
    exact distinct

/-! ## Two names -/

theorem named_of_meaningless {name : Text} (kept : Path.meaningless name = false)
    (notUp : name ≠ ['.', '.']) : Named name := by
  refine ⟨?_, notUp⟩
  rintro (rfl | rfl) <;> cases kept

theorem named_of_length {name : Text} (long : 2 < name.length) : Named name := by
  refine ⟨?_, ?_⟩
  · rintro (rfl | rfl) <;> simp at long
  · rintro rfl
    simp at long

/-- The place of a file has the last name of the path. -/
theorem getLast?_place {name : Text} (named : Path.fileName? path = some name)
    (own : tree.place? path = some target) (flat : tree.isDirectory target = false) :
    target.getLast? = some name := by
  obtain ⟨kept, notUp, before, idle, cut, rest⟩ := Path.fileName?_eq_some named
  obtain ⟨_, leads⟩ := place?_eq_some_iff.mp own
  rw [cut] at leads
  -- a piece behind the name would make the place a directory
  rcases List.eq_nil_or_concat idle with rfl | ⟨others, piece, rfl⟩
  · exact leads.lastName List.getLast?_concat (named_of_meaningless kept notUp)
  · have idle : Idle piece := by
      simpa [Path.meaningless, Idle] using rest piece (by simp)
    have last : (before ++ name :: others.concat piece).getLast? = some piece := by
      rw [List.concat_eq_append, ← List.cons_append, ← List.append_assoc, List.getLast?_concat]
    simp [leads.directory_of_idle last idle] at flat

theorem place_ne (sibling : sibling? path = some staging) (own : tree.place? staging = some source)
    (own' : tree.place? path = some target) (flat : tree.isDirectory target = false) :
    source ≠ target := by
  obtain ⟨name, named, rfl⟩ := Option.map_eq_some_iff.mp sibling
  obtain ⟨_, _, before, idle, cut, _⟩ := Path.fileName?_eq_some named
  have single : '/' ∉ name := Text.not_mem_of_mem_split (show name ∈ Path.pieces path by simp [cut])
  have flatName : '/' ∉ '.' :: (name ++ ".workflowdoc.tmp".toList) := by simp [single]
  have long : 2 < ('.' :: (name ++ ".workflowdoc.tmp".toList)).length := by simp
  obtain ⟨_, leads⟩ := place?_eq_some_iff.mp own
  -- both places end with the names of their paths, and these have different lengths
  have first := leads.lastName (Path.getLast?_pieces_withFileName flatName) (named_of_length long)
  have second := getLast?_place named own' flat
  rintro rfl
  rw [first, Option.some.injEq] at second
  have same := congrArg List.length second
  simp at same
  omega

/-! ## One operation -/

/-- The operations of an update. -/
inductive Allowed (path staging : Text) : Operation → Prop
  | read : Allowed path staging (.read path)
  | write (text : Text) : Allowed path staging (.write staging text)
  | mode : Allowed path staging (.mode path)
  | setMode (permissions : Nat) : Allowed path staging (.setMode staging permissions)
  | rename : Allowed path staging (.rename staging path)
  | remove : Allowed path staging (.remove staging)

/-- The step has moved the staging file over the README. -/
def Installs (path staging : Text) (step : Step) : Prop :=
  ∃ tree, step = ⟨.rename staging path, .ok (), tree⟩

theorem not_installs (other : step.operation ≠ .rename staging path) :
    ¬ Installs path staging step := by
  rintro ⟨_, rfl⟩
  exact other rfl

theorem not_installs_of_error {error : FileError} :
    ¬ Installs path staging ⟨.rename staging path, .error error, tree⟩ := by
  rintro ⟨_, equal⟩
  cases equal

/-- The staging file, if there is one, is a file with this content. -/
def Staged (tree : FileTree) (staging : Text) (content : Content) : Prop :=
  ∀ place entry, tree.place? staging = some place → tree.entry? place = some entry →
    ∃ mode, entry = .file content mode

theorem Staged.flat (staged : Staged tree staging content)
    (own : tree.place? staging = some source) : tree.isDirectory source = false := by
  cases here : tree.entry? source with
  | none => simp [isDirectory, here]
  | some entry =>
    obtain ⟨mode, rfl⟩ := staged source entry own here
    simp [isDirectory, here]

/-- An update's operation touches no more than the staging file, or moves it over the README. -/
theorem step_cases (sibling : sibling? path = some staging) (ready : Ready tree path staging)
    (allowed : Allowed path staging step.operation) (attempt : Attempt tree step) :
    (¬ Installs path staging step ∧ Touched tree step.tree (tree.place? staging)) ∨
    Installs path staging step ∧ ∃ source target final content mode,
      Exchange tree step.tree path staging source target final content mode := by
  obtain ⟨plain, final, leaf⟩ := ready
  obtain ⟨operation, reply, changed⟩ := step
  cases allowed with
  | read =>
    refine .inl ⟨not_installs (by simp), ?_⟩
    rw [attempt.read.1]
    exact .refl tree _
  | mode =>
    refine .inl ⟨not_installs (by simp), ?_⟩
    rw [attempt.mode.1]
    exact .refl tree _
  | write text =>
    refine .inl ⟨not_installs (by simp), ?_⟩
    rcases attempt.write with ⟨rfl, written⟩ | ⟨_, rfl | ⟨place, file, left, mode, opened, rfl⟩⟩
    · obtain ⟨place, file, opened, rfl⟩ := write_eq_ok written
      exact (touched_of_write plain opened _ _).2.2
    · exact .refl _ _
    · exact (touched_of_write plain opened left mode).2.2
  | setMode permissions =>
    refine .inl ⟨not_installs (by simp), ?_⟩
    rcases attempt.setMode with ⟨rfl, done⟩ | ⟨_, rfl⟩
    · exact (touched_of_setMode plain done).1
    · exact .refl _ _
  | remove =>
    refine .inl ⟨not_installs (by simp), ?_⟩
    rcases attempt.remove with ⟨rfl, removed⟩ | ⟨_, rfl⟩
    · exact (touched_of_remove plain removed).1
    · exact .refl _ _
  | rename =>
    rcases attempt.rename with ⟨rfl, moved⟩ | ⟨⟨error, rfl⟩, rfl⟩
    · obtain ⟨source, target, entry, own, own', here, flat, flat', _⟩ := rename_eq_ok moved
      have noLink := plain source own
      cases entry with
      | file content mode =>
        have differ := place_ne sibling own own' flat'
        exact .inr ⟨⟨changed, rfl⟩, source, target, final, content, mode, own, own', differ,
          leaf.leads, here, moved_of_rename moved own here own' differ leaf⟩
      | directory => simp [isDirectory, here] at flat
      | link => simp [isLink, here] at noLink
    · exact .inl ⟨not_installs_of_error, .refl _ _⟩

/-! ## What stays -/

theorem Ready.of_touched (ready : Ready tree path staging)
    (touched : Touched tree changed (tree.place? staging)) : Ready changed path staging where
  plain := touched.plain ready.plain
  leaf := ready.leaf.imp fun _ leaf => touched.leaf leaf

theorem Exchange.ready
    (exchange : Exchange tree changed path staging source target final content mode) :
    Ready changed path staging where
  plain place own := by
    rw [exchange.moved.place?_eq exchange.own] at own
    cases own
    simp [isLink, exchange.moved.gone]
  leaf := ⟨target, exchange.moved.leaf_target exchange.own'⟩

theorem ready_step (sibling : sibling? path = some staging) (ready : Ready tree path staging)
    (allowed : Allowed path staging step.operation) (attempt : Attempt tree step) :
    Ready step.tree path staging := by
  rcases step_cases sibling ready allowed attempt with ⟨_, touched⟩ | ⟨_, _, _, _, _, _, exchange⟩
  · exact ready.of_touched touched
  · exact exchange.ready

theorem Apart.of_touched {spot : Option Location} (apart : Apart tree path staging)
    (touched : Touched tree changed spot) : Apart changed path staging where
  plain := touched.plain apart.plain
  distinct place own := by
    rw [touched.place?_eq] at own
    rw [touched.goal?_eq]
    exact apart.distinct place own

/-- The README keeps its content while the staging file is touched. -/
theorem Apart.content?_eq (apart : Apart tree path staging)
    (touched : Touched tree changed (tree.place? staging)) :
    changed.content? path = tree.content? path :=
  touched.content?_eq apart.distinct

theorem Exchange.apart
    (exchange : Exchange tree changed path staging source target final content mode) :
    Apart changed path staging where
  plain := exchange.ready.plain
  distinct place own := by
    rw [exchange.moved.place?_eq exchange.own] at own
    cases own
    rw [exchange.moved.goal?_target exchange.own']
    simp [exchange.differ.symm]

/-! ## What the staging file holds -/

/-- After a write the staging file holds the text. -/
theorem staged_of_write {text : Text} (plain : tree.Plain staging)
    (written : tree.write staging text = .ok changed) : Staged changed staging (.text text) := by
  obtain ⟨place, file, opened, rfl⟩ := write_eq_ok written
  obtain ⟨own, inner, touched⟩ := touched_of_write plain opened (.text text)
    ((file.map (·.2)).getD fileMode)
  intro place' entry own' here
  rw [touched.place?_eq, own] at own'
  cases own'
  rw [ entry?_put_self inner] at here
  cases here
  exact ⟨_, rfl⟩

/-- No operation but a write changes what the staging file holds. -/
theorem staged_step (sibling : sibling? path = some staging) (ready : Ready tree path staging)
    (allowed : Allowed path staging step.operation) (attempt : Attempt tree step)
    (notWrite : ∀ text, step.operation ≠ .write staging text)
    (staged : Staged tree staging content) : Staged step.tree staging content := by
  rcases step_cases sibling ready allowed attempt with
    ⟨still, touched⟩ | ⟨_, _, _, _, _, _, exchange⟩
  · obtain ⟨plain, _⟩ := ready
    obtain ⟨operation, reply, changed⟩ := step
    intro place entry own here
    rw [touched.place?_eq] at own
    cases allowed with
    | read =>
      rw [attempt.read.1] at here
      exact staged place entry own here
    | mode =>
      rw [attempt.mode.1] at here
      exact staged place entry own here
    | write text => exact absurd rfl (notWrite text)
    | setMode permissions =>
      rcases attempt.setMode with ⟨rfl, done⟩ | ⟨_, rfl⟩
      · obtain ⟨_, goal, own', kinds⟩ := touched_of_setMode plain done
        cases own.symm.trans own'
        rcases kinds with ⟨_, _, before, after⟩ | ⟨directory, _⟩
        · obtain ⟨_, equal⟩ := staged place _ own before
          cases equal
          cases here.symm.trans after
          exact ⟨permissions, rfl⟩
        · exact absurd directory (by simp [staged.flat own])
      · exact staged place entry own here
    | remove =>
      rcases attempt.remove with ⟨rfl, removed⟩ | ⟨_, rfl⟩
      · rw [(touched_of_remove plain removed).2 place own] at here
        cases here
      · exact staged place entry own here
    | rename =>
      rcases attempt.rename with ⟨rfl, moved⟩ | ⟨_, rfl⟩
      · exact absurd ⟨changed, rfl⟩ still
      · exact staged place entry own here
  · intro place entry own here
    rw [exchange.moved.place?_eq exchange.own] at own
    cases own
    rw [exchange.moved.gone] at here
    cases here

/-- A move that succeeds moves what the staging file holds. -/
theorem exchange_of_rename (sibling : sibling? path = some staging)
    (ready : Ready tree path staging)
    (attempt : Attempt tree ⟨.rename staging path, .ok (), changed⟩)
    (staged : Staged tree staging content) : ∃ source target final mode,
      Exchange tree changed path staging source target final content mode := by
  rcases step_cases sibling ready .rename attempt with
    ⟨still, _⟩ | ⟨_, source, target, final, content', mode, exchange⟩
  · exact absurd ⟨changed, rfl⟩ still
  · obtain ⟨_, equal⟩ := staged source _ exchange.own exchange.held
    cases equal
    exact ⟨source, target, final, mode, exchange⟩

/-! ## Several operations -/

theorem ready_of_trail (sibling : sibling? path = some staging) (ready : Ready tree path staging)
    (allowed : ∀ step ∈ steps, Allowed path staging step.operation)
    (trail : Trail Attempt tree steps last) : Ready last path staging := by
  induction trail with
  | nil => exact ready
  | cons attempt _ ih =>
    rw [List.forall_mem_cons] at allowed
    exact ih (ready_step sibling ready allowed.1 attempt) allowed.2

/-- Operations none of which moves the staging file touch no more than that file. -/
theorem touched_of_trail (sibling : sibling? path = some staging) (ready : Ready tree path staging)
    (allowed : ∀ step ∈ steps, Allowed path staging step.operation)
    (still : ∀ step ∈ steps, ¬ Installs path staging step) (trail : Trail Attempt tree steps last) :
    Touched tree last (tree.place? staging) ∧
      ∀ step ∈ steps, Touched tree step.tree (tree.place? staging) := by
  induction trail with
  | nil => exact ⟨.refl _ _, by simp⟩
  | cons attempt _ ih =>
    rw [List.forall_mem_cons] at allowed still
    rcases step_cases sibling ready allowed.1 attempt with ⟨_, touched⟩ | ⟨installs, _⟩
    · obtain ⟨whole, each⟩ := ih (ready.of_touched touched) allowed.2 still.2
      rw [touched.place?_eq] at whole each
      refine ⟨touched.trans whole, List.forall_mem_cons.mpr ⟨touched, ?_⟩⟩
      exact fun step member => touched.trans (each step member)
    · exact absurd installs still.1

end WorkflowDocs.Readme
