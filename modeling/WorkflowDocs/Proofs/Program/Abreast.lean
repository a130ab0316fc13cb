import WorkflowDocs.Proofs.Config.Loading
import WorkflowDocs.Proofs.Program.Course
import WorkflowDocs.Proofs.Readme.Abreast
import WorkflowDocs.Proofs.Toml.Bare

/-!
# The work of two runs abreast

The same work in worlds that differ in their logs and in the part of the settings file that is about
the log. Stage by stage it has the same outcome in both.

Results:
1. `together_configure`: both runs have the same settings, or settings that fail alike.
2. `together_generation`: the same document, written to the same file, and an update of one outcome.
3. `agreed_generate`: the results of the runs match, and the worlds are still abreast.
-/

namespace WorkflowDocs

open FileTree World

variable {α : Type} {logs : Location → Prop} {twins : Location → Text → Text → Prop}
  {base : FileTree} {world other : World} {path : Text} {blocked weaker : Prop}

/-! ## Settings -/

namespace Config

/-- Texts with the same settings, or none, are decoded alike. -/
theorem together_decoding {source source' : Text}
    (same : (ofText source').toOption = (ofText source).toOption) :
    Together (Steady logs twins base) (decoding path source) (decoding path source')
      (Agreed blocked Eq (Steady logs twins base)) := by
  unfold decoding
  cases first : ofText source with
  | error problem =>
    cases second : ofText source' with
    | error problem' => exact together_pure fun _ _ steady => ⟨.error (.inl rfl), steady⟩
    | ok config' => simp [first, second, Except.toOption] at same
  | ok config =>
    cases second : ofText source' with
    | error problem' => simp [first, second, Except.toOption] at same
    | ok config' =>
      rw [first, second] at same
      obtain rfl : config' = config := Option.some.inj same
      exact (steady_tell _ _).bind fun _ _ => together_pure fun _ _ steady => ⟨.ok rfl, steady⟩

theorem unread_logging : ∀ field ∈ fields, field.name ≠ "logging".toList := by
  simp only [fields, List.forall_mem_cons]
  exact ⟨by decide, by decide, by simp⟩

theorem together_read (apart : Unlogged logs base path)
    (differs : ∀ place text text', twins place text text' →
      Toml.Differs "logging".toList text text') :
    Together (Steady logs twins base) (read path) (read path)
      (Agreed blocked Eq (Steady logs twins base)) := by
  intro world other steady
  have apart := steady.kept.unlogged apart
  have same := steady.alike.isThere apart
  cases there : world.tree.isThere path with
  | false =>
    rw [run_read_of_missing there, run_read_of_missing (same.trans there)]
    exact ⟨.ok rfl, steady⟩
  | true =>
    rw [run_read_of_isThere there, run_read_of_isThere (same.trans there)]
    have both := steady.alike.read apart
    generalize found : world.tree.read path = result at both
    generalize found' : other.tree.read path = result' at both
    cases both with
    | error error error' =>
      rw [steady.alike.error_eq apart (steady.alike.locate_eq_of_isThere there) found found']
      exact ⟨.error (.inl rfl), steady⟩
    | @ok source source' isTwin =>
      refine together_decoding ?_ world other steady
      rcases isTwin with rfl | ⟨place, _, isTwin⟩
      · rfl
      · exact ofText_of_differs unread_logging (differs place source source' isTwin)

end Config

namespace Program

open CommandLine

variable {arguments : Arguments} {around : Surroundings} {config : Config} {markdown : Text}
  {options : RenderOptions}

theorem together_configure (apart : Unlogged logs base (settingsFile arguments around))
    (differs : ∀ place text text', twins place text text' →
      Toml.Differs "logging".toList text text') :
    Together (Steady logs twins base) (configure arguments around) (configure arguments around)
      (Agreed blocked Eq (Steady logs twins base)) := by
  have reading : Together (Steady logs twins base) (Config.read (settingsFile arguments around))
      (Config.read (settingsFile arguments around))
      (Agreed blocked Eq (Steady logs twins base)) := Config.together_read apart differs
  have loads : Together (Steady logs twins base) (loading arguments around)
      (loading arguments around) (Agreed blocked Eq (Steady logs twins base)) := by
    rw [loading, Config.load_eq]
    refine reading.bind fun found found' world other agreed => ⟨?_, agreed.worlds⟩
    cases agreed.matched with
    | error akin => exact .error akin
    | ok same => exact same ▸ .refl _ _
  rw [configure_eq]
  refine loads.bind fun loaded loaded' world other agreed => ⟨?_, agreed.worlds⟩
  cases agreed.matched with
  | error akin => exact .error akin
  | ok same => exact same ▸ .refl _ _

/-! ## The document -/

theorem together_load (shared : Shared logs twins base path) :
    Together (Steady logs twins base) (Workflow.Document.load path) (Workflow.Document.load path)
      (Agreed (Blocked logs base path) Eq (Steady logs twins base)) := by
  intro world other steady
  rw [run_load, run_load]
  rcases steady.read_cases shared with ⟨source, found, found'⟩ | ⟨_, _, found, found', akin⟩
  · rw [found, found']
    exact ⟨.refl _ _, steady⟩
  · rw [found, found']
    exact ⟨.error akin, steady⟩

theorem together_sections (shared : Shared logs twins base path) :
    Together (Steady logs twins base) (Generation.sections path options)
      (Generation.sections path options)
      (Agreed (Blocked logs base path) Eq (Steady logs twins base)) := by
  refine (together_load shared).bind fun loaded loaded' world other agreed => ?_
  obtain ⟨matched, steady⟩ := agreed
  cases matched with
  | error akin => exact ⟨.error akin, steady⟩
  | ok same =>
    subst same
    exact (steady_tell _ _).bind (fun _ _ => together_pure fun _ _ steady => ⟨.ok rfl, steady⟩)
      world other steady

theorem together_writing (output : Option Text)
    (apart : ∀ path, output = some path → Unlogged logs base path) :
    Together (Steady logs twins base) (writing output markdown options)
      (writing output markdown options) (Agreed blocked Eq (Steady logs twins base)) := by
  cases output with
  | none => exact together_pure fun _ _ steady => ⟨.ok rfl, steady⟩
  | some path =>
    have writes : Together (Steady logs twins base)
        (Script.perform (.write path (Generation.fileText markdown options)))
        (Script.perform (.write path (Generation.fileText markdown options)))
        (Ends (Written logs twins base path) (Steady logs twins base)) :=
      together_perform fun _ _ steady => ends_write steady (apart path rfl) _
    refine writes.bind fun written written' world other ends => ?_
    cases ends with
    | error error error' steady => exact ⟨.error (.inl rfl), steady⟩
    | ok written =>
      exact (steady_tell _ _).bind (fun _ _ => together_pure fun _ _ steady => ⟨.ok rfl, steady⟩)
        world other written.toSteady

/-! ## The README -/

/-- The README is neither a log nor a twin, and no log is where its staging file is. -/
structure Updatable (logs : Location → Prop) (twins : Location → Text → Text → Prop)
    (base : FileTree) (config : Config) : Prop where
  shared : Shared logs twins base config.readme.file
  staging : ∀ staging, Readme.sibling? config.readme.file = some staging →
    Unlogged logs base staging

/-- Updates, if any, that match, in worlds abreast. -/
structure Updated (logs : Location → Prop) (twins : Location → Text → Text → Prop) (blocked : Prop)
    (readme readme' : Option (Except Failure Readme.Update)) (world other : World) : Prop where
  matched : Option.Rel (Matched blocked Eq) readme readme'
  worlds : Abreast logs twins world other

theorem together_updateReadme
    (updatable : arguments.updateReadme = true → Updatable logs twins base config) :
    Together (Steady logs twins base)
      (Generation.updateReadme (request arguments config) markdown)
      (Generation.updateReadme (request arguments config) markdown)
      (Updated logs twins
        (arguments.updateReadme = true ∧ Blocked logs base config.readme.file)) := by
  unfold Generation.updateReadme
  cases asked : arguments.updateReadme with
  | false =>
    rw [if_neg (by simp [request, asked])]
    exact together_pure fun _ _ steady => ⟨.none, steady.toAbreast⟩
  | true =>
    rw [if_pos (by simp [request, asked])]
    obtain ⟨shared, staging⟩ := updatable asked
    refine (Readme.together_update shared staging).bind fun result result' world other agreed => ?_
    obtain ⟨matched, abreast⟩ := agreed
    cases matched with
    | ok same =>
      subst same
      exact ⟨.some (.ok rfl), abreast⟩
    | error akin =>
      exact (abreast_tell _ _).bind (fun _ _ => together_pure fun _ _ abreast =>
        ⟨.some (.error (akin.mono fun blocked => ⟨rfl, blocked⟩)), abreast⟩) world other abreast

/-! ## The whole work -/

/-- The same document, and updates that match. -/
structure SameWork (blocked : Prop) (outcome outcome' : Generation.Outcome) : Prop where
  bundle : outcome'.bundle = outcome.bundle
  markdown : outcome'.markdown = outcome.markdown
  readme : Option.Rel (Matched blocked Eq) outcome.readme outcome'.readme

/-- A README whose update has failed is not told of on standard output. -/
theorem SameWork.printed_eq {outcome outcome' : Generation.Outcome}
    (same : SameWork blocked outcome outcome') :
    printed arguments options outcome' = printed arguments options outcome := by
  unfold printed
  cases arguments.format with
  | markdown => rw [same.markdown]
  | json =>
    obtain ⟨bundle, markdown, readme⟩ := outcome
    obtain ⟨bundle', markdown', readme'⟩ := outcome'
    obtain ⟨rfl, rfl, updates⟩ := same
    cases updates with
    | none => rfl
    | some matched =>
      cases matched with
      | ok same => rw [same]
      | error => rfl

theorem together_rendering (bundle : Bundle)
    (output : ∀ path, arguments.output = some path → Unlogged logs base path)
    (updatable : arguments.updateReadme = true → Updatable logs twins base config) :
    Together (Steady logs twins base) (rendering (request arguments config) (.ok bundle))
      (rendering (request arguments config) (.ok bundle))
      (Agreed blocked
        (SameWork (arguments.updateReadme = true ∧ Blocked logs base config.readme.file))
        (Abreast logs twins)) := by
  have writes : Together (Steady logs twins base)
      (writing arguments.output (bundle.assemble config.render) config.render)
      (writing arguments.output (bundle.assemble config.render) config.render)
      (Agreed blocked Eq (Steady logs twins base)) := together_writing arguments.output output
  refine writes.bind fun written written' world other agreed => ?_
  obtain ⟨matched, steady⟩ := agreed
  cases matched with
  | error akin => exact ⟨.error akin, steady.toAbreast⟩
  | ok =>
    refine (together_updateReadme updatable).bind (fun readme readme' => ?_) world other steady
    exact together_pure fun _ _ updated => ⟨.ok ⟨rfl, rfl, updated.matched⟩, updated.worlds⟩

/-- One of the files that are read is sought through the place of a log. -/
def Hindered (logs : Location → Prop) (base : FileTree) (arguments : Arguments)
    (config : Config) : Prop :=
  Blocked logs base arguments.workflowFile ∨
    arguments.updateReadme = true ∧ Blocked logs base config.readme.file

theorem together_generation (workflow : Shared logs twins base arguments.workflowFile)
    (output : ∀ path, arguments.output = some path → Unlogged logs base path)
    (updatable : arguments.updateReadme = true → Updatable logs twins base config) :
    Together (Steady logs twins base) (Generation.run (request arguments config))
      (Generation.run (request arguments config))
      (Agreed (Hindered logs base arguments config)
        (SameWork (arguments.updateReadme = true ∧ Blocked logs base config.readme.file))
        (Abreast logs twins)) := by
  rw [generation_eq]
  refine (together_sections workflow).bind fun found found' world other agreed => ?_
  obtain ⟨matched, steady⟩ := agreed
  cases matched with
  | error akin => exact ⟨.error (akin.mono .inl), steady.toAbreast⟩
  | ok same =>
    subst same
    exact together_rendering _ output updatable world other steady

theorem together_concluding {outcome outcome' : Generation.Outcome}
    (same : SameWork blocked outcome outcome') :
    Together (Abreast logs twins) (concluding arguments config (.ok outcome))
      (concluding arguments config (.ok outcome')) (Agreed blocked Eq (Abreast logs twins)) := by
  have prints : Together (Abreast logs twins)
      (Script.put .output (printed arguments config.render outcome))
      (Script.put .output (printed arguments config.render outcome'))
      (fun _ _ => Abreast logs twins) := by
    rw [same.printed_eq]
    exact fun _ _ abreast => abreast.put_output _
  refine prints.bind fun _ _ => ?_
  have updates := same.readme
  generalize outcome.readme = readme at updates ⊢
  generalize outcome'.readme = readme' at updates ⊢
  cases updates with
  | none => exact together_pure fun _ _ abreast => ⟨.ok rfl, abreast⟩
  | some matched =>
    cases matched with
    | error akin => exact together_pure fun _ _ abreast => ⟨.error akin, abreast⟩
    | ok same =>
      subst same
      exact (abreast_tell _ _).bind fun _ _ => together_pure fun _ _ abreast => ⟨.ok rfl, abreast⟩

theorem together_publish (workflow : Shared logs twins base arguments.workflowFile)
    (output : ∀ path, arguments.output = some path → Unlogged logs base path)
    (updatable : arguments.updateReadme = true → Updatable logs twins base config) :
    Together (Steady logs twins base) (publish arguments (.ok config))
      (publish arguments (.ok config))
      (Agreed (Hindered logs base arguments config) Eq (Abreast logs twins)) := by
  rw [publish_eq]
  refine (together_generation workflow output updatable).bind
    fun outcome outcome' world other agreed => ?_
  obtain ⟨matched, abreast⟩ := agreed
  cases matched with
  | error akin => exact ⟨.error akin, abreast⟩
  | ok same =>
    obtain ⟨matched, abreast⟩ := together_concluding same world other abreast
    exact ⟨matched.weaken .inr, abreast⟩

/-- What a run reads and writes is apart from the logs, and but for the settings file from twins. -/
structure Separate (logs : Location → Prop) (twins : Location → Text → Text → Prop)
    (base : FileTree) (arguments : Arguments) (around : Surroundings)
    (settled : Except Failure Config) : Prop where
  settings : Unlogged logs base (settingsFile arguments around)
  differs : ∀ place text text', twins place text text' → Toml.Differs "logging".toList text text'
  workflow : Shared logs twins base arguments.workflowFile
  output : ∀ path, arguments.output = some path → Unlogged logs base path
  readme : ∀ config, settled = .ok config → arguments.updateReadme = true →
    Updatable logs twins base config

/-- The runs have results that match, and leave worlds abreast. -/
theorem agreed_generate (steady : Steady logs twins base world other)
    (separate : Separate logs twins base arguments around
      (world.run (configure arguments around)).1) :
    Agreed (∃ config, (world.run (configure arguments around)).1 = .ok config ∧
        Hindered logs base arguments config) Eq (Abreast logs twins)
      (world.run (generate arguments around)).1 (other.run (generate arguments around)).1
      (world.run (generate arguments around)).2 (other.run (generate arguments around)).2 := by
  have configures : Together (Steady logs twins base) (configure arguments around)
      (configure arguments around) (Agreed False Eq (Steady logs twins base)) :=
    together_configure separate.settings separate.differs
  obtain ⟨matched, steady⟩ := configures world other steady
  have updatable := separate.readme
  rw [generate_eq, run_bind, run_bind]
  generalize (world.run (configure arguments around)).1 = settled at matched updatable ⊢
  generalize (other.run (configure arguments around)).1 = settled' at matched ⊢
  cases matched with
  | error akin => exact ⟨.error (akin.mono False.elim), steady.toAbreast⟩
  | @ok config _ same =>
    subst same
    obtain ⟨matched, worlds⟩ :=
      together_publish separate.workflow separate.output (updatable config rfl) _ _ steady
    exact ⟨matched.weaken fun hindered => ⟨config, rfl, hindered⟩, worlds⟩

end Program

end WorkflowDocs
