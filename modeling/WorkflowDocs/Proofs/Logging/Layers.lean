import WorkflowDocs.Logging.Settings
import WorkflowDocs.Proofs.Config.Layers
import WorkflowDocs.Proofs.Files.Joined

/-!
# The layers of the log settings

The level, the sink and the file of the log are looked for in the environment and in the settings
file, each without a look at the others.

A log file that the settings file names lies beside the settings file if the path of that file is
absolute or the base is the working directory. Otherwise the base counts twice: the settings file is
read from the working directory, and its directory is looked up once more from the base
(`load_beside_unsound`).

Results:
1. `describes_of_sectionOf`: what a section has is what stands in the file.
2. `load_layered`: where each setting comes from, and where the log file lies.
-/

namespace WorkflowDocs.Logging.Settings

open Config FileTree Toml

variable {α β : Type} {tree after : FileTree} {explicit : Option Text} {base path : Text}
  {verbose : Bool} {environment : Environment} {settings : Settings}

/-! ## What the file gives -/

/-- The fields of the section are those that stand in the file. -/
structure Section.Describes (given : Section) (root : Item) : Prop where
  level : given.level.map .ok =
    (itemIn root "logging".toList 0 "default_level".toList 0).map (decodeText "a string")
  console : given.console.map .ok =
    (itemIn root "logging".toList 0 "console_output".toList 1).map (decodeChoice consoleWords)
  file : given.file.map .ok =
    (itemIn root "logging".toList 0 "log_file".toList 2).map (decodeText "a string")

/-- A field that sets what it decodes where nothing was. -/
theorem decodes_some_of_set {decode : Item → Decoded β} {get : α → Option β} {set : α → β → α}
    {optional : Bool} (field : Text) (shown : ∀ record value, get (set record value) = some value) :
    (Toml.Field.mk field (fun item record => (decode item).map (set record)) optional).Decodes
      (fun item => (decode item).map some) get := by
  intro item record changed done
  cases reading : decode item with
  | error problem => simp [reading, Except.map] at done
  | ok value =>
    obtain rfl : set record value = changed := by simpa [reading, Except.map] using done
    simp [reading, Except.map, shown]

theorem sets_level : Sets "default_level".toList (fun item => (decodeText "a string" item).map some)
    Section.level sectionFields 0 := by
  refine .here rfl (decodes_some_of_set _ fun _ _ => rfl) (List.forall_mem_cons.mpr
    ⟨⟨by decide, ?_⟩, List.forall_mem_singleton.mpr ⟨by decide, ?_⟩⟩)
  · exact spares_of_set _ fun _ _ => rfl
  · exact spares_of_set _ fun _ _ => rfl

theorem sets_console : Sets "console_output".toList
    (fun item => (decodeChoice consoleWords item).map some) Section.console sectionFields 1 := by
  refine .there (by decide) (spares_of_set _ fun _ _ => rfl) ?_
  refine .here rfl (decodes_some_of_set _ fun _ _ => rfl)
    (List.forall_mem_singleton.mpr ⟨by decide, ?_⟩)
  exact spares_of_set _ fun _ _ => rfl

theorem sets_logFile : Sets "log_file".toList (fun item => (decodeText "a string" item).map some)
    Section.file sectionFields 2 := by
  refine .there (by decide) (spares_of_set _ fun _ _ => rfl) ?_
  refine .there (by decide) (spares_of_set _ fun _ _ => rfl) ?_
  exact .here rfl (decodes_some_of_set _ fun _ _ => rfl) (by simp)

/-- The section of a file, with the table it stands in. -/
def decodeSection (item : Item) : Decoded Section :=
  decodeRecord "TomlLoggingSection" sectionFields {} item

theorem sets_section :
    Sets "logging".toList (fun item => (decodeSection item).map some) id fields 0 :=
  .here rfl (decodes_some_of_set _ fun _ _ => rfl) (by simp)

/-- A field is what its item stands for, or it is not set. -/
theorem given_of_sets_some {decode : Item → Decoded β} {get : Section → Option β} {name : Text}
    {position : Nat} {part : Option Item} {found : Option Section}
    (sets : Sets name (fun item => (decode item).map some) get sectionFields position)
    (unset : get {} = none)
    (taken : Takes (fun item => (decodeSection item).map some) id part none found) :
    (get (found.getD {})).map .ok = (part.bind (Item.field? name position)).map decode := by
  cases part with
  | none =>
    obtain rfl : found = none := taken
    rw [Option.getD_none, unset]
    rfl
  | some item =>
    cases read : decodeSection item with
    | error problem => simp [Takes, read, Except.map] at taken
    | ok section' =>
      obtain rfl : some section' = found := by simpa [Takes, read, Except.map] using taken
      have field := sets.takes_decodeRecord (show decodeRecord _ _ _ _ = _ from read)
      rw [Option.getD_some, Option.bind_some]
      cases given : item.field? name position with
      | none => simpa [Takes, given, unset] using field
      | some part =>
        cases decoded : decode part with
        | error problem => simp [Takes, given, decoded, Except.map] at field
        | ok value =>
          have isSet : some value = get section' := by
            simpa [Takes, given, decoded, Except.map] using field
          rw [← isSet, Option.map_some, Option.map_some, decoded]

/-- What a section has is what stands in the file. -/
theorem describes_of_sectionOf {source : Text} {found : Option Section}
    (done : sectionOf source = .ok found) :
    ∃ table, Toml.parse source = .ok table ∧ (found.getD {}).Describes (.table table) := by
  obtain ⟨table, parsed, decoded⟩ := bind_eq_ok.mp done
  have taken := sets_section.takes_decodeRecord decoded
  exact ⟨table, parsed, given_of_sets_some sets_level rfl taken,
    given_of_sets_some sets_console rfl taken, given_of_sets_some sets_logFile rfl taken⟩

/-- What the settings file gives: nothing if it is not there. -/
inductive Consulted (tree : FileTree) (path : Text) : Section → Prop
  | missing : tree.isThere path = false → Consulted tree path {}
  | read {source : Text} {table : Table} {given : Section} : tree.read path = .ok source →
      Toml.parse source = .ok table → given.Describes (.table table) → Consulted tree path given

theorem consulted_of_run {found : Option Section}
    (done : (readSection path).run tree = (.ok found, after)) :
    after = tree ∧ Consulted tree path (found.getD {}) := by
  have looks : (Script.perform (.isThere path)).run tree = (tree.isThere path, tree) := rfl
  have reads : (Script.perform (.read path)).run tree = (tree.read path, tree) := rfl
  change Script.run (Script.bind _ _) tree = _ at done
  rw [Script.run_bind, looks] at done
  cases there : tree.isThere path with
  | false =>
    rw [there] at done
    cases done
    exact ⟨rfl, .missing there⟩
  | true =>
    rw [there] at done
    change Script.run (Script.bind _ _) tree = _ at done
    rw [Script.run_bind, reads] at done
    cases reply : tree.read path with
    | error error =>
      rw [reply] at done
      cases done
    | ok source =>
      simp only [reply] at done
      split at done
      next section' decoded =>
        cases done
        obtain ⟨table, parsed, describes⟩ := describes_of_sectionOf decoded
        exact ⟨rfl, .read reply parsed describes⟩
      · cases done

/-! ## Layers -/

/-- A log file named in the settings file at `path`: the name as it is seen from the directory of
that file, as that is seen from the base. -/
def logPath (base path name : Text) : Text := Path.join base (Path.join (Path.directory path) name)

/-- Each setting has the value of the first layer that has one, whatever the others are. -/
structure Layered (tree : FileTree) (base path : Text) (verbose : Bool) (environment : Environment)
    (given : Section) (settings : Settings) : Prop where
  level : settings.level =
    if verbose then "debug".toList else given.level.getD "warn".toList
  console : settings.console =
    (((environment.text? "WORKFLOWDOC_LOG_CONSOLE".toList).bind Console.ofText?).or
      given.console).getD .stderr
  file : settings.file =
    (((environment.text? "WORKFLOWDOC_LOG_FILE".toList).filter fun file => !file.blank).map
      (Path.join base)).or (given.file.map (logPath base path))
  /-- The base does not count twice, so the log file lies beside the settings file. -/
  beside : ∀ name, given.file = some name →
    Path.isAbsolute path = true ∨ Names tree base tree.workingDirectory →
    Beside tree path name (logPath base path name)
  /-- All names are found beside the settings file exactly if its directory, as it is seen from the
  base, is the one that holds it. -/
  allBeside : given.file.isSome = true → ∃ directory, HeldIn tree path directory ∧
    ((∀ name, Beside tree path name (logPath base path name)) ↔
      Names tree (Path.join base (Path.directory path)) directory)

theorem file_apply (given : Section) (base path : Text) :
    (apply {} given base path).file = given.file.map (logPath base path) := by
  unfold apply
  cases isFile : given.file with
  | none => rfl
  | some name =>
    refine congrArg some ?_
    unfold logPath Path.directory
    cases Path.parent? path with
    | none => rw [Option.getD_none, Path.join_nil]
    | some outer =>
      rw [Option.getD_some]
      dsimp only
      split
      next empty => rw [List.isEmpty_iff.mp empty, Path.join_nil]
      next => rw [Path.join_assoc]

theorem eq_of_check {checked : Settings} (done : checked.check = .ok settings) :
    settings = checked := by
  unfold check at done
  split at done
  · exact (Except.ok.inj done).symm
  · cases done

/-- Loading is reading, and the environment and `verbose` are not looked at before the end. -/
theorem loaded_of_run (done : (load explicit base verbose environment).run tree =
      (.ok settings, after)) :
    after = tree ∧ ∃ given : Section, Consulted tree (fileFor explicit base) given ∧
      settings =
        let merged := (apply {} given base (fileFor explicit base)).override base environment
        if verbose then { merged with level := "debug".toList } else merged := by
  change Script.run (Script.bind (readSection (fileFor explicit base)) _) tree = _ at done
  rw [Script.run_bind] at done
  rcases reads : (readSection (fileFor explicit base)).run tree with ⟨failure | found, last⟩
  · rw [reads] at done
    cases done
  · rw [reads] at done
    obtain ⟨rfl, consulted⟩ := consulted_of_run reads
    rw [Prod.ext_iff] at done
    obtain ⟨checked, same⟩ := done
    refine ⟨same.symm, found.getD {}, consulted, ?_⟩
    rw [eq_of_check checked]
    cases found <;> rfl

/-- Which log files lie beside the settings file. -/
theorem beside_of_consulted {given : Section} (consulted : Consulted tree path given)
    (named : given.file.isSome = true) (base : Text) : ∃ directory, HeldIn tree path directory ∧
      (Path.isAbsolute path = true ∨ Names tree base tree.workingDirectory →
        Names tree (Path.join base (Path.directory path)) directory) ∧
      ((∀ name, Beside tree path name (logPath base path name)) ↔
        Names tree (Path.join base (Path.directory path)) directory) := by
  cases consulted with
  | missing => cases named
  | read reads =>
    obtain ⟨directory, held, same, names⟩ := exists_directory_of_read reads
    refine ⟨directory, held, fun fixed => names_join (by rwa [same]) names, ?_⟩
    rw [← beside_iff held]
    simp only [logPath, Path.join_assoc]

/-- Each setting has its own layers, and the log file lies beside the settings file if the base does
not count twice. -/
theorem load_layered (done : (load explicit base verbose environment).run tree =
      (.ok settings, after)) :
    after = tree ∧ ∃ given : Section, Consulted tree (fileFor explicit base) given ∧
      Layered tree base (fileFor explicit base) verbose environment given settings := by
  obtain ⟨same, given, consulted, rfl⟩ := loaded_of_run done
  refine ⟨same, given, consulted, ?_⟩
  exact
    { level := by cases verbose <;> rfl
      console := by
        rw [Option.getD_or]
        cases verbose <;> rfl
      file := by
        rw [← file_apply]
        cases verbose <;> rfl
      beside := fun name named fixed => by
        obtain ⟨_, _, enough, all⟩ := beside_of_consulted consulted (by rw [named]; rfl) base
        exact all.mpr (enough fixed) name
      allBeside := fun named => by
        obtain ⟨directory, held, _, all⟩ := beside_of_consulted consulted named base
        exact ⟨directory, held, all⟩ }

/-! A settings file in `b`, and a file of the name it gives both beside it and in `b/b`. -/

def nestedTree : FileTree where
  entries :=
    [(["b".toList], .directory 0o755),
      (["b".toList, "workflowdoc.toml".toList],
        .file (.text "[logging]\nlog_file = \"l\"\n".toList) 0o644),
      (["b".toList, "l".toList], .file (.text []) 0o644),
      (["b".toList, "b".toList], .directory 0o755),
      (["b".toList, "b".toList, "l".toList], .file (.text []) 0o644)]
  workingDirectory := []

theorem load_layered_absolute :
    (load none "/b".toList true []).run nestedTree =
        (.ok { level := "debug".toList, file := some "/b/l".toList }, nestedTree) ∧
      ∃ given : Section, Consulted nestedTree (fileFor none "/b".toList) given ∧
        Layered nestedTree "/b".toList (fileFor none "/b".toList) true [] given
          { level := "debug".toList, file := some "/b/l".toList } := by
  have done : (load none "/b".toList true []).run nestedTree =
      (.ok { level := "debug".toList, file := some "/b/l".toList }, nestedTree) := by
    decide +kernel
  exact ⟨done, (load_layered done).2⟩

theorem heldIn_nested : HeldIn nestedTree "b/workflowdoc.toml".toList ["b".toList] :=
  ⟨by decide, ["b".toList], "workflowdoc.toml".toList, 0, by decide,
    walkLinks_eq_ok_iff.mp (by decide)⟩

/-- The log file does not always lie beside the settings file, be that the default file or one that
is asked for: here the log is `b/b/l`, and the file beside the settings file is `b/l`. -/
theorem load_beside_unsound :
    (load none "b".toList false []).run nestedTree =
        (.ok { file := some "b/b/l".toList }, nestedTree) ∧
      (load (some "b/workflowdoc.toml".toList) "b".toList false []).run nestedTree =
        (.ok { file := some "b/b/l".toList }, nestedTree) ∧
      Consulted nestedTree "b/workflowdoc.toml".toList { file := some "l".toList } ∧
      ¬Beside nestedTree "b/workflowdoc.toml".toList "l".toList "b/b/l".toList := by
  obtain ⟨table, parsed, describes⟩ := describes_of_sectionOf
    (show sectionOf "[logging]\nlog_file = \"l\"\n".toList = .ok (some { file := some "l".toList })
      by decide +kernel)
  refine ⟨by decide +kernel, by decide +kernel, .read (by decide +kernel) parsed describes, ?_⟩
  rintro ⟨directory, held, same⟩
  obtain rfl := held.unique heldIn_nested
  have beside : Names nestedTree "b/b/l".toList ["b".toList, "l".toList] :=
    (same _).mpr ⟨0, walkLinks_eq_ok_iff.mp (by decide)⟩
  have nested : Names nestedTree "b/b/l".toList ["b".toList, "b".toList, "l".toList] :=
    ⟨0, walkLinks_eq_ok_iff.mp (by decide)⟩
  exact absurd (beside.unique nested) (by decide)

end WorkflowDocs.Logging.Settings
