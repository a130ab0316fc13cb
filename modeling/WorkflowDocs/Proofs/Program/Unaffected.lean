import WorkflowDocs.Proofs.Program.Launch

/-!
# What logging does not change

Two runs of one command that differ in their settings for the log end with the same exit code, the
same output, reports of the same kind and the same files, but for the log files and the settings
file.

Two readings of this are too strong. If the settings file is read as a workflow as well, another
section about the log is another workflow. And if the workflow is sought behind the log file, as if
that were a directory, it cannot be read or it is missing, as the log file is there or is not
(`launch_unaffected_unsound`).

Results:
1. `agreed_launched`: the results of both runs match, and the worlds are still abreast.
2. `launch_unaffected`: everything that is the same in the end, and a log that cannot be set up adds
   a warning only.
-/

namespace WorkflowDocs.Program

open CommandLine FileTree Logging World

variable {launch other : Launch}

/-! ## The same end -/

/-- Both runs succeed, and nothing is said after the command has done its work, or both fail, and
report failures that are akin. -/
inductive SameEnd (launch other : Launch) : Prop
  | succeeds : launch.outcome = (0, launch.worked) → other.outcome = (0, other.worked) →
      SameEnd launch other
  | fails {failure failure' : Failure} :
      launch.outcome = (1, launch.worked.put .errors failure.report) →
      other.outcome = (1, other.worked.put .errors failure'.report) →
      Akin (Crossed launch other) failure failure' → SameEnd launch other

/-- If the log cannot be set up, the run is the one without a log, after a warning. -/
def WarnsOnly (launch : Launch) : Prop :=
  ∀ failure, (launch.world.run (startLog launch.arguments launch.around)).1 = .error failure →
    Warned (logWarning failure) launch.world launch.silent launch.outcome

/-- What the logs do not change. -/
structure Unaffected (launch other : Launch) : Prop where
  ends : SameEnd launch other
  exitCode : other.outcome.1 = launch.outcome.1
  output : other.outcome.2.output = launch.outcome.2.output
  files : ∀ place, ¬launch.Logs place → ¬other.Logs place → ¬launch.Settles place →
    other.outcome.2.tree.entry? place = launch.outcome.2.tree.entry? place
  warns : WarnsOnly launch
  warns' : WarnsOnly other

theorem Launch.outcome_of_ok (done : launch.result = .ok ()) :
    launch.outcome = (0, launch.worked) := by
  rcases run_cases launch.accepted launch.world with ⟨last, ends, runs⟩ | ⟨failure, last, ends, _⟩
  · have worked : launch.worked = last := congrArg Prod.snd ends
    rw [worked]
    exact runs
  · exact nomatch done.symm.trans (congrArg Prod.fst ends)

theorem Launch.outcome_of_error {failure : Failure} (failed : launch.result = .error failure) :
    launch.outcome = (1, launch.worked.put .errors failure.report) := by
  rcases run_cases launch.accepted launch.world with ⟨last, ends, _⟩ | ⟨failure', last, ends, runs⟩
  · exact nomatch failed.symm.trans (congrArg Prod.fst ends)
  · have worked : launch.worked = last := congrArg Prod.snd ends
    have same := failed.symm.trans (congrArg Prod.fst ends)
    cases same
    rw [worked]
    exact runs

theorem agreed_launched (same : SameButLog launch other) (discreet : launch.Discreet)
    (discreet' : other.Discreet) (unshared : Unshared launch other) :
    Agreed (Crossed launch other) Eq (Abreast (logsOf launch other) (TwinsOf launch other))
      launch.result other.result launch.worked other.worked := by
  obtain ⟨matched, worlds⟩ := agreed_generate (steady_opened same discreet discreet')
    (Launch.separate same discreet discreet' unshared)
  have result : other.result = (other.opened.run (generate launch.arguments launch.around)).1 := by
    rw [Launch.result, same.generate_eq]
  have worked : other.worked = (other.opened.run (generate launch.arguments launch.around)).2 := by
    rw [Launch.worked, same.generate_eq]
  rw [result, worked]
  refine ⟨matched.weaken ?_, worlds⟩
  rintro ⟨config, settled, ⟨place, logged, through⟩ | ⟨asked, place, logged, through⟩⟩
  · exact ⟨_, place, .workflow, logged, through⟩
  · exact ⟨_, place, .readme settled asked, logged, through⟩

theorem sameEnd_of_matched (matched : Matched (Crossed launch other) Eq launch.result other.result) :
    SameEnd launch other := by
  generalize first : launch.result = result at matched
  generalize second : other.result = result' at matched
  cases matched with
  | ok => exact .succeeds (Launch.outcome_of_ok first) (Launch.outcome_of_ok second)
  | error akin =>
    exact .fails (Launch.outcome_of_error first) (Launch.outcome_of_error second) akin

theorem SameEnd.exitCode_eq (ends : SameEnd launch other) : other.outcome.1 = launch.outcome.1 := by
  cases ends with
  | succeeds first second => rw [first, second]
  | fails first second => rw [first, second]

theorem Launch.output_outcome (launch : Launch) :
    launch.outcome.2.output = launch.worked.output := output_ended launch.accepted launch.world

theorem Launch.tree_outcome (launch : Launch) :
    launch.outcome.2.tree = launch.worked.tree := tree_ended launch.accepted launch.world

/-- Two runs that differ in their settings for the log do the same, unless what they read is the
settings file. -/
theorem launch_unaffected (same : SameButLog launch other) (discreet : launch.Discreet)
    (discreet' : other.Discreet) (unshared : Unshared launch other) :
    Unaffected launch other := by
  obtain ⟨matched, worlds⟩ := agreed_launched same discreet discreet' unshared
  have ends := sameEnd_of_matched matched
  exact
    { ends
      exitCode := ends.exitCode_eq
      output := by
        rw [launch.output_outcome, other.output_outcome]
        exact worlds.output
      files := fun place apart apart' elsewhere => by
        rw [launch.tree_outcome, other.tree_outcome]
        exact (worlds.alike.each place).eq (not_or.mpr ⟨apart, apart'⟩)
          fun _ _ twins => elsewhere twins.settles
      warns := fun _ => warned_of_unopened launch.accepted discreet.sheltered
      warns' := fun _ => warned_of_unopened other.accepted discreet'.sheltered }

/-! Runs in one directory, with other settings for the log. -/

def sampleWorld (settings : Text) : World where
  tree :=
    { entries := [(["workflowdoc.toml".toList], .file (.text settings) 0o644),
        (["wf.yml".toList], .file (.text []) 0o644),
        (["README.md".toList], .file (.text "<!--start--><!--end-->".toList) 0o644)]
      workingDirectory := [] }
  time := "now".toList

def sampleWords (rest : List String) : List Text :=
  ("workflowdoc" :: "generate" :: rest).map (·.toList)

/-- The log goes to a file. -/
def fileEnvironment : Environment := [("WORKFLOWDOC_LOG_FILE".toList, some "run.log".toList)]

def sampleLaunch (environment : Environment) (settings : Text) {words : List Text}
    {arguments : Arguments} (accepted : Arguments.ofWords words = .ok arguments) : Launch where
  words
  arguments
  around := ⟨"/".toList, environment⟩
  world := sampleWorld settings
  accepted
  unlogged := rfl
  nowhere := rfl

/-- Where the paths in the samples lead. -/
theorem goal?_sample (settings : Text) :
    (sampleWorld settings).tree.goal? "/workflowdoc.toml".toList =
        some ["workflowdoc.toml".toList] ∧
      (sampleWorld settings).tree.goal? "wf.yml".toList = some ["wf.yml".toList] ∧
      (sampleWorld settings).tree.goal? "README.md".toList = some ["README.md".toList] ∧
      (sampleWorld settings).tree.goal? ".README.md.workflowdoc.tmp".toList =
        some [".README.md.workflowdoc.tmp".toList] ∧
      (sampleWorld settings).tree.goal? "run.log/wf.yml".toList = none :=
  ⟨rfl, rfl, rfl, rfl, rfl⟩

theorem sampleLaunch_settles {environment : Environment} {settings : Text} {words : List Text}
    {arguments : Arguments} {accepted : Arguments.ofWords words = .ok arguments}
    (default : arguments.configFile = none) :
    (sampleLaunch environment settings accepted).Settles ["workflowdoc.toml".toList] := by
  unfold Launch.Settles Launch.settingsPath settingsFile sampleLaunch
  dsimp only
  rw [default]
  exact (goal?_sample settings).1

theorem sampleLaunch_same {environment environment' : Environment} {settings settings' : Text}
    {words words' : List Text} {arguments arguments' : Arguments}
    {accepted : Arguments.ofWords words = .ok arguments}
    {accepted' : Arguments.ofWords words' = .ok arguments'}
    (quieter : ∃ verbose, arguments' = { arguments with verbose })
    (unseen : ∀ name, name ∉ logVariables → environment'.text? name = environment.text? name)
    (default : arguments.configFile = none)
    (differs : Toml.Differs "logging".toList settings settings') :
    SameButLog (sampleLaunch environment settings accepted)
      (sampleLaunch environment' settings' accepted') where
  arguments := quieter
  directory := rfl
  environment := unseen
  output := rfl
  stays := rfl
  files place := by
    by_cases here : place = ["workflowdoc.toml".toList]
    · subst here
      exact .inr ⟨sampleLaunch_settles default, settings, settings', 0o644, rfl, rfl, differs⟩
    · refine .inl ?_
      by_cases root : place = []
      · rw [root]
        rfl
      · rw [entry?_of_ne_nil _ root, entry?_of_ne_nil _ root]
        have passed : decide (["workflowdoc.toml".toList] = place) = false :=
          decide_eq_false (Ne.symm here)
        simp only [sampleLaunch, sampleWorld, List.find?_cons, passed]

theorem unseen_file (name : Text) (apart : name ∉ logVariables) :
    Environment.text? [] name = fileEnvironment.text? name := by
  have missing : fileEnvironment.find? (fun entry => entry.1 = name) = none := by
    refine List.find?_eq_none.mpr fun entry member equal => apart ?_
    cases List.mem_singleton.mp member
    exact of_decide_eq_true equal ▸ by decide
  rw [Environment.text?, Environment.text?, missing]
  rfl

theorem reserved_of_console {world : World}
    (console : world.logger.map (·.console) ≠ some .stdout) : Reserved world := by
  intro logger present stdout
  rw [present, Option.map_some, stdout] at console
  exact console rfl

theorem sheltered_of_file {arguments : Arguments} {around : Surroundings} {world : World}
    {file : Option Text}
    (named : ((world.run (logSettings arguments around)).1.toOption.bind (·.file)) = file)
    (housed : ∀ path, file = some path → Housed world.tree path) :
    Sheltered arguments around world := by
  intro settings path settled isFile
  rw [settled] at named
  exact housed path (named.symm.trans isFile)

theorem housed_in_root {settings : Text} (path : Text) (named : path = "/run.log".toList) :
    Housed (sampleWorld settings).tree path := by
  subst named
  intro directory lies _
  have root : directory = "/".toList := Option.some.inj (lies.symm.trans (by decide))
  subst root
  rfl

/-- A log that is no file is discreet. -/
theorem discreet_of_fileless (sinks : launch.opened.logger.map (·.console) ≠ some .stdout ∧
      ((launch.world.run (logSettings launch.arguments launch.around)).1.toOption.bind (·.file)) =
        none ∧
      launch.opened.logFile = none) : launch.Discreet where
  reserved := reserved_of_console sinks.1
  sheltered := sheltered_of_file sinks.2.1 fun _ isFile => nomatch isFile
  apart _ logs := nomatch sinks.2.2.symm.trans logs

/-- So is one in `run.log`, if the command uses other files. -/
theorem discreet_of_file {environment : Environment} {settings : Text} {words : List Text}
    {arguments : Arguments} {accepted : Arguments.ofWords words = .ok arguments}
    (sinks : (sampleLaunch environment settings accepted).opened.logger.map (·.console) ≠
        some .stdout ∧
      (((sampleWorld settings).run (logSettings arguments
        ⟨"/".toList, environment⟩)).1.toOption.bind (·.file)) = some "/run.log".toList ∧
      (sampleLaunch environment settings accepted).opened.logFile = some ["run.log".toList])
    (apart : ∀ path, (sampleLaunch environment settings accepted).Uses path →
      (sampleWorld settings).tree.goal? path ≠ some ["run.log".toList]) :
    (sampleLaunch environment settings accepted).Discreet where
  reserved := reserved_of_console sinks.1
  sheltered := sheltered_of_file sinks.2.1 fun path isFile =>
    housed_in_root path (Option.some.inj isFile.symm)
  apart place logs := by
    obtain rfl : ["run.log".toList] = place := Option.some.inj (sinks.2.2.symm.trans logs)
    exact apart

/-! A log at work, and a log that cannot be set up. -/

def sampleArguments : Arguments where
  workflowFile := "wf.yml".toList
  updateReadme := true

def loggedLaunch : Launch :=
  have accepted : Arguments.ofWords (sampleWords ["wf.yml", "--update-readme", "--verbose"]) =
      .ok { sampleArguments with verbose := true } := by decide +kernel
  sampleLaunch fileEnvironment "[logging]\ndefault_level = \"info\"\n".toList accepted

def brokenLaunch : Launch :=
  have accepted : Arguments.ofWords (sampleWords ["wf.yml", "--update-readme"]) =
      .ok sampleArguments := by decide +kernel
  sampleLaunch [] "[logging]\ndefault_level = 3\n".toList accepted

theorem settled_logged : loggedLaunch.settled = .ok {} := by decide +kernel

theorem discreet_logged : loggedLaunch.Discreet := by
  obtain ⟨settings, workflow, readme, staging, _⟩ :=
    goal?_sample "[logging]\ndefault_level = \"info\"\n".toList
  refine discreet_of_file (by decide +kernel) ?_
  intro path uses leads
  cases uses with
  | settings => exact absurd (settings.symm.trans leads) (by decide)
  | read reads =>
    cases reads with
    | workflow => exact absurd (workflow.symm.trans leads) (by decide)
    | readme settled =>
      cases settled_logged.symm.trans settled
      exact absurd (readme.symm.trans leads) (by decide)
  | output named => cases named
  | staging settled _ named =>
    cases settled_logged.symm.trans settled
    cases (by decide : Readme.sibling? "README.md".toList =
      some ".README.md.workflowdoc.tmp".toList).symm.trans named
    exact absurd (staging.symm.trans leads) (by decide)

theorem discreet_broken : brokenLaunch.Discreet := discreet_of_fileless (by decide +kernel)

theorem same_logged : SameButLog loggedLaunch brokenLaunch :=
  sampleLaunch_same ⟨false, rfl⟩ unseen_file rfl
    (Toml.differs_of_only .explicit (by decide +kernel) (by decide +kernel))

theorem unshared_logged : Unshared loggedLaunch brokenLaunch := by
  obtain ⟨settings, workflow, readme, _⟩ :=
    goal?_sample "[logging]\ndefault_level = \"info\"\n".toList
  intro place differ path reads leads
  rcases same_logged.files place with equal | reworded
  · exact absurd equal differ
  · obtain rfl := Option.some.inj ((sampleLaunch_settles rfl).symm.trans reworded.settles)
    cases reads with
    | workflow => exact absurd (workflow.symm.trans leads) (by decide)
    | readme settled =>
      cases settled_logged.symm.trans settled
      exact absurd (readme.symm.trans leads) (by decide)

/-- The second log cannot be set up, and the runs update the README alike. -/
theorem launch_unaffected_broken : SameButLog loggedLaunch brokenLaunch ∧ loggedLaunch.Discreet ∧
    brokenLaunch.Discreet ∧ Unshared loggedLaunch brokenLaunch ∧
    (brokenLaunch.opened.logger = none ∧ loggedLaunch.outcome.1 = 0) ∧
    Unaffected loggedLaunch brokenLaunch :=
  ⟨same_logged, discreet_logged, discreet_broken, unshared_logged, by decide +kernel,
    launch_unaffected same_logged discreet_logged discreet_broken unshared_logged⟩

/-! ## Readings that are too strong -/

/-! The settings file is the workflow as well. -/

def rereadLaunch (settings : Text) : Launch :=
  have accepted : Arguments.ofWords (sampleWords ["workflowdoc.toml"]) =
      .ok { workflowFile := "workflowdoc.toml".toList } := by decide +kernel
  sampleLaunch [] settings accepted

def emptyLaunch : Launch := rereadLaunch "[logging]\n".toList

def filledLaunch : Launch := rereadLaunch "[logging]\ndefault_level = \"info\"\n".toList

/-! The workflow is sought behind the log file. -/

def behindLaunch (environment : Environment) : Launch :=
  have accepted : Arguments.ofWords (sampleWords ["run.log/wf.yml"]) =
      .ok { workflowFile := "run.log/wf.yml".toList } := by decide +kernel
  sampleLaunch environment "[logging]\n".toList accepted

theorem same_behind : SameButLog (behindLaunch fileEnvironment) (behindLaunch []) where
  arguments := ⟨false, rfl⟩
  directory := rfl
  environment := unseen_file
  output := rfl
  stays := rfl
  files _ := .inl rfl

theorem discreet_behind : (behindLaunch fileEnvironment).Discreet := by
  obtain ⟨settings, _, _, _, workflow⟩ := goal?_sample "[logging]\n".toList
  refine discreet_of_file (by decide +kernel) ?_
  intro path uses leads
  cases uses with
  | settings => exact absurd (settings.symm.trans leads) (by decide)
  | read reads =>
    cases reads with
    | workflow => exact nomatch workflow.symm.trans leads
    | readme _ asked => cases asked
  | output named => cases named
  | staging _ asked => cases asked

/-- The exit codes of the first two runs differ, and so do the reports of the others. -/
theorem launch_unaffected_unsound :
    (SameButLog emptyLaunch filledLaunch ∧ emptyLaunch.Discreet ∧ filledLaunch.Discreet ∧
      emptyLaunch.outcome.1 = 0 ∧ filledLaunch.outcome.1 = 1) ∧
    (SameButLog (behindLaunch fileEnvironment) (behindLaunch []) ∧
      (behindLaunch fileEnvironment).Discreet ∧ (behindLaunch []).Discreet ∧
      (behindLaunch fileEnvironment).result.mapError (·.category) = .error .fileReadError ∧
      (behindLaunch []).result.mapError (·.category) = .error .fileNotFound) := by
  have same : SameButLog emptyLaunch filledLaunch :=
    sampleLaunch_same ⟨false, rfl⟩ (fun _ _ => rfl) rfl
      (Toml.differs_of_only .explicit (by decide +kernel) (by decide +kernel))
  have discreet : emptyLaunch.Discreet := discreet_of_fileless (by decide +kernel)
  have discreet' : filledLaunch.Discreet := discreet_of_fileless (by decide +kernel)
  have unlogged : (behindLaunch []).Discreet := discreet_of_fileless (by decide +kernel)
  exact ⟨⟨same, discreet, discreet', by decide +kernel⟩, same_behind, discreet_behind, unlogged,
    by decide +kernel⟩

end WorkflowDocs.Program
