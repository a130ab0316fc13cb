import WorkflowDocs.Proofs.Program.Abreast
import WorkflowDocs.Proofs.Program.Opening

/-!
# Launches that differ in their logs

Two runs of one command, with other settings for the log: the flag, the variables and the section of
the settings file that are about it. When the logs have been opened the worlds differ in the log
files and in the settings file, and what the command reads and writes is apart from these.

Results:
1. `steady_opened`: when the logs have been opened, the worlds are abreast.
2. `Launch.Uses.transfer`: both runs use the same files.
3. `Launch.separate`: what they read and write is apart from their logs.
-/

namespace WorkflowDocs.Program

open CommandLine FileTree Logging World

/-! ## Launches -/

/-- A run before it starts: its command line stands for the arguments, and there is no log yet. -/
structure Launch where
  words : List Text
  arguments : Arguments
  around : Surroundings
  world : World
  accepted : Arguments.ofWords words = .ok arguments
  unlogged : world.logger = none
  nowhere : world.logFile = none

namespace Launch

/-- The world in which the log has been opened, or a warning says that there is none. -/
def opened (launch : Launch) : World := started launch.arguments launch.around launch.world

/-- The settings of the run. -/
def settled (launch : Launch) : Except Failure Config :=
  (launch.opened.run (configure launch.arguments launch.around)).1

/-- What the command comes to. -/
def result (launch : Launch) : Except Failure Unit :=
  (launch.opened.run (generate launch.arguments launch.around)).1

/-- The world that the command leaves. -/
def worked (launch : Launch) : World :=
  (launch.opened.run (generate launch.arguments launch.around)).2

/-- The exit code, and the world that the run leaves. -/
def outcome (launch : Launch) : Nat × World := launch.world.run (run launch.words launch.around)

/-- The run as it would be if nothing were done about a log. -/
def silent (launch : Launch) : Nat × World :=
  launch.world.run (generate launch.arguments launch.around >>= closing)

/-- The path of the settings file. -/
def settingsPath (launch : Launch) : Text := settingsFile launch.arguments launch.around

/-- The settings file is at the place. -/
def Settles (launch : Launch) (place : Location) : Prop :=
  launch.world.tree.goal? launch.settingsPath = some place

/-- The log file is at the place. -/
def Logs (launch : Launch) (place : Location) : Prop := launch.opened.logFile = some place

/-- The paths of the files that the command reads besides its settings. -/
inductive Reads (launch : Launch) : Text → Prop
  | workflow : Reads launch launch.arguments.workflowFile
  | readme {config : Config} : launch.settled = .ok config →
      launch.arguments.updateReadme = true → Reads launch config.readme.file

/-- The paths of the files that the command reads or writes. -/
inductive Uses (launch : Launch) : Text → Prop
  | settings : Uses launch launch.settingsPath
  | read {path : Text} : launch.Reads path → Uses launch path
  | output {path : Text} : launch.arguments.output = some path → Uses launch path
  | staging {config : Config} {path : Text} : launch.settled = .ok config →
      launch.arguments.updateReadme = true →
      Readme.sibling? config.readme.file = some path → Uses launch path

/-- The log does not go to standard output. A log file lies in a directory that is there, and it is
no file that the command reads or writes. -/
structure Discreet (launch : Launch) : Prop where
  reserved : Reserved launch.opened
  sheltered : Sheltered launch.arguments launch.around launch.world
  apart : ∀ place, launch.Logs place → ∀ path, launch.Uses path →
    launch.world.tree.goal? path ≠ some place

end Launch

variable {launch other : Launch} {place : Location} {path : Text}

/-! ## Launches that differ in their logs -/

/-- The variables about the log. -/
def logVariables : List Text :=
  [filterVariable, "WORKFLOWDOC_LOG_FILE".toList, "WORKFLOWDOC_LOG_CONSOLE".toList]

/-- The settings file is at the place, and differs in the section about the log at most. -/
structure Reworded (launch other : Launch) (place : Location) : Prop where
  settles : launch.Settles place
  texts : ∃ text text' mode, launch.world.tree.entry? place = some (.file (.text text) mode) ∧
    other.world.tree.entry? place = some (.file (.text text') mode) ∧
    Toml.Differs "logging".toList text text'

/-- The launches differ in their settings for the log only. -/
structure SameButLog (launch other : Launch) : Prop where
  arguments : ∃ verbose, other.arguments = { launch.arguments with verbose }
  directory : other.around.directory = launch.around.directory
  environment : ∀ name, name ∉ logVariables →
    other.around.environment.text? name = launch.around.environment.text? name
  output : other.world.output = launch.world.output
  stays : other.world.tree.workingDirectory = launch.world.tree.workingDirectory
  files : ∀ place, other.world.tree.entry? place = launch.world.tree.entry? place ∨
    Reworded launch other place

/-- What the command reads besides its settings is the same in both trees. -/
def Unshared (launch other : Launch) : Prop :=
  ∀ place, other.world.tree.entry? place ≠ launch.world.tree.entry? place →
    ∀ path, launch.Reads path → launch.world.tree.goal? path ≠ some place

/-- A file that the command reads is sought behind a log file, as if that were a directory. -/
def Crossed (launch other : Launch) : Prop :=
  ∃ path place, launch.Reads path ∧ (launch.Logs place ∨ other.Logs place) ∧
    launch.world.tree.GoesThrough path place

namespace SameButLog

theorem settingsPath_eq (same : SameButLog launch other) :
    other.settingsPath = launch.settingsPath := by
  obtain ⟨verbose, arguments⟩ := same.arguments
  unfold Launch.settingsPath settingsFile
  rw [arguments, same.directory]

theorem agree (same : SameButLog launch other) :
    Agree launch.arguments launch.around.environment other.around.environment where
  lineBreaks _ := same.environment _ (by decide)
  tocLevel _ := same.environment _ (by decide)
  file _ := same.environment _ (by decide)
  startMarker _ := same.environment _ (by decide)
  endMarker _ := same.environment _ (by decide)

theorem around_eq (same : SameButLog launch other) :
    other.around = { launch.around with environment := other.around.environment } :=
  congrArg (fun directory => Surroundings.mk directory other.around.environment) same.directory

/-- The same is done for the settings. -/
theorem configure_eq (same : SameButLog launch other) :
    configure other.arguments other.around = configure launch.arguments launch.around := by
  obtain ⟨verbose, arguments⟩ := same.arguments
  have agrees : configure launch.arguments
      { launch.around with environment := other.around.environment } =
      configure launch.arguments launch.around := configure_congr same.agree
  rw [arguments, same.around_eq]
  exact agrees

/-- The same is done for the command. -/
theorem generate_eq (same : SameButLog launch other) :
    generate other.arguments other.around = generate launch.arguments launch.around := by
  obtain ⟨verbose, arguments⟩ := same.arguments
  have agrees : generate launch.arguments
      { launch.around with environment := other.around.environment } =
      generate launch.arguments launch.around := generate_congr same.agree
  rw [arguments, same.around_eq]
  exact agrees

end SameButLog

/-! ## Worlds abreast -/

/-- The places of the two log files. -/
def logsOf (launch other : Launch) (place : Location) : Prop :=
  launch.Logs place ∨ other.Logs place

/-- The texts of the two settings files, where these differ. -/
structure TwinsOf (launch other : Launch) (place : Location) (text text' : Text) : Prop where
  settles : launch.Settles place
  unequal : other.world.tree.entry? place ≠ launch.world.tree.entry? place
  differs : Toml.Differs "logging".toList text text'

theorem Launch.Discreet.opened (discreet : launch.Discreet) : Opened launch.world launch.opened :=
  opened_started launch.nowhere discreet.sheltered

theorem alike_launched (same : SameButLog launch other) (discreet : launch.Discreet)
    (discreet' : other.Discreet) :
    Alike (logsOf launch other) (TwinsOf launch other) launch.world.tree other.world.tree where
  stays := same.stays
  each place := by
    by_cases equal : other.world.tree.entry? place = launch.world.tree.entry? place
    · rw [equal]
      refine .same fun logged => ?_
      rcases logged with logged | logged
      · exact discreet.opened.loose place logged
      · exact equal ▸ discreet'.opened.loose place logged
    · rcases same.files place with same | ⟨settles, text, text', mode, here, here', differs⟩
      · exact absurd same equal
      · rw [here, here']
        exact .twin mode ⟨settles, equal, differs⟩

/-- When the logs have been opened, the worlds differ in log files and in the settings file. -/
theorem steady_opened (same : SameButLog launch other) (discreet : launch.Discreet)
    (discreet' : other.Discreet) :
    Steady (logsOf launch other) (TwinsOf launch other) launch.world.tree launch.opened
      other.opened where
  alike := ((alike_launched same discreet discreet').of_touched discreet.opened.touched
    fun _ => .inl).of_touched' discreet'.opened.touched fun _ => .inr
  logged _ := .inl
  logged' _ := .inr
  reserved := discreet.reserved
  reserved' := discreet'.reserved
  output := by
    have first : launch.opened.output = launch.world.output :=
      output_started launch.unlogged discreet.reserved
    have second : other.opened.output = other.world.output :=
      output_started other.unlogged discreet'.reserved
    rw [first, second, same.output]
  kept := (Kept.refl _).touched discreet.opened.touched

/-! ## Files apart -/

theorem unlogged_of_uses (same : SameButLog launch other) (discreet : launch.Discreet)
    (discreet' : other.Discreet) (uses : launch.Uses path) (uses' : other.Uses path) :
    Unlogged (logsOf launch other) launch.world.tree path := by
  intro place leads logged
  rcases logged with logged | logged
  · exact discreet.apart place logged path uses leads
  · refine discreet'.apart place logged path uses' ?_
    exact (alike_launched same discreet discreet').goal?_eq.trans leads

theorem unlogged_settings (same : SameButLog launch other) (discreet : launch.Discreet)
    (discreet' : other.Discreet) :
    Unlogged (logsOf launch other) launch.world.tree launch.settingsPath :=
  unlogged_of_uses same discreet discreet' .settings (same.settingsPath_eq ▸ .settings)

/-- Both runs have the same settings, if they have any. -/
theorem settled_of_settled (same : SameButLog launch other) (discreet : launch.Discreet)
    (discreet' : other.Discreet) {config : Config} (settled : launch.settled = .ok config) :
    other.settled = .ok config := by
  have configures : Together
      (Steady (logsOf launch other) (TwinsOf launch other) launch.world.tree)
      (configure launch.arguments launch.around) (configure launch.arguments launch.around)
      (Agreed False Eq
        (Steady (logsOf launch other) (TwinsOf launch other) launch.world.tree)) :=
    together_configure (unlogged_settings same discreet discreet') fun _ _ _ twins => twins.differs
  have matched := (configures _ _ (steady_opened same discreet discreet')).matched
  change Matched False Eq launch.settled _ at matched
  rw [← same.configure_eq] at matched
  change Matched False Eq launch.settled other.settled at matched
  rw [settled] at matched
  generalize other.settled = settled' at matched ⊢
  cases matched with
  | ok equal => rw [equal]

/-- The other run reads the same files. -/
theorem Launch.Reads.transfer (same : SameButLog launch other) (discreet : launch.Discreet)
    (discreet' : other.Discreet) (reads : launch.Reads path) : other.Reads path := by
  obtain ⟨verbose, arguments⟩ := same.arguments
  cases reads with
  | workflow =>
    have workflow : other.arguments.workflowFile = launch.arguments.workflowFile := by
      rw [arguments]
    exact workflow ▸ .workflow
  | readme settled asked =>
    exact .readme (settled_of_settled same discreet discreet' settled) (by rw [arguments]; exact asked)

/-- The other run uses the same files. -/
theorem Launch.Uses.transfer (same : SameButLog launch other) (discreet : launch.Discreet)
    (discreet' : other.Discreet) (uses : launch.Uses path) : other.Uses path := by
  obtain ⟨verbose, arguments⟩ := same.arguments
  cases uses with
  | settings => exact same.settingsPath_eq ▸ .settings
  | read reads => exact .read (reads.transfer same discreet discreet')
  | output named => exact .output (by rw [arguments]; exact named)
  | staging settled asked named =>
    exact .staging (settled_of_settled same discreet discreet' settled)
      (by rw [arguments]; exact asked) named

theorem Launch.Uses.unlogged (uses : launch.Uses path) (same : SameButLog launch other)
    (discreet : launch.Discreet) (discreet' : other.Discreet) :
    Unlogged (logsOf launch other) launch.world.tree path :=
  unlogged_of_uses same discreet discreet' uses (uses.transfer same discreet discreet')

theorem Launch.Reads.shared (reads : launch.Reads path) (same : SameButLog launch other)
    (discreet : launch.Discreet) (discreet' : other.Discreet) (unshared : Unshared launch other) :
    Shared (logsOf launch other) (TwinsOf launch other) launch.world.tree path where
  apart := (Uses.read reads).unlogged same discreet discreet'
  single place leads _ _ twins := unshared place twins.unequal path reads leads

theorem Launch.separate (same : SameButLog launch other) (discreet : launch.Discreet)
    (discreet' : other.Discreet) (unshared : Unshared launch other) :
    Separate (logsOf launch other) (TwinsOf launch other) launch.world.tree launch.arguments
      launch.around launch.settled where
  settings := unlogged_settings same discreet discreet'
  differs _ _ _ twins := twins.differs
  workflow := Reads.workflow.shared same discreet discreet' unshared
  output _ named := (Uses.output named).unlogged same discreet discreet'
  readme _ settled asked :=
    { shared := (Reads.readme settled asked).shared same discreet discreet' unshared
      staging := fun _ named =>
        (Uses.staging settled asked named).unlogged same discreet discreet' }

end WorkflowDocs.Program
