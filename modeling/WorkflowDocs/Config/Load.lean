import WorkflowDocs.Config
import WorkflowDocs.Environment
import WorkflowDocs.Script
import WorkflowDocs.Text.Blank
import WorkflowDocs.Toml.Decode

/-!
# Loading settings

Each setting comes from an environment variable if that is usable, else from the settings file,
else from its default.
-/

namespace WorkflowDocs.Config

/-! ## The file -/

def lineBreakWords : Toml.Words LineBreaks :=
  [("LF".toList, .lf), ("lf".toList, .lf), ("CRLF".toList, .crlf), ("crlf".toList, .crlf)]

def renderFields : List (Toml.Field RenderOptions) :=
  [{ name := "line_breaks".toList
     read := fun item options =>
       (Toml.decodeChoice lineBreakWords item).map fun lineBreaks => { options with lineBreaks } },
   { name := "toc_level".toList
     read := fun item options =>
       (Toml.decodeByte item).map fun tocLevel => { options with tocLevel } }]

def readmeFields : List (Toml.Field ReadmeOptions) :=
  [{ name := "file".toList
     read := fun item options =>
       (Toml.decodeText "path string" item).map fun file => { options with file } },
   { name := "start_marker".toList
     read := fun item options =>
       (Toml.decodeText "a string" item).map fun startMarker => { options with startMarker } },
   { name := "end_marker".toList
     read := fun item options =>
       (Toml.decodeText "a string" item).map fun endMarker => { options with endMarker } }]

def fields : List (Toml.Field Config) :=
  [{ name := "render".toList
     read := fun item config =>
       (Toml.decodeRecord "RenderConfig" renderFields {} item).map fun render =>
         { config with render } },
   { name := "readme".toList
     read := fun item config =>
       (Toml.decodeRecord "ReadmeConfig" readmeFields {} item).map fun readme =>
         { config with readme } }]

/-- The settings in the text of a file. -/
def ofText (source : Text) : Except Toml.Problem Config := do
  let table ← Toml.parse source
  Toml.decodeRecord "DocsConfig" fields {} (.table table)

def defaultFile : Text := "workflowdoc.toml".toList

def target : Logging.Target := "workflowdoc::core::config::loader".toList

/-- The settings in a file, unless there is no such file. -/
def read (path : Text) : Script (Except Failure (Option Config)) := do
  if !(← Script.perform (.isThere path)) then return .ok none
  match ← Script.perform (.read path) with
  | .error error => return .error (.reading path error)
  | .ok source =>
    match ofText source with
    | .error problem =>
      return .error (.of .configError
        ("Failed to parse config file ".toList ++ path ++ ':' :: ' ' :: problem.text source))
    | .ok config =>
      Script.tell ⟨.debug, target, "loaded configuration file".toList, [("path".toList, path)], []⟩
      return .ok (some config)

/-! ## The environment -/

/-- A number from 0 to 255 in decimal digits, with blanks around it and a sign before it allowed. -/
def byte? (text : Text) : Option Nat :=
  let digits := match text.trim with
    | '+' :: rest => rest
    | rest => rest
  if digits.all Char.isDigit then
    (Decimal.digitsValue? 10 digits).filter (· ≤ 255)
  else none

/-- The settings with those from the environment; a value that cannot be used changes nothing. -/
def override (config : Config) (environment : Environment) : Config where
  render :=
    { lineBreaks := ((environment.text? "WORKFLOWDOC_LINE_BREAKS".toList).bind
        LineBreaks.ofText?).getD config.render.lineBreaks
      tocLevel := ((environment.text? "WORKFLOWDOC_TOC_LEVEL".toList).bind byte?).getD
        config.render.tocLevel }
  readme :=
    { file := (environment.text? "WORKFLOWDOC_README_FILE".toList).getD config.readme.file
      startMarker := (environment.text? "WORKFLOWDOC_START_MARKER".toList).getD
        config.readme.startMarker
      endMarker := (environment.text? "WORKFLOWDOC_END_MARKER".toList).getD config.readme.endMarker }

/-- What each variable is for, a line each. -/
def environmentNotes : List Text :=
  ["WORKFLOWDOC_LINE_BREAKS - Line endings of the generated markdown (LF/CRLF, default: LF)".toList,
    "WORKFLOWDOC_TOC_LEVEL - Heading depth of generated sections (1-6, default: 2)".toList,
    "WORKFLOWDOC_README_FILE - README to update (default: README.md)".toList,
    "WORKFLOWDOC_START_MARKER - Start of the injection region (default: <!--start-->)".toList,
    "WORKFLOWDOC_END_MARKER - End of the injection region (default: <!--end-->)".toList,
    "WORKFLOWDOC_LOG_FILE - Append logs to this file".toList,
    "WORKFLOWDOC_LOG_CONSOLE - Console log sink (stdout/stderr/none, default: stderr)".toList]

/-- The settings for one run. A file named by the user must be there; otherwise the default file
in the base directory counts if it is there. -/
def load (explicit : Option Text) (base : Text) (environment : Environment) :
    Script (Except Failure Config) := do
  match explicit with
  | some path =>
    match ← read path with
    | .error failure => return .error failure
    | .ok none =>
      return .error (.of .fileNotFound
        ("config file ".toList ++ path ++ " does not exist".toList))
    | .ok (some config) => return .ok (config.override environment)
  | none =>
    match ← read (Path.join base defaultFile) with
    | .error failure => return .error failure
    | .ok config => return .ok ((config.getD {}).override environment)

end WorkflowDocs.Config
