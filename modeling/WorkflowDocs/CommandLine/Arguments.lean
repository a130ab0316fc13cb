import WorkflowDocs.Config

/-!
# The arguments of a run

What a command line asks for. Settings named there win over those from files and the environment.
-/

namespace WorkflowDocs.CommandLine

inductive Format
  | markdown
  | json
  deriving DecidableEq, Repr

namespace Format

def name : Format → Text
  | markdown => "markdown".toList
  | json => "json".toList

def all : List Format := [markdown, json]

def description : Format → Text
  | markdown => "The assembled markdown document".toList
  | json => "JSON payload with each section, suitable for downstream tooling".toList

end Format

structure Arguments where
  workflowFile : Text
  updateReadme : Bool := false
  readmeFile : Option Text := none
  startMarker : Option Text := none
  endMarker : Option Text := none
  lineBreaks : Option LineBreaks := none
  /-- A byte. -/
  tocLevel : Option Nat := none
  output : Option Text := none
  format : Format := .markdown
  verbose : Bool := false
  configFile : Option Text := none
  deriving DecidableEq, Repr

/-- The settings with those from the command line. -/
def Arguments.override (arguments : Arguments) (config : Config) : Config where
  render :=
    { lineBreaks := arguments.lineBreaks.getD config.render.lineBreaks
      tocLevel := arguments.tocLevel.getD config.render.tocLevel }
  readme :=
    { file := arguments.readmeFile.getD config.readme.file
      startMarker := arguments.startMarker.getD config.readme.startMarker
      endMarker := arguments.endMarker.getD config.readme.endMarker }

end WorkflowDocs.CommandLine
