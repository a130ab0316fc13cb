import WorkflowDocs.CommandLine.Arguments

/-!
# Parameters

What can stand on a command line besides the commands: the workflow file, options with a value
and options without.
-/

namespace WorkflowDocs.CommandLine

inductive Command
  /-- The program itself. -/
  | program
  | generate
  | help
  deriving DecidableEq, Repr

namespace Command

def name : Command → Text
  | program => "workflowdoc".toList
  | generate => "generate".toList
  | help => "help".toList

/-- The commands that can follow. -/
def following : Command → List Command
  | program => [generate, help]
  | generate => []
  | help => []

def summary : Command → Text
  | program => "Generate markdown documentation for GitHub Actions workflows".toList
  | generate => "Render markdown documentation for a workflow file".toList
  | help => "Print this message or the help of the given subcommand(s)".toList

end Command

inductive Parameter
  | workflowFile
  | updateReadme
  | readmeFile
  | startMarker
  | endMarker
  | lineBreaks
  | tocLevel
  | output
  | format
  | verbose
  | config
  | help
  | version
  deriving DecidableEq, Repr

namespace Parameter

/-- The name of an option, without dashes. -/
def name : Parameter → Text
  | workflowFile => []
  | updateReadme => "update-readme".toList
  | readmeFile => "readme-file".toList
  | startMarker => "start-marker".toList
  | endMarker => "end-marker".toList
  | lineBreaks => "line-breaks".toList
  | tocLevel => "toc-level".toList
  | output => "output".toList
  | format => "format".toList
  | verbose => "verbose".toList
  | config => "config".toList
  | help => "help".toList
  | version => "version".toList

/-- What stands for the value, unless there is none. -/
def valueName? : Parameter → Option Text
  | workflowFile => some "WORKFLOW_FILE".toList
  | readmeFile | output | config => some "FILE".toList
  | startMarker | endMarker => some "TEXT".toList
  | lineBreaks => some "STYLE".toList
  | tocLevel => some "LEVEL".toList
  | format => some "FORMAT".toList
  | updateReadme | verbose | help | version => none

/-- A parameter as usage lines and messages show it. -/
def shown (parameter : Parameter) : Text :=
  let value := parameter.valueName?.map fun name => '<' :: (name ++ ['>'])
  let option := if parameter.name.isEmpty then none else some ('-' :: '-' :: parameter.name)
  Text.join [' '] ([option, value].filterMap id)

/-- The words that a value must be one of, if only some are allowed. -/
def choices : Parameter → List Text
  | format => Format.all.map Format.name
  | _ => []

def summary : Parameter → Text
  | workflowFile => "Workflow (or action metadata) file to analyse and document".toList
  | updateReadme => "Replace the marker region of the README with the generated markdown".toList
  | readmeFile => "README to update (default: README.md)".toList
  | startMarker => "Marker opening the injection region (default: <!--start-->)".toList
  | endMarker => "Marker closing the injection region (default: <!--end-->)".toList
  | lineBreaks => "Line endings of the generated markdown: LF or CRLF (default: LF)".toList
  | tocLevel => "Heading level of the generated sections, 1-6 (default: 2)".toList
  | output => "Also write the markdown to this file".toList
  | format => "Print markdown or a JSON document with every section".toList
  | verbose => "Enable debug logging on stderr".toList
  | config => "Path to config file (default: ./workflowdoc.toml)".toList
  | help => "Print help".toList
  | version => "Print version".toList

end Parameter

/-- The options of a command, in the order in which they are compared with a misspelt name. -/
def Command.options : Command → List Parameter
  | .program => [.help, .version]
  | .generate =>
    [.updateReadme, .readmeFile, .startMarker, .endMarker, .lineBreaks, .tocLevel, .output, .format,
      .verbose, .config, .help]
  | .help => []

def Command.option? (command : Command) (name : Text) : Option Parameter :=
  command.options.find? fun parameter => parameter.name = name

example : Parameter.tocLevel.shown = "--toc-level <LEVEL>".toList := by decide +kernel
example : Parameter.workflowFile.shown = "<WORKFLOW_FILE>".toList := by decide +kernel

end WorkflowDocs.CommandLine
