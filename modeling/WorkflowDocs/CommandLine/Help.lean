import WorkflowDocs.CommandLine.Misuse
import WorkflowDocs.Config.Load

/-!
# Help pages

Each command has a short page with a line for each parameter and a long one with a paragraph.
-/

namespace WorkflowDocs.CommandLine

def version : Text := "0.3.2".toList

/-! ## Paragraphs -/

structure Paragraph where
  /-- What is explained. -/
  subject : Text
  explanation : Text
  /-- More lines, for the long page. -/
  details : List Text := []

structure Chapter where
  title : Text
  paragraphs : List Paragraph

def padded (width : Nat) (text : Text) : Text :=
  text ++ Text.repeated (width - text.length) ' '

namespace Chapter

def width (chapter : Chapter) : Nat :=
  (chapter.paragraphs.map (·.subject.length)).foldl max 0

/-- A line for each paragraph. -/
def lines (chapter : Chapter) : Text :=
  chapter.paragraphs.flatMap fun paragraph =>
    "  ".toList ++ padded chapter.width paragraph.subject ++ "  ".toList ++
      paragraph.explanation ++ ['\n']

/-- The indent of an explanation below its subject. -/
def indent : Text := Text.repeated 10 ' '

/-- A blank line between paragraphs. -/
def blocks (chapter : Chapter) : Text :=
  Text.join ['\n'] (chapter.paragraphs.map fun paragraph =>
    "  ".toList ++ paragraph.subject ++ '\n' :: (indent ++ paragraph.explanation ++ '\n' ::
      (if paragraph.details.isEmpty then []
        else '\n' :: paragraph.details.flatMap fun line => indent ++ line ++ ['\n'])))

def text (chapter : Chapter) (long : Bool) : Text :=
  chapter.title ++ ':' :: '\n' :: if long then chapter.blocks else chapter.lines

end Chapter

/-! ## Parameters -/

namespace Parameter

def subject : Parameter → Text
  | workflowFile => workflowFile.shown
  | help => "-h, --help".toList
  | version => "-V, --version".toList
  | option => "    ".toList ++ option.shown

def explanation (long : Bool) : Parameter → Text
  | help =>
    help.summary ++ if long then " (see a summary with '-h')".toList
      else " (see more with '--help')".toList
  | format =>
    format.summary ++ if long then []
      else " [default: ".toList ++ Format.markdown.name ++ "] [possible values: ".toList ++
        Text.join [',', ' '] format.choices ++ [']']
  | parameter => parameter.summary

/-- The allowed values one a line, with what they mean, and the default. -/
def details : Parameter → List Text
  | format =>
    let width := ((Format.all.map (·.name.length)).foldl max 0) + 1
    "Possible values:".toList ::
      (Format.all.map fun choice =>
        "- ".toList ++ padded width (choice.name ++ [':']) ++ ' ' :: choice.description) ++
      [[], "[default: ".toList ++ Format.markdown.name ++ [']']]
  | _ => []

def paragraph (long : Bool) (parameter : Parameter) : Paragraph :=
  ⟨parameter.subject, parameter.explanation long, parameter.details⟩

end Parameter

/-! ## Pages -/

def generateChapters : List (Text × List Parameter) :=
  [("Arguments".toList, [.workflowFile]),
    ("Options".toList, [.help]),
    ("README Injection".toList, [.updateReadme, .readmeFile, .startMarker, .endMarker]),
    ("Rendering".toList, [.lineBreaks, .tocLevel]),
    ("Output Options".toList, [.output, .format, .verbose]),
    ("Configuration".toList, [.config])]

/-- How to call the command, and on the long page what it takes from the environment. -/
def generateNotes (long : Bool) : Text :=
  "Example:\n    workflowdoc generate .github/workflows/deploy.yml --update-readme\n".toList ++
    if long then
      "\nEnvironment:\n".toList ++
        Config.environmentNotes.flatMap fun line => "    ".toList ++ line ++ ['\n']
    else []

def generatePurpose (long : Bool) : Text :=
  if long then
    ("Generate reads a workflow or action metadata file and prints its description, inputs, " ++
      "outputs and triggers as markdown, optionally injecting the result into a README.").toList
  else Command.generate.summary

def programPage (program : Option Text) (long : Bool) : Text :=
  let options : Chapter := ⟨"OPTIONS".toList, Command.program.options.map (·.paragraph long)⟩
  let commands : Chapter :=
    ⟨"COMMANDS".toList, Command.program.following.map fun command =>
      ⟨command.name, command.summary, []⟩⟩
  Command.program.name ++ ' ' :: (version ++ '\n' :: (Command.program.summary ++ '\n' ::
    "\nUSAGE:\n    ".toList ++ usage program .program [] ++ "\n\n".toList ++
    options.text long ++ commands.text false))

def generatePage (program : Option Text) (long : Bool) : Text :=
  let texts := generateChapters.map fun (title, parameters) =>
    (Chapter.mk title (parameters.map (·.paragraph long))).text long
  generatePurpose long ++ "\n\nUsage: ".toList ++ usage program .generate [] ++ "\n\n".toList ++
    Text.join ['\n'] (texts ++ [generateNotes long])

def helpPage (program : Option Text) : Text :=
  Command.help.summary ++ "\n\nUsage: ".toList ++ usage program .help [] ++ "\n\n".toList ++
    (Chapter.mk "Arguments".toList
      [⟨"[COMMAND]...".toList, "Print help for the subcommand(s)".toList, []⟩]).text false

def page (program : Option Text) (long : Bool) : Command → Text
  | .program => programPage program long
  | .generate => generatePage program long
  | .help => helpPage program

end WorkflowDocs.CommandLine
