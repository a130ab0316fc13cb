import WorkflowDocs.CommandLine.Parameter
import WorkflowDocs.Text.Similarity

/-!
# Misuse of the command line

Why a command line is refused, and the text that tells it.
-/

namespace WorkflowDocs.CommandLine

/-- Something to try instead. -/
inductive Tip
  | similarOption (option : Parameter)
  /-- The option belongs to a command that follows. -/
  | afterCommand (command : Command) (option : Parameter)
  | asValue (argument : Text)
  | withoutSeparator (command : Command)
  | similarCommands (commands : List Text)
  | similarValue (value : Text)
  deriving DecidableEq, Repr

inductive Misuse
  | noWorkflowFile (given : List Parameter)
  | noValue (parameter : Parameter)
  /-- The value is none of those allowed. -/
  | unknownValue (parameter : Parameter) (value : Text)
  | refusedValue (parameter : Parameter) (value reason : Text)
  | unexpectedValue (command : Command) (option : Parameter) (value : Text) (given : List Parameter)
  | repeated (parameter : Parameter)
  | unknownArgument (command : Command) (argument : Text) (tip : Option Tip)
      (given : List Parameter)
  | unknownCommand (command : Command) (word : Text) (similar : List Text)
  deriving DecidableEq, Repr

/-! ## Usage -/

/-- How a command is called. Without a name of its own the program has its usual one, but only
where no command follows. -/
def invocation (program : Option Text) : Command → Text
  | .program => program.getD Command.program.name
  | command => Text.join [' '] (program.toList ++ [command.name])

/-- The usage of a command, with the options given. -/
def usage (program : Option Text) (command : Command) (given : List Parameter) : Text :=
  let options := (given.filter (· ≠ .workflowFile)).map Parameter.shown
  let rest : List Text := match command with
    | .program => options ++ ["<COMMAND>".toList]
    | .generate =>
      (if given.isEmpty then ["[OPTIONS]".toList] else options) ++ [Parameter.workflowFile.shown]
    | .help => ["[COMMAND]...".toList]
  Text.join [' '] (invocation program command :: rest)

/-! ## Messages -/

def inQuotes (text : Text) : Text := '\'' :: (text ++ ['\''])

namespace Tip

def text : Tip → Text
  | similarOption option =>
    "a similar argument exists: ".toList ++ inQuotes ('-' :: '-' :: option.name)
  | afterCommand command option =>
    inQuotes (command.name ++ " --".toList ++ option.name) ++ " exists".toList
  | asValue argument =>
    "to pass ".toList ++ inQuotes argument ++ " as a value, use ".toList ++
      inQuotes ("-- ".toList ++ argument)
  | withoutSeparator command =>
    "subcommand ".toList ++ inQuotes command.name ++
      " exists; to use it, remove the '--' before it".toList
  | similarCommands [word] => "a similar subcommand exists: ".toList ++ inQuotes word
  | similarCommands words =>
    "some similar subcommands exist: ".toList ++ Text.join [',', ' '] (words.map inQuotes)
  | similarValue value => "a similar value exists: ".toList ++ inQuotes value

end Tip

namespace Misuse

def noValueMessage (parameter : Parameter) : Text :=
  "a value is required for ".toList ++ inQuotes parameter.shown ++ " but none was supplied".toList

def message : Misuse → Text
  | noWorkflowFile _ =>
    "the following required arguments were not provided:\n  ".toList ++
      Parameter.workflowFile.shown
  | noValue parameter => noValueMessage parameter
  | unknownValue parameter value =>
    if value.isEmpty then noValueMessage parameter
    else "invalid value ".toList ++ inQuotes value ++ " for ".toList ++ inQuotes parameter.shown
  | refusedValue parameter value reason =>
    "invalid value ".toList ++ inQuotes value ++ " for ".toList ++ inQuotes parameter.shown ++
      ':' :: ' ' :: reason
  | unexpectedValue _ option value _ =>
    "unexpected value ".toList ++ inQuotes value ++ " for ".toList ++ inQuotes option.shown ++
      " found; no more were expected".toList
  | repeated parameter =>
    "the argument ".toList ++ inQuotes parameter.shown ++ " cannot be used multiple times".toList
  | unknownArgument _ argument _ _ =>
    "unexpected argument ".toList ++ inQuotes argument ++ " found".toList
  | unknownCommand _ word _ => "unrecognized subcommand ".toList ++ inQuotes word

/-- The values that are allowed, where that can help. -/
def choices : Misuse → List Text
  | noValue parameter => parameter.choices
  | unknownValue parameter _ => parameter.choices
  | _ => []

def tip? : Misuse → Option Tip
  | unknownValue parameter value =>
    (Text.similarTo value parameter.choices).getLast?.map .similarValue
  | unknownArgument _ _ tip _ => tip
  | unknownCommand _ _ similar => if similar.isEmpty then none else some (.similarCommands similar)
  | _ => none

/-- The command whose usage is told, with the options given. -/
def usage? : Misuse → Option (Command × List Parameter)
  | noWorkflowFile given => some (.generate, given ++ [.workflowFile])
  | unexpectedValue command _ _ given => some (command, given)
  | repeated _ => some (.generate, [])
  | unknownArgument command _ _ given => some (command, given)
  | unknownCommand command _ _ => some (command, [])
  | noValue _ | unknownValue .. | refusedValue .. => none

/-- A command without options has no help to offer. -/
def offersHelp : Misuse → Bool
  | unknownCommand .help _ _ => false
  | _ => true

/-- The whole text: message, allowed values, tip, usage and where to find help. -/
def text (program : Option Text) (misuse : Misuse) : Text :=
  "error: ".toList ++ misuse.message ++
    (if misuse.choices.isEmpty then []
      else "\n  [possible values: ".toList ++ Text.join [',', ' '] misuse.choices ++ [']']) ++
    (match misuse.tip? with
      | some tip => "\n\n  tip: ".toList ++ tip.text
      | none => []) ++
    (match misuse.usage? with
      | some (command, given) => "\n\nUsage: ".toList ++ usage program command given
      | none => []) ++
    (if misuse.offersHelp then "\n\nFor more information, try '--help'.\n".toList else ['\n'])

end Misuse

end WorkflowDocs.CommandLine
