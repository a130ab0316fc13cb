import WorkflowDocs.CommandLine.Help

/-!
# Reading a command line

The words of a command line, one after the other. An option that is named without its value takes
the next word as its value if that has no dash. A value is looked at only when the next parameter
or the end is reached, so that an unknown option before that is told first.
-/

namespace WorkflowDocs.CommandLine

/-- Why a command line leads to no run. -/
inductive Halt
  | help (command : Command) (long : Bool)
  | version
  | noCommand
  | misuse (cause : Misuse)
  deriving DecidableEq, Repr

namespace Halt

def text (program : Option Text) : Halt → Text
  | help command long => page program long command
  | version => Command.program.name ++ ' ' :: (CommandLine.version ++ ['\n'])
  | noCommand => page program false .program
  | misuse cause => cause.text program

/-- It is what was asked for. -/
def isAnswer : Halt → Bool
  | help .. | version => true
  | noCommand | misuse _ => false

def exitCode (halt : Halt) : Nat := if halt.isAnswer then 0 else 2

end Halt

/-! ## Values -/

/-- Decimal digits as a 64-bit integer, or what is wrong at the first place that is wrong. -/
def integerOfDigits (negative : Bool) : Text → Int → Except Text Int
  | [], value => .ok value
  | c :: rest, value =>
    if !c.isDigit then .error "invalid digit found in string".toList
    else
      let digit : Int := c.toNat - '0'.toNat
      let next := if negative then 10 * value - digit else 10 * value + digit
      if next ≥ Decimal.signedBound 64 then .error "number too large to fit in target type".toList
      else if next < -Decimal.signedBound 64 then
        .error "number too small to fit in target type".toList
      else integerOfDigits negative rest next

/-- A 64-bit integer with an optional sign. -/
def integer (text : Text) : Except Text Int :=
  match text with
  | [] => .error "cannot parse integer from empty string".toList
  | ['+'] | ['-'] => .error "invalid digit found in string".toList
  | '+' :: digits => integerOfDigits false digits 0
  | '-' :: digits => integerOfDigits true digits 0
  | digits => integerOfDigits false digits 0

/-- A number from 0 to 255. -/
def byte (text : Text) : Except Text Nat := do
  let value ← integer text
  if 0 ≤ value && value ≤ 255 then return value.toNat
  else throw (Text.ofInt value ++ " is not in 0..=255".toList)

/-- A path must not be empty. -/
def path (parameter : Parameter) (value : Text) : Except Misuse Text :=
  if value.isEmpty then .error (.noValue parameter) else .ok value

/-- The arguments with a value for a parameter. The value of an option without one is ignored. -/
def Arguments.set (arguments : Arguments) (parameter : Parameter) (value : Text) :
    Except Misuse Arguments :=
  match parameter with
  | .workflowFile => (path parameter value).map fun file => { arguments with workflowFile := file }
  | .updateReadme => .ok { arguments with updateReadme := true }
  | .readmeFile => (path parameter value).map fun file => { arguments with readmeFile := some file }
  | .startMarker => .ok { arguments with startMarker := some value }
  | .endMarker => .ok { arguments with endMarker := some value }
  | .lineBreaks =>
    match LineBreaks.ofText? value with
    | some style => .ok { arguments with lineBreaks := some style }
    | none => .error (.refusedValue parameter value (LineBreaks.unknownMessage value))
  | .tocLevel =>
    match byte value with
    | .ok level => .ok { arguments with tocLevel := some level }
    | .error reason => .error (.refusedValue parameter value reason)
  | .output => (path parameter value).map fun file => { arguments with output := some file }
  | .format =>
    match Format.all.find? fun format => format.name = value with
    | some format => .ok { arguments with format }
    | none => .error (.unknownValue parameter value)
  | .verbose => .ok { arguments with verbose := true }
  | .config => (path parameter value).map fun file => { arguments with configFile := some file }
  | .help | .version => .ok arguments

/-! ## Words -/

inductive Word
  /-- Two dashes alone: all words that follow are values. -/
  | separator
  /-- The name of an option, and its value if an equals sign follows. -/
  | option (name : Text) (value : Option Text)
  /-- The first of some one-letter options. -/
  | letter (letter : Char)
  | value (text : Text)
  deriving DecidableEq, Repr

def Word.ofText (text : Text) : Word :=
  match text with
  | ['-', '-'] => separator
  | '-' :: '-' :: rest =>
    match Text.splitFirst ['='] rest with
    | some (name, attached) => option name (some attached)
    | none => option rest none
  | '-' :: c :: _ => letter c
  | _ => value text

/-! ## The command `generate` -/

/-- The arguments as far as they have been read. -/
structure Draft where
  arguments : Arguments
  /-- The parameters that have a value, in order. -/
  given : List Parameter
  /-- The parameter that was named last, with its value unless that is still to come. -/
  pending : Option (Parameter × Option Text)

namespace Draft

def start : Draft := ⟨{ workflowFile := [] }, [], none⟩

/-- Gives a parameter its value. -/
def take (draft : Draft) (parameter : Parameter) (value : Text) : Draft × Option Misuse :=
  if draft.given.contains parameter then
    ({ draft with given := draft.given.erase parameter }, some (.repeated parameter))
  else
    let draft := { draft with given := draft.given ++ [parameter] }
    match draft.arguments.set parameter value with
    | .ok arguments => ({ draft with arguments }, none)
    | .error misuse => (draft, some misuse)

/-- Gives the pending parameter its value. -/
def settle (draft : Draft) : Draft × Option Misuse :=
  let rest := { draft with pending := none }
  match draft.pending with
  | none => (draft, none)
  | some (parameter, none) => (rest, some (.noValue parameter))
  | some (parameter, some value) => rest.take parameter value

def ensure : Draft × Option Misuse → Except Halt Draft
  | (draft, none) => .ok draft
  | (_, some misuse) => .error (.misuse misuse)

def hasFile (draft : Draft) : Bool :=
  draft.given.contains .workflowFile || draft.pending.any (·.1 = .workflowFile)

/-- An option that `generate` does not have. -/
def unknownOption (draft : Draft) (name : Text) : Misuse :=
  let given := draft.settle.1.given
  let argument := '-' :: '-' :: name
  let similar := (Text.similarTo name (Command.generate.options.map Parameter.name)).getLast?
  match similar.bind Command.generate.option? with
  | some option =>
    .unknownArgument .generate argument (some (.similarOption option))
      (if given.contains option then given else given ++ [option])
  | none => .unknownArgument .generate argument (some (.asValue argument)) given

def readOption (draft : Draft) (name : Text) (value : Option Text) : Except Halt Draft := do
  match Command.generate.option? name, value with
  | none, _ => throw (.misuse (draft.unknownOption name))
  | some option, some value =>
    if option.valueName?.isSome then
      let draft ← ensure draft.settle
      ensure (draft.take option value)
    else
      let given := draft.given.filter (· ≠ .workflowFile)
      throw (.misuse (.unexpectedValue .generate option value
        (if given.contains option then given else given ++ [option])))
  | some option, none =>
    let draft ← ensure draft.settle
    if option.valueName?.isSome then return { draft with pending := some (option, none) }
    else if option = .help then throw (.help .generate true)
    else ensure (draft.take option [])

/-- A word that belongs to no option. -/
def readFile (draft : Draft) (word : Text) : Except Halt Draft := do
  if draft.hasFile then throw (.misuse (.unknownArgument .generate word none []))
  let draft ← ensure draft.settle
  return { draft with pending := some (.workflowFile, some word) }

def readWord (draft : Draft) (word : Word) : Except Halt Draft :=
  match word with
  | .separator => .ok draft
  | .option name value => draft.readOption name value
  | .letter c =>
    if c = 'h' then do
      let _ ← ensure draft.settle
      throw (.help .generate false)
    else
      .error (.misuse (.unknownArgument .generate ['-', c] (some (.asValue ['-', c])) []))
  | .value text =>
    match draft.pending with
    | some (parameter, none) => .ok { draft with pending := some (parameter, some text) }
    | _ => draft.readFile text

def finish (draft : Draft) : Except Halt Arguments := do
  let draft ← ensure draft.settle
  if draft.given.contains .workflowFile then return draft.arguments
  else throw (.misuse (.noWorkflowFile draft.given))

/-- The words after `generate`. -/
def read (draft : Draft) : List Text → Except Halt Arguments
  | [] => draft.finish
  | word :: rest => do
    match Word.ofText word with
    | .separator => (← rest.foldlM readFile draft).finish
    | word => read (← draft.readWord word) rest

end Draft

/-! ## The program -/

/-- The commands whose help is asked for, each after the one it follows. -/
def helpFor (command : Command) : List Text → Halt
  | [] => .help command true
  | word :: rest =>
    match command.following.find? fun next => next.name = word with
    | some next => helpFor next rest
    | none => .misuse (.unknownCommand command word [])

def unknownCommand (word : Text) : Halt :=
  .misuse (.unknownCommand .program word
    (Text.similarTo word (Command.program.following.map Command.name)))

/-- An option that stands before the command. -/
def programOption (name : Text) (value : Option Text) (rest : List Text) : Halt :=
  match Command.program.option? name, value with
  | some option, some value => .misuse (.unexpectedValue .program option value [option])
  | some .help, none => .help .program true
  | some _, none => .version
  | none, _ =>
    let argument := '-' :: '-' :: name
    let similarIn (command : Command) : Option Parameter :=
      (Text.similarTo name (command.options.map Parameter.name)).getLast?.bind command.option?
    match similarIn .program with
    | some option =>
      .misuse (.unknownArgument .program argument (some (.similarOption option)) [option])
    | none =>
      let tip := if rest.contains Command.generate.name then
        (similarIn .generate).map (.afterCommand .generate) else none
      .misuse (.unknownArgument .program argument tip [])

/-- The words after the program's name. -/
def readCommand : List Text → Except Halt Arguments
  | [] => .error .noCommand
  | word :: rest =>
    match Word.ofText word with
    | .separator =>
      match rest with
      | [] => .error .noCommand
      | word :: _ =>
        match Command.program.following.find? fun command => command.name = word with
        | some command =>
          .error (.misuse (.unknownArgument .program word (some (.withoutSeparator command)) []))
        | none => .error (unknownCommand word)
    | .option name value => .error (programOption name value rest)
    | .letter 'h' => .error (.help .program false)
    | .letter 'V' => .error .version
    | .letter c => .error (.misuse (.unknownArgument .program ['-', c] none []))
    | .value text =>
      if text = Command.generate.name then Draft.start.read rest
      else if text = Command.help.name then .error (helpFor .program rest)
      else .error (unknownCommand text)

/-- The name that the program was called by, as far as messages show it. -/
def programName (words : List Text) : Option Text := words.head?.bind Path.fileName?

/-- The arguments on a command line that starts with the program's name. -/
def Arguments.ofWords (words : List Text) : Except Halt Arguments := readCommand (words.drop 1)

end WorkflowDocs.CommandLine
