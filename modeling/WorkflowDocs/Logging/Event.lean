import WorkflowDocs.Text

/-!
# Log events

What the program tells about its own work: a message with named values, a level, and the spans of
work it happened in.
-/

namespace WorkflowDocs.Logging

inductive Level
  | error
  | warn
  | info
  | debug
  | trace
  deriving DecidableEq, Repr

namespace Level

/-- Events above the limit of a filter are left out. -/
def verbosity : Level → Nat
  | error => 1
  | warn => 2
  | info => 3
  | debug => 4
  | trace => 5

/-- The name, right-aligned in five characters. -/
def label : Level → Text
  | error => "ERROR".toList
  | warn => " WARN".toList
  | info => " INFO".toList
  | debug => "DEBUG".toList
  | trace => "TRACE".toList

end Level

abbrev Field := Text × Text

/-- The part of the program that reports. -/
abbrev Target := Text

/-- A stretch of work, reported at level `info`. -/
structure Span where
  name : Text
  target : Target
  fields : List Field
  deriving DecidableEq, Repr

structure Event where
  level : Level
  target : Target
  message : Text
  fields : List Field
  /-- The spans it happened in, the outermost first. -/
  spans : List Span
  deriving DecidableEq, Repr

def fieldTexts (fields : List Field) : List Text :=
  fields.map fun (name, value) => name ++ '=' :: value

def Span.text (span : Span) : Text :=
  span.name ++ '\x7b' :: (Text.join [' '] (fieldTexts span.fields) ++ ['\x7d'])

/-- One line of a log. -/
def Event.line (time : Text) (event : Event) : Text :=
  let spans := event.spans.map Span.text
  time ++ ' ' :: (event.level.label ++ ' ' ::
    ((if spans.isEmpty then [] else Text.join [':'] spans ++ [':', ' ']) ++
      Text.join [' '] (event.message :: fieldTexts event.fields) ++ ['\n']))

end WorkflowDocs.Logging
