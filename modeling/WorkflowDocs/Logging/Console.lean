import WorkflowDocs.Text.Blank

/-!
# Where log lines appear
-/

namespace WorkflowDocs.Logging

inductive Console
  | stdout
  | stderr
  | none
  deriving DecidableEq, Repr

namespace Console

def name : Console → Text
  | stdout => "stdout".toList
  | stderr => "stderr".toList
  | none => "none".toList

/-- The sink a person names, in any case and with blanks around it. Folding ASCII is enough: no
other character has a small letter among those of the names. -/
def ofText? (text : Text) : Option Console :=
  let word := text.trim.lowered
  if word = "stdout".toList then some stdout
  else if word = "stderr".toList then some stderr
  else if word = "none".toList then some none
  else Option.none

def unknownMessage (text : Text) : Text :=
  "invalid logging.console_output '".toList ++ text ++
    "'; supported values are stdout, stderr, none".toList

end Console

end WorkflowDocs.Logging
