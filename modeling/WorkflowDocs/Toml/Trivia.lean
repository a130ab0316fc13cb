import WorkflowDocs.Toml.Parser

/-!
# Blanks, comments and line ends
-/

namespace WorkflowDocs.Toml

open Toml.Parser

def isBlank (c : Char) : Bool := c = ' ' || c = '\t'

/-- The characters of a comment: all but control characters, of which a tab is allowed. -/
def isCommentChar (c : Char) : Bool := c = '\t' || (' ' ≤ c && c ≠ '\x7f')

def blanks : Parser Text := runOf isBlank

def newline : Parser Unit := do
  let _ ← orElse (char '\n') (do
    let _ ← char '\r'
    char '\n')

def comment : Parser Unit := do
  let _ ← char '#'
  let _ ← runOf isCommentChar

def lineEnd : Parser Unit := orElse newline endOfText

/-- The rest of a line that holds nothing more. -/
def restOfLine : Parser Unit := do
  let _ ← blanks
  let _ ← optional comment
  lineEnd

/-- Blanks and line ends. -/
def blankLines : Parser Unit := do
  let _ ← many (orElse newline (do let _ ← run1 isBlank))

/-- Blanks, line ends and comments. -/
def commentedLines : Parser Unit := do
  let _ ← many (orElse (orElse newline (do let _ ← run1 isBlank)) comment)

end WorkflowDocs.Toml
