import WorkflowDocs.Text.Blank

/-!
# Line breaks

The two styles of line break the generated documents are written with, and rewriting a text to
one of them. `\r\n`, a lone `\r` and a lone `\n` each count as one break.
-/

namespace WorkflowDocs

inductive LineBreaks
  | lf
  | crlf
  deriving DecidableEq, Repr

namespace LineBreaks

def terminator : LineBreaks → Text
  | lf => ['\n']
  | crlf => ['\r', '\n']

def name : LineBreaks → Text
  | lf => "LF".toList
  | crlf => "CRLF".toList

/-- The style a person names, in any case and with blanks around it. Folding ASCII is enough:
no other character has a small letter among those of the two names. -/
def ofText? (text : Text) : Option LineBreaks :=
  let word := text.trim.lowered
  if word = "lf".toList then some lf
  else if word = "crlf".toList then some crlf
  else none

def unknownMessage (text : Text) : Text :=
  "invalid line breaks '".toList ++ text ++ "'; supported values are LF, CRLF".toList

theorem ofText?_name (style : LineBreaks) : ofText? style.name = some style := by
  cases style <;> decide

end LineBreaks

namespace Text

/-- Every `\r\n` becomes `\n`. -/
def foldPairs : Text → Text
  | [] => []
  | '\r' :: '\n' :: rest => '\n' :: foldPairs rest
  | c :: rest => c :: foldPairs rest

/-- Every break becomes `\n`. -/
def unifyBreaks (text : Text) : Text := replaceChar '\r' ['\n'] (foldPairs text)

/-- Every break becomes the terminator of `style`. -/
def normalizeBreaks (style : LineBreaks) (text : Text) : Text :=
  match style with
  | .lf => unifyBreaks text
  | .crlf => replaceChar '\n' ['\r', '\n'] (unifyBreaks text)

/-- The text without the `\r` and `\n` at its end. -/
def dropFinalBreaks (text : Text) : Text :=
  (text.reverse.dropWhile fun c => c = '\r' || c = '\n').reverse

example : normalizeBreaks .crlf "a\r\r\n\n\rb".toList = "a\r\n\r\n\r\n\r\nb".toList := by decide

end Text

end WorkflowDocs
