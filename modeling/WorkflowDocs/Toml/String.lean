import WorkflowDocs.Toml.Trivia
import WorkflowDocs.Decimal.Notation

/-!
# Strings

Basic strings with escapes, literal strings without, and the multiline form of each.
-/

namespace WorkflowDocs.Toml

open Toml.Parser

/-! ## Escapes -/

def outOfRange : Text := "value is out of range".toList

/-- A character by its code in a fixed number of digits. -/
def numberedChar (count : Nat) : Parser Char :=
  orRefuse (guarded (run (fun c => (Decimal.digitValue? c).isSome) 0 (some count)) (·.length = count))
    fun digits =>
      let code := (Decimal.digitsValue? 16 digits).getD 0
      if h : code.isValidChar then .ok (Char.ofNatAux code h) else .error outOfRange

def unknownEscape : Parser Char :=
  expecting "`\"`" <| expecting "`\\`" <| expecting "`U`" <| expecting "`u`" <|
    expecting "`t`" <| expecting "`r`" <| expecting "`n`" <| expecting "`f`" <|
    expecting "`b`" <| labelled "escape sequence" <| committed fail

/-- The character behind a backslash if it has one byte. Another one is left, so that an error
is told at its place and not behind it. -/
def escapedLetter : Parser (Option Char) := do
  let c ← lookAhead any
  if c.utf8Size = 1 then return some (← any) else return none

def escape : Parser Char := do
  let _ ← char '\\'
  match ← escapedLetter with
  | some 'b' => return '\x08'
  | some 'f' => return '\x0c'
  | some 'n' => return '\n'
  | some 'r' => return '\r'
  | some 't' => return '\t'
  | some 'u' => labelled "unicode 4-digit hex code" (committed (numberedChar 4))
  | some 'U' => labelled "unicode 8-digit hex code" (committed (numberedChar 8))
  | some '\\' => return '\\'
  | some '"' => return '"'
  | _ => unknownEscape

/-! ## Strings on one line -/

def isBasicChar (c : Char) : Bool := isCommentChar c && c ≠ '"' && c ≠ '\\'

def isLiteralChar (c : Char) : Bool := isCommentChar c && c ≠ '\''

def basicPart : Parser Text := orElse (run1 isBasicChar) (do return [← escape])

def basicString : Parser Text := do
  let _ ← char '"'
  let parts ← many basicPart
  let _ ← labelled "basic string" (committed (char '"'))
  return parts.flatten

def literalString : Parser Text :=
  labelled "literal string" do
    let _ ← char '\''
    let text ← runOf isLiteralChar
    let _ ← committed (char '\'')
    return text

/-! ## Multiline strings -/

/-- A backslash at the end of a line, with the blanks up to the next text. -/
def escapedLineEnd : Parser Unit := do
  let _ ← many1 (do
    let _ ← char '\\'
    let _ ← blanks
    newline
    blankLines)

def basicContent : Parser Text :=
  orElse (run1 isBasicChar) <| orElse (do escapedLineEnd; return []) <|
    orElse (do return [← escape]) (do newline; return ['\n'])

def literalContent : Parser Text :=
  orElse (run1 isLiteralChar) (do newline; return ['\n'])

/-- Two quotes or one, if `following` comes next. -/
def quotesBefore (quote : Char) (following : Parser Unit) : Parser Text :=
  orElse (do
    let a ← char quote
    let b ← char quote
    lookAhead following
    return [a, b]) (do
    let a ← char quote
    lookAhead following
    return [a])

def ignore {α : Type} (p : Parser α) : Parser Unit := do
  let _ ← p

/-- The text between two triple quotes; up to two quotes in a row belong to the text. -/
def multilineBody (quote : Char) (delimiter : Parser Unit) (content : Parser Text) : Parser Text := do
  let parts ← many content
  let more ← many (do
    let quotes ← quotesBefore quote (ignore content)
    let parts ← many1 content
    return quotes ++ parts.flatten)
  let final ← optional (quotesBefore quote delimiter)
  return parts.flatten ++ more.flatten ++ final.getD []

def multilineString (label : String) (quote : Char) (mark : String) (content : Parser Text) :
    Parser Text :=
  labelled label do
    literal mark
    let _ ← optional newline
    let text ← committed (multilineBody quote (literal mark) content)
    committed (literal mark)
    return text

def string : Parser Text :=
  orElse (multilineString "multiline basic string" '"' "\"\"\"" basicContent) <|
    orElse basicString <|
    orElse (multilineString "multiline literal string" '\'' "'''" literalContent) literalString

end WorkflowDocs.Toml
