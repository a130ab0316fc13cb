import WorkflowDocs.Yaml.Mark
import WorkflowDocs.Yaml.Source

/-!
# Reading a text

A cursor holds the rest of a text and the place where it begins. A scan moves the cursor or stops
at a fault. Behind a text that can be read to its end there is nothing but its end; behind another
one no scan can look.
-/

namespace WorkflowDocs.Yaml

/-- The characters that end a line: the two of ASCII, next line, and the two separators. -/
def isBreak (c : Char) : Bool :=
  c = '\n' || c = '\r' || c = '\u0085' || c = '\u2028' || c = '\u2029'

def isSpacing (c : Char) : Bool := c = ' ' || c = '\t'

/-- The end of a text reads as NUL, which no workflow file may hold. -/
def finish : Char := '\x00'

/-- A line break or the end of the text. -/
def endsLine (c : Char) : Bool := isBreak c || c = finish

/-- A space, a line break or the end of the text. -/
def endsWord (c : Char) : Bool := isSpacing c || endsLine c

/-- The characters of names. -/
def isNameChar (c : Char) : Bool := c.isAlphanum || c = '-' || c = '_'

structure Cursor where
  rest : Text
  mark : Mark
  /-- The number of bytes before the character for which the text ends early. -/
  forbidden : Option Nat
  deriving DecidableEq, Repr

namespace Cursor

/-- Behind the next character, which is no line break. -/
def next (cursor : Cursor) : Cursor :=
  match cursor.rest with
  | [] => cursor
  | c :: rest => { cursor with rest, mark := cursor.mark.next c }

/-- The next line break as it counts in a scalar, and the cursor behind it. The breaks of ASCII
and next line all count as `\n`. -/
def takeBreak (cursor : Cursor) : Text × Cursor :=
  match cursor.rest with
  | '\r' :: '\n' :: rest => (['\n'], { cursor with rest, mark := cursor.mark.nextLine 2 })
  | c :: rest =>
    let behind : Cursor := { cursor with rest, mark := cursor.mark.nextLine c.utf8Size }
    if c = '\u2028' || c = '\u2029' then ([c], behind)
    else if isBreak c then (['\n'], behind)
    else ([], cursor)
  | [] => ([], cursor)

end Cursor

abbrev Scan := StateT Cursor (Except Fault)

namespace Scan

/-- What is read behind the rest: the end of the text, unless that is early. -/
def behindRest : Scan Char := do
  match (← get).forbidden with
  | none => return finish
  | some offset => throw (.controlCharacter offset)

/-- The character `n` places ahead. -/
def ahead (n : Nat) : Scan Char := do
  match (← get).rest[n]? with
  | some c => return c
  | none => behindRest

def here : Scan Char := ahead 0

def mark : Scan Mark := return (← get).mark

def skip : Scan Unit := modify Cursor.next

/-- Moves behind a line break, if there is one, and returns what it counts as. -/
def lineBreak : Scan Text := do
  let (text, cursor) := (← get).takeBreak
  set cursor
  return text

/-- Stops here, inside the construct that began at `start`. -/
def fail {α : Type} (context : String) (start : Mark) (problem : String) : Scan α := do
  throw (.broken problem.toList (← mark) (some (context.toList, start)))

/-- The length of the rest, which bounds every loop over it. -/
def bound : Scan Nat := return (← get).rest.length + 1

/-- The characters up to the first that `p` refuses; none of them may be a line break. -/
def spanOf (p : Char → Bool) : Text → Mark → Text × Text × Mark
  | [], mark => ([], [], mark)
  | c :: rest, mark =>
    if p c then
      let (taken, rest, mark) := spanOf p rest (mark.next c)
      (c :: taken, rest, mark)
    else ([], c :: rest, mark)

def takeWhile (p : Char → Bool) : Scan Text := do
  let cursor ← get
  let (taken, rest, mark) := spanOf p cursor.rest cursor.mark
  set { cursor with rest, mark }
  let _ ← here
  return taken

def skipSpacing : Scan Unit := do
  let _ ← takeWhile isSpacing

/-- Skips a comment, if there is one, up to the end of its line. -/
def skipComment : Scan Unit := do
  if (← here) = '#' then
    let _ ← takeWhile fun c => !endsLine c

/-- `---` or `...` stands at the start of this line, as a word of its own. -/
def atDocumentMark : Scan Bool := do
  let cursor ← get
  match cursor.rest with
  | a :: b :: c :: _ =>
    return cursor.mark.column = 0 && a = b && b = c && (a = '-' || a = '.') && endsWord (← ahead 3)
  | _ => return false

end Scan

end WorkflowDocs.Yaml
