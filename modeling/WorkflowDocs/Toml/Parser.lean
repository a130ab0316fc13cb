import WorkflowDocs.Text

/-!
# Parsers with one place of failure

A parser takes a prefix of a text or fails. It fails in one of two ways: another parser may still
be tried, or the whole text is refused. The place where the text is refused is the place where the
last parser stopped, and the message names what was expected there.
-/

namespace WorkflowDocs.Toml

/-- The rest of a text and the number of bytes before it. -/
structure Cursor where
  rest : Text
  offset : Nat
  deriving DecidableEq, Repr

def Cursor.next (cursor : Cursor) : Cursor :=
  match cursor.rest with
  | [] => cursor
  | c :: rest => ⟨rest, cursor.offset + c.utf8Size⟩

/-- A range of bytes. -/
structure Span where
  start : Nat
  stop : Nat
  deriving DecidableEq, Repr

/-- What is known about a failure: what was being read, innermost first, what would have been
right, and the reason if the text was well-formed. -/
structure Expectation where
  labels : List Text
  expected : List Text
  cause : Option Text
  deriving DecidableEq, Repr

def Expectation.nothing : Expectation := ⟨[], [], none⟩

/-- The innermost thing that is invalid, what was expected, and the reason, one a line. -/
def Expectation.message (expectation : Expectation) : Text :=
  let invalid := expectation.labels.head?.map fun label => "invalid ".toList ++ label
  let expected := if expectation.expected.isEmpty then none
    else some ("expected ".toList ++ Text.join [',', ' '] expectation.expected)
  Text.join ['\n'] ([invalid, expected, expectation.cause].filterMap id)

inductive Outcome (α : Type) where
  | ok (value : α) (cursor : Cursor)
  /-- With `final` no other parser is tried. -/
  | fail (final : Bool) (expectation : Expectation) (cursor : Cursor)

abbrev Parser (α : Type) := Cursor → Outcome α

namespace Parser

variable {α β : Type}

def succeed (value : α) : Parser α := fun cursor => .ok value cursor

def andThen (p : Parser α) (f : α → Parser β) : Parser β := fun cursor =>
  match p cursor with
  | .ok value cursor => f value cursor
  | .fail final expectation cursor => .fail final expectation cursor

instance : Monad Parser where
  pure := succeed
  bind := andThen

def fail : Parser α := fun cursor => .fail false .nothing cursor

/-- The value if there is one; otherwise the reason, told at the place where `p` started. -/
def orRefuse (p : Parser α) (f : α → Except Text β) : Parser β := fun start =>
  match p start with
  | .ok value cursor =>
    match f value with
    | .ok value => .ok value cursor
    | .error cause => .fail false ⟨[], [], some cause⟩ start
  | .fail final expectation cursor => .fail final expectation cursor

/-- Takes only values that `accept` holds for. -/
def guarded (p : Parser α) (accept : α → Bool) : Parser α := fun start =>
  match p start with
  | .ok value cursor => if accept value then .ok value cursor else .fail false .nothing start
  | .fail final expectation cursor => .fail final expectation cursor

/-- No other parser is tried after a failure of `p`. -/
def committed (p : Parser α) : Parser α := fun start =>
  match p start with
  | .fail _ expectation cursor => .fail true expectation cursor
  | found => found

def orElse (p q : Parser α) : Parser α := fun start =>
  match p start with
  | .fail false _ _ => q start
  | found => found

def optional (p : Parser α) : Parser (Option α) := fun start =>
  match p start with
  | .ok value cursor => .ok (some value) cursor
  | .fail false _ _ => .ok none start
  | .fail true expectation cursor => .fail true expectation cursor

/-- The outcome of `p`, with the text left where it was. -/
def lookAhead (p : Parser α) : Parser α := fun start =>
  match p start with
  | .ok value _ => .ok value start
  | .fail final expectation _ => .fail final expectation start

def labelled (label : String) (p : Parser α) : Parser α := fun start =>
  match p start with
  | .fail final e cursor => .fail final { e with labels := e.labels ++ [label.toList] } cursor
  | found => found

def expecting (what : String) (p : Parser α) : Parser α := fun start =>
  match p start with
  | .fail final e cursor => .fail final { e with expected := e.expected ++ [what.toList] } cursor
  | found => found

/-- The value with the bytes it was read from. -/
def spanned (p : Parser α) : Parser (α × Span) := fun start =>
  match p start with
  | .ok value cursor => .ok (value, ⟨start.offset, cursor.offset⟩) cursor
  | .fail final expectation cursor => .fail final expectation cursor

/-- The characters that were read. -/
def taken (p : Parser α) : Parser Text := fun start =>
  match p start with
  | .ok _ cursor => .ok (start.rest.take (start.rest.length - cursor.rest.length)) cursor
  | .fail final expectation cursor => .fail final expectation cursor

/-- The next character if `accept` holds for it. -/
def one (accept : Char → Bool) : Parser Char := fun cursor =>
  match cursor.rest with
  | c :: _ => if accept c then .ok c cursor.next else .fail false .nothing cursor
  | [] => .fail false .nothing cursor

def char (c : Char) : Parser Char := one (· = c)

def any : Parser Char := one fun _ => true

/-- The next character, if there is one. -/
def nextChar : Parser (Option Char) := fun cursor => .ok cursor.rest.head? cursor

def literal (text : String) : Parser Unit := fun cursor =>
  if text.toList.isPrefixOf cursor.rest then
    .ok () (text.toList.foldl (fun cursor _ => cursor.next) cursor)
  else .fail false .nothing cursor

def endOfText : Parser Unit := fun cursor =>
  if cursor.rest.isEmpty then .ok () cursor else .fail false .nothing cursor

def spanOf (accept : Char → Bool) : Nat → Text → Nat → Text × Cursor
  | 0, rest, offset => ([], ⟨rest, offset⟩)
  | _ + 1, [], offset => ([], ⟨[], offset⟩)
  | limit + 1, c :: rest, offset =>
    if accept c then
      let (found, cursor) := spanOf accept limit rest (offset + c.utf8Size)
      (c :: found, cursor)
    else ([], ⟨c :: rest, offset⟩)

/-- Characters that `accept` holds for, `least` at least and `most` at most. -/
def run (accept : Char → Bool) (least : Nat) (most : Option Nat) : Parser Text := fun start =>
  let (found, cursor) := spanOf accept (most.getD start.rest.length) start.rest start.offset
  if found.length < least then .fail false .nothing start else .ok found cursor

def runOf (accept : Char → Bool) : Parser Text := run accept 0 none

def run1 (accept : Char → Bool) : Parser Text := run accept 1 none

def manyLoop (p : Parser α) : Nat → List α → Parser (List α)
  | 0, found => succeed found.reverse
  | fuel + 1, found => fun start =>
    match p start with
    | .ok value cursor => manyLoop p fuel (value :: found) cursor
    | .fail false _ _ => .ok found.reverse start
    | .fail true expectation cursor => .fail true expectation cursor

/-- As many as there are; `p` must take at least one character. -/
def many (p : Parser α) : Parser (List α) := fun start =>
  manyLoop p (start.rest.length + 1) [] start

def many1 (p : Parser α) : Parser (List α) := do
  let first ← p
  return first :: (← many p)

/-- One or more with a separator between neighbours; a separator that nothing follows is left. -/
def separated1 (p : Parser α) (separator : Parser β) : Parser (List α) := do
  let first ← p
  return first :: (← many (do
    let _ ← separator
    p))

def separated (p : Parser α) (separator : Parser β) : Parser (List α) := do
  return (← optional (separated1 p separator)).getD []

end Parser

end WorkflowDocs.Toml
