import WorkflowDocs.Decimal.Notation
import WorkflowDocs.Yaml.Cursor

/-!
# Scalars

Reading the three forms of scalars: quoted, block and plain. Line folding and escapes are undone
here.
-/

namespace WorkflowDocs.Yaml

open Scan

/-- What stands between two words of a scalar: spaces, or a first line break and further ones. -/
structure Gap where
  spaces : Text
  first : Text
  more : Text
  broken : Bool

namespace Gap

def empty : Gap := ⟨[], [], [], false⟩

/-- A gap opened by a line break that was escaped. -/
def escaped : Gap := ⟨[], [], [], true⟩

/-- One line break becomes a space, further ones stay; the spaces around them go. -/
def folded (gap : Gap) : Text :=
  if !gap.broken then gap.spaces
  else if gap.first.head? = some '\n' then
    if gap.more.isEmpty then [' '] else gap.more
  else gap.first ++ gap.more

def addSpace (gap : Gap) (c : Char) : Gap :=
  if gap.broken then gap else { gap with spaces := gap.spaces ++ [c] }

def addBreak (gap : Gap) (text : Text) : Gap :=
  if gap.broken then { gap with more := gap.more ++ text } else ⟨[], text, [], true⟩

/-- Reads the spaces and line breaks here. In a plain scalar (`indent` given, with its start) a
tab must not stand in the indentation. -/
def read (indent : Option (Int × Mark)) : Nat → Gap → Scan Gap
  | 0, gap => return gap
  | fuel + 1, gap => do
    let c ← here
    if isSpacing c then
      if let some (column, start) := indent then
        if gap.broken && (← mark).column < column && c = '\t' then
          fail "while scanning a plain scalar" start
            "found a tab character that violates indentation"
      skip
      read indent fuel (gap.addSpace c)
    else if isBreak c then
      let text ← lineBreak
      read indent fuel (gap.addBreak text)
    else return gap

end Gap

/-! ## Quoted scalars -/

/-- Escapes of one letter. -/
def escapedLetter? (c : Char) : Option Char :=
  match c with
  | '0' => some '\x00'
  | 'a' => some '\x07'
  | 'b' => some '\x08'
  | 't' => some '\t'
  | '\t' => some '\t'
  | 'n' => some '\n'
  | 'v' => some '\x0b'
  | 'f' => some '\x0c'
  | 'r' => some '\r'
  | 'e' => some '\x1b'
  | ' ' => some ' '
  | '"' => some '"'
  | '/' => some '/'
  | '\\' => some '\\'
  | 'N' => some '\u0085'
  | '_' => some '\u00a0'
  | 'L' => some '\u2028'
  | 'P' => some '\u2029'
  | _ => none

/-- The number of digits behind the letter of a numbered escape. -/
def escapedDigits? (c : Char) : Option Nat :=
  match c with
  | 'x' => some 2
  | 'u' => some 4
  | 'U' => some 8
  | _ => none

/-- The character with a code, unless the code is outside Unicode or a surrogate. -/
def charOf? (code : Nat) : Option Char :=
  if h : code.isValidChar then some (Char.ofNatAux code h) else none

/-- The character an escape stands for; the backslash is next. -/
def escape (start : Mark) : Scan Char := do
  let letter ← ahead 1
  match escapedLetter? letter, escapedDigits? letter with
  | some c, _ =>
    skip
    skip
    return c
  | none, some count =>
    skip
    skip
    let _ ← ahead (count - 1)
    let digits := (← get).rest.take count
    match if digits.length = count then Decimal.digitsValue? 16 digits else none with
    | none => fail "while parsing a quoted scalar" start "did not find expected hexadecimal number"
    | some code =>
      match charOf? code with
      | none =>
        fail "while parsing a quoted scalar" start "found invalid Unicode character escape code"
      | some c =>
        let _ ← (List.range count).mapM fun _ => skip
        return c
  | none, none => fail "while parsing a quoted scalar" start "found unknown escape character"

/-- The characters up to a space, a line break or the closing quote, in reverse before `taken`,
and whether the word ended with an escaped line break. -/
def quotedWord (single : Bool) (start : Mark) : Nat → Text → Scan (Text × Bool)
  | 0, taken => return (taken, false)
  | fuel + 1, taken => do
    let c ← here
    if endsWord c then return (taken, false)
    else if single then
      if c = '\'' then
        if (← ahead 1) = '\'' then
          skip
          skip
          quotedWord single start fuel ('\'' :: taken)
        else return (taken, false)
      else
        skip
        quotedWord single start fuel (c :: taken)
    else if c = '"' then return (taken, false)
    else if c = '\\' then
      if isBreak (← ahead 1) then
        skip
        let _ ← lineBreak
        return (taken, true)
      else
        let escaped ← escape start
        quotedWord single start fuel (escaped :: taken)
    else
      skip
      quotedWord single start fuel (c :: taken)

def quotedWords (single : Bool) (start : Mark) : Nat → Text → Scan Text
  | 0, taken => return taken.reverse
  | fuel + 1, taken => do
    if ← atDocumentMark then
      fail "while scanning a quoted scalar" start "found unexpected document indicator"
    if (← here) = finish then
      fail "while scanning a quoted scalar" start "found unexpected end of stream"
    let (taken, escaped) ← quotedWord single start (← bound) taken
    if (← here) = (if single then '\'' else '"') then
      skip
      return taken.reverse
    else
      let gap ← Gap.read none (← bound) (if escaped then .escaped else .empty)
      quotedWords single start fuel (gap.folded.reverse ++ taken)

/-- A scalar in single or double quotes; the opening quote is next. -/
def quotedScalar (single : Bool) : Scan Text := do
  let start ← mark
  skip
  quotedWords single start (← bound) []

/-! ## Block scalars -/

inductive Chomping
  | strip
  | clip
  | keep
  deriving DecidableEq, Repr

/-- Line breaks below a block scalar's lines, with the place behind them. With `indent` zero the
indentation is not known yet: it is that of the deepest line read here, and at least one more
than the surrounding block's. -/
def blockBreaks (outer : Int) (start : Mark) : Nat → Nat → Nat → Text → Mark →
    Scan (Nat × Text × Mark)
  | 0, indent, _, breaks, stop => return (indent, breaks, stop)
  | fuel + 1, indent, deepest, breaks, stop => do
    let unsettled (column : Nat) : Bool := indent = 0 || column < indent
    if unsettled (← mark).column && (← here) = ' ' then
      skip
      blockBreaks outer start fuel indent deepest breaks stop
    else
      let column := (← mark).column
      let deepest := max deepest column
      if unsettled column && (← here) = '\t' then
        fail "while scanning a block scalar" start
          "found a tab character where an indentation space is expected"
      else if isBreak (← here) then
        let text ← lineBreak
        blockBreaks outer start fuel indent deepest (breaks ++ text) (← mark)
      else
        let found := max (max deepest (outer + 1).toNat) 1
        return (if indent = 0 then found else indent, breaks, stop)

/-- The lines of a block scalar, in reverse before `taken`; `lead` is the break that ended the
line before, `breaks` are the empty lines behind it. -/
def blockLines (literal : Bool) (outer : Int) (start : Mark) (indent : Nat) :
    Nat → Text → Text → Text → Bool → Mark → Scan (Text × Text × Text × Mark)
  | 0, taken, lead, breaks, _, stop => return (taken, lead, breaks, stop)
  | fuel + 1, taken, lead, breaks, leadingBlank, stop => do
    let c ← here
    if (← mark).column = indent && c ≠ finish then
      let blank := isSpacing c
      let joint : Text :=
        if !literal && lead.head? = some '\n' && !leadingBlank && !blank then
          if breaks.isEmpty then [' '] else breaks
        else lead ++ breaks
      let line ← takeWhile fun c => !endsLine c
      let lead ← lineBreak
      let (_, breaks, stop) ← blockBreaks outer start (← bound) indent 0 [] (← mark)
      blockLines literal outer start indent fuel (line.reverse ++ (joint.reverse ++ taken)) lead
        breaks blank stop
    else return (taken, lead, breaks, stop)

/-- The digit of an indentation indicator. -/
def indentIndicator (start : Mark) : Scan (Option Nat) := do
  let c ← here
  if c = '0' then
    fail "while scanning a block scalar" start "found an indentation indicator equal to 0"
  else if c.isDigit then
    skip
    return some (c.toNat - '0'.toNat)
  else return none

def chompingIndicator : Scan (Option Chomping) := do
  let c ← here
  if c = '+' then
    skip
    return some .keep
  else if c = '-' then
    skip
    return some .strip
  else return none

/-- The two indicators in either order. -/
def blockHeader (start : Mark) : Scan (Chomping × Option Nat) := do
  match ← chompingIndicator with
  | some chomping => return (chomping, ← indentIndicator start)
  | none =>
    match ← indentIndicator start with
    | some indent => return ((← chompingIndicator).getD .clip, some indent)
    | none => return (.clip, none)

/-- A literal or folded scalar inside a block indented by `outer`, with the place where it ends;
its indicator is next. -/
def blockScalar (literal : Bool) (outer : Int) : Scan (Text × Mark) := do
  let start ← mark
  skip
  let (chomping, increment) ← blockHeader start
  skipSpacing
  skipComment
  if !endsLine (← here) then
    fail "while scanning a block scalar" start "did not find expected comment or line break"
  let _ ← lineBreak
  let indent := match increment with
    | some n => (max outer 0).toNat + n
    | none => 0
  let (indent, breaks, stop) ← blockBreaks outer start (← bound) indent 0 [] (← mark)
  let (taken, lead, breaks, stop) ←
    blockLines literal outer start indent (← bound) [] [] breaks false stop
  let text := taken.reverse ++
    match chomping with
    | .strip => []
    | .clip => lead
    | .keep => lead ++ breaks
  return (text, stop)

/-! ## Plain scalars -/

def isFlowIndicator (c : Char) : Bool :=
  c = ',' || c = '[' || c = ']' || c = '\x7b' || c = '\x7d'

/-- The characters up to the end of a word or an indicator that ends the scalar. -/
def plainWord (flow : Bool) (start : Mark) : Nat → Text → Scan Text
  | 0, taken => return taken.reverse
  | fuel + 1, taken => do
    let c ← here
    let following ← ahead 1
    if endsWord c then return taken.reverse
    else if flow && c = ':' && (isFlowIndicator following || following = '?') then
      fail "while scanning a plain scalar" start "found unexpected ':'"
    else if (c = ':' && endsWord following) || (flow && isFlowIndicator c) then
      return taken.reverse
    else
      skip
      plainWord flow start fuel (c :: taken)

/-- The words of a plain scalar: its text in reverse, where the last word ends, and whether a line
break follows it. -/
def plainWords (flow : Bool) (indent : Int) (start : Mark) :
    Nat → Text → Gap → Mark → Scan (Text × Mark × Bool)
  | 0, taken, gap, stop => return (taken, stop, gap.broken)
  | fuel + 1, taken, gap, stop => do
    if (← atDocumentMark) || (← here) = '#' then return (taken, stop, gap.broken)
    let word ← plainWord flow start (← bound) []
    if word.isEmpty then return (taken, stop, gap.broken)
    let taken := word.reverse ++ (gap.folded.reverse ++ taken)
    let stop ← mark
    let c ← here
    if !(isSpacing c || isBreak c) then return (taken, stop, false)
    let gap ← Gap.read (some (indent, start)) (← bound) .empty
    if !flow && (← mark).column < indent then return (taken, stop, gap.broken)
    plainWords flow indent start fuel taken gap stop

/-- A plain scalar inside a block indented by `outer`, where it ends, and whether a line break
follows it. -/
def plainScalar (flow : Bool) (outer : Int) : Scan (Text × Mark × Bool) := do
  let start ← mark
  let (taken, stop, broken) ← plainWords flow (outer + 1) start (← bound) [] .empty start
  return (taken.reverse, stop, broken)

end WorkflowDocs.Yaml
