import WorkflowDocs.Decimal.Notation
import WorkflowDocs.Text.Alphanumeric
import WorkflowDocs.Text.Blank

/-!
# Patterns

Regular expressions, how they are written, and the texts they match. Of several matches the
leftmost counts, and of those that start at one place the first one that is tried: an alternative
before the next one, and more repetitions before fewer unless the pattern asks for fewer.
-/

namespace WorkflowDocs

/-! ## Sets of characters -/

inductive CharSet
  /-- From a first to a last character; with `anyCase` also those that are one in the other case. -/
  | range (first last : Char) (anyCase : Bool)
  | digit
  | word
  | blank
  | not (set : CharSet)
  | either (left right : CharSet)
  | both (left right : CharSet)
  deriving DecidableEq, Repr

namespace CharSet

def single (c : Char) : CharSet := range c c false

def has : CharSet → Char → Bool
  | range first last anyCase, c =>
    let inside (c : Char) : Bool := first ≤ c && c ≤ last
    inside c || (anyCase && (inside c.toLower || inside c.toUpper))
  | digit, c => c.isDigit
  | word, c => isAlphanumeric c || c = '_'
  | blank, c => isBlank c
  | not set, c => !set.has c
  | either left right, c => left.has c || right.has c
  | both left right, c => left.has c && right.has c

/-- The set with each letter in both cases. -/
def inAnyCase : CharSet → CharSet
  | range first last _ => range first last true
  | not set => not set.inAnyCase
  | either left right => either left.inAnyCase right.inAnyCase
  | both left right => both left.inAnyCase right.inAnyCase
  | set => set

def nothing : CharSet := both digit (not digit)

def union (sets : List CharSet) : CharSet := sets.foldr either nothing

end CharSet

/-! ## Patterns and what they match -/

inductive Pattern
  | empty
  | one (set : CharSet)
  | textStart
  | textEnd
  | lineStart
  | lineEnd
  | sequence (first second : Pattern)
  | choice (first second : Pattern)
  /-- Any number of times if `unbounded`, else once at most; not never if `needed`. -/
  | repeated (needed unbounded greedy : Bool) (inner : Pattern)
  deriving DecidableEq, Repr

namespace Pattern

/-- A place in a text: the character before it, if there is one, and the text behind it. -/
structure Place where
  before : Option Char
  rest : Text
  deriving DecidableEq, Repr

def Place.endsLine (place : Place) : Bool := place.rest.head?.all (· = '\n')

def Place.startsLine (place : Place) : Bool := place.before.all (· = '\n')

/-- The places after `step` once or more often. A step that takes nothing is the last one. -/
def afterSteps (step : Place → List Place) (greedy : Bool) : Nat → Place → List Place
  | 0, _ => []
  | fuel + 1, place =>
    ((step place).flatMap fun next =>
      if next.rest.length < place.rest.length then
        let further := afterSteps step greedy fuel next
        if greedy then further ++ [next] else next :: further
      else [next]).eraseDups

/-- The places where a match can end, in the order in which they are tried. -/
def ends : Pattern → Place → List Place
  | empty, place => [place]
  | one set, ⟨_, c :: rest⟩ => if set.has c then [⟨some c, rest⟩] else []
  | one _, ⟨_, []⟩ => []
  | textStart, place => if place.before.isNone then [place] else []
  | textEnd, place => if place.rest.isEmpty then [place] else []
  | lineStart, place => if place.startsLine then [place] else []
  | lineEnd, place => if place.endsLine then [place] else []
  | sequence first second, place => ((first.ends place).flatMap second.ends).eraseDups
  | choice first second, place => (first.ends place ++ second.ends place).eraseDups
  | repeated needed unbounded greedy inner, place =>
    let found := if unbounded then afterSteps inner.ends greedy (place.rest.length + 1) place
      else inner.ends place
    if needed then found
    else (if greedy then found ++ [place] else place :: found).eraseDups

/-- The match that counts reaches the end of the text. -/
def reachesEnd (pattern : Pattern) (before : Option Char) (text : Text) : Bool :=
  match pattern.ends ⟨before, text⟩ with
  | place :: _ => place.rest.isEmpty
  | [] => match text with
    | [] => false
    | c :: rest => pattern.reachesEnd (some c) rest

/-! ## Tokens -/

/-- A letter that changes how a pattern is read, and whether it is switched on. -/
abbrev Change := Char × Bool

inductive Token
  | set (members : CharSet)
  /-- A caret or a dollar sign. -/
  | edge (atStart : Bool)
  /-- A dot. -/
  | any
  | textStart
  | textEnd
  | repetition (needed unbounded lazy : Bool)
  | opening (name : Option Text) (changes : List Change)
  | changes (changes : List Change)
  | closing
  | bar
  deriving DecidableEq, Repr

/-- A character by its code in a fixed number of digits. -/
def numbered? (count : Nat) (text : Text) : Option (Char × Text) := do
  if text.length < count then none
  let code ← Decimal.digitsValue? 16 (text.take count)
  if h : code.isValidChar then some (Char.ofNatAux code h, text.drop count) else none

/-- One character or a set of them. -/
inductive Atom
  | char (c : Char)
  | set (members : CharSet)

def Atom.toSet : Atom → CharSet
  | .char c => .single c
  | .set members => members

def Atom.char? : Atom → Option Char
  | .char c => some c
  | .set _ => none

/-- What stands for one character behind a backslash. Other letters are kept for later use. -/
def escaped? : Text → Option (Atom × Text)
  | [] => none
  | c :: rest =>
    let char (c : Char) : Option (Atom × Text) := some (.char c, rest)
    let set (members : CharSet) : Option (Atom × Text) := some (.set members, rest)
    match c with
    | 'x' => (numbered? 2 rest).map fun (c, rest) => (.char c, rest)
    | 'u' => (numbered? 4 rest).map fun (c, rest) => (.char c, rest)
    | 'U' => (numbered? 8 rest).map fun (c, rest) => (.char c, rest)
    | 'd' => set .digit
    | 'D' => set (.not .digit)
    | 's' => set .blank
    | 'S' => set (.not .blank)
    | 'w' => set .word
    | 'W' => set (.not .word)
    | 'a' => char '\x07'
    | 'f' => char '\x0c'
    | 'n' => char '\n'
    | 'r' => char '\r'
    | 't' => char '\t'
    | 'v' => char '\x0b'
    | _ =>
      if c.toNat < 128 && !c.isAlphanum && c ≠ '<' && c ≠ '>' && c ≠ '%' then char c else none

/-! ### Sets in square brackets -/

/-- How a set is joined with the one before it. -/
inductive SetOperator
  | intersection
  | difference
  | oneOfBoth

def SetOperator.apply (left right : CharSet) : SetOperator → CharSet
  | intersection => .both left right
  | difference => .both left (.not right)
  | oneOfBoth => .either (.both left (.not right)) (.both right (.not left))

/-- One character or set inside square brackets. -/
def member? : Text → Option (Atom × Text)
  | [] => none
  | '\\' :: rest => escaped? rest
  | c :: rest => some (.char c, rest)

/-- One character, a set or a range. A dash before the end or before another dash is no range. -/
def memberOrRange? (text : Text) : Option (CharSet × Text) := do
  let (first, rest) ← member? text
  match rest with
  | [] => none
  | '-' :: ']' :: _ | '-' :: '-' :: _ => some (first.toSet, rest)
  | '-' :: rest =>
    let (last, rest) ← member? rest
    let first ← first.char?
    let last ← last.char?
    if first ≤ last then some (.range first last false, rest) else none
  | _ => some (first.toSet, rest)

mutual

/-- A set behind its opening bracket. Dashes and a closing bracket stand for themselves there. -/
def bracketed? : Nat → Text → Option (CharSet × Text)
  | 0, _ => none
  | fuel + 1, text =>
    let (negated, text) := match text with
      | '^' :: rest => (true, rest)
      | _ => (false, text)
    let dashes := text.takeWhile (· = '-')
    let (first, rest) : List CharSet × Text := match dashes, text with
      | [], ']' :: rest => ([.single ']'], rest)
      | _, _ => (dashes.map .single, text.drop dashes.length)
    (members? fuel none first rest).map fun (set, rest) => (if negated then .not set else set, rest)

/-- The rest of a set. `before` is what the set is joined with, `found` the members so far. -/
def members? : Nat → Option (CharSet × SetOperator) → List CharSet → Text →
    Option (CharSet × Text)
  | 0, _, _, _ => none
  | fuel + 1, before, found, text =>
    let whole : CharSet := match before with
      | none => .union found
      | some (left, operator) => operator.apply left (.union found)
    match text with
    | [] => none
    | ']' :: rest => some (whole, rest)
    | '&' :: '&' :: rest => members? fuel (some (whole, .intersection)) [] rest
    | '-' :: '-' :: rest => members? fuel (some (whole, .difference)) [] rest
    | '~' :: '~' :: rest => members? fuel (some (whole, .oneOfBoth)) [] rest
    | '[' :: rest => do
      let (set, rest) ← bracketed? fuel rest
      members? fuel before (set :: found) rest
    | _ => do
      let (set, rest) ← memberOrRange? text
      members? fuel before (set :: found) rest

end

/-! ### Groups -/

def changeLetters : Text := "imsUuRx".toList

/-- Letters, those behind a dash switched off. No letter stands twice, and one behind the dash. -/
def changes? (text : Text) : Option (List Change) :=
  let (on, off) : Text × Option Text := match text.split '-' with
    | [on] => (on, none)
    | on :: off => (on, some (Text.join ['-'] off))
    | [] => ([], none)
  let letters := on ++ off.getD []
  if letters.all changeLetters.contains && letters.eraseDups = letters && off ≠ some [] then
    some (on.map (·, true) ++ (off.getD []).map (·, false))
  else none

def isGroupName : Text → Bool
  | [] => false
  | c :: rest =>
    (c = '_' || (isAlphanumeric c && !c.isDigit)) &&
      rest.all fun c => isAlphanumeric c || c = '_' || c = '.' || c = '[' || c = ']'

def namedGroup? (text : Text) : Option (Token × Text) :=
  match text.span (· ≠ '>') with
  | (name, '>' :: rest) => if isGroupName name then some (.opening (some name) [], rest) else none
  | _ => none

/-- A group behind its opening parenthesis, or changes that are no group. Nothing can look beyond
its own place. -/
def group? (text : Text) : Option (Token × Text) :=
  match text with
  | '?' :: '<' :: '=' :: _ | '?' :: '<' :: '!' :: _ => none
  | '?' :: '<' :: rest | '?' :: 'P' :: '<' :: rest => namedGroup? rest
  | '?' :: rest =>
    match rest.span fun c => c ≠ ':' && c ≠ ')' with
    | (letters, ':' :: rest) => (changes? letters).map fun found => (.opening none found, rest)
    | (letters, ')' :: rest) =>
      if letters.isEmpty then none
      else (changes? letters).map fun found => (.changes found, rest)
    | _ => none
  | _ => some (.opening none [], text)

/-! ### Reading tokens -/

/-- A repetition that asks for few has a question mark behind it. -/
def repetition (needed unbounded : Bool) : Text → Token × Text
  | '?' :: rest => (.repetition needed unbounded true, rest)
  | rest => (.repetition needed unbounded false, rest)

/-- The first token. A repetition with counts needs two braces and is not read here: log
directives, whose fields stand between braces, cannot hold one. -/
def token? : Text → Option (Token × Text)
  | [] => none
  | '\\' :: 'A' :: rest => some (.textStart, rest)
  | '\\' :: 'z' :: rest => some (.textEnd, rest)
  | '\\' :: rest => (escaped? rest).map fun (atom, rest) => (.set atom.toSet, rest)
  | '.' :: rest => some (.any, rest)
  | '^' :: rest => some (.edge true, rest)
  | '$' :: rest => some (.edge false, rest)
  | '|' :: rest => some (.bar, rest)
  | ')' :: rest => some (.closing, rest)
  | '(' :: rest => group? rest
  | '[' :: rest =>
    (bracketed? (2 * rest.length + 2) rest).map fun (set, rest) => (.set set, rest)
  | '?' :: rest => some (repetition false false rest)
  | '*' :: rest => some (repetition false true rest)
  | '+' :: rest => some (repetition true true rest)
  | '\x7b' :: _ => none
  | c :: rest => some (.set (.single c), rest)

def tokens? : Nat → Text → Option (List Token)
  | _, [] => some []
  | 0, _ :: _ => none
  | fuel + 1, text => do
    let (token, rest) ← token? text
    return token :: (← tokens? fuel rest)

/-! ## Patterns from tokens -/

/-- How a pattern is read. -/
structure Mode where
  anyCase : Bool := false
  byLine : Bool := false
  dotAll : Bool := false
  fewFirst : Bool := false

def Mode.change (mode : Mode) (change : Change) : Mode :=
  match change.1 with
  | 'i' => { mode with anyCase := change.2 }
  | 'm' => { mode with byLine := change.2 }
  | 's' => { mode with dotAll := change.2 }
  | 'U' => { mode with fewFirst := change.2 }
  | _ => mode

/-- A group that is being read. -/
structure Group where
  /-- The alternatives before this one. -/
  choices : List Pattern := []
  /-- The parts of this alternative, the last one first; `none` for changes. -/
  parts : List (Option Pattern) := []
  mode : Mode := {}

namespace Group

def alternative (group : Group) : Pattern :=
  group.parts.foldl (fun rest part => match part with
    | some part => .sequence part rest
    | none => rest) .empty

def pattern (group : Group) : Pattern :=
  (group.choices ++ [group.alternative]).foldr
    (fun choice rest => match rest with
      | none => some choice
      | some rest => some (.choice choice rest)) none |>.getD .empty

def push (group : Group) (part : Pattern) : Group := { group with parts := some part :: group.parts }

end Group

/-- The pattern of some tokens, read in a group inside others. -/
def build : List Token → Group → List Group → Option Pattern
  | [], group, [] => some group.pattern
  | [], _, _ :: _ => none
  | token :: rest, group, outer =>
    match token with
    | .set members =>
      let members := if group.mode.anyCase then members.inAnyCase else members
      build rest (group.push (.one members)) outer
    | .any =>
      let refused : CharSet := if group.mode.dotAll then .nothing else .single '\n'
      build rest (group.push (.one (.not refused))) outer
    | .edge true =>
      build rest (group.push (if group.mode.byLine then .lineStart else .textStart)) outer
    | .edge false =>
      build rest (group.push (if group.mode.byLine then .lineEnd else .textEnd)) outer
    | .textStart => build rest (group.push .textStart) outer
    | .textEnd => build rest (group.push .textEnd) outer
    | .repetition needed unbounded few =>
      match group.parts with
      | some part :: parts =>
        let greedy := few == group.mode.fewFirst
        let group := { group with parts }
        build rest (group.push (.repeated needed unbounded greedy part)) outer
      | _ => none
    | .opening _ changes =>
      build rest { mode := changes.foldl Mode.change group.mode } (group :: outer)
    | .changes changes =>
      build rest { group with
        parts := none :: group.parts
        mode := changes.foldl Mode.change group.mode } outer
    | .closing =>
      match outer with
      | [] => none
      | around :: outer => build rest (around.push group.pattern) outer
    | .bar =>
      build rest { group with choices := group.choices ++ [group.alternative], parts := [] } outer

/-- The pattern that a text stands for. No two groups have one name. -/
def ofText? (text : Text) : Option Pattern := do
  let tokens ← tokens? text.length text
  let names := tokens.filterMap fun token => match token with
    | .opening name _ => name
    | _ => none
  if names.eraseDups = names then build tokens {} [] else none

/-- The pattern matches the end of a text. -/
def matchesEnd (pattern : Pattern) (text : Text) : Bool := pattern.reachesEnd none text

example : (ofText? "ci\\.ya?ml".toList).map (·.matchesEnd "a/ci.yml".toList) = some true := by
  decide +kernel
example : (ofText? "[a-c&&[^b]]+|x".toList).map (·.matchesEnd "bac".toList) = some true := by
  decide +kernel
example : (ofText? "a".toList).map (·.matchesEnd "aa".toList) = some false := by decide +kernel
example : (ofText? "(a".toList).isNone ∧ (ofText? "*".toList).isNone := by decide +kernel

end Pattern

end WorkflowDocs
