import WorkflowDocs.Yaml.Property

/-!
# Reading tokens

The lexer turns a text into tokens. Indentation becomes explicit block tokens here, and a key that
is recognised only by the `:` behind it gets its key token inserted in front.

A token is released once no key can be inserted before it any more. A fault therefore hides the
tokens that were read but not yet released.
-/

namespace WorkflowDocs.Yaml

/-- A node that may turn out to be a key without a `?`. -/
structure PossibleKey where
  /-- The block structure has no other reading: the `:` must come. -/
  required : Bool
  /-- The number of the token before which the key token would stand. -/
  number : Nat
  mark : Mark

structure Lexer where
  cursor : Cursor
  flowLevel : Nat
  /-- The column of the innermost block, `-1` outside of all. -/
  indent : Int
  indents : List Int
  /-- A key without a `?` may start here. -/
  keyAllowed : Bool
  /-- The possible key of each flow level, the innermost first. -/
  keys : List (Option PossibleKey)
  /-- Tokens not yet released, in order. -/
  waiting : List Token
  /-- The number of tokens released. -/
  released : Nat

abbrev Lex := StateT Lexer (Except Fault)

namespace Lex

/-- Runs a scan at the lexer's cursor. -/
def scan {α : Type} (action : Scan α) : Lex α := do
  let lexer ← get
  let (result, cursor) ← action lexer.cursor
  set { lexer with cursor }
  return result

def mark : Lex Mark := return (← get).cursor.mark

def inFlow : Lex Bool := return (← get).flowLevel ≠ 0

def allowKey (allowed : Bool) : Lex Unit := modify fun lexer => { lexer with keyAllowed := allowed }

def push (kind : TokenKind) (start stop : Mark) : Lex Unit :=
  modify fun lexer => { lexer with waiting := lexer.waiting ++ [⟨kind, start, stop⟩] }

/-- Puts a token before the one with the given number. -/
def insert (number : Nat) (token : Token) : Lex Unit :=
  modify fun lexer =>
    let place := number - lexer.released
    { lexer with waiting := lexer.waiting.take place ++ token :: lexer.waiting.drop place }

def failPlain {α : Type} (problem : String) : Lex α := do
  throw (.broken problem.toList (← mark) none)

/-! ## Possible keys -/

def missingColon {α : Type} (key : PossibleKey) : Lex α := do
  throw (.broken "could not find expected ':'".toList (← mark)
    (some ("while scanning a simple key".toList, key.mark)))

/-- A key ends on its line and within 1024 bytes. -/
def tooFar (key : PossibleKey) (mark : Mark) : Bool :=
  key.mark.line < mark.line || key.mark.index + 1024 < mark.index

/-- Gives up the possible keys that lie too far back. They are looked at from the outermost. -/
def dropStaleKeys : Lex Unit := do
  let place ← mark
  let kept ← (← get).keys.reverse.mapM fun key => do
    match key with
    | none => return none
    | some key =>
      if tooFar key place then
        if key.required then missingColon key else return none
      else return some key
  modify fun lexer => { lexer with keys := kept.reverse }

/-- Gives up the innermost possible key. -/
def removeKey : Lex Unit := do
  match (← get).keys with
  | some key :: outer =>
    if key.required then missingColon key
    modify fun lexer => { lexer with keys := none :: outer }
  | _ => return

/-- Notes that a key may start here. -/
def saveKey : Lex Unit := do
  let lexer ← get
  if lexer.keyAllowed then
    let mark := lexer.cursor.mark
    let required := lexer.flowLevel = 0 && lexer.indent = mark.column
    removeKey
    let key : PossibleKey := ⟨required, lexer.released + lexer.waiting.length, mark⟩
    modify fun lexer => { lexer with keys := some key :: lexer.keys.drop 1 }

/-! ## Indentation -/

/-- Opens a block at a deeper column, before the token with the given number or here. -/
def openBlock (column : Nat) (number : Option Nat) (kind : TokenKind) (mark : Mark) : Lex Unit := do
  let lexer ← get
  if lexer.flowLevel = 0 && lexer.indent < column then
    set { lexer with indent := column, indents := lexer.indent :: lexer.indents }
    match number with
    | some number => insert number ⟨kind, mark, mark⟩
    | none => push kind mark mark

/-- Closes the blocks that are deeper than a column. -/
def closeBlocks (column : Int) : List Int → Lex Unit
  | [] => return
  | outer :: more => do
    let lexer ← get
    if lexer.indent > column then
      push .blockEnd lexer.cursor.mark lexer.cursor.mark
      modify fun lexer => { lexer with indent := outer, indents := more }
      closeBlocks column more

def closeBlocksTo (column : Int) : Lex Unit := do
  let lexer ← get
  if lexer.flowLevel = 0 then closeBlocks column lexer.indents

/-! ## Blank text between tokens -/

/-- Moves to the next token. A byte order mark may start a line. Tabs count as spaces only where
no key can start. -/
def skipToToken : Nat → Lex Unit
  | 0 => return
  | fuel + 1 => do
    let lexer ← get
    if lexer.cursor.mark.column = 0 && (← scan .here) = '\ufeff' then scan .skip
    let tabs := lexer.flowLevel ≠ 0 || !lexer.keyAllowed
    let _ ← scan (.takeWhile fun c => c = ' ' || (tabs && c = '\t'))
    scan .skipComment
    if isBreak (← scan .here) then
      let _ ← scan .lineBreak
      if lexer.flowLevel = 0 then allowKey true
      skipToToken fuel

/-! ## Tokens -/

/-- A token made of `width` characters. -/
def indicator (kind : TokenKind) (width : Nat) : Lex Unit := do
  let start ← mark
  let _ ← (List.range width).mapM fun _ => scan .skip
  push kind start (← mark)

def streamEnd : Lex Unit := do
  let lexer ← get
  if lexer.cursor.mark.column ≠ 0 then
    set { lexer with cursor := { lexer.cursor with mark := lexer.cursor.mark.nextLine 0 } }
  closeBlocksTo (-1)
  removeKey
  allowKey false
  indicator .streamEnd 0

def directive : Lex Unit := do
  closeBlocksTo (-1)
  removeKey
  allowKey false
  let start ← mark
  let (kind, stop) ← scan directiveToken
  push kind start stop

def documentMark (kind : TokenKind) : Lex Unit := do
  closeBlocksTo (-1)
  removeKey
  allowKey false
  indicator kind 3

def flowStart (kind : TokenKind) : Lex Unit := do
  saveKey
  modify fun lexer => { lexer with keys := none :: lexer.keys, flowLevel := lexer.flowLevel + 1 }
  allowKey true
  indicator kind 1

def flowEnd (kind : TokenKind) : Lex Unit := do
  removeKey
  modify fun lexer =>
    if lexer.flowLevel = 0 then lexer
    else { lexer with keys := lexer.keys.drop 1, flowLevel := lexer.flowLevel - 1 }
  allowKey false
  indicator kind 1

def flowEntry : Lex Unit := do
  removeKey
  allowKey true
  indicator .flowEntry 1

def blockEntry : Lex Unit := do
  if !(← inFlow) then
    if !(← get).keyAllowed then
      failPlain "block sequence entries are not allowed in this context"
    let place ← mark
    openBlock place.column none .blockSequence place
  removeKey
  allowKey true
  indicator .blockEntry 1

def key : Lex Unit := do
  if !(← inFlow) then
    if !(← get).keyAllowed then failPlain "mapping keys are not allowed in this context"
    let place ← mark
    openBlock place.column none .blockMapping place
  removeKey
  allowKey !(← inFlow)
  indicator .key 1

def value : Lex Unit := do
  let lexer ← get
  match lexer.keys with
  | some key :: outer =>
    insert key.number ⟨.key, key.mark, key.mark⟩
    openBlock key.mark.column (some key.number) .blockMapping key.mark
    modify fun lexer => { lexer with keys := none :: outer }
    allowKey false
  | _ =>
    if !(← inFlow) then
      if !lexer.keyAllowed then failPlain "mapping values are not allowed in this context"
      openBlock lexer.cursor.mark.column none .blockMapping lexer.cursor.mark
    allowKey !(← inFlow)
  indicator .value 1

/-- A token that may be a key. -/
def nodeToken (action : Scan TokenKind) : Lex Unit := do
  saveKey
  allowKey false
  let start ← mark
  let kind ← scan action
  push kind start (← mark)

def blockScalar (literal : Bool) : Lex Unit := do
  removeKey
  allowKey true
  let start ← mark
  let (text, stop) ← scan (Yaml.blockScalar literal (← get).indent)
  push (.scalar text false) start stop

def plainScalar : Lex Unit := do
  saveKey
  allowKey false
  let start ← mark
  let (text, stop, broken) ← scan (Yaml.plainScalar (← inFlow) (← get).indent)
  push (.scalar text true) start stop
  if broken then allowKey true

/-- A plain scalar starts with `c`, before `following`. -/
def startsPlain (flow : Bool) (c following : Char) : Bool :=
  !(endsWord c || "-?:,[]\x7b\x7d#&*!|>'\"%@`".toList.contains c) ||
    (c = '-' && !isSpacing following) ||
    (!flow && (c = '?' || c = ':') && !endsWord following)

/-- Reads the next token, with the block tokens before it. -/
def fetch : Lex Unit := do
  skipToToken ((← get).cursor.rest.length + 1)
  dropStaleKeys
  closeBlocksTo (← mark).column
  let c ← scan .here
  let following ← scan (.ahead 1)
  let atStart := (← mark).column = 0
  let flow ← inFlow
  if c = finish then streamEnd
  else if atStart && c = '%' then directive
  else if ← scan .atDocumentMark then documentMark (if c = '-' then .documentStart else .documentEnd)
  else if c = '[' then flowStart .flowSequence
  else if c = '\x7b' then flowStart .flowMapping
  else if c = ']' then flowEnd .flowSequenceEnd
  else if c = '\x7d' then flowEnd .flowMappingEnd
  else if c = ',' then flowEntry
  else if c = '-' && endsWord following then blockEntry
  else if c = '?' && (flow || endsWord following) then key
  else if c = ':' && (flow || endsWord following) then value
  else if c = '*' then nodeToken (return .alias (← anchorName "while scanning an alias"))
  else if c = '&' then nodeToken (return .anchor (← anchorName "while scanning an anchor"))
  else if c = '!' then nodeToken (tagToken flow)
  else if c = '|' && !flow then blockScalar true
  else if c = '>' && !flow then blockScalar false
  else if c = '\'' then nodeToken (return .scalar (← quotedScalar true) false)
  else if c = '"' then nodeToken (return .scalar (← quotedScalar false) false)
  else if startsPlain flow c following then plainScalar
  else
    let place ← mark
    throw (.broken "found character that cannot start any token".toList place
      (some ("while scanning for the next token".toList, place)))

/-- Releases the tokens before which no key token can be inserted. -/
def release : Lex (List Token) := do
  if !(← get).waiting.isEmpty then dropStaleKeys
  let lexer ← get
  let numbers := lexer.keys.filterMap fun key => key.map (·.number)
  let count := match numbers.min? with
    | some first => min (first - lexer.released) lexer.waiting.length
    | none => lexer.waiting.length
  set { lexer with waiting := lexer.waiting.drop count, released := lexer.released + count }
  return lexer.waiting.take count

end Lex

def Lexer.start (source : Source) : Lexer where
  cursor := ⟨source.text, .origin, source.forbidden⟩
  flowLevel := 0
  indent := -1
  indents := []
  keyAllowed := true
  keys := [none]
  waiting := [⟨.streamStart, .origin, .origin⟩]
  released := 0

/-- The released tokens in order, and the fault that ended them, if any. Each round reads at
least one character. -/
def Lexer.run (lexer : Lexer) : Nat → List Token × Option Fault
  | 0 => ([], none)
  | fuel + 1 =>
    match Lex.release lexer with
    | .error fault => ([], some fault)
    | .ok (tokens, lexer) =>
      if (tokens.getLast?.map (·.kind)) = some .streamEnd then (tokens, none)
      else
        match Lex.fetch lexer with
        | .error fault => (tokens, some fault)
        | .ok (_, lexer) =>
          let (more, fault) := lexer.run fuel
          (tokens ++ more, fault)

/-- The tokens of a text. -/
def tokens (text : Text) : List Token × Option Fault :=
  (Lexer.start (.ofText text)).run (text.length + 3)

end WorkflowDocs.Yaml
