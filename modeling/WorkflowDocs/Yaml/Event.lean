import WorkflowDocs.Yaml.Lexer

/-!
# Events

The structure of a workflow file as a flat list: where documents, sequences and mappings begin and
end, and the scalars and aliases in them. The grammar of tokens is a pushdown machine; each step
emits one event.
-/

namespace WorkflowDocs.Yaml

inductive Event
  | streamStart
  | streamEnd
  | documentStart
  | documentEnd
  | alias (name : Text)
  | scalar (anchor : Option Text) (tag : Option TagText) (value : Text) (plain : Bool)
  | sequenceStart (anchor : Option Text) (tag : Option TagText)
  | sequenceEnd
  | mappingStart (anchor : Option Text) (tag : Option TagText)
  | mappingEnd
  deriving DecidableEq, Repr

/-- What the machine expects next. -/
inductive Expecting
  | streamStart
  | implicitDocument
  | document
  | documentContent
  | documentEnd
  | blockNode
  | blockSequenceFirst
  | blockSequenceEntry
  | indentlessEntry
  | blockMappingFirst
  | blockMappingKey
  | blockMappingValue
  | flowSequenceFirst
  | flowSequenceEntry
  | flowPairKey
  | flowPairValue
  | flowPairEnd
  | flowMappingFirst
  | flowMappingKey
  | flowMappingValue
  | flowMappingEmptyValue
  | done
  deriving DecidableEq, Repr

structure Parser where
  tokens : List Token
  /-- What stopped the lexer, raised when a token behind the last one is needed. -/
  fault : Option Fault
  expecting : Expecting
  /-- What is expected after the nodes that are open. -/
  stack : List Expecting
  /-- Where the open collections began. -/
  marks : List Mark
  /-- The tag handles of the document and what they stand for. -/
  handles : List (Text × TagText)

abbrev Parse := StateT Parser (Except Fault)

namespace Parse

def peek : Parse Token := do
  let parser ← get
  match parser.tokens with
  | token :: _ => return token
  | [] => throw (parser.fault.getD (.broken "unexpected end of stream".toList .origin none))

def skip : Parse Unit := modify fun parser => { parser with tokens := parser.tokens.drop 1 }

def expect (state : Expecting) : Parse Unit := modify fun parser => { parser with expecting := state }

def pushState (state : Expecting) : Parse Unit :=
  modify fun parser => { parser with stack := state :: parser.stack }

/-- Goes on with what is expected after the node that ends here. -/
def popState : Parse Unit :=
  modify fun parser =>
    match parser.stack with
    | state :: stack => { parser with expecting := state, stack }
    | [] => { parser with expecting := .done }

def pushMark (mark : Mark) : Parse Unit :=
  modify fun parser => { parser with marks := mark :: parser.marks }

def popMark : Parse Mark := do
  let parser ← get
  set { parser with marks := parser.marks.drop 1 }
  return parser.marks.headD .origin

def fail {α : Type} (problem : String) (mark : Mark) : Parse α :=
  throw (.broken problem.toList mark none)

def failIn {α : Type} (context : String) (start : Mark) (problem : String) (mark : Mark) : Parse α :=
  throw (.broken problem.toList mark (some (context.toList, start)))

abbrev Step := Parse (Event × Mark)

/-- A node that is not there. -/
def emptyScalar (mark : Mark) : Step := return (.scalar none none [] true, mark)

/-! ## Nodes -/

/-- The tag a handle and its continuation stand for. -/
def resolveTag (start : Mark) (handle : Text) (ending : TagText) (mark : Mark) : Parse TagText := do
  if handle.isEmpty then return ending
  else
    match (← get).handles.find? fun entry => entry.1 = handle with
    | some (_, beginning) => return beginning ++ ending
    | none => failIn "while parsing a node" start "found undefined tag handle" mark

structure Properties where
  anchor : Option Text
  /-- The handle and the continuation of the tag, and where it stands. -/
  tag : Option (Text × TagText × Mark)
  start : Mark

/-- The anchor and the tag of a node, in either order. -/
def properties : Parse Properties := do
  let token ← peek
  match token.kind with
  | .anchor name =>
    skip
    let second ← peek
    match second.kind with
    | .tag handle ending =>
      skip
      return ⟨some name, some (handle, ending, second.start), token.start⟩
    | _ => return ⟨some name, none, token.start⟩
  | .tag handle ending =>
    skip
    let second ← peek
    match second.kind with
    | .anchor name =>
      skip
      return ⟨some name, some (handle, ending, token.start), token.start⟩
    | _ => return ⟨none, some (handle, ending, token.start), token.start⟩
  | _ => return ⟨none, none, token.start⟩

def alias? (token : Token) : Option Text :=
  match token.kind with
  | .alias name => some name
  | _ => none

/-- A node. A block sequence may stand without indentation as the value of a mapping's key. -/
def node (block indentless : Bool) : Step := do
  let token ← peek
  if let some name := alias? token then
    popState
    skip
    return (.alias name, token.start)
  let given ← properties
  let start := given.start
  let tag ← match given.tag with
    | none => pure none
    | some (handle, ending, mark) => pure (some (← resolveTag start handle ending mark))
  let token ← peek
  match token.kind, block with
  | .scalar value plain, _ =>
    popState
    skip
    return (.scalar given.anchor tag value plain, start)
  | .blockEntry, _ =>
    if indentless then
      expect .indentlessEntry
      return (.sequenceStart given.anchor tag, start)
    else missing given tag token
  | .flowSequence, _ =>
    expect .flowSequenceFirst
    return (.sequenceStart given.anchor tag, start)
  | .flowMapping, _ =>
    expect .flowMappingFirst
    return (.mappingStart given.anchor tag, start)
  | .blockSequence, true =>
    expect .blockSequenceFirst
    return (.sequenceStart given.anchor tag, start)
  | .blockMapping, true =>
    expect .blockMappingFirst
    return (.mappingStart given.anchor tag, start)
  | _, _ => missing given tag token
where
  /-- With an anchor or a tag the node is an empty scalar. -/
  missing (given : Properties) (tag : Option TagText) (token : Token) : Step := do
    if given.anchor.isSome || tag.isSome then
      popState
      return (.scalar given.anchor tag [] true, given.start)
    else
      failIn (if block then "while parsing a block node" else "while parsing a flow node")
        given.start "did not find expected node content" token.start

/-- A node, after which `after` is expected. -/
def nodeThen (after : Expecting) (block indentless : Bool) : Step := do
  pushState after
  node block indentless

/-- No node, after which `after` is expected. -/
def emptyThen (after : Expecting) (mark : Mark) : Step := do
  expect after
  emptyScalar mark

/-- The end of the innermost collection, whose closing token is next. -/
def close (event : Event) (token : Token) : Step := do
  popState
  let _ ← popMark
  skip
  return (event, token.start)

/-! ## Documents -/

/-- Reads the directives before a document. -/
def directives : Nat → Bool → List (Text × TagText) → Parse (List (Text × TagText))
  | 0, _, handles => return handles
  | fuel + 1, versioned, handles => do
    let token ← peek
    match token.kind with
    | .version major minor =>
      if versioned then fail "found duplicate %YAML directive" token.start
      if major ≠ 1 || (minor ≠ 1 && minor ≠ 2) then
        fail "found incompatible YAML document" token.start
      skip
      directives fuel true handles
    | .tagHandle handle beginning =>
      if handles.any fun entry => entry.1 = handle then
        fail "found duplicate %TAG directive" token.start
      skip
      directives fuel versioned (handles ++ [(handle, beginning)])
    | _ => return handles

/-- The handles that need no directive. -/
def defaultHandles : List (Text × TagText) :=
  [("!".toList, [some '!']), ("!!".toList, "tag:yaml.org,2002:".toList.map some)]

def readDirectives : Parse Unit := do
  let handles ← directives ((← get).tokens.length + 1) false []
  modify fun parser => { parser with handles := handles ++ defaultHandles }

def skipDocumentEnds : Nat → Parse Unit
  | 0 => return
  | fuel + 1 => do
    if (← peek).kind = .documentEnd then
      skip
      skipDocumentEnds fuel

def isDirective : TokenKind → Bool
  | .version .. | .tagHandle .. => true
  | _ => false

/-- Only the first document may lack its start mark. -/
def document (first : Bool) : Step := do
  if !first then skipDocumentEnds ((← get).tokens.length + 1)
  let token ← peek
  if token.kind = .streamEnd then
    expect .done
    skip
    return (.streamEnd, token.start)
  else if first && !isDirective token.kind && token.kind ≠ .documentStart then
    readDirectives
    pushState .documentEnd
    expect .blockNode
    return (.documentStart, token.start)
  else
    readDirectives
    let mark ← peek
    if mark.kind ≠ .documentStart then fail "did not find expected <document start>" mark.start
    pushState .documentEnd
    expect .documentContent
    skip
    return (.documentStart, token.start)

def documentContent : Step := do
  let token ← peek
  if isDirective token.kind || token.kind = .documentStart || token.kind = .documentEnd ||
      token.kind = .streamEnd then
    popState
    emptyScalar token.start
  else node true false

def documentEnd : Step := do
  let token ← peek
  if token.kind = .documentEnd then skip
  expect .document
  return (.documentEnd, token.start)

/-! ## Block collections -/

def enter : Parse Unit := do
  pushMark (← peek).start
  skip

def blockSequenceEntry : Step := do
  let token ← peek
  match token.kind with
  | .blockEntry =>
    skip
    match (← peek).kind with
    | .blockEntry | .blockEnd => emptyThen .blockSequenceEntry token.stop
    | _ => nodeThen .blockSequenceEntry true false
  | .blockEnd => close .sequenceEnd token
  | _ =>
    failIn "while parsing a block collection" (← popMark) "did not find expected '-' indicator"
      token.start

def indentlessEntry : Step := do
  let token ← peek
  match token.kind with
  | .blockEntry =>
    skip
    match (← peek).kind with
    | .blockEntry | .key | .value | .blockEnd => emptyThen .indentlessEntry token.stop
    | _ => nodeThen .indentlessEntry true false
  | _ =>
    popState
    return (.sequenceEnd, token.start)

def blockMappingKey : Step := do
  let token ← peek
  match token.kind with
  | .key =>
    skip
    match (← peek).kind with
    | .key | .value | .blockEnd => emptyThen .blockMappingValue token.stop
    | _ => nodeThen .blockMappingValue true true
  | .blockEnd => close .mappingEnd token
  | _ =>
    failIn "while parsing a block mapping" (← popMark) "did not find expected key" token.start

def blockMappingValue : Step := do
  let token ← peek
  match token.kind with
  | .value =>
    skip
    match (← peek).kind with
    | .key | .value | .blockEnd => emptyThen .blockMappingKey token.stop
    | _ => nodeThen .blockMappingKey true true
  | _ => emptyThen .blockMappingKey token.start

/-! ## Flow collections -/

/-- The next entry's first token, behind the comma that separates it from the entry before. -/
def flowSeparated (first : Bool) (closing : TokenKind) (context problem : String) : Parse Token := do
  let token ← peek
  if first || token.kind = closing then return token
  else if token.kind = .flowEntry then
    skip
    peek
  else failIn context (← popMark) problem token.start

def flowSequenceEntry (first : Bool) : Step := do
  let token ← flowSeparated first .flowSequenceEnd "while parsing a flow sequence"
    "did not find expected ',' or ']'"
  match token.kind with
  | .flowSequenceEnd => close .sequenceEnd token
  | .key =>
    expect .flowPairKey
    skip
    return (.mappingStart none none, token.start)
  | _ => nodeThen .flowSequenceEntry false false

/-- The key of a single pair in a sequence. The token after a missing key is passed over. -/
def flowPairKey : Step := do
  let token ← peek
  match token.kind with
  | .value | .flowEntry | .flowSequenceEnd =>
    skip
    emptyThen .flowPairValue token.stop
  | _ => nodeThen .flowPairValue false false

def flowPairValue : Step := do
  let token ← peek
  if token.kind = .value then
    skip
    let token ← peek
    match token.kind with
    | .flowEntry | .flowSequenceEnd => emptyThen .flowPairEnd token.start
    | _ => nodeThen .flowPairEnd false false
  else emptyThen .flowPairEnd token.start

def flowPairEnd : Step := do
  expect .flowSequenceEntry
  return (.mappingEnd, (← peek).start)

def flowMappingKey (first : Bool) : Step := do
  let token ← flowSeparated first .flowMappingEnd "while parsing a flow mapping"
    "did not find expected ',' or '\x7d'"
  match token.kind with
  | .flowMappingEnd => close .mappingEnd token
  | .key =>
    skip
    let token ← peek
    match token.kind with
    | .value | .flowEntry | .flowMappingEnd => emptyThen .flowMappingValue token.start
    | _ => nodeThen .flowMappingValue false false
  | _ => nodeThen .flowMappingEmptyValue false false

def flowMappingValue : Step := do
  let token ← peek
  if token.kind = .value then
    skip
    let token ← peek
    match token.kind with
    | .flowEntry | .flowMappingEnd => emptyThen .flowMappingKey token.start
    | _ => nodeThen .flowMappingKey false false
  else emptyThen .flowMappingKey token.start

/-! ## The machine -/

def step : Expecting → Step
  | .streamStart => do
    let token ← peek
    expect .implicitDocument
    skip
    return (.streamStart, token.start)
  | .implicitDocument => document true
  | .document => document false
  | .documentContent => documentContent
  | .documentEnd => documentEnd
  | .blockNode => node true false
  | .blockSequenceFirst => do
    enter
    blockSequenceEntry
  | .blockSequenceEntry => blockSequenceEntry
  | .indentlessEntry => indentlessEntry
  | .blockMappingFirst => do
    enter
    blockMappingKey
  | .blockMappingKey => blockMappingKey
  | .blockMappingValue => blockMappingValue
  | .flowSequenceFirst => do
    enter
    flowSequenceEntry true
  | .flowSequenceEntry => flowSequenceEntry false
  | .flowPairKey => flowPairKey
  | .flowPairValue => flowPairValue
  | .flowPairEnd => flowPairEnd
  | .flowMappingFirst => do
    enter
    flowMappingKey true
  | .flowMappingKey => flowMappingKey false
  | .flowMappingValue => flowMappingValue
  | .flowMappingEmptyValue => do emptyThen .flowMappingKey (← peek).start
  | .done => return (.streamEnd, .origin)

end Parse

def Parser.run (parser : Parser) : Nat → List (Event × Mark) × Option Fault
  | 0 => ([], none)
  | fuel + 1 =>
    if parser.expecting = .done then ([], none)
    else
      match Parse.step parser.expecting parser with
      | .error fault => ([], some fault)
      | .ok (event, parser) =>
        let (more, fault) := parser.run fuel
        (event :: more, fault)

/-- The events of a text, and the fault that ended them, if any. A token gives rise to at most
four events. -/
def events (text : Text) : List (Event × Mark) × Option Fault :=
  let (tokens, fault) := Yaml.tokens text
  Parser.run ⟨tokens, fault, .streamStart, [], [], []⟩ (4 * tokens.length + 8)

end WorkflowDocs.Yaml
