import WorkflowDocs.Yaml.Scalar
import WorkflowDocs.Yaml.Token

/-!
# Directives, tags and anchors

The parts of a workflow file that say something about a document or a node.
-/

namespace WorkflowDocs.Yaml

open Scan

/-! ## Tags -/

def isUriChar (withFlow : Bool) (c : Char) : Bool :=
  isNameChar c || ";/?:@&=+$.%!~*'()".toList.contains c ||
    (withFlow && (c = ',' || c = '[' || c = ']'))

/-- The number of bytes in a character whose first byte is `byte`. -/
def encodedWidth? (byte : Nat) : Option Nat :=
  if byte < 0x80 then some 1
  else if byte / 0x20 = 6 then some 2
  else if byte / 0x10 = 14 then some 3
  else if byte / 0x08 = 30 then some 4
  else none

/-- The code that the bytes of one character stand for. -/
def decodedBytes : List Nat → Nat
  | [] => 0
  | [byte] => byte
  | first :: following =>
    following.foldl (fun code byte => 64 * code + byte % 64) (first % Nat.pow 2 (6 - following.length))

def uriContext (directive : Bool) : String :=
  if directive then "while parsing a %TAG directive" else "while parsing a tag"

/-- The next byte written as `%` and two digits. -/
def uriByte (directive : Bool) (start : Mark) : Scan Nat := do
  match (← here), Decimal.digitValue? (← ahead 1), Decimal.digitValue? (← ahead 2) with
  | '%', some high, some low => return 16 * high + low
  | _, _, _ => fail (uriContext directive) start "did not find URI escaped octet"

/-- The bytes of a character behind its first one. -/
def uriFollowing (directive : Bool) (start : Mark) : Nat → Scan (List Nat)
  | 0 => return []
  | count + 1 => do
    let byte ← uriByte directive start
    if byte / 0x40 ≠ 2 then
      fail (uriContext directive) start "found an incorrect trailing UTF-8 octet"
    skip
    skip
    skip
    return byte :: (← uriFollowing directive start count)

/-- A character written as the bytes of its encoding. The first byte tells how many follow; a
character of another width and a code outside Unicode do not count. -/
def uriEscape (directive : Bool) (start : Mark) : Scan (Option Char) := do
  let first ← uriByte directive start
  match encodedWidth? first with
  | none => fail (uriContext directive) start "found an incorrect leading UTF-8 octet"
  | some width =>
    skip
    skip
    skip
    let following ← uriFollowing directive start (width - 1)
    return (charOf? (decodedBytes (first :: following))).filter fun c => c.utf8Size = width

def uriChars (withFlow directive : Bool) (start : Mark) : Nat → Scan TagText
  | 0 => return []
  | fuel + 1 => do
    let c ← here
    if !isUriChar withFlow c then return []
    else if c = '%' then
      let c ← uriEscape directive start
      return c :: (← uriChars withFlow directive start fuel)
    else
      skip
      return some c :: (← uriChars withFlow directive start fuel)

/-- The characters of a tag, behind what was already read of it as a handle. A NUL that is written
as an escape ends the tag. -/
def tagUri (withFlow directive : Bool) (head : Text) (start : Mark) : Scan TagText := do
  let text ← uriChars withFlow directive start (← bound)
  if text.isEmpty && head.isEmpty then
    fail (uriContext directive) start "did not find expected tag URI"
  return ((head.drop 1).map some ++ text).takeWhile (· ≠ some '\x00')

/-- `!`, `!!` or `!name!`; in a tag also `!name`, which is then the tag's beginning. -/
def tagHandle (directive : Bool) (start : Mark) : Scan Text := do
  if (← here) ≠ '!' then
    fail (if directive then "while scanning a tag directive" else "while scanning a tag") start
      "did not find expected '!'"
  skip
  let name ← takeWhile isNameChar
  if (← here) = '!' then
    skip
    return '!' :: (name ++ ['!'])
  else if directive && !name.isEmpty then
    fail "while parsing a tag directive" start "did not find expected '!'"
  else return '!' :: name

/-- A tag as a handle and what follows it. A verbatim tag and the tag `!` have no handle. -/
def tagParts (start : Mark) : Scan (Text × TagText) := do
  if (← ahead 1) = '<' then
    skip
    skip
    let uri ← tagUri true false [] start
    if (← here) ≠ '>' then fail "while scanning a tag" start "did not find the expected '>'"
    skip
    return ([], uri)
  else
    let handle ← tagHandle false start
    if handle.length > 1 && handle.getLast? = some '!' then
      return (handle, ← tagUri false false [] start)
    else
      let ending ← tagUri false false handle start
      return if ending.isEmpty then ([], [some '!']) else (['!'], ending)

/-- A tag; its `!` is next. -/
def tagToken (flow : Bool) : Scan TokenKind := do
  let start ← mark
  let (handle, ending) ← tagParts start
  if !(flow && (← here) = ',') && !endsWord (← here) then
    fail "while scanning a tag" start "did not find expected whitespace or line break"
  return .tag handle ending

/-! ## Anchors and aliases -/

/-- The name behind the indicator of an anchor or alias, which is next. -/
def anchorName (context : String) : Scan Text := do
  let start ← mark
  skip
  let name ← takeWhile isNameChar
  let c ← here
  if name.isEmpty || !(endsWord c || "?:,]\x7d%@`".toList.contains c) then
    fail context start "did not find expected alphabetic or numeric character"
  return name

/-! ## Directives -/

/-- One of the two numbers of a version. -/
def versionNumber (start : Mark) : Nat → Nat → Nat → Scan Nat
  | 0, _, value => return value
  | fuel + 1, length, value => do
    let c ← here
    if c.isDigit then
      if length ≥ 9 then
        fail "while scanning a %YAML directive" start "found extremely long version number"
      skip
      versionNumber start fuel (length + 1) (10 * value + (c.toNat - '0'.toNat))
    else if length = 0 then
      fail "while scanning a %YAML directive" start "did not find expected version number"
    else return value

def versionToken (start : Mark) : Scan TokenKind := do
  skipSpacing
  let major ← versionNumber start (← bound) 0 0
  if (← here) ≠ '.' then
    fail "while scanning a %YAML directive" start "did not find expected digit or '.' character"
  skip
  return .version major (← versionNumber start (← bound) 0 0)

def tagHandleToken (start : Mark) : Scan TokenKind := do
  skipSpacing
  let handle ← tagHandle true start
  if !isSpacing (← here) then
    fail "while scanning a %TAG directive" start "did not find expected whitespace"
  skipSpacing
  let uri ← tagUri true true [] start
  if !endsWord (← here) then
    fail "while scanning a %TAG directive" start "did not find expected whitespace or line break"
  return .tagHandle handle uri

/-- A directive and the rest of its line; its `%` is next. The place is where it ends. -/
def directiveToken : Scan (TokenKind × Mark) := do
  let start ← mark
  skip
  let name ← takeWhile isNameChar
  if name.isEmpty then
    fail "while scanning a directive" start "could not find expected directive name"
  if !endsWord (← here) then
    fail "while scanning a directive" start "found unexpected non-alphabetical character"
  let kind ←
    if name = "YAML".toList then versionToken start
    else if name = "TAG".toList then tagHandleToken start
    else fail "while scanning a directive" start "found unknown directive name"
  let stop ← mark
  skipSpacing
  skipComment
  if !endsLine (← here) then
    fail "while scanning a directive" start "did not find expected comment or line break"
  let _ ← lineBreak
  return (kind, stop)

end WorkflowDocs.Yaml
