import WorkflowDocs.Text.Quoted
import WorkflowDocs.Toml.Parser

/-!
# Keys of a settings file

A key is a text with the place it was read from. Written down it is bare where every character
allows that, and otherwise in the quotes that need the fewest escapes.
-/

namespace WorkflowDocs.Toml

structure Key where
  name : Text
  span : Span
  deriving DecidableEq, Repr

/-- The characters of a bare key. -/
def isKeyChar (c : Char) : Bool := c.isAlphanum || c = '-' || c = '_'

/-- A character that can stand in a string only as an escape. -/
def isControl (c : Char) : Bool := (c.toNat < 32 && c ≠ '\t') || c.toNat = 127

/-- A character of a basic string in which everything but printable text is escaped. -/
def escapedChar (c : Char) : Text :=
  if c = '\x08' then ['\\', 'b']
  else if c = '\t' then ['\\', 't']
  else if c = '\n' then ['\\', 'n']
  else if c = '\x0c' then ['\\', 'f']
  else if c = '\r' then ['\\', 'r']
  else if c = '"' || c = '\\' then ['\\', c]
  else if isControl c then
    let digits := (Text.hexadecimal c.toNat).map Char.toUpper
    '\\' :: 'u' :: (Text.repeated (4 - digits.length) '0' ++ digits)
  else [c]

/-- A name as a key of a file: bare, in double quotes or in single quotes if that takes no
escapes, and otherwise in double quotes with escapes. -/
def writtenKey (name : Text) : Text :=
  if !name.isEmpty && name.all isKeyChar then name
  else if name.any isControl then escaped
  else if name.all fun c => c ≠ '"' && c ≠ '\\' then '"' :: (name ++ ['"'])
  else if name.all (· ≠ '\'') then '\'' :: (name ++ ['\''])
  else escaped
where
  escaped : Text := '"' :: (name.flatMap escapedChar ++ ['"'])

example : writtenKey "log-file".toList = "log-file".toList := by decide +kernel
example : writtenKey "log file".toList = "\"log file\"".toList := by decide +kernel
example : writtenKey "a\"b".toList = "'a\"b'".toList := by decide +kernel
example : writtenKey "\"'\x01".toList = "\"\\\"'\\u0001\"".toList := by decide +kernel

end WorkflowDocs.Toml
