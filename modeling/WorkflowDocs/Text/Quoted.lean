import WorkflowDocs.Text.Printable

/-!
# Quoted texts

A text between double quotes, with escapes for what cannot be shown: this is how error messages
and log lines name keys and paths.
-/

namespace WorkflowDocs.Text

/-- Digits of a number to base sixteen, in small letters. -/
def hexadecimal (n : Nat) : Text := Nat.toDigits 16 n

/-- One character of a quoted text. Single quotes are escaped only in the names of files. -/
def quotedChar (escapeSingle : Bool) (c : Char) : Text :=
  if c = '\n' then ['\\', 'n']
  else if c = '\r' then ['\\', 'r']
  else if c = '\t' then ['\\', 't']
  else if c = '\x00' then ['\\', '0']
  else if c = '\\' || c = '"' || (escapeSingle && c = '\'') then ['\\', c]
  else if isShown c then [c]
  else "\\u\x7b".toList ++ hexadecimal c.toNat ++ ['}']

def quotedWith (escapeSingle : Bool) (text : Text) : Text :=
  '"' :: (text.flatMap (quotedChar escapeSingle) ++ ['"'])

/-- A text in double quotes. -/
def quoted (text : Text) : Text := quotedWith false text

/-- The name of a file in double quotes. -/
def quotedPath (path : Text) : Text := quotedWith true path

example : quoted "a\"\u0301'".toList = "\"a\\\"\\u\x7b301\x7d'\"".toList := by decide +kernel

end WorkflowDocs.Text
