import WorkflowDocs.Text

/-!
# Places in a workflow file, and what is wrong there
-/

namespace WorkflowDocs.Yaml

/-- A place in a text: bytes before it, lines before it, characters before it on its line. -/
structure Mark where
  index : Nat
  line : Nat
  column : Nat
  deriving DecidableEq, Repr

namespace Mark

def origin : Mark := ⟨0, 0, 0⟩

/-- Behind the character `c` of the same line. -/
def next (mark : Mark) (c : Char) : Mark := ⟨mark.index + c.utf8Size, mark.line, mark.column + 1⟩

/-- At the start of the next line, behind a break of `width` bytes. -/
def nextLine (mark : Mark) (width : Nat) : Mark := ⟨mark.index + width, mark.line + 1, 0⟩

/-- The start of the text is never mentioned. -/
def isOrigin (mark : Mark) : Bool := mark.line = 0 && mark.column = 0

def samePlace (a b : Mark) : Bool := a.line = b.line && a.column = b.column

/-- Lines and columns count from one. -/
def text (mark : Mark) : Text :=
  "line ".toList ++ Text.ofNat (mark.line + 1) ++ " column ".toList ++ Text.ofNat (mark.column + 1)

/-- The place as the end of a message. -/
def suffix (mark : Mark) : Text := if mark.isOrigin then [] else " at ".toList ++ mark.text

end Mark

inductive Fault
  /-- The text cannot be read any further, for the character behind so many bytes. -/
  | controlCharacter (offset : Nat)
  /-- The grammar is broken, inside a construct that began at a place of its own. -/
  | broken (problem : Text) (mark : Mark) (context : Option (Text × Mark))
  deriving DecidableEq, Repr

/-- The place of the construct is left out where it is the place of the problem. -/
def Fault.message : Fault → Text
  | controlCharacter offset =>
    "control characters are not allowed".toList ++
      if offset = 0 then [] else " at position ".toList ++ Text.ofNat offset
  | broken problem place context =>
    problem ++ place.suffix ++
      match context with
      | none => []
      | some (context, mark) =>
        ',' :: ' ' :: (context ++ if mark.samePlace place then [] else mark.suffix)

end WorkflowDocs.Yaml
