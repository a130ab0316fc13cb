import WorkflowDocs.Text

/-!
# The characters of a workflow file

A workflow file holds no control characters. It is taken in portions, and a portion with such a
character in it is refused as a whole, so that what is wrong before the portion is told first.
-/

namespace WorkflowDocs.Yaml

def isAllowed (c : Char) : Bool :=
  let n := c.toNat
  n = 0x9 || n = 0xa || n = 0xd || (0x20 ≤ n && n ≤ 0x7e) || n = 0x85 ||
    (0xa0 ≤ n && n ≤ 0xfffd) || 0x10000 ≤ n

/-- The most bytes that one portion of a text takes. A character lies in one portion. -/
def portionSize : Nat := 16384

/-- What can be read of a text. -/
structure Source where
  text : Text
  /-- The number of bytes before a control character in the portion behind the text. -/
  forbidden : Option Nat
  deriving DecidableEq, Repr

namespace Source

/-- Goes on behind `offset` bytes with the portions before this one, this one, and the bytes that
it can still take. The characters taken are in reverse order. -/
def take (before portion : Text) (room offset : Nat) : Text → Source
  | [] => ⟨(portion ++ before).reverse, none⟩
  | c :: rest =>
    let size := c.utf8Size
    let (before, portion, room) : Text × Text × Nat :=
      if size ≤ room then (before, portion, room) else (portion ++ before, [], portionSize)
    if isAllowed c then take before (c :: portion) (room - size) (offset + size) rest
    else ⟨before.reverse, some offset⟩

def ofText (text : Text) : Source := take [] [] portionSize 0 text

example : ofText "a\tb".toList = ⟨"a\tb".toList, none⟩ := by decide +kernel
example : ofText "é\x01".toList = ⟨[], some 2⟩ := by decide +kernel

end Source

end WorkflowDocs.Yaml
