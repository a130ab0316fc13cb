import WorkflowDocs.Text

/-!
# Blank characters

The characters with the Unicode property White_Space, and the trimming they define.
-/

namespace WorkflowDocs

/-- The property White_Space. -/
def isBlank (c : Char) : Bool :=
  let n := c.toNat
  (0x9 ≤ n && n ≤ 0xd) || n = 0x20 || n = 0x85 || n = 0xa0 || n = 0x1680 ||
    (0x2000 ≤ n && n ≤ 0x200a) || n = 0x2028 || n = 0x2029 || n = 0x202f || n = 0x205f || n = 0x3000

theorem isBlank_of_isWhitespace {c : Char} (white : c.isWhitespace = true) : isBlank c = true := by
  simp only [Char.isWhitespace, Bool.or_eq_true, decide_eq_true_eq] at white
  rcases white with ((rfl | rfl) | rfl) | rfl <;> decide

namespace Text

def trimStart (text : Text) : Text := text.dropWhile isBlank

def trimEnd (text : Text) : Text := (text.reverse.dropWhile isBlank).reverse

/-- The text without blank characters at either end. -/
def trim (text : Text) : Text := trimEnd (trimStart text)

/-- The text holds blank characters only. -/
def blank (text : Text) : Bool := text.all isBlank

/-- ASCII capitals become small letters; nothing else changes. -/
def lowered (text : Text) : Text := text.map Char.toLower

theorem trimStart_eq_nil_iff (text : Text) : trimStart text = [] ↔ blank text = true := by
  induction text with
  | nil => simp [trimStart, blank]
  | cons c rest ih =>
    simp only [trimStart, blank, List.dropWhile_cons, List.all_cons, Bool.and_eq_true] at ih ⊢
    split <;> simp_all

example : trim " \u00a0 a b\u3000\n".toList = "a b".toList := by decide

end Text

end WorkflowDocs
