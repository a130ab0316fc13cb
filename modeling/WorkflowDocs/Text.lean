/-!
# Texts

A text is a list of characters. This module holds the cuts and substitutions the rest of the
library is built from: splitting at another text or at a character, lines, and joins.
-/

namespace WorkflowDocs

abbrev Text := List Char

namespace Text

/-- The text before the first occurrence of `needle` and the text after it. -/
def splitFirst (needle : Text) : Text → Option (Text × Text)
  | [] => if needle.isEmpty then some ([], []) else none
  | c :: rest =>
    if needle.isPrefixOf (c :: rest) then some ([], (c :: rest).drop needle.length)
    else (splitFirst needle rest).map fun (before, after) => (c :: before, after)

/-- `needle` occurs somewhere in the text. -/
def occurs (needle text : Text) : Bool := (splitFirst needle text).isSome

/-- Every `c` becomes `replacement`. -/
def replaceChar (c : Char) (replacement text : Text) : Text :=
  text.flatMap fun d => if d = c then replacement else [d]

/-- Lines end at `\n` or `\r\n`; the text after the last break is a line unless it is empty. -/
def lines : Text → List Text
  | [] => []
  | '\n' :: rest => [] :: lines rest
  | '\r' :: '\n' :: rest => [] :: lines rest
  | c :: rest =>
    match lines rest with
    | [] => [[c]]
    | line :: more => (c :: line) :: more

/-- The pieces between the occurrences of `separator`, empty ones too. -/
def split (separator : Char) : Text → List Text
  | [] => [[]]
  | c :: rest =>
    if c = separator then [] :: split separator rest
    else match split separator rest with
      | [] => [[c]]
      | piece :: more => (c :: piece) :: more

/-- The texts in order with `separator` between neighbours. -/
def join (separator : Text) (texts : List Text) : Text := separator.intercalate texts

/-- `c` written `n` times. -/
def repeated (n : Nat) (c : Char) : Text := List.replicate n c

/-- Decimal digits of a number. -/
def ofNat (n : Nat) : Text := Nat.toDigits 10 n

def ofInt : Int → Text
  | .ofNat n => ofNat n
  | .negSucc n => '-' :: ofNat (n + 1)

/-- Number of bytes of the text in UTF-8. -/
def byteLength (text : Text) : Nat := text.foldr (fun c length => c.utf8Size + length) 0

/-- Strict order by code points. -/
def precedes : Text → Text → Bool
  | _, [] => false
  | [], _ :: _ => true
  | c :: s, d :: t => c < d || (c = d && precedes s t)

theorem splitFirst_append {needle text before after : Text}
    (found : splitFirst needle text = some (before, after)) : text = before ++ needle ++ after := by
  induction text generalizing before after with
  | nil =>
    simp only [splitFirst] at found
    split at found <;> simp_all
  | cons c rest ih =>
    simp only [splitFirst] at found
    split at found
    · rename_i here
      obtain ⟨tail, equal⟩ := List.isPrefixOf_iff_prefix.mp here
      rw [← equal] at found ⊢
      simp at found
      simp [found]
    · simp only [Option.map_eq_some_iff, Prod.exists, Prod.mk.injEq] at found
      obtain ⟨b, a, inRest, rfl, rfl⟩ := found
      simp [ih inRest]

end Text

end WorkflowDocs
