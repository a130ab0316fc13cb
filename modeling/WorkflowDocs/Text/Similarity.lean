import WorkflowDocs.Decimal.Binary64
import WorkflowDocs.Text

/-!
# Similar words

How alike two words are, between 0 and 1: the part of each word that is matched by the other and
the part of the matched characters that stand in the same order count alike. A character is
matched by an equal one at nearly the same place, each at most once. The parts and their sums are
binary64 numbers, so that words which are equally alike can differ in the last bit.
-/

namespace WorkflowDocs.Text

/-- Matches the characters of a word one by one with the free places of `places` at a distance of
at most `range`. The result holds the characters matched and the numbers of their places. -/
def matchPlaces (range : Nat) (places : List (Char × Nat)) :
    Nat → Text → List Nat → List (Char × Nat)
  | _, [], _ => []
  | i, c :: rest, taken =>
    match places.find? fun (d, j) =>
        c = d && i ≤ j + range && j ≤ i + range && !taken.contains j with
    | some (_, j) => (c, j) :: matchPlaces range places (i + 1) rest (j :: taken)
    | none => matchPlaces range places (i + 1) rest taken

/-- The binary64 number nearest to a positive fraction. -/
def nearest (fraction : Rat) : Rat :=
  match Binary64.ofFraction false fraction.num.toNat fraction.den with
  | .finite _ mantissa exponent =>
    let (numerator, denominator) := Binary64.scaled 1 1 exponent
    mkRat (mantissa * denominator) numerator
  | _ => fraction

/-- How alike two words are: a third of the sum of the matched part of each word and the part of
the matched characters that stand in the same order. -/
def similarity (s t : Text) : Rat :=
  let range := max s.length t.length / 2 - 1
  let places := t.zipIdx
  let found := matchPlaces range places 0 s []
  let ordered := places.filter fun (_, j) => found.any fun (_, i) => i = j
  let displaced := ((found.zip ordered).filter fun ((c, _), (d, _)) => c ≠ d).length / 2
  let part (n count : Nat) : Rat := nearest (mkRat n count)
  if s.isEmpty && t.isEmpty then 1
  else if found.isEmpty then 0
  else
    let matched := nearest (part found.length s.length + part found.length t.length)
    nearest (nearest (matched + part (found.length - displaced) found.length) / 3)

/-- The words that are similar to a word, the most similar last. -/
def similarTo (word : Text) (words : List Text) : List Text :=
  let rated := (words.map fun other => (similarity word other, other)).filter fun (rating, _) =>
    nearest (7 / 10) < rating
  (rated.mergeSort fun a b => a.1 ≤ b.1).map (·.2)

example : similarTo "genrate".toList ["help".toList, "generate".toList] = ["generate".toList] := by
  decide +kernel
example : similarity "toc".toList "lint".toList = 0 := by decide +kernel

end WorkflowDocs.Text
