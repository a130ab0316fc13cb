import WorkflowDocs.Decimal.Shortest

/-!
# Numbers of documents

A number in a document is an integer or a binary64 number.
-/

namespace WorkflowDocs

inductive Number
  | integer (value : Int)
  | float (value : Binary64)
  deriving DecidableEq, Repr

namespace Number

/-- The text of a number in a workflow file. -/
def text : Number → Text
  | integer value => Text.ofInt value
  | float value =>
    value.textWith (Decimal.written false)
      (fun negative => if negative then "-.inf".toList else ".inf".toList) ".nan".toList

/-- Equal numbers; an integer never equals a float. -/
def sameValue : Number → Number → Bool
  | integer a, integer b => a = b
  | float a, float b => a.sameValue b
  | _, _ => false

end Number

end WorkflowDocs
