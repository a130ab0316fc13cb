import WorkflowDocs.Text

/-!
# Marker regions

A README names the region for generated text by a start and an end marker. `splice` replaces what
stands strictly between the first start marker and the first end marker behind it.
-/

namespace WorkflowDocs.Readme

open Text

inductive MarkerError
  | missingStart (start : Text)
  | missingEnd (finish : Text)
  | misordered (start finish : Text)
  deriving DecidableEq, Repr

def MarkerError.message : MarkerError → Text
  | missingStart start => "start marker `".toList ++ start ++ "` not found".toList
  | missingEnd finish => "end marker `".toList ++ finish ++ "` not found".toList
  | misordered start finish =>
    "end marker `".toList ++ finish ++ "` appears before start marker `".toList ++ start ++ ['`']

def splice (content markdown start finish : Text) : Except MarkerError Text :=
  match splitFirst start content with
  | none => .error (.missingStart start)
  | some (before, rest) =>
    match splitFirst finish rest with
    | some (_, after) => .ok (before ++ start ++ markdown ++ finish ++ after)
    | none =>
      if occurs finish before then .error (.misordered start finish)
      else .error (.missingEnd finish)

example : splice "a<s>old<e>b<e>".toList "new".toList "<s>".toList "<e>".toList =
    .ok "a<s>new<e>b<e>".toList := rfl

end WorkflowDocs.Readme
