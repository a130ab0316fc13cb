import WorkflowDocs.Text

/-!
# Named entries

An ordered map from names to specifications. A name stands at the position where it came first.
-/

namespace WorkflowDocs

abbrev Entries (α : Type) := List (Text × α)

namespace Entries

variable {α : Type}

/-- Gives `name` the specification `spec`. A name that is there keeps its position. -/
def put (name : Text) (spec : α) : Entries α → Entries α
  | [] => [(name, spec)]
  | (n, s) :: rest => if n = name then (n, spec) :: rest else (n, s) :: put name spec rest

/-- Adds a name at the end unless it is there. -/
def putNew (entries : Entries α) (name : Text) (spec : α) : Entries α :=
  if entries.any (·.1 = name) then entries else entries ++ [(name, spec)]

/-- The pairs in order, the last specification of a repeated name at its first position. -/
def ofPairs (pairs : List (Text × α)) : Entries α :=
  pairs.foldl (fun entries (name, spec) => entries.put name spec) []

/-- The entries of `first`, then those of `second` with other names. -/
def union (first second : Entries α) : Entries α :=
  second.foldl (fun entries (name, spec) => entries.putNew name spec) first

end Entries

end WorkflowDocs
