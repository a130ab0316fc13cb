import WorkflowDocs.Section.Triggers

/-!
# The bullets of a configuration

Each entry of a mapping and each item of a sequence has bullets of its own.

Results:
1. `itemBullets_append`, `entryBullets_append`: they stand in the order of the entries and items.
2. `entryBullets_eq_nil_iff`: an entry has none for its key and its depth alone.
3. `entryBullets_of_beside`: with a scalar or a tag there is one, with the text beside the key.
-/

namespace WorkflowDocs.Section

open Yaml (Value)

variable {value key : Value} {depth : Nat}

def isTagged : Value → Bool
  | .tagged _ _ => true
  | _ => false

/-- No bullet stands for an entry with this key. -/
def Hidden (depth : Nat) (key : Value) : Prop :=
  ∀ name, key.scalarText? = some name → depth = 1 ∧ documentedElsewhere name = true

theorem itemBullets_append (before after : List Value) :
    itemBullets depth (before ++ after) = itemBullets depth before ++ itemBullets depth after := by
  induction before with
  | nil => rfl
  | cons item rest ih => simp [itemBullets, ih]

theorem entryBullets_append (before after : List (Value × Value)) :
    entryBullets depth (before ++ after) = entryBullets depth before ++ entryBullets depth after := by
  induction before with
  | nil => rfl
  | cons entry rest ih =>
    obtain ⟨key, value⟩ := entry
    simp [entryBullets, ih]

theorem entryBullets_cons (key value : Value) (after : List (Value × Value)) :
    entryBullets depth ((key, value) :: after) =
      entryBullets depth [(key, value)] ++ entryBullets depth after :=
  entryBullets_append [(key, value)] after

theorem entryBullets_eq_nil_iff : entryBullets depth [(key, value)] = [] ↔ Hidden depth key := by
  unfold Hidden
  simp only [entryBullets, List.append_nil]
  cases key.scalarText? with
  | none => simp
  | some name =>
    by_cases elsewhere : depth = 1 ∧ documentedElsewhere name = true
    · simp [elsewhere]
    · have shown : ¬ (decide (depth = 1) && documentedElsewhere name) = true := by
        simpa using elsewhere
      simp only [if_neg shown, Option.some.injEq, forall_eq', elsewhere, iff_false]
      cases value with
      | sequence items =>
        dsimp only
        split <;> simp
      | _ => simp

/-- What stands beside a key if its value is a scalar, or has a tag. -/
theorem entryBullets_of_beside (beside : value.isScalar = true ∨ isTagged value = true) :
    entryBullets depth [(key, value)] = (key.scalarText?.map fun name =>
      if depth = 1 && documentedElsewhere name then []
      else [⟨depth, name ++ ':' :: ' ' :: scalarCode value⟩]).getD [] := by
  cases value with
  | null | sequence | mapping => rcases beside with scalar | tag <;> contradiction
  | _ => cases named : key.scalarText? <;> simp [entryBullets, named]

/-- The bullets of an entry depend on the items of its value through these. -/
theorem entryBullets_congr {items others : List Value}
    (flat : items.all Value.isScalar = others.all Value.isScalar)
    (codes : items.map scalarCode = others.map scalarCode)
    (below : itemBullets (depth + 1) items = itemBullets (depth + 1) others) :
    entryBullets depth [(key, .sequence items)] = entryBullets depth [(key, .sequence others)] := by
  simp only [entryBullets, flat, codes, below]

end WorkflowDocs.Section
