import WorkflowDocs.Text

/-!
# Cuts of texts

Results:
1. `splitFirst_eq_some_iff`: `splitFirst` cuts at the first occurrence.
2. `splitFirst_append_iff`: whether an occurrence is the first one does not depend on what follows.
3. `not_mem_of_mem_split`: the pieces between separators hold none.
-/

namespace WorkflowDocs.Text

/-! ## The first occurrence -/

variable {needle text before after b a : Text}

theorem splitFirst_cons (needle : Text) (c : Char) (rest : Text) : splitFirst needle (c :: rest) =
    if needle.isPrefixOf (c :: rest) then some ([], (c :: rest).drop needle.length)
    else (splitFirst needle rest).map fun (before, after) => (c :: before, after) := rfl

/-- Every occurrence stands at or behind the first one. -/
theorem length_le_of_splitFirst (found : splitFirst needle text = some (before, after))
    (occurs : text = b ++ needle ++ a) : before.length ≤ b.length := by
  induction text generalizing before b with
  | nil =>
    rw [splitFirst] at found
    split at found <;> cases found
    exact Nat.zero_le _
  | cons c rest ih =>
    rw [splitFirst_cons] at found
    split at found
    · cases found
      exact Nat.zero_le _
    next apart =>
      simp only [Option.map_eq_some_iff, Prod.exists, Prod.mk.injEq] at found
      obtain ⟨first, last, inRest, rfl, rfl⟩ := found
      -- the needle does not stand here, so the occurrence has a character before it
      cases b with
      | nil => simp [occurs] at apart
      | cons d b =>
        rw [List.cons_append, List.cons_append, List.cons.injEq] at occurs
        exact Nat.succ_le_succ (ih inRest occurs.2)

/-- A text in which the needle occurs can be cut. -/
theorem splitFirst_isSome (occurs : text = b ++ needle ++ a) :
    (splitFirst needle text).isSome = true := by
  induction text generalizing b with
  | nil => simp_all [splitFirst]
  | cons c rest ih =>
    rw [splitFirst_cons]
    split
    · rfl
    next apart =>
      cases b with
      | nil => simp [occurs] at apart
      | cons d b =>
        rw [List.cons_append, List.cons_append, List.cons.injEq] at occurs
        simp [ih occurs.2]

theorem splitFirst_eq_some_iff : splitFirst needle text = some (before, after) ↔
    text = before ++ needle ++ after ∧
      ∀ b a, text = b ++ needle ++ a → before.length ≤ b.length := by
  constructor
  · exact fun found => ⟨splitFirst_append found, fun _ _ => length_le_of_splitFirst found⟩
  · rintro ⟨occurs, first⟩
    -- the cut that is found stands neither behind nor before the given one
    obtain ⟨⟨before', after'⟩, found⟩ := Option.isSome_iff_exists.mp (splitFirst_isSome occurs)
    have equal : before'.length = before.length :=
      Nat.le_antisymm (length_le_of_splitFirst found occurs)
        (first _ _ (splitFirst_append found))
    have whole := (splitFirst_append found).symm.trans occurs
    rw [List.append_assoc, List.append_assoc] at whole
    obtain ⟨same, behind⟩ := List.append_inj whole equal
    rwa [same, List.append_cancel_left behind] at found

/-- Whatever follows an occurrence, it is the first one if it is the first up to there. -/
theorem splitFirst_append_iff :
    splitFirst needle (before ++ needle ++ after) = some (before, after) ↔
      splitFirst needle (before ++ needle) = some (before, []) := by
  rw [splitFirst_eq_some_iff, splitFirst_eq_some_iff]
  simp only [true_and, List.append_nil]
  constructor
  · intro first b a occurs
    exact first b (a ++ after) (by rw [occurs, List.append_assoc])
  · intro first b a occurs
    -- an earlier occurrence would end before this one does
    refine Nat.le_of_not_lt fun earlier => ?_
    have cut := List.prefix_of_prefix_length_le ⟨a, occurs.symm⟩ ⟨after, rfl⟩
      (by simp only [List.length_append]; omega)
    obtain ⟨more, whole⟩ := cut
    exact absurd (first b more whole.symm) (Nat.not_le.mpr earlier)

/-! ## Separators -/

variable {c : Char} {piece : Text}

theorem split_eq_splitOn (c : Char) (text : Text) : split c text = text.splitOn c := by
  induction text with
  | nil => rfl
  | cons d rest ih =>
    obtain ⟨first, more, parts⟩ := List.exists_cons_of_ne_nil (List.splitOn_ne_nil c rest)
    rw [split, ih, List.splitOn_cons_eq_if_modifyHead, parts]
    by_cases equal : d = c <;> simp [equal]

theorem not_mem_of_mem_split (member : piece ∈ split c text) : c ∉ piece := by
  rw [split_eq_splitOn] at member
  induction text generalizing piece with
  | nil => simp_all
  | cons d rest ih =>
    rw [List.splitOn_cons_eq_if_modifyHead] at member
    split at member
    · rcases List.mem_cons.mp member with rfl | member
      · simp
      · exact ih member
    next differ =>
      obtain ⟨first, more, parts⟩ := List.exists_cons_of_ne_nil (List.splitOn_ne_nil c rest)
      rw [parts] at ih member
      rcases List.mem_cons.mp member with rfl | member
      · have := ih List.mem_cons_self
        simp_all [Ne.symm]
      · exact ih (List.mem_cons_of_mem first member)

/-! ## Bytes -/

theorem byteLength_le_append (before after : Text) :
    byteLength before ≤ byteLength (before ++ after) := by
  induction before with
  | nil => exact Nat.zero_le _
  | cons c rest ih => exact Nat.add_le_add_left ih _

end WorkflowDocs.Text
