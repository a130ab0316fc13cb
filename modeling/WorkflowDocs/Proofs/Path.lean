import WorkflowDocs.Path
import WorkflowDocs.Proofs.Text
import Mathlib.Data.List.DropRight

/-!
# The last name of a path

The name of the file that a path ends with is its last piece, but for pieces that mean nothing
(`fileName?_eq_some`), and a path that is given another name ends with that
(`getLast?_pieces_withFileName`).
-/

namespace WorkflowDocs.Path

variable {path base name : Text}

/-- A piece that may stand behind the last name. -/
def meaningless (piece : Text) : Bool := piece.isEmpty || piece = ['.']

theorem getLast?_rdropWhile {found : List Text}
    (last : (found.rdropWhile meaningless).getLast? = some name) :
    meaningless name = false ∧ ∃ before idle, found = before ++ name :: idle ∧
      ∀ piece ∈ idle, meaningless piece = true := by
  have nonempty : found.rdropWhile meaningless ≠ [] := by
    intro empty
    simp [empty] at last
  have kept := List.rdropWhile_last_not meaningless found nonempty
  obtain ⟨before, cut⟩ := List.getLast?_eq_some_iff.mp last
  refine ⟨by simpa [cut] using kept, before, found.rtakeWhile meaningless, ?_, ?_⟩
  · have whole := @List.rdropWhile_append_rtakeWhile _ meaningless found
    rw [cut] at whole
    simpa using whole.symm
  · exact fun piece member => List.mem_rtakeWhile_imp member

/-- The parts of a path, with the pieces behind the last one cut off. -/
theorem parts_eq (path : Text) : parts path =
    if isAbsolute path then (pieces (path.drop 1)).rdropWhile meaningless
    else match pieces path with
      | ['.'] :: more => ['.'] :: more.rdropWhile meaningless
      | found => found.rdropWhile meaningless := rfl

/-- The last name of a path stands in it before pieces that mean nothing. -/
theorem fileName?_eq_some (named : fileName? path = some name) :
    meaningless name = false ∧ name ≠ ['.', '.'] ∧
      ∃ before idle, pieces path = before ++ name :: idle ∧
        ∀ piece ∈ idle, meaningless piece = true := by
  unfold fileName? at named
  split at named
  · next last found =>
    split at named
    · cases named
    next proper =>
      cases named
      simp only [Bool.or_eq_true, decide_eq_true_eq, not_or] at proper
      obtain ⟨notDot, notUp⟩ := proper
      rw [parts_eq] at found
      split at found
      next absolute =>
        obtain ⟨kept, before, idle, cut, rest⟩ := getLast?_rdropWhile found
        obtain ⟨more, rfl⟩ : ∃ more, path = '/' :: more := by
          cases path <;> simp_all [isAbsolute]
        refine ⟨kept, notUp, [] :: before, idle, ?_, rest⟩
        simpa [pieces, Text.split] using cut
      next relative =>
        split at found
        next more dotted =>
          -- a leading dot is a part, but it is no name
          cases trimmed : more.rdropWhile meaningless with
          | nil => simp_all
          | cons first others =>
            rw [trimmed, List.getLast?_cons_cons, ← trimmed] at found
            obtain ⟨kept, before, idle, cut, rest⟩ := getLast?_rdropWhile found
            exact ⟨kept, notUp, ['.'] :: before, idle, by rw [dotted, cut]; rfl, rest⟩
        next => exact ⟨(getLast?_rdropWhile found).1, notUp, (getLast?_rdropWhile found).2⟩
  · cases named

/-! ## Another name -/

theorem pieces_append_slash (before after : Text) :
    pieces (before ++ '/' :: after) = pieces before ++ pieces after := by
  simp only [pieces, Text.split_eq_splitOn, List.splitOn_append_cons_self]

theorem pieces_append_slashes (n : Nat) (before : Text) :
    pieces (before ++ List.replicate n '/') = pieces before ++ List.replicate n [] := by
  induction n generalizing before with
  | zero => simp
  | succ n ih =>
    have rest : pieces (List.replicate n '/') = List.replicate (n + 1) [] := ih []
    rw [List.replicate_succ, pieces_append_slash, rest]

theorem pieces_of_name (flat : '/' ∉ name) : pieces name = [name] := by
  rw [pieces, Text.split_eq_splitOn, List.splitOn_eq_singleton flat]

theorem getLast?_pieces_join (flat : '/' ∉ name) :
    (pieces (join base name)).getLast? = some name := by
  have relative : isAbsolute name = false := by
    cases name <;> simp_all [isAbsolute, eq_comm]
  unfold join
  rw [relative]
  simp only [Bool.false_eq_true, if_false]
  split
  next joined =>
    simp only [Bool.or_eq_true, List.isEmpty_iff, decide_eq_true_eq] at joined
    rcases joined with rfl | slash
    · simp [pieces_of_name flat]
    · obtain ⟨outer, rfl⟩ := List.getLast?_eq_some_iff.mp slash
      rw [List.append_assoc, List.singleton_append, pieces_append_slash, pieces_of_name flat,
        List.getLast?_concat]
  · rw [pieces_append_slash, pieces_of_name flat, List.getLast?_concat]

theorem getLast?_pieces_withFileName (flat : '/' ∉ name) :
    (pieces (withFileName path name)).getLast? = some name := by
  unfold withFileName
  split <;> exact getLast?_pieces_join flat

end WorkflowDocs.Path
