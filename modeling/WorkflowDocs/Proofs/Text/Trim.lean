import Mathlib.Data.List.DropRight
import WorkflowDocs.Text.Blank

/-!
# Texts without the blanks around them

Results:
1. `trimmed_iff`: what trimming leaves is the text between two runs of blanks that neither begins nor
   ends with one.
2. `isInfix_trim`: it is a part of the text.
-/

namespace WorkflowDocs.Text

variable {text core after : Text}

/-- The text neither begins nor ends with a blank character. -/
def Bare (text : Text) : Prop :=
  (∀ c, text.head? = some c → isBlank c = false) ∧ ∀ c, text.getLast? = some c → isBlank c = false

/-- `core` is the text without the blank characters around it. -/
def Trimmed (text core : Text) : Prop :=
  ∃ before after, text = before ++ core ++ after ∧ blank before = true ∧ blank after = true ∧
    Bare core

theorem Trimmed.bare (trimmed : Trimmed text core) : Bare core := by
  obtain ⟨_, _, _, _, _, bare⟩ := trimmed
  exact bare

theorem trimStart_of_head (bare : ∀ c, text.head? = some c → isBlank c = false) :
    trimStart text = text := by
  cases text with
  | nil => rfl
  | cons c rest => simp [trimStart, bare c rfl]

theorem trimEnd_of_last (bare : ∀ c, text.getLast? = some c → isBlank c = false) :
    trimEnd text = text := by
  have kept : text.reverse.dropWhile isBlank = text.reverse :=
    trimStart_of_head fun c first => bare c (by rwa [List.head?_reverse] at first)
  rw [trimEnd, kept, List.reverse_reverse]

theorem trimEnd_append (blanks : blank after = true) : trimEnd (text ++ after) = trimEnd text := by
  have behind : ∀ c ∈ after.reverse, isBlank c = true := fun c member =>
    List.all_eq_true.mp blanks c (List.mem_reverse.mp member)
  rw [trimEnd, List.reverse_append, List.dropWhile_append_of_pos behind, trimEnd]

theorem trim_of_trimmed (trimmed : Trimmed text core) : text.trim = core := by
  obtain ⟨before, after, rfl, ahead, behind, bare⟩ := trimmed
  have start : trimStart (before ++ core ++ after) = trimStart (core ++ after) := by
    rw [trimStart, List.append_assoc, List.dropWhile_append_of_pos (List.all_eq_true.mp ahead)]
    rfl
  rw [trim, start]
  cases core with
  | nil => rw [List.nil_append, (trimStart_eq_nil_iff after).mpr behind]; rfl
  | cons c rest =>
    have kept : trimStart (c :: rest ++ after) = c :: rest ++ after :=
      trimStart_of_head fun d first => bare.1 d first
    rw [kept, trimEnd_append behind, trimEnd_of_last bare.2]

theorem trimmed_trim (text : Text) : Trimmed text text.trim := by
  have front : text = text.takeWhile isBlank ++ trimStart text :=
    List.takeWhile_append_dropWhile.symm
  have back : trimStart text = trim text ++ (trimStart text).rtakeWhile isBlank :=
    List.rdropWhile_append_rtakeWhile.symm
  refine ⟨text.takeWhile isBlank, (trimStart text).rtakeWhile isBlank, ?_, ?_, ?_, ?_, ?_⟩
  · rw [List.append_assoc, ← back, ← front]
  · exact List.all_eq_true.mpr fun c member => List.mem_takeWhile_imp member
  · exact List.all_eq_true.mpr fun c member => List.mem_rtakeWhile_imp member
  · -- what begins the rest begins what was left of the start
    intro c first
    have here : (trimStart text).head? = some c := by rw [back, List.head?_append, first]; rfl
    have other := List.head?_dropWhile_not isBlank text
    rw [trimStart] at here
    rw [here] at other
    simpa using other
  · intro c last
    have filled : (trimStart text).rdropWhile isBlank ≠ [] := fun empty => by
      change ((trimStart text).rdropWhile isBlank).getLast? = some c at last
      simp [empty] at last
    have other := List.rdropWhile_last_not isBlank (trimStart text) filled
    have same : some (((trimStart text).rdropWhile isBlank).getLast filled) = some c :=
      (List.getLast?_eq_some_getLast filled).symm.trans last
    rw [Option.some.inj same] at other
    simpa using other

theorem trimmed_iff : Trimmed text core ↔ text.trim = core :=
  ⟨trim_of_trimmed, fun equal => equal ▸ trimmed_trim text⟩

theorem isInfix_trim (text : Text) : text.trim <:+: text := by
  obtain ⟨before, after, whole, _⟩ := trimmed_trim text
  exact ⟨before, after, whole.symm⟩

end WorkflowDocs.Text
