import WorkflowDocs.Proofs.Markdown.Table
import WorkflowDocs.Proofs.Text
import WorkflowDocs.Proofs.Text.Lines
import WorkflowDocs.Proofs.Text.Trim

/-!
# Reading the texts back from a table

What was put in place of a pipe or a break is found again wherever it stands, since it neither
overlaps another of its kind nor begins in the text around it.

Results:
1. `replaceText_join`: what stands between other texts is replaced, and nothing else.
2. `readCell_escapeCell`: a cell reads as the text it was made from, trimmed and with its breaks as
   line feeds, unless the text itself holds what stands for a break.
3. `Table.encodes_render`: a rendered table gives its columns and rows back.
-/

namespace WorkflowDocs.Markdown

open Text

variable {needle part text : Text} {parts : List Text} {table : Table}

/-! ## Replacing texts -/

theorem length_lt_of_splitFirst {before after : Text} (filled : needle ≠ [])
    (found : splitFirst needle text = some (before, after)) : after.length < text.length := by
  have long := List.length_pos_iff.mpr filled
  rw [splitFirst_append found, List.length_append, List.length_append]
  omega

/-- Every occurrence of `needle` becomes `replacement`, from left to right and without overlap. An
empty needle is not looked for. -/
def replaceText (needle replacement text : Text) : Text :=
  match _found : splitFirst needle text with
  | some (before, after) =>
    if _filled : needle ≠ [] then before ++ replacement ++ replaceText needle replacement after
    else text
  | none => text
termination_by text.length
decreasing_by exact length_lt_of_splitFirst _filled _found

theorem replaceText_of_some {before after replacement : Text} (filled : needle ≠ [])
    (found : splitFirst needle text = some (before, after)) :
    replaceText needle replacement text = before ++ replacement ++
      replaceText needle replacement after := by
  rw [replaceText]
  split
  next first last found' =>
    cases found.symm.trans found'
    rw [dif_pos filled]
  next missing => cases found.symm.trans missing

theorem replaceText_of_none {replacement : Text} (missing : splitFirst needle text = none) :
    replaceText needle replacement text = text := by
  rw [replaceText]
  split
  next found => cases missing.symm.trans found
  next => rfl

/-- If a text ends where a needle behind it is first found, it holds none itself. -/
theorem splitFirst_eq_none_of_closed (filled : needle ≠ [])
    (closed : splitFirst needle (part ++ needle) = some (part, [])) :
    splitFirst needle part = none := by
  cases found : splitFirst needle part with
  | none => rfl
  | some cut =>
    have inside := splitFirst_append found
    have early : part ++ needle = cut.1 ++ needle ++ (cut.2 ++ needle) := by
      rw [← List.append_assoc, ← inside]
    have late := length_le_of_splitFirst closed early
    have long := List.length_pos_iff.mpr filled
    have whole := congrArg List.length inside
    simp only [List.length_append] at whole
    omega

theorem replaceText_join {replacement : Text} (filled : needle ≠ [])
    (closed : ∀ part ∈ parts, splitFirst needle (part ++ needle) = some (part, [])) :
    replaceText needle replacement (join needle parts) = join replacement parts := by
  induction parts with
  | nil => exact replaceText_of_none (by simp [join, splitFirst, filled])
  | cons part more ih =>
    rw [List.forall_mem_cons] at closed
    by_cases last : more = []
    · subst last
      rw [join, join, List.intercalate_singleton, List.intercalate_singleton]
      exact replaceText_of_none (splitFirst_eq_none_of_closed filled closed.1)
    · have found : splitFirst needle (part ++ needle ++ join needle more) =
          some (part, join needle more) := splitFirst_append_iff.mpr closed.1
      rw [join_cons _ _ last, join_cons _ _ last, replaceText_of_some filled found, ih closed.2]

/-- A needle whose first character does not come again cannot overlap itself, so behind a text
without one it is not found too early. -/
theorem closed_of_not_infix {c : Char} {rest : Text} (once : c ∉ rest)
    (absent : ¬c :: rest <:+: part) :
    splitFirst (c :: rest) (part ++ c :: rest) = some (part, []) := by
  refine splitFirst_eq_some_iff.mpr ⟨by simp, fun before after occurs => ?_⟩
  refine Nat.le_of_not_lt fun early => ?_
  rw [List.append_assoc] at occurs
  rcases List.append_eq_append_iff.mp occurs with ⟨more, rfl, _⟩ | ⟨more, rfl, behind⟩
  · rw [List.length_append] at early
    omega
  · rcases List.append_eq_append_iff.mp behind with ⟨later, rfl, _⟩ | ⟨later, cut, again⟩
    · exact absent ⟨before, later, by simp⟩
    · -- the found needle ends with the beginning of the other one
      cases more with
      | nil => simp at early
      | cons d more =>
        cases later with
        | nil => exact absent ⟨before, [], by simp [cut]⟩
        | cons e later =>
          obtain ⟨rfl, -⟩ := List.cons.inj again
          obtain ⟨-, rfl⟩ := List.cons.inj cut
          exact once (by simp)

/-! ## Cells -/

/-- What stands for a break in a cell. -/
def breakTag : Text := "<br />".toList

/-- The text of a cell, with `\|` read as a pipe, and then each tag of a break as a line feed. -/
def readCell (cell : Text) : Text :=
  replaceText breakTag ['\n'] (replaceText ['\\', '|'] ['|'] cell)

theorem join_split (c : Char) (text : Text) : join [c] (split c text) = text := by
  rw [split_eq_splitOn, join]
  exact List.intercalate_splitOn c

/-- In a cell the breaks are replaced after the pipes, with the same outcome as before them. -/
theorem escapeCell_eq_join (text : Text) : escapeCell text =
    join ['\\', '|'] (split '|' (join breakTag (linesOf text.trim))) := by
  have noFeed : ∀ line ∈ linesOf text.trim, '\n' ∉ line := fun line member =>
    (unbroken_of_mem_linesOf member).1
  have noPipe : ∀ piece ∈ split '|' (join breakTag (linesOf text.trim)), '|' ∉ piece :=
    fun piece => not_mem_of_mem_split
  calc escapeCell text
      = (unifyBreaks text.trim).flatMap cellChar := escapeCell_eq text
    _ = replaceChar '|' ['\\', '|'] (replaceChar '\n' breakTag (unifyBreaks text.trim)) := by
        rw [replaceChar, replaceChar, List.flatMap_assoc]
        congr 1
        funext c
        unfold cellChar
        by_cases pipe : c = '|'
        · subst pipe; rfl
        · by_cases feed : c = '\n'
          · subst feed; rfl
          · simp [pipe, feed]
    _ = replaceChar '|' ['\\', '|'] (join breakTag (linesOf text.trim)) := by
        rw [unifyBreaks_eq_join, replaceChar_join noFeed]
    _ = join ['\\', '|'] (split '|' (join breakTag (linesOf text.trim))) := by
        rw [← replaceChar_join noPipe, join_split]

theorem readCell_escapeCell (absent : ¬breakTag <:+: text) :
    readCell (escapeCell text) = join ['\n'] (linesOf text.trim) := by
  have pipes : ∀ piece ∈ split '|' (join breakTag (linesOf text.trim)),
      splitFirst ['\\', '|'] (piece ++ ['\\', '|']) = some (piece, []) := by
    intro piece member
    refine closed_of_not_infix (by decide) fun within => ?_
    exact not_mem_of_mem_split member (within.mem (by simp))
  have breaks : ∀ line ∈ linesOf text.trim,
      splitFirst breakTag (line ++ breakTag) = some (line, []) := by
    intro line member
    refine closed_of_not_infix (by decide) fun within => absent ?_
    exact within.trans ((isInfix_of_mem_linesOf member).trans (isInfix_trim text))
  rw [readCell, escapeCell_eq_join, replaceText_join (by decide) pipes, join_split,
    replaceText_join (by decide) breaks]

/-- A text that holds the tag already is read with a line feed in its place. -/
example : readCell (escapeCell "<br />".toList) = ['\n'] := by cbv

/-! ## Whole tables -/

/-- Below the name of a column stand a colon and at least two dashes, and a colon behind them exactly
if the column is centred. -/
def Rules (column : Column) (cell : Text) : Prop :=
  ∃ dashes, 2 ≤ dashes ∧ cell = ':' :: repeated dashes '-' ++
    if column.align = .center then [':'] else []

/-- The cell reads as the text without the blanks around it, each of its breaks as a line feed. -/
def Holds (text cell : Text) : Prop :=
  ¬breakTag <:+: text → ∃ core, Trimmed text core ∧ readCell cell = join ['\n'] (linesOf core)

/-- The columns and rows of the table can be read from its text. Each line is cut at its pipes into
as many cells as there are columns. -/
structure Encodes (table : Table) (text : Text) : Prop where
  noReturn : '\r' ∉ text
  count : (linesOf text).length = 2 + table.rows.length
  lines : ∃ header rule rows, linesOf text = header :: rule :: rows ∧
    Row header (table.columns.map (·.name)) ∧
    (∃ cells, Row rule cells ∧ List.Forall₂ Rules table.columns cells) ∧
    List.Forall₂ (fun row line => ∃ cells, Row line cells ∧ cells.length = table.columns.length ∧
      List.Forall₂ Holds row cells) table.rows rows

theorem rules_rule (column : Column) : Rules column column.rule := by
  obtain ⟨name, align⟩ := column
  cases align with
  | left => exact ⟨max 4 (byteLength name) - 1, by omega, (List.append_nil _).symm⟩
  | center => exact ⟨max 4 (byteLength name) - 2, by omega, rfl⟩

theorem holds_escapeCell (text : Text) : Holds text (escapeCell text) := fun absent =>
  ⟨text.trim, trimmed_trim text, readCell_escapeCell absent⟩

theorem Table.encodes_render (filled : table.columns ≠ []) (plain : Plain table.columns)
    (full : ∀ row ∈ table.rows, row.length = table.columns.length) : Encodes table table.render := by
  have nonempty : ∀ row ∈ table.rows, row ≠ [] := by
    intro row member
    rw [← List.length_pos_iff, full row member]
    exact List.length_pos_iff.mpr filled
  obtain ⟨header, rule, lines, cut, first, second, rows⟩ := Table.rows_lines filled plain nonempty
  change table.lines = header :: rule :: lines at cut
  have unbroken : ∀ line ∈ header :: rule :: lines, Unbroken line := by
    have each := rows.imp fun _ _ row => And.intro row.1 row
    rw [List.forall_mem_cons, List.forall_mem_cons]
    exact ⟨first.1, second.1, ((List.forall₂_and_left _ _).mp each).1⟩
  have read : linesOf table.render = header :: rule :: lines := by
    rw [Table.render, cut]
    exact @linesOf_join _ .lf (List.cons_ne_nil _ _) unbroken
  refine ⟨?noReturn, ?count, header, rule, lines, read, first, ⟨_, second, ?rules⟩, ?rows⟩
  case noReturn =>
    rw [Table.render, cut]
    exact not_mem_join (by decide) fun line member => (unbroken line member).2
  case count =>
    rw [read, List.length_cons, List.length_cons, rows.length_eq]
    omega
  case rules =>
    rw [List.forall₂_map_right_iff, List.forall₂_same]
    exact fun column _ => rules_rule column
  case rows =>
    refine List.forall₂_iff_get.mpr ⟨rows.length_eq.symm, fun n inRows inLines => ?_⟩
    refine ⟨_, rows.get inLines inRows, ?_, ?_⟩
    · rw [List.length_map]
      exact full _ (List.getElem_mem inRows)
    · rw [List.forall₂_map_right_iff, List.forall₂_same]
      exact fun text _ => holds_escapeCell text

/-- Names and cells with backslashes before pipes and at their ends, breaks of all kinds, and the
parts of a tag. -/
def hardTable : Table where
  columns := [⟨"Name\\".toList, .left⟩, ⟨"é".toList, .center⟩]
  rows := [["a\\|b\\".toList, " c\r\r\n|\n".toList], ["<b\nr />".toList, []]]

theorem Table.encodes_render_hardTable : hardTable.columns ≠ [] ∧ Plain hardTable.columns ∧
    (∀ row ∈ hardTable.rows, row.length = hardTable.columns.length) ∧
    Encodes hardTable hardTable.render :=
  ⟨by decide, by decide, by decide, encodes_render (by decide) (by decide) (by decide)⟩

end WorkflowDocs.Markdown
