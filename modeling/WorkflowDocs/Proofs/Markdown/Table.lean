import WorkflowDocs.Markdown
import WorkflowDocs.Proofs.Text.LineBreak
import Mathlib.Data.List.Forall2

/-!
# Reading tables

A line of a table is read by splitting it at its pipes, but for those directly behind a backslash.

Results:
1. `sealed_escapeCell`, `unbroken_escapeCell`: an escaped text holds no pipe to split at and no break.
2. `row_rowLine`: a line made of such cells reads as these cells.
3. `Table.rows_lines`: a table has a line for the names of its columns, one for their rules, and one
   for each row, which reads as the escaped texts of the row.
-/

namespace WorkflowDocs.Markdown

open Text

/-- The pieces of a text between its pipes. A pipe directly behind a backslash separates nothing;
`escaped` says that the text stands behind one. -/
def splitPipes (escaped : Bool) : Text → List Text
  | [] => [[]]
  | c :: rest =>
    if c = '|' && !escaped then [] :: splitPipes false rest
    else (splitPipes (c = '\\') rest).modifyHead (c :: ·)

/-- A cell as it stands between two pipes. -/
def padded (cell : Text) : Text := ' ' :: (cell ++ [' '])

/-- The text is one line that reads as these cells, each with a space of padding at either end. -/
def Row (line : Text) (cells : List Text) : Prop :=
  Unbroken line ∧ splitPipes false line = [] :: (cells.map padded ++ [[]])

/-- No pipe of the text separates anything, wherever it stands. -/
def Sealed (text : Text) : Prop := ∀ escaped, splitPipes escaped text = [text]

variable {text before rest : Text} {cells : List Text}

example : splitPipes false "| a\\|b | \\\\| |".toList =
    [[], " a\\|b ".toList, " \\\\| ".toList, []] := by decide

/-! ## Texts without a pipe to split at -/

theorem splitPipes_cons (escaped : Bool) (c : Char) (rest : Text) :
    splitPipes escaped (c :: rest) =
      if c = '|' && !escaped then [] :: splitPipes false rest
      else (splitPipes (c = '\\') rest).modifyHead (c :: ·) := rfl

theorem Sealed.append (absent : '|' ∉ before) (after : Sealed text) : Sealed (before ++ text) := by
  induction before with
  | nil => exact after
  | cons c rest ih =>
    intro escaped
    rw [List.mem_cons, not_or] at absent
    have other : ¬ (c = '|' && !escaped) = true := by simp [Ne.symm absent.1]
    rw [List.cons_append, splitPipes_cons, if_neg other, ih absent.2]
    rfl

theorem sealed_of_not_mem (absent : '|' ∉ text) : Sealed text := by
  have whole := Sealed.append absent (show Sealed [] from fun _ => rfl)
  rwa [List.append_nil] at whole

/-- What `escapeCell` makes of a character. -/
def cellChar (c : Char) : Text :=
  if c = '|' then "\\|".toList else if c = '\n' then "<br />".toList else [c]

theorem escapeCell_eq (text : Text) :
    escapeCell text = (unifyBreaks text.trim).flatMap cellChar := by
  rw [escapeCell, replaceChar, replaceChar, List.flatMap_assoc]
  congr 1
  funext c
  unfold cellChar
  split
  · rfl
  · exact List.flatMap_singleton _ _

/-- A pipe gets its backslash before it, and nothing else makes a pipe. -/
theorem sealed_escapeCell (text : Text) : Sealed (escapeCell text) := by
  rw [escapeCell_eq]
  induction unifyBreaks text.trim with
  | nil => exact fun _ => rfl
  | cons c rest ih =>
    rw [List.flatMap_cons]
    by_cases pipe : c = '|'
    · subst pipe
      intro escaped
      have behind : splitPipes true ('|' :: rest.flatMap cellChar) =
          ['|' :: rest.flatMap cellChar] := by
        rw [splitPipes_cons, if_neg (by decide), ih]
        rfl
      change splitPipes escaped ('\\' :: '|' :: rest.flatMap cellChar) = _
      rw [splitPipes_cons, if_neg (by simp)]
      exact congrArg _ behind
    · refine Sealed.append ?_ ih
      unfold cellChar
      rw [if_neg pipe]
      split
      · decide
      · simpa using Ne.symm pipe

theorem not_mem_unifyBreaks (text : Text) : '\r' ∉ unifyBreaks text := by
  intro member
  rcases mem_replaceChar member with feed | ⟨_, other⟩
  · exact absurd feed (by decide)
  · exact other rfl

theorem unbroken_escapeCell (text : Text) : Unbroken (escapeCell text) := by
  refine ⟨fun member => ?_, fun member => ?_⟩
  · rcases mem_replaceChar member with inBreak | ⟨_, other⟩
    · exact absurd inBreak (by decide)
    · exact other rfl
  · rcases mem_replaceChar member with inBreak | ⟨inText, _⟩
    · exact absurd inBreak (by decide)
    · rcases mem_replaceChar inText with inPipe | ⟨inText, _⟩
      · exact absurd inPipe (by decide)
      · exact not_mem_unifyBreaks _ inText

/-! ## One line -/

/-- A text without a pipe to split at ends at the next one that stands behind a space. -/
theorem splitPipes_append {escaped : Bool} (whole : splitPipes escaped text = [text]) :
    splitPipes escaped (text ++ ' ' :: '|' :: rest) = (text ++ [' ']) :: splitPipes false rest := by
  induction text generalizing escaped with
  | nil => simp [splitPipes]
  | cons c more ih =>
    rw [splitPipes_cons] at whole
    split at whole
    next => simp at whole
    next other =>
      obtain ⟨first, others, pieces⟩ := List.exists_cons_of_ne_nil
        (show splitPipes (c = '\\') more ≠ [] by intro empty; simp [empty] at whole)
      rw [pieces, List.modifyHead_cons] at whole
      have whole' : splitPipes (c = '\\') more = [more] := by simp_all
      rw [List.cons_append, splitPipes_cons, if_neg other, ih whole']
      rfl

theorem rowLine_eq (filled : cells ≠ []) :
    rowLine cells = '|' :: cells.flatMap fun cell => padded cell ++ ['|'] := by
  induction cells with
  | nil => exact absurd rfl filled
  | cons first others ih =>
    cases others with
    | nil => simp [rowLine, join, padded]
    | cons second more =>
      have others := ih (List.cons_ne_nil _ _)
      simp only [rowLine, join, List.intercalate_cons_cons, List.flatMap_cons] at others ⊢
      simp_all [padded]

theorem splitPipes_flatMap (free : ∀ cell ∈ cells, Sealed cell) :
    splitPipes false (cells.flatMap fun cell => padded cell ++ ['|']) = cells.map padded ++ [[]] := by
  induction cells with
  | nil => rfl
  | cons first others ih =>
    rw [List.forall_mem_cons] at free
    have here : splitPipes false (' ' :: first) = [' ' :: first] := by
      rw [splitPipes_cons, if_neg (by decide), free.1]
      rfl
    have line : (padded first ++ ['|']) ++ (others.flatMap fun cell => padded cell ++ ['|']) =
        (' ' :: first) ++ ' ' :: '|' :: others.flatMap fun cell => padded cell ++ ['|'] := by
      simp [padded]
    rw [List.flatMap_cons, line, splitPipes_append here, ih free.2]
    rfl

theorem row_rowLine (filled : cells ≠ [])
    (fit : ∀ cell ∈ cells, Sealed cell ∧ Unbroken cell) : Row (rowLine cells) cells := by
  constructor
  · exact (Unbroken.append (by decide)
      (unbroken_join (by decide) fun cell member => (fit cell member).2)).append (by decide)
  · rw [rowLine_eq filled, splitPipes_cons]
    exact congrArg _ (splitPipes_flatMap fun cell member => (fit cell member).1)

theorem Row.head? {line : Text} (row : Row line cells) : line.head? = some '|' := by
  obtain ⟨_, read⟩ := row
  cases line with
  | nil => simp [splitPipes] at read
  | cons c rest =>
    rw [splitPipes_cons] at read
    split at read
    next pipe => simp_all
    next => cases cut : splitPipes (c = '\\') rest <;> simp [cut] at read

/-! ## Whole tables -/

theorem rule_fits (column : Column) : Sealed column.rule ∧ Unbroken column.rule := by
  have plain : ∀ c ∈ column.rule, c = ':' ∨ c = '-' := by
    obtain ⟨name, align⟩ := column
    intro c member
    cases align <;> simp [Column.rule, repeated] at member <;> tauto
  refine ⟨sealed_of_not_mem fun pipe => ?_, fun feed => ?_, fun ret => ?_⟩
  · simpa using plain _ pipe
  · simpa using plain _ feed
  · simpa using plain _ ret

/-- The names of the columns can stand in a table as they are. -/
def Plain (columns : List Column) : Prop :=
  ∀ column ∈ columns, '|' ∉ column.name ∧ Unbroken column.name

instance (columns : List Column) : Decidable (Plain columns) :=
  inferInstanceAs (Decidable (∀ column ∈ columns, _))

theorem Table.rows_lines {columns : List Column} {rows : List (List Text)} (filled : columns ≠ [])
    (plain : Plain columns) (full : ∀ row ∈ rows, row ≠ []) :
    ∃ header rule lines, Table.lines ⟨columns, rows⟩ = header :: rule :: lines ∧
      Row header (columns.map (·.name)) ∧ Row rule (columns.map (·.rule)) ∧
      List.Forall₂ (fun line row => Row line (row.map escapeCell)) lines rows := by
  refine ⟨_, _, _, rfl, ?header, ?rule, ?rows⟩
  case header =>
    refine row_rowLine (by simpa using filled) ?_
    intro name member
    obtain ⟨column, present, rfl⟩ := List.mem_map.mp member
    exact ⟨sealed_of_not_mem (plain column present).1, (plain column present).2⟩
  case rule =>
    refine row_rowLine (by simpa using filled) ?_
    intro rule member
    obtain ⟨column, _, rfl⟩ := List.mem_map.mp member
    exact rule_fits column
  case rows =>
    rw [List.forall₂_map_left_iff, List.forall₂_same]
    intro row present
    refine row_rowLine (by simpa using full row present) ?_
    intro cell member
    obtain ⟨text, _, rfl⟩ := List.mem_map.mp member
    exact ⟨sealed_escapeCell text, unbroken_escapeCell text⟩

end WorkflowDocs.Markdown
