import WorkflowDocs.Text.LineBreak

/-!
# Markdown

The pieces of markdown the documents are made of: heading marks, inline code and tables.
-/

namespace WorkflowDocs.Markdown

open Text

/-- The mark of a heading; levels outside 1 to 6 count as the nearest of them. -/
def headingMark (level : Nat) : Text := repeated (max 1 (min 6 level)) '#'

/-- An inline code span. Text that holds a backtick gets a fence of two and a space of padding. -/
def code (text : Text) : Text :=
  if text.contains '`' then "`` ".toList ++ text ++ " ``".toList
  else '`' :: (text ++ ['`'])

/-- Text made fit for one table cell: trimmed, pipes escaped, line breaks as `<br />`. -/
def escapeCell (text : Text) : Text :=
  replaceChar '\n' "<br />".toList (replaceChar '|' "\\|".toList (unifyBreaks text.trim))

inductive Align
  | left
  | center
  deriving DecidableEq, Repr

structure Column where
  name : Text
  align : Align
  deriving DecidableEq, Repr

/-- A table whose cells are raw texts. -/
structure Table where
  columns : List Column
  rows : List (List Text)
  deriving DecidableEq, Repr

/-- The cell below a column's name. It is at least four wide and as wide as the name in bytes. -/
def Column.rule (column : Column) : Text :=
  let width := max 4 (byteLength column.name)
  match column.align with
  | .left => ':' :: repeated (width - 1) '-'
  | .center => ':' :: (repeated (width - 2) '-' ++ [':'])

/-- One line of a table from cells that are already escaped. -/
def rowLine (cells : List Text) : Text := "| ".toList ++ join " | ".toList cells ++ " |".toList

def Table.lines (table : Table) : List Text :=
  rowLine (table.columns.map (·.name)) ::
  rowLine (table.columns.map (·.rule)) ::
  table.rows.map fun row => rowLine (row.map escapeCell)

def Table.render (table : Table) : Text := join ['\n'] table.lines

example :
    Table.render ⟨[⟨"Name".toList, .left⟩, ⟨"Required".toList, .center⟩], [["a|b".toList, "yes".toList]]⟩ =
      "| Name | Required |\n| :--- | :------: |\n| a\\|b | yes |".toList := by decide

end WorkflowDocs.Markdown
