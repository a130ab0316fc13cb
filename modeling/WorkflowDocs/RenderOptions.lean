import WorkflowDocs.Markdown

/-!
# Rendering options

The line break style of a document and the level of its section headings.
-/

namespace WorkflowDocs

open Markdown

structure RenderOptions where
  lineBreaks : LineBreaks := .lf
  /-- A byte; the headings use the nearest level between 1 and 6. -/
  tocLevel : Nat := 2
  deriving DecidableEq, Repr

namespace RenderOptions

/-- The mark of a section heading. -/
def heading (options : RenderOptions) : Text := headingMark options.tocLevel

/-- The mark of the document's title, one level above the sections. -/
def titleHeading (options : RenderOptions) : Text := headingMark (options.tocLevel - 1)

/-- The mark of a heading inside a section. -/
def subHeading (options : RenderOptions) : Text := headingMark (options.tocLevel + 1)

example : (RenderOptions.mk .lf 6).subHeading = "######".toList := by decide

end RenderOptions

end WorkflowDocs
