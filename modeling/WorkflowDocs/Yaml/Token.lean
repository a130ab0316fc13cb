import WorkflowDocs.Yaml.Mark

/-!
# Tokens

What a workflow file is read into first: brackets and indicators, the block structure that the
indentation stands for, and scalars with their line folding and escapes already undone.
-/

namespace WorkflowDocs.Yaml

/-- The text of a tag. The escapes in it write bytes; bytes that are no character stand as `none`. -/
abbrev TagText := List (Option Char)

inductive TokenKind
  | streamStart
  | streamEnd
  | version (major minor : Nat)
  | tagHandle (handle : Text) (start : TagText)
  | documentStart
  | documentEnd
  | blockSequence
  | blockMapping
  | blockEnd
  | flowSequence
  | flowSequenceEnd
  | flowMapping
  | flowMappingEnd
  | blockEntry
  | flowEntry
  | key
  | value
  | alias (name : Text)
  | anchor (name : Text)
  | tag (handle : Text) (ending : TagText)
  | scalar (value : Text) (plain : Bool)
  deriving DecidableEq, Repr

structure Token where
  kind : TokenKind
  start : Mark
  stop : Mark
  deriving DecidableEq, Repr

end WorkflowDocs.Yaml
