import WorkflowDocs.Proofs.Generation.Again
import WorkflowDocs.Proofs.Program.Parts
import WorkflowDocs.Proofs.Text.Lines

/-!
# Assembling a document

The sections are rendered with whatever breaks their texts hold. They get the breaks of one style
when they are shown by themselves, and again when they are assembled.

Results:
1. `assemble_eq_join`, `unended_assemble`: the document is its sections without the breaks at their
   ends, two terminators apart.
2. `assemble_map_normalizeBreaks`: it does not matter which breaks the sections have had.
3. `agrees_of_runs`: all that a generation shows is of one document.
4. `assembly`: all of this, and what the style of the breaks changes.
-/

namespace WorkflowDocs.Bundle

open Text Generation

variable {bundle : Bundle} {options : RenderOptions} {part : Text} {steps : List Step}
  {request : Request} {outcome : Outcome}

/-! ## The document -/

/-- The same change to each section. -/
def map (change : Text → Text) (bundle : Bundle) : Bundle :=
  ⟨change bundle.description, change bundle.inputs, change bundle.outputs, change bundle.triggers⟩

/-- The sections of a workflow, their breaks as they come. -/
def rendered (document : Workflow.Document) (options : RenderOptions) : Bundle where
  description := Section.description document.name document.description options
  inputs := Section.inputs document.inputs options
  outputs := Section.outputs document.outputs options
  triggers := Section.triggers document.triggers document.secrets options

/-- The sections as they stand in the document. -/
def parts (bundle : Bundle) (style : LineBreaks) : List Text :=
  (bundle.fragments.map fun fragment => normalizeBreaks style (dropFinalBreaks fragment)).filter
    fun part => !part.isEmpty

theorem unended_of_mem (member : part ∈ bundle.fragments.map dropFinalBreaks) : Unended part := by
  obtain ⟨fragment, _, rfl⟩ := List.mem_map.mp member
  exact unended_dropFinalBreaks fragment

/-- Rewriting breaks empties no section and fills none. -/
theorem parts_eq (bundle : Bundle) (style : LineBreaks) : bundle.parts style =
    ((bundle.fragments.map dropFinalBreaks).filter fun part => !part.isEmpty).map
      (normalizeBreaks style) := by
  have same : ∀ part ∈ bundle.fragments.map dropFinalBreaks,
      (!(normalizeBreaks style part).isEmpty) = !part.isEmpty := by
    intro part member
    rw [Bool.eq_iff_iff]
    simp [(unended_of_mem member).normalizeBreaks_eq_nil_iff]
  have apart : bundle.fragments.map (fun fragment => normalizeBreaks style (dropFinalBreaks fragment)) =
      (bundle.fragments.map dropFinalBreaks).map (normalizeBreaks style) := by
    rw [List.map_map]
    rfl
  rw [parts, apart, List.filter_map, Function.comp_def, List.filter_congr same]

theorem assemble_eq_join (bundle : Bundle) (options : RenderOptions) : bundle.assemble options =
    join (options.lineBreaks.terminator ++ options.lineBreaks.terminator)
      (bundle.parts options.lineBreaks) := by
  have ends : ∀ part ∈ (bundle.fragments.map dropFinalBreaks).filter fun part => !part.isEmpty,
      part.getLast? ≠ some '\r' := by
    intro part member ret
    simpa [isBreak] using unended_of_mem (List.mem_of_mem_filter member) _ ret
  have blank : normalizeBreaks options.lineBreaks ['\n', '\n'] =
      options.lineBreaks.terminator ++ options.lineBreaks.terminator := by
    cases options.lineBreaks <;> rfl
  rw [assemble, normalizeBreaks_join_texts (by decide) ends, blank, parts_eq]

example : (Bundle.mk "a\r\n".toList "\n\r".toList "\nb\rc\r\r\n".toList []).assemble ⟨.crlf, 2⟩ =
    "a\r\n\r\n\r\nb\r\nc".toList := by decide

theorem unended_join {separator : Text} {texts : List Text} (filled : [] ∉ texts)
    (unended : ∀ text ∈ texts, Unended text) : Unended (join separator texts) := by
  induction texts with
  | nil => simp [join, Unended]
  | cons first rest ih =>
    rw [List.forall_mem_cons] at unended
    rw [List.mem_cons, not_or] at filled
    cases rest with
    | nil => simpa [join] using unended.1
    | cons second more =>
      intro c ends
      rw [List.mem_cons, not_or] at filled
      -- the texts behind the separator are not empty, so they hold the last character
      have behind : join separator (second :: more) ≠ [] := by
        cases more <;> simp [join, Ne.symm filled.2.1]
      rw [join_cons_cons, List.getLast?_append_of_ne_nil _ behind] at ends
      exact ih (by simpa [not_or] using filled.2) unended.2 c ends

theorem unended_assemble (bundle : Bundle) (options : RenderOptions) :
    Unended (bundle.assemble options) := by
  rw [assemble_eq_join]
  refine unended_join (by simp [parts]) fun text member => ?_
  rw [parts_eq] at member
  obtain ⟨part, kept, rfl⟩ := List.mem_map.mp member
  exact (unended_of_mem (List.mem_of_mem_filter kept)).normalizeBreaks _

/-- Sections in one style and sections with any breaks make the same document. -/
theorem assemble_map_normalizeBreaks (bundle : Bundle) (style : LineBreaks)
    (options : RenderOptions) :
    (bundle.map (normalizeBreaks style)).assemble options = bundle.assemble options := by
  have again : ∀ text, normalizeBreaks options.lineBreaks
      (dropFinalBreaks (normalizeBreaks style text)) =
      normalizeBreaks options.lineBreaks (dropFinalBreaks text) := fun text => by
    rw [dropFinalBreaks_normalizeBreaks, normalizeBreaks_normalizeBreaks]
  have fragments : (bundle.map (normalizeBreaks style)).fragments =
      bundle.fragments.map (normalizeBreaks style) := rfl
  rw [assemble_eq_join, assemble_eq_join, parts, parts, fragments, List.map_map]
  simp only [Function.comp_def, again]

theorem ofDocument_eq_map (document : Workflow.Document) (options : RenderOptions) :
    ofDocument document options =
      (rendered document options).map (normalizeBreaks options.lineBreaks) := rfl

theorem assemble_ofDocument (document : Workflow.Document) (options : RenderOptions) :
    (ofDocument document options).assemble options =
      (rendered document options).assemble options := by
  rw [ofDocument_eq_map, assemble_map_normalizeBreaks]

/-! ## What a generation shows -/

/-- An outcome shows the sections of a document and what they are assembled to, and its report
shows the same texts. -/
structure Agrees (document : Workflow.Document) (options : RenderOptions) (outcome : Outcome) :
    Prop where
  bundle : outcome.bundle = (rendered document options).map (normalizeBreaks options.lineBreaks)
  markdown : outcome.markdown = (rendered document options).assemble options
  again : outcome.bundle.assemble options = outcome.markdown
  report : ∀ file, ∃ rest, outcome.report file = .object (
    ("workflow_file".toList, .string file) ::
    ("description".toList, .string outcome.bundle.description) ::
    ("inputs".toList, .string outcome.bundle.inputs) ::
    ("outputs".toList, .string outcome.bundle.outputs) ::
    ("triggers".toList, .string outcome.bundle.triggers) ::
    ("markdown".toList, .string outcome.markdown) :: rest)

theorem sections_of_runs {path : Text} (runs : (sections path options).Runs steps (.ok bundle)) :
    ∃ source document, Workflow.Document.parse source = .ok document ∧
      bundle = ofDocument document options := by
  obtain ⟨_, _, loaded, rfl, loading, onward⟩ := Script.runs_bind_iff.mp runs
  cases loaded with
  | error failure => cases (Script.runs_pure_iff.mp onward).2
  | ok document =>
    have told := Script.runs_tell_iff.mp onward
    cases (Script.runs_pure_iff.mp told).2
    obtain ⟨reply, _, _, rfl, parsing⟩ := Script.runs_perform_iff.mp loading
    cases reply with
    | error error => cases (Script.runs_pure_iff.mp parsing).2
    | ok source =>
      have parsed := (Script.runs_pure_iff.mp parsing).2
      refine ⟨source, document, ?_, rfl⟩
      cases found : Workflow.Document.parse source with
      | error failure => rw [found] at parsed; cases parsed
      | ok other => rw [found] at parsed; cases parsed; rfl

/-- Whatever the operations of a generation answer, an outcome is that of a workflow that parses. -/
theorem agrees_of_runs (runs : (Generation.run request).Runs steps (.ok outcome)) :
    ∃ source document, Workflow.Document.parse source = .ok document ∧
      Agrees document request.render outcome := by
  rw [Program.generation_eq] at runs
  obtain ⟨_, _, extracted, rfl, extracting, onward⟩ := Script.runs_bind_iff.mp runs
  cases extracted with
  | error failure => cases (Script.runs_pure_iff.mp onward).2
  | ok bundle =>
    obtain ⟨source, document, parsed, rfl⟩ := sections_of_runs extracting
    refine ⟨source, document, parsed, ?_⟩
    obtain ⟨_, _, written, rfl, _, onward'⟩ := Script.runs_bind_iff.mp onward
    cases written with
    | error failure => cases (Script.runs_pure_iff.mp onward').2
    | ok =>
      obtain ⟨_, _, readme, rfl, _, ends⟩ := Script.runs_bind_iff.mp onward'
      cases (Script.runs_pure_iff.mp ends).2
      exact ⟨ofDocument_eq_map document _, assemble_ofDocument document _, rfl, fun _ => ⟨_, rfl⟩⟩

/-! ## Every document -/

/-- What the document of a bundle is, whatever texts the bundle holds. -/
structure Assembled (bundle : Bundle) (options : RenderOptions) : Prop where
  joined : bundle.assemble options =
    join (options.lineBreaks.terminator ++ options.lineBreaks.terminator)
      (bundle.parts options.lineBreaks)
  unended : Unended (bundle.assemble options)
  again : ∀ style, (bundle.map (normalizeBreaks style)).assemble options = bundle.assemble options

/-- In the sections and the document of a workflow the style decides on the breaks alone. -/
structure Restyled (document : Workflow.Document) (level : Nat) : Prop where
  rendered : rendered document ⟨.crlf, level⟩ = rendered document ⟨.lf, level⟩
  bundle : ofDocument document ⟨.crlf, level⟩ =
    (ofDocument document ⟨.lf, level⟩).map (replaceChar '\n' ['\r', '\n'])
  markdown : (ofDocument document ⟨.crlf, level⟩).assemble ⟨.crlf, level⟩ =
    replaceChar '\n' ['\r', '\n'] ((ofDocument document ⟨.lf, level⟩).assemble ⟨.lf, level⟩)

theorem restyled (document : Workflow.Document) (level : Nat) : Restyled document level where
  rendered := rfl
  bundle := rfl
  markdown := by
    rw [assemble_ofDocument, assemble_ofDocument]
    rfl

/-- How a document is made of its sections, for all texts in them and both styles, and that the
sections and the document of a generation and of its report are those of one workflow. -/
theorem assembly : (∀ bundle options, Assembled bundle options) ∧
    (∀ document level, Restyled document level) ∧
    ∀ request steps outcome, (Generation.run request).Runs steps (.ok outcome) →
      ∃ source document, Workflow.Document.parse source = .ok document ∧
        Agrees document request.render outcome :=
  ⟨fun bundle options => ⟨assemble_eq_join bundle options, unended_assemble bundle options,
      fun style => assemble_map_normalizeBreaks bundle style options⟩,
    restyled, fun _ _ _ => agrees_of_runs⟩

/-- A generation whose workflow has a description. -/
theorem assembly_described : ∃ steps outcome,
    (Generation.run (blankRequest none)).Runs steps (.ok outcome) ∧
    ∃ source document, Workflow.Document.parse source = .ok document ∧
      Agrees document (blankRequest none).render outcome := by
  have answer : changed? ((Generation.run (blankRequest none)).run endingTree).1 = some true := by
    decide +kernel
  obtain ⟨outcome, _, finished, _⟩ := updated_of_changed? answer
  obtain ⟨steps, runs, _⟩ := Script.runs_of_run (Generation.run (blankRequest none)) endingTree
  rw [finished] at runs
  exact ⟨steps, outcome, runs, assembly.2.2 _ _ _ runs⟩

end WorkflowDocs.Bundle
