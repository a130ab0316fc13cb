import WorkflowDocs.Proofs.Section.LeftOut
import WorkflowDocs.Proofs.Text.Lines

/-!
# The secrets of a reusable workflow

The secrets are looked up below `workflow_call`, while the section they stand in is left out
altogether if there are no events. So that none is lost there must be an event wherever one is
found, whatever the shape of the `on` section and the tags in it.

Results:
1. `secrets_ne_nil_iff`: a document has secrets exactly if `workflow_call` declares one.
2. `declared_secrets_shown`: if so they all stand below the bullets of the events, else nothing does.
-/

namespace WorkflowDocs.Section

open Markdown Text Workflow
open Yaml (Value)

variable {root : Value} {source name : Text} {value : Option Value} {options : RenderOptions}

/-- A name among the keys of the mapping `on.workflow_call.secrets`. -/
def DeclaresSecret (root : Value) (name : Text) : Prop :=
  Declares root "workflow_call".toList "secrets".toList name

/-- What the section holds if there are no events. -/
def placeholder (options : RenderOptions) : Text :=
  options.heading ++ " Triggers\n\n".toList ++ noTriggers

/-- The bullet of reusable workflows. -/
def callLine : Text := "- `workflow_call`: reusable workflow".toList

/-! ## Secrets and events -/

theorem secrets_ne_nil_iff :
    (Document.ofValue root source).secrets ≠ [] ↔ ∃ name, DeclaresSecret root name := by
  constructor
  · intro filled
    obtain ⟨⟨name, spec⟩, member⟩ := List.exists_mem_of_ne_nil _ filled
    exact ⟨name, mem_names_secrets.mp (Entries.mem_names.mpr ⟨spec, member⟩)⟩
  · rintro ⟨name, declared⟩
    obtain ⟨spec, member⟩ := Entries.mem_names.mp (mem_names_secrets.mpr declared)
    exact List.ne_nil_of_mem member

theorem call_event_of_declared (declared : DeclaresSecret root name) :
    ∃ config, ⟨"workflow_call".toList, some config⟩ ∈
      events (Document.ofValue root source).triggers := by
  obtain ⟨part, _, configured, _⟩ := declared
  obtain ⟨config, present, _⟩ := event_of_configured configured
  exact ⟨config, present⟩

/-! ## Lines of the section -/

theorem mem_bullets_of_call_event {config : Option Value}
    (present : ⟨"workflow_call".toList, config⟩ ∈ events value) :
    callLine ∈ ((events value).flatMap eventBullets).map Bullet.line :=
  List.mem_map.mpr ⟨_, List.mem_flatMap.mpr ⟨_, present, List.mem_cons_self⟩, rfl⟩

/-- The blank line and those of a table are more lines behind the bullets. -/
theorem bulletText_append_join {lines : List Text} (filled : lines ≠ []) :
    bulletText value options ++ ['\n'] ++ ['\n'] ++ join ['\n'] lines =
      join ['\n'] (((options.heading ++ " Triggers".toList) :: [] ::
        ((events value).flatMap eventBullets).map Bullet.line) ++ [] :: lines) := by
  rw [join_append ['\n'] (List.cons_ne_nil _ _) (List.cons_ne_nil _ _), join_cons ['\n'] [] filled,
    List.nil_append, bulletText, List.append_assoc, List.append_assoc]

/-- The bullet stays a line of its own whatever the names of the other events hold. -/
theorem callLine_mem_linesOf {config : Option Value}
    (present : ⟨"workflow_call".toList, config⟩ ∈ events value) (secrets : Entries Secret)
    (options : RenderOptions) : callLine ∈ linesOf (triggers value secrets options) := by
  have member := List.mem_cons_of_mem (options.heading ++ " Triggers".toList)
    (List.mem_cons_of_mem [] (mem_bullets_of_call_event present))
  have flat : Unbroken callLine := by decide
  have shown := secrets_of_triggers (List.ne_nil_of_mem present) secrets options
  by_cases empty : secrets = []
  · rw [shown.1 empty]
    exact mem_linesOf_join flat member
  · obtain ⟨below, last, whole, _⟩ := shown.2 empty
    have lines := @bulletText_append_join value options _ (List.cons_ne_nil last [])
    rw [join, List.intercalate_singleton] at lines
    rw [whole, id, lines]
    exact mem_linesOf_join flat (List.mem_append_left _ member)

theorem linesOf_placeholder (options : RenderOptions) : linesOf (placeholder options) =
    [options.heading ++ " Triggers".toList, [], noTriggers] := by
  have flat : Unbroken (options.heading ++ " Triggers".toList) :=
    (unbroken_headingMark options.tocLevel).append (by decide)
  have cut : placeholder options =
      join ['\n'] [options.heading ++ " Triggers".toList, [], noTriggers] := by
    simp only [placeholder, join, List.intercalate_cons_cons, List.intercalate_singleton,
      List.append_assoc]
    rfl
  rw [cut]
  refine @linesOf_join _ .lf (List.cons_ne_nil _ _) ?_
  simp only [List.forall_mem_cons]
  exact ⟨flat, by decide, by decide, by simp⟩

theorem callLine_not_mem_placeholder (options : RenderOptions) :
    callLine ∉ linesOf (placeholder options) := by
  rw [linesOf_placeholder]
  intro member
  rcases List.mem_cons.mp member with heading | member
  · have last : " Triggers".toList.getLast? = some 's' := by decide
    have ends := congrArg List.getLast? heading
    rw [List.getLast?_append, last, Option.some_or] at ends
    exact absurd ends (by decide)
  · exact absurd member (by decide)

/-! ## The section in a bundle -/

/-- The section of the events shows all secrets of the document. -/
structure SecretsShown (document : Document) (options : RenderOptions) (text : Text) : Prop where
  named : text ≠ normalizeBreaks options.lineBreaks (placeholder options)
  event : ∃ config, ⟨"workflow_call".toList, some config⟩ ∈ events document.triggers
  bullet : callLine ∈ linesOf text
  /-- The bullets of the events, a blank line, and to the end of the text the table. -/
  table : ∃ below last,
    text = normalizeBreaks options.lineBreaks (bulletText document.triggers options ++ ['\n']) ++
      options.lineBreaks.terminator ++ last ∧
    Headed options.lineBreaks.terminator (options.subHeading ++ " Secrets".toList) below last ∧
    Listed secretColumns secretTexts document.secrets below

theorem secretsShown_of_declared (declared : DeclaresSecret root name) (source : Text)
    (options : RenderOptions) : SecretsShown (Document.ofValue root source) options
      (Bundle.ofDocument (Document.ofValue root source) options).triggers := by
  obtain ⟨config, present⟩ := @call_event_of_declared root source name declared
  have bullet : callLine ∈
      linesOf (Bundle.ofDocument (Document.ofValue root source) options).triggers := by
    rw [Bundle.ofDocument, linesOf_normalizeBreaks]
    exact callLine_mem_linesOf present _ options
  refine ⟨fun equal => ?_, ⟨config, present⟩, bullet, ?_⟩
  · rw [equal, linesOf_normalizeBreaks] at bullet
    exact callLine_not_mem_placeholder options bullet
  · exact ((secrets_of_triggers (List.ne_nil_of_mem present) _ options).normalizeBreaks
      options.lineBreaks).2 (secrets_ne_nil_iff.mpr ⟨name, declared⟩)

theorem triggers_nil (value : Option Value) (options : RenderOptions) :
    triggers value [] options =
      if events value = [] then placeholder options else bulletText value options := by
  by_cases none : events value = []
  · rw [if_pos none, triggers, none, placeholder]
  · rw [if_neg none, triggers_eq none, List.isEmpty_nil, if_pos rfl, List.append_nil]

/-- Where `workflow_call` declares a secret, all that it declares are in the document, and the section
of the events has them in a table below a bullet of that event. Elsewhere the document has no secrets
and the section ends with its bullets, or is the sentence that there are none. -/
theorem declared_secrets_shown (root : Value) (source : Text) (options : RenderOptions) :
    (∀ name, name ∈ (Document.ofValue root source).secrets.names ↔ DeclaresSecret root name) ∧
    ((∃ name, DeclaresSecret root name) → SecretsShown (Document.ofValue root source) options
      (Bundle.ofDocument (Document.ofValue root source) options).triggers) ∧
    ((¬∃ name, DeclaresSecret root name) → (Document.ofValue root source).secrets = [] ∧
      triggers (Document.ofValue root source).triggers (Document.ofValue root source).secrets
        options =
          if events (Document.ofValue root source).triggers = [] then placeholder options
          else bulletText (Document.ofValue root source).triggers options) := by
  refine ⟨fun _ => mem_names_secrets, ?_, fun undeclared => ?_⟩
  · rintro ⟨name, declared⟩
    exact secretsShown_of_declared declared source options
  · have empty := not_ne_iff.mp (mt (@secrets_ne_nil_iff root source).mp undeclared)
    rw [empty]
    exact ⟨rfl, triggers_nil _ options⟩

/-- The boolean key `true` stands for `on`, and the tags are looked through. -/
example :
    let root : Value := .mapping [(.bool true, .tagged "a".toList (.mapping [
      (.text "workflow_call".toList, .mapping [(.text "secrets".toList,
        .tagged "b".toList (.mapping [(.number (.integer 1), .null), (.null, .null)]))])]))]
    (Document.ofValue root []).secrets.names = ["1".toList] ∧
      callLine ∈ linesOf (Bundle.ofDocument (Document.ofValue root []) {}).triggers := by
  decide

end WorkflowDocs.Section
