import WorkflowDocs.Proofs.Section.Bullets
import WorkflowDocs.Proofs.Section.Events
import WorkflowDocs.Proofs.Section.Tables

/-!
# Entries without a bullet

The bullets of an event pass over its inputs, outputs and secrets, as these have tables of their own.

That each of the entries passed over has a row in a table is false (`leftOut_tabled_unsound`): the
bullets look at the name of the key only, and pass over keys of events that no table is about.

Results:
1. `leftOut_of_under`: the bullets pass over all that an event has under such a key.
2. `tabled_iff`: the names in the tables are those below the events that the tables are about.
3. `leftOut_tabled`: what the bullets pass over has rows exactly if such an event has it.
-/

namespace WorkflowDocs.Section

open Markdown Text Workflow
open Yaml (Value)

variable {value config root part : Value} {event key name : Text} {options : RenderOptions}
  {source : Text}

/-! ## What the bullets pass over -/

/-- `LeftOut config key part`: nothing in the bullets of `config` stands for its entry `part`, though
its key is a scalar with the text `key`. -/
inductive LeftOut : Value → Text → Value → Prop
  | entry {entries : List (Value × Value)} {written part : Value} {key : Text} :
      (written, part) ∈ entries → written.scalarText? = some key →
      entryBullets 1 [(written, part)] = [] → LeftOut (.mapping entries) key part
  | item {items : List Value} {item part : Value} {key : Text} :
      item ∈ items → LeftOut item key part → LeftOut (.sequence items) key part
  | tagged {tag key : Text} {config part : Value} :
      LeftOut config key part → LeftOut (.tagged tag config) key part

theorem documentedElsewhere_of_leftOut (left : LeftOut config key part) :
    documentedElsewhere key = true := by
  induction left with
  | entry _ scalar missing => exact (entryBullets_eq_nil_iff.mp missing _ scalar).2
  | item _ _ ih => exact ih
  | tagged _ ih => exact ih

theorem leftOut_of_untagged : ∀ config : Value, LeftOut config.untagged key part →
    LeftOut config key part
  | .tagged _ config, left => .tagged (leftOut_of_untagged config left)
  | .null, left | .bool _, left | .number _, left | .text _, left | .sequence _, left
  | .mapping _, left => left

theorem leftOut_of_under (under : Under config (.text key) part)
    (elsewhere : documentedElsewhere key = true) : LeftOut config key part := by
  obtain ⟨before, after, isMapping, _⟩ := under
  refine leftOut_of_untagged config ?_
  rw [isMapping]
  refine .entry (List.mem_append_right before List.mem_cons_self) rfl ?_
  rw [entryBullets_eq_nil_iff]
  rintro _ ⟨⟩
  exact ⟨rfl, elsewhere⟩

/-! ## What the tables show -/

/-- The last part of a text is a section under `heading`, and one of its lines reads as these
cells. -/
def Shows (terminator heading text : Text) (cells : List Text) : Prop :=
  ∃ above below last line, text = above ++ last ∧ Headed terminator heading below last ∧
    line ∈ below ∧ Row line (cells.map escapeCell)

/-- The section about `key` shows an entry of the document with this name. -/
def Tabled (document : Document) (options : RenderOptions) (key name : Text) : Prop :=
  (key = "inputs".toList ∧ ∃ spec, (name, spec) ∈ document.inputs ∧
    Shows options.lineBreaks.terminator (options.heading ++ " Inputs".toList)
      (Bundle.ofDocument document options).inputs (inputTexts (name, spec))) ∨
  (key = "outputs".toList ∧ ∃ spec, (name, spec) ∈ document.outputs ∧
    Shows options.lineBreaks.terminator (options.heading ++ " Outputs".toList)
      (Bundle.ofDocument document options).outputs (outputTexts (name, spec))) ∨
  (key = "secrets".toList ∧ ∃ spec, (name, spec) ∈ document.secrets ∧
    Shows options.lineBreaks.terminator (options.subHeading ++ " Secrets".toList)
      (Bundle.ofDocument document options).triggers (secretTexts (name, spec)))

theorem shows_of_tabulated {α : Type} {terminator heading sentence text : Text}
    {columns : List Column} {texts : α → List Text} {entries : List α} {entry : α}
    (tabulated : Tabulated terminator heading sentence columns texts entries text)
    (member : entry ∈ entries) : Shows terminator heading text (texts entry) := by
  obtain ⟨below, headed, _, listed⟩ := tabulated
  obtain ⟨line, inBelow, reads⟩ := (listed (List.ne_nil_of_mem member)).exists_line member
  exact ⟨[], below, text, line, rfl, headed, inBelow, reads⟩

theorem shows_secret {triggers : Option Value} {secrets : Entries Secret} {entry : Text × Secret}
    (found : events triggers ≠ []) (member : entry ∈ secrets) :
    Shows options.lineBreaks.terminator (options.subHeading ++ " Secrets".toList)
      (normalizeBreaks options.lineBreaks (Section.triggers triggers secrets options))
      (secretTexts entry) := by
  obtain ⟨below, last, whole, headed, listed⟩ :=
    ((secrets_of_triggers found secrets options).normalizeBreaks options.lineBreaks).2
      (List.ne_nil_of_mem member)
  obtain ⟨line, inBelow, reads⟩ := listed.exists_line member
  exact ⟨_, below, last, line, whole, headed, inBelow, reads⟩

theorem documentedElsewhere_iff : documentedElsewhere key = true ↔
    key = "inputs".toList ∨ key = "outputs".toList ∨ key = "secrets".toList := by
  simp only [documentedElsewhere, Bool.or_eq_true, decide_eq_true_eq, or_assoc]

/-- The tables leave out none of the document's entries, so a row is a matter of the names. -/
theorem tabled_iff_mem_names (document : Document)
    (shown : document.secrets ≠ [] → events document.triggers ≠ []) :
    Tabled document options key name ↔ (key = "inputs".toList ∧ name ∈ document.inputs.names) ∨
      (key = "outputs".toList ∧ name ∈ document.outputs.names) ∨
      (key = "secrets".toList ∧ name ∈ document.secrets.names) := by
  have inputs := (tabulated_inputs document.inputs options).normalizeBreaks options.lineBreaks
  have outputs := (tabulated_outputs document.outputs options).normalizeBreaks options.lineBreaks
  unfold Tabled
  simp only [Entries.mem_names]
  refine or_congr (and_congr_right fun _ => exists_congr fun spec => ?_)
    (or_congr (and_congr_right fun _ => exists_congr fun spec => ?_)
      (and_congr_right fun _ => exists_congr fun spec => ?_))
  · exact and_iff_left_of_imp fun member => shows_of_tabulated inputs member
  · exact and_iff_left_of_imp fun member => shows_of_tabulated outputs member
  · exact and_iff_left_of_imp fun member =>
      shows_secret (shown (List.ne_nil_of_mem member)) member

/-! ## Where the entries are declared -/

/-- The events whose `key` is read as a section of the document. -/
def Covers (event key : Text) : Prop :=
  event = "workflow_call".toList ∨
    event = "workflow_dispatch".toList ∧ key = "inputs".toList

/-- `name` is the text of a key in the section `key` of the event. -/
def Declares (root : Value) (event key name : Text) : Prop :=
  ∃ part pairs, Configured root event key part ∧ part.untagged = .mapping pairs ∧
    ∃ pair ∈ pairs, pair.1.scalarText? = some name

theorem mem_names_inputs (missing : root.get? "inputs".toList = none) :
    name ∈ (Document.ofValue root source).inputs.names ↔
      Declares root "workflow_call".toList "inputs".toList name ∨
        Declares root "workflow_dispatch".toList "inputs".toList name := by
  have called := taken_event Input.ofValue root "workflow_call".toList "inputs".toList
  have dispatched := taken_event Input.ofValue root "workflow_dispatch".toList "inputs".toList
  rw [inputs_ofValue, missing]
  exact (Entries.mem_names_union dispatched.once).trans
    (or_congr called.mem_names_iff dispatched.mem_names_iff)

theorem mem_names_outputs (missing : root.get? "outputs".toList = none) :
    name ∈ (Document.ofValue root source).outputs.names ↔
      Declares root "workflow_call".toList "outputs".toList name := by
  rw [outputs_ofValue, missing]
  exact (taken_event Output.ofValue root _ _).mem_names_iff

theorem mem_names_secrets : name ∈ (Document.ofValue root source).secrets.names ↔
    Declares root "workflow_call".toList "secrets".toList name :=
  (taken_event Secret.ofValue root _ _).mem_names_iff

theorem tabled_iff (noInputs : root.get? "inputs".toList = none)
    (noOutputs : root.get? "outputs".toList = none) (elsewhere : documentedElsewhere key = true) :
    Tabled (Document.ofValue root source) options key name ↔
      ∃ event, Covers event key ∧ Declares root event key name := by
  rw [tabled_iff_mem_names _ events_ne_nil_of_secrets, mem_names_inputs noInputs,
    mem_names_outputs noOutputs, mem_names_secrets]
  rcases documentedElsewhere_iff.mp elsewhere with rfl | rfl | rfl
  · simp [Covers, or_and_right, exists_or]
  · simp [Covers]
  · simp [Covers]

/-! ## What is left out and has a row -/

/-- An entry of a key that is passed over, in the configuration of any event and at any place in it,
has a row exactly if an event that the tables are about declares its name under this key. All that
such an event declares is passed over. -/
theorem leftOut_tabled (noInputs : root.get? "inputs".toList = none)
    (noOutputs : root.get? "outputs".toList = none) :
    (∀ event config key part, ⟨event, some config⟩ ∈ events (Document.ofValue root source).triggers →
      LeftOut config key part → ∀ name,
        Tabled (Document.ofValue root source) options key name ↔
          ∃ event, Covers event key ∧ Declares root event key name) ∧
    ∀ event key part, documentedElsewhere key = true → Configured root event key part →
      ∃ config, ⟨event, some config⟩ ∈ events (Document.ofValue root source).triggers ∧
        LeftOut config key part := by
  refine ⟨fun _ _ _ _ _ left _ => tabled_iff noInputs noOutputs (documentedElsewhere_of_leftOut left),
    fun event key part elsewhere configured => ?_⟩
  obtain ⟨config, present, under⟩ := event_of_configured configured
  exact ⟨config, present, leftOut_of_under under elsewhere⟩

/-- The secrets of a reusable workflow: `token: null`. -/
def callSecrets : Value := .mapping [(.text "token".toList, .null)]

/-- A reusable workflow with a secret. The `push` event has the key too, with another entry. -/
def callRoot : Value :=
  .mapping [(.text "on".toList, .mapping [
    (.text "workflow_call".toList, .mapping [(.text "secrets".toList, callSecrets)]),
    (.text "push".toList, .mapping [(.text "secrets".toList,
      .mapping [(.text "other".toList, .null)])])])]

/-- Of the names under the key the one that `workflow_call` declares has a row. -/
theorem leftOut_tabled_call : callRoot.get? "inputs".toList = none ∧
    callRoot.get? "outputs".toList = none ∧
    Tabled (Document.ofValue callRoot []) {} "secrets".toList "token".toList ∧
    ¬Tabled (Document.ofValue callRoot []) {} "secrets".toList "other".toList ∧
    ∃ config, ⟨"workflow_call".toList, some config⟩ ∈ events (Document.ofValue callRoot []).triggers ∧
      LeftOut config "secrets".toList callSecrets := by
  have covered : Configured callRoot "workflow_call".toList "secrets".toList callSecrets :=
    eventSection?_eq_some_iff.1 rfl
  have left : LeftOut (.mapping [(.text "secrets".toList, .mapping [(.text "other".toList, .null)])])
      "secrets".toList (.mapping [(.text "other".toList, .null)]) :=
    .entry List.mem_cons_self rfl rfl
  obtain ⟨rows, parts⟩ := @leftOut_tabled callRoot {} [] rfl rfl
  have row := rows "push".toList _ _ _ (List.mem_cons_of_mem _ List.mem_cons_self) left
  refine ⟨rfl, rfl, ?_, ?_, parts _ _ _ (by decide) covered⟩
  · exact (row _).mpr ⟨_, .inl rfl, callSecrets, _, covered, rfl, _, List.mem_cons_self, rfl⟩
  · intro tabled
    obtain ⟨event, covers, part, pairs, configured, isMapping, pair, member, isName⟩ :=
      (row _).mp tabled
    have call : event = "workflow_call".toList := by
      rcases covers with call | ⟨_, inputs⟩
      · exact call
      · exact absurd inputs (by decide)
    subst call
    obtain rfl := Option.some.inj ((eventSection?_eq_some_iff.2 covered).symm.trans
      (eventSection?_eq_some_iff.2 configured))
    cases isMapping
    obtain rfl := List.mem_singleton.mp member
    exact absurd isName (by decide)

/-- A workflow whose `push` event has a mapping under `inputs`. -/
def pushRoot : Value :=
  .mapping [(.text "on".toList, .mapping [(.text "push".toList, .mapping [(.text "inputs".toList,
    .mapping [(.text "env".toList, .text "staging".toList)])])])]

/-- The bullets pass over `env`, and no table has it. -/
theorem leftOut_tabled_unsound :
    ¬∀ (root : Value) (source : Text) (options : RenderOptions),
      root.get? "inputs".toList = none → root.get? "outputs".toList = none →
      ∀ event config key part, ⟨event, some config⟩ ∈ events (Document.ofValue root source).triggers →
        LeftOut config key part → ∀ pairs, part.untagged = .mapping pairs → ∀ pair ∈ pairs, ∀ name,
          pair.1.scalarText? = some name →
            Tabled (Document.ofValue root source) options key name := by
  intro claimed
  have left : LeftOut (.mapping [(.text "inputs".toList,
      .mapping [(.text "env".toList, .text "staging".toList)])]) "inputs".toList
      (.mapping [(.text "env".toList, .text "staging".toList)]) :=
    .entry List.mem_cons_self rfl rfl
  have tabled := claimed pushRoot [] {} rfl rfl "push".toList _ _ _ List.mem_cons_self left _ rfl
    _ List.mem_cons_self "env".toList rfl
  rw [tabled_iff_mem_names _ events_ne_nil_of_secrets] at tabled
  have nothing : (Document.ofValue pushRoot []).inputs = [] := rfl
  rcases tabled with ⟨_, member⟩ | ⟨other, _⟩ | ⟨other, _⟩
  · rw [nothing] at member
    cases member
  · exact absurd other (by decide)
  · exact absurd other (by decide)

end WorkflowDocs.Section
