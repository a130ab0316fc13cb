import WorkflowDocs.Proofs.Section.LeftOut
import WorkflowDocs.Proofs.Workflow.Description

/-!
# Sections of another shape

A section of a shape that a document has no use for has no entries.

That its key might as well be missing is false (`ofValue_without_unsound`): whether the inputs and
outputs of the events are read depends on the key alone, so a section without entries hides theirs.

Results:
1. `get?_without_of_mem`, `get?_without_of_not_mem`, `triggerSection?_without`: what is found in a
   root some keys of which are removed.
2. `Misshapen.textAt?_eq`, `Misshapen.readEntries_eq`: nothing is read from a section of another shape.
3. `ofValue_without_iff`: such keys can be removed exactly if they hide nothing of the events.
-/

namespace WorkflowDocs.Workflow

open Section (Covers Declares mem_names_inputs mem_names_outputs)
open Yaml (Value)

variable {root : Value} {source key name : Text} {keys : List Text}

/-! ## Keys removed -/

/-- The entry stands under none of the keys. -/
def isKept (keys : List Text) (entry : Value × Value) : Bool :=
  keys.all fun key => !Value.isText key entry.1

/-- The root without what stands under these keys; its tags stay. -/
def without (keys : List Text) : Value → Value
  | .mapping entries => .mapping (entries.filter (isKept keys))
  | .tagged tag value => .tagged tag (without keys value)
  | value => value

theorem entries?_without (keys : List Text) :
    ∀ root, (without keys root).entries? = root.entries?.map (List.filter (isKept keys))
  | .tagged _ value => entries?_without keys value
  | .null | .bool _ | .number _ | .text _ | .sequence _ | .mapping _ => rfl

theorem find?_filter {isKey : Value → Bool} {keep : Value × Value → Bool}
    (keeps : ∀ entry, isKey entry.1 = true → keep entry = true) (entries : List (Value × Value)) :
    Value.find? isKey (entries.filter keep) = Value.find? isKey entries := by
  rw [Value.find?, Value.find?, List.find?_filter]
  congr 2
  funext entry
  by_cases here : isKey entry.1 = true
  · simp [here, keeps entry here]
  · simp [here]

theorem isKept_of_text (other : name ∉ keys) {entry : Value × Value}
    (here : Value.isText name entry.1 = true) : isKept keys entry = true := by
  refine List.all_eq_true.mpr fun key member => ?_
  have differ : name ≠ key := fun same => other (same ▸ member)
  rw [isText_iff.mp here]
  simpa [Value.isText] using differ

theorem get?_without_of_not_mem (other : name ∉ keys) (root : Value) :
    (without keys root).get? name = root.get? name := by
  rw [Value.get?, Value.get?, entries?_without]
  cases root.entries? with
  | none => rfl
  | some entries => exact find?_filter (fun entry => isKept_of_text other) entries

theorem get?_without_of_mem (removed : name ∈ keys) (root : Value) :
    (without keys root).get? name = none := by
  rw [Value.get?, entries?_without]
  cases root.entries? with
  | none => rfl
  | some entries =>
    refine Option.map_eq_none_iff.mpr (List.find?_eq_none.mpr fun entry member here => ?_)
    have kept := List.all_eq_true.mp (List.mem_filter.mp member).2 name removed
    simp [here] at kept

theorem triggerSection?_without (kept : "on".toList ∉ keys) (root : Value) :
    triggerSection? (without keys root) = triggerSection? root := by
  have keepsTrue : ∀ entry : Value × Value, Value.isTrue entry.1 = true → isKept keys entry = true := by
    intro entry here
    rw [isKept, isTrue_iff.mp here]
    simp [Value.isText]
  rw [triggerSection?, triggerSection?, entries?_without]
  cases root.entries? with
  | none => rfl
  | some entries =>
    simp only [Option.map_some, Option.bind_some, find?_filter keepsTrue,
      find?_filter fun _ => isKept_of_text kept]

/-! ## Sections of another shape -/

/-- What stands under the key is no scalar, for the name and the description, or no mapping, for inputs
and outputs. Tags are looked through, and null is neither. -/
inductive Misshapen (root : Value) : Text → Prop
  | scalar {key : Text} {part : Value} : key = "name".toList ∨ key = "description".toList →
      Under root (.text key) part → part.scalarText? = none → Misshapen root key
  | mapping {key : Text} {part : Value} : key = "inputs".toList ∨ key = "outputs".toList →
      Under root (.text key) part → (∀ pairs, part.untagged ≠ .mapping pairs) → Misshapen root key

theorem Misshapen.ne_on (misshapen : Misshapen root key) : key ≠ "on".toList := by
  cases misshapen with
  | scalar either | mapping either => rcases either with rfl | rfl <;> decide

theorem Misshapen.textAt?_eq (misshapen : Misshapen root key)
    (isScalar : key = "name".toList ∨ key = "description".toList) : textAt? root key = none := by
  cases misshapen with
  | scalar _ under shape => rw [textAt?, get?_eq_some_iff.mpr under, Option.bind_some, shape]
  | mapping either =>
    rcases isScalar with rfl | rfl
    · exact absurd either (by decide)
    · exact absurd either (by decide)

theorem Misshapen.readEntries_eq {α : Type} (misshapen : Misshapen root key)
    (isMapping : key = "inputs".toList ∨ key = "outputs".toList) (build : Value → α) :
    ∃ part, root.get? key = some part ∧ readEntries build part = [] := by
  cases misshapen with
  | scalar either =>
    rcases isMapping with rfl | rfl
    · exact absurd either (by decide)
    · exact absurd either (by decide)
  | mapping _ under shape =>
    exact ⟨_, get?_eq_some_iff.mpr under, (reads_readEntries build _).unshaped shape⟩

/-! ## What a section hides -/

/-- An event declares an entry that is read unless a section stands under the key at the top. -/
def Hides (root : Value) (key : Text) : Prop :=
  (key = "inputs".toList ∨ key = "outputs".toList) ∧
    ∃ event name, Covers event key ∧ Declares root event key name

theorem hides_inputs_iff : Hides root "inputs".toList ↔
    ∃ name, Declares root "workflow_call".toList "inputs".toList name ∨
      Declares root "workflow_dispatch".toList "inputs".toList name := by
  unfold Hides Covers
  constructor
  · rintro ⟨_, event, name, rfl | ⟨rfl, _⟩, declares⟩
    · exact ⟨name, .inl declares⟩
    · exact ⟨name, .inr declares⟩
  · rintro ⟨name, declares | declares⟩
    · exact ⟨.inl rfl, _, name, .inl rfl, declares⟩
    · exact ⟨.inl rfl, _, name, .inr ⟨rfl, rfl⟩, declares⟩

theorem hides_outputs_iff : Hides root "outputs".toList ↔
    ∃ name, Declares root "workflow_call".toList "outputs".toList name := by
  unfold Hides Covers
  constructor
  · rintro ⟨_, event, name, rfl | ⟨_, inputs⟩, declares⟩
    · exact ⟨name, declares⟩
    · exact absurd inputs (by decide)
  · rintro ⟨name, declares⟩
    exact ⟨.inr rfl, _, name, .inl rfl, declares⟩

/-- Entries that are others but for a key that leaves those empty are the same if nothing is declared
where the key is removed. -/
theorem eq_iff_of_names {α : Type} {entries others : Entries α} {declared : Text → Prop}
    (kept : key ∉ keys → entries = others) (removed : key ∈ keys → others = [] ∧
      ∀ name, name ∈ entries.names ↔ declared name) :
    entries = others ↔ (key ∈ keys → ¬∃ name, declared name) := by
  by_cases member : key ∈ keys
  · obtain ⟨empty, names⟩ := removed member
    rw [empty, not_exists, ← List.map_eq_nil_iff, List.eq_nil_iff_forall_not_mem,
      forall_prop_of_true member]
    exact forall_congr' fun name => not_congr (names name)
  · exact iff_of_true (kept member) fun here => absurd here member

attribute [ext] Document

/-! ## Documents -/

section

variable (misshapen : ∀ key ∈ keys, Misshapen root key)

include misshapen

theorem not_mem_on : "on".toList ∉ keys := fun member => (misshapen _ member).ne_on rfl

theorem textAt?_without (isScalar : key = "name".toList ∨ key = "description".toList) :
    textAt? (without keys root) key = textAt? root key := by
  by_cases removed : key ∈ keys
  · rw [(misshapen key removed).textAt?_eq isScalar, textAt?, get?_without_of_mem removed]
    rfl
  · rw [textAt?, textAt?, get?_without_of_not_mem removed]

theorem declares_without {event part : Text} :
    Declares (without keys root) event part name ↔ Declares root event part name := by
  simp only [Declares, ← eventSection?_eq_some_iff, triggerSection?_without (not_mem_on misshapen)]

theorem inputs_without_iff :
    (Document.ofValue (without keys root) source).inputs = (Document.ofValue root source).inputs ↔
      ("inputs".toList ∈ keys → ¬Hides root "inputs".toList) := by
  rw [hides_inputs_iff]
  refine eq_iff_of_names (fun kept => ?_) fun removed => ⟨?_, fun name => ?_⟩
  · rw [inputs_ofValue, inputs_ofValue, get?_without_of_not_mem kept,
      triggerSection?_without (not_mem_on misshapen)]
  · obtain ⟨part, found, nothing⟩ :=
      (misshapen _ removed).readEntries_eq (.inl rfl) Input.ofValue
    rw [inputs_ofValue, found]
    exact nothing
  · rw [mem_names_inputs (get?_without_of_mem removed root), declares_without misshapen,
      declares_without misshapen]

theorem outputs_without_iff :
    (Document.ofValue (without keys root) source).outputs = (Document.ofValue root source).outputs ↔
      ("outputs".toList ∈ keys → ¬Hides root "outputs".toList) := by
  rw [hides_outputs_iff]
  refine eq_iff_of_names (fun kept => ?_) fun removed => ⟨?_, fun name => ?_⟩
  · rw [outputs_ofValue, outputs_ofValue, get?_without_of_not_mem kept,
      triggerSection?_without (not_mem_on misshapen)]
  · obtain ⟨part, found, nothing⟩ :=
      (misshapen _ removed).readEntries_eq (.inr rfl) Output.ofValue
    rw [outputs_ofValue, found]
    exact nothing
  · rw [mem_names_outputs (get?_without_of_mem removed root), declares_without misshapen]

/-- Name, description, triggers and secrets never depend on the removed keys. -/
theorem ofValue_without_eq_iff :
    Document.ofValue (without keys root) source = Document.ofValue root source ↔
      (Document.ofValue (without keys root) source).inputs = (Document.ofValue root source).inputs ∧
      (Document.ofValue (without keys root) source).outputs =
        (Document.ofValue root source).outputs := by
  have triggers := triggerSection?_without (not_mem_on misshapen) root
  constructor
  · intro same
    rw [same]
    exact ⟨rfl, rfl⟩
  · rintro ⟨inputs, outputs⟩
    refine Document.ext ?name ?description inputs outputs ?secrets triggers
    case name => exact textAt?_without misshapen (.inl rfl)
    case description => rw [description_ofValue, description_ofValue, textAt?_without misshapen (.inr rfl)]
    case secrets => simp only [Document.ofValue, triggers]

/-- Sections of another shape can be removed without a change to the document exactly if none of them
stands in front of what an event declares. -/
theorem ofValue_without_iff :
    Document.ofValue (without keys root) source = Document.ofValue root source ↔
      ∀ key ∈ keys, ¬Hides root key := by
  rw [ofValue_without_eq_iff misshapen, inputs_without_iff misshapen, outputs_without_iff misshapen]
  constructor
  · rintro ⟨inputs, outputs⟩ key member hides
    rcases hides.1 with rfl | rfl
    · exact inputs member hides
    · exact outputs member hides
  · exact fun nothing => ⟨nothing _, nothing _⟩

end

/-- A reusable workflow with an input. Under all keys stands something of another shape, below a tag
for the outputs. -/
def callingRoot : Value :=
  .mapping [(.text "name".toList, .sequence []), (.text "description".toList, .null),
    (.text "on".toList, .mapping [(.text "workflow_call".toList, .mapping [(.text "inputs".toList,
      .mapping [(.text "env".toList, .null)])])]),
    (.text "inputs".toList, .text "none".toList),
    (.text "outputs".toList, .tagged "x".toList (.sequence []))]

theorem misshapen_callingRoot : Misshapen callingRoot "inputs".toList :=
  .mapping (.inl rfl) (get?_eq_some_iff.mp rfl) nofun

/-- All keys but that of the inputs can be removed: no event declares outputs. -/
theorem ofValue_without_iff_callingRoot :
    (∀ key ∈ ["name".toList, "description".toList, "outputs".toList], Misshapen callingRoot key) ∧
      Document.ofValue (without ["name".toList, "description".toList, "outputs".toList] callingRoot) [] =
        Document.ofValue callingRoot [] := by
  have misshapen : ∀ key ∈ ["name".toList, "description".toList, "outputs".toList],
      Misshapen callingRoot key := by
    simp only [List.forall_mem_cons]
    exact ⟨.scalar (.inl rfl) (get?_eq_some_iff.mp rfl) rfl,
      .scalar (.inr rfl) (get?_eq_some_iff.mp rfl) rfl,
      .mapping (.inr rfl) (get?_eq_some_iff.mp rfl) nofun, nofun⟩
  refine ⟨misshapen, (ofValue_without_iff misshapen).mpr fun key member hides => ?_⟩
  have noOutputs : ¬Hides callingRoot "outputs".toList := by
    rw [hides_outputs_iff]
    rintro ⟨name, part, _, configured, _⟩
    exact absurd (eventSection?_eq_some_iff.mpr configured) nofun
  rcases hides.1 with rfl | rfl
  · exact absurd member (by decide)
  · exact noOutputs hides

/-- Without its own inputs the workflow has those of its event. -/
theorem ofValue_without_unsound :
    ¬∀ (root : Value) (source : Text) (keys : List Text), keys ≠ [] →
      (∀ key ∈ keys, Misshapen root key) →
        Document.ofValue (without keys root) source = Document.ofValue root source := by
  intro claimed
  have same := claimed callingRoot [] ["inputs".toList] (List.cons_ne_nil _ _)
    (List.forall_mem_singleton.mpr misshapen_callingRoot)
  exact absurd (congrArg (fun document => document.inputs.length) same) (by decide)

end WorkflowDocs.Workflow
