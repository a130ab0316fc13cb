import WorkflowDocs.Proofs.Entries
import WorkflowDocs.Workflow.Document

/-!
# Where the entries of a document stand

Inputs and outputs stand at the top of an action, or in the events of a reusable workflow; secrets
stand in the latter only. Keys that differ as values may have one text, such as `1` and `"1"`.

Results:
1. `get?_eq_some_iff`, `eventSection?_eq_some_iff`: what a lookup finds, by the entries of the
   mappings it goes through.
2. `reads_readEntries`: a section read as entries names each key once, with its last specification.
3. `sections_ofValue`: which section each part of a document is read from, for every root value.
-/

namespace WorkflowDocs.Workflow

open Yaml (Value)
open Entries

variable {α : Type}

/-! ## Lookups -/

/-- `part` stands under `key` in the mapping `value`, which may be tagged, and no entry before it
has this key. -/
def Under (value key part : Value) : Prop :=
  ∃ before after, value.untagged = .mapping (before ++ (key, part) :: after) ∧
    ∀ entry ∈ before, entry.1 ≠ key

/-- The `on` section stands under the text `on`, or under `true` where there is no such text. -/
def On (root triggers : Value) : Prop :=
  Under root (.text "on".toList) triggers ∨
    (∀ other, ¬Under root (.text "on".toList) other) ∧ Under root (.bool true) triggers

/-- `part` stands under `key` in the configuration of `event`. -/
def Configured (root : Value) (event key : Text) (part : Value) : Prop :=
  ∃ triggers config, On root triggers ∧ Under triggers (.text event) config ∧
    Under config (.text key) part

theorem isText_iff {name : Text} {key : Value} : Value.isText name key = true ↔ key = .text name := by
  cases key <;> simp [Value.isText]

theorem isTrue_iff {key : Value} : Value.isTrue key = true ↔ key = .bool true := by
  cases key <;> simp [Value.isTrue]

theorem entries?_eq_some_iff {value : Value} {entries : List (Value × Value)} :
    value.entries? = some entries ↔ value.untagged = .mapping entries := by
  unfold Value.entries?
  split
  case h_1 found isMapping => simp [isMapping]
  case h_2 isOther => simpa using isOther entries

theorem find?_eq_some_iff {isKey : Value → Bool} {key : Value}
    (exactly : ∀ other, isKey other = true ↔ other = key) {entries : List (Value × Value)}
    {part : Value} : Value.find? isKey entries = some part ↔
      ∃ before after, entries = before ++ (key, part) :: after ∧ ∀ entry ∈ before, entry.1 ≠ key := by
  constructor
  · intro found
    obtain ⟨⟨other, _⟩, first, rfl⟩ := Option.map_eq_some_iff.1 found
    obtain ⟨accepted, before, after, rfl, refused⟩ := List.find?_eq_some_iff_append.1 first
    obtain rfl : other = key := (exactly other).1 accepted
    refine ⟨before, after, rfl, fun entry inBefore isKey' => ?_⟩
    simpa [(exactly entry.1).2 isKey'] using refused entry inBefore
  · rintro ⟨before, after, rfl, others⟩
    refine Option.map_eq_some_iff.2 ⟨(key, part), ?_, rfl⟩
    refine List.find?_eq_some_iff_append.2 ⟨(exactly key).2 rfl, before, after, rfl, ?_⟩
    intro entry inBefore
    rw [Bool.not_eq_true', Bool.eq_false_iff]
    exact fun accepted => others entry inBefore ((exactly entry.1).1 accepted)

theorem under_iff {isKey : Value → Bool} {key : Value}
    (exactly : ∀ other, isKey other = true ↔ other = key) {value part : Value} :
    value.entries?.bind (Value.find? isKey) = some part ↔ Under value key part := by
  rw [Option.bind_eq_some_iff]
  constructor
  · rintro ⟨entries, isMapping, found⟩
    obtain ⟨before, after, rfl, others⟩ := (find?_eq_some_iff exactly).1 found
    exact ⟨before, after, entries?_eq_some_iff.1 isMapping, others⟩
  · rintro ⟨before, after, isMapping, others⟩
    exact ⟨_, entries?_eq_some_iff.2 isMapping,
      (find?_eq_some_iff exactly).2 ⟨before, after, rfl, others⟩⟩

theorem get?_eq_some_iff {value part : Value} {name : Text} :
    value.get? name = some part ↔ Under value (.text name) part :=
  under_iff fun _ => isText_iff

theorem get?_eq_none_iff {value : Value} {name : Text} :
    value.get? name = none ↔ ∀ part, ¬Under value (.text name) part := by
  simp only [← get?_eq_some_iff, Option.eq_none_iff_forall_ne_some, ne_eq]

theorem triggerSection?_eq_some_iff {root part : Value} :
    triggerSection? root = some part ↔ On root part := by
  have split : triggerSection? root =
      (root.get? "on".toList).or (root.entries?.bind (Value.find? Value.isTrue)) := by
    unfold triggerSection? Value.get?
    cases root.entries? with
    | none => rfl
    | some entries => exact Option.orElse_eq_or
  rw [split, Option.or_eq_some_iff, get?_eq_some_iff, get?_eq_none_iff,
    under_iff fun _ => isTrue_iff]
  rfl

theorem eventSection?_eq_some_iff {root part : Value} {event key : Text} :
    eventSection? (triggerSection? root) event key = some part ↔ Configured root event key part := by
  simp only [eventSection?, Option.bind_eq_some_iff, triggerSection?_eq_some_iff, get?_eq_some_iff,
    Configured]
  grind

/-! ## Sections -/

/-- `entries` are those of the section `part`: none if it is not a mapping, else the keys that are
scalars, each text once and where it stands first, with what the last key of this text stands for. -/
structure Reads (build : Value → α) (part : Value) (entries : Entries α) : Prop where
  unshaped : (∀ pairs, part.untagged ≠ .mapping pairs) → entries = []
  names : ∀ pairs, part.untagged = .mapping pairs →
    entries.names = (pairs.filterMap (·.1.scalarText?)).eraseDups
  specs : ∀ pairs, part.untagged = .mapping pairs → ∀ name spec, (name, spec) ∈ entries ↔
    ∃ key value, (pairs.filter (·.1.scalarText? = some name)).getLast? = some (key, value) ∧
      spec = build value
  once : entries.names.Nodup

/-- `entries` are those of the one section that stands where `stands` says, or none. -/
structure Taken (build : Value → α) (stands : Value → Prop) (entries : Entries α) : Prop where
  present : ∀ part, stands part → Reads build part entries
  absent : (∀ part, ¬stands part) → entries = []

/-- The pairs of a mapping with their keys as texts and their values as specifications. -/
theorem namedPairs_eq (build : Value → α) (pairs : List (Value × Value)) :
    (Value.namedEntries pairs).map (fun (name, spec) => (name, build spec)) =
      pairs.filterMap fun pair => pair.1.scalarText?.map fun name => (name, build pair.2) := by
  simp [Value.namedEntries, List.map_filterMap, Function.comp_def]

/-- The pairs of one name are those whose keys have it as their text. -/
theorem filter_namedPairs (build : Value → α) (pairs : List (Value × Value)) (name : Text) :
    ((Value.namedEntries pairs).map (fun (name, spec) => (name, build spec))).filter (·.1 = name) =
      (pairs.filter (·.1.scalarText? = some name)).map fun pair => (name, build pair.2) := by
  rw [namedPairs_eq]
  induction pairs with
  | nil => rfl
  | cons pair rest ih =>
    cases isScalar : pair.1.scalarText? with
    | none => simp [isScalar, ih]
    | some other =>
      by_cases same : other = name
      · simp [isScalar, same, ih]
      · simp [isScalar, same, ih]

theorem reads_readEntries (build : Value → α) (part : Value) :
    Reads build part (readEntries build part) := by
  cases shape : part.entries? with
  | none =>
    have unshaped : ∀ pairs, part.untagged ≠ .mapping pairs := fun pairs isMapping => by
      simp [entries?_eq_some_iff.2 isMapping] at shape
    have nothing : readEntries build part = [] := by simp only [readEntries, shape]
    rw [nothing]
    exact ⟨fun _ => rfl, fun pairs isMapping => absurd isMapping (unshaped pairs),
      fun pairs isMapping => absurd isMapping (unshaped pairs), List.nodup_nil⟩
  | some found =>
    have isFound : part.untagged = .mapping found := entries?_eq_some_iff.1 shape
    have entries : readEntries build part =
        ofPairs ((Value.namedEntries found).map fun (name, spec) => (name, build spec)) := by
      simp only [readEntries, shape]
    rw [entries]
    refine ⟨fun unshaped => absurd isFound (unshaped found), ?names, ?specs, nodup_ofPairs _⟩
    case names =>
      intro pairs isMapping
      obtain rfl : found = pairs := by simpa [isFound] using isMapping
      rw [names_ofPairs, namedPairs_eq]
      simp [List.map_filterMap, Function.comp_def]
    case specs =>
      intro pairs isMapping name spec
      obtain rfl : found = pairs := by simpa [isFound] using isMapping
      rw [mem_ofPairs, filter_namedPairs, List.getLast?_map, Option.map_eq_some_iff]
      constructor
      · rintro ⟨⟨key, value⟩, isLast, equal⟩
        exact ⟨key, value, isLast, (congrArg Prod.snd equal).symm⟩
      · rintro ⟨key, value, isLast, rfl⟩
        exact ⟨(key, value), isLast, rfl⟩

/-- The entries of a section that may be missing. -/
def entriesOf (build : Value → α) : Option Value → Entries α
  | some part => readEntries build part
  | none => []

theorem taken_entriesOf {build : Value → α} {stands : Value → Prop} {found : Option Value}
    (exactly : ∀ part, found = some part ↔ stands part) :
    Taken build stands (entriesOf build found) := by
  cases found with
  | none =>
    exact ⟨fun part here => absurd ((exactly part).2 here) (by simp), fun _ => rfl⟩
  | some part =>
    refine ⟨fun other here => ?_, fun nowhere => absurd ((exactly part).1 rfl) (nowhere part)⟩
    obtain rfl : part = other := Option.some.inj ((exactly other).2 here)
    exact reads_readEntries build part

theorem Taken.once {build : Value → α} {stands : Value → Prop} {entries : Entries α}
    (taken : Taken build stands entries) : entries.names.Nodup := by
  by_cases nowhere : ∀ part, ¬stands part
  · rw [taken.absent nowhere]
    exact List.nodup_nil
  · obtain ⟨part, here⟩ := not_forall_not.1 nowhere
    exact (taken.present part here).once

/-- The names are the texts of the keys in the section. -/
theorem Taken.mem_names_iff {build : Value → α} {stands : Value → Prop} {entries : Entries α}
    (taken : Taken build stands entries) {name : Text} : name ∈ entries.names ↔
      ∃ part pairs, stands part ∧ part.untagged = .mapping pairs ∧
        ∃ pair ∈ pairs, pair.1.scalarText? = some name := by
  have inPairs : ∀ pairs : List (Value × Value),
      name ∈ (pairs.filterMap (·.1.scalarText?)).eraseDups ↔
        ∃ pair ∈ pairs, pair.1.scalarText? = some name := fun pairs => by
    rw [List.mem_eraseDups, List.mem_filterMap]
  constructor
  · intro member
    have somewhere : ∃ part, stands part := by
      by_contra nowhere
      rw [taken.absent (not_exists.mp nowhere)] at member
      cases member
    obtain ⟨part, here⟩ := somewhere
    have reads := taken.present part here
    have shaped : ∃ pairs, part.untagged = .mapping pairs := by
      by_contra unshaped
      rw [reads.unshaped (not_exists.mp unshaped)] at member
      cases member
    obtain ⟨pairs, isMapping⟩ := shaped
    rw [reads.names pairs isMapping, inPairs] at member
    exact ⟨part, pairs, here, isMapping, member⟩
  · rintro ⟨part, pairs, here, isMapping, found⟩
    rwa [(taken.present part here).names pairs isMapping, inPairs]

/-- What stands under `key` in the configuration of `event`. -/
theorem taken_event (build : Value → α) (root : Value) (event key : Text) :
    Taken build (Configured root event key)
      (entriesOf build (eventSection? (triggerSection? root) event key)) :=
  taken_entriesOf fun _ => eventSection?_eq_some_iff

/-! ## Documents -/

/-- Which sections of `root` the parts of a document come from. -/
structure Sections (root : Value) (document : Document) : Prop where
  triggers : ∀ part, document.triggers = some part ↔ On root part
  /-- A section at the top is taken, whatever its shape, and whatever the events hold. -/
  inputs : ∀ part, Under root (.text "inputs".toList) part →
    Reads Input.ofValue part document.inputs
  /-- Without one, an input of both events is that of the reusable workflow. -/
  eventInputs : (∀ part, ¬Under root (.text "inputs".toList) part) →
    ∃ called dispatched : Entries Input,
      Taken Input.ofValue (Configured root "workflow_call".toList "inputs".toList) called ∧
      Taken Input.ofValue (Configured root "workflow_dispatch".toList "inputs".toList) dispatched ∧
      document.inputs = called ++ dispatched.filter fun entry => entry.1 ∉ called.names
  outputs : ∀ part, Under root (.text "outputs".toList) part →
    Reads Output.ofValue part document.outputs
  eventOutputs : (∀ part, ¬Under root (.text "outputs".toList) part) →
    Taken Output.ofValue (Configured root "workflow_call".toList "outputs".toList) document.outputs
  secrets : Taken Secret.ofValue (Configured root "workflow_call".toList "secrets".toList)
    document.secrets
  once : document.inputs.names.Nodup ∧ document.outputs.names.Nodup ∧ document.secrets.names.Nodup

theorem inputs_ofValue (root : Value) (source : Text) : (Document.ofValue root source).inputs =
    match root.get? "inputs".toList with
    | some part => readEntries Input.ofValue part
    | none => eventInputs (triggerSection? root) := rfl

theorem outputs_ofValue (root : Value) (source : Text) : (Document.ofValue root source).outputs =
    match root.get? "outputs".toList with
    | some part => readEntries Output.ofValue part
    | none => entriesOf Output.ofValue
        (eventSection? (triggerSection? root) "workflow_call".toList "outputs".toList) := by
  unfold Document.ofValue entriesOf
  rfl

theorem sections_ofValue (root : Value) (source : Text) :
    Sections root (Document.ofValue root source) := by
  have secrets : Taken Secret.ofValue
      (Configured root "workflow_call".toList "secrets".toList)
      (Document.ofValue root source).secrets := taken_event Secret.ofValue root _ _
  have called := taken_event Input.ofValue root "workflow_call".toList "inputs".toList
  have dispatched := taken_event Input.ofValue root "workflow_dispatch".toList "inputs".toList
  have outputs := taken_event Output.ofValue root "workflow_call".toList "outputs".toList
  refine ⟨fun _ => triggerSection?_eq_some_iff, ?inputs, ?eventInputs, ?outputs, ?eventOutputs,
    secrets, ?inputsOnce, ?outputsOnce, secrets.once⟩
  case inputs =>
    intro part atTop
    rw [inputs_ofValue, get?_eq_some_iff.2 atTop]
    exact reads_readEntries Input.ofValue part
  case eventInputs =>
    intro missing
    rw [inputs_ofValue, get?_eq_none_iff.2 missing]
    exact ⟨_, _, called, dispatched, union_eq _ dispatched.once⟩
  case outputs =>
    intro part atTop
    rw [outputs_ofValue, get?_eq_some_iff.2 atTop]
    exact reads_readEntries Output.ofValue part
  case eventOutputs =>
    intro missing
    rw [outputs_ofValue, get?_eq_none_iff.2 missing]
    exact outputs
  case inputsOnce =>
    rw [inputs_ofValue]
    cases root.get? "inputs".toList with
    | some part => exact (reads_readEntries Input.ofValue part).once
    | none => exact nodup_union called.once dispatched.once
  case outputsOnce =>
    rw [outputs_ofValue]
    cases root.get? "outputs".toList with
    | some part => exact (reads_readEntries Output.ofValue part).once
    | none => exact outputs.once

/-- The keys `1` and `"1"` of the reusable workflow are one input, and dispatching adds none. -/
example :
    let spec (words : String) : Value := .mapping [(.text "description".toList, .text words.toList)]
    let event (name : String) (inputs : List (Value × Value)) : Value × Value :=
      (.text name.toList, .mapping [(.text "inputs".toList, .mapping inputs)])
    let root : Value := .mapping [(.bool true, .mapping [
      event "workflow_dispatch" [(.text "1".toList, spec "dispatched")],
      event "workflow_call" [(.number (.integer 1), spec "first"), (.null, spec "left out"),
        (.text "1".toList, spec "last")]])]
    (Document.ofValue root []).inputs.map (fun entry => (entry.1, entry.2.description)) =
      [("1".toList, some "last".toList)] := by
  decide

end WorkflowDocs.Workflow
