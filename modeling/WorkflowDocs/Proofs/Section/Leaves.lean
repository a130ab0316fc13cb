import WorkflowDocs.Proofs.Section.Outline

/-!
# Nested `on` sections

The events may be listed in lists of lists, with tags anywhere around them. How they are nested does
not matter: the section is that of one list of the scalars and mappings at the ends of all branches.

Results:
1. `eventsOf_eq_flatMap`: the events are those of the leaves, one leaf after the other.
2. `fromLeaf_eventsOf`: the events that a scalar or a mapping stands for.
3. `triggers_eq_placeholder_iff`: the section says that there are no events if there are none.
4. `flattened_events`: two sections with the same leaves are written as the same text.
-/

namespace WorkflowDocs.Section

open Text Workflow
open Yaml (Value)

variable {value other leaf : Value}

/-! ## Leaves -/

mutual

/-- The scalars and mappings of a value in order, without their tags. Lists are gone through, and
nulls are left out. -/
def leaves : Value → List Value
  | .null => []
  | .tagged _ value => leaves value
  | .sequence items => leavesOfItems items
  | .mapping entries => [.mapping entries]
  | .bool value => [.bool value]
  | .number value => [.number value]
  | .text value => [.text value]

def leavesOfItems : List Value → List Value
  | [] => []
  | item :: rest => leaves item ++ leavesOfItems rest

end

/-- One list of all leaves. -/
def flatten (value : Value) : Value := .sequence (leaves value)

/-- A scalar or a mapping that bears no tag. -/
inductive Leaf : Value → Prop
  | bool (value : Bool) : Leaf (.bool value)
  | number (value : Number) : Leaf (.number value)
  | text (value : Text) : Leaf (.text value)
  | mapping (entries : List (Value × Value)) : Leaf (.mapping entries)

mutual

theorem leaf_of_mem_leaves : ∀ (value : Value), ∀ leaf ∈ leaves value, Leaf leaf
  | .null => by simp [leaves]
  | .tagged _ value => leaf_of_mem_leaves value
  | .sequence items => leaf_of_mem_leavesOfItems items
  | .mapping entries => List.forall_mem_singleton.mpr (.mapping entries)
  | .bool value => List.forall_mem_singleton.mpr (.bool value)
  | .number value => List.forall_mem_singleton.mpr (.number value)
  | .text value => List.forall_mem_singleton.mpr (.text value)

theorem leaf_of_mem_leavesOfItems :
    ∀ (items : List Value), ∀ leaf ∈ leavesOfItems items, Leaf leaf
  | [] => by simp [leavesOfItems]
  | item :: rest =>
    List.forall_mem_append.mpr ⟨leaf_of_mem_leaves item, leaf_of_mem_leavesOfItems rest⟩

end

mutual

theorem eventsOf_eq_flatMap : ∀ value : Value, eventsOf value = (leaves value).flatMap eventsOf
  | .null => rfl
  | .tagged _ value => eventsOf_eq_flatMap value
  | .sequence items => eventsOfItems_eq_flatMap items
  | .mapping _ | .bool _ | .number _ | .text _ => (List.flatMap_singleton ..).symm

theorem eventsOfItems_eq_flatMap :
    ∀ items : List Value, eventsOfItems items = (leavesOfItems items).flatMap eventsOf
  | [] => rfl
  | item :: rest => by
    rw [eventsOfItems, leavesOfItems, List.flatMap_append, eventsOf_eq_flatMap item,
      eventsOfItems_eq_flatMap rest]

end

theorem eventsOf_flatten (value : Value) : eventsOf (flatten value) = eventsOf value := by
  rw [flatten, eventsOf, eventsOfItems_eq, ← eventsOf_eq_flatMap]

/-! ## What a leaf stands for -/

/-- The event of an entry has the key's text for its name, and the value for its configuration unless
that is null. -/
structure FromEntry (entry : Value × Value) (event : Event) : Prop where
  name : entry.1.scalarText? = some event.name
  config : ∀ config, event.config = some config ↔ config = entry.2 ∧ config.untagged ≠ .null

/-- A scalar stands for one event, a mapping for those of its entries with a scalar for a key. -/
inductive FromLeaf : Value → List Event → Prop
  | scalar {leaf : Value} {name : Text} : leaf.scalarText? = some name → FromLeaf leaf [⟨name, none⟩]
  | mapping {entries : List (Value × Value)} {events : List Event} :
      List.Forall₂ FromEntry (entries.filter fun entry => entry.1.isScalar) events →
      FromLeaf (.mapping entries) events

theorem fromEntry_of_named {entry : Value × Value} {name : Text}
    (named : entry.1.scalarText? = some name) :
    FromEntry entry ⟨name, if entry.2.isNull then none else some entry.2⟩ where
  name := named
  config := by
    intro config
    dsimp only
    split
    next null =>
      have bare := isNull_eq_true_iff.mp null
      constructor
      · intro absent
        cases absent
      · rintro ⟨rfl, full⟩
        exact absurd bare full
    next filled =>
      have full : entry.2.untagged ≠ .null := fun bare => filled (isNull_eq_true_iff.mpr bare)
      constructor
      · intro present
        cases present
        exact ⟨rfl, full⟩
      · rintro ⟨rfl, -⟩
        rfl

theorem fromEntry_mappedEvents (entries : List (Value × Value)) :
    List.Forall₂ FromEntry (entries.filter fun entry => entry.1.isScalar) (mappedEvents entries) := by
  induction entries with
  | nil => exact .nil
  | cons entry rest ih =>
    unfold mappedEvents Value.namedEntries at ih ⊢
    cases named : entry.1.scalarText? with
    | none => simpa [Value.isScalar, named] using ih
    | some name =>
      rw [List.filter_cons_of_pos (by simp [Value.isScalar, named]), List.filterMap_cons]
      simp only [named, Option.map_some, List.map_cons]
      exact .cons (fromEntry_of_named named) ih

theorem fromLeaf_eventsOf (isLeaf : Leaf leaf) : FromLeaf leaf (eventsOf leaf) := by
  cases isLeaf with
  | bool value => cases value <;> exact .scalar rfl
  | number value | text value => exact .scalar rfl
  | mapping entries => exact .mapping (fromEntry_mappedEvents entries)

/-- The groups of events in the order of the leaves. -/
theorem fromLeaf_leaves (value : Value) : ∃ groups,
    events (some value) = groups.flatten ∧ List.Forall₂ FromLeaf (leaves value) groups := by
  refine ⟨(leaves value).map eventsOf, ?_, ?_⟩
  · rw [← List.flatMap_def]
    exact eventsOf_eq_flatMap value
  · rw [List.forall₂_map_right_iff, List.forall₂_same]
    exact fun leaf member => fromLeaf_eventsOf (leaf_of_mem_leaves value leaf member)

/-- No event comes of the leaf: it is no scalar, and no mapping with a scalar for a key. -/
structure Eventless (leaf : Value) : Prop where
  scalar : leaf.isScalar = false
  mapping : ∀ entries, leaf = .mapping entries → ∀ entry ∈ entries, entry.1.isScalar = false

theorem FromLeaf.eq_nil_iff {found : List Event} (stands : FromLeaf leaf found) :
    found = [] ↔ Eventless leaf := by
  cases stands with
  | scalar named =>
    have scalar : leaf.isScalar = true := by simp [Value.isScalar, named]
    constructor
    · intro empty
      cases empty
    · intro eventless
      exact absurd (scalar.symm.trans eventless.scalar) (by decide)
  | @mapping entries _ each =>
    rw [← List.length_eq_zero_iff, ← each.length_eq, List.length_eq_zero_iff, List.filter_eq_nil_iff]
    constructor
    · intro none
      refine ⟨rfl, ?_⟩
      rintro _ ⟨⟩ entry member
      exact Bool.eq_false_iff.mpr (none entry member)
    · intro eventless entry member
      exact Bool.eq_false_iff.mp (eventless.mapping entries rfl entry member)

theorem events_eq_nil_iff :
    events (some value) = [] ↔ ∀ leaf ∈ leaves value, Eventless leaf := by
  show eventsOf value = [] ↔ _
  rw [eventsOf_eq_flatMap, List.flatMap_eq_nil_iff]
  refine forall₂_congr fun leaf member => ?_
  exact (fromLeaf_eventsOf (leaf_of_mem_leaves value leaf member)).eq_nil_iff

/-! ## The section -/

theorem head?_join_bullet (text : Text) (more : List Text) (behind : Text) :
    (join ['\n'] (Bullet.line ⟨0, text⟩ :: more) ++ behind).head? = some '-' := by
  cases more <;> rfl

/-- The sentence that there are no events does not begin like a bullet. -/
theorem triggers_eq_placeholder_iff (on : Option Value) (secrets : Entries Secret)
    (options : RenderOptions) :
    triggers on secrets options = placeholder options ↔ events on = [] := by
  constructor
  · intro same
    cases found : events on with
    | nil => rfl
    | cons event more =>
      unfold triggers placeholder at same
      rw [found] at same
      have below := congrArg List.head? (List.append_cancel_left same)
      dsimp only at below
      rw [List.flatMap_cons, eventBullets, eventBullet_eq, List.cons_append, List.map_cons,
        head?_join_bullet] at below
      exact absurd below (by decide)
  · intro none
    rw [triggers, none, placeholder]

theorem triggers_of_flatten (same : flatten other = flatten value) (secrets : Entries Secret)
    (options : RenderOptions) :
    triggers (some other) secrets options = triggers (some value) secrets options := by
  have found : events (some other) = events (some value) := by
    show eventsOf other = eventsOf value
    rw [← eventsOf_flatten other, same, eventsOf_flatten]
  unfold triggers
  rw [found]

/-- How an `on` section depends on the one list of its leaves. -/
structure Flattened (value : Value) : Prop where
  leaf : ∀ leaf ∈ leaves value, Leaf leaf
  flat : events (some value) = events (some (flatten value))
  /-- Each leaf stands for its own events, in the order of the leaves. -/
  groups : ∃ groups, events (some value) = groups.flatten ∧
    List.Forall₂ FromLeaf (leaves value) groups
  rendered : ∀ other, flatten other = flatten value →
    ∀ (secrets : Entries Secret) (options : RenderOptions),
      triggers (some other) secrets options = triggers (some value) secrets options
  placeholder : ∀ (secrets : Entries Secret) (options : RenderOptions),
    triggers (some value) secrets options = placeholder options ↔
      ∀ leaf ∈ leaves value, Eventless leaf

theorem flattened_events (value : Value) : Flattened value where
  leaf := leaf_of_mem_leaves value
  flat := (eventsOf_flatten value).symm
  groups := fromLeaf_leaves value
  rendered _ same := triggers_of_flatten same
  placeholder secrets options := by
    rw [triggers_eq_placeholder_iff, events_eq_nil_iff]

/-- Lists in lists with tags around them, in which the same events stand as in `plainOn`. -/
def bushyOn : Value :=
  .tagged "a".toList (.sequence [.null, .sequence [.tagged "b".toList (.sequence [])],
    .sequence [.sequence [.tagged "c".toList (.text "push".toList)], .bool true],
    .tagged "d".toList (.tagged "e".toList (.mapping [(.text "schedule".toList, .null),
      (.sequence [], .null), (.number (.integer 1), .tagged "f".toList (.text "x".toList))]))])

def plainOn : Value :=
  .sequence [.sequence [.text "push".toList], .sequence [.sequence [.bool true], .mapping [
    (.text "schedule".toList, .null), (.sequence [], .null),
    (.number (.integer 1), .tagged "f".toList (.text "x".toList))]]]

theorem flattened_events_bushyOn : flatten bushyOn = flatten plainOn ∧
    triggers (some bushyOn) [] {} = triggers (some plainOn) [] {} := by
  have same : flatten bushyOn = flatten plainOn := rfl
  exact ⟨same, (flattened_events plainOn).rendered bushyOn same [] {}⟩

end WorkflowDocs.Section
