import Mathlib.Data.List.Forall2
import Mathlib.Logic.Relation
import WorkflowDocs.Proofs.Section.Bullets

/-!
# Tags in the `on` section

Events and their configurations may be tagged anywhere.

That no tag matters is false (`triggers_untag_unsound`): a null or a collection with a tag is shown as
an empty code span where it stands beside a key of a configuration.

Results:
1. `filterBullets_of_untag`, `forall₂_eventsOf_of_untag`: one tag less shows in no bullet of a
   configuration, and changes the events only inside their configurations.
2. `triggers_of_untags`: any tags may go, but for the last one at such a place.
-/

namespace WorkflowDocs.Section

open Workflow
open Yaml (Value)

variable {value other key : Value} {depth : Nat} {may : Nat → Value → Value → Value → Prop}

/-! ## Values with one tag less -/

/-- In the second value one of the tagged values of the first has lost its tag. Keys stay as they
are. Where it stands below a key, `may` is asked about the depth of this key, the key, and the whole
value below it before and after. -/
inductive Untag (may : Nat → Value → Value → Value → Prop) : Nat → Value → Value → Prop
  | here {depth : Nat} (tag : Text) (value : Value) : Untag may depth (.tagged tag value) value
  | within {depth : Nat} (tag : Text) {value other : Value} : Untag may depth value other →
      Untag may depth (.tagged tag value) (.tagged tag other)
  | item {depth : Nat} (before after : List Value) {value other : Value} :
      Untag may depth value other →
      Untag may depth (.sequence (before ++ value :: after)) (.sequence (before ++ other :: after))
  | entry {depth : Nat} (before after : List (Value × Value)) (key : Value) {value other : Value} :
      may depth key value other → Untag may (depth + 1) value other →
      Untag may depth (.mapping (before ++ (key, value) :: after))
        (.mapping (before ++ (key, other) :: after))

def Anywhere (_ : Nat) (_ _ _ : Value) : Prop := True

/-- The key is an event's, has no bullet, or has one with a scalar beside it, or the tag was not the
last one beside the key. -/
def LookedThrough (depth : Nat) (key value other : Value) : Prop :=
  depth = 0 ∨ Hidden depth key ∨ value.isScalar = true ∨
    (isTagged value = true → isTagged other = true)

theorem scalarText?_of_untag (untag : Untag may depth value other) :
    value.scalarText? = other.scalarText? := by
  induction untag with
  | here tag value => rfl
  | within tag _ ih => exact ih
  | item | entry => rfl

theorem isScalar_of_untag (untag : Untag may depth value other) :
    value.isScalar = other.isScalar := by
  rw [Value.isScalar, Value.isScalar, scalarText?_of_untag untag]

theorem scalarCode_of_untag (untag : Untag may depth value other) :
    scalarCode value = scalarCode other := by
  rw [scalarCode, scalarCode, scalarText?_of_untag untag]

theorem isNull_of_untag (untag : Untag may depth value other) : value.isNull = other.isNull := by
  induction untag with
  | here tag value => rfl
  | within tag _ ih => exact ih
  | item | entry => rfl

/-! ## The bullets of a configuration -/

/-- One tag less does not show beside a key if it does not show further down. -/
theorem entryBullets_of_untag (untag : Untag may (depth + 1) value other) (inside : depth ≠ 0)
    (through : LookedThrough depth key value other)
    (below : filterBullets (depth + 1) value = filterBullets (depth + 1) other) :
    entryBullets depth [(key, value)] = entryBullets depth [(key, other)] := by
  have code := scalarCode_of_untag untag
  rcases through with atTop | hidden | scalar | kept
  · exact absurd atTop inside
  · rw [entryBullets_eq_nil_iff.mpr hidden, entryBullets_eq_nil_iff.mpr hidden]
  · have scalar' := isScalar_of_untag untag ▸ scalar
    rw [entryBullets_of_beside (.inl scalar), entryBullets_of_beside (.inl scalar'), code]
  · cases untag with
    | here | within =>
      rw [entryBullets_of_beside (.inr rfl), entryBullets_of_beside (.inr (kept rfl)), code]
    | item before after inner =>
      refine entryBullets_congr ?_ ?_ (by simpa only [filterBullets] using below)
      · simp [isScalar_of_untag inner]
      · simp [scalarCode_of_untag inner]
    | entry before after key' _ inner =>
      simp only [filterBullets] at below
      simp only [entryBullets, below]

theorem filterBullets_of_untag (untag : Untag LookedThrough depth value other)
    (inside : depth ≠ 0) : filterBullets depth value = filterBullets depth other := by
  induction untag with
  | here tag value => rw [filterBullets]
  | within tag _ ih => rw [filterBullets, filterBullets, ih inside]
  | item before after untag ih =>
    simp only [filterBullets, itemBullets_append, itemBullets, isScalar_of_untag untag,
      scalarCode_of_untag untag, ih inside]
  | @entry depth before after key value other through untag ih =>
    have here := entryBullets_of_untag untag inside through (ih (Nat.succ_ne_zero depth))
    simp only [filterBullets, entryBullets_append]
    rw [entryBullets_cons key value, entryBullets_cons key other, here]

/-! ## The events -/

/-- The same event, or one whose configuration has one tag less. -/
inductive Event.Untag : Event → Event → Prop
  | same (event : Event) : Event.Untag event event
  | config (name : Text) {config config' : Value} : Section.Untag LookedThrough 1 config config' →
      Event.Untag ⟨name, some config⟩ ⟨name, some config'⟩

theorem Event.Untag.eventBullets_eq {first second : Event} (untag : Event.Untag first second) :
    eventBullets first = eventBullets second := by
  cases untag with
  | same => rfl
  | config name untag =>
    simp only [eventBullets, filterBullets_of_untag untag Nat.one_ne_zero]
    rfl

theorem eventsOfItems_append (before after : List Value) :
    eventsOfItems (before ++ after) = eventsOfItems before ++ eventsOfItems after := by
  induction before with
  | nil => rfl
  | cons item rest ih => simp [eventsOfItems, ih]

theorem mappedEvents_append (before after : List (Value × Value)) :
    mappedEvents (before ++ after) = mappedEvents before ++ mappedEvents after := by
  simp [mappedEvents, Value.namedEntries]

theorem mappedEvents_cons (key value : Value) (after : List (Value × Value)) :
    mappedEvents ((key, value) :: after) = mappedEvents [(key, value)] ++ mappedEvents after :=
  mappedEvents_append [(key, value)] after

theorem forall₂_same_events (events : List Event) : List.Forall₂ Event.Untag events events :=
  List.forall₂_same.mpr fun event _ => .same event

theorem forall₂_mappedEvents_of_untag (untag : Untag LookedThrough 1 value other) :
    List.Forall₂ Event.Untag (mappedEvents [(key, value)]) (mappedEvents [(key, other)]) := by
  unfold mappedEvents Value.namedEntries
  cases named : key.scalarText? with
  | none => simp [named]
  | some name =>
    simp only [List.filterMap_cons, named, Option.map_some, List.filterMap_nil, List.map_cons,
      List.map_nil, isNull_of_untag untag]
    split
    · exact forall₂_same_events _
    · exact .cons (.config name untag) .nil

theorem forall₂_eventsOf_of_untag (untag : Untag LookedThrough depth value other)
    (atTop : depth = 0) : List.Forall₂ Event.Untag (eventsOf value) (eventsOf other) := by
  induction untag with
  | here tag value =>
    rw [eventsOf]
    exact forall₂_same_events _
  | within tag _ ih =>
    rw [eventsOf, eventsOf]
    exact ih atTop
  | item before after _ ih =>
    simp only [eventsOf, eventsOfItems_append, eventsOfItems]
    exact List.rel_append (forall₂_same_events _)
      (List.rel_append (ih atTop) (forall₂_same_events _))
  | @entry _ before after key value other _ untag _ =>
    subst atTop
    have here : List.Forall₂ Event.Untag (mappedEvents [(key, value)])
        (mappedEvents [(key, other)]) := forall₂_mappedEvents_of_untag untag
    simp only [eventsOf, mappedEvents_append]
    rw [mappedEvents_cons key value, mappedEvents_cons key other]
    exact List.rel_append (forall₂_same_events _) (List.rel_append here (forall₂_same_events _))

theorem bullets_of_forall₂ {first second : List Event}
    (untag : List.Forall₂ Event.Untag first second) :
    first.flatMap eventBullets = second.flatMap eventBullets := by
  induction untag with
  | nil => rfl
  | cons here _ ih => rw [List.flatMap_cons, List.flatMap_cons, here.eventBullets_eq, ih]

/-! ## The whole section -/

theorem triggers_of_untag {on other : Value} (untag : Untag LookedThrough 0 on other)
    (secrets : Entries Secret) (options : RenderOptions) :
    triggers (some on) secrets options = triggers (some other) secrets options := by
  have related : List.Forall₂ Event.Untag (events (some on)) (events (some other)) :=
    forall₂_eventsOf_of_untag untag rfl
  unfold triggers
  generalize events (some on) = before at related
  generalize events (some other) = after at related
  cases related with
  | nil => rfl
  | cons here rest =>
    have bullets := bullets_of_forall₂ (.cons here rest)
    simp only [bullets]

/-- Any tags may go, one after the other, unless the last one goes from a null or a collection that
stands beside the key of a bullet. -/
theorem triggers_of_untags {on other : Value}
    (untags : Relation.ReflTransGen (Untag LookedThrough 0) on other) (secrets : Entries Secret)
    (options : RenderOptions) :
    triggers (some on) secrets options = triggers (some other) secrets options := by
  induction untags with
  | refl => rfl
  | tail _ untag ih => exact ih.trans (triggers_of_untag untag secrets options)

/-- An `on` section with a list of events and this configuration of `workflow_call`. -/
def callOn (config : Value) : Value :=
  .sequence [.text "push".toList, .mapping [(.text "workflow_call".toList, config)]]

/-- A scalar, a list and a key that has no bullet. -/
def callConfig (note zone inputs : Value) : Value :=
  .mapping [(.text "note".toList, note), (.text "zones".toList, .sequence [zone]),
    (.text "inputs".toList, inputs)]

theorem untag_callOn {config config' : Value} (untag : Untag LookedThrough 1 config config') :
    Untag LookedThrough 0 (callOn config) (callOn config') :=
  .item [_] [] (.entry [] [] _ (.inl rfl) untag)

/-- Tags on the whole section, on a configuration, and at all places in it. -/
def taggedOn : Value :=
  .tagged "a".toList (callOn (.tagged "b".toList (callConfig
    (.tagged "c".toList (.text "daily".toList)) (.tagged "d".toList (.text "UTC".toList))
    (.tagged "e".toList (.sequence [])))))

def untaggedOn : Value :=
  callOn (callConfig (.text "daily".toList) (.text "UTC".toList) (.sequence []))

theorem untags_taggedOn :
    Relation.ReflTransGen (Untag LookedThrough 0) taggedOn untaggedOn := by
  have hidden : Hidden 1 (.text "inputs".toList) := by
    rintro _ ⟨⟩
    exact ⟨rfl, rfl⟩
  refine .head (.here _ _) (.head (untag_callOn (.here _ _)) ?_)
  refine .head (untag_callOn (.entry [] _ _ (.inr (.inr (.inl rfl))) (.here _ _))) ?_
  refine .head (untag_callOn (.entry [_] _ _ (.inr (.inr (.inr nofun))) (.item [] [] (.here _ _)))) ?_
  exact .single (untag_callOn (.entry [_, _] [] _ (.inr (.inl hidden)) (.here _ _)))

theorem triggers_of_untags_everywhere :
    Relation.ReflTransGen (Untag LookedThrough 0) taggedOn untaggedOn ∧
      triggers (some taggedOn) [] {} = triggers (some untaggedOn) [] {} :=
  ⟨untags_taggedOn, triggers_of_untags untags_taggedOn [] {}⟩

/-- An `on` section whose `push` event has these branches. -/
def pushOn (branches : Value) : Value :=
  .mapping [(.text "push".toList, .mapping [(.text "branches".toList, branches)])]

def mainBranch : Value := .sequence [.text "main".toList]

/-- A list of branches with a tag is not shown. -/
theorem triggers_untag_unsound :
    ¬∀ on other : Value, Relation.ReflTransGen (Untag Anywhere 0) on other →
      ∀ (secrets : Entries Secret) (options : RenderOptions),
        triggers (some on) secrets options = triggers (some other) secrets options := by
  intro claimed
  have untag : Untag Anywhere 0 (pushOn (.tagged "x".toList mainBranch)) (pushOn mainBranch) :=
    .entry [] [] _ trivial (.entry [] [] _ trivial (.here _ _))
  have same := claimed _ _ (.single untag) [] {}
  exact absurd same (by decide)

example : triggers (some (pushOn (.tagged "x".toList mainBranch))) [] {} =
    "## Triggers\n\n- `push`\n  - branches: ``".toList := by decide

end WorkflowDocs.Section
