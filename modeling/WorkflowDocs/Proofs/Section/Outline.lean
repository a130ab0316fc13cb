import WorkflowDocs.Proofs.Section.Bullets
import WorkflowDocs.Proofs.Section.Secrets
import Mathlib.Data.List.Chain

/-!
# The outline of the events

The bullets of the events form a nested list. Read from the first to the last, each from left to
right, they mention the keys and the scalars of the `on` section in the order of the document, though
a list of scalars stands on one line with its key and the items of a list within a list are no
deeper than those around them.

Results:
1. `outline_filterBullets`: the bullets of a configuration read as its keys and scalars.
2. `Outline.nested`: bullets that read so form a nested list.
3. `outline_triggers`: the lines of the section are those of its events in order, each with its
   configuration below it, and no other line looks like a bullet.
-/

namespace WorkflowDocs.Section

open Markdown Text
open Yaml (Value)

variable {value item : Value} {items : List Value} {entries : List (Value × Value)} {event : Event}
  {depth : Nat} {bullets inner : List Bullet}

/-! ## What is mentioned -/

/-- A key or a scalar of a configuration, and how deep it stands there. -/
inductive Mention
  | key (level : Nat) (name : Text)
  | scalar (level : Nat) (text : Text)
  deriving DecidableEq, Repr

def Mention.text : Mention → Text
  | key _ name => name
  | scalar _ text => text

mutual

/-- The keys and scalars of a value in the order of the document. What stands below a key is one
level deeper, and the items of a list are as deep as the list. Nulls, entries whose key is no scalar,
and at the first level the entries that other sections document are left out. -/
def mentions (level : Nat) : Value → List Mention
  | .null => []
  | .tagged _ value => mentions level value
  | .sequence items => itemMentions level items
  | .mapping entries => entryMentions level entries
  | scalar => [.scalar level (scalar.scalarText?.getD [])]

def itemMentions (level : Nat) : List Value → List Mention
  | [] => []
  | item :: rest => mentions level item ++ itemMentions level rest

def entryMentions (level : Nat) : List (Value × Value) → List Mention
  | [] => []
  | (key, value) :: rest =>
    let here := match key.scalarText? with
      | none => []
      | some name =>
        if level = 1 && documentedElsewhere name then []
        else .key level name :: mentions (level + 1) value
    here ++ entryMentions level rest

end

/-- The bullets read as these keys and scalars. The outermost bullets stand at `depth`. -/
inductive Outline : Nat → List Bullet → List Mention → Prop
  | done {depth : Nat} : Outline depth [] []
  /-- A scalar alone. -/
  | scalar {depth : Nat} {text : Text} {bullets : List Bullet} {more : List Mention} :
      Outline depth bullets more →
      Outline depth (⟨depth, code text⟩ :: bullets) (.scalar depth text :: more)
  /-- A key alone. -/
  | alone {depth : Nat} {name : Text} {bullets : List Bullet} {more : List Mention} :
      Outline depth bullets more →
      Outline depth (⟨depth, name⟩ :: bullets) (.key depth name :: more)
  /-- A key, and beside it the scalars below it. -/
  | beside {depth : Nat} {name : Text} (texts : List Text) {bullets : List Bullet}
      {more : List Mention} : Outline depth bullets more →
      Outline depth
        (⟨depth, name ++ ':' :: ' ' :: join ", ".toList (texts.map code)⟩ :: bullets)
        (.key depth name :: (texts.map (.scalar (depth + 1)) ++ more))
  /-- A key, and one level below it the bullets of its collection. -/
  | above {depth : Nat} {name : Text} {inner bullets : List Bullet} {below more : List Mention} :
      Outline (depth + 1) inner below → Outline depth bullets more →
      Outline depth (⟨depth, name ++ [':']⟩ :: (inner ++ bullets))
        (.key depth name :: (below ++ more))

variable {first second : List Mention}

theorem Outline.append (before : Outline depth inner first) (after : Outline depth bullets second) :
    Outline depth (inner ++ bullets) (first ++ second) := by
  induction before with
  | done => exact after
  | scalar _ ih => exact .scalar (ih after)
  | alone _ ih => exact .alone (ih after)
  | beside texts _ ih =>
    rw [List.cons_append, List.cons_append, List.append_assoc]
    exact .beside texts (ih after)
  | above below _ _ ih =>
    rw [List.cons_append, List.cons_append, List.append_assoc, List.append_assoc]
    exact .above below (ih after)

theorem outline_single (depth : Nat) (name text : Text) :
    Outline depth [⟨depth, name ++ ':' :: ' ' :: code text⟩]
      [.key depth name, .scalar (depth + 1) text] := by
  have single := @Outline.beside depth name [text] _ _ .done
  rwa [List.map_singleton, join, List.intercalate_singleton] at single

theorem outline_collection (name : Text) (below : Outline (depth + 1) inner first) :
    Outline depth (⟨depth, name ++ [':']⟩ :: inner) (.key depth name :: first) := by
  have whole := @Outline.above depth name _ _ _ _ below .done
  rwa [List.append_nil, List.append_nil] at whole

/-! ## Bullets and mentions -/

/-- There is no tag in the value, and no break in a key or a scalar. -/
inductive Flat : Value → Prop
  | null : Flat .null
  | bool {value : Bool} : Flat (.bool value)
  | number {value : Number} : Unbroken value.text → Flat (.number value)
  | text {value : Text} : Unbroken value → Flat (.text value)
  | sequence {items : List Value} : (∀ item ∈ items, Flat item) → Flat (.sequence items)
  | mapping {entries : List (Value × Value)} : (∀ entry ∈ entries, Flat entry.1) →
      (∀ entry ∈ entries, Flat entry.2) → Flat (.mapping entries)

theorem flat_text {text : Text} : Flat (.text text) ↔ Unbroken text :=
  ⟨fun | .text unbroken => unbroken, .text⟩

theorem flat_number {number : Number} : Flat (.number number) ↔ Unbroken number.text :=
  ⟨fun | .number unbroken => unbroken, .number⟩

theorem flat_sequence : Flat (.sequence items) ↔ ∀ item ∈ items, Flat item :=
  ⟨fun | .sequence each => each, .sequence⟩

theorem flat_mapping : Flat (.mapping entries) ↔ ∀ entry ∈ entries, Flat entry.1 ∧ Flat entry.2 :=
  ⟨fun | .mapping keys values => fun entry member => ⟨keys entry member, values entry member⟩,
    fun each => .mapping (fun entry member => (each entry member).1)
      fun entry member => (each entry member).2⟩

theorem filterBullets_of_scalar : ∀ {value : Value}, value.isScalar = true →
    filterBullets depth value = [⟨depth, scalarCode value⟩]
  | .tagged _ value, scalar => @filterBullets_of_scalar value scalar
  | .bool _, _ | .number _, _ | .text _, _ => rfl

theorem mentions_of_scalar (level : Nat) : ∀ {value : Value}, value.isScalar = true →
    mentions level value = [.scalar level (value.scalarText?.getD [])]
  | .tagged _ value, scalar => @mentions_of_scalar level value scalar
  | .bool _, _ | .number _, _ | .text _, _ => rfl

/-- An item has its bullets whether it is a scalar or a collection. -/
theorem itemBullets_cons (item : Value) (rest : List Value) :
    itemBullets depth (item :: rest) = filterBullets depth item ++ itemBullets depth rest := by
  by_cases scalar : item.isScalar = true
  · rw [itemBullets, if_pos scalar, filterBullets_of_scalar scalar]
  · rw [itemBullets, if_neg scalar]

theorem itemMentions_of_scalars (level : Nat) (scalars : items.all Value.isScalar = true) :
    itemMentions level items =
      (items.map fun item => item.scalarText?.getD []).map (.scalar level) := by
  induction items with
  | nil => rfl
  | cons item rest ih =>
    rw [List.all_cons, Bool.and_eq_true] at scalars
    rw [itemMentions, mentions_of_scalar level scalars.1, ih scalars.2]
    rfl

/-! ## One configuration -/

theorem outline_itemBullets
    (each : ∀ item ∈ items, Outline depth (filterBullets depth item) (mentions depth item)) :
    Outline depth (itemBullets depth items) (itemMentions depth items) := by
  induction items with
  | nil => exact .done
  | cons item rest ih =>
    rw [List.forall_mem_cons] at each
    rw [itemBullets_cons, itemMentions]
    exact each.1.append (ih each.2)

/-- A key stands above what its value is, but alone if that is null, and beside a scalar or a list of
scalars. -/
theorem outline_entry {key : Value} (flat : Flat value)
    (below : Outline (depth + 1) (filterBullets (depth + 1) value) (mentions (depth + 1) value)) :
    Outline depth (entryBullets depth [(key, value)]) (entryMentions depth [(key, value)]) := by
  simp only [entryBullets, entryMentions, List.append_nil]
  cases key.scalarText? with
  | none => exact .done
  | some name =>
    dsimp only
    split
    next elsewhere => exact .done
    next shown =>
      cases flat with
      | null => exact .alone .done
      | bool | number | text => exact outline_single depth name _
      | mapping => exact outline_collection name below
      | @sequence items =>
        dsimp only
        split
        next scalars =>
          have beside := @Outline.beside depth name
            (items.map fun item => item.scalarText?.getD []) _ _ .done
          rw [mentions, itemMentions_of_scalars _ scalars]
          rw [List.append_nil, List.map_map] at beside
          exact beside
        next => exact outline_collection name below

theorem outline_entryBullets (flat : ∀ entry ∈ entries, Flat entry.2)
    (each : ∀ entry ∈ entries, Outline (depth + 1) (filterBullets (depth + 1) entry.2)
      (mentions (depth + 1) entry.2)) :
    Outline depth (entryBullets depth entries) (entryMentions depth entries) := by
  induction entries with
  | nil => exact .done
  | cons entry rest ih =>
    rw [List.forall_mem_cons] at flat each
    have first := @outline_entry _ _ entry.1 flat.1 each.1
    rw [entryBullets_cons, entryMentions]
    rw [entryMentions, entryMentions, List.append_nil] at first
    exact first.append (ih flat.2 each.2)

theorem outline_filterBullets (flat : Flat value) (depth : Nat) :
    Outline depth (filterBullets depth value) (mentions depth value) := by
  induction flat generalizing depth with
  | null => exact .done
  | bool | number | text => exact .scalar .done
  | sequence _ ih => exact outline_itemBullets fun item member => ih item member depth
  | mapping _ flat _ ih =>
    exact outline_entryBullets flat fun entry member => ih entry member (depth + 1)

/-- An empty list stands beside its key, and the items of an inner list no deeper than others. -/
example :
    let value : Value := .mapping [(.text "paths".toList, .sequence []), (.text "more".toList,
      .sequence [.sequence [.text "a".toList, .null], .text "b".toList])]
    filterBullets 1 value = [⟨1, "paths: ".toList⟩, ⟨1, "more:".toList⟩, ⟨2, "`a`".toList⟩,
      ⟨2, "`b`".toList⟩] ∧
    mentions 1 value = [.key 1 "paths".toList, .key 1 "more".toList, .scalar 2 "a".toList,
      .scalar 2 "b".toList] := by decide

/-! ## Nested lists -/

/-- A nested list whose outermost bullets stand at `depth`. -/
structure Nested (depth : Nat) (bullets : List Bullet) : Prop where
  first : ∀ bullet ∈ bullets.head?, bullet.depth = depth
  least : ∀ bullet ∈ bullets, depth ≤ bullet.depth
  /-- No bullet is more than one level deeper than the one before it. -/
  steps : bullets.IsChain fun before after => after.depth ≤ before.depth + 1

theorem Nested.nil : Nested depth [] := ⟨by simp, by simp, .nil⟩

theorem Nested.append (before : Nested depth inner) (after : Nested depth bullets) :
    Nested depth (inner ++ bullets) where
  first := by
    cases inner with
    | nil => exact after.first
    | cons => exact before.first
  least := List.forall_mem_append.mpr ⟨before.least, after.least⟩
  steps := by
    refine List.isChain_append.mpr ⟨before.steps, after.steps, fun last isLast next isNext => ?_⟩
    have deep := before.least last (List.mem_of_getLast? isLast)
    have same := after.first next isNext
    omega

theorem Nested.below (inside : Nested (depth + 1) inner) (text : Text) :
    Nested depth (⟨depth, text⟩ :: inner) where
  first := by simp
  least := List.forall_mem_cons.mpr
    ⟨le_rfl, fun bullet member => Nat.le_of_succ_le (inside.least bullet member)⟩
  steps := List.isChain_cons.mpr ⟨fun next isNext => (inside.first next isNext).le, inside.steps⟩

theorem Outline.nested (outline : Outline depth bullets first) : Nested depth bullets := by
  induction outline with
  | done => exact .nil
  | scalar _ ih | alone _ ih | beside _ _ ih => exact (Nested.nil.below _).append ih
  | above _ _ inside ih => exact (inside.below _).append ih

/-! ## Texts without a break -/

theorem unbroken_code {text : Text} (unbroken : Unbroken text) : Unbroken (code text) := by
  unfold code
  split
  · exact (Unbroken.append (by decide) unbroken).append (by decide)
  · exact unbroken_cons.mpr ⟨rfl, unbroken.append (by decide)⟩

theorem unbroken_behind {text behind : Text} (unbroken : Unbroken text) (flat : Unbroken behind) :
    Unbroken (text ++ ':' :: ' ' :: behind) :=
  unbroken.append (unbroken_cons.mpr ⟨rfl, unbroken_cons.mpr ⟨rfl, flat⟩⟩)

theorem Outline.unbroken (outline : Outline depth bullets first)
    (flat : ∀ mention ∈ first, Unbroken mention.text) :
    ∀ bullet ∈ bullets, Unbroken bullet.text := by
  induction outline with
  | done => simp
  | scalar _ ih =>
    rw [List.forall_mem_cons] at flat ⊢
    exact ⟨unbroken_code flat.1, ih flat.2⟩
  | alone _ ih =>
    rw [List.forall_mem_cons] at flat ⊢
    exact ⟨flat.1, ih flat.2⟩
  | beside texts _ ih =>
    rw [List.forall_mem_cons, List.forall_mem_append, List.forall_mem_map] at flat
    rw [List.forall_mem_cons]
    refine ⟨unbroken_behind flat.1 (unbroken_join (by decide) ?_), ih flat.2.2⟩
    rw [List.forall_mem_map]
    exact fun text member => unbroken_code (flat.2.1 text member)
  | above _ _ inside ih =>
    rw [List.forall_mem_cons, List.forall_mem_append] at flat ⊢
    exact ⟨flat.1.append (by decide), inside flat.2.1, ih flat.2.2⟩

theorem Flat.unbroken {name : Text} (flat : Flat value) (named : value.scalarText? = some name) :
    Unbroken name := by
  cases flat with
  | null | sequence | mapping => contradiction
  | @bool isTrue => cases isTrue <;> obtain rfl := Option.some.inj named <;> decide
  | number unbroken | text unbroken => exact Option.some.inj named ▸ unbroken

theorem itemMentions_eq (level : Nat) (items : List Value) :
    itemMentions level items = items.flatMap (mentions level) := by
  induction items with
  | nil => rfl
  | cons item rest ih => rw [itemMentions, ih, List.flatMap_cons]

theorem unbroken_entryMentions {level : Nat} (keys : ∀ entry ∈ entries, Flat entry.1)
    (values : ∀ entry ∈ entries, ∀ mention ∈ mentions (level + 1) entry.2, Unbroken mention.text) :
    ∀ mention ∈ entryMentions level entries, Unbroken mention.text := by
  induction entries with
  | nil => simp [entryMentions]
  | cons entry rest ih =>
    rw [List.forall_mem_cons] at keys values
    rw [entryMentions, List.forall_mem_append]
    refine ⟨?_, ih keys.2 values.2⟩
    cases named : entry.1.scalarText? with
    | none => simp
    | some name =>
      dsimp only
      split
      · simp
      · exact List.forall_mem_cons.mpr ⟨keys.1.unbroken named, values.1⟩

theorem unbroken_mentions (flat : Flat value) (level : Nat) :
    ∀ mention ∈ mentions level value, Unbroken mention.text := by
  induction flat generalizing level with
  | null => simp [mentions]
  | @bool isTrue => cases isTrue <;> simp [mentions, Value.scalarText?, Mention.text, Unbroken]
  | number unbroken | text unbroken => exact List.forall_mem_singleton.mpr unbroken
  | sequence _ ih =>
    rw [mentions, itemMentions_eq, List.forall_mem_flatMap]
    exact fun item member => ih item member level
  | mapping keys _ _ ih =>
    exact unbroken_entryMentions keys fun entry member => ih entry member (level + 1)

/-! ## The events -/

theorem eventsOfItems_eq (items : List Value) : eventsOfItems items = items.flatMap eventsOf := by
  induction items with
  | nil => rfl
  | cons item rest ih => rw [eventsOfItems, ih, List.flatMap_cons]

/-- The name and the configuration of an event are parts of a flat value. -/
structure FlatEvent (event : Event) : Prop where
  name : Unbroken event.name
  config : ∀ config ∈ event.config, Flat config

theorem flatEvent_of_mem (flat : Flat value) : ∀ event ∈ eventsOf value, FlatEvent event := by
  induction flat with
  | null => simp [eventsOf]
  | @bool isTrue => cases isTrue <;> exact List.forall_mem_singleton.mpr ⟨by decide, by simp⟩
  | number unbroken | text unbroken => exact List.forall_mem_singleton.mpr ⟨unbroken, by simp⟩
  | sequence _ ih =>
    rw [eventsOf, eventsOfItems_eq, List.forall_mem_flatMap]
    exact ih
  | mapping keys values _ _ =>
    rw [eventsOf, mappedEvents, List.forall_mem_map]
    rintro ⟨name, config⟩ member
    obtain ⟨⟨key, value⟩, present, shown⟩ := List.mem_filterMap.mp member
    obtain ⟨_, named, same⟩ := Option.map_eq_some_iff.mp shown
    obtain ⟨rfl, rfl⟩ := Prod.mk.inj same
    refine ⟨(keys _ present).unbroken named, fun part isPart => ?_⟩
    dsimp only at isPart
    split at isPart
    · exact absurd isPart (by simp)
    · exact Option.some.inj isPart ▸ values _ present

/-- The name of an event, and what is to be said about it. -/
def eventText (event : Event) : Text :=
  code event.name ++ ((eventSummary? event.name).map fun summary => ':' :: ' ' :: summary).getD []

theorem eventBullet_eq (event : Event) : eventBullet event = ⟨0, eventText event⟩ := by
  unfold eventBullet eventText
  cases eventSummary? event.name with
  | none => rw [Option.map_none, Option.getD_none, List.append_nil]
  | some summary => rfl

def eventMentions (event : Event) : List Mention := (event.config.map (mentions 1)).getD []

/-- The bullet of an event, and one level below it the outline of its configuration. -/
inductive EventOutline (event : Event) : List Bullet → Prop
  | above {below : List Bullet} : Outline 1 below (eventMentions event) →
      EventOutline event (⟨0, eventText event⟩ :: below)

/-- A nested list of the events. -/
structure Outlined (events : List Event) (bullets : List Bullet) : Prop where
  nested : Nested 0 bullets
  /-- The bullets that are not indented are those of the events, in order. -/
  top : bullets.filter (·.depth = 0) = events.map fun event => ⟨0, eventText event⟩
  /-- Between them stand the outlines of their configurations. -/
  between : ∃ groups, bullets = groups.flatten ∧ List.Forall₂ EventOutline events groups

theorem Outlined.cons {found : List Event} (first : EventOutline event inner)
    (rest : Outlined found bullets) : Outlined (event :: found) (inner ++ bullets) := by
  obtain @⟨below, outline⟩ := first
  have inside := outline.nested
  obtain ⟨groups, rfl, each⟩ := rest.between
  refine ⟨(inside.below _).append rest.nested, ?_, _ :: groups, rfl, .cons ⟨outline⟩ each⟩
  have deeper : below.filter (·.depth = 0) = [] := by
    rw [List.filter_eq_nil_iff]
    intro bullet member
    have deep := inside.least bullet member
    rw [decide_eq_true_eq]
    omega
  simp [rest.top, deeper]

theorem unbroken_eventText (unbroken : Unbroken event.name) : Unbroken (eventText event) := by
  refine (unbroken_code unbroken).append ?_
  unfold eventSummary?
  split_ifs <;> decide

theorem outline_eventBullets (flat : FlatEvent event) :
    EventOutline event (eventBullets event) ∧ ∀ bullet ∈ eventBullets event, Unbroken bullet.text := by
  obtain ⟨name, config⟩ := event
  have top := unbroken_eventText flat.name
  rw [eventBullets, eventBullet_eq, List.forall_mem_cons]
  cases config with
  | none => exact ⟨⟨.done⟩, top, by simp⟩
  | some config =>
    have inside := flat.config config rfl
    have outline := outline_filterBullets inside 1
    exact ⟨⟨outline⟩, top, outline.unbroken (unbroken_mentions inside 1)⟩

theorem outlined_of_flat {found : List Event} (flat : ∀ event ∈ found, FlatEvent event) :
    Outlined found (found.flatMap eventBullets) := by
  induction found with
  | nil => exact ⟨.nil, rfl, [], rfl, .nil⟩
  | cons event more ih =>
    rw [List.forall_mem_cons] at flat
    rw [List.flatMap_cons]
    exact .cons (outline_eventBullets flat.1).1 (ih flat.2)

/-! ## The lines of the section -/

/-- A line that looks like a bullet. -/
def Bulleted (line : Text) : Prop := ∃ bullet : Bullet, line = bullet.line

theorem not_bulleted {line : Text} (space : line.head? ≠ some ' ') (dash : line.head? ≠ some '-') :
    ¬Bulleted line := by
  rintro ⟨⟨depth, text⟩, rfl⟩
  cases depth with
  | zero => exact dash rfl
  | succ depth => exact space rfl

theorem not_bulleted_headingMark (level : Nat) (name : Text) :
    ¬Bulleted (headingMark level ++ name) := by
  apply not_bulleted <;> rw [head?_headingMark] <;> decide

theorem unbroken_line {bullet : Bullet} (unbroken : Unbroken bullet.text) :
    Unbroken bullet.line := by
  refine Unbroken.append ?_ (unbroken_cons.mpr ⟨rfl, unbroken_cons.mpr ⟨rfl, unbroken⟩⟩)
  simp [Unbroken, repeated]

theorem linesOf_triggers {on : Option Value} (found : events on ≠ [])
    (unbroken : ∀ bullet ∈ (events on).flatMap eventBullets, Unbroken bullet.text)
    (secrets : Entries Workflow.Secret) (options : RenderOptions) :
    ∃ table, linesOf (triggers on secrets options) =
        (options.heading ++ " Triggers".toList) :: [] ::
          (((events on).flatMap eventBullets).map Bullet.line ++ table) ∧
      ∀ line ∈ table, ¬Bulleted line := by
  have lines : ∀ line ∈ (options.heading ++ " Triggers".toList) :: [] ::
      ((events on).flatMap eventBullets).map Bullet.line, Unbroken line := by
    rw [List.forall_mem_cons, List.forall_mem_cons, List.forall_mem_map]
    exact ⟨(unbroken_headingMark options.tocLevel).append (by decide), by decide,
      fun bullet member => unbroken_line (unbroken bullet member)⟩
  obtain ⟨none, shown⟩ := secrets_of_triggers found secrets options
  by_cases empty : secrets = []
  · refine ⟨[], ?_, by simp⟩
    rw [none empty, List.append_nil]
    exact @linesOf_join _ .lf (List.cons_ne_nil _ _) lines
  · obtain ⟨below, last, whole, headed, listed⟩ := shown empty
    refine ⟨[] :: (options.subHeading ++ " Secrets".toList) :: [] :: below, ?_, ?_⟩
    · rw [whole, id, headed.joined, bulletText_append_join (List.cons_ne_nil _ _)]
      refine @linesOf_join _ .lf (List.cons_ne_nil _ _) (List.forall_mem_append.mpr ⟨lines, ?_⟩)
      exact List.forall_mem_cons.mpr ⟨by decide, headed.unbroken_lines⟩
    · rw [List.forall_mem_cons, List.forall_mem_cons, List.forall_mem_cons]
      refine ⟨not_bulleted (by decide) (by decide), not_bulleted_headingMark _ _,
        not_bulleted (by decide) (by decide), fun line member => ?_⟩
      apply not_bulleted <;> rw [listed.head? line member] <;> decide

/-- The lines of the section are those of the events in order, each with its configuration below it,
as a nested list that mentions every key and every scalar once, in the order of the document. No line
above or below the list looks like one of its lines. -/
theorem outline_triggers (flat : Flat value) (secrets : Entries Workflow.Secret)
    (options : RenderOptions) : ∃ above bullets below,
      linesOf (triggers (some value) secrets options) =
        above ++ bullets.map Bullet.line ++ below ∧
      (∀ line ∈ above ++ below, ¬Bulleted line) ∧ Outlined (events (some value)) bullets := by
  have each : ∀ event ∈ events (some value), FlatEvent event := flatEvent_of_mem flat
  have outlined := outlined_of_flat each
  have heading : ∀ line ∈ [options.heading ++ " Triggers".toList, []], ¬Bulleted line := by
    rw [List.forall_mem_cons, List.forall_mem_singleton]
    exact ⟨not_bulleted_headingMark _ _, not_bulleted (by decide) (by decide)⟩
  by_cases found : events (some value) = []
  · refine ⟨[options.heading ++ " Triggers".toList, []], [], [noTriggers], ?_, ?_, ?_⟩
    · rw [triggers, found]
      exact linesOf_placeholder options
    · exact List.forall_mem_append.mpr
        ⟨heading, List.forall_mem_singleton.mpr (not_bulleted (by decide) (by decide))⟩
    · rwa [found] at outlined ⊢
  · have unbroken : ∀ bullet ∈ (events (some value)).flatMap eventBullets,
        Unbroken bullet.text := by
      rw [List.forall_mem_flatMap]
      exact fun event member => (outline_eventBullets (each event member)).2
    obtain ⟨table, lines, others⟩ := linesOf_triggers found unbroken secrets options
    exact ⟨_, _, table, lines, List.forall_mem_append.mpr ⟨heading, others⟩, outlined⟩

/-- Lists of scalars, of other lists, of nothing, keys that are left out, and keys like them that are
deep enough to be shown. -/
def nestedTriggers : Value :=
  .mapping [
    (.text "push".toList, .mapping [
      (.text "branches".toList, .sequence [.text "main".toList, .number (.integer 7)]),
      (.text "paths".toList, .sequence []),
      (.text "inputs".toList, .text "no".toList),
      (.text "more".toList, .sequence [
        .sequence [.text "a".toList, .null],
        .mapping [(.text "inputs".toList, .bool true), (.null, .text "no".toList)]])]),
    (.text "schedule".toList, .null)]

theorem outline_triggers_nestedTriggers : Flat nestedTriggers ∧ ∃ above bullets below,
    linesOf (triggers (some nestedTriggers) [] {}) = above ++ bullets.map Bullet.line ++ below ∧
    (∀ line ∈ above ++ below, ¬Bulleted line) ∧
    Outlined (events (some nestedTriggers)) bullets := by
  have flat : Flat nestedTriggers := by
    simp only [nestedTriggers, flat_mapping, flat_sequence, flat_text, flat_number, Flat.null,
      Flat.bool, List.forall_mem_cons, List.not_mem_nil, false_imp_iff, implies_true]
    decide
  exact ⟨flat, outline_triggers flat [] {}⟩

end WorkflowDocs.Section
