import WorkflowDocs.Config.Load
import WorkflowDocs.Proofs.Toml.Record

/-!
# Settings files that differ in one section

What is read from a settings file does not depend on where in the file it stands, nor on sections
that no field is read from. So two files with the same sections but for one give the same settings.

Results:
1. `blind_decodeRecord`: a record is what it would be if the items stood elsewhere.
2. `decodeEntries_erase`: a key that is no field's name can be left out.
3. `ofText_of_differs`: the settings are the same if the files differ in such a section.
-/

namespace WorkflowDocs.Toml

variable {α β : Type} {fields : List (Field α)} {name : Text}

/-! ## Items without their places -/

def nowhere : Span := ⟨0, 0⟩

def Key.bare (key : Key) : Key := ⟨key.name, nowhere⟩

mutual

/-- The item as if it had been read from nowhere. -/
def Item.bare : Item → Item
  | .scalar value _ => .scalar value nowhere
  | .array items _ => .array (bareItems items) nowhere
  | .inlineTable table => .inlineTable table.bare
  | .table table => .table table.bare
  | .tables tables => .tables (bareTables tables)

def Table.bare : Table → Table
  | .mk entries kind _ => .mk (bareEntries entries) kind none

def bareItems : List Item → List Item
  | [] => []
  | item :: rest => item.bare :: bareItems rest

def bareTables : List Table → List Table
  | [] => []
  | table :: rest => table.bare :: bareTables rest

def bareEntries : List (Key × Item) → List (Key × Item)
  | [] => []
  | (key, item) :: rest => (key.bare, item.bare) :: bareEntries rest

end

/-- Both texts are settings files, with the same entries but for those named `name`. -/
def Differs (name source source' : Text) : Prop :=
  ∃ table table', parse source = .ok table ∧ parse source' = .ok table' ∧
    (table'.erase name).bare = (table.erase name).bare

theorem entries_bare (table : Table) : table.bare.entries = bareEntries table.entries := by
  cases table
  rfl

/-- Settings files that have no other entries. -/
theorem differs_of_only {source source' : Text} (kind : TableKind)
    (only : (parse source).toOption.map (fun table =>
      ((table.erase name).entries.isEmpty, table.kind)) = some (true, kind))
    (only' : (parse source').toOption.map (fun table =>
      ((table.erase name).entries.isEmpty, table.kind)) = some (true, kind)) :
    Differs name source source' := by
  have shape : ∀ {text : Text}, (parse text).toOption.map (fun table =>
      ((table.erase name).entries.isEmpty, table.kind)) = some (true, kind) →
      ∃ table, parse text = .ok table ∧ (table.erase name).bare = .mk [] kind none := by
    intro text only
    cases parsed : parse text with
    | error problem => simp [parsed, Except.toOption] at only
    | ok table =>
      refine ⟨table, rfl, ?_⟩
      simp only [parsed, Except.toOption, Option.map_some, Option.some.injEq, Prod.mk.injEq,
        List.isEmpty_iff] at only
      obtain ⟨empty, rfl⟩ := only
      change Table.mk (bareEntries (table.erase name).entries) table.kind none = _
      rw [empty]
      rfl
  obtain ⟨table, parsed, same⟩ := shape only
  obtain ⟨table', parsed', same'⟩ := shape only'
  exact ⟨table, table', parsed, parsed', same'.trans same.symm⟩

theorem bareItems_tables (tables : List Table) :
    bareItems (tables.map .table) = (bareTables tables).map .table := by
  induction tables with
  | nil => rfl
  | cons table rest ih =>
    rw [List.map_cons, bareItems, ih, bareTables, List.map_cons, Item.bare]

/-! ## Values -/

/-- Results that agree but for a problem go on alike. -/
theorem toOption_bind {γ : Type} {result result' : Decoded β} {next next' : β → Decoded γ}
    (same : result'.toOption = result.toOption)
    (each : ∀ value, (next' value).toOption = (next value).toOption) :
    (result'.bind next').toOption = (result.bind next).toOption := by
  cases result with
  | error problem =>
    cases result' with
    | error problem' => rfl
    | ok value' => cases same
  | ok value =>
    cases result' with
    | error problem' => cases same
    | ok value' =>
      cases same
      exact each value

/-- Decoding does not look at places, but for the place of a problem. -/
def Blind (decode : Item → Decoded β) : Prop :=
  ∀ item : Item, (decode item.bare).toOption = (decode item).toOption

theorem blind_decodeText (expected : String) : Blind (decodeText expected) := by
  intro item
  cases item with
  | scalar value span => cases value <;> rfl
  | _ => rfl

theorem blind_decodeByte : Blind decodeByte := by
  intro item
  cases item with
  | scalar value span =>
    cases value with
    | integer value =>
      simp only [Item.bare, decodeByte]
      split <;> rfl
    | _ => rfl
  | _ => rfl

theorem toOption_decodeWord (words : Words β) (word : Text) (span span' : Option Span) :
    (decodeWord words word span).toOption = (decodeWord words word span').toOption := by
  unfold decodeWord
  split <;> rfl

theorem blind_decodeEmpty : Blind decodeEmpty := by
  have table : ∀ entries : List (Key × Item), (bareEntries entries).isEmpty = entries.isEmpty :=
    fun entries => by cases entries <;> rfl
  intro item
  cases item with
  | scalar value span => cases value <;> rfl
  | array items span => cases items <;> rfl
  | tables tables => cases tables <;> rfl
  | inlineTable inner =>
    simp only [Item.bare, decodeEmpty, entries_bare, table]
    split <;> rfl
  | table inner =>
    simp only [Item.bare, decodeEmpty, entries_bare, table]
    split <;> rfl

theorem toOption_decodeWordTable (words : Words β) (item item' : Item)
    (entries : List (Key × Item)) : (decodeWordTable words item' (bareEntries entries)).toOption =
      (decodeWordTable words item entries).toOption := by
  match entries with
  | [] => rfl
  | [(key, inner)] =>
    refine toOption_bind (toOption_decodeWord words key.name _ _) fun value => ?_
    exact toOption_bind (blind_decodeEmpty inner) fun _ => rfl
  | (_, _) :: (_, _) :: _ => rfl

theorem blind_decodeChoice (words : Words β) : Blind (decodeChoice words) := by
  intro item
  cases item with
  | scalar value span =>
    cases value with
    | string word => exact toOption_decodeWord words word (some nowhere) (some span)
    | _ => rfl
  | array | tables => rfl
  | inlineTable inner =>
    simp only [Item.bare, decodeChoice, entries_bare]
    exact toOption_decodeWordTable words _ _ _
  | table inner =>
    simp only [Item.bare, decodeChoice, entries_bare]
    exact toOption_decodeWordTable words _ _ _

/-! ## Records -/

/-- The reader of a field is blind, whatever has been read before. -/
def Field.Blind (field : Field α) : Prop :=
  ∀ record, Toml.Blind fun item => field.read item record

theorem blind_of_set {decode : Item → Decoded β} (blind : Blind decode) {set : α → β → α}
    {optional : Bool} (field : Text) :
    (Field.mk field (fun item record => (decode item).map (set record)) optional).Blind := by
  intro record item
  have shown : ∀ result : Decoded β,
      (result.map (set record)).toOption = result.toOption.map (set record) :=
    fun result => by cases result <;> rfl
  rw [shown, shown, blind item]

theorem toOption_locate (span : Option Span) (result : Decoded α) :
    (locate span result).toOption = result.toOption := by
  cases result <;> rfl

theorem decodeEntries_bare (blind : ∀ field ∈ fields, field.Blind) (entries : List (Key × Item))
    (start : α) : (decodeEntries fields (bareEntries entries) start).toOption =
      (decodeEntries fields entries start).toOption := by
  induction entries generalizing start with
  | nil => rfl
  | cons entry rest ih =>
    obtain ⟨key, item⟩ := entry
    rw [bareEntries]
    cases found : fields.find? fun field => field.name = key.name with
    | none =>
      have found' : fields.find? (fun field => field.name = key.bare.name) = none := found
      simp only [decodeEntries, found, found']
      exact ih start
    | some field =>
      have found' : fields.find? (fun field => field.name = key.bare.name) = some field := found
      rw [decodeEntries_of_found found, decodeEntries_of_found found']
      have same : (locate (item.bare.span?.orElse fun _ => some key.bare.span)
          (field.read item.bare start)).toOption =
          (locate (item.span?.orElse fun _ => some key.span) (field.read item start)).toOption := by
        rw [toOption_locate, toOption_locate]
        exact blind field (List.mem_of_find?_eq_some found) start item
      exact toOption_bind same ih

theorem decodePositions_bare (blind : ∀ field ∈ fields, field.Blind) (expected : Text)
    (before : Nat) (items : List Item) (start : α) :
    (decodePositions expected before fields (bareItems items) start).toOption =
      (decodePositions expected before fields items start).toOption := by
  induction fields generalizing before items start with
  | nil => cases items <;> rfl
  | cons field rest ih =>
    rw [List.forall_mem_cons] at blind
    cases items with
    | nil => rfl
    | cons item items =>
      exact toOption_bind (blind.1 start item) fun record => ih blind.2 (before + 1) items record

theorem blind_decodeRecord (label : String) (blind : ∀ field ∈ fields, field.Blind) (start : α) :
    Blind (decodeRecord label fields start) := by
  intro item
  unfold decodeRecord
  rw [toOption_locate, toOption_locate]
  cases item with
  | scalar value span => cases value <;> rfl
  | array items span => exact decodePositions_bare blind _ 0 items start
  | inlineTable inner =>
    simp only [Item.bare, entries_bare]
    exact decodeEntries_bare blind _ start
  | table inner =>
    simp only [Item.bare, entries_bare]
    exact decodeEntries_bare blind _ start
  | tables tables =>
    simp only [Item.bare, ← bareItems_tables]
    exact decodePositions_bare blind _ 0 _ start

/-- A key that is no field's name is passed over. -/
theorem decodeEntries_erase (unread : ∀ field ∈ fields, field.name ≠ name)
    (entries : List (Key × Item)) (start : α) :
    decodeEntries fields (entries.filter fun entry => entry.1.name ≠ name) start =
      decodeEntries fields entries start := by
  induction entries generalizing start with
  | nil => rfl
  | cons entry rest ih =>
    obtain ⟨key, item⟩ := entry
    by_cases same : key.name = name
    · have missing : fields.find? (fun field => field.name = key.name) = none :=
        List.find?_eq_none.mpr fun field member => by simpa [same] using unread field member
      rw [List.filter_cons_of_neg (by simpa using same), ih]
      simp only [decodeEntries, missing]
    · rw [List.filter_cons_of_pos (by simpa using same)]
      simp only [decodeEntries, ih]

end WorkflowDocs.Toml

namespace WorkflowDocs.Config

open Toml

variable {name : Text}

theorem blind_fields : ∀ field ∈ fields, field.Blind := by
  have render : ∀ field ∈ renderFields, field.Blind := by
    simp only [renderFields, List.forall_mem_cons]
    exact ⟨blind_of_set (blind_decodeChoice _) _, blind_of_set blind_decodeByte _, by simp⟩
  have readme : ∀ field ∈ readmeFields, field.Blind := by
    simp only [readmeFields, List.forall_mem_cons]
    exact ⟨blind_of_set (blind_decodeText _) _, blind_of_set (blind_decodeText _) _,
      blind_of_set (blind_decodeText _) _, by simp⟩
  simp only [fields, List.forall_mem_cons]
  exact ⟨blind_of_set (blind_decodeRecord _ render _) _,
    blind_of_set (blind_decodeRecord _ readme _) _, by simp⟩

theorem toOption_ofText {source : Text} {table : Table} (parsed : parse source = .ok table)
    (unread : ∀ field ∈ fields, field.name ≠ name) : (ofText source).toOption =
      (decodeEntries fields (table.erase name).bare.entries {}).toOption := by
  have decodes : ofText source = decodeRecord "DocsConfig" fields {} (.table table) := by
    unfold ofText
    rw [parsed]
    rfl
  rw [decodes, entries_bare, decodeEntries_bare blind_fields, Table.erase, Table.entries,
    decodeEntries_erase unread]
  exact toOption_locate _ _

/-- The settings of two files that differ in a section no setting is read from. -/
theorem ofText_of_differs {source source' : Text} (unread : ∀ field ∈ fields, field.name ≠ name)
    (differs : Differs name source source') : (ofText source').toOption = (ofText source).toOption := by
  obtain ⟨table, table', parsed, parsed', same⟩ := differs
  rw [toOption_ofText parsed unread, toOption_ofText parsed' unread, same]

end WorkflowDocs.Config
