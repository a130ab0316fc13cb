import WorkflowDocs.Bundle
import WorkflowDocs.Proofs.Markdown.Table

/-!
# The tables of a document

Inputs, outputs and secrets are shown as tables. Names and specifications may hold any characters,
pipes and line breaks too.

Results:
1. `listed_lines`: the lines of a table read as the texts of its entries, one line for each.
2. `Headed.normalizeBreaks`: in another line break style these lines are the same.
3. `section_tables`: all tables of a document show all their entries, as rendered and in the bundle.
-/

namespace WorkflowDocs.Section

open Markdown Text Workflow

variable {α : Type} {columns : List Column} {texts : α → List Text} {entries : List α}
  {terminator heading sentence text : Text} {below : List Text} {options : RenderOptions}

/-! ## What a section with a table looks like -/

/-- The lines of a table: the names of the columns, their rules, and for each entry in order one
line that reads as the escaped texts of the entry, as many as there are columns. -/
inductive Listed (columns : List Column) (texts : α → List Text) (entries : List α) :
    List Text → Prop
  | lines {header rule : Text} {rows : List Text} :
      Row header (columns.map (·.name)) → Row rule (columns.map (·.rule)) →
      List.Forall₂ (fun line entry => Row line ((texts entry).map escapeCell) ∧
        (texts entry).length = columns.length) rows entries →
      Listed columns texts entries (header :: rule :: rows)

/-- The line of a heading, a blank line, and the lines below them. -/
structure Headed (terminator heading : Text) (below : List Text) (text : Text) : Prop where
  unbroken : ∀ line ∈ heading :: below, Unbroken line
  joined : text = join terminator (heading :: [] :: below)

/-- A heading, and below it a table of the entries, or a sentence if there are none. -/
def Tabulated (terminator heading sentence : Text) (columns : List Column)
    (texts : α → List Text) (entries : List α) (text : Text) : Prop :=
  ∃ below, Headed terminator heading below text ∧
    (entries = [] → below = [sentence]) ∧ (entries ≠ [] → Listed columns texts entries below)

/-! ## One section -/

theorem Listed.unbroken (listed : Listed columns texts entries below) :
    ∀ line ∈ below, Unbroken line := by
  obtain ⟨header, rule, rows⟩ := listed
  have each := rows.imp fun _ _ row => And.intro row.1.1 row
  rw [List.forall_mem_cons, List.forall_mem_cons]
  exact ⟨header.1, rule.1, ((List.forall₂_and_left _ _).mp each).1⟩

theorem Listed.head? (listed : Listed columns texts entries below) :
    ∀ line ∈ below, line.head? = some '|' := by
  obtain ⟨header, rule, rows⟩ := listed
  have each := rows.imp fun _ _ row => And.intro row.1.head? row
  rw [List.forall_mem_cons, List.forall_mem_cons]
  exact ⟨header.head?, rule.head?, ((List.forall₂_and_left _ _).mp each).1⟩

/-- Every entry has its line. -/
theorem Listed.exists_line (listed : Listed columns texts entries below) {entry : α}
    (member : entry ∈ entries) : ∃ line ∈ below, Row line ((texts entry).map escapeCell) := by
  obtain ⟨header, rule, rows⟩ := listed
  obtain ⟨place, inEntries, rfl⟩ := List.mem_iff_getElem.mp member
  have inRows := rows.length_eq ▸ inEntries
  exact ⟨_, List.mem_cons_of_mem _ (List.mem_cons_of_mem _ (List.getElem_mem inRows)),
    (rows.get inRows inEntries).1⟩

theorem listed_lines (filled : columns ≠ []) (plain : Plain columns)
    (each : ∀ entry, (texts entry).length = columns.length) :
    Listed columns texts entries (Table.lines ⟨columns, entries.map texts⟩) := by
  have full : ∀ row ∈ entries.map texts, row ≠ [] := by
    intro row member
    obtain ⟨entry, _, rfl⟩ := List.mem_map.mp member
    rw [← List.length_pos_iff, each entry]
    exact List.length_pos_iff.mpr filled
  obtain ⟨header, rule, lines, cut, first, second, rows⟩ := Table.rows_lines filled plain full
  rw [cut]
  rw [List.forall₂_map_right_iff] at rows
  exact .lines first second (rows.imp fun line entry row => ⟨row, each entry⟩)

theorem unbroken_headingMark (level : Nat) : Unbroken (headingMark level) := by
  unfold headingMark repeated Unbroken
  simp

theorem head?_headingMark (level : Nat) (name : Text) :
    (headingMark level ++ name).head? = some '#' := by
  have filled : headingMark level = '#' :: repeated (max 1 (min 6 level) - 1) '#' := by
    rw [headingMark, repeated, repeated, ← List.replicate_succ]
    congr 1
    omega
  rw [filled]
  rfl

theorem headed_of_join (level : Nat) {name : Text} (flat : Unbroken name) (filled : below ≠ [])
    (unbroken : ∀ line ∈ below, Unbroken line) :
    Headed ['\n'] (headingMark level ++ name) below
      (headingMark level ++ (name ++ ['\n', '\n']) ++ join ['\n'] below) where
  unbroken := by
    rw [List.forall_mem_cons]
    exact ⟨(unbroken_headingMark level).append flat, unbroken⟩
  joined := by
    obtain ⟨first, more, rfl⟩ := List.exists_cons_of_ne_nil filled
    simp [join, List.intercalate_cons_cons]

/-- Each of the lines, the blank one too, holds no break. -/
theorem Headed.unbroken_lines (headed : Headed terminator heading below text) :
    ∀ line ∈ heading :: [] :: below, Unbroken line := by
  have unbroken := headed.unbroken
  rw [List.forall_mem_cons] at unbroken ⊢
  rw [List.forall_mem_cons]
  exact ⟨unbroken.1, by decide, unbroken.2⟩

theorem Headed.normalizeBreaks (headed : Headed ['\n'] heading below text) (style : LineBreaks) :
    Headed style.terminator heading below (normalizeBreaks style text) where
  unbroken := headed.unbroken
  joined := by rw [headed.joined, normalizeBreaks_join headed.unbroken_lines]

theorem tabulated_of_entries (level : Nat) {name : Text} (flat : Unbroken name)
    (flat' : Unbroken sentence) (filled : columns ≠ []) (plain : Plain columns)
    (each : ∀ entry, (texts entry).length = columns.length) (entries : List α) :
    Tabulated ['\n'] (headingMark level ++ name) sentence columns texts entries
      (headingMark level ++ (name ++ ['\n', '\n']) ++
        if entries.isEmpty then sentence else Table.render ⟨columns, entries.map texts⟩) := by
  cases entries with
  | nil =>
    have single := headed_of_join level flat (List.cons_ne_nil sentence []) (by simpa using flat')
    rw [join, List.intercalate_singleton] at single
    exact ⟨[sentence], single, fun _ => rfl, fun filled => absurd rfl filled⟩
  | cons entry more =>
    have listed := @listed_lines _ _ _ (entry :: more) filled plain each
    exact ⟨_, headed_of_join level flat (List.cons_ne_nil _ _) listed.unbroken, by simp,
      fun _ => listed⟩

theorem Tabulated.normalizeBreaks
    (tabulated : Tabulated ['\n'] heading sentence columns texts entries text)
    (style : LineBreaks) : Tabulated style.terminator heading sentence columns texts entries
      (normalizeBreaks style text) := by
  obtain ⟨below, headed, table⟩ := tabulated
  exact ⟨below, headed.normalizeBreaks style, table⟩

/-! ## The texts in the tables -/

/-- The type, and behind it the options of a choice as the items of a list. -/
def typeText (input : Input) : Text :=
  match input.type with
  | none => []
  | some type => code type ++
    if type = "choice".toList ∧ input.options ≠ [] then
      ":<br /><ul>".toList ++ (input.options.map fun option =>
        "<li>".toList ++ option ++ "</li>".toList).flatten ++ "</ul>".toList
    else []

def requiredText (required : Option Bool) : Text :=
  match required with
  | some true => "yes".toList
  | _ => "no".toList

/-- Name, description, default, whether it is required, and type of an input. -/
def inputTexts (entry : Text × Input) : List Text :=
  let (name, input) := entry
  [code name, input.description.getD [],
    (input.default.map fun text => code (if text = [] then "\"\"".toList else text)).getD [],
    requiredText input.required, typeText input]

def outputTexts (entry : Text × Output) : List Text :=
  let (name, output) := entry
  [code name, output.description.getD []]

def secretTexts (entry : Text × Secret) : List Text :=
  let (name, secret) := entry
  [code name, secret.description.getD [], requiredText secret.required]

theorem requiredCell_eq (required : Option Bool) : requiredCell required = requiredText required := by
  rcases required with _ | _ | _ <;> rfl

theorem typeCell_eq (input : Input) : typeCell input = typeText input := by
  unfold typeCell typeText
  cases input.type with
  | none => rfl
  | some type =>
    dsimp only
    by_cases choice : type = "choice".toList ∧ input.options ≠ []
    · have listed : (decide (type = "choice".toList) && !input.options.isEmpty) = true := by
        rw [Bool.and_eq_true, decide_eq_true_eq, Bool.not_eq_true', List.isEmpty_eq_false_iff]
        exact choice
      rw [if_pos choice, List.flatMap_def]
      refine (if_pos listed).trans ?_
      rw [List.append_assoc, List.append_assoc, List.append_assoc]
    · have single : ¬ (decide (type = "choice".toList) && !input.options.isEmpty) = true := by
        rw [Bool.and_eq_true, decide_eq_true_eq, Bool.not_eq_true', List.isEmpty_eq_false_iff]
        exact choice
      rw [if_neg choice, List.append_nil]
      exact if_neg single

theorem inputRow_eq : inputRow = inputTexts := by
  funext ⟨name, input⟩
  have default : defaultCell input.default =
      (input.default.map fun text => code (if text = [] then "\"\"".toList else text)).getD [] := by
    rcases input.default with _ | _ | _ <;> rfl
  simp only [inputRow, inputTexts, default, typeCell_eq, requiredCell_eq]

theorem secretRow_eq : secretRow = secretTexts := by
  funext ⟨name, secret⟩
  simp only [secretRow, secretTexts, requiredCell_eq]

theorem tabulated_inputs (entries : Entries Input) (options : RenderOptions) :
    Tabulated ['\n'] (options.heading ++ " Inputs".toList) noInputs inputColumns inputTexts entries
      (inputs entries options) := by
  have name : " Inputs\n\n".toList = " Inputs".toList ++ ['\n', '\n'] := by decide
  unfold inputs
  rw [name, inputRow_eq]
  exact tabulated_of_entries _ (by decide) (by decide) (by decide) (by decide) (fun _ => rfl) _

theorem tabulated_outputs (entries : Entries Output) (options : RenderOptions) :
    Tabulated ['\n'] (options.heading ++ " Outputs".toList) noOutputs outputColumns outputTexts
      entries (outputs entries options) := by
  have name : " Outputs\n\n".toList = " Outputs".toList ++ ['\n', '\n'] := by decide
  unfold outputs
  rw [name]
  exact tabulated_of_entries _ (by decide) (by decide) (by decide) (by decide) (fun _ => rfl) _

/-! ## The whole document -/

/-- The bullets of the events below their heading. -/
def bulletText (value : Option Yaml.Value) (options : RenderOptions) : Text :=
  join ['\n'] ((options.heading ++ " Triggers".toList) :: [] ::
    ((events value).flatMap eventBullets).map Bullet.line)

/-- What stands below the bullets: nothing, or on lines of its own a table of the secrets. -/
def Secrets (terminator : Text) (finish : Text → Text) (options : RenderOptions)
    (secrets : Entries Secret) (bullets text : Text) : Prop :=
  (secrets = [] → text = finish bullets) ∧
  (secrets ≠ [] → ∃ below last, text = finish (bullets ++ ['\n']) ++ terminator ++ last ∧
    Headed terminator (options.subHeading ++ " Secrets".toList) below last ∧
    Listed secretColumns secretTexts secrets below)

/-- The sections of a document show all inputs, outputs and secrets. Their lines end with
`terminator`, and the bullets of the events stand there as `finish` leaves them. -/
structure Tables (terminator : Text) (finish : Text → Text) (document : Document)
    (options : RenderOptions) (inputs outputs triggers : Text) : Prop where
  inputs : Tabulated terminator (options.heading ++ " Inputs".toList) noInputs inputColumns
    inputTexts document.inputs inputs
  outputs : Tabulated terminator (options.heading ++ " Outputs".toList) noOutputs outputColumns
    outputTexts document.outputs outputs
  secrets : events document.triggers ≠ [] → Secrets terminator finish options document.secrets
    (bulletText document.triggers options) triggers

theorem triggers_eq {value : Option Yaml.Value} (found : events value ≠ [])
    (secrets : Entries Secret) (options : RenderOptions) :
    triggers value secrets options = bulletText value options ++
      if secrets.isEmpty then []
      else ['\n'] ++ ['\n'] ++ (options.subHeading ++ " Secrets\n\n".toList ++
        (secretsTable secrets).render) := by
  obtain ⟨first, more, whole⟩ := List.exists_cons_of_ne_nil found
  have bullets : ∃ bullet rest, ((events value).flatMap eventBullets).map Bullet.line =
      bullet :: rest := by
    rw [whole]
    exact ⟨_, _, rfl⟩
  obtain ⟨bullet, rest, lines⟩ := bullets
  have heading : " Triggers\n\n".toList = " Triggers".toList ++ ['\n', '\n'] := by decide
  unfold triggers bulletText
  rw [lines, heading]
  rw [whole] at lines ⊢
  simp only [lines, join, List.intercalate_cons_cons, List.append_assoc]
  rfl

theorem secrets_of_triggers {value : Option Yaml.Value} (found : events value ≠ [])
    (secrets : Entries Secret) (options : RenderOptions) :
    Secrets ['\n'] id options secrets (bulletText value options)
      (triggers value secrets options) := by
  rw [triggers_eq found]
  constructor
  · rintro rfl
    exact List.append_nil _
  · intro filled
    have name : " Secrets\n\n".toList = " Secrets".toList ++ ['\n', '\n'] := by decide
    have listed := @listed_lines _ _ _ secrets (show secretColumns ≠ [] by decide) (by decide)
      (show ∀ entry, (secretTexts entry).length = secretColumns.length from fun _ => rfl)
    have below : (secretsTable secrets).lines ≠ [] := List.cons_ne_nil _ _
    rw [← secretRow_eq] at listed
    refine ⟨_, _, ?_, headed_of_join (options.tocLevel + 1) (by decide) below listed.unbroken, ?_⟩
    · rw [if_neg (by simpa using filled), name]
      simp only [id, List.append_assoc]
      rfl
    · rw [← secretRow_eq]
      exact listed

theorem Secrets.normalizeBreaks {secrets : Entries Secret} {bullets : Text}
    (shown : Secrets ['\n'] id options secrets bullets text) (style : LineBreaks) :
    Secrets style.terminator (normalizeBreaks style) options secrets bullets
      (normalizeBreaks style text) := by
  refine ⟨fun empty => by rw [shown.1 empty]; rfl, fun filled => ?_⟩
  obtain ⟨below, last, rfl, headed, listed⟩ := shown.2 filled
  refine ⟨below, _, ?_, headed.normalizeBreaks style, listed⟩
  have feed : normalizeBreaks style ['\n'] = style.terminator := by cases style <;> rfl
  rw [id, normalizeBreaks_append (by simp), normalizeBreaks_append (by simp), feed]

/-- No entry is lost, doubled, merged or moved, whatever its texts hold, also after the line breaks
have been rewritten. -/
theorem section_tables (document : Document) (options : RenderOptions) :
    Tables ['\n'] id document options (inputs document.inputs options)
      (outputs document.outputs options)
      (triggers document.triggers document.secrets options) ∧
    Tables options.lineBreaks.terminator (normalizeBreaks options.lineBreaks) document options
      (Bundle.ofDocument document options).inputs (Bundle.ofDocument document options).outputs
      (Bundle.ofDocument document options).triggers := by
  have first := tabulated_inputs document.inputs options
  have second := tabulated_outputs document.outputs options
  have third := fun found => @secrets_of_triggers document.triggers found document.secrets options
  exact ⟨⟨first, second, third⟩, first.normalizeBreaks _, second.normalizeBreaks _,
    fun found => (third found).normalizeBreaks _⟩

end WorkflowDocs.Section
