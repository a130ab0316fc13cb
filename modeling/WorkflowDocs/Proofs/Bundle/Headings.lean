import WorkflowDocs.Proofs.Bundle.Assembly
import WorkflowDocs.Proofs.Section.Events
import WorkflowDocs.Proofs.Section.Tables

/-!
# The headings of a document

A line that begins with `#` is a heading. Texts of a workflow stand in cells of tables, where their
breaks are rewritten, in the title and in bullets, where they are not.

That the only headings are those of the sections is false (`headings_unsound`): behind a break in the
name, a line of its own begins.

Results:
1. `marked_assemble`: the headings of a document are those of its sections.
2. `marked_of_tabulated`, `marked_triggers`: in the tables there are none, in the bullets those behind
   a break in their texts.
3. `headings_iff`: no other headings are there exactly if no name and no bullet has a `#` directly
   behind a break.
-/

namespace WorkflowDocs.Bundle

open Text Markdown Section Workflow

variable {text before line heading name sentence source : Text} {lines below : List Text}
  {document : Document} {options : RenderOptions}

/-! ## Marked lines -/

/-- The line begins with the mark of a heading. -/
def isMarked (line : Text) : Bool := line.head? = some '#'

/-- The headings in a text. -/
def marked (text : Text) : List Text := (linesOf text).filter isMarked

/-- The headings in a text that begins in the middle of a line. -/
def markedBehind (text : Text) : List Text := (linesOf text).tail.filter isMarked

/-- No `#` stands directly behind a break. -/
def Unmarked (text : Text) : Prop := ¬['\n', '#'] <:+: text ∧ ¬['\r', '#'] <:+: text

instance (text : Text) : Decidable (Unmarked text) := inferInstanceAs (Decidable (_ ∧ _))

@[simp] theorem marked_nil : marked [] = [] := rfl

theorem marked_append_feed (before after : Text) :
    marked (before ++ '\n' :: after) = marked before ++ marked after := by
  unfold marked
  by_cases ends : before.getLast? = some '\r'
  · -- the break that ends the first text and the feed are one, so a blank line is missing
    obtain ⟨front, rfl⟩ := List.getLast?_eq_some_iff.mp ends
    have blank : (linesOf []).filter isMarked = [] := marked_nil
    rw [linesOf_append_return, List.append_assoc, List.singleton_append, linesOf_append_pair,
      List.filter_append, List.filter_append, blank, List.append_nil]
  · rw [linesOf_append_feed ends, List.filter_append]

theorem marked_append_return (before : Text) : marked (before ++ ['\r']) = marked before := by
  rw [marked, linesOf_append_return, List.filter_append]
  exact List.append_nil _

theorem marked_join {lines : List Text} : marked (join ['\n'] lines) = lines.flatMap marked := by
  induction lines with
  | nil => rfl
  | cons first rest ih =>
    cases rest with
    | nil => simp [join]
    | cons second more =>
      rw [join_cons_cons, List.append_assoc, List.singleton_append, marked_append_feed, ih,
        ← List.flatMap_cons]

theorem marked_join_blank {parts : List Text} :
    marked (join ['\n', '\n'] parts) = parts.flatMap marked := by
  induction parts with
  | nil => rfl
  | cons first rest ih =>
    cases rest with
    | nil => simp [join]
    | cons second more =>
      have blank : '\n' :: join ['\n', '\n'] (second :: more) =
          [] ++ '\n' :: join ['\n', '\n'] (second :: more) := rfl
      rw [join_cons_cons, List.append_assoc, List.cons_append, List.singleton_append,
        marked_append_feed, blank, marked_append_feed, ih, List.flatMap_cons]
      rfl

/-- Breaks at the end of a text begin blank lines only. -/
theorem marked_append_breaks {breaks : Text} (all : ∀ c ∈ breaks, isBreak c = true) :
    marked (text ++ breaks) = marked text := by
  induction breaks using List.reverseRecOn with
  | nil => rw [List.append_nil]
  | append_singleton breaks c ih =>
    have others := ih fun d member => all d (List.mem_append_left _ member)
    have isLast : c = '\r' ∨ c = '\n' := by simpa [isBreak] using all c (by simp)
    rw [← List.append_assoc]
    rcases isLast with rfl | rfl
    · rw [marked_append_return, others]
    · rw [marked_append_feed, others, marked_nil, List.append_nil]

theorem marked_dropFinalBreaks (text : Text) : marked (dropFinalBreaks text) = marked text := by
  obtain ⟨breaks, cut, all⟩ := exists_finalBreaks text
  calc marked (dropFinalBreaks text) = marked (dropFinalBreaks text ++ breaks) :=
        (marked_append_breaks all).symm
    _ = marked text := by rw [← cut]

theorem flatMap_marked_filled (texts : List Text) :
    (texts.filter fun text => !text.isEmpty).flatMap marked = texts.flatMap marked := by
  induction texts with
  | nil => rfl
  | cons first rest ih =>
    cases first with
    | nil => exact ih
    | cons c more => simp [List.flatMap_cons, ih]

theorem marked_assemble (bundle : Bundle) (options : RenderOptions) :
    marked (bundle.assemble options) = bundle.fragments.flatMap marked := by
  rw [assemble, marked, linesOf_normalizeBreaks]
  change marked (join _ _) = _
  rw [marked_join_blank, flatMap_marked_filled, List.flatMap_map]
  simp only [marked_dropFinalBreaks]

theorem marked_map_normalizeBreaks (bundle : Bundle) (style : LineBreaks) :
    (bundle.map (normalizeBreaks style)).fragments.flatMap marked =
      bundle.fragments.flatMap marked := by
  simp [map, fragments, marked, linesOf_normalizeBreaks]

/-! ## Texts behind a part of a line -/

theorem marked_append (filled : before ≠ []) (unbroken : Unbroken before) (text : Text) :
    marked (before ++ text) =
      (if isMarked before then [before ++ (linesOf text).headD []] else []) ++ markedBehind text := by
  obtain ⟨c, rest, rfl⟩ := List.exists_cons_of_ne_nil filled
  obtain ⟨first, more, cut⟩ := List.exists_cons_of_ne_nil (linesOf_ne_nil text)
  rw [marked, markedBehind, linesOf_append unbroken, cut, List.modifyHead_cons,
    List.filter_cons, List.tail_cons, List.headD_cons]
  have same : isMarked (c :: rest ++ first) = isMarked (c :: rest) := rfl
  rw [same]
  split <;> rfl

theorem isMarked_linesOf_head (text : Text) :
    isMarked ((linesOf text).headD []) = true ↔ ['#'] <+: text := by
  induction text using linesOf_induction with
  | nil => simp [linesOf, isMarked]
  | broken text rest broken =>
    rw [broken.linesOf_eq]
    cases broken <;> simp [isMarked, List.cons_prefix_cons]
  | other c rest other =>
    obtain ⟨first, more, cut⟩ := List.exists_cons_of_ne_nil (linesOf_ne_nil rest)
    simp [linesOf_cons other, cut, isMarked, List.cons_prefix_cons, eq_comm]

theorem unmarked_cons (c : Char) (rest : Text) :
    Unmarked (c :: rest) ↔ (isBreak c = true → ¬['#'] <+: rest) ∧ Unmarked rest := by
  simp only [Unmarked, List.infix_cons_iff, List.cons_prefix_cons, isBreak, Bool.or_eq_true,
    decide_eq_true_eq, @eq_comm _ '\n' c, @eq_comm _ '\r' c]
  tauto

theorem marked_eq_nil_iff (text : Text) :
    marked text = [] ↔ ¬['#'] <+: text ∧ markedBehind text = [] := by
  have first := isMarked_linesOf_head text
  obtain ⟨head, more, cut⟩ := List.exists_cons_of_ne_nil (linesOf_ne_nil text)
  rw [cut, List.headD_cons] at first
  rw [marked, markedBehind, cut, List.filter_cons, List.tail_cons, ← first]
  split <;> simp_all

theorem markedBehind_eq_nil_iff (text : Text) : markedBehind text = [] ↔ Unmarked text := by
  induction text using linesOf_induction with
  | nil => decide
  | broken text rest broken ih =>
    rw [markedBehind, broken.linesOf_eq, List.tail_cons]
    refine (marked_eq_nil_iff rest).trans ((and_congr_right fun _ => ih).trans ?_)
    cases broken <;> simp [unmarked_cons, isBreak, List.cons_prefix_cons]
  | other c rest other ih =>
    rw [markedBehind, linesOf_cons other, List.tail_modifyHead]
    exact Iff.trans ih (by simp [unmarked_cons, other])

/-! ## Tables -/

theorem isMarked_of_listed {α : Type} {columns : List Column} {texts : α → List Text}
    {entries : List α} (listed : Listed columns texts entries below) :
    ∀ line ∈ below, isMarked line = false := by
  intro line member
  simp [isMarked, listed.head? line member]

theorem isMarked_headingMark (level : Nat) (name : Text) :
    isMarked (headingMark level ++ name) = true := by
  rw [isMarked, head?_headingMark, decide_eq_true_eq]

/-- Below the heading of a section there are no others if its lines are none. -/
theorem marked_of_headed (headed : Headed ['\n'] heading below text)
    (isHeading : isMarked heading = true) (others : ∀ line ∈ below, isMarked line = false) :
    marked text = [heading] := by
  have none : below.filter isMarked = [] := by simpa [List.filter_eq_nil_iff] using others
  have read : linesOf text = heading :: [] :: below := by
    rw [headed.joined]
    exact @linesOf_join _ .lf (List.cons_ne_nil _ _) headed.unbroken_lines
  rw [marked, read, List.filter_cons_of_pos isHeading, List.filter_cons_of_neg (by decide), none]

theorem marked_of_tabulated {α : Type} {columns : List Column} {texts : α → List Text}
    {entries : List α} (tabulated : Tabulated ['\n'] heading sentence columns texts entries text)
    (isHeading : isMarked heading = true) (plain : isMarked sentence = false) :
    marked text = [heading] := by
  obtain ⟨below, headed, empty, filled⟩ := tabulated
  refine marked_of_headed headed isHeading ?_
  by_cases nothing : entries = []
  · rw [empty nothing]
    simpa using plain
  · exact isMarked_of_listed (filled nothing)

/-! ## Titles and bullets -/

theorem marked_title (level : Nat) (name : Text) :
    marked (headingMark level ++ ' ' :: name) =
      (headingMark level ++ ' ' :: (linesOf name).headD []) :: markedBehind name := by
  have filled : headingMark level ++ [' '] ≠ [] := by simp
  have flat : Unbroken (headingMark level ++ [' ']) :=
    (unbroken_headingMark level).append (by decide)
  have cut : headingMark level ++ ' ' :: name = (headingMark level ++ [' ']) ++ name := by simp
  rw [cut, marked_append filled flat, if_pos (isMarked_headingMark level _)]
  simp

theorem marked_bullet (bullet : Bullet) : marked bullet.line = markedBehind bullet.text := by
  have cut : bullet.line = (repeated (2 * bullet.depth) ' ' ++ ['-', ' ']) ++ bullet.text := by
    simp [Bullet.line]
  have flat : Unbroken (repeated (2 * bullet.depth) ' ' ++ ['-', ' ']) := by
    simp [Unbroken, repeated]
  have other : isMarked (repeated (2 * bullet.depth) ' ' ++ ['-', ' ']) = false := by
    cases bullet.depth <;> simp [isMarked, repeated, Nat.mul_add, List.replicate_succ]
  rw [cut, marked_append (by simp) flat, other]
  rfl

/-- The bullets of all events, in order. -/
def bulletsOf (document : Document) : List Bullet :=
  (events document.triggers).flatMap eventBullets

def secretHeading (document : Document) (options : RenderOptions) : List Text :=
  if document.secrets = [] then [] else [options.subHeading ++ " Secrets".toList]

theorem marked_bulletText (document : Document) (options : RenderOptions) :
    marked (bulletText document.triggers options) = (options.heading ++ " Triggers".toList) ::
      (bulletsOf document).flatMap fun bullet => markedBehind bullet.text := by
  have single : marked (options.heading ++ " Triggers".toList) =
      [options.heading ++ " Triggers".toList] := by
    rw [RenderOptions.heading, show " Triggers".toList = ' ' :: "Triggers".toList from rfl,
      marked_title]
    rfl
  rw [bulletText, marked_join, List.flatMap_cons, List.flatMap_cons, single, marked_nil,
    List.flatMap_map]
  simp only [marked_bullet, List.nil_append, List.singleton_append]
  rfl

theorem marked_of_no_events (found : events document.triggers = []) :
    marked (Section.triggers document.triggers document.secrets options) =
      [options.heading ++ " Triggers".toList] := by
  have name : " Triggers\n\n".toList = " Triggers".toList ++ ['\n', '\n'] := by decide
  have headed := headed_of_join options.tocLevel (show Unbroken " Triggers".toList by decide)
    (List.cons_ne_nil noTriggers []) (by decide)
  rw [join, List.intercalate_singleton] at headed
  rw [Section.triggers, found, name]
  exact marked_of_headed headed (isMarked_headingMark _ _) (by decide)

theorem marked_triggers (document : Document) (options : RenderOptions)
    (shown : document.secrets ≠ [] → events document.triggers ≠ []) :
    marked (Section.triggers document.triggers document.secrets options) =
      (options.heading ++ " Triggers".toList) ::
        ((bulletsOf document).flatMap fun bullet => markedBehind bullet.text) ++
        secretHeading document options := by
  by_cases found : events document.triggers = []
  · have noSecrets : document.secrets = [] := not_not.mp fun some => shown some found
    rw [marked_of_no_events found, bulletsOf, found, secretHeading, if_pos noSecrets]
    rfl
  · obtain ⟨none, some⟩ := secrets_of_triggers found document.secrets options
    by_cases noSecrets : document.secrets = []
    · rw [none noSecrets, secretHeading, if_pos noSecrets, List.append_nil]
      exact marked_bulletText document options
    · obtain ⟨below, last, whole, headed, listed⟩ := some noSecrets
      have marks := marked_of_headed headed (isMarked_headingMark _ _) (isMarked_of_listed listed)
      -- two feeds end the bullets, so a blank line stands above the table
      have apart : id (bulletText document.triggers options ++ ['\n']) ++ ['\n'] ++ last =
          bulletText document.triggers options ++ '\n' :: ([] ++ '\n' :: last) := by simp
      rw [whole, apart, marked_append_feed, marked_append_feed, marked_nil, marks,
        marked_bulletText, secretHeading, if_neg noSecrets]
      rfl

/-! ## The whole document -/

/-- The title's line, if the workflow has a name. A title goes up to the first break. -/
def titles (document : Document) (options : RenderOptions) : List Text :=
  (nonBlank? document.name).toList.map fun name =>
    options.titleHeading ++ ' ' :: (linesOf name).headD []

/-- The title and the headings of the sections and of the secrets, in the order of the document. -/
def headings (document : Document) (options : RenderOptions) : List Text :=
  titles document options ++
    [options.heading ++ " Inputs".toList, options.heading ++ " Outputs".toList,
      options.heading ++ " Triggers".toList] ++ secretHeading document options

/-- The texts that stand in a document with the breaks they have. -/
def shownTexts (document : Document) : List Text :=
  (nonBlank? document.name).toList ++ (bulletsOf document).map (·.text)

theorem marked_description (document : Document) (options : RenderOptions)
    (undescribed : document.description = none) :
    marked (Section.description document.name document.description options) =
      titles document options ++ (nonBlank? document.name).toList.flatMap markedBehind := by
  have noBody : nonBlank? (none : Option Text) = none := rfl
  rw [Section.description, undescribed, noBody, titles]
  cases nonBlank? document.name with
  | none => rfl
  | some name => simp [RenderOptions.titleHeading, marked_title]

theorem exists_ofValue (parsed : Document.parse source = .ok document) :
    ∃ root, document = .ofValue root source := by
  unfold Document.parse at parsed
  split at parsed
  · cases parsed
    exact ⟨_, rfl⟩
  · cases read : Yaml.parse source with
    | error problem => rw [read] at parsed; cases parsed
    | ok root => rw [read] at parsed; cases parsed; exact ⟨root, rfl⟩

/-- All headings of a document: its own, and between them those behind the breaks of its texts. -/
theorem marked_ofDocument (parsed : Document.parse source = .ok document)
    (undescribed : document.description = none) (options : RenderOptions) :
    marked ((ofDocument document options).assemble options) =
      titles document options ++ (nonBlank? document.name).toList.flatMap markedBehind ++
      [options.heading ++ " Inputs".toList, options.heading ++ " Outputs".toList,
        options.heading ++ " Triggers".toList] ++
      ((bulletsOf document).map (·.text)).flatMap markedBehind ++ secretHeading document options := by
  have shown : document.secrets ≠ [] → events document.triggers ≠ [] := by
    obtain ⟨root, rfl⟩ := exists_ofValue parsed
    exact events_ne_nil_of_secrets
  have title := marked_description document options undescribed
  have inputs := marked_of_tabulated (tabulated_inputs document.inputs options)
    (isMarked_headingMark _ _) (by decide)
  have outputs := marked_of_tabulated (tabulated_outputs document.outputs options)
    (isMarked_headingMark _ _) (by decide)
  rw [marked_assemble, ofDocument_eq_map, marked_map_normalizeBreaks]
  simp [fragments, rendered, title, inputs, outputs, marked_triggers document options shown,
    List.flatMap_map]

/-- The headings of a document without a description are its title and those of its sections and
secrets exactly if behind no break in a text stands the mark of another. -/
theorem headings_iff {source : Text} {document : Document}
    (parsed : Document.parse source = .ok document) (undescribed : document.description = none)
    (options : RenderOptions) :
    marked ((ofDocument document options).assemble options) = headings document options ↔
      ∀ text ∈ shownTexts document, Unmarked text := by
  have behind : (∀ text ∈ shownTexts document, Unmarked text) ↔
      (nonBlank? document.name).toList.flatMap markedBehind = [] ∧
        ((bulletsOf document).map (·.text)).flatMap markedBehind = [] := by
    simp only [shownTexts, List.forall_mem_append, List.flatMap_eq_nil_iff, markedBehind_eq_nil_iff]
  rw [behind, marked_ofDocument parsed undescribed, headings]
  constructor
  · -- the others stand between the headings, so there are none if the number is the same
    intro same
    have lengths := congrArg List.length same
    simp only [List.length_append] at lengths
    exact ⟨List.eq_nil_of_length_eq_zero (by omega), List.eq_nil_of_length_eq_zero (by omega)⟩
  · rintro ⟨inTitle, inBullets⟩
    rw [inTitle, inBullets, List.append_nil, List.append_nil]

/-- A workflow with the mark in its name and in a filter. -/
def markedSource : Text :=
  "name: 'Release #1'\non:\n  push:\n    branches: ['#next']\n".toList

theorem headings_iff_markedSource : ∃ document, Document.parse markedSource = .ok document ∧
    document.description = none ∧
    marked ((ofDocument document {}).assemble {}) = headings document {} := by
  have checked : (match Document.parse markedSource with
      | .ok document => decide (document.description = none) &&
          decide (∀ text ∈ shownTexts document, Unmarked text)
      | .error _ => false) = true := by
    decide +kernel
  cases parsed : Document.parse markedSource with
  | error failure => rw [parsed] at checked; cases checked
  | ok document =>
    rw [parsed] at checked
    obtain ⟨undescribed, unmarked⟩ := (Bool.and_eq_true_iff.mp checked).imp of_decide_eq_true
      of_decide_eq_true
    exact ⟨document, rfl, undescribed, (headings_iff parsed undescribed {}).mpr unmarked⟩

/-- A workflow whose name goes on behind a break. -/
def forgedSource : Text := "name: \"a\\n# b\"\n".toList

/-- Its second line is a heading of no section. -/
theorem headings_unsound : ¬∀ source document options, Document.parse source = .ok document →
    document.description = none →
      marked ((ofDocument document options).assemble options) = headings document options := by
  intro claimed
  have checked : (match Document.parse forgedSource with
      | .ok document => decide (document.description = none) &&
          decide (marked ((ofDocument document {}).assemble {}) ≠ headings document {})
      | .error _ => false) = true := by
    decide +kernel
  cases parsed : Document.parse forgedSource with
  | error failure => rw [parsed] at checked; cases checked
  | ok document =>
    rw [parsed] at checked
    obtain ⟨undescribed, forged⟩ := (Bool.and_eq_true_iff.mp checked).imp of_decide_eq_true
      of_decide_eq_true
    exact forged (claimed _ _ _ parsed undescribed)

end WorkflowDocs.Bundle
