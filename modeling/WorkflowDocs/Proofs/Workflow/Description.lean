import WorkflowDocs.Proofs.Text.SourceLines
import WorkflowDocs.Proofs.Workflow.Sections

/-!
# Where the description of a document comes from

A description stands at the top of the file, or in a block of comments below a mark.

Results:
1. `block_iff`: the block is what stands between the first mark and the end of its comments.
2. `commentDescription?_eq_some_iff`: what the comments say, by the lines of their block.
3. `describes_ofValue`: where the description comes from, for every root value and source.
-/

namespace WorkflowDocs.Workflow

open Text
open Yaml (Value)

variable {source other text line words : Text} {block : List Text} {root : Value}

/-! ## Comments -/

/-- The lines directly below the first one that begins with the mark, up to the first that begins
with no `#`. -/
def Block (source : Text) (block : List Text) : Prop :=
  ∃ before marked after, source.lines = before ++ marked :: (block ++ after) ∧
    (∀ line ∈ before, ¬descriptionMark <+: line) ∧ descriptionMark <+: marked ∧
    (∀ line ∈ block, ['#'] <+: line) ∧ ∀ line, after.head? = some line → ¬['#'] <+: line

/-- The words of a comment: the line without the `#` signs at its start and the blanks around what
follows them. -/
def Worded (line words : Text) : Prop :=
  ∃ signs rest, line = repeated signs '#' ++ rest ∧ ¬['#'] <+: rest ∧ Trimmed rest words

/-- What the comments below the mark say, unless that is nothing. -/
def Commented (source text : Text) : Prop :=
  ∃ block words, Block source block ∧ List.Forall₂ Worded block words ∧
    Trimmed (join ['\n'] words) text ∧ text ≠ []

/-- What a scalar at the top says, unless it is blank. -/
def Stated (root : Value) (text : Text) : Prop :=
  ∃ part, Under root (.text "description".toList) part ∧ part.scalarText? = some text ∧
    text.blank = false

/-! ## The block -/

/-- A list is cut at the first item for which `p` fails. -/
theorem dropWhile_eq_cons_iff {α : Type} {p : α → Bool} {items more : List α} {item : α} :
    items.dropWhile p = item :: more ↔
      ∃ before, items = before ++ item :: more ∧ (∀ i ∈ before, p i = true) ∧ p item = false := by
  constructor
  · intro cut
    have stop := List.head?_dropWhile_not p items
    rw [cut] at stop
    refine ⟨items.takeWhile p, ?_, fun _ => List.mem_takeWhile_imp, stop⟩
    rw [← cut, List.takeWhile_append_dropWhile]
  · rintro ⟨before, rfl, passed, stop⟩
    rw [List.dropWhile_append_of_pos passed, List.dropWhile_cons_of_neg (by simp [stop])]

theorem takeWhile_eq_iff {α : Type} {p : α → Bool} {items first : List α} :
    items.takeWhile p = first ↔ ∃ after, items = first ++ after ∧ (∀ i ∈ first, p i = true) ∧
      ∀ i, after.head? = some i → p i = false := by
  constructor
  · rintro rfl
    refine ⟨items.dropWhile p, List.takeWhile_append_dropWhile.symm, fun _ => List.mem_takeWhile_imp,
      fun i here => ?_⟩
    have stop := List.head?_dropWhile_not p items
    rwa [here] at stop
  · rintro ⟨after, rfl, passed, stop⟩
    rw [List.takeWhile_append_of_pos passed]
    cases after with
    | nil => simp
    | cons i more => rw [List.takeWhile_cons_of_neg (by simp [stop i rfl]), List.append_nil]

theorem head?_eq_hash_iff : line.head? = some '#' ↔ ['#'] <+: line := by
  cases line with
  | nil => simp
  | cons c rest => simp [List.cons_prefix_cons, eq_comm]

theorem unmarked_iff :
    (!descriptionMark.isPrefixOf line) = true ↔ ¬descriptionMark <+: line := by
  rw [Bool.not_eq_true', Bool.eq_false_iff, ne_eq, List.isPrefixOf_iff_prefix]

/-- The lines of the block, if there is one. -/
def block? (source : Text) : Option (List Text) :=
  match source.lines.dropWhile fun line => !descriptionMark.isPrefixOf line with
  | [] => none
  | _ :: following => some (following.takeWhile fun line => line.head? = some '#')

theorem block_iff : Block source block ↔ block? source = some block := by
  unfold Block block?
  constructor
  · rintro ⟨before, marked, after, whole, earlier, mark, comments, stop⟩
    have cut : source.lines.dropWhile (fun line => !descriptionMark.isPrefixOf line) =
        marked :: (block ++ after) := by
      refine dropWhile_eq_cons_iff.mpr ⟨before, whole, fun line member => ?_, ?_⟩
      · exact unmarked_iff.mpr (earlier line member)
      · simpa using mark
    rw [cut]
    refine congrArg some (takeWhile_eq_iff.mpr ⟨after, rfl, fun line member => ?_, ?_⟩)
    · simpa [head?_eq_hash_iff] using comments line member
    · intro line here
      simpa [head?_eq_hash_iff] using stop line here
  · intro found
    cases cut : source.lines.dropWhile (fun line => !descriptionMark.isPrefixOf line) with
    | nil => rw [cut] at found; cases found
    | cons marked following =>
      rw [cut] at found
      obtain ⟨before, whole, earlier, mark⟩ := dropWhile_eq_cons_iff.mp cut
      obtain ⟨after, rfl, comments, stop⟩ := takeWhile_eq_iff.mp (Option.some.inj found)
      refine ⟨before, marked, after, whole, fun line member => ?_, ?_, fun line member => ?_, ?_⟩
      · exact unmarked_iff.mp (earlier line member)
      · simpa using mark
      · simpa [head?_eq_hash_iff] using comments line member
      · intro line here
        simpa [head?_eq_hash_iff] using stop line here

/-! ## What the comments say -/

/-- The words of a comment, as they are taken from it. -/
def wordsOf (line : Text) : Text := Text.trim (line.dropWhile (· = '#'))

theorem worded_iff : Worded line words ↔ wordsOf line = words := by
  constructor
  · rintro ⟨signs, rest, rfl, noSign, trimmed⟩
    have start : (repeated signs '#' ++ rest).dropWhile (· = '#') = rest := by
      rw [List.dropWhile_append_of_pos (by simp [repeated])]
      cases rest with
      | nil => rfl
      | cons c more =>
        have other : c ≠ '#' := fun sign => noSign (by simp [sign, List.cons_prefix_cons])
        exact List.dropWhile_cons_of_neg (by simpa using other)
    rw [wordsOf, start, trimmed_iff.mp trimmed]
  · rintro rfl
    refine ⟨(line.takeWhile (· = '#')).length, line.dropWhile (· = '#'), ?_, ?_, trimmed_trim _⟩
    · have signs : line.takeWhile (· = '#') = repeated (line.takeWhile (· = '#')).length '#' :=
        List.eq_replicate_of_mem fun c member => by simpa using List.mem_takeWhile_imp member
      rw [← signs, List.takeWhile_append_dropWhile]
    · rw [← head?_eq_hash_iff]
      intro here
      have stop := List.head?_dropWhile_not (· = '#') line
      rw [here] at stop
      simp at stop

theorem forall₂_worded_iff {lines : List Text} :
    List.Forall₂ Worded block lines ↔ block.map wordsOf = lines := by
  have same : Worded = fun line words => wordsOf line = words := by
    funext line words
    exact propext worded_iff
  rw [same, ← List.forall₂_map_left_iff, List.forall₂_eq_eq_eq]

theorem commentDescription?_eq (source : Text) : commentDescription? source =
    (block? source).bind fun block =>
      if (Text.trim (join ['\n'] (block.map wordsOf))).isEmpty then none
      else some (Text.trim (join ['\n'] (block.map wordsOf))) := by
  unfold commentDescription? block?
  cases source.lines.dropWhile fun line => !descriptionMark.isPrefixOf line <;> rfl

theorem commentDescription?_eq_some_iff :
    commentDescription? source = some text ↔ Commented source text := by
  rw [commentDescription?_eq, Option.bind_eq_some_iff]
  unfold Commented
  refine exists_congr fun block => ?_
  simp only [forall₂_worded_iff, block_iff, trimmed_iff]
  constructor
  · rintro ⟨found, said⟩
    split at said
    next => cases said
    next filled =>
      obtain rfl := Option.some.inj said
      exact ⟨_, found, rfl, rfl, by simpa using filled⟩
  · rintro ⟨_, found, rfl, rfl, filled⟩
    exact ⟨found, if_neg (by simpa using filled)⟩

example : commentDescription?
    "on: push\r\n# <!-- description --> v2\r\n#\r\n## Deploys \r\n#\t#1.\r\nname: x".toList =
      some "Deploys\n#1.".toList := by decide

theorem bare_of_commented (commented : Commented source text) :
    text.blank = false ∧ ∀ line ∈ text.lines, Bare line := by
  obtain ⟨block, words, ⟨before, marked, after, whole, _⟩, worded, trimmed, filled⟩ := commented
  obtain rfl := forall₂_worded_iff.mp worded
  obtain rfl := trimmed_iff.mp trimmed
  have bare : ∀ words ∈ block.map wordsOf, Bare words := by
    intro words member
    obtain ⟨line, _, rfl⟩ := List.mem_map.mp member
    exact (trimmed_trim _).bare
  have noFeed : ∀ words ∈ block.map wordsOf, '\n' ∉ words := by
    intro words member feed
    obtain ⟨line, inBlock, rfl⟩ := List.mem_map.mp member
    have inSource : line ∈ source.lines := by rw [whole]; simp [inBlock]
    refine not_mem_of_mem_lines inSource ?_
    exact (List.dropWhile_suffix _).mem ((isInfix_trim _).mem feed)
  exact ⟨(trimmed_trim _).bare.not_blank filled, fun line => bare_of_mem_lines bare noFeed⟩

theorem commentDescription?_of_block (here : Block source block) (there : Block other block) :
    commentDescription? other = commentDescription? source := by
  rw [commentDescription?_eq, commentDescription?_eq, block_iff.mp here, block_iff.mp there]

theorem commentDescription?_crlf (noReturn : '\r' ∉ source) :
    commentDescription? (replaceChar '\n' ['\r', '\n'] source) = commentDescription? source := by
  rw [commentDescription?, commentDescription?, lines_crlf noReturn]

/-! ## The description -/

/-- The description of a document, for its root value and the source that was read from. -/
structure Describes (root : Value) (source : Text) : Prop where
  stated : ∀ text, Stated root text → (Document.ofValue root source).description = some text
  commented : (∀ text, ¬Stated root text) → ∀ text,
    (Document.ofValue root source).description = some text ↔ Commented source text
  unmarked : (∀ text, ¬Stated root text) → (∀ line ∈ source.lines, ¬descriptionMark <+: line) →
    (Document.ofValue root source).description = none
  /-- No line of what the comments say has blanks around it. -/
  tidy : ∀ text, Commented source text → text.blank = false ∧ ∀ line ∈ text.lines, Bare line
  /-- Of the source only the lines of the block matter. -/
  confined : ∀ other block, Block source block → Block other block →
    (Document.ofValue root other).description = (Document.ofValue root source).description
  paired : '\r' ∉ source →
    (Document.ofValue root (replaceChar '\n' ['\r', '\n'] source)).description =
      (Document.ofValue root source).description

theorem description_ofValue (root : Value) (source : Text) :
    (Document.ofValue root source).description =
      ((textAt? root "description".toList).filter fun text => !text.blank).or
        (commentDescription? source) :=
  Option.orElse_eq_or

theorem stated_iff : ((textAt? root "description".toList).filter fun text => !text.blank) = some text ↔
    Stated root text := by
  rw [Option.filter_eq_some_iff, textAt?, Option.bind_eq_some_iff]
  simp only [get?_eq_some_iff, Bool.not_eq_true']
  unfold Stated
  constructor
  · rintro ⟨⟨part, under, scalar⟩, filled⟩
    exact ⟨part, under, scalar, filled⟩
  · rintro ⟨part, under, scalar, filled⟩
    exact ⟨⟨part, under, scalar⟩, filled⟩

theorem describes_ofValue (root : Value) (source : Text) : Describes root source := by
  have unstated : (∀ text, ¬Stated root text) → ∀ source,
      (Document.ofValue root source).description = commentDescription? source := by
    intro unstated source
    rw [description_ofValue, Option.eq_none_iff_forall_ne_some.mpr fun text found =>
      unstated text (stated_iff.mp found), Option.none_or]
  refine ⟨?stated, ?commented, ?unmarked, fun text => bare_of_commented, ?confined, ?paired⟩
  case stated =>
    intro text stated
    rw [description_ofValue, stated_iff.mpr stated, Option.some_or]
  case commented =>
    intro nothing text
    rw [unstated nothing]
    exact commentDescription?_eq_some_iff
  case unmarked =>
    intro nothing unmarked
    rw [unstated nothing, Option.eq_none_iff_forall_ne_some]
    intro text found
    obtain ⟨block, _, ⟨before, marked, after, whole, _, mark, _⟩, _⟩ :=
      commentDescription?_eq_some_iff.mp found
    exact unmarked marked (by rw [whole]; simp) mark
  case confined =>
    intro other block here there
    rw [description_ofValue, description_ofValue, commentDescription?_of_block here there]
  case paired =>
    intro noReturn
    rw [description_ofValue, description_ofValue, commentDescription?_crlf noReturn]

end WorkflowDocs.Workflow
