import Mathlib.Data.List.DropRight
import WorkflowDocs.Proofs.Text.LineBreak

/-!
# The lines of a text

A text is its lines with breaks between them. Which breaks these are decides the style, and nothing
else about a text depends on it.

Results:
1. `normalizeBreaks_eq_join`: rewriting the breaks of a text joins its lines anew.
2. `linesOf_normalizeBreaks`, `normalizeBreaks_normalizeBreaks`: the lines stay, so only the last of
   several styles counts.
3. `linesOf_append_feed`: the lines of two texts with a break between them.
4. `dropFinalBreaks_normalizeBreaks`: the breaks at the end can be dropped before or after.
-/

namespace WorkflowDocs.Text

variable {text before after line rest : Text} {lines parts : List Text} {style : LineBreaks}

/-- What stands between the breaks of a text. -/
def linesOf : Text → List Text
  | [] => [[]]
  | '\r' :: '\n' :: rest => [] :: linesOf rest
  | '\r' :: rest => [] :: linesOf rest
  | '\n' :: rest => [] :: linesOf rest
  | c :: rest => (linesOf rest).modifyHead (c :: ·)

example : linesOf "a\r\r\n\n\rb".toList = ["a".toList, [], [], [], "b".toList] := by decide

/-! ## Lines and breaks -/

theorem join_cons_cons (separator first second : Text) (more : List Text) :
    join separator (first :: second :: more) =
      first ++ separator ++ join separator (second :: more) := by
  rw [join, List.intercalate_cons_cons, List.append_assoc, join, List.append_assoc]

theorem join_cons (separator first : Text) (filled : lines ≠ []) :
    join separator (first :: lines) = first ++ separator ++ join separator lines := by
  obtain ⟨second, more, rfl⟩ := List.exists_cons_of_ne_nil filled
  exact join_cons_cons separator first second more

theorem join_append (separator : Text) {first second : List Text} (filled : first ≠ [])
    (filled' : second ≠ []) :
    join separator (first ++ second) = join separator first ++ separator ++ join separator second := by
  induction first with
  | nil => exact absurd rfl filled
  | cons line more ih =>
    cases more with
    | nil =>
      rw [List.singleton_append, join_cons separator line filled', join, join,
        List.intercalate_singleton]
    | cons next rest =>
      rw [List.cons_append, List.cons_append, join_cons_cons, ← List.cons_append,
        ih (List.cons_ne_nil next rest), join_cons_cons]
      simp only [List.append_assoc]

def isBreak (c : Char) : Bool := c = '\r' || c = '\n'

/-- The text begins with a break, and this is the rest of it. -/
inductive Broken : Text → Text → Prop
  | pair (rest : Text) : Broken ('\r' :: '\n' :: rest) rest
  | single {rest : Text} : rest.head? ≠ some '\n' → Broken ('\r' :: rest) rest
  | feed (rest : Text) : Broken ('\n' :: rest) rest

theorem isBreak_eq_false_iff {c : Char} : isBreak c = false ↔ c ≠ '\r' ∧ c ≠ '\n' := by
  simp [isBreak]

theorem Broken.linesOf_eq (broken : Broken text rest) : linesOf text = [] :: linesOf rest := by
  cases broken with
  | pair | feed => rw [linesOf]
  | single single => exact linesOf.eq_3 rest fun more isFeed => single (by rw [isFeed]; rfl)

theorem linesOf_cons {c : Char} (other : isBreak c = false) (rest : Text) :
    linesOf (c :: rest) = (linesOf rest).modifyHead (c :: ·) := by
  obtain ⟨ret, feed⟩ := isBreak_eq_false_iff.mp other
  exact linesOf.eq_5 c rest (fun _ isReturn => absurd isReturn ret) ret feed

/-- What holds of all texts can be shown one break or one other character at a time. -/
@[elab_as_elim]
theorem linesOf_induction {motive : Text → Prop} (text : Text) (nil : motive [])
    (broken : ∀ text rest, Broken text rest → motive rest → motive text)
    (other : ∀ c rest, isBreak c = false → motive rest → motive (c :: rest)) : motive text := by
  induction text using linesOf.induct with
  | case1 => exact nil
  | case2 rest ih => exact broken _ rest (.pair rest) ih
  | case3 rest single ih =>
    refine broken _ rest (.single fun feed => ?_) ih
    obtain ⟨more, isFeed⟩ := List.head?_eq_some_iff.mp feed
    exact single more isFeed
  | case4 rest ih => exact broken _ rest (.feed rest) ih
  | case5 c rest _ ret feed ih => exact other c rest (isBreak_eq_false_iff.mpr ⟨ret, feed⟩) ih

theorem linesOf_ne_nil (text : Text) : linesOf text ≠ [] := by
  induction text using linesOf_induction with
  | nil => exact List.cons_ne_nil [] []
  | broken text rest broken => simp [broken.linesOf_eq]
  | other c rest other ih => simpa [linesOf_cons other] using ih

theorem unbroken_cons {c : Char} : Unbroken (c :: line) ↔ isBreak c = false ∧ Unbroken line := by
  simp only [Unbroken, List.mem_cons, not_or, isBreak_eq_false_iff, ne_eq, @eq_comm _ c]
  tauto

theorem unbroken_of_mem_linesOf (member : line ∈ linesOf text) : Unbroken line := by
  induction text using linesOf_induction generalizing line with
  | nil =>
    obtain rfl := List.mem_singleton.mp member
    decide
  | broken text rest broken ih =>
    rw [broken.linesOf_eq] at member
    rcases List.mem_cons.mp member with rfl | member
    · decide
    · exact ih member
  | other c rest other ih =>
    obtain ⟨first, more, cut⟩ := List.exists_cons_of_ne_nil (linesOf_ne_nil rest)
    rw [linesOf_cons other, cut, List.modifyHead_cons] at member
    rw [cut] at ih
    rcases List.mem_cons.mp member with rfl | member
    · exact unbroken_cons.mpr ⟨other, ih List.mem_cons_self⟩
    · exact ih (List.mem_cons_of_mem first member)

theorem isPrefix_of_linesOf (cut : linesOf text = line :: lines) : line <+: text := by
  induction text using linesOf_induction generalizing line lines with
  | nil => simp_all [linesOf]
  | broken text rest broken =>
    rw [broken.linesOf_eq] at cut
    obtain ⟨rfl, -⟩ := List.cons.inj cut
    exact List.nil_prefix
  | other c rest other ih =>
    obtain ⟨first, more, cut'⟩ := List.exists_cons_of_ne_nil (linesOf_ne_nil rest)
    rw [linesOf_cons other, cut', List.modifyHead_cons] at cut
    obtain ⟨rfl, -⟩ := List.cons.inj cut
    exact List.cons_prefix_cons.mpr ⟨rfl, ih cut'⟩

/-- Every line is a part of the text as it stands there. -/
theorem isInfix_of_mem_linesOf (member : line ∈ linesOf text) : line <:+: text := by
  induction text using linesOf_induction generalizing line with
  | nil => simp_all [linesOf]
  | broken text rest broken ih =>
    have behind : rest <:+ text := by cases broken <;> simp [List.suffix_cons_iff]
    rw [broken.linesOf_eq] at member
    rcases List.mem_cons.mp member with rfl | member
    · exact List.nil_infix
    · exact (ih member).trans behind.isInfix
  | other c rest other ih =>
    obtain ⟨first, more, cut⟩ := List.exists_cons_of_ne_nil (linesOf_ne_nil rest)
    have whole : linesOf (c :: rest) = (c :: first) :: more := by
      rw [linesOf_cons other, cut, List.modifyHead_cons]
    rw [whole] at member
    rcases List.mem_cons.mp member with rfl | member
    · exact (isPrefix_of_linesOf whole).isInfix
    · exact (ih (cut ▸ List.mem_cons_of_mem first member)).trans (List.suffix_cons c rest).isInfix

theorem Broken.unifyBreaks_eq (broken : Broken text rest) :
    unifyBreaks text = '\n' :: unifyBreaks rest := by
  cases broken with
  | pair | feed => rfl
  | single single =>
    have notPair : ∀ more, '\r' = '\r' → rest = '\n' :: more → False :=
      fun more _ isFeed => single (by rw [isFeed]; rfl)
    rw [unifyBreaks, foldPairs.eq_3 '\r' rest notPair]
    rfl

theorem unifyBreaks_cons {c : Char} (other : isBreak c = false) (rest : Text) :
    unifyBreaks (c :: rest) = c :: unifyBreaks rest := by
  have ret := (isBreak_eq_false_iff.mp other).1
  rw [unifyBreaks, foldPairs.eq_3 c rest fun _ isReturn => absurd isReturn ret]
  simp [replaceChar, unifyBreaks, ret]

/-- A character in front of the first line stands in front of what is joined. -/
theorem join_modifyHead_cons (c : Char) (separator : Text) (filled : lines ≠ []) :
    join separator (lines.modifyHead (c :: ·)) = c :: join separator lines := by
  obtain ⟨first, more, rfl⟩ := List.exists_cons_of_ne_nil filled
  rw [List.modifyHead_cons]
  cases more with
  | nil => rfl
  | cons second others =>
    rw [join_cons_cons, join_cons_cons]
    rfl

theorem unifyBreaks_eq_join (text : Text) : unifyBreaks text = join ['\n'] (linesOf text) := by
  induction text using linesOf_induction with
  | nil => rfl
  | broken text rest broken ih =>
    rw [broken.linesOf_eq, join_cons _ _ (linesOf_ne_nil rest), ← ih, broken.unifyBreaks_eq]
    rfl
  | other c rest other ih =>
    rw [unifyBreaks_cons other, ih, linesOf_cons other,
      join_modifyHead_cons c _ (linesOf_ne_nil rest)]

theorem normalizeBreaks_eq_join (style : LineBreaks) (text : Text) :
    normalizeBreaks style text = join style.terminator (linesOf text) := by
  have unbroken : ∀ line ∈ linesOf text, Unbroken line := fun _ => unbroken_of_mem_linesOf
  cases style with
  | lf => exact unifyBreaks_eq_join text
  | crlf =>
    rw [normalizeBreaks, unifyBreaks_eq_join]
    exact replaceChar_join fun line member => (unbroken line member).1

/-- A text behind a part of a line goes on in this line. -/
theorem linesOf_append (unbroken : Unbroken line) (text : Text) :
    linesOf (line ++ text) = (linesOf text).modifyHead (line ++ ·) := by
  induction line with
  | nil => exact (congrFun List.modifyHead_id (linesOf text)).symm
  | cons c rest ih =>
    obtain ⟨other, unbroken⟩ := unbroken_cons.mp unbroken
    rw [List.cons_append, linesOf_cons other, ih unbroken, List.modifyHead_modifyHead]
    rfl

theorem linesOf_of_unbroken (unbroken : Unbroken line) : linesOf line = [line] := by
  have whole := linesOf_append unbroken []
  rw [List.append_nil] at whole
  rw [whole, linesOf, List.modifyHead_cons, List.append_nil]

/-- Behind a terminator the next line begins, whatever it begins with. -/
theorem linesOf_append_terminator (unbroken : Unbroken line) (rest : Text) :
    linesOf (line ++ (style.terminator ++ rest)) = line :: linesOf rest := by
  have broken : Broken (style.terminator ++ rest) rest := by
    cases style with
    | lf => exact .feed rest
    | crlf => exact .pair rest
  rw [linesOf_append unbroken, broken.linesOf_eq, List.modifyHead_cons, List.append_nil]

/-- Lines that hold no break are read back from the text they are joined to. -/
theorem linesOf_join (filled : lines ≠ []) (unbroken : ∀ line ∈ lines, Unbroken line) :
    linesOf (join style.terminator lines) = lines := by
  induction lines with
  | nil => exact absurd rfl filled
  | cons line more ih =>
    rw [List.forall_mem_cons] at unbroken
    cases more with
    | nil =>
      rw [join, List.intercalate_singleton]
      exact linesOf_of_unbroken unbroken.1
    | cons next rest =>
      rw [join_cons_cons, List.append_assoc, linesOf_append_terminator unbroken.1,
        ih (List.cons_ne_nil next rest) unbroken.2]

theorem linesOf_normalizeBreaks (style : LineBreaks) (text : Text) :
    linesOf (normalizeBreaks style text) = linesOf text := by
  rw [normalizeBreaks_eq_join]
  exact linesOf_join (linesOf_ne_nil text) fun line => unbroken_of_mem_linesOf

theorem normalizeBreaks_normalizeBreaks (style earlier : LineBreaks) (text : Text) :
    normalizeBreaks style (normalizeBreaks earlier text) = normalizeBreaks style text := by
  rw [normalizeBreaks_eq_join, linesOf_normalizeBreaks, ← normalizeBreaks_eq_join]

/-! ## Texts in a row -/

theorem linesOf_of_unifyBreaks
    (cut : unifyBreaks text = unifyBreaks before ++ '\n' :: unifyBreaks after) :
    linesOf text = linesOf before ++ linesOf after := by
  have unbroken : ∀ line ∈ linesOf before ++ linesOf after, Unbroken line := by
    intro line member
    rcases List.mem_append.mp member with member | member
    · exact unbroken_of_mem_linesOf member
    · exact unbroken_of_mem_linesOf member
  have joined : normalizeBreaks .lf text =
      join LineBreaks.lf.terminator (linesOf before ++ linesOf after) := by
    rw [join_append _ (linesOf_ne_nil before) (linesOf_ne_nil after), normalizeBreaks, cut,
      unifyBreaks_eq_join, unifyBreaks_eq_join, List.append_assoc]
    rfl
  rw [← linesOf_normalizeBreaks .lf, joined]
  exact linesOf_join (by simp [linesOf_ne_nil]) unbroken

theorem linesOf_append_feed (ends : before.getLast? ≠ some '\r') (after : Text) :
    linesOf (before ++ '\n' :: after) = linesOf before ++ linesOf after := by
  refine linesOf_of_unifyBreaks ?_
  rw [unifyBreaks_append fun ret => absurd ret ends]
  rfl

theorem linesOf_append_pair (before after : Text) :
    linesOf (before ++ '\r' :: '\n' :: after) = linesOf before ++ linesOf after := by
  refine linesOf_of_unifyBreaks ?_
  rw [unifyBreaks_append fun _ => by simp]
  rfl

theorem linesOf_append_return (before : Text) :
    linesOf (before ++ ['\r']) = linesOf before ++ linesOf [] := by
  refine linesOf_of_unifyBreaks ?_
  rw [unifyBreaks_append fun _ => by decide]
  rfl

/-- Behind a feed every line begins anew, also if the feed is half of a break. -/
theorem mem_linesOf_append_feed (before : Text) (member : line ∈ linesOf after) :
    line ∈ linesOf (before ++ '\n' :: after) := by
  by_cases ends : before.getLast? = some '\r'
  · obtain ⟨front, rfl⟩ := List.getLast?_eq_some_iff.mp ends
    rw [List.append_assoc, List.singleton_append, linesOf_append_pair]
    exact List.mem_append_right _ member
  · rw [linesOf_append_feed ends]
    exact List.mem_append_right _ member

/-- A line among texts that may hold breaks themselves. -/
theorem mem_linesOf_join (unbroken : Unbroken line) (member : line ∈ parts) :
    line ∈ linesOf (join ['\n'] parts) := by
  induction parts with
  | nil => cases member
  | cons part more ih =>
    by_cases last : more = []
    · subst last
      obtain rfl := List.mem_singleton.mp member
      rw [join, List.intercalate_singleton, linesOf_of_unbroken unbroken]
      exact member
    · rw [join_cons _ _ last, List.append_assoc]
      rcases List.mem_cons.mp member with rfl | behind
      · have cut : linesOf (line ++ (['\n'] ++ join ['\n'] more)) = line :: linesOf _ :=
          @linesOf_append_terminator line .lf unbroken (join ['\n'] more)
        rw [cut]
        exact List.mem_cons_self
      · exact mem_linesOf_append_feed part (ih behind)

/-- Texts with a separator between them, none of which ends with half of a break. -/
theorem normalizeBreaks_join_texts {separator : Text} (whole : separator.getLast? ≠ some '\r')
    (ends : ∀ part ∈ parts, part.getLast? ≠ some '\r') :
    normalizeBreaks style (join separator parts) =
      join (normalizeBreaks style separator) (parts.map (normalizeBreaks style)) := by
  induction parts with
  | nil => cases style <;> rfl
  | cons part more ih =>
    rw [List.forall_mem_cons] at ends
    cases more with
    | nil => simp [join]
    | cons next rest =>
      rw [List.map_cons, List.map_cons, join_cons_cons, join_cons_cons, ← List.map_cons,
        ← ih ends.2, List.append_assoc, normalizeBreaks_append fun ret => absurd ret ends.1,
        normalizeBreaks_append fun ret => absurd ret whole, List.append_assoc]

/-! ## The end of a text -/

/-- The text does not end in a line break. -/
def Unended (text : Text) : Prop := ∀ c, text.getLast? = some c → isBreak c = false

theorem isBreak_of_mem_terminator {c : Char} (member : c ∈ style.terminator) :
    isBreak c = true := by
  cases style <;> simp [LineBreaks.terminator] at member <;> rcases member with rfl | rfl <;> rfl

theorem unended_dropFinalBreaks (text : Text) : Unended (dropFinalBreaks text) := by
  intro c ends
  change (text.rdropWhile isBreak).getLast? = some c at ends
  obtain ⟨front, cut⟩ := List.getLast?_eq_some_iff.mp ends
  have last := List.rdropWhile_last_not isBreak text (by simp [cut])
  simpa [cut] using last

theorem exists_finalBreaks (text : Text) :
    ∃ breaks, text = dropFinalBreaks text ++ breaks ∧ ∀ c ∈ breaks, isBreak c = true :=
  ⟨text.rtakeWhile isBreak, (List.rdropWhile_append_rtakeWhile (p := isBreak)).symm,
    fun _ => List.mem_rtakeWhile_imp⟩

theorem dropFinalBreaks_append (unended : Unended text) {breaks : Text}
    (all : ∀ c ∈ breaks, isBreak c = true) : dropFinalBreaks (text ++ breaks) = text := by
  change (text ++ breaks).rdropWhile isBreak = text
  induction breaks using List.reverseRecOn with
  | nil =>
    rw [List.append_nil, List.rdropWhile_eq_self_iff]
    intro filled last
    simp [unended _ (List.getLast?_eq_some_getLast filled)] at last
  | append_singleton breaks c ih =>
    rw [← List.append_assoc, List.rdropWhile_concat_pos _ _ _ (all c (by simp))]
    exact ih fun d member => all d (List.mem_append_left _ member)

/-- A text ends as before unless that is in a break. -/
theorem normalizeBreaks_append_singleton (style : LineBreaks) (text : Text) {c : Char}
    (other : isBreak c = false) :
    normalizeBreaks style (text ++ [c]) = normalizeBreaks style text ++ [c] := by
  have apart : c ≠ '\r' ∧ c ≠ '\n' := by simpa [isBreak] using other
  have single : Unbroken [c] := ⟨by simpa using apart.2.symm, by simpa using apart.1.symm⟩
  have notFeed : [c].head? ≠ some '\n' := fun feed => apart.2 (Option.some.inj feed)
  rw [normalizeBreaks_append fun _ => notFeed, normalizeBreaks_eq_join style [c],
    linesOf_of_unbroken single, join, List.intercalate_singleton]

theorem Unended.cases (unended : Unended text) :
    text = [] ∨ ∃ front c, text = front ++ [c] ∧ isBreak c = false := by
  cases ends : text.getLast? with
  | none => exact .inl (List.getLast?_eq_none_iff.mp ends)
  | some c =>
    obtain ⟨front, rfl⟩ := List.getLast?_eq_some_iff.mp ends
    exact .inr ⟨front, c, rfl, unended c ends⟩

theorem Unended.normalizeBreaks (unended : Unended text) (style : LineBreaks) :
    Unended (normalizeBreaks style text) := by
  rcases unended.cases with rfl | ⟨front, c, rfl, other⟩
  · cases style <;> exact unended
  · rw [normalizeBreaks_append_singleton style front other]
    intro d ends
    simp only [List.getLast?_append, List.getLast?_singleton, Option.some_or, Option.some.injEq]
      at ends
    rwa [← ends]

theorem Unended.normalizeBreaks_eq_nil_iff (unended : Unended text) :
    Text.normalizeBreaks style text = [] ↔ text = [] := by
  rcases unended.cases with rfl | ⟨front, c, rfl, other⟩
  · cases style <;> simp [Text.normalizeBreaks, unifyBreaks, foldPairs, replaceChar]
  · simp [normalizeBreaks_append_singleton style front other]

theorem mem_normalizeBreaks {c : Char} (member : c ∈ normalizeBreaks style text) :
    c ∈ style.terminator ∨ ∃ line ∈ linesOf text, c ∈ line := by
  rw [normalizeBreaks_eq_join] at member
  by_contra neither
  rw [not_or] at neither
  exact not_mem_join neither.1 (fun line inLines inLine => neither.2 ⟨line, inLines, inLine⟩) member

theorem linesOf_of_breaks (all : ∀ c ∈ text, isBreak c = true) : ∀ line ∈ linesOf text, line = [] := by
  induction text using linesOf_induction with
  | nil => simp [linesOf]
  | broken text rest broken ih =>
    rw [broken.linesOf_eq, List.forall_mem_cons]
    refine ⟨rfl, ih fun c member => all c ?_⟩
    cases broken <;> simp [member]
  | other c rest other => simp [all c List.mem_cons_self] at other

theorem dropFinalBreaks_normalizeBreaks (style : LineBreaks) (text : Text) :
    dropFinalBreaks (normalizeBreaks style text) = normalizeBreaks style (dropFinalBreaks text) := by
  obtain ⟨breaks, cut, all⟩ := exists_finalBreaks text
  have unended := unended_dropFinalBreaks text
  have whole : (dropFinalBreaks text).getLast? ≠ some '\r' := fun ends => by
    simpa [isBreak] using unended _ ends
  have breaks' : ∀ c ∈ normalizeBreaks style breaks, isBreak c = true := by
    intro c member
    rcases mem_normalizeBreaks member with member | ⟨line, inLines, inLine⟩
    · exact isBreak_of_mem_terminator member
    · rw [linesOf_of_breaks all line inLines] at inLine
      exact absurd inLine List.not_mem_nil
  calc dropFinalBreaks (normalizeBreaks style text)
      = dropFinalBreaks (normalizeBreaks style (dropFinalBreaks text) ++
          normalizeBreaks style breaks) := by
        rw [← normalizeBreaks_append fun ret => absurd ret whole, ← cut]
    _ = normalizeBreaks style (dropFinalBreaks text) :=
        dropFinalBreaks_append (unended.normalizeBreaks style) breaks'

end WorkflowDocs.Text
