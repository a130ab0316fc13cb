import WorkflowDocs.Proofs.Text.Lines
import WorkflowDocs.Proofs.Text.Trim

/-!
# The lines of a source

Where a source is read line by line, `\n` and `\r\n` end a line, a lone `\r` does not, and behind the
last break no empty line follows.

Results:
1. `lines_join`: lines are read back from what they are joined to.
2. `lines_crlf`: they do not depend on which of the two ends them.
3. `trim_join`, `bare_of_mem_lines`: trimming a text of trimmed lines takes the empty ones off its
   ends, so its lines are trimmed too.
-/

namespace WorkflowDocs.Text

variable {text line rest core : Text} {texts : List Text}

/-! ## The lines of a source -/

/-- The text can stand on a line of its own, before either break. -/
def Lined (line : Text) : Prop := '\n' ∉ line ∧ line.getLast? ≠ some '\r'

theorem lines_cons {c : Char} (notFeed : c ≠ '\n') (notPair : c = '\r' → rest.head? ≠ some '\n') :
    lines (c :: rest) = match lines rest with
      | [] => [[c]]
      | line :: more => (c :: line) :: more := by
  refine lines.eq_4 c rest notFeed ?_
  rintro more isReturn rfl
  exact notPair isReturn rfl

theorem lined_cons {c : Char} (lined : Lined (c :: line)) :
    Lined line ∧ c ≠ '\n' ∧ (c = '\r' → line ≠ []) := by
  obtain ⟨noFeed, noReturn⟩ := lined
  rw [List.mem_cons, not_or] at noFeed
  refine ⟨⟨noFeed.2, fun last => noReturn ?_⟩, Ne.symm noFeed.1, ?_⟩
  · rw [List.getLast?_cons, last]
    rfl
  · rintro rfl rfl
    exact noReturn rfl

theorem lines_append_feed (lined : Lined line) (rest : Text) :
    lines (line ++ '\n' :: rest) = line :: lines rest := by
  induction line with
  | nil => rfl
  | cons c line ih =>
    obtain ⟨lined', notFeed, filled⟩ := lined_cons lined
    rw [List.cons_append, lines_cons notFeed, ih lined']
    intro isReturn
    obtain ⟨d, more, rfl⟩ := List.exists_cons_of_ne_nil (filled isReturn)
    have other : d ≠ '\n' := fun feed => lined'.1 (by simp [feed])
    simpa using other

theorem lines_of_lined (lined : Lined line) (filled : line ≠ []) : lines line = [line] := by
  induction line with
  | nil => exact absurd rfl filled
  | cons c line ih =>
    obtain ⟨lined', notFeed, _⟩ := lined_cons lined
    have notPair : line.head? ≠ some '\n' := fun feed => lined'.1 (List.mem_of_mem_head? feed)
    rw [lines_cons notFeed fun _ => notPair]
    by_cases last : line = []
    · rw [last]
      rfl
    · rw [ih lined' last]

theorem lines_join (lined : ∀ line ∈ texts, Lined line) (ends : texts.getLast? ≠ some []) :
    lines (join ['\n'] texts) = texts := by
  induction texts with
  | nil => rfl
  | cons line more ih =>
    rw [List.forall_mem_cons] at lined
    by_cases last : more = []
    · subst last
      rw [join, List.intercalate_singleton]
      exact lines_of_lined lined.1 fun empty => ends (by rw [empty]; rfl)
    · have ends' : more.getLast? ≠ some [] := by
        obtain ⟨next, others, rfl⟩ := List.exists_cons_of_ne_nil last
        rwa [List.getLast?_cons_cons] at ends
      rw [join_cons _ _ last, List.append_assoc, List.singleton_append,
        lines_append_feed lined.1, ih lined.2 ends']

theorem not_mem_of_mem_lines (member : line ∈ lines text) : '\n' ∉ line := by
  induction text using lines.induct generalizing line with
  | case1 => cases member
  | case2 rest ih | case3 rest ih =>
    rw [lines] at member
    rcases List.mem_cons.mp member with rfl | member
    · exact List.not_mem_nil
    · exact ih member
  | case4 c rest notFeed notPair none ih =>
    rw [lines.eq_4 c rest notFeed notPair, none, List.mem_singleton] at member
    rw [member, List.mem_singleton]
    exact fun feed => notFeed feed.symm
  | case5 c rest notFeed notPair first more cut ih =>
    rw [lines.eq_4 c rest notFeed notPair, cut] at member
    rw [cut] at ih
    rcases List.mem_cons.mp member with rfl | member
    · rw [List.mem_cons, not_or]
      exact ⟨fun feed => notFeed feed.symm, ih List.mem_cons_self⟩
    · exact ih (List.mem_cons_of_mem first member)

/-- With two characters for each break the lines are the same. -/
theorem lines_crlf (noReturn : '\r' ∉ text) :
    lines (replaceChar '\n' ['\r', '\n'] text) = lines text := by
  induction text with
  | nil => rfl
  | cons c rest ih =>
    rw [List.mem_cons, not_or] at noReturn
    have behind := ih noReturn.2
    rw [replaceChar] at behind ⊢
    rw [List.flatMap_cons]
    by_cases feed : c = '\n'
    · subst feed
      rw [if_pos rfl]
      exact congrArg ([] :: ·) behind
    · have notReturn : c ≠ '\r' := Ne.symm noReturn.1
      rw [if_neg feed, List.singleton_append, lines_cons feed fun ret => absurd ret notReturn,
        lines_cons feed fun ret => absurd ret notReturn, behind]

/-! ## Trimmed lines -/

theorem Bare.lined (bare : Bare line) (noFeed : '\n' ∉ line) : Lined line :=
  ⟨noFeed, fun last => absurd (bare.2 _ last) (by decide)⟩

theorem Bare.not_blank (bare : Bare text) (filled : text ≠ []) : text.blank = false := by
  obtain ⟨c, rest, rfl⟩ := List.exists_cons_of_ne_nil filled
  simp [blank, bare.1 c rfl]

theorem trimStart_join (bare : ∀ line ∈ texts, Bare line) :
    trimStart (join ['\n'] texts) = join ['\n'] (texts.dropWhile List.isEmpty) := by
  induction texts with
  | nil => rfl
  | cons line more ih =>
    rw [List.forall_mem_cons] at bare
    cases line with
    | cons c rest =>
      have kept : (join ['\n'] ((c :: rest) :: more)).head? = some c := by
        cases more <;> simp [join]
      rw [List.dropWhile_cons_of_neg (by simp)]
      refine trimStart_of_head fun d first => bare.1.1 d ?_
      rw [← first, kept]
      rfl
    | nil =>
      rw [List.dropWhile_cons_of_pos rfl, ← ih bare.2]
      by_cases last : more = []
      · rw [last]
        rfl
      · rw [join_cons _ _ last]
        rfl

theorem getLast?_join (texts : List Text) (filled : line ≠ []) :
    (join ['\n'] (texts ++ [line])).getLast? = line.getLast? := by
  by_cases alone : texts = []
  · rw [alone, List.nil_append, join, List.intercalate_singleton]
  · rw [join_append _ alone (List.cons_ne_nil _ _), join, join, List.intercalate_singleton]
    exact List.getLast?_append_of_ne_nil _ filled

theorem trimEnd_join (bare : ∀ line ∈ texts, Bare line) :
    trimEnd (join ['\n'] texts) = join ['\n'] (texts.rdropWhile List.isEmpty) := by
  induction texts using List.reverseRecOn with
  | nil => rfl
  | append_singleton texts line ih =>
    have bare' : ∀ line ∈ texts, Bare line := fun other member =>
      bare other (List.mem_append_left _ member)
    by_cases empty : line = []
    · subst empty
      rw [List.rdropWhile_concat_pos _ _ _ rfl, ← ih bare']
      by_cases alone : texts = []
      · rw [alone]
        rfl
      · rw [join_append _ alone (List.cons_ne_nil _ _), join, join, List.intercalate_singleton,
          List.append_nil]
        exact trimEnd_append (by decide)
    · rw [List.rdropWhile_concat_neg _ _ _ (by simpa using empty)]
      refine trimEnd_of_last fun c last => ?_
      rw [getLast?_join texts empty] at last
      exact (bare line (by simp)).2 c last

theorem trim_join (bare : ∀ line ∈ texts, Bare line) : trim (join ['\n'] texts) =
    join ['\n'] ((texts.dropWhile List.isEmpty).rdropWhile List.isEmpty) := by
  rw [trim, trimStart_join bare]
  exact trimEnd_join fun line member => bare line ((List.dropWhile_suffix _).mem member)

/-- Lines that are trimmed one by one and then together are those of a text without blanks around any
of them. -/
theorem bare_of_mem_lines (bare : ∀ line ∈ texts, Bare line) (noFeed : ∀ line ∈ texts, '\n' ∉ line)
    (member : line ∈ lines (trim (join ['\n'] texts))) : Bare line := by
  have sub : ∀ line ∈ (texts.dropWhile List.isEmpty).rdropWhile List.isEmpty, line ∈ texts :=
    fun line member => (List.dropWhile_suffix _).mem ((List.rdropWhile_prefix _ _).mem member)
  rw [trim_join bare, lines_join] at member
  · exact bare line (sub line member)
  · exact fun line member => (bare line (sub line member)).lined (noFeed line (sub line member))
  · intro last
    have filled : (texts.dropWhile List.isEmpty).rdropWhile List.isEmpty ≠ [] := by
      intro empty
      simp [empty] at last
    have other := List.rdropWhile_last_not List.isEmpty _ filled
    rw [List.getLast?_eq_some_getLast filled] at last
    simp [Option.some.inj last] at other

end WorkflowDocs.Text
