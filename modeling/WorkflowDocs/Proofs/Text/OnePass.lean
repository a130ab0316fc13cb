import WorkflowDocs.Proofs.Text.Lines

/-!
# Rewriting line breaks in one pass

The breaks of a text are rewritten by up to three replacements, one after the other, each of them
throughout the text. A single pass from left to right does the same.

Results:
1. `normalizeBreaks_eq_rewriteBreaks`: no replacement meets what another one has written.
2. `paired_rewriteBreaks`: in the longer style neither half of a break stands alone.
3. `normalized_normalizeBreaks`: what rewriting makes of a text, and what it leaves.
-/

namespace WorkflowDocs.Text

variable {text rest terminator : Text}

/-- The text with `terminator` in place of each `\r\n`, each other `\r` and each other `\n`. -/
def rewriteBreaks (terminator : Text) : Text → Text
  | [] => []
  | '\r' :: '\n' :: rest => terminator ++ rewriteBreaks terminator rest
  | '\r' :: rest => terminator ++ rewriteBreaks terminator rest
  | '\n' :: rest => terminator ++ rewriteBreaks terminator rest
  | c :: rest => c :: rewriteBreaks terminator rest

theorem Broken.rewriteBreaks_eq (broken : Broken text rest) (terminator : Text) :
    rewriteBreaks terminator text = terminator ++ rewriteBreaks terminator rest := by
  cases broken with
  | pair | feed => rw [rewriteBreaks]
  | single single =>
    exact rewriteBreaks.eq_3 terminator rest fun more isFeed => single (by rw [isFeed]; rfl)

theorem rewriteBreaks_cons {c : Char} (other : isBreak c = false) (terminator rest : Text) :
    rewriteBreaks terminator (c :: rest) = c :: rewriteBreaks terminator rest := by
  obtain ⟨ret, feed⟩ := isBreak_eq_false_iff.mp other
  exact rewriteBreaks.eq_5 terminator c rest (fun _ isReturn => absurd isReturn ret) ret feed

theorem rewriteBreaks_eq_join (terminator text : Text) :
    rewriteBreaks terminator text = join terminator (linesOf text) := by
  induction text using linesOf_induction with
  | nil => rfl
  | broken text rest broken ih =>
    rw [broken.rewriteBreaks_eq, ih, broken.linesOf_eq, join_cons _ _ (linesOf_ne_nil rest),
      List.nil_append]
  | other c rest other ih =>
    rw [rewriteBreaks_cons other, ih, linesOf_cons other,
      join_modifyHead_cons c _ (linesOf_ne_nil rest)]

theorem normalizeBreaks_eq_rewriteBreaks (style : LineBreaks) (text : Text) :
    normalizeBreaks style text = rewriteBreaks style.terminator text := by
  rw [normalizeBreaks_eq_join, rewriteBreaks_eq_join]

/-! ## The longer style -/

/-- Every `\r` is followed by a `\n` at once, and every `\n` follows a `\r`. -/
structure Paired (text : Text) : Prop where
  followed : ∀ before after, text = before ++ '\r' :: after → after.head? = some '\n'
  preceded : ∀ before after, text = before ++ '\n' :: after → before.getLast? = some '\r'

theorem Paired.cons {c : Char} (other : isBreak c = false) (paired : Paired rest) :
    Paired (c :: rest) := by
  obtain ⟨ret, feed⟩ := isBreak_eq_false_iff.mp other
  constructor
  · intro before after cut
    cases before with
    | nil => exact absurd (List.cons.inj cut).1 ret
    | cons d before => exact paired.followed before after (List.cons.inj cut).2
  · intro before after cut
    cases before with
    | nil => exact absurd (List.cons.inj cut).1 feed
    | cons d before =>
      have last := paired.preceded before after (List.cons.inj cut).2
      rw [List.getLast?_cons, last]
      rfl

theorem Paired.pair (paired : Paired rest) : Paired ('\r' :: '\n' :: rest) := by
  constructor
  · rintro (_ | ⟨c, _ | ⟨d, before⟩⟩) after cut
    · obtain rfl := (List.cons.inj cut).2
      rfl
    · exact absurd (List.cons.inj (List.cons.inj cut).2).1 (by decide)
    · exact paired.followed before after (List.cons.inj (List.cons.inj cut).2).2
  · rintro (_ | ⟨c, _ | ⟨d, before⟩⟩) after cut
    · exact absurd (List.cons.inj cut).1 (by decide)
    · obtain rfl := (List.cons.inj cut).1
      rfl
    · have last := paired.preceded before after (List.cons.inj (List.cons.inj cut).2).2
      rw [List.getLast?_cons, List.getLast?_cons, last]
      rfl

theorem paired_rewriteBreaks (text : Text) :
    Paired (rewriteBreaks LineBreaks.crlf.terminator text) := by
  induction text using linesOf_induction with
  | nil => exact ⟨by simp [rewriteBreaks], by simp [rewriteBreaks]⟩
  | broken text rest broken ih =>
    rw [broken.rewriteBreaks_eq]
    exact ih.pair
  | other c rest other ih =>
    rw [rewriteBreaks_cons other]
    exact ih.cons other

/-! ## Both styles -/

/-- What rewriting does to a text, in either style. -/
structure Normalized (text : Text) : Prop where
  /-- One pass does it. -/
  onePass : ∀ style, normalizeBreaks style text = rewriteBreaks style.terminator text
  /-- The style a text had before does not matter. -/
  again : ∀ earlier style,
    normalizeBreaks style (normalizeBreaks earlier text) = normalizeBreaks style text
  noReturn : '\r' ∉ normalizeBreaks .lf text
  paired : Paired (normalizeBreaks .crlf text)
  /-- What stands between the breaks stays. -/
  lines : ∀ style, linesOf (normalizeBreaks style text) = linesOf text

theorem normalized_normalizeBreaks (text : Text) : Normalized text where
  onePass style := normalizeBreaks_eq_rewriteBreaks style text
  again earlier style := normalizeBreaks_normalizeBreaks style earlier text
  noReturn := by
    rw [normalizeBreaks_eq_join]
    exact not_mem_join (by decide) fun line member => (unbroken_of_mem_linesOf member).2
  paired := by
    rw [normalizeBreaks_eq_rewriteBreaks]
    exact paired_rewriteBreaks text
  lines style := linesOf_normalizeBreaks style text

/-- The second `\r` belongs to the pair, and the `\n` behind it is no part of another. -/
example : rewriteBreaks ['|'] "a\r\r\n\n\rb\r".toList = "a||||b|".toList := by decide

end WorkflowDocs.Text
