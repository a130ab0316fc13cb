import Mathlib.Data.List.TakeWhile
import WorkflowDocs.Markdown
import WorkflowDocs.Proofs.Text.LineBreak

/-!
# Code spans

A code span begins with a run of backticks and ends with the next run of the same length. What
stands between them is shown, without the space at each end if there is one at both.

That every text can be written as a span is false (`code_encloses_unsound`): the fence of two
backticks is closed too early by two backticks in the text.

Results:
1. `cutAtRun_eq_none_iff`: the reader looks for runs of one length, and for no parts of longer ones.
2. `encloses_iff`: the reader takes a text for one span exactly if it is one.
3. `code_encloses_iff`: a text is shown as it is exactly if no run in it is as long as the wide fence.
-/

namespace WorkflowDocs.Markdown

open Text

variable {n : Nat} {text front before after inner written content : Text}

/-! ## Runs of backticks -/

def isTick (c : Char) : Bool := c = '`'

/-- A run of exactly `n` backticks stands in the text between these parts of it. -/
structure RunBetween (n : Nat) (text before after : Text) : Prop where
  whole : text = before ++ repeated n '`' ++ after
  starts : before.getLast? ≠ some '`'
  ends : after.head? ≠ some '`'

/-- Somewhere in the text a run of exactly `n` backticks stands. -/
def HasRun (n : Nat) (text : Text) : Prop := ∃ before after, RunBetween n text before after

/-- How many backticks a text begins with. -/
def openingRun (text : Text) : Nat := (text.takeWhile isTick).length

/-- The text before the first run of exactly `n` backticks and the text behind this run. If the text
stands behind a backtick, it does not begin with a run. -/
def cutAtRun (n : Nat) : (behindTick : Bool) → Text → Option (Text × Text)
  | _, [] => none
  | behindTick, c :: rest =>
    if !behindTick && openingRun (c :: rest) = n then some ([], (c :: rest).drop n)
    else (cutAtRun n (isTick c) rest).map fun (before, after) => (c :: before, after)

theorem cutAtRun_cons (n : Nat) (behindTick : Bool) (c : Char) (rest : Text) :
    cutAtRun n behindTick (c :: rest) =
      if !behindTick && openingRun (c :: rest) = n then some ([], (c :: rest).drop n)
      else (cutAtRun n (isTick c) rest).map fun (before, after) => (c :: before, after) := rfl

theorem openingRun_append_cons {d : Char} (other : isTick d = false) (text rest : Text) :
    openingRun (text ++ d :: rest) = openingRun text := by
  unfold openingRun
  induction text with
  | nil => simp [other]
  | cons c text ih => cases tick : isTick c <;> simp [tick, ih]

theorem openingRun_repeated (ends : after.head? ≠ some '`') (n : Nat) :
    openingRun (repeated n '`' ++ after) = n := by
  have ticks : openingRun (repeated n '`') = n := by
    rw [openingRun, List.takeWhile_eq_self_iff.mpr (by simp [repeated, isTick])]
    exact List.length_replicate
  cases after with
  | nil => rwa [List.append_nil]
  | cons c rest =>
    have other : isTick c = false := by simpa [isTick] using ends
    rw [openingRun_append_cons other, ticks]

/-- A text is the backticks that it begins with and a rest that begins with none. -/
theorem openingRun_spec (text : Text) :
    repeated (openingRun text) '`' ++ text.drop (openingRun text) = text ∧
      (text.drop (openingRun text)).head? ≠ some '`' := by
  have ticks : text.takeWhile isTick = repeated (openingRun text) '`' :=
    List.eq_replicate_of_mem fun c member => by simpa [isTick] using List.mem_takeWhile_imp member
  have rest : text.drop (openingRun text) = text.dropWhile isTick := by
    have whole := @List.takeWhile_append_dropWhile _ isTick text
    calc text.drop (openingRun text)
        = (text.takeWhile isTick ++ text.dropWhile isTick).drop (openingRun text) := by rw [whole]
      _ = text.dropWhile isTick := List.drop_left
  rw [rest, ← ticks]
  refine ⟨List.takeWhile_append_dropWhile, fun first => ?_⟩
  have other := List.head?_dropWhile_not isTick text
  rw [first] at other
  simp [isTick] at other

theorem getLast?_append_singleton_eq_tick (front : Text) (c : Char) :
    decide ((front ++ [c]).getLast? = some '`') = isTick c := by
  simp [isTick]

/-- What is found is a run, also in a text that goes on behind another one. -/
theorem run_of_cutAtRun
    (found : cutAtRun n (front.getLast? = some '`') text = some (before, after)) :
    RunBetween n (front ++ text) (front ++ before) after := by
  induction text generalizing front before with
  | nil => cases found
  | cons c rest ih =>
    rw [cutAtRun_cons] at found
    split at found
    next here =>
      cases found
      simp only [Bool.and_eq_true, Bool.not_eq_true', decide_eq_false_iff_not,
        decide_eq_true_eq] at here
      obtain ⟨starts, rfl⟩ := here
      obtain ⟨cut, ends⟩ := openingRun_spec (c :: rest)
      refine ⟨?_, by rwa [List.append_nil], ends⟩
      rw [List.append_nil, List.append_assoc, cut]
    next =>
      simp only [Option.map_eq_some_iff, Prod.exists, Prod.mk.injEq] at found
      obtain ⟨first, last, inRest, rfl, rfl⟩ := found
      rw [← getLast?_append_singleton_eq_tick front c] at inRest
      have run := ih inRest
      rwa [List.append_assoc, List.append_assoc] at run

/-- No run is overlooked. -/
theorem cutAtRun_ne_none (positive : 0 < n)
    (run : RunBetween n (front ++ text) (front ++ before) after) :
    cutAtRun n (front.getLast? = some '`') text ≠ none := by
  induction text generalizing front before with
  | nil =>
    have long := congrArg List.length run.whole
    simp only [repeated, List.length_append, List.length_nil, List.length_replicate] at long
    omega
  | cons c rest ih =>
    rw [cutAtRun_cons]
    split
    next => exact Option.some_ne_none _
    next apart =>
      cases before with
      | nil =>
        have starts := run.starts
        have whole := run.whole
        rw [List.append_nil] at starts whole
        rw [List.append_assoc, List.append_cancel_left_eq] at whole
        simp [starts, whole, openingRun_repeated run.ends] at apart
      | cons d before =>
        have whole := run.whole
        rw [List.append_assoc, List.append_assoc, List.append_cancel_left_eq, List.cons_append,
          List.cons.injEq] at whole
        obtain ⟨rfl, -⟩ := whole
        have inRest : RunBetween n (front ++ [c] ++ rest) (front ++ [c] ++ before) after := by
          rw [List.append_assoc, List.append_assoc]
          exact run
        have found := ih inRest
        rw [getLast?_append_singleton_eq_tick] at found
        simpa using found

theorem cutAtRun_eq_none_iff (positive : 0 < n) : cutAtRun n false text = none ↔ ¬HasRun n text := by
  constructor
  · rintro missing ⟨before, after, run⟩
    exact @cutAtRun_ne_none n text [] before after positive run missing
  · intro none
    cases found : cutAtRun n false text with
    | none => rfl
    | some cut => exact absurd ⟨cut.1, cut.2, @run_of_cutAtRun n text [] cut.1 cut.2 found⟩ none

/-- A character that is no backtick parts the runs of a text. -/
theorem cutAtRun_append_cons {d : Char} (other : isTick d = false) (positive : 0 < n)
    (behindTick : Bool) (text rest : Text) :
    cutAtRun n behindTick (text ++ d :: rest) =
      ((cutAtRun n behindTick text).map fun (before, after) => (before, after ++ d :: rest)).or
        ((cutAtRun n false rest).map fun (before, after) => (text ++ d :: before, after)) := by
  induction text generalizing behindTick with
  | nil =>
    have none : openingRun (d :: rest) = 0 := by simp [openingRun, other]
    have apart : ¬(!behindTick && openingRun (d :: rest) = n) = true := by
      simp [none, Nat.ne_of_lt positive]
    rw [List.nil_append, cutAtRun_cons, if_neg apart, other]
    rfl
  | cons c text ih =>
    have same : openingRun (c :: (text ++ d :: rest)) = openingRun (c :: text) :=
      openingRun_append_cons other (c :: text) rest
    have fits : openingRun (c :: text) ≤ (c :: text).length := (List.takeWhile_prefix _).length_le
    rw [List.cons_append, cutAtRun_cons, cutAtRun_cons, same, ih]
    split
    next here =>
      obtain ⟨-, rfl⟩ : _ ∧ openingRun (c :: text) = n := by simpa using here
      rw [← List.cons_append, List.drop_append_of_le_length fits]
      rfl
    next =>
      cases cutAtRun n (isTick c) text with
      | none => simp [Function.comp_def]
      | some => rfl

theorem cutAtRun_repeated (positive : 0 < n) :
    cutAtRun n false (repeated n '`') = some ([], []) := by
  have long : openingRun (repeated n '`') = n := by
    have run := @openingRun_repeated [] (by simp) n
    rwa [List.append_nil] at run
  cases n with
  | zero => cases positive
  | succ n =>
    have filled : repeated (n + 1) '`' = '`' :: repeated n '`' := rfl
    rw [filled] at long ⊢
    rw [cutAtRun_cons, long]
    simp [repeated]

/-- A fence that could close a span does so at its end, if nothing in the span has its length. -/
theorem cutAtRun_fence_iff (positive : 0 < n) (filled : inner ≠ [])
    (ends : inner.getLast? ≠ some '`') :
    cutAtRun n false (inner ++ repeated n '`') = some (inner, []) ↔ ¬HasRun n inner := by
  obtain ⟨front, d, cut⟩ := (List.eq_nil_or_concat inner).resolve_left filled
  rw [List.concat_eq_append] at cut
  subst cut
  have other : isTick d = false := by simpa [isTick] using ends
  rw [← cutAtRun_eq_none_iff positive, List.append_assoc, List.singleton_append,
    cutAtRun_append_cons other positive, cutAtRun_append_cons other positive,
    cutAtRun_repeated positive]
  cases cutAtRun n false front with
  | none => simp [cutAtRun]
  | some => simp

/-! ## Spans -/

/-- What a span shows of the text between its fences. A break counts as a space, and the spaces at
both ends go, unless there is nothing else. -/
def spanContent (inner : Text) : Text :=
  let flat := replaceChar '\n' [' '] (unifyBreaks inner)
  if flat.head? = some ' ' && flat.getLast? = some ' ' && !flat.all (· = ' ') then
    flat.tail.dropLast
  else flat

/-- The content of the span that a text begins with, and the text behind the span. -/
def span? (text : Text) : Option (Text × Text) :=
  let fence := openingRun text
  if fence = 0 then none
  else (cutAtRun fence false (text.drop fence)).map fun (inner, rest) => (spanContent inner, rest)

/-- Two runs of `n` backticks with a text between them that holds no run of this length. -/
structure Fenced (n : Nat) (inner written : Text) : Prop where
  positive : 0 < n
  whole : written = repeated n '`' ++ (inner ++ repeated n '`')
  filled : inner ≠ []
  starts : inner.head? ≠ some '`'
  ends : inner.getLast? ≠ some '`'
  apart : ¬HasRun n inner

/-- The written text is one span with this content. -/
def Encloses (written content : Text) : Prop :=
  ∃ n inner, Fenced n inner written ∧ spanContent inner = content

theorem encloses_iff : Encloses written content ↔ span? written = some (content, []) := by
  constructor
  · rintro ⟨n, inner, ⟨positive, rfl, filled, starts, ends, apart⟩, rfl⟩
    have first : (inner ++ repeated n '`').head? ≠ some '`' := by
      obtain ⟨c, rest, rfl⟩ := List.exists_cons_of_ne_nil filled
      exact starts
    have behind : (repeated n '`' ++ (inner ++ repeated n '`')).drop n = inner ++ repeated n '`' :=
      List.drop_left' List.length_replicate
    have closed := (cutAtRun_fence_iff positive filled ends).mpr apart
    simp only [span?, openingRun_repeated first, behind, closed, if_neg positive.ne',
      Option.map_some]
  · intro read
    obtain ⟨whole, first⟩ := openingRun_spec written
    unfold span? at read
    dsimp only at read
    split at read
    next => cases read
    next positive =>
      simp only [Option.map_eq_some_iff, Prod.exists, Prod.mk.injEq] at read
      obtain ⟨inner, rest, closed, same, rfl⟩ := read
      have positive := Nat.pos_of_ne_zero positive
      have run := @run_of_cutAtRun _ _ [] _ _ closed
      have cut := run.whole
      rw [List.nil_append, List.nil_append, List.append_nil] at cut
      have filled : inner ≠ [] := by
        rintro rfl
        simp [cut, repeated, List.head?_replicate, positive.ne'] at first
      have starts : inner.head? ≠ some '`' := by
        obtain ⟨c, rest, rfl⟩ := List.exists_cons_of_ne_nil filled
        rwa [cut] at first
      rw [cut] at closed
      exact ⟨_, inner, ⟨positive, by rw [← cut, whole], filled, starts, run.starts,
        (cutAtRun_fence_iff positive filled run.starts).mp closed⟩, same⟩

/-! ## Texts as code -/

theorem spanContent_of_unbroken (unbroken : Unbroken inner) : spanContent inner =
    if inner.head? = some ' ' && inner.getLast? = some ' ' && !inner.all (· = ' ') then
      inner.tail.dropLast
    else inner := by
  rw [spanContent, unifyBreaks_of_not_mem unbroken.2, replaceChar_of_not_mem unbroken.1]

theorem spanContent_bare (unbroken : Unbroken text) (starts : text.head? ≠ some ' ') :
    spanContent text = text := by
  rw [spanContent_of_unbroken unbroken]
  simp [starts]

theorem spanContent_padded (unbroken : Unbroken text) (filled : text ≠ [])
    (starts : text.head? ≠ some ' ') : spanContent (' ' :: (text ++ [' '])) = text := by
  have space : Unbroken [' '] := by decide
  have whole : Unbroken (' ' :: (text ++ [' '])) := space.append (unbroken.append space)
  obtain ⟨c, rest, rfl⟩ := List.exists_cons_of_ne_nil filled
  have other : c ≠ ' ' := by simpa using starts
  have last : (' ' :: (c :: rest ++ [' '])).getLast? = some ' ' := by
    rw [← List.cons_append]
    exact List.getLast?_concat
  rw [spanContent_of_unbroken whole, last, if_pos (by simp [other])]
  exact List.dropLast_concat

/-- Without a backtick in it, a text stands between two single ones. -/
theorem span?_code_of_not_mem (plain : '`' ∉ text) (filled : text ≠ []) (unbroken : Unbroken text)
    (starts : text.head? ≠ some ' ') : span? (code text) = some (text, []) := by
  refine encloses_iff.mp
    ⟨1, text, ⟨Nat.one_pos, ?_, filled, ?_, ?_, ?_⟩, spanContent_bare unbroken starts⟩
  · simp [code, plain, repeated]
  · exact fun first => plain (List.mem_of_head? first)
  · exact fun last => plain (List.mem_of_getLast? last)
  · rintro ⟨before, after, whole, _, _⟩
    exact plain (by simp [whole, repeated])

/-- The wide fence is closed by the first two backticks that stand alone, by those behind the text
if there are none in it. -/
theorem span?_code_of_mem (ticked : '`' ∈ text) (unbroken : Unbroken text)
    (starts : text.head? ≠ some ' ') : span? (code text) =
      match cutAtRun 2 false text with
      | none => some (text, [])
      | some (before, after) => some (spanContent (' ' :: before), after ++ " ``".toList) := by
  have filled : text ≠ [] := List.ne_nil_of_mem ticked
  have shape : code text = repeated 2 '`' ++ ' ' :: (text ++ ' ' :: repeated 2 '`') := by
    simp [code, ticked, repeated]
  have fence : openingRun (code text) = 2 := by
    rw [shape]
    exact openingRun_repeated (by simp) 2
  have behind : (code text).drop 2 = [] ++ ' ' :: (text ++ ' ' :: repeated 2 '`') := by
    rw [shape]
    rfl
  -- the spaces part the runs of the text from both fences
  have other : isTick ' ' = false := rfl
  simp only [span?, fence, behind, cutAtRun_append_cons other Nat.two_pos,
    cutAtRun_repeated Nat.two_pos]
  cases cutAtRun 2 false text with
  | none => simp [cutAtRun, spanContent_padded unbroken filled starts]
  | some cut => simp [cutAtRun, repeated]

/-- A text on one line that does not begin with a space is shown as it is exactly if no two
backticks stand alone in it. Its length and its other runs do not matter. -/
theorem code_encloses_iff (filled : text ≠ []) (unbroken : Unbroken text)
    (starts : text.head? ≠ some ' ') : Encloses (code text) text ↔ ¬HasRun 2 text := by
  rw [encloses_iff, ← cutAtRun_eq_none_iff Nat.two_pos]
  by_cases ticked : '`' ∈ text
  · rw [span?_code_of_mem ticked unbroken starts]
    cases cutAtRun 2 false text with
    | none => simp
    | some cut => simp
  · rw [span?_code_of_not_mem ticked filled unbroken starts]
    have none : cutAtRun 2 false text = none := by
      refine (cutAtRun_eq_none_iff Nat.two_pos).mpr ?_
      rintro ⟨before, after, whole, _, _⟩
      exact ticked (by simp [whole, repeated])
    simp [none]

/-- A text with runs of one, three and four backticks, also at its ends. -/
def longRuns : Text := "`a```b````".toList

theorem code_encloses_iff_longRuns :
    longRuns ≠ [] ∧ Unbroken longRuns ∧ longRuns.head? ≠ some ' ' ∧ ¬HasRun 2 longRuns ∧
      Encloses (code longRuns) longRuns := by
  have apart : ¬HasRun 2 longRuns := (cutAtRun_eq_none_iff Nat.two_pos).mp (by decide)
  refine ⟨by decide, by decide, by decide, apart, ?_⟩
  exact (code_encloses_iff (by decide) (by decide) (by decide)).mpr apart

/-- Two backticks in a text end the span that is to show it. -/
theorem code_encloses_unsound : ¬∀ text : Text, text ≠ [] → Unbroken text →
    text.head? ≠ some ' ' → text.getLast? ≠ some ' ' → Encloses (code text) text := by
  intro claimed
  have encloses := claimed "a``b".toList (by decide) (by decide) (by decide) (by decide)
  exact absurd (encloses_iff.mp encloses) (by decide)

example : span? (code "a``b".toList) = some (" a".toList, "b ``".toList) := by decide

end WorkflowDocs.Markdown
