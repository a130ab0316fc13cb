import WorkflowDocs.Proofs.Readme.Region

/-!
# Where the markers stand

A splice looks for the first start marker, and for the first end marker behind it. Markers are any
texts: they may overlap, hold one another, and stand there several times.

Results:
1. `first_iff`: a cut at the first occurrence, as what stands in front of others.
2. `exists_splice_iff`: the first markers are a pair if any two are.
3. `splice_outcomes`: how a splice ends, for all contents and markers.
4. `splice_splice_iff`: the second of two splices alone counts exactly if the end marker does not
   stand earlier in the first text, or where this and the marker meet.
-/

namespace WorkflowDocs.Readme

open Text

variable {content updated markdown start finish before after needle text : Text}

/-! ## The first occurrence -/

/-- The needle stands behind `before`, and it does not stand earlier in the text. -/
structure First (needle before text : Text) : Prop where
  here : before ++ needle <+: text
  earliest : ∀ earlier, earlier ++ needle <+: text → before.length ≤ earlier.length

theorem first_iff :
    First needle before text ↔ ∃ after, splitFirst needle text = some (before, after) := by
  simp only [splitFirst_eq_some_iff]
  constructor
  · rintro ⟨⟨after, here⟩, earliest⟩
    exact ⟨after, here.symm, fun b a occurs => earliest b ⟨a, occurs.symm⟩⟩
  · rintro ⟨after, here, earliest⟩
    exact ⟨⟨after, here.symm⟩, fun b ⟨a, occurs⟩ => earliest b a occurs.symm⟩

theorem First.isInfix (first : First needle before text) : needle <:+: text :=
  (List.suffix_append before needle).isInfix.trans first.here.isInfix

theorem First.unique {other : Text} (first : First needle before text)
    (first' : First needle other text) : before = other := by
  obtain ⟨after, found⟩ := first_iff.mp first
  obtain ⟨after', found'⟩ := first_iff.mp first'
  cases found.symm.trans found'
  rfl

theorem splitFirst_eq_none_iff : splitFirst needle text = none ↔ ¬needle <:+: text := by
  constructor
  · rintro missing ⟨before, after, occurs⟩
    have found := splitFirst_isSome occurs.symm
    simp [missing] at found
  · intro missing
    cases found : splitFirst needle text with
    | none => rfl
    | some cut => exact absurd ⟨cut.1, cut.2, (splitFirst_append found).symm⟩ missing

theorem occurs_eq_true_iff : occurs needle text = true ↔ needle <:+: text := by
  rw [occurs, Option.isSome_iff_ne_none, ne_eq, splitFirst_eq_none_iff, Decidable.not_not]

/-! ## How a splice ends -/

/-- Somewhere a start marker stands, and an end marker behind it that does not overlap it. -/
def Paired (content start finish : Text) : Prop :=
  ∃ before region after, content = before ++ start ++ region ++ finish ++ after

theorem exists_splice_iff : (∃ updated, splice content markdown start finish = .ok updated) ↔
    Paired content start finish := by
  constructor
  · rintro ⟨updated, spliced⟩
    obtain ⟨before, region, after, rest, found, found', _⟩ := splice_eq_ok_iff.mp spliced
    refine ⟨before, region, after, ?_⟩
    rw [splitFirst_append found, splitFirst_append found']
    simp only [List.append_assoc]
  · rintro ⟨before, region, after, whole⟩
    have occurs : content = before ++ start ++ (region ++ finish ++ after) := by
      simp only [whole, List.append_assoc]
    obtain ⟨⟨first, rest⟩, found⟩ := Option.isSome_iff_exists.mp (splitFirst_isSome occurs)
    -- the first start marker ends before the given end marker begins
    have short := length_le_of_splitFirst found occurs
    have cut := splitFirst_append found
    have inside : first ++ start <+: before ++ start ++ region :=
      List.prefix_of_prefix_length_le ⟨rest, cut.symm⟩
        ⟨finish ++ after, by simp only [whole, List.append_assoc]⟩
        (by simp only [List.length_append]; omega)
    obtain ⟨between, reached⟩ := inside
    have behind : rest = between ++ finish ++ after := by
      rw [whole, ← reached] at cut
      simp only [List.append_assoc] at cut
      have cut := List.append_cancel_left (List.append_cancel_left cut)
      simp only [List.append_assoc, cut]
    obtain ⟨⟨inner, last⟩, found'⟩ := Option.isSome_iff_exists.mp (splitFirst_isSome behind)
    exact ⟨_, splice_eq_ok_iff.mpr ⟨first, inner, last, rest, found, found', rfl⟩⟩

/-- The result of a splice, by what stands in the content. -/
inductive Ending (content markdown start finish : Text) : Except MarkerError Text → Prop
  | spliced {before region after : Text} :
      content = before ++ start ++ region ++ finish ++ after → First start before content →
      First finish region (region ++ finish ++ after) →
      Ending content markdown start finish (.ok (before ++ start ++ markdown ++ finish ++ after))
  | missingStart : ¬start <:+: content →
      Ending content markdown start finish (.error (.missingStart start))
  | misordered {before : Text} : ¬Paired content start finish → First start before content →
      finish <:+: before → Ending content markdown start finish (.error (.misordered start finish))
  | missingEnd {before : Text} : ¬Paired content start finish → First start before content →
      ¬finish <:+: before → Ending content markdown start finish (.error (.missingEnd finish))

theorem ending_splice (content markdown start finish : Text) :
    Ending content markdown start finish (splice content markdown start finish) := by
  cases result : splice content markdown start finish with
  | ok updated =>
    obtain ⟨before, region, after, rest, found, found', rfl⟩ := splice_eq_ok_iff.mp result
    obtain rfl := splitFirst_append found'
    refine .spliced ?_ (first_iff.mpr ⟨_, found⟩) (first_iff.mpr ⟨_, found'⟩)
    simpa only [List.append_assoc] using splitFirst_append found
  | error error =>
    have unpaired : ¬Paired content start finish := fun paired => by
      have succeeds : ∃ updated, splice content markdown start finish = .ok updated :=
        exists_splice_iff.mpr paired
      obtain ⟨updated, spliced⟩ := succeeds
      exact nomatch result.symm.trans spliced
    unfold splice at result
    split at result
    next missing =>
      cases result
      exact .missingStart (splitFirst_eq_none_iff.mp missing)
    next before rest found =>
      have first := first_iff.mpr ⟨rest, found⟩
      split at result
      · cases result
      · split at result
        next ahead =>
          cases result
          exact .misordered unpaired first (occurs_eq_true_iff.mp ahead)
        next notAhead =>
          cases result
          exact .missingEnd unpaired first (mt occurs_eq_true_iff.mpr notAhead)

/-- How a splice ends for given texts. -/
structure Outcomes (content markdown start finish : Text) : Prop where
  succeeds : (∃ updated, splice content markdown start finish = .ok updated) ↔
    Paired content start finish
  /-- The first start marker and the first end marker behind it stay, and what is around them. -/
  spliced : ∀ updated, splice content markdown start finish = .ok updated →
    ∃ before region after, content = before ++ start ++ region ++ finish ++ after ∧
      First start before content ∧ First finish region (region ++ finish ++ after) ∧
      updated = before ++ start ++ markdown ++ finish ++ after
  missingStart : splice content markdown start finish = .error (.missingStart start) ↔
    ¬start <:+: content
  /-- There is no pair, and a whole end marker stands before the first start marker. -/
  misordered : splice content markdown start finish = .error (.misordered start finish) ↔
    ¬Paired content start finish ∧ ∃ before, First start before content ∧ finish <:+: before
  /-- There is no pair, and none of the other errors fits. -/
  missingEnd : splice content markdown start finish = .error (.missingEnd finish) ↔
    ¬Paired content start finish ∧ start <:+: content ∧
      ¬∃ before, First start before content ∧ finish <:+: before

/-- For all contents and markers a splice finds the first pair, or says what is missing. -/
theorem splice_outcomes (content markdown start finish : Text) :
    Outcomes content markdown start finish := by
  have ending := ending_splice content markdown start finish
  refine ⟨exists_splice_iff, ?spliced, ?missingStart, ?misordered, ?missingEnd⟩
  case spliced =>
    intro updated result
    rw [result] at ending
    cases ending with
    | spliced whole first first' => exact ⟨_, _, _, whole, first, first', rfl⟩
  all_goals generalize splice content markdown start finish = result at ending
  case missingStart =>
    cases ending with
    | spliced _ first => exact iff_of_false nofun (not_not_intro first.isInfix)
    | missingStart missing => exact iff_of_true rfl missing
    | misordered _ first | missingEnd _ first =>
      exact iff_of_false nofun (not_not_intro first.isInfix)
  case misordered =>
    cases ending with
    | spliced whole => exact iff_of_false nofun fun other => other.1 ⟨_, _, _, whole⟩
    | missingStart missing => exact iff_of_false nofun fun ⟨_, _, first, _⟩ => missing first.isInfix
    | misordered unpaired first ahead => exact iff_of_true rfl ⟨unpaired, _, first, ahead⟩
    | missingEnd _ first notAhead =>
      exact iff_of_false nofun fun ⟨_, _, first', ahead⟩ => notAhead (first'.unique first ▸ ahead)
  case missingEnd =>
    cases ending with
    | spliced whole => exact iff_of_false nofun fun other => other.1 ⟨_, _, _, whole⟩
    | missingStart missing => exact iff_of_false nofun fun other => missing other.2.1
    | misordered _ first ahead => exact iff_of_false nofun fun other => other.2.2 ⟨_, first, ahead⟩
    | missingEnd unpaired first notAhead =>
      exact iff_of_true rfl ⟨unpaired, first.isInfix, fun ⟨_, first', ahead⟩ =>
        notAhead (first'.unique first ▸ ahead)⟩

/-- An end marker that begins inside the start marker does not count. -/
example : splice "x<ab".toList [] "<a".toList "ab".toList = .error (.missingEnd "ab".toList) := rfl

/-! ## Two splices -/

theorem closed_iff : Closed finish markdown ↔ First finish markdown (markdown ++ finish) := by
  rw [first_iff]
  constructor
  · exact fun closed => ⟨[], closed⟩
  · rintro ⟨rest, found⟩
    have whole := splitFirst_append found
    rwa [List.self_eq_append_right.mp whole] at found

/-- The second splice finds the region of the first, unless that ends too early. -/
theorem splice_splice_iff {second : Text}
    (spliced : splice content markdown start finish = .ok updated) :
    splice updated second start finish = splice content second start finish ↔
      First finish markdown (markdown ++ finish) := by
  obtain ⟨before, region, after, rest, found, found', rfl⟩ := splice_eq_ok_iff.mp spliced
  have direct : splice content second start finish =
      .ok (before ++ start ++ second ++ finish ++ after) :=
    splice_eq_ok_iff.mpr ⟨before, region, after, rest, found, found', rfl⟩
  -- the end marker that was put back is found, if not an earlier one
  obtain ⟨⟨inner, last⟩, again⟩ := Option.isSome_iff_exists.mp
    (splitFirst_isSome (rfl : markdown ++ finish ++ after = markdown ++ finish ++ after))
  have twice : splice (before ++ start ++ markdown ++ finish ++ after) second start finish =
      .ok (before ++ start ++ second ++ finish ++ last) := by
    have first := splitFirst_start_of_splice found (markdown ++ finish ++ after)
    refine splice_eq_ok_iff.mpr ⟨before, inner, last, _, ?_, again, rfl⟩
    simpa only [List.append_assoc] using first
  -- the same text in front of the marker is the same text behind it
  have same : last = after ↔ inner = markdown ∧ last = after := by
    refine (and_iff_right_of_imp ?_).symm
    rintro rfl
    exact (List.append_cancel_right (List.append_cancel_right (splitFirst_append again))).symm
  calc splice (before ++ start ++ markdown ++ finish ++ after) second start finish =
        splice content second start finish
      ↔ last = after := by rw [twice, direct, Except.ok.injEq, List.append_cancel_left_eq]
    _ ↔ splitFirst finish (markdown ++ finish ++ after) = some (markdown, after) := by
        rw [again, Option.some.injEq, Prod.mk.injEq]
        exact same
    _ ↔ First finish markdown (markdown ++ finish) := by
        rw [splitFirst_append_iff, ← closed_iff, Closed]

/-- An end marker begins in the first text and ends in the marker behind it, so a part of this text
outlasts the second splice. -/
theorem splice_splice_iff_meeting :
    splice "x(aa".toList "a".toList "(".toList "aa".toList = .ok "x(aaa".toList ∧
      (splice "x(aaa".toList "b".toList "(".toList "aa".toList =
          splice "x(aa".toList "b".toList "(".toList "aa".toList ↔
        First "aa".toList "a".toList "aaa".toList) ∧
      splice "x(aaa".toList "b".toList "(".toList "aa".toList = .ok "x(baaa".toList :=
  ⟨rfl, splice_splice_iff rfl, rfl⟩

end WorkflowDocs.Readme
