import WorkflowDocs.Proofs.Text
import WorkflowDocs.Readme

/-!
# The marker region

Results:
1. `splice_eq_ok_iff`: a splice keeps what stands up to the start marker and what stands from the
   end marker on.
2. `splice_eq_self_iff`: it changes nothing exactly if the region held the text already.
3. `splice_again`: a second splice of the same text finds both markers, and it changes nothing
   exactly if the end marker is not found earlier, in the text.
-/

namespace WorkflowDocs.Readme

open Text

variable {content updated markdown start finish before after : Text}

/-- What stands between the first start marker and the first end marker behind it. -/
def region? (content start finish : Text) : Option Text :=
  (splitFirst start content).bind fun (_, rest) => (splitFirst finish rest).map (·.1)

theorem splice_eq_ok_iff : splice content markdown start finish = .ok updated ↔
    ∃ before region after rest, splitFirst start content = some (before, rest) ∧
      splitFirst finish rest = some (region, after) ∧
      updated = before ++ start ++ markdown ++ finish ++ after := by
  unfold splice
  split
  next missing => simp [missing]
  next before rest found =>
    split
    next region after found' =>
      constructor
      · rintro ⟨⟩
        exact ⟨before, region, after, rest, found, found', rfl⟩
      · rintro ⟨_, _, _, _, first, second, rfl⟩
        cases found.symm.trans first
        cases found'.symm.trans second
        rfl
    next missing => split <;> simp [found, missing]

theorem splice_eq_self_iff : splice content markdown start finish = .ok content ↔
    region? content start finish = some markdown := by
  rw [splice_eq_ok_iff]
  constructor
  · rintro ⟨before, region, after, rest, found, found', same⟩
    rw [splitFirst_append found, splitFirst_append found'] at same
    simp only [List.append_assoc] at same
    have same := List.append_cancel_left (List.append_cancel_left same)
    rw [List.append_cancel_right same] at found'
    simp [region?, found, found']
  · intro region
    simp only [region?, Option.bind_eq_some_iff, Option.map_eq_some_iff, Prod.exists] at region
    obtain ⟨before, rest, found, _, after, found', rfl⟩ := region
    refine ⟨before, _, after, rest, found, found', ?_⟩
    rw [splitFirst_append found, splitFirst_append found']
    simp only [List.append_assoc]

/-! ## Splicing twice -/

/-- Before the end marker the text holds no occurrence of it, not even one that the two make
together. -/
def Closed (finish markdown : Text) : Prop :=
  splitFirst finish (markdown ++ finish) = some (markdown, [])

instance (finish markdown : Text) : Decidable (Closed finish markdown) :=
  inferInstanceAs (Decidable (_ = _))

/-- A splice leaves the first start marker the first one. -/
theorem splitFirst_start_of_splice {rest : Text}
    (found : splitFirst start content = some (before, rest)) (behind : Text) :
    splitFirst start (before ++ start ++ behind) = some (before, behind) := by
  have whole := splitFirst_append found
  rw [whole, splitFirst_append_iff] at found
  exact splitFirst_append_iff.mpr found

/-- The region of a text that has been spliced ends where the text ends that was put in, or
earlier. -/
theorem splice_again (spliced : splice content markdown start finish = .ok updated) :
    (∃ again, splice updated markdown start finish = .ok again) ∧
      (region? updated start finish = some markdown ↔ Closed finish markdown) := by
  obtain ⟨before, region, after, rest, found, _, rfl⟩ := splice_eq_ok_iff.mp spliced
  have first := splitFirst_start_of_splice found (markdown ++ finish ++ after)
  have occurs : markdown ++ finish ++ after = markdown ++ finish ++ after := rfl
  -- the end marker that was put back is found, if not an earlier one
  obtain ⟨⟨inner, last⟩, second⟩ := Option.isSome_iff_exists.mp (splitFirst_isSome occurs)
  have whole : before ++ start ++ markdown ++ finish ++ after =
      before ++ start ++ (markdown ++ finish ++ after) := by
    simp only [List.append_assoc]
  rw [whole]
  refine ⟨⟨_, splice_eq_ok_iff.mpr ⟨before, inner, last, _, first, second, rfl⟩⟩, ?_⟩
  unfold Closed
  rw [← @splitFirst_append_iff finish markdown after, second]
  simp only [region?, first, second, Option.bind_some, Option.map_some, Option.some.injEq,
    Prod.mk.injEq]
  constructor
  · rintro rfl
    have cut := splitFirst_append second
    exact ⟨rfl, (List.append_cancel_left cut).symm⟩
  · exact fun ⟨same, _⟩ => same

end WorkflowDocs.Readme
