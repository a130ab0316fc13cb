import Mathlib.Data.Char
import Mathlib.Data.List.Lex
import WorkflowDocs.Failure
import WorkflowDocs.Proofs.Entries
import WorkflowDocs.Proofs.Text.Lines
import WorkflowDocs.Proofs.Text.Quoted

/-!
# The context of a failure

What a failure is about is noted by name in a map, which keeps its entries in no certain order. The
text of the failure shows them sorted. So it depends on the values that are left, and neither on the
order in which they were noted nor on the one in which the map keeps them.

Results:
1. `After.lastValues`: after any calls the map holds each key once, with the value it was given last.
2. `perm_sortedContext`, `ascending_sortedContext`: sorting keeps the entries, and their keys ascend.
3. `contextPart_inj`: no two lists of entries are shown by the same text.
4. `displays_after`: what the text of a failure shows after any calls.
-/

namespace WorkflowDocs

open Text

/-! ## Sorted entries -/

theorem Text.precedes_iff {first second : Text} : precedes first second = true ↔ first < second := by
  induction first generalizing second with
  | nil => cases second <;> simp [precedes]
  | cons c rest ih =>
    cases second with
    | nil => simp [precedes]
    | cons d more => simp [precedes, List.cons_lt_cons_iff, ih]

namespace Entries

variable {α : Type} {first second : Entries α}

/-- The names are in strict order, so none is repeated. -/
def Ascending (entries : Entries α) : Prop := entries.Pairwise fun earlier later => earlier.1 < later.1

theorem Ascending.once (ascending : Ascending first) : first.names.Nodup :=
  List.pairwise_map.mpr (ascending.imp fun less => ne_of_lt less)

theorem nodup_of_names (once : first.names.Nodup) : first.Nodup := List.Nodup.of_map _ once

/-- There is one order in which entries ascend. -/
theorem Ascending.eq_of_mem_iff (ascending : Ascending first) (ascending' : Ascending second)
    (same : ∀ entry, entry ∈ first ↔ entry ∈ second) : first = second := by
  have perm : first.Perm second := (List.perm_ext_iff_of_nodup (nodup_of_names ascending.once)
    (nodup_of_names ascending'.once)).mpr same
  exact perm.eq_of_pairwise (fun _ _ _ _ less more => absurd more (lt_asymm less)) ascending ascending'

end Entries

namespace Failure

open Entries

variable {start failure other : Failure} {calls more : List (Text × Text)}
  {entries others : Entries Text} {key value : Text}

theorem perm_insertSorted (entry : Text × Text) (entries : Entries Text) :
    (insertSorted entry entries).Perm (entry :: entries) := by
  induction entries with
  | nil => exact .refl _
  | cons first rest ih =>
    rw [insertSorted]
    split
    · exact (ih.cons first).trans (.swap entry first rest)
    · exact .refl _

theorem ascending_insertSorted {entry : Text × Text} (isNew : entry.1 ∉ entries.names)
    (ascending : entries.Ascending) : (insertSorted entry entries).Ascending := by
  induction entries with
  | nil => exact List.pairwise_singleton _ _
  | cons first rest ih =>
    obtain ⟨least, restAscending⟩ := List.pairwise_cons.mp ascending
    obtain ⟨differs, newInRest⟩ := not_or.mp (fun member => isNew (List.mem_cons.mpr member))
    rw [insertSorted]
    split
    next before =>
      refine List.pairwise_cons.mpr ⟨fun later member => ?_, ih newInRest restAscending⟩
      rcases List.mem_cons.mp ((perm_insertSorted entry rest).mem_iff.mp member) with rfl | inRest
      · exact precedes_iff.mp before
      · exact least later inRest
    next notBefore =>
      have before : entry.1 < first.1 :=
        lt_of_le_of_ne (not_lt.mp fun less => notBefore (precedes_iff.mpr less)) differs
      refine List.pairwise_cons.mpr ⟨fun later member => ?_, ascending⟩
      rcases List.mem_cons.mp member with rfl | inRest
      · exact before
      · exact before.trans (least later inRest)

theorem perm_foldr_insertSorted (entries : Entries Text) :
    (entries.foldr insertSorted []).Perm entries := by
  induction entries with
  | nil => exact .refl _
  | cons entry rest ih => exact (perm_insertSorted entry _).trans (ih.cons entry)

theorem perm_sortedContext (failure : Failure) : failure.sortedContext.Perm failure.context :=
  perm_foldr_insertSorted failure.context

theorem ascending_foldr_insertSorted (once : entries.names.Nodup) :
    (entries.foldr insertSorted []).Ascending := by
  induction entries with
  | nil => exact List.Pairwise.nil
  | cons entry rest ih =>
    obtain ⟨isNew, restOnce⟩ := List.nodup_cons.mp once
    refine ascending_insertSorted (fun member => isNew ?_) (ih restOnce)
    exact ((perm_foldr_insertSorted rest).map _).mem_iff.mp member

theorem ascending_sortedContext (once : failure.context.names.Nodup) :
    failure.sortedContext.Ascending :=
  ascending_foldr_insertSorted once

/-! ## Calls -/

/-- The value that the last of the calls for `key` has given. -/
def lastValue (calls : List (Text × Text)) (key : Text) : Option Text :=
  (calls.reverse.find? (·.1 = key)).map (·.2)

/-- The entries are the keys of the calls, each once, with the values that they were given last. -/
structure LastValues (calls : List (Text × Text)) (entries : Entries Text) : Prop where
  once : entries.names.Nodup
  mem_iff : ∀ key value, (key, value) ∈ entries ↔ lastValue calls key = some value

theorem lastValue_append_singleton (calls : List (Text × Text)) (key value other : Text) :
    lastValue (calls ++ [(key, value)]) other =
      if key = other then some value else lastValue calls other := by
  by_cases same : key = other <;> simp [lastValue, same]

theorem LastValues.put (left : LastValues calls entries) (key value : Text) :
    LastValues (calls ++ [(key, value)]) (entries.put key value) where
  once := nodup_put left.once key value
  mem_iff other found := by
    rw [mem_put left.once, lastValue_append_singleton, left.mem_iff]
    by_cases same : key = other
    · simp [same, eq_comm]
    · simp [same]

theorem LastValues.perm (left : LastValues calls entries) (perm : others.Perm entries) :
    LastValues calls others where
  once := (perm.map _).nodup_iff.mpr left.once
  mem_iff key value := perm.mem_iff.trans (left.mem_iff key value)

/-- Entries are themselves what is left if they are noted one after the other. -/
theorem lastValues_self (once : entries.names.Nodup) : LastValues entries entries := by
  induction entries using List.reverseRecOn with
  | nil => exact ⟨once, by simp [lastValue]⟩
  | append_singleton rest entry ih =>
    rw [names_append, List.nodup_append] at once
    obtain ⟨restOnce, -, apart⟩ := once
    have isNew : entry.1 ∉ names rest := fun member => apart _ member _ List.mem_cons_self rfl
    have noted := (ih restOnce).put entry.1 entry.2
    rwa [put_of_not_mem isNew] at noted

theorem LastValues.eq_nil_iff (left : LastValues calls entries) : entries = [] ↔ calls = [] := by
  constructor
  · rintro rfl
    cases calls using List.reverseRecOn with
    | nil => rfl
    | append_singleton front call =>
      have noted : lastValue (front ++ [call]) call.1 = some call.2 := by
        rw [lastValue_append_singleton, if_pos rfl]
      exact absurd ((left.mem_iff _ _).mpr noted) List.not_mem_nil
  · rintro rfl
    exact List.eq_nil_iff_forall_not_mem.mpr fun entry member =>
      Option.some_ne_none _ ((left.mem_iff entry.1 entry.2).mp member).symm

theorem LastValues.lastValue_eq (left : LastValues calls entries) (left' : LastValues more entries)
    (key : Text) : lastValue calls key = lastValue more key :=
  Option.ext fun value => (left.mem_iff key value).symm.trans (left'.mem_iff key value)

/-- Ascending entries that are left by calls depend on the values alone. -/
theorem LastValues.eq_iff (left : LastValues calls entries) (left' : LastValues more others)
    (ascending : entries.Ascending) (ascending' : others.Ascending) :
    entries = others ↔ ∀ key, lastValue calls key = lastValue more key := by
  constructor
  · rintro rfl
    exact left.lastValue_eq left'
  · intro same
    refine ascending.eq_of_mem_iff ascending' fun entry => ?_
    rw [left.mem_iff entry.1 entry.2, left'.mem_iff entry.1 entry.2, same]

/-- What has become of `start` after `calls` of `addContext`. The map lists its entries in an order of
its own, and may list them in another one at any time. -/
inductive After (start : Failure) : List (Text × Text) → Failure → Prop
  | start : After start [] start
  | call {calls : List (Text × Text)} {failure : Failure} (key value : Text) :
      After start calls failure → After start (calls ++ [(key, value)]) (failure.addContext key value)
  | shuffle {calls : List (Text × Text)} {failure : Failure} {entries : Entries Text} :
      After start calls failure → entries.Perm failure.context →
      After start calls { failure with context := entries }

theorem After.lastValues (once : start.context.names.Nodup) (after : After start calls failure) :
    LastValues (start.context ++ calls) failure.context := by
  -- a call sets the value of one key, and nothing depends on where in the map the key stands
  induction after with
  | start =>
    rw [List.append_nil]
    exact lastValues_self once
  | call key value _ ih =>
    rw [← List.append_assoc]
    exact ih.put key value
  | shuffle _ perm ih => exact ih.perm perm

/-! ## The text -/

/-- Code, category and message. -/
def headline (failure : Failure) : Text :=
  '[' :: (failure.category.code ++ ']' :: ' ' :: (failure.category.name ++ ':' :: ' ' ::
    failure.message))

def entryText : Text × Text → Text := fun (key, value) =>
  '(' :: (key.quoted ++ ',' :: ' ' :: (value.quoted ++ [')']))

/-- What the text of a failure shows of its context. -/
def contextPart : Entries Text → Text
  | [] => []
  | entries => " (Context: [".toList ++ join ", ".toList (entries.map entryText) ++ "])".toList

/-- What stands behind an entry: the entries that follow it, and the end. -/
def behindEntry : Entries Text → Text
  | [] => "])".toList
  | entry :: rest => ", ".toList ++ (entryText entry ++ behindEntry rest)

theorem text_eq (failure : Failure) :
    failure.text = failure.headline ++ contextPart failure.sortedContext := by
  have empty : failure.context.isEmpty = failure.sortedContext.isEmpty :=
    (perm_sortedContext failure).isEmpty_eq.symm
  unfold text headline
  rw [empty]
  simp only [List.cons_append, List.append_assoc]
  cases failure.sortedContext <;> rfl

theorem contextPart_cons (entry : Text × Text) (rest : Entries Text) :
    contextPart (entry :: rest) = " (Context: [".toList ++ (entryText entry ++ behindEntry rest) := by
  have entries : ∀ first, join ", ".toList ((first :: rest).map entryText) ++ "])".toList =
      entryText first ++ behindEntry rest := by
    induction rest with
    | nil =>
      intro first
      rw [List.map_singleton, join, List.intercalate_singleton, behindEntry]
    | cons second more ih =>
      intro first
      rw [List.map_cons, List.map_cons, join_cons_cons, ← List.map_cons, List.append_assoc,
        List.append_assoc, ih, behindEntry]
  rw [contextPart, List.append_assoc, entries]
  simp

/-- An entry ends where its second quoted text does. -/
theorem entryText_append_inj {first second : Text × Text} {before after : Text}
    (same : entryText first ++ before = entryText second ++ after) :
    first = second ∧ before = after := by
  obtain ⟨key, value⟩ := first
  obtain ⟨otherKey, otherValue⟩ := second
  simp only [entryText, List.cons_append, List.append_assoc, List.cons.injEq, true_and] at same
  obtain ⟨rfl, values⟩ := quotedWith_append_inj same
  simp only [List.cons.injEq, true_and] at values
  obtain ⟨rfl, behind⟩ := quotedWith_append_inj values
  exact ⟨rfl, (List.cons.inj behind).2⟩

theorem behindEntry_inj (same : behindEntry entries = behindEntry others) : entries = others := by
  induction entries generalizing others with
  | nil =>
    cases others with
    | nil => rfl
    | cons entry rest => exact absurd (List.cons.inj same).1 (by decide)
  | cons entry rest ih =>
    cases others with
    | nil => exact absurd (List.cons.inj same).1 (by decide)
    | cons other more =>
      obtain ⟨rfl, behind⟩ := entryText_append_inj (List.append_cancel_left same)
      rw [ih behind]

theorem contextPart_inj (same : contextPart entries = contextPart others) : entries = others := by
  cases entries with
  | nil =>
    cases others with
    | nil => rfl
    | cons entry rest => cases same
  | cons entry rest =>
    cases others with
    | nil => cases same
    | cons other more =>
      rw [contextPart_cons, contextPart_cons] at same
      obtain ⟨rfl, behind⟩ := entryText_append_inj (List.append_cancel_left same)
      rw [behindEntry_inj behind]

/-! ## Whatever was called -/

theorem After.headline_eq (after : After start calls failure) :
    failure.headline = start.headline := by
  induction after with
  | start => rfl
  | call _ _ _ ih => exact ih
  | shuffle _ _ ih => exact ih

theorem After.text_eq (after : After start calls failure) :
    failure.text = start.headline ++ contextPart failure.sortedContext := by
  rw [← after.headline_eq, Failure.text_eq]

theorem After.sorted (once : start.context.names.Nodup) (after : After start calls failure) :
    LastValues (start.context ++ calls) failure.sortedContext ∧ failure.sortedContext.Ascending := by
  have left := after.lastValues once
  exact ⟨left.perm (perm_sortedContext failure), ascending_sortedContext left.once⟩

/-- What the text of a failure tells of the calls by which it has come from `start`. The context that
`start` has already counts as calls made before. -/
structure Displays (start : Failure) (calls : List (Text × Text)) (failure : Failure) : Prop where
  shown : ∃ entries, failure.text = start.headline ++ contextPart entries
  /-- Whatever entries the text is read as, they are each key once, with its last value, and the keys
  ascend. -/
  entries : ∀ entries, failure.text = start.headline ++ contextPart entries →
    LastValues (start.context ++ calls) entries ∧ entries.Ascending
  bare : failure.text = start.headline ↔ start.context ++ calls = []
  /-- The order of the calls, the values that were replaced and the order of the map do not matter. -/
  same : ∀ more other, After start more other → (other.text = failure.text ↔
    ∀ key, lastValue (start.context ++ more) key = lastValue (start.context ++ calls) key)

theorem displays_after (once : start.context.names.Nodup) (after : After start calls failure) :
    Displays start calls failure := by
  obtain ⟨left, ascending⟩ := after.sorted once
  constructor
  · exact ⟨_, after.text_eq⟩
  · intro entries shown
    rw [after.text_eq] at shown
    obtain rfl := contextPart_inj (List.append_cancel_left shown)
    exact ⟨left, ascending⟩
  · rw [← left.eq_nil_iff, after.text_eq, List.append_right_eq_self]
    exact ⟨@contextPart_inj _ [], congrArg contextPart⟩
  · intro more other after'
    obtain ⟨left', ascending'⟩ := after'.sorted once
    rw [← left'.eq_iff left ascending' ascending, after.text_eq, after'.text_eq,
      List.append_cancel_left_eq]
    exact ⟨contextPart_inj, congrArg contextPart⟩

/-! A marker is missing; which one and where is noted later, in two ways. -/

def unmarked : Failure := (of .markerNotFound "no marker".toList).addContext "path".toList []

def notedOnce : List (Text × Text) :=
  [("path".toList, "a.md".toList), ("marker".toList, "\"end\"".toList)]

def notedTwice : List (Text × Text) :=
  [("marker".toList, "start".toList), ("path".toList, "a.md".toList),
    ("marker".toList, "\"end\"".toList)]

theorem displays_after_shuffled :
    After unmarked notedOnce { unmarked with context := notedOnce } ∧
      After unmarked notedTwice { unmarked with context := notedOnce.reverse } ∧
      Displays unmarked notedOnce { unmarked with context := notedOnce } ∧
      { unmarked with context := notedOnce.reverse }.text =
        { unmarked with context := notedOnce }.text := by
  have once : unmarked.context.names.Nodup := List.nodup_singleton _
  have after : After unmarked notedOnce { unmarked with context := notedOnce } :=
    .call _ _ (.call _ _ .start)
  have inOrder : After unmarked notedTwice { unmarked with context := notedOnce } :=
    .call _ _ (.call _ _ (.call _ _ .start))
  have after' : After unmarked notedTwice { unmarked with context := notedOnce.reverse } :=
    inOrder.shuffle (List.reverse_perm notedOnce)
  have displays := displays_after once after
  refine ⟨after, after', displays, (displays.same _ _ after').mpr ?_⟩
  exact (inOrder.lastValues once).lastValue_eq (after.lastValues once)

end Failure

end WorkflowDocs
