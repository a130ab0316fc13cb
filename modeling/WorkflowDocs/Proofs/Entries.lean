import Mathlib.Data.List.Induction
import Mathlib.Data.List.Nodup
import WorkflowDocs.Entries

/-!
# Named entries without repetition

A list of pairs may repeat a name, entries do not. Within one list the last specification of a
name is kept, at the place of the first one; of two collections the first one's is.

Results:
1. `names_ofPairs`, `mem_ofPairs`: the names of a list of pairs, each at its first place, and the
   specification each of them ends up with.
2. `union_eq`: a union is its first part, followed by what the second part has under other names.
3. `nodup_union`: it repeats no name if its parts repeat none.
-/

namespace WorkflowDocs.Entries

variable {α : Type}

/-- The names in their order. -/
def names (entries : Entries α) : List Text := entries.map (·.1)

@[simp] theorem names_cons (entry : Text × α) (rest : Entries α) :
    names (entry :: rest) = entry.1 :: names rest := rfl

@[simp] theorem names_append (first second : Entries α) :
    names (first ++ second) = first.names ++ second.names := List.map_append

theorem mem_names {entries : Entries α} {name : Text} :
    name ∈ entries.names ↔ ∃ spec, (name, spec) ∈ entries := by
  simp [names]

/-! ## One more pair -/

theorem names_put (name : Text) (spec : α) (entries : Entries α) :
    (put name spec entries).names =
      if name ∈ entries.names then entries.names else entries.names ++ [name] := by
  induction entries with
  | nil => rfl
  | cons entry rest ih =>
    obtain ⟨other, old⟩ := entry
    by_cases same : other = name
    · simp [put, same]
    · have isNot : name ≠ other := fun equal => same equal.symm
      rw [put, if_neg same, names_cons, ih]
      by_cases present : name ∈ names rest <;> simp [present, isNot]

theorem put_of_not_mem {entries : Entries α} {name : Text} (absent : name ∉ entries.names)
    (spec : α) : put name spec entries = entries ++ [(name, spec)] := by
  induction entries with
  | nil => rfl
  | cons entry rest ih =>
    obtain ⟨isOther, absentInRest⟩ := not_or.mp fun member => absent (List.mem_cons.mpr member)
    rw [put, if_neg (Ne.symm isOther), ih absentInRest, List.cons_append]

theorem nodup_put {entries : Entries α} (once : entries.names.Nodup) (name : Text) (spec : α) :
    (put name spec entries).names.Nodup := by
  rw [names_put]
  by_cases present : name ∈ entries.names
  · rwa [if_pos present]
  · rw [if_neg present]
    exact List.nodup_append.2 ⟨once, List.nodup_singleton name, by
      intro a inEntries b isName
      rw [List.mem_singleton.1 isName]
      rintro rfl
      exact present inEntries⟩

/-- Putting a pair sets the specification of its name and of no other. Without repeated names the
position at which the name is found does not matter. -/
theorem mem_put {entries : Entries α} (once : entries.names.Nodup) (name other : Text)
    (spec found : α) :
    (other, found) ∈ put name spec entries ↔
      if name = other then found = spec else (other, found) ∈ entries := by
  induction entries with
  | nil =>
    by_cases same : name = other
    · simp [put, same]
    · simp [put, same, Ne.symm same]
  | cons entry rest ih =>
    obtain ⟨first, old⟩ := entry
    obtain ⟨fresh, restOnce⟩ := List.nodup_cons.1 once
    have absent : ∀ spec', (first, spec') ∉ rest := fun spec' inRest =>
      fresh (List.mem_map.2 ⟨_, inRest, rfl⟩)
    by_cases here : first = name
    · subst here
      by_cases same : first = other
      · subst same
        simp [put, absent]
      · simp [put, same, Ne.symm same]
    · rw [put, if_neg here, List.mem_cons, ih restOnce]
      by_cases same : name = other
      · have elsewhere : other ≠ first := fun equal => here (equal.symm.trans same.symm)
        simp [same, elsewhere]
      · simp [same]

/-! ## A list of pairs -/

theorem ofPairs_append_singleton (pairs : List (Text × α)) (name : Text) (spec : α) :
    ofPairs (pairs ++ [(name, spec)]) = (ofPairs pairs).put name spec := by
  simp [ofPairs]

theorem nodup_ofPairs (pairs : List (Text × α)) : (ofPairs pairs).names.Nodup := by
  induction pairs using List.reverseRecOn with
  | nil => exact List.nodup_nil
  | append_singleton pairs pair ih =>
    rw [ofPairs_append_singleton]
    exact nodup_put ih _ _

/-- Each name once, in the order in which they come first. -/
theorem names_ofPairs (pairs : List (Text × α)) :
    (ofPairs pairs).names = (pairs.map (·.1)).eraseDups := by
  induction pairs using List.reverseRecOn with
  | nil => rfl
  | append_singleton pairs pair ih =>
    rw [ofPairs_append_singleton, names_put, ih, List.map_append, List.eraseDups_append]
    by_cases present : pair.1 ∈ pairs.map (·.1)
    · have nothingNew : [pair.1].removeAll (pairs.map (·.1)) = [] := by
        simpa [List.removeAll] using present
      rw [if_pos (List.mem_eraseDups.2 present), List.map_singleton, nothingNew,
        List.eraseDups_nil, List.append_nil]
    · have isNew : [pair.1].removeAll (pairs.map (·.1)) = [pair.1] := by
        simpa [List.removeAll] using present
      rw [if_neg (fun inNames => present (List.mem_eraseDups.1 inNames)), List.map_singleton,
        isNew, List.eraseDups_cons]
      rfl

/-- A name has the specification of the last pair with that name. -/
theorem mem_ofPairs (pairs : List (Text × α)) (name : Text) (spec : α) :
    (name, spec) ∈ ofPairs pairs ↔
      (pairs.filter (·.1 = name)).getLast? = some (name, spec) := by
  induction pairs using List.reverseRecOn with
  | nil => simp [ofPairs]
  | append_singleton pairs pair ih =>
    obtain ⟨last, lastSpec⟩ := pair
    rw [ofPairs_append_singleton, mem_put (nodup_ofPairs pairs), List.filter_append]
    by_cases same : last = name
    · simp [same, eq_comm]
    · simp [same, ih]

/-! ## Two collections -/

theorem union_cons (first rest : Entries α) (name : Text) (spec : α) :
    first.union ((name, spec) :: rest) = (first.putNew name spec).union rest := rfl

theorem putNew_of_mem {first : Entries α} {name : Text} (present : name ∈ first.names) (spec : α) :
    first.putNew name spec = first := by
  have inFirst : first.any (·.1 = name) = true := by simpa [mem_names] using present
  rw [putNew, if_pos inFirst]

theorem putNew_of_not_mem {first : Entries α} {name : Text} (absent : name ∉ first.names)
    (spec : α) : first.putNew name spec = first ++ [(name, spec)] := by
  have notInFirst : ¬first.any (·.1 = name) = true := by simpa [mem_names] using absent
  rw [putNew, if_neg notInFirst]

theorem mem_names_putNew {first : Entries α} {name other : Text} (spec : α) :
    other ∈ (first.putNew name spec).names ↔ other ∈ first.names ∨ other = name := by
  by_cases present : name ∈ first.names
  · rw [putNew_of_mem present]
    exact ⟨Or.inl, fun either => either.elim id fun equal => equal ▸ present⟩
  · rw [putNew_of_not_mem present, names_append, List.mem_append]
    exact or_congr_right List.mem_singleton

/-- A union keeps its first part, and adds what the second part has under other names. -/
theorem union_eq (first : Entries α) {second : Entries α} (once : second.names.Nodup) :
    first.union second = first ++ second.filter (fun entry => entry.1 ∉ first.names) := by
  induction second generalizing first with
  | nil => simp [union]
  | cons entry rest ih =>
    obtain ⟨name, spec⟩ := entry
    obtain ⟨fresh, restOnce⟩ := List.nodup_cons.1 once
    -- the names added meanwhile are not those still to come
    have unchanged : rest.filter (fun entry => entry.1 ∉ (first.putNew name spec).names) =
        rest.filter (fun entry => entry.1 ∉ first.names) := by
      refine List.filter_congr fun entry inRest => ?_
      have other : entry.1 ≠ name := fun equal =>
        fresh (List.mem_map.2 ⟨entry, inRest, equal⟩)
      rw [decide_eq_decide, mem_names_putNew]
      simp [other]
    rw [union_cons, ih _ restOnce, unchanged]
    by_cases present : name ∈ first.names
    · rw [putNew_of_mem present, List.filter_cons_of_neg (by simpa using present)]
    · rw [putNew_of_not_mem present, List.filter_cons_of_pos (by simpa using present),
        List.append_assoc, List.singleton_append]

theorem mem_names_union {first second : Entries α} (once : second.names.Nodup) {name : Text} :
    name ∈ (first.union second).names ↔ name ∈ first.names ∨ name ∈ second.names := by
  rw [union_eq first once, names_append, List.mem_append]
  constructor
  · rintro (inFirst | inRest)
    · exact .inl inFirst
    · obtain ⟨spec, member⟩ := mem_names.mp inRest
      exact .inr (mem_names.mpr ⟨spec, List.mem_of_mem_filter member⟩)
  · rintro (inFirst | inSecond)
    · exact .inl inFirst
    · by_cases inFirst : name ∈ first.names
      · exact .inl inFirst
      · obtain ⟨spec, member⟩ := mem_names.mp inSecond
        exact .inr (mem_names.mpr ⟨spec, List.mem_filter.mpr ⟨member, decide_eq_true inFirst⟩⟩)

theorem nodup_union {first second : Entries α} (firstOnce : first.names.Nodup)
    (secondOnce : second.names.Nodup) : (first.union second).names.Nodup := by
  rw [union_eq first secondOnce, names, List.map_append, List.nodup_append]
  refine ⟨firstOnce, secondOnce.sublist (List.filter_sublist.map _), ?_⟩
  intro a inFirst b inSecond
  obtain ⟨entry, kept, rfl⟩ := List.mem_map.1 inSecond
  rintro rfl
  exact of_decide_eq_true (List.mem_filter.1 kept).2 inFirst

end WorkflowDocs.Entries
