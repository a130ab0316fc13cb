import WorkflowDocs.Proofs.Files.Content

/-!
# Changes at one place and moves

A file that is written, given other permissions or removed changes a tree at one place, and no walk
notices. A file that is moved over another name may take the place of a link; then only paths that
went through that link lead elsewhere.

Results:
1. `Touched.content?_eq`: a path that does not lead to the touched place keeps its content.
2. `Moved.content?_of_ne`, `Moved.content?_target`: the same for a move, and what the name that
   is moved to leads to.
3. `content?_of_write`, `content?_of_setMode`, `mode_of_write`: what any path finds after a write or
   a change of permissions, wherever it leads.
-/

namespace WorkflowDocs.FileTree

variable {tree middle changed : FileTree} {path staging other : Text} {place goal spot : Location}
  {content : Content} {mode : Nat}

/-! ## One place touched -/

/-- The trees differ at `spot` only, and no walk can tell. -/
structure Touched (tree changed : FileTree) (spot : Option Location) : Prop where
  stays : changed.workingDirectory = tree.workingDirectory
  same : ∀ place, spot ≠ some place → changed.entry? place = tree.entry? place
  similar : ∀ place, Similar tree changed place

namespace Touched

variable {spot : Option Location}

theorem refl (tree : FileTree) (spot : Option Location) : Touched tree tree spot :=
  ⟨rfl, fun _ _ => rfl, fun _ => .inl rfl⟩

theorem trans (first : Touched tree middle spot) (second : Touched middle changed spot) :
    Touched tree changed spot where
  stays := second.stays.trans first.stays
  same place elsewhere := (second.same place elsewhere).trans (first.same place elsewhere)
  similar place := (first.similar place).trans (second.similar place)

theorem place?_eq (touched : Touched tree changed spot) :
    changed.place? path = tree.place? path :=
  place?_of_similar touched.stays touched.similar

theorem goal?_eq (touched : Touched tree changed spot) : changed.goal? path = tree.goal? path :=
  goal?_of_similar touched.stays touched.similar

theorem isLink_eq_false (touched : Touched tree changed spot) (plain : tree.isLink place = false) :
    changed.isLink place = false := by
  rcases touched.similar place with equal | ⟨_, plain', _⟩
  · rwa [isLink, equal]
  · exact plain'

/-- A path that leads elsewhere keeps its content. -/
theorem content?_eq (touched : Touched tree changed spot)
    (elsewhere : ∀ goal, spot = some goal → tree.goal? path ≠ some goal) :
    changed.content? path = tree.content? path := by
  ext content
  rw [content?_eq_some_iff, content?_eq_some_iff, touched.goal?_eq]
  constructor
  · rintro ⟨goal, mode, leads, here⟩
    refine ⟨goal, mode, leads, ?_⟩
    rwa [touched.same goal fun equal => elsewhere goal equal leads] at here
  · rintro ⟨goal, mode, leads, here⟩
    refine ⟨goal, mode, leads, ?_⟩
    rwa [touched.same goal fun equal => elsewhere goal equal leads]

theorem mode_eq_ok_iff (touched : Touched tree changed spot)
    (elsewhere : ∀ goal, spot = some goal → tree.goal? path ≠ some goal) :
    changed.mode path = .ok mode ↔ tree.mode path = .ok mode := by
  rw [FileTree.mode_eq_ok_iff, FileTree.mode_eq_ok_iff, touched.goal?_eq]
  refine exists_congr fun goal => and_congr_right fun leads => ?_
  rw [touched.same goal fun equal => elsewhere goal equal leads]

end Touched

theorem touched_put {entry : Entry} (plain : tree.isLink place = false)
    (plain' : ∀ target, entry ≠ .link target)
    (kind : tree.isDirectory place = true ↔ ∃ mode, entry = .directory mode) :
    Touched tree (tree.put place entry) (some place) where
  stays := rfl
  same other elsewhere := entry?_put_of_ne fun equal => elsewhere (equal ▸ rfl)
  similar other := by
    by_cases equal : other = place
    · subst equal
      by_cases inner : other = []
      · subst inner
        exact .inl rfl
      · have after := @entry?_put_self tree other entry inner
        refine .inr ⟨plain, ?_, ?_⟩
        · cases entry <;> simp_all [isLink]
        · rw [Bool.eq_iff_iff, kind, isDirectory, after]
          cases entry <;> simp
    · exact .inl (entry?_put_of_ne equal)

theorem touched_erase (plain : tree.isLink place = false) (flat : tree.isDirectory place = false) :
    Touched tree (tree.erase place) (some place) where
  stays := rfl
  same other elsewhere := entry?_erase_of_ne fun equal => elsewhere (equal ▸ rfl)
  similar other := by
    by_cases equal : other = place
    · subst equal
      have inner : other ≠ [] := by
        rintro rfl
        cases flat
      have after := @entry?_erase_self tree other inner
      refine .inr ⟨plain, ?_, ?_⟩
      · simp [isLink, after]
      · rw [flat, isDirectory, after]
    · exact .inl (entry?_erase_of_ne equal)

/-- Whatever a write leaves, it leaves in the file that the path leads to. -/
theorem touched_of_opened {file : Option (Content × Nat)}
    (opened : tree.openForWriting path = .ok (place, file)) (left : Content) (mode : Nat) :
    tree.goal? path = some place ∧ place ≠ [] ∧
      Touched tree (tree.put place (.file left mode)) (some place) := by
  obtain ⟨leads, here⟩ := openForWriting_eq_ok opened
  have noLink : tree.isLink place = false := by
    unfold isLink
    cases file <;> simp [here]
  have flat : tree.isDirectory place = false := by
    unfold isDirectory
    cases file <;> simp [here]
  refine ⟨leads, ?_, touched_put noLink (by simp) (by simp [flat])⟩
  rintro rfl
  cases flat

/-- Other permissions touch what the path leads to, and change nothing else of it. -/
theorem touched_of_permitted (done : tree.setMode path mode = .ok changed) :
    ∃ place, tree.goal? path = some place ∧ Touched tree changed (some place) ∧
      ((∃ content before, tree.entry? place = some (.file content before) ∧
          changed.entry? place = some (.file content mode)) ∨
        tree.isDirectory place = true ∧ changed.isDirectory place = true) := by
  obtain ⟨goal, leads, kinds⟩ := setMode_eq_ok done
  rcases kinds with ⟨content, before, here, rfl⟩ | ⟨before, here, rfl⟩
  · have inner : goal ≠ [] := by
      rintro rfl
      cases here
    have touched : Touched tree (tree.put goal (.file content mode)) (some goal) :=
      touched_put (by simp [isLink, here]) (by simp) (by simp [isDirectory, here])
    exact ⟨goal, leads, touched, .inl ⟨content, before, here, entry?_put_self inner⟩⟩
  · have touched : Touched tree (tree.put goal (.directory mode)) (some goal) :=
      touched_put (by simp [isLink, here]) (by simp) (by simp [isDirectory, here])
    have directory : tree.isDirectory goal = true := by simp [isDirectory, here]
    exact ⟨goal, leads, touched,
      .inr ⟨directory, (touched.similar goal).isDirectory_eq.trans directory⟩⟩

/-! ## What other paths find -/

/-- A path finds after a write what it found before, or all of the text. -/
theorem content?_of_write {text : Text} (written : tree.write staging text = .ok changed) :
    changed.content? path = tree.content? path ∨ changed.content? path = some (.text text) := by
  obtain ⟨place, file, opened, rfl⟩ := write_eq_ok written
  obtain ⟨_, inner, touched⟩ := touched_of_opened opened (.text text)
    ((file.map (·.2)).getD fileMode)
  by_cases leads : tree.goal? path = some place
  · exact .inr (content?_eq_some_iff.mpr
      ⟨place, _, touched.goal?_eq.trans leads, entry?_put_self inner⟩)
  · refine .inl (touched.content?_eq ?_)
    rintro _ ⟨⟩
    exact leads

/-- A write leaves every file its permissions. -/
theorem mode_of_write {text : Text} (written : tree.write staging text = .ok changed)
    (found : tree.content? path = some content) (known : changed.mode path = .ok mode) :
    tree.mode path = .ok mode := by
  obtain ⟨place, file, opened, rfl⟩ := write_eq_ok written
  obtain ⟨_, here⟩ := openForWriting_eq_ok opened
  obtain ⟨_, inner, touched⟩ := touched_of_opened opened (.text text)
    ((file.map (·.2)).getD fileMode)
  obtain ⟨goal, before, leads, here'⟩ := content?_eq_some_iff.mp found
  obtain ⟨goal', leads', kinds⟩ := mode_eq_ok_iff.mp known
  obtain rfl : goal = goal' := Option.some.inj (leads.symm.trans (touched.goal?_eq.symm.trans leads'))
  by_cases equal : goal = place
  · -- the file that was there is the one that was written
    subst equal
    rw [here'] at here
    cases file with
    | none => cases here
    | some held =>
      cases here
      rw [ entry?_put_self inner] at kinds
      obtain ⟨_, same⟩ | impossible := kinds
      · cases same
        exact mode_eq_ok_iff.mpr ⟨goal, leads, .inl ⟨_, here'⟩⟩
      · cases impossible
  · rw [ entry?_put_of_ne equal] at kinds
    exact mode_eq_ok_iff.mpr ⟨goal, leads, kinds⟩

theorem content?_of_isDirectory (leads : tree.goal? path = some place)
    (directory : tree.isDirectory place = true) : tree.content? path = none := by
  refine Option.eq_none_iff_forall_ne_some.mpr fun content found => ?_
  obtain ⟨goal, mode, leads', here⟩ := content?_eq_some_iff.mp found
  cases leads.symm.trans leads'
  simp [isDirectory, here] at directory

/-- Permissions are no content. -/
theorem content?_of_setMode (done : tree.setMode staging mode = .ok changed) :
    changed.content? path = tree.content? path := by
  obtain ⟨place, _, touched, kinds⟩ := touched_of_permitted done
  by_cases leads : tree.goal? path = some place
  · have leads' : changed.goal? path = some place := touched.goal?_eq.trans leads
    rcases kinds with ⟨content, before, here, after⟩ | ⟨directory, directory'⟩
    · rw [content?_eq_some_iff.mpr ⟨place, before, leads, here⟩,
        content?_eq_some_iff.mpr ⟨place, mode, leads', after⟩]
    · rw [content?_of_isDirectory leads directory, content?_of_isDirectory leads' directory']
  · refine touched.content?_eq ?_
    rintro _ ⟨⟩
    exact leads

/-! ## Operations on a name that is no link -/

/-- The name is no link. -/
def Plain (tree : FileTree) (path : Text) : Prop :=
  ∀ place, tree.place? path = some place → tree.isLink place = false

theorem Plain.place?_of_goal? (plain : Plain tree path) (leads : tree.goal? path = some goal) :
    tree.place? path = some goal := by
  obtain here | ⟨spot, target, _, here, link, _⟩ := FileTree.place?_of_goal? leads
  · exact here
  · have := plain spot here
    simp [isLink_of_link link] at this

theorem Touched.plain {spot : Option Location} (touched : Touched tree changed spot)
    (plain : Plain tree path) : Plain changed path := by
  intro place here
  rw [touched.place?_eq] at here
  exact touched.isLink_eq_false (plain place here)

/-- If the name is no link, the file is the one that it names. -/
theorem touched_of_write {file : Option (Content × Nat)} (plain : Plain tree path)
    (opened : tree.openForWriting path = .ok (place, file)) (left : Content) (mode : Nat) :
    tree.place? path = some place ∧ place ≠ [] ∧
      Touched tree (tree.put place (.file left mode)) (tree.place? path) := by
  obtain ⟨leads, inner, touched⟩ := touched_of_opened opened left mode
  have own := plain.place?_of_goal? leads
  rw [own]
  exact ⟨rfl, inner, touched⟩

/-- Other permissions change nothing else of what stands at the name. -/
theorem touched_of_setMode (plain : Plain tree path)
    (done : tree.setMode path mode = .ok changed) :
    Touched tree changed (tree.place? path) ∧ ∃ place, tree.place? path = some place ∧
      ((∃ content before, tree.entry? place = some (.file content before) ∧
          changed.entry? place = some (.file content mode)) ∨
        tree.isDirectory place = true ∧ changed.isDirectory place = true) := by
  obtain ⟨goal, leads, touched, kinds⟩ := touched_of_permitted done
  rw [plain.place?_of_goal? leads]
  exact ⟨touched, goal, rfl, kinds⟩

theorem touched_of_remove (plain : Plain tree path) (removed : tree.remove path = .ok changed) :
    Touched tree changed (tree.place? path) ∧
      ∀ place, tree.place? path = some place → changed.entry? place = none := by
  obtain ⟨place, entry, own, here, flat, rfl⟩ := remove_eq_ok removed
  rw [own]
  refine ⟨touched_erase (plain place own) flat, ?_⟩
  rintro _ ⟨⟩
  refine entry?_erase_self ?_
  rintro rfl
  cases flat

/-! ## Moves -/

/-- The file at `source` has moved to `target`, where a name stood that led to the file `final`. -/
structure Moved (tree changed : FileTree) (source target final : Location) (content : Content)
    (mode : Nat) : Prop where
  stays : changed.workingDirectory = tree.workingDirectory
  gone : changed.entry? source = none
  arrived : changed.entry? target = some (.file content mode)
  same : ∀ place, place ≠ source → place ≠ target → changed.entry? place = tree.entry? place
  each : ∀ spot, Similar tree changed spot ∨ Cut tree changed final spot

variable {source target final : Location}

/-- The path leads to a place where a file is or can be made. -/
structure Leaf (tree : FileTree) (path : Text) (final : Location) : Prop where
  leads : tree.goal? path = some final
  plain : tree.isLink final = false
  flat : tree.isDirectory final = false

theorem leaf_of_content? (file : tree.content? path = some content) :
    ∃ final, Leaf tree path final := by
  obtain ⟨goal, mode, leads, here⟩ := content?_eq_some_iff.mp file
  exact ⟨goal, leads, by simp [isLink, here], by simp [isDirectory, here]⟩

theorem Touched.leaf {spot : Option Location} (touched : Touched tree changed spot)
    (leaf : Leaf tree path final) : Leaf changed path final where
  leads := touched.goal?_eq.trans leaf.leads
  plain := touched.isLink_eq_false leaf.plain
  flat := (touched.similar final).isDirectory_eq.trans leaf.flat

/-- A walk that ended at a leaf, through a link perhaps, and one that meets a file at the name. -/
theorem similar_or_cut (leaf : Leaf tree path final) (own : tree.place? path = some target)
    (plain : changed.isLink target = false) (flat : changed.isDirectory target = false) :
    Similar tree changed target ∨ Cut tree changed final target := by
  cases link : tree.isLink target with
  | false =>
    have same := goal?_of_place? own link
    rw [leaf.leads] at same
    cases same
    exact .inl (.inr ⟨link, plain, by rw [flat, leaf.flat]⟩)
  | true =>
    obtain own' | ⟨spot, text, n, own', found, after⟩ := place?_of_goal? leaf.leads
    · rw [own] at own'
      cases own'
      simp [leaf.plain] at link
    · rw [own] at own'
      cases own'
      refine .inr ⟨link, leaf.flat, ?_, plain, flat⟩
      intro text' m goal found' after'
      rw [found] at found'
      cases found'
      exact after'.unique after

theorem moved_of_rename (moved : tree.rename staging path = .ok changed)
    (own : tree.place? staging = some source)
    (here : tree.entry? source = some (.file content mode))
    (own' : tree.place? path = some target) (apart : source ≠ target)
    (leaf : Leaf tree path final) : Moved tree changed source target final content mode := by
  obtain ⟨source', target', entry, place, place', here', flat, flat', rfl⟩ := rename_eq_ok moved
  rw [own] at place
  cases place
  rw [own'] at place'
  cases place'
  rw [here] at here'
  cases here'
  rw [if_neg apart]
  have inner : source ≠ [] := by
    rintro rfl
    cases flat
  have inner' : target ≠ [] := by
    rintro rfl
    cases flat'
  have gone : entry? ((tree.erase source).put target (.file content mode)) source = none := by
    rw [ entry?_put_of_ne apart, entry?_erase_self inner]
  have arrived : entry? ((tree.erase source).put target (.file content mode)) target =
      some (.file content mode) := entry?_put_self inner'
  have same : ∀ place, place ≠ source → place ≠ target →
      entry? ((tree.erase source).put target (.file content mode)) place = tree.entry? place :=
    fun place first second => by rw [ entry?_put_of_ne second, entry?_erase_of_ne first]
  refine ⟨rfl, gone, arrived, same, fun spot => ?_⟩
  -- at the source a file has gone, at the target a file stands where a link may have stood
  by_cases atSource : spot = source
  · subst atSource
    exact .inl (.inr ⟨by simp [isLink, here], by simp [isLink, gone],
      by simp [isDirectory, here, gone]⟩)
  · by_cases atTarget : spot = target
    · subst atTarget
      exact similar_or_cut leaf own' (by simp [isLink, arrived]) (by simp [isDirectory, arrived])
    · exact .inl (.inl (same spot atSource atTarget))

namespace Moved

theorem place?_eq (moved : Moved tree changed source target final content mode)
    (own : tree.place? other = some place) : changed.place? other = some place := by
  obtain ⟨usable, leads⟩ := place?_eq_some_iff.mp own
  rw [place?_eq_some_iff, start, moved.stays]
  refine ⟨usable, leads.transfer fun spot => (moved.each spot).imp_right fun cut => ?_⟩
  exact ⟨final, cut, by simp⟩

theorem goal?_eq (moved : Moved tree changed source target final content mode)
    (leads : tree.goal? other = some goal) (elsewhere : goal ≠ final) :
    changed.goal? other = some goal := by
  obtain ⟨usable, leads⟩ := goal?_eq_some_iff.mp leads
  rw [goal?_eq_some_iff, start, moved.stays]
  exact ⟨usable, leads.transfer fun spot => (moved.each spot).imp_right fun cut =>
    ⟨final, cut, fun _ => elsewhere⟩⟩

/-- A path that led to another file than the source and the one that had the name before keeps its
content. -/
theorem content?_of_ne (moved : Moved tree changed source target final content mode)
    {before : Content} (own : tree.place? path = some target)
    (leads : tree.goal? path = some final) (found : tree.content? other = some before)
    (elsewhere : tree.goal? other ≠ some final) (elsewhere' : tree.goal? other ≠ some source) :
    changed.content? other = some before := by
  obtain ⟨goal, mode', leads', here⟩ := content?_eq_some_iff.mp found
  have differ : goal ≠ final := fun equal => elsewhere (equal ▸ leads')
  refine content?_eq_some_iff.mpr ⟨goal, mode', moved.goal?_eq leads' differ, ?_⟩
  rw [moved.same goal fun equal => elsewhere' (equal ▸ leads')]
  · exact here
  · -- the name of the target led to another file or was a link, so no file stood there
    rintro rfl
    have plain : tree.isLink goal = false := by simp [isLink, here]
    have same := goal?_of_place? own plain
    rw [leads] at same
    cases same
    exact differ rfl

/-- The name that was moved to leads to the file. -/
theorem goal?_target (moved : Moved tree changed source target final content mode)
    (own : tree.place? path = some target) : changed.goal? path = some target :=
  goal?_of_place? (moved.place?_eq own) (by simp [isLink, moved.arrived])

theorem content?_target (moved : Moved tree changed source target final content mode)
    (own : tree.place? path = some target) : changed.content? path = some content :=
  content?_eq_some_iff.mpr ⟨target, mode, moved.goal?_target own, moved.arrived⟩

theorem leaf_target (moved : Moved tree changed source target final content mode)
    (own : tree.place? path = some target) : Leaf changed path target :=
  ⟨moved.goal?_target own, by simp [isLink, moved.arrived], by simp [isDirectory, moved.arrived]⟩

theorem mode_target (moved : Moved tree changed source target final content mode)
    (own : tree.place? path = some target) : changed.mode path = .ok mode :=
  mode_eq_ok_iff.mpr ⟨target, moved.goal?_target own, .inl ⟨content, moved.arrived⟩⟩

end Moved

end WorkflowDocs.FileTree
