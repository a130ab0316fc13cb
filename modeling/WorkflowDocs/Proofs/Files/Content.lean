import WorkflowDocs.Proofs.Files.Walk

/-!
# What paths name

A path names a place, where a link may stand, and leads to a place behind all links. This module
says how both depend on the entries of the tree, and what a file operation changes.

Results:
1. `place?_of_similar`, `goal?_of_similar`: paths keep their meaning in a tree that a walk cannot
   tell from the first.
2. `write_eq_ok`, `setMode_eq_ok`, `rename_eq_ok`, `remove_eq_ok`: what an operation that succeeds
   found and what it left.
-/

namespace WorkflowDocs.FileTree

/-! ## Places -/

/-- The place of the name itself, link or not. -/
def place? (tree : FileTree) (path : Text) : Option Location := (tree.locate false path).toOption

/-- The place that the name leads to. -/
def goal? (tree : FileTree) (path : Text) : Option Location := (tree.locate true path).toOption

/-- The content of the file that a path leads to, if it leads to one. -/
def content? (tree : FileTree) (path : Text) : Option Content :=
  match tree.find path with
  | .ok (_, .file content _) => some content
  | _ => none

/-- A path that the system takes. -/
def Usable (path : Text) : Prop :=
  '\x00' ∉ path ∧ path ≠ [] ∧ Text.byteLength path ≤ longestPath

/-- Where a path starts. -/
def start (tree : FileTree) (path : Text) : Location :=
  if Path.isAbsolute path then [] else tree.workingDirectory

variable {tree changed : FileTree} {path staging other : Text} {place goal spot : Location}
  {follow : Bool} {content : Content} {mode : Nat}

theorem toOption_eq_some_iff {ε α : Type} {result : Except ε α} {value : α} :
    result.toOption = some value ↔ result = .ok value := by
  cases result <;> simp [Except.toOption]

theorem locate_eq_ok_iff : tree.locate follow path = .ok place ↔
    Usable path ∧ Leads tree follow mostLinks (tree.start path) (Path.pieces path) place := by
  rw [locate, ← walkLinks_eq_ok_iff, start]
  unfold Usable
  split
  next nul => simp [List.contains_iff_mem.mp nul]
  next fine =>
    split
    next empty => simp [List.isEmpty_iff.mp empty]
    next full =>
      split
      next long => simp [Nat.not_le.mpr long]
      next short => simp_all [Nat.le_of_not_gt short]

theorem place?_eq_some_iff : tree.place? path = some place ↔
    Usable path ∧ Leads tree false mostLinks (tree.start path) (Path.pieces path) place := by
  rw [place?, toOption_eq_some_iff, locate_eq_ok_iff]

theorem goal?_eq_some_iff : tree.goal? path = some place ↔
    Usable path ∧ Leads tree true mostLinks (tree.start path) (Path.pieces path) place := by
  rw [goal?, toOption_eq_some_iff, locate_eq_ok_iff]

/-- A name that is no link leads to its own place. -/
theorem goal?_of_place? (here : tree.place? path = some place) (plain : tree.isLink place = false) :
    tree.goal? path = some place := by
  obtain ⟨usable, leads⟩ := place?_eq_some_iff.mp here
  exact goal?_eq_some_iff.mpr ⟨usable, leads.followed plain⟩

/-- A path that leads somewhere has a place of its own; if that is another one, a link stands there
and leads on. -/
theorem place?_of_goal? (leads : tree.goal? path = some goal) :
    tree.place? path = some goal ∨ ∃ spot target n, tree.place? path = some spot ∧
      tree.entry? spot = some (.link target) ∧
      Leads tree true n (linkStart spot.dropLast target) (Path.pieces target) goal := by
  obtain ⟨usable, leads⟩ := goal?_eq_some_iff.mp leads
  obtain short | ⟨directory, piece, target, n, before, link, after⟩ := leads.unfollowed
  · exact .inl (place?_eq_some_iff.mpr ⟨usable, short⟩)
  · exact .inr ⟨directory ++ [piece], target, n, place?_eq_some_iff.mpr ⟨usable, before⟩, link,
      by rwa [List.dropLast_concat]⟩

theorem content?_eq_some_iff : tree.content? path = some content ↔
    ∃ goal mode, tree.goal? path = some goal ∧ tree.entry? goal = some (.file content mode) := by
  unfold content? find
  constructor
  · intro found
    cases located : tree.locate true path with
    | error error => simp [located, bind, Except.bind] at found
    | ok goal =>
      refine ⟨goal, ?_⟩
      cases here : tree.entry? goal with
      | none =>
        simp [located, here, bind, Except.bind, throw, throwThe, MonadExceptOf.throw] at found
      | some entry =>
        cases entry <;> simp_all [goal?, bind, Except.bind, pure, Except.pure, Except.toOption]
  · rintro ⟨goal, mode, leads, here⟩
    rw [goal?, toOption_eq_some_iff] at leads
    simp [leads, here, bind, Except.bind, pure, Except.pure]

theorem read_eq_ok_iff {text : Text} :
    tree.read path = .ok text ↔ tree.content? path = some (.text text) := by
  unfold read content?
  cases tree.find path with
  | error error => simp [bind, Except.bind]
  | ok found =>
    obtain ⟨place, entry⟩ := found
    rcases entry with ⟨_ | _, _⟩ | _ | _ <;>
      simp [bind, Except.bind, pure, Except.pure, throw, throwThe, MonadExceptOf.throw]

/-! ## Paths in changed trees -/

theorem place?_of_similar (stays : changed.workingDirectory = tree.workingDirectory)
    (each : ∀ spot, Similar tree changed spot) : changed.place? path = tree.place? path := by
  ext place
  simp only [place?_eq_some_iff, start, stays]
  constructor
  · exact fun ⟨usable, leads⟩ => ⟨usable, leads.transfer fun spot => .inl (each spot).symm⟩
  · exact fun ⟨usable, leads⟩ => ⟨usable, leads.transfer fun spot => .inl (each spot)⟩

theorem goal?_of_similar (stays : changed.workingDirectory = tree.workingDirectory)
    (each : ∀ spot, Similar tree changed spot) : changed.goal? path = tree.goal? path := by
  ext place
  simp only [goal?_eq_some_iff, start, stays]
  constructor
  · exact fun ⟨usable, leads⟩ => ⟨usable, leads.transfer fun spot => .inl (each spot).symm⟩
  · exact fun ⟨usable, leads⟩ => ⟨usable, leads.transfer fun spot => .inl (each spot)⟩

/-! ## What operations find and leave -/

theorem bind_eq_ok {ε α β : Type} {result : Except ε α} {next : α → Except ε β} {value : β} :
    result >>= next = .ok value ↔ ∃ found, result = .ok found ∧ next found = .ok value := by
  cases result <;> simp [bind, Except.bind]

theorem find_eq_ok {entry : Entry} (found : tree.find path = .ok (place, entry)) :
    tree.goal? path = some place ∧ tree.entry? place = some entry := by
  obtain ⟨goal, located, found⟩ := bind_eq_ok.mp found
  split at found
  next here =>
    cases found
    exact ⟨toOption_eq_some_iff.mpr located, here⟩
  · cases found

/-- The file that is written to is where the path leads, or is made there. -/
theorem openForWriting_eq_ok {file : Option (Content × Nat)}
    (opened : tree.openForWriting path = .ok (place, file)) :
    tree.goal? path = some place ∧
      tree.entry? place = file.map fun (content, mode) => .file content mode := by
  unfold openForWriting at opened
  split at opened
  · split at opened <;> cases opened
  · split at opened
    · cases opened
    next located =>
      have leads := toOption_eq_some_iff.mpr located
      split at opened <;> cases opened
      next free => exact ⟨leads, free⟩
      next here => exact ⟨leads, here⟩

theorem write_eq_ok {text : Text} (written : tree.write path text = .ok changed) :
    ∃ place file, tree.openForWriting path = .ok (place, file) ∧
      changed = tree.put place (.file (.text text) ((file.map (·.2)).getD fileMode)) := by
  obtain ⟨⟨place, file⟩, opened, written⟩ := bind_eq_ok.mp written
  cases written
  exact ⟨place, file, opened, rfl⟩

theorem setMode_eq_ok (done : tree.setMode path mode = .ok changed) :
    ∃ place, tree.goal? path = some place ∧
      ((∃ content before, tree.entry? place = some (.file content before) ∧
          changed = tree.put place (.file content mode)) ∨
        ∃ before, tree.entry? place = some (.directory before) ∧
          changed = tree.put place (.directory mode)) := by
  obtain ⟨⟨place, entry⟩, found, done⟩ := bind_eq_ok.mp done
  obtain ⟨leads, here⟩ := find_eq_ok found
  refine ⟨place, leads, ?_⟩
  cases entry with
  | file content before =>
    cases done
    exact .inl ⟨content, before, here, rfl⟩
  | directory before =>
    cases done
    exact .inr ⟨before, here, rfl⟩
  | link => cases done

theorem mode_eq_ok_iff : tree.mode path = .ok mode ↔ ∃ place, tree.goal? path = some place ∧
    ((∃ content, tree.entry? place = some (.file content mode)) ∨
      tree.entry? place = some (.directory mode)) := by
  constructor
  · intro done
    obtain ⟨⟨place, entry⟩, found, done⟩ := bind_eq_ok.mp done
    obtain ⟨leads, here⟩ := find_eq_ok found
    cases entry <;> cases done
    · exact ⟨place, leads, .inl ⟨_, here⟩⟩
    · exact ⟨place, leads, .inr here⟩
  · rintro ⟨place, leads, ⟨content, here⟩ | here⟩ <;>
      rw [goal?, toOption_eq_some_iff] at leads <;>
      simp [FileTree.mode, find, leads, here, bind, Except.bind, pure, Except.pure]

theorem not_isDirectory_of_entry {entry : Entry} (here : tree.entry? place = some entry)
    (plain : ∀ mode, entry ≠ .directory mode) : tree.isDirectory place = false := by
  unfold isDirectory
  split
  next mode found => exact absurd (Option.some.inj (here.symm.trans found)) (plain mode)
  · rfl

theorem rename_eq_ok (moved : tree.rename staging path = .ok changed) :
    ∃ source target entry, tree.place? staging = some source ∧ tree.place? path = some target ∧
      tree.entry? source = some entry ∧ tree.isDirectory source = false ∧
      tree.isDirectory target = false ∧
      changed = if source = target then tree else (tree.erase source).put target entry := by
  obtain ⟨source, located, moved⟩ := bind_eq_ok.mp moved
  obtain ⟨target, located', moved⟩ := bind_eq_ok.mp moved
  refine ⟨source, target, ?_⟩
  split at moved
  · cases moved
  · cases moved
  · cases moved
  next _ entry noDirectory here noTarget =>
    cases moved
    refine ⟨entry, toOption_eq_some_iff.mpr located, toOption_eq_some_iff.mpr located', here,
      not_isDirectory_of_entry here noDirectory, ?_, rfl⟩
    unfold isDirectory
    split
    next mode found => exact absurd found (noTarget mode)
    · rfl

theorem remove_eq_ok (removed : tree.remove path = .ok changed) :
    ∃ place entry, tree.place? path = some place ∧ tree.entry? place = some entry ∧
      tree.isDirectory place = false ∧ changed = tree.erase place := by
  obtain ⟨place, located, removed⟩ := bind_eq_ok.mp removed
  refine ⟨place, ?_⟩
  split at removed
  · cases removed
  · cases removed
  next entry noDirectory here =>
    cases removed
    exact ⟨entry, toOption_eq_some_iff.mpr located, here,
      not_isDirectory_of_entry here noDirectory, rfl⟩

end WorkflowDocs.FileTree
