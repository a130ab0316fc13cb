import WorkflowDocs.Proofs.Files.Directories
import WorkflowDocs.Proofs.Path.Directory

/-!
# Where joined paths lead

A relative path that is joined to another leads where it leads from the goal of the other. So a
name that is joined to the path of a directory names a file in that directory.

Results:
1. `leadsFrom_join_iff`: a joined path leads through what it was joined to.
2. `names_directory`: the path of the directory of a file names the directory that holds the file.
3. `beside_iff`: which path names, with every name joined to it, the files beside a file.
-/

namespace WorkflowDocs.FileTree

variable {tree : FileTree} {path base name outer : Text} {directory place middle goal : Location}
  {follow : Bool} {n m : Nat}

/-! ## Walks put together -/

/-- A walk to a place and one that goes on from there are one walk. -/
theorem Leads.append {first second : List Text} (leads : Leads tree true n place first middle)
    (onward : Leads tree follow m middle second goal) (more : second ≠ []) :
    Leads tree follow (n + m) place (first ++ second) goal := by
  induction leads with
  | here => exact onward.mono (Nat.le_add_left ..)
  | stay directory idle _ ih => exact .stay directory idle (ih onward)
  | up directory _ ih => exact .up directory (ih onward)
  | new directory named short free =>
    -- nothing stands where the second walk would start
    obtain ⟨piece, rest, rfl⟩ := List.exists_cons_of_ne_nil more
    have inner := onward.directory
    simp [isDirectory, free] at inner
  | stop _ _ _ _ stops => cases stops
  | jump directory named short link _ _ ih =>
    have onward := ih onward
    rw [List.append_assoc] at onward
    rw [Nat.add_right_comm]
    exact .jump directory named short link (by simp [more]) onward
  | enter directory named short here plain _ ih =>
    exact .enter directory named short here plain (ih onward)

/-- Pieces at the end that leave a walk where it is can be left out. -/
theorem Leads.of_append_idle {kept idle : List Text}
    (leads : Leads tree true n place (kept ++ idle) goal) (rest : ∀ piece ∈ idle, Idle piece) :
    Leads tree true n place kept goal := by
  by_cases none : idle = []
  · simpa [none] using leads
  · obtain ⟨middle, before, after⟩ := leads.split none
    rwa [after.eq_of_idle rest]

/-- A slash can be put behind the path of a directory. -/
theorem Leads.append_empty {pieces : List Text} (leads : Leads tree true n place pieces goal)
    (inside : tree.isDirectory goal = true) : Leads tree true n place (pieces ++ [[]]) goal := by
  have stays : Leads tree true 0 goal [[]] goal := .stay inside (.inl rfl) .here
  exact leads.append stays (List.cons_ne_nil _ _)

/-! ## Paths from a directory -/

/-- From `directory` the path leads to `goal`, through as many links as it takes. -/
def LeadsFrom (tree : FileTree) (directory : Location) (path : Text) (goal : Location) : Prop :=
  ∃ n, Leads tree true n (linkStart directory path) (Path.pieces path) goal

/-- From the working directory the path leads to `goal`. -/
def Names (tree : FileTree) (path : Text) (goal : Location) : Prop :=
  LeadsFrom tree tree.workingDirectory path goal

theorem LeadsFrom.unique {goal' : Location} (leads : LeadsFrom tree directory path goal)
    (leads' : LeadsFrom tree directory path goal') : goal = goal' := by
  obtain ⟨n, leads⟩ := leads
  obtain ⟨m, leads'⟩ := leads'
  exact leads.unique leads'

theorem names_of_goal? (leads : tree.goal? path = some goal) : Names tree path goal :=
  ⟨mostLinks, (goal?_eq_some_iff.mp leads).2⟩

/-- It does not matter where an absolute path is looked up. -/
theorem leadsFrom_of_absolute (absolute : Path.isAbsolute path = true)
    (directory other : Location) :
    LeadsFrom tree directory path goal ↔ LeadsFrom tree other path goal := by
  unfold LeadsFrom linkStart
  rw [absolute]
  rfl

/-- A path leads through what it was joined to. -/
theorem leadsFrom_join_iff (relative : Path.isAbsolute path = false) :
    LeadsFrom tree directory (Path.join base path) goal ↔
      ∃ middle, LeadsFrom tree directory base middle ∧ LeadsFrom tree middle path goal := by
  obtain ⟨first, joined, cut⟩ := Path.pieces_join relative base
  have start : linkStart directory (Path.join base path) = linkStart directory base := by
    unfold linkStart
    rw [Path.isAbsolute_join relative]
  have start' : ∀ place, linkStart place path = place := fun place => by
    simp [linkStart, relative]
  unfold LeadsFrom
  simp only [start, start', joined]
  constructor
  · rintro ⟨n, leads⟩
    obtain ⟨middle, before, after⟩ := leads.split (Path.pieces_ne_nil path)
    refine ⟨middle, ⟨n, ?_⟩, n, after⟩
    rcases cut with cut | cut
    · rwa [cut]
    · rw [cut]
      obtain ⟨piece, rest, begins⟩ := List.exists_cons_of_ne_nil (Path.pieces_ne_nil path)
      rw [begins] at after
      exact before.append_empty after.directory
  · rintro ⟨middle, ⟨n, before⟩, m, after⟩
    have before : Leads tree true n (linkStart directory base) first middle := by
      rcases cut with cut | cut
      · rwa [cut] at before
      · rw [cut] at before
        exact before.of_append_idle (by simp [Idle])
    exact ⟨n + m, before.append after (Path.pieces_ne_nil path)⟩

/-! ## The directory of a file -/

/-- The last piece of the path is looked up in `directory`. -/
def HeldIn (tree : FileTree) (path : Text) (directory : Location) : Prop :=
  tree.isDirectory directory = true ∧ ∃ before name n, Path.pieces path = before ++ [name] ∧
    Leads tree true n (linkStart tree.workingDirectory path) before directory

theorem meaningless_iff {piece : Text} : Path.meaningless piece = true ↔ Idle piece := by
  unfold Path.meaningless Idle
  rw [Bool.or_eq_true, List.isEmpty_iff, decide_eq_true_eq]

theorem exists_heldIn (names : Names tree path goal) : ∃ directory, HeldIn tree path directory := by
  obtain ⟨n, leads⟩ := names
  obtain ⟨before, name, cut⟩ : ∃ before name, Path.pieces path = before ++ [name] :=
    (List.eq_nil_or_concat' _).resolve_left (Path.pieces_ne_nil path)
  rw [cut] at leads
  obtain ⟨directory, outside, inside⟩ := leads.split (List.cons_ne_nil name [])
  exact ⟨directory, inside.directory, before, name, n, cut, outside⟩

theorem HeldIn.unique {directory' : Location} (held : HeldIn tree path directory)
    (held' : HeldIn tree path directory') : directory = directory' := by
  obtain ⟨_, before, name, n, cut, leads⟩ := held
  obtain ⟨_, before', name', m, cut', leads'⟩ := held'
  obtain ⟨rfl, _⟩ := List.append_inj' (cut.symm.trans cut') rfl
  exact leads.unique leads'

/-- The path of the directory of a file names the directory that holds the file. -/
theorem names_directory (held : HeldIn tree path directory) (names : Names tree path goal)
    (plain : tree.isDirectory goal = false) :
    Path.isAbsolute (Path.directory path) = Path.isAbsolute path ∧
      Names tree (Path.directory path) directory := by
  obtain ⟨inside, before, name, n, cut, leads⟩ := held
  have last : Path.meaningless name = false := by
    -- otherwise the path would lead to a directory
    by_contra idle
    rw [Bool.not_eq_false, meaningless_iff] at idle
    obtain ⟨m, whole⟩ := names
    have ends := whole.directory_of_idle (by rw [cut, List.getLast?_concat]) idle
    simp [ends] at plain
  obtain ⟨same, kept, idle, rfl, rest, pieces⟩ := Path.pieces_directory last cut
  have leads := leads.of_append_idle fun piece member => meaningless_iff.mp (rest piece member)
  refine ⟨same, n, ?_⟩
  have start : linkStart tree.workingDirectory (Path.directory path) =
      linkStart tree.workingDirectory path := by
    unfold linkStart
    rw [same]
  rw [start]
  rcases pieces with pieces | pieces
  · rwa [pieces]
  · rw [pieces]
    exact leads.append_empty inside

/-- A file that can be read lies in a directory that has a path. -/
theorem exists_directory_of_read {text : Text} (reads : tree.read path = .ok text) :
    ∃ directory, HeldIn tree path directory ∧
      Path.isAbsolute (Path.directory path) = Path.isAbsolute path ∧
      Names tree (Path.directory path) directory := by
  obtain ⟨goal, mode, leads, here⟩ := content?_eq_some_iff.mp (read_eq_ok_iff.mp reads)
  have names := names_of_goal? leads
  obtain ⟨directory, held⟩ := exists_heldIn names
  have plain := not_isDirectory_of_entry here fun _ => by simp
  exact ⟨directory, held, names_directory held names plain⟩

/-! ## Files beside a file -/

/-- `found` names what `name` leads to from the directory that holds the file `path`. -/
def Beside (tree : FileTree) (path name found : Text) : Prop :=
  ∃ directory, HeldIn tree path directory ∧
    ∀ goal, Names tree found goal ↔ LeadsFrom tree directory name goal

/-- Exactly the paths of the directory itself name the files in it, one for each name. -/
theorem beside_iff (held : HeldIn tree path directory) :
    (∀ name, Beside tree path name (Path.join outer name)) ↔ Names tree outer directory := by
  constructor
  · intro beside
    obtain ⟨directory', held', same⟩ := beside ['.']
    obtain rfl := held'.unique held
    have dot : LeadsFrom tree directory' ['.'] directory' :=
      ⟨0, .stay held.1 (.inr rfl) .here⟩
    obtain ⟨middle, names, _, stays⟩ := (leadsFrom_join_iff rfl).mp ((same _).mpr dot)
    obtain rfl : directory' = middle := stays.eq_of_idle (by simp [Path.pieces, Text.split, Idle])
    exact names
  · intro names name
    refine ⟨directory, held, fun goal => ?_⟩
    cases absolute : Path.isAbsolute name with
    | true =>
      rw [Path.join_of_absolute absolute]
      exact leadsFrom_of_absolute absolute _ _
    | false =>
      unfold Names
      rw [leadsFrom_join_iff absolute]
      constructor
      · rintro ⟨middle, names', leads⟩
        rwa [names'.unique names] at leads
      · exact fun leads => ⟨directory, names, leads⟩

/-- A path that is joined to the path of the working directory names what it named. -/
theorem names_join (fixed : Path.isAbsolute path = true ∨ Names tree base tree.workingDirectory)
    (names : Names tree path goal) : Names tree (Path.join base path) goal := by
  cases absolute : Path.isAbsolute path with
  | true => rwa [Path.join_of_absolute absolute]
  | false =>
    rcases fixed with absolute' | inWorking
    · simp [absolute] at absolute'
    · exact (leadsFrom_join_iff absolute).mpr ⟨_, inWorking, names⟩

end WorkflowDocs.FileTree
