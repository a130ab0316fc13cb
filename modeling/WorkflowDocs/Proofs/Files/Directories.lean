import WorkflowDocs.Proofs.Files.Alike
import WorkflowDocs.Proofs.Path

/-!
# Directories and new files

A directory that is there is not made again, and making a file leaves everything else as it was.

Results:
1. `goal?_withoutFinalSlashes`: slashes at the end of a path do not change where it leads.
2. `makeDirectory_of_isDirectoryAt`: making a directory that is there fails for that very reason.
3. `create_eq_ok`: what a file that is made found and what it left.
-/

namespace WorkflowDocs.FileTree

variable {tree changed : FileTree} {path : Text} {place goal : Location} {follow : Bool} {n : Nat}

/-! ## Slashes at the end -/

theorem exists_slashes (path : Text) :
    ∃ n, path = withoutFinalSlashes path ++ List.replicate n '/' := by
  have slashes : ∀ c ∈ path.rtakeWhile (· = '/'), c = '/' := fun c member => by
    simpa using List.mem_rtakeWhile_imp member
  refine ⟨(path.rtakeWhile (· = '/')).length, ?_⟩
  rw [← List.eq_replicate_of_mem slashes]
  exact (List.rdropWhile_append_rtakeWhile ..).symm

/-- Pieces that leave a walk where it is lead nowhere else. -/
theorem Leads.eq_of_idle {pieces : List Text} (leads : Leads tree follow n place pieces goal)
    (idle : ∀ piece ∈ pieces, Idle piece) : goal = place := by
  induction leads with
  | here => rfl
  | stay _ _ _ ih => exact ih fun piece member => idle piece (List.mem_cons_of_mem _ member)
  | up => simp [Idle] at idle
  | new _ named | stop _ named | jump _ named | enter _ named =>
    exact absurd (idle _ List.mem_cons_self) named.1

theorem goal?_withoutFinalSlashes (leads : tree.goal? path = some goal)
    (full : withoutFinalSlashes path ≠ []) : tree.goal? (withoutFinalSlashes path) = some goal := by
  obtain ⟨n, cut⟩ := exists_slashes path
  generalize withoutFinalSlashes path = trimmed at cut full ⊢
  subst cut
  obtain ⟨⟨clean, _, short⟩, leads⟩ := goal?_eq_some_iff.mp leads
  have usable : Usable trimmed :=
    ⟨fun nul => clean (List.mem_append_left _ nul), full,
      (Text.byteLength_le_append _ _).trans short⟩
  have sameStart : tree.start (trimmed ++ List.replicate n '/') = tree.start trimmed := by
    cases trimmed with
    | nil => exact absurd rfl full
    | cons => rfl
  rw [sameStart, Path.pieces_append_slashes] at leads
  refine goal?_eq_some_iff.mpr ⟨usable, ?_⟩
  cases n with
  | zero => simpa using leads
  | succ n =>
    obtain ⟨middle, first, second⟩ := leads.split (by simp)
    have stays : goal = middle :=
      second.eq_of_idle fun piece member => .inl (List.eq_of_mem_replicate member)
    rwa [stays]

/-! ## Directories -/

theorem isDirectoryAt_iff : tree.isDirectoryAt path = true ↔
    ∃ goal mode, tree.goal? path = some goal ∧ tree.entry? goal = some (.directory mode) := by
  unfold isDirectoryAt
  constructor
  · intro there
    split at there
    next goal mode found => exact ⟨goal, mode, find_eq_ok found⟩
    · cases there
  · rintro ⟨goal, mode, leads, here⟩
    rw [goal?, toOption_eq_some_iff] at leads
    simp [find, leads, here, bind, Except.bind, pure, Except.pure]

/-- A path that leads to something has something at its own place. -/
theorem exists_place {entry : Entry} (leads : tree.goal? path = some goal)
    (here : tree.entry? goal = some entry) :
    ∃ place entry, tree.locate false path = .ok place ∧ tree.entry? place = some entry := by
  rcases place?_of_goal? leads with own | ⟨spot, target, _, own, link, _⟩
  · exact ⟨goal, entry, toOption_eq_some_iff.mp own, here⟩
  · exact ⟨spot, _, toOption_eq_some_iff.mp own, link⟩

theorem makeDirectory_of_isDirectoryAt (there : tree.isDirectoryAt path = true) :
    tree.makeDirectory path = .error .alreadyThere := by
  obtain ⟨goal, mode, leads, here⟩ := isDirectoryAt_iff.mp there
  have leads : tree.goal? (if (withoutFinalSlashes path).isEmpty then path
      else withoutFinalSlashes path) = some goal := by
    split
    · exact leads
    next full => exact goal?_withoutFinalSlashes leads (by simpa using full)
  obtain ⟨place, entry, located, found⟩ := exists_place leads here
  simp only [makeDirectory, located, found, bind, Except.bind]
  rfl

/-! ## Files -/

/-- A file that is made is where the path leads, unless there is one already. -/
theorem create_eq_ok (made : tree.create path = .ok changed) : ∃ place,
    tree.goal? path = some place ∧ Loose (tree.entry? place) ∧
      Touched tree changed (some place) := by
  obtain ⟨⟨place, file⟩, opened, made⟩ := bind_eq_ok.mp made
  obtain ⟨leads, here⟩ := openForWriting_eq_ok opened
  refine ⟨place, leads, ?_⟩
  cases file with
  | none =>
    cases made
    rw [here]
    exact ⟨.free, (touched_of_opened opened _ _).2.2⟩
  | some found =>
    cases made
    rw [here]
    exact ⟨.file _ _, .refl _ _⟩

end WorkflowDocs.FileTree
