import WorkflowDocs.Proofs.Files.Alike

/-!
# Paths that go through a place

Whether a file stands at a place makes a difference to a path that goes on from there, though it
leads nowhere in either case: behind a file there is no directory, behind nothing there is nothing.

Results:
1. `Through.transfer`: what stands at the place itself does not decide whether a path goes through it.
2. `Alike.locate_eq`: a path that goes through no log ends alike in trees that are alike.
3. `Alike.error_eq`: if it cannot be read the error is the same.
-/

namespace WorkflowDocs.FileTree

variable {logs : Location → Prop} {twins : Location → Text → Text → Prop}
  {tree other changed : FileTree} {spot place : Location} {path : Text} {pieces : List Text} {n : Nat}

/-- `Through tree spot n place pieces`: the pieces from `place` come to `spot`, with at most `n` links
on the way, and go on. -/
inductive Through (tree : FileTree) (spot : Location) : Nat → Location → List Text → Prop
  | here {n : Nat} {piece : Text} {rest : List Text} : Through tree spot n spot (piece :: rest)
  | stay {n : Nat} {place : Location} {piece : Text} {rest : List Text} :
      tree.isDirectory place = true → Idle piece → Through tree spot n place rest →
      Through tree spot n place (piece :: rest)
  | up {n : Nat} {place : Location} {rest : List Text} :
      tree.isDirectory place = true → Through tree spot n place.dropLast rest →
      Through tree spot n place (['.', '.'] :: rest)
  | jump {n : Nat} {place : Location} {piece target : Text} {rest : List Text} :
      tree.isDirectory place = true → Named piece → Text.byteLength piece ≤ longestName →
      tree.entry? (place ++ [piece]) = some (.link target) →
      Through tree spot n (linkStart place target) (Path.pieces target ++ rest) →
      Through tree spot (n + 1) place (piece :: rest)
  | enter {n : Nat} {place : Location} {piece : Text} {rest : List Text} :
      tree.isDirectory place = true → Named piece → Text.byteLength piece ≤ longestName →
      tree.isLink (place ++ [piece]) = false → Through tree spot n (place ++ [piece]) rest →
      Through tree spot n place (piece :: rest)

/-- The path goes on from `spot`, as if that were a directory. -/
def GoesThrough (tree : FileTree) (path : Text) (spot : Location) : Prop :=
  Through tree spot mostLinks (tree.start path) (Path.pieces path)

/-! ## Walks in similar trees -/

theorem Similar.isLink_eq (similar : Similar tree changed spot) :
    changed.isLink spot = tree.isLink spot := by
  rcases similar with equal | ⟨plain, plain', _⟩
  · rw [isLink, isLink, equal]
  · rw [plain, plain']

theorem Similar.link (similar : Similar tree changed spot) {target : Text}
    (link : tree.entry? spot = some (.link target)) : changed.entry? spot = some (.link target) := by
  rcases similar with equal | ⟨plain, _⟩
  · exact equal.trans link
  · simp [isLink_of_link link] at plain

theorem Through.transfer (through : Through tree spot n place pieces)
    (each : ∀ spot, Similar tree changed spot) : Through changed spot n place pieces := by
  induction through with
  | here => exact .here
  | stay directory idle _ ih => exact .stay ((each _).isDirectory_eq.trans directory) idle ih
  | up directory _ ih => exact .up ((each _).isDirectory_eq.trans directory) ih
  | jump directory named short link _ ih =>
    exact .jump ((each _).isDirectory_eq.trans directory) named short ((each _).link link) ih
  | enter directory named short plain _ ih =>
    exact .enter ((each _).isDirectory_eq.trans directory) named short
      ((each _).isLink_eq.trans plain) ih

theorem Kept.goesThrough_iff (kept : Kept tree changed) :
    changed.GoesThrough path spot ↔ tree.GoesThrough path spot := by
  have start : changed.start path = tree.start path := by
    rw [FileTree.start, FileTree.start, kept.stays]
  rw [GoesThrough, GoesThrough, start]
  exact ⟨fun through => through.transfer fun spot => (kept.similar spot).symm,
    fun through => through.transfer kept.similar⟩

/-! ## Walks in trees that are alike -/

/-- A file or nothing at the end of a walk is as good as an end. -/
theorem walk_cons_of_loose {onLink : Location → Text → List Text → Except FileError Location}
    {piece : Text} (directory : tree.isDirectory place = true) (named : Named piece)
    (short : Text.byteLength piece ≤ longestName)
    (loose : Loose (tree.entry? (place ++ [piece]))) :
    tree.walk true onLink place [piece] = .ok (place ++ [piece]) := by
  rw [walk_cons_of_named [] directory named short]
  generalize tree.entry? (place ++ [piece]) = entry at loose
  cases loose <;> rfl

namespace Alike

/-- One round of the walk ends alike, given that its continuation at a link does. -/
theorem walk_eq (alike : Alike logs twins tree other)
    {onLink onLink' : Location → Text → List Text → Except FileError Location}
    (links : ∀ place target rest,
      (∀ m spot, n = m + 1 → logs spot →
        ¬Through tree spot m (linkStart place target) (Path.pieces target ++ rest)) →
      onLink' place target rest = onLink place target rest)
    (clear : ∀ spot, logs spot → ¬Through tree spot n place pieces) :
    other.walk true onLink' place pieces = tree.walk true onLink place pieces := by
  induction pieces generalizing place with
  | nil => rfl
  | cons piece rest ih =>
    have same := (alike.similar place).isDirectory_eq
    cases directory : tree.isDirectory place with
    | false =>
      rw [directory] at same
      rw [walk_cons_of_flat rest same, walk_cons_of_flat rest directory]
    | true =>
      rw [directory] at same
      rcases piece_cases piece with idle | rfl | named
      · rw [walk_cons_of_idle rest same idle, walk_cons_of_idle rest directory idle]
        exact ih fun spot logged through => clear spot logged (.stay directory idle through)
      · rw [walk_cons_of_up rest same, walk_cons_of_up rest directory]
        exact ih fun spot logged through => clear spot logged (.up directory through)
      · by_cases short : Text.byteLength piece ≤ longestName
        · have pair := alike.each (place ++ [piece])
          have onward : tree.isLink (place ++ [piece]) = false →
              other.walk true onLink' (place ++ [piece]) rest =
                tree.walk true onLink (place ++ [piece]) rest := fun plain =>
            ih fun spot logged through =>
              clear spot logged (.enter directory named short plain through)
          have jumps : ∀ target, tree.entry? (place ++ [piece]) = some (.link target) →
              onLink' place target rest = onLink place target rest := fun target link =>
            links place target rest fun m spot more logged through =>
              clear spot logged (more ▸ .jump directory named short link through)
          by_cases logged : logs (place ++ [piece])
          · -- more pieces would go through the log
            obtain ⟨loose, loose'⟩ := pair.loose logged
            cases rest with
            | nil =>
              rw [walk_cons_of_loose same named short loose',
                walk_cons_of_loose directory named short loose]
            | cons next more =>
              exact absurd (.enter directory named short (loose_iff.mp loose).1 .here)
                (clear _ logged)
          · rw [walk_cons_of_named rest same named short,
              walk_cons_of_named rest directory named short]
            generalize here : tree.entry? (place ++ [piece]) = entry at pair jumps
            generalize other.entry? (place ++ [piece]) = entry' at pair
            cases pair with
            | log isLog => exact absurd isLog logged
            | twin => exact onward (by simp [isLink, here])
            | same =>
              rcases entry with _ | _ | _ | target
              · rfl
              · exact onward (by simp [isLink, here])
              · exact onward (by simp [isLink, here])
              · simpa using jumps target rfl
        · have long := Nat.lt_of_not_le short
          rw [walk_cons_of_long rest same named long, walk_cons_of_long rest directory named long]

theorem walkLinks_eq (alike : Alike logs twins tree other)
    (clear : ∀ spot, logs spot → ¬Through tree spot n place pieces) :
    other.walkLinks true n place pieces = tree.walkLinks true n place pieces := by
  -- by induction on the links that are left, each round by the lemma for one walk
  induction n generalizing place pieces with
  | zero => exact alike.walk_eq (fun _ _ _ _ => rfl) clear
  | succ n ih =>
    exact alike.walk_eq (fun place target rest clear => ih fun spot => clear n spot rfl) clear

theorem locate_eq (alike : Alike logs twins tree other)
    (clear : ∀ spot, logs spot → ¬tree.GoesThrough path spot) :
    other.locate true path = tree.locate true path := by
  have start : other.start path = tree.start path := by
    rw [FileTree.start, FileTree.start, alike.stays]
  have walks : other.walkLinks true mostLinks (other.start path) (Path.pieces path) =
      tree.walkLinks true mostLinks (tree.start path) (Path.pieces path) := by
    rw [start]
    exact alike.walkLinks_eq clear
  unfold FileTree.start at walks
  unfold FileTree.locate
  simp only [walks]

/-- Where something is found the walk ends alike in any case. -/
theorem locate_eq_of_isThere (alike : Alike logs twins tree other)
    (there : tree.isThere path = true) : other.locate true path = tree.locate true path := by
  have both := alike.locate true path
  unfold FileTree.isThere FileTree.find at there
  generalize tree.locate true path = located at both there
  generalize other.locate true path = located' at both
  cases both with
  | ok same => rw [same]
  | error error => cases there

/-- If neither text can be read, though the walks end alike, the error is the same. -/
theorem error_eq (alike : Alike logs twins tree other) (apart : Unlogged logs tree path)
    (located : other.locate true path = tree.locate true path) {error error' : FileError}
    (failed : tree.read path = .error error) (failed' : other.read path = .error error') :
    error' = error := by
  unfold FileTree.read FileTree.find at failed failed'
  rw [located] at failed'
  cases leads : tree.locate true path with
  | error reason =>
    rw [leads] at failed failed'
    cases failed
    cases failed'
    rfl
  | ok goal =>
    rw [leads] at failed failed'
    simp only [bind, Except.bind] at failed failed'
    have apart := apart goal (toOption_eq_some_iff.mpr leads)
    have pair := alike.each goal
    generalize tree.entry? goal = entry at pair failed
    generalize other.entry? goal = entry' at pair failed'
    cases pair with
    | same => exact Except.error.inj (failed'.symm.trans failed)
    | log logged => exact absurd logged apart
    | twin => cases failed

end Alike

end WorkflowDocs.FileTree
