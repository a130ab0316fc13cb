import WorkflowDocs.Files.Tree

/-!
# Where paths lead

`FileTree.walk` follows the pieces of a path with a bounded number of links. `Leads` states the
same as rules, one for each thing that can stand at the next place.

Results:
1. `walkLinks_eq_ok_iff`: the walk ends at a place exactly when the rules lead there.
2. `Leads.split`, `Leads.unfollowed`: the walk along the first pieces, and the last link of a walk.
3. `Leads.transfer`: a walk ends at the same place in a tree that differs only where the walk
   cannot tell, or where a link that the walk cannot take has become a file.
-/

namespace WorkflowDocs.FileTree

/-! ## Entries -/

variable {tree : FileTree} {place other : Location} {entry : Entry}

theorem entry?_root (tree : FileTree) : tree.entry? [] = some (.directory 0o755) := rfl

theorem entry?_of_ne_nil (tree : FileTree) (inner : place ≠ []) :
    tree.entry? place = (tree.entries.find? fun entry => entry.1 = place).map (·.2) := by
  unfold entry?
  simp [inner]

theorem entry?_erase_self (inner : place ≠ []) : entry? (tree.erase place) place = none := by
  rw [entry?_of_ne_nil _ inner, Option.map_eq_none_iff, List.find?_eq_none]
  intro entry member
  simpa [erase] using (List.mem_filter.mp member).2

theorem entry?_erase_of_ne (differ : other ≠ place) :
    entry? (tree.erase place) other = tree.entry? other := by
  by_cases inner : other = []
  · rw [inner, entry?_root, entry?_root]
  · rw [entry?_of_ne_nil _ inner, entry?_of_ne_nil _ inner, erase, List.find?_filter]
    congr 2
    funext entry
    by_cases equal : entry.1 = other <;> simp [equal, differ]

theorem entry?_put_self (inner : place ≠ []) :
    entry? (tree.put place entry) place = some entry := by
  have erased := @entry?_erase_self tree place inner
  rw [entry?_of_ne_nil _ inner, Option.map_eq_none_iff] at erased
  rw [entry?_of_ne_nil _ inner, put, List.find?_append, erased]
  simp

theorem entry?_put_of_ne (differ : other ≠ place) :
    entry? (tree.put place entry) other = tree.entry? other := by
  by_cases inner : other = []
  · rw [inner, entry?_root, entry?_root]
  · have erased := @entry?_erase_of_ne tree place other differ
    rw [entry?_of_ne_nil _ inner] at erased
    rw [entry?_of_ne_nil _ inner, put, List.find?_append, Option.map_or, erased]
    simp [Ne.symm differ]

/-- A link stands at the place. -/
def isLink (tree : FileTree) (place : Location) : Bool :=
  match tree.entry? place with
  | some (.link _) => true
  | _ => false

theorem isLink_of_link {target : Text} (here : tree.entry? place = some (.link target)) :
    tree.isLink place = true := by
  simp [isLink, here]

theorem not_isDirectory_of_isLink (link : tree.isLink place = true) :
    tree.isDirectory place = false := by
  unfold isLink at link
  unfold isDirectory
  split <;> simp_all

/-! ## The rules -/

/-- A piece that leaves a walk where it is. -/
def Idle (piece : Text) : Prop := piece = [] ∨ piece = ['.']

/-- A piece that names an entry of a directory. -/
def Named (piece : Text) : Prop := ¬ Idle piece ∧ piece ≠ ['.', '.']

/-- Where the target of a link in the directory `place` starts. -/
def linkStart (place : Location) (target : Text) : Location :=
  if Path.isAbsolute target then [] else place

/-- `Leads tree follow n place pieces goal`: from `place` the pieces lead to `goal` with at most
`n` links on the way. -/
inductive Leads (tree : FileTree) (follow : Bool) :
    Nat → Location → List Text → Location → Prop
  | here {n : Nat} {place : Location} : Leads tree follow n place [] place
  | stay {n : Nat} {place goal : Location} {piece : Text} {rest : List Text} :
      tree.isDirectory place = true → Idle piece → Leads tree follow n place rest goal →
      Leads tree follow n place (piece :: rest) goal
  | up {n : Nat} {place goal : Location} {rest : List Text} :
      tree.isDirectory place = true → Leads tree follow n place.dropLast rest goal →
      Leads tree follow n place (['.', '.'] :: rest) goal
  | new {n : Nat} {place : Location} {piece : Text} :
      tree.isDirectory place = true → Named piece → Text.byteLength piece ≤ longestName →
      tree.entry? (place ++ [piece]) = none →
      Leads tree follow n place [piece] (place ++ [piece])
  | stop {n : Nat} {place : Location} {piece target : Text} :
      tree.isDirectory place = true → Named piece → Text.byteLength piece ≤ longestName →
      tree.entry? (place ++ [piece]) = some (.link target) → follow = false →
      Leads tree follow n place [piece] (place ++ [piece])
  | jump {n : Nat} {place goal : Location} {piece target : Text} {rest : List Text} :
      tree.isDirectory place = true → Named piece → Text.byteLength piece ≤ longestName →
      tree.entry? (place ++ [piece]) = some (.link target) → (rest = [] → follow = true) →
      Leads tree follow n (linkStart place target) (Path.pieces target ++ rest) goal →
      Leads tree follow (n + 1) place (piece :: rest) goal
  | enter {n : Nat} {place goal : Location} {piece : Text} {rest : List Text} :
      tree.isDirectory place = true → Named piece → Text.byteLength piece ≤ longestName →
      (tree.entry? (place ++ [piece])).isSome = true → tree.isLink (place ++ [piece]) = false →
      Leads tree follow n (place ++ [piece]) rest goal →
      Leads tree follow n place (piece :: rest) goal

theorem Leads.directory {tree : FileTree} {follow : Bool} {n : Nat} {place goal : Location}
    {piece : Text} {rest : List Text} (leads : Leads tree follow n place (piece :: rest) goal) :
    tree.isDirectory place = true := by
  cases leads <;> assumption

/-! ## One step of a walk -/

theorem piece_cases (piece : Text) : Idle piece ∨ piece = ['.', '.'] ∨ Named piece := by
  by_cases idle : Idle piece
  · exact .inl idle
  · by_cases isUp : piece = ['.', '.']
    · exact .inr (.inl isUp)
    · exact .inr (.inr ⟨idle, isUp⟩)

section Steps

variable {follow : Bool} {onLink : Location → Text → List Text → Except FileError Location}
  {piece : Text}

theorem walk_cons_of_flat (rest : List Text) (flat : tree.isDirectory place = false) :
    tree.walk follow onLink place (piece :: rest) = .error .notDirectory := by
  unfold walk
  simp [flat]

theorem walk_cons_of_idle (rest : List Text) (directory : tree.isDirectory place = true)
    (idle : Idle piece) :
    tree.walk follow onLink place (piece :: rest) = tree.walk follow onLink place rest := by
  have idle : (piece.isEmpty || piece = ['.']) = true := by simpa [Idle] using idle
  rw [walk, directory, idle]
  rfl

theorem walk_cons_of_up (rest : List Text) (directory : tree.isDirectory place = true) :
    tree.walk follow onLink place (['.', '.'] :: rest) =
      tree.walk follow onLink place.dropLast rest := by
  rw [walk, directory]
  rfl

theorem walk_cons_of_long (rest : List Text) (directory : tree.isDirectory place = true)
    (named : Named piece) (long : longestName < Text.byteLength piece) :
    tree.walk follow onLink place (piece :: rest) = .error .nameTooLong := by
  obtain ⟨busy, notUp⟩ := named
  have idle : (piece.isEmpty || piece = ['.']) = false := by simpa [Idle] using busy
  simp [walk, directory, idle, notUp, long]

theorem walk_cons_of_named (rest : List Text) (directory : tree.isDirectory place = true)
    (named : Named piece) (short : Text.byteLength piece ≤ longestName) :
    tree.walk follow onLink place (piece :: rest) =
      match tree.entry? (place ++ [piece]) with
      | none => if rest.isEmpty then .ok (place ++ [piece]) else .error .missing
      | some (.link target) =>
        if rest.isEmpty && !follow then .ok (place ++ [piece]) else onLink place target rest
      | some _ => tree.walk follow onLink (place ++ [piece]) rest := by
  obtain ⟨busy, notUp⟩ := named
  have idle : (piece.isEmpty || piece = ['.']) = false := by simpa [Idle] using busy
  have fits : ¬ Text.byteLength piece > longestName := Nat.not_lt.mpr short
  rcases found : tree.entry? (place ++ [piece]) with _ | _ | _ | _ <;>
    simp [walk, directory, idle, notUp, fits, found]

end Steps

section Walks

variable {follow : Bool} {n : Nat}
  {onLink : Location → Text → List Text → Except FileError Location}
  (links : ∀ place target rest goal, onLink place target rest = .ok goal ↔
    ∃ m, n = m + 1 ∧ Leads tree follow m (linkStart place target) (Path.pieces target ++ rest) goal)
  {place goal : Location} {pieces : List Text}

include links

theorem leads_of_walk (found : tree.walk follow onLink place pieces = .ok goal) :
    Leads tree follow n place pieces goal := by
  induction pieces generalizing place with
  | nil =>
    cases found
    exact .here
  | cons piece rest ih =>
    cases directory : tree.isDirectory place with
    | false =>
      rw [walk_cons_of_flat rest directory] at found
      cases found
    | true =>
      rcases piece_cases piece with idle | rfl | named
      · rw [walk_cons_of_idle rest directory idle] at found
        exact .stay directory idle (ih found)
      · rw [walk_cons_of_up rest directory] at found
        exact .up directory (ih found)
      · by_cases short : Text.byteLength piece ≤ longestName
        · rw [walk_cons_of_named rest directory named short] at found
          rcases here : tree.entry? (place ++ [piece]) with _ | _ | _ | target <;> rw [here] at found
          case none =>
            cases rest with
            | nil =>
              cases found
              exact .new directory named short here
            | cons => cases found
          case some.file | some.directory =>
            exact .enter directory named short (by simp [here]) (by simp [isLink, here]) (ih found)
          case some.link =>
            dsimp only at found
            split at found
            next last =>
              cases found
              simp only [Bool.and_eq_true, List.isEmpty_iff, Bool.not_eq_true'] at last
              obtain ⟨rfl, stops⟩ := last
              exact .stop directory named short here stops
            next going =>
              obtain ⟨m, rfl, leads⟩ := (links _ _ _ _).mp found
              exact .jump directory named short here (by simpa using going) leads
        · rw [walk_cons_of_long rest directory named (Nat.lt_of_not_le short)] at found
          cases found

theorem walk_of_leads (leads : Leads tree follow n place pieces goal) :
    tree.walk follow onLink place pieces = .ok goal := by
  induction pieces generalizing place with
  | nil =>
    cases leads
    rfl
  | cons piece rest ih =>
    cases leads with
    | stay directory idle leads =>
      rw [walk_cons_of_idle rest directory idle]
      exact ih leads
    | up directory leads =>
      rw [walk_cons_of_up rest directory]
      exact ih leads
    | new directory named short free =>
      rw [walk_cons_of_named _ directory named short, free]
      rfl
    | stop directory named short link stops =>
      rw [walk_cons_of_named _ directory named short, link, stops]
      rfl
    | jump directory named short link going leads =>
      have onward := (links _ _ _ _).mpr ⟨_, rfl, leads⟩
      rw [walk_cons_of_named _ directory named short, link]
      cases rest with
      | nil => simpa [going rfl] using onward
      | cons next more => simpa using onward
    | enter directory named short here plain leads =>
      obtain ⟨entry, here⟩ := Option.isSome_iff_exists.mp here
      rw [walk_cons_of_named _ directory named short, here]
      cases entry with
      | link target => simp [isLink, here] at plain
      | file content mode => exact ih leads
      | directory mode => exact ih leads

/-- One round of the walk follows the rules, given that its continuation at a link does. -/
theorem walk_eq_ok_iff :
    tree.walk follow onLink place pieces = .ok goal ↔ Leads tree follow n place pieces goal :=
  ⟨leads_of_walk links, walk_of_leads links⟩

end Walks

theorem walkLinks_eq_ok_iff {tree : FileTree} {follow : Bool} {n : Nat} {place goal : Location}
    {pieces : List Text} :
    tree.walkLinks follow n place pieces = .ok goal ↔ Leads tree follow n place pieces goal := by
  -- by induction on the links that are left, each round by the rules for one walk
  induction n generalizing place pieces goal with
  | zero => exact walk_eq_ok_iff (by simp)
  | succ n ih =>
    refine walk_eq_ok_iff fun place target rest goal => ?_
    change tree.walkLinks follow n (linkStart place target) _ = .ok goal ↔ _
    simp [ih]

/-! ## Parts of a walk -/

variable {follow : Bool} {n m : Nat} {place goal : Location} {pieces : List Text}

theorem Leads.mono (leads : Leads tree follow n place pieces goal) (more : n ≤ m) :
    Leads tree follow m place pieces goal := by
  induction leads generalizing m with
  | here => exact .here
  | stay directory idle _ ih => exact .stay directory idle (ih more)
  | up directory _ ih => exact .up directory (ih more)
  | new directory named short free => exact .new directory named short free
  | stop directory named short link stops => exact .stop directory named short link stops
  | jump directory named short link going _ ih =>
    cases m with
    | zero => omega
    | succ m => exact .jump directory named short link going (ih (by omega))
  | enter directory named short here plain _ ih =>
    exact .enter directory named short here plain (ih more)

/-- The pieces lead to one place, however many links may be followed. -/
theorem Leads.unique {goal' : Location} (leads : Leads tree follow n place pieces goal)
    (leads' : Leads tree follow m place pieces goal') : goal = goal' := by
  have first := walkLinks_eq_ok_iff.mpr (leads.mono (Nat.le_max_left n m))
  have second := walkLinks_eq_ok_iff.mpr (leads'.mono (Nat.le_max_right n m))
  rw [first] at second
  cases second
  rfl

/-- The pieces up to some point lead to a place that the others lead on from. All links on the way
to it are followed, for more pieces come. -/
theorem Leads.split {first second : List Text}
    (leads : Leads tree follow n place (first ++ second) goal) (more : second ≠ []) :
    ∃ middle, Leads tree true n place first middle ∧ Leads tree follow n middle second goal := by
  generalize whole : first ++ second = pieces at leads
  induction leads generalizing first with
  | here => simp_all
  | stay directory idle leads ih =>
    cases first with
    | nil =>
      cases whole
      exact ⟨_, .here, .stay directory idle leads⟩
    | cons piece rest =>
      cases whole
      obtain ⟨middle, before, after⟩ := ih rfl
      exact ⟨middle, .stay directory idle before, after⟩
  | up directory leads ih =>
    cases first with
    | nil =>
      cases whole
      exact ⟨_, .here, .up directory leads⟩
    | cons piece rest =>
      cases whole
      obtain ⟨middle, before, after⟩ := ih rfl
      exact ⟨middle, .up directory before, after⟩
  | new directory named short free =>
    cases first with
    | nil =>
      cases whole
      exact ⟨_, .here, .new directory named short free⟩
    | cons piece rest => simp_all
  | stop directory named short link stops =>
    cases first with
    | nil =>
      cases whole
      exact ⟨_, .here, .stop directory named short link stops⟩
    | cons piece rest => simp_all
  | @jump n place goal piece target rest directory named short link going leads ih =>
    cases first with
    | nil =>
      cases whole
      exact ⟨_, .here, .jump directory named short link going leads⟩
    | cons piece rest =>
      cases whole
      obtain ⟨middle, before, after⟩ := @ih (Path.pieces target ++ rest) (by simp)
      exact ⟨middle, .jump directory named short link (fun _ => rfl) before,
        after.mono (Nat.le_succ n)⟩
  | enter directory named short here plain leads ih =>
    cases first with
    | nil =>
      cases whole
      exact ⟨_, .here, .enter directory named short here plain leads⟩
    | cons piece rest =>
      cases whole
      obtain ⟨middle, before, after⟩ := ih rfl
      exact ⟨middle, .enter directory named short here plain before, after⟩

/-! ## The end of a walk -/

/-- A walk that does not follow the last link and ends at none is one that follows it. -/
theorem Leads.followed (leads : Leads tree false n place pieces goal)
    (plain : tree.isLink goal = false) : Leads tree true n place pieces goal := by
  induction leads with
  | here => exact .here
  | stay directory idle _ ih => exact .stay directory idle (ih plain)
  | up directory _ ih => exact .up directory (ih plain)
  | new directory named short free => exact .new directory named short free
  | stop directory named short link _ => simp [isLink_of_link link] at plain
  | jump directory named short link going _ ih =>
    exact .jump directory named short link (fun _ => rfl) (ih plain)
  | enter directory named short here noLink _ ih =>
    exact .enter directory named short here noLink (ih plain)

/-- A walk that follows the last link ends where one that does not ends, or a link stands there
and leads on to the end. -/
theorem Leads.unfollowed (leads : Leads tree true n place pieces goal) :
    Leads tree false n place pieces goal ∨
    ∃ directory piece target m, Leads tree false n place pieces (directory ++ [piece]) ∧
      tree.entry? (directory ++ [piece]) = some (.link target) ∧
      Leads tree true m (linkStart directory target) (Path.pieces target) goal := by
  induction leads with
  | here => exact .inl .here
  | stay directory idle _ ih =>
    obtain short | ⟨outer, piece, target, m, before, link, after⟩ := ih
    · exact .inl (.stay directory idle short)
    · exact .inr ⟨outer, piece, target, m, .stay directory idle before, link, after⟩
  | up directory _ ih =>
    obtain short | ⟨outer, piece, target, m, before, link, after⟩ := ih
    · exact .inl (.up directory short)
    · exact .inr ⟨outer, piece, target, m, .up directory before, link, after⟩
  | new directory named short free => exact .inl (.new directory named short free)
  | stop _ _ _ _ stops => cases stops
  | @jump n place goal piece target rest directory named short link _ leads ih =>
    cases rest with
    | nil =>
      rw [List.append_nil] at leads
      exact .inr ⟨place, piece, target, n, .stop directory named short link rfl, link, leads⟩
    | cons next more =>
      have going : next :: more = [] → false = true := by simp
      obtain before | ⟨outer, last, target', m, before, link', after⟩ := ih
      · exact .inl (.jump directory named short link going before)
      · exact .inr ⟨outer, last, target', m, .jump directory named short link going before, link',
          after⟩
  | enter directory named short here noLink _ ih =>
    obtain before | ⟨outer, piece, target, m, before, link, after⟩ := ih
    · exact .inl (.enter directory named short here noLink before)
    · exact .inr ⟨outer, piece, target, m, .enter directory named short here noLink before, link,
        after⟩

/-- Without the last link, a walk ends at the name of the last piece. -/
theorem Leads.lastName {name : Text} (leads : Leads tree false n place pieces goal)
    (last : pieces.getLast? = some name) (named : Named name) : goal.getLast? = some name := by
  induction leads with
  | here => simp at last
  | @stay n place goal piece rest _ idle _ ih =>
    cases rest with
    | nil =>
      cases last
      exact absurd idle named.1
    | cons => exact ih (by simpa using last)
  | @up n place goal rest _ _ ih =>
    cases rest with
    | nil =>
      cases last
      exact absurd rfl named.2
    | cons => exact ih (by simpa using last)
  | new | stop =>
    cases last
    simp
  | @jump n place goal piece target rest _ _ _ _ going _ ih =>
    cases rest with
    | nil => simp at going
    | cons next more =>
      refine ih ?_
      rw [List.getLast?_append]
      simpa using last
  | @enter n place goal piece rest _ _ _ _ _ leads ih =>
    cases rest with
    | nil =>
      cases last
      cases leads
      simp
    | cons => exact ih (by simpa using last)

/-- A walk whose last piece is idle ends at a directory. -/
theorem Leads.directory_of_idle {piece : Text} (leads : Leads tree follow n place pieces goal)
    (last : pieces.getLast? = some piece) (idle : Idle piece) : tree.isDirectory goal = true := by
  obtain ⟨before, rfl⟩ := List.getLast?_eq_some_iff.mp last
  obtain ⟨middle, _, after⟩ := leads.split (List.cons_ne_nil piece [])
  cases after with
  | stay directory _ after =>
    cases after
    exact directory
  | up => simp [Idle] at idle
  | new _ named | stop _ named | jump _ named | enter _ named => exact absurd idle named.1

/-! ## Walks in changed trees -/

variable {changed : FileTree} {spot final : Location}

/-- A walk cannot tell the two trees apart at a place: the entries are equal, or there is no link
in either tree and a directory in both or in neither. -/
def Similar (tree changed : FileTree) (spot : Location) : Prop :=
  changed.entry? spot = tree.entry? spot ∨
    tree.isLink spot = false ∧ changed.isLink spot = false ∧
      changed.isDirectory spot = tree.isDirectory spot

/-- A link that leads to `final` only, which is no directory, has gone or become a file. -/
def Cut (tree changed : FileTree) (final spot : Location) : Prop :=
  tree.isLink spot = true ∧ tree.isDirectory final = false ∧
    (∀ target n goal, tree.entry? spot = some (.link target) →
      Leads tree true n (linkStart spot.dropLast target) (Path.pieces target) goal →
      goal = final) ∧
    changed.isLink spot = false ∧ changed.isDirectory spot = false

theorem Similar.symm (similar : Similar tree changed spot) : Similar changed tree spot := by
  rcases similar with equal | ⟨before, after, same⟩
  · exact .inl equal.symm
  · exact .inr ⟨after, before, same.symm⟩

theorem Similar.trans {middle : FileTree} (first : Similar tree middle spot)
    (second : Similar middle changed spot) : Similar tree changed spot := by
  rcases first with equal | ⟨plain, plain', kind⟩
  · rcases second with equal' | ⟨plain, plain', kind⟩
    · exact .inl (equal'.trans equal)
    · refine .inr ⟨?_, plain', ?_⟩
      · rwa [isLink, equal] at plain
      · rwa [isDirectory.eq_def middle, equal] at kind
  · rcases second with equal' | ⟨_, plain', kind'⟩
    · refine .inr ⟨plain, ?_, ?_⟩
      · rwa [isLink, equal']
      · rwa [isDirectory.eq_def changed, equal']
    · exact .inr ⟨plain, plain', kind'.trans kind⟩

theorem Similar.isDirectory_eq (similar : Similar tree changed spot) :
    changed.isDirectory spot = tree.isDirectory spot := by
  rcases similar with equal | ⟨_, _, same⟩
  · rw [FileTree.isDirectory, FileTree.isDirectory, equal]
  · exact same

theorem Cut.isDirectory_eq (cut : Cut tree changed final spot) :
    changed.isDirectory spot = tree.isDirectory spot := by
  obtain ⟨link, _, _, _, plain⟩ := cut
  rw [plain, not_isDirectory_of_isLink link]

/-- A walk can end at whatever its last piece names, if that is no link. -/
theorem Leads.plainEnd {piece : Text} (directory : tree.isDirectory place = true)
    (named : Named piece) (short : Text.byteLength piece ≤ longestName)
    (plain : tree.isLink (place ++ [piece]) = false) :
    Leads tree follow n place [piece] (place ++ [piece]) := by
  cases found : tree.entry? (place ++ [piece]) with
  | none => exact .new directory named short found
  | some entry => exact .enter directory named short (by simp [found]) plain .here

/-- A walk ends where it did in a changed tree, if at every place it could not tell the trees apart
or would have noticed a cut link, which it did not take on its way. -/
theorem Leads.transfer (leads : Leads tree follow n place pieces goal)
    (each : ∀ spot, Similar tree changed spot ∨
      ∃ final, Cut tree changed final spot ∧ (follow = true → goal ≠ final)) :
    Leads changed follow n place pieces goal := by
  have same : ∀ spot, changed.isDirectory spot = tree.isDirectory spot := fun spot =>
    (each spot).elim Similar.isDirectory_eq fun ⟨_, cut, _⟩ => cut.isDirectory_eq
  induction leads with
  | here => exact .here
  | stay directory idle _ ih => exact .stay (by rwa [same]) idle (ih each)
  | up directory _ ih => exact .up (by rwa [same]) (ih each)
  | @new n place piece directory named short free =>
    refine .plainEnd (by rwa [same]) named short ?_
    rcases each (place ++ [piece]) with (equal | ⟨_, plain, _⟩) | ⟨_, ⟨_, _, _, plain, _⟩, _⟩
    · simp [isLink, equal, free]
    · exact plain
    · exact plain
  | @stop n place piece target directory named short link stops =>
    rcases each (place ++ [piece]) with (equal | ⟨_, plain, _⟩) | ⟨_, ⟨_, _, _, plain, _⟩, _⟩
    · exact .stop (by rwa [same]) named short (equal.trans link) stops
    · exact .plainEnd (by rwa [same]) named short plain
    · exact .plainEnd (by rwa [same]) named short plain
  | @jump n place goal piece target rest directory named short link going leads ih =>
    rcases each (place ++ [piece]) with
      (equal | ⟨plain, _⟩) | ⟨final, ⟨_, flat, only, _⟩, elsewhere⟩
    · exact .jump (by rwa [same]) named short (equal.trans link) going (ih each)
    · simp [isLink_of_link link] at plain
    · have only := fun n goal => only target n goal link
      rw [List.dropLast_concat] at only
      cases rest with
      | nil =>
        rw [List.append_nil] at leads
        have follows := going rfl
        subst follows
        exact absurd (only n goal leads) (elsewhere rfl)
      | cons next more =>
        -- more pieces come, so the link would have to lead to a directory
        obtain ⟨middle, before, after⟩ := leads.split (List.cons_ne_nil next more)
        rw [only n middle before] at after
        simp [after.directory] at flat
  | @enter n place goal piece rest directory named short here plain leads ih =>
    have onward := ih each
    have plain' : changed.isLink (place ++ [piece]) = false := by
      rcases each (place ++ [piece]) with (equal | ⟨_, plain', _⟩) | ⟨_, ⟨link, _⟩, _⟩
      · rwa [isLink, equal]
      · exact plain'
      · simp [plain] at link
    cases rest with
    | nil =>
      cases onward
      exact .plainEnd (by rwa [same]) named short plain'
    | cons next more =>
      have inner := onward.directory
      have there : (changed.entry? (place ++ [piece])).isSome = true := by
        cases found : changed.entry? (place ++ [piece]) with
        | none => simp [isDirectory, found] at inner
        | some => rfl
      exact .enter (by rwa [same]) named short there plain' onward

end WorkflowDocs.FileTree
